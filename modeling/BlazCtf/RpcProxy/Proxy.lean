import BlazCtf.Lib.Json

set_option autoImplicit false

namespace RpcProxy

def allowedMethods : List String := ["anvil_dumpState"]

def allowedNamespaces : List String := ["web3", "eth", "net", "blaz"]

def disallowedMethods : List String :=
  ["eth_sign", "eth_signTransaction", "eth_signTypedData", "eth_signTypedData_v3",
    "eth_signTypedData_v4", "eth_sendTransaction", "eth_sendUnsignedTransaction"]

/-- `method.split("_")[0]`. -/
def namespaceOf (method : String) : String :=
  String.ofList (method.toList.takeWhile (· ≠ '_'))

def methodAllowed (method : String) : Bool :=
  (allowedMethods.contains method || allowedNamespaces.contains (namespaceOf method)) &&
    !disallowedMethods.contains method

def jsonrpcFail (id : Json) (code message : String) : Json :=
  .object [("jsonrpc", .string "2.0"), ("id", id),
    ("error", .object [("code", .number code), ("message", .string message)])]

/-- The checks on the method of a request whose `id` is present. -/
def validateMethod (id : Json) : Option Json → Option Json
  | some (.string method) =>
      if methodAllowed method then none
      else some (jsonrpcFail id "-32600" "forbidden jsonrpc method")
  | _ => some (jsonrpcFail id "-32600" "invalid jsonrpc method")

/-- `validate_request`: the error of a rejected request. An `id` that is missing
and one that is `null` both read as `None`. -/
def validateRequest (request : Json) : Option Json :=
  match request with
  | .object _ =>
      match request.get? "id" with
      | none => some (jsonrpcFail .null "-32600" "invalid jsonrpc id")
      | some .null => some (jsonrpcFail .null "-32600" "invalid jsonrpc id")
      | some id => validateMethod id (request.get? "method")
  | _ => some (jsonrpcFail .null "-32600" "expected json object")

/-- What the proxy calls: the instance database, and a POST to a node that gives
the JSON of the response or raises with a text. -/
structure Outside (Host : Type) where
  instanceByExternalId : String → Option (String → Option Host)
  post : Host → Json → Except String Json

section Service

variable {Host : Type} (outside : Outside Host) (externalId anvilId : String)

def proxyRequest (requestId body : Json) : Json :=
  match outside.instanceByExternalId externalId with
  | none => jsonrpcFail requestId "-32602" "invalid rpc url, instance not found"
  | some anvilInstances =>
      match anvilInstances anvilId with
      | none => jsonrpcFail requestId "-32602" "invalid rpc url, chain not found"
      | some host =>
          match outside.post host body with
          | .ok response => response
          | .error text => jsonrpcFail requestId "-32602" text

/-- The request sent in place of a rejected element. -/
def neutered (index : Nat) : Json :=
  .object [("jsonrpc", .string "2.0"), ("id", .number (toString index)),
    ("method", .string "web3_clientVersion")]

/-- The body of a batch after its rejected elements have been replaced. -/
def neuterBatch (body : List Json) : List Json :=
  body.mapIdx fun index request =>
    match validateRequest request with
    | some _ => neutered index
    | none => request

/-- `isinstance(upstream_responses, List)` with the `List` that the module
imports, the syntax tree node `ast.List`: no parsed response is one of those. -/
def asAstList (_response : Json) : Option (List Json) := none

/-- One reply of a batch, from the validation and the upstream response. -/
def mergeReply (upstream : Json) (index : Nat) : Option Json → Json
  | some error => error
  | none =>
      match asAstList upstream with
      | some responses => responses.getD index .null
      | none => upstream

/-- The branch of `rpc` for a list body. -/
def rpcBatch (body : List Json) : List Json :=
  let upstream := proxyRequest outside externalId anvilId .null (.array (neuterBatch body))
  (body.map validateRequest).mapIdx (mergeReply upstream)

/-- The branch of `rpc` for any other body; the `id` of an accepted one is there. -/
def rpcSingle (body : Json) : Json :=
  match validateRequest body with
  | some error => error
  | none => proxyRequest outside externalId anvilId ((body.get? "id").getD .null) body

/-- `rpc`, where a body that does not parse is `none`. -/
def rpc : Option Json → Json
  | none => jsonrpcFail .null "-32600" "expected json body"
  | some (.array body) => .array (rpcBatch outside externalId anvilId body)
  | some body => rpcSingle outside externalId anvilId body

end Service

end RpcProxy
