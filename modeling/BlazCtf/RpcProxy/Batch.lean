import BlazCtf.RpcProxy.Proxy

set_option autoImplicit false

namespace RpcProxy

variable {Host : Type} {outside : Outside Host} {externalId anvilId : String}

/-- The instance exists, and its node answers every request by itself with
`reply`, and a batch with the array of these replies in order. -/
structure Answers (outside : Outside Host) (externalId anvilId : String)
    (reply : Json → Json) : Prop where
  found : ∃ anvilInstances host, outside.instanceByExternalId externalId = some anvilInstances ∧
    anvilInstances anvilId = some host ∧
    (∀ request, validateRequest request = none → outside.post host request = .ok (reply request)) ∧
    ∀ requests, outside.post host (.array requests) = .ok (.array (requests.map reply))

theorem neutered_accepted (index : Nat) : validateRequest (neutered index) = none := by
  have allowed : methodAllowed "web3_clientVersion" = true := by decide
  simp [validateRequest, neutered, Json.get?, validateMethod, allowed, List.lookup_cons]

/-- Only accepted requests are sent upstream. -/
theorem neuterBatch_accepted (body : List Json) :
    ∀ request ∈ neuterBatch body, validateRequest request = none := by
  intro request member
  obtain ⟨index, inside, rfl⟩ := List.mem_mapIdx.mp member
  split
  · exact neutered_accepted index
  · assumption

/-- An accepted element is sent as it is. -/
theorem mem_neuterBatch {body : List Json} {request : Json} (member : request ∈ body)
    (accepted : validateRequest request = none) : request ∈ neuterBatch body := by
  obtain ⟨index, inside, rfl⟩ := List.getElem_of_mem member
  refine List.mem_mapIdx.mpr ⟨index, inside, ?_⟩
  rw [accepted]

theorem proxyRequest_single {reply : Json → Json}
    (answers : Answers outside externalId anvilId reply) {request : Json}
    (accepted : validateRequest request = none) (id : Json) :
    proxyRequest outside externalId anvilId id request = reply request := by
  obtain ⟨anvilInstances, host, listed, running, single, _⟩ := answers.found
  simp only [proxyRequest, listed, running, single request accepted]

theorem proxyRequest_batch {reply : Json → Json}
    (answers : Answers outside externalId anvilId reply) (requests : List Json) (id : Json) :
    proxyRequest outside externalId anvilId id (.array requests) =
      .array (requests.map reply) := by
  obtain ⟨anvilInstances, host, listed, running, _, batch⟩ := answers.found
  simp only [proxyRequest, listed, running, batch requests]

theorem rpcSingle_accepted {reply : Json → Json}
    (answers : Answers outside externalId anvilId reply) {request : Json}
    (accepted : validateRequest request = none) :
    rpcSingle outside externalId anvilId request = reply request := by
  rw [rpcSingle, accepted]
  exact proxyRequest_single answers accepted _

/-- The replies of a batch, one by one: an accepted element gets the whole array
of upstream replies. -/
theorem rpcBatch_getElem? {reply : Json → Json} (answers : Answers outside externalId anvilId reply)
    (body : List Json) (index : Nat) :
    (rpcBatch outside externalId anvilId body)[index]? = body[index]?.map fun request =>
      (validateRequest request).getD (.array ((neuterBatch body).map reply)) := by
  rw [rpcBatch, proxyRequest_batch answers, List.getElem?_mapIdx, List.getElem?_map, Option.map_map]
  congr 1
  funext request
  cases verdict : validateRequest request <;> simp [mergeReply, asAstList, verdict]

/-- The replies of a batch are those of its elements sent alone, and none of the
rejected ones is sent, just when all of them are rejected: an accepted element is
answered with the array of all upstream replies. -/
theorem batch_agrees_iff_all_rejected {Host : Type} (outside : Outside Host)
    (externalId anvilId : String) (reply : Json → Json)
    (answers : Answers outside externalId anvilId reply) (body : List Json) :
    ((∀ index : Nat, (rpcBatch outside externalId anvilId body)[index]? =
        body[index]?.map (rpcSingle outside externalId anvilId)) ∧
      ∀ request ∈ neuterBatch body, validateRequest request = none) ↔
    ∀ request ∈ body, validateRequest request ≠ none := by
  constructor
  · rintro ⟨agrees, _⟩ request member accepted
    obtain ⟨index, inside, rfl⟩ := List.getElem_of_mem member
    have same := agrees index
    rw [rpcBatch_getElem? answers, List.getElem?_eq_getElem inside, Option.map_some,
      Option.map_some, accepted, rpcSingle_accepted answers accepted] at same
    have sent : reply body[index] ∈ (neuterBatch body).map reply :=
      List.mem_map_of_mem (mem_neuterBatch member accepted)
    exact Json.ne_array_of_mem sent (Option.some.inj same).symm
  · intro rejected
    refine ⟨?_, neuterBatch_accepted body⟩
    intro index
    rw [rpcBatch_getElem? answers]
    cases present : body[index]? with
    | none => rfl
    | some request =>
        have error := rejected request (List.mem_of_getElem? present)
        rw [Option.map_some, Option.map_some, rpcSingle]
        cases verdict : validateRequest request with
        | none => exact absurd verdict error
        | some value => rfl

/-- A node that answers each request with its `id` and a block number. -/
def sampleReply (request : Json) : Json :=
  .object [("jsonrpc", .string "2.0"), ("id", (request.get? "id").getD .null),
    ("result", .string "0x10")]

def sampleOutside : Outside Unit where
  instanceByExternalId _ := some fun _ => some ()
  post _ body :=
    match body with
    | .array requests => .ok (.array (requests.map sampleReply))
    | request => .ok (sampleReply request)

theorem sampleOutside_answers : Answers sampleOutside "external" "main" sampleReply := by
  refine ⟨_, (), rfl, rfl, ?_, fun _ => rfl⟩
  intro request accepted
  cases request with
  | object entries => rfl
  | null => cases accepted
  | bool value => cases accepted
  | number literal => cases accepted
  | string text => cases accepted
  | array items => cases accepted

def sampleRequest (method : String) : Json :=
  .object [("id", .number "1"), ("method", .string method)]

/-- A forbidden method, no object, and a namespace that is not served. -/
def rejectedBatch : List Json :=
  [sampleRequest "eth_sign", .null, sampleRequest "anvil_setBalance"]

theorem sampleRequest_rejected {method : String} (forbidden : methodAllowed method = false) :
    validateRequest (sampleRequest method) ≠ none := by
  simp [validateRequest, sampleRequest, Json.get?, validateMethod, List.lookup_cons, forbidden]

theorem batch_of_rejected_agrees :
    rejectedBatch.length = 3 ∧
    ∀ index : Nat, (rpcBatch sampleOutside "external" "main" rejectedBatch)[index]? =
      rejectedBatch[index]?.map (rpcSingle sampleOutside "external" "main") := by
  have rejected : ∀ request ∈ rejectedBatch, validateRequest request ≠ none := by
    intro request member
    simp only [rejectedBatch, List.mem_cons, List.not_mem_nil, or_false] at member
    rcases member with rfl | rfl | rfl
    · exact sampleRequest_rejected (by decide)
    · exact nofun
    · exact sampleRequest_rejected (by decide)
  exact ⟨rfl, ((batch_agrees_iff_all_rejected sampleOutside "external" "main" sampleReply
    sampleOutside_answers rejectedBatch).mpr rejected).1⟩

theorem batch_of_accepted_disagrees :
    Answers sampleOutside "external" "main" sampleReply ∧
    ¬ ∀ index : Nat, (rpcBatch sampleOutside "external" "main"
        [sampleRequest "eth_blockNumber"])[index]? =
      [sampleRequest "eth_blockNumber"][index]?.map
        (rpcSingle sampleOutside "external" "main") := by
  refine ⟨sampleOutside_answers, ?_⟩
  intro agrees
  have allowed : methodAllowed "eth_blockNumber" = true := by decide
  have accepted : validateRequest (sampleRequest "eth_blockNumber") = none := by
    simp [validateRequest, sampleRequest, Json.get?, validateMethod, List.lookup_cons, allowed]
  have same := agrees 0
  rw [rpcBatch_getElem? sampleOutside_answers, List.getElem?_cons_zero, Option.map_some,
    Option.map_some, accepted, rpcSingle_accepted sampleOutside_answers accepted] at same
  cases same

end RpcProxy
