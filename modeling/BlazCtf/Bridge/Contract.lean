import BlazCtf.Erc20.Version4
import BlazCtf.Lib.Traced

set_option autoImplicit false

namespace Bridge

open Evm
open Function (update)
open OpenZeppelin (ERC20)
open OpenZeppelin.ERC20.V4 (Request perform doMint doBurn)

/-- Call data, up to the encoding: the functions of the bridge and of its
tokens with their arguments, or bytes that none of them accepts. -/
inductive Calldata where
  | receive
  | registerRemoteBridge (remoteChainId : Nat) (remoteBridge : Address)
  | ethOut (recipient : Address)
  | ethIn (recipient : Address)
  | erc20Out (token recipient : Address) (amount : Nat)
  | erc20Register (remoteToken : Address) (name symbol : String)
  | erc20In (token recipient : Address) (amount : Nat)
  | sendRemoteMessage (targetChainId : Nat) (targetAddress : Address) (message : Calldata)
  | relayMessage (targetAddress : Address) (sourceChainId : Nat) (sourceAddress : Address)
      (value nonce : Nat) (message : Calldata)
  | token (request : Request)
  | mint (recipient : Address) (amount : Nat)
  | burn (sender : Address) (amount : Nat)
  | unknown (bytes : Nat)
  deriving DecidableEq

/-- A `SendRemoteMessage` log. -/
structure Sent where
  targetChainId : Nat
  targetAddress : Address
  sourceAddress : Address
  msgValue : Nat
  msgNonce : Nat
  msgData : Calldata
  deriving DecidableEq

/-- The arguments of `relayMessage`, which its hash covers. -/
structure Packet where
  targetAddress : Address
  sourceChainId : Nat
  sourceAddress : Address
  value : Nat
  nonce : Nat
  message : Calldata
  deriving DecidableEq

/-- The code at an address other than the bridge: none, an ordinary `ERC20`, a
`BridgedERC20` created by this bridge, or code that can do anything. -/
inductive Contract where
  | vacant
  | foreign
  | standard (name symbol : String) (ledger : ERC20)
  | bridged (name symbol : String) (ledger : ERC20) (remoteToken : Address)

namespace Contract

def ledger : Contract → Option ERC20
  | .standard _ _ ledger | .bridged _ _ ledger _ => some ledger
  | .vacant | .foreign => none

def withLedger : Contract → ERC20 → Contract
  | .standard name symbol _, ledger => .standard name symbol ledger
  | .bridged name symbol _ remoteToken, ledger => .bridged name symbol ledger remoteToken
  | contract, _ => contract

end Contract

/-- The bridge's storage and ETH, the contracts around it and its message log
(newest first). The fields from `executed` on are not storage: they record the
executed packets, the ETH taken by `ethOut`, paid by `ethIn` and forced into the
bridge, and, for each token address in a message, the amounts that `ERC20Out`
locked or burned and that `ERC20In` minted or released for it. -/
structure State (H : Type) where
  remoteBridge : Nat → Address
  remoteBridgeChainId : Address → Nat
  isTokenRegisteredAtRemote : Nat → Address → Bool
  msgNonce : Nat
  relayedMessages : H → Bool
  relayedMessageSenderChainId : Nat
  relayedMessageSenderAddress : Address
  remoteTokenToLocalToken : Address → Address
  isBridgedERC20 : Address → Bool
  eth : Nat
  contracts : Address → Contract
  accountNonce : Nat
  sent : List Sent
  executed : List Packet
  taken : Nat
  paid : Nat
  forced : Nat
  locked : Address → Nat
  burned : Address → Nat
  minted : Address → Nat
  released : Address → Nat

/-- Add to one entry of a record of amounts. -/
def tally (amounts : Address → Nat) (token : Address) (amount : Nat) : Address → Nat :=
  update amounts token (amounts token + amount)

def State.setContract {H : Type} (s : State H) (address : Address) (contract : Contract) :
    State H :=
  { s with contracts := update s.contracts address contract }

/-- The constants of one bridge: its address, `block.chainid`, the relayer's
externally owned account, `keccak256` on encoded packets, and the addresses that
`CREATE` gives to the contracts the bridge deploys. -/
structure Network (H : Type) where
  this : Address
  chainId : Nat
  relayer : Address
  keccak : Packet → H
  newToken : Nat → Address
  relayer_external : relayer ≠ this
  newToken_ne_zero : ∀ nonce, newToken nonce ≠ 0

/-- A `relayMessage` call that is still on the call stack. -/
structure Relay where
  msgSender : Address
  targetAddress : Address
  sourceChainId : Nat
  sourceAddress : Address
  deriving DecidableEq

/-- The bodies behind the `onlyRemoteBridge` modifiers. -/
inductive Body where
  | ethIn
  | erc20Register
  | erc20In
  | mint (token : Address)
  deriving DecidableEq

/-- A guarded body that starts to run: in which state, and inside which relays. -/
structure Visit (H : Type) where
  body : Body
  within : List Relay
  state : State H

/-- An account that calls from outside: neither the bridge nor the relayer. -/
structure Sender {H : Type} (net : Network H) where
  msgSender : Address
  origin : Address
  external : msgSender ≠ net.this
  notRelayer : msgSender ≠ net.relayer
  originExternal : origin ≠ net.this

/-- What foreign code answers when the bridge calls it: a boolean or a revert,
and its metadata. -/
structure Answer where
  returns : Option Bool
  name : Option String
  symbol : Option String
  deriving DecidableEq

/-- The answer of code that returns nothing. -/
def Answer.silent : Answer := ⟨none, none, none⟩

/-- A call from outside to the bridge, with the calls that foreign code makes
when the bridge hands control to it and its answer; a call to a token; or ETH
forced into the bridge. -/
inductive Call {H : Type} (net : Network H) where
  | message (sender : Sender net) (value : Nat) (data : Calldata) (code : List (Call net))
      (answer : Answer)
  | token (sender : Sender net) (token : Address) (request : Calldata)
  | forceEth (value : Nat)

section Contract

variable {H : Type} (net : Network H)

/-- A call of the bridge to another address (or itself), and the boolean it returns. -/
abbrev CallOut (H : Type) :=
  List Relay → State H → (target : Address) → (value : Nat) → Calldata →
    Traced (Visit H) (State H × Bool)

/-- Solidity's check before a typed call: the callee has code. -/
def requireCode (s : State H) (target : Address) : Outcome Unit :=
  if target = net.this then .ok () else
  match s.contracts target with
  | .vacant => .error .bare
  | _ => .ok ()

def remoteBridgeSpeaks (s : State H) : Prop :=
  s.relayedMessageSenderChainId ≠ 0 ∧
    s.remoteBridgeChainId s.relayedMessageSenderAddress = s.relayedMessageSenderChainId

instance (s : State H) : Decidable (remoteBridgeSpeaks s) :=
  inferInstanceAs (Decidable (_ ∧ _))

/-- A message to a token, where the bridge is the `BRIDGE` of its own tokens. -/
def tokenCall (within : List Relay) (s : State H) (token msgSender : Address) (data : Calldata) :
    Traced (Visit H) (State H) :=
  match data, s.contracts token with
  | .token request, contract => do
      let ledger ← callee contract.ledger
      let ledger ← perform ledger msgSender request
      pure (s.setContract token (contract.withLedger ledger))
  | .mint recipient amount, .bridged name symbol ledger remoteToken => do
      require (msgSender = net.this) "RB1"
      require (remoteBridgeSpeaks s) "RB2"
      Traced.visit ⟨.mint token, within, s⟩
      let ledger ← doMint ledger recipient amount
      pure (s.setContract token (.bridged name symbol ledger remoteToken))
  | .burn sender amount, .bridged name symbol ledger remoteToken => do
      require (msgSender = net.this) "B"
      let ledger ← doBurn ledger sender amount
      pure (s.setContract token (.bridged name symbol ledger remoteToken))
  | _, _ => .fail .bare

/-- `REMOTE_TOKEN()`. -/
def remoteTokenOf (s : State H) (token : Address) : Outcome Address :=
  match s.contracts token with
  | .bridged _ _ _ remoteToken => .ok remoteToken
  | _ => .error .bare

/-- `name()` and `symbol()`, static calls that change nothing. -/
def metadataOf (answer : Answer) (s : State H) (token : Address) : Outcome (String × String) :=
  match s.contracts token with
  | .standard name symbol _ => .ok (name, symbol)
  | .bridged name symbol _ _ => .ok (name, symbol)
  | .foreign => do
      let name ← callee answer.name
      let symbol ← callee answer.symbol
      pure (name, symbol)
  | .vacant => .error .bare

def onlyRemoteBridge (s : State H) (msgSender : Address) : Outcome Unit :=
  require (msgSender = net.this ∧ remoteBridgeSpeaks s) "RB"

def registerRemoteBridge (s : State H) (msgSender : Address) (remoteChainId : Nat)
    (remoteBridge : Address) : Outcome (State H) := do
  require (msgSender = net.relayer) "R"
  pure { s with
    remoteBridge := update s.remoteBridge remoteChainId remoteBridge
    remoteBridgeChainId := update s.remoteBridgeChainId remoteBridge remoteChainId }

def sendRemoteMessage (s : State H) (msgSender : Address) (value targetChainId : Nat)
    (targetAddress : Address) (message : Calldata) : Outcome (State H) := do
  require (targetChainId ≠ net.chainId) "C"
  require (targetAddress ≠ 0) "A"
  require (msgSender = net.this) "M"
  pure { s with
    sent := ⟨targetChainId, targetAddress, msgSender, value, s.msgNonce, message⟩ :: s.sent
    msgNonce := (s.msgNonce + 1) % 2 ^ 256 }

variable (answer : Answer) (callOut : CallOut H) (within : List Relay)

/-- `this.sendRemoteMessage` to the remote bridge. -/
def callSendRemoteMessage (s : State H) (value : Nat) (remoteBridge : Address)
    (message : Calldata) : Traced (Visit H) (State H) := do
  let (s, _) ← callOut within s net.this value
    (.sendRemoteMessage (net.chainId ^^^ 1) remoteBridge message)
  pure s

def ethOut (s : State H) (value : Nat) (recipient : Address) : Traced (Visit H) (State H) := do
  let s := { s with taken := s.taken + value }
  callSendRemoteMessage net callOut within s value (s.remoteBridge (net.chainId ^^^ 1))
    (.ethIn recipient)

def ethIn (s : State H) (msgSender : Address) (value : Nat) (recipient : Address) :
    Traced (Visit H) (State H) := do
  onlyRemoteBridge net s msgSender
  Traced.visit ⟨.ethIn, within, s⟩
  let s := { s with paid := s.paid + value }
  -- Address.sendValue
  require (s.eth ≥ value) "Address: insufficient balance"
  let (s, _) ← Traced.failAs
    (.reason "Address: unable to send value, recipient may have reverted")
    (callOut within s recipient value .receive)
  pure s

/-- The part of `ERC20Out` that registers a token at the remote bridge. -/
def registerToken (s : State H) (remoteBridge token : Address) : Traced (Visit H) (State H) :=
  if s.isTokenRegisteredAtRemote (net.chainId ^^^ 1) token then pure s
  else do
    let (name, symbol) ← metadataOf answer s token
    let s ← callSendRemoteMessage net callOut within s 0 remoteBridge
      (.erc20Register token name symbol)
    pure { s with
      isTokenRegisteredAtRemote := update s.isTokenRegisteredAtRemote (net.chainId ^^^ 1)
        (update (s.isTokenRegisteredAtRemote (net.chainId ^^^ 1)) token true) }

def erc20Out (s : State H) (msgSender token recipient : Address) (amount : Nat) :
    Traced (Visit H) (State H) := do
  let remoteBridge := s.remoteBridge (net.chainId ^^^ 1)
  if s.isBridgedERC20 token then do
    requireCode net s token
    let (s, _) ← callOut within s token 0 (.burn msgSender amount)
    let remoteToken ← remoteTokenOf s token
    let s := { s with burned := tally s.burned remoteToken amount }
    callSendRemoteMessage net callOut within s 0 remoteBridge
      (.erc20In remoteToken recipient amount)
  else do
    requireCode net s token
    let (s, moved) ← callOut within s token 0 (.token (.transferFrom msgSender net.this amount))
    require (moved = true) "T"
    let s := { s with locked := tally s.locked token amount }
    let s ← registerToken net answer callOut within s remoteBridge token
    callSendRemoteMessage net callOut within s 0 remoteBridge (.erc20In token recipient amount)

/-- `new BridgedERC20(...)`, which fails on an address in use. -/
def newBridgedERC20 (s : State H) (remoteToken : Address) (name symbol : String) :
    Outcome (State H × Address) :=
  let token := net.newToken s.accountNonce
  if token = net.this then .error .bare else
  match s.contracts token with
  | .vacant => .ok ({ s with
      accountNonce := s.accountNonce + 1
      contracts := update s.contracts token
        (.bridged name symbol ⟨fun _ => 0, fun _ _ => 0, 0⟩ remoteToken) }, token)
  | _ => .error .bare

def erc20Register (s : State H) (msgSender remoteToken : Address) (name symbol : String) :
    Traced (Visit H) (State H) := do
  onlyRemoteBridge net s msgSender
  Traced.visit ⟨.erc20Register, within, s⟩
  if s.remoteTokenToLocalToken remoteToken = 0 then do
    let (s, token) ← newBridgedERC20 net s remoteToken name symbol
    pure { s with
      remoteTokenToLocalToken := update s.remoteTokenToLocalToken remoteToken token
      isBridgedERC20 := update s.isBridgedERC20 token true }
  else pure s

def erc20In (s : State H) (msgSender token recipient : Address) (amount : Nat) :
    Traced (Visit H) (State H) := do
  onlyRemoteBridge net s msgSender
  Traced.visit ⟨.erc20In, within, s⟩
  if s.remoteTokenToLocalToken token ≠ 0 then do
    requireCode net s (s.remoteTokenToLocalToken token)
    let s := { s with minted := tally s.minted token amount }
    let (s, _) ← callOut within s (s.remoteTokenToLocalToken token) 0 (.mint recipient amount)
    pure s
  else do
    requireCode net s token
    let s := { s with released := tally s.released token amount }
    let (s, moved) ← callOut within s token 0 (.token (.transfer recipient amount))
    require (moved = true) "T"
    pure s

variable [DecidableEq H]

def relayMessage (s : State H) (msgSender : Address) (packet : Packet) :
    Traced (Visit H) (State H) := do
  require (msgSender = net.relayer) "R"
  require (packet.sourceChainId ≠ net.chainId) "C"
  let h := net.keccak packet
  require (s.relayedMessages h = false) "H"
  let s := { s with
    relayedMessages := update s.relayedMessages h true
    executed := packet :: s.executed
    relayedMessageSenderChainId := packet.sourceChainId
    relayedMessageSenderAddress := packet.sourceAddress }
  let relay : Relay :=
    ⟨msgSender, packet.targetAddress, packet.sourceChainId, packet.sourceAddress⟩
  let (s, _) ← Traced.failAs .bare
    (callOut (relay :: within) s packet.targetAddress packet.value packet.message)
  pure { s with relayedMessageSenderChainId := 0, relayedMessageSenderAddress := 0 }

/-- The compiler's check on functions that are not payable. -/
def nonPayable (value : Nat) : Outcome Unit :=
  if value = 0 then .ok () else .error .bare

def dispatch (s : State H) (origin msgSender : Address) (value : Nat) :
    Calldata → Traced (Visit H) (State H)
  | .receive => do
      require (msgSender = origin) "Only EOA"
      ethOut net callOut within s value msgSender
  | .registerRemoteBridge remoteChainId remoteBridge => do
      nonPayable value
      registerRemoteBridge net s msgSender remoteChainId remoteBridge
  | .ethOut recipient => ethOut net callOut within s value recipient
  | .ethIn recipient => ethIn net callOut within s msgSender value recipient
  | .erc20Out token recipient amount => do
      nonPayable value
      erc20Out net answer callOut within s msgSender token recipient amount
  | .erc20Register remoteToken name symbol => do
      nonPayable value
      erc20Register net within s msgSender remoteToken name symbol
  | .erc20In token recipient amount => erc20In net callOut within s msgSender token recipient amount
  | .sendRemoteMessage targetChainId targetAddress message =>
      sendRemoteMessage net s msgSender value targetChainId targetAddress message
  | .relayMessage targetAddress sourceChainId sourceAddress packetValue nonce message => do
      nonPayable value
      relayMessage net callOut within s msgSender
        ⟨targetAddress, sourceChainId, sourceAddress, packetValue, nonce, message⟩
  | .token _ | .mint _ _ | .burn _ _ | .unknown _ => .fail .bare

/-- How the bridge receives a message. -/
abbrev Deliver (net : Network H) :=
  List (Call net) → Answer → List Relay → State H → (origin msgSender : Address) → Nat →
    Calldata → Traced (Visit H) (State H)

end Contract

section Execution

variable {H : Type} [DecidableEq H] {net : Network H}

/-- ETH arrives with the message unless the bridge sends it to itself. -/
def receiveEth (net : Network H) (s : State H) (msgSender : Address) (value : Nat) : State H :=
  if msgSender = net.this then s else { s with eth := s.eth + value }

def callWith (deliver : Deliver net) (within : List Relay) (s : State H) :
    Call net → Traced (Visit H) (State H)
  | .message sender value data code answer =>
      deliver code answer within s sender.origin sender.msgSender value data
  | .token sender token data => tokenCall net within s token sender.msgSender data
  | .forceEth value => pure { s with eth := s.eth + value, forced := s.forced + value }

/-- The bridge's calls to itself go through its dispatcher, tokens run their own
code, and foreign code makes the calls `code` and then answers. One message hands
control to foreign code at most once. -/
def callOutWith (deliver : Deliver net) (code : List (Call net)) (answer : Answer)
    (origin : Address) : CallOut H := fun within s target value data =>
  if s.eth < value then .fail .bare
  else if target = net.this then do
    let s ← deliver code answer within s origin net.this value data
    pure (s, true)
  else
    match s.contracts target with
    | .vacant => pure ({ s with eth := s.eth - value }, true)
    | .foreign => do
        let s ← Traced.runAll (callWith deliver within) { s with eth := s.eth - value } code
        let result ← callee answer.returns
        pure (s, result)
    | .standard _ _ _ | .bridged _ _ _ _ => do
        nonPayable value
        let s ← tokenCall net within s target net.this data
        pure (s, true)

/-- A message to the bridge when `depth` more calls can be nested. -/
def deliver : Nat → Deliver net
  | 0 => fun _ answer within s origin msgSender value data =>
      dispatch net answer (fun _ _ _ _ _ => .fail .bare) within
        (receiveEth net s msgSender value) origin msgSender value data
  | depth + 1 => fun code answer within s origin msgSender value data =>
      dispatch net answer (callOutWith (deliver depth) code answer origin) within
        (receiveEth net s msgSender value) origin msgSender value data

/-- The nesting limit of the EVM. -/
def callDepth : Nat := 1024

def call (depth : Nat) (within : List Relay) (s : State H) (made : Call net) :
    Traced (Visit H) (State H) :=
  callWith (deliver depth) within s made

/-- A transaction: a call from outside, or anything the relayer sends to the
bridge or to a token. -/
inductive Tx (net : Network H) where
  | user (made : Call net)
  | relayer (value : Nat) (data : Calldata) (code : List (Call net)) (answer : Answer)
  | relayerToken (token : Address) (data : Calldata)

def transact (s : State H) : Tx net → Traced (Visit H) (State H)
  | .user made => call callDepth [] s made
  | .relayer value data code answer =>
      deliver callDepth code answer [] s net.relayer net.relayer value data
  | .relayerToken token data => tokenCall net [] s token net.relayer data

end Execution

/-- Storage after the constructor. -/
def deploy {H : Type} (eth : Nat) (contracts : Address → Contract) : State H where
  remoteBridge := fun _ => 0
  remoteBridgeChainId := fun _ => 0
  isTokenRegisteredAtRemote := fun _ _ => false
  msgNonce := 0
  relayedMessages := fun _ => false
  relayedMessageSenderChainId := 0
  relayedMessageSenderAddress := 0
  remoteTokenToLocalToken := fun _ => 0
  isBridgedERC20 := fun _ => false
  eth := eth
  contracts := contracts
  accountNonce := 1
  sent := []
  executed := []
  taken := 0
  paid := 0
  forced := 0
  locked := fun _ => 0
  burned := fun _ => 0
  minted := fun _ => 0
  released := fun _ => 0

end Bridge
