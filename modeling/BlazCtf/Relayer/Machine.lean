import BlazCtf.Bridge.Contract

set_option autoImplicit false

namespace Relayer

open Bridge (Sent)
open Evm (Address)

/-- The events of the bridge's interface. -/
inductive Event where
  | erc20Register
  | erc20Transfer
  | ethTransfer
  | relayedMessage
  | sendRemoteMessage
  deriving DecidableEq

/-- `src_contract.events`, in the order of `abi.json`. -/
def events : List Event :=
  [.erc20Register, .erc20Transfer, .ethTransfer, .relayedMessage, .sendRemoteMessage]

/-- A log of the source bridge; only the arguments of `SendRemoteMessage` are read. -/
inductive Log where
  | sendRemoteMessage (args : Sent)
  | erc20Register
  | erc20Transfer
  | ethTransfer
  | relayedMessage
  deriving DecidableEq

def Log.event : Log → Event
  | .sendRemoteMessage _ => .sendRemoteMessage
  | .erc20Register => .erc20Register
  | .erc20Transfer => .erc20Transfer
  | .ethTransfer => .ethTransfer
  | .relayedMessage => .relayedMessage

/-- A block of the source chain: the `to` field of each transaction, and the logs
of the bridge. -/
structure Block where
  transactions : List (Option Address)
  logs : List Log
  deriving DecidableEq

/-- Where `run` waits for an answer. Inside a block it has the block's number and
the last number of its range; `getLogs` starts with the event to ask for, and
`transact` and `receipt` have the events and the logs that come after. -/
inductive Await where
  | getLatest
  | getBlock (number latest : Nat)
  | getTransaction (number latest : Nat) (recipient : Option Address) (rest : List (Option Address))
  | getLogs (number latest : Nat) (event : Event) (rest : List Event)
  | transact (number latest : Nat) (rest : List Event) (args : Sent) (logs : List Log)
  | receipt (number latest : Nat) (rest : List Event) (logs : List Log)
  deriving DecidableEq

/-- The relayer, with the messages it has submitted to `relayMessage` (newest first). -/
structure State where
  lastProcessed : Nat
  await : Await
  submitted : List Sent
  deriving DecidableEq

/-- The addresses and ids that `_init` and the constructor fix. -/
structure Config where
  srcContract : Address
  dstChainId : Nat

/-- What `event.get_logs({"fromBlock": i, "toBlock": i})` answers for block `i` of a
chain: the code of web3 is not part of this repository. -/
abbrev GetLogs := List Block → (number : Nat) → Event → List Log

section Run

variable (config : Config) (getLogs : GetLogs)

/-- The head of the `for` loop over block numbers. -/
def nextBlock (r : State) (number latest : Nat) : State :=
  if number ≤ latest then { r with lastProcessed := number, await := .getBlock number latest }
  else { r with await := .getLatest }

/-- The head of the loop over `src_contract.events`. -/
def nextEvent (r : State) (number latest : Nat) : List Event → State
  | [] => nextBlock r (number + 1) latest
  | event :: rest => { r with await := .getLogs number latest event rest }

/-- The loop over the logs of one event, up to the next submission. -/
def nextLog (r : State) (number latest : Nat) (rest : List Event) : List Log → State
  | .sendRemoteMessage args :: logs =>
      if config.dstChainId = args.targetChainId then
        { r with await := .transact number latest rest args logs }
      else nextLog r number latest rest logs
  | _ :: logs => nextLog r number latest rest logs
  | [] => nextEvent r number latest rest

/-- The loop over the transactions of a block, before the next one is fetched. -/
def nextTransaction (r : State) (number latest : Nat) : List (Option Address) → State
  | [] => nextBlock r (number + 1) latest
  | recipient :: rest => { r with await := .getTransaction number latest recipient rest }

/-- `run` after the awaited call returns; the source chain is read when it does. -/
def answered (chain : List Block) (r : State) : State :=
  match r.await with
  | .getLatest =>
      let latest := chain.length - 1
      let r := if r.lastProcessed > latest then { r with lastProcessed := latest } else r
      nextBlock r (r.lastProcessed + 1) latest
  | .getBlock number latest =>
      match chain[number]? with
      | none => { r with await := .getLatest }
      | some block => nextTransaction r number latest block.transactions
  | .getTransaction number latest recipient rest =>
      if recipient = some config.srcContract then nextEvent r number latest events
      else nextTransaction r number latest rest
  | .getLogs number latest event rest =>
      nextLog config r number latest rest (getLogs chain number event)
  | .transact number latest rest args logs =>
      { r with await := .receipt number latest rest logs, submitted := args :: r.submitted }
  | .receipt number latest rest logs => nextLog config r number latest rest logs

/-- `run` after the awaited call raises: `event_log_handler` goes on with the next
log, and anything else ends this pass of the `while` loop. -/
def raised (r : State) : State :=
  match r.await with
  | .transact number latest rest _ logs => nextLog config r number latest rest logs
  | .receipt number latest rest logs => nextLog config r number latest rest logs
  | _ => { r with await := .getLatest }

/-- After `_init`. -/
def init (chain : List Block) : State where
  lastProcessed := chain.length - 1
  await := .getLatest
  submitted := []

end Run

end Relayer
