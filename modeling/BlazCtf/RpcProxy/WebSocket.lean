import BlazCtf.RpcProxy.Proxy
import Mathlib.Data.List.Induction

set_option autoImplicit false

namespace RpcProxy

/-- How `json.loads` fails: with the exception the relay catches, or with another one
(nesting too deep, an integer literal too long). -/
inductive LoadError where
  | jsonDecodeError
  | other
  deriving DecidableEq

/-- A text message that arrives at one of the two ends. -/
inductive Message where
  | fromClient (text : String)
  | fromRemote (text : String)

/-- What the client is sent. -/
inductive ClientFrame where
  | json (value : Json)
  | text (text : String)

/-- The two `forward_message` tasks of a connection: the local `json_msg` of the one
that reads from the client, which is unbound at first, and what both have sent. Once a
task has ended the other one is cancelled. -/
structure Relay where
  jsonMsg : Option Json
  serving : Bool
  toClient : List ClientFrame
  toRemote : List String

def Relay.start : Relay := ⟨none, true, [], []⟩

def Relay.sendJson (relay : Relay) (value : Json) : Relay :=
  { relay with toClient := relay.toClient ++ [.json value] }

section Forward

variable (loads : String → Except LoadError Json)

/-- The rest of the loop body, on whatever `json_msg` holds. -/
def validateAndSend (relay : Relay) (message : String) : Relay :=
  match relay.jsonMsg with
  -- UnboundLocalError
  | none => { relay with serving := false }
  | some jsonMsg =>
      match validateRequest jsonMsg with
      | some validation => relay.sendJson validation
      | none => { relay with toRemote := relay.toRemote ++ [message] }

/-- The loop body of `forward_message` for a message of the client. The handler of
`JSONDecodeError` answers the client and falls through. -/
def forwardToRemote (relay : Relay) (message : String) : Relay :=
  match loads message with
  | .ok jsonMsg => validateAndSend { relay with jsonMsg := some jsonMsg } message
  | .error .jsonDecodeError =>
      validateAndSend (relay.sendJson (jsonrpcFail .null "-32600" "expected json body")) message
  | .error .other => { relay with serving := false }

def forwardMessage (relay : Relay) (message : Message) : Relay :=
  if relay.serving then
    match message with
    | .fromClient text => forwardToRemote loads relay text
    | .fromRemote text => { relay with toClient := relay.toClient ++ [.text text] }
  else relay

/-- A connection after these messages, in the order of their arrival. -/
def relayed (messages : List Message) : Relay := messages.foldl (forwardMessage loads) Relay.start

/-- `ws_rpc`: a connection is relayed only to a chain that the database knows. -/
def wsRpc {Host : Type} (outside : Outside Host) (externalId anvilId : String)
    (messages : List Message) : Option Relay :=
  match outside.instanceByExternalId externalId with
  | none => none
  | some anvilInstances =>
      match anvilInstances anvilId with
      | none => none
      | some _ => some (relayed loads messages)

/-- The text is a JSON object that `validate_request` accepts. -/
def Accepted (message : String) : Prop :=
  ∃ entries, loads message = .ok (.object entries) ∧ validateRequest (.object entries) = none

/-- The latest message of the client that parsed. -/
def lastParsed (messages : List Message) : Option Json :=
  messages.foldl (fun last message =>
    match message with
    | .fromClient text =>
        match loads text with
        | .ok value => some value
        | .error _ => last
    | .fromRemote _ => last) none

/-- Whatever the client sends, only accepted messages go to the node, and after each
malformed message the relay still serves the client. -/
def Gated (messages : List Message) : Prop :=
  (∀ message ∈ (relayed loads messages).toRemote, Accepted loads message) ∧
    ∀ earlier message reason, earlier ++ [.fromClient message] <+: messages →
      loads message = .error reason →
        (relayed loads (earlier ++ [.fromClient message])).serving = true

/-- Each malformed message raises the exception that is caught, and comes after a
message that parsed, the latest of which was rejected. -/
def StaleRejected (messages : List Message) : Prop :=
  ∀ earlier message reason, earlier ++ [.fromClient message] <+: messages →
    loads message = .error reason →
      reason = .jsonDecodeError ∧
        ∃ value, lastParsed loads earlier = some value ∧ validateRequest value ≠ none

end Forward

section Gate

variable {loads : String → Except LoadError Json} {messages : List Message} {relay : Relay}

theorem relayed_append (messages : List Message) (message : Message) :
    relayed loads (messages ++ [message]) =
      forwardMessage loads (relayed loads messages) message := by
  rw [relayed, List.foldl_append, List.foldl_cons, List.foldl_nil, relayed]

theorem forwardMessage_fromClient (serving : relay.serving = true) (text : String) :
    forwardMessage loads relay (.fromClient text) = forwardToRemote loads relay text := by
  simp [forwardMessage, serving]

theorem forwardMessage_fromRemote (serving : relay.serving = true) (text : String) :
    forwardMessage loads relay (.fromRemote text) =
      { relay with toClient := relay.toClient ++ [.text text] } := by
  simp [forwardMessage, serving]

theorem lastParsed_fromRemote (messages : List Message) (text : String) :
    lastParsed loads (messages ++ [.fromRemote text]) = lastParsed loads messages := by
  rw [lastParsed, List.foldl_append, List.foldl_cons, List.foldl_nil, lastParsed]

theorem lastParsed_ok (messages : List Message) {text : String} {value : Json}
    (parsed : loads text = .ok value) :
    lastParsed loads (messages ++ [.fromClient text]) = some value := by
  rw [lastParsed, List.foldl_append, List.foldl_cons, List.foldl_nil]
  simp only [parsed]

theorem lastParsed_error (messages : List Message) {text : String} {reason : LoadError}
    (failed : loads text = .error reason) :
    lastParsed loads (messages ++ [.fromClient text]) = lastParsed loads messages := by
  rw [lastParsed, List.foldl_append, List.foldl_cons, List.foldl_nil, lastParsed]
  simp only [failed]

/-- Only objects are accepted. -/
theorem object_of_accepted {value : Json} (accepted : validateRequest value = none) :
    ∃ entries, value = .object entries := by
  cases value with
  | object entries => exact ⟨entries, rfl⟩
  | null | bool | number | string | array => cases accepted

/-- What the client's task holds while it serves, and has let through. -/
structure Sound (loads : String → Except LoadError Json) (messages : List Message)
    (relay : Relay) : Prop where
  serving : relay.serving = true
  latest : relay.jsonMsg = lastParsed loads messages
  accepted : ∀ message ∈ relay.toRemote, Accepted loads message

/-- A message that parses is gated by its own value. -/
theorem Sound.parsed (sound : Sound loads messages relay) {text : String} {value : Json}
    (loaded : loads text = .ok value) :
    Sound loads (messages ++ [.fromClient text]) (forwardToRemote loads relay text) := by
  have latest := lastParsed_ok messages loaded
  unfold forwardToRemote
  rw [loaded]
  simp only [validateAndSend]
  cases verdict : validateRequest value with
  | some validation => exact ⟨sound.serving, latest.symm, sound.accepted⟩
  | none =>
      refine ⟨sound.serving, latest.symm, ?_⟩
      intro message sent
      rcases List.mem_append.mp sent with earlier | last
      · exact sound.accepted message earlier
      · obtain ⟨entries, rfl⟩ := object_of_accepted verdict
        rw [List.mem_singleton.mp last]
        exact ⟨entries, loaded, verdict⟩

/-- A malformed message is gated by the value that was left from an earlier one. -/
theorem Sound.malformed (sound : Sound loads messages relay) {text : String} {value : Json}
    (failed : loads text = .error .jsonDecodeError) (left : lastParsed loads messages = some value)
    (rejected : validateRequest value ≠ none) :
    Sound loads (messages ++ [.fromClient text]) (forwardToRemote loads relay text) := by
  have latest := lastParsed_error messages failed
  unfold forwardToRemote
  rw [failed]
  simp only [validateAndSend, Relay.sendJson, sound.latest, left]
  cases verdict : validateRequest value with
  | none => exact absurd verdict rejected
  | some validation =>
      exact ⟨sound.serving, left.symm.trans latest.symm, sound.accepted⟩

theorem sound_of_staleRejected (stale : StaleRejected loads messages) :
    Sound loads messages (relayed loads messages) := by
  induction messages using List.reverseRecOn with
  | nil => exact ⟨rfl, rfl, nofun⟩
  | append_singleton earlier message ih =>
      have sound : Sound loads earlier (relayed loads earlier) := by
        apply ih
        intro first text reason part failed
        exact stale first text reason (part.trans (List.prefix_append _ _)) failed
      rw [relayed_append]
      cases message with
      | fromRemote text =>
          rw [forwardMessage_fromRemote sound.serving]
          refine ⟨sound.serving, ?_, sound.accepted⟩
          rw [lastParsed_fromRemote]
          exact sound.latest
      | fromClient text =>
          rw [forwardMessage_fromClient sound.serving]
          cases loaded : loads text with
          | ok value => exact sound.parsed loaded
          | error reason =>
              obtain ⟨rfl, value, left, rejected⟩ :=
                stale earlier text reason (List.prefix_refl _) loaded
              exact sound.malformed loaded left rejected

theorem validateAndSend_sends (relay : Relay) (text : String) :
    relay.toRemote <+: (validateAndSend relay text).toRemote := by
  unfold validateAndSend
  split
  · exact List.prefix_refl _
  · split
    · exact List.prefix_refl _
    · exact List.prefix_append _ _

theorem forwardMessage_sends (relay : Relay) (message : Message) :
    relay.toRemote <+: (forwardMessage loads relay message).toRemote := by
  unfold forwardMessage
  split
  · cases message with
    | fromRemote text => exact List.prefix_refl _
    | fromClient text =>
        simp only [forwardToRemote]
        split
        · rename_i value loaded
          exact validateAndSend_sends { relay with jsonMsg := some value } text
        · exact validateAndSend_sends (relay.sendJson _) text
        · exact List.prefix_refl _
  · exact List.prefix_refl _

/-- What has been sent to the node stays sent. -/
theorem toRemote_mono {shorter : List Message} (part : shorter <+: messages) :
    (relayed loads shorter).toRemote <+: (relayed loads messages).toRemote := by
  obtain ⟨rest, rfl⟩ := part
  induction rest using List.reverseRecOn with
  | nil => simp only [List.append_nil, List.prefix_refl]
  | append_singleton earlier message ih =>
      rw [← List.append_assoc, relayed_append]
      exact ih.trans (forwardMessage_sends _ message)

/-- A malformed message in a relay that lets it through, or ends on it. -/
theorem stale_of_gated_step {earlier : List Message} {text : String} {reason : LoadError}
    (gated : Gated loads messages) (part : earlier ++ [.fromClient text] <+: messages)
    (failed : loads text = .error reason)
    (sound : Sound loads earlier (relayed loads earlier)) :
    reason = .jsonDecodeError ∧
      ∃ value, lastParsed loads earlier = some value ∧ validateRequest value ≠ none := by
  have serves := gated.2 earlier text reason part failed
  rw [relayed_append, forwardMessage_fromClient sound.serving] at serves
  cases reason with
  | other =>
      simp only [forwardToRemote, failed] at serves
      cases serves
  | jsonDecodeError =>
      simp only [forwardToRemote, failed, validateAndSend, Relay.sendJson, sound.latest] at serves
      cases left : lastParsed loads earlier with
      | none =>
          rw [left] at serves
          cases serves
      | some value =>
          refine ⟨rfl, value, rfl, ?_⟩
          intro accepted
          -- the text itself is then on its way to the node
          have sent : text ∈ (relayed loads (earlier ++ [.fromClient text])).toRemote := by
            rw [relayed_append, forwardMessage_fromClient sound.serving]
            simp [forwardToRemote, failed, validateAndSend, Relay.sendJson, sound.latest, left,
              accepted]
          obtain ⟨entries, loaded, _⟩ := gated.1 text ((toRemote_mono part).subset sent)
          rw [failed] at loaded
          cases loaded

theorem eq_relayed_of_wsRpc {Host : Type} {outside : Outside Host} {externalId anvilId : String}
    (served : relay ∈ wsRpc loads outside externalId anvilId messages) :
    relay = relayed loads messages := by
  unfold wsRpc at served
  split at served
  · cases served
  · split at served
    · cases served
    · exact (Option.mem_some.mp served).symm

end Gate

/-- The gate holds for a sequence of messages just when each malformed one raises the
exception that is caught and falls through to an earlier message that was rejected:
after an accepted one it is forwarded as it is, and as the first one it ends the relay.
A connection to a chain of the database is relayed in this way, any other one not at all. -/
theorem gated_iff_staleRejected {Host : Type} (loads : String → Except LoadError Json)
    (messages : List Message) (outside : Outside Host) (externalId anvilId : String) :
    (Gated loads messages ↔ StaleRejected loads messages) ∧
      ∀ relay ∈ wsRpc loads outside externalId anvilId messages,
        StaleRejected loads messages →
          relay.serving = true ∧ ∀ message ∈ relay.toRemote, Accepted loads message := by
  refine ⟨⟨?_, ?_⟩, ?_⟩
  · intro gated
    have prefixes : ∀ earlier : List Message, earlier <+: messages →
        StaleRejected loads earlier := by
      intro earlier
      induction earlier using List.reverseRecOn with
      | nil =>
          intro _ first text reason part
          exact absurd (List.prefix_nil.mp part) (by simp)
      | append_singleton earlier message ih =>
          intro part first text reason inner failed
          have shorter := ih ((List.prefix_append _ _).trans part)
          rcases List.prefix_concat_iff.mp inner with whole | earlierPart
          · obtain rfl := List.append_inj_left' whole rfl
            exact stale_of_gated_step gated (inner.trans part) failed
              (sound_of_staleRejected shorter)
          · exact shorter first text reason earlierPart failed
    exact prefixes messages (List.prefix_refl _)
  · intro stale
    have sound := sound_of_staleRejected stale
    refine ⟨sound.accepted, ?_⟩
    intro earlier text reason part failed
    have shorter : StaleRejected loads (earlier ++ [.fromClient text]) :=
      fun first other cause inner => stale first other cause (inner.trans part)
    exact (sound_of_staleRejected shorter).serving
  · intro relay served stale
    have sound := sound_of_staleRejected stale
    rw [eq_relayed_of_wsRpc served]
    exact ⟨sound.serving, sound.accepted⟩

/-- A request that the proxy accepts. -/
def sampleText : String := "\x7b\"id\": 1, \"method\": \"eth_blockNumber\"\x7d"

/-- The parser on that text; the other text of the run below is no JSON. -/
def sampleLoads (text : String) : Except LoadError Json :=
  if text = sampleText then
    .ok (.object [("id", .number "1"), ("method", .string "eth_blockNumber")])
  else .error .jsonDecodeError

/-- A text that is no JSON follows an accepted request to the node. -/
theorem malformed_text_forwarded :
    (relayed sampleLoads [.fromClient sampleText, .fromClient "eth_sign"]).toRemote =
        [sampleText, "eth_sign"] ∧
      ¬ Gated sampleLoads [.fromClient sampleText, .fromClient "eth_sign"] := by
  have sent : (relayed sampleLoads [.fromClient sampleText, .fromClient "eth_sign"]).toRemote =
      [sampleText, "eth_sign"] := by
    decide +kernel
  refine ⟨sent, ?_⟩
  intro gated
  obtain ⟨entries, loaded, _⟩ := gated.1 "eth_sign" (by rw [sent]; simp)
  have failed : sampleLoads "eth_sign" = .error .jsonDecodeError := by rfl
  rw [failed] at loaded
  cases loaded

end RpcProxy
