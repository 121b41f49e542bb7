import BlazCtf.Admin.Evm

set_option autoImplicit false

namespace Admin

open Evm

/-- `abi.decode` of a word that `abi.encode` made of a value in range. -/
theorem abiDecode_word {bound value : Nat} (inRange : value < bound) (word : value < 256 ^ 32) :
    abiDecode bound (Bytes.toBE 32 value) = .ok value := by
  have whole : (Bytes.toBE 32 value).take 32 = Bytes.toBE 32 value :=
    List.take_of_length_le (Nat.le_of_eq (Bytes.length_toBE 32 value))
  rw [abiDecode, whole, Bytes.ofBE_toBE word, Bytes.length_toBE, if_pos ⟨Nat.le_refl 32, inRange⟩]

/-- The bytes that reload the registered account. -/
def multisigInput (newAdmin : Address) : List UInt8 := 0x02 :: 0x01 :: Bytes.toBE 20 newAdmin

/-- The bytes that reload the required gas. -/
def requiredGasInput (requiredGas : UInt64) : List UInt8 :=
  0x02 :: 0x02 :: Bytes.toBE 8 requiredGas.toNat

theorem adminInput_multisig (newAdmin : Address) :
    adminInput (Bytes.toBE 32 newAdmin) 1 = .ok (some (multisigInput newAdmin)) := by
  have inRange := newAdmin.isLt
  have word : newAdmin.val < 256 ^ 32 := Nat.lt_trans inRange (by decide)
  rw [adminInput, if_pos rfl, abiDecode_word inRange word]
  simp only [bind, Except.bind, pure, Except.pure, multisigInput, List.cons_append,
    List.nil_append]

theorem adminInput_requiredGas (requiredGas : UInt64) :
    adminInput (Bytes.toBE 32 requiredGas.toNat) 2 =
      .ok (some (requiredGasInput requiredGas)) := by
  have inRange := requiredGas.toNat_lt
  have word : requiredGas.toNat < 256 ^ 32 := Nat.lt_trans inRange (by decide)
  rw [adminInput, if_neg (by decide), if_pos rfl, abiDecode_word inRange word]
  simp only [bind, Except.bind, pure, Except.pure, requiredGasInput, List.cons_append,
    List.nil_append]

section Decoder

variable {node : Node} {context : CallContext}

/-- An admin call that its checks let through does what it is dispatched to. -/
theorem adminFuncRun_dispatch {kind : UInt8} {rest : List UInt8} {after : Node} {gas : Nat}
    (required : node.requiredGas = gas) (authorised : isMultisig node context = true)
    (dispatched : adminDispatch node kind rest = some (after, 0)) :
    adminFuncRun node (kind :: rest) gas context = (after, .ok gas [0]) := by
  simp only [adminFuncRun, required, authorised, dispatched, ne_eq, not_true_eq_false, ↓reduceIte,
    Bool.true_eq_false]

theorem dispatch_multisig (newAdmin : Address) :
    adminDispatch node 0x02 (0x01 :: Bytes.toBE 20 newAdmin) =
      some ({ node with multisig := newAdmin }, 0) := by
  have spelled : Fin.ofNat (2 ^ 160) (Bytes.ofBE (Bytes.toBE 20 newAdmin)) = newAdmin := by
    rw [Bytes.ofBE_toBE (Nat.lt_of_lt_of_le newAdmin.isLt (by decide))]
    exact Fin.ofNat_val_eq_self newAdmin
  change fnReloadMultisigAddress node (Bytes.toBE 20 newAdmin) = _
  rw [fnReloadMultisigAddress, if_pos (Bytes.length_toBE 20 newAdmin), spelled]

theorem dispatch_requiredGas (requiredGas : UInt64) :
    adminDispatch node 0x02 (0x02 :: Bytes.toBE 8 requiredGas.toNat) =
      some ({ node with requiredGas := requiredGas.toNat }, 0) := by
  have spelled : Bytes.ofBE (Bytes.toBE 8 requiredGas.toNat) = requiredGas.toNat :=
    Bytes.ofBE_toBE (Nat.lt_of_lt_of_le requiredGas.toNat_lt (by decide))
  change fnReloadRequiredGas node (Bytes.toBE 8 requiredGas.toNat) = _
  rw [fnReloadRequiredGas, if_pos (Bytes.length_toBE 8 requiredGas.toNat), spelled]

end Decoder

section Frames

variable (env : Env) (depth : Nat) (callers : List Frame) {frame : Frame} {state : State}

/-- The contract's STATICCALL reaches the precompile with exactly the gas it names. -/
theorem staticcallAdmin_reload {input : List UInt8} {gasLeft : Nat} {after : Node}
    (forwarded : 2000 ≤ gasLeft - gasLeft / 64)
    (accepted : adminFuncRun state.node input 2000 (callContext frame .staticCall admin 0) =
      (after, .ok 2000 [0])) (intact : after.lost = state.node.lost) :
    staticcallAdmin (evm env (depth + 1)).1 callers frame state gasLeft input =
      ({ state with
        node := after
        adminCalls := ⟨state.node, after, callContext frame .staticCall admin 0, input,
          frame :: callers, state.world.code state.node.multisig,
          state.world.slots state.node.multisig⟩ :: state.adminCalls }, .ok) := by
  have gas : min (gasLeft - gasLeft / 64) 2000 = 2000 := Nat.min_eq_right forwarded
  have ran : runAdmin (frame :: callers) state (callContext frame .staticCall admin 0) input 2000 =
      ({ state with
        node := after
        adminCalls := ⟨state.node, after, callContext frame .staticCall admin 0, input,
          frame :: callers, state.world.code state.node.multisig,
          state.world.slots state.node.multisig⟩ :: state.adminCalls }, .ok) := by
    simp only [runAdmin, accepted, intact, Bool.and_not_self, Bool.false_eq_true, ↓reduceIte]
  have reached : (callContext frame .staticCall admin 0).codeAddress = admin := rfl
  simp only [staticcallAdmin, gas, evm, reached, ↓reduceIte, ran, settle]

/-- `onlyMultiSig` lets the contract call itself, and the decoded bytes are sent. -/
theorem reloadConfig_sends {call : Caller} {gasLeft kind : Nat} {data input : List UInt8}
    (self : frame.context.caller = frame.context.address)
    (encoded : adminInput data kind = .ok (some input)) :
    reloadConfig call callers frame state gasLeft kind data =
      staticcallAdmin call callers frame state gasLeft input := by
  rw [reloadConfig, if_neg (not_not.mpr self), encoded]

/-- One reload from end to end: what the contract encodes, what the precompile makes of
it, and what both leave. -/
structure Reloaded (env : Env) (depth : Nat) (callers : List Frame) (frame : Frame)
    (state : State) (gasLeft kind : Nat) (data : List UInt8) (after : Node) : Prop where
  accepted : ∃ input, adminInput data kind = .ok (some input) ∧
    adminFuncRun state.node input 2000 (callContext frame .staticCall admin 0) =
      (after, .ok 2000 [0])
  exit : (reloadConfig (evm env (depth + 1)).1 callers frame state gasLeft kind data).2 = .ok
  world : (reloadConfig (evm env (depth + 1)).1 callers frame state gasLeft kind data).1.world =
    state.world
  node : (reloadConfig (evm env (depth + 1)).1 callers frame state gasLeft kind data).1.node = after

theorem reloaded_of_dispatch {gasLeft kind : Nat} {data rest : List UInt8} {after : Node}
    (self : frame.context.caller = frame.context.address)
    (registered : frame.context.address = state.node.multisig)
    (required : state.node.requiredGas = 2000) (forwarded : 2000 ≤ gasLeft - gasLeft / 64)
    (encoded : adminInput data kind = .ok (some (0x02 :: rest)))
    (dispatched : adminDispatch state.node 0x02 rest = some (after, 0))
    (intact : after.lost = state.node.lost) :
    Reloaded env depth callers frame state gasLeft kind data after := by
  have authorised : isMultisig state.node (callContext frame .staticCall admin 0) = true := by
    simp only [isMultisig, callContext, registered, and_self, decide_true]
  have accepted := adminFuncRun_dispatch required authorised dispatched
  have sent := (reloadConfig_sends callers self encoded).trans
    (staticcallAdmin_reload env depth callers forwarded accepted intact)
  refine ⟨⟨0x02 :: rest, encoded, accepted⟩, ?_, ?_, ?_⟩
  · rw [sent]
  · rw [sent]
  · rw [sent]

end Frames

/-- What `reloadConfig` encodes the precompile decodes: with the contract registered, the
required gas at 2000 and as much forwarded, its bytes make the precompile succeed and set
the one register to the very value, for every address and every required gas. -/
theorem reload_agrees (env : Env) (depth : Nat) (callers : List Frame) (frame : Frame)
    (state : State) (gasLeft : Nat) (newAdmin : Address) (requiredGas : UInt64)
    (self : frame.context.caller = frame.context.address)
    (registered : frame.context.address = state.node.multisig)
    (required : state.node.requiredGas = 2000) (forwarded : 2000 ≤ gasLeft - gasLeft / 64) :
    Reloaded env depth callers frame state gasLeft 1 (Bytes.toBE 32 newAdmin)
        { state.node with multisig := newAdmin } ∧
      Reloaded env depth callers frame state gasLeft 2 (Bytes.toBE 32 requiredGas.toNat)
        { state.node with requiredGas := requiredGas.toNat } := by
  constructor
  · exact reloaded_of_dispatch env depth callers self registered required forwarded
      (adminInput_multisig newAdmin) (dispatch_multisig newAdmin) rfl
  · exact reloaded_of_dispatch env depth callers self registered required forwarded
      (adminInput_requiredGas requiredGas) (dispatch_requiredGas requiredGas) rfl

/-- The contract at the address that is registered at the start calls itself. -/
def selfCall : Frame :=
  ⟨⟨0x31337, 0x31337, 0x31337, 0, .call⟩, [], false,
    .gov (.reloadConfig 1 (Bytes.toBE 32 0xa0)) sampleOwners⟩

def startState : State := State.boot ⟨fun _ => .gov, fun _ => 0, fun _ => sampleOwners, []⟩ .start

theorem reload_agrees_at_start :
    Reloaded (sampleEnv []) 0 [] selfCall startState 10000 1 (Bytes.toBE 32 0xa0)
        { Node.start with multisig := 0xa0 } ∧
      Reloaded (sampleEnv []) 0 [] selfCall startState 10000 2 (Bytes.toBE 32 5000)
        { Node.start with requiredGas := 5000 } :=
  reload_agrees (sampleEnv []) 0 [] selfCall startState 10000 0xa0 5000 rfl rfl rfl (by decide)

end Admin
