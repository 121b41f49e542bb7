import BlazCtf.Revm.InterpreterSteps

set_option autoImplicit false

namespace Revm

open Evm Machine

variable {η : Type}

namespace Instruction

open Interpreter

-- what is charged is not computed while a proof is put together
attribute [local irreducible] Gas.recordCost

section Served

variable {ok : η → Prop} {start now : Interpreter η} {least : Nat} {spec : SpecId}
  {host : Host η}

theorem pushedEnv_moves {word : Env → U256} (moved : Moved ok start least now) :
    Moves ok start (least + Gas.BASE) (pushedEnv host word) now :=
  pushed_moves moved

theorem difficulty_moves (serving : host.Serving spec start.contract.address start.isStatic ok)
    (moved : Moved ok start least now) :
    Moves ok start (least + Gas.BASE) (difficulty spec host) now := by
  refine Act.Ensures.bind (charge_ensures moved fun next moved _ _ => ?_)
  refine Act.Ensures.bind (Act.ensures_get ?_)
  cases merge : spec.enabled .merge with
  | true =>
      obtain ⟨prevrandao, known⟩ :=
        Option.isSome_iff_exists.mp (serving.prevrandao next.host moved.fit.serving merge)
      simp only [if_true, known, Act.unwrap_some, pure_bind]
      exact push_ensures moved fun _ moved _ => moved
  | false =>
      simp only [Bool.false_eq_true, if_false]
      exact push_ensures moved fun _ moved _ => moved

theorem basefee_moves (moved : Moved ok start least now) :
    Moves ok start (least + Gas.BASE) (basefee spec host) now := by
  refine Act.Ensures.bind (charge_ensures moved fun _ moved _ _ => ?_)
  refine Act.Ensures.bind (check_ensures moved ?_)
  refine Act.Ensures.bind (Act.ensures_get ?_)
  exact push_ensures moved fun _ moved _ => moved

/-- The last part of an instruction: it pays, and pushes. -/
theorem charge_push {cost atLeast : Nat} {value : U256} (moved : Moved ok start least now)
    (enough : atLeast ≤ cost) :
    Act.Ensures (do charge cost; push value) now (fun _ => Moved ok start (least + atLeast))
      (fun _ => Halted ok start) False := by
  refine Act.Ensures.bind (charge_ensures moved fun _ moved _ _ => ?_)
  refine push_ensures moved fun _ moved _ => ?_
  exact moved.mono (Nat.add_le_add_left enough _)

theorem accountAccessGas_le (isCold : Bool) : 20 ≤ Gas.accountAccessGas spec isCold := by
  unfold Gas.accountAccessGas Gas.COLD_ACCOUNT_ACCESS_COST Gas.WARM_STORAGE_READ_COST
  repeat' split
  all_goals omega

theorem balance_moves (serving : host.Serving spec start.contract.address start.isStatic ok)
    (moved : Moved ok start least now) :
    Moves ok start (least + 20) (balance spec host) now := by
  refine Act.Ensures.bind (popAddress_ensures moved fun address _ moved _ => ?_)
  refine Act.Ensures.bind (answer_ensures moved
    (serving.balance address _ moved.fit.serving) fun _ _ _ moved _ _ => ?_)
  refine charge_push moved ?_
  split
  · exact accountAccessGas_le _
  · split <;> omega

theorem selfbalance_moves (serving : host.Serving spec start.contract.address start.isStatic ok)
    (moved : Moved ok start least now) :
    Moves ok start (least + Gas.LOW) (selfbalance spec host) now := by
  refine Act.Ensures.bind (check_ensures moved ?_)
  refine Act.Ensures.bind (charge_ensures moved fun _ moved _ _ => ?_)
  refine Act.Ensures.bind (Act.ensures_get ?_)
  refine Act.Ensures.bind (answer_ensures moved
    (serving.balance _ _ moved.fit.serving) fun _ _ _ moved _ _ => ?_)
  exact push_ensures moved fun _ moved _ => moved

theorem extcodesize_moves (serving : host.Serving spec start.contract.address start.isStatic ok)
    (moved : Moved ok start least now) :
    Moves ok start (least + 20) (extcodesize spec host) now := by
  refine Act.Ensures.bind (popAddress_ensures moved fun address _ moved _ => ?_)
  refine Act.Ensures.bind (answer_ensures moved
    (serving.code address _ moved.fit.serving) fun _ _ _ moved _ _ => ?_)
  refine charge_push moved ?_
  unfold Gas.COLD_ACCOUNT_ACCESS_COST Gas.WARM_STORAGE_READ_COST
  repeat' split
  all_goals omega

theorem extcodehash_moves (serving : host.Serving spec start.contract.address start.isStatic ok)
    (moved : Moved ok start least now) :
    Moves ok start (least + 20) (extcodehash spec host) now := by
  refine Act.Ensures.bind (check_ensures moved ?_)
  refine Act.Ensures.bind (popAddress_ensures moved fun address _ moved _ => ?_)
  refine Act.Ensures.bind (answer_ensures moved
    (serving.codeHash address _ moved.fit.serving) fun _ _ _ moved _ _ => ?_)
  refine charge_push moved ?_
  unfold Gas.COLD_ACCOUNT_ACCESS_COST Gas.WARM_STORAGE_READ_COST
  repeat' split
  all_goals omega

theorem extcodecopy_moves (serving : host.Serving spec start.contract.address start.isStatic ok)
    (moved : Moved ok start least now) :
    Moves ok start (least + 20) (extcodecopy spec host) now := by
  refine Act.Ensures.bind (popAddress_ensures moved fun address _ moved _ => ?_)
  refine Act.Ensures.bind (pop3_ensures moved fun values _ moved _ => ?_)
  refine Act.Ensures.bind (answer_ensures moved
    (serving.code address _ moved.fit.serving) fun found _ short moved _ _ => ?_)
  refine Act.Ensures.bind (okOr_ensures moved fun len _ => ?_)
  refine Act.Ensures.bind (gasOrFail_ensures moved fun _ cost priced moved _ _ => ?_)
  have enough := moved.mono (Nat.add_le_add_left (Gas.extcodecopyCost_le priced) least)
  by_cases empty : len = 0
  · rw [if_pos empty]
    exact enough
  · rw [if_neg empty]
    refine Act.Ensures.bind (okOr_ensures enough fun offset _ => ?_)
    refine Act.Ensures.bind (memoryResize_ensures enough fun next moved _ _ inside => ?_)
    exact editMemory_ensures moved (setData_total inside moved.fit.memory_lt
      (short found.1 found.2 rfl)) fun _ moved => moved

theorem blockhash_moves (serving : host.Serving spec start.contract.address start.isStatic ok)
    (moved : Moved ok start least now) :
    Moves ok start (least + Gas.BLOCKHASH) (blockhash host) now := by
  refine Act.Ensures.bind (charge_ensures moved fun _ moved _ _ => ?_)
  refine Act.Ensures.bind (popTop1_ensures moved fun number some_ => ?_)
  refine Act.Ensures.bind (Act.ensures_get ?_)
  split
  · refine Act.Ensures.bind (answer_ensures moved
      (serving.blockHash number _ moved.fit.serving) fun _ _ _ moved stack _ => ?_)
    exact setTop_ensures moved (fun empty => some_ (stack ▸ empty)) fun _ moved => moved
  · exact setTop_ensures moved some_ fun _ moved => moved

theorem sloadCost_le (isCold : Bool) : 50 ≤ Gas.sloadCost spec isCold := by
  unfold Gas.sloadCost Gas.COLD_SLOAD_COST Gas.WARM_STORAGE_READ_COST
  repeat' split
  all_goals omega

theorem sload_moves (serving : host.Serving spec start.contract.address start.isStatic ok)
    (moved : Moved ok start least now) :
    Moves ok start (least + 50) (sload spec host) now := by
  refine Act.Ensures.bind (pop1_ensures moved fun key next moved _ => ?_)
  refine Act.Ensures.bind (Act.ensures_get ?_)
  rw [moved.contract]
  refine Act.Ensures.bind (answer_ensures moved
    (serving.sload key _ moved.fit.serving) fun _ _ _ moved _ _ => ?_)
  exact charge_push moved (sloadCost_le _)

theorem sstoreCost_le {original old new : U256} {gas cost : Nat} {isCold : Bool}
    (priced : Gas.sstoreCost spec original old new gas isCold = some cost) : 50 ≤ cost := by
  have prices : 50 ≤ (if spec.enabled .berlin then
        (Gas.WARM_STORAGE_READ_COST, Gas.SSTORE_RESET - Gas.COLD_SLOAD_COST)
      else (Gas.sloadCost spec isCold, Gas.SSTORE_RESET)).1 ∧
      50 ≤ (if spec.enabled .berlin then
        (Gas.WARM_STORAGE_READ_COST, Gas.SSTORE_RESET - Gas.COLD_SLOAD_COST)
      else (Gas.sloadCost spec isCold, Gas.SSTORE_RESET)).2 := by
    split
    · decide
    · exact ⟨sloadCost_le isCold, show 50 ≤ Gas.SSTORE_RESET by decide⟩
  unfold Gas.sstoreCost at priced
  generalize (if spec.enabled .berlin then
        (Gas.WARM_STORAGE_READ_COST, Gas.SSTORE_RESET - Gas.COLD_SLOAD_COST)
      else (Gas.sloadCost spec isCold, Gas.SSTORE_RESET)) = pair at prices priced
  obtain ⟨base, based, total⟩ := Option.map_eq_some_iff.mp priced
  have set : 50 ≤ Gas.SSTORE_SET := by decide
  have enough : 50 ≤ base := by grind
  split at total <;> omega

/-- A store refunds no more than a slot that is cleared and one that is set. -/
theorem sstoreRefund_le (spec : SpecId) (original old new : U256) :
    (Gas.sstoreRefund spec original old new).natAbs ≤ 35000 := by
  have sload : Gas.sloadCost spec false ≤ 800 := by
    unfold Gas.sloadCost Gas.WARM_STORAGE_READ_COST
    repeat' split
    all_goals first | contradiction | omega
  unfold Gas.sstoreRefund Gas.SSTORE_RESET Gas.COLD_SLOAD_COST Gas.ACCESS_LIST_STORAGE_KEY
    Gas.REFUND_SSTORE_CLEARS Gas.SSTORE_SET Gas.WARM_STORAGE_READ_COST
  simp only
  grind

theorem sstore_moves (serving : host.Serving spec start.contract.address start.isStatic ok)
    (moved : Moved ok start least now) :
    Moves ok start (least + 15) (sstore spec host) now := by
  refine Act.Ensures.bind (checkStaticcall_ensures moved fun changing => ?_)
  refine Act.Ensures.bind (pop2_ensures moved fun values next moved _ => ?_)
  refine Act.Ensures.bind (Act.ensures_get ?_)
  rw [moved.contract]
  refine Act.Ensures.bind (answer_ensures moved
    (serving.sstore changing values.1 values.2 _ moved.fit.serving)
    fun stored next _ moved _ _ => ?_)
  obtain ⟨original, old, new, isCold⟩ := stored
  refine Act.Ensures.bind (Act.ensures_get ?_)
  rw [moved.fit.gas.remaining, Act.unwrap_some, pure_bind]
  refine Act.Ensures.bind (gasOrFail_ensures moved fun _ cost priced moved _ _ => ?_)
  have costs := sstoreCost_le priced
  have refunds := sstoreRefund_le spec original old new
  refine refund_ensures (least + 15) moved (by omega) ?_ fun _ moved _ => moved
  unfold REFUND_RATE
  omega

theorem log_moves {n : Nat} (serving : host.Serving spec start.contract.address start.isStatic ok)
    (moved : Moved ok start least now) :
    Moves ok start (least + Gas.LOG) (log n host) now := by
  refine Act.Ensures.bind (checkStaticcall_ensures moved fun changing => ?_)
  refine Act.Ensures.bind (pop2_ensures moved fun values _ moved _ => ?_)
  refine Act.Ensures.bind (okOr_ensures moved fun len _ => ?_)
  refine Act.Ensures.bind (gasOrFail_ensures moved fun _ cost priced moved _ _ => ?_)
  have enough := moved.mono (Nat.add_le_add_left (Gas.logCost_le priced) least)
  have rest : ∀ (data : Bytes) (middle : Interpreter η),
      Moved ok start (least + Gas.LOG) middle →
      Act.Ensures (do
        let topics ← popMany n
        let interpreter ← Act.get
        onHost (host.log interpreter.contract.address topics data)) middle
        (fun _ => Moved ok start (least + Gas.LOG)) (fun _ => Halted ok start) False := by
    intro data middle moved
    refine Act.Ensures.bind (popMany_ensures moved fun topics next _ moved _ => ?_)
    refine Act.Ensures.bind (Act.ensures_get ?_)
    rw [moved.contract]
    exact onHost_ensures moved (serving.log changing topics data _ moved.fit.serving)
      fun _ _ _ moved _ _ => moved
  by_cases empty : len = 0
  · rw [if_pos empty]
    exact Act.Ensures.bind (Act.ensures_pure (rest [] _ enough))
  · rw [if_neg empty]
    refine Act.Ensures.bind ?_
    refine Act.Ensures.bind (okOr_ensures enough fun offset _ => ?_)
    refine Act.Ensures.bind (memoryResize_ensures enough fun _ moved _ _ inside => ?_)
    exact memorySlice_ensures inside fun bytes _ => rest bytes _ moved

theorem selfdestruct_moves (serving : host.Serving spec start.contract.address start.isStatic ok)
    (moved : Moved ok start least now) (more : Nat) :
    Moves ok start more (selfdestruct spec host) now := by
  refine Act.Ensures.bind (checkStaticcall_ensures moved fun changing => ?_)
  refine Act.Ensures.bind (popAddress_ensures moved fun target next moved _ => ?_)
  refine Act.Ensures.bind (Act.ensures_get ?_)
  rw [moved.contract]
  refine Act.Ensures.bind (answer_ensures moved
    (serving.selfdestruct changing target _ moved.fit.serving) fun res _ _ moved _ _ => ?_)
  cases !spec.enabled .london && !res.previouslyDestroyed with
  | true =>
      exact Act.Ensures.bind (lastRefund_ensures moved (by decide) fun _ halted =>
        charge_halts halted)
  | false => exact Act.Ensures.bind (Act.ensures_pure (charge_halts moved.halted))

/-! Calls and creations. -/

variable {after : Unit → Interpreter η → Prop}

theorem setReturnData_ensures {bytes : Bytes} (moved : Moved ok start least now)
    (rest : ∀ next, Moved ok start least next → next.memory = now.memory → after () next) :
    Act.Ensures (setReturnData bytes) now after (fun _ => Halted ok start) False :=
  Act.ensures_modify (rest _ { moved with fit := { moved.fit with } } rfl)

/-- What the callee has used covers its refunds, and what its call has cost a self-destruct. -/
theorem recordRefund_ensures {returned : Gas} {spent fewer : Nat}
    (moved : Moved ok start (least + spent) now) (spare : fewer + 24 ≤ least)
    (refunded : returned.refunded.natAbs ≤ REFUND_RATE * spent + REFUND_LAST)
    (rest : ∀ next, Moved ok start fewer next → next.memory = now.memory → after () next) :
    Act.Ensures (recordRefund returned) now after (fun _ => Halted ok start) False := by
  have paid : returned.refunded.natAbs + REFUND_RATE * fewer ≤
      REFUND_RATE * (least + spent) := by
    unfold REFUND_RATE REFUND_LAST at *
    omega
  exact refund_ensures fewer moved (by omega) paid rest

/-- What is given back was used before. -/
theorem giveBack_ensures {spent amount : Nat} {returned : Gas}
    (moved : Moved ok start (least + spent) now) (remaining : returned.remaining = some amount)
    (bounded : amount ≤ spent)
    (rest : ∀ next, Moved ok start (least + (spent - amount)) next →
      next.memory = now.memory → after () next) :
    Act.Ensures (giveBack returned) now after (fun _ => Halted ok start) False := by
  have used := moved.used
  obtain ⟨erased, sound⟩ := moved.fit.gas.eraseCost (show amount ≤ now.gas.used by omega)
  unfold giveBack
  rw [remaining, Act.unwrap_some, pure_bind]
  refine Act.Ensures.bind (Act.ensures_get ?_)
  rw [erased, Act.unwrap_some, pure_bind]
  refine Act.ensures_modify (rest _ { moved with
    fit := { moved.fit with gas := sound }
    used := ?_
    refunds := moved.refunds.eraseCost bounded (by omega) } rfl)
  change start.gas.used + (least + (spent - amount)) ≤ now.gas.used - amount
  omega

theorem initCode_ensures {codeOffset : U256} {len : Nat} {returns : Bytes → Interpreter η → Prop}
    (moved : Moved ok start least now)
    (rest : ∀ code next, Moved ok start least next → code.length ≤ ISIZE_MAX →
      returns code next) :
    Act.Ensures (initCode spec host codeOffset len) now returns (fun _ => Halted ok start)
      False := by
  unfold initCode
  by_cases empty : len = 0
  · rw [if_pos empty]
    exact rest [] now moved (Nat.zero_le _)
  · rw [if_neg empty]
    refine Act.Ensures.bind (okOr_ensures moved fun offset _ => ?_)
    have reads : ∀ middle : Interpreter η, Moved ok start least middle →
        Act.Ensures (do memoryResize offset len; memorySlice offset len) middle returns
          (fun _ => Halted ok start) False := by
      intro middle moved
      refine Act.Ensures.bind (memoryResize_ensures moved fun next moved _ _ inside => ?_)
      refine memorySlice_ensures inside fun bytes length => rest bytes next moved ?_
      have small := moved.fit.memory_lt
      unfold ISIZE_MAX
      omega
    cases spec.enabled .shanghai with
    | false => exact Act.Ensures.bind (Act.ensures_pure (reads now moved))
    | true =>
        have limited : ∀ maxInitcodeSize : Nat,
            Act.Ensures (if maxInitcodeSize < len then Act.stop .createInitcodeSizeLimit
              else charge (Gas.initcodeCost len) : Op η Unit) now
              (fun _ middle => Act.Ensures (do
                memoryResize offset len
                memorySlice offset len) middle returns (fun _ => Halted ok start) False)
              (fun _ => Halted ok start) False := by
          intro maxInitcodeSize
          split
          · exact stop_ensures moved
          · refine charge_ensures moved fun next moved _ _ => ?_
            exact reads next (moved.mono (Nat.le_add_right _ _))
        exact Act.Ensures.bind (Act.Ensures.bind (Act.ensures_get (limited _)))

theorem createScheme_ensures {isCreate2 : Bool} {len : Nat}
    {returns : CreateScheme → Interpreter η → Prop} (moved : Moved ok start least now)
    (rest : ∀ scheme next, Moved ok start (least + Gas.CREATE) next → returns scheme next) :
    Act.Ensures (if isCreate2 then do
        let salt ← pop1
        gasOrFail (Gas.create2Cost len)
        return .create2 salt
      else do
        charge Gas.CREATE
        return .create : Op η CreateScheme) now returns (fun _ => Halted ok start) False := by
  cases isCreate2 with
  | true =>
      rw [if_pos rfl]
      refine Act.Ensures.bind (pop1_ensures moved fun salt _ moved _ => ?_)
      refine Act.Ensures.bind (gasOrFail_ensures moved fun next cost priced moved _ _ => ?_)
      have enough : Gas.CREATE ≤ cost := le_of_plus priced
      exact rest _ next (moved.mono (Nat.add_le_add_left enough least))
  | false =>
      rw [if_neg Bool.false_ne_true]
      exact Act.Ensures.bind (charge_ensures moved fun next moved _ _ => rest _ next moved)

/-- What is left to do when a creation has come back. -/
theorem created_ensures {reason : InstructionResult} {address : Option Address} {returned : Gas}
    {spent fewer : Nat} (moved : Moved ok start (least + spent) now) (spare : fewer + 24 ≤ least)
    (left : GasReturned spent returned) :
    Moves ok start fewer (if reason.isOk then do
        push (match address with
          | some address => wordOf address
          | none => 0)
        giveBack returned
        recordRefund returned
      else if reason.isRevert then do
        push 0
        giveBack returned
      else if reason = .fatalExternalError then Act.stop .fatalExternalError
      else push 0) now := by
  obtain ⟨amount, remaining, bounded, refunded⟩ := left
  by_cases succeeded : reason.isOk
  · rw [if_pos succeeded]
    refine Act.Ensures.bind (push_ensures moved fun _ moved _ => ?_)
    refine Act.Ensures.bind (giveBack_ensures moved remaining bounded fun _ moved _ => ?_)
    exact recordRefund_ensures moved spare refunded fun _ moved _ => moved
  rw [if_neg succeeded]
  by_cases reverted : reason.isRevert
  · rw [if_pos reverted]
    refine Act.Ensures.bind (push_ensures moved fun _ moved _ => ?_)
    exact giveBack_ensures moved remaining bounded fun _ moved _ => moved.mono (by omega)
  rw [if_neg reverted]
  by_cases fatal : reason = .fatalExternalError
  · rw [if_pos fatal]
    exact stop_ensures moved
  · rw [if_neg fatal]
    exact push_ensures moved fun _ moved _ => moved.mono (by omega)

/-- Only CREATE2 asks for a fork of its own. -/
theorem create2Check_ensures {isCreate2 enabled : Bool}
    {returns : Unit → Interpreter η → Prop} (moved : Moved ok start least now)
    (rest : returns () now) :
    Act.Ensures (if isCreate2 then check enabled else pure () : Op η Unit) now returns
      (fun _ => Halted ok start) False := by
  cases isCreate2 with
  | true => exact check_ensures moved rest
  | false => exact Act.ensures_pure rest

theorem create_moves {isCreate2 : Bool}
    (serving : host.Serving spec start.contract.address start.isStatic ok)
    (moved : Moved ok start least now) :
    Moves ok start (least + 1) (create isCreate2 spec host) now := by
  refine Act.Ensures.bind (checkStaticcall_ensures moved fun changing => ?_)
  refine Act.Ensures.bind (create2Check_ensures moved ?_)
  refine Act.Ensures.bind (setReturnData_ensures moved fun _ moved _ => ?_)
  refine Act.Ensures.bind (pop3_ensures moved fun values _ moved _ => ?_)
  refine Act.Ensures.bind (okOr_ensures moved fun len _ => ?_)
  refine Act.Ensures.bind (initCode_ensures moved fun code _ moved short => ?_)
  refine Act.Ensures.bind (createScheme_ensures moved fun scheme now moved => ?_)
  refine Act.Ensures.bind (Act.ensures_get ?_)
  rw [moved.fit.gas.remaining, moved.contract, Act.unwrap_some, pure_bind]
  have sane := moved.fit.sane
  have limit : (if spec.enabled .tangerine then now.gas.left - now.gas.left / 64
      else now.gas.left) < GAS_SANE := by
    have left : now.gas.left ≤ now.gas.limit := Nat.sub_le _ _
    split <;> omega
  refine Act.Ensures.bind (charge_ensures moved fun _ moved _ _ => ?_)
  refine Act.Ensures.bind (onHost_ensures moved
    (serving.create changing _ _ moved.fit.serving rfl limit short)
    fun result _ left moved _ _ => ?_)
  refine Act.Ensures.bind (setReturnData_ensures moved fun _ moved _ => ?_)
  exact created_ensures moved (by unfold Gas.CREATE; omega) left

/-! Calls. -/

/-- In static mode a call carries no value. -/
theorem callValue_ensures {scheme : CallScheme} {returns : U256 → Interpreter η → Prop}
    (moved : Moved ok start least now)
    (rest : ∀ value next, Moved ok start least next →
      (start.isStatic = true → scheme = .call → value = 0) → returns value next) :
    Act.Ensures (callValue scheme) now returns (fun _ => Halted ok start) False := by
  cases scheme with
  | callCode =>
      exact pop1_ensures moved fun value next moved _ =>
        rest value next moved fun _ other => by cases other
  | call =>
      refine Act.Ensures.bind (pop1_ensures moved fun value next moved _ => ?_)
      refine Act.Ensures.bind (Act.ensures_get ?_)
      have mode := moved.isStatic
      split
      · exact stop_ensures moved
      · rename_i allowed
        refine rest value next moved fun static _ => ?_
        rw [mode, static] at allowed
        simpa using allowed
  | delegateCall => exact rest 0 now moved fun _ other => by cases other
  | staticCall => exact rest 0 now moved fun _ other => by cases other

theorem callInput_ensures {inOffset : U256} {inLen : Nat} {returns : Bytes → Interpreter η → Prop}
    (moved : Moved ok start least now)
    (rest : ∀ input next, Moved ok start least next → input.length ≤ ISIZE_MAX →
      returns input next) :
    Act.Ensures (if inLen ≠ 0 then do
        let inOffset ← asUsizeOrFail inOffset .invalidOperandOOG
        memoryResize inOffset inLen
        memorySlice inOffset inLen
      else pure [] : Op η Bytes) now returns (fun _ => Halted ok start) False := by
  by_cases nonempty : inLen ≠ 0
  · rw [if_pos nonempty]
    refine Act.Ensures.bind (okOr_ensures moved fun offset _ => ?_)
    refine Act.Ensures.bind (memoryResize_ensures moved fun next moved _ _ inside => ?_)
    refine memorySlice_ensures inside fun bytes length => rest bytes next moved ?_
    have small := moved.fit.memory_lt
    unfold ISIZE_MAX
    omega
  · rw [if_neg nonempty]
    exact rest [] now moved (Nat.zero_le _)

theorem callRange_ensures {offset : U256} {len : Nat} {returns : Nat → Interpreter η → Prop}
    (moved : Moved ok start least now)
    (rest : ∀ offset next, Moved ok start least next →
      (len = 0 ∨ offset + len ≤ next.memory.length) → returns offset next) :
    Act.Ensures (callRange offset len) now returns (fun _ => Halted ok start) False := by
  unfold callRange
  by_cases nonempty : len ≠ 0
  · rw [if_pos nonempty]
    refine Act.Ensures.bind (okOr_ensures moved fun place _ => ?_)
    refine Act.Ensures.bind (memoryResize_ensures moved fun next moved _ _ inside => ?_)
    exact rest place next moved (Or.inr inside)
  · rw [if_neg nonempty]
    exact rest _ now moved (Or.inl (not_not.mp nonempty))

/-- The stipend is less than what a transfer of value costs. -/
theorem stipend_le (spec : SpecId) {value transferred : U256} (isNew isCold : Bool)
    (gasLimit : Nat) (scheme : CallScheme) (same : transferred ≠ 0 → value ≠ 0) :
    40 + (if (scheme = .call ∨ scheme = .callCode) ∧ transferred ≠ 0 then
        saturatingAdd gasLimit Gas.CALL_STIPEND else gasLimit) ≤
      Gas.callCost spec value isNew isCold (decide (scheme = .call ∨ scheme = .callCode))
        (decide (scheme = .call ∨ scheme = .staticCall)) + gasLimit := by
  have access : 40 ≤ (if spec.enabled .berlin then
      if isCold then Gas.COLD_ACCOUNT_ACCESS_COST else Gas.WARM_STORAGE_READ_COST
      else if spec.enabled .tangerine then 700 else 40) := by
    unfold Gas.COLD_ACCOUNT_ACCESS_COST Gas.WARM_STORAGE_READ_COST
    repeat' split
    all_goals omega
  unfold Gas.callCost
  by_cases pays : (scheme = .call ∨ scheme = .callCode) ∧ transferred ≠ 0
  · have transfers : Gas.xferCost (decide (scheme = .call ∨ scheme = .callCode))
        (decide (value ≠ 0)) = 9000 := by
      unfold Gas.xferCost
      rw [decide_eq_true pays.1, decide_eq_true (same pays.2)]
      rfl
    have stipend : saturatingAdd gasLimit Gas.CALL_STIPEND ≤ gasLimit + 2300 := Nat.min_le_left _ _
    rw [if_pos pays]
    simp only [transfers]
    omega
  · rw [if_neg pays]
    simp only
    omega

theorem callTransfer_value {contract : Contract} {scheme : CallScheme} {callee : Address}
    {value : U256} (nonzero : (callTransfer contract scheme callee value).value ≠ 0) :
    value ≠ 0 := by
  cases scheme with
  | call => exact nonzero
  | callCode => exact nonzero
  | delegateCall => exact absurd rfl nonzero
  | staticCall => exact absurd rfl nonzero

theorem callTransfer_source {contract : Contract} {scheme : CallScheme} {callee : Address}
    {value : U256} : (callTransfer contract scheme callee value).source = contract.address := by
  cases scheme <;> rfl

/-- In static mode nothing is paid to another. -/
theorem callTransfer_static {contract : Contract} {scheme : CallScheme} {callee : Address}
    {value : U256} (free : scheme = .call → value = 0) :
    (callTransfer contract scheme callee value).value = 0 ∨
      (callTransfer contract scheme callee value).target = contract.address := by
  cases scheme with
  | call => exact Or.inl (free rfl)
  | callCode => exact Or.inr rfl
  | delegateCall => exact Or.inl rfl
  | staticCall => exact Or.inl rfl

theorem callContext_address {contract : Contract} {scheme : CallScheme} {callee : Address}
    {value : U256} : (callContext contract scheme callee value).address = contract.address ∨
      (callContext contract scheme callee value).address = callee := by
  cases scheme with
  | call => exact Or.inr rfl
  | callCode => exact Or.inl rfl
  | delegateCall => exact Or.inl rfl
  | staticCall => exact Or.inr rfl

/-- What the callee gets has been paid for. -/
theorem stipend_paid {value transferred : U256} {isNew isCold : Bool} {gasLimit : Nat}
    {scheme : CallScheme} (same : transferred ≠ 0 → value ≠ 0)
    (moved : Moved ok start (least +
      Gas.callCost spec value isNew isCold (decide (scheme = .call ∨ scheme = .callCode))
        (decide (scheme = .call ∨ scheme = .staticCall)) + gasLimit) now) :
    Moved ok start (least + 40 +
      (if (scheme = .call ∨ scheme = .callCode) ∧ transferred ≠ 0 then
        saturatingAdd gasLimit Gas.CALL_STIPEND else gasLimit)) now ∧
    (if (scheme = .call ∨ scheme = .callCode) ∧ transferred ≠ 0 then
        saturatingAdd gasLimit Gas.CALL_STIPEND else gasLimit) < GAS_SANE := by
  have paid := stipend_le spec isNew isCold gasLimit scheme same
  generalize (if (scheme = .call ∨ scheme = .callCode) ∧ transferred ≠ 0 then
    saturatingAdd gasLimit Gas.CALL_STIPEND else gasLimit) = stipend at paid ⊢
  have used := moved.used
  have sum := moved.fit.gas.sum
  have bounded := moved.fit.gas.bounded
  have sane := moved.fit.sane
  exact ⟨moved.mono (by omega), by omega⟩

/-- What is left to do when a call has come back. -/
theorem called_ensures {reason : InstructionResult} {returned : Gas} {returnData : Bytes}
    {spent fewer outOffset outLen : Nat} (moved : Moved ok start (least + spent) now)
    (spare : fewer + 24 ≤ least) (left : GasReturned spent returned)
    (inside : outLen = 0 ∨ outOffset + outLen ≤ now.memory.length) :
    Moves ok start fewer (if reason.isOk then do
        giveBack returned
        recordRefund returned
        editMemory fun memory =>
          setMemory memory outOffset (returnData.take (min outLen returnData.length))
        push 1
      else if reason.isRevert then do
        giveBack returned
        editMemory fun memory =>
          setMemory memory outOffset (returnData.take (min outLen returnData.length))
        push 0
      else if reason = .fatalExternalError then Act.stop .fatalExternalError
      else push 0) now := by
  obtain ⟨amount, remaining, bounded, refunded⟩ := left
  have writes : ∀ memory : Bytes, memory.length = now.memory.length →
      ∃ edited, setMemory memory outOffset (returnData.take (min outLen returnData.length)) =
        some edited ∧ edited.length = memory.length := by
    intro memory length
    refine setMemory_total ?_
    rcases inside with empty | within
    · right
      rw [empty, Nat.zero_min, List.take_zero]
    · left
      rw [List.length_take, length]
      omega
  by_cases succeeded : reason.isOk
  · rw [if_pos succeeded]
    refine Act.Ensures.bind (giveBack_ensures moved remaining bounded fun _ moved given => ?_)
    refine Act.Ensures.bind
      (recordRefund_ensures moved spare refunded fun _ moved recorded => ?_)
    refine Act.Ensures.bind (editMemory_ensures moved (writes _ ?_) fun _ moved => ?_)
    · rw [recorded, given]
    · exact push_ensures moved fun _ moved _ => moved
  rw [if_neg succeeded]
  by_cases reverted : reason.isRevert
  · rw [if_pos reverted]
    refine Act.Ensures.bind (giveBack_ensures moved remaining bounded fun _ moved given => ?_)
    refine Act.Ensures.bind (editMemory_ensures moved (writes _ ?_) fun _ moved => ?_)
    · rw [given]
    · exact push_ensures moved fun _ moved _ => moved.mono (by omega)
  rw [if_neg reverted]
  by_cases fatal : reason = .fatalExternalError
  · rw [if_pos fatal]
    exact stop_ensures moved
  · rw [if_neg fatal]
    exact push_ensures moved fun _ moved _ => moved.mono (by omega)

theorem callInner_moves {scheme : CallScheme}
    (serving : host.Serving spec start.contract.address start.isStatic ok)
    (moved : Moved ok start least now) :
    Moves ok start (least + 16) (callInner spec scheme host) now := by
  refine Act.Ensures.bind (check_ensures moved ?_)
  refine Act.Ensures.bind (setReturnData_ensures moved fun _ moved _ => ?_)
  refine Act.Ensures.bind (pop1_ensures moved fun localGas _ moved _ => ?_)
  refine Act.Ensures.bind (popAddress_ensures moved fun callee _ moved _ => ?_)
  refine Act.Ensures.bind (callValue_ensures moved fun value _ moved free => ?_)
  refine Act.Ensures.bind (pop4_ensures moved fun values _ moved _ => ?_)
  obtain ⟨inOffset, inLen, outOffset, outLen⟩ := values
  refine Act.Ensures.bind (okOr_ensures moved fun inLen _ => ?_)
  refine Act.Ensures.bind (callInput_ensures moved fun input _ moved short => ?_)
  refine Act.Ensures.bind (okOr_ensures moved fun outLen _ => ?_)
  refine Act.Ensures.bind (callRange_ensures moved fun outOffset _ moved inside => ?_)
  refine Act.Ensures.bind (Act.ensures_get ?_)
  rw [moved.contract]
  refine Act.Ensures.bind (answer_ensures moved
    (serving.loadAccount callee _ moved.fit.serving) fun found _ _ moved _ memory => ?_)
  rw [← memory] at inside
  refine Act.Ensures.bind (charge_ensures moved fun next moved _ memory => ?_)
  rw [← memory] at inside
  refine Act.Ensures.bind (Act.ensures_get ?_)
  rw [moved.fit.gas.remaining, moved.isStatic, Act.unwrap_some, pure_bind]
  refine Act.Ensures.bind (charge_ensures moved fun next moved _ memory => ?_)
  rw [← memory] at inside
  generalize (if spec.enabled .tangerine then min (_ : Nat) _ else _) = gasLimit at moved ⊢
  have valued : (callTransfer start.contract scheme callee value).value ≠ 0 → value ≠ 0 :=
    callTransfer_value
  obtain ⟨paid, sane⟩ := stipend_paid valued moved
  have reads : start.isStatic = true →
      decide (scheme = .staticCall ∨ start.isStatic = true) = true ∧
        ((callTransfer start.contract scheme callee value).value = 0 ∨
          (callTransfer start.contract scheme callee value).target = start.contract.address) :=
    fun static => ⟨decide_eq_true (Or.inr static), callTransfer_static (free static)⟩
  refine Act.Ensures.bind (onHost_ensures paid (serving.call _ _ paid.fit.serving
    callTransfer_source callContext_address sane short reads)
    fun result _ left moved _ memory => ?_)
  rw [← memory] at inside
  refine Act.Ensures.bind (setReturnData_ensures moved fun _ moved memory => ?_)
  rw [← memory] at inside
  exact called_ensures moved (by omega) left inside

end Served

end Instruction

end Revm
