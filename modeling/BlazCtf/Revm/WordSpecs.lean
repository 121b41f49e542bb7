import Mathlib.Algebra.Ring.Int.Defs
import Mathlib.Order.Compare
import BlazCtf.Revm.Words

set_option autoImplicit false

namespace Revm

variable (value first second : U256)

theorem toNat_lt_of_sign (plus : value.msb = false) : value.toNat < 2 ^ 255 := by
  have decided := BitVec.msb_eq_decide value
  rw [plus] at decided
  have small : ¬ 2 ^ (256 - 1) ≤ value.toNat := of_decide_eq_false decided.symm
  omega

theorem getLsbD_sign : value.getLsbD 255 = value.msb := (BitVec.msb_eq_getLsbD_last value).symm

theorem i256Sign_minus {doTwoCompl : Bool} (minus : value.msb = true) :
    i256Sign doTwoCompl value = (.minus, if doTwoCompl then -value else value) := by
  unfold i256Sign
  rw [getLsbD_sign, minus]
  rfl

theorem i256Sign_plus {doTwoCompl : Bool} (plus : value.msb = false) :
    i256Sign doTwoCompl value = (if value = 0 then .zero else .plus, value) := by
  unfold i256Sign
  rw [getLsbD_sign, plus]
  by_cases zero : value = 0
  · rw [if_pos zero, if_pos zero]
    rfl
  · rw [if_neg zero, if_neg zero]
    rfl

theorem u256RemoveSign_eq (plus : value.toNat < 2 ^ 255) : u256RemoveSign value = value := by
  apply BitVec.eq_of_toNat_eq
  unfold u256RemoveSign
  rw [BitVec.toNat_and, BitVec.toNat_ofNat, Nat.mod_eq_of_lt (by decide),
    Nat.and_two_pow_sub_one_eq_mod, Nat.mod_eq_of_lt plus]

theorem neg_toNat (minus : value.msb = true) : (-value).toNat = 2 ^ 256 - value.toNat ∧
    0 < (-value).toNat ∧ (-value).toNat ≤ 2 ^ 255 := by
  have decided := BitVec.msb_eq_decide value
  rw [minus] at decided
  have large : 2 ^ (256 - 1) ≤ value.toNat := of_decide_eq_true decided.symm
  have bounded := value.isLt
  have negated : (-value).toNat = (2 ^ 256 - value.toNat) % 2 ^ 256 := BitVec.toNat_neg value
  omega

theorem sign_zero : (0 : U256).msb = false := by decide

/-- What is left of a quotient of two magnitudes without the sign bit. -/
theorem u256RemoveSign_div (magnitude : first.toNat ≤ 2 ^ 255) (nonzero : second ≠ 0)
    (ordinary : ¬ (first = MIN_NEGATIVE_VALUE ∧ second = 1)) :
    u256RemoveSign (first / second) = first / second := by
  apply u256RemoveSign_eq
  have positive : second.toNat ≠ 0 := fun zero => nonzero (BitVec.eq_of_toNat_eq zero)
  rw [BitVec.toNat_udiv]
  rcases Nat.lt_or_eq_of_le magnitude with small | largest
  · exact Nat.lt_of_le_of_lt (Nat.div_le_self _ _) small
  · have least : first = MIN_NEGATIVE_VALUE := BitVec.eq_of_toNat_eq largest
    have more : second.toNat ≠ 1 := fun one => ordinary ⟨least, BitVec.eq_of_toNat_eq one⟩
    rw [Nat.div_lt_iff_lt_mul (Nat.pos_of_ne_zero positive)]
    calc first.toNat < 2 ^ 255 * 2 := by omega
      _ ≤ 2 ^ 255 * second.toNat := Nat.mul_le_mul_left _ (by omega)

section Quotient

variable {first second} {firstSign secondSign : Sign} {a b : U256}

/-- The quotient of the magnitudes, negated if the signs differ. -/
theorem i256Div_apart (firstSigned : i256Sign true first = (firstSign, a))
    (secondSigned : i256Sign true second = (secondSign, b)) (nonzero : secondSign ≠ .zero)
    (ordinary : ¬ (firstSign = .minus ∧ a = MIN_NEGATIVE_VALUE ∧ b = 1))
    (removed : u256RemoveSign (a / b) = a / b) :
    i256Div first second =
      if firstSign = .minus ↔ secondSign = .minus then a / b else -(a / b) := by
  unfold i256Div
  rw [firstSigned, secondSigned]
  simp only [nonzero, if_false, ordinary, removed]
  by_cases zero : a / b = 0
  · rw [zero]
    simp
  · rw [if_neg zero]
    cases firstSign <;> cases secondSign <;> rfl

end Quotient

theorem i256Div_zero : i256Div first 0 = 0 := by
  unfold i256Div
  rw [i256Sign_plus 0 sign_zero]
  rfl

theorem ne_minimum (plus : value.msb = false) : value ≠ MIN_NEGATIVE_VALUE := by
  intro same
  rw [same] at plus
  exact absurd plus (by decide)

theorem i256Div_least {secondSign : Sign} (least : -first = MIN_NEGATIVE_VALUE)
    (minus : first.msb = true) (secondSigned : i256Sign true second = (secondSign, 1))
    (nonzero : secondSign ≠ .zero) : i256Div first second = MIN_NEGATIVE_VALUE := by
  have negMin : twoCompl MIN_NEGATIVE_VALUE = MIN_NEGATIVE_VALUE := by decide
  unfold i256Div
  rw [secondSigned, i256Sign_minus first minus]
  simp only [nonzero, if_false, if_true, least, and_self, negMin]

/-- Division as `sdiv` of two's complement, the quotient that does not fit included. -/
theorem i256Div_eq_sdiv : i256Div first second = first.sdiv second := by
  have one : ∀ a : U256, a / 1 = a := fun _ => BitVec.udiv_one
  have negMin : -MIN_NEGATIVE_VALUE = MIN_NEGATIVE_VALUE := by decide
  by_cases none_ : second = 0
  · rw [none_, i256Div_zero]
    exact BitVec.sdiv_zero.symm
  rw [BitVec.sdiv_eq]
  cases secondSign : second.msb with
  | false =>
      have secondSigned : i256Sign true second = _ := i256Sign_plus second secondSign
      rw [if_neg none_] at secondSigned
      cases firstSign : first.msb with
      | false =>
          have small := Nat.le_of_lt (toNat_lt_of_sign first firstSign)
          rw [i256Div_apart (i256Sign_plus first firstSign) secondSigned (by decide)
            (fun special => ne_minimum first firstSign special.2.1)
            (u256RemoveSign_div first second small none_
              fun special => ne_minimum first firstSign special.1)]
          refine if_pos ?_
          split <;> decide
      | true =>
          by_cases special : -first = MIN_NEGATIVE_VALUE ∧ second = 1
          · rw [special.2] at secondSigned ⊢
            rw [i256Div_least first 1 special.1 firstSign secondSigned (by decide)]
            change _ = -(-first / 1)
            rw [one, special.1, negMin]
          · rw [i256Div_apart (i256Sign_minus first firstSign) secondSigned (by decide)
              (fun all => special all.2)
              (u256RemoveSign_div (-first) second (neg_toNat first firstSign).2.2 none_ special)]
            exact if_neg (by decide)
  | true =>
      have secondSigned : i256Sign true second = _ := i256Sign_minus second secondSign
      have some_ : -second ≠ 0 := by
        intro zero
        have bounds := neg_toNat second secondSign
        rw [zero] at bounds
        exact absurd bounds.2.1 (by decide)
      cases firstSign : first.msb with
      | false =>
          have small := Nat.le_of_lt (toNat_lt_of_sign first firstSign)
          rw [i256Div_apart (i256Sign_plus first firstSign) secondSigned (by decide)
            (fun special => ne_minimum first firstSign special.2.1)
            (u256RemoveSign_div first (-second) small some_
              fun special => ne_minimum first firstSign special.1)]
          refine if_neg ?_
          split <;> decide
      | true =>
          by_cases special : -first = MIN_NEGATIVE_VALUE ∧ -second = 1
          · rw [special.2] at secondSigned ⊢
            rw [i256Div_least first second special.1 firstSign secondSigned (by decide)]
            change _ = -first / 1
            rw [one, special.1]
          · rw [i256Div_apart (i256Sign_minus first firstSign) secondSigned (by decide)
              (fun all => special all.2)
              (u256RemoveSign_div (-first) (-second) (neg_toNat first firstSign).2.2 some_
                special)]
            exact if_pos (by decide)

theorem u256RemoveSign_mod (magnitude : second.toNat ≤ 2 ^ 255) (nonzero : second ≠ 0) :
    u256RemoveSign (first % second) = first % second := by
  apply u256RemoveSign_eq
  have positive : second.toNat ≠ 0 := fun zero => nonzero (BitVec.eq_of_toNat_eq zero)
  rw [BitVec.toNat_umod]
  exact Nat.lt_of_lt_of_le (Nat.mod_lt _ (Nat.pos_of_ne_zero positive)) magnitude

/-- The magnitude of a divisor as the function takes it. -/
theorem i256Sign_magnitude (nonzero : value ≠ 0) :
    (i256Sign true value).2 = (if value.msb then -value else value) ∧
      (i256Sign true value).2.toNat ≤ 2 ^ 255 ∧ (i256Sign true value).2 ≠ 0 := by
  cases sign : value.msb with
  | true =>
      rw [i256Sign_minus value sign]
      have bounds := neg_toNat value sign
      refine ⟨rfl, bounds.2.2, ?_⟩
      intro zero
      change -value = 0 at zero
      rw [zero] at bounds
      exact absurd bounds.2.1 (by decide)
  | false =>
      rw [i256Sign_plus value sign]
      exact ⟨rfl, Nat.le_of_lt (toNat_lt_of_sign value sign), nonzero⟩

/-- The remainder as `srem` of two's complement; the sign is that of the dividend. -/
theorem i256Mod_eq_srem (nonzero : second ≠ 0) :
    i256Mod first second = some (first.srem second) := by
  obtain ⟨magnitude, small, some_⟩ := i256Sign_magnitude second nonzero
  have removed : ∀ a : U256, u256RemoveSign (a % (i256Sign true second).2) =
      a % (i256Sign true second).2 := fun a => u256RemoveSign_mod a _ small some_
  have signed : first.srem second =
      if first.msb then -(-first % (i256Sign true second).2)
      else first % (i256Sign true second).2 := by
    rw [BitVec.srem_eq, magnitude]
    cases first.msb <;> cases second.msb <;> rfl
  rw [signed]
  unfold i256Mod
  cases firstSign : first.msb with
  | true =>
      rw [i256Sign_minus first firstSign]
      simp only [reduceCtorEq, if_false, if_true, some_, removed, twoCompl]
      by_cases zero : -first % (i256Sign true second).2 = 0
      · rw [zero]
        rfl
      · rw [if_neg zero]
  | false =>
      rw [i256Sign_plus first firstSign]
      by_cases none_ : first = 0
      · subst none_
        simp
      · simp only [none_, reduceCtorEq, if_false, some_, removed, Bool.false_eq_true]
        by_cases zero : first % (i256Sign true second).2 = 0
        · rw [zero]
          rfl
        · rw [if_neg zero]

theorem toInt_minus (minus : value.msb = true) :
    value.toInt = (value.toNat : Int) - 2 ^ 256 ∧ value.toInt < 0 := by
  have same := BitVec.toInt_eq_msb_cond value
  rw [minus] at same
  have bounded := value.isLt
  have signed : value.toInt = (value.toNat : Int) - 2 ^ 256 := same
  omega

theorem toInt_plus (plus : value.msb = false) :
    value.toInt = value.toNat ∧ (value = 0 ↔ value.toNat = 0) := by
  have same := BitVec.toInt_eq_msb_cond value
  rw [plus] at same
  exact ⟨same, fun zero => congrArg BitVec.toNat zero, fun zero => BitVec.eq_of_toNat_eq zero⟩

/-- The comparison is that of the signed values. -/
theorem i256Cmp_eq : i256Cmp first second = compare first.toInt second.toInt := by
  unfold i256Cmp
  cases firstSign : first.msb with
  | true =>
      obtain ⟨firstInt, firstNegative⟩ := toInt_minus first firstSign
      cases secondSign : second.msb with
      | true =>
          obtain ⟨secondInt, _⟩ := toInt_minus second secondSign
          rw [i256Sign_minus first firstSign, i256Sign_minus second secondSign]
          change compare first.toNat second.toNat = _
          rw [firstInt, secondInt]
          rcases Nat.lt_trichotomy first.toNat second.toNat with below | same | above
          · rw [compare_lt_iff_lt.mpr below, compare_lt_iff_lt.mpr (by omega)]
          · rw [compare_eq_iff_eq.mpr same, compare_eq_iff_eq.mpr (by omega)]
          · rw [compare_gt_iff_gt.mpr above, compare_gt_iff_gt.mpr (by omega)]
      | false =>
          obtain ⟨secondInt, _⟩ := toInt_plus second secondSign
          rw [i256Sign_minus first firstSign, i256Sign_plus second secondSign,
            compare_lt_iff_lt.mpr (by omega)]
          by_cases zero : second = 0
          · simp only [zero, if_true]
          · simp only [zero, if_false]
  | false =>
      obtain ⟨firstInt, firstZero⟩ := toInt_plus first firstSign
      cases secondSign : second.msb with
      | true =>
          obtain ⟨secondInt, secondNegative⟩ := toInt_minus second secondSign
          rw [i256Sign_plus first firstSign, i256Sign_minus second secondSign,
            compare_gt_iff_gt.mpr (by omega)]
          by_cases zero : first = 0
          · simp only [zero, if_true]
          · simp only [zero, if_false]
      | false =>
          obtain ⟨secondInt, secondZero⟩ := toInt_plus second secondSign
          rw [i256Sign_plus first firstSign, i256Sign_plus second secondSign]
          have natural : compare first.toNat second.toNat = compare first.toInt second.toInt := by
            rw [firstInt, secondInt]
            rcases Nat.lt_trichotomy first.toNat second.toNat with below | same | above
            · rw [compare_lt_iff_lt.mpr below, compare_lt_iff_lt.mpr (by omega)]
            · rw [compare_eq_iff_eq.mpr same, compare_eq_iff_eq.mpr (by omega)]
            · rw [compare_gt_iff_gt.mpr above, compare_gt_iff_gt.mpr (by omega)]
          rw [← natural]
          by_cases first0 : first = 0 <;> by_cases second0 : second = 0
          · simp only [first0, second0, if_true]
            exact (compare_eq_iff_eq.mpr rfl).symm
          · simp only [first0, second0, if_true, if_false]
            exact (compare_lt_iff_lt.mpr (by
              have some_ := mt secondZero.mpr second0
              have zero : (0 : U256).toNat = 0 := rfl
              omega)).symm
          · simp only [first0, second0, if_true, if_false]
            exact (compare_gt_iff_gt.mpr (by
              have some_ := mt firstZero.mpr first0
              have zero : (0 : U256).toNat = 0 := rfl
              omega)).symm
          · simp only [first0, second0, if_false]

/-! Limbs. -/

theorem limb_eq (index : Nat) : limb value index = value.toNat / 2 ^ (64 * index) % 2 ^ 64 := by
  rw [limb, Nat.shiftRight_eq_div_pow]

theorem oneLimb_iff : oneLimb value = true ↔ value.toNat ≤ U64_MAX := by
  have bounded := value.isLt
  unfold oneLimb U64_MAX
  rw [limb_eq, limb_eq, limb_eq, decide_eq_true_iff]
  constructor
  · rintro ⟨one, two, three⟩
    omega
  · intro small
    omega

theorem asU64Saturated_eq : asU64Saturated value = min value.toNat U64_MAX := by
  unfold asU64Saturated
  by_cases small : value.toNat ≤ U64_MAX
  · rw [if_pos ((oneLimb_iff value).mpr small), limb_eq]
    unfold U64_MAX at small ⊢
    omega
  · rw [if_neg (mt (oneLimb_iff value).mp small)]
    omega

/-- Shifting by a saturated amount is shifting by the amount. -/
theorem shiftLeft_asU64Saturated (amount : U256) :
    value <<< asU64Saturated amount = value <<< amount.toNat := by
  rw [asU64Saturated_eq]
  rcases Nat.le_total amount.toNat U64_MAX with small | large
  · rw [Nat.min_eq_left small]
  · rw [Nat.min_eq_right large, BitVec.shiftLeft_eq_zero (by decide),
      BitVec.shiftLeft_eq_zero (Nat.le_trans (by decide) large)]

theorem shiftRight_asU64Saturated (amount : U256) :
    value >>> asU64Saturated amount = value >>> amount.toNat := by
  rw [asU64Saturated_eq]
  rcases Nat.le_total amount.toNat U64_MAX with small | large
  · rw [Nat.min_eq_left small]
  · rw [Nat.min_eq_right large, BitVec.ushiftRight_eq_zero (by decide),
      BitVec.ushiftRight_eq_zero (Nat.le_trans (by decide) large)]

theorem sarWord_eq (amount : U256) : sarWord amount value = value.sshiftRight amount.toNat := by
  have far : 256 ≤ amount ↔ 256 ≤ amount.toNat := Iff.rfl
  unfold sarWord
  cases sign : value.msb with
  | true =>
      obtain ⟨_, positive, _⟩ := neg_toNat value sign
      have some_ : -value ≠ 0 := by
        intro zero
        rw [zero] at positive
        exact absurd positive (by decide)
      have complement : ~~~value = -value - 1 := BitVec.not_eq_neg_add value
      have negated : ∀ word : U256, -(word + 1) = ~~~word := by
        intro word
        rw [BitVec.not_eq_neg_add]
        exact BitVec.neg_add
      rw [i256Sign_minus value sign, BitVec.sshiftRight_eq_of_msb_true sign, complement]
      by_cases large : 256 ≤ amount.toNat
      · simp only [some_, far, large, if_true, or_true]
        have zero : (-value - 1) >>> amount.toNat = 0 := BitVec.ushiftRight_eq_zero large
        rw [zero]
        decide
      · simp only [some_, far, large, if_false, if_true, or_self, twoCompl]
        exact negated _
  | false =>
      rw [i256Sign_plus value sign, BitVec.sshiftRight_eq_of_msb_false sign]
      by_cases large : 256 ≤ amount.toNat
      · have zero : value >>> amount.toNat = 0 := BitVec.ushiftRight_eq_zero large
        rw [zero]
        by_cases none_ : value = 0 <;> simp only [none_, far, large, if_true, if_false, or_true]
      · by_cases none_ : value = 0
        · subst none_
          have zero : (0 : U256) >>> amount.toNat = 0 := BitVec.zero_ushiftRight
          rw [zero]
          simp only [if_true, true_or]
        · simp only [none_, far, large, if_false, or_self]

theorem getLsbD_mask {bitIndex : Nat} (small : bitIndex < 256) (index : Nat) :
    (((1 : U256) <<< bitIndex) - 1).getLsbD index = decide (index < bitIndex) := by
  have power : 2 ^ bitIndex < 2 ^ 256 := Nat.pow_lt_pow_right (by decide) small
  have value : (((1 : U256) <<< bitIndex) - 1).toNat = 2 ^ bitIndex - 1 := by
    have one : (1 : U256).toNat = 1 := rfl
    have positive : 0 < 2 ^ bitIndex := Nat.two_pow_pos bitIndex
    rw [BitVec.toNat_sub, BitVec.toNat_shiftLeft, one, Nat.one_shiftLeft,
      Nat.mod_eq_of_lt power]
    omega
  rw [BitVec.getLsbD, value, Nat.testBit_two_pow_sub_one]

/-- Sign extension, from the byte that the first operand counts from the right. -/
theorem signExtendWord_eq : signExtendWord first second =
    if first.toNat < 32 then (second.setWidth (8 * first.toNat + 8)).signExtend 256
    else second := by
  have small : first < 32 ↔ first.toNat < 32 := Iff.rfl
  unfold signExtendWord
  by_cases inside : first.toNat < 32
  · rw [if_pos (small.mpr inside), if_pos inside]
    have index : limb first 0 = first.toNat := by
      rw [limb_eq]
      omega
    rw [index]
    have msb : (second.setWidth (8 * first.toNat + 8)).msb =
        second.getLsbD (8 * first.toNat + 7) := by
      rw [BitVec.msb_eq_getLsbD_last, BitVec.getLsbD_setWidth]
      simp
    apply BitVec.eq_of_getLsbD_eq
    intro bit inBits
    rw [BitVec.getLsbD_signExtend, BitVec.getLsbD_setWidth, msb]
    have mask := getLsbD_mask (show 8 * first.toNat + 7 < 256 by omega) bit
    simp only
    cases sign : second.getLsbD (8 * first.toNat + 7) with
    | true =>
        rw [if_pos rfl, BitVec.getLsbD_or, BitVec.getLsbD_not, mask]
        by_cases below : bit < 8 * first.toNat + 8
        · by_cases last : bit = 8 * first.toNat + 7
          · subst last
            simp [sign, inBits]
          · have lower : bit < 8 * first.toNat + 7 := by omega
            simp [below, lower, inBits]
        · have upper : ¬ bit < 8 * first.toNat + 7 := by omega
          simp [below, upper, inBits]
    | false =>
        rw [if_neg Bool.false_ne_true, BitVec.getLsbD_and, mask]
        by_cases below : bit < 8 * first.toNat + 8
        · by_cases last : bit = 8 * first.toNat + 7
          · subst last
            simp [sign]
          · have lower : bit < 8 * first.toNat + 7 := by omega
            simp [below, lower, inBits]
        · have upper : ¬ bit < 8 * first.toNat + 7 := by omega
          simp [below, upper]
  · rw [if_neg (mt small.mp inside), if_neg inside]

theorem powBits_toNat (base : U256) (exponent : Nat) :
    (powBits base exponent.bits).toNat = base.toNat ^ exponent % 2 ^ 256 := by
  induction exponent using Nat.binaryRec' generalizing base with
  | zero => rfl
  | bit bit exponent notLeading ih =>
      have squared : (base * base).toNat = base.toNat ^ 2 % 2 ^ 256 := by
        rw [BitVec.toNat_mul, sq]
      have power : ((base * base).toNat ^ exponent) % 2 ^ 256 =
          base.toNat ^ (2 * exponent) % 2 ^ 256 := by
        rw [squared, ← Nat.pow_mod, ← pow_mul]
      rw [Nat.bits_append_bit exponent bit notLeading, powBits]
      cases bit with
      | true =>
          have odd : Nat.bit true exponent = 2 * exponent + 1 := rfl
          rw [if_pos rfl, BitVec.toNat_mul, ih, power, odd, Nat.mul_mod_mod, Nat.mul_comm,
            ← Nat.pow_succ]
      | false =>
          exact (ih (base * base)).trans power

/-- Exponentiation, with what does not fit cut off. -/
theorem wrappingPow_eq (base exponent : U256) :
    wrappingPow base exponent = BitVec.ofNat 256 (base.toNat ^ exponent.toNat) := by
  apply BitVec.eq_of_toNat_eq
  rw [wrappingPow, powBits_toNat, BitVec.toNat_ofNat]

/-- One bit, moved to the lowest place. -/
theorem toNat_bit {place : Nat} (inside : place < 256) :
    ((value &&& ((1 : U256) <<< place)) >>> place).toNat = value.toNat / 2 ^ place % 2 := by
  have power : 2 ^ place < 2 ^ 256 := Nat.pow_lt_pow_right (by decide) inside
  have one : (1 : U256).toNat = 1 := rfl
  have mask : ((1 : U256) <<< place).toNat = 2 ^ place := by
    rw [BitVec.toNat_shiftLeft, one, Nat.one_shiftLeft, Nat.mod_eq_of_lt power]
  rw [BitVec.toNat_ushiftRight, BitVec.toNat_and, mask, Nat.shiftRight_and_distrib,
    Nat.shiftRight_eq_div_pow, Nat.shiftRight_eq_div_pow, Nat.div_self (Nat.two_pow_pos place),
    Nat.and_one_is_mod]

theorem byteWord_fold {position : Nat} (inside : position < 32) (small : first.toNat = position)
    (count : Nat) :
    ((List.range count).foldl (fun (ret : U256) i =>
      if i < 8 ∧ first < 32 then
        let o := asU64Saturated first
        let t := 255 - (7 - i + 8 * o)
        let bitMask : U256 := (1 : U256) <<< t
        let value := (second &&& bitMask) >>> t
        ret + (value <<< i)
      else ret) 0).toNat = second.toNat / 2 ^ (248 - 8 * position) % 2 ^ min count 8 := by
  have word : asU64Saturated first = position := by
    rw [asU64Saturated_eq, small]
    exact Nat.min_eq_left (Nat.le_trans (Nat.le_of_lt inside) (by decide))
  have below : first < 32 := by
    change first.toNat < 32
    omega
  induction count with
  | zero =>
      change 0 = _ % 2 ^ 0
      omega
  | succ count ih =>
      rw [List.range_succ, List.foldl_append, List.foldl_cons, List.foldl_nil]
      by_cases counted : count < 8
      · rw [if_pos ⟨counted, below⟩, Nat.min_eq_left (by omega)]
        rw [Nat.min_eq_left (by omega)] at ih
        generalize List.foldl _ _ _ = ret at ih ⊢
        simp only [word]
        have place : 255 - (7 - count + 8 * position) = 248 - 8 * position + count := by omega
        rw [place]
        have bit := toNat_bit second (show 248 - 8 * position + count < 256 by omega)
        generalize (second &&& _) >>> (248 - 8 * position + count) = lowest at bit ⊢
        have power : 2 ^ count ≤ 2 ^ 7 := Nat.pow_le_pow_right (by decide) (by omega)
        have shifted : (lowest <<< count).toNat = lowest.toNat * 2 ^ count := by
          rw [BitVec.toNat_shiftLeft, Nat.shiftLeft_eq]
          refine Nat.mod_eq_of_lt ?_
          have least : lowest.toNat ≤ 1 := by omega
          calc lowest.toNat * 2 ^ count ≤ 1 * 2 ^ 7 := Nat.mul_le_mul least power
            _ < 2 ^ 256 := by decide
        have low : second.toNat / 2 ^ (248 - 8 * position) % 2 ^ count < 2 ^ count :=
          Nat.mod_lt _ (Nat.two_pow_pos count)
        have bound : lowest.toNat * 2 ^ count ≤ 1 * 2 ^ 7 :=
          Nat.mul_le_mul (by omega) power
        rw [BitVec.toNat_add, shifted, ih, Nat.mod_eq_of_lt (by omega), bit,
          Nat.mod_pow_succ, Nat.div_div_eq_div_mul, ← Nat.pow_add, Nat.mul_comm (2 ^ count)]
      · rw [if_neg fun both => counted both.1, ih, Nat.min_eq_right (by omega),
          Nat.min_eq_right (by omega)]

/-- The byte that the first operand counts from the left. -/
theorem byteWord_eq : byteWord first second =
    if first.toNat < 32 then (second >>> (248 - 8 * first.toNat)) &&& 255 else 0 := by
  by_cases inside : first.toNat < 32
  · rw [if_pos inside]
    apply BitVec.eq_of_toNat_eq
    have mask : (255 : U256).toNat = 2 ^ 8 - 1 := rfl
    have eight : min 256 8 = 8 := rfl
    rw [byteWord, byteWord_fold first second inside rfl 256, BitVec.toNat_and,
      BitVec.toNat_ushiftRight, mask, Nat.and_two_pow_sub_one_eq_mod, Nat.shiftRight_eq_div_pow,
      eight]
  · rw [if_neg inside]
    have far : ¬ first < 32 := inside
    unfold byteWord
    simp only [far, and_false, if_false, List.foldl_fixed]

/-! The logarithm. -/

theorem size_limbs {low high : Nat} (small : low < 2 ^ 64) (nonzero : high ≠ 0) :
    (low + 2 ^ 64 * high).size = 64 + high.size := by
  have upper := Nat.lt_size_self high
  have positive : 0 < high.size := Nat.size_pos.mpr (Nat.pos_of_ne_zero nonzero)
  have lower : 2 ^ (high.size - 1) ≤ high := Nat.lt_size.mp (by omega)
  apply Nat.le_antisymm
  · rw [Nat.size_le, Nat.pow_add]
    calc low + 2 ^ 64 * high < 2 ^ 64 + 2 ^ 64 * high := by omega
      _ = 2 ^ 64 * (high + 1) := by rw [Nat.mul_add, Nat.mul_one, Nat.add_comm]
      _ ≤ 2 ^ 64 * 2 ^ high.size := Nat.mul_le_mul_left _ upper
  · have reached : 64 + (high.size - 1) < (low + 2 ^ 64 * high).size := by
      rw [Nat.lt_size, Nat.pow_add]
      exact Nat.le_add_left_of_le (Nat.mul_le_mul_left _ lower)
    omega

theorem log2_eq_size {n : Nat} (nonzero : n ≠ 0) : n.log2 = n.size - 1 := by
  have positive : 0 < n.size := Nat.size_pos.mpr (Nat.pos_of_ne_zero nonzero)
  rw [Nat.log2_eq_iff nonzero]
  refine ⟨Nat.lt_size.mp (by omega), ?_⟩
  rw [Nat.sub_add_cancel positive]
  exact Nat.lt_size_self n

theorem limbs_eq : value.toNat =
    limb value 0 + 2 ^ 64 * (limb value 1 + 2 ^ 64 * (limb value 2 + 2 ^ 64 * limb value 3)) := by
  have bounded := value.isLt
  simp only [limb_eq]
  omega

theorem limb_lt (index : Nat) : limb value index < 2 ^ 64 := Nat.mod_lt _ (by decide)

theorem size_le_64 {low : Nat} (small : low < 2 ^ 64) : low.size ≤ 64 := Nat.size_le.mpr small

/-- The loop finds the highest limb that is not zero. -/
theorem log2floor_eq (nonzero : value ≠ 0) : log2floor value = some value.toNat.log2 := by
  have some_ : value.toNat ≠ 0 := fun zero => nonzero (BitVec.eq_of_toNat_eq zero)
  have split := limbs_eq value
  have small := limb_lt value
  have size := fun index => size_le_64 (small index)
  have positive : ∀ index, limb value index ≠ 0 → 0 < (limb value index).size :=
    fun index set => Nat.size_pos.mpr (Nat.pos_of_ne_zero set)
  rw [log2floor, if_neg nonzero, log2_eq_size some_, split]
  congr 1
  unfold log2floorFrom leadingZeros
  by_cases third : limb value 3 = 0
  · rw [if_pos third]
    unfold log2floorFrom leadingZeros
    by_cases second : limb value 2 = 0
    · rw [if_pos second]
      unfold log2floorFrom leadingZeros
      by_cases first : limb value 1 = 0
      · rw [if_pos first]
        unfold log2floorFrom leadingZeros
        have lowest : limb value 0 ≠ 0 := by omega
        have size := size 0
        have positive := positive 0 lowest
        rw [if_neg lowest, third, second, first]
        simp only [Nat.mul_zero, Nat.add_zero]
        split <;> omega
      · have size1 := size 1
        have positive := positive 1 first
        rw [if_neg first, third, second]
        simp only [Nat.mul_zero, Nat.add_zero]
        rw [size_limbs (small 0) first]
        split <;> omega
    · have size2 := size 2
      have positive := positive 2 second
      rw [if_neg second, third]
      simp only [Nat.mul_zero, Nat.add_zero]
      rw [size_limbs (small 0) (by omega), size_limbs (small 1) second]
      split <;> omega
  · have size3 := size 3
    have positive := positive 3 third
    rw [if_neg third, size_limbs (small 0) (by omega), size_limbs (small 1) (by omega),
      size_limbs (small 2) third]
    simp only
    split <;> omega

/-- The cost of an exponentiation can always be computed. -/
theorem expCost_eq (spec : SpecId) (power : U256) : expCost spec power =
    some (some (if power = 0 then 10
      else 10 + (if spec.enabled .spuriousDragon then 50 else 10) *
        (power.toNat.log2 / 8 + 1))) := by
  by_cases zero : power = 0
  · rw [expCost, if_pos zero, if_pos zero]
    rfl
  · have small : power.toNat.log2 < 256 := by
      have some_ : power.toNat ≠ 0 := fun none_ => zero (BitVec.eq_of_toNat_eq none_)
      exact (Nat.log2_lt some_).mpr power.isLt
    have fits : Gas.EXP + (if spec.enabled .spuriousDragon then 50 else 10) *
        (power.toNat.log2 / 8 + 1) ≤ U64_MAX := by
      unfold U64_MAX Gas.EXP
      split <;> omega
    rw [expCost, if_neg zero, if_neg zero, log2floor_eq power zero]
    change some (addU64 _ _) = _
    rw [addU64, if_pos fits]
    rfl

theorem expCost_total (spec : SpecId) : ∃ cost, expCost spec value = some (some cost) ∧
    Gas.EXP ≤ cost := by
  refine ⟨_, expCost_eq spec value, ?_⟩
  split
  · exact Nat.le_refl _
  · exact Nat.le_add_right _ _

end Revm
