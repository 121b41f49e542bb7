import Mathlib.Algebra.GroupWithZero.Nat
import Mathlib.Logic.Function.Basic
import Mathlib.Data.List.Induction

set_option autoImplicit false

namespace Bytes

/-- The big-endian bytes of a number in a field of `width` bytes. -/
def toBE : Nat → Nat → List UInt8
  | 0, _ => []
  | width + 1, value => toBE width (value / 256) ++ [UInt8.ofNat value]

/-- The number a byte string spells in big-endian order. -/
def ofBE (bytes : List UInt8) : Nat :=
  bytes.foldl (fun value byte => value * 256 + byte.toNat) 0

@[simp] theorem length_toBE (width value : Nat) : (toBE width value).length = width := by
  induction width generalizing value with
  | zero => rfl
  | succ width ih => simp only [toBE, List.length_append, ih, List.length_singleton]

theorem ofBE_append_singleton (bytes : List UInt8) (byte : UInt8) :
    ofBE (bytes ++ [byte]) = ofBE bytes * 256 + byte.toNat := by
  simp only [ofBE, List.foldl_append, List.foldl_cons, List.foldl_nil]

theorem ofBE_toBE {width value : Nat} (fits : value < 256 ^ width) :
    ofBE (toBE width value) = value := by
  induction width generalizing value with
  | zero =>
      have zero : value = 0 := by omega
      subst zero
      rfl
  | succ width ih =>
      have quotient : value / 256 < 256 ^ width := by
        apply Nat.div_lt_of_lt_mul
        rw [← Nat.pow_succ']
        exact fits
      have byte : (UInt8.ofNat value).toNat = value % 256 := UInt8.toNat_ofNat'
      rw [toBE, ofBE_append_singleton, ih quotient, byte]
      omega

theorem ofBE_one_cons_pos (bytes : List UInt8) : 0 < ofBE (1 :: bytes) := by
  induction bytes using List.reverseRecOn with
  | nil => decide
  | append_singleton front last ih =>
      rw [← List.cons_append, ofBE_append_singleton]
      omega

/-- Behind a leading one the number tells byte strings of all lengths apart. -/
theorem ofBE_one_cons_injective : Function.Injective fun bytes => ofBE (1 :: bytes) := by
  intro first
  induction first using List.reverseRecOn with
  | nil =>
      intro second same
      induction second using List.reverseRecOn with
      | nil => rfl
      | append_singleton front last _ =>
          have positive := ofBE_one_cons_pos front
          have one : ofBE [1] = 1 := by decide
          simp only [← List.cons_append, ofBE_append_singleton, one] at same
          omega
  | append_singleton front last ih =>
      intro second same
      induction second using List.reverseRecOn with
      | nil =>
          have positive := ofBE_one_cons_pos front
          have one : ofBE [1] = 1 := by decide
          simp only [← List.cons_append, ofBE_append_singleton, one] at same
          omega
      | append_singleton otherFront otherLast _ =>
          simp only [← List.cons_append, ofBE_append_singleton] at same
          have small := last.toNat_lt
          have otherSmall := otherLast.toNat_lt
          have fronts : front = otherFront := by
            apply ih
            show ofBE (1 :: front) = ofBE (1 :: otherFront)
            omega
          have lasts : last = otherLast := by
            apply UInt8.toNat_inj.mp
            omega
          rw [fronts, lasts]

/-- Numbers that fit the field are told apart by their bytes. -/
theorem toBE_inj {width first second : Nat} (fits : first < 256 ^ width)
    (alsoFits : second < 256 ^ width) (same : toBE width first = toBE width second) :
    first = second := by
  rw [← ofBE_toBE fits, same, ofBE_toBE alsoFits]

/-- The little-endian bytes of a number in a field of `width` bytes. -/
def toLE (width value : Nat) : List UInt8 := (toBE width value).reverse

/-- The number a byte string spells in little-endian order. -/
def ofLE (bytes : List UInt8) : Nat := ofBE bytes.reverse

@[simp] theorem length_toLE (width value : Nat) : (toLE width value).length = width := by
  rw [toLE, List.length_reverse, length_toBE]

theorem ofLE_toLE {width value : Nat} (fits : value < 256 ^ width) :
    ofLE (toLE width value) = value := by
  rw [ofLE, toLE, List.reverse_reverse, ofBE_toBE fits]

end Bytes
