import Mathlib.Data.Nat.Size
import BlazCtf.Lib.Bytes
import BlazCtf.Revm.Gas

set_option autoImplicit false

namespace Revm

/-- `value.as_limbs()[index]` -/
def limb (value : U256) (index : Nat) : Nat := value.toNat >>> (64 * index) % 2 ^ 64

/-- Whether all limbs but the lowest are zero. -/
def oneLimb (value : U256) : Bool := limb value 1 = 0 ∧ limb value 2 = 0 ∧ limb value 3 = 0

/-- `as_u64_saturated!` -/
def asU64Saturated (value : U256) : Nat := if oneLimb value then limb value 0 else U64_MAX

/-- `as_usize_or_fail!`, with `none` for the failure -/
def asUsize (value : U256) : Option Nat := if oneLimb value then some (limb value 0) else none

inductive Sign where
  | plus
  | minus
  | zero
  deriving DecidableEq

def MIN_NEGATIVE_VALUE : U256 := BitVec.ofNat 256 (2 ^ 255)

def twoCompl (op : U256) : U256 := -op

/-- The sign, and the value as the function leaves it. -/
def i256Sign (doTwoCompl : Bool) (val : U256) : Sign × U256 :=
  if !val.getLsbD 255 then if val = 0 then (.zero, val) else (.plus, val)
  else (.minus, if doTwoCompl then twoCompl val else val)

def u256RemoveSign (val : U256) : U256 := val &&& BitVec.ofNat 256 (2 ^ 255 - 1)

def i256Cmp (first second : U256) : Ordering :=
  let (firstSign, first) := i256Sign false first
  let (secondSign, second) := i256Sign false second
  match firstSign, secondSign with
  | .zero, .zero => .eq
  | .zero, .plus => .lt
  | .zero, .minus => .gt
  | .minus, .zero => .lt
  | .minus, .plus => .lt
  | .minus, .minus => compare first.toNat second.toNat
  | .plus, .minus => .gt
  | .plus, .zero => .gt
  | .plus, .plus => compare first.toNat second.toNat

def i256Div (first second : U256) : U256 :=
  let (secondSign, second) := i256Sign true second
  if secondSign = .zero then 0
  else
    let (firstSign, first) := i256Sign true first
    if firstSign = .minus ∧ first = MIN_NEGATIVE_VALUE ∧ second = 1 then
      twoCompl MIN_NEGATIVE_VALUE
    else
      let d := u256RemoveSign (first / second)
      if d = 0 then 0
      else
        match firstSign, secondSign with
        | .zero, .minus | .plus, .minus | .minus, .zero | .minus, .plus => twoCompl d
        | _, _ => d

/-- `None` is the panic of a remainder by zero. -/
def i256Mod (first second : U256) : Option U256 :=
  let (firstSign, first) := i256Sign true first
  if firstSign = .zero then some 0
  else
    let (_, second) := i256Sign true second
    if second = 0 then none
    else
      let r := u256RemoveSign (first % second)
      if r = 0 then some 0
      else if firstSign = .minus then some (twoCompl r)
      else some r

/-- `a.add_mod(b, m)`, which is zero for the modulus zero -/
def addMod (a b m : U256) : U256 :=
  if m = 0 then 0 else BitVec.ofNat 256 ((a.toNat + b.toNat) % m.toNat)

def mulMod (a b m : U256) : U256 :=
  if m = 0 then 0 else BitVec.ofNat 256 (a.toNat * b.toNat % m.toNat)

/-- Repeated squaring. The bits of the exponent come lowest first. -/
def powBits (base : U256) : List Bool → U256
  | [] => 1
  | bit :: bits => if bit then base * powBits (base * base) bits else powBits (base * base) bits

/-- `base.pow(exponent)` -/
def wrappingPow (base exponent : U256) : U256 := powBits base exponent.toNat.bits

def signExtendWord (op1 op2 : U256) : U256 :=
  if op1 < 32 then
    let bitIndex := 8 * limb op1 0 + 7
    let mask : U256 := ((1 : U256) <<< bitIndex) - 1
    if op2.getLsbD bitIndex then op2 ||| ~~~mask else op2 &&& mask
  else op2

def byteWord (op1 op2 : U256) : U256 :=
  (List.range 256).foldl (fun ret i =>
    if i < 8 ∧ op1 < 32 then
      let o := asU64Saturated op1
      let t := 255 - (7 - i + 8 * o)
      let bitMask : U256 := (1 : U256) <<< t
      let value := (op2 &&& bitMask) >>> t
      ret + (value <<< i)
    else ret) 0

def sarWord (op1 op2 : U256) : U256 :=
  let (valueSign, op2) := i256Sign true op2
  if op2 = 0 ∨ 256 ≤ op1 then
    match valueSign with
    | .plus | .zero => 0
    | .minus => twoCompl 1
  else
    let shift := op1.toNat
    match valueSign with
    | .plus | .zero => op2 >>> shift
    | .minus => twoCompl (((op2 - 1) >>> shift) + 1)

/-- The limbs that `push_slice` fills, lowest first, from the bytes of a push. -/
def pushSliceLimbs (slice : Bytes) : List Nat :=
  let n := slice.length
  let part (start stop : Nat) : Nat := Bytes.ofBE ((slice.take stop).drop start)
  if n < 8 then [part 0 n, 0, 0, 0]
  else if n < 16 then [part (n - 8) n, if n ≠ 8 then part 0 (n - 8) else 0, 0, 0]
  else if n < 24 then
    [part (n - 8) n, part (n - 16) (n - 8), if n ≠ 16 then part 0 (n - 16) else 0, 0]
  else
    [part (n - 8) n, part (n - 16) (n - 8), part (n - 24) (n - 16),
      if n ≠ 24 then part 0 (n - 24) else 0]

def ofLimbs (limbs : List Nat) : U256 :=
  BitVec.ofNat 256 (limbs.foldr (fun limb rest => limb + 2 ^ 64 * rest) 0)

def pushSliceWord (slice : Bytes) : U256 := ofLimbs (pushSliceLimbs slice)

/-- `limb.leading_zeros()` -/
def leadingZeros (limb : Nat) : Nat := 64 - limb.size

/-- The loop of `log2floor`, over the limbs that are left, highest first. -/
def log2floorFrom : List Nat → Nat → Nat
  | [], l => l
  | limb :: lower, l =>
      if limb = 0 then log2floorFrom lower (l - 64)
      else
        let l := l - leadingZeros limb
        if l = 0 then l else l - 1

/-- `None` is the panic of `assert!(value != U256::ZERO)`. -/
def log2floor (value : U256) : Option Nat :=
  if value = 0 then none
  else some (log2floorFrom [limb value 3, limb value 2, limb value 1, limb value 0] 256)

/-- `None` for a panic, `some none` for a cost that does not fit. -/
def expCost (spec : SpecId) (power : U256) : Option (Option Nat) :=
  if power = 0 then some (some Gas.EXP)
  else do
    let gasByte := if spec.enabled .spuriousDragon then 50 else 10
    let log ← log2floor power
    return addU64 Gas.EXP (gasByte * (log / 8 + 1))

end Revm
