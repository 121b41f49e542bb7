import BlazCtf.Revm.Primitives

set_option autoImplicit false

namespace Revm

/-! `None` where an addition or a multiplication of `u64` or `i64` overflows. -/

def addU64 (a b : Nat) : Option Nat := if a + b ≤ U64_MAX then some (a + b) else none

def subU64 (a b : Nat) : Option Nat := if b ≤ a then some (a - b) else none

def mulU64 (a b : Nat) : Option Nat := if a * b ≤ U64_MAX then some (a * b) else none

def I64_MIN : Int := -9223372036854775808

def I64_MAX : Int := 9223372036854775807

def addI64 (a b : Int) : Option Int :=
  if I64_MIN ≤ a + b ∧ a + b ≤ I64_MAX then some (a + b) else none

def saturatingAdd (a b : Nat) : Nat := min (a + b) U64_MAX

def saturatingMul (a b : Nat) : Nat := min (a * b) U64_MAX

structure Gas where
  limit : Nat
  allUsedGas : Nat
  used : Nat
  memory : Nat
  refunded : Int
  deriving DecidableEq

namespace Gas

def new (limit : Nat) : Gas := ⟨limit, 0, 0, 0, 0⟩

def spend (gas : Gas) : Nat := gas.allUsedGas

/-- `None` where the subtraction overflows. -/
def remaining (gas : Gas) : Option Nat := subU64 gas.limit gas.allUsedGas

def eraseCost (gas : Gas) (returned : Nat) : Option Gas := do
  let used ← subU64 gas.used returned
  let allUsedGas ← subU64 gas.allUsedGas returned
  return { gas with used := used, allUsedGas := allUsedGas }

/-- `None` where the addition overflows. -/
def recordRefund (gas : Gas) (refund : Int) : Option Gas := do
  let refunded ← addI64 gas.refunded refund
  return { gas with refunded := refunded }

/-- Whether the cost is covered. `None` where `self.used += cost` overflows. -/
def recordCost (gas : Gas) (cost : Nat) : Option (Gas × Bool) :=
  match addU64 gas.allUsedGas cost with
  | none => some (gas, false)
  | some allUsedGas =>
      if gas.limit < allUsedGas then some (gas, false)
      else do
        let used ← addU64 gas.used cost
        return ({ gas with used := used, allUsedGas := allUsedGas }, true)

def recordMemory (gas : Gas) (gasMemory : Nat) : Gas × Bool :=
  if gasMemory ≤ gas.memory then (gas, true)
  else
    match addU64 gas.used gasMemory with
    | none => (gas, false)
    | some allUsedGas =>
        if gas.limit < allUsedGas then (gas, false)
        else ({ gas with memory := gasMemory, allUsedGas := allUsedGas }, true)

/-- The same as `recordRefund`, under the name the instructions use. -/
def gasRefund (gas : Gas) (refund : Int) : Option Gas := do
  let refunded ← addI64 gas.refunded refund
  return { gas with refunded := refunded }

/-! The constants. -/

def BASE : Nat := 2
def VERYLOW : Nat := 3
def LOW : Nat := 5
def MID : Nat := 8
def HIGH : Nat := 10
def JUMPDEST : Nat := 1
def SELFDESTRUCT : Int := 24000
def CREATE : Nat := 32000
def CALLVALUE : Nat := 9000
def NEWACCOUNT : Nat := 25000
def EXP : Nat := 10
def MEMORY : Nat := 3
def LOG : Nat := 375
def LOGDATA : Nat := 8
def LOGTOPIC : Nat := 375
def SHA3 : Nat := 30
def SHA3WORD : Nat := 6
def COPY : Nat := 3
def BLOCKHASH : Nat := 20
def CODEDEPOSIT : Nat := 200
def SSTORE_SET : Nat := 20000
def SSTORE_RESET : Nat := 5000
def REFUND_SSTORE_CLEARS : Int := 15000
def ACCESS_LIST_STORAGE_KEY : Nat := 1900
def COLD_SLOAD_COST : Nat := 2100
def COLD_ACCOUNT_ACCESS_COST : Nat := 2600
def WARM_STORAGE_READ_COST : Nat := 100
def INITCODE_WORD_COST : Nat := 2
def CALL_STIPEND : Nat := 2300

section Costs

variable (spec : SpecId)

def sloadCost (isCold : Bool) : Nat :=
  if spec.enabled .berlin then if isCold then COLD_SLOAD_COST else WARM_STORAGE_READ_COST
  else if spec.enabled .istanbul then 800
  else if spec.enabled .tangerine then 200
  else 50

def sstoreRefund (original current new : U256) : Int :=
  if spec.enabled .istanbul then
    let sstoreClearsSchedule : Int :=
      if spec.enabled .london then
        ((SSTORE_RESET - COLD_SLOAD_COST + ACCESS_LIST_STORAGE_KEY : Nat) : Int)
      else REFUND_SSTORE_CLEARS
    if current = new then 0
    else if original = current ∧ new = 0 then sstoreClearsSchedule
    else
      let clears : Int :=
        if original ≠ 0 then
          if current = 0 then -sstoreClearsSchedule
          else if new = 0 then sstoreClearsSchedule
          else 0
        else 0
      let resets : Int :=
        if original = new then
          let (gasSstoreReset, gasSload) :=
            if spec.enabled .berlin then (SSTORE_RESET - COLD_SLOAD_COST, WARM_STORAGE_READ_COST)
            else (SSTORE_RESET, sloadCost spec false)
          if original = 0 then ((SSTORE_SET - gasSload : Nat) : Int)
          else ((gasSstoreReset - gasSload : Nat) : Int)
        else 0
      clears + resets
  else if current ≠ 0 ∧ new = 0 then REFUND_SSTORE_CLEARS
  else 0

/-- How many words of 32 bytes there are, a last part counted. -/
def words (len : Nat) : Nat := if len % 32 = 0 then len / 32 else len / 32 + 1

def create2Cost (len : Nat) : Option Nat := do
  let shaAddup ← mulU64 SHA3WORD (words len)
  addU64 CREATE shaAddup

def verylowcopyCost (len : Nat) : Option Nat := do
  let copied ← mulU64 COPY (words len)
  addU64 VERYLOW copied

def extcodecopyCost (len : Nat) (isCold : Bool) : Option Nat := do
  let baseGas :=
    if spec.enabled .berlin then
      if isCold then COLD_ACCOUNT_ACCESS_COST else WARM_STORAGE_READ_COST
    else if spec.enabled .tangerine then 700
    else 20
  let copied ← mulU64 COPY (words len)
  addU64 baseGas copied

def accountAccessGas (isCold : Bool) : Nat :=
  if spec.enabled .berlin then
    if isCold then COLD_ACCOUNT_ACCESS_COST else WARM_STORAGE_READ_COST
  else if spec.enabled .istanbul then 700
  else 20

def logCost (n len : Nat) : Option Nat := do
  let data ← mulU64 LOGDATA len
  let logged ← addU64 LOG data
  addU64 logged (LOGTOPIC * n)

def sha3Cost (len : Nat) : Option Nat := do
  let hashed ← mulU64 SHA3WORD (words len)
  addU64 SHA3 hashed

def initcodeCost (len : Nat) : Nat := INITCODE_WORD_COST * words len

def sstoreCost (original current new : U256) (gas : Nat) (isCold : Bool) : Option Nat :=
  let (gasSload, gasSstoreReset) :=
    if spec.enabled .berlin then (WARM_STORAGE_READ_COST, SSTORE_RESET - COLD_SLOAD_COST)
    else (sloadCost spec isCold, SSTORE_RESET)
  let gasCost : Option Nat :=
    if spec.enabled .istanbul then
      if gas ≤ CALL_STIPEND then none
      else if new = current then some gasSload
      else if original = current then
        if original = 0 then some SSTORE_SET else some gasSstoreReset
      else some gasSload
    else if current = 0 ∧ new ≠ 0 then some SSTORE_SET
    else some gasSstoreReset
  gasCost.map fun gasCost =>
    if spec.enabled .berlin ∧ isCold then gasCost + COLD_SLOAD_COST else gasCost

def selfdestructCost (hadValue targetExists isCold : Bool) : Nat :=
  let shouldChargeTopup :=
    if spec.enabled .spuriousDragon then hadValue && !targetExists else !targetExists
  let selfdestructGasTopup := if spec.enabled .tangerine && shouldChargeTopup then 25000 else 0
  let selfdestructGas := if spec.enabled .tangerine then 5000 else 0
  let gas := selfdestructGas + selfdestructGasTopup
  if spec.enabled .berlin && isCold then gas + COLD_ACCOUNT_ACCESS_COST else gas

def xferCost (isCallOrCallcode transfersValue : Bool) : Nat :=
  if isCallOrCallcode && transfersValue then CALLVALUE else 0

def newCost (isCallOrStaticcall isNew transfersValue : Bool) : Nat :=
  if isCallOrStaticcall then
    if spec.enabled .spuriousDragon then if transfersValue && isNew then NEWACCOUNT else 0
    else if isNew then NEWACCOUNT else 0
  else 0

def callCost (value : U256) (isNew isCold isCallOrCallcode isCallOrStaticcall : Bool) : Nat :=
  let transfersValue := decide (value ≠ 0)
  let callGas :=
    if spec.enabled .berlin then
      if isCold then COLD_ACCOUNT_ACCESS_COST else WARM_STORAGE_READ_COST
    else if spec.enabled .tangerine then 700
    else 40
  callGas + xferCost isCallOrCallcode transfersValue +
    newCost spec isCallOrStaticcall isNew transfersValue

def memoryGas (a : Nat) : Nat :=
  saturatingAdd (saturatingMul MEMORY a) (saturatingMul a a / 512)

end Costs

end Gas

end Revm
