import BlazCtf.Lib.Bytes

set_option autoImplicit false

namespace Buffer

/-- Read bytes of a buffer that is followed by zeros. -/
def load (data : List UInt8) (offset count : Nat) : List UInt8 :=
  (List.range count).map fun index => data.getD (offset + index) 0

/-- Write bytes into a buffer; what does not fit is lost. -/
def store : List UInt8 → Nat → List UInt8 → List UInt8
  | [], _, _ => []
  | byte :: rest, offset + 1, bytes => byte :: store rest offset bytes
  | byte :: rest, 0, [] => byte :: rest
  | _ :: rest, 0, byte :: bytes => byte :: store rest 0 bytes

@[simp] theorem length_load (data : List UInt8) (offset count : Nat) :
    (load data offset count).length = count := by
  simp [load]

@[simp] theorem length_store (data : List UInt8) (offset : Nat) (bytes : List UInt8) :
    (store data offset bytes).length = data.length := by
  fun_induction store data offset bytes with
  | case1 offset bytes => rfl
  | case2 byte rest offset bytes ih => rw [List.length_cons, ih, List.length_cons]
  | case3 byte rest => rfl
  | case4 first rest byte bytes ih => rw [List.length_cons, ih, List.length_cons]

theorem getD_store_inside {data : List UInt8} {offset : Nat} {bytes : List UInt8} {index : Nat}
    (inside : index < bytes.length) (fits : offset + bytes.length ≤ data.length) :
    (store data offset bytes).getD (offset + index) 0 = bytes.getD index 0 := by
  fun_induction store data offset bytes generalizing index with
  | case1 offset bytes =>
      simp only [List.length_nil] at fits
      omega
  | case2 byte rest offset bytes ih =>
      simp only [List.length_cons] at fits
      rw [show offset + 1 + index = (offset + index) + 1 by omega, List.getD_cons_succ]
      exact ih inside (by omega)
  | case3 byte rest =>
      simp only [List.length_nil] at inside
      omega
  | case4 first rest byte bytes ih =>
      simp only [List.length_cons] at fits inside
      cases index with
      | zero => rfl
      | succ index =>
          rw [show 0 + (index + 1) = (0 + index) + 1 by omega, List.getD_cons_succ,
            List.getD_cons_succ]
          exact ih (by omega) (by omega)

theorem getD_store_outside {data : List UInt8} {offset : Nat} {bytes : List UInt8} {index : Nat}
    (outside : index < offset ∨ offset + bytes.length ≤ index) :
    (store data offset bytes).getD index 0 = data.getD index 0 := by
  fun_induction store data offset bytes generalizing index with
  | case1 offset bytes => rfl
  | case2 byte rest offset bytes ih =>
      cases index with
      | zero => rfl
      | succ index =>
          rw [List.getD_cons_succ, List.getD_cons_succ]
          exact ih (by omega)
  | case3 byte rest => rfl
  | case4 first rest byte bytes ih =>
      simp only [List.length_cons] at outside
      cases index with
      | zero => omega
      | succ index =>
          rw [List.getD_cons_succ, List.getD_cons_succ]
          exact ih (by omega)

theorem load_store_same {data : List UInt8} {offset : Nat} {bytes : List UInt8}
    (fits : offset + bytes.length ≤ data.length) :
    load (store data offset bytes) offset bytes.length = bytes := by
  apply List.ext_getElem (by simp)
  intro index first second
  have stored := getD_store_inside second fits
  simp only [load, List.getElem_map, List.getElem_range, stored]
  rw [List.getD_eq_getElem?_getD, List.getElem?_eq_getElem second, Option.getD_some]

theorem load_store_apart {data : List UInt8} {offset start count : Nat} {bytes : List UInt8}
    (apart : start + count ≤ offset ∨ offset + bytes.length ≤ start) :
    load (store data offset bytes) start count = load data start count := by
  apply List.map_congr_left
  intro index member
  have below := List.mem_range.mp member
  exact getD_store_outside (by omega)

theorem load_blank {data : List UInt8} (blank : ∀ byte ∈ data, byte = 0) (offset count : Nat) :
    load data offset count = List.replicate count 0 := by
  apply List.eq_replicate_iff.mpr
  refine ⟨length_load data offset count, ?_⟩
  intro byte member
  obtain ⟨index, -, rfl⟩ := List.mem_map.mp member
  rw [List.getD_eq_getElem?_getD]
  cases found : data[offset + index]? with
  | none => rfl
  | some byte => exact blank byte (List.mem_of_getElem? found)

/-- The little-endian 64-bit word at an offset. -/
def loadU64 (data : List UInt8) (offset : Nat) : UInt64 :=
  UInt64.ofNat (Bytes.ofLE (load data offset 8))

def storeU64 (data : List UInt8) (offset : Nat) (value : UInt64) : List UInt8 :=
  store data offset (Bytes.toLE 8 value.toNat)

theorem loadU64_storeU64 {data : List UInt8} {offset : Nat} (fits : offset + 8 ≤ data.length)
    (value : UInt64) : loadU64 (storeU64 data offset value) offset = value := by
  have stored : load (storeU64 data offset value) offset (Bytes.toLE 8 value.toNat).length =
      Bytes.toLE 8 value.toNat := by
    apply load_store_same
    simpa using fits
  rw [Bytes.length_toLE] at stored
  have small : value.toNat < 256 ^ 8 := value.toNat_lt
  rw [loadU64, stored, Bytes.ofLE_toLE small]
  exact UInt64.ofNat_toNat

theorem loadU64_store_apart {data : List UInt8} {offset start : Nat} {bytes : List UInt8}
    (apart : start + 8 ≤ offset ∨ offset + bytes.length ≤ start) :
    loadU64 (store data offset bytes) start = loadU64 data start := by
  rw [loadU64, load_store_apart apart, loadU64]

theorem loadU64_blank {data : List UInt8} (blank : ∀ byte ∈ data, byte = 0) (offset : Nat) :
    loadU64 data offset = 0 := by
  rw [loadU64, load_blank blank]
  decide

end Buffer
