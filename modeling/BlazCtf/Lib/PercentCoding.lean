import Mathlib.Data.List.Basic

set_option autoImplicit false

namespace PercentCoding

/-- A text with its escapes read: a character as it stands, or the byte of an escape. -/
inductive Piece where
  | raw (char : Char)
  | byte (value : Nat)
  deriving DecidableEq

def hexDigit? (char : Char) : Option Nat :=
  if '0' ≤ char ∧ char ≤ '9' then some (char.toNat - '0'.toNat)
  else if 'a' ≤ char ∧ char ≤ 'f' then some (char.toNat - 'a'.toNat + 10)
  else if 'A' ≤ char ∧ char ≤ 'F' then some (char.toNat - 'A'.toNat + 10)
  else none

/-- A percent sign without two hexadecimal digits behind it stands for itself. -/
def pieces : List Char → List Piece
  | [] => []
  | '%' :: high :: low :: rest =>
      match hexDigit? high, hexDigit? low with
      | some first, some second => .byte (16 * first + second) :: pieces rest
      | _, _ => .raw '%' :: pieces (high :: low :: rest)
  | char :: rest => .raw char :: pieces rest

/-- A UTF-8 sequence that is not complete: how many bytes it lacks, the bits so far, and
the range of the next byte. -/
structure Pending where
  needed : Nat
  code : Nat
  lower : Nat
  upper : Nat

/-- What a byte gives (`none` for an error) and what it leaves pending. -/
abbrev Fed := List (Option Char) × Option Pending

/-- A byte that begins a sequence. -/
def lead (value : Nat) : Fed :=
  if value < 0x80 then ([some (Char.ofNat value)], none)
  else if 0xC2 ≤ value ∧ value ≤ 0xDF then ([], some ⟨1, value - 0xC0, 0x80, 0xBF⟩)
  else if 0xE0 ≤ value ∧ value ≤ 0xEF then
    -- neither an overlong sequence nor a surrogate
    ([], some ⟨2, value - 0xE0, if value = 0xE0 then 0xA0 else 0x80,
      if value = 0xED then 0x9F else 0xBF⟩)
  else if 0xF0 ≤ value ∧ value ≤ 0xF4 then
    ([], some ⟨3, value - 0xF0, if value = 0xF0 then 0x90 else 0x80,
      if value = 0xF4 then 0x8F else 0xBF⟩)
  else ([none], none)

/-- A byte that does not continue the sequence is an error, and begins one of its own. -/
def feed (value : Nat) : Option Pending → Fed
  | none => lead value
  | some pending =>
      if pending.lower ≤ value ∧ value ≤ pending.upper then
        let code := 64 * pending.code + (value - 0x80)
        if pending.needed = 1 then ([some (Char.ofNat code)], none)
        else ([], some ⟨pending.needed - 1, code, 0x80, 0xBF⟩)
      else (none :: (lead value).1, (lead value).2)

def decode : Option Pending → List Piece → List (Option Char)
  | none, [] => []
  | some _, [] => [none]
  | none, .raw char :: rest => some char :: decode none rest
  | some _, .raw char :: rest => none :: some char :: decode none rest
  | pending, .byte value :: rest =>
      (feed value pending).1 ++ decode (feed value pending).2 rest

/-- The decoding that refuses every error. -/
def strict (text : List Char) : Option (List Char) :=
  if .raw '%' ∈ pieces text then none else (decode none (pieces text)).mapM id

/-- The decoding that puts U+FFFD for every error. -/
def lossy (text : List Char) : List Char :=
  (decode none (pieces text)).map (·.getD (Char.ofNat 0xFFFD))

theorem pieces_of_not_mem {text : List Char} (absent : '%' ∉ text) :
    pieces text = text.map .raw := by
  induction text with
  | nil => rfl
  | cons char rest ih =>
      have other : char ≠ '%' := fun same => absent (same ▸ List.mem_cons_self)
      have behind := ih fun member => absent (List.mem_cons_of_mem _ member)
      rw [List.map_cons, ← behind, pieces]
      intro high low after same
      exact absurd same other

theorem decode_raw (text : List Char) : decode none (text.map .raw) = text.map some := by
  induction text with
  | nil => rfl
  | cons char rest ih => rw [List.map_cons, List.map_cons, decode, ih]

/-- A text without percent signs is its own decoding. -/
theorem lossy_of_not_mem {text : List Char} (absent : '%' ∉ text) : lossy text = text := by
  rw [lossy, pieces_of_not_mem absent, decode_raw, List.map_map]
  exact List.map_id'' (fun _ => rfl) text

example : lossy "a%C3%A9%ff%zz".toList = ['a', 'é', Char.ofNat 0xFFFD, '%', 'z', 'z'] := by
  decide +kernel

end PercentCoding
