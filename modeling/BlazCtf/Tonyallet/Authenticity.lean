import BlazCtf.Tonyallet.InitData

set_option autoImplicit false

namespace Tonyallet

open UrlSearchParams (decodeComponent)

/-- A key as Telegram has them: lower-case letters and underscores. -/
def Plain (key : Text) : Prop := key.all fun char => char.isLower || char = '_'

instance instDecidablePlain (key : Text) : Decidable (Plain key) :=
  inferInstanceAs (Decidable (_ = true))

/-- Any other character is not in it. -/
theorem Plain.not_mem {key : Text} (plain : Plain key) {char : Char}
    (special : (char.isLower || char = '_') = false) : char ∉ key := by
  intro member
  have inside := List.all_eq_true.mp plain char member
  rw [special] at inside
  cases inside

/-- A set of fields that Telegram signs, in the order in which it signs them: every key
occurs once, `user` is one of them, and no value has a line feed. -/
structure Fields where
  entries : List (Text × Text)
  user : Text
  keys : (entries.map Prod.fst).Nodup
  plain : ∀ entry ∈ entries, Plain entry.1
  unbroken : ∀ entry ∈ entries, '\n' ∉ entry.2
  listed : (userKey, user) ∈ entries

def line (entry : Text × Text) : Text := entry.1 ++ '=' :: entry.2

def Fields.dataCheckString (fields : Fields) : Text :=
  ['\n'].intercalate (fields.entries.map line)

/-- The part of a line, or of a field, before its first equals sign. -/
def keyOf (text : Text) : Text := text.takeWhile (· ≠ '=')

/-- One of the fields that are checked is the user alone, and is read as it stands. -/
def UserReadable (encoded : Text) : Prop :=
  ∃ value, userKey ++ '=' :: value ∈ checkedFields encoded ∧ value ≠ [] ∧ '\n' ∉ value ∧
    decodeComponent value = value

section Lines

variable {α : Type} [BEq α] [LawfulBEq α]

/-- Joined texts are taken apart again, each with the separators that it had. -/
theorem splitOn_intercalate_eq_flatMap (separator : α) {texts : List (List α)}
    (some_text : texts ≠ []) :
    ([separator].intercalate texts).splitOn separator =
      texts.flatMap (List.splitOn separator) := by
  induction texts with
  | nil => contradiction
  | cons text rest ih =>
      cases rest with
      | nil => simp
      | cons next rest =>
          have joined : [separator].intercalate (text :: next :: rest) =
              text ++ separator :: [separator].intercalate (next :: rest) := by simp
          rw [joined, List.splitOn_append_cons_self, ih (List.cons_ne_nil next rest)]
          simp only [List.flatMap_cons]

/-- A text begins with the first of the texts that it is split into. -/
theorem splitOn_head (separator : α) (text : List α) :
    ∃ first rest, text.splitOn separator = first :: rest ∧
      (text = first ∨ ∃ behind, text = first ++ separator :: behind) := by
  cases split : text.splitOn separator with
  | nil => exact absurd split (List.splitOn_ne_nil separator text)
  | cons first rest =>
      refine ⟨first, rest, rfl, ?_⟩
      have joined : [separator].intercalate (text.splitOn separator) = text :=
        List.intercalate_splitOn separator
      rw [split] at joined
      cases rest with
      | nil => exact Or.inl (by simpa using joined.symm)
      | cons next rest =>
          exact Or.inr ⟨[separator].intercalate (next :: rest), by simpa using joined.symm⟩

end Lines

theorem keyOf_append {key behind : Text} (plain : '=' ∉ key) :
    keyOf (key ++ '=' :: behind) = key := by
  have all : ∀ char ∈ key, decide (char ≠ '=') = true := by
    intro char member
    simp only [ne_eq, decide_not, Bool.not_eq_eq_eq_not, Bool.not_true, decide_eq_false_iff_not]
    intro same
    exact plain (same ▸ member)
  rw [keyOf, List.takeWhile_append_of_pos all]
  simp

section Signed

variable {fields : Fields} {platform : Platform} {encoded : Text}

theorem keyOf_line (fields : Fields) {entry : Text × Text} (member : entry ∈ fields.entries) :
    keyOf (line entry) = entry.1 :=
  keyOf_append ((fields.plain entry member).not_mem (by decide))

/-- No line but the user's begins as it does. -/
theorem Fields.user_unique (fields : Fields) {value : Text}
    (signed : userKey ++ '=' :: value ∈ fields.entries.map line) : value = fields.user := by
  obtain ⟨entry, member, same⟩ := List.mem_map.mp signed
  have key : entry.1 = userKey := by
    rw [← keyOf_line fields member, same]
    exact keyOf_append (by decide)
  have only : entry = (userKey, fields.user) :=
    List.inj_on_of_nodup_map fields.keys member fields.listed key
  subst only
  exact (List.cons.inj (List.append_cancel_left same)).2.symm

/-- The lines of the fields that are checked are the lines that were signed. -/
theorem checkedLines_perm (some_field : checkedFields encoded ≠ [])
    (signed : platform.dataCheckString encoded = fields.dataCheckString) :
    ((checkedFields encoded).flatMap (List.splitOn '\n')).Perm (fields.entries.map line) := by
  have order := List.perm_insertionSort (fun a b => platform.localeCompare a b ≤ 0)
    (checkedFields encoded)
  have sorted_ne : (checkedFields encoded).insertionSort
      (fun a b => platform.localeCompare a b ≤ 0) ≠ [] := by
    intro empty
    rw [empty] at order
    exact some_field order.nil_eq.symm
  have unbroken : ∀ text ∈ fields.entries.map line, '\n' ∉ text := by
    intro text member inside
    obtain ⟨entry, among, rfl⟩ := List.mem_map.mp member
    rcases List.mem_append.mp inside with key | value
    · exact (fields.plain entry among).not_mem (by decide) key
    · rcases List.mem_cons.mp value with equals | value
      · cases equals
      · exact fields.unbroken entry among value
  have lines_ne : fields.entries.map line ≠ [] :=
    List.ne_nil_of_mem (List.mem_map_of_mem fields.listed)
  have split := congrArg (List.splitOn '\n') signed
  rw [Platform.dataCheckString, Fields.dataCheckString,
    splitOn_intercalate_eq_flatMap '\n' sorted_ne,
    List.splitOn_intercalate '\n' unbroken lines_ne] at split
  rw [← split]
  exact (order.flatMap_right (List.splitOn '\n')).symm

/-- A field that is checked begins with a line that was signed. -/
theorem checked_begins
    (lines : ((checkedFields encoded).flatMap (List.splitOn '\n')).Perm (fields.entries.map line))
    {part : Text} (checked : part ∈ checkedFields encoded) :
    ∃ entry ∈ fields.entries, line entry ∈ part.splitOn '\n' ∧
      ∃ behind, part = entry.1 ++ '=' :: behind := by
  obtain ⟨first, rest, split, shape⟩ := splitOn_head '\n' part
  have inside : first ∈ part.splitOn '\n' := by
    rw [split]
    exact List.mem_cons_self
  have signed : first ∈ fields.entries.map line :=
    lines.subset (List.mem_flatMap.mpr ⟨part, checked, inside⟩)
  obtain ⟨entry, member, rfl⟩ := List.mem_map.mp signed
  refine ⟨entry, member, inside, ?_⟩
  rcases shape with whole | ⟨behind, more⟩
  · exact ⟨entry.2, whole⟩
  · exact ⟨entry.2 ++ '\n' :: behind, by rw [more, line, List.append_assoc, List.cons_append]⟩

theorem decodeComponent_plain {text : Text} (plain : Plain text) :
    decodeComponent text = text := by
  have kept : ∀ char ∈ text, (if char = '+' then ' ' else char) = id char := by
    intro char member
    have other : char ≠ '+' := by
      intro same
      subst same
      exact plain.not_mem (by decide) member
    exact if_neg other
  have same : text.map (fun char => if char = '+' then ' ' else char) = text := by
    rw [List.map_congr_left kept, List.map_id]
  rw [decodeComponent, same]
  exact PercentCoding.lossy_of_not_mem (plain.not_mem (by decide))

theorem pair_fst {entry : Text × Text} (member : entry ∈ fields.entries) (behind : Text) :
    (UrlSearchParams.pair (entry.1 ++ '=' :: behind)).1 = entry.1 := by
  have key : keyOf (entry.1 ++ '=' :: behind) = entry.1 :=
    keyOf_append ((fields.plain entry member).not_mem (by decide))
  rw [UrlSearchParams.pair]
  rw [keyOf] at key
  rw [key]
  exact decodeComponent_plain (fields.plain entry member)

theorem spliced_append (arr : List Text) : (spliced arr).1 ++ (spliced arr).2 = arr := by
  unfold spliced
  split
  · exact List.take_append_drop _ arr
  · exact List.take_append_drop _ arr

/-- A text whose first field is checked begins with a key, not with a question mark. -/
theorem withoutMark_eq
    (lines : ((checkedFields encoded).flatMap (List.splitOn '\n')).Perm (fields.entries.map line))
    (some_field : checkedFields encoded ≠ []) : UrlSearchParams.withoutMark encoded = encoded := by
  obtain ⟨first, rest, split, shape⟩ := splitOn_head '&' encoded
  have checked : first ∈ checkedFields encoded := by
    have parts := spliced_append (encoded.splitOn '&')
    rw [split] at parts
    unfold checkedFields at some_field ⊢
    rw [split] at some_field ⊢
    cases kept : (spliced (first :: rest)).1 with
    | nil => exact absurd kept some_field
    | cons part others =>
        rw [kept, List.cons_append] at parts
        rw [(List.cons.inj parts).1]
        exact List.mem_cons_self
  obtain ⟨entry, member, -, behind, rfl⟩ := checked_begins lines checked
  have begins : ∃ more, encoded = entry.1 ++ '=' :: more := by
    rcases shape with whole | ⟨after, more⟩
    · exact ⟨behind, whole⟩
    · exact ⟨behind ++ '&' :: after, by rw [more, List.append_assoc, List.cons_append]⟩
  obtain ⟨more, rfl⟩ := begins
  unfold UrlSearchParams.withoutMark
  split
  · rename_i rest same
    cases key : entry.1 with
    | nil =>
        rw [key] at same
        cases same
    | cons char chars =>
        rw [key, List.cons_append] at same
        have mark : '?' ∈ entry.1 := by
          rw [key, (List.cons.inj same).1]
          exact List.mem_cons_self
        exact absurd mark ((fields.plain entry member).not_mem (by decide))
  · rfl

theorem splitOn_user {value : Text} (unbroken : '\n' ∉ value) :
    (userKey ++ '=' :: value).splitOn '\n' = [userKey ++ '=' :: value] := by
  apply List.splitOn_eq_singleton
  simp [userKey, unbroken]

theorem pair_user {value : Text} (stands : decodeComponent value = value) :
    UrlSearchParams.pair (userKey ++ '=' :: value) = (userKey, value) := by
  have key : decodeComponent userKey = userKey := decodeComponent_plain (by decide)
  exact Prod.ext key stands

/-- The field with the user is the first that is read as `user`. -/
theorem user_first {value : Text} {before after : List Text}
    (lines : ((checkedFields encoded).flatMap (List.splitOn '\n')).Perm (fields.entries.map line))
    (unbroken : '\n' ∉ value)
    (split : checkedFields encoded = before ++ (userKey ++ '=' :: value) :: after) :
    ∀ part ∈ before, (UrlSearchParams.pair part).1 ≠ userKey := by
  have keys : (fields.entries.map line).map keyOf = fields.entries.map Prod.fst := by
    rw [List.map_map]
    apply List.map_congr_left
    intro entry member
    exact keyOf_line fields member
  have once : (((checkedFields encoded).flatMap (List.splitOn '\n')).map keyOf).Nodup := by
    rw [(lines.map keyOf).nodup_iff, keys]
    exact fields.keys
  rw [split, List.flatMap_append, List.flatMap_cons, splitOn_user unbroken,
    List.map_append] at once
  have apart := List.disjoint_of_nodup_append once
  intro part member named
  have checked : part ∈ checkedFields encoded := by
    rw [split]
    exact List.mem_append_left _ member
  obtain ⟨entry, among, inside, behind, rfl⟩ := checked_begins lines checked
  rw [pair_fst among] at named
  have first : userKey ∈ (before.flatMap (List.splitOn '\n')).map keyOf := by
    rw [← named, ← keyOf_line fields among]
    exact List.mem_map_of_mem (List.mem_flatMap.mpr ⟨_, member, inside⟩)
  apply apart first
  rw [List.map_append, List.map_singleton, keyOf_append (by decide)]
  exact List.mem_append_left _ (List.mem_singleton_self _)

theorem userText_of_get {value : Text} (nonempty : value ≠ [])
    (got : UrlSearchParams.get encoded userKey = some value) : userText encoded = value := by
  rw [userText, got]
  cases value with
  | nil => contradiction
  | cons char rest => rfl

/-- The user that is read is the one that was signed. -/
theorem userText_eq (readable : UserReadable encoded)
    (signed : platform.dataCheckString encoded = fields.dataCheckString) :
    userText encoded = fields.user := by
  obtain ⟨value, checked, nonempty, unbroken, stands⟩ := readable
  have some_field : checkedFields encoded ≠ [] := List.ne_nil_of_mem checked
  have lines := checkedLines_perm some_field signed
  obtain ⟨before, after, split⟩ := List.append_of_mem checked
  have parts : encoded.splitOn '&' =
      before ++ (userKey ++ '=' :: value) :: (after ++ (spliced (encoded.splitOn '&')).2) := by
    have whole := spliced_append (encoded.splitOn '&')
    rw [checkedFields] at split
    rw [split, List.append_assoc, List.cons_append] at whole
    exact whole.symm
  have got : UrlSearchParams.get encoded userKey = some value := by
    have earlier : ((before.filter (· ≠ [])).map UrlSearchParams.pair).find?
        (·.1 = userKey) = none := by
      rw [List.find?_eq_none]
      intro named member
      obtain ⟨part, among, rfl⟩ := List.mem_map.mp member
      have other := user_first lines unbroken split part (List.mem_of_mem_filter among)
      simpa using other
    rw [UrlSearchParams.get, UrlSearchParams.pairs, withoutMark_eq lines some_field, parts,
      List.filter_append, List.filter_cons_of_pos (by simp), List.map_append, List.find?_append,
      earlier, List.map_cons, pair_user stands]
    simp
  have same : value = fields.user := by
    apply fields.user_unique
    apply lines.subset
    refine List.mem_flatMap.mpr ⟨_, checked, ?_⟩
    rw [splitOn_user unbroken]
    exact List.mem_singleton_self _
  rw [← same]
  exact userText_of_get nonempty got

end Signed

/-- The tag in the string, if it is the tag of a text, was issued for that text: nobody
but Telegram makes one. -/
def Unforgeable (platform : Platform) (issued : Fields → Prop) (encoded : Text) : Prop :=
  ∀ text, receivedHash encoded = some (platform.hmac text) →
    ∃ fields, issued fields ∧ fields.dataCheckString = text

theorem verify_eq {platform : Platform} {telegramInitData encoded : Text}
    (checking : platform.bypass = false)
    (decoded : decodeURIComponent telegramInitData = some encoded) :
    platform.verifyTelegramWebAppData telegramInitData =
      (platform.jsonParse (userText encoded)).map fun user =>
        ⟨receivedHash encoded = some (platform.hmac (platform.dataCheckString encoded)), user⟩ := by
  simp only [Platform.verifyTelegramWebAppData, checking, decoded, Bool.false_eq_true, ↓reduceIte,
    Option.bind_eq_bind, Option.bind_some, Option.pure_def, Option.map_eq_bind]
  rfl

/-- When the string is valid and its user stands alone in one of the checked fields, the
fields that are checked are those of a set that Telegram issued, and the user that is
returned is the JSON value of the user in it. -/
theorem user_signed (platform : Platform) (issued : Fields → Prop)
    (telegramInitData encoded : Text) (verified : Verified) (checking : platform.bypass = false)
    (decoded : decodeURIComponent telegramInitData = some encoded)
    (unforgeable : Unforgeable platform issued encoded) (readable : UserReadable encoded)
    (returned : platform.verifyTelegramWebAppData telegramInitData = some verified)
    (valid : verified.isValid = true) :
    ∃ fields, issued fields ∧ fields.dataCheckString = platform.dataCheckString encoded ∧
      platform.jsonParse fields.user = some verified.user := by
  rw [verify_eq checking decoded, Option.map_eq_some_iff] at returned
  obtain ⟨user, parsed, rfl⟩ := returned
  obtain ⟨fields, signed, same⟩ := unforgeable _ (of_decide_eq_true valid)
  refine ⟨fields, signed, same, ?_⟩
  rw [← userText_eq readable same.symm]
  exact parsed

theorem withoutMark_append (text rest : Text) :
    UrlSearchParams.withoutMark (text ++ '&' :: rest) =
      UrlSearchParams.withoutMark text ++ '&' :: rest := by
  cases text with
  | nil => rfl
  | cons char chars =>
      by_cases mark : char = '?'
      · subst mark
        rfl
      · simp [UrlSearchParams.withoutMark, mark]

/-- What stands behind the hash is not checked, and when no field reads as `user` it
says who the user is. -/
theorem user_behind_hash {encoded value : Text}
    (hashed : (encoded.splitOn '&').findIdx? isHash ≠ none)
    (unnamed : ∀ named ∈ UrlSearchParams.pairs encoded, named.1 ≠ userKey) (nonempty : value ≠ [])
    (single : '&' ∉ value) (stands : decodeComponent value = value) :
    checkedFields (encoded ++ '&' :: (userKey ++ '=' :: value)) = checkedFields encoded ∧
      receivedHash (encoded ++ '&' :: (userKey ++ '=' :: value)) = receivedHash encoded ∧
      userText (encoded ++ '&' :: (userKey ++ '=' :: value)) = value := by
  have alone : (userKey ++ '=' :: value).splitOn '&' = [userKey ++ '=' :: value] := by
    apply List.splitOn_eq_singleton
    simp [userKey, single]
  obtain ⟨hashIndex, found⟩ := Option.ne_none_iff_exists'.mp hashed
  have inside : hashIndex < (encoded.splitOn '&').length :=
    (List.findIdx?_eq_some_iff_getElem.mp found).1
  have split : spliced ((encoded ++ '&' :: (userKey ++ '=' :: value)).splitOn '&') =
      ((spliced (encoded.splitOn '&')).1,
        (spliced (encoded.splitOn '&')).2 ++ [userKey ++ '=' :: value]) := by
    rw [List.splitOn_append_cons_self, alone]
    simp only [spliced, List.findIdx?_append, found, Option.some_or]
    rw [List.take_append_of_le_length (by omega), List.drop_append_of_le_length (by omega)]
  refine ⟨?_, ?_, ?_⟩
  · rw [checkedFields, split, checkedFields]
  · have some_part : (spliced (encoded.splitOn '&')).2 ≠ [] := by
      simp only [spliced, found, ne_eq, List.drop_eq_nil_iff]
      omega
    rw [receivedHash, split, receivedHash, List.head?_append_of_ne_nil _ some_part]
  · have more : UrlSearchParams.pairs (encoded ++ '&' :: (userKey ++ '=' :: value)) =
        UrlSearchParams.pairs encoded ++ [(userKey, value)] := by
      rw [UrlSearchParams.pairs, withoutMark_append, List.splitOn_append_cons_self, alone,
        List.filter_append, List.map_append, List.filter_cons_of_pos (by simp)]
      simp only [List.filter_nil, List.map_cons, List.map_nil, pair_user stands]
      rfl
    have before : (UrlSearchParams.pairs encoded).find? (·.1 = userKey) = none := by
      rw [List.find?_eq_none]
      intro named member
      simpa using unnamed named member
    apply userText_of_get nonempty
    rw [UrlSearchParams.get, more, List.find?_append, before]
    simp

def numberUser (literal : String) : Json := .object [("id", .number literal)]

/-- The user with this digit for its id. -/
def userJson (digit : Char) : Text := ['\x7b', '"', 'i', 'd', '"', ':', digit, '\x7d']

/-- Telegram has signed the fields of user 1. -/
def sampleFields : Fields where
  entries := [("auth_date".toList, ['9']), (userKey, userJson '1')]
  user := userJson '1'
  keys := by decide +kernel
  plain := by decide +kernel
  unbroken := by decide +kernel
  listed := by decide +kernel

/-- The tag of the sample is `5f`. Its fields differ in their first letters. -/
def samplePlatform : Platform where
  bypass := false
  hmac := fun text => if text = sampleFields.dataCheckString then ['5', 'f'] else ['0', '0']
  localeCompare := fun a b => (a.headD 'a').toNat - (b.headD 'a').toNat
  jsonParse := fun text =>
    if text = userJson '1' then some (numberUser "1")
    else if text = userJson '2' then some (numberUser "2")
    else none

theorem sample_unforgeable {encoded : Text} (tag : receivedHash encoded = some ['5', 'f']) :
    Unforgeable samplePlatform (· = sampleFields) encoded := by
  intro text same
  refine ⟨sampleFields, rfl, ?_⟩
  by_contra other
  have unsigned : samplePlatform.hmac text = ['0', '0'] := if_neg (Ne.symm other)
  rw [tag, unsigned] at same
  revert same
  decide

def plainInit : Text := "user=%7b%22id%22:1%7d&auth_date=9&hash=5f".toList

def plainText : Text := "user=\x7b\"id\":1\x7d&auth_date=9&hash=5f".toList

/-- Both signed fields in one, and a user behind the hash. -/
def forgedInit : Text :=
  "auth_date=9%0Auser=%7b%22id%22:1%7d&hash=5f&user=%7b%22id%22:2%7d".toList

def forgedText : Text :=
  "auth_date=9\nuser=\x7b\"id\":1\x7d&hash=5f&user=\x7b\"id\":2\x7d".toList

theorem plain_init_signed :
    samplePlatform.verifyTelegramWebAppData plainInit = some ⟨true, numberUser "1"⟩ ∧
      ∃ fields, fields = sampleFields ∧
        fields.dataCheckString = samplePlatform.dataCheckString plainText ∧
        samplePlatform.jsonParse fields.user = some (numberUser "1") := by
  have decoded : decodeURIComponent plainInit = some plainText := by decide +kernel
  have returned : samplePlatform.verifyTelegramWebAppData plainInit =
      some ⟨true, numberUser "1"⟩ := by
    have tag : decide (receivedHash plainText = some (samplePlatform.hmac
        (samplePlatform.dataCheckString plainText))) = true := by decide +kernel
    have user : userText plainText = userJson '1' := by decide +kernel
    rw [verify_eq rfl decoded, user, tag]
    rfl
  have readable : UserReadable plainText :=
    ⟨userJson '1', by decide +kernel, by decide, by decide +kernel, by decide +kernel⟩
  exact ⟨returned, user_signed samplePlatform (· = sampleFields) plainInit plainText _ rfl decoded
    (sample_unforgeable (by decide +kernel)) readable returned rfl⟩

/-- The string of a stranger is valid, and returns user 2 for the fields of user 1. -/
theorem forged_init_accepted :
    decodeURIComponent forgedInit = some forgedText ∧
      Unforgeable samplePlatform (· = sampleFields) forgedText ∧
      samplePlatform.verifyTelegramWebAppData forgedInit = some ⟨true, numberUser "2"⟩ ∧
      samplePlatform.jsonParse sampleFields.user ≠ some (numberUser "2") := by
  have decoded : decodeURIComponent forgedInit = some forgedText := by decide +kernel
  refine ⟨decoded, sample_unforgeable (by decide +kernel), ?_, ?_⟩
  · have tag : decide (receivedHash forgedText = some (samplePlatform.hmac
        (samplePlatform.dataCheckString forgedText))) = true := by decide +kernel
    have user : userText forgedText = userJson '2' := by decide +kernel
    rw [verify_eq rfl decoded, user, tag]
    rfl
  · intro same
    have first : samplePlatform.jsonParse sampleFields.user = some (numberUser "1") := rfl
    rw [first] at same
    simp [numberUser] at same

end Tonyallet
