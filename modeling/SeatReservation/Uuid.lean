import Mathlib.Tactic.Ring

/-!
# UUID values and UUID texts

Every identifier of the three services is a Postgres `UUID` column, a 128-bit
value, while requests, headers and events carry texts.  Two readers of such
texts matter and they disagree: the regular expression of `resolveTraceId` (and
of zod's `.uuid()`) wants the hyphenated 8-4-4-4-12 form, in either letter case,
while Postgres's input routine for the type also takes the digits without
hyphens, with hyphens after any even group of bytes, or inside braces.  A text
can therefore name a row and still not be a UUID for an event schema.
-/

namespace SeatReservation

/-- A value of the Postgres type `UUID`. -/
structure Uuid where
  bits : BitVec 128
deriving DecidableEq, Repr

instance (n : Nat) : OfNat Uuid n := ⟨⟨BitVec.ofNat 128 n⟩⟩

/-! ### Hexadecimal digits -/

/-- The value of a hexadecimal digit, in either letter case. -/
def hexValue (c : Char) : Option Nat :=
  let n := c.toNat
  if 48 ≤ n ∧ n ≤ 57 then some (n - 48)
  else if 97 ≤ n ∧ n ≤ 102 then some (n - 87)
  else if 65 ≤ n ∧ n ≤ 70 then some (n - 55)
  else none

/-- `[0-9a-fA-F]`. -/
def isHexDigit (c : Char) : Bool := (hexValue c).isSome

/-- The lower-case digit of a value below sixteen. -/
def hexDigit (n : Nat) : Char := Char.ofNat (if n < 10 then 48 + n else 87 + n)

theorem hexValue_hexDigit : ∀ n < 16, hexValue (hexDigit n) = some n := by decide

theorem isHexDigit_hexDigit {n : Nat} (h : n < 16) : isHexDigit (hexDigit n) = true := by
  simp [isHexDigit, hexValue_hexDigit n h]

/-! ### The canonical text of a value -/

/-- The 32 digits of a value, most significant first. -/
def Uuid.digits (u : Uuid) : List Char :=
  (List.range 32).map fun i => hexDigit (u.bits.toNat / 16 ^ (31 - i) % 16)

/-- The groups of 8, 4, 4, 4 and 12 digits, with hyphens between them. -/
def hyphenate (ds : List Char) : List Char :=
  ds.take 8 ++ '-' :: ((ds.drop 8).take 4 ++ '-' :: ((ds.drop 12).take 4 ++
    '-' :: ((ds.drop 16).take 4 ++ '-' :: (ds.drop 20))))

/-- The text Postgres and `randomUUID` write for a value. -/
def Uuid.toString (u : Uuid) : String := String.ofList (hyphenate u.digits)

theorem Uuid.length_digits (u : Uuid) : u.digits.length = 32 := by simp [Uuid.digits]

theorem Uuid.isHexDigit_of_mem_digits {u : Uuid} {c : Char} (h : c ∈ u.digits) :
    isHexDigit c = true := by
  simp only [Uuid.digits, List.mem_map] at h
  obtain ⟨i, -, rfl⟩ := h
  exact isHexDigit_hexDigit (Nat.mod_lt _ (by decide))

/-! ### The hyphenated form -/

/-- Read `n` hexadecimal digits. -/
def eatHex : Nat → List Char → Option (List Char)
  | 0, l => some l
  | _ + 1, [] => none
  | n + 1, c :: l => if isHexDigit c then eatHex n l else none

/-- Read one hyphen. -/
def eatHyphen : List Char → Option (List Char)
  | '-' :: l => some l
  | _ => none

/-- `/^[0-9a-f]{8}-[0-9a-f]{4}-[0-9a-f]{4}-[0-9a-f]{4}-[0-9a-f]{12}$/i`. -/
def isUuidText (s : String) : Bool :=
  ((((((((eatHex 8 s.toList).bind eatHyphen).bind (eatHex 4)).bind eatHyphen).bind
    (eatHex 4)).bind eatHyphen).bind (eatHex 4)).bind eatHyphen).bind (eatHex 12) == some []

theorem eatHex_append {ds : List Char} (rest : List Char)
    (h : ∀ c ∈ ds, isHexDigit c = true) :
    eatHex ds.length (ds ++ rest) = some rest := by
  induction ds with
  | nil => rfl
  | cons c ds ih =>
    have hc : isHexDigit c = true := h c (by simp)
    simp only [List.length_cons, List.cons_append, eatHex, hc, if_true]
    exact ih fun d hd => h d (by simp [hd])

/-- A group of exactly `n` digits is read off the front of a text. -/
theorem eatHex_group {n : Nat} {ds : List Char} (rest : List Char) (hn : ds.length = n)
    (h : ∀ c ∈ ds, isHexDigit c = true) : eatHex n (ds ++ rest) = some rest := by
  subst hn
  exact eatHex_append rest h

/-- **The canonical text of every value is a UUID text.** -/
theorem Uuid.isUuidText_toString (u : Uuid) : isUuidText u.toString = true := by
  have hlen := u.length_digits
  have hhex : ∀ c ∈ u.digits, isHexDigit c = true := fun c hc => u.isHexDigit_of_mem_digits hc
  have hsub : ∀ a b c, c ∈ (u.digits.drop a).take b → isHexDigit c = true := fun a b c hc =>
    hhex c (List.mem_of_mem_drop (List.mem_of_mem_take hc))
  have h8 : ∀ rest, eatHex 8 (u.digits.take 8 ++ rest) = some rest := fun rest =>
    eatHex_group rest (by simp [hlen]) fun c hc => hhex c (List.mem_of_mem_take hc)
  have h4 : ∀ a rest, a ≤ 16 → eatHex 4 ((u.digits.drop a).take 4 ++ rest) = some rest :=
    fun a rest ha => eatHex_group rest (by simp [hlen]; omega) (hsub a 4)
  have h12 : eatHex 12 (u.digits.drop 20) = some [] := by
    have h : eatHex 12 (u.digits.drop 20 ++ []) = some [] :=
      eatHex_group [] (by simp [hlen]) fun c hc => hhex c (List.mem_of_mem_drop hc)
    simpa using h
  simp [isUuidText, Uuid.toString, hyphenate, h8, h4, h12, eatHyphen]

/-! ### Postgres's reader -/

/-- A hyphen is skipped after a byte with an odd index other than the last one;
    `n` bytes are left to read. -/
def skipHyphen (n : Nat) : List Char → List Char
  | '-' :: l => if n % 2 = 0 ∧ 0 < n then l else '-' :: l
  | l => l

/-- Read `n` bytes of two digits each, most significant first, onto `acc`. -/
def readBytes : Nat → Nat → List Char → Option (Nat × List Char)
  | 0, acc, l => some (acc, l)
  | n + 1, acc, c :: d :: l =>
      match hexValue c, hexValue d with
      | some hi, some lo => readBytes n (256 * acc + 16 * hi + lo) (skipHyphen n l)
      | _, _ => none
  | _ + 1, _, _ => none

/-- The input routine of the type `UUID`: sixteen bytes, optionally in braces. -/
def Uuid.ofText (s : String) : Option Uuid :=
  match s.toList with
  | '\x7b' :: l =>
      match readBytes 16 0 l with
      | some (n, ['\x7d']) => some ⟨BitVec.ofNat 128 n⟩
      | _ => none
  | l =>
      match readBytes 16 0 l with
      | some (n, []) => some ⟨BitVec.ofNat 128 n⟩
      | _ => none

/-- A character of a UUID in any of its spellings. -/
def isUuidChar (c : Char) : Bool :=
  isHexDigit c || c == '-' || c == '\x7b' || c == '\x7d'

theorem mem_of_mem_skipHyphen {n : Nat} {l : List Char} {c : Char} (h : c ∈ l) :
    c ∈ skipHyphen n l ∨ c = '-' := by
  unfold skipHyphen
  split
  · split
    · rcases List.mem_cons.mp h with h | h
      · exact Or.inr h
      · exact Or.inl h
    · exact Or.inl h
  · exact Or.inl h

theorem readBytes_chars {n acc m : Nat} {l rest : List Char}
    (h : readBytes n acc l = some (m, rest)) :
    ∀ c ∈ l, c ∈ rest ∨ isHexDigit c = true ∨ c = '-' := by
  induction n generalizing acc l with
  | zero =>
    intro c hc
    cases h
    exact Or.inl hc
  | succ n ih =>
    match l with
    | [] => simp [readBytes] at h
    | [_] => simp [readBytes] at h
    | c :: d :: l =>
      cases hhi : hexValue c with
      | none => simp [readBytes, hhi] at h
      | some hi =>
        cases hlo : hexValue d with
        | none => simp [readBytes, hhi, hlo] at h
        | some lo =>
          simp only [readBytes, hhi, hlo] at h
          intro x hx
          rcases List.mem_cons.mp hx with rfl | hx
          · exact Or.inr (Or.inl (by simp [isHexDigit, hhi]))
          · rcases List.mem_cons.mp hx with rfl | hx
            · exact Or.inr (Or.inl (by simp [isHexDigit, hlo]))
            · rcases mem_of_mem_skipHyphen hx with hx | hx
              · exact ih h x hx
              · exact Or.inr (Or.inr hx)

theorem Uuid.ofText_chars {s : String} {u : Uuid} (h : Uuid.ofText s = some u) :
    ∀ c ∈ s.toList, isUuidChar c = true := by
  have hread : ∀ {m : Nat} {l rest : List Char}, readBytes 16 0 l = some (m, rest) →
      (∀ c ∈ rest, isUuidChar c = true) → ∀ c ∈ l, isUuidChar c = true := by
    intro m l rest hread hrest c hc
    rcases readBytes_chars hread c hc with hin | hhex | rfl
    · exact hrest c hin
    · simp [isUuidChar, hhex]
    · decide
  unfold Uuid.ofText at h
  split at h
  · rename_i l hlist
    split at h
    · rename_i n hbytes
      rw [hlist]
      intro c hc
      rcases List.mem_cons.mp hc with rfl | hc
      · decide
      · exact hread hbytes (by simp [isUuidChar]) c hc
    · cases h
  · split at h
    · rename_i n hbytes
      exact hread hbytes (by simp)
    · cases h

example : Uuid.ofText "00000000-0000-0000-0000-000000000001" = some 1 := by decide

example : Uuid.ofText "00000000000000000000000000000001" = some 1 ∧
    isUuidText "00000000000000000000000000000001" = false := by decide

/-- A text that Postgres reads as a UUID, with the value it reads. -/
structure UuidText where
  text : String
  uuid : Uuid
  reads : Uuid.ofText text = some uuid

end SeatReservation
