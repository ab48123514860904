import SeatReservation.Uuid
import SeatReservation.IsoDate
import Mathlib.Tactic.Ring

/-!
# Object schemas over JSON values

An event travels as a flat JSON object and is checked by a zod object schema, a
list of keys with one check each; unknown keys are dropped, so only the listed
ones matter.  The two string formats zod decides with regular expressions of its
own are a parameter (`Formats`); `Formats.Documented` states what the services
rely on: `.uuid()` is the hyphenated 8-4-4-4-12 form and `.datetime()` accepts
an ISO text with a four-digit year and an existing date, in UTC.
-/

namespace SeatReservation

/-- The JSON values that occur as members of an event. -/
inductive JsonValue where
  | string (s : String)
  | number (n : Int)
deriving DecidableEq, Repr

/-- A JSON object: its members in the order they were written. -/
abbrev JsonObject := List (String × JsonValue)

/-- The string formats that zod checks with a regular expression. -/
structure Formats where
  uuid : String → Bool
  datetime : String → Bool

/-- The length of a string in UTF-16 code units, which is what `.length(n)` counts. -/
def utf16Length (s : String) : Nat :=
  (s.toList.map fun c => if 65536 ≤ c.toNat then 2 else 1).sum

/-- The checks the event schemas use. -/
inductive Check where
  | uuid
  | datetime
  | literal (s : String)
  | oneOf (values : List String)
  | anyString
  | stringLength (n : Nat)
  | nonnegativeInt
  | optional (c : Check)

/-- Does a member (absent: `none`) pass a check? -/
def Check.accepts (fmt : Formats) : Check → Option JsonValue → Bool
  | .uuid, some (.string s) => fmt.uuid s
  | .datetime, some (.string s) => fmt.datetime s
  | .literal l, some (.string s) => s == l
  | .oneOf values, some (.string s) => values.contains s
  | .anyString, some (.string _) => true
  | .stringLength n, some (.string s) => utf16Length s == n
  | .nonnegativeInt, some (.number n) => 0 ≤ n
  | .optional _, none => true
  | .optional c, v => c.accepts fmt v
  | _, _ => false

/-- An object schema: the keys it lists with their checks. -/
abbrev Schema := List (String × Check)

/-- `schema.safeParse(object).success`. -/
def Schema.accepts (fmt : Formats) (schema : Schema) (object : JsonObject) : Bool :=
  schema.all fun (key, check) => check.accepts fmt (object.lookup key)

/-! ### The date-time format -/

/-- The value of a decimal digit. -/
def decimalValue (c : Char) : Option Nat :=
  if 48 ≤ c.toNat ∧ c.toNat ≤ 57 then some (c.toNat - 48) else none

/-- Read `w` decimal digits onto `acc`. -/
def readDigits : Nat → Nat → List Char → Option (Nat × List Char)
  | 0, acc, l => some (acc, l)
  | w + 1, acc, c :: l => (decimalValue c).bind fun d => readDigits w (10 * acc + d) l
  | _ + 1, _, [] => none

/-- Read a `w`-digit number followed by the separator `sep`. -/
def readField (w : Nat) (sep : Char) (l : List Char) : Option (Nat × List Char) :=
  (readDigits w 0 l).bind fun
    | (n, c :: rest) => if c = sep then some (n, rest) else none
    | (_, []) => none

/-- The end of a date-time text: an optional fraction of a second, then `Z`. -/
def isFractionZ : List Char → Bool
  | ['Z'] => true
  | '.' :: c :: l =>
      (decimalValue c).isSome && (l.dropWhile fun d => (decimalValue d).isSome) == ['Z']
  | _ => false

/-- The minutes of a date-time text and what follows them; seconds may be left out. -/
def isMinutesZ (l : List Char) : Bool :=
  match readDigits 2 0 l with
  | some (mi, 'Z' :: rest) => mi < 60 && rest.isEmpty
  | some (mi, ':' :: rest) =>
      match readDigits 2 0 rest with
      | some (s, tail) => mi < 60 && s < 60 && isFractionZ tail
      | none => false
  | _ => false

/-- `YYYY-MM-DDTHH:mm[:ss[.s+]]Z` with a date of the calendar. -/
def isDatetimeText (s : String) : Bool :=
  match readField 4 '-' s.toList with
  | none => false
  | some (y, l) =>
    match readField 2 '-' l with
    | none => false
    | some (m, l) =>
      match readField 2 'T' l with
      | none => false
      | some (d, l) =>
        match readField 2 ':' l with
        | none => false
        | some (h, l) =>
            1 ≤ m && 1 ≤ d && (monthLengths y)[m - 1]?.any (d ≤ ·) && h < 24 && isMinutesZ l

/-- What the services rely on: the UUID form, and date-times in UTC with a
    four-digit year, which is how a `Date` is written up to the year 9999. -/
structure Formats.Documented (fmt : Formats) : Prop where
  uuid : ∀ s, fmt.uuid s = isUuidText s
  datetime : ∀ t, fmt.datetime (toISOString t) = decide ((dateOf t).year ≤ 9999)

theorem decimalValue_digitChar : ∀ n < 10, decimalValue (digitChar n) = some n := by decide

theorem readDigits_pad (w n acc : Nat) (rest : List Char) :
    readDigits w acc (pad w n ++ rest) = some (10 ^ w * acc + n % 10 ^ w, rest) := by
  induction w generalizing acc with
  | zero => simp [readDigits, pad, Nat.mod_one]
  | succ w ih =>
    have hd : n / 10 ^ w % 10 < 10 := Nat.mod_lt _ (by decide)
    have hsplit : n % 10 ^ (w + 1) = 10 ^ w * (n / 10 ^ w % 10) + n % 10 ^ w := by
      rw [Nat.pow_succ, Nat.mod_mul, Nat.add_comm]
    simp only [pad, List.cons_append, readDigits, decimalValue_digitChar _ hd, Option.bind_some, ih]
    rw [hsplit]
    congr 2
    ring

theorem readField_pad {w n : Nat} (sep : Char) (rest : List Char) (h : n < 10 ^ w) :
    readField w sep (pad w n ++ sep :: rest) = some (n, rest) := by
  simp [readField, readDigits_pad, Nat.mod_eq_of_lt h]

/-! ### The date-times the services write -/

theorem monthLengths_le (y : Nat) : ∀ len ∈ monthLengths y, len ≤ 31 := by
  intro len hlen
  cases hleap : isLeapYear y with
  | true =>
    simp only [monthLengths, hleap, if_true] at hlen
    revert len
    decide
  | false =>
    simp only [monthLengths, hleap, Bool.false_eq_true, if_false] at hlen
    revert len
    decide

theorem isFractionZ_pad (n : Nat) : isFractionZ ('.' :: (pad 3 n ++ ['Z'])) = true := by
  have hdigit : ∀ m, decimalValue (digitChar (m % 10)) = some (m % 10) := fun m =>
    decimalValue_digitChar _ (Nat.mod_lt m (by decide))
  have hend : decimalValue 'Z' = none := by decide
  simp [pad, isFractionZ, hdigit, hend]

theorem isMinutesZ_time {mi s : Nat} (ms : Nat) (hmi : mi < 60) (hs : s < 60) :
    isMinutesZ (pad 2 mi ++ ':' :: (pad 2 s ++ '.' :: (pad 3 ms ++ ['Z']))) = true := by
  have hmi' : mi % 100 = mi := Nat.mod_eq_of_lt (by omega)
  have hs' : s % 100 = s := Nat.mod_eq_of_lt (by omega)
  simp [isMinutesZ, readDigits_pad, hmi', hs', hmi, hs, isFractionZ_pad]

/-- **The text of a date is a date-time text up to the year 9999**, and not after. -/
theorem isDatetimeText_toISOString (t : Nat) :
    isDatetimeText (toISOString t) = decide ((dateOf t).year ≤ 9999) := by
  obtain ⟨hlt, hm, hd, hlen⟩ := civil_valid (t / 86400000)
  have hmonths : (monthLengths (dateOf t).year).length = 12 := rfl
  change (dateOf t).month - 1 < (monthLengths (dateOf t).year).length at hlt
  change 1 ≤ (dateOf t).month at hm
  change 1 ≤ (dateOf t).day at hd
  change (dateOf t).day ≤ (monthLengths (dateOf t).year)[(dateOf t).month - 1] at hlen
  have hday : (dateOf t).day ≤ 31 := hlen.trans (monthLengths_le _ _ (List.getElem_mem hlt))
  unfold isDatetimeText toISOString
  rw [String.toList_ofList]
  by_cases hyear : (dateOf t).year ≤ 9999
  · have hhour : t % 86400000 / 3600000 < 24 := by omega
    simp only [isoYear, if_pos hyear, isoTime, List.append_assoc, List.cons_append]
    rw [readField_pad '-' _ (by omega)]
    dsimp only
    rw [readField_pad '-' _ (by omega)]
    dsimp only
    rw [readField_pad 'T' _ (by omega)]
    dsimp only
    rw [readField_pad ':' _ (by omega)]
    dsimp only
    rw [isMinutesZ_time _ (Nat.mod_lt _ (by decide)) (Nat.mod_lt _ (by decide))]
    simp [hm, hd, hhour, hyear, hlt, hlen]
  · have hsign : decimalValue '+' = none := by decide
    simp [isoYear, hyear, readField, readDigits, hsign]

end SeatReservation
