import Mathlib.Tactic.Ring

/-!
# `Date.prototype.toISOString`

A clock reading is a number of milliseconds since 1970-01-01T00:00:00Z.  The
year of a reading is the one whose days contain it, found by counting years off
from 1970, and the month is found the same way inside the year, so that the
calendar date is valid by construction (`civil_valid`).  Four-digit years are
written `YYYY-MM-DDTHH:mm:ss.sssZ`; a later year gets the expanded form with a
sign and six digits, which is not a date-time any more for the event schemas.
-/

namespace SeatReservation

/-! ### The calendar -/

def isLeapYear (y : Nat) : Bool := y % 4 == 0 && (y % 100 != 0 || y % 400 == 0)

def daysInYear (y : Nat) : Nat := if isLeapYear y then 366 else 365

/-- The lengths of the twelve months. -/
def monthLengths (y : Nat) : List Nat :=
  [31, if isLeapYear y then 29 else 28, 31, 30, 31, 30, 31, 31, 30, 31, 30, 31]

theorem sum_monthLengths (y : Nat) : (monthLengths y).sum = daysInYear y := by
  cases h : isLeapYear y <;> simp [monthLengths, daysInYear, h]

/-- Count years off a number of days; `fuel` bounds the number of years. -/
def splitYears : Nat → Nat → Nat → Nat × Nat
  | 0, y, d => (y, d)
  | fuel + 1, y, d =>
      if d < daysInYear y then (y, d) else splitYears fuel (y + 1) (d - daysInYear y)

/-- Count months off a number of days inside a year. -/
def splitMonths : List Nat → Nat → Nat → Nat × Nat
  | [], m, d => (m, d)
  | len :: rest, m, d => if d < len then (m, d) else splitMonths rest (m + 1) (d - len)

theorem daysInYear_pos (y : Nat) : 0 < daysInYear y := by
  unfold daysInYear; split <;> decide

/-- The day left after counting years off lies inside the year found. -/
theorem splitYears_lt {fuel y d : Nat} (h : d ≤ fuel) :
    (splitYears fuel y d).2 < daysInYear (splitYears fuel y d).1 := by
  induction fuel generalizing y d with
  | zero =>
    have hd : d = 0 := Nat.le_zero.mp h
    subst hd
    exact daysInYear_pos y
  | succ fuel ih =>
    simp only [splitYears]
    split
    · assumption
    · have := daysInYear_pos y
      exact ih (by omega)

/-- The day left after counting months off lies inside the month found. -/
theorem splitMonths_spec {lens : List Nat} {m d : Nat} (h : d < lens.sum) :
    ∃ i, (splitMonths lens m d).1 = m + i ∧
      ∃ hi : i < lens.length, (splitMonths lens m d).2 < lens[i] := by
  induction lens generalizing m d with
  | nil => simp at h
  | cons len rest ih =>
    simp only [splitMonths]
    split
    · exact ⟨0, rfl, by simp, by simpa⟩
    · rw [List.sum_cons] at h
      obtain ⟨i, hm, hi, hd⟩ := @ih (m + 1) (d - len) (by omega)
      exact ⟨i + 1, by rw [hm]; omega, by simpa using hi, by simpa using hd⟩

/-- A calendar date: year, month `1..12`, day of the month from 1. -/
structure Civil where
  year : Nat
  month : Nat
  day : Nat
deriving DecidableEq, Repr

/-- The day exists in its month. -/
def Civil.Valid (c : Civil) : Prop :=
  ∃ h : c.month - 1 < (monthLengths c.year).length,
    1 ≤ c.month ∧ 1 ≤ c.day ∧ c.day ≤ (monthLengths c.year)[c.month - 1]

/-- The date of a number of days since 1970-01-01. -/
def civil (days : Nat) : Civil :=
  let (y, d) := splitYears days 1970 days
  let (m, k) := splitMonths (monthLengths y) 1 d
  ⟨y, m, k + 1⟩

/-- **The date of every day exists in the calendar.** -/
theorem civil_valid (days : Nat) : (civil days).Valid := by
  have hy : (splitYears days 1970 days).2 < daysInYear (splitYears days 1970 days).1 :=
    splitYears_lt (Nat.le_refl days)
  rw [← sum_monthLengths] at hy
  obtain ⟨i, hm, hi, hd⟩ := @splitMonths_spec _ 1 _ hy
  have hsub : 1 + i - 1 = i := by omega
  simp only [Civil.Valid, civil, hm, hsub]
  exact ⟨hi, by omega, by omega, hd⟩

/-! ### The text -/

/-- The decimal digit of a value below ten. -/
def digitChar (n : Nat) : Char := Char.ofNat (48 + n)

/-- `n` decimal digits of a number, most significant first. -/
def pad : Nat → Nat → List Char
  | 0, _ => []
  | w + 1, n => digitChar (n / 10 ^ w % 10) :: pad w n

/-- Year and month of a date text, with the expanded form from year 10000 on. -/
def isoYear (y : Nat) : List Char := if y ≤ 9999 then pad 4 y else '+' :: pad 6 y

/-- The time of day of a number of milliseconds, `HH:mm:ss.sss`. -/
def isoTime (ms : Nat) : List Char :=
  pad 2 (ms / 3600000) ++ ':' :: (pad 2 (ms / 60000 % 60) ++ ':' ::
    (pad 2 (ms / 1000 % 60) ++ '.' :: pad 3 (ms % 1000)))

/-- The date of a clock reading. -/
def dateOf (t : Nat) : Civil := civil (t / 86400000)

/-- `new Date(t).toISOString()`. -/
def toISOString (t : Nat) : String :=
  let c := dateOf t
  String.ofList (isoYear c.year ++ '-' :: (pad 2 c.month ++ '-' :: (pad 2 c.day ++
    'T' :: (isoTime (t % 86400000) ++ ['Z']))))

example : toISOString 1709251199999 = "2024-02-29T23:59:59.999Z" := by decide +kernel

end SeatReservation
