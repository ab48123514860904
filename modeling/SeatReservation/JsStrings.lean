/-!
# Strings as JavaScript splits and trims them

`String.prototype.split` with a separator of one character, `trim` and `slice`, on
strings of Unicode scalar values.
-/

namespace SeatReservation.JsStrings

/-- White space and line terminators of ECMAScript. -/
def isWhiteSpace (c : Char) : Bool :=
  c.val == 0x09 || c.val == 0x0A || c.val == 0x0B || c.val == 0x0C || c.val == 0x0D ||
  c.val == 0x20 || c.val == 0xA0 || c.val == 0x1680 || (0x2000 ≤ c.val && c.val ≤ 0x200A) ||
  c.val == 0x2028 || c.val == 0x2029 || c.val == 0x202F || c.val == 0x205F || c.val == 0x3000 ||
  c.val == 0xFEFF

def trim (s : String) : String :=
  .ofList ((s.toList.dropWhile isWhiteSpace).reverse.dropWhile isWhiteSpace).reverse

/-- The parts between the separators; there is always at least one. -/
def split (separator : Char) (s : String) : List String :=
  (s.toList.splitOn separator).map String.ofList

/-- The characters in front of the first occurrence of the separator, which is not empty. -/
def beforeFirst (separator : List Char) : List Char → List Char
  | [] => []
  | c :: l => if separator.isPrefixOf (c :: l) then [] else c :: beforeFirst separator l

/-- `s.split(separator)[0]`, for a separator of any length but zero. -/
def splitHead (separator s : String) : String := .ofList (beforeFirst separator.toList s.toList)

/-- `s.slice(n)`, behind `n` characters that are one code unit each. -/
def sliceFrom (n : Nat) (s : String) : String := .ofList (s.toList.drop n)

/-- `s.slice(0, n)`, of characters that are one code unit each. -/
def sliceTo (n : Nat) (s : String) : String := .ofList (s.toList.take n)

example : split ',' "a,,b" = ["a", "", "b"] ∧ trim " a b\t" = "a b" := by decide

/-! ### Strings with nothing to split or trim -/

theorem split_eq_singleton {separator : Char} {s : String} (h : separator ∉ s.toList) :
    split separator s = [s] := by
  rw [split, List.splitOn_eq_singleton h, List.map_singleton, String.ofList_toList]

theorem split_eq_cons {separator : Char} {text s rest : String} (h : separator ∉ s.toList)
    (htext : text.toList = s.toList ++ separator :: rest.toList) :
    split separator text = s :: split separator rest := by
  rw [split, htext, List.splitOn_append_cons_self_of_not_mem h, List.map_cons,
    String.ofList_toList, split]

theorem beforeFirst_cons {c d : Char} (h : c ≠ d) (separator l : List Char) :
    beforeFirst (c :: separator) (d :: l) = d :: beforeFirst (c :: separator) l := by
  rw [beforeFirst, if_neg (by simp [List.isPrefixOf, h])]

/-- Nor does the separator start where the second character is not its own. -/
theorem beforeFirst_cons_cons {c c' d' : Char} (h : c' ≠ d') (d : Char) (separator l : List Char) :
    beforeFirst (c :: c' :: separator) (d :: d' :: l) =
      d :: beforeFirst (c :: c' :: separator) (d' :: l) := by
  rw [beforeFirst, if_neg (by simp [List.isPrefixOf, h])]

theorem beforeFirst_append_of_not_mem {c : Char} {separator l : List Char} (h : c ∉ l)
    (rest : List Char) :
    beforeFirst (c :: separator) (l ++ rest) = l ++ beforeFirst (c :: separator) rest := by
  induction l with
  | nil => rfl
  | cons d l ih =>
    have hd : c ≠ d := fun heq => h (heq ▸ List.mem_cons_self)
    have hl : c ∉ l := fun hin => h (List.mem_cons_of_mem d hin)
    rw [List.cons_append, beforeFirst_cons hd, ih hl, List.cons_append]

theorem beforeFirst_separator (c : Char) (separator rest : List Char) :
    beforeFirst (c :: separator) (c :: separator ++ rest) = [] := by
  have hyes : (c :: separator).isPrefixOf (c :: (separator ++ rest)) = true := by
    rw [List.isPrefixOf_iff_prefix]
    exact List.prefix_append (c :: separator) rest
  rw [List.cons_append, beforeFirst, hyes, if_pos rfl]

theorem trim_eq_self_of_forall {s : String} (h : ∀ c ∈ s.toList, isWhiteSpace c = false) :
    trim s = s := by
  have hkeeps : ∀ l : List Char, (∀ c ∈ l, isWhiteSpace c = false) →
      l.dropWhile isWhiteSpace = l := by
    intro l hl
    cases l with
    | nil => rfl
    | cons c l => simp [hl c List.mem_cons_self]
  rw [trim, hkeeps _ h, hkeeps _ (by simpa using h), List.reverse_reverse, String.ofList_toList]

/-- A trimmed string has no white space at its end. -/
theorem dropWhile_reverse_of_trim {s : String} (h : trim s = s) :
    s.toList.reverse.dropWhile isWhiteSpace = s.toList.reverse := by
  have hlist := congrArg String.toList h
  rw [trim, String.toList_ofList] at hlist
  have hfront := List.dropWhile_suffix (l := s.toList) isWhiteSpace
  have hback := List.dropWhile_suffix (l := (s.toList.dropWhile isWhiteSpace).reverse) isWhiteSpace
  have hlength := congrArg List.length hlist
  have hle := hback.length_le
  rw [List.length_reverse] at hlength hle
  have hkept : s.toList.dropWhile isWhiteSpace = s.toList :=
    hfront.eq_of_length_le (by omega)
  rw [hkept] at hlist
  exact List.reverse_eq_iff.mp hlist

/-- Something in front of a trimmed string does not bring white space to its end. -/
theorem trim_append {s t : String} {c : Char} {l : List Char} (hs : s.toList = c :: l)
    (hc : isWhiteSpace c = false) (hne : t ≠ "") (ht : trim t = t) : trim (s ++ t) = s ++ t := by
  have hfront : (s ++ t).toList.dropWhile isWhiteSpace = (s ++ t).toList := by
    simp [hs, hc]
  have hback : (s ++ t).toList.reverse.dropWhile isWhiteSpace = (s ++ t).toList.reverse := by
    have hend := dropWhile_reverse_of_trim ht
    rw [String.toList_append, List.reverse_append, List.dropWhile_append, hend]
    simp [hne]
  rw [trim, hfront, hback, List.reverse_reverse, String.ofList_toList]

end SeatReservation.JsStrings
