import SeatReservation.Json
import Mathlib.Data.List.TakeWhile

/-!
# The JSON parser decides the grammar

A reader is sound when what it takes off a text is a text of what it returns
(`Sound`), and complete when it takes off every such text, given enough fuel and
something behind the text that does not go on with it (`Completes`).  Together:
the parser accepts exactly the texts of the grammar, with the value the grammar
gives them (`parse_eq_some_iff`).
-/

namespace SeatReservation.Json

/-! ### What the parser accepts is in the grammar -/

@[simp] theorem expect_eq_some {c : Char} {text rest : List Char} :
    expect c text = some rest ↔ text = c :: rest := by
  cases text with
  | nil => simp [expect]
  | cons d tail => by_cases hd : d = c <;> simp [expect, hd]

theorem expect_eq_none {c : Char} {text : List Char} :
    expect c text = none ↔ text.head? ≠ some c := by
  cases text with
  | nil => simp [expect]
  | cons d tail => by_cases hd : d = c <;> simp [expect, hd]

theorem exists_ws (text : List Char) : ∃ w, Ws w ∧ text = w ++ skipWs text :=
  ⟨text.takeWhile isWs, fun _ hc => List.mem_takeWhile_imp hc,
    (List.takeWhile_append_dropWhile).symm⟩

/-- What the reader takes off a text is one of the texts of what it returns. -/
def Sound {α : Type} (reader : Reader α) (R : List Char → α → Prop) : Prop :=
  ∀ text x rest, reader text = some (x, rest) → ∃ s, R s x ∧ text = s ++ rest

theorem char_sound : Sound char CharText := by
  intro text units rest h
  cases text with
  | nil => simp [char] at h
  | cons c tail =>
    rw [char] at h
    split at h
    · next hescape =>
      subst hescape
      unfold escape at h
      split at h
      · next a b c d tail =>
        obtain ⟨unit, hunit, heq⟩ := Option.map_eq_some_iff.mp h
        cases heq
        exact ⟨_, .hex hunit, rfl⟩
      · next c tail _ =>
        obtain ⟨unit, hunit, heq⟩ := Option.map_eq_some_iff.mp h
        cases heq
        exact ⟨_, .letter hunit, rfl⟩
      · cases h
    · next hescape =>
      split at h
      · cases h
      · next hplain =>
        cases h
        rw [not_or, Nat.not_lt] at hplain
        exact ⟨[c], .unescaped hplain.1 hescape hplain.2, rfl⟩

theorem string_sound : ∀ fuel, Sound (string fuel) StringText := by
  intro fuel
  induction fuel with
  | zero => intro text units rest h; cases h
  | succ fuel ih =>
    intro text units rest h
    rw [string] at h
    split at h
    · next tail hclose =>
      cases h
      exact ⟨_, .close, expect_eq_some.mp hclose⟩
    · simp only [bind, pure, Option.bind_eq_some_iff] at h
      obtain ⟨⟨units, tail⟩, hchar, ⟨more, rest⟩, hmore, heq⟩ := h
      cases heq
      obtain ⟨s, hs, rfl⟩ := char_sound _ _ _ hchar
      obtain ⟨s', hs', rfl⟩ := ih _ _ _ hmore
      exact ⟨s ++ s', .char hs hs', (List.append_assoc _ _ _).symm⟩

theorem keyword_sound {word : List Char} {v : Value} (h : Derives (.value v) word) :
    Sound (keyword word v) fun s v => Derives (.value v) s := by
  intro text v' rest hread
  obtain ⟨tail, htail, heq⟩ := Option.map_eq_some_iff.mp hread
  cases heq
  exact ⟨word, h, (List.append_eq_of_isPrefixOf?_eq_some htail).symm⟩

theorem number_sound : Sound number fun s v => Derives (.value v) s := by
  intro text v rest h
  rw [number] at h
  split at h
  · next hnumber =>
    cases h
    exact ⟨_, .number hnumber, (List.takeWhile_append_dropWhile).symm⟩
  · cases h

section Readers

variable {value : Reader Value} (hvalue : Sound value fun s v => Derives (.value v) s)
include hvalue

theorem element_sound : Sound (element value) fun s v => Derives (.element v) s := by
  intro text v rest h
  simp only [element, bind, pure, Option.bind_eq_some_iff] at h
  obtain ⟨⟨v, tail⟩, hread, heq⟩ := h
  cases heq
  obtain ⟨s, hs, htext⟩ := hvalue _ _ _ hread
  obtain ⟨w₁, hw₁, htext₁⟩ := exists_ws text
  obtain ⟨w₂, hw₂, htext₂⟩ := exists_ws tail
  refine ⟨_, .element hw₁ hs hw₂, ?_⟩
  calc text = w₁ ++ (s ++ tail) := by rw [← htext]; exact htext₁
    _ = w₁ ++ (s ++ (w₂ ++ skipWs tail)) := by rw [← htext₂]
    _ = w₁ ++ (s ++ w₂) ++ skipWs tail := by simp

theorem member_sound : Sound (member value) fun s m => Derives (.member m) s := by
  intro text m rest h
  simp only [member, bind, pure, Option.bind_eq_some_iff, expect_eq_some] at h
  obtain ⟨t₁, h₁, ⟨key, t₂⟩, h₂, t₃, h₃, ⟨v, t₄⟩, h₄, heq⟩ := h
  cases heq
  obtain ⟨w₁, hw₁, htext₁⟩ := exists_ws text
  obtain ⟨k, hk, rfl⟩ := string_sound _ _ _ _ h₂
  obtain ⟨w₂, hw₂, htext₂⟩ := exists_ws t₂
  obtain ⟨s, hs, rfl⟩ := element_sound hvalue _ _ _ h₄
  refine ⟨_, .member hw₁ hk hw₂ hs, ?_⟩
  rw [htext₁, h₁, htext₂, h₃]
  simp

end Readers

/-- Texts of the relation with commas between them. -/
inductive Separated {α : Type} (R : List Char → α → Prop) : List Char → List α → Prop
  | last {s : List Char} {x : α} (h : R s x) : Separated R s [x]
  | more {s rest : List Char} {x : α} {xs : List α} (h : R s x) (hrest : Separated R rest xs) :
      Separated R (s ++ ',' :: rest) (x :: xs)

theorem Separated.elements {s : List Char} {vs : List Value}
    (h : Separated (fun s v => Derives (.element v) s) s vs) : Derives (.elements vs) s := by
  induction h with
  | last h => exact .lastElement h
  | more h _ ih => exact .moreElements h ih

theorem Separated.members {s : List Char} {ms : List (Units × Value)}
    (h : Separated (fun s m => Derives (.member m) s) s ms) : Derives (.members ms) s := by
  induction h with
  | last h => exact .lastMember h
  | more h _ ih => exact .moreMembers h ih

section Items

variable {α : Type} {item : Reader α} {R : List Char → α → Prop} (hitem : Sound item R)
  (close : Char)
include hitem

theorem items_sound (fuel : Nat) :
    Sound (items item close fuel) fun s xs => ∃ s', Separated R s' xs ∧ s = s' ++ [close] := by
  induction fuel with
  | zero => intro text xs rest h; cases h
  | succ fuel ih =>
    intro text xs rest h
    simp only [items, bind, Option.bind_eq_some_iff] at h
    obtain ⟨⟨x, tail⟩, hx, h⟩ := h
    obtain ⟨s, hs, rfl⟩ := hitem _ _ _ hx
    cases hcomma : expect ',' tail with
    | some more =>
      simp only [hcomma, Option.bind_eq_some_iff] at h
      obtain ⟨⟨xs, rest⟩, hxs, heq⟩ := h
      cases heq
      obtain ⟨_, ⟨s', hs', rfl⟩, rfl⟩ := ih _ _ _ hxs
      rw [expect_eq_some.mp hcomma]
      exact ⟨_, ⟨_, .more hs hs', rfl⟩, by simp⟩
    | none =>
      simp only [hcomma, Option.bind_eq_some_iff, expect_eq_some] at h
      obtain ⟨rest, rfl, heq⟩ := h
      cases heq
      exact ⟨_, ⟨s, .last hs, rfl⟩, by simp⟩

theorem bracketed_sound :
    Sound (bracketed item close) fun s xs =>
      (xs = [] ∧ ∃ w, Ws w ∧ s = w ++ [close]) ∨ ∃ s', Separated R s' xs ∧ s = s' ++ [close] := by
  intro text xs rest h
  rw [bracketed] at h
  split at h
  · next tail hclose =>
    cases h
    obtain ⟨w, hw, htext⟩ := exists_ws text
    rw [expect_eq_some.mp hclose] at htext
    exact ⟨_, .inl ⟨rfl, w, hw, rfl⟩, by simpa using htext⟩
  · obtain ⟨s, hs, htext⟩ := items_sound hitem close _ _ _ _ h
    exact ⟨s, .inr hs, htext⟩

end Items

theorem value_sound (fuel : Nat) : Sound (value fuel) fun s v => Derives (.value v) s := by
  induction fuel with
  | zero => intro text v rest h; cases h
  | succ fuel ih =>
    intro text v rest h
    cases text with
    | nil => cases h
    | cons c tail =>
      rw [value] at h
      split at h
      · next hc =>
        obtain ⟨⟨units, rest⟩, hread, heq⟩ := Option.map_eq_some_iff.mp h
        cases heq
        obtain ⟨s, hs, rfl⟩ := string_sound _ _ _ _ hread
        exact ⟨'"' :: s, .string hs, by rw [hc]; rfl⟩
      split at h
      · next hc =>
        obtain ⟨⟨vs, rest⟩, hread, heq⟩ := Option.map_eq_some_iff.mp h
        cases heq
        obtain ⟨_, ⟨rfl, w, hw, rfl⟩ | ⟨s, hs, rfl⟩, rfl⟩ :=
          bracketed_sound (element_sound ih) _ _ _ _ hread
        · exact ⟨_, .emptyArray hw, by rw [hc]; rfl⟩
        · exact ⟨_, .array hs.elements, by rw [hc]; rfl⟩
      split at h
      · next hc =>
        obtain ⟨⟨ms, rest⟩, hread, heq⟩ := Option.map_eq_some_iff.mp h
        cases heq
        obtain ⟨_, ⟨rfl, w, hw, rfl⟩ | ⟨s, hs, rfl⟩, rfl⟩ :=
          bracketed_sound (member_sound ih) _ _ _ _ hread
        · exact ⟨_, .emptyObject hw, by rw [hc]; rfl⟩
        · exact ⟨_, .object hs.members, by rw [hc]; rfl⟩
      split at h
      · exact keyword_sound .null _ _ _ h
      split at h
      · exact keyword_sound .true _ _ _ h
      split at h
      · exact keyword_sound .false _ _ _ h
      · exact number_sound _ _ _ h

theorem parse_sound {text : List Char} {v : Value} (h : parse text = some v) :
    Derives (.element v) text := by
  unfold parse at h
  split at h
  · next v' hread =>
    cases h
    obtain ⟨s, hs, rfl⟩ := element_sound (value_sound _) _ _ _ hread
    rwa [List.append_nil]
  · cases h

/-! ### What is in the grammar is accepted -/

/-- Digits, signs and exponent letters, and full stops with a digit behind them. -/
inductive Numeric : List Char → Prop
  | nil : Numeric []
  | plain {c : Char} {rest : List Char} (hc : c.isDigit = true ∨ c ∈ ['+', '-', 'e', 'E'])
      (h : Numeric rest) : Numeric (c :: rest)
  | point {d : Char} {rest : List Char} (hd : d.isDigit = true) (h : Numeric rest) :
      Numeric ('.' :: d :: rest)

theorem Numeric.digits {ds rest : List Char} (hds : ∀ d ∈ ds, d.isDigit = true)
    (h : Numeric rest) : Numeric (ds ++ rest) := by
  induction ds with
  | nil => exact h
  | cons d ds ih =>
    rw [List.forall_mem_cons] at hds
    exact .plain (.inl hds.1) (ih hds.2)

theorem numeric_of_isDigits {s : List Char} (h : isDigits s = true) : Numeric s := by
  simp only [isDigits, Bool.and_eq_true, List.all_eq_true] at h
  simpa using Numeric.digits h.2 .nil

theorem numeric_of_isExp {s : List Char} (h : isExp s = true) : Numeric s := by
  cases s with
  | nil => exact .nil
  | cons c rest =>
    simp only [isExp, Bool.and_eq_true, Bool.or_eq_true, beq_iff_eq] at h
    refine .plain (.inr (by rcases h.1 with rfl | rfl <;> simp)) ?_
    cases rest with
    | nil => exact .nil
    | cons d rest =>
      by_cases hsign : d = '+' ∨ d = '-'
      · rw [dropSign, if_pos hsign] at h
        exact .plain (.inr (by rcases hsign with rfl | rfl <;> simp)) (numeric_of_isDigits h.2)
      · rw [dropSign, if_neg hsign] at h
        exact numeric_of_isDigits h.2

theorem numeric_of_isFracExp {s : List Char} (h : isFracExp s = true) : Numeric s := by
  cases s with
  | nil => exact .nil
  | cons c rest =>
    by_cases hc : c = '.'
    · simp only [isFracExp, if_pos hc, Bool.and_eq_true] at h
      obtain ⟨hdigits, hexp⟩ := h
      rw [hc, ← List.takeWhile_append_dropWhile (p := Char.isDigit) (l := rest)]
      simp only [isDigits, Bool.and_eq_true, List.all_eq_true] at hdigits
      cases htake : rest.takeWhile Char.isDigit with
      | nil => simp [htake] at hdigits
      | cons d ds =>
        rw [htake, List.forall_mem_cons] at hdigits
        exact .point hdigits.2.1 (.digits hdigits.2.2 (numeric_of_isExp hexp))
    · rw [isFracExp, if_neg hc] at h
      exact numeric_of_isExp h

theorem numeric_of_isUnsigned {s : List Char} (h : isUnsigned s = true) : Numeric s := by
  cases s with
  | nil => exact .nil
  | cons c rest =>
    by_cases hc : c = '0'
    · rw [isUnsigned, if_pos hc] at h
      exact .plain (.inl (by rw [hc]; rfl)) (numeric_of_isFracExp h)
    · simp only [isUnsigned, if_neg hc, Bool.and_eq_true] at h
      refine .plain (.inl h.1) ?_
      rw [← List.takeWhile_append_dropWhile (p := Char.isDigit) (l := rest)]
      exact .digits (fun d hd => List.mem_takeWhile_imp hd) (numeric_of_isFracExp h.2)

theorem numeric_of_isNumber {s : List Char} (h : isNumber s = true) : Numeric s := by
  cases s with
  | nil => exact .nil
  | cons c rest =>
    by_cases hc : c = '-'
    · rw [isNumber, if_pos hc] at h
      exact .plain (.inr (by simp [hc])) (numeric_of_isUnsigned h)
    · rw [isNumber, if_neg hc] at h
      exact numeric_of_isUnsigned h

theorem Numeric.isNumberChar {s : List Char} (h : Numeric s) :
    ∀ c ∈ s, isNumberChar c = true := by
  induction h with
  | nil => simp
  | plain hc _ ih =>
    refine List.forall_mem_cons.mpr ⟨?_, ih⟩
    rcases hc with hc | hc
    · simp [Json.isNumberChar, hc]
    · simp only [List.mem_cons, List.not_mem_nil, or_false] at hc
      rcases hc with rfl | rfl | rfl | rfl <;> rfl
  | point hd _ ih =>
    refine List.forall_mem_cons.mpr ⟨rfl, List.forall_mem_cons.mpr ⟨?_, ih⟩⟩
    simp [Json.isNumberChar, hd]

/-- The characters a value starts with. -/
def Opens (c : Char) : Prop := c.isDigit = true ∨ c ∈ ['"', '[', '{', 'n', 't', 'f', '-']

theorem Opens.ne {c d : Char} (h : Opens c) (hd : d.isDigit = false)
    (hmem : d ∉ ['"', '[', '{', 'n', 't', 'f', '-']) : c ≠ d := by
  rintro rfl
  rcases h with h | h
  · rw [h] at hd
    cases hd
  · exact hmem h

theorem Opens.not_isWs {c : Char} (h : Opens c) : isWs c = false := by
  have hspace := h.ne (d := ' ') (by decide) (by decide)
  have htab := h.ne (d := '\t') (by decide) (by decide)
  have hline := h.ne (d := '\n') (by decide) (by decide)
  have hreturn := h.ne (d := '\r') (by decide) (by decide)
  simp [isWs, hspace, htab, hline, hreturn]

theorem isUnsigned_head {s : List Char} (h : isUnsigned s = true) :
    ∃ c t, s = c :: t ∧ c.isDigit = true := by
  cases s with
  | nil => simp [isUnsigned] at h
  | cons c t =>
    refine ⟨c, t, rfl, ?_⟩
    by_cases hc : c = '0'
    · rw [hc]
      rfl
    · simp only [isUnsigned, if_neg hc, Bool.and_eq_true] at h
      exact h.1

theorem isNumber_head {s : List Char} (h : isNumber s = true) :
    ∃ c t, s = c :: t ∧ (c.isDigit = true ∨ c = '-') := by
  cases s with
  | nil => simp [isNumber] at h
  | cons c t =>
    by_cases hc : c = '-'
    · exact ⟨c, t, rfl, .inr hc⟩
    · rw [isNumber, if_neg hc] at h
      obtain ⟨c', t', heq, hc'⟩ := isUnsigned_head h
      cases heq
      exact ⟨_, _, rfl, .inl hc'⟩

theorem value_head {v : Value} {s : List Char} (h : Derives (.value v) s) :
    ∃ c t, s = c :: t ∧ Opens c := by
  cases h with
  | null | true | false => exact ⟨_, _, rfl, .inr (by decide)⟩
  | number h =>
    obtain ⟨c, t, rfl, hc | rfl⟩ := isNumber_head h
    · exact ⟨c, t, rfl, .inl hc⟩
    · exact ⟨_, t, rfl, .inr (by decide)⟩
  | string _ => exact ⟨_, _, rfl, .inr (by decide)⟩
  | emptyArray _ | array _ => exact ⟨_, _, rfl, .inr (by decide)⟩
  | emptyObject _ | object _ => exact ⟨_, _, rfl, .inr (by decide)⟩

@[simp] theorem skipWs_append {w : List Char} (hw : Ws w) (rest : List Char) :
    skipWs (w ++ rest) = skipWs rest :=
  List.dropWhile_append_of_pos hw

@[simp] theorem skipWs_cons {c : Char} (hc : isWs c = false) (rest : List Char) :
    skipWs (c :: rest) = c :: rest := by
  simp [skipWs, hc]

theorem skipWs_value {v : Value} {s : List Char} (h : Derives (.value v) s) (rest : List Char) :
    skipWs (s ++ rest) = s ++ rest := by
  obtain ⟨c, t, rfl, hc⟩ := value_head h
  exact skipWs_cons hc.not_isWs _

/-- Behind the white space every phrase has a character. -/
theorem Derives.opens {node : Node} {s : List Char} (h : Derives node s) :
    ∀ rest, ∃ c t, skipWs (s ++ rest) = c :: t ∧ Opens c := by
  induction h with
  | null | true | false | emptyArray _ | emptyObject _ =>
    intro rest
    exact ⟨_, _, skipWs_cons (by decide) _, .inr (by decide)⟩
  | number h =>
    intro rest
    rw [skipWs_value (.number h)]
    obtain ⟨c, t, rfl, hc⟩ := value_head (.number h)
    exact ⟨c, t ++ rest, rfl, hc⟩
  | string _ | array _ _ | object _ _ =>
    intro rest
    exact ⟨_, _, skipWs_cons (by decide) _, .inr (by decide)⟩
  | element h₁ _ _ ih =>
    intro rest
    rw [List.append_assoc, skipWs_append h₁, List.append_assoc]
    exact ih _
  | lastElement _ ih | lastMember _ ih => exact ih
  | moreElements _ _ ih _ | moreMembers _ _ ih _ =>
    intro rest
    rw [List.append_assoc]
    exact ih _
  | member h₁ _ _ _ _ =>
    intro rest
    rw [List.append_assoc, skipWs_append h₁]
    exact ⟨_, _, skipWs_cons (by decide) _, .inr (by decide)⟩

/-- No number goes on here. -/
def Stops (rest : List Char) : Prop := ∀ c ∈ rest.head?, isNumberChar c = false

/-- What may follow an element or a member. -/
def Closes (rest : List Char) : Prop := ∀ c ∈ rest.head?, c ∈ [',', ']', '}']

theorem Closes.skipWs {rest : List Char} (h : Closes rest) : skipWs rest = rest := by
  cases rest with
  | nil => rfl
  | cons c t =>
    have hc := h c rfl
    simp only [List.mem_cons, List.not_mem_nil, or_false] at hc
    exact skipWs_cons (by rcases hc with rfl | rfl | rfl <;> rfl) t

theorem Closes.stops {w rest : List Char} (h : Closes rest) (hw : Ws w) : Stops (w ++ rest) := by
  intro c hc
  cases w with
  | nil =>
    have hc := h c hc
    simp only [List.mem_cons, List.not_mem_nil, or_false] at hc
    rcases hc with rfl | rfl | rfl <;> rfl
  | cons d w =>
    simp only [List.cons_append, List.head?_cons, Option.mem_def, Option.some.injEq] at hc
    have hd := hw d List.mem_cons_self
    simp only [isWs, Bool.or_eq_true, beq_iff_eq] at hd
    rcases hd with ((rfl | rfl) | rfl) | rfl <;> rw [← hc] <;> rfl

theorem char_complete {s : List Char} {units : Units} (h : CharText s units) (rest : List Char) :
    char (s ++ rest) = some (units, rest) := by
  cases h with
  | unescaped hquote hescape hcontrol => simp [char, hescape, hquote, Nat.not_lt.mpr hcontrol]
  | @letter c unit h =>
    have hu : c ≠ 'u' := by
      rintro rfl
      cases h
    simp only [List.cons_append, List.nil_append, char, if_true]
    unfold escape
    split
    · next heq =>
      cases heq
      exact absurd rfl hu
    · next heq =>
      cases heq
      rw [h]
      rfl
    · next heq => cases heq
  | hex h => simp [char, escape, h]

theorem CharText.head_ne {s : List Char} {units : Units} (h : CharText s units) :
    ∃ c t, s = c :: t ∧ c ≠ '"' := by
  cases h with
  | unescaped hquote _ _ => exact ⟨_, _, rfl, hquote⟩
  | letter _ => exact ⟨_, _, rfl, by decide⟩
  | hex _ => exact ⟨_, _, rfl, by decide⟩

theorem string_complete {s : List Char} {units : Units} (h : StringText s units) :
    ∀ fuel rest, s.length ≤ fuel → string fuel (s ++ rest) = some (units, rest) := by
  induction h with
  | close =>
    intro fuel rest hfuel
    obtain ⟨n, rfl⟩ := Nat.exists_eq_add_of_le' hfuel
    rfl
  | @char s more _ _ hchar _ ih =>
    intro fuel rest hfuel
    have hread := char_complete hchar (more ++ rest)
    obtain ⟨c, t, rfl, hc⟩ := hchar.head_ne
    simp only [List.cons_append, List.length_cons, List.length_append] at hfuel
    obtain ⟨n, rfl⟩ : ∃ n, fuel = n + 1 := ⟨fuel - 1, by omega⟩
    have hquote : expect '"' (c :: (t ++ (more ++ rest))) = none := by simp [expect, hc]
    have hmore := ih n rest (by omega)
    simp only [List.cons_append, List.append_assoc] at hread ⊢
    simp [string, hquote, hread, hmore]

theorem number_complete {s rest : List Char} (h : isNumber s = true) (hrest : Stops rest) :
    number (s ++ rest) = some (.number s, rest) := by
  have hs := (numeric_of_isNumber h).isNumberChar
  have htake : rest.takeWhile isNumberChar = [] := by
    cases rest with
    | nil => rfl
    | cons c t => simp [hrest c rfl]
  have hdrop : rest.dropWhile isNumberChar = rest := by
    cases rest with
    | nil => rfl
    | cons c t => simp [hrest c rfl]
  simp only [number, List.takeWhile_append_of_pos hs, List.dropWhile_append_of_pos hs, htake,
    hdrop, List.append_nil, h, if_true]

theorem items_last {α : Type} {item : Reader α} {close : Char} {text rest : List Char} {x : α}
    (hitem : item text = some (x, close :: rest)) (hclose : close ≠ ',') (n : Nat) :
    items item close (n + 1) text = some ([x], rest) := by
  have hcomma : expect ',' (close :: rest) = none := by simp [expect, hclose]
  have hend : expect close (close :: rest) = some rest := expect_eq_some.mpr rfl
  simp [items, hitem, hcomma, hend]

theorem items_more {α : Type} {item : Reader α} {close : Char} {text more rest : List Char}
    {x : α} {xs : List α} {n : Nat} (hitem : item text = some (x, ',' :: more))
    (hmore : items item close n more = some (xs, rest)) :
    items item close (n + 1) text = some (x :: xs, rest) := by
  have hcomma : expect ',' (',' :: more) = some more := expect_eq_some.mpr rfl
  simp [items, hitem, hcomma, hmore]

theorem bracketed_empty {α : Type} {item : Reader α} {close : Char} {w : List Char} (hw : Ws w)
    (hclose : isWs close = false) (rest : List Char) :
    bracketed item close (w ++ close :: rest) = some ([], rest) := by
  have hend : expect close (skipWs (w ++ close :: rest)) = some rest := by
    rw [skipWs_append hw, skipWs_cons hclose, expect_eq_some]
  rw [bracketed, hend]

theorem bracketed_items {α : Type} {item : Reader α} {close : Char} {text : List Char}
    (hopens : ∃ c t, skipWs text = c :: t ∧ Opens c) (hclose : ¬ Opens close) :
    bracketed item close text = items item close text.length text := by
  obtain ⟨c, t, htext, hc⟩ := hopens
  have hend : expect close (skipWs text) = none := by
    rw [expect_eq_none, htext]
    rintro heq
    cases heq
    exact hclose hc
  rw [bracketed, hend]

theorem not_opens {c : Char} (hd : c.isDigit = false)
    (hmem : c ∉ ['"', '[', '{', 'n', 't', 'f', '-']) : ¬ Opens c :=
  fun h => h.ne hd hmem rfl

/-- Enough fuel reads the text of the node, whatever follows it. -/
def Completes : Node → List Char → Prop
  | .value v, s => ∀ fuel rest, s.length ≤ fuel → Stops rest →
      value fuel (s ++ rest) = some (v, rest)
  | .element v, s => ∀ fuel rest, s.length ≤ fuel → Closes rest →
      element (value fuel) (s ++ rest) = some (v, rest)
  | .elements vs, s => ∀ fuel n rest, s.length ≤ fuel → s.length < n →
      items (element (value fuel)) ']' n (s ++ ']' :: rest) = some (vs, rest)
  | .member m, s => ∀ fuel rest, s.length ≤ fuel → Closes rest →
      member (value fuel) (s ++ rest) = some (m, rest)
  | .members ms, s => ∀ fuel n rest, s.length ≤ fuel → s.length < n →
      items (member (value fuel)) '}' n (s ++ '}' :: rest) = some (ms, rest)

theorem closes_cons {c : Char} (hc : c ∈ [',', ']', '}']) (rest : List Char) :
    Closes (c :: rest) := by
  intro d hd
  cases hd
  exact hc

theorem value_string {fuel : Nat} {text rest : List Char} {units : Units}
    (h : string text.length text = some (units, rest)) :
    value (fuel + 1) ('"' :: text) = some (.string units, rest) := by
  simp only [value, if_true, h, Option.map_some]

theorem value_array {fuel : Nat} {text rest : List Char} {vs : List Value}
    (h : bracketed (element (value fuel)) ']' text = some (vs, rest)) :
    value (fuel + 1) ('[' :: text) = some (.array vs, rest) := by
  simp [value, h]

theorem value_object {fuel : Nat} {text rest : List Char} {ms : List (Units × Value)}
    (h : bracketed (member (value fuel)) '}' text = some (ms, rest)) :
    value (fuel + 1) ('{' :: text) = some (.object ms, rest) := by
  simp [value, h]

theorem value_number {fuel : Nat} {c : Char} {text : List Char}
    (hc : c.isDigit = true ∨ c = '-') : value (fuel + 1) (c :: text) = number (c :: text) := by
  have hother : ∀ d ∈ ['"', '[', '{', 'n', 't', 'f'], c ≠ d := by
    rintro d hd rfl
    simp only [List.mem_cons, List.not_mem_nil, or_false] at hd
    rcases hd with rfl | rfl | rfl | rfl | rfl | rfl <;> rcases hc with hc | hc <;> cases hc
  simp only [List.forall_mem_cons] at hother
  obtain ⟨hquote, hbracket, hbrace, hn, ht, hf, -⟩ := hother
  rw [value, if_neg hquote, if_neg hbracket, if_neg hbrace, if_neg hn, if_neg ht, if_neg hf]

theorem completes_of_derives {node : Node} {s : List Char} (h : Derives node s) :
    Completes node s := by
  induction h with
  | null | true | false =>
    intro fuel rest hfuel _
    obtain ⟨n, rfl⟩ := Nat.exists_eq_add_of_le' (Nat.le_trans (by decide : 1 ≤ _) hfuel)
    rfl
  | @number s h =>
    intro fuel rest hfuel hrest
    have hread := number_complete h hrest
    obtain ⟨c, t, rfl, hc⟩ := isNumber_head h
    obtain ⟨n, rfl⟩ : ∃ n, fuel = n + 1 := ⟨fuel - 1, by simp at hfuel; omega⟩
    exact (value_number hc).trans hread
  | @string s units h =>
    intro fuel rest hfuel _
    obtain ⟨n, rfl⟩ : ∃ n, fuel = n + 1 := ⟨fuel - 1, by simp at hfuel; omega⟩
    exact value_string (string_complete h (s ++ rest).length rest (by simp))
  | emptyArray hw =>
    intro fuel rest hfuel _
    obtain ⟨n, rfl⟩ : ∃ n, fuel = n + 1 := ⟨fuel - 1, by simp at hfuel; omega⟩
    rw [List.cons_append, List.append_assoc]
    exact value_array (bracketed_empty hw (by decide) rest)
  | @array s vs h ih =>
    intro fuel rest hfuel _
    simp only [List.length_cons, List.length_append, List.length_nil] at hfuel
    obtain ⟨n, rfl⟩ : ∃ n, fuel = n + 1 := ⟨fuel - 1, by omega⟩
    have hread : bracketed (element (value n)) ']' (s ++ ']' :: rest) = some (vs, rest) := by
      rw [bracketed_items (h.opens _) (not_opens (by decide) (by decide))]
      exact ih n _ rest (by omega) (by simp)
    rw [List.cons_append, List.append_assoc]
    exact value_array hread
  | emptyObject hw =>
    intro fuel rest hfuel _
    obtain ⟨n, rfl⟩ : ∃ n, fuel = n + 1 := ⟨fuel - 1, by simp at hfuel; omega⟩
    rw [List.cons_append, List.append_assoc]
    exact value_object (bracketed_empty hw (by decide) rest)
  | @object s ms h ih =>
    intro fuel rest hfuel _
    simp only [List.length_cons, List.length_append, List.length_nil] at hfuel
    obtain ⟨n, rfl⟩ : ∃ n, fuel = n + 1 := ⟨fuel - 1, by omega⟩
    have hread : bracketed (member (value n)) '}' (s ++ '}' :: rest) = some (ms, rest) := by
      rw [bracketed_items (h.opens _) (not_opens (by decide) (by decide))]
      exact ih n _ rest (by omega) (by simp)
    rw [List.cons_append, List.append_assoc]
    exact value_object hread
  | @element w₁ s w₂ v h₁ h h₂ ih =>
    intro fuel rest hfuel hrest
    simp only [List.length_append] at hfuel
    have hread := ih fuel (w₂ ++ rest) (by omega) (hrest.stops h₂)
    simp [element, skipWs_append h₁, skipWs_value h, hread, skipWs_append h₂, hrest.skipWs]
  | lastElement _ ih | lastMember _ ih =>
    intro fuel n rest hfuel hn
    obtain ⟨n, rfl⟩ : ∃ m, n = m + 1 := ⟨n - 1, by omega⟩
    exact items_last (ih fuel _ hfuel (closes_cons (by decide) _)) (by decide) n
  | moreElements _ _ ih ihrest | moreMembers _ _ ih ihrest =>
    intro fuel n rest hfuel hn
    simp only [List.length_append, List.length_cons] at hfuel hn
    obtain ⟨n, rfl⟩ : ∃ m, n = m + 1 := ⟨n - 1, by omega⟩
    rw [List.append_assoc]
    exact items_more (ih fuel _ (by omega) (closes_cons (by decide) _))
      (ihrest fuel n rest (by omega) (by omega))
  | @member w₁ k w₂ s key v h₁ hkey h₂ _ ih =>
    intro fuel rest hfuel hrest
    simp only [List.length_append, List.length_cons] at hfuel
    have hread := ih fuel rest (by omega) hrest
    have hstring := string_complete hkey (k ++ (w₂ ++ ':' :: (s ++ rest))).length
      (w₂ ++ ':' :: (s ++ rest)) (by simp)
    have hquote : expect '"' ('"' :: (k ++ (w₂ ++ ':' :: (s ++ rest)))) = some _ :=
      expect_eq_some.mpr rfl
    have hcolon : expect ':' (':' :: (s ++ rest)) = some _ := expect_eq_some.mpr rfl
    simp only [List.append_assoc, List.cons_append, member, skipWs_append h₁, skipWs_append h₂,
      skipWs_cons (c := '"') (by decide), skipWs_cons (c := ':') (by decide), hquote, hcolon,
      hstring, hread, bind, pure, Option.bind_some]

/-- The parser decides the grammar. -/
theorem parse_eq_some_iff {text : List Char} {v : Value} :
    parse text = some v ↔ Derives (.element v) text := by
  refine ⟨parse_sound, fun h => ?_⟩
  have hread := completes_of_derives h text.length [] (Nat.le_refl _) (by simp [Closes])
  rw [List.append_nil] at hread
  simp [parse, hread]

example : parse "[-0.5e+3, null ]".toList = some (.array [.number "-0.5e+3".toList, .null]) ∧
    parse "[1,]".toList = none ∧ parse "01".toList = none := ⟨rfl, rfl, rfl⟩

end SeatReservation.Json
