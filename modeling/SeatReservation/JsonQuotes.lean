import SeatReservation.JsonParsing

/-!
# Full stops in JSON texts

Outside its strings a JSON text has a full stop only in front of a digit and no
backslash at all.  A scanner of one character at a time follows the quotation
marks (`Mode.step`).  Every JSON text takes it from outside to outside
(`run_of_derives`), and no text does so both from outside and from inside a
string (`not_run_inside`), so a JSON text behind a full stop of another one
starts with a digit (`digit_of_split`).
-/

namespace SeatReservation.Json

inductive Mode where
  | outside
  /-- Behind a full stop outside the strings. -/
  | point
  | inside
  /-- Behind a backslash. -/
  | escaped
deriving DecidableEq, Repr

def Mode.step : Mode → Char → Option Mode
  | .outside, c =>
      if c = '"' then some .inside
      else if c = '\\' then none
      else if c = '.' then some .point
      else some .outside
  | .point, c => if c.isDigit then some .outside else none
  | .inside, c =>
      if c = '"' then some .outside
      else if c = '\\' then some .escaped
      else some .inside
  | .escaped, c => if c = 'u' ∨ (escapes.lookup c).isSome then some .inside else none

def Mode.run (m : Mode) (text : List Char) : Option Mode := text.foldlM Mode.step m

@[simp] theorem Mode.run_nil (m : Mode) : m.run [] = some m := rfl

@[simp] theorem Mode.run_cons (m : Mode) (c : Char) (text : List Char) :
    m.run (c :: text) = (m.step c).bind fun m => m.run text := rfl

@[simp] theorem Mode.run_append (m : Mode) (s text : List Char) :
    m.run (s ++ text) = (m.run s).bind fun m => m.run text :=
  List.foldlM_append

/-! ### JSON texts lead from outside to outside -/

/-- The character changes nothing outside the strings. -/
def IsPlain (c : Char) : Prop := c ≠ '"' ∧ c ≠ '\\' ∧ c ≠ '.'

@[simp] theorem step_plain {c : Char} (hc : IsPlain c) :
    Mode.outside.step c = some .outside := by
  simp [Mode.step, hc.1, hc.2.1, hc.2.2]

theorem run_plain {s : List Char} (hs : ∀ c ∈ s, IsPlain c) :
    Mode.outside.run s = some .outside := by
  induction s with
  | nil => rfl
  | cons c s ih =>
    rw [List.forall_mem_cons] at hs
    rw [Mode.run_cons, step_plain hs.1]
    exact ih hs.2

theorem run_ws {w : List Char} (hw : Ws w) : Mode.outside.run w = some .outside := by
  refine run_plain fun c hc => ?_
  have hws := hw c hc
  simp only [isWs, Bool.or_eq_true, beq_iff_eq] at hws
  rcases hws with ((rfl | rfl) | rfl) | rfl <;> exact ⟨by decide, by decide, by decide⟩

theorem isPlain_of_isDigit {c : Char} (hc : c.isDigit = true) : IsPlain c := by
  refine ⟨?_, ?_, ?_⟩ <;> rintro rfl <;> cases hc

theorem run_numeric {s : List Char} (h : Numeric s) : Mode.outside.run s = some .outside := by
  induction h with
  | nil => rfl
  | @plain c rest hc _ ih =>
    have hplain : IsPlain c := by
      rcases hc with hc | hc
      · exact isPlain_of_isDigit hc
      · simp only [List.mem_cons, List.not_mem_nil, or_false] at hc
        rcases hc with rfl | rfl | rfl | rfl <;> exact ⟨by decide, by decide, by decide⟩
    rw [Mode.run_cons, step_plain hplain]
    exact ih
  | point hd _ ih =>
    simp [Mode.step, hd, ih]

theorem hexDigit_isSome_ne {c : Char} {n : Nat} (h : hexDigit c = some n) : c ≠ '"' ∧ c ≠ '\\' := by
  constructor <;> rintro rfl <;> cases h

theorem run_char {s : List Char} {units : Units} (h : CharText s units) :
    Mode.inside.run s = some .inside := by
  cases h with
  | unescaped hquote hescape _ => simp [Mode.step, hquote, hescape]
  | @letter c unit h =>
    have hbackslash : Mode.inside.step '\\' = some .escaped := rfl
    have hletter : Mode.escaped.step c = some .inside := if_pos (.inr (by rw [h]; rfl))
    rw [Mode.run_cons, hbackslash, Option.bind_some, Mode.run_cons, hletter]
    rfl
  | @hex a b c d unit h =>
    simp only [hexUnit, bind, pure, Option.bind_eq_some_iff] at h
    obtain ⟨_, ha, _, hb, _, hc, _, hd, -⟩ := h
    simp [Mode.step, hexDigit_isSome_ne ha, hexDigit_isSome_ne hb,
      hexDigit_isSome_ne hc, hexDigit_isSome_ne hd]

theorem run_string {s : List Char} {units : Units} (h : StringText s units) :
    Mode.inside.run s = some .outside := by
  induction h with
  | close => rfl
  | char hchar _ ih => rw [Mode.run_append, run_char hchar, Option.bind_some, ih]

theorem run_of_derives {node : Node} {s : List Char} (h : Derives node s) :
    Mode.outside.run s = some .outside := by
  have hquote : Mode.outside.step '"' = some .inside := rfl
  have hopen : Mode.outside.step '[' = some .outside := rfl
  have hclose : Mode.outside.step ']' = some .outside := rfl
  have hopen' : Mode.outside.step '{' = some .outside := rfl
  have hclose' : Mode.outside.step '}' = some .outside := rfl
  have hcomma : Mode.outside.step ',' = some .outside := rfl
  have hcolon : Mode.outside.step ':' = some .outside := rfl
  induction h with
  | null | true | false => rfl
  | number h => exact run_numeric (numeric_of_isNumber h)
  | string h => simp [hquote, run_string h]
  | emptyArray hw => simp [hopen, hclose, run_ws hw]
  | array _ ih => simp [hopen, hclose, ih]
  | emptyObject hw => simp [hopen', hclose', run_ws hw]
  | object _ ih => simp [hopen', hclose', ih]
  | element h₁ _ h₂ ih => simp [run_ws h₁, run_ws h₂, ih]
  | lastElement _ ih | lastMember _ ih => exact ih
  | moreElements _ _ ih ihrest | moreMembers _ _ ih ihrest => simp [hcomma, ih, ihrest]
  | member h₁ hkey h₂ _ ih => simp [run_ws h₁, run_ws h₂, run_string hkey, hquote, hcolon, ih]

/-! ### No text does so from inside a string as well -/

def Mode.Unquoted (m : Mode) : Prop := m = .outside ∨ m = .point

theorem Mode.Unquoted.step {m n n' : Mode} {c : Char} (h : m.Unquoted) (hn : m.step c = some n)
    (hn' : Mode.inside.step c = some n') :
    n.Unquoted ∧ n' = .inside ∨ n = .inside ∧ n' = .outside := by
  by_cases hquote : c = '"'
  · subst hquote
    cases hn'
    rcases h with rfl | rfl
    · cases hn
      exact .inr ⟨rfl, rfl⟩
    · cases hn
  by_cases hbackslash : c = '\\'
  · subst hbackslash
    rcases h with rfl | rfl <;> cases hn
  simp only [Mode.step, if_neg hquote, if_neg hbackslash, Option.some.injEq] at hn'
  refine .inl ⟨?_, hn'.symm⟩
  rcases h with rfl | rfl
  · simp only [Mode.step, if_neg hquote, if_neg hbackslash] at hn
    split at hn <;> cases hn
    · exact .inr rfl
    · exact .inl rfl
  · simp only [Mode.step] at hn
    split at hn <;> cases hn
    exact .inl rfl

/-- One of the two is inside a string and the other one is not. -/
def Mode.Opposite (m m' : Mode) : Prop := m.Unquoted ∧ m' = .inside ∨ m'.Unquoted ∧ m = .inside

theorem Mode.Opposite.step {m m' n n' : Mode} {c : Char} (h : m.Opposite m')
    (hn : m.step c = some n) (hn' : m'.step c = some n') : n.Opposite n' := by
  rcases h with ⟨h, rfl⟩ | ⟨h, rfl⟩
  · rcases h.step hn hn' with hkept | ⟨rfl, rfl⟩
    · exact .inl hkept
    · exact .inr ⟨.inl rfl, rfl⟩
  · rcases h.step hn' hn with hkept | ⟨rfl, rfl⟩
    · exact .inr hkept
    · exact .inl ⟨.inl rfl, rfl⟩

theorem Mode.Opposite.run {m m' n n' : Mode} {s : List Char} (h : m.Opposite m')
    (hn : m.run s = some n) (hn' : m'.run s = some n') : n.Opposite n' := by
  induction s generalizing m m' with
  | nil =>
    cases hn
    cases hn'
    exact h
  | cons c s ih =>
    rw [Mode.run_cons, Option.bind_eq_some_iff] at hn hn'
    obtain ⟨k, hk, hn⟩ := hn
    obtain ⟨k', hk', hn'⟩ := hn'
    exact ih (h.step hk hk') hn hn'

theorem not_run_inside {s : List Char} (h : Mode.outside.run s = some .outside) :
    Mode.inside.run s ≠ some .outside := by
  intro h'
  have hopposite : Mode.outside.Opposite .inside := .inl ⟨.inl rfl, rfl⟩
  rcases hopposite.run h h' with ⟨-, hmode⟩ | ⟨-, hmode⟩ <;> cases hmode

/-- A JSON text behind a full stop of another one is behind the point of a number. -/
theorem digit_of_split {v v' : Value} {s text : List Char}
    (h : Derives (.element v) (s ++ '.' :: text)) (h' : Derives (.element v') text) :
    ∃ d t, text = d :: t ∧ d.isDigit = true := by
  have hrun := run_of_derives h
  have hrun' := run_of_derives h'
  rw [Mode.run_append, Option.bind_eq_some_iff] at hrun
  obtain ⟨m, -, hm⟩ := hrun
  rw [Mode.run_cons, Option.bind_eq_some_iff] at hm
  obtain ⟨n, hn, hm⟩ := hm
  cases m with
  | outside =>
    cases hn
    cases text with
    | nil => cases hm
    | cons d t =>
      refine ⟨d, t, rfl, ?_⟩
      by_contra hd
      simp [Mode.step, hd] at hm
  | point => cases hn
  | inside =>
    cases hn
    exact absurd hm (not_run_inside hrun')
  | escaped => cases hn

theorem not_digit_of_object {ms : List (Units × Value)} {text : List Char}
    (h : Derives (.element (.object ms)) text) {d : Char} {t : List Char} (htext : text = d :: t) :
    d.isDigit = false := by
  cases h with
  | @element w₁ _ _ _ h₁ h _ =>
    cases w₁ with
    | nil =>
      cases h <;> cases htext <;> rfl
    | cons c w =>
      cases htext
      have hws := h₁ d List.mem_cons_self
      simp only [isWs, Bool.or_eq_true, beq_iff_eq] at hws
      rcases hws with ((rfl | rfl) | rfl) | rfl <;> rfl

end SeatReservation.Json
