import Mathlib.Tactic.TypeStar
import Mathlib.Tactic.Tauto

/-!
# Runs of a deterministic transition system

A system is a step function `step : σ → α → σ`: everything the environment
chooses (interleaving, clock readings, random draws, message loss) is part of
the action `α`, so a run is a list of actions and "every interleaving" is a
quantifier over lists.  `exec` is the state a run leads to and `Along P` says
that every step of a run satisfies `P` in the state it is taken in.  The rules
below are the only inductions over runs in the development: an invariant is
preserved by a run when it is preserved by one step, and two step conditions
agree along a run when they agree on states satisfying an invariant.
-/

namespace SeatReservation.TransitionSystem

variable {σ α : Type*} {step : σ → α → σ}

/-- The state the actions `as` lead to from `s`. -/
def exec (step : σ → α → σ) (s : σ) (as : List α) : σ := as.foldl step s

@[simp] theorem exec_nil (s : σ) : exec step s [] = s := rfl

@[simp] theorem exec_cons (s : σ) (a : α) (as : List α) :
    exec step s (a :: as) = exec step (step s a) as := rfl

theorem exec_append (s : σ) (as bs : List α) :
    exec step s (as ++ bs) = exec step (exec step s as) bs :=
  List.foldl_append

/-- Every step of the run satisfies `P` in the state it is taken in. -/
def Along (step : σ → α → σ) (P : σ → α → Prop) : σ → List α → Prop
  | _, [] => True
  | s, a :: as => P s a ∧ Along step P (step s a) as

@[simp] theorem along_nil (P : σ → α → Prop) (s : σ) : Along step P s [] := trivial

@[simp] theorem along_cons (P : σ → α → Prop) (s : σ) (a : α) (as : List α) :
    Along step P s (a :: as) ↔ P s a ∧ Along step P (step s a) as := Iff.rfl

/-- `Along` of a concrete run is decided by walking it. -/
instance Along.decidable (P : σ → α → Prop) [∀ s a, Decidable (P s a)] :
    ∀ (s : σ) (as : List α), Decidable (Along step P s as)
  | _, [] => inferInstanceAs (Decidable True)
  | s, a :: as =>
      have := Along.decidable P (step s a) as
      inferInstanceAs (Decidable (P s a ∧ Along step P (step s a) as))

theorem along_and (P Q : σ → α → Prop) (s : σ) (as : List α) :
    Along step (fun s a => P s a ∧ Q s a) s as ↔ Along step P s as ∧ Along step Q s as := by
  induction as generalizing s with
  | nil => simp
  | cons a as ih =>
    simp only [along_cons, ih]
    tauto

theorem along_append (P : σ → α → Prop) (s : σ) (as bs : List α) :
    Along step P s (as ++ bs) ↔ Along step P s as ∧ Along step P (exec step s as) bs := by
  induction as generalizing s with
  | nil => simp
  | cons a as ih => simp only [List.cons_append, along_cons, exec_cons, ih, and_assoc]

/-- Every step of a run is one of its actions. -/
theorem along_mem (s : σ) {as bs : List α} (h : as ⊆ bs) :
    Along step (fun _ a => a ∈ bs) s as := by
  induction as generalizing s with
  | nil => exact trivial
  | cons a as ih =>
    obtain ⟨ha, has⟩ := List.cons_subset.mp h
    exact ⟨ha, ih (step s a) has⟩

/-! ### The invariant rules -/

/-- **Run rule.**  An invariant kept by every step that meets `ok` holds after
    every run whose steps all meet `ok`. -/
theorem exec_invariant (Inv : σ → Prop) {ok : σ → α → Prop}
    (hstep : ∀ s a, Inv s → ok s a → Inv (step s a))
    {s : σ} {as : List α} (hs : Inv s) (hok : Along step ok s as) :
    Inv (exec step s as) := by
  induction as generalizing s with
  | nil => exact hs
  | cons a as ih => exact ih (hstep s a hs hok.1) hok.2

/-- The run rule for an invariant that needs no condition on the steps. -/
theorem exec_invariant' (Inv : σ → Prop) (hstep : ∀ s a, Inv s → Inv (step s a))
    {s : σ} (hs : Inv s) (as : List α) : Inv (exec step s as) := by
  induction as generalizing s with
  | nil => exact hs
  | cons a as ih => exact ih (hstep s a hs)

/-- A step property that follows from an invariant holds along every run that
    meets the invariant's step condition. -/
theorem along_of_invariant (Inv : σ → Prop) {ok P : σ → α → Prop}
    (hstep : ∀ s a, Inv s → ok s a → Inv (step s a))
    (hP : ∀ s a, Inv s → ok s a → P s a)
    {s : σ} {as : List α} (hs : Inv s) (hok : Along step ok s as) :
    Along step P s as := by
  induction as generalizing s with
  | nil => exact trivial
  | cons a as ih => exact ⟨hP s a hs hok.1, ih (hstep s a hs hok.1) hok.2⟩

/-- **Ranking rule.**  When every `ok` step lowers the rank of a state that satisfies
    the invariant, a run of `ok` steps is no longer than the rank it starts with. -/
theorem length_le_of_ranking (Inv : σ → Prop) {ok : σ → α → Prop} (rank : σ → Nat)
    (hstep : ∀ s a, Inv s → ok s a → Inv (step s a))
    (hrank : ∀ s a, Inv s → ok s a → rank (step s a) < rank s)
    {s : σ} {as : List α} (hs : Inv s) (hok : Along step ok s as) : as.length ≤ rank s := by
  induction as generalizing s with
  | nil => exact Nat.zero_le _
  | cons a as ih =>
    have hlt := hrank s a hs hok.1
    have hrest := ih (hstep s a hs hok.1) hok.2
    rw [List.length_cons]
    omega

/-- **Exact step condition.**  When `P` and `ok` agree on every state satisfying
    the invariant and `ok` steps keep the invariant, a run satisfies `P` at
    every step iff it satisfies `ok` at every step. -/
theorem along_iff_along (Inv : σ → Prop) {ok P : σ → α → Prop}
    (hstep : ∀ s a, Inv s → ok s a → Inv (step s a))
    (hiff : ∀ s a, Inv s → (P s a ↔ ok s a))
    {s : σ} (hs : Inv s) (as : List α) :
    Along step P s as ↔ Along step ok s as := by
  induction as generalizing s with
  | nil => simp
  | cons a as ih =>
    simp only [along_cons, hiff s a hs]
    exact and_congr_right fun hok => ih (hstep s a hs hok)

/-- The exact step condition of the runs whose steps are all `fair`. -/
theorem along_iff_along_of_fair (Inv : σ → Prop) {fair ok P : σ → α → Prop}
    (hstep : ∀ s a, Inv s → fair s a → ok s a → Inv (step s a))
    (hiff : ∀ s a, Inv s → fair s a → (P s a ↔ ok s a))
    {s : σ} (hs : Inv s) {as : List α} (hfair : Along step fair s as) :
    Along step P s as ↔ Along step ok s as := by
  have hboth : Along step (fun s a => fair s a ∧ P s a) s as ↔
      Along step (fun s a => fair s a ∧ ok s a) s as := by
    apply along_iff_along Inv
    · intro s a h hok
      exact hstep s a h hok.1 hok.2
    · intro s a h
      exact and_congr_right (hiff s a h)
    · exact hs
  rw [along_and, along_and] at hboth
  constructor
  · intro hP
    exact (hboth.mp ⟨hfair, hP⟩).2
  · intro hok
    exact (hboth.mpr ⟨hfair, hok⟩).2

/-! ### Simulation -/

/-- **Forward simulation.**  When every `ok` step is matched, from related states, by steps
    of another system that show the same, so is every run of `ok` steps. -/
theorem exec_simulates {τ β γ : Type*} {step' : τ → β → τ} {seen : α → Option γ}
    {seen' : β → Option γ} (R : τ → σ → Prop) {ok : σ → α → Prop} {ok' : τ → β → Prop}
    (hstep : ∀ t s a, R t s → ok s a → ∃ bs, bs.filterMap seen' = (seen a).toList ∧
      Along step' ok' t bs ∧ R (exec step' t bs) (step s a))
    {t : τ} {s : σ} {as : List α} (h : R t s) (hok : Along step ok s as) :
    ∃ bs, bs.filterMap seen' = as.filterMap seen ∧ Along step' ok' t bs ∧
      R (exec step' t bs) (exec step s as) := by
  induction as generalizing t s with
  | nil => exact ⟨[], rfl, trivial, h⟩
  | cons a as ih =>
    obtain ⟨bs, hseen, hok', hR⟩ := hstep t s a h hok.1
    obtain ⟨cs, hseen', hok'', hR'⟩ := ih hR hok.2
    refine ⟨bs ++ cs, ?_, (along_append ..).mpr ⟨hok', hok''⟩, ?_⟩
    · rw [List.filterMap_append, hseen, hseen']
      cases hshown : seen a with
      | none => simp [hshown]
      | some c => simp [hshown]
    · rw [exec_append]
      exact hR'

/-! ### What a run puts out -/

/-- What the steps of a run put out, in order. -/
def outputs {ω : Type*} (step : σ → α → σ) (out : σ → α → List ω) : σ → List α → List ω
  | _, [] => []
  | s, a :: as => out s a ++ outputs step out (step s a) as

theorem outputs_append {ω : Type*} {out : σ → α → List ω} (s : σ) (as bs : List α) :
    outputs step out s (as ++ bs) =
      outputs step out s as ++ outputs step out (exec step s as) bs := by
  induction as generalizing s with
  | nil => rfl
  | cons a as ih => simp only [List.cons_append, outputs, exec_cons, ih, List.append_assoc]

/-- The run rule for an invariant of the state and of what has been put out so far. -/
theorem exec_outputs_invariant {ω : Type*} {out : σ → α → List ω} (Inv : σ → List ω → Prop)
    {ok : σ → α → Prop} (hstep : ∀ s os a, Inv s os → ok s a → Inv (step s a) (os ++ out s a))
    {s : σ} {os : List ω} {as : List α} (hs : Inv s os) (hok : Along step ok s as) :
    Inv (exec step s as) (os ++ outputs step out s as) := by
  induction as generalizing s os with
  | nil => simpa [outputs] using hs
  | cons a as ih =>
    have hrest := ih (hstep s os a hs hok.1) hok.2
    rwa [List.append_assoc] at hrest

/-- The same rule when no condition on the steps is needed. -/
theorem exec_outputs_invariant' {ω : Type*} {out : σ → α → List ω} (Inv : σ → List ω → Prop)
    (hstep : ∀ s os a, Inv s os → Inv (step s a) (os ++ out s a)) {s : σ} {os : List ω}
    (hs : Inv s os) (as : List α) : Inv (exec step s as) (os ++ outputs step out s as) := by
  induction as generalizing s os with
  | nil => simpa [outputs] using hs
  | cons a as ih =>
    have hrest := ih (hstep s os a hs)
    rwa [List.append_assoc] at hrest

end SeatReservation.TransitionSystem
