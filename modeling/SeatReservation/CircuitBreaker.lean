import SeatReservation.TransitionSystem

/-!
# The circuit breaker

`exec` runs in two pieces with an `await` between them: `admitCall` decides whether
the function is invoked, `settle` counts how its promise ended.  A promise that
times out is rejected like one that fails.

Called one after another the breaker is a function of its history: its three
fields encode the number of failures since the last success and the time of the
last failure (`breaker_encodes_history`).  With overlapping calls this is no
longer so.  `settle` does not ask when the call it counts was started, and
`half_open` lets every call through, so the protection only holds in runs where
no such call occurs (`protects_of_orderly`).
-/

namespace SeatReservation

open TransitionSystem

inductive BreakerState where
  | closed
  | opened
  | halfOpen
deriving DecidableEq, Repr

structure BreakerEnv where
  pspCbErrorThreshold : Nat
  pspCbResetMs : Nat

structure CircuitBreaker where
  state : BreakerState
  failures : Nat
  openedAt : Nat
deriving DecidableEq, Repr

def CircuitBreaker.initial : CircuitBreaker := ⟨.closed, 0, 0⟩

/-- How the promise `exec` waits for ends. -/
inductive PspOutcome where
  | succeeded
  | failed
  | timedOut
deriving DecidableEq, Repr

/-- `exec` before its `await`; `none` is the error `circuit_open`. -/
def CircuitBreaker.admitCall (env : BreakerEnv) (now : Nat) (b : CircuitBreaker) :
    Option CircuitBreaker :=
  if b.state = .opened then
    if now - b.openedAt > env.pspCbResetMs then some { b with state := .halfOpen } else none
  else some b

/-- `exec` after its `await`. -/
def CircuitBreaker.settle (env : BreakerEnv) (now : Nat) (outcome : PspOutcome)
    (b : CircuitBreaker) : CircuitBreaker :=
  match outcome with
  | .succeeded => { b with failures := 0, state := .closed }
  | .failed | .timedOut =>
      let failures := b.failures + 1
      if failures * 2 ≥ env.pspCbErrorThreshold then ⟨.opened, failures, now⟩
      else { b with failures := failures }

/-! ### Calls one after another -/

structure PspCall where
  start : Nat
  finish : Nat
  outcome : PspOutcome
deriving DecidableEq, Repr

/-- One `exec` from start to end, with no other call in between. -/
def CircuitBreaker.call (env : BreakerEnv) (b : CircuitBreaker) (c : PspCall) :
    Option PspOutcome × CircuitBreaker :=
  match b.admitCall env c.start with
  | none => (none, b)
  | some b' => (some c.outcome, b'.settle env c.finish c.outcome)

/-- An executed call, as the history keeps it. -/
structure Executed where
  finish : Nat
  outcome : PspOutcome
deriving DecidableEq, Repr

/-- What a call adds to the history: nothing when it is rejected. -/
def CircuitBreaker.executed (env : BreakerEnv) (b : CircuitBreaker) (c : PspCall) :
    List Executed :=
  match (b.call env c).1 with
  | none => []
  | some outcome => [⟨c.finish, outcome⟩]

def Executed.isFailure (e : Executed) : Bool := e.outcome != .succeeded

/-- The failing calls since the last success. -/
def failuresSinceSuccess (history : List Executed) : Nat :=
  (history.reverse.takeWhile Executed.isFailure).length

/-- When the last failing call ended. -/
def lastFailure (history : List Executed) : Nat :=
  ((history.reverse.find? Executed.isFailure).map (·.finish)).getD 0

/-- The history is one after which the breaker is open. -/
def Tripped (env : BreakerEnv) (history : List Executed) : Prop :=
  1 ≤ failuresSinceSuccess history ∧
    2 * failuresSinceSuccess history ≥ env.pspCbErrorThreshold

/-- The fields of the breaker say what the history says. -/
structure CircuitBreaker.Encodes (env : BreakerEnv) (b : CircuitBreaker)
    (history : List Executed) : Prop where
  failures : b.failures = failuresSinceSuccess history
  opened_iff : b.state = .opened ↔ Tripped env history
  openedAt : b.state = .opened → b.openedAt = lastFailure history
  not_halfOpen : b.state ≠ .halfOpen

@[simp] theorem failuresSinceSuccess_append_failure {history : List Executed} {e : Executed}
    (h : e.isFailure = true) :
    failuresSinceSuccess (history ++ [e]) = failuresSinceSuccess history + 1 := by
  simp [failuresSinceSuccess, h]

@[simp] theorem failuresSinceSuccess_append_success {history : List Executed} {e : Executed}
    (h : e.isFailure = false) : failuresSinceSuccess (history ++ [e]) = 0 := by
  simp [failuresSinceSuccess, h]

@[simp] theorem lastFailure_append_failure {history : List Executed} {e : Executed}
    (h : e.isFailure = true) : lastFailure (history ++ [e]) = e.finish := by
  simp [lastFailure, h]

theorem encodes_initial (env : BreakerEnv) : CircuitBreaker.initial.Encodes env [] where
  failures := rfl
  opened_iff := by simp [CircuitBreaker.initial, Tripped, failuresSinceSuccess]
  openedAt := by simp [CircuitBreaker.initial]
  not_halfOpen := by simp [CircuitBreaker.initial]

/-- A call is rejected iff the breaker is open and has not been open for long enough. -/
theorem CircuitBreaker.admitCall_eq_none_iff {env : BreakerEnv} {now : Nat} {b : CircuitBreaker} :
    b.admitCall env now = none ↔ b.state = .opened ∧ now - b.openedAt ≤ env.pspCbResetMs := by
  unfold CircuitBreaker.admitCall
  split
  · rename_i hopen
    split
    · rename_i hlate
      simp only [reduceCtorEq, false_iff, not_and, Nat.not_le]
      exact fun _ => hlate
    · rename_i hearly
      exact iff_of_true rfl ⟨hopen, Nat.le_of_not_lt hearly⟩
  · rename_i hnot
    simp [hnot]

/-- Admission changes at most the state, and never to `open`. -/
theorem CircuitBreaker.admitCall_eq_some {env : BreakerEnv} {now : Nat} {b b' : CircuitBreaker}
    (h : b.admitCall env now = some b') :
    b'.failures = b.failures ∧ b'.state ≠ .opened ∧
      (b.state ≠ .opened → b' = b) ∧
      (b.state = .opened → b'.state = .halfOpen ∧ b.openedAt + env.pspCbResetMs < now) := by
  unfold CircuitBreaker.admitCall at h
  split at h
  · rename_i hopen
    split at h
    · rename_i hlate
      obtain rfl := Option.some.inj h
      refine ⟨rfl, by simp, fun hnot => absurd hopen hnot, fun _ => ⟨rfl, by omega⟩⟩
    · cases h
  · rename_i hnot
    obtain rfl := Option.some.inj h
    exact ⟨rfl, hnot, fun _ => rfl, fun hopen => absurd hopen hnot⟩

theorem CircuitBreaker.admitCall_openedAt {env : BreakerEnv} {now : Nat} {b b' : CircuitBreaker}
    (h : b.admitCall env now = some b') : b'.openedAt = b.openedAt := by
  unfold CircuitBreaker.admitCall at h
  split at h
  · split at h
    · rw [← Option.some.inj h]
    · cases h
  · rw [← Option.some.inj h]

theorem CircuitBreaker.settle_failure {env : BreakerEnv} {now : Nat} {outcome : PspOutcome}
    (h : outcome ≠ .succeeded) (b : CircuitBreaker) :
    b.settle env now outcome =
      if (b.failures + 1) * 2 ≥ env.pspCbErrorThreshold then ⟨.opened, b.failures + 1, now⟩
      else { b with failures := b.failures + 1 } := by
  cases outcome with
  | succeeded => exact absurd rfl h
  | failed => rfl
  | timedOut => rfl

/-- A call that is executed after `history` extends the encoding by its outcome. -/
theorem CircuitBreaker.Encodes.settle {env : BreakerEnv} {b b' : CircuitBreaker}
    {history : List Executed} (h : b.Encodes env history) {start : Nat}
    (hadmitted : b.admitCall env start = some b') (finish : Nat) (outcome : PspOutcome) :
    (b'.settle env finish outcome).Encodes env (history ++ [⟨finish, outcome⟩]) := by
  obtain ⟨hfailures, -, hsame, hhalf⟩ := CircuitBreaker.admitCall_eq_some hadmitted
  by_cases hsuccess : outcome = .succeeded
  · subst hsuccess
    constructor
    · simp [CircuitBreaker.settle, Executed.isFailure]
    · simp [CircuitBreaker.settle, Executed.isFailure, Tripped]
    · simp [CircuitBreaker.settle]
    · simp [CircuitBreaker.settle]
  · have hfailure : (⟨finish, outcome⟩ : Executed).isFailure = true := by
      simpa [Executed.isFailure] using hsuccess
    rw [CircuitBreaker.settle_failure hsuccess, hfailures, h.failures]
    by_cases htrip : (failuresSinceSuccess history + 1) * 2 ≥ env.pspCbErrorThreshold
    · rw [if_pos htrip]
      constructor
      · simp [hfailure]
      · simp only [Tripped, hfailure, failuresSinceSuccess_append_failure, true_iff]
        omega
      · simp [hfailure]
      · simp
    · -- Below the threshold the breaker was closed: an open one has reached it already.
      rw [if_neg htrip]
      have hclosed : b.state ≠ .opened := by
        intro hopen
        have htripped := h.opened_iff.mp hopen
        unfold Tripped at htripped
        omega
      rw [hsame hclosed]
      constructor
      · simp [hfailure]
      · refine iff_of_false hclosed ?_
        simp only [Tripped, hfailure, failuresSinceSuccess_append_failure]
        omega
      · exact fun hopen => absurd hopen hclosed
      · exact h.not_halfOpen

theorem CircuitBreaker.Encodes.call {env : BreakerEnv} {b : CircuitBreaker}
    {history : List Executed} (h : b.Encodes env history) (c : PspCall) :
    (b.call env c).2.Encodes env (history ++ b.executed env c) := by
  unfold CircuitBreaker.executed CircuitBreaker.call
  cases hadmitted : b.admitCall env c.start with
  | none => simpa using h
  | some b' => exact h.settle hadmitted c.finish c.outcome

/-- The history of a sequence of calls on a new breaker. -/
def historyOf (env : BreakerEnv) (calls : List PspCall) : List Executed :=
  outputs (fun b c => (b.call env c).2) (CircuitBreaker.executed env) .initial calls

theorem encodes_exec (env : BreakerEnv) (calls : List PspCall) :
    (exec (fun b c => (CircuitBreaker.call env b c).2) .initial calls).Encodes env
      (historyOf env calls) :=
  exec_outputs_invariant' (fun (b : CircuitBreaker) history => b.Encodes env history)
    (fun _ _ c h => h.call c) (encodes_initial env) calls

/-- A rejected call changes nothing. -/
theorem CircuitBreaker.call_rejected {env : BreakerEnv} {b : CircuitBreaker} {c : PspCall}
    (h : (b.call env c).1 = none) : (b.call env c).2 = b := by
  unfold CircuitBreaker.call at h ⊢
  cases hadmitted : b.admitCall env c.start with
  | none => rfl
  | some b' => simp [hadmitted] at h

theorem CircuitBreaker.call_succeeded {env : BreakerEnv} {b : CircuitBreaker} {c : PspCall}
    (h : (b.call env c).1 = some .succeeded) : (b.call env c).2 = ⟨.closed, 0, b.openedAt⟩ := by
  unfold CircuitBreaker.call at h ⊢
  cases hadmitted : b.admitCall env c.start with
  | none => simp [hadmitted] at h
  | some b' =>
    simp only [hadmitted, Option.some.injEq] at h
    have hopenedAt : b'.openedAt = b.openedAt := CircuitBreaker.admitCall_openedAt hadmitted
    simp only [h, CircuitBreaker.settle, hopenedAt]

section Encodes

variable {env : BreakerEnv} {b : CircuitBreaker} {history : List Executed}

/-- A call is rejected while the breaker is tripped and its last failure is recent. -/
theorem CircuitBreaker.Encodes.rejects_iff (h : b.Encodes env history) (c : PspCall) :
    (b.call env c).1 = none ↔
      1 ≤ failuresSinceSuccess history ∧
        2 * failuresSinceSuccess history ≥ env.pspCbErrorThreshold ∧
        c.start - lastFailure history ≤ env.pspCbResetMs := by
  have hrejected : (b.call env c).1 = none ↔ b.admitCall env c.start = none := by
    unfold CircuitBreaker.call
    cases b.admitCall env c.start <;> simp
  rw [hrejected, CircuitBreaker.admitCall_eq_none_iff, h.opened_iff]
  constructor
  · rintro ⟨htripped, hearly⟩
    rw [h.openedAt (h.opened_iff.mpr htripped)] at hearly
    exact ⟨htripped.1, htripped.2, hearly⟩
  · rintro ⟨hsome, hhalf, hearly⟩
    rw [← h.openedAt (h.opened_iff.mpr ⟨hsome, hhalf⟩)] at hearly
    exact ⟨⟨hsome, hhalf⟩, hearly⟩

/-- A trial that fails opens the breaker again. -/
theorem CircuitBreaker.Encodes.reopens (h : b.Encodes env history) {c : PspCall}
    (hopen : b.state = .opened) (hadmits : (b.call env c).1 = some c.outcome)
    (hfailed : c.outcome ≠ .succeeded) :
    (b.call env c).2.state = .opened ∧ (b.call env c).2.openedAt = c.finish := by
  unfold CircuitBreaker.call at hadmits ⊢
  cases hadmitted : b.admitCall env c.start with
  | none => simp [hadmitted] at hadmits
  | some b' =>
    obtain ⟨hfailures, -⟩ := CircuitBreaker.admitCall_eq_some hadmitted
    -- An open breaker has reached the threshold, so one more failure reaches it too.
    have htripped := h.opened_iff.mp hopen
    have hreached : (b'.failures + 1) * 2 ≥ env.pspCbErrorThreshold := by
      rw [hfailures, h.failures]
      have hhalf := htripped.2
      omega
    simp only [CircuitBreaker.settle_failure hfailed, if_pos hreached]
    exact ⟨trivial, trivial⟩

end Encodes

/-- **On sequential runs the breaker is its history.**  The next call is rejected iff the
    history has tripped the breaker and its last failure is not long enough ago; a
    rejected call changes nothing, `half_open` is never seen between calls, a failing
    trial opens the breaker again and a success forgets all failures. -/
theorem breaker_encodes_history (env : BreakerEnv) (calls : List PspCall) (next : PspCall) :
    let b := exec (fun b c => (CircuitBreaker.call env b c).2) .initial calls
    let history := historyOf env calls
    ((b.call env next).1 = none ↔
      1 ≤ failuresSinceSuccess history ∧
        2 * failuresSinceSuccess history ≥ env.pspCbErrorThreshold ∧
        next.start - lastFailure history ≤ env.pspCbResetMs) ∧
    ((b.call env next).1 = none → (b.call env next).2 = b) ∧
    b.state ≠ .halfOpen ∧
    b.failures = failuresSinceSuccess history ∧
    (b.state = .opened → (b.call env next).1 = some next.outcome → next.outcome ≠ .succeeded →
      (b.call env next).2.state = .opened ∧ (b.call env next).2.openedAt = next.finish) ∧
    ((b.call env next).1 = some .succeeded → (b.call env next).2 = ⟨.closed, 0, b.openedAt⟩) := by
  intro b history
  have henc : b.Encodes env history := encodes_exec env calls
  exact ⟨henc.rejects_iff next, CircuitBreaker.call_rejected, henc.not_halfOpen, henc.failures,
    henc.reopens, CircuitBreaker.call_succeeded⟩

/-! ### Overlapping calls -/

/-- A call whose promise is pending: when it was invoked, how often the breaker had
    opened by then, and whether it was let through in `half_open`. -/
structure PendingCall where
  startedAt : Nat
  openingsSeen : Nat
  isTrial : Bool
deriving DecidableEq, Repr

/-- The breaker with its pending calls; `openings` are the times at which it opened. -/
structure BreakerRun where
  breaker : CircuitBreaker
  clock : Nat
  calls : List PendingCall
  openings : List Nat
deriving DecidableEq, Repr

def BreakerRun.initial (clock : Nat) : BreakerRun := ⟨.initial, clock, [], []⟩

/-- `elapsed` is the time since the previous action. -/
inductive BreakerAction where
  | start (elapsed : Nat)
  | finish (elapsed : Nat) (i : Nat) (outcome : PspOutcome)
deriving DecidableEq, Repr

/-- The call `exec` invokes its function for, and `none` when it throws `circuit_open`. -/
def BreakerRun.invokes (env : BreakerEnv) (s : BreakerRun) (elapsed : Nat) :
    Option (PendingCall × CircuitBreaker) :=
  (s.breaker.admitCall env (s.clock + elapsed)).map fun b =>
    (⟨s.clock + elapsed, s.openings.length, b.state == .halfOpen⟩, b)

/-- A failure that (again) opens the breaker. -/
def CircuitBreaker.opens (env : BreakerEnv) (outcome : PspOutcome) (b : CircuitBreaker) : Bool :=
  outcome != .succeeded && decide ((b.failures + 1) * 2 ≥ env.pspCbErrorThreshold)

def breakerStep (env : BreakerEnv) (s : BreakerRun) : BreakerAction → BreakerRun
  | .start elapsed =>
      match s.invokes env elapsed with
      | none => { s with clock := s.clock + elapsed }
      | some (call, b) =>
          { s with breaker := b, clock := s.clock + elapsed, calls := s.calls ++ [call] }
  | .finish elapsed i outcome =>
      let now := s.clock + elapsed
      match s.calls[i]? with
      | none => { s with clock := now }
      | some _ =>
          { breaker := s.breaker.settle env now outcome
            clock := now
            calls := s.calls.eraseIdx i
            openings := if s.breaker.opens env outcome then s.openings ++ [now] else s.openings }

/-- Nothing is invoked before the reset time has passed since each opening. -/
def Waits (env : BreakerEnv) (s : BreakerRun) : BreakerAction → Prop
  | .start elapsed => (s.invokes env elapsed).isSome →
      ∀ o ∈ s.openings, o + env.pspCbResetMs ≤ s.clock + elapsed
  | .finish .. => True

/-- In `half_open` at most one trial is pending. -/
def AtMostOneTrial (s : BreakerRun) : Prop :=
  s.breaker.state = .halfOpen → (s.calls.filter (·.isTrial)).length ≤ 1

def Protects (env : BreakerEnv) (s : BreakerRun) (a : BreakerAction) : Prop :=
  Waits env s a ∧ AtMostOneTrial (breakerStep env s a)

/-- The two situations the code does not guard against do not occur: no call becomes a
    trial while another trial is pending, and none succeeds that was started before
    the last opening. -/
def Orderly (env : BreakerEnv) (s : BreakerRun) : BreakerAction → Prop
  | .start elapsed =>
      s.breaker.state = .halfOpen ∨
        (s.breaker.state = .opened ∧
          s.clock + elapsed - s.breaker.openedAt > env.pspCbResetMs) →
      ∀ c ∈ s.calls, c.isTrial = false
  | .finish _ i outcome =>
      outcome = .succeeded → ∀ c ∈ s.calls[i]?, c.openingsSeen = s.openings.length

instance (env : BreakerEnv) (s : BreakerRun) : DecidablePred (Waits env s)
  | .start elapsed =>
      inferInstanceAs (Decidable ((s.invokes env elapsed).isSome →
        ∀ o ∈ s.openings, o + env.pspCbResetMs ≤ s.clock + elapsed))
  | .finish .. => inferInstanceAs (Decidable True)

instance (s : BreakerRun) : Decidable (AtMostOneTrial s) :=
  inferInstanceAs (Decidable (_ → _))

instance (env : BreakerEnv) (s : BreakerRun) (a : BreakerAction) : Decidable (Protects env s a) :=
  inferInstanceAs (Decidable (_ ∧ _))

instance (env : BreakerEnv) (s : BreakerRun) : DecidablePred (Orderly env s)
  | .start elapsed =>
      inferInstanceAs (Decidable ((s.breaker.state = .halfOpen ∨
        (s.breaker.state = .opened ∧
          s.clock + elapsed - s.breaker.openedAt > env.pspCbResetMs)) →
        ∀ c ∈ s.calls, c.isTrial = false))
  | .finish _ i outcome =>
      inferInstanceAs (Decidable (outcome = .succeeded →
        ∀ c ∈ s.calls[i]?, c.openingsSeen = s.openings.length))

/-- In a run of orderly steps: a breaker that is not open has waited for every opening,
    and so has every call started since the last one. -/
structure Guarded (env : BreakerEnv) (s : BreakerRun) : Prop where
  past : ∀ o ∈ s.openings, o ≤ s.clock
  opened : s.breaker.state = .opened → ∀ o ∈ s.openings, o ≤ s.breaker.openedAt
  waited : s.breaker.state ≠ .opened → ∀ o ∈ s.openings, o + env.pspCbResetMs ≤ s.clock
  seen : ∀ c ∈ s.calls, c.openingsSeen ≤ s.openings.length
  recent : ∀ c ∈ s.calls, c.openingsSeen = s.openings.length →
    ∀ o ∈ s.openings, o + env.pspCbResetMs ≤ s.clock
  oneTrial : (s.calls.filter (·.isTrial)).length ≤ 1

theorem guarded_initial (env : BreakerEnv) (clock : Nat) :
    Guarded env (BreakerRun.initial clock) := by
  constructor <;> simp [BreakerRun.initial]

/-- Time alone breaks nothing. -/
theorem Guarded.wait {env : BreakerEnv} {s : BreakerRun} (h : Guarded env s) (elapsed : Nat) :
    Guarded env { s with clock := s.clock + elapsed } where
  past := fun o ho => Nat.le_add_right_of_le (h.past o ho)
  opened := h.opened
  waited := fun hnot o ho => Nat.le_add_right_of_le (h.waited hnot o ho)
  seen := h.seen
  recent := fun c hc hseen o ho => Nat.le_add_right_of_le (h.recent c hc hseen o ho)
  oneTrial := h.oneTrial

/-- What is invoked is invoked late enough. -/
theorem Guarded.invoked {env : BreakerEnv} {s : BreakerRun} (h : Guarded env s) {elapsed : Nat}
    {b : CircuitBreaker} (hadmitted : s.breaker.admitCall env (s.clock + elapsed) = some b) :
    ∀ o ∈ s.openings, o + env.pspCbResetMs ≤ s.clock + elapsed := by
  obtain ⟨-, -, -, hlate⟩ := CircuitBreaker.admitCall_eq_some hadmitted
  intro o ho
  by_cases hopen : s.breaker.state = .opened
  · have hbefore := h.opened hopen o ho
    have hafter := (hlate hopen).2
    omega
  · have hwaited := h.waited hopen o ho
    omega

theorem Guarded.start {env : BreakerEnv} {s : BreakerRun} (h : Guarded env s) {elapsed : Nat}
    (hok : Orderly env s (.start elapsed)) : Guarded env (breakerStep env s (.start elapsed)) := by
  cases hadmitted : s.breaker.admitCall env (s.clock + elapsed) with
  | none =>
    simp only [breakerStep, BreakerRun.invokes, hadmitted, Option.map_none]
    exact h.wait elapsed
  | some b =>
    simp only [breakerStep, BreakerRun.invokes, hadmitted, Option.map_some]
    obtain ⟨-, hnot, hsame, hlate⟩ := CircuitBreaker.admitCall_eq_some hadmitted
    have hinvoked := h.invoked hadmitted
    constructor
    · exact (h.wait elapsed).past
    · exact fun hopen => absurd hopen hnot
    · exact fun _ => hinvoked
    · intro c hc
      rcases List.mem_append.mp hc with hc | hc
      · exact h.seen c hc
      · obtain rfl := List.mem_singleton.mp hc
        exact Nat.le_refl _
    · exact fun _ _ _ => hinvoked
    · simp only [List.filter_append, List.length_append]
      by_cases hhalf : b.state = .halfOpen
      · -- The new call is a trial, so no other one is pending.
        have halone : s.calls.filter (·.isTrial) = [] := by
          apply List.filter_eq_nil_iff.mpr
          intro c hc
          have hfree : c.isTrial = false := by
            apply hok _ c hc
            by_cases hopen : s.breaker.state = .opened
            · have hafter := (hlate hopen).2
              exact Or.inr ⟨hopen, by omega⟩
            · rw [hsame hopen] at hhalf
              exact Or.inl hhalf
          simp [hfree]
        simp [halone, hhalf]
      · have hmany := h.oneTrial
        simpa [hhalf] using hmany

theorem Guarded.finish {env : BreakerEnv} {s : BreakerRun} (h : Guarded env s) {elapsed i : Nat}
    {outcome : PspOutcome} (hok : Orderly env s (.finish elapsed i outcome)) :
    Guarded env (breakerStep env s (.finish elapsed i outcome)) := by
  cases hget : s.calls[i]? with
  | none =>
    simp only [breakerStep, hget]
    exact h.wait elapsed
  | some call =>
    simp only [breakerStep, hget]
    have hcall : call ∈ s.calls := List.mem_of_getElem? hget
    have hrest : ∀ c ∈ s.calls.eraseIdx i, c ∈ s.calls := fun c hc => List.mem_of_mem_eraseIdx hc
    have hone : ((s.calls.eraseIdx i).filter (·.isTrial)).length ≤ 1 :=
      Nat.le_trans ((List.eraseIdx_sublist _ i).filter _).length_le h.oneTrial
    have hlater := h.wait elapsed
    by_cases hsuccess : outcome = .succeeded
    · subst hsuccess
      have hwaited := hlater.recent call hcall (hok rfl call hget)
      exact ⟨hlater.past, by simp [CircuitBreaker.settle], fun _ => hwaited,
        fun c hc => h.seen c (hrest c hc), fun c hc => hlater.recent c (hrest c hc), hone⟩
    · rw [CircuitBreaker.settle_failure hsuccess]
      by_cases htrip : (s.breaker.failures + 1) * 2 ≥ env.pspCbErrorThreshold
      · -- The breaker opens: every pending call is older than that.
        rw [if_pos htrip, if_pos (by simp [CircuitBreaker.opens, hsuccess, htrip])]
        have hbefore : ∀ o ∈ s.openings ++ [s.clock + elapsed], o ≤ s.clock + elapsed := by
          intro o ho
          rcases List.mem_append.mp ho with ho | ho
          · exact hlater.past o ho
          · exact Nat.le_of_eq (List.mem_singleton.mp ho)
        have holder : ∀ c ∈ s.calls.eraseIdx i,
            c.openingsSeen < (s.openings ++ [s.clock + elapsed]).length := by
          intro c hc
          have hseen := h.seen c (hrest c hc)
          rw [List.length_append, List.length_singleton]
          omega
        refine ⟨hbefore, fun _ => hbefore, by simp, ?_, ?_, hone⟩
        · exact fun c hc => Nat.le_of_lt (holder c hc)
        · exact fun c hc hnow => absurd hnow (Nat.ne_of_lt (holder c hc))
      · -- Only the number of failures changes.
        rw [if_neg htrip, if_neg (by simpa [CircuitBreaker.opens, hsuccess] using htrip)]
        exact ⟨hlater.past, h.opened, hlater.waited, fun c hc => h.seen c (hrest c hc),
          fun c hc => hlater.recent c (hrest c hc), hone⟩

theorem Guarded.step {env : BreakerEnv} {s : BreakerRun} {a : BreakerAction} (h : Guarded env s)
    (hok : Orderly env s a) : Guarded env (breakerStep env s a) := by
  cases a with
  | start elapsed => exact h.start hok
  | finish elapsed i outcome => exact h.finish hok

/-- **The breaker protects in orderly runs.** -/
theorem protects_of_orderly (env : BreakerEnv) (clock : Nat) {as : List BreakerAction}
    (hok : Along (breakerStep env) (Orderly env) (BreakerRun.initial clock) as) :
    Along (breakerStep env) (Protects env) (BreakerRun.initial clock) as := by
  apply along_of_invariant (Guarded env) (fun s a => Guarded.step) _ (guarded_initial env clock) hok
  intro s a h hstep
  refine ⟨?_, fun _ => (h.step hstep).oneTrial⟩
  cases a with
  | start elapsed =>
    intro hinvoked
    obtain ⟨⟨call, b⟩, hsome⟩ := Option.isSome_iff_exists.mp hinvoked
    obtain ⟨b', hadmitted, -⟩ := Option.map_eq_some_iff.mp hsome
    exact h.invoked hadmitted
  | finish elapsed i outcome => exact trivial

/-- Overlapping calls whose settling is not separated from their start are the calls of
    a sequential run. -/
theorem breakerStep_call (env : BreakerEnv) (s : BreakerRun) (hidle : s.calls = [])
    (waited lasted : Nat) (outcome : PspOutcome) :
    let c : PspCall := ⟨s.clock + waited, s.clock + waited + lasted, outcome⟩
    (exec (breakerStep env) s [.start waited, .finish lasted 0 outcome]).breaker =
      (s.breaker.call env c).2 := by
  simp only [exec_cons, exec_nil, breakerStep, BreakerRun.invokes, CircuitBreaker.call]
  cases s.breaker.admitCall env (s.clock + waited) with
  | none => simp [hidle]
  | some b => simp [hidle]

/-- One failure opens this breaker, for 30 s. -/
def strictBreaker : BreakerEnv := ⟨2, 30000⟩

/-- Of two pending calls one fails and the other succeeds; a third is let through 20 ms
    after the opening. -/
def lateSuccess : List BreakerAction :=
  [.start 0, .start 0, .finish 10 1 .failed, .finish 10 0 .succeeded, .start 10]

/-- After the reset time two calls are let through. -/
def twoTrials : List BreakerAction :=
  [.start 0, .finish 10 0 .failed, .start 40000, .start 0]

theorem not_protects : ¬ Along (breakerStep strictBreaker) (Protects strictBreaker)
      (BreakerRun.initial 0) lateSuccess ∧
    ¬ Along (breakerStep strictBreaker) (Protects strictBreaker)
      (BreakerRun.initial 0) twoTrials := by
  decide

/-- A trial times out, the next one succeeds, and calls go through again. -/
def recovery : List BreakerAction :=
  [.start 0, .finish 10 0 .failed, .start 5, .start 40000, .finish 10 0 .timedOut, .start 40000,
    .finish 10 0 .succeeded, .start 0]

theorem protects_recovery : Along (breakerStep strictBreaker) (Protects strictBreaker)
    (BreakerRun.initial 0) recovery :=
  protects_of_orderly strictBreaker 0 (by decide)

end SeatReservation
