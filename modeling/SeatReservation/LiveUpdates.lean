import SeatReservation.SeatRuntime

/-!
# Live updates and what is committed

`hold`, `release` and the consumer emit after their COMMIT.  The sweeper emits
inside the loop of its transaction, where the holds it reports are still HELD
for everyone else and the rest of the batch can still roll back.
-/

namespace SeatReservation

open Relational TransitionSystem

/-- What the step puts on the bus reports transitions that are durable by then. -/
def ReportsCommitted (s : SeatRuntime) (a : RuntimeAction) : Prop :=
  ∀ e ∈ busOutput s a, e.Committed s.db

instance (s : SeatRuntime) : DecidablePred (ReportsCommitted s) :=
  fun a => inferInstanceAs (Decidable (∀ e ∈ busOutput s a, e.Committed s.db))

def Sweep.isEmitting (t : Sweep) : Bool :=
  match t.point with
  | .emit _ _ => true
  | _ => false

/-- The step is not the `bus.emit` of a tick. -/
def NoTickEmits (s : SeatRuntime) : RuntimeAction → Prop
  | .sweep i _ => (s.sweeps[i]?.map Sweep.isEmitting).getD false = false
  | _ => True

instance (s : SeatRuntime) : DecidablePred (NoTickEmits s)
  | .sweep i _ =>
      inferInstanceAs (Decidable ((s.sweeps[i]?.map Sweep.isEmitting).getD false = false))
  | .hold .. | .lookup .. | .cancel .. | .paymentSucceeded .. | .paymentFailed .. | .emit .. |
    .tick .. | .sweepFails .. => inferInstanceAs (Decidable True)

/-! ### A transition stays durable -/

theorem Emission.Committed.effect {env : SeatEnv} {db db' : SeatDb} {a : SeatAction} {e : Emission}
    (h : e.Committed db) (heffect : SeatEffect env db a db') : e.Committed db' := by
  obtain ⟨hold, hmem, hid, hreports⟩ := h
  obtain ⟨hold', hmem', hid', hseat, huser, huntil, hfrozen⟩ := heffect.hold_kept hmem
  refine ⟨hold', hmem', hid'.trans hid, ?_⟩
  unfold SeatBusEvent.Reports at hreports ⊢
  cases hevent : e.event with
  | held seatId userId heldUntil =>
    rw [hevent] at hreports
    dsimp only at hreports ⊢
    rwa [hseat, huser, huntil]
  | released seatId =>
    rw [hevent] at hreports
    dsimp only at hreports ⊢
    rwa [hfrozen (by simp [hreports.2])]
  | reserved seatId userId =>
    rw [hevent] at hreports
    dsimp only at hreports ⊢
    rwa [hfrozen (by simp [hreports.2.2])]

/-- What is about to be put on the bus is durable. -/
structure AnswersCommitted (env : SeatEnv) (s : SeatRuntime) : Prop where
  consistent : s.Consistent env
  answers : ∀ e ∈ s.answers, e.Committed s.db

theorem AnswersCommitted.step {env : SeatEnv} {s : SeatRuntime} (h : AnswersCommitted env s)
    (a : RuntimeAction) : AnswersCommitted env (runtimeStep env s a) := by
  have heffect := h.consistent.effect a
  obtain ⟨c, hdb⟩ := h.consistent.effect_db heffect
  have hold : ∀ e ∈ s.answers, e.Committed (runtimeStep env s a).db :=
    fun e he => (h.answers e he).effect hdb
  refine ⟨h.consistent.step a, ?_⟩
  generalize runtimeStep env s a = s' at heffect hold ⊢
  intro e he
  cases heffect with
  | call _ cancels emissions db' hleaves hcancels =>
    rcases List.mem_append.mp he with he | he
    · exact hold e he
    · exact hleaves.committed e he
  | emit i => exact hold e (List.eraseIdx_subset he)
  | _ => exact hold e he

/-! ### The emission of a tick -/

/-- A tick emits before its COMMIT: the hold is still HELD. -/
theorem Sweep.Consistent.not_committed {env : SeatEnv} {db : SeatDb} {t : Sweep}
    (h : t.Consistent env db) (hwf : db.WellFormed) {r : HoldRow} {rest : List HoldRow}
    (hpoint : t.point = .emit r rest) : ¬ Emission.Committed db ⟨.released r.seatId, r.id⟩ := by
  rintro ⟨x, hx, hid, -, hreleased⟩
  have hr : r ∈ t.batch := by
    rw [← h.announced]
    exact List.mem_append_left _ (h.emitting r rest hpoint)
  obtain ⟨hold, hmem, -, hheld, rfl⟩ := h.mem_batch hr
  rw [hwf.holdKeys.eq_of_mem hx hmem hid, hheld] at hreleased
  cases hreleased

theorem reportsCommitted_iff {env : SeatEnv} {s : SeatRuntime} (h : AnswersCommitted env s)
    (a : RuntimeAction) : ReportsCommitted s a ↔ NoTickEmits s a := by
  unfold ReportsCommitted
  cases a with
  | emit i =>
    refine iff_of_true ?_ trivial
    intro e he
    rw [busOutput, Option.mem_toList] at he
    exact h.answers e (List.mem_of_getElem? he)
  | sweep i scan =>
    unfold NoTickEmits busOutput
    dsimp only
    cases hget : s.sweeps[i]? with
    | none => simp
    | some t =>
      have ht := h.consistent.sweeps t (List.mem_of_getElem? hget)
      simp only [Option.map_some, Option.getD_some]
      cases hpoint : t.point with
      | emit r rest =>
        have hnot := ht.not_committed h.consistent.wellFormed hpoint
        simp [Sweep.emits, Sweep.isEmitting, hpoint, hnot]
      | _ => simp [Sweep.emits, Sweep.isEmitting, hpoint]
  | _ => exact iff_of_true (by simp [busOutput]) trivial

/-- **Live updates report committed changes iff no tick emits.**  A run puts only durable
    transitions on the bus iff none of its steps is the `bus.emit` of a tick: every tick
    finds nothing to release or fails before it. -/
theorem live_updates_committed_iff {db : SeatDb} (h : db.WellFormed) (env : SeatEnv)
    (as : List RuntimeAction) :
    Along (runtimeStep env) ReportsCommitted (SeatRuntime.start db) as ↔
      Along (runtimeStep env) NoTickEmits (SeatRuntime.start db) as := by
  apply along_iff_along (AnswersCommitted env)
  · intro s a hs _
    exact hs.step a
  · intro s a hs
    exact reportsCommitted_iff hs a
  · exact ⟨SeatRuntime.consistent_start h, by simp [SeatRuntime.start]⟩

/-- Users 101 and 102 hold A1 and A2 until 120000 and the sweeper comes at 200000. -/
def twoExpiredHolds : List RuntimeAction :=
  [.hold "00000000-0000-0000-0000-000000000001" 101 "t1" ⟨501, 901, 0, 0, 0⟩ fun _ => none,
    .emit 0,
    .hold "00000000-0000-0000-0000-000000000002" 102 "t2" ⟨502, 902, 0, 0, 0⟩ fun _ => none,
    .emit 0, .tick 801 200000 fun id => (id, 200000)]

def bothHolds : Scan := ⟨[501, 502], by decide⟩

/-- A tick that releases both and fails at the second UPDATE of seats. -/
def sweepFailsLate : List RuntimeAction :=
  twoExpiredHolds ++ List.replicate 4 (.sweep 0 bothHolds) ++ [.sweepFails 0]

/-- It has put a release on the bus, and both holds are still HELD. -/
theorem sweepFailsLate_emits :
    seedDb.WellFormed ∧
    ¬ Along (runtimeStep defaultSeatEnv) ReportsCommitted (SeatRuntime.start seedDb)
      sweepFailsLate ∧
    ⟨.released 1, 501⟩ ∈ outputs (runtimeStep defaultSeatEnv) busOutput (SeatRuntime.start seedDb)
      sweepFailsLate ∧
    ∀ h ∈ (exec (runtimeStep defaultSeatEnv) (SeatRuntime.start seedDb) sweepFailsLate).db.holds,
      h.status = .held :=
  ⟨seedDb_seeded.wellFormed, by decide +kernel, by decide +kernel, by decide +kernel⟩

/-- When it fails before its first `emit`, all that is on the bus is committed. -/
theorem sweepFailsEarly_reports :
    Along (runtimeStep defaultSeatEnv) ReportsCommitted (SeatRuntime.start seedDb)
      (twoExpiredHolds ++ List.replicate 3 (.sweep 0 bothHolds) ++ [.sweepFails 0]) :=
  (live_updates_committed_iff seedDb_seeded.wellFormed defaultSeatEnv _).mpr (by decide +kernel)

end SeatReservation
