import SeatReservation.SeatRuntime

/-!
# Cancelling releases one's own hold

`SeatsController.release` looks a hold up, compares its user, and releases it by
its id in a transaction of its own.  The row it has read may be stale by then,
but a hold never changes its user or its seat, and the transaction only moves a
hold that is still HELD.
-/

namespace SeatReservation

open Relational TransitionSystem SqlSession

/-- The hold a cancellation has found is one of its user on its seat. -/
def Cancellation.OwnsHold (c : Cancellation) (db : SeatDb) : Prop :=
  ∃ h ∈ db.holds, h.id = c.hold.id ∧ h.userId = c.userId ∧ h.seatId = c.seatId

/-- The request has moved a hold of its user from HELD to RELEASED. -/
def Cancellation.Moved (c : Cancellation) (now : Nat) (s s' : SeatRuntime) : Prop :=
  ∃ h ∈ s.db.holds, h.userId = c.userId ∧ h.seatId = c.seatId ∧ h.status = .held ∧
    h.release now ∈ s'.db.holds

/-- What the transaction of a cancellation may change. -/
structure Cancellation.ReleasesOwn (c : Cancellation) (now : Nat) (s s' : SeatRuntime) :
    Prop where
  holds : List.Forall₂ (fun h h' => h' = h ∨
    (h.userId = c.userId ∧ h.seatId = c.seatId ∧ h.status = .held ∧ h' = h.release now))
    s.db.holds s'.db.holds
  seats : List.Forall₂ (fun r r' => r' = r ∨
    (r.id = c.seatId ∧ r' = { r with status := .available } ∧
      ∀ h ∈ s'.db.holds, h.seatId = c.seatId → h.status ≠ .held)) s.db.seats s'.db.seats
  emission : s'.answers = s.answers ∨
    s'.answers = s.answers ++ [⟨.released c.seatId, c.hold.id⟩] ∧ c.Moved now s s'
  outbox : s'.db.outbox = s.db.outbox ∨ ∃ row : OutboxRow, row.Says c.hold.id "seat.released.v1" ∧
    s.db.outbox.Appends s'.db.outbox [row] ∧ c.Moved now s s'

/-! ### The lookup stays right -/

/-- What cancellations have found is theirs. -/
structure CancelsOwnHolds (env : SeatEnv) (s : SeatRuntime) : Prop where
  consistent : s.Consistent env
  cancels : ∀ c ∈ s.cancels, c.OwnsHold s.db

theorem CancelsOwnHolds.step {env : SeatEnv} {s : SeatRuntime} (h : CancelsOwnHolds env s)
    (a : RuntimeAction) : CancelsOwnHolds env (runtimeStep env s a) := by
  have heffect := h.consistent.effect a
  obtain ⟨call, hdb⟩ := h.consistent.effect_db heffect
  have hold : ∀ c ∈ s.cancels, c.OwnsHold (runtimeStep env s a).db := by
    intro c hc
    obtain ⟨r, hr, hid, huser, hseat⟩ := h.cancels c hc
    obtain ⟨r', hr', hid', hseat', huser', -, -⟩ := hdb.hold_kept hr
    exact ⟨r', hr', hid'.trans hid, huser'.trans huser, hseat'.trans hseat⟩
  refine ⟨h.consistent.step a, ?_⟩
  generalize runtimeStep env s a = s' at heffect hold ⊢
  intro c hc
  cases heffect with
  | call _ cancels emissions db' hleaves hcancels => exact hold c (hcancels hc)
  | lookup _ c' hrow hown hseat =>
    rcases List.mem_append.mp hc with hc | hc
    · exact hold c hc
    · rw [List.mem_singleton.mp hc]
      exact ⟨c'.hold, hrow, rfl, hown, hseat⟩
  | _ => exact hold c hc

/-! ### The transaction -/

theorem forall₂_update {α : Type} {p : α → Bool} {f : α → α} {t : List α} {R : α → α → Prop}
    (hrefl : ∀ r, R r r) (hstep : ∀ r ∈ t, p r = true → R r (f r)) :
    List.Forall₂ R t (update p f t) := by
  induction t with
  | nil => exact .nil
  | cons r t ih =>
    refine .cons ?_ (ih fun x hx => hstep x (List.mem_cons_of_mem _ hx))
    dsimp only
    split
    · rename_i hp
      exact hstep r List.mem_cons_self hp
    · exact hrefl r

/-- Nothing has changed. -/
theorem Cancellation.ReleasesOwn.nothing (c : Cancellation) (now : Nat) (s : SeatRuntime)
    (cancels : List Cancellation) :
    c.ReleasesOwn now s { s with cancels := cancels } where
  holds := List.forall₂_same.mpr fun _ _ => Or.inl rfl
  seats := List.forall₂_same.mpr fun _ _ => Or.inl rfl
  emission := Or.inl rfl
  outbox := Or.inl rfl

theorem Cancellation.releases_own {c : Cancellation} {s : SeatRuntime} (hwf : s.db.WellFormed)
    (hown : c.OwnsHold s.db) {reason traceId : String} {d : Draw} {result : ReleaseResult}
    {db' : SeatDb} (hdone : (result, db') = releaseHold c.hold.id reason traceId d s.db)
    (cancels : List Cancellation) :
    c.ReleasesOwn d.now s { s with
      db := db', cancels := cancels, answers := s.answers ++ releasedEmission c.hold.id result } := by
  unfold releaseHold at hdone
  cases hrows : returning (isActiveHold c.hold.id) (HoldRow.release d.now) s.db.holds with
  | nil =>
    rw [hrows] at hdone
    obtain ⟨rfl, rfl⟩ := Prod.mk.inj hdone
    simpa [releasedEmission] using Cancellation.ReleasesOwn.nothing c d.now s cancels
  | cons row rest =>
    rw [hrows] at hdone
    obtain ⟨rfl, rfl⟩ := Prod.mk.inj hdone
    obtain ⟨hold, hmem, hid, hheld, rfl, -⟩ := returning_isActiveHold hwf.holdKeys hrows
    -- The row found by its id is the one the lookup had found.
    obtain ⟨hold', hmem', hid', huser, hseat⟩ := hown
    obtain rfl : hold' = hold := hwf.holdKeys.eq_of_mem hmem' hmem (hid'.trans hid.symm)
    have hmoved : hold'.release d.now ∈
        update (isActiveHold c.hold.id) (HoldRow.release d.now) s.db.holds :=
      mem_update_of_mem hmem (isActiveHold_iff.mpr ⟨hid, hheld⟩)
    refine ⟨?_, ?_, Or.inr ⟨?_, hold', hmem, huser, hseat, hheld, hmoved⟩,
      Or.inr ⟨_, ?_, Outbox.Appends.insert .., hold', hmem, huser, hseat, hheld, hmoved⟩⟩
    · apply forall₂_update
      · exact fun _ => Or.inl rfl
      · intro h hh hactive
        obtain ⟨hsame, hstatus⟩ := isActiveHold_iff.mp hactive
        rw [hwf.holdKeys.eq_of_mem hh hmem (hsame.trans hid.symm)]
        exact Or.inr ⟨huser, hseat, hheld, rfl⟩
    · apply forall₂_update
      · exact fun _ => Or.inl rfl
      · intro r _ hfree
        simp only [HoldRow.release_seatId, hseat, Bool.and_eq_true, beq_iff_eq,
          Bool.not_eq_true'] at hfree
        refine Or.inr ⟨hfree.1, rfl, ?_⟩
        intro h hh hon hactive
        have hnone := List.any_eq_false.mp hfree.2 h hh
        simp [hon, hactive] at hnone
    · simp [releasedEmission, hseat]
    · exact ⟨rfl, rfl, rfl⟩

/-- The lookup writes and emits nothing, and keeps a hold only if it is the user's own. -/
theorem lookup_writes_nothing (env : SeatEnv) (s : SeatRuntime) (seatId : String) (userId : Uuid)
    (traceId : String) :
    let s' := runtimeStep env s (.lookup seatId userId traceId)
    s'.db = s.db ∧ s'.answers = s.answers ∧ ∀ c ∈ s'.cancels, c ∈ s.cancels ∨
      (c.userId = userId ∧ Uuid.ofText seatId = some c.seatId ∧ c.OwnsHold s.db) := by
  dsimp only [runtimeStep]
  cases hseat : Uuid.ofText seatId with
  | none => exact ⟨rfl, rfl, fun c hc => Or.inl hc⟩
  | some seat =>
    dsimp only
    cases hfound : findActiveHoldForSeat seat s.db with
    | none => exact ⟨rfl, rfl, fun c hc => Or.inl hc⟩
    | some hold =>
      dsimp only
      split
      · rename_i hown
        have hon := List.find?_some hfound
        simp only [Bool.and_eq_true, beq_iff_eq] at hon
        refine ⟨rfl, rfl, fun c hc => ?_⟩
        rcases List.mem_append.mp hc with hc | hc
        · exact Or.inl hc
        · rw [List.mem_singleton.mp hc]
          exact Or.inr ⟨rfl, rfl, hold, List.mem_of_find?_eq_some hfound, rfl, hown, hon.1⟩
      · exact ⟨rfl, rfl, fun c hc => Or.inl hc⟩

/-- **Cancelling releases one's own hold only.**  In every run, whatever happens between the
    lookup of a `release` request and its transaction: the lookup writes and emits nothing,
    and the transaction changes no hold but one of the request's user, frees the seat only
    if no HELD hold is left on it, and reports a release only if it moved a hold of that
    user from HELD to RELEASED. -/
theorem cancel_releases_own {db : SeatDb} (h : db.WellFormed) (env : SeatEnv)
    (as : List RuntimeAction) :
    let s := exec (runtimeStep env) (SeatRuntime.start db) as
    (∀ seatId userId traceId,
      let s' := runtimeStep env s (.lookup seatId userId traceId)
      s'.db = s.db ∧ s'.answers = s.answers ∧ ∀ c ∈ s'.cancels, c ∈ s.cancels ∨
        (c.userId = userId ∧ Uuid.ofText seatId = some c.seatId ∧ c.OwnsHold s.db)) ∧
    ∀ (i : Nat) (d : Draw) (faults : Nat → Option SqlError) (c : Cancellation),
      s.cancels[i]? = some c →
      c.ReleasesOwn d.now s (runtimeStep env s (.cancel i d faults)) := by
  intro s
  have hinv : CancelsOwnHolds env s :=
    exec_invariant' (CancelsOwnHolds env) (fun _ a hs => hs.step a)
      ⟨SeatRuntime.consistent_start h, by simp [SeatRuntime.start]⟩ as
  refine ⟨lookup_writes_nothing env s, ?_⟩
  intro i d faults c hc
  dsimp only [runtimeStep]
  rw [hc]
  dsimp only
  split
  · exact .nothing c d.now s s.cancels
  · have hown := hinv.cancels c (List.mem_of_getElem? hc)
    unfold SeatRuntime.answer
    rcases (releaseHold_does c.hold.id "user_cancelled" c.traceId d s.db).run faults with
      ⟨result, hok, hdone⟩ | ⟨e, herror, hsame⟩
    · rw [hok]
      exact c.releases_own hinv.consistent.wellFormed hown hdone _
    · rw [herror, hsame]
      simpa using Cancellation.ReleasesOwn.nothing c d.now s (s.cancels.eraseIdx i)

/-- User 101 asks to cancel A1; the hold expires and is swept, and user 102 takes the seat. -/
def seatChangesHands : SeatRuntime :=
  exec (runtimeStep defaultSeatEnv) (SeatRuntime.start seedDb)
    [.hold "00000000-0000-0000-0000-000000000001" 101 "t1" ⟨501, 901, 0, 0, 0⟩ fun _ => none,
      .lookup "00000000-0000-0000-0000-000000000001" 101 "t2",
      .tick 801 200000 fun id => (id, 200000),
      .sweep 0 ⟨[501], by decide⟩, .sweep 0 ⟨[501], by decide⟩, .sweep 0 ⟨[501], by decide⟩,
      .sweep 0 ⟨[501], by decide⟩, .sweep 0 ⟨[501], by decide⟩,
      .hold "00000000-0000-0000-0000-000000000001" 102 "t3" ⟨502, 902, 200001, 200001, 200001⟩
        fun _ => none]

def staleCancellation : Cancellation := ⟨101, 1, "t2", 501, 1, 101, .held, 120000, none, none⟩

theorem staleCancellation_releases_own :
    seatChangesHands.cancels[0]? = some staleCancellation ∧
    staleCancellation.ReleasesOwn 200002 seatChangesHands (runtimeStep defaultSeatEnv
      seatChangesHands (.cancel 0 ⟨903, 200002, 200002⟩ fun _ => none)) :=
  ⟨by decide +kernel, (cancel_releases_own seedDb_seeded.wellFormed defaultSeatEnv _).2 0
    ⟨903, 200002, 200002⟩ (fun _ => none) staleCancellation (by decide +kernel)⟩

end SeatReservation
