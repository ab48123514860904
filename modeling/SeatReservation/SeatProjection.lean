import SeatReservation.SeatInvariants

/-!
# The status of a seat and the list of seats

The column `seats.status` repeats what the table `holds` says: a seat is HELD
exactly when it has an active hold.  Four statements write the column, under
four different guards, and `Projected` is what they keep between them.  The
query behind the list of seats joins each seat with its active holds, so it
relies on there being one at most, and one exactly for the seats shown as HELD.
-/

namespace SeatReservation

open Relational TransitionSystem

/-! ### SeatsRepository -/

structure ListedSeat extends SeatRow where
  heldByUserId : Option Uuid
  heldUntil : Option Nat
deriving DecidableEq, Repr

/-- `h.seat_id = s.id AND h.status = 'HELD'`. -/
def activeHolds (holds : List HoldRow) (seatId : Uuid) : List HoldRow :=
  holds.filter fun h => h.seatId == seatId && h.status == .held

/-- The rows a seat has in the LEFT JOIN. -/
def joinHolds (holds : List HoldRow) (s : SeatRow) : List ListedSeat :=
  match activeHolds holds s.id with
  | [] => [⟨s, none, none⟩]
  | matching => matching.map fun h => ⟨s, some h.userId, some h.heldUntil⟩

/-- `collation` is the order of the database's collation. -/
def listAll (collation : String → String → Bool) (db : SeatDb) : List ListedSeat :=
  (db.seats.flatMap (joinHolds db.holds)).mergeSort fun s s' => collation s.label s'.label

/-! ### The invariant -/

theorem hasActiveHold_iff {holds : List HoldRow} {seatId : Uuid} :
    hasActiveHold holds seatId = true ↔ ∃ h ∈ holds, h.seatId = seatId ∧ h.status = .held := by
  simp [hasActiveHold]

/-- A seat is HELD iff it has an active hold. -/
def Projected (db : SeatDb) : Prop :=
  ∀ s ∈ db.seats, s.status = .held ↔ hasActiveHold db.holds s.id = true

theorem SeatDb.Seeded.projected {db : SeatDb} (h : db.Seeded) : Projected db := by
  intro s hs
  simp [h.available s hs, hasActiveHold, h.holds]

/-- Two tables of holds with the same active holds on a seat. -/
theorem hasActiveHold_congr {holds holds' : List HoldRow} {seatId : Uuid}
    (h : ∀ r : HoldRow, r.seatId = seatId → r.status = .held → (r ∈ holds ↔ r ∈ holds')) :
    hasActiveHold holds seatId = hasActiveHold holds' seatId := by
  apply Bool.eq_iff_iff.mpr
  rw [hasActiveHold_iff, hasActiveHold_iff]
  constructor
  · rintro ⟨r, hr, hseat, hheld⟩
    exact ⟨r, (h r hseat hheld).mp hr, hseat, hheld⟩
  · rintro ⟨r, hr, hseat, hheld⟩
    exact ⟨r, (h r hseat hheld).mpr hr, hseat, hheld⟩

/-- The cleanup and the new hold of an insert do not concern other seats. -/
theorem hasActiveHold_insert {holds : List HoldRow} {seat seatId : Uuid} {now : Nat}
    {hold : HoldRow} (hhold : hold.seatId = seat) (hne : seatId ≠ seat) :
    hasActiveHold (lazyCleanup seat now holds ++ [hold]) seatId = hasActiveHold holds seatId := by
  apply hasActiveHold_congr
  intro r hseat hheld
  constructor
  · intro hr
    rcases List.mem_append.mp hr with hr | hr
    · rcases mem_lazyCleanup.mp hr with ⟨r₀, -, -, rfl⟩ | ⟨hr, -⟩
      · simp at hheld
      · exact hr
    · rw [List.mem_singleton.mp hr, hhold] at hseat
      exact absurd hseat.symm hne
  · intro hr
    refine List.mem_append_left _ (mem_lazyCleanup.mpr (Or.inr ⟨hr, ?_⟩))
    simp [isExpiredOn, hseat, hne]

/-- An update that ends active holds leaves the seats it does not select alone. -/
theorem hasActiveHold_update {holds : List HoldRow} {p : HoldRow → Bool} {f : HoldRow → HoldRow}
    {seatId : Uuid} (hout : ∀ r, (f r).status ≠ .held)
    (hother : ∀ r ∈ holds, p r = true → r.seatId ≠ seatId) :
    hasActiveHold (update p f holds) seatId = hasActiveHold holds seatId := by
  apply hasActiveHold_congr
  intro r hseat hheld
  constructor
  · intro hr
    rcases mem_update.mp hr with ⟨r₀, -, -, rfl⟩ | ⟨hr, -⟩
    · exact absurd hheld (hout r₀)
    · exact hr
  · intro hr
    refine mem_update.mpr (Or.inr ⟨hr, ?_⟩)
    rw [Bool.eq_false_iff]
    intro hp
    exact hother r hr hp hseat

theorem Projected.held {db : SeatDb} (h : Projected db) {seat : Uuid} {now : Nat} {hold : HoldRow}
    (hseat : hold.seatId = seat) (hheld : hold.status = .held) :
    ∀ s ∈ markSeat seat .held db.seats,
      s.status = .held ↔ hasActiveHold (lazyCleanup seat now db.holds ++ [hold]) s.id = true := by
  intro s hs
  rcases mem_markSeat.mp hs with ⟨s₀, -, hid, rfl⟩ | ⟨hs, hne⟩
  · refine iff_of_true rfl (hasActiveHold_iff.mpr ⟨hold, ?_, hseat.trans hid.symm, hheld⟩)
    exact List.mem_append_right _ List.mem_cons_self
  · rw [hasActiveHold_insert hseat hne]
    exact h s hs

theorem Projected.released {db : SeatDb} (h : Projected db) {p : HoldRow → Bool} {now : Nat}
    (hactive : ∀ r ∈ db.holds, p r = true → r.status = .held) :
    ∀ s ∈ freeSeats ((returning p (HoldRow.release now) db.holds).map (·.seatId))
        (update p (HoldRow.release now) db.holds) db.seats,
      s.status = .held ↔
        hasActiveHold (update p (HoldRow.release now) db.holds) s.id = true := by
  intro s hs
  rcases mem_update.mp hs with ⟨s₀, -, hsel, rfl⟩ | ⟨hs, hkept⟩
  · simp only [Bool.and_eq_true, Bool.not_eq_true'] at hsel
    simp [hsel.2]
  · -- The seat keeps its status: no hold on it was released, or one is still active.
    by_cases hreleased : ∃ r ∈ db.holds, p r = true ∧ r.seatId = s.id
    · obtain ⟨r, hr, hp, hseat⟩ := hreleased
      have hin : s.id ∈ (returning p (HoldRow.release now) db.holds).map (·.seatId) :=
        List.mem_map.mpr ⟨r.release now, mem_returning.mpr ⟨r, hr, hp, rfl⟩, hseat⟩
      have hstill : hasActiveHold (update p (HoldRow.release now) db.holds) s.id = true := by
        rw [List.contains_iff_mem.mpr hin, Bool.true_and] at hkept
        simpa only [Bool.not_eq_false'] using hkept
      refine iff_of_true ?_ hstill
      exact (h s hs).mpr (hasActiveHold_iff.mpr ⟨r, hr, hseat, hactive r hr hp⟩)
    · rw [hasActiveHold_update (by simp)]
      · exact h s hs
      · intro r hr hp hseat
        exact hreleased ⟨r, hr, hp, hseat⟩

theorem Projected.reserved {db : SeatDb} (h : Projected db) (hwf : db.WellFormed) {hold : HoldRow}
    (hmem : hold ∈ db.holds) (hactive : hold.status = .held) (now : Nat) :
    ∀ s ∈ markSeat hold.seatId .reserved db.seats, s.status = .held ↔
      hasActiveHold (update (isActiveHold hold.id) (HoldRow.reserve now) db.holds) s.id = true := by
  intro s hs
  rcases mem_markSeat.mp hs with ⟨s₀, -, hid, rfl⟩ | ⟨hs, hne⟩
  · simp only [reduceCtorEq, false_iff]
    intro hact
    obtain ⟨r, hr, hseat, hheld⟩ := hasActiveHold_iff.mp hact
    rcases mem_update.mp hr with ⟨r₀, -, -, rfl⟩ | ⟨hr, hnot⟩
    · simp at hheld
    · -- The only active hold on the seat is the one that was reserved.
      have heq : r = hold := hwf.activePerSeat r hr hold hmem (by simp [hheld])
        (by simp [hactive]) (hseat.trans hid)
      rw [heq, isActiveHold_iff.mpr ⟨rfl, hactive⟩] at hnot
      simp at hnot
  · rw [hasActiveHold_update (by simp)]
    · exact h s hs
    · intro r hr hsel hseat
      rw [hwf.holdKeys.eq_of_mem hr hmem (isActiveHold_iff.mp hsel).1] at hseat
      exact hne hseat.symm

theorem Projected.effect {env : SeatEnv} {db db' : SeatDb} {a : SeatAction} (h : Projected db)
    (hwf : db.WellFormed) (heffect : SeatEffect env db a db') : Projected db' := by
  cases heffect with
  | nothing => exact h
  | held seatId userId traceId d seat outbox row hseat hfree happ hkind => exact h.held rfl rfl
  | released a now p outbox rows hactive happ hrows => exact h.released hactive
  | reserved eventId group traceId d hold outbox row hmem hactive hnew happ hkind =>
    exact h.reserved hwf hmem hactive d.now

theorem SeatDb.Seeded.projected_exec {db : SeatDb} (h : db.Seeded) (env : SeatEnv)
    (as : List SeatAction) : Projected (exec (seatStep env) db as) := by
  have hinv : (exec (seatStep env) db as).WellFormed ∧ Projected (exec (seatStep env) db as) := by
    apply exec_invariant' fun db : SeatDb => db.WellFormed ∧ Projected db
    · rintro db a ⟨hwf, hproj⟩
      exact ⟨hwf.step env a, hproj.effect hwf (seatStep_effect hwf.holdKeys env a)⟩
    · exact ⟨h.wellFormed, h.projected⟩
  exact hinv.2

/-! ### The list of seats -/

/-- A seat has one active hold or none. -/
theorem SeatDb.WellFormed.activeHolds_cases {db : SeatDb} (h : db.WellFormed) (seatId : Uuid) :
    activeHolds db.holds seatId = [] ∨
      ∃ r ∈ db.holds, r.status = .held ∧ r.seatId = seatId ∧ activeHolds db.holds seatId = [r] := by
  rcases h.activePerSeat.filter_cases h.holdKeys.of_map seatId with hnone | ⟨r, hr, hheld, hone⟩
  · exact Or.inl hnone
  · exact Or.inr ⟨r, hr, by simpa using hheld, hone⟩

theorem Projected.held_iff {db : SeatDb} (h : Projected db) (hwf : db.WellFormed) {s : SeatRow}
    (hs : s ∈ db.seats) : s.status = .held ↔ (activeHolds db.holds s.id).length = 1 := by
  rw [h s hs, hasActiveHold_iff]
  rcases hwf.activeHolds_cases s.id with hnone | ⟨r, hr, hheld, hseat, hone⟩
  · rw [hnone]
    simp only [List.length_nil, zero_ne_one, iff_false, not_exists, not_and]
    intro r hr hseat hheld
    have hmem : r ∈ activeHolds db.holds s.id :=
      List.mem_filter.mpr ⟨hr, by simp [hseat, hheld]⟩
    rw [hnone] at hmem
    simp at hmem
  · rw [hone]
    exact iff_of_true ⟨r, hr, hseat, hheld⟩ rfl

/-- A seat is listed once, with the user and the expiry of its active hold. -/
theorem Projected.joinHolds_cases {db : SeatDb} (h : Projected db) (hwf : db.WellFormed)
    {s : SeatRow} (hs : s ∈ db.seats) :
    ∃ row, joinHolds db.holds s = [row] ∧ row.toSeatRow = s ∧
      (row.heldByUserId.isSome = true ↔ s.status = .held) ∧
      (row.heldUntil.isSome = true ↔ s.status = .held) := by
  have hiff := h.held_iff hwf hs
  unfold joinHolds
  rcases hwf.activeHolds_cases s.id with hnone | ⟨r, -, -, -, hone⟩
  · rw [hnone] at hiff ⊢
    exact ⟨⟨s, none, none⟩, rfl, rfl, by simp [hiff], by simp [hiff]⟩
  · rw [hone] at hiff ⊢
    exact ⟨⟨s, some r.userId, some r.heldUntil⟩, rfl, rfl, by simp [hiff], by simp [hiff]⟩

theorem flatMap_joinHolds {holds : List HoldRow} {seats : List SeatRow}
    (h : ∀ s ∈ seats, ∃ row, joinHolds holds s = [row] ∧ row.toSeatRow = s) :
    (seats.flatMap (joinHolds holds)).map ListedSeat.toSeatRow = seats := by
  induction seats with
  | nil => rfl
  | cons s seats ih =>
    obtain ⟨row, hrow, hseat⟩ := h s List.mem_cons_self
    rw [List.flatMap_cons, hrow, List.map_append,
      ih fun s' hs' => h s' (List.mem_cons_of_mem _ hs'), List.map_singleton, hseat]
    rfl

/-- **Seat status is the projection of the holds.**  In every reachable state a seat is
    HELD iff exactly one of its holds is, the list shows each seat once, and it names a
    user and an expiry exactly for the seats that are HELD. -/
theorem seat_projection {db : SeatDb} (hseed : db.Seeded) (env : SeatEnv) (as : List SeatAction)
    (collation : String → String → Bool) :
    (∀ s ∈ (exec (seatStep env) db as).seats, s.status = .held ↔
      (activeHolds (exec (seatStep env) db as).holds s.id).length = 1) ∧
    ((listAll collation (exec (seatStep env) db as)).map ListedSeat.toSeatRow).Perm
      (exec (seatStep env) db as).seats ∧
    ((listAll collation (exec (seatStep env) db as)).map (·.id)).Nodup ∧
    ∀ row ∈ listAll collation (exec (seatStep env) db as),
      (row.heldByUserId.isSome = true ↔ row.status = .held) ∧
      (row.heldUntil.isSome = true ↔ row.status = .held) := by
  have hwf := hseed.wellFormed_exec env as
  have hproj := hseed.projected_exec env as
  generalize exec (seatStep env) db as = t at hwf hproj ⊢
  have hperm : ((listAll collation t).map ListedSeat.toSeatRow).Perm t.seats := by
    have hjoin := flatMap_joinHolds fun s hs => by
      obtain ⟨row, hrow, hseat, -⟩ := hproj.joinHolds_cases hwf hs
      exact ⟨row, hrow, hseat⟩
    refine ((List.mergeSort_perm _ _).map _).trans ?_
    rw [hjoin]
  refine ⟨fun s hs => hproj.held_iff hwf hs, hperm, ?_, ?_⟩
  · have hids : ((listAll collation t).map (·.id)).Perm (t.seats.map (·.id)) := by
      have h := hperm.map SeatRow.id
      rwa [List.map_map] at h
    exact hids.nodup_iff.mpr hwf.seatKeys
  · intro row hrow
    obtain ⟨s, hs, hin⟩ := List.mem_flatMap.mp (List.mem_mergeSort.mp hrow)
    obtain ⟨row', hone, rfl, huser, huntil⟩ := hproj.joinHolds_cases hwf hs
    rw [hone] at hin
    rw [List.mem_singleton.mp hin]
    exact ⟨huser, huntil⟩

/-- Seat A1 held, seat A2 sold, seat A3 free. -/
theorem seat_projection_mixed :
    ((listAll (fun s s' => decide (s ≤ s')) (exec (seatStep defaultSeatEnv) seedDb
      [.insertHoldTx "00000000-0000-0000-0000-000000000001" 101
        "00000000-0000-0000-0000-0000000000aa" ⟨201, 301, 1000, 1000, 1000⟩,
       .insertHoldTx "00000000-0000-0000-0000-000000000002" 102
        "00000000-0000-0000-0000-0000000000aa" ⟨202, 302, 1000, 1000, 1000⟩,
       .reserveHold 202 401 "seat-service" "00000000-0000-0000-0000-0000000000aa"
        ⟨501, 2000, 2000⟩])).map (·.id)).Nodup :=
  (seat_projection seedDb_seeded defaultSeatEnv _ _).2.2.1

end SeatReservation
