import SeatReservation.Holds
import SeatReservation.TransitionSystem

/-!
# The seat service as a state machine

A step is one call of a transaction of the seat service.  `SeatEffect` says once
and for all what a step can do to the database: nothing, a new hold, the release
of some holds, or the reservation of one.  Every invariant of the service is
derived from these four cases and none of them looks at the transactions again.
-/

namespace SeatReservation

open Relational TransitionSystem

inductive SeatAction where
  | insertHoldTx (seatId : String) (userId : Uuid) (traceId : String) (d : HoldDraw)
  | releaseHold (holdId : Uuid) (reason traceId : String) (d : Draw)
  | reserveHold (holdId eventId : Uuid) (consumerGroup traceId : String) (d : Draw)
  | tick (scan : Scan) (traceId : Uuid) (now : Nat) (draw : Uuid → Uuid × Nat)

def seatStep (env : SeatEnv) (db : SeatDb) : SeatAction → SeatDb
  | .insertHoldTx seatId userId traceId d => (insertHoldTx env seatId userId traceId d db).2
  | .releaseHold holdId reason traceId d => (releaseHold holdId reason traceId d db).2
  | .reserveHold holdId eventId consumerGroup traceId d =>
      (reserveHold holdId eventId consumerGroup traceId d db).2
  | .tick scan traceId now draw => tick env scan traceId now draw db

/-! ### Constraints and statements -/

/-- The constraints in the order they are checked. -/
theorem holdViolation_cases (seats : List SeatRow) (holds : List HoldRow) (row : HoldRow) :
    ((∃ h ∈ holds, h.id = row.id) ∧
      holdViolation seats holds row = some (uniqueViolation "holds_pkey")) ∨
    ((¬ ∃ h ∈ holds, h.id = row.id) ∧ (∃ h ∈ holds, h.status = .held ∧ h.seatId = row.seatId) ∧
      holdViolation seats holds row = some (uniqueViolation "uniq_active_hold_per_seat")) ∨
    ((¬ ∃ h ∈ holds, h.id = row.id) ∧ (¬ ∃ h ∈ holds, h.status = .held ∧ h.seatId = row.seatId) ∧
      (∃ h ∈ holds, h.status = .held ∧ h.userId = row.userId) ∧
      holdViolation seats holds row = some (uniqueViolation "uniq_active_hold_per_user")) ∨
    ((¬ ∃ h ∈ holds, h.id = row.id) ∧ (¬ ∃ h ∈ holds, h.status = .held ∧ h.seatId = row.seatId) ∧
      (¬ ∃ h ∈ holds, h.status = .held ∧ h.userId = row.userId) ∧
      ((∃ s ∈ seats, s.id = row.seatId) ∧ holdViolation seats holds row = none ∨
        (¬ ∃ s ∈ seats, s.id = row.seatId) ∧
          holdViolation seats holds row = some (foreignKeyViolation "holds_seat_id_fkey"))) := by
  have hid : (holds.any fun h => h.id == row.id) = true ↔ ∃ h ∈ holds, h.id = row.id := by simp
  have hseat : (holds.any fun h => h.status == .held && h.seatId == row.seatId) = true ↔
      ∃ h ∈ holds, h.status = .held ∧ h.seatId = row.seatId := by simp
  have huser : (holds.any fun h => h.status == .held && h.userId == row.userId) = true ↔
      ∃ h ∈ holds, h.status = .held ∧ h.userId = row.userId := by simp
  have href : (seats.any fun s => s.id == row.seatId) = true ↔
      ∃ s ∈ seats, s.id = row.seatId := by simp
  rw [← hid, ← hseat, ← huser, ← href]
  unfold holdViolation
  split
  · rename_i h
    exact Or.inl ⟨h, rfl⟩
  · rename_i h
    split
    · rename_i h'
      exact Or.inr (Or.inl ⟨h, h', rfl⟩)
    · rename_i h'
      split
      · rename_i h''
        exact Or.inr (Or.inr (Or.inl ⟨h, h', h'', rfl⟩))
      · rename_i h''
        refine Or.inr (Or.inr (Or.inr ⟨h, h', h'', ?_⟩))
        split
        · rename_i hexists
          exact Or.inl ⟨hexists, rfl⟩
        · rename_i hmissing
          exact Or.inr ⟨hmissing, rfl⟩

theorem holdViolation_eq_none_iff {seats : List SeatRow} {holds : List HoldRow} {row : HoldRow} :
    holdViolation seats holds row = none ↔
      (∀ h ∈ holds, h.id ≠ row.id) ∧
      (∀ h ∈ holds, h.status = .held → h.seatId ≠ row.seatId) ∧
      (∀ h ∈ holds, h.status = .held → h.userId ≠ row.userId) ∧
      ∃ s ∈ seats, s.id = row.seatId := by
  rcases holdViolation_cases seats holds row with ⟨⟨h, hmem, heq⟩, hviol⟩ |
    ⟨-, ⟨h, hmem, hheld, heq⟩, hviol⟩ | ⟨-, -, ⟨h, hmem, hheld, heq⟩, hviol⟩ |
    ⟨hid, hseat, huser, ⟨href, hviol⟩ | ⟨href, hviol⟩⟩ <;> rw [hviol]
  · exact iff_of_false nofun fun hfree => hfree.1 h hmem heq
  · exact iff_of_false nofun fun hfree => hfree.2.1 h hmem hheld heq
  · exact iff_of_false nofun fun hfree => hfree.2.2.1 h hmem hheld heq
  · refine iff_of_true rfl ⟨?_, ?_, ?_, href⟩
    · exact fun h hmem heq => hid ⟨h, hmem, heq⟩
    · exact fun h hmem hheld heq => hseat ⟨h, hmem, hheld, heq⟩
    · exact fun h hmem hheld heq => huser ⟨h, hmem, hheld, heq⟩
  · exact iff_of_false nofun fun hfree => href hfree.2.2.2

@[simp] theorem HoldRow.release_id (now : Nat) (h : HoldRow) : (h.release now).id = h.id := rfl
@[simp] theorem HoldRow.release_seatId (now : Nat) (h : HoldRow) :
    (h.release now).seatId = h.seatId := rfl
@[simp] theorem HoldRow.release_userId (now : Nat) (h : HoldRow) :
    (h.release now).userId = h.userId := rfl
@[simp] theorem HoldRow.release_status (now : Nat) (h : HoldRow) :
    (h.release now).status = .released := rfl
@[simp] theorem HoldRow.reserve_id (now : Nat) (h : HoldRow) : (h.reserve now).id = h.id := rfl
@[simp] theorem HoldRow.reserve_seatId (now : Nat) (h : HoldRow) :
    (h.reserve now).seatId = h.seatId := rfl
@[simp] theorem HoldRow.reserve_userId (now : Nat) (h : HoldRow) :
    (h.reserve now).userId = h.userId := rfl
@[simp] theorem HoldRow.reserve_status (now : Nat) (h : HoldRow) :
    (h.reserve now).status = .reserved := rfl

theorem isActiveHold_iff {holdId : Uuid} {h : HoldRow} :
    isActiveHold holdId h = true ↔ h.id = holdId ∧ h.status = .held := by
  simp [isActiveHold]

theorem mem_markSeat {id : Uuid} {status : SeatStatus} {seats : List SeatRow} {s : SeatRow} :
    s ∈ markSeat id status seats ↔
      (∃ s₀ ∈ seats, s₀.id = id ∧ { s₀ with status := status } = s) ∨ (s ∈ seats ∧ s.id ≠ id) := by
  simp [markSeat, mem_update]

/-- `freeSeat` for each of a list of seats. -/
def freeSeats (ids : List Uuid) (holds : List HoldRow) (seats : List SeatRow) : List SeatRow :=
  update (fun s => ids.contains s.id && !hasActiveHold holds s.id)
    (fun s => { s with status := .available }) seats

@[simp] theorem freeSeats_nil (holds : List HoldRow) (seats : List SeatRow) :
    freeSeats [] holds seats = seats :=
  update_eq_self fun s _ => by simp

theorem freeSeats_cons (id : Uuid) (ids : List Uuid) (holds : List HoldRow)
    (seats : List SeatRow) :
    freeSeats (id :: ids) holds seats = freeSeats ids holds (freeSeat id holds seats) := by
  simp only [freeSeats, freeSeat, update, List.map_map]
  apply List.map_congr_left
  intro s _
  by_cases hid : s.id = id
  · subst hid
    by_cases hact : hasActiveHold holds s.id = true
    · simp [hact]
    · simp [hact]
  · simp [hid]

theorem freeSeats_singleton (id : Uuid) (holds : List HoldRow) (seats : List SeatRow) :
    freeSeats [id] holds seats = freeSeat id holds seats := by
  rw [freeSeats_cons, freeSeats_nil]

theorem mem_freeSeats {ids : List Uuid} {holds : List HoldRow} {seats : List SeatRow}
    {s : SeatRow} (h : s ∈ freeSeats ids holds seats) :
    s ∈ seats ∨ (∃ s₀ ∈ seats, s₀.id ∈ ids ∧ hasActiveHold holds s₀.id = false ∧
      { s₀ with status := .available } = s) := by
  rcases mem_update.mp h with ⟨s₀, hs₀, hp, rfl⟩ | ⟨hs, -⟩
  · right
    simp only [Bool.and_eq_true, List.contains_iff_mem, Bool.not_eq_true'] at hp
    exact ⟨s₀, hs₀, hp.1, hp.2, rfl⟩
  · exact Or.inl hs

/-! ### What a step can do -/

/-- The outbox row is the release event of the hold. -/
def OutboxRow.announcesRelease (row : OutboxRow) (h : HoldRow) : Bool :=
  row.aggregateId == h.id && row.eventType == "seat.released.v1" &&
    match row.payload with
    | .seatReleased e => e.seatId == h.seatId
    | _ => false

inductive SeatEffect (env : SeatEnv) (db : SeatDb) : SeatAction → SeatDb → Prop where
  | nothing (a : SeatAction) : SeatEffect env db a db
  /-- A new hold, after the cleanup of expired ones on its seat. -/
  | held (seatId : String) (userId : Uuid) (traceId : String) (d : HoldDraw) (seat : Uuid)
      (outbox : Outbox) (row : OutboxRow) (hseat : Uuid.ofText seatId = some seat)
      (hfree : holdViolation db.seats (lazyCleanup seat d.now db.holds)
        (newHold env seat userId d) = none)
      (happ : db.outbox.Appends outbox [row]) (hkind : row.Says d.holdId "seat.held.v1") :
      SeatEffect env db (.insertHoldTx seatId userId traceId d)
        { db with
          seats := markSeat seat .held db.seats
          holds := lazyCleanup seat d.now db.holds ++ [newHold env seat userId d]
          outbox := outbox }
  /-- The release of the active holds `p` selects, each one announced. -/
  | released (a : SeatAction) (now : Nat) (p : HoldRow → Bool) (outbox : Outbox)
      (rows : List OutboxRow)
      (hactive : ∀ h ∈ db.holds, p h = true → h.status = .held)
      (happ : db.outbox.Appends outbox rows)
      (hrows : List.Forall₂ (fun h row => row.announcesRelease h = true)
        (returning p (HoldRow.release now) db.holds) rows) :
      SeatEffect env db a
        { db with
          seats := freeSeats ((returning p (HoldRow.release now) db.holds).map (·.seatId))
            (update p (HoldRow.release now) db.holds) db.seats
          holds := update p (HoldRow.release now) db.holds
          outbox := outbox }
  /-- The reservation of an active hold by an event not consumed before. -/
  | reserved (eventId : Uuid) (consumerGroup traceId : String) (d : Draw) (hold : HoldRow)
      (outbox : Outbox) (row : OutboxRow) (hmem : hold ∈ db.holds) (hactive : hold.status = .held)
      (hnew : (eventId, consumerGroup) ∉ db.consumedEvents)
      (happ : db.outbox.Appends outbox [row]) (hkind : row.Says hold.id "seat.reserved.v1") :
      SeatEffect env db (.reserveHold hold.id eventId consumerGroup traceId d)
        { seats := markSeat hold.seatId .reserved db.seats
          holds := update (isActiveHold hold.id) (HoldRow.reserve d.now) db.holds
          outbox := outbox
          consumedEvents := db.consumedEvents ++ [(eventId, consumerGroup)] }

/-! ### The transactions, one by one -/

/-- A call that names no seat, or whose row fails a constraint, writes nothing. -/
theorem insertHoldTx_eq_self {env : SeatEnv} {seatId : String} {userId : Uuid} {traceId : String}
    {d : HoldDraw} {db : SeatDb}
    (h : ∀ seat, Uuid.ofText seatId = some seat →
      holdViolation db.seats (lazyCleanup seat d.now db.holds) (newHold env seat userId d) ≠ none) :
    (insertHoldTx env seatId userId traceId d db).2 = db := by
  unfold insertHoldTx
  cases hseat : Uuid.ofText seatId with
  | none => rfl
  | some seat =>
    dsimp only
    cases hviol : holdViolation db.seats (lazyCleanup seat d.now db.holds)
        (newHold env seat userId d) with
    | none => exact absurd hviol (h seat hseat)
    | some err =>
      dsimp only
      split
      · rfl
      · rfl

theorem insertHoldTx_eq_commit {env : SeatEnv} {seatId : String} {userId : Uuid} (traceId : String)
    {d : HoldDraw} {db : SeatDb} {seat : Uuid} (hseat : Uuid.ofText seatId = some seat)
    (hfree : holdViolation db.seats (lazyCleanup seat d.now db.holds)
      (newHold env seat userId d) = none) :
    (insertHoldTx env seatId userId traceId d db).2 =
      { db with
        seats := markSeat seat .held db.seats
        holds := lazyCleanup seat d.now db.holds ++ [newHold env seat userId d]
        outbox := db.outbox.insert d.holdId "seat.held.v1"
          (seatHeldEvent db.seats seatId traceId (newHold env seat userId d) d)
          [("traceId", traceId), ("userId", userId.toString)] d.now } := by
  unfold insertHoldTx
  rw [hseat]
  dsimp only
  rw [hfree]
  rfl

theorem insertHoldTx_effect (env : SeatEnv) (seatId : String) (userId : Uuid) (traceId : String)
    (d : HoldDraw) (db : SeatDb) :
    SeatEffect env db (.insertHoldTx seatId userId traceId d)
      (insertHoldTx env seatId userId traceId d db).2 := by
  by_cases h : ∃ seat, Uuid.ofText seatId = some seat ∧
      holdViolation db.seats (lazyCleanup seat d.now db.holds) (newHold env seat userId d) = none
  · obtain ⟨seat, hseat, hfree⟩ := h
    rw [insertHoldTx_eq_commit traceId hseat hfree]
    exact .held seatId userId traceId d seat _ _ hseat hfree (Outbox.Appends.insert ..)
      ⟨rfl, rfl, rfl⟩
  · rw [insertHoldTx_eq_self fun seat hseat hfree => h ⟨seat, hseat, hfree⟩]
    exact .nothing _

/-- At most one row has a given id, so an update by id returns at most one row. -/
theorem returning_isActiveHold {holds : List HoldRow} (hkeys : KeyedBy HoldRow.id holds)
    {f : HoldRow → HoldRow} {holdId : Uuid} {row : HoldRow} {rest : List HoldRow}
    (h : returning (isActiveHold holdId) f holds = row :: rest) :
    ∃ hold ∈ holds, hold.id = holdId ∧ hold.status = .held ∧ row = f hold ∧ rest = [] := by
  unfold returning at h
  have hnodup : ((holds.filter (isActiveHold holdId)).map HoldRow.id).Nodup :=
    hkeys.sublist List.filter_sublist
  cases hsel : holds.filter (isActiveHold holdId) with
  | nil => rw [hsel] at h; cases h
  | cons hold others =>
    have hin : ∀ x ∈ hold :: others, x ∈ holds ∧ x.id = holdId ∧ x.status = .held := by
      intro x hx
      rw [← hsel] at hx
      obtain ⟨hx, hact⟩ := List.mem_filter.mp hx
      exact ⟨hx, isActiveHold_iff.mp hact⟩
    rw [hsel, List.map_cons] at h
    obtain ⟨rfl, rfl⟩ := List.cons_eq_cons.mp h
    obtain ⟨hmem, hid, hheld⟩ := hin hold List.mem_cons_self
    refine ⟨hold, hmem, hid, hheld, rfl, ?_⟩
    cases others with
    | nil => rfl
    | cons other others =>
      have hother := (hin other (by simp)).2.1
      rw [hsel] at hnodup
      simp [hid, hother] at hnodup

theorem releaseHold_effect {db : SeatDb} (hkeys : KeyedBy HoldRow.id db.holds) (env : SeatEnv)
    (holdId : Uuid) (reason traceId : String) (d : Draw) :
    SeatEffect env db (.releaseHold holdId reason traceId d)
      (releaseHold holdId reason traceId d db).2 := by
  unfold releaseHold
  cases hrows : returning (isActiveHold holdId) (HoldRow.release d.now) db.holds with
  | nil => exact .nothing _
  | cons row rest =>
    obtain ⟨hold, hmem, hid, hheld, rfl, rfl⟩ := returning_isActiveHold hkeys hrows
    dsimp only
    have heffect := @SeatEffect.released env db (.releaseHold holdId reason traceId d) d.now
      (isActiveHold holdId) (db.outbox.insert holdId "seat.released.v1"
        (.seatReleased ⟨d.eventId, hold.seatId, reason, traceId, d.occurredAt⟩)
        [("traceId", traceId)] d.now) _
      (fun h _ hact => (isActiveHold_iff.mp hact).2) (Outbox.Appends.insert ..)
      (by rw [hrows]; simp [OutboxRow.announcesRelease, hid])
    rw [hrows, List.map_singleton, freeSeats_singleton] at heffect
    exact heffect

theorem reserveHold_effect {db : SeatDb} (hkeys : KeyedBy HoldRow.id db.holds) (env : SeatEnv)
    (holdId eventId : Uuid) (consumerGroup traceId : String) (d : Draw) :
    SeatEffect env db (.reserveHold holdId eventId consumerGroup traceId d)
      (reserveHold holdId eventId consumerGroup traceId d db).2 := by
  unfold reserveHold
  split
  · exact .nothing _
  · rename_i hnew
    cases hrows : returning (isActiveHold holdId) (HoldRow.reserve d.now) db.holds with
    | nil => exact .nothing _
    | cons row rest =>
      obtain ⟨hold, hmem, rfl, hheld, rfl, rfl⟩ := returning_isActiveHold hkeys hrows
      exact .reserved eventId consumerGroup traceId d hold _ _ hmem hheld (by simpa using hnew)
        (Outbox.Appends.insert ..) ⟨rfl, rfl, rfl⟩

theorem mem_sweepBatch {limit : Nat} {scan : Scan} {now : Nat} {holds : List HoldRow} {id : Uuid}
    (h : id ∈ sweepBatch limit scan now holds) :
    ∃ hold ∈ holds, hold.id = id ∧ hold.status = .held ∧ hold.heldUntil < now := by
  have hexp := (List.mem_filter.mp (List.mem_of_mem_take h)).2
  simp only [List.any_eq_true, Bool.and_eq_true, beq_iff_eq, decide_eq_true_eq] at hexp
  obtain ⟨hold, hmem, ⟨hid, hheld⟩, hlt⟩ := hexp
  exact ⟨hold, hmem, hid, hheld, hlt⟩

/-- The loop of a tick: the seats are freed and one release is announced for each row. -/
theorem foldl_sweepRow (traceId : String) (now : Nat) (draw : Uuid → Uuid × Nat)
    (rows : List HoldRow) (db : SeatDb) :
    ∃ outbox new, db.outbox.Appends outbox new ∧
      List.Forall₂ (fun h row => row.announcesRelease h = true) rows new ∧
      rows.foldl (sweepRow traceId now draw) db =
        { db with
          seats := freeSeats (rows.map (·.seatId)) db.holds db.seats
          outbox := outbox } := by
  induction rows generalizing db with
  | nil => exact ⟨db.outbox, [], Outbox.Appends.refl _, .nil, by simp⟩
  | cons r rows ih =>
    obtain ⟨outbox, new, happ, hnew, heq⟩ := ih (sweepRow traceId now draw db r)
    refine ⟨outbox, _ :: new, (Outbox.Appends.insert ..).trans happ, .cons ?_ hnew, ?_⟩
    · simp [OutboxRow.announcesRelease]
    · rw [List.foldl_cons, heq, List.map_cons, freeSeats_cons]
      rfl

theorem sweep_effect {db : SeatDb} (env : SeatEnv) (a : SeatAction) (traceId : String) (now : Nat)
    (draw : Uuid → Uuid × Nat) {p : HoldRow → Bool}
    (hactive : ∀ h ∈ db.holds, p h = true → h.status = .held) :
    SeatEffect env db a ((returning p (HoldRow.release now) db.holds).foldl
      (sweepRow traceId now draw)
      { db with holds := update p (HoldRow.release now) db.holds }) := by
  obtain ⟨outbox, new, happ, hnew, heq⟩ := foldl_sweepRow traceId now draw
    (returning p (HoldRow.release now) db.holds)
    { db with holds := update p (HoldRow.release now) db.holds }
  rw [heq]
  exact .released a now p outbox new hactive happ hnew

theorem tick_effect {db : SeatDb} (hkeys : KeyedBy HoldRow.id db.holds) (env : SeatEnv)
    (scan : Scan) (traceId : Uuid) (now : Nat) (draw : Uuid → Uuid × Nat) :
    SeatEffect env db (.tick scan traceId now draw) (tick env scan traceId now draw db) := by
  apply sweep_effect
  intro h hmem hp
  obtain ⟨hold, hmem', hid, hheld, -⟩ := mem_sweepBatch (List.contains_iff_mem.mp hp)
  rw [hkeys.eq_of_mem hmem hmem' hid.symm]
  exact hheld

/-- **Everything a step of the seat service can do.** -/
theorem seatStep_effect {db : SeatDb} (hkeys : KeyedBy HoldRow.id db.holds) (env : SeatEnv)
    (a : SeatAction) : SeatEffect env db a (seatStep env db a) := by
  cases a with
  | insertHoldTx seatId userId traceId d => exact insertHoldTx_effect env seatId userId traceId d db
  | releaseHold holdId reason traceId d =>
    exact releaseHold_effect hkeys env holdId reason traceId d
  | reserveHold holdId eventId consumerGroup traceId d =>
    exact reserveHold_effect hkeys env holdId eventId consumerGroup traceId d
  | tick scan traceId now draw => exact tick_effect hkeys env scan traceId now draw

end SeatReservation
