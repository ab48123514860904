import SeatReservation.Bookings
import SeatReservation.SeatProjection

/-!
# The outbox as a ledger of the seats

The seat service writes each change of a seat twice: into the tables `seats` and
`holds`, and as an event into the outbox.  Read as a log of bookings, the outbox
is complete: whoever replays it knows for each seat its status, who holds it and
until when, so the list of seats can be rebuilt from the seed and the events.
The cleanup inside `insertHoldTx` announces nothing, and need not for this: the
`seat.held` event that follows in the same transaction takes the seat over.  And
the log is legal: a seat is released and reserved only under the hold it has.
-/

namespace SeatReservation

open Relational TransitionSystem Bookings

abbrev SeatBooking := Booking Uuid Uuid Nat
abbrev SeatChange := Change Uuid Uuid Uuid Nat

/-- The change a row announces.  The event of a release does not name the hold, the row does. -/
def OutboxRow.change? (r : OutboxRow) : Option SeatChange :=
  match r.payload with
  | .seatHeld e => (Uuid.ofText e.seatId).map fun seat => .hold seat e.holdId e.userId e.heldUntil
  | .seatReleased e => some (.release e.seatId r.aggregateId)
  | .seatReserved e => some (.sell e.seatId e.holdId e.userId)
  | .paymentSucceeded _ => none
  | .paymentFailed _ => none

def Outbox.changes (o : Outbox) : List SeatChange := o.history.filterMap OutboxRow.change?

theorem Outbox.Appends.changes {o o' : Outbox} {new : List OutboxRow} (h : o.Appends o' new) :
    o'.changes = o.changes ++ new.filterMap OutboxRow.change? := by
  rw [Outbox.changes, h.2, List.filterMap_append]
  rfl

/-- What the tables say about a seat. -/
inductive SeatDb.Shows (db : SeatDb) (s : SeatRow) : SeatBooking → Prop where
  | free (hstatus : s.status = .available) : db.Shows s .free
  | held {h : HoldRow} (hmem : h ∈ db.holds) (hseat : h.seatId = s.id) (hactive : h.status = .held)
      (hstatus : s.status = .held) : db.Shows s (.held h.id h.userId h.heldUntil)
  | sold {h : HoldRow} (hmem : h ∈ db.holds) (hseat : h.seatId = s.id)
      (hreserved : h.status = .reserved) (hstatus : s.status = .reserved) :
      db.Shows s (.sold h.id h.userId)

/-- Nothing changes for a seat whose holds stay. -/
theorem SeatDb.Shows.of_holds {db db' : SeatDb} {s : SeatRow} {b : SeatBooking}
    (h : db.Shows s b) (hholds : ∀ r ∈ db.holds, r.seatId = s.id → r ∈ db'.holds) :
    db'.Shows s b := by
  cases h with
  | free hstatus => exact .free hstatus
  | held hmem hseat hactive hstatus => exact .held (hholds _ hmem hseat) hseat hactive hstatus
  | sold hmem hseat hreserved hstatus => exact .sold (hholds _ hmem hseat) hseat hreserved hstatus

/-- The outbox is a legal log that says of each seat what the tables say. -/
structure SeatDb.Entered (db : SeatDb) : Prop where
  shows : ∀ s ∈ db.seats, db.Shows s (replay db.outbox.changes s.id)
  legal : Legal db.outbox.changes

structure SeatDb.Recorded (db : SeatDb) : Prop extends db.Entered where
  wellFormed : db.WellFormed
  projected : Projected db

theorem SeatDb.Seeded.recorded {db : SeatDb} (h : db.Seeded) : db.Recorded where
  wellFormed := h.wellFormed
  projected := h.projected
  shows := by
    intro s hs
    rw [h.outbox]
    exact .free (h.available s hs)
  legal := by
    rw [h.outbox]
    exact .nil

/-- The ledger has every active hold. -/
theorem SeatDb.Recorded.booked {db : SeatDb} (h : db.Recorded) {hold : HoldRow}
    (hmem : hold ∈ db.holds) (hactive : hold.status = .held) :
    replay db.outbox.changes hold.seatId = .held hold.id hold.userId hold.heldUntil := by
  obtain ⟨s, hs, hid⟩ := List.mem_map.mp (h.wellFormed.seatRef hold hmem)
  have hheld : s.status = .held :=
    (h.projected s hs).mpr (hasActiveHold_iff.mpr ⟨hold, hmem, hid.symm, hactive⟩)
  rw [← hid]
  generalize hb : replay db.outbox.changes s.id = b
  have hshows := h.shows s hs
  rw [hb] at hshows
  cases hshows with
  | free hstatus => simp [hheld] at hstatus
  | @held r hr hseat hactive' hstatus =>
    rw [h.wellFormed.activePerSeat r hr hold hmem (by simp [hactive']) (by simp [hactive])
      (hseat.trans hid)]
  | sold hr hseat hreserved hstatus => simp [hheld] at hstatus

/-! ### The transactions -/

theorem SeatDb.Recorded.held {db : SeatDb} (h : db.Recorded) (hold : HoldRow) {now : Nat}
    (hactive : hold.status = .held) {outbox : Outbox} {row : OutboxRow}
    (happ : db.outbox.Appends outbox [row])
    (hrow : row.change? = some (.hold hold.seatId hold.id hold.userId hold.heldUntil)) :
    SeatDb.Entered { db with
      seats := markSeat hold.seatId .held db.seats
      holds := lazyCleanup hold.seatId now db.holds ++ [hold]
      outbox := outbox } := by
  have hlog : outbox.changes = db.outbox.changes ++
      [.hold hold.seatId hold.id hold.userId hold.heldUntil] := by
    rw [happ.changes, List.filterMap_cons, hrow, List.filterMap_nil]
  refine ⟨fun s hs => ?_, ?_⟩
  · rcases mem_markSeat.mp hs with ⟨s₀, -, hid, rfl⟩ | ⟨hs, hne⟩
    · have hbooked : replay outbox.changes s₀.id = .held hold.id hold.userId hold.heldUntil := by
        rw [hid, hlog]
        exact replay_concat_self ..
      show SeatDb.Shows _ _ (replay outbox.changes s₀.id)
      rw [hbooked]
      exact .held (List.mem_append_right _ List.mem_cons_self) hid.symm hactive rfl
    · have hsame : replay outbox.changes s.id = replay db.outbox.changes s.id := by
        rw [hlog]
        exact replay_concat_of_ne _ hne
      show SeatDb.Shows _ _ (replay outbox.changes s.id)
      rw [hsame]
      refine (h.shows s hs).of_holds fun r hr hseat => ?_
      refine List.mem_append_left _ (mem_lazyCleanup.mpr (Or.inr ⟨hr, ?_⟩))
      simp [isExpiredOn, hseat, hne]
  · show Legal outbox.changes
    rw [hlog]
    exact h.legal.concat trivial

theorem SeatDb.Recorded.reserved {db : SeatDb} (h : db.Recorded) {hold : HoldRow} {now : Nat}
    (hmem : hold ∈ db.holds) (hactive : hold.status = .held) {outbox : Outbox} {row : OutboxRow}
    (happ : db.outbox.Appends outbox [row])
    (hrow : row.change? = some (.sell hold.seatId hold.id hold.userId))
    (consumed : List (Uuid × String)) :
    SeatDb.Entered ⟨markSeat hold.seatId .reserved db.seats,
      update (isActiveHold hold.id) (HoldRow.reserve now) db.holds, outbox, consumed⟩ := by
  have hlog : outbox.changes = db.outbox.changes ++ [.sell hold.seatId hold.id hold.userId] := by
    rw [happ.changes, List.filterMap_cons, hrow, List.filterMap_nil]
  refine ⟨fun s hs => ?_, ?_⟩
  · rcases mem_markSeat.mp hs with ⟨s₀, -, hid, rfl⟩ | ⟨hs, hne⟩
    · have hbooked : replay outbox.changes s₀.id = .sold hold.id hold.userId := by
        rw [hid, hlog]
        exact replay_concat_self ..
      show SeatDb.Shows _ _ (replay outbox.changes s₀.id)
      rw [hbooked]
      exact .sold (h := hold.reserve now)
        (mem_update_of_mem hmem (isActiveHold_iff.mpr ⟨rfl, hactive⟩)) hid.symm rfl rfl
    · have hsame : replay outbox.changes s.id = replay db.outbox.changes s.id := by
        rw [hlog]
        exact replay_concat_of_ne _ hne
      show SeatDb.Shows _ _ (replay outbox.changes s.id)
      rw [hsame]
      refine (h.shows s hs).of_holds fun r hr hseat => mem_update.mpr (Or.inr ⟨hr, ?_⟩)
      rw [Bool.eq_false_iff]
      intro hsel
      rw [h.wellFormed.holdKeys.eq_of_mem hr hmem (isActiveHold_iff.mp hsel).1] at hseat
      exact hne hseat.symm
  · show Legal outbox.changes
    rw [hlog]
    exact h.legal.concat ⟨hold.heldUntil, h.booked hmem hactive⟩

/-- The releases that the rows of a step announce. -/
theorem changes_of_announced {holds : List HoldRow} {rows : List OutboxRow}
    (h : List.Forall₂ (fun h row => row.announcesRelease h = true) holds rows) :
    rows.filterMap OutboxRow.change? =
      (holds.map fun h => (h.seatId, h.id)).map fun p => .release p.1 p.2 := by
  induction h with
  | nil => rfl
  | @cons hold row holds rows hann _ ih =>
    obtain ⟨haggregate, -, e, hpayload, hseat⟩ := OutboxRow.announcesRelease_iff.mp hann
    have hchange : row.change? = some (.release hold.seatId hold.id) := by
      simp only [OutboxRow.change?, hpayload, haggregate, hseat]
    rw [List.filterMap_cons, hchange, List.map_cons, List.map_cons, ih]

theorem SeatDb.Recorded.shows_released {db : SeatDb} (h : db.Recorded) {p : HoldRow → Bool}
    {now : Nat} (hactive : ∀ r ∈ db.holds, p r = true → r.status = .held) {outbox : Outbox}
    {rows : List OutboxRow} (happ : db.outbox.Appends outbox rows)
    (hrows : List.Forall₂ (fun h row => row.announcesRelease h = true)
      (returning p (HoldRow.release now) db.holds) rows) :
    ∀ s ∈ freeSeats ((returning p (HoldRow.release now) db.holds).map (·.seatId))
        (update p (HoldRow.release now) db.holds) db.seats,
      SeatDb.Shows { db with
          seats := freeSeats ((returning p (HoldRow.release now) db.holds).map (·.seatId))
            (update p (HoldRow.release now) db.holds) db.seats
          holds := update p (HoldRow.release now) db.holds
          outbox := outbox } s (replay outbox.changes s.id) := by
  have hview : ∀ i, replay outbox.changes i =
      if i ∈ (returning p (HoldRow.release now) db.holds).map (·.seatId) then .free
        else replay db.outbox.changes i := by
    intro i
    rw [happ.changes, changes_of_announced hrows, replay_releases, List.map_map]
    rfl
  intro s hs
  rcases mem_update.mp hs with ⟨s₀, -, hsel, rfl⟩ | ⟨hs, hkept⟩
  · obtain ⟨hin, -⟩ := Bool.and_eq_true_iff.mp hsel
    show SeatDb.Shows _ _ (replay outbox.changes s₀.id)
    rw [hview, if_pos (List.contains_iff_mem.mp hin)]
    exact .free rfl
  · have hnone : ∀ r ∈ db.holds, r.seatId = s.id → p r = false := by
      intro r hr hseat
      rw [Bool.eq_false_iff]
      intro hp
      have hin : s.id ∈ (returning p (HoldRow.release now) db.holds).map (·.seatId) :=
        List.mem_map.mpr ⟨r.release now, mem_returning.mpr ⟨r, hr, hp, rfl⟩, hseat⟩
      rw [List.contains_iff_mem.mpr hin, Bool.true_and, Bool.not_eq_false'] at hkept
      -- A hold still active on the seat would be the one that was released.
      obtain ⟨r', hr', hseat', hheld'⟩ := hasActiveHold_iff.mp hkept
      rcases mem_update.mp hr' with ⟨r₀, -, -, rfl⟩ | ⟨hr', hnot⟩
      · simp at hheld'
      · rw [h.wellFormed.activePerSeat r' hr' r hr (by simp [hheld'])
          (by simp [hactive r hr hp]) (hseat'.trans hseat.symm), hp] at hnot
        cases hnot
    have hnotin : s.id ∉ (returning p (HoldRow.release now) db.holds).map (·.seatId) := by
      intro hin
      obtain ⟨_, hreturned, hseat⟩ := List.mem_map.mp hin
      obtain ⟨r, hr, hp, rfl⟩ := mem_returning.mp hreturned
      rw [hnone r hr hseat] at hp
      cases hp
    rw [hview, if_neg hnotin]
    exact (h.shows s hs).of_holds fun r hr hseat =>
      mem_update.mpr (Or.inr ⟨hr, hnone r hr hseat⟩)

theorem SeatDb.Recorded.legal_released {db : SeatDb} (h : db.Recorded) {p : HoldRow → Bool}
    {now : Nat} (hactive : ∀ r ∈ db.holds, p r = true → r.status = .held) {outbox : Outbox}
    {rows : List OutboxRow} (happ : db.outbox.Appends outbox rows)
    (hrows : List.Forall₂ (fun h row => row.announcesRelease h = true)
      (returning p (HoldRow.release now) db.holds) rows) : Legal outbox.changes := by
  rw [happ.changes, changes_of_announced hrows]
  apply h.legal.releases
  · rw [returning, List.map_map, List.map_map]
    -- No two active holds are on one seat.
    refine List.Nodup.map_on ?_ (h.wellFormed.holdKeys.of_map.filter p)
    intro r hr r' hr' hseat
    obtain ⟨hr, hp⟩ := List.mem_filter.mp hr
    obtain ⟨hr', hp'⟩ := List.mem_filter.mp hr'
    exact h.wellFormed.activePerSeat r hr r' hr' (by simp [hactive r hr hp])
      (by simp [hactive r' hr' hp']) hseat
  · intro q hq
    obtain ⟨_, hreturned, rfl⟩ := List.mem_map.mp hq
    obtain ⟨r, hr, hp, rfl⟩ := mem_returning.mp hreturned
    have hbooked := h.booked hr (hactive r hr hp)
    exact ⟨r.userId, r.heldUntil, hbooked⟩

theorem SeatDb.Recorded.released {db : SeatDb} (h : db.Recorded) {p : HoldRow → Bool}
    {now : Nat} (hactive : ∀ r ∈ db.holds, p r = true → r.status = .held) {outbox : Outbox}
    {rows : List OutboxRow} (happ : db.outbox.Appends outbox rows)
    (hrows : List.Forall₂ (fun h row => row.announcesRelease h = true)
      (returning p (HoldRow.release now) db.holds) rows) :
    SeatDb.Entered { db with
      seats := freeSeats ((returning p (HoldRow.release now) db.holds).map (·.seatId))
        (update p (HoldRow.release now) db.holds) db.seats
      holds := update p (HoldRow.release now) db.holds
      outbox := outbox } :=
  ⟨h.shows_released hactive happ hrows, h.legal_released hactive happ hrows⟩

/-- `reserveHold` writes nothing, or reserves an active hold and says so. -/
theorem reserveHold_cases {db : SeatDb} (hkeys : KeyedBy HoldRow.id db.holds)
    (holdId eventId : Uuid) (consumerGroup traceId : String) (d : Draw) :
    (reserveHold holdId eventId consumerGroup traceId d db).2 = db ∨
      ∃ hold ∈ db.holds, hold.status = .held ∧ ∃ outbox row consumed,
        db.outbox.Appends outbox [row] ∧
        row.change? = some (.sell hold.seatId hold.id hold.userId) ∧
        (reserveHold holdId eventId consumerGroup traceId d db).2 =
          ⟨markSeat hold.seatId .reserved db.seats,
            update (isActiveHold hold.id) (HoldRow.reserve d.now) db.holds, outbox, consumed⟩ := by
  unfold reserveHold
  split
  · exact Or.inl rfl
  · cases hrows : returning (isActiveHold holdId) (HoldRow.reserve d.now) db.holds with
    | nil => exact Or.inl rfl
    | cons row rest =>
      obtain ⟨hold, hmem, rfl, hheld, rfl, rfl⟩ := returning_isActiveHold hkeys hrows
      exact Or.inr ⟨hold, hmem, hheld, _, _, _, Outbox.Appends.insert .., rfl, rfl⟩

theorem SeatDb.Recorded.insertHoldTx {db : SeatDb} (h : db.Recorded) (env : SeatEnv)
    (seatId : String) (userId : Uuid) (traceId : String) (d : HoldDraw) :
    (insertHoldTx env seatId userId traceId d db).2.Entered := by
  by_cases hgoes : ∃ seat, Uuid.ofText seatId = some seat ∧
      holdViolation db.seats (lazyCleanup seat d.now db.holds) (newHold env seat userId d) = none
  · obtain ⟨seat, hseat, hfree⟩ := hgoes
    rw [insertHoldTx_eq_commit traceId hseat hfree]
    exact h.held (newHold env seat userId d) rfl (Outbox.Appends.insert ..)
      (by simp [OutboxRow.change?, seatHeldEvent, hseat, newHold])
  · rw [insertHoldTx_eq_self fun seat hseat hfree => hgoes ⟨seat, hseat, hfree⟩]
    exact h.toEntered

theorem SeatDb.Recorded.reserveHold {db : SeatDb} (h : db.Recorded) (holdId eventId : Uuid)
    (consumerGroup traceId : String) (d : Draw) :
    (reserveHold holdId eventId consumerGroup traceId d db).2.Entered := by
  rcases reserveHold_cases h.wellFormed.holdKeys holdId eventId consumerGroup traceId d with
    heq | ⟨hold, hmem, hactive, outbox, row, consumed, happ, hrow, heq⟩
  · rw [heq]
    exact h.toEntered
  · rw [heq]
    exact h.reserved hmem hactive happ hrow consumed

/-- The other transactions do nothing or release holds. -/
theorem SeatDb.Recorded.releases {env : SeatEnv} {db db' : SeatDb} {a : SeatAction}
    (h : db.Recorded) (heffect : SeatEffect env db a db')
    (hinsert : ∀ seatId userId traceId d, a ≠ .insertHoldTx seatId userId traceId d)
    (hreserve : ∀ holdId eventId group traceId d,
      a ≠ .reserveHold holdId eventId group traceId d) : db'.Entered := by
  cases heffect with
  | nothing => exact h.toEntered
  | held seatId userId traceId d => exact absurd rfl (hinsert seatId userId traceId d)
  | released a now p outbox rows hactive happ hrows => exact h.released hactive happ hrows
  | reserved eventId group traceId d hold =>
    exact absurd rfl (hreserve hold.id eventId group traceId d)

theorem SeatDb.Recorded.step {db : SeatDb} (h : db.Recorded) (env : SeatEnv) (a : SeatAction) :
    (seatStep env db a).Recorded := by
  have heffect := seatStep_effect h.wellFormed.holdKeys env a
  refine ⟨?_, h.wellFormed.effect heffect, h.projected.effect h.wellFormed heffect⟩
  cases a with
  | insertHoldTx seatId userId traceId d => exact h.insertHoldTx env seatId userId traceId d
  | releaseHold => exact h.releases heffect (by simp) (by simp)
  | reserveHold holdId eventId group traceId d =>
    exact h.reserveHold holdId eventId group traceId d
  | tick => exact h.releases heffect (by simp) (by simp)

theorem SeatDb.Seeded.recorded_exec {db : SeatDb} (h : db.Seeded) (env : SeatEnv)
    (as : List SeatAction) : (exec (seatStep env) db as).Recorded :=
  exec_invariant' SeatDb.Recorded (fun _ a h => h.step env a) h.recorded as

/-! ### The list of seats -/

/-- The row of the list for a seat that is booked so. -/
def SeatRow.listedAs (s : SeatRow) : SeatBooking → ListedSeat
  | .free => ⟨{ s with status := .available }, none, none⟩
  | .held _ user heldUntil => ⟨{ s with status := .held }, some user, some heldUntil⟩
  | .sold _ _ => ⟨{ s with status := .reserved }, none, none⟩

/-- The row of a seat as the seed has it. -/
def SeatRow.vacant (s : SeatRow) : SeatRow := { s with status := .available }

@[simp] theorem SeatRow.listedAs_vacant (s : SeatRow) (b : SeatBooking) :
    s.vacant.listedAs b = s.listedAs b := by
  cases b <;> rfl

theorem SeatDb.Recorded.joinHolds_eq {db : SeatDb} (h : db.Recorded) {s : SeatRow}
    (hs : s ∈ db.seats) :
    joinHolds db.holds s = [s.listedAs (replay db.outbox.changes s.id)] := by
  have hshows := h.shows s hs
  have hjoin : ∀ status, s.status = status → { s with status := status } = s := by
    rintro status rfl
    rfl
  unfold joinHolds
  rcases h.wellFormed.activeHolds_cases s.id with hnone | ⟨r, hr, hheld, hseat, hone⟩
  · -- No hold is joined, so the seat is not HELD.
    have hnot : s.status ≠ .held := by
      rw [ne_eq, h.projected.held_iff h.wellFormed hs, hnone]
      simp
    rw [hnone]
    generalize replay db.outbox.changes s.id = b at hshows
    cases hshows with
    | free hstatus => simp [SeatRow.listedAs, hjoin _ hstatus]
    | held hmem hseat hactive hstatus => exact absurd hstatus hnot
    | sold hmem hseat hreserved hstatus => simp [SeatRow.listedAs, hjoin _ hstatus]
  · have hstatus : s.status = .held :=
      (h.projected s hs).mpr (hasActiveHold_iff.mpr ⟨r, hr, hseat, hheld⟩)
    have hbooked := h.booked hr hheld
    rw [hseat] at hbooked
    rw [hone, hbooked]
    simp [SeatRow.listedAs, hjoin _ hstatus]

/-- No step changes a column of `seats` other than the status. -/
theorem SeatEffect.map_vacant {env : SeatEnv} {db db' : SeatDb} {a : SeatAction}
    (heffect : SeatEffect env db a db') :
    db'.seats.map SeatRow.vacant = db.seats.map SeatRow.vacant := by
  cases heffect with
  | nothing => rfl
  | held => exact map_update (fun _ _ => by rfl) _
  | released => exact map_update (fun _ _ => by rfl) _
  | reserved => exact map_update (fun _ _ => by rfl) _

theorem SeatDb.Seeded.map_vacant_exec {db : SeatDb} (h : db.Seeded) (env : SeatEnv)
    (as : List SeatAction) :
    (exec (seatStep env) db as).seats.map SeatRow.vacant = db.seats.map SeatRow.vacant := by
  have hinv : (exec (seatStep env) db as).WellFormed ∧
      (exec (seatStep env) db as).seats.map SeatRow.vacant = db.seats.map SeatRow.vacant := by
    apply exec_invariant' fun t : SeatDb => t.WellFormed ∧
      t.seats.map SeatRow.vacant = db.seats.map SeatRow.vacant
    · rintro t a ⟨hwf, hsame⟩
      exact ⟨hwf.step env a, (seatStep_effect hwf.holdKeys env a).map_vacant.trans hsame⟩
    · exact ⟨h.wellFormed, rfl⟩
  exact hinv.2

/-- **The list of seats can be rebuilt from the seed and the events.**  In every run, what the
    query of `listAll` finds in the tables is what the rows of the outbox say: replayed in
    order, they tell of each seat its status, its holder and until when it is held. -/
theorem list_replays_outbox {db : SeatDb} (hseed : db.Seeded) (env : SeatEnv)
    (as : List SeatAction) (collation : String → String → Bool) :
    let t := exec (seatStep env) db as
    listAll collation t =
      (db.seats.map fun s => s.listedAs (replay t.outbox.changes s.id)).mergeSort
        fun s s' => collation s.label s'.label := by
  intro t
  have hrecorded : t.Recorded := hseed.recorded_exec env as
  have hrows : t.seats.flatMap (joinHolds t.holds) =
      t.seats.map fun s => s.listedAs (replay t.outbox.changes s.id) := by
    rw [List.flatMap_congr fun s hs => hrecorded.joinHolds_eq hs]
    exact List.flatMap_pure_eq_map _ _
  have hvacant : ∀ seats : List SeatRow,
      seats.map (fun s => s.listedAs (replay t.outbox.changes s.id)) =
        (seats.map SeatRow.vacant).map fun s => s.listedAs (replay t.outbox.changes s.id) := by
    intro seats
    rw [List.map_map]
    exact List.map_congr_left fun s _ => (s.listedAs_vacant _).symm
  have hseats : t.seats.map SeatRow.vacant = db.seats.map SeatRow.vacant :=
    hseed.map_vacant_exec env as
  rw [listAll, hrows, hvacant, hseats, ← hvacant]

/-- A seat is held, taken over after the expiry without an event of the release, and sold. -/
def takeoverRun : List SeatAction :=
  [.insertHoldTx "00000000-0000-0000-0000-000000000001" 101
    "00000000-0000-0000-0000-0000000000aa" ⟨201, 301, 1000, 1000, 1000⟩,
   .insertHoldTx "00000000-0000-0000-0000-000000000001" 102
    "00000000-0000-0000-0000-0000000000aa" ⟨202, 302, 200000, 200000, 200000⟩,
   .reserveHold 202 401 "seat-service" "00000000-0000-0000-0000-0000000000aa"
    ⟨501, 201000, 201000⟩]

example : (exec (seatStep defaultSeatEnv) seedDb takeoverRun).outbox.changes =
    [.hold 1 201 101 121000, .hold 1 202 102 320000, .sell 1 202 102] := by
  decide +kernel

theorem list_replays_outbox_takeover :
    listAll (fun s s' => decide (s ≤ s')) (exec (seatStep defaultSeatEnv) seedDb takeoverRun) =
      (seedDb.seats.map fun s => s.listedAs (replay
        (exec (seatStep defaultSeatEnv) seedDb takeoverRun).outbox.changes s.id)).mergeSort
          fun s s' => decide (s.label ≤ s'.label) :=
  list_replays_outbox seedDb_seeded defaultSeatEnv takeoverRun _

/-! ### The order of the events -/

/-- The rows of a history that make up a given part of the log. -/
theorem exists_row_of_changes {rows : List OutboxRow} {earlier between : List SeatChange}
    {c : SeatChange} (h : rows.filterMap OutboxRow.change? = earlier ++ c :: between) :
    ∃ rows₁ row rows₂, rows = rows₁ ++ row :: rows₂ ∧ row.change? = some c ∧
      rows₂.filterMap OutboxRow.change? = between := by
  obtain ⟨rows₁, rest, rfl, -, hrest⟩ := List.filterMap_eq_append_iff.mp h
  obtain ⟨skipped, row, rows₂, rfl, -, hrow, hbetween⟩ := List.filterMap_eq_cons_iff.mp hrest
  exact ⟨rows₁ ++ skipped, row, rows₂, by simp, hrow, hbetween⟩

/-- The row is not about the seat. -/
def OutboxRow.SparesSeat (r : OutboxRow) (seat : Uuid) : Prop :=
  ∀ c, r.change? = some c → c.resource ≠ seat

/-- **A seat is reserved and released only under the hold it has.**  In the history of every
    run, a row that reserves a seat for a hold or releases a hold of the seat comes after the
    row that announced this hold, and no row between the two is about the seat. -/
theorem events_follow_hold {db : SeatDb} (hseed : db.Seeded) (env : SeatEnv)
    (as : List SeatAction) {before after : List OutboxRow} {row : OutboxRow}
    (hhistory : (exec (seatStep env) db as).outbox.history = before ++ row :: after)
    {seat hold : Uuid} :
    (∀ user, row.change? = some (.sell seat hold user) →
      ∃ earlier held between heldUntil, before = earlier ++ held :: between ∧
        held.change? = some (.hold seat hold user heldUntil) ∧
        ∀ r ∈ between, r.SparesSeat seat) ∧
    (row.change? = some (.release seat hold) →
      ∃ user earlier held between heldUntil, before = earlier ++ held :: between ∧
        held.change? = some (.hold seat hold user heldUntil) ∧
        ∀ r ∈ between, r.SparesSeat seat) := by
  have hlegal := (hseed.recorded_exec env as).legal
  rw [Outbox.changes, hhistory, List.filterMap_append] at hlegal
  have hspares : ∀ {between : List OutboxRow} {cs : List SeatChange},
      between.filterMap OutboxRow.change? = cs → (∀ c ∈ cs, c.resource ≠ seat) →
      ∀ r ∈ between, r.SparesSeat seat := by
    rintro between cs rfl hne r hr c hc
    exact hne c (List.mem_filterMap.mpr ⟨r, hr, hc⟩)
  constructor
  · intro user hrow
    rw [List.filterMap_cons, hrow] at hlegal
    obtain ⟨heldUntil, earlier, between, hbefore, hne⟩ := hlegal.sell_follows_hold
    obtain ⟨rows₁, held, rows₂, hsplit, hheld, hbetween⟩ := exists_row_of_changes hbefore
    exact ⟨rows₁, held, rows₂, heldUntil, hsplit, hheld, hspares hbetween hne⟩
  · intro hrow
    rw [List.filterMap_cons, hrow] at hlegal
    obtain ⟨user, heldUntil, earlier, between, hbefore, hne⟩ := hlegal.release_follows_hold
    obtain ⟨rows₁, held, rows₂, hsplit, hheld, hbetween⟩ := exists_row_of_changes hbefore
    exact ⟨user, rows₁, held, rows₂, heldUntil, hsplit, hheld, hspares hbetween hne⟩

/-- The row of the sale. -/
def takeoverSale : OutboxRow :=
  ⟨3, 202, "seat.reserved.v1",
    .seatReserved ⟨501, 1, 102, 202, "00000000-0000-0000-0000-0000000000aa", 201000⟩,
    [("traceId", "00000000-0000-0000-0000-0000000000aa")], .pending, 0, 201000⟩

theorem events_follow_hold_takeover :
    ∃ earlier held between heldUntil,
      (exec (seatStep defaultSeatEnv) seedDb takeoverRun).outbox.history.take 2 =
        earlier ++ held :: between ∧ held.change? = some (.hold 1 202 102 heldUntil) ∧
        ∀ r ∈ between, r.SparesSeat 1 := by
  have hhistory : (exec (seatStep defaultSeatEnv) seedDb takeoverRun).outbox.history =
      (exec (seatStep defaultSeatEnv) seedDb takeoverRun).outbox.history.take 2 ++
        takeoverSale :: [] := by
    decide +kernel
  exact (events_follow_hold seedDb_seeded defaultSeatEnv takeoverRun hhistory).1 102
    (by decide +kernel)

end SeatReservation
