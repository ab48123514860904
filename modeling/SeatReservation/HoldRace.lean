import SeatReservation.HoldRefusal

/-!
# Racing for a seat

Any number of calls of `insertHoldTx` for one seat, each statement a step.  A
call reads the snapshot its first statement takes; it waits for a row another
open call has written, and for another open call's row that its own would
duplicate; and it fails with 40001 when it updates a row that another call has
updated and committed since its snapshot, or at any statement where the
database has to abort it (`abort`).  The inner `catch` turns a 23505 into a
conflict and nothing turns a 40001 into one.
-/

namespace SeatReservation

open Relational TransitionSystem

def serializationFailure : SqlError := ⟨"40001", ""⟩

/-! ### A call of `insertHoldTx`, statement by statement -/

/-- The statement a call is about to execute. -/
inductive HoldPoint where
  | begin
  | cleanup
  | insert
  | markSeat
  | lookupPrice
  | lookupCurrency
  | announce
  | commit
  | done (result : Except SqlError InsertHoldResult)
deriving DecidableEq

structure HoldRequest where
  userId : Uuid
  traceId : String
  draw : HoldDraw

/-- A call with the snapshot it reads, what others have committed since (`changed`,
    `seatChanged`), and its own uncommitted writes. -/
structure HoldCall where
  request : HoldRequest
  point : HoldPoint
  snapshot : SeatDb
  changed : List Uuid
  seatChanged : Bool
  cleaned : List Uuid
  inserted : List HoldRow
  marked : Bool

def HoldCall.begun (db : SeatDb) (q : HoldRequest) : HoldCall :=
  ⟨q, .begin, db, [], false, [], [], false⟩

/-- COMMIT or ROLLBACK, and the end of the call. -/
def HoldCall.finish (c : HoldCall) (result : Except SqlError InsertHoldResult) : HoldCall :=
  { c with point := .done result, cleaned := [], inserted := [], marked := false }

/-- A commit of another call. -/
def HoldCall.notice (c committed : HoldCall) : HoldCall :=
  { c with changed := c.changed ++ committed.cleaned, seatChanged := true }

/-- The expired holds its snapshot shows on the seat. -/
def HoldCall.expired (seat : UuidText) (c : HoldCall) : List Uuid :=
  (c.snapshot.holds.filter (isExpiredOn seat.uuid c.request.draw.now)).map HoldRow.id

def HoldCall.row (env : SeatEnv) (seat : UuidText) (c : HoldCall) : HoldRow :=
  newHold env seat.uuid c.request.userId c.request.draw

/-- The statement has to wait for one of the other open calls. -/
def HoldCall.waits (env : SeatEnv) (seat : UuidText) (db : SeatDb) (others : List HoldCall)
    (c : HoldCall) : Bool :=
  let locked := others.flatMap HoldCall.cleaned
  match c.point with
  | .cleanup => (c.expired seat).any locked.contains
  | .insert =>
      let row := c.row env seat
      ((others.flatMap HoldCall.inserted).any fun h =>
        h.id == row.id || h.seatId == row.seatId || h.userId == row.userId) ||
      db.holds.any fun h => locked.contains h.id && h.status == .held &&
        (h.seatId == row.seatId || h.userId == row.userId)
  | .markSeat => others.any HoldCall.marked
  | _ => false

/-- The first `catch` of `insertHoldTx`. -/
def onInsertError (err : SqlError) : Except SqlError InsertHoldResult :=
  if err.code = "23505" then
    .ok (.conflict (if err.constraint = "uniq_active_hold_per_user" then .userHasHold else .seatHeld))
  else .error err

@[simp] theorem onInsertError_serializationFailure :
    onInsertError serializationFailure = .error serializationFailure := rfl

/-- What the call has written, on top of the database it is committed to. -/
def HoldCall.writes (env : SeatEnv) (seat : UuidText) (db : SeatDb) (c : HoldCall) : SeatDb :=
  { db with
    seats := markSeat seat.uuid .held db.seats
    holds := update (fun h => c.cleaned.contains h.id) (HoldRow.release c.request.draw.now)
      db.holds ++ c.inserted
    outbox := db.outbox.insert (c.row env seat).id "seat.held.v1"
      (seatHeldEvent c.snapshot.seats seat.text c.request.traceId (c.row env seat) c.request.draw)
      [("traceId", c.request.traceId), ("userId", c.request.userId.toString)]
      c.request.draw.now }

/-- A statement that does not wait. -/
def HoldCall.next (env : SeatEnv) (seat : UuidText) (db : SeatDb) (c : HoldCall) : HoldCall :=
  match c.point with
  | .begin => { c with point := .cleanup, snapshot := db, changed := [], seatChanged := false }
  | .cleanup =>
      if (c.expired seat).any c.changed.contains then c.finish (.error serializationFailure)
      else { c with point := .insert, cleaned := c.expired seat }
  | .insert =>
      -- Unique indexes look at what is committed, not at the snapshot.
      let visible := update (fun h => c.cleaned.contains h.id)
        (HoldRow.release c.request.draw.now) db.holds
      match holdViolation db.seats visible (c.row env seat) with
      | some err => c.finish (onInsertError err)
      | none => { c with point := .markSeat, inserted := [c.row env seat] }
  | .markSeat =>
      if c.seatChanged then c.finish (onInsertError serializationFailure)
      else { c with point := .lookupPrice, marked := true }
  | .lookupPrice => { c with point := .lookupCurrency }
  | .lookupCurrency => { c with point := .announce }
  | .announce => { c with point := .commit }
  | .commit => c.finish (.ok (.ok (c.row env seat)))
  | .done _ => c

/-! ### The race -/

structure HoldRace where
  db : SeatDb
  calls : List HoldCall

def HoldRace.start (db : SeatDb) (requests : List HoldRequest) : HoldRace :=
  ⟨db, requests.map (HoldCall.begun db)⟩

/-- `run` executes the next statement of a call and `abort` is the database's decision that
    it fails with 40001. -/
inductive RaceAction where
  | run (i : Nat)
  | abort (i : Nat)

/-- The database can abort a call between its first statement and its end. -/
def HoldCall.isOpen (c : HoldCall) : Bool :=
  match c.point with
  | .begin | .done _ => false
  | _ => true

def raceStep (env : SeatEnv) (seat : UuidText) (s : HoldRace) : RaceAction → HoldRace
  | .run i =>
      match s.calls[i]? with
      | none => s
      | some c =>
          if c.waits env seat s.db (s.calls.eraseIdx i) then s
          else if c.point = .commit then
            ⟨c.writes env seat s.db, (s.calls.map (·.notice c)).set i (c.next env seat s.db)⟩
          else ⟨s.db, s.calls.set i (c.next env seat s.db)⟩
  | .abort i =>
      match s.calls[i]? with
      | none => s
      | some c =>
          if c.isOpen then ⟨s.db, s.calls.set i (c.finish (onInsertError serializationFailure))⟩
          else s

/-! ### How a call ends -/

def HoldCall.won (c : HoldCall) : Bool :=
  match c.point with
  | .done (.ok (.ok _)) => true
  | _ => false

def HoldCall.refused (c : HoldCall) : Bool :=
  match c.point with
  | .done (.ok (.conflict _)) => true
  | _ => false

def HoldCall.threw (c : HoldCall) : Bool :=
  match c.point with
  | .done (.error _) => true
  | _ => false

def HoldCall.isDone (c : HoldCall) : Bool :=
  match c.point with
  | .done _ => true
  | _ => false

/-- One call has got the hold, and every other one a conflict. -/
structure HoldRace.OneWinner (s : HoldRace) : Prop where
  one : s.calls.countP HoldCall.won = 1
  others : ∀ c ∈ s.calls, c.won = true ∨ c.refused = true

/-- The prior state of the seat is free or an expired HELD hold, and the calls are concurrent:
    no hold they insert expires before one of them starts. -/
structure RaceReady (env : SeatEnv) (seat : UuidText) (db : SeatDb)
    (requests : List HoldRequest) : Prop where
  wellFormed : db.WellFormed
  seatExists : ∃ r ∈ db.seats, r.id = seat.uuid
  expired : ∀ h ∈ db.holds, h.status = .held → h.seatId = seat.uuid →
    ∀ q ∈ requests, h.heldUntil < q.draw.now
  noOtherHolds : ∀ q ∈ requests, ∀ h ∈ db.holds, h.status = .held → h.userId = q.userId →
    h.seatId = seat.uuid
  fresh : ∀ q ∈ requests, ∀ h ∈ db.holds, h.id ≠ q.draw.holdId
  concurrent : ∀ q ∈ requests, ∀ q' ∈ requests,
    q'.draw.now ≤ q.draw.dateNow + env.holdTtlSeconds * 1000
  nonempty : requests ≠ []

/-- The step is no failure with 40001: no call is aborted, and no cleanup updates an expired
    hold that another call has released and committed since its snapshot. -/
def AvoidsFailure (env : SeatEnv) (seat : UuidText) (s : HoldRace) : RaceAction → Prop
  | .run i => ∀ c ∈ s.calls[i]?, c.point = .cleanup →
      c.waits env seat s.db (s.calls.eraseIdx i) = false →
      (c.expired seat).any c.changed.contains = false
  | .abort i => ∀ c ∈ s.calls[i]?, c.isOpen = false

/-! ### What a step can do -/

inductive RaceEffect (env : SeatEnv) (seat : UuidText) (s : HoldRace) : RaceAction → HoldRace → Prop
  | nothing (a : RaceAction) : RaceEffect env seat s a s
  | next (before : List HoldCall) (c : HoldCall) (after : List HoldCall)
      (hsplit : s.calls = before ++ c :: after)
      (hwaits : c.waits env seat s.db (before ++ after) = false) (hpoint : c.point ≠ .commit) :
      RaceEffect env seat s (.run before.length) ⟨s.db, before ++ c.next env seat s.db :: after⟩
  | commit (before : List HoldCall) (c : HoldCall) (after : List HoldCall)
      (hsplit : s.calls = before ++ c :: after) (hpoint : c.point = .commit) :
      RaceEffect env seat s (.run before.length)
        ⟨c.writes env seat s.db, before.map (·.notice c) ++
          c.finish (.ok (.ok (c.row env seat))) :: after.map (·.notice c)⟩
  | abort (before : List HoldCall) (c : HoldCall) (after : List HoldCall)
      (hsplit : s.calls = before ++ c :: after) (hopen : c.isOpen = true) :
      RaceEffect env seat s (.abort before.length)
        ⟨s.db, before ++ c.finish (.error serializationFailure) :: after⟩

theorem raceStep_effect (env : SeatEnv) (seat : UuidText) (s : HoldRace) (a : RaceAction) :
    RaceEffect env seat s a (raceStep env seat s a) := by
  cases a with
  | run i =>
    cases hget : s.calls[i]? with
    | none =>
      simp only [raceStep, hget]
      exact .nothing _
    | some c =>
      obtain ⟨before, after, hsplit, rfl⟩ := exists_split_of_getElem? hget
      simp only [raceStep, hget]
      rw [hsplit, eraseIdx_split]
      split
      · exact .nothing _
      · rename_i hwaits
        split
        · rename_i hpoint
          have hnext : c.next env seat s.db = c.finish (.ok (.ok (c.row env seat))) := by
            simp only [HoldCall.next, hpoint]
          have heffect : RaceEffect env seat s (.run before.length) _ :=
            .commit before c after hsplit hpoint
          simpa [hnext] using heffect
        · rename_i hpoint
          have heffect : RaceEffect env seat s (.run before.length) _ :=
            .next before c after hsplit (Bool.eq_false_iff.mpr hwaits) hpoint
          simpa using heffect
  | abort i =>
    cases hget : s.calls[i]? with
    | none =>
      simp only [raceStep, hget]
      exact .nothing _
    | some c =>
      obtain ⟨before, after, hsplit, rfl⟩ := exists_split_of_getElem? hget
      simp only [raceStep, hget]
      split
      · rename_i hopen
        have heffect : RaceEffect env seat s (.abort before.length) _ :=
          .abort before c after hsplit hopen
        rw [hsplit]
        simpa using heffect
      · exact .nothing _

/-! ### Before and after the winner's COMMIT -/

/-- The call holds no locks and has inserted nothing. -/
structure HoldCall.Free (c : HoldCall) : Prop where
  cleaned : c.cleaned = []
  inserted : c.inserted = []
  marked : c.marked = false

theorem HoldCall.free_finish (c : HoldCall) (result : Except SqlError InsertHoldResult) :
    (c.finish result).Free := ⟨rfl, rfl, rfl⟩

/-- It reads the committed database, which no one has changed since. -/
structure HoldCall.Reads (c : HoldCall) (db : SeatDb) : Prop where
  snapshot : c.snapshot = db
  changed : c.changed = []
  seatChanged : c.seatChanged = false

/-- Between its INSERT and the end of the call. -/
def HoldPoint.hasInserted : HoldPoint → Bool
  | .markSeat | .lookupPrice | .lookupCurrency | .announce | .commit => true
  | _ => false

/-- A call while no one has committed. -/
inductive HoldCall.FineBefore (env : SeatEnv) (seat : UuidText) (db : SeatDb) (c : HoldCall) : Prop
  | begin (hpoint : c.point = .begin) (hfree : c.Free)
  | cleanup (hpoint : c.point = .cleanup) (hreads : c.Reads db) (hfree : c.Free)
  | insert (hpoint : c.point = .insert) (hreads : c.Reads db)
      (hcleaned : c.cleaned = c.expired seat) (hinserted : c.inserted = [])
      (hmarked : c.marked = false)
  | inserted (hpoint : c.point.hasInserted = true) (hreads : c.Reads db)
      (hcleaned : c.cleaned = c.expired seat) (hinserted : c.inserted = [c.row env seat])
  | failed (hthrew : c.threw = true) (hfree : c.Free)

/-- Another call than the winner, after its COMMIT. -/
inductive HoldCall.FineAfter (seat : UuidText) (c : HoldCall) : Prop
  | begin (hpoint : c.point = .begin) (hfree : c.Free)
  | cleanup (hpoint : c.point = .cleanup) (hfree : c.Free)
      (hchanged : ∀ id ∈ c.expired seat, id ∈ c.changed)
  | insert (hpoint : c.point = .insert) (hfree : c.Free)
  | ended (hended : c.refused = true ∨ c.threw = true) (hfree : c.Free)

/-- Two calls do not both lock holds, or both have a row inserted. -/
def HoldCall.Excludes (c c' : HoldCall) : Prop :=
  (c.cleaned = [] ∨ c'.cleaned = []) ∧ (c.inserted = [] ∨ c'.inserted = [])

theorem HoldCall.Excludes.symm {c c' : HoldCall} (h : c.Excludes c') : c'.Excludes c :=
  ⟨h.1.symm, h.2.symm⟩

theorem HoldCall.Free.excludes {c : HoldCall} (h : c.Free) (c' : HoldCall) : c.Excludes c' :=
  ⟨Or.inl h.cleaned, Or.inl h.inserted⟩

/-- The seat has an active hold, and none that is expired for any of the calls. -/
structure SeatTaken (seat : UuidText) (requests : List HoldRequest) (db : SeatDb) : Prop where
  taken : ∃ h ∈ db.holds, h.status = .held ∧ h.seatId = seat.uuid
  live : ∀ h ∈ db.holds, h.status = .held → h.seatId = seat.uuid →
    ∀ q ∈ requests, ¬ h.heldUntil < q.draw.now

structure BeforeCommit (env : SeatEnv) (seat : UuidText) (db : SeatDb) (s : HoldRace) : Prop where
  same : s.db = db
  calls : ∀ c ∈ s.calls, c.FineBefore env seat db
  exclusive : s.calls.Pairwise HoldCall.Excludes

structure AfterCommit (seat : UuidText) (requests : List HoldRequest) (s : HoldRace) : Prop where
  taken : SeatTaken seat requests s.db
  winner : s.calls.countP HoldCall.won = 1
  calls : ∀ c ∈ s.calls, c.won = true ∧ c.Free ∨ c.FineAfter seat

/-- What holds after every run. -/
structure RaceInv (env : SeatEnv) (seat : UuidText) (db : SeatDb) (requests : List HoldRequest)
    (s : HoldRace) : Prop where
  members : ∀ c ∈ s.calls, c.request ∈ requests
  phase : BeforeCommit env seat db s ∨ AfterCommit seat requests s

/-- The expired holds of the snapshot are those on the seat. -/
theorem mem_expired {seat : UuidText} {c : HoldCall} {id : Uuid} :
    id ∈ c.expired seat ↔ ∃ h ∈ c.snapshot.holds, h.id = id ∧ h.seatId = seat.uuid ∧
      h.status = .held ∧ h.heldUntil < c.request.draw.now := by
  simp only [HoldCall.expired, List.mem_map, List.mem_filter, isExpiredOn_iff]
  constructor
  · rintro ⟨h, ⟨hmem, hexpired⟩, hid⟩
    exact ⟨h, hmem, hid, hexpired⟩
  · rintro ⟨h, hmem, hid, hexpired⟩
    exact ⟨h, ⟨hmem, hexpired⟩, hid⟩

/-- While no one has committed, all calls see the same expired holds. -/
theorem RaceReady.expired_subset {env : SeatEnv} {seat : UuidText} {db : SeatDb}
    {requests : List HoldRequest} (h : RaceReady env seat db requests) {c c' : HoldCall}
    (hc : c.snapshot = db) (hc' : c'.snapshot = db) (hrequest : c'.request ∈ requests) :
    c.expired seat ⊆ c'.expired seat := by
  intro id hid
  obtain ⟨x, hx, hsame, hon, hheld, -⟩ := mem_expired.mp hid
  rw [hc] at hx
  exact mem_expired.mpr ⟨x, hc' ▸ hx, hsame, hon, hheld, h.expired x hx hheld hon _ hrequest⟩

theorem raceInv_start {env : SeatEnv} {seat : UuidText} {db : SeatDb}
    {requests : List HoldRequest} :
    RaceInv env seat db requests (HoldRace.start db requests) where
  members := by
    intro c hc
    obtain ⟨q, hq, rfl⟩ := List.mem_map.mp hc
    exact hq
  phase := by
    refine Or.inl ⟨rfl, ?_, ?_⟩
    · intro c hc
      obtain ⟨q, hq, rfl⟩ := List.mem_map.mp hc
      exact .begin rfl ⟨rfl, rfl, rfl⟩
    · rw [HoldRace.start, List.pairwise_map]
      apply List.pairwise_of_forall
      intro q q'
      exact ⟨Or.inl rfl, Or.inl rfl⟩

/-! ### The statements, before a COMMIT -/

section

variable {env : SeatEnv} {seat : UuidText} {db : SeatDb} {requests : List HoldRequest}

/-- The insert of the first call to get there violates no constraint. -/
theorem RaceReady.insertable (h : RaceReady env seat db requests) {c : HoldCall}
    (hrequest : c.request ∈ requests) (hsnapshot : c.snapshot = db)
    (hcleaned : c.cleaned = c.expired seat) :
    holdViolation db.seats (update (fun x => c.cleaned.contains x.id)
      (HoldRow.release c.request.draw.now) db.holds) (c.row env seat) = none := by
  -- What is still HELD was HELD and is not one of the expired holds of the seat.
  have hheld : ∀ x ∈ update (fun x => c.cleaned.contains x.id)
      (HoldRow.release c.request.draw.now) db.holds, x.status = .held →
      x ∈ db.holds ∧ x.seatId ≠ seat.uuid := by
    intro x hx hheld
    rcases mem_update.mp hx with ⟨x₀, -, -, rfl⟩ | ⟨hx, hnot⟩
    · simp at hheld
    · refine ⟨hx, ?_⟩
      intro hon
      have hin : x.id ∈ c.cleaned := by
        rw [hcleaned]
        exact mem_expired.mpr ⟨x, hsnapshot ▸ hx, rfl, hon, hheld,
          h.expired x hx hheld hon _ hrequest⟩
      simp [hin] at hnot
  refine holdViolation_eq_none_iff.mpr ⟨?_, ?_, ?_, h.seatExists⟩
  · intro x hx
    obtain ⟨x₀, hx₀, hid⟩ : ∃ x₀ ∈ db.holds, x₀.id = x.id := by
      rcases mem_update.mp hx with ⟨x₀, hx₀, -, rfl⟩ | ⟨hx, -⟩
      · exact ⟨x₀, hx₀, rfl⟩
      · exact ⟨x, hx, rfl⟩
    rw [← hid]
    exact h.fresh _ hrequest x₀ hx₀
  · intro x hx hactive
    exact (hheld x hx hactive).2
  · intro x hx hactive huser
    obtain ⟨hmem, hoff⟩ := hheld x hx hactive
    exact hoff (h.noOtherHolds _ hrequest x hmem hactive huser)

/-- A statement of a call that is not its COMMIT, while no one has committed. -/
theorem HoldCall.FineBefore.next (h : RaceReady env seat db requests) {c : HoldCall}
    (hc : c.FineBefore env seat db) (hrequest : c.request ∈ requests) (hpoint : c.point ≠ .commit) :
    (c.next env seat db).FineBefore env seat db := by
  unfold HoldCall.next
  cases hc with
  | begin hat hfree =>
    rw [hat]
    exact .cleanup rfl ⟨rfl, rfl, rfl⟩ ⟨hfree.cleaned, hfree.inserted, hfree.marked⟩
  | cleanup hat hreads hfree =>
    have hnone : (c.expired seat).any c.changed.contains = false := by simp [hreads.changed]
    rw [hat]
    dsimp only
    rw [hnone]
    exact .insert rfl ⟨hreads.snapshot, hreads.changed, hreads.seatChanged⟩ rfl hfree.inserted
      hfree.marked
  | insert hat hreads hcleaned hinserted hmarked =>
    rw [hat]
    dsimp only
    rw [h.insertable hrequest hreads.snapshot hcleaned]
    exact .inserted rfl ⟨hreads.snapshot, hreads.changed, hreads.seatChanged⟩ hcleaned rfl
  | inserted hat hreads hcleaned hinserted =>
    have hreads' : ∀ point marked, HoldCall.Reads { c with point := point, marked := marked } db :=
      fun _ _ => ⟨hreads.snapshot, hreads.changed, hreads.seatChanged⟩
    cases hstate : c.point with
    | markSeat =>
      dsimp only
      rw [if_neg (by simp [hreads.seatChanged])]
      exact .inserted rfl (hreads' _ _) hcleaned hinserted
    | lookupPrice => exact .inserted rfl (hreads' _ _) hcleaned hinserted
    | lookupCurrency => exact .inserted rfl (hreads' _ _) hcleaned hinserted
    | announce => exact .inserted rfl (hreads' _ _) hcleaned hinserted
    | commit => exact absurd hstate hpoint
    | _ => simp [hstate, HoldPoint.hasInserted] at hat
  | failed hthrew hfree =>
    cases hstate : c.point with
    | done result => exact .failed hthrew hfree
    | _ => simp [hstate, HoldCall.threw] at hthrew

/-- Before a COMMIT a call holds the locks on all expired holds or on none. -/
theorem HoldCall.FineBefore.cleaned_cases {c : HoldCall} (hc : c.FineBefore env seat db) :
    c.cleaned = [] ∨ c.Reads db ∧ c.cleaned = c.expired seat := by
  cases hc with
  | begin hat hfree => exact Or.inl hfree.cleaned
  | cleanup hat hreads hfree => exact Or.inl hfree.cleaned
  | insert hat hreads hcleaned hinserted hmarked => exact Or.inr ⟨hreads, hcleaned⟩
  | inserted hat hreads hcleaned hinserted => exact Or.inr ⟨hreads, hcleaned⟩
  | failed hthrew hfree => exact Or.inl hfree.cleaned

theorem HoldCall.FineBefore.inserted_cases {c : HoldCall} (hc : c.FineBefore env seat db) :
    c.inserted = [] ∨ c.inserted = [c.row env seat] := by
  cases hc with
  | begin hat hfree => exact Or.inl hfree.inserted
  | cleanup hat hreads hfree => exact Or.inl hfree.inserted
  | insert hat hreads hcleaned hinserted hmarked => exact Or.inl hinserted
  | inserted hat hreads hcleaned hinserted => exact Or.inr hinserted
  | failed hthrew hfree => exact Or.inl hfree.inserted

/-- The call that takes the next step excludes the others as it did before: what it newly
    locks or inserts, no other call has. -/
theorem HoldCall.FineBefore.excludes_next (h : RaceReady env seat db requests) {c c' : HoldCall}
    {others : List HoldCall} (hc : c.FineBefore env seat db) (hc' : c'.FineBefore env seat db)
    (hrequest' : c'.request ∈ requests) (hmem : c' ∈ others)
    (hwaits : c.waits env seat db others = false) (hbefore : c.Excludes c') :
    (c.next env seat db).Excludes c' := by
  unfold HoldCall.next
  unfold HoldCall.waits at hwaits
  cases hc with
  | begin hat hfree =>
    rw [hat]
    exact ⟨Or.inl hfree.cleaned, Or.inl hfree.inserted⟩
  | cleanup hat hreads hfree =>
    have hnone : (c.expired seat).any c.changed.contains = false := by simp [hreads.changed]
    rw [hat] at hwaits ⊢
    dsimp only at hwaits ⊢
    rw [hnone]
    refine ⟨?_, Or.inl hfree.inserted⟩
    rcases hc'.cleaned_cases with hcleaned' | ⟨hreads', hcleaned'⟩
    · exact Or.inr hcleaned'
    · refine Or.inl (List.eq_nil_iff_forall_not_mem.mpr fun id hid => ?_)
      have hlocked : id ∈ others.flatMap HoldCall.cleaned := by
        refine List.mem_flatMap.mpr ⟨c', hmem, ?_⟩
        rw [hcleaned']
        exact h.expired_subset hreads.snapshot hreads'.snapshot hrequest' hid
      exact List.any_eq_false.mp hwaits id hid (List.contains_iff_mem.mpr hlocked)
  | insert hat hreads hcleaned hinserted hmarked =>
    rw [hat] at hwaits ⊢
    dsimp only at hwaits ⊢
    have hnone : c'.inserted = [] := by
      rcases hc'.inserted_cases with hinserted' | hinserted'
      · exact hinserted'
      · have hpending : c'.row env seat ∈ others.flatMap HoldCall.inserted :=
          List.mem_flatMap.mpr ⟨c', hmem, by simp [hinserted']⟩
        have hfree := List.any_eq_false.mp (Bool.or_eq_false_iff.mp hwaits).1 _ hpending
        simp [HoldCall.row, newHold] at hfree
    split
    · exact ⟨Or.inl rfl, Or.inl rfl⟩
    · exact ⟨hbefore.1, Or.inr hnone⟩
  | inserted hat hreads hcleaned hinserted =>
    cases hstate : c.point with
    | markSeat =>
      dsimp only
      rw [if_neg (by simp [hreads.seatChanged])]
      exact hbefore
    | lookupPrice => exact hbefore
    | lookupCurrency => exact hbefore
    | announce => exact hbefore
    | commit => exact ⟨Or.inl rfl, Or.inl rfl⟩
    | _ => simp [hstate, HoldPoint.hasInserted] at hat
  | failed hthrew hfree =>
    cases hstate : c.point with
    | done result => exact hbefore
    | _ => simp [hstate, HoldCall.threw] at hthrew

/-! ### The winner's COMMIT -/

/-- **What the winner commits is what `insertHoldTx` does at once** to that database. -/
theorem HoldCall.FineBefore.writes_eq_insertHoldTx (h : RaceReady env seat db requests)
    {c : HoldCall} (hc : c.FineBefore env seat db) (hrequest : c.request ∈ requests)
    (hpoint : c.point = .commit) :
    c.writes env seat db =
      (insertHoldTx env seat.text c.request.userId c.request.traceId c.request.draw db).2 := by
  cases hc with
  | inserted hat hreads hcleaned hinserted =>
    have hcleanup : update (fun x => c.cleaned.contains x.id)
        (HoldRow.release c.request.draw.now) db.holds =
          lazyCleanup seat.uuid c.request.draw.now db.holds := by
      apply update_congr
      intro x hx
      rw [Bool.eq_iff_iff, List.contains_iff_mem, isExpiredOn_iff, hcleaned, mem_expired,
        hreads.snapshot]
      constructor
      · rintro ⟨x', hx', hid, hexpired⟩
        rwa [← h.wellFormed.holdKeys.eq_of_mem hx' hx hid]
      · intro hexpired
        exact ⟨x, hx, rfl, hexpired⟩
    have hfree := h.insertable hrequest hreads.snapshot hcleaned
    rw [hcleanup] at hfree
    rw [insertHoldTx_eq_commit c.request.traceId seat.reads hfree, HoldCall.writes, hcleanup,
      hinserted, hreads.snapshot]
    rfl
  | begin hat hfree => simp [hpoint] at hat
  | cleanup hat hreads hfree => simp [hpoint] at hat
  | insert hat hreads hcleaned hinserted hmarked => simp [hpoint] at hat
  | failed hthrew hfree => simp [HoldCall.threw, hpoint] at hthrew

theorem SeatTaken.of_writes (h : RaceReady env seat db requests) {c : HoldCall}
    (hrequest : c.request ∈ requests) (hreads : c.Reads db) (hcleaned : c.cleaned = c.expired seat)
    (hinserted : c.inserted = [c.row env seat]) :
    SeatTaken seat requests (c.writes env seat db) where
  taken := by
    refine ⟨c.row env seat, ?_, rfl, rfl⟩
    rw [HoldCall.writes, hinserted]
    exact List.mem_append_right _ List.mem_cons_self
  live := by
    intro x hx hheld hon q hq
    rw [HoldCall.writes, hinserted] at hx
    rcases List.mem_append.mp hx with hx | hx
    · rcases mem_update.mp hx with ⟨x₀, -, -, rfl⟩ | ⟨hx, hnot⟩
      · simp at hheld
      · -- An active hold on the seat was expired, so the winner has cleaned it up.
        have hin : x.id ∈ c.cleaned := by
          rw [hcleaned]
          exact mem_expired.mpr ⟨x, hreads.snapshot ▸ hx, rfl, hon, hheld,
            h.expired x hx hheld hon _ hrequest⟩
        simp [hin] at hnot
    · rw [List.mem_singleton.mp hx]
      exact Nat.not_lt.mpr (h.concurrent _ hrequest q hq)

/-- A call that was in the race when the winner committed. -/
theorem HoldCall.FineBefore.notice (h : RaceReady env seat db requests) {c c' : HoldCall}
    (hc' : c'.FineBefore env seat db) (hrequest : c.request ∈ requests) (hreads : c.Reads db)
    (hcleaned : c.cleaned = c.expired seat) (hinserted : c.inserted = [c.row env seat])
    (hexcludes : c.Excludes c') : (c'.notice c).FineAfter seat := by
  have hnone : c'.inserted = [] := hexcludes.2.resolve_left (by simp [hinserted])
  have hfree : c'.Free → (c'.notice c).Free :=
    fun hfree => ⟨hfree.cleaned, hfree.inserted, hfree.marked⟩
  cases hc' with
  | begin hat hfree' => exact .begin hat (hfree hfree')
  | cleanup hat hreads' hfree' =>
    refine .cleanup hat (hfree hfree') ?_
    intro id hid
    refine List.mem_append_right _ ?_
    rw [hcleaned]
    exact h.expired_subset hreads'.snapshot hreads.snapshot hrequest hid
  | insert hat hreads' hcleaned' hinserted' hmarked' =>
    refine .insert hat (hfree ⟨?_, hinserted', hmarked'⟩)
    rcases hexcludes.1 with hempty | hempty
    · rw [hcleaned] at hempty
      rw [hcleaned', List.eq_nil_iff_forall_not_mem]
      intro id hid
      have hin := h.expired_subset hreads'.snapshot hreads.snapshot hrequest hid
      rw [hempty] at hin
      cases hin
    · exact hempty
  | inserted hat hreads' hcleaned' hinserted' =>
    rw [hnone] at hinserted'
    cases hinserted'
  | failed hthrew hfree' => exact .ended (Or.inr hthrew) (hfree hfree')

/-! ### The statements, after it -/

theorem HoldCall.FineAfter.free {c : HoldCall} (hc : c.FineAfter seat) : c.Free := by
  cases hc with
  | begin hat hfree => exact hfree
  | cleanup hat hfree hchanged => exact hfree
  | insert hat hfree => exact hfree
  | ended hended hfree => exact hfree

theorem HoldCall.FineAfter.not_won {c : HoldCall} (hc : c.FineAfter seat) : c.won = false := by
  cases hc with
  | begin hat hfree => simp [HoldCall.won, hat]
  | cleanup hat hfree hchanged => simp [HoldCall.won, hat]
  | insert hat hfree => simp [HoldCall.won, hat]
  | ended hended hfree =>
    rw [Bool.eq_false_iff]
    intro hwon
    unfold HoldCall.won at hwon
    split at hwon
    · rename_i hold hstate
      simp [HoldCall.refused, HoldCall.threw, hstate] at hended
    · cases hwon

/-- A row for a seat that has an active hold violates a unique index. -/
theorem holdViolation_of_taken {seats : List SeatRow} {holds : List HoldRow} {row : HoldRow}
    (htaken : ∃ h ∈ holds, h.status = .held ∧ h.seatId = row.seatId) :
    ∃ err, holdViolation seats holds row = some err ∧ err.code = "23505" := by
  rcases holdViolation_cases seats holds row with ⟨-, hviol⟩ | ⟨-, -, hviol⟩ | ⟨-, hfree, -⟩ |
    ⟨-, hfree, -⟩
  · exact ⟨_, hviol, rfl⟩
  · exact ⟨_, hviol, rfl⟩
  · exact absurd htaken hfree
  · exact absurd htaken hfree

/-- A statement of a call that has lost. -/
theorem HoldCall.FineAfter.next (htaken : SeatTaken seat requests db) {c : HoldCall}
    (hc : c.FineAfter seat) (hrequest : c.request ∈ requests) :
    (c.next env seat db).FineAfter seat := by
  unfold HoldCall.next
  cases hc with
  | begin hat hfree =>
    rw [hat]
    refine .cleanup rfl ⟨hfree.cleaned, hfree.inserted, hfree.marked⟩ ?_
    intro id hid
    obtain ⟨x, hx, -, hon, hheld, hlt⟩ := mem_expired.mp hid
    exact absurd hlt (htaken.live x hx hheld hon _ hrequest)
  | cleanup hat hfree hchanged =>
    rw [hat]
    dsimp only
    split
    · exact .ended (Or.inr rfl) (c.free_finish _)
    · rename_i hcalm
      have hnone : c.expired seat = [] := by
        refine List.eq_nil_iff_forall_not_mem.mpr fun id hid => hcalm ?_
        exact List.any_eq_true.mpr ⟨id, hid, List.contains_iff_mem.mpr (hchanged id hid)⟩
      exact .insert rfl ⟨hnone, hfree.inserted, hfree.marked⟩
  | insert hat hfree =>
    have hvisible : update (fun x => c.cleaned.contains x.id)
        (HoldRow.release c.request.draw.now) db.holds = db.holds :=
      update_eq_self fun x _ => by simp [hfree.cleaned]
    obtain ⟨err, hviol, hcode⟩ :=
      @holdViolation_of_taken db.seats _ (c.row env seat) htaken.taken
    rw [hat]
    dsimp only
    rw [hvisible, hviol]
    refine .ended (Or.inl ?_) (c.free_finish _)
    simp [HoldCall.finish, HoldCall.refused, onInsertError, hcode]
  | ended hended hfree =>
    cases hstate : c.point with
    | done result => exact .ended hended hfree
    | _ => simp [hstate, HoldCall.refused, HoldCall.threw] at hended

/-! ### Every run -/

theorem HoldCall.next_request (c : HoldCall) : (c.next env seat db).request = c.request := by
  unfold HoldCall.next
  cases c.point with
  | cleanup =>
    dsimp only
    split <;> rfl
  | insert =>
    dsimp only
    split <;> rfl
  | markSeat =>
    dsimp only
    split <;> rfl
  | _ => rfl

theorem HoldCall.next_done {c : HoldCall} (hdone : c.isDone = true) : c.next env seat db = c := by
  unfold HoldCall.next
  cases hstate : c.point with
  | done result => rfl
  | _ => simp [hstate, HoldCall.isDone] at hdone

theorem HoldCall.isDone_iff {c : HoldCall} :
    c.isDone = true ↔ c.won = true ∨ c.refused = true ∨ c.threw = true := by
  unfold HoldCall.isDone HoldCall.won HoldCall.refused HoldCall.threw
  cases c.point with
  | done result =>
    rcases result with e | r
    · simp
    · cases r <;> simp
  | _ => simp

theorem HoldCall.not_threw_of_answered {c : HoldCall} (h : c.won = true ∨ c.refused = true) :
    c.threw = false := by
  unfold HoldCall.won HoldCall.refused at h
  unfold HoldCall.threw
  cases hstate : c.point with
  | done result =>
    rcases result with e | r
    · simp [hstate] at h
    · rfl
  | _ => rfl

theorem HoldCall.isDone_of_isOpen {c : HoldCall} (hopen : c.isOpen = true) :
    c.isDone = false := by
  unfold HoldCall.isOpen at hopen
  unfold HoldCall.isDone
  cases hstate : c.point with
  | done result => simp [hstate] at hopen
  | _ => rfl

theorem HoldCall.isDone_of_hasInserted {c : HoldCall} (hat : c.point.hasInserted = true) :
    c.isDone = false := by
  unfold HoldCall.isDone
  cases hstate : c.point with
  | done result => simp [hstate, HoldPoint.hasInserted] at hat
  | _ => rfl

theorem BeforeCommit.next (h : RaceReady env seat db requests) {s : HoldRace}
    (hs : BeforeCommit env seat db s) (hmembers : ∀ c ∈ s.calls, c.request ∈ requests)
    {before after : List HoldCall} {c : HoldCall} (hsplit : s.calls = before ++ c :: after)
    (hwaits : c.waits env seat s.db (before ++ after) = false) (hpoint : c.point ≠ .commit) :
    BeforeCommit env seat db ⟨s.db, before ++ c.next env seat s.db :: after⟩ := by
  obtain ⟨hsame, hcalls, hexclusive⟩ := hs
  rw [hsplit] at hcalls hexclusive hmembers
  rw [pairwise_split fun _ _ => HoldCall.Excludes.symm] at hexclusive
  obtain ⟨hrequest, hrequests⟩ := forall_mem_split.mp hmembers
  obtain ⟨hc, hothers⟩ := forall_mem_split.mp hcalls
  rw [hsame] at hwaits ⊢
  refine ⟨rfl, forall_mem_replace hcalls (hc.next h hrequest hpoint), ?_⟩
  refine (pairwise_split fun _ _ => HoldCall.Excludes.symm).mpr ⟨?_, hexclusive.2⟩
  intro c' hc'
  exact hc.excludes_next h (hothers c' hc') (hrequests c' hc') hc' hwaits (hexclusive.1 c' hc')

theorem BeforeCommit.abort {s : HoldRace} (hs : BeforeCommit env seat db s)
    {before after : List HoldCall} {c : HoldCall} (hsplit : s.calls = before ++ c :: after) :
    BeforeCommit env seat db
      ⟨s.db, before ++ c.finish (.error serializationFailure) :: after⟩ := by
  obtain ⟨hsame, hcalls, hexclusive⟩ := hs
  rw [hsplit] at hcalls hexclusive
  rw [pairwise_split fun _ _ => HoldCall.Excludes.symm] at hexclusive
  refine ⟨hsame, forall_mem_replace hcalls (.failed rfl (c.free_finish _)), ?_⟩
  exact (pairwise_split fun _ _ => HoldCall.Excludes.symm).mpr
    ⟨fun c' _ => (c.free_finish _).excludes c', hexclusive.2⟩

theorem BeforeCommit.commit (h : RaceReady env seat db requests) {s : HoldRace}
    (hs : BeforeCommit env seat db s) (hmembers : ∀ c ∈ s.calls, c.request ∈ requests)
    {before after : List HoldCall} {c : HoldCall} (hsplit : s.calls = before ++ c :: after)
    (hpoint : c.point = .commit) :
    AfterCommit seat requests ⟨c.writes env seat s.db, before.map (·.notice c) ++
      c.finish (.ok (.ok (c.row env seat))) :: after.map (·.notice c)⟩ := by
  obtain ⟨hsame, hcalls, hexclusive⟩ := hs
  rw [hsplit] at hcalls hexclusive hmembers
  rw [pairwise_split fun _ _ => HoldCall.Excludes.symm] at hexclusive
  obtain ⟨hrequest, -⟩ := forall_mem_split.mp hmembers
  obtain ⟨hc, hothers⟩ := forall_mem_split.mp hcalls
  rw [hsame]
  cases hc with
  | inserted hat hreads hcleaned hinserted =>
    have hlost : ∀ x ∈ before.map (·.notice c) ++ after.map (·.notice c), x.FineAfter seat := by
      rw [← List.map_append]
      intro x hx
      obtain ⟨c', hc', rfl⟩ := List.mem_map.mp hx
      exact (hothers c' hc').notice h hrequest hreads hcleaned hinserted (hexclusive.1 c' hc')
    refine ⟨.of_writes h hrequest hreads hcleaned hinserted, ?_, forall_mem_split.mpr ⟨?_, ?_⟩⟩
    · have hnone : (before.map (·.notice c) ++ after.map (·.notice c)).countP HoldCall.won = 0 :=
        List.countP_eq_zero.mpr fun x hx => by simp [(hlost x hx).not_won]
      rw [List.perm_middle.countP_eq, List.countP_cons, hnone]
      rfl
    · exact Or.inl ⟨rfl, c.free_finish _⟩
    · exact fun x hx => Or.inr (hlost x hx)
  | begin hat hfree => simp [hpoint] at hat
  | cleanup hat hreads hfree => simp [hpoint] at hat
  | insert hat hreads hcleaned hinserted hmarked => simp [hpoint] at hat
  | failed hthrew hfree => simp [HoldCall.threw, hpoint] at hthrew

/-- A step that replaces one loser by a loser. -/
theorem AfterCommit.replace {s : HoldRace} (hs : AfterCommit seat requests s)
    {before after : List HoldCall} {c c' : HoldCall} (hsplit : s.calls = before ++ c :: after)
    (hc : c.FineAfter seat) (hc' : c'.FineAfter seat) :
    AfterCommit seat requests ⟨s.db, before ++ c' :: after⟩ := by
  obtain ⟨htaken, hwinner, hcalls⟩ := hs
  rw [hsplit] at hcalls hwinner
  rw [List.perm_middle.countP_eq, List.countP_cons, hc.not_won] at hwinner
  refine ⟨htaken, ?_, forall_mem_replace hcalls (Or.inr hc')⟩
  rw [List.perm_middle.countP_eq, List.countP_cons, hc'.not_won]
  exact hwinner

/-- A call that has not ended is a loser. -/
theorem AfterCommit.fineAfter {s : HoldRace} (hs : AfterCommit seat requests s) {c : HoldCall}
    (hmem : c ∈ s.calls) (hnot : c.isDone = false) : c.FineAfter seat := by
  rcases hs.calls c hmem with ⟨hwon, -⟩ | hc
  · rw [HoldCall.isDone_iff.mpr (Or.inl hwon)] at hnot
    cases hnot
  · exact hc

theorem AfterCommit.next {s : HoldRace} (hs : AfterCommit seat requests s)
    {before after : List HoldCall} {c : HoldCall} (hsplit : s.calls = before ++ c :: after)
    (hrequest : c.request ∈ requests) :
    AfterCommit seat requests ⟨s.db, before ++ c.next env seat s.db :: after⟩ := by
  have hmem : c ∈ s.calls := by rw [hsplit]; exact mem_split.mpr (Or.inl rfl)
  cases hdone : c.isDone with
  | true =>
    rw [HoldCall.next_done hdone, ← hsplit]
    exact hs
  | false =>
    have hc := hs.fineAfter hmem hdone
    exact hs.replace hsplit hc (hc.next hs.taken hrequest)

theorem HoldCall.FineAfter.point {c : HoldCall} (hc : c.FineAfter seat) (hopen : c.isDone = false) :
    c.point = .begin ∨ c.point = .cleanup ∨ c.point = .insert := by
  cases hc with
  | begin hat hfree => exact Or.inl hat
  | cleanup hat hfree hchanged => exact Or.inr (Or.inl hat)
  | insert hat hfree => exact Or.inr (Or.inr hat)
  | ended hended hfree =>
    rw [HoldCall.isDone_iff.mpr (Or.inr hended)] at hopen
    cases hopen

theorem raceStep_requests (s : HoldRace) (a : RaceAction) :
    (raceStep env seat s a).calls.map HoldCall.request = s.calls.map HoldCall.request := by
  have heffect := raceStep_effect env seat s a
  generalize raceStep env seat s a = s' at heffect ⊢
  cases heffect with
  | nothing => rfl
  | next before c after hsplit hwaits hpoint => simp [hsplit, HoldCall.next_request]
  | commit before c after hsplit hpoint =>
    have hnotice : HoldCall.request ∘ (HoldCall.notice · c) = HoldCall.request := rfl
    simp [hsplit, hnotice, HoldCall.finish]
  | abort before c after hsplit hopen => simp [hsplit, HoldCall.finish]

theorem RaceInv.phase_step (h : RaceReady env seat db requests) {s : HoldRace}
    (hs : RaceInv env seat db requests s) (a : RaceAction) :
    BeforeCommit env seat db (raceStep env seat s a) ∨
      AfterCommit seat requests (raceStep env seat s a) := by
  have heffect := raceStep_effect env seat s a
  generalize raceStep env seat s a = s' at heffect ⊢
  cases heffect with
  | nothing => exact hs.phase
  | next before c after hsplit hwaits hpoint =>
    have hmem : c ∈ s.calls := by rw [hsplit]; exact mem_split.mpr (Or.inl rfl)
    rcases hs.phase with hbefore | hafter
    · exact Or.inl (hbefore.next h hs.members hsplit hwaits hpoint)
    · exact Or.inr (hafter.next hsplit (hs.members c hmem))
  | commit before c after hsplit hpoint =>
    have hmem : c ∈ s.calls := by rw [hsplit]; exact mem_split.mpr (Or.inl rfl)
    rcases hs.phase with hbefore | hafter
    · exact Or.inr (hbefore.commit h hs.members hsplit hpoint)
    · have hopen : c.isDone = false := by simp [HoldCall.isDone, hpoint]
      simpa [hpoint] using (hafter.fineAfter hmem hopen).point hopen
  | abort before c after hsplit hopen =>
    have hmem : c ∈ s.calls := by rw [hsplit]; exact mem_split.mpr (Or.inl rfl)
    rcases hs.phase with hbefore | hafter
    · exact Or.inl (hbefore.abort hsplit)
    · exact Or.inr (hafter.replace hsplit
        (hafter.fineAfter hmem (HoldCall.isDone_of_isOpen hopen))
        (.ended (Or.inr rfl) (c.free_finish _)))

theorem RaceInv.step (h : RaceReady env seat db requests) {s : HoldRace}
    (hs : RaceInv env seat db requests s) (a : RaceAction) :
    RaceInv env seat db requests (raceStep env seat s a) := by
  refine ⟨?_, hs.phase_step h a⟩
  intro c hc
  have hmem : c.request ∈ s.calls.map HoldCall.request := by
    rw [← @raceStep_requests env seat s a]
    exact List.mem_map_of_mem hc
  obtain ⟨c', hc', heq⟩ := List.mem_map.mp hmem
  rw [← heq]
  exact hs.members c' hc'

theorem RaceReady.raceInv_exec (h : RaceReady env seat db requests) (as : List RaceAction) :
    RaceInv env seat db requests (exec (raceStep env seat) (HoldRace.start db requests) as) :=
  exec_invariant' (RaceInv env seat db requests) (fun _ a hs => hs.step h a) raceInv_start as

/-! ### Calls that throw -/

/-- A call that has ended stays as it has ended. -/
theorem threw_step {s : HoldRace} (hthrew : ∃ c ∈ s.calls, c.threw = true) (a : RaceAction) :
    ∃ c ∈ (raceStep env seat s a).calls, c.threw = true := by
  obtain ⟨x, hx, hthrew⟩ := hthrew
  have hdone : x.isDone = true := HoldCall.isDone_iff.mpr (Or.inr (Or.inr hthrew))
  have heffect := raceStep_effect env seat s a
  generalize raceStep env seat s a = s' at heffect ⊢
  cases heffect with
  | nothing => exact ⟨x, hx, hthrew⟩
  | next before c after hsplit hwaits hpoint =>
    rw [hsplit] at hx
    rcases mem_split.mp hx with rfl | hx
    · exact ⟨_, mem_split.mpr (Or.inl rfl), by rw [HoldCall.next_done hdone]; exact hthrew⟩
    · exact ⟨x, mem_split.mpr (Or.inr hx), hthrew⟩
  | commit before c after hsplit hpoint =>
    rw [hsplit] at hx
    rcases mem_split.mp hx with rfl | hx
    · simp [HoldCall.threw, hpoint] at hthrew
    · refine ⟨x.notice c, mem_split.mpr (Or.inr ?_), hthrew⟩
      rw [← List.map_append]
      exact List.mem_map_of_mem hx
  | abort before c after hsplit hopen =>
    rw [hsplit] at hx
    rcases mem_split.mp hx with rfl | hx
    · rw [HoldCall.isDone_of_isOpen hopen] at hdone
      cases hdone
    · exact ⟨x, mem_split.mpr (Or.inr hx), hthrew⟩

theorem threw_exec {s : HoldRace} (hthrew : ∃ c ∈ s.calls, c.threw = true) (as : List RaceAction) :
    ∃ c ∈ (exec (raceStep env seat) s as).calls, c.threw = true :=
  exec_invariant' (fun s : HoldRace => ∃ c ∈ s.calls, c.threw = true)
    (fun _ a h => threw_step h a) hthrew as

/-- A step that fails leaves a call that has thrown. -/
theorem threw_of_failure {s : HoldRace} {a : RaceAction} (h : ¬ AvoidsFailure env seat s a) :
    ∃ c ∈ (raceStep env seat s a).calls, c.threw = true := by
  cases a with
  | run i =>
    unfold AvoidsFailure at h
    push Not at h
    obtain ⟨c, hget, hpoint, hwaits, hcollides⟩ := h
    have hnext : (c.next env seat s.db).threw = true := by
      unfold HoldCall.next
      rw [hpoint]
      dsimp only
      rw [if_pos (by simpa using hcollides)]
      rfl
    rw [Option.mem_def] at hget
    obtain ⟨before, after, hsplit, rfl⟩ := exists_split_of_getElem? hget
    refine ⟨_, ?_, hnext⟩
    simp only [raceStep, hget, hwaits, hpoint]
    rw [hsplit]
    simp
  | abort i =>
    unfold AvoidsFailure at h
    push Not at h
    obtain ⟨c, hget, hopen⟩ := h
    rw [Option.mem_def] at hget
    rw [ne_eq, Bool.not_eq_false] at hopen
    obtain ⟨before, after, hsplit, rfl⟩ := exists_split_of_getElem? hget
    refine ⟨c.finish (.error serializationFailure), ?_, rfl⟩
    simp only [raceStep, hget, hopen]
    rw [hsplit]
    simp

/-- The holds an INSERT is checked against. -/
def HoldCall.visible (db : SeatDb) (c : HoldCall) : List HoldRow :=
  update (fun h => c.cleaned.contains h.id) (HoldRow.release c.request.draw.now) db.holds

/-- What makes a statement throw. -/
theorem HoldCall.threw_next {c : HoldCall} (h : (c.next env seat db).threw = true) :
    c.threw = true ∨
    (c.point = .cleanup ∧ (c.expired seat).any c.changed.contains = true) ∨
    (c.point = .insert ∧ ∃ err, holdViolation db.seats (c.visible db) (c.row env seat) = some err ∧
      err.code ≠ "23505") ∨
    (c.point = .markSeat ∧ c.seatChanged = true) := by
  unfold HoldCall.next at h
  cases hstate : c.point with
  | cleanup =>
    rw [hstate] at h
    dsimp only at h
    split at h
    · rename_i hcollides
      exact Or.inr (Or.inl ⟨rfl, hcollides⟩)
    · simp [HoldCall.threw] at h
  | insert =>
    rw [hstate] at h
    dsimp only at h
    split at h
    · rename_i err hviol
      refine Or.inr (Or.inr (Or.inl ⟨rfl, err, hviol, ?_⟩))
      intro hcode
      simp [HoldCall.finish, HoldCall.threw, onInsertError, hcode] at h
    · simp [HoldCall.threw] at h
  | markSeat =>
    rw [hstate] at h
    dsimp only at h
    split at h
    · rename_i hchanged
      exact Or.inr (Or.inr (Or.inr ⟨rfl, hchanged⟩))
    · simp [HoldCall.threw] at h
  | done result =>
    rw [hstate] at h
    exact Or.inl h
  | _ =>
    rw [hstate] at h
    simp [HoldCall.threw, HoldCall.finish] at h

/-- An INSERT before the winner's COMMIT violates nothing. -/
theorem HoldCall.FineBefore.insertable (h : RaceReady env seat db requests) {c : HoldCall}
    (hc : c.FineBefore env seat db) (hrequest : c.request ∈ requests) (hpoint : c.point = .insert) :
    holdViolation db.seats (c.visible db) (c.row env seat) = none := by
  cases hc with
  | insert hat hreads hcleaned hinserted hmarked =>
    exact h.insertable hrequest hreads.snapshot hcleaned
  | begin hat hfree => simp [hpoint] at hat
  | cleanup hat hreads hfree => simp [hpoint] at hat
  | inserted hat hreads hcleaned hinserted => simp [hpoint, HoldPoint.hasInserted] at hat
  | failed hthrew hfree => simp [HoldCall.threw, hpoint] at hthrew

theorem HoldCall.FineBefore.seatChanged {c : HoldCall} (hc : c.FineBefore env seat db)
    (hpoint : c.point = .markSeat) : c.seatChanged = false := by
  cases hc with
  | inserted hat hreads hcleaned hinserted => exact hreads.seatChanged
  | begin hat hfree => simp [hpoint] at hat
  | cleanup hat hreads hfree => simp [hpoint] at hat
  | insert hat hreads hcleaned hinserted hmarked => simp [hpoint] at hat
  | failed hthrew hfree => simp [HoldCall.threw, hpoint] at hthrew

theorem AfterCommit.free {s : HoldRace} (hs : AfterCommit seat requests s) {c : HoldCall}
    (hmem : c ∈ s.calls) : c.Free := by
  rcases hs.calls c hmem with ⟨-, hfree⟩ | hfine
  · exact hfree
  · exact hfine.free

/-- A step that does not fail ends no call by an error. -/
theorem RaceInv.none_threw_next (h : RaceReady env seat db requests) {s : HoldRace}
    (hs : RaceInv env seat db requests s) {c : HoldCall} (hc : c ∈ s.calls)
    (hcalm : c.threw = false)
    (hok : c.point = .cleanup → (c.expired seat).any c.changed.contains = false) :
    (c.next env seat s.db).threw = false := by
  rw [Bool.eq_false_iff]
  intro hthrew
  rcases HoldCall.threw_next hthrew with hthrew | ⟨hpoint, hcollides⟩ |
    ⟨hpoint, err, hviol, hcode⟩ | ⟨hpoint, hchanged⟩
  · rw [hcalm] at hthrew
    cases hthrew
  · rw [hok hpoint] at hcollides
    cases hcollides
  · rcases hs.phase with hbefore | hafter
    · have hnone := (hbefore.calls c hc).insertable h (hs.members c hc) hpoint
      rw [hbefore.same, hnone] at hviol
      cases hviol
    · have hvisible : c.visible s.db = s.db.holds :=
        update_eq_self fun x _ => by simp [(hafter.free hc).cleaned]
      obtain ⟨err', hviol', hcode'⟩ :=
        @holdViolation_of_taken s.db.seats _ (c.row env seat) hafter.taken.taken
      rw [hvisible, hviol', Option.some.injEq] at hviol
      exact hcode (hviol ▸ hcode')
  · rcases hs.phase with hbefore | hafter
    · rw [(hbefore.calls c hc).seatChanged hpoint] at hchanged
      cases hchanged
    · have hopen : c.isDone = false := by simp [HoldCall.isDone, hpoint]
      simpa [hpoint] using (hafter.fineAfter hc hopen).point hopen

theorem RaceInv.none_threw_step (h : RaceReady env seat db requests) {s : HoldRace}
    (hs : RaceInv env seat db requests s) (hnone : ∀ c ∈ s.calls, c.threw = false) {a : RaceAction}
    (hok : AvoidsFailure env seat s a) : ∀ c ∈ (raceStep env seat s a).calls, c.threw = false := by
  have heffect := raceStep_effect env seat s a
  generalize raceStep env seat s a = s' at heffect ⊢
  cases heffect with
  | nothing => exact hnone
  | next before c after hsplit hwaits hpoint =>
    have hget : s.calls[before.length]? = some c := by simp [hsplit]
    have hc : c ∈ s.calls := List.mem_of_getElem? hget
    intro x hx
    rcases mem_split.mp hx with rfl | hx
    · apply hs.none_threw_next h hc (hnone c hc)
      intro hcleanup
      apply hok c hget hcleanup
      rw [hsplit, eraseIdx_split]
      exact hwaits
    · exact hnone x (by rw [hsplit]; exact mem_split.mpr (Or.inr hx))
  | commit before c after hsplit hpoint =>
    intro x hx
    rcases mem_split.mp hx with rfl | hx
    · rfl
    · rw [← List.map_append] at hx
      obtain ⟨c', hc', rfl⟩ := List.mem_map.mp hx
      exact hnone c' (by rw [hsplit]; exact mem_split.mpr (Or.inr hc'))
  | abort before c after hsplit hopen =>
    have hget : s.calls[before.length]? = some c := by simp [hsplit]
    rw [hok c hget] at hopen
    cases hopen

/-! ### No call waits for ever -/

/-- Every call has returned or thrown. -/
def HoldRace.Over (s : HoldRace) : Prop := ∀ c ∈ s.calls, c.isDone = true

/-- Some call can execute its next statement. -/
def HoldRace.CanGoOn (env : SeatEnv) (seat : UuidText) (s : HoldRace) : Prop :=
  ∃ (i : Nat) (c : HoldCall), s.calls[i]? = some c ∧ c.isDone = false ∧
    c.waits env seat s.db (s.calls.eraseIdx i) = false

/-- A call never waits for calls that hold nothing. -/
theorem HoldCall.waits_free {c : HoldCall} {others : List HoldCall}
    (hfree : ∀ c' ∈ others, c'.Free) : c.waits env seat db others = false := by
  have hlocked : others.flatMap HoldCall.cleaned = [] :=
    List.flatMap_eq_nil_iff.mpr fun c' hc' => (hfree c' hc').cleaned
  have hinserted : others.flatMap HoldCall.inserted = [] :=
    List.flatMap_eq_nil_iff.mpr fun c' hc' => (hfree c' hc').inserted
  have hmarked : others.any HoldCall.marked = false :=
    List.any_eq_false.mpr fun c' hc' => by simp [(hfree c' hc').marked]
  unfold HoldCall.waits
  cases c.point <;> simp [hlocked, hinserted, hmarked]

theorem HoldCall.waits_inserted {c : HoldCall} {others : List HoldCall}
    (hat : c.point.hasInserted = true) (hnone : others.any HoldCall.marked = false) :
    c.waits env seat db others = false := by
  unfold HoldCall.waits
  cases hstate : c.point with
  | markSeat => exact hnone
  | cleanup | insert => simp [hstate, HoldPoint.hasInserted] at hat
  | _ => rfl

theorem HoldCall.FineBefore.marked {c : HoldCall} (hc : c.FineBefore env seat db)
    (hnone : c.inserted = []) : c.marked = false := by
  cases hc with
  | begin hat hfree => exact hfree.marked
  | cleanup hat hreads hfree => exact hfree.marked
  | insert hat hreads hcleaned hinserted hmarked => exact hmarked
  | inserted hat hreads hcleaned hinserted => simp [hnone] at hinserted
  | failed hthrew hfree => exact hfree.marked

theorem HoldRace.canGoOn_of_split {s : HoldRace} {before after : List HoldCall} {c : HoldCall}
    (hsplit : s.calls = before ++ c :: after) (hopen : c.isDone = false)
    (hwaits : c.waits env seat s.db (before ++ after) = false) : s.CanGoOn env seat := by
  refine ⟨before.length, c, by simp [hsplit], hopen, ?_⟩
  rw [hsplit, eraseIdx_split]
  exact hwaits

theorem HoldCall.FineBefore.hasInserted {c : HoldCall} (hc : c.FineBefore env seat db)
    (hsome : c.inserted ≠ []) : c.point.hasInserted = true := by
  cases hc with
  | inserted hat hreads hcleaned hinserted => exact hat
  | begin hat hfree => exact absurd hfree.inserted hsome
  | cleanup hat hreads hfree => exact absurd hfree.inserted hsome
  | insert hat hreads hcleaned hinserted hmarked => exact absurd hinserted hsome
  | failed hthrew hfree => exact absurd hfree.inserted hsome

theorem HoldCall.FineBefore.at_insert {c : HoldCall} (hc : c.FineBefore env seat db)
    (hsome : c.cleaned ≠ []) (hnone : c.inserted = []) : c.point = .insert := by
  cases hc with
  | insert hat hreads hcleaned hinserted hmarked => exact hat
  | inserted hat hreads hcleaned hinserted => simp [hnone] at hinserted
  | begin hat hfree => exact absurd hfree.cleaned hsome
  | cleanup hat hreads hfree => exact absurd hfree.cleaned hsome
  | failed hthrew hfree => exact absurd hfree.cleaned hsome

theorem BeforeCommit.excludes {s : HoldRace} (hs : BeforeCommit env seat db s)
    {before after : List HoldCall} {c : HoldCall} (hsplit : s.calls = before ++ c :: after) :
    ∀ c' ∈ before ++ after, c.Excludes c' := by
  have hexclusive := hs.exclusive
  rw [hsplit, pairwise_split fun _ _ => HoldCall.Excludes.symm] at hexclusive
  exact hexclusive.1

/-- The call that has inserted waits for none. -/
theorem BeforeCommit.canGoOn_of_inserted {s : HoldRace} (hs : BeforeCommit env seat db s)
    {c : HoldCall} (hc : c ∈ s.calls) (hsome : c.inserted ≠ []) : s.CanGoOn env seat := by
  obtain ⟨before, after, hsplit⟩ := List.append_of_mem hc
  have hnone : (before ++ after).any HoldCall.marked = false := by
    refine List.any_eq_false.mpr fun c' hc' => ?_
    have hempty := (hs.excludes hsplit c' hc').2.resolve_left hsome
    have hfine := hs.calls c' (by rw [hsplit]; exact mem_split.mpr (Or.inr hc'))
    simp [hfine.marked hempty]
  have hat := (hs.calls c hc).hasInserted hsome
  exact HoldRace.canGoOn_of_split hsplit (HoldCall.isDone_of_hasInserted hat)
    (HoldCall.waits_inserted hat hnone)

/-- Nor does the one that holds the locks, when none has inserted, or any when none holds locks. -/
theorem BeforeCommit.canGoOn_of_none_inserted {s : HoldRace} (hs : BeforeCommit env seat db s)
    (hnone : ∀ c ∈ s.calls, c.inserted = []) (hopen : ∃ c ∈ s.calls, c.isDone = false) :
    s.CanGoOn env seat := by
  obtain ⟨c, hc, hundone, hothers⟩ : ∃ c ∈ s.calls, c.isDone = false ∧
      (c.cleaned ≠ [] ∨ ∀ c' ∈ s.calls, c'.cleaned = []) := by
    by_cases hcleaned : ∃ c ∈ s.calls, c.cleaned ≠ []
    · obtain ⟨c, hc, hsome⟩ := hcleaned
      have hat := (hs.calls c hc).at_insert hsome (hnone c hc)
      exact ⟨c, hc, by simp [HoldCall.isDone, hat], Or.inl hsome⟩
    · push Not at hcleaned
      obtain ⟨c, hc, hundone⟩ := hopen
      exact ⟨c, hc, hundone, Or.inr hcleaned⟩
  obtain ⟨before, after, hsplit⟩ := List.append_of_mem hc
  apply HoldRace.canGoOn_of_split hsplit hundone
  apply HoldCall.waits_free
  intro c' hc'
  have hmem : c' ∈ s.calls := by rw [hsplit]; exact mem_split.mpr (Or.inr hc')
  refine ⟨?_, hnone c' hmem, (hs.calls c' hmem).marked (hnone c' hmem)⟩
  rcases hothers with hsome | hall
  · exact (hs.excludes hsplit c' hc').1.resolve_left hsome
  · exact hall c' hmem

/-- Waiting is never circular: a call waits for one that holds locks before its INSERT, and
    that one for none, or for one that has inserted, and that one for none. -/
theorem BeforeCommit.canGoOn {s : HoldRace} (hs : BeforeCommit env seat db s)
    (hopen : ∃ c ∈ s.calls, c.isDone = false) : s.CanGoOn env seat := by
  by_cases hinserted : ∃ c ∈ s.calls, c.inserted ≠ []
  · obtain ⟨c, hc, hsome⟩ := hinserted
    exact hs.canGoOn_of_inserted hc hsome
  · push Not at hinserted
    exact hs.canGoOn_of_none_inserted hinserted hopen

theorem AfterCommit.canGoOn {s : HoldRace} (hs : AfterCommit seat requests s)
    (hopen : ∃ c ∈ s.calls, c.isDone = false) : s.CanGoOn env seat := by
  obtain ⟨c, hc, hundone⟩ := hopen
  obtain ⟨before, after, hsplit⟩ := List.append_of_mem hc
  apply HoldRace.canGoOn_of_split hsplit hundone
  apply HoldCall.waits_free
  intro c' hc'
  exact hs.free (by rw [hsplit]; exact mem_split.mpr (Or.inr hc'))

/-! ### The result -/

theorem HoldRace.OneWinner.none_threw {s : HoldRace} (h : s.OneWinner) :
    ∀ c ∈ s.calls, c.threw = false :=
  fun c hc => HoldCall.not_threw_of_answered (h.others c hc)

theorem HoldCall.FineBefore.threw_of_done {c : HoldCall} (hc : c.FineBefore env seat db)
    (hdone : c.isDone = true) : c.threw = true := by
  cases hc with
  | failed hthrew hfree => exact hthrew
  | begin hat hfree => simp [HoldCall.isDone, hat] at hdone
  | cleanup hat hreads hfree => simp [HoldCall.isDone, hat] at hdone
  | insert hat hreads hcleaned hinserted hmarked => simp [HoldCall.isDone, hat] at hdone
  | inserted hat hreads hcleaned hinserted =>
    rw [HoldCall.isDone_of_hasInserted hat] at hdone
    cases hdone

/-- When all calls have ended and none has thrown, one has won. -/
theorem RaceInv.oneWinner {s : HoldRace} (hs : RaceInv env seat db requests s)
    (hsome : s.calls ≠ []) (hover : s.Over) (hnone : ∀ c ∈ s.calls, c.threw = false) :
    s.OneWinner := by
  rcases hs.phase with hbefore | hafter
  · obtain ⟨c, hc⟩ := List.exists_mem_of_ne_nil _ hsome
    have hthrew := (hbefore.calls c hc).threw_of_done (hover c hc)
    rw [hnone c hc] at hthrew
    cases hthrew
  · refine ⟨hafter.winner, fun c hc => ?_⟩
    rcases HoldCall.isDone_iff.mp (hover c hc) with hwon | hrefused | hthrew
    · exact Or.inl hwon
    · exact Or.inr hrefused
    · rw [hnone c hc] at hthrew
      cases hthrew

theorem raceStep_length (s : HoldRace) (a : RaceAction) :
    (raceStep env seat s a).calls.length = s.calls.length := by
  simpa using congrArg List.length (@raceStep_requests env seat s a)

/-- A run in which no call throws has avoided every failure. -/
theorem along_of_none_threw {s : HoldRace} {as : List RaceAction}
    (hnone : ∀ c ∈ (exec (raceStep env seat) s as).calls, c.threw = false) :
    Along (raceStep env seat) (AvoidsFailure env seat) s as := by
  induction as generalizing s with
  | nil => exact trivial
  | cons a as ih =>
    refine ⟨?_, ih hnone⟩
    by_contra hfails
    obtain ⟨c, hc, hthrew⟩ := threw_exec (threw_of_failure hfails) as
    rw [exec_cons] at hnone
    rw [hnone c hc] at hthrew
    cases hthrew

/-- **A lost race is a conflict iff no call fails with 40001.**  In every run of concurrent
    calls for a seat that is free or carries an expired hold: as long as calls are open, some
    call can go on; and when all have ended, exactly one has the hold and every other a
    conflict iff no call was aborted by the database and no cleanup met an expired hold that
    another call had released and committed since its snapshot. -/
theorem lost_race_conflicts_iff (h : RaceReady env seat db requests) (as : List RaceAction) :
    let s := exec (raceStep env seat) (HoldRace.start db requests) as
    (¬ s.Over → s.CanGoOn env seat) ∧
    (s.Over → (s.OneWinner ↔
      Along (raceStep env seat) (AvoidsFailure env seat) (HoldRace.start db requests) as)) := by
  intro s
  have hs : RaceInv env seat db requests s := h.raceInv_exec as
  refine ⟨?_, ?_⟩
  · intro hopen
    unfold HoldRace.Over at hopen
    push Not at hopen
    simp only [ne_eq, Bool.not_eq_true] at hopen
    rcases hs.phase with hbefore | hafter
    · exact hbefore.canGoOn hopen
    · exact hafter.canGoOn hopen
  · intro hover
    constructor
    · intro hone
      exact along_of_none_threw hone.none_threw
    · intro hok
      have hinv := exec_invariant
        (fun s : HoldRace => RaceInv env seat db requests s ∧ ∀ c ∈ s.calls, c.threw = false)
        (fun s a hs hok => ⟨hs.1.step h a, hs.1.none_threw_step h hs.2 hok⟩)
        ⟨raceInv_start, by simp [HoldRace.start, HoldCall.begun, HoldCall.threw]⟩ hok
      apply hs.oneWinner _ hover hinv.2
      have hlength : s.calls.length = requests.length := by
        have hkept := exec_invariant' (fun s : HoldRace => s.calls.length = requests.length)
          (fun s a hs => (@raceStep_length env seat s a).trans hs)
          (s := HoldRace.start db requests) (by simp [HoldRace.start]) as
        exact hkept
      intro hempty
      rw [hempty, List.length_nil] at hlength
      exact h.nonempty (List.length_eq_zero_iff.mp hlength.symm)

end

instance (s : HoldRace) : Decidable s.Over :=
  inferInstanceAs (Decidable (∀ c ∈ s.calls, c.isDone = true))

instance (env : SeatEnv) (seat : UuidText) (s : HoldRace) : DecidablePred (AvoidsFailure env seat s)
  | .run i => inferInstanceAs (Decidable (∀ c ∈ s.calls[i]?, c.point = .cleanup →
      c.waits env seat s.db (s.calls.eraseIdx i) = false →
      (c.expired seat).any c.changed.contains = false))
  | .abort i => inferInstanceAs (Decidable (∀ c ∈ s.calls[i]?, c.isOpen = false))

def racedSeat : UuidText := ⟨"00000000-0000-0000-0000-000000000001", 1, by decide⟩

/-- Users 102 and 103 call at the same time. -/
def twoRequests : List HoldRequest :=
  [⟨102, "t2", ⟨502, 902, 200000, 200000, 200000⟩⟩, ⟨103, "t3", ⟨503, 903, 200001, 200001, 200001⟩⟩]

/-- Both take their snapshots, then the first call runs to its end and the second follows. -/
def overlapping : List RaceAction :=
  [.run 0, .run 1] ++ List.replicate 7 (.run 0) ++ List.replicate 3 (.run 1)

theorem raceReady_free : RaceReady defaultSeatEnv racedSeat seedDb twoRequests :=
  ⟨seedDb_seeded.wellFormed, by decide, by decide, by decide, by decide, by decide, by simp [twoRequests]⟩

/-- On a free seat the first call wins and the second gets a conflict. -/
theorem overlapping_oneWinner :
    (exec (raceStep defaultSeatEnv racedSeat) (HoldRace.start seedDb twoRequests)
      overlapping).OneWinner :=
  ((lost_race_conflicts_iff raceReady_free overlapping).2 (by decide +kernel)).mpr
    (by decide +kernel)

/-- User 101 has held A1 until 120000. -/
def expiredHoldDb : SeatDb :=
  exec (seatStep defaultSeatEnv) seedDb [.insertHoldTx racedSeat.text 101 "t1" ⟨501, 901, 0, 0, 0⟩]

/-- On a seat with an expired hold the second call throws. -/
theorem overlapping_throws :
    RaceReady defaultSeatEnv racedSeat expiredHoldDb twoRequests ∧
    (exec (raceStep defaultSeatEnv racedSeat) (HoldRace.start expiredHoldDb twoRequests)
      overlapping).Over ∧
    ¬ (exec (raceStep defaultSeatEnv racedSeat) (HoldRace.start expiredHoldDb twoRequests)
      overlapping).OneWinner := by
  refine ⟨⟨?_, by decide +kernel, by decide +kernel, by decide +kernel, by decide +kernel,
    by decide, by simp [twoRequests]⟩, by decide +kernel, ?_⟩
  · exact seedDb_seeded.wellFormed_exec defaultSeatEnv _
  · intro hone
    have hthrew : ∃ c ∈ (exec (raceStep defaultSeatEnv racedSeat)
        (HoldRace.start expiredHoldDb twoRequests) overlapping).calls, c.threw = true := by
      decide +kernel
    obtain ⟨c, hc, hthrew⟩ := hthrew
    rw [hone.none_threw c hc] at hthrew
    cases hthrew

end SeatReservation
