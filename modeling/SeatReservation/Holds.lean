import SeatReservation.Outbox

/-!
# Seats and holds: the repository and the sweeper

The database of the seat service and the four transactions that write it.
A transaction is one step on `SeatDb`; the branches that roll back return the
database they were given, and a constraint that fails is an `SqlError` with the
code and the constraint name the driver reports.  What a call draws from its
environment (random UUIDs, the clock of the process, the transaction's `NOW()`)
is an argument of the call.
-/

namespace SeatReservation

open Relational

inductive SeatStatus where
  | available
  | held
  | reserved
deriving DecidableEq, Repr

inductive HoldStatus where
  | held
  | released
  | reserved
deriving DecidableEq, Repr

structure SeatRow where
  id : Uuid
  label : String
  priceCents : Nat
  currency : String
  status : SeatStatus
deriving DecidableEq, Repr

structure HoldRow where
  id : Uuid
  seatId : Uuid
  userId : Uuid
  status : HoldStatus
  heldUntil : Nat
  releasedAt : Option Nat
  reservedAt : Option Nat
deriving DecidableEq, Repr

structure SeatDb where
  seats : List SeatRow
  holds : List HoldRow
  outbox : Outbox
  consumedEvents : List (Uuid × String)
deriving DecidableEq, Repr

structure SeatEnv where
  holdTtlSeconds : Nat
  sweepBatchLimit : Nat

/-! ### Constraints of the table `holds` -/

structure SqlError where
  code : String
  constraint : String
deriving DecidableEq, Repr

def uniqueViolation (constraint : String) : SqlError := ⟨"23505", constraint⟩
def foreignKeyViolation (constraint : String) : SqlError := ⟨"23503", constraint⟩
def invalidTextRepresentation : SqlError := ⟨"22P02", ""⟩

/-- The constraint an `INSERT INTO holds` of a HELD row fails on: the unique
    indexes in the order they were created, then the foreign key. -/
def holdViolation (seats : List SeatRow) (holds : List HoldRow) (row : HoldRow) : Option SqlError :=
  if holds.any fun h => h.id == row.id then some (uniqueViolation "holds_pkey")
  else if holds.any fun h => h.status == .held && h.seatId == row.seatId then
    some (uniqueViolation "uniq_active_hold_per_seat")
  else if holds.any fun h => h.status == .held && h.userId == row.userId then
    some (uniqueViolation "uniq_active_hold_per_user")
  else if seats.any fun s => s.id == row.seatId then none
  else some (foreignKeyViolation "holds_seat_id_fkey")

/-! ### Statements shared by the transactions -/

def HoldRow.release (now : Nat) (h : HoldRow) : HoldRow :=
  { h with status := .released, releasedAt := some now }

def HoldRow.reserve (now : Nat) (h : HoldRow) : HoldRow :=
  { h with status := .reserved, reservedAt := some now }

/-- `UPDATE seats SET status = .. WHERE id = ..`. -/
def markSeat (id : Uuid) (status : SeatStatus) (seats : List SeatRow) : List SeatRow :=
  update (fun s => s.id == id) (fun s => { s with status := status }) seats

/-- `EXISTS (SELECT 1 FROM holds WHERE seat_id = .. AND status = 'HELD')`. -/
def hasActiveHold (holds : List HoldRow) (seatId : Uuid) : Bool :=
  holds.any fun h => h.seatId == seatId && h.status == .held

/-- Make a seat AVAILABLE again unless it has an active hold. -/
def freeSeat (id : Uuid) (holds : List HoldRow) (seats : List SeatRow) : List SeatRow :=
  update (fun s => s.id == id && !hasActiveHold holds id)
    (fun s => { s with status := .available }) seats

/-- `WHERE id = .. AND status = 'HELD'`. -/
def isActiveHold (holdId : Uuid) (h : HoldRow) : Bool := h.id == holdId && h.status == .held

/-! ### HoldsRepository -/

inductive HoldConflict where
  | seatHeld
  | userHasHold
deriving DecidableEq, Repr

inductive InsertHoldResult where
  | ok (hold : HoldRow)
  | conflict (reason : HoldConflict)
deriving DecidableEq, Repr

/-- What a call of `insertHoldTx` draws: two UUIDs, `Date.now()`, the
    transaction's `NOW()` and the date the event is stamped with. -/
structure HoldDraw where
  holdId : Uuid
  eventId : Uuid
  dateNow : Nat
  now : Nat
  occurredAt : Nat
deriving DecidableEq, Repr

/-- `WHERE seat_id = .. AND status = 'HELD' AND held_until < NOW()`. -/
def isExpiredOn (seat : Uuid) (now : Nat) (h : HoldRow) : Bool :=
  h.seatId == seat && h.status == .held && decide (h.heldUntil < now)

/-- The cleanup of expired holds on the seat, at the start of `insertHoldTx`. -/
def lazyCleanup (seat : Uuid) (now : Nat) (holds : List HoldRow) : List HoldRow :=
  update (isExpiredOn seat now) (HoldRow.release now) holds

/-- The row `insertHoldTx` inserts. -/
def newHold (env : SeatEnv) (seat userId : Uuid) (d : HoldDraw) : HoldRow :=
  ⟨d.holdId, seat, userId, .held, d.dateNow + env.holdTtlSeconds * 1000, none, none⟩

/-- The event of a new hold: the seat is named by the text of the request, the
    price by the row of the seat. -/
def seatHeldEvent (seats : List SeatRow) (seatId traceId : String) (hold : HoldRow)
    (d : HoldDraw) : Event :=
  let price := seats.find? fun s => s.id == hold.seatId
  .seatHeld ⟨d.eventId, seatId, hold.userId, hold.id, hold.heldUntil,
    (price.map (·.priceCents)).getD 0, (price.map (·.currency)).getD "USD", traceId, d.occurredAt⟩

def insertHoldTx (env : SeatEnv) (seatId : String) (userId : Uuid) (traceId : String)
    (d : HoldDraw) (db : SeatDb) : Except SqlError InsertHoldResult × SeatDb :=
  match Uuid.ofText seatId with
  | none => (.error invalidTextRepresentation, db)
  | some seat =>
      let cleaned := lazyCleanup seat d.now db.holds
      let hold := newHold env seat userId d
      match holdViolation db.seats cleaned hold with
      | some err =>
          if err.code = "23505" then
            let reason :=
              if err.constraint = "uniq_active_hold_per_user" then .userHasHold else .seatHeld
            (.ok (.conflict reason), db)
          else (.error err, db)
      | none =>
          (.ok (.ok hold),
            { db with
              seats := markSeat seat .held db.seats
              holds := cleaned ++ [hold]
              outbox := db.outbox.insert hold.id "seat.held.v1"
                (seatHeldEvent db.seats seatId traceId hold d)
                [("traceId", traceId), ("userId", userId.toString)] d.now })

/-- What `releaseHold` and `reserveHold` draw. -/
structure Draw where
  eventId : Uuid
  now : Nat
  occurredAt : Nat
deriving DecidableEq, Repr

structure ReleaseResult where
  released : Bool
  seatId : Option Uuid
deriving DecidableEq, Repr

def releaseHold (holdId : Uuid) (reason traceId : String) (d : Draw) (db : SeatDb) :
    ReleaseResult × SeatDb :=
  match returning (isActiveHold holdId) (HoldRow.release d.now) db.holds with
  | [] => (⟨false, none⟩, db)
  | row :: _ =>
      let holds := update (isActiveHold holdId) (HoldRow.release d.now) db.holds
      (⟨true, some row.seatId⟩,
        { db with
          seats := freeSeat row.seatId holds db.seats
          holds := holds
          outbox := db.outbox.insert holdId "seat.released.v1"
            (.seatReleased ⟨d.eventId, row.seatId, reason, traceId, d.occurredAt⟩)
            [("traceId", traceId)] d.now })

structure ReserveResult where
  reserved : Bool
  seatId : Option Uuid
  userId : Option Uuid
deriving DecidableEq, Repr

def reserveHold (holdId eventId : Uuid) (consumerGroup traceId : String) (d : Draw) (db : SeatDb) :
    ReserveResult × SeatDb :=
  if db.consumedEvents.contains (eventId, consumerGroup) then (⟨false, none, none⟩, db)
  else
    match returning (isActiveHold holdId) (HoldRow.reserve d.now) db.holds with
    | [] => (⟨false, none, none⟩, db)
    | row :: _ =>
        (⟨true, some row.seatId, some row.userId⟩,
          { seats := markSeat row.seatId .reserved db.seats
            holds := update (isActiveHold holdId) (HoldRow.reserve d.now) db.holds
            outbox := db.outbox.insert holdId "seat.reserved.v1"
              (.seatReserved ⟨d.eventId, row.seatId, row.userId, holdId, traceId, d.occurredAt⟩)
              [("traceId", traceId)] d.now
            consumedEvents := db.consumedEvents ++ [(eventId, consumerGroup)] })

def findActiveHoldForSeat (seatId : Uuid) (db : SeatDb) : Option HoldRow :=
  db.holds.find? fun h => h.seatId == seatId && h.status == .held

/-! ### HoldSweeper -/

/-- The order in which `FOR UPDATE SKIP LOCKED` visits the rows of `holds` that
    no other transaction has locked. -/
structure Scan where
  ids : List Uuid
  nodup : ids.Nodup

/-- The holds a tick releases: expired HELD ones, as many as the limit allows. -/
def sweepBatch (limit : Nat) (scan : Scan) (now : Nat) (holds : List HoldRow) : List Uuid :=
  let expired := scan.ids.filter fun id =>
    holds.any fun h => h.id == id && h.status == .held && decide (h.heldUntil < now)
  expired.take limit

/-- The loop body of a tick; `draw` gives the event id and the date of each row. -/
def sweepRow (traceId : String) (now : Nat) (draw : Uuid → Uuid × Nat) (db : SeatDb) (r : HoldRow) :
    SeatDb :=
  { db with
    seats := freeSeat r.seatId db.holds db.seats
    outbox := db.outbox.insert r.id "seat.released.v1"
      (.seatReleased ⟨(draw r.id).1, r.seatId, "sweeper", traceId, (draw r.id).2⟩)
      [("traceId", traceId), ("reason", "sweeper")] now }

def tick (env : SeatEnv) (scan : Scan) (traceId : Uuid) (now : Nat) (draw : Uuid → Uuid × Nat)
    (db : SeatDb) : SeatDb :=
  let ids := sweepBatch env.sweepBatchLimit scan now db.holds
  let swept := fun h : HoldRow => ids.contains h.id
  let rows := returning swept (HoldRow.release now) db.holds
  rows.foldl (sweepRow traceId.toString now draw)
    { db with holds := update swept (HoldRow.release now) db.holds }

/-! ### The seeded database -/

/-- Seats as a seed leaves them: distinct and AVAILABLE, and nothing else. -/
structure SeatDb.Seeded (db : SeatDb) : Prop where
  keys : KeyedBy SeatRow.id db.seats
  available : ∀ s ∈ db.seats, s.status = .available
  holds : db.holds = []
  outbox : db.outbox = Outbox.empty
  consumedEvents : db.consumedEvents = []

/-- The three seats of `scripts/seed.ts`. -/
def seedDb : SeatDb where
  seats := [⟨1, "A1", 1900, "USD", .available⟩, ⟨2, "A2", 2900, "USD", .available⟩,
    ⟨3, "A3", 3900, "USD", .available⟩]
  holds := []
  outbox := Outbox.empty
  consumedEvents := []

theorem seedDb_seeded : seedDb.Seeded where
  keys := by unfold KeyedBy; decide
  available := by decide
  holds := rfl
  outbox := rfl
  consumedEvents := rfl

/-- The defaults of the seat service's environment. -/
def defaultSeatEnv : SeatEnv := ⟨120, 100⟩

end SeatReservation
