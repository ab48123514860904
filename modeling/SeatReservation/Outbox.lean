import SeatReservation.Contracts
import SeatReservation.Relational
import Mathlib.Data.List.Sort

/-!
# The transactional outbox and its worker

Both services append events to a table `outbox` inside the transaction that
changes their data, and a worker publishes the rows later.  `Outbox.history`
keeps every row ever inserted, in order, and has no counterpart in the database:
it is the append-only event history the table only shows a window of, and its
length is the `BIGSERIAL` sequence.

The worker reads a batch into memory, so a row exists in up to two places: the
table and the copies (`Claim`) of the replicas that claimed it.  A replica may
stop anywhere, a publish may reach the broker and still be reported as failed,
and the recovery step may hand a row out twice.  None of this ever changes what
a row says: `workerStep_letter` is the one fact the message-passing arguments
need about the worker.
-/

namespace SeatReservation

open Relational

inductive OutboxState where
  | pending
  | processing
  | dead
deriving DecidableEq, Repr

structure OutboxRow where
  id : Nat
  aggregateId : Uuid
  eventType : String
  payload : Event
  headers : List (String × String)
  state : OutboxState
  attempts : Nat
  nextAttemptAt : Nat
deriving DecidableEq, Repr

/-- What a row says, apart from the bookkeeping of the worker. -/
def OutboxRow.letter (r : OutboxRow) : Uuid × String × Event :=
  (r.aggregateId, r.eventType, r.payload)

/-- The row is an event of this kind about this aggregate. -/
structure OutboxRow.Says (r : OutboxRow) (aggregateId : Uuid) (schema : String) : Prop where
  aggregateId : r.aggregateId = aggregateId
  eventType : r.eventType = schema
  schema : r.payload.schema = schema

structure Outbox where
  rows : List OutboxRow
  history : List OutboxRow
deriving DecidableEq, Repr

def Outbox.empty : Outbox := ⟨[], []⟩

/-- The row an insert appends, the columns the statement leaves out taking their defaults. -/
def Outbox.newRow (o : Outbox) (aggregateId : Uuid) (eventType : String) (payload : Event)
    (headers : List (String × String)) (now : Nat) : OutboxRow :=
  ⟨o.history.length + 1, aggregateId, eventType, payload, headers, .pending, 0, now⟩

/-- `INSERT INTO outbox (aggregate_id, event_type, payload, headers)`. -/
def Outbox.insert (o : Outbox) (aggregateId : Uuid) (eventType : String) (payload : Event)
    (headers : List (String × String)) (now : Nat) : Outbox :=
  let row := o.newRow aggregateId eventType payload headers now
  ⟨o.rows ++ [row], o.history ++ [row]⟩

@[simp] theorem Outbox.insert_rows (o : Outbox) (i : Uuid) (t : String) (p : Event)
    (h : List (String × String)) (now : Nat) :
    (o.insert i t p h now).rows = o.rows ++ [o.newRow i t p h now] := rfl

@[simp] theorem Outbox.insert_history (o : Outbox) (i : Uuid) (t : String) (p : Event)
    (h : List (String × String)) (now : Nat) :
    (o.insert i t p h now).history = o.history ++ [o.newRow i t p h now] := rfl

@[simp] theorem Outbox.newRow_id (o : Outbox) (i : Uuid) (t : String) (p : Event)
    (h : List (String × String)) (now : Nat) : (o.newRow i t p h now).id = o.history.length + 1 :=
  rfl

@[simp] theorem Outbox.newRow_payload (o : Outbox) (i : Uuid) (t : String) (p : Event)
    (h : List (String × String)) (now : Nat) : (o.newRow i t p h now).payload = p := rfl

@[simp] theorem Outbox.newRow_aggregateId (o : Outbox) (i : Uuid) (t : String) (p : Event)
    (h : List (String × String)) (now : Nat) : (o.newRow i t p h now).aggregateId = i := rfl

@[simp] theorem Outbox.newRow_eventType (o : Outbox) (i : Uuid) (t : String) (p : Event)
    (h : List (String × String)) (now : Nat) : (o.newRow i t p h now).eventType = t := rfl

/-! ### What a transaction appends -/

/-- `o'` is `o` with the rows `new` inserted. -/
def Outbox.Appends (o o' : Outbox) (new : List OutboxRow) : Prop :=
  o'.rows = o.rows ++ new ∧ o'.history = o.history ++ new

theorem Outbox.Appends.refl (o : Outbox) : o.Appends o [] := by simp [Outbox.Appends]

theorem Outbox.Appends.insert (o : Outbox) (i : Uuid) (t : String) (p : Event)
    (h : List (String × String)) (now : Nat) :
    o.Appends (o.insert i t p h now) [o.newRow i t p h now] := ⟨rfl, rfl⟩

theorem Outbox.Appends.trans {o o' o'' : Outbox} {new new' : List OutboxRow}
    (h : o.Appends o' new) (h' : o'.Appends o'' new') : o.Appends o'' (new ++ new') := by
  refine ⟨?_, ?_⟩
  · rw [h'.1, h.1, List.append_assoc]
  · rw [h'.2, h.2, List.append_assoc]

/-- The rows inserted between two states of an outbox. -/
def appendedRows (o o' : Outbox) : List OutboxRow := o'.history.drop o.history.length

theorem Outbox.Appends.appendedRows_eq {o o' : Outbox} {new : List OutboxRow}
    (h : o.Appends o' new) : appendedRows o o' = new := by
  rw [appendedRows, h.2, List.drop_left]

@[simp] theorem appendedRows_self (o : Outbox) : appendedRows o o = [] := by
  simp [appendedRows]

/-! ### Counting events -/

/-- The rows of a history about one aggregate, of one type. -/
def eventCount (history : List OutboxRow) (aggregateId : Uuid) (eventType : String) : Nat :=
  history.countP fun r => r.aggregateId == aggregateId && r.eventType == eventType

theorem eventCount_append (history new : List OutboxRow) (aggregateId : Uuid)
    (eventType : String) :
    eventCount (history ++ new) aggregateId eventType =
      eventCount history aggregateId eventType + eventCount new aggregateId eventType :=
  List.countP_append

theorem eventCount_eq_zero {history : List OutboxRow} {aggregateId : Uuid} (eventType : String)
    (h : ∀ r ∈ history, r.aggregateId ≠ aggregateId) :
    eventCount history aggregateId eventType = 0 := by
  apply List.countP_eq_zero.mpr
  intro r hr
  simp [h r hr]

theorem eventCount_singleton (r : OutboxRow) (aggregateId : Uuid) (eventType : String) :
    eventCount [r] aggregateId eventType =
      if r.aggregateId = aggregateId ∧ r.eventType = eventType then 1 else 0 := by
  simp [eventCount, List.countP_cons]

theorem OutboxRow.Says.eventCount {r : OutboxRow} {aggregateId : Uuid} {eventType : String}
    (hsaid : r.Says aggregateId eventType) (aggregateId' : Uuid) (eventType' : String) :
    eventCount [r] aggregateId' eventType' =
      if aggregateId = aggregateId' ∧ eventType = eventType' then 1 else 0 := by
  rw [eventCount_singleton, hsaid.aggregateId, hsaid.eventType]

/-! ### The worker -/

def maxAttempts : Nat := 10
def baseBackoffMs : Nat := 1000

/-- A claimed row in the memory of a replica, and how its publish ended. -/
structure Claim where
  row : OutboxRow
  published : Option Bool
deriving DecidableEq, Repr

/-- The recovery statement at the start of a tick. -/
def Outbox.recover (now : Nat) (o : Outbox) : Outbox :=
  let stuck := fun r : OutboxRow =>
    r.state == .processing && decide (r.nextAttemptAt + 300000 < now)
  { o with
    rows := update stuck (fun r => { r with state := .pending, nextAttemptAt := now }) o.rows }

/-- The batch a tick selects: due rows that no other transaction has locked, in
    the order of `next_attempt_at`, a hundred at most. -/
def Outbox.due (now : Nat) (locked : List Nat) (o : Outbox) : List OutboxRow :=
  let free := o.rows.filter fun r =>
    r.state == .pending && decide (r.nextAttemptAt ≤ now) && !locked.contains r.id
  (free.insertionSort fun r r' => r.nextAttemptAt ≤ r'.nextAttemptAt).take 100

/-- The claiming transaction of a tick. -/
def Outbox.claim (now : Nat) (locked : List Nat) (o : Outbox) : Outbox × List OutboxRow :=
  let rows := o.due now locked
  let ids := rows.map (·.id)
  let claimed := fun r : OutboxRow => ids.contains r.id
  ({ o with rows := update claimed (fun r => { r with state := .processing }) o.rows }, rows)

/-- The end of `processRow`: delete a confirmed row, otherwise reschedule it with
    a backoff or give it up. -/
def Outbox.settle (now : Nat) (row : OutboxRow) (ok : Bool) (o : Outbox) : Outbox :=
  let sameRow := fun r : OutboxRow => r.id == row.id
  let attempts := row.attempts + 1
  let backoff := baseBackoffMs * 2 ^ min attempts 8
  if ok then { o with rows := o.rows.filter fun r => !sameRow r }
  else if maxAttempts ≤ attempts then
    { o with rows := update sameRow (fun r =>
        { r with state := .dead, attempts := attempts, nextAttemptAt := now + 3600000 }) o.rows }
  else
    { o with rows := update sameRow (fun r =>
        { r with state := .pending, attempts := attempts, nextAttemptAt := now + backoff }) o.rows }

/-- `processRow` of the seat service: the exchange of an event type. -/
def seatExchangeOf (eventType : String) : String :=
  if startsWith eventType "seat." then seatEventsExchange else paymentEventsExchange

/-- `processRow` of the payment service. -/
def paymentExchangeOf (eventType : String) : String :=
  if startsWith eventType "payment." then paymentEventsExchange else seatEventsExchange

/-- One step of one replica.  `publish i enqueued ok` is the call of `publish` for
    claim `i`: `enqueued` says whether the broker took the message and `ok` whether
    the confirm arrived. -/
inductive WorkerAction where
  | recover (now : Nat)
  | claim (now : Nat) (locked : List Nat)
  | publish (i : Nat) (enqueued ok : Bool)
  | settle (i : Nat) (now : Nat)
  | crash (i : Nat)
deriving DecidableEq, Repr

def workerStep (o : Outbox) (claims : List Claim) : WorkerAction → Outbox × List Claim
  | .recover now => (o.recover now, claims)
  | .claim now locked =>
      let (o', rows) := o.claim now locked
      (o', claims ++ rows.map fun r => ⟨r, none⟩)
  | .publish i _ ok => (o, claims.modify i fun c => { c with published := some ok })
  | .settle i now =>
      match claims[i]? with
      | some ⟨row, some ok⟩ => (o.settle now row ok, claims.eraseIdx i)
      | _ => (o, claims)
  | .crash i => (o, claims.eraseIdx i)

/-- The message a step puts into the broker. -/
def publishedRow (claims : List Claim) : WorkerAction → Option OutboxRow
  | .publish i true _ => claims[i]?.map (·.row)
  | _ => none

/-! ### The worker never changes what a row says -/

/-- Every row of `rows` says what some row of `rows'` says. -/
def LettersFrom (rows rows' : List OutboxRow) : Prop :=
  ∀ r ∈ rows, ∃ r' ∈ rows', r'.letter = r.letter

theorem LettersFrom.of_subset {rows rows' : List OutboxRow} (h : rows ⊆ rows') :
    LettersFrom rows rows' := fun r hr => ⟨r, h hr, rfl⟩

theorem LettersFrom.trans {rows rows' rows'' : List OutboxRow} (h : LettersFrom rows rows')
    (h' : LettersFrom rows' rows'') : LettersFrom rows rows'' := by
  intro r hr
  obtain ⟨r', hr', he⟩ := h r hr
  obtain ⟨r'', hr'', he'⟩ := h' r' hr'
  exact ⟨r'', hr'', he'.trans he⟩

theorem LettersFrom.append {rows rows' all : List OutboxRow} (h : LettersFrom rows all)
    (h' : LettersFrom rows' all) : LettersFrom (rows ++ rows') all := by
  intro r hr
  rcases List.mem_append.mp hr with hr | hr
  · exact h r hr
  · exact h' r hr

theorem LettersFrom.mono_right {rows all all' : List OutboxRow} (h : LettersFrom rows all)
    (hsub : all ⊆ all') : LettersFrom rows all' := by
  intro r hr
  obtain ⟨r', hr', he⟩ := h r hr
  exact ⟨r', hsub hr', he⟩

theorem LettersFrom.mono_left {rows rows' all : List OutboxRow} (h : LettersFrom rows all)
    (hsub : rows' ⊆ rows) : LettersFrom rows' all := fun r hr => h r (hsub hr)

/-- An update that keeps the letter of each row. -/
theorem LettersFrom.update {p : OutboxRow → Bool} {f : OutboxRow → OutboxRow}
    (hf : ∀ r, (f r).letter = r.letter) (rows : List OutboxRow) :
    LettersFrom (update p f rows) rows := by
  intro r hr
  rcases mem_update.mp hr with ⟨r₀, hr₀, -, rfl⟩ | ⟨hr, -⟩
  · exact ⟨r₀, hr₀, (hf r₀).symm⟩
  · exact ⟨r, hr, rfl⟩

theorem Outbox.due_subset (now : Nat) (locked : List Nat) (o : Outbox) :
    o.due now locked ⊆ o.rows := by
  intro r hr
  have hsort := List.mem_of_mem_take hr
  exact List.mem_of_mem_filter ((List.mem_insertionSort _).mp hsort)

theorem Outbox.settle_letter (now : Nat) (row : OutboxRow) (ok : Bool) (o : Outbox) :
    LettersFrom (o.settle now row ok).rows o.rows := by
  unfold Outbox.settle
  dsimp only
  split
  · exact LettersFrom.of_subset List.filter_sublist.subset
  · split
    · exact LettersFrom.update (fun r => by rfl) o.rows
    · exact LettersFrom.update (fun r => by rfl) o.rows

theorem Outbox.settle_history (now : Nat) (row : OutboxRow) (ok : Bool) (o : Outbox) :
    (o.settle now row ok).history = o.history := by
  unfold Outbox.settle
  dsimp only
  split
  · rfl
  · split
    · rfl
    · rfl

@[simp] theorem workerStep_history (o : Outbox) (claims : List Claim) (a : WorkerAction) :
    (workerStep o claims a).1.history = o.history := by
  cases a with
  | recover now => rfl
  | claim now locked => rfl
  | publish i enqueued ok => rfl
  | settle i now =>
    simp only [workerStep]
    split
    · exact o.settle_history now _ _
    · rfl
  | crash i => rfl

theorem claim_rows_modify (claims : List Claim) (i : Nat) (ok : Bool) :
    (claims.modify i fun c => { c with published := some ok }).map (·.row) =
      claims.map (·.row) := by
  induction claims generalizing i with
  | nil => cases i <;> simp
  | cons c claims ih =>
    cases i with
    | zero => simp [List.modify_cons]
    | succ i => simp [ih]

/-- **No step of the worker invents or alters a message.**  Every row in the table
    or claimed after the step says what a row in the table or claimed said before. -/
theorem workerStep_letter (o : Outbox) (claims : List Claim) (a : WorkerAction) :
    LettersFrom ((workerStep o claims a).1.rows ++ (workerStep o claims a).2.map (·.row))
      (o.rows ++ claims.map (·.row)) := by
  have hrows : LettersFrom o.rows (o.rows ++ claims.map (·.row)) :=
    LettersFrom.of_subset (List.subset_append_left _ _)
  have hclaims : LettersFrom (claims.map (·.row)) (o.rows ++ claims.map (·.row)) :=
    LettersFrom.of_subset (List.subset_append_right _ _)
  have herase : ∀ i, (claims.eraseIdx i).map (·.row) ⊆ claims.map (·.row) := fun i =>
    List.map_subset _ (List.eraseIdx_subset)
  cases a with
  | recover now =>
    exact ((LettersFrom.update (fun r => by rfl) o.rows).trans hrows).append hclaims
  | claim now locked =>
    have hdue : LettersFrom (o.due now locked) o.rows :=
      LettersFrom.of_subset (o.due_subset now locked)
    refine ((LettersFrom.update (fun r => by rfl) o.rows).trans hrows).append ?_
    simp only [workerStep, Outbox.claim, List.map_append, List.map_map]
    exact hclaims.append ((LettersFrom.of_subset (by simp [Function.comp_def])).trans
      (hdue.trans hrows))
  | publish i enqueued ok =>
    simp only [workerStep, claim_rows_modify]
    exact hrows.append hclaims
  | settle i now =>
    simp only [workerStep]
    split
    · exact ((o.settle_letter now _ _).trans hrows).append
        ((LettersFrom.of_subset (herase i)).trans hclaims)
    · exact hrows.append hclaims
  | crash i =>
    exact hrows.append ((LettersFrom.of_subset (herase i)).trans hclaims)

/-- A published message is a claimed row. -/
theorem publishedRow_mem {claims : List Claim} {a : WorkerAction} {r : OutboxRow}
    (h : publishedRow claims a = some r) : r ∈ claims.map (·.row) := by
  unfold publishedRow at h
  split at h
  · obtain ⟨c, hc, rfl⟩ := Option.map_eq_some_iff.mp h
    exact List.mem_map_of_mem (List.mem_of_getElem? hc)
  · cases h

end SeatReservation
