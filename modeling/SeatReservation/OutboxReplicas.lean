import SeatReservation.Outbox
import SeatReservation.TransitionSystem

/-!
# The replicas of an outbox worker

One service, its outbox table and any number of replicas of its `OutboxWorker`.
A replica runs its statements one by one (recovery, claiming transaction, then
for each row of its batch the publish and the write-back), every other replica
steps in between, and the service keeps inserting rows.  `Copy` is a claimed row
in the memory of a replica.  A crash, or a tick an error ends, keeps the copies
it had as `lost`: nobody works on them again, but the rows were not finished
either.  Time is the clock of the database; it moves in `wait` and every
statement reads it.

`confirmed` and `failures` record how the calls of `RabbitService.publish` ended
and have no counterpart in the code.  `FleetEffect` lists everything a step can
do, and `Accounted` is the invariant behind `outbox_loses_nothing`: a row leaves
the table only after a confirmed publish of what it says.
-/

namespace SeatReservation

open Relational TransitionSystem

/-! ### Messages -/

inductive Service where
  | seat
  | payment
deriving DecidableEq, Repr

/-- The exchange `processRow` of a service picks. -/
def Service.exchangeOf : Service → String → String
  | .seat => seatExchangeOf
  | .payment => paymentExchangeOf

/-- The arguments of a call of `RabbitService.publish`. -/
structure Message where
  exchange : String
  routingKey : String
  payload : Event
  headers : List (String × String)
deriving DecidableEq, Repr

def Service.message (service : Service) (row : OutboxRow) : Message :=
  ⟨service.exchangeOf row.eventType, routingKeyOf row.eventType, row.payload, row.headers⟩

/-- What no statement of the worker changes. -/
def OutboxRow.content (r : OutboxRow) :
    Nat × Uuid × String × Event × List (String × String) :=
  (r.id, r.aggregateId, r.eventType, r.payload, r.headers)

theorem OutboxRow.id_eq_of_content {r r' : OutboxRow} (h : r.content = r'.content) :
    r.id = r'.id := by
  simp only [OutboxRow.content, Prod.mk.injEq] at h
  exact h.1

theorem OutboxRow.payload_eq_of_content {r r' : OutboxRow} (h : r.content = r'.content) :
    r.payload = r'.payload := by
  simp only [OutboxRow.content, Prod.mk.injEq] at h
  exact h.2.2.2.1

theorem OutboxRow.eventType_eq_of_content {r r' : OutboxRow} (h : r.content = r'.content) :
    r.eventType = r'.eventType := by
  simp only [OutboxRow.content, Prod.mk.injEq] at h
  exact h.2.2.1

theorem Service.message_eq_of_content {service : Service} {r r' : OutboxRow}
    (h : r.content = r'.content) : service.message r = service.message r' := by
  simp only [OutboxRow.content, Prod.mk.injEq] at h
  obtain ⟨-, -, htype, hpayload, hheaders⟩ := h
  rw [Service.message, Service.message, htype, hpayload, hheaders]

/-! ### State and steps -/

/-- A claimed row in the memory of a replica. -/
structure Copy extends Claim where
  replica : Nat
  claimedAt : Nat
  lost : Bool
deriving DecidableEq, Repr

structure Fleet where
  outbox : Outbox
  copies : List Copy
  now : Nat
  confirmed : List Message
  /-- The row of every publish that was not confirmed. -/
  failures : List Nat
deriving DecidableEq, Repr

/-- An empty table, no replica at work. -/
def Fleet.start (now : Nat) : Fleet := ⟨Outbox.empty, [], now, [], []⟩

inductive FleetAction where
  | wait (ms : Nat)
  | insert (aggregateId : Uuid) (eventType : String) (payload : Event)
      (headers : List (String × String))
  | recover (k : Nat)
  | claim (k : Nat) (locked : List Nat)
  | publish (k id : Nat) (ok : Bool)
  | settle (k id : Nat)
  | crash (k : Nat)
deriving DecidableEq, Repr

/-- The copy of row `id` that replica `k` is working on. -/
def Copy.isOf (k id : Nat) (c : Copy) : Bool := !c.lost && c.replica == k && c.row.id == id

/-- `running` is false: the replica has no batch. -/
def Fleet.idle (s : Fleet) (k : Nat) : Bool := s.copies.all fun c => c.lost || c.replica != k

def fleetStep (service : Service) (s : Fleet) : FleetAction → Fleet
  | .wait ms => { s with now := s.now + ms }
  | .insert aggregateId eventType payload headers =>
      { s with outbox := s.outbox.insert aggregateId eventType payload headers s.now }
  | .recover k => if s.idle k then { s with outbox := s.outbox.recover s.now } else s
  | .claim k locked =>
      if s.idle k then
        let (outbox, rows) := s.outbox.claim s.now locked
        { s with
          outbox := outbox
          copies := s.copies ++ rows.map fun r => ⟨⟨r, none⟩, k, s.now, false⟩ }
      else s
  | .publish k id ok =>
      match s.copies.find? (Copy.isOf k id) with
      | some ⟨⟨row, none⟩, _, _, _⟩ =>
          { s with
            copies := update (Copy.isOf k id) (fun c => { c with published := some ok }) s.copies
            confirmed := if ok then s.confirmed ++ [service.message row] else s.confirmed
            failures := if ok then s.failures else s.failures ++ [id] }
      | _ => s
  | .settle k id =>
      match s.copies.find? (Copy.isOf k id) with
      | some ⟨⟨row, some ok⟩, _, _, _⟩ =>
          { s with
            outbox := s.outbox.settle s.now row ok
            copies := s.copies.filter fun c => !c.isOf k id }
      | _ => s
  | .crash k =>
      { s with
        copies := update (fun c => c.replica == k) (fun c => { c with lost := true }) s.copies }

theorem Copy.isOf_iff {k id : Nat} {c : Copy} :
    c.isOf k id = true ↔ c.lost = false ∧ c.replica = k ∧ c.row.id = id := by
  simp [Copy.isOf, and_assoc]

/-- A row the recovery statement hands out again. -/
def isStuck (now : Nat) (r : OutboxRow) : Bool :=
  r.state == .processing && decide (r.nextAttemptAt + 300000 < now)

theorem isStuck_iff {now : Nat} {r : OutboxRow} :
    isStuck now r = true ↔ r.state = .processing ∧ r.nextAttemptAt + 300000 < now := by
  simp [isStuck]

/-- Everything a step can do. -/
inductive FleetEffect (service : Service) (s : Fleet) : FleetAction → Fleet → Prop
  | nothing (a : FleetAction) : FleetEffect service s a s
  | waited (ms : Nat) : FleetEffect service s (.wait ms) { s with now := s.now + ms }
  | inserted (aggregateId : Uuid) (eventType : String) (payload : Event)
      (headers : List (String × String)) :
      FleetEffect service s (.insert aggregateId eventType payload headers)
        { s with outbox := s.outbox.insert aggregateId eventType payload headers s.now }
  | recovered (k : Nat) (hidle : s.idle k = true) :
      FleetEffect service s (.recover k) { s with outbox := s.outbox.recover s.now }
  | claimed (k : Nat) (locked : List Nat) (hidle : s.idle k = true) :
      FleetEffect service s (.claim k locked)
        { s with
          outbox := (s.outbox.claim s.now locked).1
          copies := s.copies ++ (s.outbox.due s.now locked).map
            fun r => ⟨⟨r, none⟩, k, s.now, false⟩ }
  | published (k id : Nat) (ok : Bool) (c : Copy) (hc : c ∈ s.copies) (hof : c.isOf k id = true)
      (hnone : c.published = none) :
      FleetEffect service s (.publish k id ok)
        { s with
          copies := update (Copy.isOf k id) (fun c => { c with published := some ok }) s.copies
          confirmed := if ok then s.confirmed ++ [service.message c.row] else s.confirmed
          failures := if ok then s.failures else s.failures ++ [id] }
  | settled (k id : Nat) (ok : Bool) (c : Copy) (hc : c ∈ s.copies) (hof : c.isOf k id = true)
      (hpublished : c.published = some ok) :
      FleetEffect service s (.settle k id)
        { s with
          outbox := s.outbox.settle s.now c.row ok
          copies := s.copies.filter fun c => !c.isOf k id }
  | crashed (k : Nat) :
      FleetEffect service s (.crash k)
        { s with
          copies := update (fun c => c.replica == k) (fun c => { c with lost := true }) s.copies }

theorem fleetStep_effect (service : Service) (s : Fleet) (a : FleetAction) :
    FleetEffect service s a (fleetStep service s a) := by
  cases a with
  | wait ms => exact .waited ms
  | insert aggregateId eventType payload headers =>
    exact .inserted aggregateId eventType payload headers
  | recover k =>
    simp only [fleetStep]
    split
    · rename_i hidle
      exact .recovered k hidle
    · exact .nothing _
  | claim k locked =>
    simp only [fleetStep]
    split
    · rename_i hidle
      exact .claimed k locked hidle
    · exact .nothing _
  | publish k id ok =>
    simp only [fleetStep]
    split
    · rename_i hfind
      exact .published k id ok _ (List.mem_of_find?_eq_some hfind) (List.find?_some hfind) rfl
    · exact .nothing _
  | settle k id =>
    simp only [fleetStep]
    split
    · rename_i hfind
      exact .settled k id _ _ (List.mem_of_find?_eq_some hfind) (List.find?_some hfind) rfl
    · exact .nothing _
  | crash k => exact .crashed k

/-! ### What the worker's statements keep -/

theorem Outbox.recover_rows (now : Nat) (o : Outbox) :
    (o.recover now).rows =
      update (isStuck now) (fun r => { r with state := .pending, nextAttemptAt := now }) o.rows :=
  rfl

theorem Outbox.claim_rows (now : Nat) (locked : List Nat) (o : Outbox) :
    (o.claim now locked).1.rows =
      update (fun r => ((o.due now locked).map (·.id)).contains r.id)
        (fun r => { r with state := .processing }) o.rows := rfl

/-- The write-back of an unconfirmed row. -/
def OutboxRow.retried (now attempts : Nat) (r : OutboxRow) : OutboxRow :=
  if maxAttempts ≤ attempts + 1 then
    { r with state := .dead, attempts := attempts + 1, nextAttemptAt := now + 3600000 }
  else
    { r with
      state := .pending
      attempts := attempts + 1
      nextAttemptAt := now + baseBackoffMs * 2 ^ min (attempts + 1) 8 }

@[simp] theorem OutboxRow.retried_content (now attempts : Nat) (r : OutboxRow) :
    (r.retried now attempts).content = r.content := by
  unfold OutboxRow.retried
  split <;> rfl

@[simp] theorem OutboxRow.retried_attempts (now attempts : Nat) (r : OutboxRow) :
    (r.retried now attempts).attempts = attempts + 1 := by
  unfold OutboxRow.retried
  split <;> rfl

/-- A row that is retried has attempts left. -/
theorem OutboxRow.attempts_lt_of_alive {now attempts : Nat} {r : OutboxRow}
    (h : (r.retried now attempts).state ≠ .dead) :
    (r.retried now attempts).attempts < maxAttempts := by
  rw [OutboxRow.retried_attempts]
  by_contra hle
  apply h
  rw [OutboxRow.retried, if_pos (by omega)]

theorem Outbox.settle_true (now : Nat) (row : OutboxRow) (o : Outbox) :
    o.settle now row true = { o with rows := o.rows.filter fun r => !(r.id == row.id) } := rfl

theorem Outbox.settle_false (now : Nat) (row : OutboxRow) (o : Outbox) :
    o.settle now row false =
      { o with
        rows := update (fun r => r.id == row.id) (OutboxRow.retried now row.attempts) o.rows } := by
  unfold Outbox.settle
  dsimp only
  by_cases hmax : maxAttempts ≤ row.attempts + 1
  · rw [if_neg (by simp), if_pos hmax]
    simp [update, OutboxRow.retried, hmax]
  · rw [if_neg (by simp), if_neg hmax]
    simp [update, OutboxRow.retried, hmax]

/-- An update that keeps what each row says loses none of them. -/
theorem exists_content_update {p : OutboxRow → Bool} {f : OutboxRow → OutboxRow}
    (hf : ∀ r, (f r).content = r.content) {rows : List OutboxRow} {r : OutboxRow} (hr : r ∈ rows) :
    ∃ r' ∈ update p f rows, r'.content = r.content := by
  refine ⟨if p r then f r else r, mem_update_iff_exists.mpr ⟨r, hr, rfl⟩, ?_⟩
  split
  · exact hf r
  · rfl

/-- An update that keeps what each row says adds none. -/
theorem content_of_mem_update {p : OutboxRow → Bool} {f : OutboxRow → OutboxRow}
    (hf : ∀ r, (f r).content = r.content) {rows : List OutboxRow} {r : OutboxRow}
    (hr : r ∈ update p f rows) : ∃ r₀ ∈ rows, r₀.content = r.content := by
  rcases mem_update.mp hr with ⟨r₀, hr₀, -, rfl⟩ | ⟨hr, -⟩
  · exact ⟨r₀, hr₀, (hf r₀).symm⟩
  · exact ⟨r, hr, rfl⟩

/-! ### No event is lost -/

/-- Where every row ever inserted is: in the table or with the broker. -/
structure Accounted (service : Service) (s : Fleet) : Prop where
  fresh : ∀ e ∈ s.outbox.history, e.id ≤ s.outbox.history.length
  ids : KeyedBy (·.id) s.outbox.history
  rows : ∀ r ∈ s.outbox.rows, ∃ e ∈ s.outbox.history, e.content = r.content
  copies : ∀ c ∈ s.copies, ∃ e ∈ s.outbox.history, e.content = c.row.content
  published : ∀ c ∈ s.copies, c.published = some true → service.message c.row ∈ s.confirmed
  kept : ∀ e ∈ s.outbox.history,
    (∃ r ∈ s.outbox.rows, r.content = e.content) ∨ service.message e ∈ s.confirmed

theorem accounted_start (service : Service) (now : Nat) : Accounted service (Fleet.start now) := by
  constructor <;> simp [Fleet.start, Outbox.empty, KeyedBy]

/-- Rows of one id in the history say the same. -/
theorem Accounted.content_eq {service : Service} {s : Fleet} (h : Accounted service s)
    {e : OutboxRow} (he : e ∈ s.outbox.history) {c : Copy} (hc : c ∈ s.copies)
    (hid : e.id = c.row.id) : e.content = c.row.content := by
  obtain ⟨e', he', hcontent⟩ := h.copies c hc
  have hsame : e = e' := by
    apply h.ids.eq_of_mem he he'
    rw [hid, OutboxRow.id_eq_of_content hcontent]
  rw [hsame, hcontent]

/-- A statement that keeps what each row says. -/
theorem Accounted.update {service : Service} {s : Fleet} (h : Accounted service s)
    {p : OutboxRow → Bool} {f : OutboxRow → OutboxRow} (hf : ∀ r, (f r).content = r.content) :
    Accounted service
      { s with outbox := { s.outbox with rows := update p f s.outbox.rows } } where
  fresh := h.fresh
  ids := h.ids
  rows := by
    intro r hr
    obtain ⟨r₀, hr₀, hcontent⟩ := content_of_mem_update hf hr
    obtain ⟨e, he, hsays⟩ := h.rows r₀ hr₀
    exact ⟨e, he, hsays.trans hcontent⟩
  copies := h.copies
  published := h.published
  kept := by
    intro e he
    rcases h.kept e he with ⟨r, hr, hcontent⟩ | hconfirmed
    · obtain ⟨r', hr', hsays⟩ := exists_content_update (p := p) hf hr
      exact Or.inl ⟨r', hr', hsays.trans hcontent⟩
    · exact Or.inr hconfirmed

theorem Accounted.insert {service : Service} {s : Fleet} (h : Accounted service s)
    (aggregateId : Uuid) (eventType : String) (payload : Event)
    (headers : List (String × String)) :
    Accounted service
      { s with outbox := s.outbox.insert aggregateId eventType payload headers s.now } where
  fresh := by
    intro e he
    simp only [Outbox.insert_history, List.length_append, List.length_singleton]
    rcases List.mem_append.mp he with he | he
    · have hle := h.fresh e he
      omega
    · rw [List.mem_singleton.mp he, Outbox.newRow_id]
  ids := by
    apply h.ids.insert
    intro e he
    exact Nat.ne_of_lt (Nat.lt_succ_of_le (h.fresh e he))
  rows := by
    intro r hr
    rcases List.mem_append.mp hr with hr | hr
    · obtain ⟨e, he, hcontent⟩ := h.rows r hr
      exact ⟨e, List.mem_append_left _ he, hcontent⟩
    · exact ⟨r, List.mem_append_right _ hr, rfl⟩
  copies := by
    intro c hc
    obtain ⟨e, he, hcontent⟩ := h.copies c hc
    exact ⟨e, List.mem_append_left _ he, hcontent⟩
  published := h.published
  kept := by
    intro e he
    rcases List.mem_append.mp he with he | he
    · rcases h.kept e he with ⟨r, hr, hcontent⟩ | hconfirmed
      · exact Or.inl ⟨r, List.mem_append_left _ hr, hcontent⟩
      · exact Or.inr hconfirmed
    · exact Or.inl ⟨e, List.mem_append_right _ he, rfl⟩

/-- A publish and how it ended. -/
theorem Accounted.publish {service : Service} {s : Fleet} (h : Accounted service s) {k id : Nat}
    {ok : Bool} {c : Copy} (hc : c ∈ s.copies) (hof : c.isOf k id = true) (failures : List Nat) :
    Accounted service
      { s with
        copies := Relational.update (Copy.isOf k id) (fun c => { c with published := some ok })
          s.copies
        confirmed := if ok then s.confirmed ++ [service.message c.row] else s.confirmed
        failures := failures } where
  fresh := h.fresh
  ids := h.ids
  rows := h.rows
  copies := by
    intro c' hc'
    rcases mem_update.mp hc' with ⟨c₀, hc₀, -, rfl⟩ | ⟨hc', -⟩
    · exact h.copies c₀ hc₀
    · exact h.copies c' hc'
  published := by
    intro c' hc' hpublished
    rcases mem_update.mp hc' with ⟨c₀, hc₀, hof₀, rfl⟩ | ⟨hc', -⟩
    · -- another copy of the row says what the published one says
      obtain ⟨e, he, hcontent⟩ := h.copies c₀ hc₀
      have hid : e.id = c.row.id := by
        rw [OutboxRow.id_eq_of_content hcontent, (Copy.isOf_iff.mp hof₀).2.2,
          (Copy.isOf_iff.mp hof).2.2]
      have hmessage : service.message c₀.row = service.message c.row :=
        Service.message_eq_of_content (hcontent.symm.trans (h.content_eq he hc hid))
      simp only [Option.some.injEq] at hpublished
      simp [hpublished, hmessage]
    · have hbefore := h.published c' hc' hpublished
      cases ok with
      | true => exact List.mem_append_left _ hbefore
      | false => exact hbefore
  kept := by
    intro e he
    rcases h.kept e he with hrow | hconfirmed
    · exact Or.inl hrow
    · right
      cases ok with
      | true => exact List.mem_append_left _ hconfirmed
      | false => exact hconfirmed

/-- Fewer copies. -/
theorem Accounted.copies_mono {service : Service} {s : Fleet} (h : Accounted service s)
    {copies : List Copy} (hsub : ∀ c ∈ copies, ∃ c₀ ∈ s.copies, c₀.toClaim = c.toClaim) :
    Accounted service { s with copies := copies } where
  fresh := h.fresh
  ids := h.ids
  rows := h.rows
  copies := by
    intro c hc
    obtain ⟨c₀, hc₀, hclaim⟩ := hsub c hc
    rw [← hclaim]
    exact h.copies c₀ hc₀
  published := by
    intro c hc hpublished
    obtain ⟨c₀, hc₀, hclaim⟩ := hsub c hc
    rw [← hclaim] at hpublished ⊢
    exact h.published c₀ hc₀ hpublished
  kept := h.kept

/-- A row is deleted after a confirmed publish of what it says. -/
theorem Accounted.delete {service : Service} {s : Fleet} (h : Accounted service s) {c : Copy}
    (hc : c ∈ s.copies) (hpublished : c.published = some true) :
    Accounted service { s with outbox := s.outbox.settle s.now c.row true } where
  fresh := h.fresh
  ids := h.ids
  rows := by
    intro r hr
    exact h.rows r (List.mem_of_mem_filter hr)
  copies := h.copies
  published := h.published
  kept := by
    intro e he
    rcases h.kept e he with ⟨r, hr, hcontent⟩ | hconfirmed
    · by_cases hid : r.id = c.row.id
      · have hsays : e.content = c.row.content := by
          apply h.content_eq he hc
          rw [← hid, OutboxRow.id_eq_of_content hcontent]
        rw [Service.message_eq_of_content hsays]
        exact Or.inr (h.published c hc hpublished)
      · refine Or.inl ⟨r, ?_, hcontent⟩
        rw [Outbox.settle_true, List.mem_filter]
        simp [hr, hid]
    · exact Or.inr hconfirmed

theorem Accounted.claim {service : Service} {s : Fleet} (h : Accounted service s) (k : Nat)
    (locked : List Nat) :
    Accounted service
      { s with
        copies := s.copies ++ (s.outbox.due s.now locked).map
          fun r => ⟨⟨r, none⟩, k, s.now, false⟩ } where
  fresh := h.fresh
  ids := h.ids
  rows := h.rows
  copies := by
    intro c hc
    rcases List.mem_append.mp hc with hc | hc
    · exact h.copies c hc
    · obtain ⟨r, hr, rfl⟩ := List.mem_map.mp hc
      exact h.rows r (s.outbox.due_subset s.now locked hr)
  published := by
    intro c hc hpublished
    rcases List.mem_append.mp hc with hc | hc
    · exact h.published c hc hpublished
    · obtain ⟨r, hr, rfl⟩ := List.mem_map.mp hc
      simp at hpublished
  kept := h.kept

theorem Accounted.effect {service : Service} {s s' : Fleet} {a : FleetAction}
    (h : Accounted service s) (heffect : FleetEffect service s a s') : Accounted service s' := by
  cases heffect with
  | nothing => exact h
  | waited ms => exact ⟨h.fresh, h.ids, h.rows, h.copies, h.published, h.kept⟩
  | inserted aggregateId eventType payload headers =>
    exact h.insert aggregateId eventType payload headers
  | recovered k hidle => exact h.update (fun r => by rfl)
  | claimed k locked hidle => exact (h.claim k locked).update (fun r => by rfl)
  | published k id ok c hc hof hnone => exact h.publish hc hof _
  | settled k id ok c hc hof hpublished =>
    have hsettled : Accounted service { s with outbox := s.outbox.settle s.now c.row ok } := by
      cases ok with
      | true => exact h.delete hc hpublished
      | false =>
        rw [Outbox.settle_false]
        exact h.update (OutboxRow.retried_content s.now c.row.attempts)
    exact hsettled.copies_mono fun c' hc' => ⟨c', List.mem_of_mem_filter hc', rfl⟩
  | crashed k =>
    apply h.copies_mono
    intro c hc
    rcases mem_update.mp hc with ⟨c₀, hc₀, -, rfl⟩ | ⟨hc, -⟩
    · exact ⟨c₀, hc₀, rfl⟩
    · exact ⟨c, hc, rfl⟩

theorem accounted_exec (service : Service) (now : Nat) (as : List FleetAction) :
    Accounted service (exec (fleetStep service) (Fleet.start now) as) :=
  exec_invariant' (Accounted service) (fun s a h => h.effect (fleetStep_effect service s a))
    (accounted_start service now) as

/-- The row is in the table, with the payload and type it was inserted with. -/
def Outbox.Keeps (o : Outbox) (e : OutboxRow) : Prop :=
  ∃ r ∈ o.rows, r.id = e.id ∧ r.payload = e.payload ∧ r.eventType = e.eventType ∧
    (r.state = .pending ∨ r.state = .processing ∨ r.state = .dead)

/-- **The outbox never loses an event before the broker has it.**  After any run
    of any number of replicas, each row ever inserted is still in the table or
    what it says was confirmed on the exchange and routing key of its type. -/
theorem outbox_loses_nothing (service : Service) (now : Nat) (as : List FleetAction) :
    let s := exec (fleetStep service) (Fleet.start now) as
    ∀ e ∈ s.outbox.history, s.outbox.Keeps e ∨ service.message e ∈ s.confirmed := by
  intro s e he
  rcases (accounted_exec service now as).kept e he with ⟨r, hr, hcontent⟩ | hconfirmed
  · left
    refine ⟨r, hr, OutboxRow.id_eq_of_content hcontent, OutboxRow.payload_eq_of_content hcontent,
      OutboxRow.eventType_eq_of_content hcontent, ?_⟩
    cases r.state <;> simp
  · exact Or.inr hconfirmed

/-- The service commits the release of seat 1. -/
def insertReleased : FleetAction :=
  .insert 1 "seat.released.v1"
    (.seatReleased ⟨401, 1, "sweeper", "00000000-0000-0000-0000-0000000000aa", 1000⟩) []

end SeatReservation
