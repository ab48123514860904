import SeatReservation.System

/-!
# The release cascade ends

A release makes the payment service fail the pending intents of the seat, and a
failed intent makes the seat service release its hold: the two consumers feed
each other.  What they feed on runs out.  A HELD hold or a PENDING intent weighs
three, an outbox row two and a queued message one; a publish turns a row into at
most one message, and a consumer or the sweeper turns a hold or an intent into
at most one row, so every step of the cascade takes weight away
(`cascade_length_le`).
-/

namespace SeatReservation

open Relational TransitionSystem

/-! ### Steps of the cascade -/

/-- `processRow` of the seat service, the publish confirmed. -/
def publishSeatRow (row : OutboxRow) (now : Nat) (s : System) : System :=
  publishTo seatExchangeOf (some row)
    { s with seat := { s.seat with outbox := s.seat.outbox.settle now row true } }

/-- `processRow` of the payment service, the publish confirmed. -/
def publishPaymentRow (row : OutboxRow) (now : Nat) (s : System) : System :=
  publishTo paymentExchangeOf (some row)
    { s with
      payment := { s.payment with
        db := { s.payment.db with outbox := s.payment.db.outbox.settle now row true } } }

inductive CascadeAction where
  | publishSeat (i : Nat) (now : Nat)
  | publishPayment (i : Nat) (now : Nat)
  | consumeSeat (i : Nat) (d : Draw)
  | consumePayment (i : Nat) (d : Draw)
  | sweep (scan : Scan) (traceId : Uuid) (now : Nat) (draw : Uuid → Uuid × Nat)

def cascadeStep (env : SystemEnv) (s : System) : CascadeAction → System
  | .publishSeat i now =>
      match s.seat.outbox.rows[i]? with
      | some row => publishSeatRow row now s
      | none => s
  | .publishPayment i now =>
      match s.payment.db.outbox.rows[i]? with
      | some row => publishPaymentRow row now s
      | none => s
  | .consumeSeat i d => systemStep env s (.deliverToSeat i true d)
  | .consumePayment i d => systemStep env s (.deliverToPayment i true d)
  | .sweep scan traceId now draw => systemStep env s (.sweep scan traceId now draw)

/-- There is a row to publish, a message to handle, a hold to release. -/
def CascadeEnabled (env : SystemEnv) (s : System) : CascadeAction → Prop
  | .publishSeat i _ => i < s.seat.outbox.rows.length
  | .publishPayment i _ => i < s.payment.db.outbox.rows.length
  | .consumeSeat i _ => i < s.seatQueue.length
  | .consumePayment i _ => i < s.paymentQueue.length
  | .sweep scan traceId now draw =>
      (tick env.seat scan traceId now draw s.seat).holds ≠ s.seat.holds

/-! ### Weights -/

def isHeld (h : HoldRow) : Bool := h.status == .held
def isPending (i : PaymentIntentRow) : Bool := i.status == .pending

def SeatDb.weight (db : SeatDb) : Nat := 3 * db.holds.countP isHeld + 2 * db.outbox.rows.length

def PaymentDb.weight (db : PaymentDb) : Nat :=
  3 * db.intents.countP isPending + 2 * db.outbox.rows.length

/-- What is left of the cascade. -/
def System.weight (s : System) : Nat :=
  3 * (s.seat.holds.countP isHeld + s.payment.db.intents.countP isPending) +
    2 * (s.seat.outbox.rows.length + s.payment.db.outbox.rows.length) +
      (s.seatQueue.length + s.paymentQueue.length)

theorem System.weight_eq (s : System) :
    s.weight =
      s.seat.weight + s.payment.db.weight + s.seatQueue.length + s.paymentQueue.length := by
  simp only [System.weight, SeatDb.weight, PaymentDb.weight]
  omega

/-- Releasing or reserving holds pays for the rows that announce it. -/
theorem SeatEffect.weight_le {env : SeatEnv} {db db' : SeatDb} {a : SeatAction}
    (heffect : SeatEffect env db a db')
    (ha : ∀ seatId userId traceId d, a ≠ .insertHoldTx seatId userId traceId d) :
    db'.weight ≤ db.weight ∧ (db'.holds ≠ db.holds → db'.weight < db.weight) := by
  cases heffect with
  | nothing => exact ⟨Nat.le_refl _, fun h => absurd rfl h⟩
  | held seatId userId traceId d seat outbox row hseat hfree happ hkind =>
    exact absurd rfl (ha seatId userId traceId d)
  | released a now p outbox rows hactive happ hrows =>
    have hcount := countP_update (q := isHeld) (f := HoldRow.release now)
      (fun h hmem hp => by simpa [isHeld] using hactive h hmem hp) (fun h _ => by rfl)
    have hlength : rows.length = db.holds.countP p := by
      rw [← hrows.length_eq, length_returning]
    simp only [SeatDb.weight, happ.1, List.length_append]
    refine ⟨by omega, ?_⟩
    intro hchanged
    have hpos : 0 < db.holds.countP p := by
      rw [Nat.pos_iff_ne_zero]
      intro hzero
      have hnone := List.countP_eq_zero.mp hzero
      exact hchanged (update_eq_self fun h hmem => by simpa using hnone h hmem)
    omega
  | reserved eventId consumerGroup traceId d hold outbox row hmem hactive hnew happ hkind =>
    have hcount := countP_update (q := isHeld) (p := isActiveHold hold.id)
      (f := HoldRow.reserve d.now) (t := db.holds)
      (fun h _ hp => by simpa [isHeld] using (isActiveHold_iff.mp hp).2) (fun h _ => by rfl)
    have hpos : 0 < db.holds.countP (isActiveHold hold.id) :=
      List.countP_pos_iff.mpr ⟨hold, hmem, isActiveHold_iff.mpr ⟨rfl, hactive⟩⟩
    simp only [SeatDb.weight, happ.1, List.length_append, List.length_singleton]
    exact ⟨by omega, fun _ => by omega⟩

/-- A step of the cascade keeps the primary key of the holds. -/
theorem SeatEffect.keyed_of_cascade {env : SeatEnv} {db db' : SeatDb} {a : SeatAction}
    (heffect : SeatEffect env db a db') (hkeys : KeyedBy HoldRow.id db.holds)
    (ha : ∀ seatId userId traceId d, a ≠ .insertHoldTx seatId userId traceId d) :
    KeyedBy HoldRow.id db'.holds := by
  cases heffect with
  | nothing => exact hkeys
  | held seatId userId traceId d seat outbox row hseat hfree happ hkind =>
    exact absurd rfl (ha seatId userId traceId d)
  | released a now p outbox rows hactive happ hrows => exact hkeys.update fun h _ => by rfl
  | reserved eventId consumerGroup traceId d hold outbox row hmem hactive hnew happ hkind =>
    exact hkeys.update fun h _ => by rfl

/-- Failing intents pays for the row that announces it. -/
theorem closeIntents_weight {p : PaymentIntentRow → Bool} {status : IntentStatus}
    (hp : ∀ i, p i = true → i.status = .pending) (hstatus : status ≠ .pending) (eventType : String)
    (event : PaymentIntentRow → Event) (traceId : String) (now : Nat) (db : PaymentDb) :
    (closeIntents p status eventType event traceId now db).2.weight ≤ db.weight := by
  unfold closeIntents
  have hcount := countP_update (q := isPending) (f := PaymentIntentRow.close status now)
    (t := db.intents) (fun i _ hi => by simpa [isPending] using hp i hi)
    (fun i _ => by simpa [isPending, PaymentIntentRow.close] using hstatus)
  have hlength := length_returning p (PaymentIntentRow.close status now) db.intents
  cases hrows : returning p (PaymentIntentRow.close status now) db.intents with
  | nil => exact Nat.le_refl _
  | cons intent rest =>
    rw [hrows, List.length_cons] at hlength
    simp only [PaymentDb.weight, Outbox.insert_rows, List.length_append, List.length_singleton]
    omega

/-! ### Messages -/

/-- Each queue is bound to one exchange. -/
theorem exchange_of_isRouted {exchange key : String} :
    (isRouted seatPaymentEventsQueue exchange key = true → exchange = paymentEventsExchange) ∧
      (isRouted paymentSeatEventsQueue exchange key = true → exchange = seatEventsExchange) := by
  constructor
  · intro h
    have hbinding : (seatPaymentEventsQueue, exchange, key) ∈ bindings := by
      simpa [isRouted] using h
    simp only [bindings, seatPaymentEventsQueue, paymentSeatEventsQueue, List.mem_cons,
      Prod.mk.injEq, List.not_mem_nil] at hbinding
    rcases hbinding with ⟨-, hexchange, -⟩ | ⟨-, hexchange, -⟩ | ⟨hqueue, -, -⟩ | hfalse
    · exact hexchange
    · exact hexchange
    · simp at hqueue
    · exact absurd hfalse (by simp)
  · intro h
    have hbinding : (paymentSeatEventsQueue, exchange, key) ∈ bindings := by
      simpa [isRouted] using h
    simp only [bindings, seatPaymentEventsQueue, paymentSeatEventsQueue, List.mem_cons,
      Prod.mk.injEq, List.not_mem_nil] at hbinding
    rcases hbinding with ⟨hqueue, -, -⟩ | ⟨hqueue, -, -⟩ | ⟨-, hexchange, -⟩ | hfalse
    · simp at hqueue
    · simp at hqueue
    · exact hexchange
    · exact absurd hfalse (by simp)

/-- The bindings put a row into one queue at most. -/
theorem length_routed_le (exchange : String) (row : OutboxRow) :
    (routed seatPaymentEventsQueue exchange row).length +
      (routed paymentSeatEventsQueue exchange row).length ≤ 1 := by
  by_cases hseat : isRouted seatPaymentEventsQueue exchange (routingKeyOf row.eventType) = true
  · have hnot : ¬ isRouted paymentSeatEventsQueue exchange (routingKeyOf row.eventType) = true := by
      intro hpayment
      have hsame := (exchange_of_isRouted.1 hseat).symm.trans (exchange_of_isRouted.2 hpayment)
      simp [paymentEventsExchange, seatEventsExchange] at hsame
    simp only [routed, if_pos hseat, if_neg hnot]
    exact Nat.le_refl _
  · simp only [routed, if_neg hseat]
    split <;> simp

theorem length_settle_lt {o : Outbox} {row : OutboxRow} (hrow : row ∈ o.rows) (now : Nat) :
    (o.settle now row true).rows.length < o.rows.length := by
  have hdeleted : (o.rows.filter fun r => !(r.id == row.id)).length < o.rows.length := by
    apply List.length_filter_lt_length_iff_exists.mpr
    exact ⟨row, hrow, by simp⟩
  exact hdeleted

theorem length_eraseIdx_lt {i : Nat} {queue : List OutboxRow} (h : i < queue.length) :
    (queue.eraseIdx i).length < queue.length := by
  rw [List.length_eraseIdx_of_lt h]
  omega

/-! ### One step -/

theorem onPaymentEvent_effect {db : SeatDb} (hkeys : KeyedBy HoldRow.id db.holds) (env : SeatEnv)
    (event : Event) (d : Draw) :
    (onPaymentEvent event d db).weight ≤ db.weight ∧
      KeyedBy HoldRow.id (onPaymentEvent event d db).holds := by
  cases event with
  | paymentSucceeded e =>
    have heffect := reserveHold_effect hkeys env e.holdId e.eventId "seat-service" e.traceId d
    exact ⟨(heffect.weight_le (by simp)).1, heffect.keyed_of_cascade hkeys (by simp)⟩
  | paymentFailed e =>
    have heffect := releaseHold_effect hkeys env e.holdId "payment_failed" e.traceId d
    exact ⟨(heffect.weight_le (by simp)).1, heffect.keyed_of_cascade hkeys (by simp)⟩
  | seatHeld e => exact ⟨Nat.le_refl _, hkeys⟩
  | seatReleased e => exact ⟨Nat.le_refl _, hkeys⟩
  | seatReserved e => exact ⟨Nat.le_refl _, hkeys⟩

theorem onSeatEvent_weight (event : Event) (d : Draw) (s : PaymentService) :
    (onSeatEvent event d s).db.weight ≤ s.db.weight := by
  cases event with
  | seatReleased e =>
    apply closeIntents_weight
    · intro i hi
      simp only [isPendingOnSeat, Bool.and_eq_true, beq_iff_eq] at hi
      exact hi.2
    · simp
  | seatHeld e => exact Nat.le_refl _
  | seatReserved e => exact Nat.le_refl _
  | paymentSucceeded e => exact Nat.le_refl _
  | paymentFailed e => exact Nat.le_refl _

/-- **Every step of the cascade takes weight away.** -/
theorem cascadeStep_weight (env : SystemEnv) {s : System}
    (hkeys : KeyedBy HoldRow.id s.seat.holds) {a : CascadeAction}
    (hok : CascadeEnabled env s a) : (cascadeStep env s a).weight < s.weight := by
  simp only [System.weight_eq]
  cases a with
  | publishSeat i now =>
    have hget : s.seat.outbox.rows[i]? = some s.seat.outbox.rows[i] := List.getElem?_eq_getElem hok
    have hlt := length_settle_lt (List.getElem_mem hok) now
    have hle := length_routed_le (seatExchangeOf s.seat.outbox.rows[i].eventType)
      s.seat.outbox.rows[i]
    simp only [cascadeStep, hget, publishSeatRow, publishTo, List.length_append, SeatDb.weight]
    omega
  | publishPayment i now =>
    have hget : s.payment.db.outbox.rows[i]? = some s.payment.db.outbox.rows[i] :=
      List.getElem?_eq_getElem hok
    have hlt := length_settle_lt (List.getElem_mem hok) now
    have hle := length_routed_le (paymentExchangeOf s.payment.db.outbox.rows[i].eventType)
      s.payment.db.outbox.rows[i]
    simp only [cascadeStep, hget, publishPaymentRow, publishTo, List.length_append,
      PaymentDb.weight]
    omega
  | consumeSeat i d =>
    have hlt := length_eraseIdx_lt hok
    have hget : s.seatQueue[i]? = some s.seatQueue[i] := List.getElem?_eq_getElem hok
    simp only [cascadeStep, systemStep, deliverToSeat, hget]
    split
    · have hle := (onPaymentEvent_effect hkeys env.seat s.seatQueue[i].payload d).1
      simp only [afterDelivery, if_true]
      omega
    · simp only
      omega
  | consumePayment i d =>
    have hlt := length_eraseIdx_lt hok
    have hget : s.paymentQueue[i]? = some s.paymentQueue[i] := List.getElem?_eq_getElem hok
    simp only [cascadeStep, systemStep, deliverToPayment, hget]
    split
    · have hle := onSeatEvent_weight s.paymentQueue[i].payload d s.payment
      simp only [afterDelivery, if_true]
      omega
    · simp only
      omega
  | sweep scan traceId now draw =>
    have heffect := tick_effect hkeys env.seat scan traceId now draw
    have hlt := (heffect.weight_le (by simp)).2 hok
    simp only [cascadeStep, systemStep]
    omega

theorem cascadeStep_keyed (env : SystemEnv) {s : System}
    (hkeys : KeyedBy HoldRow.id s.seat.holds) (a : CascadeAction) :
    KeyedBy HoldRow.id (cascadeStep env s a).seat.holds := by
  cases a with
  | publishSeat i now =>
    simp only [cascadeStep]
    split <;> exact hkeys
  | publishPayment i now =>
    simp only [cascadeStep]
    split <;> exact hkeys
  | consumeSeat i d =>
    simp only [cascadeStep, systemStep, deliverToSeat]
    split
    · exact hkeys
    · split
      · exact (onPaymentEvent_effect hkeys env.seat _ d).2
      · exact hkeys
  | consumePayment i d =>
    simp only [cascadeStep, systemStep, deliverToPayment]
    split
    · exact hkeys
    · split <;> exact hkeys
  | sweep scan traceId now draw =>
    exact (tick_effect hkeys env.seat scan traceId now draw).keyed_of_cascade hkeys (by simp)

/-- **The release cascade ends.**  From any state, a run of publishes, consumer steps
    and sweeper releases is no longer than three for each HELD hold and PENDING
    intent, two for each outbox row and one for each queued message. -/
theorem cascade_length_le (env : SystemEnv) (s : System)
    (hkeys : KeyedBy HoldRow.id s.seat.holds) (as : List CascadeAction)
    (hrun : Along (cascadeStep env) (CascadeEnabled env) s as) :
    as.length ≤
      3 * (s.seat.holds.countP isHeld + s.payment.db.intents.countP isPending) +
        2 * (s.seat.outbox.rows.length + s.payment.db.outbox.rows.length) +
          (s.seatQueue.length + s.paymentQueue.length) :=
  length_le_of_ranking (fun s => KeyedBy HoldRow.id s.seat.holds) System.weight
    (fun _ a h _ => cascadeStep_keyed env h a) (fun _ _ h hok => cascadeStep_weight env h hok)
    hkeys hrun

/-! ### A hold that expires -/

instance (env : SystemEnv) (s : System) (a : CascadeAction) :
    Decidable (CascadeEnabled env s a) := by
  unfold CascadeEnabled
  cases a <;> infer_instance

/-- User 101 holds seat 1 and has begun to pay for it. -/
def heldAndPending : System :=
  { seedSystem with
    seat := { seedDb with holds := [⟨301, 1, 101, .held, 1000, none, none⟩] }
    payment := { seedPrices with
      db := { seedPrices.db with
        intents :=
          [⟨201, 1, 101, 301, 1900, "USD", "pi_mock_1", .pending, 701, "secret", none⟩] } } }

/-- The sweep and everything it sets off. -/
def expiryCascade : List CascadeAction :=
  [.sweep ⟨[301], by decide⟩ 0xaa 2000 fun _ => (401, 2000), .publishSeat 0 2000,
   .consumePayment 0 ⟨402, 3000, 3000⟩, .publishPayment 0 3000,
   .consumeSeat 0 ⟨403, 4000, 4000⟩]

theorem expiryCascade_length_le : expiryCascade.length ≤ 6 :=
  cascade_length_le defaultSystemEnv heldAndPending (by unfold KeyedBy; decide) expiryCascade
    (by decide +kernel)

end SeatReservation
