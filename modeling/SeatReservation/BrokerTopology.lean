import SeatReservation.OutboxReplicas
import SeatReservation.TopicExchange

/-!
# Exchanges, queues and who declares them

Both services connect to one fresh broker in any order.  `Service.setup` is
`RabbitService.doConnect` after the channels have been opened: each process of a
service asserts all exchanges it publishes to, but only its own queue and
bindings.  Workers publish as soon as there is an exchange, so an event may be
published, confirmed and deleted while the queue of its consumer does not exist
yet.  `deleted_reaches_consumer` is what the outbox guarantees end to end: an
event published after its consumer has bound the routing key is in the
consumer's queue.
-/

namespace SeatReservation

open Relational TransitionSystem TopicExchange

/-! ### Set-up -/

/-- The queue a service consumes. -/
def Service.queue : Service → String
  | .seat => seatPaymentEventsQueue
  | .payment => paymentSeatEventsQueue

/-- `RabbitService.doConnect` of a service. -/
def Service.setup : Service → List Declaration
  | .seat =>
      [.assertExchange seatEventsExchange,
       .assertExchange paymentEventsExchange,
       .assertExchange (paymentEventsExchange ++ ".dlx"),
       .assertQueue seatPaymentEventsQueue,
       .bindQueue ⟨seatPaymentEventsQueue, paymentEventsExchange, "payment.succeeded"⟩,
       .bindQueue ⟨seatPaymentEventsQueue, paymentEventsExchange, "payment.failed"⟩,
       .assertQueue (seatPaymentEventsQueue ++ ".dlq"),
       .bindQueue ⟨seatPaymentEventsQueue ++ ".dlq", paymentEventsExchange ++ ".dlx", "#"⟩]
  | .payment =>
      [.assertExchange seatEventsExchange,
       .assertExchange paymentEventsExchange,
       .assertExchange (seatEventsExchange ++ ".dlx"),
       .assertQueue paymentSeatEventsQueue,
       .bindQueue ⟨paymentSeatEventsQueue, seatEventsExchange, "seat.released"⟩,
       .assertQueue (paymentSeatEventsQueue ++ ".dlq"),
       .bindQueue ⟨paymentSeatEventsQueue ++ ".dlq", seatEventsExchange ++ ".dlx", "#"⟩]

/-- The service that consumes the messages with a routing key. -/
def consumerOf (routingKey : String) : Option Service :=
  if routingKey = "seat.released" then some .payment
  else if routingKey = "payment.succeeded" then some .seat
  else if routingKey = "payment.failed" then some .seat
  else none

/-- Each statement comes after those it needs. -/
theorem Service.setup_ordered (service : Service) :
    ∀ n < service.setup.length, ∀ x ∈ service.setup[n]?, ∀ y ∈ x.needs,
      y ∈ service.setup.take n := by
  cases service <;> decide

def consumedKeys : List String := ["seat.released", "payment.succeeded", "payment.failed"]

theorem mem_consumedKeys {key : String} {consumer : Service}
    (h : consumerOf key = some consumer) : key ∈ consumedKeys := by
  unfold consumerOf at h
  split at h
  · simp [consumedKeys, *]
  · split at h
    · simp [consumedKeys, *]
    · split at h
      · simp [consumedKeys, *]
      · simp at h

theorem patternAccepts_consumed : ∀ key ∈ consumedKeys, patternAccepts key key = true := by
  decide

/-- The bindings a service declares. -/
def Service.bindings (service : Service) : List Binding :=
  service.setup.filterMap fun y => match y with
    | .bindQueue x => some x
    | _ => none

theorem Service.mem_bindings {service : Service} {x : Binding} :
    x ∈ service.bindings ↔ .bindQueue x ∈ service.setup := by
  rw [Service.bindings, List.mem_filterMap]
  constructor
  · rintro ⟨y, hy, hbinding⟩
    cases y with
    | bindQueue z =>
      simp only [Option.some.injEq] at hbinding
      rw [← hbinding]
      exact hy
    | assertExchange name => simp at hbinding
    | assertQueue name => simp at hbinding
  · intro hx
    exact ⟨.bindQueue x, hx, rfl⟩

/-- A binding that takes a key to the queue of its consumer is the consumer's own. -/
theorem binding_of_consumer (service consumer : Service) :
    ∀ key ∈ consumedKeys, consumerOf key = some consumer → ∀ x ∈ service.bindings,
      x.queue = consumer.queue → patternAccepts x.pattern key = true →
        service = consumer ∧ x.pattern = key := by
  cases service <;> cases consumer <;> decide

/-! ### State and steps -/

structure Deployment where
  fleet : Service → Fleet
  broker : Broker Message
  /-- The set-up statements that have run, with the process that ran them. -/
  declared : List (Service × Nat × Declaration)

def Deployment.start (now : Nat) : Deployment := ⟨fun _ => Fleet.start now, Broker.fresh, []⟩

inductive DeploymentAction where
  | declare (service : Service) (k : Nat)
  | worker (service : Service) (a : FleetAction)

/-- How far process `k` of the service has come in its set-up. -/
def Deployment.progress (d : Deployment) (service : Service) (k : Nat) : Nat :=
  (d.declared.filter fun x => x.1 == service && x.2.1 == k).length

/-- The row `processRow` hands to `publish`. -/
def Fleet.handed (s : Fleet) (k id : Nat) : Option OutboxRow :=
  match s.copies.find? (Copy.isOf k id) with
  | some ⟨⟨row, none⟩, _, _, _⟩ => some row
  | _ => none

/-- The message a step gets confirmed. -/
def Fleet.sent (service : Service) (s : Fleet) : FleetAction → Option Message
  | .publish k id true => (s.handed k id).map service.message
  | _ => none

/-- A publish to an exchange nobody has asserted closes the channel. -/
def Deployment.answered (d : Deployment) (service : Service) : FleetAction → FleetAction
  | .publish k id ok =>
      .publish k id (ok && ((d.fleet service).handed k id).any fun row =>
        d.broker.exchanges.contains (service.exchangeOf row.eventType))
  | a => a

def deploymentStep (d : Deployment) : DeploymentAction → Deployment
  | .declare service k =>
      match service.setup[d.progress service k]? with
      | some x =>
          { d with
            broker := d.broker.declare x
            declared := d.declared ++ [(service, k, x)] }
      | none => d
  | .worker service a =>
      let a := d.answered service a
      { d with
        fleet := fun x =>
          if x = service then fleetStep service (d.fleet service) a else d.fleet x
        broker :=
          match (d.fleet service).sent service a with
          | some m => d.broker.publish m.exchange m.routingKey m
          | none => d.broker }

/-! ### Set-up in progress -/

/-- What has been declared, and by whom. -/
structure SetUp (d : Deployment) : Prop where
  ordered : ∀ service k,
    ((d.declared.filter fun x => x.1 == service && x.2.1 == k).map (·.2.2)) =
      service.setup.take (d.progress service k)
  inEffect : ∀ x ∈ d.declared, d.broker.Has x.2.2
  only : ∀ y, d.broker.Has y → ∃ x ∈ d.declared, x.2.2 = y

theorem setUp_start (now : Nat) : SetUp (Deployment.start now) := by
  constructor
  · intro service k
    simp [Deployment.start, Deployment.progress]
  · simp [Deployment.start]
  · intro y hy
    cases y <;> simp [Deployment.start, Broker.fresh, Broker.Has] at hy

/-- What has been declared is part of the set-up of the service that did. -/
theorem SetUp.mem_setup {d : Deployment} (h : SetUp d) {x : Service × Nat × Declaration}
    (hx : x ∈ d.declared) : x.2.2 ∈ x.1.setup := by
  have hmem : x.2.2 ∈
      (d.declared.filter fun y => y.1 == x.1 && y.2.1 == x.2.1).map (·.2.2) :=
    List.mem_map_of_mem (List.mem_filter.mpr ⟨hx, by simp⟩)
  rw [h.ordered] at hmem
  exact List.mem_of_mem_take hmem

/-- The statements before the next one of a process are in effect. -/
theorem SetUp.has_of_mem_take {d : Deployment} (h : SetUp d) {service : Service} {k : Nat}
    {y : Declaration} (hy : y ∈ service.setup.take (d.progress service k)) : d.broker.Has y := by
  rw [← h.ordered] at hy
  obtain ⟨x, hx, rfl⟩ := List.mem_map.mp hy
  exact h.inEffect x (List.mem_of_mem_filter hx)

theorem SetUp.declare {d : Deployment} (h : SetUp d) {service : Service} {k : Nat}
    {x : Declaration} (hx : service.setup[d.progress service k]? = some x) :
    SetUp
      { d with
        broker := d.broker.declare x
        declared := d.declared ++ [(service, k, x)] } where
  ordered := by
    intro service' k'
    simp only [Deployment.progress, List.filter_append, List.map_append, List.length_append]
    by_cases hprocess : service = service' ∧ k = k'
    · obtain ⟨rfl, rfl⟩ := hprocess
      have hlength : (List.filter (fun y : Service × Nat × Declaration =>
          y.1 == service && y.2.1 == k) [(service, k, x)]) = [(service, k, x)] := by simp
      rw [hlength, h.ordered]
      have hget : service.setup.take (d.progress service k + 1) =
          service.setup.take (d.progress service k) ++ [x] := by
        rw [List.take_add_one, hx]
        rfl
      exact hget.symm
    · have hnone : (List.filter (fun y : Service × Nat × Declaration =>
          y.1 == service' && y.2.1 == k') [(service, k, x)]) = [] := by
        simp only [List.filter_cons, List.filter_nil]
        rw [if_neg]
        simpa using hprocess
      rw [hnone, h.ordered]
      simp [Deployment.progress]
  inEffect := by
    have hlt : d.progress service k < service.setup.length :=
      (List.getElem?_eq_some_iff.mp hx).1
    intro y hy
    rcases List.mem_append.mp hy with hy | hy
    · exact (h.inEffect y hy).declare x
    · rw [List.mem_singleton.mp hy]
      apply Broker.has_declare_self
      intro z hz
      exact h.has_of_mem_take (service.setup_ordered _ hlt x hx z hz)
  only := by
    intro y hy
    rcases Broker.has_of_declare hy with hy | rfl
    · obtain ⟨z, hz, hdecl⟩ := h.only y hy
      exact ⟨z, List.mem_append_left _ hz, hdecl⟩
    · exact ⟨(service, k, y), List.mem_append_right _ (List.mem_singleton_self _), rfl⟩

/-- A step of a worker declares nothing. -/
theorem SetUp.worker {d : Deployment} (h : SetUp d) {fleet : Service → Fleet}
    {broker : Broker Message} (hhas : ∀ y, broker.Has y ↔ d.broker.Has y) :
    SetUp { d with fleet := fleet, broker := broker } where
  ordered := h.ordered
  inEffect := fun x hx => (hhas _).mpr (h.inEffect x hx)
  only := fun y hy => h.only y ((hhas y).mp hy)

theorem Broker.has_publish (b : Broker Message) (exchange key : String) (m : Message)
    (y : Declaration) : (b.publish exchange key m).Has y ↔ b.Has y := by
  cases y <;> rfl

theorem SetUp.step {d : Deployment} (h : SetUp d) (a : DeploymentAction) :
    SetUp (deploymentStep d a) := by
  cases a with
  | declare service k =>
    simp only [deploymentStep]
    split
    · rename_i x hx
      exact h.declare hx
    · exact h
  | worker service a =>
    apply h.worker
    intro y
    split
    · exact Broker.has_publish d.broker _ _ _ y
    · exact Iff.rfl

/-! ### Messages and their consumers -/

/-- A process of the consumer of `m` has bound its queue to the routing key. -/
def Deployment.Bound (d : Deployment) (m : Message) : Prop :=
  ∀ consumer ∈ consumerOf m.routingKey, ∃ x ∈ d.declared, x.1 = consumer ∧
    x.2.2 = .bindQueue ⟨consumer.queue, m.exchange, m.routingKey⟩

instance (d : Deployment) (m : Message) : Decidable (d.Bound m) :=
  inferInstanceAs (Decidable (∀ consumer ∈ consumerOf m.routingKey, _))

/-- The message goes to the queue of its consumer. -/
def Deployment.Reaches (d : Deployment) (m : Message) : Prop :=
  ∀ consumer ∈ consumerOf m.routingKey,
    consumer.queue ∈ d.broker.route m.exchange m.routingKey

/-- **A message reaches its consumer iff a process of the consumer has bound it.** -/
theorem SetUp.reaches_iff {d : Deployment} (h : SetUp d) (m : Message) :
    d.Reaches m ↔ d.Bound m := by
  constructor
  · intro hreaches consumer hconsumer
    have hkey := mem_consumedKeys hconsumer
    obtain ⟨x, hx, hqueue, hexchange, haccepts⟩ :=
      Broker.mem_route.mp (hreaches consumer hconsumer)
    obtain ⟨y, hy, hdeclared⟩ := h.only (.bindQueue x) hx
    have hsetup : .bindQueue x ∈ y.1.setup := by
      rw [← hdeclared]
      exact h.mem_setup hy
    obtain ⟨hservice, hpattern⟩ := binding_of_consumer y.1 consumer _ hkey hconsumer x
      (Service.mem_bindings.mpr hsetup) hqueue haccepts
    refine ⟨y, hy, hservice, ?_⟩
    rw [hdeclared, ← hqueue, ← hexchange, ← hpattern]
  · intro hbound consumer hconsumer
    obtain ⟨x, hx, -, hdeclared⟩ := hbound consumer hconsumer
    have hhas := h.inEffect x hx
    rw [hdeclared] at hhas
    exact Broker.mem_route.mpr ⟨_, hhas, rfl, rfl,
      patternAccepts_consumed _ (mem_consumedKeys hconsumer)⟩

/-- Every message a step gets confirmed goes to the queue of its consumer. -/
def SendsToConsumer (d : Deployment) : DeploymentAction → Prop
  | .worker service a => ∀ m ∈ (d.fleet service).sent service (d.answered service a), d.Reaches m
  | _ => True

/-- A message is confirmed only after its consumer has bound the routing key. -/
def ConsumerReady (d : Deployment) : DeploymentAction → Prop
  | .worker service a => ∀ m ∈ (d.fleet service).sent service (d.answered service a), d.Bound m
  | _ => True

instance (d : Deployment) (a : DeploymentAction) : Decidable (ConsumerReady d a) := by
  unfold ConsumerReady
  cases a <;> infer_instance

/-- The condition is exact, step by step. -/
theorem sends_iff_ready (now : Nat) (as : List DeploymentAction) :
    Along deploymentStep SendsToConsumer (Deployment.start now) as ↔
      Along deploymentStep ConsumerReady (Deployment.start now) as := by
  apply along_iff_along SetUp _ _ (setUp_start now)
  · intro d a h _
    exact h.step a
  · intro d a h
    cases a with
    | declare service k => exact Iff.rfl
    | worker service a =>
      simp only [SendsToConsumer, ConsumerReady, h.reaches_iff]

theorem fleetStep_confirmed (service : Service) (s : Fleet) (a : FleetAction) :
    (fleetStep service s a).confirmed = s.confirmed ++ (s.sent service a).toList := by
  cases a with
  | publish k id ok =>
    simp only [fleetStep, Fleet.sent, Fleet.handed]
    cases hfind : s.copies.find? (Copy.isOf k id) with
    | none => cases ok <;> simp [hfind]
    | some c =>
      obtain ⟨⟨row, published⟩, replica, claimedAt, lost⟩ := c
      cases published <;> cases ok <;> simp [hfind]
  | wait ms => simp [fleetStep, Fleet.sent]
  | insert aggregateId eventType payload headers => simp [fleetStep, Fleet.sent]
  | recover k =>
    simp only [fleetStep, Fleet.sent]
    split <;> simp
  | claim k locked =>
    simp only [fleetStep, Fleet.sent]
    split <;> simp
  | settle k id =>
    simp only [fleetStep, Fleet.sent]
    split <;> simp
  | crash k => simp [fleetStep, Fleet.sent]

/-- Whatever was confirmed is in the queue of its consumer. -/
structure Delivered (d : Deployment) : Prop where
  setUp : SetUp d
  accounted : ∀ service, Accounted service (d.fleet service)
  enqueued : ∀ service, ∀ m ∈ (d.fleet service).confirmed, ∀ consumer ∈ consumerOf m.routingKey,
    (consumer.queue, m) ∈ d.broker.enqueued

theorem delivered_start (now : Nat) : Delivered (Deployment.start now) :=
  ⟨setUp_start now, fun service => accounted_start service now, by
    simp [Deployment.start, Fleet.start]⟩

/-- The broker after a worker's step. -/
theorem enqueued_step {d : Deployment} {service : Service} {a : FleetAction}
    (hok : ConsumerReady d (.worker service a)) (hsetUp : SetUp d) :
    d.broker.enqueued ⊆ (deploymentStep d (.worker service a)).broker.enqueued ∧
      ∀ m ∈ (d.fleet service).sent service (d.answered service a),
        ∀ consumer ∈ consumerOf m.routingKey,
          (consumer.queue, m) ∈ (deploymentStep d (.worker service a)).broker.enqueued := by
  simp only [deploymentStep]
  cases hsent : (d.fleet service).sent service (d.answered service a) with
  | none => exact ⟨List.Subset.refl _, by simp⟩
  | some m =>
    refine ⟨fun x hx => List.mem_append_left _ hx, ?_⟩
    rintro m' hm' consumer hconsumer
    simp only [Option.mem_def, Option.some.injEq] at hm'
    subst hm'
    have hreaches := (hsetUp.reaches_iff m).mpr (hok m hsent)
    exact Broker.mem_publish.mpr (Or.inr ⟨rfl, hreaches consumer hconsumer⟩)

theorem Delivered.step {d : Deployment} (h : Delivered d) {a : DeploymentAction}
    (hok : ConsumerReady d a) : Delivered (deploymentStep d a) := by
  refine ⟨h.setUp.step a, ?_, ?_⟩
  · intro service'
    cases a with
    | declare service k =>
      simp only [deploymentStep]
      split <;> exact h.accounted service'
    | worker service a =>
      simp only [deploymentStep]
      split
      · rename_i heq
        rw [heq]
        exact (h.accounted service).effect (fleetStep_effect service _ _)
      · exact h.accounted service'
  · intro service' m hm consumer hconsumer
    cases a with
    | declare service k =>
      simp only [deploymentStep] at hm ⊢
      split at hm
      · rw [Broker.declare_enqueued]
        exact h.enqueued service' m hm consumer hconsumer
      · exact h.enqueued service' m hm consumer hconsumer
    | worker service a =>
      obtain ⟨hkept, hnew⟩ := enqueued_step hok h.setUp
      by_cases hservice : service' = service
      · subst hservice
        simp only [deploymentStep, if_true, fleetStep_confirmed] at hm
        rcases List.mem_append.mp hm with hm | hm
        · exact hkept (h.enqueued service' m hm consumer hconsumer)
        · exact hnew m (by simpa using hm) consumer hconsumer
      · simp only [deploymentStep, if_neg hservice] at hm
        exact hkept (h.enqueued service' m hm consumer hconsumer)

/-- The event types that have a consumer. -/
def consumedTypes : List String :=
  ["seat.released.v1", "payment.succeeded.v1", "payment.failed.v1"]

theorem consumerOf_consumedTypes :
    ∀ eventType ∈ consumedTypes, (consumerOf (routingKeyOf eventType)).isSome := by
  decide

/-- The event is in the queue of the service that consumes it. -/
def Deployment.HasEnqueued (d : Deployment) (service : Service) (e : OutboxRow) : Prop :=
  ∃ consumer ∈ consumerOf (routingKeyOf e.eventType),
    (consumer.queue, service.message e) ∈ d.broker.enqueued

instance (d : Deployment) (service : Service) (e : OutboxRow) :
    Decidable (d.HasEnqueued service e) :=
  inferInstanceAs (Decidable (∃ consumer ∈ consumerOf (routingKeyOf e.eventType), _))

/-- **A deleted event has reached its consumer**, in every run in which a process of
    the consumer binds the routing key before an event under it is confirmed. -/
theorem deleted_reaches_consumer (now : Nat) {as : List DeploymentAction}
    (hready : Along deploymentStep ConsumerReady (Deployment.start now) as) :
    let d := exec deploymentStep (Deployment.start now) as
    ∀ service, ∀ e ∈ (d.fleet service).outbox.history, e.eventType ∈ consumedTypes →
      (∀ r ∈ (d.fleet service).outbox.rows, r.id ≠ e.id) → d.HasEnqueued service e := by
  intro d service e he htype hdeleted
  have hdelivered : Delivered d :=
    exec_invariant Delivered (fun d a h hok => h.step hok) (delivered_start now) hready
  obtain ⟨consumer, hconsumer⟩ := Option.isSome_iff_exists.mp (consumerOf_consumedTypes _ htype)
  refine ⟨consumer, hconsumer, ?_⟩
  rcases (hdelivered.accounted service).kept e he with ⟨r, hr, hcontent⟩ | hconfirmed
  · exact absurd (OutboxRow.id_eq_of_content hcontent) (hdeleted r hr)
  · exact hdelivered.enqueued service _ hconfirmed consumer hconsumer

/-! ### Start-up orders -/

/-- Process `k` of a service connects. -/
def connect (service : Service) (k : Nat) : List DeploymentAction :=
  service.setup.map fun _ => .declare service k

/-- A tick of the seat service that publishes its first row. -/
def publishReleased : List DeploymentAction :=
  [.worker .seat (.recover 0), .worker .seat (.claim 0 []), .worker .seat (.publish 0 1 true),
   .worker .seat (.settle 0 1)]

/-- The seat service commits a release. -/
def commitReleased : DeploymentAction := .worker .seat insertReleased

/-- Both services connect, then a seat is released. -/
def bothConnected : List DeploymentAction :=
  connect .seat 0 ++ connect .payment 0 ++ commitReleased :: publishReleased

/-- The payment service connects after the release has been published. -/
def paymentLate : List DeploymentAction :=
  connect .seat 0 ++ commitReleased :: publishReleased ++ connect .payment 0

theorem released_reaches_payment :
    let d := exec deploymentStep (Deployment.start 0) bothConnected
    ∀ service, ∀ e ∈ (d.fleet service).outbox.history, e.eventType ∈ consumedTypes →
      (∀ r ∈ (d.fleet service).outbox.rows, r.id ≠ e.id) → d.HasEnqueued service e :=
  deleted_reaches_consumer 0 (by decide +kernel)

/-- The release is deleted and in nobody's queue. -/
theorem released_lost :
    let d := exec deploymentStep (Deployment.start 0) paymentLate
    ∃ e ∈ (d.fleet .seat).outbox.history, e.eventType ∈ consumedTypes ∧
      (∀ r ∈ (d.fleet .seat).outbox.rows, r.id ≠ e.id) ∧ ¬ d.HasEnqueued .seat e := by
  decide +kernel

end SeatReservation
