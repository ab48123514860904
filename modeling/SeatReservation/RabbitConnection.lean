import SeatReservation.BrokerTopology

/-!
# Connecting to the broker

`RabbitService` keeps three fields: `conn` and `pubChannel`, which `doConnect`
sets at its first two awaits, and `connecting`, the promise of `doConnect`,
which is never cleared.  `connect()` returns at once when `conn` is set, so a
call between the first await and the last declaration is told too early that
the broker can be used, and no call after a failure tries again
(`connect_reliable_iff`).
-/

namespace SeatReservation

open TransitionSystem TopicExchange

/-! ### `doConnect` -/

/-- What `doConnect` waits for after `amqp.connect`. -/
inductive SetupOperation where
  | createConfirmChannel
  | createChannel
  | declare (d : Declaration)
  | close
deriving DecidableEq, Repr

/-- The exchanges are asserted on the confirm channel, queues and bindings on a channel
    of their own. -/
def Service.operations (service : Service) : List SetupOperation :=
  .createConfirmChannel :: (service.setup.take 3).map .declare ++
    .createChannel :: (service.setup.drop 3).map .declare ++ [.close]

/-- What the promise of `doConnect` is waiting for, or how it has been settled. -/
inductive Connecting where
  | dialing (attempt : Nat)
  | backoff (attempt : Nat)
  | settingUp (passed : Nat)
  | resolved
  | rejected
deriving DecidableEq, Repr

/-! ### The service -/

inductive RabbitCall where
  | connect
  | publish (m : Message)
  | consume (queue : String)
deriving DecidableEq

/-- How `connect()` ends for a call, and what a publish finds in `pubChannel` afterwards. -/
inductive RabbitReturn where
  | resolved
  | rejected
  | nullChannel
deriving DecidableEq, Repr

structure Rabbit where
  conn : Bool
  pubChannel : Bool
  connecting : Option Connecting
  /-- The calls that await `connecting`. -/
  waiting : List RabbitCall
  returned : List (RabbitCall × RabbitReturn)
  /-- How often `doConnect` has been called. -/
  attempts : Nat
  /-- What `doConnect` has declared. -/
  declared : List Declaration

def Rabbit.start : Rabbit := ⟨false, false, none, [], [], 0, []⟩

/-- `broker` is the answer, or the failure, `doConnect` is waiting for; `wake` is a waiting
    call that goes on when the promise has been settled. -/
inductive RabbitAction where
  | call (c : RabbitCall)
  | broker (ok : Bool)
  | timeout
  | wake (i : Nat)

/-- Does the call go through `connect()`? -/
def Rabbit.needsConnect (s : Rabbit) : RabbitCall → Bool
  | .connect => true
  | .publish _ => !s.pubChannel
  | .consume _ => !s.conn

/-- The call goes on with the fields it finds. -/
def Rabbit.goOn (s : Rabbit) : RabbitCall → RabbitReturn
  | .connect => .resolved
  | .publish _ => if s.pubChannel then .resolved else .nullChannel
  | .consume _ => if s.conn then .resolved else .nullChannel

def Rabbit.settle (s : Rabbit) (c : RabbitCall) (r : RabbitReturn) : Rabbit :=
  { s with returned := s.returned ++ [(c, r)] }

def Rabbit.connect (s : Rabbit) (c : RabbitCall) : Rabbit :=
  if s.conn then s.settle c (s.goOn c)
  else
    match s.connecting with
    | some _ => { s with waiting := s.waiting ++ [c] }
    | none =>
        { s with
          connecting := some (.dialing 1)
          waiting := s.waiting ++ [c]
          attempts := s.attempts + 1 }

/-- An operation of `doConnect` has succeeded. -/
def Rabbit.perform (s : Rabbit) : SetupOperation → Rabbit
  | .createConfirmChannel => { s with pubChannel := true }
  | .createChannel => s
  | .declare d => { s with declared := s.declared ++ [d] }
  | .close => s

/-- `doConnect` goes on with the answer of the broker. -/
def Rabbit.reply (service : Service) (s : Rabbit) (ok : Bool) : Rabbit :=
  match s.connecting with
  | some (.dialing attempt) =>
      if ok then { s with conn := true, connecting := some (.settingUp 0) }
      else if 10 ≤ attempt then { s with connecting := some .rejected }
      else { s with connecting := some (.backoff attempt) }
  | some (.settingUp passed) =>
      match service.operations[passed]? with
      | some operation =>
          if ok then
            { s.perform operation with
              connecting :=
                if passed + 1 = service.operations.length then some .resolved
                else some (.settingUp (passed + 1)) }
          else { s with connecting := some .rejected }
      | none => s
  | _ => s

def Rabbit.step (service : Service) (s : Rabbit) : RabbitAction → Rabbit
  | .call c => if s.needsConnect c then s.connect c else s.settle c (s.goOn c)
  | .broker ok => s.reply service ok
  | .timeout =>
      match s.connecting with
      | some (.backoff attempt) => { s with connecting := some (.dialing (attempt + 1)) }
      | _ => s
  | .wake i =>
      match s.waiting[i]?, s.connecting with
      | some c, some .resolved => { s with waiting := s.waiting.eraseIdx i }.settle c (s.goOn c)
      | some c, some .rejected => { s with waiting := s.waiting.eraseIdx i }.settle c .rejected
      | _, _ => s

/-! ### What `connect()` should tell -/

/-- Events can be published and consumed. -/
def Rabbit.Usable (service : Service) (s : Rabbit) : Prop :=
  s.pubChannel = true ∧ ∀ d ∈ service.setup, d ∈ s.declared

/-- A step that calls `connect()`. -/
def Rabbit.entersConnect (s : Rabbit) : RabbitAction → Bool
  | .call c => s.needsConnect c
  | _ => false

/-- A step in which a `connect()` resolves. -/
def Rabbit.connectResolves (s : Rabbit) : RabbitAction → Bool
  | .call c => s.needsConnect c && s.conn
  | .wake i => s.waiting[i]?.isSome && s.connecting == some .resolved
  | _ => false

/-- A `connect()` that resolves means a usable broker, and one that is called after a
    failure tries again. -/
def Rabbit.ConnectReliable (service : Service) (s : Rabbit) (a : RabbitAction) : Prop :=
  (s.connectResolves a = true → s.Usable service) ∧
  (s.entersConnect a = true → s.connecting = some .rejected →
    (s.step service a).attempts = s.attempts + 1)

/-- `connect()` is not called between the success of `amqp.connect` and the last
    declaration, nor after a failure. -/
def Rabbit.CalledInTime (service : Service) (s : Rabbit) (a : RabbitAction) : Prop :=
  s.entersConnect a = true → s.connecting ≠ some .rejected ∧
    ∀ passed, s.connecting = some (.settingUp passed) → passed + 1 = service.operations.length

instance (service : Service) (s : Rabbit) : Decidable (s.Usable service) :=
  inferInstanceAs (Decidable (_ ∧ _))

instance (service : Service) (s : Rabbit) (a : RabbitAction) :
    Decidable (s.ConnectReliable service a) :=
  inferInstanceAs (Decidable ((_ → _) ∧ (_ → _ → _)))

/-! ### The fields follow the promise -/

def SetupOperation.declaration : SetupOperation → Option Declaration
  | .declare d => some d
  | _ => none

/-- The first operations of `doConnect` have succeeded. -/
structure Rabbit.Passed (service : Service) (s : Rabbit) (n : Nat) : Prop where
  conn : s.conn = true
  pubChannel : s.pubChannel = decide (SetupOperation.createConfirmChannel ∈
    service.operations.take n)
  declared : s.declared = (service.operations.take n).filterMap SetupOperation.declaration

/-- Nothing is missing when only the channel of the queues is left to be closed, and not
    before. -/
theorem passed_all_iff (service : Service) : ∀ n < service.operations.length + 1,
    ((SetupOperation.createConfirmChannel ∈ service.operations.take n ∧
      ∀ d ∈ service.setup,
        d ∈ (service.operations.take n).filterMap SetupOperation.declaration) ↔
      service.operations.length ≤ n + 1) := by
  cases service <;> decide +kernel

theorem Rabbit.Passed.usable_iff {service : Service} {s : Rabbit} {n : Nat}
    (h : s.Passed service n) (hn : n ≤ service.operations.length) :
    s.Usable service ↔ service.operations.length ≤ n + 1 := by
  rw [← passed_all_iff service n (Nat.lt_succ_of_le hn), Rabbit.Usable, h.pubChannel, h.declared,
    decide_eq_true_eq]

theorem Rabbit.Passed.usable {service : Service} {s : Rabbit}
    (h : s.Passed service service.operations.length) : s.Usable service :=
  (h.usable_iff (Nat.le_refl _)).mpr (Nat.le_succ _)

theorem Rabbit.Passed.congr {service : Service} {s s' : Rabbit} {n : Nat} (h : s.Passed service n)
    (hconn : s'.conn = s.conn) (hchannel : s'.pubChannel = s.pubChannel)
    (hdeclared : s'.declared = s.declared) : s'.Passed service n :=
  ⟨hconn.trans h.conn, hchannel.trans h.pubChannel, hdeclared.trans h.declared⟩

/-- Where `doConnect` is, and what the fields say then. -/
def Rabbit.Follows (service : Service) (s : Rabbit) : Option Connecting → Prop
  | some (.settingUp n) => n < service.operations.length ∧ s.Passed service n
  | some .resolved => s.Passed service service.operations.length
  | some .rejected =>
      ∃ n, s.declared = (service.operations.take n).filterMap SetupOperation.declaration
  | _ => s.conn = false ∧ s.pubChannel = false ∧ s.declared = []

def Rabbit.Consistent (service : Service) (s : Rabbit) : Prop := s.Follows service s.connecting

theorem Rabbit.consistent_start (service : Service) : Rabbit.start.Consistent service :=
  ⟨rfl, rfl, rfl⟩

/-- The lists of calls and the number of attempts are not looked at. -/
theorem Rabbit.Follows.congr {service : Service} {s s' : Rabbit} {p : Option Connecting}
    (h : s.Follows service p) (hconn : s'.conn = s.conn) (hchannel : s'.pubChannel = s.pubChannel)
    (hdeclared : s'.declared = s.declared) : s'.Follows service p := by
  cases p with
  | none => exact ⟨hconn.trans h.1, hchannel.trans h.2.1, hdeclared.trans h.2.2⟩
  | some stage =>
    cases stage with
    | dialing attempt => exact ⟨hconn.trans h.1, hchannel.trans h.2.1, hdeclared.trans h.2.2⟩
    | backoff attempt => exact ⟨hconn.trans h.1, hchannel.trans h.2.1, hdeclared.trans h.2.2⟩
    | settingUp n => exact ⟨h.1, h.2.congr hconn hchannel hdeclared⟩
    | resolved => exact Rabbit.Passed.congr h hconn hchannel hdeclared
    | rejected => exact h.imp fun n hn => hdeclared.trans hn

/-- An operation that succeeds is one more that has passed. -/
theorem Rabbit.Passed.perform {service : Service} {s : Rabbit} {n : Nat}
    (h : s.Passed service n) {operation : SetupOperation}
    (hn : service.operations[n]? = some operation) (p : Option Connecting) :
    Rabbit.Passed service { s.perform operation with connecting := p } (n + 1) := by
  have htake : service.operations.take (n + 1) = service.operations.take n ++ [operation] := by
    rw [List.take_add_one, hn]
    rfl
  constructor
  · cases operation <;> exact h.conn
  · rw [htake]
    cases operation <;> simp [Rabbit.perform, h.pubChannel]
  · rw [htake, List.filterMap_append]
    cases operation <;> simp [Rabbit.perform, h.declared, SetupOperation.declaration]

theorem Rabbit.Consistent.reply {service : Service} {s : Rabbit} (h : s.Consistent service)
    (ok : Bool) : (s.reply service ok).Consistent service := by
  unfold Rabbit.reply
  split
  · rename_i attempt hstage
    rw [Rabbit.Consistent, hstage] at h
    split
    · exact ⟨by cases service <;> decide, rfl, h.2.1, h.2.2⟩
    · split
      · exact ⟨0, h.2.2⟩
      · exact h
  · rename_i n hstage
    rw [Rabbit.Consistent, hstage] at h
    obtain ⟨hn, hpassed⟩ := h
    split
    · rename_i operation hoperation
      split
      · have hnext := hpassed.perform hoperation
        split
        · rename_i hlast
          rw [hlast] at hnext
          exact hnext _
        · exact ⟨by omega, hnext _⟩
      · exact ⟨n, hpassed.declared⟩
    · rw [Rabbit.Consistent, hstage]
      exact ⟨hn, hpassed⟩
  · exact h

theorem Rabbit.Consistent.step {service : Service} {s : Rabbit} (h : s.Consistent service)
    (a : RabbitAction) : (s.step service a).Consistent service := by
  cases a with
  | call c =>
    simp only [Rabbit.step, Rabbit.connect]
    split
    · split
      · exact h.congr rfl rfl rfl
      · split
        · rename_i hconn stage hstage
          exact h.congr rfl rfl rfl
        · rename_i hconn hstage
          rw [Rabbit.Consistent, hstage] at h
          exact h
    · exact h.congr rfl rfl rfl
  | broker ok => exact h.reply ok
  | timeout =>
    simp only [Rabbit.step]
    split
    · rename_i attempt hstage
      rw [Rabbit.Consistent, hstage] at h
      exact h
    · exact h
  | wake i =>
    simp only [Rabbit.step]
    split
    · exact h.congr rfl rfl rfl
    · exact h.congr rfl rfl rfl
    · exact h

/-! ### Exactly when `connect()` can be relied on -/

/-- An answer of the broker does not start `doConnect` again. -/
theorem Rabbit.reply_attempts (service : Service) (s : Rabbit) (ok : Bool) :
    (s.reply service ok).attempts = s.attempts := by
  unfold Rabbit.reply
  split
  · split
    · rfl
    · split <;> rfl
  · split
    · rename_i operation _
      split
      · cases operation <;> rfl
      · rfl
    · rfl
  · rfl

/-- Once a call has started `doConnect`, no step starts it again. -/
theorem Rabbit.attempts_step (service : Service) {s : Rabbit} {stage : Connecting}
    (h : s.connecting = some stage) (a : RabbitAction) :
    (s.step service a).attempts = s.attempts := by
  cases a with
  | call c =>
    simp only [Rabbit.step, Rabbit.connect, h]
    split
    · split <;> rfl
    · rfl
  | broker ok => exact s.reply_attempts service ok
  | timeout =>
    simp only [Rabbit.step]
    split <;> rfl
  | wake i =>
    simp only [Rabbit.step]
    split <;> rfl

theorem Rabbit.Consistent.reliable_iff {service : Service} {s : Rabbit}
    (h : s.Consistent service) (a : RabbitAction) :
    s.ConnectReliable service a ↔ s.CalledInTime service a := by
  cases a with
  | call c =>
    simp only [Rabbit.ConnectReliable, Rabbit.CalledInTime, Rabbit.entersConnect,
      Rabbit.connectResolves, Bool.and_eq_true, and_imp, ← forall_and]
    apply forall_congr'
    intro _
    cases hstage : s.connecting with
    | none =>
      rw [Rabbit.Consistent, hstage] at h
      simp [h.1]
    | some stage =>
      rw [Rabbit.Consistent, hstage] at h
      rw [Rabbit.attempts_step service hstage]
      cases stage with
      | dialing attempt => simp [h.1]
      | backoff attempt => simp [h.1]
      | settingUp n =>
        have husable := h.2.usable_iff (Nat.le_of_lt h.1)
        have hlt := h.1
        simp only [h.2.conn, husable, Option.some.injEq, Connecting.settingUp.injEq, reduceCtorEq,
          false_imp_iff, forall_const, and_true, ne_eq, not_false_eq_true, true_and, forall_eq']
        omega
      | resolved => simp [Rabbit.Passed.conn h, Rabbit.Passed.usable h]
      | rejected => simp
  | broker ok => simp [Rabbit.ConnectReliable, Rabbit.CalledInTime, Rabbit.entersConnect,
      Rabbit.connectResolves]
  | timeout => simp [Rabbit.ConnectReliable, Rabbit.CalledInTime, Rabbit.entersConnect,
      Rabbit.connectResolves]
  | wake i =>
    have hresolved : s.connectResolves (.wake i) = true → s.Usable service := by
      intro hwakes
      simp only [Rabbit.connectResolves, Bool.and_eq_true, beq_iff_eq] at hwakes
      rw [Rabbit.Consistent, hwakes.2] at h
      exact Rabbit.Passed.usable h
    simpa [Rabbit.ConnectReliable, Rabbit.CalledInTime, Rabbit.entersConnect] using hresolved

/-- **`connect()` is reliable in a run exactly when it is always called in time**: before
    `amqp.connect` succeeds or after the last declaration, and never after a failure. -/
theorem connect_reliable_iff (service : Service) (as : List RabbitAction) :
    Along (Rabbit.step service) (Rabbit.ConnectReliable service) Rabbit.start as ↔
      Along (Rabbit.step service) (Rabbit.CalledInTime service) Rabbit.start as :=
  along_iff_along (Rabbit.Consistent service) (fun _ a h _ => h.step a)
    (fun _ a h => h.reliable_iff a) (Rabbit.consistent_start service) as

/-- The second call comes when `amqp.connect` has answered. -/
def secondCallEarly : List RabbitAction := [.call .connect, .broker true, .call .connect]

/-- The broker is down for ten attempts, and up for the next call. -/
def callAfterFailure : List RabbitAction :=
  .call .connect :: (List.replicate 9 [.broker false, .timeout]).flatten ++
    [.broker false, .wake 0, .call .connect, .broker true, .wake 0]

/-- The early call resolves with nothing set up, and the call after the failure is given
    the old failure. -/
theorem connect_unreliable :
    (let s := exec (Rabbit.step .seat) Rabbit.start secondCallEarly
     s.returned = [(.connect, .resolved)] ∧ s.pubChannel = false ∧ s.declared = []) ∧
    (let s := exec (Rabbit.step .seat) Rabbit.start callAfterFailure
     s.returned = [(.connect, .rejected), (.connect, .rejected)] ∧ s.attempts = 1) ∧
    ¬ Along (Rabbit.step .seat) (Rabbit.ConnectReliable .seat) Rabbit.start secondCallEarly ∧
    ¬ Along (Rabbit.step .seat) (Rabbit.ConnectReliable .seat) Rabbit.start callAfterFailure := by
  decide +kernel

end SeatReservation
