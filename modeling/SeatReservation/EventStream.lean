import SeatReservation.Subscriptions
import SeatReservation.SeatRuntime
import SeatReservation.JsStrings
import Mathlib.Data.List.TakeWhile

/-!
# The event stream of the seats

`GET /api/seats/stream` subscribes each client to an observable that says hello,
listens on `SeatEventBus` and starts a heartbeat of 25 seconds.  The bus lives in
the process, next to the calls of `SeatRuntime` that emit on it.  A page takes
the messages apart in `es.onmessage`.
-/

namespace SeatReservation

open Relational TransitionSystem Subscriptions

/-! ### Messages -/

/-- What `bus.emit` is called with. -/
def SeatBusEvent.payload : SeatBusEvent → JsonObject
  | .held seatId userId heldUntil =>
      [("type", .string "seat:held"), ("seatId", .string seatId),
       ("userId", .string userId.toString), ("heldUntil", .string (toISOString heldUntil))]
  | .released seatId =>
      [("type", .string "seat:released"), ("seatId", .string seatId.toString)]
  | .reserved seatId userId =>
      [("type", .string "seat:reserved"), ("seatId", .string seatId.toString),
       ("userId", .string userId.toString)]

inductive StreamMessage where
  | hello (now : Nat)
  | event (e : SeatBusEvent)
  | ping (now : Nat)
deriving DecidableEq, Repr

/-- The `data` of a message. -/
def StreamMessage.data : StreamMessage → JsonObject
  | .hello now => [("type", .string "hello"), ("at", .string (toISOString now))]
  | .event e => e.payload
  | .ping now => [("type", .string "ping"), ("at", .string (toISOString now))]

def StreamMessage.event? : StreamMessage → Option SeatBusEvent
  | .event e => some e
  | .hello _ | .ping _ => none

/-- `es.onmessage` of the page: the line it logs before it calls `refreshSeats`. -/
def onmessage (data : JsonObject) : Option String :=
  match data.lookup "type" with
  | some (.string type) =>
      if type == "seat:held" || type == "seat:released" || type == "seat:reserved" then
        match data.lookup "seatId" with
        | some (.string seatId) =>
            some ("sse: " ++ type ++ " seat=" ++ JsStrings.sliceTo 8 seatId)
        | some (.number _) => none  -- a number has no `slice`, and the error is caught
        | none => some ("sse: " ++ type ++ " seat=undefined")
      else none
  | _ => none

/-- The page refreshes for what was on the bus, and for nothing else. -/
theorem isSome_onmessage (m : StreamMessage) : (onmessage m.data).isSome = m.event?.isSome := by
  cases m with
  | hello now => rfl
  | event e =>
    cases e with
    | held seatId userId heldUntil => rfl
    | released seatId => rfl
    | reserved seatId userId => rfl
  | ping now => rfl

/-! ### SeatsController.stream -/

/-- The bus with its listeners, and the subscriptions whose interval is running. -/
structure SeatStreams where
  bus : Hub StreamMessage
  heartbeats : List Nat
deriving DecidableEq, Repr

def SeatStreams.none : SeatStreams := ⟨⟨[], []⟩, []⟩

def SeatStreams.stream (now : Nat) (s : SeatStreams) : SeatStreams :=
  ⟨s.bus.subscribe [.hello now], s.heartbeats ++ [s.bus.subscriptions.length]⟩

/-- The function the observable returns: `off()` and `clearInterval(hb)`. -/
def SeatStreams.teardown (k : Nat) (s : SeatStreams) : SeatStreams :=
  ⟨s.bus.unsubscribe k, s.heartbeats.erase k⟩

/-- The interval of a subscription comes round. -/
def SeatStreams.heartbeat (k now : Nat) (s : SeatStreams) : SeatStreams :=
  if s.heartbeats.contains k then { s with bus := s.bus.next k (.ping now) } else s

def SeatStreams.emit (e : SeatBusEvent) (s : SeatStreams) : SeatStreams :=
  { s with bus := s.bus.emit (.event e) }

/-! ### The service with its streams -/

structure LiveSeats where
  runtime : SeatRuntime
  streams : SeatStreams

def LiveSeats.start (db : SeatDb) : LiveSeats := ⟨SeatRuntime.start db, .none⟩

inductive LiveAction where
  | seat (a : RuntimeAction)
  | stream (now : Nat)
  | heartbeat (k now : Nat)
  | teardown (k : Nat)

/-- What an action emits on the bus. -/
def emitted (s : LiveSeats) : LiveAction → List SeatBusEvent
  | .seat a => (busOutput s.runtime a).map Emission.event
  | _ => []

def liveStep (env : SeatEnv) (s : LiveSeats) (a : LiveAction) : LiveSeats :=
  match a with
  | .seat b =>
      ⟨runtimeStep env s.runtime b, (emitted s a).foldl (fun streams e => streams.emit e) s.streams⟩
  | .stream now => { s with streams := s.streams.stream now }
  | .heartbeat k now => { s with streams := s.streams.heartbeat k now }
  | .teardown k => { s with streams := s.streams.teardown k }

/-! ### Listeners and intervals -/

/-- Listeners and intervals are those of the active subscriptions. -/
structure SeatStreams.Sound (s : SeatStreams) : Prop where
  bus : s.bus.Sound
  heartbeats : s.heartbeats = s.bus.active

theorem SeatStreams.Sound.emit {s : SeatStreams} (h : s.Sound) (e : SeatBusEvent) :
    (s.emit e).Sound := by
  refine ⟨h.bus.emit _, ?_⟩
  rw [SeatStreams.emit, Hub.emit, (foldl_next_active _ _ _).1]
  exact h.heartbeats

theorem SeatStreams.Sound.emitAll {s : SeatStreams} (h : s.Sound) (es : List SeatBusEvent) :
    (es.foldl (fun streams e => streams.emit e) s).Sound := by
  induction es generalizing s with
  | nil => exact h
  | cons e es ih => exact ih (h.emit e)

theorem SeatStreams.Sound.stream {s : SeatStreams} (h : s.Sound) (now : Nat) :
    (s.stream now).Sound := by
  refine ⟨h.bus.subscribe _, ?_⟩
  rw [SeatStreams.stream, Hub.active_subscribe, h.heartbeats]

theorem SeatStreams.Sound.teardown {s : SeatStreams} (h : s.Sound) (k : Nat) :
    (s.teardown k).Sound := by
  refine ⟨h.bus.unsubscribe k, ?_⟩
  rw [SeatStreams.teardown, Hub.active_unsubscribe, h.heartbeats]

theorem SeatStreams.Sound.heartbeat {s : SeatStreams} (h : s.Sound) (k now : Nat) :
    (s.heartbeat k now).Sound := by
  unfold SeatStreams.heartbeat
  split
  · refine ⟨h.bus.next k _, ?_⟩
    rw [Hub.active_next]
    exact h.heartbeats
  · exact h

theorem SeatStreams.Sound.step {s : LiveSeats} (h : s.streams.Sound) (env : SeatEnv)
    (a : LiveAction) : (liveStep env s a).streams.Sound := by
  cases a with
  | seat a => exact h.emitAll _
  | stream now => exact h.stream now
  | heartbeat k now => exact h.heartbeat k now
  | teardown k => exact h.teardown k

theorem SeatStreams.sound_none : SeatStreams.none.Sound := ⟨rfl, rfl⟩

theorem SeatStreams.sound_exec (env : SeatEnv) (db : SeatDb) (as : List LiveAction) :
    (exec (liveStep env) (LiveSeats.start db) as).streams.Sound :=
  exec_invariant' (fun s : LiveSeats => s.streams.Sound) (fun _ a h => h.step env a)
    SeatStreams.sound_none as

/-! ### One subscription -/

/-- Is the action the teardown of this subscription? -/
def LiveAction.tearsDown (k : Nat) : LiveAction → Bool
  | .teardown k' => k' == k
  | _ => false

/-- The messages an action sends on an active subscription. -/
def LiveSeats.sends (k : Nat) (s : LiveSeats) (a : LiveAction) : List StreamMessage :=
  match a with
  | .seat _ => (emitted s a).map .event
  | .heartbeat k' now => if k' = k then [.ping now] else []
  | _ => []

theorem SeatStreams.Sound.emitAll_getElem? {s : SeatStreams} (h : s.Sound) {k : Nat}
    {sub : Subscription StreamMessage} (hget : s.bus.subscriptions[k]? = some sub)
    (es : List SeatBusEvent) :
    (es.foldl (fun streams e => streams.emit e) s).bus.subscriptions[k]? =
      some { sub with sent := sub.sent ++ if sub.active then es.map .event else [] } := by
  induction es generalizing s sub with
  | nil => simp [hget]
  | cons e es ih =>
    have hfirst : (s.emit e).bus.subscriptions[k]? = some (sub.next (.event e)) := by
      rw [SeatStreams.emit, h.bus.emit_getElem?, hget]
      rfl
    rw [List.foldl_cons, ih (h.emit e) hfirst, Subscription.next_active]
    cases hactive : sub.active with
    | true =>
      rw [Subscription.next_of_active hactive]
      simp
    | false =>
      rw [Subscription.next_of_inactive hactive]
      simp

/-- What a step does to one subscription. -/
theorem liveStep_subscription (env : SeatEnv) {s : LiveSeats} (h : s.streams.Sound) {k : Nat}
    {sub : Subscription StreamMessage} (hget : s.streams.bus.subscriptions[k]? = some sub)
    (a : LiveAction) :
    (liveStep env s a).streams.bus.subscriptions[k]? =
      some ⟨sub.active && !a.tearsDown k,
        sub.sent ++ if sub.active then s.sends k a else []⟩ := by
  have hlt := (List.getElem?_eq_some_iff.mp hget).1
  cases a with
  | seat a =>
    rw [liveStep, h.emitAll_getElem? hget]
    simp [LiveAction.tearsDown, LiveSeats.sends]
  | stream now =>
    simp only [liveStep, SeatStreams.stream, Hub.subscribe]
    rw [List.getElem?_append_left hlt, hget]
    simp [LiveAction.tearsDown, LiveSeats.sends]
  | heartbeat k' now =>
    simp only [liveStep, SeatStreams.heartbeat, LiveSeats.sends, LiveAction.tearsDown]
    split
    · rename_i hbeats
      simp only [Hub.next, List.getElem?_modify, hget]
      by_cases hk : k' = k
      · subst hk
        have hactive : sub.active = true := by
          rw [h.heartbeats, List.contains_iff_mem, Hub.mem_active] at hbeats
          obtain ⟨sub', hget', hactive⟩ := hbeats
          rw [hget, Option.some.injEq] at hget'
          rw [hget', hactive]
        simp [Subscription.next, hactive]
      · simp [hk]
    · rename_i hbeats
      rw [hget]
      cases hactive : sub.active with
      | false =>
        obtain ⟨active, sent⟩ := sub
        simp_all
      | true =>
        have hk : k' ≠ k := by
          rintro rfl
          apply hbeats
          rw [h.heartbeats, List.contains_iff_mem]
          exact Hub.mem_active.mpr ⟨sub, hget, hactive⟩
        simp [hk, ← hactive]
  | teardown k' =>
    simp only [liveStep, SeatStreams.teardown, Hub.unsubscribe, LiveSeats.sends,
      LiveAction.tearsDown, List.getElem?_modify, hget]
    by_cases hk : k' = k
    · simp [hk, Subscription.teardown]
    · have hne : (k' == k) = false := by simpa using hk
      simp [hk, hne]

/-- An active subscription that has had these events since it said hello. -/
structure LiveSeats.Delivers (now k : Nat) (s : LiveSeats) (events : List SeatBusEvent) :
    Prop where
  sound : s.streams.Sound
  sent : ∃ sub, s.streams.bus.subscriptions[k]? = some sub ∧ sub.active = true ∧
    sub.sent.head? = some (.hello now) ∧ sub.sent.filterMap StreamMessage.event? = events

theorem filterMap_sends (k : Nat) (s : LiveSeats) (a : LiveAction) :
    (s.sends k a).filterMap StreamMessage.event? = emitted s a := by
  cases a with
  | seat a =>
    rw [LiveSeats.sends, List.filterMap_map]
    exact List.filterMap_some
  | stream now => rfl
  | heartbeat k' now =>
    unfold LiveSeats.sends
    dsimp only
    split
    · rfl
    · rfl
  | teardown k' => rfl

theorem sends_of_tearsDown {k : Nat} {s : LiveSeats} {a : LiveAction} (h : a.tearsDown k = true) :
    s.sends k a = [] := by
  cases a with
  | teardown k' => rfl
  | _ => cases h

theorem LiveSeats.Delivers.step (env : SeatEnv) {now k : Nat} {s : LiveSeats}
    {events : List SeatBusEvent} (h : s.Delivers now k events) {a : LiveAction}
    (hopen : a.tearsDown k = false) :
    (liveStep env s a).Delivers now k (events ++ emitted s a) := by
  obtain ⟨sub, hget, hactive, hhello, hevents⟩ := h.sent
  refine ⟨h.sound.step env a, _, liveStep_subscription env h.sound hget a, ?_, ?_, ?_⟩
  · simp [hactive, hopen]
  · rw [List.head?_append, hhello]
    rfl
  · rw [if_pos hactive, List.filterMap_append, hevents, filterMap_sends]

/-- A subscription that has been torn down is never heard of again. -/
theorem inactive_exec (env : SeatEnv) {s : LiveSeats} (h : s.streams.Sound) {k : Nat}
    {sub : Subscription StreamMessage} (hget : s.streams.bus.subscriptions[k]? = some sub)
    (hinactive : sub.active = false) (as : List LiveAction) :
    (exec (liveStep env) s as).streams.bus.subscriptions[k]? = some sub := by
  refine (exec_invariant' (fun s : LiveSeats => s.streams.Sound ∧
    s.streams.bus.subscriptions[k]? = some sub) ?_ ⟨h, hget⟩ as).2
  intro s a hs
  refine ⟨hs.1.step env a, ?_⟩
  rw [liveStep_subscription env hs.1 hs.2 a]
  obtain ⟨active, sent⟩ := sub
  simp_all

theorem LiveSeats.Delivers.exec (env : SeatEnv) {now k : Nat} {s : LiveSeats}
    {events : List SeatBusEvent} (h : s.Delivers now k events) {as : List LiveAction}
    (hopen : ∀ a ∈ as, a.tearsDown k = false) :
    (exec (liveStep env) s as).Delivers now k
      (events ++ outputs (liveStep env) emitted s as) := by
  apply exec_outputs_invariant (LiveSeats.Delivers now k)
    (fun _ _ a hs (ha : a ∈ as) => hs.step env (hopen a ha)) h
  exact along_mem s (List.Subset.refl as)

/-- **Every subscriber gets what is on the bus while it is connected, and nothing leaks.**
    However calls, ticks, heartbeats and other connections interleave, a subscription has sent
    a hello and then every event of the bus until its teardown, each once and in order, among
    its pings.  The listeners of the bus and the running intervals are at all times those of the
    subscriptions that have not been torn down. -/
theorem stream_delivers (env : SeatEnv) (db : SeatDb) (as bs : List LiveAction) (now : Nat) :
    let s := exec (liveStep env) (LiveSeats.start db) as
    let k := s.streams.bus.subscriptions.length
    let t := exec (liveStep env) (liveStep env s (.stream now)) bs
    (∃ sub, t.streams.bus.subscriptions[k]? = some sub ∧
      sub.sent.head? = some (.hello now) ∧
      sub.sent.filterMap StreamMessage.event? =
        outputs (liveStep env) emitted (liveStep env s (.stream now))
          (bs.takeWhile fun a => !a.tearsDown k)) ∧
    t.streams.bus.listeners = t.streams.bus.active ∧
    t.streams.heartbeats = t.streams.bus.active := by
  intro s k t
  have hsound : s.streams.Sound := SeatStreams.sound_exec env db as
  have hstart : (liveStep env s (.stream now)).Delivers now k [] := by
    refine ⟨hsound.step env _, ⟨true, [.hello now]⟩, ?_, rfl, rfl, rfl⟩
    exact List.getElem?_concat_length
  have hopen : ∀ a ∈ bs.takeWhile (fun a => !a.tearsDown k), a.tearsDown k = false := by
    intro a ha
    simpa using List.mem_takeWhile_imp ha
  obtain ⟨hsound', sub, hget, hactive, hhello, hevents⟩ := hstart.exec env hopen
  have hend : t.streams.Sound :=
    exec_invariant' (fun s : LiveSeats => s.streams.Sound) (fun _ a h => h.step env a)
      (hsound.step env _) bs
  refine ⟨?_, hend.bus, hend.heartbeats⟩
  have hsplit := List.takeWhile_append_dropWhile (p := fun a => !a.tearsDown k) (l := bs)
  cases hrest : bs.dropWhile fun a => !a.tearsDown k with
  | nil =>
    rw [hrest, List.append_nil] at hsplit
    rw [hsplit] at hget hevents ⊢
    exact ⟨sub, hget, hhello, hevents⟩
  | cons a rest =>
    have hdown : a.tearsDown k = true := by
      have hhead := List.head?_dropWhile_not (fun a => !LiveAction.tearsDown k a) bs
      rw [hrest] at hhead
      simpa using hhead
    have hstop := liveStep_subscription env hsound' hget a
    rw [hdown, sends_of_tearsDown hdown] at hstop
    refine ⟨⟨false, sub.sent⟩, ?_, hhello, hevents⟩
    have hend := inactive_exec env (hsound'.step env a) hstop (by simp) rest
    rw [← exec_cons, ← exec_append, ← hrest, hsplit] at hend
    simpa using hend

end SeatReservation
