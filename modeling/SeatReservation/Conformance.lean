import SeatReservation.Compensation

/-!
# Producers and consumers agree on the events, but for one path

Every event a transaction appends is built from its trace id, a reading of the
clock and rows of the database (`SeatAction.Sends`, `PaymentAction.Sends`).  The
trace ids of all paths but one are UUID texts: a header that was checked, a
random UUID, or the id of an event that was accepted before.  The reprocessor
puts a word in front of its UUID, so each event it appends is one its consumer
refuses (`conformance_iff`).  The other member taken from a request as it stands
is the seat id of `insertHoldTx`, which Postgres reads more liberally than zod.
-/

namespace SeatReservation

open Relational TransitionSystem

/-! ### What the seat service sends -/

/-- The events a transaction of the seat service may append. -/
def SeatAction.Sends (env : SeatEnv) (db : SeatDb) : SeatAction → Event → Prop
  | .insertHoldTx seatId userId traceId d, event => ∃ seat, Uuid.ofText seatId = some seat ∧
      holdViolation db.seats (lazyCleanup seat d.now db.holds) (newHold env seat userId d) = none ∧
      event = seatHeldEvent db.seats seatId traceId (newHold env seat userId d) d
  | .releaseHold _ reason traceId d, event => ∃ seat,
      event = .seatReleased ⟨d.eventId, seat, reason, traceId, d.occurredAt⟩
  | .reserveHold holdId _ _ traceId d, event => ∃ seat user,
      event = .seatReserved ⟨d.eventId, seat, user, holdId, traceId, d.occurredAt⟩
  | .tick scan traceId _ draw, event => ∃ id ∈ scan.ids, ∃ seat,
      event = .seatReleased ⟨(draw id).1, seat, "sweeper", traceId.toString, (draw id).2⟩

theorem foldl_sweepRow_sends (traceId : String) (now : Nat) (draw : Uuid → Uuid × Nat)
    (rows : List HoldRow) (db : SeatDb) :
    ∃ new, db.outbox.Appends (rows.foldl (sweepRow traceId now draw) db).outbox new ∧
      ∀ r ∈ new, ∃ h ∈ rows,
        r.payload = .seatReleased ⟨(draw h.id).1, h.seatId, "sweeper", traceId, (draw h.id).2⟩ := by
  induction rows generalizing db with
  | nil => exact ⟨[], Outbox.Appends.refl _, by simp⟩
  | cons h rows ih =>
    obtain ⟨new, happ, hnew⟩ := ih (sweepRow traceId now draw db h)
    refine ⟨_ :: new, (Outbox.Appends.insert ..).trans happ, ?_⟩
    intro r hr
    rcases List.mem_cons.mp hr with rfl | hr
    · exact ⟨h, List.mem_cons_self, rfl⟩
    · obtain ⟨h', hmem, hpayload⟩ := hnew r hr
      exact ⟨h', List.mem_cons_of_mem h hmem, hpayload⟩

theorem seatStep_sends (env : SeatEnv) (db : SeatDb) (a : SeatAction) :
    ∃ new, db.outbox.Appends (seatStep env db a).outbox new ∧
      ∀ r ∈ new, a.Sends env db r.payload := by
  have hnothing : ∃ new, db.outbox.Appends db.outbox new ∧ ∀ r ∈ new, a.Sends env db r.payload :=
    ⟨[], Outbox.Appends.refl _, by simp⟩
  -- A transaction that commits inserts one row.
  have hinsert : ∀ {id : Uuid} {type : String} {event : Event} {headers : List (String × String)}
      {now : Nat}, a.Sends env db event →
        ∃ new, db.outbox.Appends (db.outbox.insert id type event headers now) new ∧
          ∀ r ∈ new, a.Sends env db r.payload := by
    intro id type event headers now hsends
    refine ⟨_, Outbox.Appends.insert .., ?_⟩
    intro r hr
    rw [List.mem_singleton.mp hr]
    exact hsends
  cases a with
  | insertHoldTx seatId userId traceId d =>
    by_cases h : ∃ seat, Uuid.ofText seatId = some seat ∧
        holdViolation db.seats (lazyCleanup seat d.now db.holds) (newHold env seat userId d) = none
    · obtain ⟨seat, hseat, hfree⟩ := h
      simp only [seatStep, insertHoldTx_eq_commit traceId hseat hfree]
      apply hinsert
      exact ⟨seat, hseat, hfree, rfl⟩
    · simp only [seatStep, insertHoldTx_eq_self fun seat hseat hfree => h ⟨seat, hseat, hfree⟩]
      exact hnothing
  | releaseHold holdId reason traceId d =>
    simp only [seatStep, releaseHold]
    split
    · exact hnothing
    · apply hinsert
      exact ⟨_, rfl⟩
  | reserveHold holdId eventId group traceId d =>
    simp only [seatStep, reserveHold]
    split
    · exact hnothing
    · split
      · exact hnothing
      · apply hinsert
        exact ⟨_, _, rfl⟩
  | tick scan traceId now draw =>
    obtain ⟨new, happ, hnew⟩ := foldl_sweepRow_sends traceId.toString now draw _ _
    refine ⟨new, happ, ?_⟩
    intro r hr
    obtain ⟨h, hmem, hpayload⟩ := hnew r hr
    obtain ⟨h₀, -, hswept, rfl⟩ := mem_returning.mp hmem
    have hin := List.mem_of_mem_take (List.contains_iff_mem.mp hswept)
    exact ⟨h₀.id, (List.mem_filter.mp hin).1, h₀.seatId, hpayload⟩

/-! ### What the payment service sends -/

/-- The events that end an intent of the database. -/
def EndsIntent (db : PaymentDb) (traceId : String) (d : Draw) (event : Event) : Prop :=
  ∃ i ∈ db.intents, ∃ status now,
    event = paymentSucceededEvent traceId d (i.close status now) ∨
      ∃ reason, event = paymentFailedEvent reason traceId d (i.close status now)

/-- Handling the event ends an intent. -/
def endsSome (e : String × ObjectId) (db : PaymentDb) : Bool :=
  (e.1 == "payment_intent.succeeded" || e.1 == "payment_intent.payment_failed") &&
    db.intents.any fun i => e.2 == .text i.pspIntentId && i.status == .pending

theorem closeIntents_sends {db : PaymentDb} {p : PaymentIntentRow → Bool} {status : IntentStatus}
    {eventType : String} {event : PaymentIntentRow → Event} {traceId : String} {d : Draw}
    (hevent : ∀ i ∈ db.intents, EndsIntent db traceId d (event (i.close status d.now))) :
    ∃ new, db.outbox.Appends (closeIntents p status eventType event traceId d.now db).2.outbox new ∧
      (∀ r ∈ new, EndsIntent db traceId d r.payload) ∧
      (new ≠ [] ↔ db.intents.any p = true) := by
  rcases closeIntents_cases p status eventType event traceId d.now db with
    ⟨hnone, heq⟩ | ⟨first, rest, hsel, heq⟩
  · rw [heq]
    refine ⟨[], Outbox.Appends.refl _, by simp, ?_⟩
    simpa using hnone
  · rw [heq]
    have hmem : first ∈ db.intents.filter p := by
      rw [hsel]
      exact List.mem_cons_self
    obtain ⟨hfirst, hp⟩ := List.mem_filter.mp hmem
    refine ⟨_, Outbox.Appends.insert .., ?_, ?_⟩
    · intro r hr
      rw [List.mem_singleton.mp hr]
      exact hevent first hfirst
    · refine iff_of_true (by simp) ?_
      exact List.any_eq_true.mpr ⟨first, hfirst, hp⟩

theorem endsSome_text {type p : String} {db : PaymentDb}
    (htype : type = "payment_intent.succeeded" ∨ type = "payment_intent.payment_failed") :
    endsSome (type, .text p) db = db.intents.any (isPendingPsp p) := by
  have hsame : (fun i : PaymentIntentRow => (ObjectId.text p == .text i.pspIntentId) &&
      i.status == .pending) = isPendingPsp p := by
    funext i
    rw [Bool.eq_iff_iff]
    simp only [isPendingPsp, Bool.and_eq_true, beq_iff_eq, ObjectId.text.injEq]
    exact and_congr_left' eq_comm
  rcases htype with rfl | rfl
  · simp [endsSome, hsame]
  · simp [endsSome, hsame]

/-- Only a body whose object id cannot be read throws. -/
theorem handleEvent_thrown {type : String} {objectId : ObjectId} {traceId : String} {d : Draw}
    {db : PaymentDb} (h : handleEvent type objectId traceId d db = none) :
    objectId = .unreadable := by
  unfold handleEvent at h
  cases objectId with
  | unreadable => rfl
  | absent => simp at h
  | text p =>
    dsimp only at h
    split at h
    · simp at h
    · split at h
      · simp at h
      · simp at h

theorem handleEvent_sends {type : String} {objectId : ObjectId} {traceId : String} {d : Draw}
    {db db' : PaymentDb} (h : handleEvent type objectId traceId d db = some db') :
    ∃ new, db.outbox.Appends db'.outbox new ∧ (∀ r ∈ new, EndsIntent db traceId d r.payload) ∧
      (new ≠ [] ↔ endsSome (type, objectId) db = true) := by
  have hnothing : endsSome (type, objectId) db = false →
      ∃ new, db.outbox.Appends db.outbox new ∧ (∀ r ∈ new, EndsIntent db traceId d r.payload) ∧
        (new ≠ [] ↔ endsSome (type, objectId) db = true) := by
    intro hends
    exact ⟨[], Outbox.Appends.refl _, by simp, by simp [hends]⟩
  unfold handleEvent at h
  split at h
  · rename_i htype
    cases objectId with
    | unreadable => simp at h
    | absent =>
      cases h
      exact hnothing (by simp [endsSome])
    | text p =>
      cases h
      rw [endsSome_text (Or.inl htype)]
      apply closeIntents_sends
      intro i hi
      exact ⟨i, hi, _, _, Or.inl rfl⟩
  · split at h
    · rename_i htype
      cases objectId with
      | unreadable => simp at h
      | absent =>
        cases h
        exact hnothing (by simp [endsSome])
      | text p =>
        cases h
        rw [endsSome_text (Or.inr htype)]
        apply closeIntents_sends
        intro i hi
        exact ⟨i, hi, _, _, Or.inr ⟨_, rfl⟩⟩
    · rename_i hnot hnot'
      cases h
      exact hnothing (by simp [endsSome, hnot, hnot'])

/-- The events an action of the payment service may append. -/
def PaymentAction.Sends (s : PaymentService) : PaymentAction → Event → Prop
  | .processEvent _ d, event => ∃ t ∈ s.tasks, EndsIntent s.db t.traceId d event
  | .reprocess i traceDraw d, event =>
      (∃ e ∈ handledEvent s (.reprocess i traceDraw d), endsSome e s.db = true) ∧
        EndsIntent s.db (reprocessTraceId traceDraw) d event
  | .seatReleased _ traceId d, event => EndsIntent s.db traceId d event
  | _, _ => False

theorem reprocess_sends (env : PaymentEnv) (s : PaymentService) (i : Nat) (traceDraw : Uuid)
    (d : Draw) :
    ∃ new, s.db.outbox.Appends (paymentStep env s (.reprocess i traceDraw d)).db.outbox new ∧
      (∀ r ∈ new, EndsIntent s.db (reprocessTraceId traceDraw) d r.payload) ∧
      (new ≠ [] ↔ ∃ e ∈ handledEvent s (.reprocess i traceDraw d), endsSome e s.db = true) := by
  have hnothing : handledEvent s (.reprocess i traceDraw d) = none →
      ∃ new, s.db.outbox.Appends s.db.outbox new ∧
        (∀ r ∈ new, EndsIntent s.db (reprocessTraceId traceDraw) d r.payload) ∧
        (new ≠ [] ↔ ∃ e ∈ handledEvent s (.reprocess i traceDraw d), endsSome e s.db = true) := by
    intro hnone
    exact ⟨[], Outbox.Appends.refl _, by simp, by simp [hnone]⟩
  have hbatch := reprocess_cases env s i traceDraw d
  generalize paymentStep env s (.reprocess i traceDraw d) = s' at hbatch ⊢
  cases hbatch with
  | missing hget => exact hnothing (by simp [handledEvent, hget])
  | finished q hget hrows =>
    obtain ⟨rows, handled⟩ := q
    obtain rfl : rows = [] := hrows
    exact hnothing (by simp [handledEvent, hget])
  | marked row rest hget => exact hnothing (by simp [handledEvent, hget])
  | handled row rest db hget hev =>
    have hhandled : handledEvent s (.reprocess i traceDraw d) =
        some (row.type, row.payload.objectId) := by simp [handledEvent, hget]
    rw [hhandled]
    simp only [Option.mem_def, Option.some.injEq, exists_eq_left']
    exact handleEvent_sends hev
  | thrown row rest hget hev =>
    refine ⟨[], Outbox.Appends.refl _, by simp, ?_⟩
    simp [handledEvent, hget, endsSome, handleEvent_thrown hev]

theorem paymentStep_sends (env : PaymentEnv) (s : PaymentService) (a : PaymentAction) :
    ∃ new, s.db.outbox.Appends (paymentStep env s a).db.outbox new ∧
      ∀ r ∈ new, a.Sends s r.payload := by
  cases a with
  | processEvent i d =>
    have htask := processEvent_cases env s i d
    generalize paymentStep env s (.processEvent i d) = s' at htask ⊢
    cases htask with
    | handled t db hget hhandled hev =>
      obtain ⟨new, happ, hnew, -⟩ := handleEvent_sends hev
      refine ⟨new, happ, ?_⟩
      intro r hr
      exact ⟨t, List.mem_of_getElem? hget, hnew r hr⟩
    | _ => exact ⟨[], Outbox.Appends.refl _, by simp⟩
  | reprocess i traceDraw d =>
    obtain ⟨new, happ, hnew, hne⟩ := reprocess_sends env s i traceDraw d
    refine ⟨new, happ, ?_⟩
    intro r hr
    exact ⟨hne.mp (List.ne_nil_of_mem hr), hnew r hr⟩
  | seatReleased seatId traceId d =>
    obtain ⟨new, happ, hnew, -⟩ := @closeIntents_sends s.db (isPendingOnSeat seatId) .failed
      "payment.failed.v1" (paymentFailedEvent "seat_released" traceId d) traceId d
      fun i hi => ⟨i, hi, _, _, Or.inr ⟨_, rfl⟩⟩
    exact ⟨new, happ, hnew⟩
  | checkoutStep i d =>
    refine ⟨[], ?_, by simp⟩
    rw [(paymentStep_effect env s (.checkoutStep i d)).outbox_eq rfl]
    exact Outbox.Appends.refl _
  | webhook event header traceDraw now =>
    refine ⟨[], ?_, by simp⟩
    rw [(paymentStep_effect env s (.webhook event header traceDraw now)).outbox_eq rfl]
    exact Outbox.Appends.refl _
  | checkout request => exact ⟨[], Outbox.Appends.refl _, by simp⟩
  | checkoutLost i => exact ⟨[], Outbox.Appends.refl _, by simp⟩
  | processEventLost i => exact ⟨[], Outbox.Appends.refl _, by simp⟩
  | reprocessTick => exact ⟨[], Outbox.Appends.refl _, by simp⟩
  | reprocessSkip i => exact ⟨[], Outbox.Appends.refl _, by simp⟩
  | reprocessLost i => exact ⟨[], Outbox.Appends.refl _, by simp⟩

/-! ### Which events conform -/

theorem not_isUuidText_reprocessTraceId (u : Uuid) : isUuidText (reprocessTraceId u) = false := by
  have hr : isHexDigit 'r' = false := by decide
  simp [isUuidText, reprocessTraceId, eatHex, hr]

/-- The event that ends an intent conforms iff its trace id and its date do. -/
theorem EndsIntent.conforms_iff {fmt : Formats} (hfmt : fmt.Documented) {db : PaymentDb}
    {traceId : String} {d : Draw} {event : Event} (h : EndsIntent db traceId d event)
    (hcurrency : ∀ i ∈ db.intents, utf16Length i.currency = 3) :
    event.conforms fmt = true ↔ isUuidText traceId = true ∧ HasFourDigitYear d.occurredAt := by
  rw [hfmt.conforms_iff]
  obtain ⟨i, hi, status, now, rfl | ⟨reason, rfl⟩⟩ := h
  · have hbody : (paymentSucceededEvent traceId d (i.close status now)).BodyOk := hcurrency i hi
    constructor
    · rintro ⟨htrace, hdate, -⟩
      exact ⟨htrace, hdate⟩
    · rintro ⟨htrace, hdate⟩
      exact ⟨htrace, hdate, hbody⟩
  · constructor
    · rintro ⟨htrace, hdate, -⟩
      exact ⟨htrace, hdate⟩
    · rintro ⟨htrace, hdate⟩
      exact ⟨htrace, hdate, trivial⟩

/-- The event of a new hold conforms iff its seat is named by a UUID text and its
    trace id and dates conform. -/
theorem seatHeldEvent_conforms_iff {fmt : Formats} (hfmt : fmt.Documented) {seats : List SeatRow}
    (hcurrency : ∀ s ∈ seats, utf16Length s.currency = 3) (seatId traceId : String)
    (hold : HoldRow) (d : HoldDraw) :
    (seatHeldEvent seats seatId traceId hold d).conforms fmt = true ↔
      isUuidText traceId = true ∧ HasFourDigitYear d.occurredAt ∧ isUuidText seatId = true ∧
        HasFourDigitYear hold.heldUntil := by
  rw [hfmt.conforms_iff]
  have hthree : utf16Length
      (((seats.find? fun s => s.id == hold.seatId).map (·.currency)).getD "USD") = 3 := by
    cases hfind : seats.find? fun s => s.id == hold.seatId with
    | none => decide
    | some s => exact hcurrency s (List.mem_of_find?_eq_some hfind)
  constructor
  · rintro ⟨htrace, hdate, hseat, hheld, -⟩
    exact ⟨htrace, hdate, hseat, hheld⟩
  · rintro ⟨htrace, hdate, hseat, hheld⟩
    exact ⟨htrace, hdate, hseat, hheld, hthree⟩

/-! ### The events of the system -/

/-- The events an action of the system may append to one of the outboxes. -/
def Sends (env : SystemEnv) (s : System) (a : SystemAction) (event : Event) : Prop :=
  (∃ c, seatCall env.formats s a = some c ∧ c.Sends env.seat s.seat event) ∨
    ∃ c, paymentCall env.formats s a = some c ∧ c.Sends s.payment event

theorem systemStep_seat_sends (env : SystemEnv) (s : System) (a : SystemAction) :
    ∃ new, (systemStep env s a).seat.outbox.history = s.seat.outbox.history ++ new ∧
      ∀ r ∈ new, Sends env s a r.payload := by
  rcases systemStep_seat env s a with ⟨c, hcall, heq⟩ | ⟨-, heq⟩ | ⟨w, -, heq⟩
  · obtain ⟨new, happ, hnew⟩ := seatStep_sends env.seat s.seat c
    refine ⟨new, ?_, fun r hr => Or.inl ⟨c, hcall, hnew r hr⟩⟩
    rw [heq]
    exact happ.2
  · exact ⟨[], by simp [heq], by simp⟩
  · exact ⟨[], by simp [heq], by simp⟩

theorem systemStep_payment_sends (env : SystemEnv) (s : System) (a : SystemAction) :
    ∃ new, (systemStep env s a).payment.db.outbox.history =
        s.payment.db.outbox.history ++ new ∧
      ∀ r ∈ new, Sends env s a r.payload := by
  rcases systemStep_payment env s a with ⟨c, hcall, heq⟩ | ⟨-, heq⟩ | ⟨w, -, heq⟩
  · obtain ⟨new, happ, hnew⟩ := paymentStep_sends env.payment s.payment c
    refine ⟨new, ?_, fun r hr => Or.inr ⟨c, hcall, hnew r hr⟩⟩
    rw [heq]
    exact happ.2
  · exact ⟨[], by simp [heq], by simp⟩
  · exact ⟨[], by simp [heq], by simp⟩

/-- The rows a step appends to the outboxes of both services. -/
def appendedBy (env : SystemEnv) (s : System) (a : SystemAction) : List OutboxRow :=
  appendedRows s.seat.outbox (systemStep env s a).seat.outbox ++
    appendedRows s.payment.db.outbox (systemStep env s a).payment.db.outbox

theorem appendedBy_sends {env : SystemEnv} {s : System} {a : SystemAction} {r : OutboxRow}
    (hr : r ∈ appendedBy env s a) : Sends env s a r.payload := by
  obtain ⟨seatNew, hseat, hseatSends⟩ := systemStep_seat_sends env s a
  obtain ⟨paymentNew, hpayment, hpaymentSends⟩ := systemStep_payment_sends env s a
  unfold appendedBy appendedRows at hr
  rw [hseat, hpayment, List.drop_left, List.drop_left] at hr
  rcases List.mem_append.mp hr with hr | hr
  · exact hseatSends r hr
  · exact hpaymentSends r hr

/-! ### Conditions on a step -/

/-- The dates a transaction of the seat service writes have four-digit years. -/
def SeatAction.DatesOk (env : SeatEnv) : SeatAction → Prop
  | .insertHoldTx _ _ _ d => HasFourDigitYear (d.dateNow + env.holdTtlSeconds * 1000) ∧
      HasFourDigitYear d.occurredAt
  | .releaseHold _ _ _ d => HasFourDigitYear d.occurredAt
  | .reserveHold _ _ _ _ d => HasFourDigitYear d.occurredAt
  | .tick scan _ _ draw => ∀ id ∈ scan.ids, HasFourDigitYear (draw id).2

def PaymentAction.DatesOk (a : PaymentAction) : Prop :=
  ∀ d ∈ a.eventDraw, HasFourDigitYear d.occurredAt

/-- The clock is read before the year 10000. -/
structure DatesOk (env : SystemEnv) (s : System) (a : SystemAction) : Prop where
  seat : ∀ c ∈ seatCall env.formats s a, c.DatesOk env.seat
  payment : ∀ c ∈ paymentCall env.formats s a, c.DatesOk

/-- A hold that is committed names its seat by a UUID text, and the reprocessor ends
    no intent. -/
def KeepsFormat (env : SystemEnv) (s : System) : SystemAction → Prop
  | .hold seatId userId _ _ d => ∀ seat ∈ Uuid.ofText seatId,
      holdViolation s.seat.seats (lazyCleanup seat d.now s.seat.holds)
        (newHold env.seat seat userId d) = none → isUuidText seatId = true
  | .payment (.reprocess i traceDraw d) _ =>
      ∀ e ∈ handledEvent s.payment (.reprocess i traceDraw d), endsSome e s.payment.db = false
  | _ => True

/-- Every row the step appends parses under the schema it names, and the step sends
    no message to a dead-letter queue. -/
structure EventsConform (env : SystemEnv) (s : System) (a : SystemAction) : Prop where
  appended : ∀ r ∈ appendedBy env s a, r.payload.conforms env.formats = true
  delivered : (systemStep env s a).deadLetters = s.deadLetters

/-- Currencies have three letters. -/
structure ThreeLetterCurrencies (s : System) : Prop where
  seats : ∀ r ∈ s.seat.seats, utf16Length r.currency = 3
  prices : ∀ p ∈ s.payment.db.seatPrices, utf16Length p.currency = 3

/-! ### Trace ids -/

def SeatAction.traceId : SeatAction → String
  | .insertHoldTx _ _ traceId _ => traceId
  | .releaseHold _ _ traceId _ => traceId
  | .reserveHold _ _ _ traceId _ => traceId
  | .tick _ traceId _ _ => traceId.toString

/-- Everything that is stored or under way conforms. -/
structure Conforming (fmt : Formats) (s : System) : Prop extends s.Reachable where
  seatEvents : ∀ r ∈ s.seat.outbox.history, r.payload.conforms fmt = true
  paymentEvents : ∀ r ∈ s.payment.db.outbox.history, r.payload.conforms fmt = true
  cancels : ∀ c ∈ s.cancels, isUuidText c.traceId = true
  tasks : ∀ t ∈ s.payment.tasks, isUuidText t.traceId = true
  currencies : ThreeLetterCurrencies s
  priced : s.payment.Priced

theorem Conforming.seatQueue {fmt : Formats} {s : System} (h : Conforming fmt s) {m : OutboxRow}
    (hm : m ∈ s.seatQueue) : m.payload.conforms fmt = true := by
  obtain ⟨r, hr, hletter, -⟩ := h.toReachable.seatQueue hm
  rw [← OutboxRow.payload_of_letter hletter]
  exact h.paymentEvents r hr

theorem Conforming.paymentQueue {fmt : Formats} {s : System} (h : Conforming fmt s)
    {m : OutboxRow} (hm : m ∈ s.paymentQueue) :
    m.payload.conforms fmt = true ∧ ∃ e, m.payload = .seatReleased e := by
  obtain ⟨r, hr, hletter, hreleased⟩ := h.toReachable.paymentQueue hm
  refine ⟨?_, hreleased⟩
  rw [← OutboxRow.payload_of_letter hletter]
  exact h.seatEvents r hr

/-- The trace id of a call of the seat service is a UUID text. -/
theorem Conforming.seatCall {fmt : Formats} (hfmt : fmt.Documented) {s : System}
    (h : Conforming fmt s) {a : SystemAction} {c : SeatAction}
    (hcall : SeatReservation.seatCall fmt s a = some c) : isUuidText c.traceId = true := by
  have hmessage : ∀ {event : Event}, consumedPayment fmt s a = some event →
      isUuidText event.traceId = true := by
    intro event hconsumed
    obtain ⟨m, hm, rfl⟩ := consumedPayment_mem hconsumed
    exact ((hfmt.conforms_iff m.payload).mp (h.seatQueue hm)).1
  cases seatCall_cases hcall with
  | hold seatId userId header traceDraw d => exact isUuidText_resolveTraceId header traceDraw
  | cancel i d c hget => exact h.cancels c (List.mem_of_getElem? hget)
  | sweep scan traceId now draw => exact traceId.isUuidText_toString
  | succeeded a e d hconsumed =>
    have htrace := hmessage hconsumed
    exact htrace
  | failed a e d hconsumed =>
    have htrace := hmessage hconsumed
    exact htrace

/-- The trace id of a processed release is a UUID text. -/
theorem Conforming.processedRelease {fmt : Formats} (hfmt : fmt.Documented) {s : System}
    (h : Conforming fmt s) {a : SystemAction} {m : Uuid × SeatReleasedV1}
    (hprocessed : SeatReservation.processedRelease fmt s a = some m) :
    isUuidText m.2.traceId = true := by
  obtain ⟨row, hrow, -, hpayload⟩ := processedRelease_mem hprocessed
  have htrace := ((hfmt.conforms_iff row.payload).mp (h.paymentQueue hrow).1).1
  rw [hpayload] at htrace
  exact htrace

theorem Conforming.intentCurrencies {fmt : Formats} {s : System} (h : Conforming fmt s) :
    ∀ i ∈ s.payment.db.intents, utf16Length i.currency = 3 := by
  intro i hi
  obtain ⟨price, hprice, -, hcurrency⟩ := h.priced.intents i hi
  rw [hcurrency]
  exact h.currencies.prices price (List.mem_of_find?_eq_some hprice)

/-! ### The events conform -/

theorem Conforming.seatSends {env : SystemEnv} (hfmt : env.formats.Documented) {s : System}
    (h : Conforming env.formats s) {a : SystemAction} (hok : KeepsFormat env s a)
    {c : SeatAction} (hcall : SeatReservation.seatCall env.formats s a = some c)
    (hdates : c.DatesOk env.seat) {event : Event} (hsends : c.Sends env.seat s.seat event) :
    event.conforms env.formats = true := by
  have htrace := h.seatCall hfmt hcall
  cases c with
  | insertHoldTx seatId userId traceId d =>
    obtain ⟨seat, hseat, hfree, rfl⟩ := hsends
    refine (seatHeldEvent_conforms_iff hfmt h.currencies.seats ..).mpr ?_
    cases seatCall_cases hcall with
    | hold seatId userId header traceDraw d =>
      exact ⟨htrace, hdates.2, hok seat hseat hfree, hdates.1⟩
  | releaseHold holdId reason traceId d =>
    obtain ⟨seat, rfl⟩ := hsends
    refine (hfmt.conforms_iff _).mpr ⟨htrace, hdates, ?_⟩
    change reason ∈ _
    cases seatCall_cases hcall with
    | cancel i d c hget => decide
    | failed a e d hconsumed => decide
  | reserveHold holdId eventId group traceId d =>
    obtain ⟨seat, user, rfl⟩ := hsends
    exact (hfmt.conforms_iff _).mpr ⟨htrace, hdates, trivial⟩
  | tick scan traceId now draw =>
    obtain ⟨id, hid, seat, rfl⟩ := hsends
    refine (hfmt.conforms_iff _).mpr ⟨htrace, hdates id hid, ?_⟩
    change "sweeper" ∈ _
    decide

theorem Conforming.paymentSends {env : SystemEnv} (hfmt : env.formats.Documented) {s : System}
    (h : Conforming env.formats s) {a : SystemAction} (hok : KeepsFormat env s a)
    {c : PaymentAction} (hcall : SeatReservation.paymentCall env.formats s a = some c)
    (hdates : c.DatesOk) {event : Event} (hsends : c.Sends s.payment event) :
    event.conforms env.formats = true := by
  cases c with
  | processEvent i d =>
    obtain ⟨t, ht, hends⟩ := hsends
    exact (hends.conforms_iff hfmt h.intentCurrencies).mpr ⟨h.tasks t ht, hdates d rfl⟩
  | reprocess i traceDraw d =>
    -- Nothing is sent on this path when the condition holds.
    obtain ⟨⟨e, he, hsome⟩, -⟩ := hsends
    cases paymentCall_cases hcall with
    | own c hlocal =>
      rw [hok e he] at hsome
      simp at hsome
  | seatReleased seatId traceId d =>
    refine (EndsIntent.conforms_iff hfmt hsends h.intentCurrencies).mpr ⟨?_, hdates d rfl⟩
    cases paymentCall_cases hcall with
    | own c hlocal => cases hlocal
    | released a m d hprocessed => exact h.processedRelease hfmt hprocessed
  | _ => exact hsends.elim

theorem Conforming.delivered {env : SystemEnv} {s : System} (h : Conforming env.formats s)
    (a : SystemAction) : (systemStep env s a).deadLetters = s.deadLetters := by
  cases a with
  | deliverToSeat i acked d =>
    simp only [systemStep, deliverToSeat]
    cases hget : s.seatQueue[i]? with
    | none => rfl
    | some m =>
      have hparses : parsesAnyEvent env.formats m.payload = true := by
        unfold parsesAnyEvent
        rw [anyEvent_accepts]
        exact h.seatQueue (List.mem_of_getElem? hget)
      simp only [hparses, if_true]
  | deliverToPayment i acked d =>
    simp only [systemStep, deliverToPayment]
    cases hget : s.paymentQueue[i]? with
    | none => rfl
    | some m =>
      obtain ⟨hconforms, e, hpayload⟩ := h.paymentQueue (List.mem_of_getElem? hget)
      have hparses : parsesSeatReleased env.formats m.payload = true := by
        rw [hpayload] at hconforms ⊢
        exact hconforms
      simp only [hparses, if_true]
  | release seatId userId header traceDraw =>
    obtain ⟨new, heq, -⟩ := release_frame seatId userId header traceDraw s
    simp only [systemStep, heq]
  | releaseHold i d =>
    simp only [systemStep]
    split
    · rfl
    · rfl
  | seatWorker w => simp only [systemStep, seatWorkerStep, publishTo_deadLetters]
  | paymentWorker w => simp only [systemStep, paymentWorkerStep, publishTo_deadLetters]
  | hold seatId userId header traceDraw d => rfl
  | releaseLost i => rfl
  | sweep scan traceId now draw => rfl
  | payment a hlocal => rfl

theorem Conforming.eventsConform {env : SystemEnv} (hfmt : env.formats.Documented) {s : System}
    (h : Conforming env.formats s) {a : SystemAction} (hdates : DatesOk env s a)
    (hok : KeepsFormat env s a) : EventsConform env s a := by
  refine ⟨?_, h.delivered a⟩
  intro r hr
  rcases appendedBy_sends hr with ⟨c, hcall, hsends⟩ | ⟨c, hcall, hsends⟩
  · exact h.seatSends hfmt hok hcall (hdates.seat c hcall) hsends
  · exact h.paymentSends hfmt hok hcall (hdates.payment c hcall) hsends

/-! ### And only then -/

theorem keepsFormat_of_eventsConform {env : SystemEnv} (hfmt : env.formats.Documented)
    {s : System} (h : Conforming env.formats s) {a : SystemAction}
    (hconform : EventsConform env s a) : KeepsFormat env s a := by
  cases a with
  | hold seatId userId header traceDraw d =>
    intro seat hseat hfree
    have hcommit := insertHoldTx_eq_commit (resolveTraceId header traceDraw) hseat hfree
    have hin : ∃ r ∈ appendedBy env s (.hold seatId userId header traceDraw d), r.payload =
        seatHeldEvent s.seat.seats seatId (resolveTraceId header traceDraw)
          (newHold env.seat seat userId d) d := by
      simp only [appendedBy, systemStep, hcommit]
      rw [(Outbox.Appends.insert ..).appendedRows_eq]
      exact ⟨_, List.mem_append_left _ List.mem_cons_self, rfl⟩
    obtain ⟨r, hr, hpayload⟩ := hin
    have hr_conforms := hconform.appended r hr
    rw [hpayload] at hr_conforms
    exact ((seatHeldEvent_conforms_iff hfmt h.currencies.seats ..).mp hr_conforms).2.2.1
  | payment a hlocal =>
    cases a with
    | reprocess i traceDraw d =>
      intro e he
      rw [Bool.eq_false_iff]
      intro hsome
      obtain ⟨new, happ, hnew, hne⟩ := reprocess_sends env.payment s.payment i traceDraw d
      obtain ⟨r, hr⟩ := List.exists_mem_of_ne_nil new (hne.mpr ⟨e, he, hsome⟩)
      have hr_conforms := hconform.appended r (by
        simp only [appendedBy, systemStep]
        rw [happ.appendedRows_eq]
        exact List.mem_append_right _ hr)
      have htrace := (((hnew r hr).conforms_iff hfmt h.intentCurrencies).mp hr_conforms).1
      rw [not_isUuidText_reprocessTraceId] at htrace
      simp at htrace
    | _ => trivial
  | _ => trivial

/-! ### Along a run -/

theorem mem_cancels_step {env : SystemEnv} {s : System} {a : SystemAction} {c : Cancel}
    (h : c ∈ (systemStep env s a).cancels) :
    c ∈ s.cancels ∨ ∃ header traceDraw, c.traceId = resolveTraceId header traceDraw := by
  cases a with
  | release seatId userId header traceDraw =>
    obtain ⟨new, heq, htrace⟩ := release_frame seatId userId header traceDraw s
    simp only [systemStep, heq] at h
    rcases List.mem_append.mp h with h | h
    · exact Or.inl h
    · exact Or.inr ⟨header, traceDraw, htrace c h⟩
  | releaseHold i d =>
    simp only [systemStep] at h
    split at h
    · exact Or.inl h
    · exact Or.inl (List.mem_of_mem_eraseIdx h)
  | releaseLost i => exact Or.inl (List.mem_of_mem_eraseIdx h)
  | seatWorker w =>
    simp only [systemStep, seatWorkerStep, publishTo_cancels] at h
    exact Or.inl h
  | paymentWorker w =>
    simp only [systemStep, paymentWorkerStep, publishTo_cancels] at h
    exact Or.inl h
  | deliverToSeat i acked d =>
    obtain ⟨seat, seatQueue, deadLetters, heq, -⟩ := deliverToSeat_frame env i acked d s
    simp only [systemStep, heq] at h
    exact Or.inl h
  | deliverToPayment i acked d =>
    obtain ⟨payment, paymentQueue, deadLetters, heq, -⟩ := deliverToPayment_frame env i acked d s
    simp only [systemStep, heq] at h
    exact Or.inl h
  | hold seatId userId header traceDraw d => exact Or.inl h
  | sweep scan traceId now draw => exact Or.inl h
  | payment a hlocal => exact Or.inl h

theorem mem_tasks_step {env : PaymentEnv} {s : PaymentService} {a : PaymentAction}
    {t' : WebhookTask} (h : t' ∈ (paymentStep env s a).tasks) :
    (∃ t ∈ s.tasks, t.traceId = t'.traceId) ∨
      ∃ header traceDraw, t'.traceId = resolveTraceId header traceDraw := by
  cases a with
  | webhook event header traceDraw now =>
    simp only [paymentStep, webhook] at h
    split at h
    · exact Or.inl ⟨t', h, rfl⟩
    · split at h
      · exact Or.inl ⟨t', h, rfl⟩
      · rcases List.mem_append.mp h with h | h
        · exact Or.inl ⟨t', h, rfl⟩
        · rw [List.mem_singleton.mp h]
          exact Or.inr ⟨header, traceDraw, rfl⟩
  | processEvent i d =>
    left
    have htask := processEvent_cases env s i d
    generalize paymentStep env s (.processEvent i d) = s' at htask h
    cases htask with
    | missing hget => exact ⟨t', h, rfl⟩
    | marked t hget hhandled => exact ⟨t', List.mem_of_mem_eraseIdx h, rfl⟩
    | handled t db hget hhandled hev =>
      rcases List.mem_or_eq_of_mem_set h with h | rfl
      · exact ⟨t', h, rfl⟩
      · exact ⟨t, List.mem_of_getElem? hget, rfl⟩
    | thrown t hget hhandled hev => exact ⟨t', List.mem_of_mem_eraseIdx h, rfl⟩
  | processEventLost i => exact Or.inl ⟨t', List.mem_of_mem_eraseIdx h, rfl⟩
  | checkoutStep i d =>
    simp only [paymentStep] at h
    split at h
    · exact Or.inl ⟨t', h, rfl⟩
    · exact Or.inl ⟨t', h, rfl⟩
  | reprocess i traceDraw d =>
    simp only [paymentStep] at h
    split at h
    · exact Or.inl ⟨t', h, rfl⟩
    · exact Or.inl ⟨t', h, rfl⟩
  | checkout request => exact Or.inl ⟨t', h, rfl⟩
  | checkoutLost i => exact Or.inl ⟨t', h, rfl⟩
  | reprocessTick => exact Or.inl ⟨t', h, rfl⟩
  | reprocessSkip i => exact Or.inl ⟨t', h, rfl⟩
  | reprocessLost i => exact Or.inl ⟨t', h, rfl⟩
  | seatReleased seatId traceId d => exact Or.inl ⟨t', h, rfl⟩

/-- A transaction leaves the currency of each seat as it is. -/
theorem SeatEffect.currencies {env : SeatEnv} {db db' : SeatDb} {a : SeatAction}
    (heffect : SeatEffect env db a db') :
    db'.seats.map (·.currency) = db.seats.map (·.currency) := by
  cases heffect with
  | nothing => rfl
  | held => exact map_update (fun _ _ => by rfl) db.seats
  | released => exact map_update (fun _ _ => by rfl) db.seats
  | reserved => exact map_update (fun _ _ => by rfl) db.seats

theorem ThreeLetterCurrencies.step {s : System} (h : ThreeLetterCurrencies s)
    (hwf : s.WellFormed) (env : SystemEnv) (a : SystemAction) :
    ThreeLetterCurrencies (systemStep env s a) := by
  constructor
  · have hsame : (systemStep env s a).seat.seats.map (·.currency) =
        s.seat.seats.map (·.currency) := by
      rcases systemStep_seat env s a with ⟨c, -, heq⟩ | ⟨-, heq⟩ | ⟨w, -, heq⟩
      · rw [heq]
        exact (seatStep_effect hwf.seat.holdKeys env.seat c).currencies
      · rw [heq]
      · rw [heq]
    intro r hr
    have hmem : r.currency ∈ s.seat.seats.map (·.currency) := by
      rw [← hsame]
      exact List.mem_map_of_mem hr
    obtain ⟨r₀, hr₀, hcurrency⟩ := List.mem_map.mp hmem
    rw [← hcurrency]
    exact h.seats r₀ hr₀
  · have hsame : (systemStep env s a).payment.db.seatPrices = s.payment.db.seatPrices := by
      rcases systemStep_paymentEffect env s a with ⟨c, -, heffect⟩ | ⟨-, hsame, -⟩
      · exact heffect.seatPrices
      · exact hsame
    rw [hsame]
    exact h.prices

theorem Conforming.step {env : SystemEnv} {s : System} (h : Conforming env.formats s)
    {a : SystemAction} (hconform : EventsConform env s a) :
    Conforming env.formats (systemStep env s a) := by
  refine ⟨h.toReachable.step env a, ?_, ?_, ?_, ?_, h.currencies.step h.wellFormed env a,
    h.priced.systemStep env a⟩
  · intro r hr
    obtain ⟨new, hnew, -⟩ := systemStep_seat_sends env s a
    rw [hnew] at hr
    rcases List.mem_append.mp hr with hr | hr
    · exact h.seatEvents r hr
    · apply hconform.appended
      unfold appendedBy appendedRows
      rw [hnew, List.drop_left]
      exact List.mem_append_left _ hr
  · intro r hr
    obtain ⟨new, hnew, -⟩ := systemStep_payment_sends env s a
    rw [hnew] at hr
    rcases List.mem_append.mp hr with hr | hr
    · exact h.paymentEvents r hr
    · apply hconform.appended
      unfold appendedBy appendedRows
      rw [hnew, List.drop_left]
      exact List.mem_append_right _ hr
  · intro c hc
    rcases mem_cancels_step hc with hc | ⟨header, traceDraw, htrace⟩
    · exact h.cancels c hc
    · rw [htrace]
      exact isUuidText_resolveTraceId header traceDraw
  · intro t ht
    rcases systemStep_payment env s a with ⟨c, -, heq⟩ | ⟨-, heq⟩ | ⟨w, -, heq⟩
    · rw [heq] at ht
      rcases mem_tasks_step ht with ⟨t₀, ht₀, hsame⟩ | ⟨header, traceDraw, htrace⟩
      · rw [← hsame]
        exact h.tasks t₀ ht₀
      · rw [htrace]
        exact isUuidText_resolveTraceId header traceDraw
    · rw [heq] at ht
      exact h.tasks t ht
    · rw [heq] at ht
      exact h.tasks t ht

theorem System.Seeded.conforming {s : System} (h : s.Seeded) (hcurrency : ThreeLetterCurrencies s)
    (fmt : Formats) : Conforming fmt s where
  toReachable := h.reachable
  seatEvents := by intro r hr; simp [h.seat.outbox, Outbox.empty] at hr
  paymentEvents := by intro r hr; simp [h.payment.outbox, Outbox.empty] at hr
  cancels := by intro c hc; simp [h.cancels] at hc
  tasks := by intro t ht; simp [h.payment.tasks] at ht
  currencies := hcurrency
  priced := h.payment.priced

/-- **Every event parses at its consumer iff no hold is taken under a seat id that is
    not a UUID text and the reprocessor ends no intent**, the clock being read
    before the year 10000. -/
theorem conformance_iff {s : System} (hseed : s.Seeded) (hcurrency : ThreeLetterCurrencies s)
    (env : SystemEnv) (hfmt : env.formats.Documented) (as : List SystemAction)
    (hdates : Along (systemStep env) (DatesOk env) s as) :
    Along (systemStep env) (EventsConform env) s as ↔
      Along (systemStep env) (KeepsFormat env) s as := by
  apply along_iff_along_of_fair (Conforming env.formats) _ _ _ hdates
  · intro t a h hdates hok
    exact h.step (h.eventsConform hfmt hdates hok)
  · intro t a h hdates
    exact ⟨keepsFormat_of_eventsConform hfmt h, h.eventsConform hfmt hdates⟩
  · exact hseed.conforming hcurrency env.formats

/-! ### Runs -/

theorem defaultFormats_documented : defaultSystemEnv.formats.Documented where
  uuid := fun _ => rfl
  datetime := by
    have hdatetime : defaultSystemEnv.formats.datetime = isDatetimeText := rfl
    intro t
    rw [hdatetime, isDatetimeText_toISOString]

theorem seedSystem_currencies : ThreeLetterCurrencies seedSystem where
  seats := by decide
  prices := by decide

instance (env : SeatEnv) (a : SeatAction) : Decidable (a.DatesOk env) :=
  match a with
  | .insertHoldTx _ _ _ d => inferInstanceAs
      (Decidable (HasFourDigitYear (d.dateNow + env.holdTtlSeconds * 1000) ∧
        HasFourDigitYear d.occurredAt))
  | .releaseHold _ _ _ d => inferInstanceAs (Decidable (HasFourDigitYear d.occurredAt))
  | .reserveHold _ _ _ _ d => inferInstanceAs (Decidable (HasFourDigitYear d.occurredAt))
  | .tick scan _ _ draw =>
      inferInstanceAs (Decidable (∀ id ∈ scan.ids, HasFourDigitYear (draw id).2))

instance (a : PaymentAction) : Decidable a.DatesOk :=
  inferInstanceAs (Decidable (∀ d ∈ a.eventDraw, HasFourDigitYear d.occurredAt))

instance (env : SystemEnv) (s : System) (a : SystemAction) : Decidable (DatesOk env s a) :=
  decidable_of_iff
    ((∀ c ∈ seatCall env.formats s a, c.DatesOk env.seat) ∧
      ∀ c ∈ paymentCall env.formats s a, c.DatesOk)
    ⟨fun h => ⟨h.1, h.2⟩, fun h => ⟨h.seat, h.payment⟩⟩

instance (env : SystemEnv) (s : System) (a : SystemAction) : Decidable (KeepsFormat env s a) :=
  match a with
  | .hold seatId userId _ _ d => inferInstanceAs (Decidable (∀ seat ∈ Uuid.ofText seatId,
      holdViolation s.seat.seats (lazyCleanup seat d.now s.seat.holds)
        (newHold env.seat seat userId d) = none → isUuidText seatId = true))
  | .payment (.reprocess i traceDraw d) _ => inferInstanceAs (Decidable
      (∀ e ∈ handledEvent s.payment (.reprocess i traceDraw d),
        endsSome e s.payment.db = false))
  | .payment (.checkout _) _ | .payment (.checkoutStep ..) _ | .payment (.checkoutLost _) _ |
    .payment (.webhook ..) _ | .payment (.processEvent ..) _ | .payment (.processEventLost _) _ |
    .payment .reprocessTick _ | .payment (.reprocessSkip _) _ | .payment (.reprocessLost _) _ |
    .payment (.seatReleased ..) _ | .release .. | .releaseHold .. | .releaseLost .. | .sweep .. |
    .seatWorker .. | .paymentWorker .. | .deliverToSeat .. | .deliverToPayment .. =>
      inferInstanceAs (Decidable True)

instance (env : SystemEnv) (s : System) (a : SystemAction) : Decidable (EventsConform env s a) :=
  decidable_of_iff
    ((∀ r ∈ appendedBy env s a, r.payload.conforms env.formats = true) ∧
      (systemStep env s a).deadLetters = s.deadLetters)
    ⟨fun h => ⟨h.1, h.2⟩, fun h => ⟨h.appended, h.delivered⟩⟩

/-- The service stops after it has accepted the webhook, and the reprocessor
    completes the intent. -/
def reprocessedPayment : List SystemAction :=
  [holdSeat seatA1] ++
    localRun (checkoutRun 0 ⟨⟨1, 201, firstKey⟩, 101⟩ 901 ++
      (succeededRun "evt_1" firstKey 501).take 1 ++
        [.processEventLost 0, .reprocessTick, .reprocess 0 804 ⟨503, 3000, 3000⟩]) ++
      publishPayment 4000 ++ [deliverPayment]

/-- The payment is dead-lettered, and its hold is not reserved. -/
theorem reprocessedPayment_dead :
    seedSystem.Seeded ∧ ThreeLetterCurrencies seedSystem ∧
      defaultSystemEnv.formats.Documented ∧
      ¬ Along (systemStep defaultSystemEnv) (EventsConform defaultSystemEnv) seedSystem
        reprocessedPayment ∧
      let s := exec (systemStep defaultSystemEnv) seedSystem reprocessedPayment
      s.deadLetters.map (·.eventType) = ["payment.succeeded.v1"] ∧
        (∃ i ∈ s.payment.db.intents, i.holdId = 201 ∧ i.status = .completed) ∧
        ∀ h ∈ s.seat.holds, h.status ≠ .reserved :=
  ⟨seedSystem_seeded, seedSystem_currencies, defaultFormats_documented, by decide +kernel⟩

/-- When the webhook is processed at once, every event of the payment conforms. -/
theorem paidFor_conforms :
    Along (systemStep defaultSystemEnv) (EventsConform defaultSystemEnv) seedSystem
      (paidFor (holdSeat seatA1) ++ [deliverPayment]) :=
  (conformance_iff seedSystem_seeded seedSystem_currencies defaultSystemEnv
    defaultFormats_documented _ (by decide +kernel)).mpr (by decide +kernel)

end SeatReservation
