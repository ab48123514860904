import SeatReservation.EventStream
import SeatReservation.SeatProjection

/-!
# The page and the seats it shows

The page draws `GET /api/seats` and asks again for each event of the stream.  An
event carries too little to redraw a seat from, so it only says that the list may
have changed: what counts is that the list is read after the change is committed,
and that the last answer is the one drawn last.

`CatchingUp` is the argument: either the newest answer is the list as it is now,
or something that will make the page ask again is on its way.
-/

namespace SeatReservation

open Relational TransitionSystem Subscriptions

/-! ### The page -/

/-- `requests` have not reached the database yet; `responses` are answered, oldest first, and
    not drawn. -/
structure Page where
  stream : Option Nat
  read : Nat
  requests : Nat
  responses : List (List ListedSeat)
  grid : List ListedSeat

def Page.blank : Page := ⟨none, 0, 0, [], []⟩

structure PageView where
  live : LiveSeats
  page : Page

def PageView.start (db : SeatDb) : PageView := ⟨LiveSeats.start db, .blank⟩

structure PageEnv where
  seat : SeatEnv
  /-- The order of the database's collation. -/
  collation : String → String → Bool

/-- The list as the database has it. -/
def PageView.seats (env : PageEnv) (q : PageView) : List ListedSeat :=
  listAll env.collation q.live.runtime.db

inductive PageAction where
  | live (a : LiveAction)
  /-- The event source connects, or retries after an error. -/
  | connect (now : Nat)
  | disconnect
  | read
  /-- `refreshSeats` on loading, after a login or a logout. -/
  | refresh
  | answer
  | render (i : Nat)
  | loseRequest
  | loseResponse (i : Nat)

def PageView.subscription (q : PageView) : Option (Subscription StreamMessage) :=
  q.page.stream.bind fun k => q.live.streams.bus.subscriptions[k]?

/-- The messages the page has still to read. -/
def PageView.unread (q : PageView) : List StreamMessage :=
  match q.subscription with
  | some sub => sub.sent.drop q.page.read
  | none => []

/-- The page is given a message; `refreshSeats` sends a request. -/
def Page.handle (m : StreamMessage) (p : Page) : Page :=
  { p with
    read := p.read + 1
    requests := p.requests + if (onmessage m.data).isSome then 1 else 0 }

def pageStep (env : PageEnv) (q : PageView) : PageAction → PageView
  | .live a => { q with live := liveStep env.seat q.live a }
  | .connect now =>
      match q.page.stream with
      | some _ => q
      | none =>
          { live := liveStep env.seat q.live (.stream now)
            page := { q.page with
              stream := some q.live.streams.bus.subscriptions.length
              read := 0 } }
  | .disconnect => { q with page := { q.page with stream := none } }
  | .read =>
      match q.unread with
      | [] => q
      | m :: _ => { q with page := q.page.handle m }
  | .refresh => { q with page := { q.page with requests := q.page.requests + 1 } }
  | .answer =>
      if 0 < q.page.requests then
        { q with page := { q.page with
            requests := q.page.requests - 1
            responses := q.page.responses ++ [q.seats env] } }
      else q
  | .render i =>
      match q.page.responses[i]? with
      | some seats =>
          { q with page := { q.page with
              responses := q.page.responses.eraseIdx i
              grid := seats } }
      | none => q
  | .loseRequest => { q with page := { q.page with requests := q.page.requests - 1 } }
  | .loseResponse i =>
      { q with page := { q.page with responses := q.page.responses.eraseIdx i } }

/-! ### What a call changes, it announces -/

/-- The part of the database the list of seats is read from. -/
def SameSeats (db db' : SeatDb) : Prop := db'.seats = db.seats ∧ db'.holds = db.holds

theorem SameSeats.listAll {db db' : SeatDb} (h : SameSeats db db')
    (collation : String → String → Bool) : listAll collation db' = listAll collation db := by
  unfold SeatReservation.listAll
  rw [h.1, h.2]

/-- What a tick in flight has put on the bus. -/
def Sweep.reported (t : Sweep) : List HoldRow :=
  match t.point with
  | .emit _ _ => t.announced.dropLast
  | _ => t.announced

/-- A tick has put a release on the bus and has not ended. -/
def SeatRuntime.Reporting (s : SeatRuntime) : Prop := ∃ t ∈ s.sweeps, t.reported ≠ []

theorem answer_announces {s : SeatRuntime} {α : Type} {x : SqlSession.Script SqlError SeatDb α}
    {done : α → SeatDb → Prop} (h : x.Does s.db done) (faults : Nat → Option SqlError)
    {emission : α → List Emission}
    (hdone : ∀ result db', done result db' → emission result ≠ [] ∨ SameSeats s.db db') :
    SameSeats s.db (s.answer (x.run s.db faults inFailedSqlTransaction) emission).db ∨
      (s.answer (x.run s.db faults inFailedSqlTransaction) emission).answers ≠ [] := by
  unfold SeatRuntime.answer
  rcases h.run faults with ⟨result, hok, heffect⟩ | ⟨e, -, hsame⟩
  · rw [hok]
    rcases hdone result _ heffect with hemits | hsame
    · exact .inr (by simp [hemits])
    · exact .inl hsame
  · rw [hsame]
    exact .inl ⟨rfl, rfl⟩

theorem insertHold_announces {env : SeatEnv} {seatId : String} {userId : Uuid} {traceId : String}
    {d : HoldDraw} {db : SeatDb} (result : InsertHoldResult) (db' : SeatDb)
    (h : InsertHoldDone env seatId userId traceId d db result db') :
    heldEmission seatId userId result ≠ [] ∨ SameSeats db db' := by
  cases result with
  | ok hold => exact .inl (by simp [heldEmission])
  | conflict reason =>
    unfold InsertHoldDone at h
    rw [h]
    exact .inr ⟨rfl, rfl⟩

theorem release_announces {holdId : Uuid} {reason traceId : String} {d : Draw} {db : SeatDb}
    (result : ReleaseResult) (db' : SeatDb)
    (h : (result, db') = releaseHold holdId reason traceId d db) :
    releasedEmission holdId result ≠ [] ∨ SameSeats db db' := by
  unfold releaseHold at h
  split at h
  · obtain ⟨rfl, rfl⟩ := Prod.mk.inj h
    exact .inr ⟨rfl, rfl⟩
  · obtain ⟨rfl, rfl⟩ := Prod.mk.inj h
    exact .inl (by simp [releasedEmission])

theorem reserve_announces {holdId eventId : Uuid} {group traceId : String} {d : Draw} {db : SeatDb}
    (result : ReserveResult) (db' : SeatDb)
    (h : (result, db') = reserveHold holdId eventId group traceId d db) :
    reservedEmission holdId result ≠ [] ∨ SameSeats db db' := by
  unfold reserveHold at h
  split at h
  · obtain ⟨rfl, rfl⟩ := Prod.mk.inj h
    exact .inr ⟨rfl, rfl⟩
  · split at h
    · obtain ⟨rfl, rfl⟩ := Prod.mk.inj h
      exact .inr ⟨rfl, rfl⟩
    · obtain ⟨rfl, rfl⟩ := Prod.mk.inj h
      exact .inl (by simp [reservedEmission])

/-- At its COMMIT a tick has reported everything it changes. -/
theorem Sweep.Consistent.writes_reported {env : SeatEnv} {db : SeatDb} {t : Sweep}
    (h : t.Consistent env db) (hpoint : t.point = .loop []) :
    SameSeats db (t.writes db) ∨ t.reported ≠ [] := by
  obtain ⟨hannounced, hfreed⟩ := h.committing hpoint
  have hreported : t.reported = t.batch := by
    unfold Sweep.reported
    rw [hpoint]
    exact hannounced
  rw [hreported]
  by_cases hbatch : t.batch = []
  · left
    unfold SameSeats Sweep.writes Sweep.locks
    rw [hfreed, hbatch]
    simp [update]
  · exact .inr hbatch

/-- **The list does not change behind anybody's back**: the step that changes it leaves an
    event to be put on the bus, or is the COMMIT of a tick that has put its events there. -/
theorem SeatRuntime.Consistent.announces {env : SeatEnv} {s : SeatRuntime} (h : s.Consistent env)
    (a : RuntimeAction) :
    SameSeats s.db (runtimeStep env s a).db ∨ (runtimeStep env s a).answers ≠ [] ∨
      s.Reporting := by
  have hsame : SameSeats s.db s.db := ⟨rfl, rfl⟩
  have hcall : ∀ s' : SeatRuntime, SameSeats s.db s'.db ∨ s'.answers ≠ [] →
      SameSeats s.db s'.db ∨ s'.answers ≠ [] ∨ s.Reporting := fun s' h => h.imp_right .inl
  cases a with
  | hold seatId userId traceId d faults =>
    dsimp only [runtimeStep]
    split
    · exact .inl hsame
    · exact hcall _ (answer_announces (insertHoldTx_does env seatId userId traceId d s.db) faults
        insertHold_announces)
  | lookup seatId userId traceId =>
    dsimp only [runtimeStep]
    split
    · exact .inl hsame
    · split
      · exact .inl hsame
      · split
        · exact .inl hsame
        · exact .inl hsame
  | cancel i d faults =>
    dsimp only [runtimeStep]
    split
    · exact .inl hsame
    · rename_i c _
      split
      · exact .inl hsame
      · exact hcall _ (answer_announces (s := { s with cancels := s.cancels.eraseIdx i })
          (releaseHold_does c.hold.id "user_cancelled" c.traceId d s.db) faults release_announces)
  | paymentSucceeded holdId eventId traceId d faults =>
    dsimp only [runtimeStep]
    split
    · exact .inl hsame
    · exact hcall _ (answer_announces
        (reserveHold_does holdId eventId "seat-service" traceId d s.db) faults reserve_announces)
  | paymentFailed holdId traceId d faults =>
    dsimp only [runtimeStep]
    split
    · exact .inl hsame
    · exact hcall _ (answer_announces (releaseHold_does holdId "payment_failed" traceId d s.db)
        faults release_announces)
  | emit i => exact .inl hsame
  | tick traceId now draw => exact .inl hsame
  | sweep i scan =>
    dsimp only [runtimeStep]
    cases hget : s.sweeps[i]? with
    | none => exact .inl hsame
    | some t =>
      have ht : t ∈ s.sweeps := List.mem_of_getElem? hget
      dsimp only
      by_cases hpoint : t.point = .loop []
      · rw [Sweep.next_commit hpoint]
        rcases (h.sweeps t ht).writes_reported hpoint with hnone | hreported
        · exact .inl hnone
        · exact .inr (.inr ⟨t, ht, hreported⟩)
      · rw [Sweep.next_db hpoint]
        exact .inl hsame
  | sweepFails i => exact .inl hsame

theorem SeatRuntime.Consistent.answers_step {env : SeatEnv} {s : SeatRuntime} (h : s.Consistent env)
    (a : RuntimeAction) (hanswers : s.answers ≠ []) :
    (runtimeStep env s a).answers ≠ [] ∨ busOutput s a ≠ [] := by
  have heffect := h.effect a
  generalize runtimeStep env s a = s' at heffect ⊢
  cases heffect with
  | call _ cancels emissions db' hleaves hcancels => exact .inl (by simp [hanswers])
  | emit i =>
    rcases hget : s.answers[i]? with _ | e
    · left
      dsimp only
      rwa [List.eraseIdx_of_length_le (List.getElem?_eq_none_iff.mp hget)]
    · exact .inr (by simp [busOutput, hget])
  | _ => exact .inl hanswers

/-- Every statement but `bus.emit` leaves what a tick has reported. -/
theorem Sweep.reported_next {env : SeatEnv} {db : SeatDb} {t : Sweep} {locked : List Uuid}
    {scan : Scan} (hopen : t.point ≠ .loop []) :
    (t.next env locked scan db).1.reported = t.reported ∨ t.emits ≠ [] := by
  unfold Sweep.next Sweep.reported Sweep.emits
  rcases hpoint : t.point with _ | ⟨_ | ⟨r, rest⟩⟩ | ⟨r, rest⟩ | ⟨r, rest⟩ | _
  · exact .inl rfl
  · exact absurd hpoint hopen
  · exact .inl rfl
  · exact .inl List.dropLast_concat
  · exact .inr (by simp)
  · left
    dsimp only
    rw [hpoint]

theorem reporting_replace {s : SeatRuntime} {before after : List Sweep} {t t' : Sweep}
    (hsplit : s.sweeps = before ++ t :: after)
    (h : ∃ x ∈ before ++ t' :: after, x.reported ≠ []) : t'.reported ≠ [] ∨ s.Reporting := by
  obtain ⟨x, hx, hreported⟩ := h
  simp only [List.mem_append, List.mem_cons] at hx
  rcases hx with hx | rfl | hx
  · exact .inr ⟨x, by simp [hsplit, hx], hreported⟩
  · exact .inl hreported
  · exact .inr ⟨x, by simp [hsplit, hx], hreported⟩

theorem SeatRuntime.Consistent.reporting_step {env : SeatEnv} {s : SeatRuntime}
    (h : s.Consistent env) (a : RuntimeAction) (hreporting : (runtimeStep env s a).Reporting) :
    s.Reporting ∨ busOutput s a ≠ [] := by
  have heffect := h.effect a
  generalize runtimeStep env s a = s' at heffect hreporting
  cases heffect with
  | tick traceId now draw =>
    obtain ⟨t, ht, hreported⟩ := hreporting
    rcases List.mem_append.mp ht with ht | ht
    · exact .inl ⟨t, ht, hreported⟩
    · rw [List.mem_singleton.mp ht] at hreported
      exact absurd rfl hreported
  | sweep scan before after t hsplit hopen =>
    rcases reporting_replace hsplit hreporting with hreported | hbefore
    · rcases Sweep.reported_next hopen with hsame | hemits
      · rw [hsame] at hreported
        exact .inl ⟨t, by simp [hsplit], hreported⟩
      · exact .inr (by simpa [busOutput, hsplit] using hemits)
    · exact .inl hbefore
  | commit scan before after t hsplit hpoint =>
    rcases reporting_replace hsplit hreporting with hreported | hbefore
    · exact absurd rfl hreported
    · exact .inl hbefore
  | fails before after t hsplit =>
    rcases reporting_replace hsplit hreporting with hreported | hbefore
    · exact absurd rfl hreported
    · exact .inl hbefore
  | _ => exact .inl hreporting

/-! ### Every reachable state -/

structure PageView.Sound (env : PageEnv) (q : PageView) : Prop where
  runtime : q.live.runtime.Consistent env.seat
  streams : q.live.streams.Sound
  reads : ∀ k, q.page.stream = some k →
    ∃ sub, q.live.streams.bus.subscriptions[k]? = some sub ∧ q.page.read ≤ sub.sent.length

theorem LiveSeats.consistent_step {env : SeatEnv} {s : LiveSeats} (h : s.runtime.Consistent env)
    (a : LiveAction) : (liveStep env s a).runtime.Consistent env := by
  cases a with
  | seat a => exact h.step a
  | _ => exact h

theorem PageView.Sound.live {env : PageEnv} {q : PageView} (h : q.Sound env) (a : LiveAction) :
    PageView.Sound env ⟨liveStep env.seat q.live a, q.page⟩ := by
  refine ⟨LiveSeats.consistent_step h.runtime a, h.streams.step env.seat a, ?_⟩
  intro k hk
  obtain ⟨sub, hget, hread⟩ := h.reads k hk
  refine ⟨_, liveStep_subscription env.seat h.streams hget a, hread.trans ?_⟩
  simp

theorem PageView.unread_eq {q : PageView} {k : Nat} {sub : Subscription StreamMessage}
    (hstream : q.page.stream = some k) (hget : q.live.streams.bus.subscriptions[k]? = some sub) :
    q.unread = sub.sent.drop q.page.read := by
  simp [PageView.unread, PageView.subscription, hstream, hget]

theorem PageView.Sound.step {env : PageEnv} {q : PageView} (h : q.Sound env) (a : PageAction) :
    (pageStep env q a).Sound env := by
  cases a with
  | live a => exact h.live a
  | connect now =>
    dsimp only [pageStep]
    split
    · exact h
    · refine ⟨h.runtime, h.streams.stream now, ?_⟩
      intro k hk
      cases hk
      exact ⟨⟨true, [.hello now]⟩, List.getElem?_concat_length, Nat.zero_le _⟩
  | disconnect => exact ⟨h.runtime, h.streams, fun k hk => by cases hk⟩
  | read =>
    dsimp only [pageStep]
    split
    · exact h
    · rename_i m rest hunread
      refine ⟨h.runtime, h.streams, ?_⟩
      intro k hk
      obtain ⟨sub, hget, hread⟩ := h.reads k hk
      have hlength := congrArg List.length
        ((PageView.unread_eq (q := q) hk hget).symm.trans hunread)
      rw [List.length_drop, List.length_cons] at hlength
      exact ⟨sub, hget, by dsimp only [Page.handle]; omega⟩
  | refresh => exact ⟨h.runtime, h.streams, h.reads⟩
  | answer =>
    dsimp only [pageStep]
    split
    · exact ⟨h.runtime, h.streams, h.reads⟩
    · exact h
  | render i =>
    dsimp only [pageStep]
    split
    · exact ⟨h.runtime, h.streams, h.reads⟩
    · exact h
  | loseRequest => exact ⟨h.runtime, h.streams, h.reads⟩
  | loseResponse i => exact ⟨h.runtime, h.streams, h.reads⟩

theorem PageView.sound_exec {db : SeatDb} (h : db.WellFormed) (env : PageEnv)
    (as : List PageAction) : (exec (pageStep env) (PageView.start db) as).Sound env := by
  apply exec_invariant' (PageView.Sound env) (fun _ a h => h.step a)
  exact ⟨SeatRuntime.consistent_start h, SeatStreams.sound_none, fun k hk => by cases hk⟩

/-! ### Signals -/

/-- The page is connected, and the service has not torn its subscription down. -/
def PageView.Listens (q : PageView) : Prop := q.subscription.any (·.active) = true

/-- Something will make the page ask for the list, or it is asking. -/
def PageView.Signalled (q : PageView) : Prop :=
  0 < q.page.requests ∨ ∃ m ∈ q.unread, m.event?.isSome = true

/-- The action does not cut the page off, keeps its answers in order, and does not read the
    list between the `bus.emit` of a tick and the end of the tick. -/
def KeepsUp (q : PageView) : PageAction → Prop
  | .live (.teardown k) => q.page.stream ≠ some k
  | .disconnect | .loseRequest | .loseResponse _ => False
  | .answer => ∀ t ∈ q.live.runtime.sweeps, t.reported = []
  | .render i => i = 0
  | _ => True

instance (q : PageView) : DecidablePred (KeepsUp q)
  | .live (.teardown k) => inferInstanceAs (Decidable (q.page.stream ≠ some k))
  | .disconnect | .loseRequest | .loseResponse _ => inferInstanceAs (Decidable False)
  | .answer => inferInstanceAs (Decidable (∀ t ∈ q.live.runtime.sweeps, t.reported = []))
  | .render i => inferInstanceAs (Decidable (i = 0))
  | .live (.seat _) | .live (.stream _) | .live (.heartbeat ..) | .connect _ | .read | .refresh =>
    inferInstanceAs (Decidable True)

instance (q : PageView) : Decidable q.Listens := inferInstanceAs (Decidable (_ = true))

theorem PageView.Listens.subscription {q : PageView} (h : q.Listens) :
    ∃ k sub, q.page.stream = some k ∧ q.live.streams.bus.subscriptions[k]? = some sub ∧
      sub.active = true := by
  obtain ⟨sub, hsub, hactive⟩ := (Option.any_eq_true _ _).mp h
  obtain ⟨k, hk, hget⟩ := Option.bind_eq_some_iff.mp hsub
  exact ⟨k, sub, hk, hget, hactive⟩

theorem PageView.listens_of_subscription {q : PageView} {k : Nat}
    {sub : Subscription StreamMessage} (hstream : q.page.stream = some k)
    (hget : q.live.streams.bus.subscriptions[k]? = some sub) (hactive : sub.active = true) :
    q.Listens := by
  simp [PageView.Listens, PageView.subscription, hstream, hget, hactive]

/-- What the service sends is added to what the page has to read. -/
theorem PageView.Listens.live {env : PageEnv} {q : PageView} (hl : q.Listens) (h : q.Sound env)
    {a : LiveAction} (hopen : KeepsUp q (.live a)) :
    (pageStep env q (.live a)).Listens ∧
      ∃ k, (pageStep env q (.live a)).unread = q.unread ++ q.live.sends k a := by
  obtain ⟨k, sub, hstream, hget, hactive⟩ := hl.subscription
  obtain ⟨sub', hget', hread⟩ := h.reads k hstream
  obtain rfl : sub = sub' := Option.some.inj (hget.symm.trans hget')
  have hkeeps : a.tearsDown k = false := by
    cases a with
    | teardown k' =>
      have hne : k' ≠ k := by
        rintro rfl
        exact hopen hstream
      simpa [LiveAction.tearsDown] using hne
    | _ => rfl
  have hnext := liveStep_subscription env.seat h.streams hget a
  rw [hactive, hkeeps, if_pos rfl] at hnext
  refine ⟨PageView.listens_of_subscription hstream hnext rfl, k, ?_⟩
  rw [PageView.unread_eq (q := pageStep env q (.live a)) hstream hnext,
    PageView.unread_eq hstream hget]
  exact List.drop_append_of_le_length hread

theorem exists_event_of_emitted {k : Nat} {s : LiveSeats} {a : LiveAction} (h : emitted s a ≠ []) :
    ∃ m ∈ s.sends k a, m.event?.isSome = true := by
  obtain ⟨e, he⟩ := List.exists_mem_of_ne_nil _ h
  rw [← filterMap_sends k s a] at he
  obtain ⟨m, hm, hevent⟩ := List.mem_filterMap.mp he
  exact ⟨m, hm, by rw [hevent]; rfl⟩

theorem PageView.Signalled.live {env : PageEnv} {q : PageView} (hs : q.Signalled)
    (hl : q.Listens) (h : q.Sound env) {a : LiveAction} (hopen : KeepsUp q (.live a)) :
    (pageStep env q (.live a)).Signalled := by
  obtain ⟨-, k, hunread⟩ := hl.live h hopen
  rcases hs with hrequest | ⟨m, hm, hevent⟩
  · exact .inl hrequest
  · right
    rw [hunread]
    exact ⟨m, List.mem_append_left _ hm, hevent⟩

theorem PageView.Listens.signalled_of_emitted {env : PageEnv} {q : PageView} (hl : q.Listens)
    (h : q.Sound env) {a : LiveAction} (hopen : KeepsUp q (.live a))
    (hemitted : emitted q.live a ≠ []) : (pageStep env q (.live a)).Signalled := by
  obtain ⟨-, k, hunread⟩ := hl.live h hopen
  obtain ⟨m, hm, hevent⟩ := exists_event_of_emitted (k := k) hemitted
  right
  rw [hunread]
  exact ⟨m, List.mem_append_right _ hm, hevent⟩

/-! ### Catching up -/

/-- The newest answer, drawn or not. -/
def PageView.latest (q : PageView) : List ListedSeat := q.page.responses.getLastD q.page.grid

/-- The page has the list as it is, or will ask for it again. -/
structure CatchingUp (env : PageEnv) (q : PageView) : Prop where
  sound : q.Sound env
  listens : q.Listens
  reporting : q.live.runtime.Reporting → q.Signalled
  fresh : q.live.runtime.answers ≠ [] ∨ q.Signalled ∨ q.latest = q.seats env

theorem CatchingUp.seat {env : PageEnv} {q : PageView} (h : CatchingUp env q) (a : RuntimeAction) :
    CatchingUp env (pageStep env q (.live (.seat a))) := by
  have hopen : KeepsUp q (.live (.seat a)) := trivial
  have hkept : q.Signalled → (pageStep env q (.live (.seat a))).Signalled :=
    fun hs => hs.live h.listens h.sound hopen
  have hput : busOutput q.live.runtime a ≠ [] → (pageStep env q (.live (.seat a))).Signalled :=
    fun hout => h.listens.signalled_of_emitted h.sound hopen (by simpa [emitted] using hout)
  refine ⟨h.sound.step _, (h.listens.live h.sound hopen).1, ?_, ?_⟩
  · intro hreporting
    rcases h.sound.runtime.reporting_step a hreporting with hbefore | hout
    · exact hkept (h.reporting hbefore)
    · exact hput hout
  · rcases h.fresh with hanswers | hsignalled | hlatest
    · rcases h.sound.runtime.answers_step a hanswers with hanswers | hout
      · exact .inl hanswers
      · exact .inr (.inl (hput hout))
    · exact .inr (.inl (hkept hsignalled))
    · rcases h.sound.runtime.announces a with hsame | hanswers | hreporting
      · exact .inr (.inr (hlatest.trans (hsame.listAll env.collation).symm))
      · exact .inl hanswers
      · exact .inr (.inl (hkept (h.reporting hreporting)))

theorem CatchingUp.live {env : PageEnv} {q : PageView} (h : CatchingUp env q) {a : LiveAction}
    (hopen : KeepsUp q (.live a)) : CatchingUp env (pageStep env q (.live a)) := by
  have hkept : q.Signalled → (pageStep env q (.live a)).Signalled :=
    fun hs => hs.live h.listens h.sound hopen
  cases a with
  | seat a => exact h.seat a
  | _ =>
    exact ⟨h.sound.step _, (h.listens.live h.sound hopen).1, fun hr => hkept (h.reporting hr),
      h.fresh.imp_right (Or.imp_left hkept)⟩

/-- The page reads a message: if it was an event, the page asks for the list. -/
theorem CatchingUp.read {env : PageEnv} {q : PageView} (h : CatchingUp env q) :
    CatchingUp env (pageStep env q .read) := by
  have hsound := h.sound.step .read
  revert hsound
  dsimp only [pageStep]
  split
  · intro _
    exact h
  · rename_i m rest hunread
    intro hsound
    obtain ⟨k, sub, hstream, hget, -⟩ := h.listens.subscription
    have hrest : PageView.unread ⟨q.live, q.page.handle m⟩ = rest := by
      rw [PageView.unread_eq hstream hget] at hunread
      rw [PageView.unread_eq (q := ⟨q.live, q.page.handle m⟩) hstream hget, Page.handle,
        ← List.drop_drop, hunread]
      rfl
    have hkept : q.Signalled → PageView.Signalled ⟨q.live, q.page.handle m⟩ := by
      rintro (hrequest | ⟨m', hm', hevent⟩)
      · exact .inl (Nat.add_pos_left hrequest _)
      · rw [hunread] at hm'
        rcases List.mem_cons.mp hm' with rfl | hm'
        · left
          rw [Page.handle, isSome_onmessage, hevent]
          exact Nat.succ_pos _
        · exact .inr ⟨m', by rwa [hrest], hevent⟩
    exact ⟨hsound, h.listens, fun hr => hkept (h.reporting hr),
      h.fresh.imp_right (Or.imp_left hkept)⟩

theorem CatchingUp.step {env : PageEnv} {q : PageView} (h : CatchingUp env q) {a : PageAction}
    (hok : KeepsUp q a) : CatchingUp env (pageStep env q a) := by
  have hsound := h.sound.step a
  cases a with
  | live a => exact h.live hok
  | connect now =>
    obtain ⟨k, sub, hstream, -⟩ := h.listens.subscription
    simp only [pageStep, hstream]
    exact h
  | disconnect => exact hok.elim
  | read => exact h.read
  | refresh =>
    have hasks : PageView.Signalled (pageStep env q .refresh) := .inl (Nat.succ_pos _)
    exact ⟨hsound, h.listens, fun _ => hasks, .inr (.inl hasks)⟩
  | answer =>
    revert hsound
    dsimp only [pageStep]
    split
    · intro hsound
      refine ⟨hsound, h.listens, ?_, ?_⟩
      · rintro ⟨t, ht, hreported⟩
        exact absurd (hok t ht) hreported
      · right
        right
        simp [PageView.latest, PageView.seats]
    · intro _
      exact h
  | render i =>
    obtain rfl : i = 0 := hok
    revert hsound
    dsimp only [pageStep]
    split
    · rename_i seats hget
      intro hsound
      refine ⟨hsound, h.listens, h.reporting, ?_⟩
      have hlatest : PageView.latest ⟨q.live, { q.page with
          responses := q.page.responses.eraseIdx 0
          grid := seats }⟩ = q.latest := by
        unfold PageView.latest
        cases hresponses : q.page.responses with
        | nil => simp [hresponses] at hget
        | cons first rest =>
          simp only [hresponses, List.getElem?_cons_zero, Option.some.injEq] at hget
          rw [hget, List.eraseIdx_cons_zero, List.getLastD_cons]
      rw [hlatest]
      exact h.fresh
    · intro _
      exact h
  | loseRequest => exact hok.elim
  | loseResponse i => exact hok.elim

/-- Nothing is on its way: no event to be put on the bus, no message to be read, no request and
    no answer. -/
structure PageView.Quiet (q : PageView) : Prop where
  answers : q.live.runtime.answers = []
  unread : q.unread = []
  requests : q.page.requests = 0
  responses : q.page.responses = []

/-- **A page catches up.**  Take any state in which a page is connected and is asking for the
    list.  However the calls of all users, the ticks of the sweeper, the emissions, the streams
    and the requests of the page interleave from there, whenever nothing is on its way to the
    page, it shows the seats as the database has them, provided that it has not been cut off, its
    answers arrive and are drawn in order, and none was read between the `bus.emit` of a tick and
    the end of the tick.  As in the runtime below, one process handles all calls and every COMMIT
    that takes effect is answered. -/
theorem page_catches_up {db : SeatDb} (h : db.WellFormed) (env : PageEnv) (as bs : List PageAction)
    (hlistens : (exec (pageStep env) (PageView.start db) as).Listens)
    (hasks : 0 < (exec (pageStep env) (PageView.start db) as).page.requests)
    (hok : Along (pageStep env) KeepsUp (exec (pageStep env) (PageView.start db) as) bs)
    (hquiet : (exec (pageStep env) (PageView.start db) (as ++ bs)).Quiet) :
    (exec (pageStep env) (PageView.start db) (as ++ bs)).page.grid =
      (exec (pageStep env) (PageView.start db) (as ++ bs)).seats env := by
  have hstart : CatchingUp env (exec (pageStep env) (PageView.start db) as) :=
    ⟨PageView.sound_exec h env as, hlistens, fun _ => .inl hasks, .inr (.inl (.inl hasks))⟩
  have hend := exec_invariant (CatchingUp env) (fun _ _ h hok => h.step hok) hstart hok
  rw [← exec_append] at hend
  generalize exec (pageStep env) (PageView.start db) (as ++ bs) = q at hquiet hend ⊢
  have hnone : ¬ q.Signalled := by
    rintro (hrequest | ⟨m, hm, -⟩)
    · rw [hquiet.requests] at hrequest
      exact absurd hrequest (Nat.lt_irrefl 0)
    · rw [hquiet.unread] at hm
      cases hm
  rcases hend.fresh with hanswers | hsignalled | hlatest
  · exact absurd hquiet.answers hanswers
  · exact absurd hsignalled hnone
  · rw [PageView.latest, hquiet.responses] at hlatest
    exact hlatest

def defaultPageEnv : PageEnv := ⟨defaultSeatEnv, fun s s' => decide (s ≤ s')⟩

/-- User 101 takes seat A1 until 120000 while a page is open, which hears of it, asks and
    draws. -/
def pageSeesHold : List PageAction :=
  [.answer, .render 0,
    .live (.seat (.hold "00000000-0000-0000-0000-000000000001" 101 "t1" ⟨501, 901, 0, 0, 0⟩
      fun _ => none)),
    .live (.seat (.emit 0)), .read, .live (.heartbeat 0 25000), .read, .read, .answer, .render 0]

theorem page_catches_up_hold :
    let q := exec (pageStep defaultPageEnv) (PageView.start seedDb)
      ([.refresh, .connect 0] ++ pageSeesHold)
    q.live.runtime.db.holds.length = 1 ∧ q.page.grid = q.seats defaultPageEnv :=
  ⟨by decide +kernel, page_catches_up seedDb_seeded.wellFormed defaultPageEnv
    [.refresh, .connect 0] pageSeesHold (by decide +kernel) (by decide +kernel)
    (by decide +kernel) ⟨by decide +kernel, by decide +kernel, by decide +kernel,
      by decide +kernel⟩⟩

end SeatReservation
