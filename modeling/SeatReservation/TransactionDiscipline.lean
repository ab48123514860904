import SeatReservation.TransactionScripts

/-!
# Connections are returned idle, results tell the truth

Two facts about the functions that borrow a connection, whatever the database
reports at whichever statement.  The connection goes back to the pool once, not
inside a transaction (`connection_returned_idle`), except by `OutboxWorker.tick`,
which has no `catch`: an error between its BEGIN and its COMMIT leaves the
transaction aborted.  And the seven repository functions report success exactly
when everything they write is durable (`results_tell_the_truth`).
-/

namespace SeatReservation

open Relational SqlSession

/-- A call on a connection just borrowed. -/
def SqlSession.Script.run {ε σ α : Type} (x : Script ε σ α) (d : σ) (faults : Nat → Option ε)
    (inFailedTransaction : ε) : Except (Thrown ε) α × Session ε σ :=
  x (Session.borrowed d faults inFailedTransaction)

section

variable {ε σ α : Type} {x : Script ε σ α} {d : σ} {done : α → σ → Prop}

theorem SqlSession.Script.Does.returnedIdle (h : x.Does d done) (faults : Nat → Option ε)
    (inFailedTransaction : ε) : ReturnedIdle (x.run d faults inFailedTransaction).2 := by
  have hrun := h _ (Idle.borrowed d faults inFailedTransaction)
  unfold Script.run
  rcases hout : x (Session.borrowed d faults inFailedTransaction) with ⟨result, s⟩
  rw [hout] at hrun
  cases result with
  | ok a => exact hrun.1
  | error e => exact hrun.1

/-- Success is reported exactly when the whole change `committed` is durable; with any
    other outcome nothing is. -/
structure AllOrNothing (success : α → Prop) (complete : σ → σ → Prop) (d committed : σ)
    (out : Except (Thrown ε) α × Session ε σ) : Prop where
  success_iff : (∃ a, out.1 = .ok a ∧ success a) ↔
    out.2.durable = committed ∧ complete d committed
  otherwise : (∀ a, out.1 = .ok a → ¬ success a) → out.2.durable = d

theorem SqlSession.Script.Does.allOrNothing (h : x.Does d done) (faults : Nat → Option ε)
    (inFailedTransaction : ε) {success : α → Prop} {complete : σ → σ → Prop} {committed : σ}
    (hirrefl : ¬ complete d d)
    (hdone : ∀ a d', done a d' →
      (success a ∧ d' = committed ∧ complete d committed) ∨ (¬ success a ∧ d' = d)) :
    AllOrNothing success complete d committed (x.run d faults inFailedTransaction) := by
  have hrun := h _ (Idle.borrowed d faults inFailedTransaction)
  unfold Script.run
  rcases hout : x (Session.borrowed d faults inFailedTransaction) with ⟨result, s⟩
  rw [hout] at hrun
  -- Nothing durable is not a complete change.
  have hnothing : s.durable = d → ¬ (s.durable = committed ∧ complete d committed) := by
    rintro hd ⟨hcommitted, hcomplete⟩
    rw [← hcommitted, hd] at hcomplete
    exact hirrefl hcomplete
  cases result with
  | ok a =>
    have hresult : (∃ a', (Except.ok a : Except (Thrown ε) α) = .ok a' ∧ success a') ↔
        success a := by simp
    rcases hdone a _ hrun.2 with ⟨hsuccess, hdurable, hcomplete⟩ | ⟨hrefused, hdurable⟩
    · refine ⟨?_, fun hrefused => absurd hsuccess (hrefused a rfl)⟩
      exact hresult.trans ⟨fun _ => ⟨hdurable, hcomplete⟩, fun _ => hsuccess⟩
    · refine ⟨?_, fun _ => hdurable⟩
      exact hresult.trans ⟨fun hsuccess => absurd hsuccess hrefused,
        fun hall => absurd hall (hnothing hdurable)⟩
  | error e =>
    refine ⟨⟨?_, fun hall => absurd hall (hnothing hrun.2)⟩, fun _ => hrun.2⟩
    rintro ⟨a, hok, -⟩
    cases hok

end

/-! ### The outbox worker -/

/-- Rows are published and written back while the connection stays idle. -/
theorem forEach_elsewhere {ε σ β : Type} (f : β → σ → Except (Thrown ε) σ) (bs : List β)
    (s : Session ε σ) :
    (forEach bs (fun b => elsewhere (f b)) s).2.tx = s.tx ∧
      (forEach bs (fun b => elsewhere (f b)) s).2.returned = s.returned := by
  induction bs generalizing s with
  | nil => exact ⟨rfl, rfl⟩
  | cons b bs ih =>
    simp only [forEach, Bind.bind, Script.bind, elsewhere]
    cases f b s.durable with
    | error e => exact ⟨rfl, rfl⟩
    | ok durable => exact ih _

/-- When the worker gets as far as its transaction, the database reports no error at
    its SELECT and, if there are rows to claim, none at its UPDATE. -/
def NoErrorInTx (faults : Nat → Option SqlError) (recoverNow now : Nat) (locked : List Nat)
    (o : Outbox) : Prop :=
  faults 0 = none → faults 1 = none →
    faults 2 = none ∧ ((o.recover recoverNow).due now locked ≠ [] → faults 3 = none)

/-- **The worker returns its connection idle iff no error falls into its transaction.** -/
theorem returnedIdle_outboxTick_iff (recoverNow now : Nat) (locked : List Nat)
    (processRow : OutboxRow → Outbox → Except (Thrown SqlError) Outbox) (o : Outbox)
    (faults : Nat → Option SqlError) (inFailedTransaction : SqlError) :
    ReturnedIdle ((Scripts.outboxTick recoverNow now locked processRow).run o faults
        inFailedTransaction).2 ↔
      NoErrorInTx faults recoverNow now locked o := by
  simp only [ReturnedIdle, Script.run, Scripts.outboxTick, SqlSession.tryFinally,
    SqlSession.release, Session.borrowed, NoErrorInTx, Bind.bind, Script.bind]
  cases hrecover : faults 0 with
  | some e => simp [query, hrecover]
  | none =>
    cases hbegin : faults 1 with
    | some e => simp [query, begin, hrecover, hbegin]
    | none =>
      cases hselect : faults 2 with
      | some e => simp [query, begin, hrecover, hbegin, hselect]
      | none =>
        cases hdue : (o.recover recoverNow).due now locked with
        | nil =>
          simp [query, begin, hrecover, hbegin, hselect, hdue, rollback, Script.bind, Pure.pure,
            Script.pure]
        | cons row rest =>
          cases hupdate : faults 3 with
          | some e =>
            simp [query, begin, hrecover, hbegin, hselect, hdue, hupdate, Script.bind]
          | none =>
            cases hcommit : faults 4 with
            | some e =>
              simp [query, begin, commit, hrecover, hbegin, hselect, hdue, hupdate, hcommit,
                Script.bind]
            | none =>
              simp [query, begin, commit, hrecover, hbegin, hselect, hdue, hupdate, hcommit,
                Script.bind, forEach_elsewhere]

/-! ### Every function that opens a transaction -/

/-- From any database, with these errors, the connection goes back once and idle. -/
def ReturnsIdle {σ α : Type} (x : Script SqlError σ α) (faults : Nat → Option SqlError)
    (inFailedTransaction : SqlError) : Prop :=
  ∀ d, ReturnedIdle (x.run d faults inFailedTransaction).2

theorem ReturnsIdle.of_does {σ α : Type} {x : Script SqlError σ α} {done : σ → α → σ → Prop}
    (h : ∀ d, x.Does d (done d)) (faults : Nat → Option SqlError)
    (inFailedTransaction : SqlError) : ReturnsIdle x faults inFailedTransaction :=
  fun d => (h d).returnedIdle faults inFailedTransaction

/-- **Every function returns its connection idle but the outbox workers' `tick`**, and
    that one does iff no error falls into its transaction. -/
theorem connection_returned_idle (faults : Nat → Option SqlError)
    (inFailedTransaction : SqlError) :
    (∀ env seatId userId traceId d, ReturnsIdle
      (Scripts.insertHoldTx env seatId userId traceId d) faults inFailedTransaction) ∧
    (∀ holdId reason traceId d, ReturnsIdle
      (Scripts.releaseHold holdId reason traceId d) faults inFailedTransaction) ∧
    (∀ holdId eventId consumerGroup traceId d, ReturnsIdle
      (Scripts.reserveHold holdId eventId consumerGroup traceId d) faults inFailedTransaction) ∧
    (∀ env scan traceId now draw, ReturnsIdle
      (Scripts.tick env scan traceId now draw) faults inFailedTransaction) ∧
    (∀ pspIntentId traceId d, ReturnsIdle
      (Scripts.markCompleted pspIntentId traceId d) faults inFailedTransaction) ∧
    (∀ pspIntentId reason traceId d, ReturnsIdle
      (Scripts.markFailed pspIntentId reason traceId d) faults inFailedTransaction) ∧
    (∀ seatId reason traceId d, ReturnsIdle
      (Scripts.markFailedBySeatId seatId reason traceId d) faults inFailedTransaction) ∧
    (∀ env oldId expiresAt graceUntil now d, ReturnsIdle
      (Scripts.rotate env oldId expiresAt graceUntil now d) faults inFailedTransaction) ∧
    ∀ recoverNow now locked processRow o,
      ReturnedIdle ((Scripts.outboxTick recoverNow now locked processRow).run o faults
        inFailedTransaction).2 ↔ NoErrorInTx faults recoverNow now locked o := by
  refine ⟨?_, ?_, ?_, ?_, ?_, ?_, ?_, ?_, ?_⟩
  · intro env seatId userId traceId d
    exact .of_does (insertHoldTx_does env seatId userId traceId d) faults inFailedTransaction
  · intro holdId reason traceId d
    exact .of_does (releaseHold_does holdId reason traceId d) faults inFailedTransaction
  · intro holdId eventId consumerGroup traceId d
    exact .of_does (reserveHold_does holdId eventId consumerGroup traceId d) faults
      inFailedTransaction
  · intro env scan traceId now draw
    exact .of_does (tick_does env scan traceId now draw) faults inFailedTransaction
  · intro pspIntentId traceId d
    exact .of_does (closeIntents_does _ _ _ _ traceId d.now) faults inFailedTransaction
  · intro pspIntentId reason traceId d
    exact .of_does (closeIntents_does _ _ _ _ traceId d.now) faults inFailedTransaction
  · intro seatId reason traceId d
    exact .of_does (closeIntents_does _ _ _ _ traceId d.now) faults inFailedTransaction
  · intro env oldId expiresAt graceUntil now d
    exact .of_does (rotate_does env oldId expiresAt graceUntil now d) faults inFailedTransaction
  · intro recoverNow now locked processRow o
    exact returnedIdle_outboxTick_iff recoverNow now locked processRow o faults
      inFailedTransaction

def oneDueRow : Outbox :=
  Outbox.empty.insert 1 "seat.released.v1" (.seatReleased ⟨2, 3, "cancel", "t", 0⟩) [] 0

/-- The database cancels the statement (57014). -/
def cancelledAt (n : Nat) : Nat → Option SqlError :=
  fun k => if k = n then some ⟨"57014", ""⟩ else none

/-- With the worker's SELECT cancelled, the connection goes back in an aborted transaction. -/
theorem connection_not_returned_idle :
    ¬ ReturnedIdle ((Scripts.outboxTick 0 0 [] fun _ o => .ok o).run oneDueRow (cancelledAt 2)
      ⟨"25P02", ""⟩).2 := by
  have haborted : ((Scripts.outboxTick 0 0 [] fun _ o => .ok o).run oneDueRow (cancelledAt 2)
      ⟨"25P02", ""⟩).2.returned = [.aborted] := rfl
  rw [ReturnedIdle, haborted]
  decide

/-! ### Results -/

/-- One outbox row has been added. -/
def AddsOneRow (o o' : Outbox) : Prop := ∃ row, o.Appends o' [row]

theorem AddsOneRow.insert (o : Outbox) (i : Uuid) (t : String) (p : Event)
    (h : List (String × String)) (now : Nat) : AddsOneRow o (o.insert i t p h now) :=
  ⟨_, Outbox.Appends.insert o i t p h now⟩

theorem AddsOneRow.irrefl (o : Outbox) : ¬ AddsOneRow o o := by
  rintro ⟨row, happ⟩
  simpa using happ.appendedRows_eq.symm.trans (Outbox.Appends.refl o).appendedRows_eq

theorem closeIntents_allOrNothing (p : PaymentIntentRow → Bool) (status : IntentStatus)
    (eventType : String) (event : PaymentIntentRow → Event) (traceId : String) (now : Nat)
    (db : PaymentDb) (faults : Nat → Option SqlError) (inFailedTransaction : SqlError) :
    AllOrNothing (fun r => ∃ intent, r = .ok intent)
      (fun db db' => AddsOneRow db.outbox db'.outbox) db
      (closeIntents p status eventType event traceId now db).2
      ((Scripts.closeIntents p status eventType event traceId now).run db faults
        inFailedTransaction) := by
  apply (closeIntents_does p status eventType event traceId now db).allOrNothing _ _
    (AddsOneRow.irrefl _)
  intro r db' hdone
  unfold closeIntents at hdone ⊢
  cases hrows : returning p (PaymentIntentRow.close status now) db.intents with
  | nil =>
    rw [hrows] at hdone
    obtain ⟨rfl, rfl⟩ := Prod.mk.inj hdone
    exact Or.inr ⟨by simp, rfl⟩
  | cons intent rest =>
    rw [hrows] at hdone
    obtain ⟨rfl, rfl⟩ := Prod.mk.inj hdone
    exact Or.inl ⟨⟨intent, rfl⟩, rfl, AddsOneRow.insert ..⟩

theorem insertHoldTx_allOrNothing (env : SeatEnv) (seatId : String) (userId : Uuid)
    (traceId : String) (d : HoldDraw) (db : SeatDb) (faults : Nat → Option SqlError)
    (inFailedTransaction : SqlError) :
    AllOrNothing (fun r => ∃ hold, r = .ok hold) (fun db db' => AddsOneRow db.outbox db'.outbox) db
      (insertHoldTx env seatId userId traceId d db).2
      ((Scripts.insertHoldTx env seatId userId traceId d).run db faults inFailedTransaction) := by
  apply (insertHoldTx_does env seatId userId traceId d db).allOrNothing _ _ (AddsOneRow.irrefl _)
  intro r db' hdone
  cases r with
  | conflict reason => exact Or.inr ⟨by simp, hdone⟩
  | ok hold =>
    refine Or.inl ⟨⟨hold, rfl⟩, by rw [hdone], ?_⟩
    unfold InsertHoldDone insertHoldTx at hdone
    unfold insertHoldTx
    cases hseat : Uuid.ofText seatId with
    | none => simp [hseat] at hdone
    | some seat =>
      simp only [hseat] at hdone ⊢
      cases hviol : holdViolation db.seats (lazyCleanup seat d.now db.holds)
          (newHold env seat userId d) with
      | none => exact AddsOneRow.insert ..
      | some err =>
        simp only [hviol] at hdone
        split at hdone
        · cases hdone
        · cases hdone

theorem releaseHold_allOrNothing (holdId : Uuid) (reason traceId : String) (d : Draw) (db : SeatDb)
    (faults : Nat → Option SqlError) (inFailedTransaction : SqlError) :
    AllOrNothing (fun r => r.released = true) (fun db db' => AddsOneRow db.outbox db'.outbox) db
      (releaseHold holdId reason traceId d db).2
      ((Scripts.releaseHold holdId reason traceId d).run db faults inFailedTransaction) := by
  apply (releaseHold_does holdId reason traceId d db).allOrNothing _ _ (AddsOneRow.irrefl _)
  intro r db' hdone
  unfold releaseHold at hdone ⊢
  cases hrows : returning (isActiveHold holdId) (HoldRow.release d.now) db.holds with
  | nil =>
    rw [hrows] at hdone
    obtain ⟨rfl, rfl⟩ := Prod.mk.inj hdone
    exact Or.inr ⟨by simp, rfl⟩
  | cons row rest =>
    rw [hrows] at hdone
    obtain ⟨rfl, rfl⟩ := Prod.mk.inj hdone
    exact Or.inl ⟨rfl, rfl, AddsOneRow.insert ..⟩

theorem reserveHold_allOrNothing (holdId eventId : Uuid) (consumerGroup traceId : String) (d : Draw)
    (db : SeatDb) (faults : Nat → Option SqlError) (inFailedTransaction : SqlError) :
    AllOrNothing (fun r => r.reserved = true) (fun db db' => AddsOneRow db.outbox db'.outbox) db
      (reserveHold holdId eventId consumerGroup traceId d db).2
      ((Scripts.reserveHold holdId eventId consumerGroup traceId d).run db faults
        inFailedTransaction) := by
  apply (reserveHold_does holdId eventId consumerGroup traceId d db).allOrNothing _ _
    (AddsOneRow.irrefl _)
  intro r db' hdone
  unfold reserveHold at hdone ⊢
  by_cases hconsumed : db.consumedEvents.contains (eventId, consumerGroup) = true
  · rw [if_pos hconsumed] at hdone
    obtain ⟨rfl, rfl⟩ := Prod.mk.inj hdone
    exact Or.inr ⟨by simp, rfl⟩
  rw [if_neg hconsumed] at hdone ⊢
  cases hrows : returning (isActiveHold holdId) (HoldRow.reserve d.now) db.holds with
  | nil =>
    rw [hrows] at hdone
    obtain ⟨rfl, rfl⟩ := Prod.mk.inj hdone
    exact Or.inr ⟨by simp, rfl⟩
  | cons row rest =>
    rw [hrows] at hdone
    obtain ⟨rfl, rfl⟩ := Prod.mk.inj hdone
    exact Or.inl ⟨rfl, rfl, AddsOneRow.insert ..⟩

theorem rotate_allOrNothing (env : AuthEnv) (oldId : Uuid) (expiresAt graceUntil now : Nat)
    (d : TokenDraw) (db : AuthDb) (faults : Nat → Option SqlError)
    (inFailedTransaction : SqlError) :
    AllOrNothing (fun _ => True)
      (fun db db' => db'.refreshTokens.length = db.refreshTokens.length + 1) db
      (rotate env oldId expiresAt graceUntil now d db).2
      ((Scripts.rotate env oldId expiresAt graceUntil now d).run db faults
        inFailedTransaction) := by
  apply (rotate_does env oldId expiresAt graceUntil now d db).allOrNothing
  · omega
  intro row db' hdone
  refine Or.inl ⟨trivial, by rw [hdone], ?_⟩
  unfold rotate at hdone ⊢
  cases hfound : db.refreshTokens.find? fun t => t.id == oldId with
  | none => simp [hfound] at hdone
  | some current =>
    simp only [hfound] at hdone ⊢
    cases hviol : tokenViolation db (newToken env current.userId current.familyId expiresAt d) with
    | some err => simp [hviol] at hdone
    | none => simp [update]

/-- **Results tell the truth.**  Success is reported exactly when the whole change and
    its outbox row (`rotate` has none, it adds a token) are durable; with any other
    outcome the database is as it was. -/
theorem results_tell_the_truth (faults : Nat → Option SqlError) (inFailedTransaction : SqlError) :
    (∀ env seatId userId traceId d db,
      AllOrNothing (fun r => ∃ hold, r = .ok hold) (fun db db' => AddsOneRow db.outbox db'.outbox)
        db (insertHoldTx env seatId userId traceId d db).2
        ((Scripts.insertHoldTx env seatId userId traceId d).run db faults
          inFailedTransaction)) ∧
    (∀ holdId reason traceId d db,
      AllOrNothing (fun r => r.released = true) (fun db db' => AddsOneRow db.outbox db'.outbox)
        db (releaseHold holdId reason traceId d db).2
        ((Scripts.releaseHold holdId reason traceId d).run db faults inFailedTransaction)) ∧
    (∀ holdId eventId consumerGroup traceId d db,
      AllOrNothing (fun r => r.reserved = true) (fun db db' => AddsOneRow db.outbox db'.outbox)
        db (reserveHold holdId eventId consumerGroup traceId d db).2
        ((Scripts.reserveHold holdId eventId consumerGroup traceId d).run db faults
          inFailedTransaction)) ∧
    (∀ pspIntentId traceId d db,
      AllOrNothing (fun r => ∃ intent, r = .ok intent)
        (fun db db' => AddsOneRow db.outbox db'.outbox)
        db (markCompleted pspIntentId traceId d db).2
        ((Scripts.markCompleted pspIntentId traceId d).run db faults inFailedTransaction)) ∧
    (∀ pspIntentId reason traceId d db,
      AllOrNothing (fun r => ∃ intent, r = .ok intent)
        (fun db db' => AddsOneRow db.outbox db'.outbox)
        db (markFailed pspIntentId reason traceId d db).2
        ((Scripts.markFailed pspIntentId reason traceId d).run db faults
          inFailedTransaction)) ∧
    (∀ seatId reason traceId d db,
      AllOrNothing (fun r => ∃ intent, r = .ok intent)
        (fun db db' => AddsOneRow db.outbox db'.outbox)
        db (markFailedBySeatId seatId reason traceId d db).2
        ((Scripts.markFailedBySeatId seatId reason traceId d).run db faults
          inFailedTransaction)) ∧
    ∀ env oldId expiresAt graceUntil now d db,
      AllOrNothing (fun _ => True)
        (fun db db' => db'.refreshTokens.length = db.refreshTokens.length + 1)
        db (rotate env oldId expiresAt graceUntil now d db).2
        ((Scripts.rotate env oldId expiresAt graceUntil now d).run db faults
          inFailedTransaction) := by
  refine ⟨?_, ?_, ?_, ?_, ?_, ?_, ?_⟩
  · intro env seatId userId traceId d db
    exact insertHoldTx_allOrNothing env seatId userId traceId d db faults inFailedTransaction
  · intro holdId reason traceId d db
    exact releaseHold_allOrNothing holdId reason traceId d db faults inFailedTransaction
  · intro holdId eventId consumerGroup traceId d db
    exact reserveHold_allOrNothing holdId eventId consumerGroup traceId d db faults
      inFailedTransaction
  · intro pspIntentId traceId d db
    exact closeIntents_allOrNothing _ _ _ _ traceId d.now db faults inFailedTransaction
  · intro pspIntentId reason traceId d db
    exact closeIntents_allOrNothing _ _ _ _ traceId d.now db faults inFailedTransaction
  · intro seatId reason traceId d db
    exact closeIntents_allOrNothing _ _ _ _ traceId d.now db faults inFailedTransaction
  · intro env oldId expiresAt graceUntil now d db
    exact rotate_allOrNothing env oldId expiresAt graceUntil now d db faults inFailedTransaction

end SeatReservation
