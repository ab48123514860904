import SeatReservation.SqlSession
import SeatReservation.Payments
import SeatReservation.Sessions

/-!
# The transactions, statement by statement

Everywhere else a transaction is one step; here each function that borrows a
connection is the script of its statements, with the `try`, `catch` and
`finally` of the source, and the database may report an error at any of them.
A script that returns has done what the one step does, and a script that throws
has done nothing (`.._does` below), which is what makes the one step a fair
picture of the function.  `OutboxWorker.tick` is the one script without a
`catch`.
-/

namespace SeatReservation

open Relational SqlSession

namespace Scripts

/-! ### HoldsRepository and HoldSweeper -/

/-- The handler of `insertHoldTx` around everything after the cleanup. -/
def onInsertError (e : Thrown SqlError) : Script SqlError SeatDb InsertHoldResult :=
  match e with
  | .db err =>
      if err.code = "23505" then do
        rollback
        return .conflict
          (if err.constraint = "uniq_active_hold_per_user" then .userHasHold else .seatHeld)
      else throw e
  | .app _ => throw e

/-- `lookupPrice`. -/
def lookupPrice (seat : Uuid) : Script SqlError SeatDb (Option (Nat × String)) :=
  query fun db => .ok
    ((db.seats.find? fun s => s.id == seat).map fun s => (s.priceCents, s.currency), db)

def insertHoldTx (env : SeatEnv) (seatId : String) (userId : Uuid) (traceId : String)
    (d : HoldDraw) : Script SqlError SeatDb InsertHoldResult :=
  withConnection do
    begin
    let seat ← query fun db =>
      match Uuid.ofText seatId with
      | none => .error invalidTextRepresentation
      | some seat => .ok (seat, { db with holds := lazyCleanup seat d.now db.holds })
    tryCatch
      (do
        let hold ← query fun db =>
          let hold := newHold env seat userId d
          match holdViolation db.seats db.holds hold with
          | some err => .error err
          | none => .ok (hold, { db with holds := db.holds ++ [hold] })
        query fun db => .ok ((), { db with seats := markSeat seat .held db.seats })
        let price ← lookupPrice seat
        let price' ← lookupPrice seat
        query fun db => .ok ((), { db with
          outbox := db.outbox.insert hold.id "seat.held.v1"
            (.seatHeld ⟨d.eventId, seatId, userId, hold.id, hold.heldUntil,
              (price.map (·.1)).getD 0, (price'.map (·.2)).getD "USD", traceId, d.occurredAt⟩)
            [("traceId", traceId), ("userId", userId.toString)] d.now })
        commit
        return .ok hold)
      onInsertError

def releaseHold (holdId : Uuid) (reason traceId : String) (d : Draw) :
    Script SqlError SeatDb ReleaseResult :=
  withConnection do
    begin
    let rows ← query fun db => .ok
      (returning (isActiveHold holdId) (HoldRow.release d.now) db.holds,
        { db with holds := update (isActiveHold holdId) (HoldRow.release d.now) db.holds })
    match rows with
    | [] => do
        rollback
        return ⟨false, none⟩
    | row :: _ => do
        query fun db => .ok ((), { db with seats := freeSeat row.seatId db.holds db.seats })
        query fun db => .ok ((), { db with
          outbox := db.outbox.insert holdId "seat.released.v1"
            (.seatReleased ⟨d.eventId, row.seatId, reason, traceId, d.occurredAt⟩)
            [("traceId", traceId)] d.now })
        commit
        return ⟨true, some row.seatId⟩

def reserveHold (holdId eventId : Uuid) (consumerGroup traceId : String) (d : Draw) :
    Script SqlError SeatDb ReserveResult :=
  withConnection do
    begin
    let rowCount ← query fun db =>
      if db.consumedEvents.contains (eventId, consumerGroup) then .ok (0, db)
      else .ok (1, { db with consumedEvents := db.consumedEvents ++ [(eventId, consumerGroup)] })
    if rowCount = 0 then do
      rollback
      return ⟨false, none, none⟩
    else do
      let rows ← query fun db => .ok
        (returning (isActiveHold holdId) (HoldRow.reserve d.now) db.holds,
          { db with holds := update (isActiveHold holdId) (HoldRow.reserve d.now) db.holds })
      match rows with
      | [] => do
          rollback
          return ⟨false, none, none⟩
      | row :: _ => do
          query fun db => .ok ((), { db with seats := markSeat row.seatId .reserved db.seats })
          query fun db => .ok ((), { db with
            outbox := db.outbox.insert holdId "seat.reserved.v1"
              (.seatReserved ⟨d.eventId, row.seatId, row.userId, holdId, traceId, d.occurredAt⟩)
              [("traceId", traceId)] d.now })
          commit
          return ⟨true, some row.seatId, some row.userId⟩

/-- `HoldSweeper.tick`. -/
def tick (env : SeatEnv) (scan : Scan) (traceId : Uuid) (now : Nat) (draw : Uuid → Uuid × Nat) :
    Script SqlError SeatDb Unit :=
  withConnection do
    begin
    let rows ← query fun db =>
      let ids := sweepBatch env.sweepBatchLimit scan now db.holds
      let swept := fun h : HoldRow => ids.contains h.id
      .ok (returning swept (HoldRow.release now) db.holds,
        { db with holds := update swept (HoldRow.release now) db.holds })
    forEach rows fun r => do
      query fun db => .ok ((), { db with seats := freeSeat r.seatId db.holds db.seats })
      query fun db => .ok ((), { db with
        outbox := db.outbox.insert r.id "seat.released.v1"
          (.seatReleased ⟨(draw r.id).1, r.seatId, "sweeper", traceId.toString, (draw r.id).2⟩)
          [("traceId", traceId.toString), ("reason", "sweeper")] now })
    commit
    return ()

/-! ### PaymentIntentsRepository -/

/-- What `markCompleted`, `markFailed` and `markFailedBySeatId` have in common. -/
def closeIntents (p : PaymentIntentRow → Bool) (status : IntentStatus) (eventType : String)
    (event : PaymentIntentRow → Event) (traceId : String) (now : Nat) :
    Script SqlError PaymentDb MarkResult :=
  withConnection do
    begin
    let rows ← query fun db => .ok (returning p (PaymentIntentRow.close status now) db.intents,
      { db with intents := update p (PaymentIntentRow.close status now) db.intents })
    match rows with
    | [] => do
        rollback
        return .noPendingIntent
    | intent :: _ => do
        query fun db => .ok ((), { db with
          outbox := db.outbox.insert intent.id eventType (event intent)
            [("traceId", traceId), ("userId", intent.userId.toString)] now })
        commit
        return .ok intent

def markCompleted (pspIntentId traceId : String) (d : Draw) :
    Script SqlError PaymentDb MarkResult :=
  closeIntents (isPendingPsp pspIntentId) .completed "payment.succeeded.v1"
    (paymentSucceededEvent traceId d) traceId d.now

def markFailed (pspIntentId reason traceId : String) (d : Draw) :
    Script SqlError PaymentDb MarkResult :=
  closeIntents (isPendingPsp pspIntentId) .failed "payment.failed.v1"
    (paymentFailedEvent reason traceId d) traceId d.now

def markFailedBySeatId (seatId : Uuid) (reason traceId : String) (d : Draw) :
    Script SqlError PaymentDb MarkResult :=
  closeIntents (isPendingOnSeat seatId) .failed "payment.failed.v1"
    (paymentFailedEvent reason traceId d) traceId d.now

/-! ### SessionsRepository -/

def rotate (env : AuthEnv) (oldId : Uuid) (expiresAt graceUntil now : Nat) (d : TokenDraw) :
    Script SqlError AuthDb RefreshTokenRow :=
  withConnection do
    begin
    let locked ← query fun db => .ok (db.refreshTokens.find? fun t => t.id == oldId, db)
    match locked with
    | none => do
        rollback
        throw (.app "rt_not_found")
    | some current => do
        let newRow ← query fun db =>
          let row := newToken env current.userId current.familyId expiresAt d
          match tokenViolation db row with
          | some err => .error err
          | none => .ok (row, { db with refreshTokens := db.refreshTokens ++ [row] })
        query fun db => .ok ((), { db with
          refreshTokens := update (fun t => t.id == current.id)
            (RefreshTokenRow.rotate now newRow.id graceUntil) db.refreshTokens })
        commit
        return newRow

/-! ### OutboxWorker -/

/-- `tick` of both outbox workers once `running` is set.  `processRow` publishes and
    writes back over other connections while this one is kept. -/
def outboxTick (recoverNow now : Nat) (locked : List Nat)
    (processRow : OutboxRow → Outbox → Except (Thrown SqlError) Outbox) :
    Script SqlError Outbox Unit :=
  SqlSession.tryFinally
    (do
      query fun o => .ok ((), o.recover recoverNow)
      begin
      let rows ← query fun o => .ok (o.due now locked, o)
      if rows.isEmpty then do
        rollback
        return ()
      else do
        query fun o => .ok ((), { o with
          rows := update (fun r => (rows.map (·.id)).contains r.id)
            (fun r => { r with state := .processing }) o.rows })
        commit
        forEach rows fun row => elsewhere (processRow row))
    SqlSession.release

end Scripts

/-! ### What a script does -/

/-- Looking a seat's price up after it has been marked finds the price it had. -/
theorem price_markSeat (id seat : Uuid) (status : SeatStatus) (seats : List SeatRow) :
    (((markSeat seat status seats).find? fun s => s.id == id).map
        fun s => (s.priceCents, s.currency)) =
      (seats.find? fun s => s.id == id).map fun s => (s.priceCents, s.currency) := by
  induction seats with
  | nil => rfl
  | cons s seats ih =>
    have hid : (if s.id == seat then { s with status := status } else s).id = s.id := by
      split <;> rfl
    have hprice : ((if s.id == seat then { s with status := status } else s).priceCents,
        (if s.id == seat then { s with status := status } else s).currency) =
          (s.priceCents, s.currency) := by
      split <;> rfl
    simp only [markSeat, update, List.map_cons, List.find?_cons, hid] at ih ⊢
    by_cases hmine : (s.id == id) = true
    · simp only [hmine, Option.map_some, hprice]
    · simp only [hmine]
      exact ih

/-- The event with the price looked up is the event of the one step. -/
theorem seatHeldEvent_eq (seats : List SeatRow) (seatId traceId : String) (hold : HoldRow)
    (d : HoldDraw) :
    let price := (seats.find? fun s => s.id == hold.seatId).map fun s => (s.priceCents, s.currency)
    Event.seatHeld ⟨d.eventId, seatId, hold.userId, hold.id, hold.heldUntil,
      (price.map (·.1)).getD 0, (price.map (·.2)).getD "USD", traceId, d.occurredAt⟩ =
        seatHeldEvent seats seatId traceId hold d := by
  simp [seatHeldEvent, Function.comp_def]

/-- What `insertHoldTx` has done when it returns. -/
def InsertHoldDone (env : SeatEnv) (seatId : String) (userId : Uuid) (traceId : String)
    (d : HoldDraw) (db : SeatDb) : InsertHoldResult → SeatDb → Prop
  | .ok hold, db' => insertHoldTx env seatId userId traceId d db = (.ok (.ok hold), db')
  | .conflict _, db' => db' = db

/-- The handler either reports a conflict after a rollback or throws on. -/
theorem ensures_onInsertError {db : SeatDb} (e : Thrown SqlError) :
    Ensures (Unchanged db) (Scripts.onInsertError e)
      (fun r s => ∃ reason, r = .conflict reason ∧ Idle db s) fun _ => Unchanged db := by
  cases e with
  | app message => exact .throw fun _ hs => hs
  | db err =>
    unfold Scripts.onInsertError
    by_cases hcode : err.code = "23505"
    · simp only [hcode, if_true]
      exact (ensures_rollback db _).bind fun _ => .pure fun s hs => ⟨_, rfl, hs⟩
    · simp only [hcode, if_false]
      exact .throw fun _ hs => hs

theorem insertHoldTx_does (env : SeatEnv) (seatId : String) (userId : Uuid) (traceId : String)
    (d : HoldDraw) (db : SeatDb) :
    (Scripts.insertHoldTx env seatId userId traceId d).Does db
      (InsertHoldDone env seatId userId traceId d db) := by
  apply does_withConnection
  apply Ensures.begin_then
  cases hseat : Uuid.ofText seatId with
  | none => exact Ensures.query_fails (e := invalidTextRepresentation) rfl
  | some seat =>
    apply Ensures.query_then (a := seat)
      (v := { db with holds := lazyCleanup seat d.now db.holds }) rfl
    apply Ensures.tryCatch (E := fun _ => Unchanged db)
    · cases hviol : holdViolation db.seats (lazyCleanup seat d.now db.holds)
          (newHold env seat userId d) with
      | some err =>
        apply Ensures.query_fails (e := err)
        simp only [hviol]
      | none =>
        apply Ensures.query_then (a := newHold env seat userId d)
        · simp only [hviol]
          rfl
        apply Ensures.query_then rfl
        apply Ensures.query_then rfl
        apply Ensures.query_then rfl
        apply Ensures.query_then rfl
        apply Ensures.commit_return
        intro s hidle
        refine ⟨_, hidle, ?_⟩
        unfold InsertHoldDone insertHoldTx
        simp only [hseat, hviol, price_markSeat]
        rw [← seatHeldEvent_eq]
        rfl
    · intro e
      apply (ensures_onInsertError e).mono (fun _ hs => hs) _ fun _ _ hs => hs
      rintro r s ⟨reason, rfl, hidle⟩
      exact ⟨db, hidle, rfl⟩

theorem releaseHold_does (holdId : Uuid) (reason traceId : String) (d : Draw) (db : SeatDb) :
    (Scripts.releaseHold holdId reason traceId d).Does db
      fun r db' => (r, db') = releaseHold holdId reason traceId d db := by
  apply does_withConnection
  apply Ensures.begin_then
  apply Ensures.query_then rfl
  unfold releaseHold
  cases hrows : returning (isActiveHold holdId) (HoldRow.release d.now) db.holds with
  | nil =>
    apply Ensures.rollback_return
    intro s hidle
    exact ⟨db, hidle, rfl⟩
  | cons row rest =>
    apply Ensures.query_then rfl
    apply Ensures.query_then rfl
    apply Ensures.commit_return
    intro s hidle
    exact ⟨_, hidle, rfl⟩

theorem reserveHold_does (holdId eventId : Uuid) (consumerGroup traceId : String) (d : Draw)
    (db : SeatDb) :
    (Scripts.reserveHold holdId eventId consumerGroup traceId d).Does db
      fun r db' => (r, db') = reserveHold holdId eventId consumerGroup traceId d db := by
  apply does_withConnection
  apply Ensures.begin_then
  unfold reserveHold
  by_cases hconsumed : db.consumedEvents.contains (eventId, consumerGroup) = true
  · apply Ensures.query_then (a := 0) (v := db)
    · rw [if_pos hconsumed]
    apply Ensures.rollback_return
    intro s hidle
    exact ⟨db, hidle, by rw [if_pos hconsumed]⟩
  · apply Ensures.query_then (a := 1)
      (v := { db with consumedEvents := db.consumedEvents ++ [(eventId, consumerGroup)] })
    · rw [if_neg hconsumed]
    apply Ensures.query_then rfl
    rw [if_neg hconsumed]
    cases hrows : returning (isActiveHold holdId) (HoldRow.reserve d.now) db.holds with
    | nil =>
      apply Ensures.rollback_return
      intro s hidle
      exact ⟨db, hidle, rfl⟩
    | cons row rest =>
      apply Ensures.query_then rfl
      apply Ensures.query_then rfl
      apply Ensures.commit_return
      intro s hidle
      exact ⟨_, hidle, rfl⟩

theorem tick_does (env : SeatEnv) (scan : Scan) (traceId : Uuid) (now : Nat)
    (draw : Uuid → Uuid × Nat) (db : SeatDb) :
    (Scripts.tick env scan traceId now draw).Does db
      fun _ db' => db' = tick env scan traceId now draw db := by
  apply does_withConnection
  apply Ensures.begin_then
  apply Ensures.query_then rfl
  apply (ensures_forEach (f := sweepRow traceId.toString now draw) _ _ _).bind
  · intro _
    apply Ensures.commit_return
    intro s hidle
    exact ⟨_, hidle, rfl⟩
  · intro w r
    apply Ensures.query_then rfl
    exact Ensures.query_last rfl

theorem closeIntents_does (p : PaymentIntentRow → Bool) (status : IntentStatus)
    (eventType : String) (event : PaymentIntentRow → Event) (traceId : String) (now : Nat)
    (db : PaymentDb) :
    (Scripts.closeIntents p status eventType event traceId now).Does db
      fun r db' => (r, db') = closeIntents p status eventType event traceId now db := by
  apply does_withConnection
  apply Ensures.begin_then
  apply Ensures.query_then rfl
  unfold closeIntents
  cases hrows : returning p (PaymentIntentRow.close status now) db.intents with
  | nil =>
    apply Ensures.rollback_return
    intro s hidle
    exact ⟨db, hidle, rfl⟩
  | cons intent rest =>
    apply Ensures.query_then rfl
    apply Ensures.commit_return
    intro s hidle
    exact ⟨_, hidle, rfl⟩

theorem rotate_does (env : AuthEnv) (oldId : Uuid) (expiresAt graceUntil now : Nat)
    (d : TokenDraw) (db : AuthDb) :
    (Scripts.rotate env oldId expiresAt graceUntil now d).Does db
      fun row db' => rotate env oldId expiresAt graceUntil now d db = (.ok row, db') := by
  apply does_withConnection
  apply Ensures.begin_then
  apply Ensures.query_then rfl
  unfold rotate
  cases hfound : db.refreshTokens.find? fun t => t.id == oldId with
  | none =>
    apply (((ensures_rollback db _).mono (fun _ hs => hs.unchanged) (fun _ _ hs => hs)
      fun _ _ hs => hs)).bind
    intro _
    exact .throw fun _ hs => hs.unchanged
  | some current =>
    cases hviol : tokenViolation db (newToken env current.userId current.familyId expiresAt d) with
    | some err =>
      apply Ensures.query_fails (e := err)
      simp only [hviol]
    | none =>
      apply Ensures.query_then (a := newToken env current.userId current.familyId expiresAt d)
      · simp only [hviol]
        rfl
      apply Ensures.query_then rfl
      apply Ensures.commit_return
      intro s hidle
      refine ⟨_, hidle, ?_⟩
      simp only [hviol]

end SeatReservation
