import SeatReservation.SessionInvariants

/-!
# One client over a lossy channel

A client refreshes with the last token it has received, one call at a time, and
either the request or the response of a call may be lost.  A lost rotation
leaves the client with a token that is already rotated.  The grace window
accepts it and answers without a new token, by design, so the client is still
left with it, and the first refresh after the window counts as reuse.
-/

namespace SeatReservation

open Relational TransitionSystem

/-! ### Calls -/

inductive Delivery where
  | requestLost
  | responseLost
  | delivered
deriving DecidableEq, Repr

/-- A call: the time before its request arrives, the time before each of the five steps
    of the handler, the random values it draws, and what is lost of it. -/
structure RefreshCall where
  wait : Nat
  lookup : Nat
  decide : Nat
  prepare : Nat
  rotate : Nat
  answer : Nat
  draw : TokenDraw
  delivery : Delivery
deriving DecidableEq, Repr

/-- The service and the token the client has.  `lostRotation` is the time at which the
    grace window of that token was computed, when the response of its rotation was
    lost; it has no counterpart in the code. -/
structure Conversation where
  service : AuthService
  cookie : String
  lostRotation : Option Nat
deriving DecidableEq, Repr

def RefreshCall.delays (call : RefreshCall) : List Nat :=
  [call.lookup, call.decide, call.prepare, call.rotate, call.answer]

/-- The request arrives and its handler runs to the end. -/
def RefreshCall.actions (call : RefreshCall) (i : Nat) (cookie : String) : List AuthAction :=
  [.advance call.wait, .refresh (some cookie)] ++
    call.delays.flatMap fun ms => [.advance ms, .refreshStep i call.draw]

/-- When the handler reads the clock to decide on the token. -/
def RefreshCall.decidedAt (call : RefreshCall) (clock : Nat) : Nat :=
  clock + call.wait + call.lookup + call.decide

/-- When the handler computes the end of the grace window. -/
def RefreshCall.preparedAt (call : RefreshCall) (clock : Nat) : Nat :=
  call.decidedAt clock + call.prepare

def Conversation.served (env : AuthEnv) (c : Conversation) (call : RefreshCall) : AuthService :=
  exec (authStep env) c.service (call.actions c.service.refreshes.length c.cookie)

/-- The response of a call whose request arrives. -/
def Conversation.response (env : AuthEnv) (c : Conversation) (call : RefreshCall) :
    Option AuthResponse :=
  match (c.served env call).refreshes[c.service.refreshes.length]? with
  | some ⟨_, .done response⟩ => some response
  | _ => none

def callStep (env : AuthEnv) (c : Conversation) (call : RefreshCall) : Conversation :=
  match call.delivery with
  | .requestLost => { c with service := authStep env c.service (.advance call.wait) }
  | .responseLost =>
      match c.response env call with
      | some (.ok _ _ (some _)) =>
          ⟨c.served env call, c.cookie, some (call.preparedAt c.service.clock)⟩
      | _ => { c with service := c.served env call }
  | .delivered =>
      match c.response env call with
      | some (.ok _ _ (some raw)) => ⟨c.served env call, raw, none⟩
      | _ => { c with service := c.served env call }

/-- The call does not end in `reuse_detected`, and the family has not been revoked. -/
structure Spared (env : AuthEnv) (family : Uuid) (c : Conversation) (call : RefreshCall) :
    Prop where
  noReuse : call.delivery = .requestLost ∨
    c.response env call ≠ some (.unauthorized "reuse_detected")
  active : ∃ t ∈ (callStep env c call).service.db.refreshTokens,
    t.familyId = family ∧ t.revokedAt = none

/-- The row the handler looks up. -/
def Conversation.row (env : AuthEnv) (c : Conversation) : Option RefreshTokenRow :=
  (presented (some c.cookie)).bind fun raw => findByRaw env raw c.service.db

/-- A call that presents a token whose rotation was lost is decided within the grace
    period of that rotation, or after the token has expired. -/
def InTime (env : AuthEnv) (c : Conversation) (call : RefreshCall) : Prop :=
  call.delivery = .requestLost ∨
    ∀ row ∈ c.row env, row.expired (call.decidedAt c.service.clock) = true ∨
      ∀ lost ∈ c.lostRotation,
        call.decidedAt c.service.clock ≤ lost + env.rtGraceSeconds * 1000

/-! ### What a call does -/

/-- The steps of a handler, with the time that passes before each. -/
def handle (env : AuthEnv) (d : TokenDraw) :
    List Nat → Nat → Refresh → AuthDb → Nat × Refresh × AuthDb
  | [], clock, r, db => (clock, r, db)
  | ms :: delays, clock, r, db =>
      handle env d delays (clock + ms) (refreshStep env (clock + ms) d r db).1
        (refreshStep env (clock + ms) d r db).2

/-- Nothing else of the service changes while the handler runs. -/
theorem exec_handle (env : AuthEnv) (d : TokenDraw) (delays : List Nat) (s : AuthService)
    (rs : List Refresh) (r : Refresh) :
    exec (authStep env) { s with refreshes := rs ++ [r] }
        (delays.flatMap fun ms => [.advance ms, .refreshStep rs.length d]) =
      { s with
        clock := (handle env d delays s.clock r s.db).1
        db := (handle env d delays s.clock r s.db).2.2
        refreshes := rs ++ [(handle env d delays s.clock r s.db).2.1] } := by
  induction delays generalizing s r with
  | nil => rfl
  | cons ms delays ih =>
    have hget : (rs ++ [r])[rs.length]? = some r := by simp
    have hset : ∀ r', (rs ++ [r]).set rs.length r' = rs ++ [r'] := by simp
    rw [List.flatMap_cons, exec_append]
    simp only [exec_cons, exec_nil, authStep, hget, hset]
    exact ih { s with
      clock := s.clock + ms
      db := (refreshStep env (s.clock + ms) d r s.db).2 } _

/-- Everything a call can do to the tokens, and its response. -/
inductive CallOutcome (env : AuthEnv) (c : Conversation) (call : RefreshCall) :
    AuthResponse → List RefreshTokenRow → Prop where
  | unchanged (response : AuthResponse)
      (hresponse : response ≠ .unauthorized "reuse_detected")
      (hcookie : ∀ token userId raw, response ≠ .ok token userId (some raw))
      (hwhy : ∀ row ∈ c.row env, row.expired (call.decidedAt c.service.clock) = true ∨
        row.revokedAt = none ∨ row.inGrace (call.decidedAt c.service.clock) = true) :
      CallOutcome env c call response c.service.db.refreshTokens
  | rotated (row : RefreshTokenRow) (user : UserRow) (expiresAt now : Nat)
      (hrow : c.row env = some row) (hactive : row.revokedAt = none)
      (hviol : tokenViolation c.service.db
        (newToken env row.userId row.familyId expiresAt call.draw) = none) :
      CallOutcome env c call (.ok (signAccessToken user) user.id (some call.draw.raw))
        (update (fun t => t.id == row.id)
          (RefreshTokenRow.rotate now call.draw.id
            (call.preparedAt c.service.clock + env.rtGraceSeconds * 1000))
          (c.service.db.refreshTokens ++
            [newToken env row.userId row.familyId expiresAt call.draw]))
  | reused (row : RefreshTokenRow) (now : Nat) (hrow : c.row env = some row)
      (hrevoked : row.revokedAt ≠ none)
      (hexpiry : row.expired (call.decidedAt c.service.clock) = false)
      (hgrace : row.inGrace (call.decidedAt c.service.clock) = false) :
      CallOutcome env c call (.unauthorized "reuse_detected")
        (update (fun t => t.familyId == row.familyId && t.revokedAt.isNone)
          (RefreshTokenRow.revoke now) c.service.db.refreshTokens)

/-- The handler of the call has answered, with one of these outcomes. -/
def AnswersCall (env : AuthEnv) (c : Conversation) (call : RefreshCall)
    (handled : Nat × Refresh × AuthDb) : Prop :=
  ∃ response, handled.2.1 = ⟨some c.cookie, .done response⟩ ∧
    CallOutcome env c call response handled.2.2.refreshTokens

/-- A handler that has answered does nothing more. -/
theorem handle_done (env : AuthEnv) (d : TokenDraw) (delays : List Nat) (clock : Nat)
    (cookie : Option String) (response : AuthResponse) (db : AuthDb) :
    (handle env d delays clock ⟨cookie, .done response⟩ db).2 =
      (⟨cookie, .done response⟩, db) := by
  induction delays generalizing clock with
  | nil => rfl
  | cons ms delays ih => exact ih (clock + ms)

theorem answersCall_done {env : AuthEnv} {c : Conversation} {call : RefreshCall}
    {response : AuthResponse}
    (h : CallOutcome env c call response c.service.db.refreshTokens) (d : TokenDraw)
    (delays : List Nat) (clock : Nat) :
    AnswersCall env c call
      (handle env d delays clock ⟨some c.cookie, .done response⟩ c.service.db) := by
  have hdone := handle_done env d delays clock (some c.cookie) response c.service.db
  refine ⟨response, ?_, ?_⟩
  · rw [hdone]
  · rw [hdone]
    exact h

/-- The lookup of a call. -/
theorem lookup_cases (env : AuthEnv) (c : Conversation) (clock : Nat) (d : TokenDraw) :
    (c.row env = none ∧ ∃ error, error ≠ "reuse_detected" ∧
      refreshStep env clock d ⟨some c.cookie, .started⟩ c.service.db =
        (⟨some c.cookie, .done (.unauthorized error)⟩, c.service.db)) ∨
    ∃ row, c.row env = some row ∧
      refreshStep env clock d ⟨some c.cookie, .started⟩ c.service.db =
        (⟨some c.cookie, .found row⟩, c.service.db) := by
  unfold Conversation.row refreshStep
  cases presented (some c.cookie) with
  | none => exact .inl ⟨rfl, "no_refresh_token", by decide, rfl⟩
  | some raw =>
    simp only [Option.bind_some]
    cases findByRaw env raw c.service.db with
    | none => exact .inl ⟨rfl, "invalid_refresh_token", by decide, rfl⟩
    | some row => exact .inr ⟨row, rfl, rfl⟩

theorem Conversation.row_mem {env : AuthEnv} {c : Conversation} {row : RefreshTokenRow}
    (h : c.row env = some row) : row ∈ c.service.db.refreshTokens := by
  obtain ⟨raw, -, hfind⟩ := Option.bind_eq_some_iff.mp h
  exact List.mem_of_find?_eq_some hfind

/-- The steps of a handler that lets an active token through. -/
theorem handle_active (env : AuthEnv) (c : Conversation) (call : RefreshCall)
    (hkeyed : KeyedBy (·.id) c.service.db.refreshTokens) {row : RefreshTokenRow}
    (hrow : c.row env = some row) (hactive : row.revokedAt = none) :
    AnswersCall env c call
      (handle env call.draw [call.prepare, call.rotate, call.answer]
        (call.decidedAt c.service.clock) ⟨some c.cookie, .active row⟩ c.service.db) := by
  have hmem := Conversation.row_mem hrow
  have hwhy : ∀ row' ∈ c.row env, row'.expired (call.decidedAt c.service.clock) = true ∨
      row'.revokedAt = none ∨ row'.inGrace (call.decidedAt c.service.clock) = true := by
    intro row' hrow'
    rw [hrow] at hrow'
    rw [← Option.some.inj hrow']
    exact .inr (.inl hactive)
  simp only [handle, refreshStep]
  cases findById row.userId c.service.db with
  | none => exact ⟨_, rfl, .unchanged _ (by simp) (by simp) hwhy⟩
  | some user =>
    dsimp only
    have hfind := hkeyed.find?_eq_some hmem
    cases hviol : tokenViolation c.service.db (newToken env row.userId row.familyId
        (call.preparedAt c.service.clock + env.rtTtlSeconds * 1000) call.draw) with
    | none =>
      have hrotate := rotate_of_free hfind hviol
      simp only [RefreshCall.preparedAt] at hrotate
      simp only [hrotate]
      exact ⟨_, rfl, .rotated row user _ _ hrow hactive hviol⟩
    | some err =>
      have hrotate := rotate_of_violation hfind hviol
      simp only [RefreshCall.preparedAt] at hrotate
      simp only [hrotate]
      exact ⟨_, rfl, .unchanged _ (by simp) (by simp) hwhy⟩

/-- The steps of a handler, by the branch it takes. -/
theorem handle_outcome (env : AuthEnv) (c : Conversation) (call : RefreshCall)
    (hkeyed : KeyedBy (·.id) c.service.db.refreshTokens) :
    AnswersCall env c call
      (handle env call.draw call.delays (c.service.clock + call.wait)
        ⟨some c.cookie, .started⟩ c.service.db) := by
  unfold RefreshCall.delays
  rw [handle]
  rcases lookup_cases env c (c.service.clock + call.wait + call.lookup) call.draw with
    ⟨hnone, error, herror, hlookup⟩ | ⟨row, hrow, hlookup⟩
  · rw [hlookup]
    exact answersCall_done (.unchanged _ (by simpa using herror) (by simp) (by simp [hnone])) _ _ _
  · rw [hlookup, handle]
    have hwhy : ∀ {P : RefreshTokenRow → Prop}, P row → ∀ row' ∈ c.row env, P row' := by
      intro P hP row' hrow'
      rw [hrow] at hrow'
      rwa [← Option.some.inj hrow']
    change AnswersCall env c call
      (handle env call.draw [call.prepare, call.rotate, call.answer]
        (call.decidedAt c.service.clock)
        ⟨some c.cookie, branch (call.decidedAt c.service.clock) row⟩ c.service.db)
    unfold branch
    by_cases hexpiry : row.expired (call.decidedAt c.service.clock) = true
    · rw [if_pos hexpiry]
      exact answersCall_done (.unchanged _ (by simp) (by simp) (hwhy (.inl hexpiry))) _ _ _
    · rw [if_neg hexpiry]
      by_cases hactive : row.revokedAt.isNone = true
      · rw [if_pos hactive]
        exact handle_active env c call hkeyed hrow (Option.isNone_iff_eq_none.mp hactive)
      · rw [if_neg hactive]
        by_cases hgrace : row.inGrace (call.decidedAt c.service.clock) = true
        · rw [if_pos hgrace]
          simp only [handle, refreshStep]
          cases findById row.userId c.service.db with
          | none => exact ⟨_, rfl, .unchanged _ (by simp) (by simp) (hwhy (.inr (.inr hgrace)))⟩
          | some user =>
            exact ⟨_, rfl, .unchanged _ (by simp) (by simp) (hwhy (.inr (.inr hgrace)))⟩
        · rw [if_neg hgrace]
          simp only [handle, refreshStep]
          refine ⟨_, rfl, .reused row _ hrow ?_ (by simpa using hexpiry) (by simpa using hgrace)⟩
          intro hnone
          rw [hnone] at hactive
          simp at hactive

theorem Conversation.served_eq (env : AuthEnv) (c : Conversation) (call : RefreshCall) :
    let h := handle env call.draw call.delays (c.service.clock + call.wait)
      ⟨some c.cookie, .started⟩ c.service.db
    c.served env call =
      { c.service with
        clock := h.1
        db := h.2.2
        refreshes := c.service.refreshes ++ [h.2.1] } := by
  unfold Conversation.served RefreshCall.actions
  rw [exec_append]
  exact exec_handle env call.draw call.delays
    { c.service with clock := c.service.clock + call.wait } c.service.refreshes _

/-- A call whose request arrives is answered, with one of the three outcomes. -/
theorem call_outcome (env : AuthEnv) (c : Conversation) (call : RefreshCall)
    (hkeyed : KeyedBy (·.id) c.service.db.refreshTokens) :
    ∃ response, c.response env call = some response ∧
      CallOutcome env c call response (c.served env call).db.refreshTokens := by
  obtain ⟨response, hdone, houtcome⟩ := handle_outcome env c call hkeyed
  have hserved := c.served_eq env call
  refine ⟨response, ?_, ?_⟩
  · unfold Conversation.response
    rw [hserved]
    simp only [List.getElem?_concat_length, hdone]
  · rw [hserved]
    exact houtcome

/-! ### What holds between calls -/

/-- The state of the client's token: active, or rotated in the call whose response was
    lost. -/
def MatchesLoss (env : AuthEnv) (row : RefreshTokenRow) : Option Nat → Prop
  | none => row.revokedAt = none
  | some lost =>
      row.revokedAt ≠ none ∧ row.graceUntil = some (lost + env.rtGraceSeconds * 1000)

structure Conversing (env : AuthEnv) (family : Uuid) (c : Conversation) : Prop where
  wellFormed : c.service.WellFormed
  held : ∃ row ∈ c.service.db.refreshTokens, row.tokenHash = env.sha256 c.cookie ∧
    row.familyId = family ∧ MatchesLoss env row c.lostRotation
  active : ∃ t ∈ c.service.db.refreshTokens, t.familyId = family ∧ t.revokedAt = none

theorem Conversation.row_hash {env : AuthEnv} {c : Conversation} {row : RefreshTokenRow}
    (h : c.row env = some row) : row.tokenHash = env.sha256 c.cookie := by
  obtain ⟨raw, hraw, hfind⟩ := Option.bind_eq_some_iff.mp h
  have hcookie : c.cookie = raw := Option.some.inj (Option.filter_eq_some_iff.mp hraw).1
  rw [hcookie]
  simpa using List.find?_some hfind

/-- The handler looks up the client's row. -/
theorem Conversing.row {env : AuthEnv} {family : Uuid} {c : Conversation}
    (h : Conversing env family c) {row : RefreshTokenRow} (hrow : c.row env = some row) :
    row.familyId = family ∧ MatchesLoss env row c.lostRotation := by
  obtain ⟨row', hmem, hhash, hfamily, hloss⟩ := h.held
  have hsame : row = row' := by
    apply h.wellFormed.tokenHashes.eq_of_mem (Conversation.row_mem hrow) hmem
    rw [Conversation.row_hash hrow, hhash]
  rw [hsame]
  exact ⟨hfamily, hloss⟩

theorem callStep_service {env : AuthEnv} {c : Conversation} {call : RefreshCall}
    (h : call.delivery ≠ .requestLost) : (callStep env c call).service = c.served env call := by
  unfold callStep
  cases hdelivery : call.delivery with
  | requestLost => exact absurd hdelivery h
  | responseLost =>
    dsimp only
    split
    · dsimp only
    · dsimp only
  | delivered =>
    dsimp only
    split
    · dsimp only
    · dsimp only

/-- The client keeps its token when the response brings no other. -/
theorem callStep_unchanged {env : AuthEnv} {c : Conversation} {call : RefreshCall}
    (h : call.delivery ≠ .requestLost) {response : AuthResponse}
    (hresponse : c.response env call = some response)
    (hcookie : ∀ token userId raw, response ≠ .ok token userId (some raw)) :
    callStep env c call = { c with service := c.served env call } := by
  unfold callStep
  cases hdelivery : call.delivery with
  | requestLost => exact absurd hdelivery h
  | responseLost =>
    dsimp only
    split
    · rename_i heq
      rw [hresponse] at heq
      exact absurd (Option.some.inj heq) (hcookie _ _ _)
    · rfl
  | delivered =>
    dsimp only
    split
    · rename_i heq
      rw [hresponse] at heq
      exact absurd (Option.some.inj heq) (hcookie _ _ _)
    · rfl

/-- A rotation that is answered gives the client the new token; one whose response is lost
    leaves it with the old. -/
theorem callStep_rotated {env : AuthEnv} {c : Conversation} {call : RefreshCall}
    {token : AccessToken} {userId : Uuid} {raw : String}
    (hresponse : c.response env call = some (.ok token userId (some raw))) :
    (call.delivery = .responseLost → callStep env c call =
      ⟨c.served env call, c.cookie, some (call.preparedAt c.service.clock)⟩) ∧
    (call.delivery = .delivered → callStep env c call = ⟨c.served env call, raw, none⟩) := by
  constructor
  · intro hdelivery
    simp only [callStep, hdelivery, hresponse]
  · intro hdelivery
    simp only [callStep, hdelivery, hresponse]

/-- The token of a lost rotation is rotated, and its window counts from that rotation. -/
theorem Conversing.lost {env : AuthEnv} {family : Uuid} {c : Conversation}
    (h : Conversing env family c) {row : RefreshTokenRow} (hrow : c.row env = some row)
    {lost : Nat} (hlost : c.lostRotation = some lost) :
    row.revokedAt ≠ none ∧ row.graceUntil = some (lost + env.rtGraceSeconds * 1000) := by
  obtain ⟨-, hloss⟩ := h.row hrow
  rwa [hlost] at hloss

/-- The new row of a rotation. -/
theorem newToken_mem_rotated {env : AuthEnv} {c : Conversation} {family : Uuid}
    (h : Conversing env family c) {call : RefreshCall} {row : RefreshTokenRow}
    (hrow : c.row env = some row) {expiresAt now graceUntil : Nat}
    (hviol : tokenViolation c.service.db
      (newToken env row.userId row.familyId expiresAt call.draw) = none) :
    newToken env row.userId row.familyId expiresAt call.draw ∈
      update (fun t => t.id == row.id) (RefreshTokenRow.rotate now call.draw.id graceUntil)
        (c.service.db.refreshTokens ++
          [newToken env row.userId row.familyId expiresAt call.draw]) :=
  (mem_rotated h.wellFormed.tokenIds (Conversation.row_mem hrow)
    (tokenViolation_eq_none hviol).1).mpr (.inr (.inr rfl))

/-- **A call is spared iff it is in time.** -/
theorem Conversing.spared_iff {env : AuthEnv} {family : Uuid} {c : Conversation}
    (h : Conversing env family c) (call : RefreshCall) :
    Spared env family c call ↔ InTime env c call := by
  by_cases hlost : call.delivery = .requestLost
  · have hactive : ∃ t ∈ (callStep env c call).service.db.refreshTokens,
        t.familyId = family ∧ t.revokedAt = none := by
      simp only [callStep, hlost]
      exact h.active
    exact ⟨fun _ => .inl hlost, fun _ => ⟨.inl hlost, hactive⟩⟩
  · obtain ⟨response, hresponse, houtcome⟩ := call_outcome env c call h.wellFormed.tokenIds
    have hservice := @callStep_service env c call hlost
    generalize htokens : (c.served env call).db.refreshTokens = tokens at houtcome
    cases houtcome with
    | unchanged response hspared hcookie hwhy =>
      constructor
      · intro _
        refine .inr fun row hrow => ?_
        rcases hwhy row hrow with hexpiry | hactive | hgrace
        · exact .inl hexpiry
        · refine .inr fun lost hloss => ?_
          exact absurd hactive (h.lost hrow hloss).1
        · refine .inr fun lost hloss => ?_
          simpa [RefreshTokenRow.inGrace, (h.lost hrow hloss).2] using hgrace
      · intro _
        refine ⟨.inr ?_, ?_⟩
        · rw [hresponse]
          exact fun heq => hspared (Option.some.inj heq)
        · rw [hservice, htokens]
          exact h.active
    | rotated row user expiresAt now hrow hactive hviol =>
      constructor
      · intro _
        refine .inr fun row' hrow' => .inr fun lost hloss => ?_
        rw [hrow] at hrow'
        rw [← Option.some.inj hrow'] at *
        exact absurd hactive (h.lost hrow hloss).1
      · intro _
        refine ⟨.inr ?_, ?_⟩
        · rw [hresponse]
          simp
        · rw [hservice, htokens]
          exact ⟨_, newToken_mem_rotated h hrow hviol, (h.row hrow).1, rfl⟩
    | reused row now hrow hrevoked hexpiry hgrace =>
      constructor
      · intro hspared
        rcases hspared.noReuse with hdelivery | hreuse
        · exact absurd hdelivery hlost
        · exact absurd hresponse hreuse
      · intro hintime
        rcases hintime with hdelivery | hintime
        · exact absurd hdelivery hlost
        · rcases hintime row hrow with hexpired | hwindow
          · rw [hexpiry] at hexpired
            simp at hexpired
          · cases hloss : c.lostRotation with
            | none =>
              obtain ⟨-, hactive⟩ := h.row hrow
              rw [hloss] at hactive
              exact absurd hactive hrevoked
            | some lost =>
              have hend := hwindow lost hloss
              simp [RefreshTokenRow.inGrace, (h.lost hrow hloss).2] at hgrace
              omega

theorem Conversing.step {env : AuthEnv} {family : Uuid} {c : Conversation}
    (h : Conversing env family c) {call : RefreshCall} (hintime : InTime env c call) :
    Conversing env family (callStep env c call) := by
  by_cases hlost : call.delivery = .requestLost
  · have hwf : (authStep env c.service (.advance call.wait)).WellFormed := h.wellFormed.step _
    simp only [callStep, hlost]
    exact ⟨hwf, h.held, h.active⟩
  · obtain ⟨response, hresponse, houtcome⟩ := call_outcome env c call h.wellFormed.tokenIds
    have hservice := @callStep_service env c call hlost
    have hspared := (h.spared_iff call).mpr hintime
    have hwf : (callStep env c call).service.WellFormed := by
      rw [hservice]
      exact exec_invariant' AuthService.WellFormed (fun _ a h => h.step a) h.wellFormed _
    refine ⟨hwf, ?_, hspared.active⟩
    generalize htokens : (c.served env call).db.refreshTokens = tokens at houtcome
    cases houtcome with
    | unchanged response hspared hcookie hwhy =>
      rw [callStep_unchanged hlost hresponse hcookie]
      simp only [htokens]
      exact h.held
    | rotated row user expiresAt now hrow hactive hviol =>
      obtain ⟨hresponseLost, hdelivered⟩ := callStep_rotated hresponse
      have hhash := Conversation.row_hash hrow
      have hfamily := (h.row hrow).1
      cases hdelivery : call.delivery with
      | requestLost => exact absurd hdelivery hlost
      | responseLost =>
        rw [hresponseLost hdelivery]
        simp only [htokens]
        refine ⟨row.rotate now call.draw.id
          (call.preparedAt c.service.clock + env.rtGraceSeconds * 1000), ?_,
          hhash, hfamily, by simp [RefreshTokenRow.rotate], rfl⟩
        exact (mem_rotated h.wellFormed.tokenIds (Conversation.row_mem hrow)
          (tokenViolation_eq_none hviol).1).mpr (.inl rfl)
      | delivered =>
        rw [hdelivered hdelivery]
        simp only [htokens]
        exact ⟨_, newToken_mem_rotated h hrow hviol, rfl, hfamily, rfl⟩
    | reused row now hrow hrevoked hexpiry hgrace =>
      rcases hspared.noReuse with hdelivery | hreuse
      · exact absurd hdelivery hlost
      · exact absurd hresponse hreuse

/-- **An honest client is spared iff its calls are in time**: no call ends in
    `reuse_detected` and the family keeps an active token, as long as each call with a
    token whose rotation was lost is decided within the grace period of that rotation,
    or after the token has expired. -/
theorem honest_client_spared_iff {s : AuthService} (hseed : s.Seeded) (env : AuthEnv)
    (as : List AuthAction) {raw : String} {row : RefreshTokenRow}
    (hheld : findByRaw env raw (exec (authStep env) s as).db = some row)
    (hactive : row.revokedAt = none) (calls : List RefreshCall) :
    Along (callStep env) (Spared env row.familyId) ⟨exec (authStep env) s as, raw, none⟩ calls ↔
      Along (callStep env) (InTime env) ⟨exec (authStep env) s as, raw, none⟩ calls := by
  apply along_iff_along (Conversing env row.familyId)
  · intro c call h hok
    exact h.step hok
  · intro c call h
    exact h.spared_iff call
  · have hmem := List.mem_of_find?_eq_some hheld
    have hhash : row.tokenHash = env.sha256 raw := by simpa using List.find?_some hheld
    exact ⟨wellFormed_exec env hseed as, ⟨row, hmem, hhash, rfl, hactive⟩,
      ⟨row, hmem, rfl, hactive⟩⟩

/-! ### Runs -/

instance (env : AuthEnv) (c : Conversation) (call : RefreshCall) :
    Decidable (InTime env c call) := by
  unfold InTime
  infer_instance

/-- Alice with the token of her login. -/
def aliceLoggedIn : Conversation :=
  ⟨exec (authStep defaultAuthEnv) emptyAuth (registerAlice :: loginRun 0 drawA), rawA, none⟩

/-- The response of her first refresh, a day later, is lost. -/
def lostRefresh : RefreshCall := ⟨86400000, 5, 5, 5, 5, 5, drawB, .responseLost⟩

/-- She tries again two seconds later. -/
def retriedRefresh : RefreshCall := ⟨2000, 5, 5, 5, 5, 5, drawC, .delivered⟩

/-- Her next refresh is due an hour later. -/
def nextRefresh : RefreshCall := ⟨3600000, 5, 5, 5, 5, 5, drawC, .delivered⟩

/-- The retry is within the grace window and is answered, but leaves Alice with her old
    token: the next refresh counts as reuse, and the family is revoked. -/
theorem lostRefresh_counts_as_reuse :
    emptyAuth.Seeded ∧
      findByRaw defaultAuthEnv rawA aliceLoggedIn.service.db =
        some (newToken defaultAuthEnv 101 301 7776000000 drawA) ∧
      (let retrying := callStep defaultAuthEnv aliceLoggedIn lostRefresh
        let answered := callStep defaultAuthEnv retrying retriedRefresh
        let refused := callStep defaultAuthEnv answered nextRefresh
        InTime defaultAuthEnv retrying retriedRefresh ∧
          retrying.response defaultAuthEnv retriedRefresh =
            some (.ok ⟨101, "alice@example.com", 0⟩ 101 none) ∧
          answered.cookie = rawA ∧
          answered.response defaultAuthEnv nextRefresh =
            some (.unauthorized "reuse_detected") ∧
          ∀ t ∈ refused.service.db.refreshTokens, t.revokedAt ≠ none) ∧
      ¬ Along (callStep defaultAuthEnv) (Spared defaultAuthEnv 301) aliceLoggedIn
        [lostRefresh, retriedRefresh, nextRefresh] := by
  refine ⟨emptyAuth_seeded, by decide +kernel, by decide +kernel, ?_⟩
  rintro ⟨-, -, hspared, -⟩
  rcases hspared.noReuse with hlost | hreuse
  · exact absurd hlost (by decide)
  · exact hreuse (by decide +kernel)

/-- Until the window ends Alice is spared. -/
theorem retriedRefresh_spared :
    Along (callStep defaultAuthEnv) (Spared defaultAuthEnv 301) aliceLoggedIn
      [lostRefresh, retriedRefresh] :=
  (@honest_client_spared_iff _ emptyAuth_seeded defaultAuthEnv
    (registerAlice :: loginRun 0 drawA) rawA
    (newToken defaultAuthEnv 101 301 7776000000 drawA) (by decide +kernel) rfl _).mpr
    (by decide +kernel)

end SeatReservation
