import SeatReservation.AuthService

/-!
# Invariants of the auth service

What an action can do to the table of refresh tokens (`TokenEffect`): a login
issues a token, a rotation replaces one, and everything else only revokes.  No
action ever changes which token, user or family a row is about, so the row a
request read at its lookup stays the row of that token, however old the reading
is.
-/

namespace SeatReservation

open Relational TransitionSystem

/-! ### What an action can do to the tokens -/

/-- The row a `rotate` transaction locks, when the transaction goes through. -/
def rotatedRow (env : AuthEnv) (s : AuthService) : AuthAction → Option RefreshTokenRow
  | .refreshStep i d =>
      match s.refreshes[i]? with
      | some ⟨_, .rotating row _ expiresAt _⟩ =>
          (s.db.refreshTokens.find? fun t => t.id == row.id).filter fun t =>
            (tokenViolation s.db (newToken env t.userId t.familyId expiresAt d)).isNone
      | _ => none
  | _ => none

/-- The tokens after an action, and the ids of those issued at a login. -/
inductive TokenEffect (env : AuthEnv) (s : AuthService) :
    AuthAction → List RefreshTokenRow → List Uuid → Prop where
  | nothing (a : AuthAction) : TokenEffect env s a s.db.refreshTokens s.issuedAtLogin
  | issued (i : Nat) (d : TokenDraw) (email password : String) (user : UserRow) (expiresAt : Nat)
      (hget : s.logins[i]? = some ⟨email, password, .verified user expiresAt⟩)
      (hfree : tokenViolation s.db (newToken env user.id d.familyId expiresAt d) = none) :
      TokenEffect env s (.loginStep i d)
        (s.db.refreshTokens ++ [newToken env user.id d.familyId expiresAt d])
        (s.issuedAtLogin ++ [d.id])
  | rotated (i : Nat) (d : TokenDraw) (cookie : Option String) (row current : RefreshTokenRow)
      (user : UserRow) (expiresAt graceUntil : Nat)
      (hget : s.refreshes[i]? = some ⟨cookie, .rotating row user expiresAt graceUntil⟩)
      (hrow : rotatedRow env s (.refreshStep i d) = some current)
      (hmem : current ∈ s.db.refreshTokens) (hid : current.id = row.id)
      (hfree : tokenViolation s.db (newToken env current.userId current.familyId expiresAt d) =
        none) :
      TokenEffect env s (.refreshStep i d)
        (update (fun t => t.id == current.id) (RefreshTokenRow.rotate s.clock d.id graceUntil)
          (s.db.refreshTokens ++ [newToken env current.userId current.familyId expiresAt d]))
        s.issuedAtLogin
  | revoked (a : AuthAction) (p : RefreshTokenRow → Bool) :
      TokenEffect env s a (update p (RefreshTokenRow.revoke s.clock) s.db.refreshTokens)
        s.issuedAtLogin

theorem loginStep_effect {env : AuthEnv} {s : AuthService} {i : Nat} {l : Login}
    (hget : s.logins[i]? = some l) (d : TokenDraw) :
    TokenEffect env s (.loginStep i d) (loginStep env s.clock d l s.db).2.refreshTokens
      (s.issuedAtLogin ++ issuedBy l (loginStep env s.clock d l s.db).1 d) := by
  obtain ⟨email, password, stage⟩ := l
  have hnothing : TokenEffect env s (.loginStep i d) s.db.refreshTokens
      (s.issuedAtLogin ++ []) := by
    rw [List.append_nil]
    exact .nothing _
  unfold loginStep
  cases stage with
  | started =>
    dsimp only
    split
    · exact hnothing
    · exact hnothing
  | found user =>
    dsimp only
    split
    · exact hnothing
    · exact hnothing
  | verified user expiresAt =>
    dsimp only [issueNewFamily]
    cases hviol : tokenViolation s.db (newToken env user.id d.familyId expiresAt d) with
    | none => exact .issued i d email password user expiresAt hget hviol
    | some err => exact hnothing
  | issued user raw => exact hnothing
  | done response => exact hnothing

theorem refreshStep_effect {env : AuthEnv} {s : AuthService} {i : Nat} {r : Refresh}
    (hget : s.refreshes[i]? = some r) (d : TokenDraw) :
    TokenEffect env s (.refreshStep i d) (refreshStep env s.clock d r s.db).2.refreshTokens
      s.issuedAtLogin := by
  obtain ⟨cookie, stage⟩ := r
  unfold refreshStep
  cases stage with
  | started =>
    dsimp only
    split
    · exact .nothing _
    · split
      · exact .nothing _
      · exact .nothing _
  | found row => exact .nothing _
  | active row =>
    dsimp only
    split
    · exact .nothing _
    · exact .nothing _
  | rotating row user expiresAt graceUntil =>
    dsimp only
    unfold rotate
    cases hfind : s.db.refreshTokens.find? fun t => t.id == row.id with
    | none => exact .nothing _
    | some current =>
      dsimp only
      cases hviol : tokenViolation s.db
          (newToken env current.userId current.familyId expiresAt d) with
      | some err => exact .nothing _
      | none =>
        refine .rotated i d cookie row current user expiresAt graceUntil hget ?_
          (List.mem_of_find?_eq_some hfind) (by simpa using List.find?_some hfind) hviol
        simp [rotatedRow, hget, hfind, hviol]
  | grace row =>
    dsimp only
    split
    · exact .nothing _
    · exact .nothing _
  | accepted row user cookie => exact .nothing _
  | reused row => exact .revoked _ _
  | done response => exact .nothing _

theorem logoutStep_effect {env : AuthEnv} {s : AuthService} (i : Nat) (l : Logout) :
    TokenEffect env s (.logoutStep i) (logoutStep env s.clock l s.db).2.refreshTokens
      s.issuedAtLogin := by
  obtain ⟨cookie, all, stage⟩ := l
  unfold logoutStep
  cases stage with
  | started =>
    dsimp only
    split
    · exact .nothing _
    · exact .nothing _
  | found row =>
    cases all with
    | true => exact .revoked _ _
    | false => exact .revoked _ _
  | revoked row => exact .nothing _
  | done => exact .nothing _

/-- **Everything an action of the auth service can do to the refresh tokens.** -/
theorem authStep_effect (env : AuthEnv) (s : AuthService) (a : AuthAction) :
    TokenEffect env s a (authStep env s a).db.refreshTokens (authStep env s a).issuedAtLogin := by
  cases a with
  | register email passwordHash id =>
    simp only [authStep, createUser]
    split
    · exact .nothing _
    · exact .nothing _
  | loginStep i d =>
    simp only [authStep]
    cases hget : s.logins[i]? with
    | none => exact .nothing _
    | some l => exact loginStep_effect hget d
  | refreshStep i d =>
    simp only [authStep]
    cases hget : s.refreshes[i]? with
    | none => exact .nothing _
    | some r => exact refreshStep_effect hget d
  | logoutStep i =>
    simp only [authStep]
    cases hget : s.logouts[i]? with
    | none => exact .nothing _
    | some l => exact logoutStep_effect i l
  | advance ms => exact .nothing _
  | login email password => exact .nothing _
  | loginLost i => exact .nothing _
  | refresh cookie => exact .nothing _
  | refreshLost i => exact .nothing _
  | logout cookie all => exact .nothing _
  | logoutLost i => exact .nothing _

theorem clock_le_step (env : AuthEnv) (s : AuthService) (a : AuthAction) :
    s.clock ≤ (authStep env s a).clock := by
  cases a with
  | advance ms => exact Nat.le_add_right s.clock ms
  | loginStep i d =>
    simp only [authStep]
    split
    · exact Nat.le_refl _
    · exact Nat.le_refl _
  | refreshStep i d =>
    simp only [authStep]
    split
    · exact Nat.le_refl _
    · exact Nat.le_refl _
  | logoutStep i =>
    simp only [authStep]
    split
    · exact Nat.le_refl _
    · exact Nat.le_refl _
  | register email passwordHash id => exact Nat.le_refl _
  | login email password => exact Nat.le_refl _
  | loginLost i => exact Nat.le_refl _
  | refresh cookie => exact Nat.le_refl _
  | refreshLost i => exact Nat.le_refl _
  | logout cookie all => exact Nat.le_refl _
  | logoutLost i => exact Nat.le_refl _

/-- The transaction of `rotate` when it finds the row and may insert the new one. -/
theorem rotate_of_free {env : AuthEnv} {oldId : Uuid} {expiresAt : Nat} {d : TokenDraw}
    {db : AuthDb} {current : RefreshTokenRow}
    (hfind : (db.refreshTokens.find? fun t => t.id == oldId) = some current)
    (hviol : tokenViolation db (newToken env current.userId current.familyId expiresAt d) = none)
    (graceUntil now : Nat) :
    rotate env oldId expiresAt graceUntil now d db =
      (.ok (newToken env current.userId current.familyId expiresAt d),
        { db with
          refreshTokens :=
            update (fun t => t.id == current.id) (RefreshTokenRow.rotate now d.id graceUntil)
              (db.refreshTokens ++
                [newToken env current.userId current.familyId expiresAt d]) }) := by
  unfold rotate
  rw [hfind]
  dsimp only
  rw [hviol]
  rfl

/-- The transaction of `rotate` when the insert fails. -/
theorem rotate_of_violation {env : AuthEnv} {oldId : Uuid} {expiresAt : Nat} {d : TokenDraw}
    {db : AuthDb} {current : RefreshTokenRow} {err : SqlError}
    (hfind : (db.refreshTokens.find? fun t => t.id == oldId) = some current)
    (hviol : tokenViolation db (newToken env current.userId current.familyId expiresAt d) =
      some err) (graceUntil now : Nat) :
    rotate env oldId expiresAt graceUntil now d db = (.error (.sql err), db) := by
  unfold rotate
  rw [hfind]
  dsimp only
  rw [hviol]

/-- What the transaction does to the row it locks, when it goes through. -/
theorem step_of_rotatedRow {env : AuthEnv} {s : AuthService} {a : AuthAction}
    {current : RefreshTokenRow} (h : rotatedRow env s a = some current) :
    ∃ d expiresAt graceUntil, current ∈ s.db.refreshTokens ∧
      tokenViolation s.db (newToken env current.userId current.familyId expiresAt d) = none ∧
      (authStep env s a).db.refreshTokens =
        update (fun t => t.id == current.id) (RefreshTokenRow.rotate s.clock d.id graceUntil)
          (s.db.refreshTokens ++ [newToken env current.userId current.familyId expiresAt d]) ∧
      (authStep env s a).issuedAtLogin = s.issuedAtLogin := by
  unfold rotatedRow at h
  split at h
  · rename_i i d
    split at h
    · rename_i cookie row user expiresAt graceUntil hget
      obtain ⟨hfind, hviol⟩ := Option.filter_eq_some_iff.mp h
      have hviol := Option.isNone_iff_eq_none.mp hviol
      refine ⟨d, expiresAt, graceUntil, List.mem_of_find?_eq_some hfind, hviol, ?_, ?_⟩
      · simp only [authStep, hget, refreshStep, rotate_of_free hfind hviol]
      · simp only [authStep, hget]
    · simp at h
  · simp at h

/-- The rows after a rotation: the one that was rotated, the others, and the new one. -/
theorem mem_rotated {tokens : List RefreshTokenRow} (hkeyed : KeyedBy (·.id) tokens)
    {current row : RefreshTokenRow} (hmem : current ∈ tokens)
    (hid : ∀ t ∈ tokens, t.id ≠ row.id) {now graceUntil : Nat} {t : RefreshTokenRow} :
    t ∈ update (fun t => t.id == current.id) (RefreshTokenRow.rotate now row.id graceUntil)
        (tokens ++ [row]) ↔
      t = current.rotate now row.id graceUntil ∨ (t ∈ tokens ∧ t.id ≠ current.id) ∨ t = row := by
  rw [mem_update]
  constructor
  · rintro (⟨r, hr, hrid, rfl⟩ | ⟨ht, htid⟩)
    · have hrid : r.id = current.id := by simpa using hrid
      rcases List.mem_append.mp hr with hr | hr
      · rw [hkeyed.eq_of_mem hr hmem hrid]
        exact .inl rfl
      · rw [List.mem_singleton.mp hr] at hrid
        exact absurd hrid.symm (hid current hmem)
    · have htid : t.id ≠ current.id := by simpa using htid
      rcases List.mem_append.mp ht with ht | ht
      · exact .inr (.inl ⟨ht, htid⟩)
      · exact .inr (.inr (List.mem_singleton.mp ht))
  · rintro (rfl | ⟨ht, htid⟩ | rfl)
    · exact .inl ⟨current, List.mem_append_left _ hmem, by simp, rfl⟩
    · exact .inr ⟨List.mem_append_left _ ht, by simpa using htid⟩
    · refine .inr ⟨List.mem_append_right _ (List.mem_singleton_self _), ?_⟩
      simpa using (hid current hmem).symm

/-- A request of the refresh list after an action: an old one, a new one, or the one
    the action moved. -/
theorem forall_refreshes_step {env : AuthEnv} {s : AuthService} {a : AuthAction}
    {Q : Refresh → Prop} (Q' : Refresh → Prop) (h : ∀ r ∈ s.refreshes, Q r)
    (hkeep : ∀ r, Q r → Q' r)
    (hnew : ∀ cookie, a = .refresh cookie → Q' ⟨cookie, .started⟩)
    (hmoved : ∀ i d r, a = .refreshStep i d → s.refreshes[i]? = some r → Q r →
      Q' (refreshStep env s.clock d r s.db).1) :
    ∀ r ∈ (authStep env s a).refreshes, Q' r := by
  have hold : ∀ r ∈ s.refreshes, Q' r := fun r hr => hkeep r (h r hr)
  cases a with
  | refresh cookie =>
    intro r hr
    rcases List.mem_append.mp hr with hr | hr
    · exact hold r hr
    · rw [List.mem_singleton.mp hr]
      exact hnew cookie rfl
  | refreshStep i d =>
    simp only [authStep]
    cases hget : s.refreshes[i]? with
    | none => exact hold
    | some r =>
      intro r' hr'
      rcases List.mem_or_eq_of_mem_set hr' with hr' | rfl
      · exact hold r' hr'
      · exact hmoved i d r rfl hget (h r (List.mem_of_getElem? hget))
  | refreshLost i =>
    intro r hr
    exact hold r (List.mem_of_mem_eraseIdx hr)
  | loginStep i d =>
    simp only [authStep]
    split
    · exact hold
    · exact hold
  | logoutStep i =>
    simp only [authStep]
    split
    · exact hold
    · exact hold
  | advance ms => exact hold
  | register email passwordHash id => exact hold
  | login email password => exact hold
  | loginLost i => exact hold
  | logout cookie all => exact hold
  | logoutLost i => exact hold

theorem forall_logouts_step {env : AuthEnv} {s : AuthService} {a : AuthAction}
    {Q : Logout → Prop} (Q' : Logout → Prop) (h : ∀ l ∈ s.logouts, Q l) (hkeep : ∀ l, Q l → Q' l)
    (hnew : ∀ cookie all, Q' ⟨cookie, all, .started⟩)
    (hmoved : ∀ i l, a = .logoutStep i → s.logouts[i]? = some l → Q l →
      Q' (logoutStep env s.clock l s.db).1) :
    ∀ l ∈ (authStep env s a).logouts, Q' l := by
  have hold : ∀ l ∈ s.logouts, Q' l := fun l hl => hkeep l (h l hl)
  cases a with
  | logout cookie all =>
    intro l hl
    rcases List.mem_append.mp hl with hl | hl
    · exact hold l hl
    · rw [List.mem_singleton.mp hl]
      exact hnew cookie all
  | logoutStep i =>
    simp only [authStep]
    cases hget : s.logouts[i]? with
    | none => exact hold
    | some l =>
      intro l' hl'
      rcases List.mem_or_eq_of_mem_set hl' with hl' | rfl
      · exact hold l' hl'
      · exact hmoved i l rfl hget (h l (List.mem_of_getElem? hget))
  | logoutLost i =>
    intro l hl
    exact hold l (List.mem_of_mem_eraseIdx hl)
  | loginStep i d =>
    simp only [authStep]
    split
    · exact hold
    · exact hold
  | refreshStep i d =>
    simp only [authStep]
    split
    · exact hold
    · exact hold
  | advance ms => exact hold
  | register email passwordHash id => exact hold
  | login email password => exact hold
  | loginLost i => exact hold
  | refresh cookie => exact hold
  | refreshLost i => exact hold

theorem forall_logins_step {env : AuthEnv} {s : AuthService} {a : AuthAction}
    {Q : Login → Prop} (Q' : Login → Prop) (h : ∀ l ∈ s.logins, Q l) (hkeep : ∀ l, Q l → Q' l)
    (hnew : ∀ email password, Q' ⟨email, password, .started⟩)
    (hmoved : ∀ i d l, a = .loginStep i d → s.logins[i]? = some l → Q l →
      Q' (loginStep env s.clock d l s.db).1) :
    ∀ l ∈ (authStep env s a).logins, Q' l := by
  have hold : ∀ l ∈ s.logins, Q' l := fun l hl => hkeep l (h l hl)
  cases a with
  | login email password =>
    intro l hl
    rcases List.mem_append.mp hl with hl | hl
    · exact hold l hl
    · rw [List.mem_singleton.mp hl]
      exact hnew email password
  | loginStep i d =>
    simp only [authStep]
    cases hget : s.logins[i]? with
    | none => exact hold
    | some l =>
      intro l' hl'
      rcases List.mem_or_eq_of_mem_set hl' with hl' | rfl
      · exact hold l' hl'
      · exact hmoved i d l rfl hget (h l (List.mem_of_getElem? hget))
  | loginLost i =>
    intro l hl
    exact hold l (List.mem_of_mem_eraseIdx hl)
  | refreshStep i d =>
    simp only [authStep]
    split
    · exact hold
    · exact hold
  | logoutStep i =>
    simp only [authStep]
    split
    · exact hold
    · exact hold
  | advance ms => exact hold
  | register email passwordHash id => exact hold
  | refresh cookie => exact hold
  | refreshLost i => exact hold
  | logout cookie all => exact hold
  | logoutLost i => exact hold

/-! ### A row that was read stays the row of its token -/

/-- `t'` is the row of the same token at a later time. -/
structure RefreshTokenRow.Becomes (t t' : RefreshTokenRow) : Prop where
  id : t'.id = t.id
  userId : t'.userId = t.userId
  familyId : t'.familyId = t.familyId
  tokenHash : t'.tokenHash = t.tokenHash
  expiresAt : t'.expiresAt = t.expiresAt
  revoked : t.revokedAt.isSome = true → t'.revokedAt.isSome = true

theorem RefreshTokenRow.Becomes.refl (t : RefreshTokenRow) : t.Becomes t :=
  ⟨rfl, rfl, rfl, rfl, rfl, fun h => h⟩

theorem RefreshTokenRow.Becomes.trans {t t' t'' : RefreshTokenRow} (h : t.Becomes t')
    (h' : t'.Becomes t'') : t.Becomes t'' :=
  ⟨h'.id.trans h.id, h'.userId.trans h.userId, h'.familyId.trans h.familyId,
    h'.tokenHash.trans h.tokenHash, h'.expiresAt.trans h.expiresAt,
    fun hr => h'.revoked (h.revoked hr)⟩

theorem RefreshTokenRow.becomes_revoke (now : Nat) (t : RefreshTokenRow) :
    t.Becomes (t.revoke now) :=
  ⟨rfl, rfl, rfl, rfl, rfl, fun _ => rfl⟩

theorem RefreshTokenRow.becomes_rotate (now : Nat) (rotatedTo : Uuid) (graceUntil : Nat)
    (t : RefreshTokenRow) : t.Becomes (t.rotate now rotatedTo graceUntil) :=
  ⟨rfl, rfl, rfl, rfl, rfl, fun _ => rfl⟩

/-- Each row of a table is still there, as some later row, after an update that only
    ever replaces a row by a later one. -/
theorem becomes_update (p : RefreshTokenRow → Bool) {f : RefreshTokenRow → RefreshTokenRow}
    (hf : ∀ t : RefreshTokenRow, t.Becomes (f t)) {tokens : List RefreshTokenRow}
    {t : RefreshTokenRow} (ht : t ∈ tokens) : ∃ t' ∈ update p f tokens, t.Becomes t' := by
  by_cases hp : p t = true
  · exact ⟨f t, mem_update.mpr (.inl ⟨t, ht, hp, rfl⟩), hf t⟩
  · exact ⟨t, mem_update.mpr (.inr ⟨ht, by simpa using hp⟩), .refl t⟩

theorem mem_update_becomes {p : RefreshTokenRow → Bool} {f : RefreshTokenRow → RefreshTokenRow}
    (hf : ∀ t : RefreshTokenRow, t.Becomes (f t)) {tokens : List RefreshTokenRow}
    {t' : RefreshTokenRow} (ht' : t' ∈ update p f tokens) : ∃ t ∈ tokens, t.Becomes t' := by
  rcases mem_update.mp ht' with ⟨t, ht, -, rfl⟩ | ⟨ht, -⟩
  · exact ⟨t, ht, hf t⟩
  · exact ⟨t', ht, .refl t'⟩

theorem TokenEffect.becomes {env : AuthEnv} {s : AuthService} {a : AuthAction}
    {tokens : List RefreshTokenRow} {issued : List Uuid} (h : TokenEffect env s a tokens issued)
    {t : RefreshTokenRow} (ht : t ∈ s.db.refreshTokens) : ∃ t' ∈ tokens, t.Becomes t' := by
  cases h with
  | nothing => exact ⟨t, ht, .refl t⟩
  | issued i d email password user expiresAt hget hfree =>
    exact ⟨t, List.mem_append_left _ ht, .refl t⟩
  | rotated i d cookie row current user expiresAt graceUntil hget hrow hmem hid hfree =>
    exact becomes_update _ (RefreshTokenRow.becomes_rotate s.clock d.id graceUntil)
      (List.mem_append_left _ ht)
  | revoked a p => exact becomes_update _ (RefreshTokenRow.becomes_revoke s.clock) ht

/-- The table has a row of the token the row was read of. -/
def Stored (tokens : List RefreshTokenRow) (row : RefreshTokenRow) : Prop :=
  ∃ t ∈ tokens, row.Becomes t

theorem Stored.step {env : AuthEnv} {s : AuthService} {row : RefreshTokenRow}
    (h : Stored s.db.refreshTokens row) (a : AuthAction) :
    Stored (authStep env s a).db.refreshTokens row := by
  obtain ⟨t, ht, hrow⟩ := h
  obtain ⟨t', ht', hbecomes⟩ := (authStep_effect env s a).becomes ht
  exact ⟨t', ht', hrow.trans hbecomes⟩

theorem Stored.exec {s : AuthService} {row : RefreshTokenRow}
    (h : Stored s.db.refreshTokens row) (env : AuthEnv) (as : List AuthAction) :
    Stored (exec (authStep env) s as).db.refreshTokens row :=
  exec_invariant' (fun s : AuthService => Stored s.db.refreshTokens row)
    (fun _ a h => h.step a) h as

/-! ### Rows that requests hold -/

/-- The row a refresh is working on. -/
@[simp] def RefreshStage.row : RefreshStage → Option RefreshTokenRow
  | .found row | .active row | .rotating row .. | .grace row | .accepted row .. | .reused row =>
      some row
  | .started | .done _ => none

@[simp] def LogoutStage.row : LogoutStage → Option RefreshTokenRow
  | .found row | .revoked row => some row
  | .started | .done => none

theorem branch_row {now : Nat} {row row' : RefreshTokenRow} (h : (branch now row).row = some row') :
    row' = row := by
  unfold branch at h
  split at h
  · simp at h
  · split at h
    · exact (Option.some.inj h).symm
    · split at h
      · exact (Option.some.inj h).symm
      · exact (Option.some.inj h).symm

/-- The row of a refresh only changes at the lookup. -/
theorem refreshStep_row {env : AuthEnv} {clock : Nat} {d : TokenDraw} {r : Refresh} {db : AuthDb}
    {row : RefreshTokenRow} (h : (refreshStep env clock d r db).1.stage.row = some row) :
    r.stage.row = some row ∨ (r.stage = .started ∧ row ∈ db.refreshTokens) := by
  obtain ⟨cookie, stage⟩ := r
  unfold refreshStep at h
  cases stage with
  | started =>
    dsimp only at h
    split at h
    · simp at h
    · split at h
      · simp at h
      · rename_i hfind
        refine .inr ⟨rfl, ?_⟩
        rw [← Option.some.inj h]
        exact List.mem_of_find?_eq_some hfind
  | found row' =>
    left
    rw [branch_row h]
    rfl
  | active row' =>
    dsimp only at h
    split at h
    · simp at h
    · exact .inl h
  | rotating row' user expiresAt graceUntil =>
    dsimp only at h
    split at h
    · exact .inl h
    · simp at h
  | grace row' =>
    dsimp only at h
    split at h
    · simp at h
    · exact .inl h
  | accepted row' user cookie => simp at h
  | reused row' => simp at h
  | done response => simp at h

theorem logoutStep_row {env : AuthEnv} {clock : Nat} {l : Logout} {db : AuthDb}
    {row : RefreshTokenRow} (h : (logoutStep env clock l db).1.stage.row = some row) :
    l.stage.row = some row ∨ row ∈ db.refreshTokens := by
  obtain ⟨cookie, all, stage⟩ := l
  unfold logoutStep at h
  cases stage with
  | started =>
    dsimp only at h
    split at h
    · simp at h
    · rename_i hfind
      obtain ⟨raw, -, hraw⟩ := Option.bind_eq_some_iff.mp hfind
      right
      rw [← Option.some.inj h]
      exact List.mem_of_find?_eq_some hraw
  | found row' => exact .inl h
  | revoked row' => simp at h
  | done => simp at h

/-! ### Every reachable state -/

/-- What holds of the tables and of the rows requests have read. -/
structure AuthService.WellFormed (s : AuthService) : Prop where
  tokenIds : KeyedBy (·.id) s.db.refreshTokens
  tokenHashes : KeyedBy (·.tokenHash) s.db.refreshTokens
  refreshes : ∀ r ∈ s.refreshes, ∀ row, r.stage.row = some row → Stored s.db.refreshTokens row
  logouts : ∀ l ∈ s.logouts, ∀ row, l.stage.row = some row → Stored s.db.refreshTokens row

/-- What a row must be like to be inserted. -/
theorem tokenViolation_eq_none {db : AuthDb} {row : RefreshTokenRow}
    (h : tokenViolation db row = none) :
    (∀ t ∈ db.refreshTokens, t.id ≠ row.id) ∧
      (∀ t ∈ db.refreshTokens, t.tokenHash ≠ row.tokenHash) := by
  unfold tokenViolation at h
  split at h
  · simp at h
  · rename_i hid
    split at h
    · simp at h
    · rename_i hhash
      simp only [List.any_eq_true, beq_iff_eq, not_exists, not_and] at hid hhash
      exact ⟨hid, hhash⟩

/-- A column that updates keep and inserts are free in stays a key. -/
theorem TokenEffect.keyedBy {κ : Type*} {key : RefreshTokenRow → κ} {env : AuthEnv}
    {s : AuthService} {a : AuthAction} {tokens : List RefreshTokenRow} {issued : List Uuid}
    (h : TokenEffect env s a tokens issued) (hkeyed : KeyedBy key s.db.refreshTokens)
    (hfree : ∀ row, tokenViolation s.db row = none → ∀ t ∈ s.db.refreshTokens, key t ≠ key row)
    (hkey : ∀ t t' : RefreshTokenRow, t.Becomes t' → key t' = key t) : KeyedBy key tokens := by
  cases h with
  | nothing => exact hkeyed
  | issued i d email password user expiresAt hget hviol => exact hkeyed.insert (hfree _ hviol)
  | rotated i d cookie row current user expiresAt graceUntil hget hrow hmem hid hviol =>
    apply (hkeyed.insert (hfree _ hviol)).update
    intro t _
    exact hkey t _ (RefreshTokenRow.becomes_rotate s.clock d.id graceUntil t)
  | revoked a p =>
    apply hkeyed.update
    intro t _
    exact hkey t _ (RefreshTokenRow.becomes_revoke s.clock t)

theorem AuthService.WellFormed.step {env : AuthEnv} {s : AuthService} (h : s.WellFormed)
    (a : AuthAction) : (authStep env s a).WellFormed := by
  have heffect := authStep_effect env s a
  constructor
  · exact heffect.keyedBy h.tokenIds (fun _ hviol => (tokenViolation_eq_none hviol).1)
      fun _ _ hb => hb.id
  · exact heffect.keyedBy h.tokenHashes (fun _ hviol => (tokenViolation_eq_none hviol).2)
      fun _ _ hb => hb.tokenHash
  · refine forall_refreshes_step
      (fun r => ∀ row, r.stage.row = some row → Stored (authStep env s a).db.refreshTokens row)
      h.refreshes ?_ ?_ ?_
    · intro r hr row hrow
      exact (hr row hrow).step a
    · intro cookie _ row hrow
      simp at hrow
    · intro i d r _ _ hr row hrow
      rcases refreshStep_row hrow with hrow | ⟨-, hmem⟩
      · exact (hr row hrow).step a
      · exact Stored.step ⟨row, hmem, .refl row⟩ a
  · refine forall_logouts_step
      (fun l => ∀ row, l.stage.row = some row → Stored (authStep env s a).db.refreshTokens row)
      h.logouts ?_ ?_ ?_
    · intro l hl row hrow
      exact (hl row hrow).step a
    · intro cookie all row hrow
      simp at hrow
    · intro i l _ _ hl row hrow
      rcases logoutStep_row hrow with hrow | hmem
      · exact (hl row hrow).step a
      · exact Stored.step ⟨row, hmem, .refl row⟩ a

theorem AuthService.Seeded.wellFormed {s : AuthService} (h : s.Seeded) : s.WellFormed := by
  constructor
  · rw [h.refreshTokens]
    exact List.nodup_nil
  · rw [h.refreshTokens]
    exact List.nodup_nil
  · rw [h.refreshes]
    simp
  · rw [h.logouts]
    simp

theorem wellFormed_exec (env : AuthEnv) {s : AuthService} (h : s.Seeded) (as : List AuthAction) :
    (exec (authStep env) s as).WellFormed :=
  exec_invariant' AuthService.WellFormed (fun _ a h => h.step a) h.wellFormed as

/-! ### Fresh families -/

/-- The next step of the login issues its token. -/
def Login.issues (l : Login) : Bool :=
  match l.stage with
  | .verified .. => true
  | _ => false

/-- The family drawn for the token a login issues is not in use. -/
def DrawsFreshFamily (s : AuthService) : AuthAction → Prop
  | .loginStep i d => ∀ l ∈ s.logins[i]?, l.issues = true →
      ∀ t ∈ s.db.refreshTokens, t.familyId ≠ d.familyId
  | _ => True

instance DrawsFreshFamily.decidable (s : AuthService) (a : AuthAction) :
    Decidable (DrawsFreshFamily s a) := by
  unfold DrawsFreshFamily
  split
  · infer_instance
  · infer_instance

/-- All tokens of a family belong to one user. -/
def FamiliesOfOneUser (tokens : List RefreshTokenRow) : Prop :=
  ∀ t ∈ tokens, ∀ t' ∈ tokens, t.familyId = t'.familyId → t.userId = t'.userId

theorem FamiliesOfOneUser.update {tokens : List RefreshTokenRow} (h : FamiliesOfOneUser tokens)
    (p : RefreshTokenRow → Bool) {f : RefreshTokenRow → RefreshTokenRow}
    (hf : ∀ t : RefreshTokenRow, t.Becomes (f t)) : FamiliesOfOneUser (update p f tokens) := by
  intro t ht t' ht' hfamily
  obtain ⟨u, hu, hub⟩ := mem_update_becomes hf ht
  obtain ⟨u', hu', hub'⟩ := mem_update_becomes hf ht'
  rw [hub.userId, hub'.userId]
  apply h u hu u' hu'
  rw [← hub.familyId, ← hub'.familyId, hfamily]

theorem FamiliesOfOneUser.insert {tokens : List RefreshTokenRow} (h : FamiliesOfOneUser tokens)
    {row : RefreshTokenRow}
    (hrow : ∀ t ∈ tokens, t.familyId = row.familyId → t.userId = row.userId) :
    FamiliesOfOneUser (tokens ++ [row]) := by
  intro t ht t' ht' hfamily
  rcases List.mem_append.mp ht with ht | ht <;> rcases List.mem_append.mp ht' with ht' | ht'
  · exact h t ht t' ht' hfamily
  · rw [List.mem_singleton.mp ht'] at hfamily ⊢
    exact hrow t ht hfamily
  · rw [List.mem_singleton.mp ht] at hfamily ⊢
    exact (hrow t' ht' hfamily.symm).symm
  · rw [List.mem_singleton.mp ht, List.mem_singleton.mp ht']

theorem FamiliesOfOneUser.effect {env : AuthEnv} {s : AuthService}
    (h : FamiliesOfOneUser s.db.refreshTokens) {a : AuthAction} (hfresh : DrawsFreshFamily s a)
    {tokens : List RefreshTokenRow} {issued : List Uuid}
    (heffect : TokenEffect env s a tokens issued) :
    FamiliesOfOneUser tokens := by
  cases heffect with
  | nothing => exact h
  | issued i d email password user expiresAt hget hfree =>
    apply h.insert
    intro t ht hfamily
    exact absurd hfamily (hfresh _ hget rfl t ht)
  | rotated i d cookie row current user expiresAt graceUntil hget hrow hmem hid hfree =>
    refine (h.insert ?_).update _ (RefreshTokenRow.becomes_rotate s.clock d.id graceUntil)
    intro t ht hfamily
    exact h t ht current hmem hfamily
  | revoked a p => exact h.update p (RefreshTokenRow.becomes_revoke s.clock)

theorem familiesOfOneUser_exec (env : AuthEnv) {s : AuthService} (h : s.Seeded)
    {as : List AuthAction} (hfresh : Along (authStep env) DrawsFreshFamily s as) :
    FamiliesOfOneUser (exec (authStep env) s as).db.refreshTokens := by
  refine exec_invariant (fun s : AuthService => FamiliesOfOneUser s.db.refreshTokens)
    (fun s a h hfresh => h.effect hfresh (authStep_effect env s a)) ?_ hfresh
  simp [FamiliesOfOneUser, h.refreshTokens]

end SeatReservation
