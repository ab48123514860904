import SeatReservation.AccessTokens
import SeatReservation.Revocation

/-!
# Signing out for good

A logout-all revokes the tokens of a user, and what is left of the sessions fades
out: a token that had been rotated is still answered in its grace window.
`FadingOut` is what holds from the logout on, with the end of the last window as
its limit, and `SignedOut` what holds after that.  Both are kept by every action
but a login whose password is accepted, so no access token is signed for a user
who is signed out and does not log in again.
-/

namespace SeatReservation

open Relational TransitionSystem

/-- The user a login has verified the password of. -/
@[simp] def LoginStage.passed : LoginStage → Option UserRow
  | .verified user _ | .issued user _ => some user
  | .started | .found _ | .done _ => none

/-- The next step of the login accepts the password of this user. -/
def Login.accepts (env : AuthEnv) (userId : Uuid) (l : Login) : Bool :=
  match l.stage with
  | .found user => user.id == userId && env.verifyPassword user.passwordHash l.password
  | _ => false

/-- The action accepts no password of this user. -/
def NoSignIn (env : AuthEnv) (userId : Uuid) (s : AuthService) : AuthAction → Prop
  | .loginStep i _ => ∀ l ∈ s.logins[i]?, l.accepts env userId = false
  | _ => True

instance (env : AuthEnv) (userId : Uuid) (s : AuthService) : DecidablePred (NoSignIn env userId s)
  | .loginStep i _ => inferInstanceAs (Decidable (∀ l ∈ s.logins[i]?, l.accepts env userId = false))
  | .advance _ | .register .. | .login .. | .loginLost _ | .refresh _ | .refreshStep .. |
    .refreshLost _ | .logout .. | .logoutStep _ | .logoutLost _ =>
      inferInstanceAs (Decidable True)

theorem loginStep_passed {env : AuthEnv} {clock : Nat} {d : TokenDraw} {l : Login} {db : AuthDb}
    {user : UserRow} (h : (loginStep env clock d l db).1.stage.passed = some user) :
    l.stage.passed = some user ∨ l.accepts env user.id = true := by
  obtain ⟨email, password, stage⟩ := l
  unfold loginStep at h
  cases stage with
  | started =>
    dsimp only at h
    split at h
    · simp at h
    · simp at h
  | found u =>
    dsimp only at h
    split at h
    · rename_i hpassword
      cases h
      right
      simpa [Login.accepts] using hpassword
    · simp at h
  | verified u expiresAt =>
    dsimp only at h
    split at h
    · exact .inl h
    · simp at h
  | issued u raw => simp at h
  | done response => simp at h

/-- No login has passed its check of the password of this user. -/
def NoneVerified (userId : Uuid) (logins : List Login) : Prop :=
  ∀ l ∈ logins, ∀ user ∈ l.stage.passed, user.id ≠ userId

theorem NoneVerified.step {env : AuthEnv} {userId : Uuid} {s : AuthService}
    (h : NoneVerified userId s.logins) {a : AuthAction} (hno : NoSignIn env userId s a) :
    NoneVerified userId (authStep env s a).logins := by
  refine forall_logins_step (fun l => ∀ user ∈ l.stage.passed, user.id ≠ userId) h ?_ ?_ ?_
  · intro l hl
    exact hl
  · intro email password user huser
    simp at huser
  · rintro i d l rfl hget hl user huser
    rcases loginStep_passed huser with hpassed | haccepts
    · exact hl user hpassed
    · rintro rfl
      rw [hno l hget] at haccepts
      simp at haccepts

/-- If no login and no rotation of the user is under way, the rows of the user after an action
    are those before, if not revoked again. -/
theorem TokenEffect.origin {userId : Uuid} {env : AuthEnv} {s : AuthService} {a : AuthAction}
    {tokens : List RefreshTokenRow} {issued : List Uuid}
    (heffect : TokenEffect env s a tokens issued) (hwf : s.WellFormed)
    (hlogins : NoneVerified userId s.logins)
    (hrotating : ∀ r ∈ s.refreshes, ∀ row user expiresAt graceUntil,
      r.stage = .rotating row user expiresAt graceUntil → row.userId ≠ userId)
    {t' : RefreshTokenRow} (ht' : t' ∈ tokens) (huser : t'.userId = userId) :
    ∃ t ∈ s.db.refreshTokens, t.userId = userId ∧ (t' = t ∨ t' = t.revoke s.clock) := by
  cases heffect with
  | nothing => exact ⟨t', ht', huser, .inl rfl⟩
  | issued i d email password user expiresAt hget hviol =>
    rcases List.mem_append.mp ht' with ht' | ht'
    · exact ⟨t', ht', huser, .inl rfl⟩
    · rw [List.mem_singleton.mp ht'] at huser
      exact absurd huser (hlogins _ (List.mem_of_getElem? hget) user rfl)
  | rotated i d cookie row current user expiresAt graceUntil hget hrow hmem hid hviol =>
    have hr := List.mem_of_getElem? hget
    have hother : current.userId ≠ userId := by
      obtain ⟨t, ht, hbecomes⟩ := hwf.refreshes _ hr row rfl
      have hsame : t = current :=
        hwf.tokenIds.eq_of_mem ht hmem (hbecomes.id.trans hid.symm)
      rw [← hsame, hbecomes.userId]
      exact hrotating _ hr row user expiresAt graceUntil rfl
    rcases (mem_rotated hwf.tokenIds hmem (tokenViolation_eq_none hviol).1).mp ht' with
      rfl | ⟨ht, -⟩ | rfl
    · exact absurd huser hother
    · exact ⟨t', ht, huser, .inl rfl⟩
    · exact absurd huser hother
  | revoked a p =>
    rcases mem_update.mp ht' with ⟨t, ht, -, rfl⟩ | ⟨ht, -⟩
    · exact ⟨t, ht, huser, .inr rfl⟩
    · exact ⟨t', ht, huser, .inl rfl⟩

/-! ### Signed out -/

/-- No request of the user can be answered with an access token. -/
structure SignedOut (userId : Uuid) (s : AuthService) : Prop where
  tokens : ∀ t ∈ s.db.refreshTokens, t.userId = userId → t.usable s.clock = false
  refreshes : ∀ r ∈ s.refreshes, ∀ row ∈ r.stage.live s.clock, row.userId ≠ userId
  logins : NoneVerified userId s.logins

/-- A rotation under way could be answered, so it is not one of the user. -/
theorem SignedOut.not_rotating {userId : Uuid} {s : AuthService} (h : SignedOut userId s) :
    ∀ r ∈ s.refreshes, ∀ row user expiresAt graceUntil,
      r.stage = .rotating row user expiresAt graceUntil → row.userId ≠ userId := by
  intro r hr row user expiresAt graceUntil hstage
  exact h.refreshes r hr row (by rw [hstage]; rfl)

theorem SignedOut.step {userId : Uuid} {env : AuthEnv} {s : AuthService}
    (h : SignedOut userId s) (hwf : s.WellFormed) {a : AuthAction}
    (hno : NoSignIn env userId s a) : SignedOut userId (authStep env s a) := by
  have hclock := clock_le_step env s a
  refine ⟨?_, ?_, h.logins.step hno⟩
  · intro t' ht' huser
    obtain ⟨t, ht, htuser, hsame⟩ :=
      (authStep_effect env s a).origin hwf h.logins h.not_rotating ht' huser
    rw [Bool.eq_false_iff]
    intro husable
    have hbefore : t.usable s.clock = true := by
      rcases hsame with rfl | rfl
      · exact RefreshTokenRow.usable_of_le hclock husable
      · exact RefreshTokenRow.usable_of_le hclock (RefreshTokenRow.usable_of_revoke husable)
    rw [h.tokens t ht htuser] at hbefore
    simp at hbefore
  · refine forall_refreshes_step
      (fun r => ∀ row ∈ r.stage.live (authStep env s a).clock, row.userId ≠ userId)
      h.refreshes ?_ ?_ ?_
    · intro r hr row hlive
      exact hr row (RefreshStage.live_of_le hclock hlive)
    · intro cookie _ row hlive
      simp at hlive
    · intro i d r _ _ hr row hlive huser
      rcases refreshStep_live (RefreshStage.live_of_le hclock hlive) with hlive | ⟨hmem, husable⟩
      · exact hr row hlive huser
      · rw [h.tokens row hmem huser] at husable
        simp at husable

/-- **Nothing is signed for a user who is signed out.** -/
theorem SignedOut.not_signed {env : AuthEnv} {userId : Uuid} {s : AuthService}
    (h : SignedOut userId s) (hsnapshots : Snapshots env s) {a : AuthAction} {g : Signing}
    (hg : g ∈ signings s a) : g.token.sub ≠ userId := by
  obtain ⟨-, ⟨email, password, user, raw, hmem, rfl⟩ |
    ⟨cookie, row, user, newCookie, hmem, rfl⟩⟩ := mem_signings hg
  · exact h.logins _ hmem user rfl
  · obtain ⟨-, howner⟩ := hsnapshots.owners _ hmem
    have hother := h.refreshes _ hmem row rfl
    rwa [← howner] at hother

/-! ### Fading out -/

/-- The token is revoked, and not answered after `limit`. -/
def RefreshTokenRow.EndedBy (limit : Nat) (t : RefreshTokenRow) : Prop :=
  t.revokedAt.isSome = true ∧ ∀ g ∈ t.graceUntil, g ≤ limit

/-- The refresh may insert a token. -/
def RefreshStage.rotates : RefreshStage → Bool
  | .active _ | .rotating .. => true
  | _ => false

/-- What is left of the sessions of the user ends by `limit`. -/
structure FadingOut (userId : Uuid) (limit : Nat) (s : AuthService) : Prop where
  tokens : ∀ t ∈ s.db.refreshTokens, t.userId = userId → t.EndedBy limit
  refreshes : ∀ r ∈ s.refreshes, ∀ row ∈ r.stage.live s.clock, row.userId = userId →
    row.EndedBy limit ∧ r.stage.rotates = false
  logins : NoneVerified userId s.logins

theorem RefreshTokenRow.EndedBy.not_usable {limit now : Nat} {t : RefreshTokenRow}
    (h : t.EndedBy limit) (hlt : limit < now) : t.usable now = false := by
  rw [Bool.eq_false_iff]
  intro husable
  obtain ⟨-, hgrace⟩ := RefreshTokenRow.inGrace_of_usable h.1 husable
  simp only [RefreshTokenRow.inGrace, Option.any_eq_true, decide_eq_true_eq] at hgrace
  obtain ⟨g, hg, hle⟩ := hgrace
  have hbound := h.2 g hg
  omega

theorem RefreshStage.live_of_rotates {stage : RefreshStage} (h : stage.rotates = true)
    {row : RefreshTokenRow} (hrow : stage.row = some row) {now : Nat} :
    stage.live now = some row := by
  cases stage with
  | active row' => exact hrow
  | rotating row' user expiresAt graceUntil => exact hrow
  | _ => simp [RefreshStage.rotates] at h

/-- A refresh only gets to rotate a row that was not revoked when it was read. -/
theorem refreshStep_rotates {env : AuthEnv} {clock : Nat} {d : TokenDraw} {r : Refresh}
    {db : AuthDb} (h : (refreshStep env clock d r db).1.stage.rotates = true) :
    r.stage.rotates = true ∨ ∃ row, r.stage = .found row ∧ row.revokedAt = none := by
  have hnext := refreshStep_next env clock d r db
  generalize (refreshStep env clock d r db).1.stage = after at h hnext
  generalize r.stage = before at hnext ⊢
  cases hnext with
  | ended before response => cases h
  | found row hmem => cases h
  | active row hactive => exact .inr ⟨row, rfl, hactive⟩
  | grace row => cases h
  | reused row => cases h
  | rotating row user hmem => exact .inl rfl
  | rotated row user expiresAt graceUntil => exact .inl rfl
  | inGrace row user hmem => cases h

theorem FadingOut.not_rotating {userId : Uuid} {limit : Nat} {s : AuthService}
    (h : FadingOut userId limit s) :
    ∀ r ∈ s.refreshes, ∀ row user expiresAt graceUntil,
      r.stage = .rotating row user expiresAt graceUntil → row.userId ≠ userId := by
  intro r hr row user expiresAt graceUntil hstage huser
  have hrotates := (h.refreshes r hr row (by rw [hstage]; rfl) huser).2
  rw [hstage] at hrotates
  cases hrotates

theorem FadingOut.step {userId : Uuid} {limit : Nat} {env : AuthEnv} {s : AuthService}
    (h : FadingOut userId limit s) (hwf : s.WellFormed) {a : AuthAction}
    (hno : NoSignIn env userId s a) : FadingOut userId limit (authStep env s a) := by
  have hclock := clock_le_step env s a
  refine ⟨?_, ?_, h.logins.step hno⟩
  · intro t' ht' huser
    obtain ⟨t, ht, htuser, rfl | rfl⟩ :=
      (authStep_effect env s a).origin hwf h.logins h.not_rotating ht' huser
    · exact h.tokens t' ht huser
    · exact ⟨rfl, (h.tokens t ht htuser).2⟩
  · refine forall_refreshes_step
      (fun r => ∀ row ∈ r.stage.live (authStep env s a).clock, row.userId = userId →
        row.EndedBy limit ∧ r.stage.rotates = false) h.refreshes ?_ ?_ ?_
    · intro r hr row hlive huser
      exact hr row (RefreshStage.live_of_le hclock hlive) huser
    · intro cookie _ row hlive
      simp at hlive
    · intro i d r _ _ hr row hlive huser
      have hnow := RefreshStage.live_of_le hclock hlive
      have hended : row.EndedBy limit := by
        rcases refreshStep_live hnow with hlive | ⟨hmem, -⟩
        · exact (hr row hlive huser).1
        · exact h.tokens row hmem huser
      refine ⟨hended, ?_⟩
      rw [Bool.eq_false_iff]
      intro hrotates
      rcases refreshStep_row (RefreshStage.row_of_live hnow) with hrow | ⟨hstarted, -⟩
      · rcases refreshStep_rotates hrotates with hbefore | ⟨row', hstage, hactive⟩
        · rw [(hr row (RefreshStage.live_of_rotates hbefore hrow) huser).2] at hbefore
          simp at hbefore
        · -- The row it decided on is this one, and this one is revoked.
          rw [hstage] at hrow
          cases hrow
          have hrevoked := hended.1
          rw [hactive] at hrevoked
          simp at hrevoked
      · rcases refreshStep_rotates hrotates with hbefore | ⟨row', hstage, -⟩
        · rw [hstarted] at hbefore
          simp [RefreshStage.rotates] at hbefore
        · rw [hstarted] at hstage
          cases hstage

/-- After the limit, once the refreshes it let through are answered, the user is signed out. -/
theorem FadingOut.signedOut {userId : Uuid} {limit : Nat} {s : AuthService}
    (h : FadingOut userId limit s) (hlimit : limit < s.clock)
    (hdone : ∀ r ∈ s.refreshes, ∀ row ∈ r.stage.live s.clock, row.userId ≠ userId) :
    SignedOut userId s :=
  ⟨fun t ht huser => (h.tokens t ht huser).not_usable hlimit, hdone, h.logins⟩

/-! ### Grace windows -/

/-- No grace window is longer than `RT_GRACE_SECONDS` from now. -/
structure GraceBounded (env : AuthEnv) (s : AuthService) : Prop where
  tokens : ∀ t ∈ s.db.refreshTokens, ∀ g ∈ t.graceUntil, g ≤ s.clock + env.rtGraceSeconds * 1000
  refreshes : ∀ r ∈ s.refreshes, ∀ row user expiresAt graceUntil,
    r.stage = .rotating row user expiresAt graceUntil →
      graceUntil ≤ s.clock + env.rtGraceSeconds * 1000

theorem refreshStep_rotating {env : AuthEnv} {clock : Nat} {d : TokenDraw} {r : Refresh}
    {db : AuthDb} {row : RefreshTokenRow} {user : UserRow} {expiresAt graceUntil : Nat}
    (h : (refreshStep env clock d r db).1.stage = .rotating row user expiresAt graceUntil) :
    graceUntil = clock + env.rtGraceSeconds * 1000 := by
  have hnext := refreshStep_next env clock d r db
  rw [h] at hnext
  generalize r.stage = before at hnext
  cases hnext
  rfl

/-- A grace window that is there after an action was there before, or a rotation brought it. -/
theorem TokenEffect.grace {env : AuthEnv} {s : AuthService} {a : AuthAction}
    {tokens : List RefreshTokenRow} {issued : List Uuid}
    (heffect : TokenEffect env s a tokens issued) {t' : RefreshTokenRow} (ht' : t' ∈ tokens)
    {g : Nat} (hg : g ∈ t'.graceUntil) :
    (∃ t ∈ s.db.refreshTokens, g ∈ t.graceUntil) ∨
      ∃ r ∈ s.refreshes, ∃ row user expiresAt, r.stage = .rotating row user expiresAt g := by
  cases heffect with
  | nothing => exact .inl ⟨t', ht', hg⟩
  | issued i d email password user expiresAt hget hviol =>
    rcases List.mem_append.mp ht' with ht' | ht'
    · exact .inl ⟨t', ht', hg⟩
    · rw [List.mem_singleton.mp ht'] at hg
      simp [newToken] at hg
  | rotated i d cookie row current user expiresAt graceUntil hget hrow hmem hid hviol =>
    rcases mem_update.mp ht' with ⟨t, -, -, rfl⟩ | ⟨ht', -⟩
    · obtain rfl : graceUntil = g := Option.some.inj hg
      exact .inr ⟨_, List.mem_of_getElem? hget, row, user, expiresAt, rfl⟩
    · rcases List.mem_append.mp ht' with ht' | ht'
      · exact .inl ⟨t', ht', hg⟩
      · rw [List.mem_singleton.mp ht'] at hg
        simp [newToken] at hg
  | revoked a p =>
    rcases mem_update.mp ht' with ⟨t, ht, -, rfl⟩ | ⟨ht, -⟩
    · exact .inl ⟨t, ht, hg⟩
    · exact .inl ⟨t', ht, hg⟩

theorem GraceBounded.step {env : AuthEnv} {s : AuthService} (h : GraceBounded env s)
    (a : AuthAction) : GraceBounded env (authStep env s a) := by
  have hclock := clock_le_step env s a
  constructor
  · intro t' ht' g hg
    rcases (authStep_effect env s a).grace ht' hg with
      ⟨t, ht, hg⟩ | ⟨r, hr, row, user, expiresAt, hstage⟩
    · have hbound := h.tokens t ht g hg
      omega
    · have hbound := h.refreshes r hr row user expiresAt g hstage
      omega
  · refine forall_refreshes_step
      (fun r => ∀ row user expiresAt graceUntil,
        r.stage = .rotating row user expiresAt graceUntil →
          graceUntil ≤ (authStep env s a).clock + env.rtGraceSeconds * 1000)
      h.refreshes ?_ ?_ ?_
    · intro r hr row user expiresAt graceUntil hstage
      have hbound := hr row user expiresAt graceUntil hstage
      omega
    · intro cookie _ row user expiresAt graceUntil hstage
      cases hstage
    · intro i d r _ _ _ row user expiresAt graceUntil hstage
      rw [refreshStep_rotating hstage]
      omega

theorem AuthService.Seeded.graceBounded {s : AuthService} (h : s.Seeded) (env : AuthEnv) :
    GraceBounded env s := by
  constructor
  · simp [h.refreshTokens]
  · simp [h.refreshes]

/-! ### Logout-all -/

/-- No request of the user is between its check and its answer. -/
structure NoneUnderWay (userId : Uuid) (s : AuthService) : Prop where
  refreshes : ∀ r ∈ s.refreshes, ∀ row ∈ r.stage.live s.clock, row.userId ≠ userId
  logins : NoneVerified userId s.logins

instance (userId : Uuid) (s : AuthService) : Decidable (NoneUnderWay userId s) :=
  decidable_of_iff
    ((∀ r ∈ s.refreshes, ∀ row ∈ r.stage.live s.clock, row.userId ≠ userId) ∧
      ∀ l ∈ s.logins, ∀ user ∈ l.stage.passed, user.id ≠ userId)
    ⟨fun h => ⟨h.1, h.2⟩, fun h => ⟨h.refreshes, h.logins⟩⟩

/-- The revocation of a logout-all, with no request of the user under way, leaves nothing that
    outlasts the grace windows. -/
theorem NoneUnderWay.fadingOut {userId : Uuid} {env : AuthEnv} {s : AuthService}
    (h : NoneUnderWay userId s) (hgrace : GraceBounded env s) {a : AuthAction}
    (hrev : revocationOf s a = some (.ofUser userId)) :
    FadingOut userId (s.clock + env.rtGraceSeconds * 1000) (authStep env s a) := by
  obtain ⟨htokens, hclock, hrefreshes⟩ := step_of_revocation env hrev
  refine ⟨?_, ?_, ?_⟩
  · intro t' ht' huser
    rw [htokens] at ht'
    rcases mem_update.mp ht' with ⟨t, ht, -, rfl⟩ | ⟨ht, hkept⟩
    · exact ⟨rfl, hgrace.tokens t ht⟩
    · refine ⟨?_, hgrace.tokens t' ht⟩
      simp only [Revocation.covers, huser, beq_self_eq_true, Bool.true_and] at hkept
      simpa [Option.isSome_iff_ne_none] using hkept
  · intro r hr row hlive huser
    rw [hclock] at hlive
    rcases hrefreshes r hr with hr | hdone
    · exact absurd huser (h.refreshes r hr row hlive)
    · rw [hdone] at hlive
      cases hlive
  · -- The step is one of a logout.
    unfold revocationOf at hrev
    split at hrev
    · simp only [authStep]
      split
      · exact h.logins
      · exact h.logins
    · split at hrev
      · simp at hrev
      · cases hrev
    · cases hrev

end SeatReservation
