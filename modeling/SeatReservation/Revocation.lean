import SeatReservation.SessionInvariants

/-!
# Ending sessions

A family of tokens is dead when no refresh with one of its tokens can be
answered with an access token any more: none of its rows is usable, and no
request that has passed its checks is under way.  A dead family stays dead
(`Dead.step`).  The three endpoints that end sessions only revoke rows, so they
make a family dead when revoking is enough: when no token of it is in its grace
window and no refresh of it is under way.  Logout revokes one row, and so it
also needs the other rows of the family to be unusable already.
-/

namespace SeatReservation

open Relational TransitionSystem

/-! ### Refreshes that may be answered -/

/-- The row passes the checks of `refresh`. -/
def RefreshTokenRow.usable (now : Nat) (t : RefreshTokenRow) : Bool :=
  !t.expired now && (t.revokedAt.isNone || t.inGrace now)

/-- The row of a refresh that may still be answered with an access token. -/
@[simp] def RefreshStage.live (now : Nat) : RefreshStage → Option RefreshTokenRow
  | .found row => if row.usable now then some row else none
  | .active row | .rotating row .. | .grace row | .accepted row .. => some row
  | .started | .reused _ | .done _ => none

/-- The row of the token that an action answers with an access token. -/
def answered (s : AuthService) : AuthAction → Option RefreshTokenRow
  | .refreshStep i _ =>
      match s.refreshes[i]? with
      | some ⟨_, .accepted row ..⟩ => some row
      | _ => none
  | _ => none

@[simp] theorem RefreshTokenRow.expired_revoke (now clock : Nat) (t : RefreshTokenRow) :
    (t.revoke clock).expired now = t.expired now := rfl

@[simp] theorem RefreshTokenRow.inGrace_revoke (now clock : Nat) (t : RefreshTokenRow) :
    (t.revoke clock).inGrace now = t.inGrace now := rfl

theorem RefreshTokenRow.usable_of_le {now now' : Nat} (hle : now ≤ now') {t : RefreshTokenRow}
    (h : t.usable now' = true) : t.usable now = true := by
  simp only [RefreshTokenRow.usable, RefreshTokenRow.expired, RefreshTokenRow.inGrace,
    Bool.and_eq_true, Bool.not_eq_true', decide_eq_false_iff_not, Bool.or_eq_true,
    Option.any_eq_true, decide_eq_true_eq] at h ⊢
  obtain ⟨hexpiry, hactive | ⟨g, hg, hgrace⟩⟩ := h
  · exact ⟨by omega, .inl hactive⟩
  · exact ⟨by omega, .inr ⟨g, hg, by omega⟩⟩

/-- A revoked row is usable in its grace window only. -/
theorem RefreshTokenRow.inGrace_of_usable {now : Nat} {t : RefreshTokenRow}
    (hrevoked : t.revokedAt.isSome = true) (h : t.usable now = true) :
    t.expired now = false ∧ t.inGrace now = true := by
  obtain ⟨time, htime⟩ := Option.isSome_iff_exists.mp hrevoked
  simpa [RefreshTokenRow.usable, htime] using h

theorem RefreshTokenRow.usable_of_inGrace {now : Nat} {t : RefreshTokenRow}
    (hexpiry : t.expired now = false) (hgrace : t.inGrace now = true) : t.usable now = true := by
  simp [RefreshTokenRow.usable, hexpiry, hgrace]

/-- Revoking a row does not make it usable. -/
theorem RefreshTokenRow.usable_of_revoke {now clock : Nat} {t : RefreshTokenRow}
    (h : (t.revoke clock).usable now = true) : t.usable now = true := by
  obtain ⟨hexpiry, hgrace⟩ := RefreshTokenRow.inGrace_of_usable rfl h
  rw [RefreshTokenRow.expired_revoke] at hexpiry
  rw [RefreshTokenRow.inGrace_revoke] at hgrace
  exact RefreshTokenRow.usable_of_inGrace hexpiry hgrace

theorem RefreshStage.live_of_le {now now' : Nat} (hle : now ≤ now') {stage : RefreshStage}
    {row : RefreshTokenRow} (h : stage.live now' = some row) : stage.live now = some row := by
  cases stage with
  | found row' =>
    simp only [RefreshStage.live] at h ⊢
    by_cases husable : row'.usable now' = true
    · rw [if_pos husable] at h
      rw [if_pos (RefreshTokenRow.usable_of_le hle husable), h]
    · rw [if_neg husable] at h
      simp at h
  | started => simp at h
  | active row' => exact h
  | rotating row' user expiresAt graceUntil => exact h
  | grace row' => exact h
  | accepted row' user cookie => exact h
  | reused row' => simp at h
  | done response => simp at h

theorem RefreshStage.row_of_live {now : Nat} {stage : RefreshStage} {row : RefreshTokenRow}
    (h : stage.live now = some row) : stage.row = some row := by
  cases stage with
  | found row' =>
    simp only [RefreshStage.live] at h
    split at h
    · exact h
    · simp at h
  | started => simp at h
  | active row' => exact h
  | rotating row' user expiresAt graceUntil => exact h
  | grace row' => exact h
  | accepted row' user cookie => exact h
  | reused row' => simp at h
  | done response => simp at h

/-- The decision of the handler lets a row through only if it is usable. -/
theorem branch_live {now now' : Nat} {row row' : RefreshTokenRow}
    (h : (branch now row).live now' = some row') : row' = row ∧ row.usable now = true := by
  unfold branch at h
  by_cases hexpiry : row.expired now = true
  · simp [hexpiry, RefreshStage.live] at h
  · by_cases hactive : row.revokedAt.isNone = true
    · rw [if_neg hexpiry, if_pos hactive] at h
      exact ⟨(Option.some.inj h).symm, by simp [RefreshTokenRow.usable, hexpiry, hactive]⟩
    · by_cases hgrace : row.inGrace now = true
      · rw [if_neg hexpiry, if_neg hactive, if_pos hgrace] at h
        exact ⟨(Option.some.inj h).symm,
          RefreshTokenRow.usable_of_inGrace (by simpa using hexpiry) hgrace⟩
      · simp [hexpiry, hactive, hgrace, RefreshStage.live] at h

/-- A refresh that may be answered after its step could be before, or has just read a
    usable row. -/
theorem refreshStep_live {env : AuthEnv} {clock : Nat} {d : TokenDraw} {r : Refresh} {db : AuthDb}
    {row : RefreshTokenRow} (h : (refreshStep env clock d r db).1.stage.live clock = some row) :
    r.stage.live clock = some row ∨ (row ∈ db.refreshTokens ∧ row.usable clock = true) := by
  rcases refreshStep_row (RefreshStage.row_of_live h) with hrow | ⟨hstarted, hmem⟩
  · left
    obtain ⟨cookie, stage⟩ := r
    cases stage with
    | found row' =>
      obtain ⟨rfl, husable⟩ := branch_live h
      exact if_pos husable
    | started => simp at hrow
    | active row' => exact hrow
    | rotating row' user expiresAt graceUntil => exact hrow
    | grace row' => exact hrow
    | accepted row' user cookie => exact hrow
    | reused row' => cases h
    | done response => simp at hrow
  · right
    refine ⟨hmem, ?_⟩
    unfold refreshStep at h
    rw [hstarted] at h
    dsimp only at h
    split at h
    · simp at h
    · split at h
      · simp at h
      · simp only [RefreshStage.live] at h
        split at h
        · rename_i husable
          rw [← Option.some.inj h]
          exact husable
        · simp at h

theorem live_of_answered {s : AuthService} {a : AuthAction} {row : RefreshTokenRow}
    (h : answered s a = some row) : ∃ r ∈ s.refreshes, r.stage.live s.clock = some row := by
  unfold answered at h
  split at h
  · split at h
    · rename_i hget
      exact ⟨_, List.mem_of_getElem? hget, h⟩
    · simp at h
  · simp at h

/-! ### Dead families -/

/-- No refresh with a token of the family can be answered with an access token. -/
structure Dead (family : Uuid) (s : AuthService) : Prop where
  known : ∃ t ∈ s.db.refreshTokens, t.familyId = family
  tokens : ∀ t ∈ s.db.refreshTokens, t.familyId = family → t.usable s.clock = false
  refreshes : ∀ r ∈ s.refreshes, ∀ row, r.stage.live s.clock = some row → row.familyId ≠ family

theorem Dead.not_answered {family : Uuid} {s : AuthService} (h : Dead family s) {a : AuthAction}
    {row : RefreshTokenRow} (ha : answered s a = some row) : row.familyId ≠ family := by
  obtain ⟨r, hr, hlive⟩ := live_of_answered ha
  exact h.refreshes r hr row hlive

/-- The rows of a dead family after an action are its rows before, if not revoked again. -/
theorem Dead.origin {family : Uuid} {env : AuthEnv} {s : AuthService} (h : Dead family s)
    (hwf : s.WellFormed) {a : AuthAction} (hfresh : DrawsFreshFamily s a)
    {tokens : List RefreshTokenRow} {issued : List Uuid}
    (heffect : TokenEffect env s a tokens issued) {t' : RefreshTokenRow} (ht' : t' ∈ tokens)
    (hfamily : t'.familyId = family) :
    ∃ t ∈ s.db.refreshTokens, t.familyId = family ∧ (t' = t ∨ t' = t.revoke s.clock) := by
  cases heffect with
  | nothing => exact ⟨t', ht', hfamily, .inl rfl⟩
  | issued i d email password user expiresAt hget hviol =>
    rcases List.mem_append.mp ht' with ht' | ht'
    · exact ⟨t', ht', hfamily, .inl rfl⟩
    · obtain ⟨t, ht, htfamily⟩ := h.known
      rw [List.mem_singleton.mp ht'] at hfamily
      exact absurd (htfamily.trans hfamily.symm) (hfresh _ hget rfl t ht)
  | rotated i d cookie row current user expiresAt graceUntil hget hrow hmem hid hviol =>
    -- A rotation under way could be answered, so it is not one of the family.
    have hother : current.familyId ≠ family := by
      have hr := List.mem_of_getElem? hget
      obtain ⟨t, ht, hbecomes⟩ := hwf.refreshes _ hr row rfl
      have hsame : t = current :=
        hwf.tokenIds.eq_of_mem ht hmem (hbecomes.id.trans hid.symm)
      rw [← hsame, hbecomes.familyId]
      exact h.refreshes _ hr row rfl
    rcases (mem_rotated hwf.tokenIds hmem (tokenViolation_eq_none hviol).1).mp ht' with
      rfl | ⟨ht, -⟩ | rfl
    · exact absurd hfamily hother
    · exact ⟨t', ht, hfamily, .inl rfl⟩
    · exact absurd hfamily hother
  | revoked a p =>
    rcases mem_update.mp ht' with ⟨t, ht, -, rfl⟩ | ⟨ht, -⟩
    · exact ⟨t, ht, hfamily, .inr rfl⟩
    · exact ⟨t', ht, hfamily, .inl rfl⟩

theorem Dead.step {family : Uuid} {env : AuthEnv} {s : AuthService} (h : Dead family s)
    (hwf : s.WellFormed) {a : AuthAction} (hfresh : DrawsFreshFamily s a) :
    Dead family (authStep env s a) := by
  have hclock := clock_le_step env s a
  have heffect := authStep_effect env s a
  constructor
  · obtain ⟨t, ht, hfamily⟩ := h.known
    obtain ⟨t', ht', hbecomes⟩ := heffect.becomes ht
    exact ⟨t', ht', hbecomes.familyId.trans hfamily⟩
  · intro t' ht' hfamily
    obtain ⟨t, ht, htfamily, hsame⟩ := h.origin hwf hfresh heffect ht' hfamily
    rw [Bool.eq_false_iff]
    intro husable
    have husable : t.usable s.clock = true := by
      rcases hsame with rfl | rfl
      · exact RefreshTokenRow.usable_of_le hclock husable
      · exact RefreshTokenRow.usable_of_le hclock (RefreshTokenRow.usable_of_revoke husable)
    rw [h.tokens t ht htfamily] at husable
    simp at husable
  · refine forall_refreshes_step
      (fun r => ∀ row, r.stage.live (authStep env s a).clock = some row → row.familyId ≠ family)
      h.refreshes ?_ ?_ ?_
    · intro r hr row hlive
      exact hr row (RefreshStage.live_of_le hclock hlive)
    · intro cookie _ row hlive
      simp at hlive
    · intro i d r _ _ hr row hlive hfamily
      rcases refreshStep_live (RefreshStage.live_of_le hclock hlive) with hlive | ⟨hmem, husable⟩
      · exact hr row hlive hfamily
      · rw [h.tokens row hmem hfamily] at husable
        simp at husable

/-- A dead family all of whose tokens are revoked. -/
structure Sealed (family : Uuid) (s : AuthService) : Prop where
  wellFormed : s.WellFormed
  dead : Dead family s
  revoked : ∀ t ∈ s.db.refreshTokens, t.familyId = family → t.revokedAt.isSome = true

theorem Sealed.step {family : Uuid} {env : AuthEnv} {s : AuthService} (h : Sealed family s)
    {a : AuthAction} (hfresh : DrawsFreshFamily s a) : Sealed family (authStep env s a) := by
  refine ⟨h.wellFormed.step a, h.dead.step h.wellFormed hfresh, ?_⟩
  intro t' ht' hfamily
  obtain ⟨t, ht, htfamily, hsame⟩ :=
    h.dead.origin h.wellFormed hfresh (authStep_effect env s a) ht' hfamily
  rcases hsame with rfl | rfl
  · exact h.revoked t' ht htfamily
  · rfl

/-- From a state with a dead family on, no token of the family is answered. -/
theorem Dead.exec {family : Uuid} {env : AuthEnv} {s : AuthService} (h : Dead family s)
    (hwf : s.WellFormed) {as : List AuthAction}
    (hfresh : Along (authStep env) DrawsFreshFamily s as) :
    Dead family (exec (authStep env) s as) := by
  have hboth := exec_invariant (fun s : AuthService => s.WellFormed ∧ Dead family s)
    (fun s a h hfresh => ⟨h.1.step a, h.2.step h.1 hfresh⟩) ⟨hwf, h⟩ hfresh
  exact hboth.2

theorem Sealed.exec {family : Uuid} {env : AuthEnv} {s : AuthService} (h : Sealed family s)
    {as : List AuthAction} (hfresh : Along (authStep env) DrawsFreshFamily s as) :
    Sealed family (exec (authStep env) s as) :=
  exec_invariant (Sealed family) (fun _ _ h hfresh => h.step hfresh) h hfresh

/-! ### Logout-all and reuse detection -/

/-- What `revokeAllForUser` and `revokeFamily` revoke. -/
inductive Revocation where
  | ofUser (userId : Uuid)
  | ofFamily (familyId : Uuid)
deriving DecidableEq, Repr

def Revocation.covers : Revocation → RefreshTokenRow → Bool
  | .ofUser userId, t => t.userId == userId
  | .ofFamily familyId, t => t.familyId == familyId

/-- The revocation an action commits. -/
def revocationOf (s : AuthService) : AuthAction → Option Revocation
  | .logoutStep i =>
      match s.logouts[i]? with
      | some ⟨_, true, .found row⟩ => some (.ofUser row.userId)
      | _ => none
  | .refreshStep i _ =>
      match s.refreshes[i]? with
      | some ⟨_, .reused row⟩ => some (.ofFamily row.familyId)
      | _ => none
  | _ => none

/-- What a revocation does, and what it leaves alone. -/
theorem step_of_revocation (env : AuthEnv) {s : AuthService} {a : AuthAction} {rev : Revocation}
    (h : revocationOf s a = some rev) :
    (authStep env s a).db.refreshTokens =
        update (fun t => rev.covers t && t.revokedAt.isNone) (RefreshTokenRow.revoke s.clock)
          s.db.refreshTokens ∧
      (authStep env s a).clock = s.clock ∧
      ∀ r ∈ (authStep env s a).refreshes, r ∈ s.refreshes ∨ r.stage.live s.clock = none := by
  unfold revocationOf at h
  split at h
  · split at h
    · rename_i hget
      rw [← Option.some.inj h]
      simp only [authStep, hget, logoutStep]
      exact ⟨rfl, trivial, fun r hr => .inl hr⟩
    · simp at h
  · split at h
    · rename_i hget
      rw [← Option.some.inj h]
      simp only [authStep, hget, refreshStep]
      refine ⟨rfl, trivial, ?_⟩
      intro r hr
      rcases List.mem_or_eq_of_mem_set hr with hr | rfl
      · exact .inl hr
      · exact .inr rfl
    · simp at h
  · simp at h

/-- No token to be revoked is in its grace window, and no refresh with one is under way. -/
structure Quiet (rev : Revocation) (s : AuthService) : Prop where
  noGrace : ∀ t ∈ s.db.refreshTokens, rev.covers t = true → t.expired s.clock = false →
    t.inGrace s.clock = false
  noRefresh : ∀ r ∈ s.refreshes, ∀ row ∈ r.stage.live s.clock, rev.covers row = false

/-- A revocation covers whole families. -/
theorem Revocation.covers_family {s : AuthService} (husers : FamiliesOfOneUser s.db.refreshTokens)
    {rev : Revocation} {t t' : RefreshTokenRow} (ht : t ∈ s.db.refreshTokens)
    (ht' : t' ∈ s.db.refreshTokens) (hfamily : t'.familyId = t.familyId)
    (hcovers : rev.covers t = true) : rev.covers t' = true := by
  cases rev with
  | ofUser userId =>
    simp only [Revocation.covers, beq_iff_eq] at hcovers ⊢
    rw [husers t' ht' t ht hfamily, hcovers]
  | ofFamily familyId =>
    simp only [Revocation.covers, beq_iff_eq] at hcovers ⊢
    rw [hfamily, hcovers]

theorem Revocation.covers_of_becomes {rev : Revocation} {t t' : RefreshTokenRow}
    (h : t.Becomes t') (hcovers : rev.covers t' = true) : rev.covers t = true := by
  cases rev with
  | ofUser userId =>
    simp only [Revocation.covers, beq_iff_eq] at hcovers ⊢
    rw [← h.userId, hcovers]
  | ofFamily familyId =>
    simp only [Revocation.covers, beq_iff_eq] at hcovers ⊢
    rw [← h.familyId, hcovers]

/-- In a quiet state the revocation seals every family it covers. -/
theorem Quiet.sealed {s : AuthService} {a : AuthAction} {rev : Revocation}
    (h : Quiet rev s) (env : AuthEnv) (hwf : s.WellFormed)
    (husers : FamiliesOfOneUser s.db.refreshTokens)
    (hrev : revocationOf s a = some rev) {t : RefreshTokenRow} (ht : t ∈ s.db.refreshTokens)
    (hcovers : rev.covers t = true) : Sealed t.familyId (authStep env s a) := by
  obtain ⟨htokens, hclock, hrefreshes⟩ := step_of_revocation env hrev
  -- The rows of the family are revoked, and were not in their grace window.
  have hrows : ∀ t' ∈ (authStep env s a).db.refreshTokens, t'.familyId = t.familyId →
      t'.revokedAt.isSome = true ∧ t'.usable s.clock = false := by
    intro t' ht' hfamily
    rw [htokens] at ht'
    obtain ⟨u, hu, rfl⟩ := mem_update_iff_exists.mp ht'
    have hufamily : u.familyId = t.familyId := by
      by_cases hp : (rev.covers u && u.revokedAt.isNone) = true
      · rwa [if_pos hp] at hfamily
      · rwa [if_neg hp] at hfamily
    have hucovers := Revocation.covers_family husers ht hu hufamily hcovers
    have hnot : u.revokedAt.isSome = true → u.usable s.clock = false := by
      intro hrevoked
      rw [Bool.eq_false_iff]
      intro husable
      obtain ⟨hexpiry, hgrace⟩ := RefreshTokenRow.inGrace_of_usable hrevoked husable
      rw [h.noGrace u hu hucovers hexpiry] at hgrace
      simp at hgrace
    by_cases hactive : u.revokedAt.isNone = true
    · rw [if_pos (by simp [hucovers, hactive])]
      refine ⟨rfl, ?_⟩
      rw [Bool.eq_false_iff]
      intro husable
      obtain ⟨hexpiry, hgrace⟩ := RefreshTokenRow.inGrace_of_usable rfl husable
      rw [RefreshTokenRow.inGrace_revoke, h.noGrace u hu hucovers hexpiry] at hgrace
      simp at hgrace
    · rw [if_neg (by simp [hactive])]
      have hrevoked : u.revokedAt.isSome = true := by
        simpa [Option.isSome_iff_ne_none] using hactive
      exact ⟨hrevoked, hnot hrevoked⟩
  refine ⟨hwf.step a, ⟨?_, ?_, ?_⟩, ?_⟩
  · obtain ⟨t', ht', hbecomes⟩ := (authStep_effect env s a).becomes ht
    exact ⟨t', ht', hbecomes.familyId⟩
  · intro t' ht' hfamily
    rw [hclock]
    exact (hrows t' ht' hfamily).2
  · intro r hr row hlive hfamily
    rw [hclock] at hlive
    rcases hrefreshes r hr with hr | hdone
    · obtain ⟨u, hu, hbecomes⟩ := hwf.refreshes r hr row (RefreshStage.row_of_live hlive)
      have hucovers :=
        Revocation.covers_family husers ht hu (hbecomes.familyId.trans hfamily) hcovers
      have hnot := h.noRefresh r hr row hlive
      rw [Revocation.covers_of_becomes hbecomes hucovers] at hnot
      simp at hnot
    · rw [hdone] at hlive
      simp at hlive
  · intro t' ht' hfamily
    exact (hrows t' ht' hfamily).1

/-- **A revocation is final when no token it revokes is in its grace window and no
    refresh with one is under way**: from then on no refresh with a token it covered
    is answered with an access token, and the families of these tokens have no row
    that is not revoked. -/
theorem revocation_final {s : AuthService} (hseed : s.Seeded) (env : AuthEnv)
    {as bs : List AuthAction} {a : AuthAction} {rev : Revocation}
    (hfresh : Along (authStep env) DrawsFreshFamily s (as ++ a :: bs))
    (hrev : revocationOf (exec (authStep env) s as) a = some rev)
    (hquiet : Quiet rev (exec (authStep env) s as)) :
    ∀ t ∈ (exec (authStep env) s as).db.refreshTokens, rev.covers t = true →
      (∀ t' ∈ (exec (authStep env) s (as ++ a :: bs)).db.refreshTokens,
        t'.familyId = t.familyId → t'.revokedAt.isSome = true) ∧
      ∀ b row, answered (exec (authStep env) s (as ++ a :: bs)) b = some row →
        row.id ≠ t.id ∧ row.familyId ≠ t.familyId := by
  intro t ht hcovers
  obtain ⟨hbefore, hcommit, hafter⟩ := (along_append _ _ _ _).mp hfresh
  have hsealed := hquiet.sealed env (wellFormed_exec env hseed as)
    (familiesOfOneUser_exec env hseed hbefore) hrev ht hcovers
  have hend := hsealed.exec hafter
  rw [exec_append, exec_cons]
  refine ⟨hend.revoked, ?_⟩
  intro b row hanswered
  have hother := hend.dead.not_answered hanswered
  refine ⟨?_, hother⟩
  intro hid
  obtain ⟨r, hr, hlive⟩ := live_of_answered hanswered
  obtain ⟨u, hu, hread⟩ := hend.wellFormed.refreshes r hr row (RefreshStage.row_of_live hlive)
  have hstored : Stored (exec (authStep env) s as).db.refreshTokens t := ⟨t, ht, .refl t⟩
  obtain ⟨t', ht', hlater⟩ := hstored.exec env (a :: bs)
  rw [exec_cons] at ht'
  have hsame : u = t' := by
    apply hend.wellFormed.tokenIds.eq_of_mem hu ht'
    rw [hread.id, hlater.id, hid]
  apply hother
  rw [← hread.familyId, hsame, hlater.familyId]

/-- Alice refreshes, logs out everywhere five seconds later, and the token the refresh
    replaced is presented again. -/
def loggedOutInGrace : List AuthAction :=
  registerAlice :: loginRun 0 drawA ++ refreshRun 0 rawA drawB 5 ++
    [.advance 5000, .logout (some rawB) true, .logoutStep 0]

/-- Alice's refresh is about to rotate her token when she logs out everywhere. -/
def loggedOutWhileRotating : List AuthAction :=
  registerAlice :: loginRun 0 drawA ++ refreshRun 0 rawA drawB 3 ++
    [.logout (some rawA) true, .logoutStep 0]

/-- The first logout-all does not stop the replaced token from being answered, and after
    the second the family gets an active token. -/
theorem logoutAll_not_final :
    emptyAuth.Seeded ∧
      (let before := exec (authStep defaultAuthEnv) emptyAuth loggedOutInGrace
        let after := exec (authStep defaultAuthEnv) before
          (.logoutStep 0 :: refreshRun 1 rawA drawC 3)
        revocationOf before (.logoutStep 0) = some (.ofUser 101) ∧
          ∃ t ∈ before.db.refreshTokens, t.userId = 101 ∧
            (answered after (.refreshStep 1 drawC)).map (·.id) = some t.id) ∧
      (let before := exec (authStep defaultAuthEnv) emptyAuth loggedOutWhileRotating
        let after := exec (authStep defaultAuthEnv) before [.logoutStep 0, .refreshStep 0 drawB]
        revocationOf before (.logoutStep 0) = some (.ofUser 101) ∧
          ∃ t ∈ before.db.refreshTokens, t.userId = 101 ∧
            ∃ t' ∈ after.db.refreshTokens, t'.familyId = t.familyId ∧ t'.revokedAt = none) :=
  ⟨emptyAuth_seeded, by decide +kernel, by decide +kernel⟩

instance (rev : Revocation) (s : AuthService) : Decidable (Quiet rev s) :=
  decidable_of_iff
    ((∀ t ∈ s.db.refreshTokens, rev.covers t = true → t.expired s.clock = false →
        t.inGrace s.clock = false) ∧
      ∀ r ∈ s.refreshes, ∀ row ∈ r.stage.live s.clock, rev.covers row = false)
    ⟨fun h => ⟨h.1, h.2⟩, fun h => ⟨h.noGrace, h.noRefresh⟩⟩

/-- Had Alice waited for the end of the grace window, the logout would have been final. -/
theorem logoutAll_after_grace_final :
    let before := registerAlice :: loginRun 0 drawA ++ refreshRun 0 rawA drawB 5 ++
      [.advance 10001, .logout (some rawB) true, .logoutStep 0]
    let after := before ++ .logoutStep 0 :: refreshRun 1 rawA drawC 5
    ∀ t ∈ (exec (authStep defaultAuthEnv) emptyAuth before).db.refreshTokens,
      (Revocation.ofUser 101).covers t = true →
      (∀ t' ∈ (exec (authStep defaultAuthEnv) emptyAuth after).db.refreshTokens,
        t'.familyId = t.familyId → t'.revokedAt.isSome = true) ∧
      ∀ b row, answered (exec (authStep defaultAuthEnv) emptyAuth after) b = some row →
        row.id ≠ t.id ∧ row.familyId ≠ t.familyId :=
  revocation_final emptyAuth_seeded defaultAuthEnv (by decide +kernel) (by decide +kernel)
    (by decide +kernel)

/-! ### Logout -/

/-- The token a logout presents is the only one of its family that passes the checks of
    `refresh`, it is not in its grace window, and no refresh of the family is under way. -/
structure EndsSession (row : RefreshTokenRow) (s : AuthService) : Prop where
  onlyUsable : ∀ t ∈ s.db.refreshTokens, t.familyId = row.familyId → t.usable s.clock = true →
    t.id = row.id ∧ t.inGrace s.clock = false
  noRefresh : ∀ r ∈ s.refreshes, ∀ row' ∈ r.stage.live s.clock, row'.familyId ≠ row.familyId

theorem EndsSession.dead {env : AuthEnv} {s : AuthService} {row : RefreshTokenRow}
    (h : EndsSession row s) (hwf : s.WellFormed) {i : Nat} {cookie : Option String}
    (hget : s.logouts[i]? = some ⟨cookie, false, .found row⟩) :
    Dead row.familyId (authStep env s (.logoutStep i)) := by
  have hmem := List.mem_of_getElem? hget
  simp only [authStep, hget, logoutStep]
  constructor
  · obtain ⟨t, ht, hread⟩ := hwf.logouts _ hmem row rfl
    obtain ⟨t', ht', hlater⟩ :=
      becomes_update (fun t => t.id == row.id) (RefreshTokenRow.becomes_revoke s.clock) ht
    exact ⟨t', ht', hlater.familyId.trans hread.familyId⟩
  · intro t' ht' hfamily
    rw [Bool.eq_false_iff]
    intro husable
    rcases mem_update.mp ht' with ⟨t, ht, -, rfl⟩ | ⟨ht, hid⟩
    · obtain ⟨-, hgrace⟩ := h.onlyUsable t ht hfamily (RefreshTokenRow.usable_of_revoke husable)
      obtain ⟨-, hgrace'⟩ := RefreshTokenRow.inGrace_of_usable rfl husable
      rw [RefreshTokenRow.inGrace_revoke, hgrace] at hgrace'
      simp at hgrace'
    · obtain ⟨hsame, -⟩ := h.onlyUsable t' ht hfamily husable
      simp [hsame] at hid
  · exact h.noRefresh

/-- **Logout ends the session when the presented token is the only usable one of its
    family, is not in its grace window, and no refresh of the family is under way**:
    from then on no refresh with a token of the family is answered with an access
    token. -/
theorem logout_ends_session {s : AuthService} (hseed : s.Seeded) (env : AuthEnv)
    {as bs : List AuthAction} {i : Nat} {cookie : Option String} {row : RefreshTokenRow}
    (hfresh : Along (authStep env) DrawsFreshFamily s (as ++ .logoutStep i :: bs))
    (hget : (exec (authStep env) s as).logouts[i]? = some ⟨cookie, false, .found row⟩)
    (hends : EndsSession row (exec (authStep env) s as)) :
    ∀ b row', answered (exec (authStep env) s (as ++ .logoutStep i :: bs)) b = some row' →
      row'.familyId ≠ row.familyId := by
  intro b row' hanswered
  obtain ⟨-, -, hafter⟩ := (along_append _ _ _ _).mp hfresh
  have hwf := wellFormed_exec env hseed as
  rw [exec_append, exec_cons] at hanswered
  exact ((hends.dead hwf hget).exec (hwf.step _) hafter).not_answered hanswered

/-- Alice does not get the response of a refresh, and logs out with the token she has. -/
def loggedOutAfterLoss : List AuthAction :=
  registerAlice :: loginRun 0 drawA ++ refreshRun 0 rawA drawB 5 ++
    [.refreshLost 0, .advance 5000] ++ logoutRun 0 rawA false

/-- The token she logged out with is answered within its grace window, and the one it was
    rotated to at any time. -/
theorem logout_leaves_session :
    emptyAuth.Seeded ∧
      let loggedOut := exec (authStep defaultAuthEnv) emptyAuth loggedOutAfterLoss
      loggedOut.logouts = [⟨some rawA, false, .done⟩] ∧
        (answered (exec (authStep defaultAuthEnv) loggedOut (refreshRun 0 rawA drawC 3))
          (.refreshStep 0 drawC)).map (·.familyId) = some 301 ∧
        (answered (exec (authStep defaultAuthEnv) loggedOut
          (.advance 86400000 :: refreshRun 0 rawB drawC 4))
          (.refreshStep 0 drawC)).map (·.familyId) = some 301 :=
  ⟨emptyAuth_seeded, by decide +kernel⟩

instance (row : RefreshTokenRow) (s : AuthService) : Decidable (EndsSession row s) :=
  decidable_of_iff
    ((∀ t ∈ s.db.refreshTokens, t.familyId = row.familyId → t.usable s.clock = true →
        t.id = row.id ∧ t.inGrace s.clock = false) ∧
      ∀ r ∈ s.refreshes, ∀ row' ∈ r.stage.live s.clock, row'.familyId ≠ row.familyId)
    ⟨fun h => ⟨h.1, h.2⟩, fun h => ⟨h.onlyUsable, h.noRefresh⟩⟩

/-- With the response received and the grace window over, the logout ends the session. -/
theorem logout_after_grace_ends :
    let before := registerAlice :: loginRun 0 drawA ++ refreshRun 0 rawA drawB 5 ++
      [.advance 10001, .logout (some rawB) false, .logoutStep 0]
    ∀ b row', answered (exec (authStep defaultAuthEnv) emptyAuth
      (before ++ .logoutStep 0 :: refreshRun 1 rawB drawC 5)) b = some row' →
        row'.familyId ≠ 301 :=
  @logout_ends_session _ emptyAuth_seeded defaultAuthEnv _ _ _ (some rawB)
    (newToken defaultAuthEnv 101 301 7776000000 drawB)
    (by decide +kernel) (by decide +kernel) (by decide +kernel)

end SeatReservation
