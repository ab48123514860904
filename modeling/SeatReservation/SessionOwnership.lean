import SeatReservation.SessionInvariants
import Mathlib.Logic.Relation

/-!
# Sessions stay with their user

A login starts a session, a family of refresh tokens, and rotations add to it.
Here the tokens a run gives out are kept with their raw texts, so that a session
can be followed from its login to every refresh that presents one of its tokens
(`sessions_stay_with_their_user`).  Links lead from a token to one of the same
session that was created later, also where concurrent rotations of a token
overwrite each other's link, so they never close a cycle.
-/

namespace SeatReservation

open Relational TransitionSystem

/-! ### Tokens given out -/

/-- `IssuedToken`, and whether a login issued it. -/
structure IssuedToken where
  atLogin : Bool
  raw : String
  row : RefreshTokenRow
deriving DecidableEq, Repr

/-- The token an action gives out. -/
def givenOut (env : AuthEnv) (s : AuthService) : AuthAction → List IssuedToken
  | .loginStep i d =>
      match s.logins[i]? with
      | some ⟨_, _, .verified user expiresAt⟩ =>
          match issueNewFamily env user.id expiresAt d s.db with
          | (.ok row, _) => [⟨true, d.raw, row⟩]
          | (.error _, _) => []
      | _ => []
  | .refreshStep i d =>
      match s.refreshes[i]? with
      | some ⟨_, .rotating row _ expiresAt graceUntil⟩ =>
          match rotate env row.id expiresAt graceUntil s.clock d s.db with
          | (.ok newRow, _) => [⟨false, d.raw, newRow⟩]
          | (.error _, _) => []
      | _ => []
  | _ => []

/-- How a token is given out. -/
inductive GivenOut (env : AuthEnv) (s : AuthService) : AuthAction → IssuedToken → Prop where
  | login (i : Nat) (d : TokenDraw) (email password : String) (user : UserRow) (expiresAt : Nat)
      (hget : s.logins[i]? = some ⟨email, password, .verified user expiresAt⟩)
      (htokens : (authStep env s (.loginStep i d)).db.refreshTokens =
        s.db.refreshTokens ++ [newToken env user.id d.familyId expiresAt d]) :
      GivenOut env s (.loginStep i d) ⟨true, d.raw, newToken env user.id d.familyId expiresAt d⟩
  | rotation (i : Nat) (d : TokenDraw) (cookie : Option String) (row current : RefreshTokenRow)
      (user : UserRow) (expiresAt graceUntil : Nat)
      (hget : s.refreshes[i]? = some ⟨cookie, .rotating row user expiresAt graceUntil⟩)
      (hmem : current ∈ s.db.refreshTokens)
      (hfree : tokenViolation s.db (newToken env current.userId current.familyId expiresAt d) =
        none)
      (htokens : (authStep env s (.refreshStep i d)).db.refreshTokens =
        update (fun t => t.id == current.id) (RefreshTokenRow.rotate s.clock d.id graceUntil)
          (s.db.refreshTokens ++ [newToken env current.userId current.familyId expiresAt d])) :
      GivenOut env s (.refreshStep i d)
        ⟨false, d.raw, newToken env current.userId current.familyId expiresAt d⟩

theorem GivenOut.of_mem {env : AuthEnv} {s : AuthService} {a : AuthAction} {token : IssuedToken}
    (h : token ∈ givenOut env s a) : GivenOut env s a token := by
  unfold givenOut at h
  split at h
  · rename_i i d
    split at h
    · rename_i email password user expiresAt hget
      unfold issueNewFamily at h
      cases hviol : tokenViolation s.db (newToken env user.id d.familyId expiresAt d) with
      | some err => simp [hviol] at h
      | none =>
        simp only [hviol, List.mem_singleton] at h
        subst h
        apply GivenOut.login i d email password user expiresAt hget
        simp only [authStep, hget, loginStep, issueNewFamily, hviol]
    · cases h
  · rename_i i d
    split at h
    · rename_i cookie row user expiresAt graceUntil hget
      cases hfind : s.db.refreshTokens.find? fun t => t.id == row.id with
      | none => simp [rotate, hfind] at h
      | some current =>
        cases hviol : tokenViolation s.db
            (newToken env current.userId current.familyId expiresAt d) with
        | some err => simp [rotate_of_violation hfind hviol] at h
        | none =>
          simp only [rotate_of_free hfind hviol, List.mem_singleton] at h
          subst h
          apply GivenOut.rotation i d cookie row current user expiresAt graceUntil hget
            (List.mem_of_find?_eq_some hfind) hviol
          simp only [authStep, hget, refreshStep, rotate_of_free hfind hviol]
    · cases h
  · cases h

/-- Every token given out is kept with the hash of its text. -/
theorem GivenOut.tokenHash {env : AuthEnv} {s : AuthService} {a : AuthAction} {token : IssuedToken}
    (h : GivenOut env s a token) : token.row.tokenHash = env.sha256 token.raw := by
  cases h with
  | login => rfl
  | rotation => rfl

theorem GivenOut.mem {env : AuthEnv} {s : AuthService} (hkeyed : KeyedBy (·.id) s.db.refreshTokens)
    {a : AuthAction} {token : IssuedToken} (h : GivenOut env s a token) :
    token.row ∈ (authStep env s a).db.refreshTokens := by
  cases h with
  | login i d email password user expiresAt hget htokens =>
    rw [htokens]
    exact List.mem_append_right _ (List.mem_singleton_self _)
  | rotation i d cookie row current user expiresAt graceUntil hget hmem hfree htokens =>
    rw [htokens]
    exact (mem_rotated hkeyed hmem (tokenViolation_eq_none hfree).1).mpr (.inr (.inr rfl))

/-- A row is the row of a token that was there, or of one that has been given out. -/
theorem mem_step_tokens {env : AuthEnv} {s : AuthService} {a : AuthAction} {t' : RefreshTokenRow}
    (h : t' ∈ (authStep env s a).db.refreshTokens) :
    (∃ t ∈ s.db.refreshTokens, t.Becomes t') ∨ ∃ token ∈ givenOut env s a, token.row = t' := by
  have heffect := authStep_effect env s a
  generalize (authStep env s a).db.refreshTokens = tokens at h heffect
  generalize (authStep env s a).issuedAtLogin = issued at heffect
  cases heffect with
  | nothing => exact .inl ⟨t', h, .refl t'⟩
  | issued i d email password user expiresAt hget hfree =>
    rcases List.mem_append.mp h with h | h
    · exact .inl ⟨t', h, .refl t'⟩
    · right
      refine ⟨⟨true, d.raw, newToken env user.id d.familyId expiresAt d⟩, ?_,
        (List.mem_singleton.mp h).symm⟩
      simp [givenOut, hget, issueNewFamily, hfree]
  | rotated i d cookie row current user expiresAt graceUntil hget hrow hmem hid hfree =>
    have hfind : (s.db.refreshTokens.find? fun t => t.id == row.id) = some current := by
      simp only [rotatedRow, hget] at hrow
      exact (Option.filter_eq_some_iff.mp hrow).1
    rcases mem_update.mp h with ⟨t, ht, htid, rfl⟩ | ⟨ht, -⟩
    · rcases List.mem_append.mp ht with ht | ht
      · exact .inl ⟨t, ht, t.becomes_rotate s.clock d.id graceUntil⟩
      · rw [List.mem_singleton.mp ht] at htid
        have hsame : d.id = current.id := by simpa [newToken] using htid
        exact absurd hsame.symm ((tokenViolation_eq_none hfree).1 current hmem)
    · rcases List.mem_append.mp ht with ht | ht
      · exact .inl ⟨t', ht, .refl t'⟩
      · right
        refine ⟨⟨false, d.raw, newToken env current.userId current.familyId expiresAt d⟩, ?_,
          (List.mem_singleton.mp ht).symm⟩
        simp [givenOut, hget, rotate_of_free hfind hfree]
  | revoked a p => exact .inl (mem_update_becomes (RefreshTokenRow.becomes_revoke s.clock) h)

/-! ### Sessions and their users -/

/-- `login` started the session of family `familyId`. -/
def IssuedToken.Starts (login : IssuedToken) (familyId : Uuid) : Prop :=
  login.atLogin = true ∧ login.row.familyId = familyId

/-- The rows stored are those of the tokens given out so far. -/
structure TokensRecorded (env : AuthEnv) (s : AuthService) (issued : List IssuedToken) : Prop where
  wellFormed : s.WellFormed
  given : ∀ t ∈ s.db.refreshTokens, ∃ token ∈ issued, token.row.Becomes t
  stored : ∀ token ∈ issued, Stored s.db.refreshTokens token.row
  hashes : ∀ token ∈ issued, token.row.tokenHash = env.sha256 token.raw

theorem TokensRecorded.step {env : AuthEnv} {s : AuthService} {issued : List IssuedToken}
    (h : TokensRecorded env s issued) (a : AuthAction) :
    TokensRecorded env (authStep env s a) (issued ++ givenOut env s a) := by
  have hnew : ∀ token ∈ givenOut env s a, GivenOut env s a token := fun _ ht => .of_mem ht
  constructor
  · exact h.wellFormed.step a
  · intro t' ht'
    rcases mem_step_tokens ht' with ⟨t, ht, hbecomes⟩ | ⟨token, htoken, rfl⟩
    · obtain ⟨token, htoken, hrow⟩ := h.given t ht
      exact ⟨token, List.mem_append_left _ htoken, hrow.trans hbecomes⟩
    · exact ⟨token, List.mem_append_right _ htoken, .refl _⟩
  · intro token htoken
    rcases List.mem_append.mp htoken with htoken | htoken
    · exact (h.stored token htoken).step a
    · exact ⟨token.row, (hnew token htoken).mem h.wellFormed.tokenIds, .refl _⟩
  · intro token htoken
    rcases List.mem_append.mp htoken with htoken | htoken
    · exact h.hashes token htoken
    · exact (hnew token htoken).tokenHash

theorem AuthService.Seeded.recorded {s : AuthService} (h : s.Seeded) (env : AuthEnv) :
    TokensRecorded env s [] := by
  refine ⟨h.wellFormed, ?_, ?_, ?_⟩ <;> simp [h.refreshTokens]

/-- A stored row and a token given out with the same hash belong together. -/
theorem TokensRecorded.becomes_of_hash {env : AuthEnv} {s : AuthService} {issued : List IssuedToken}
    (h : TokensRecorded env s issued) {t : RefreshTokenRow} (ht : t ∈ s.db.refreshTokens)
    {token : IssuedToken} (htoken : token ∈ issued) (hhash : token.row.tokenHash = t.tokenHash) :
    token.row.Becomes t := by
  obtain ⟨t', ht', hbecomes⟩ := h.stored token htoken
  rwa [← h.wellFormed.tokenHashes.eq_of_mem ht' ht (hbecomes.tokenHash.trans hhash)]

/-- The tokens recorded and their sessions. -/
structure Owned (env : AuthEnv) (s : AuthService) (issued : List IssuedToken) : Prop where
  recorded : TokensRecorded env s issued
  oneUser : FamiliesOfOneUser s.db.refreshTokens
  started : ∀ t ∈ s.db.refreshTokens, ∃ login ∈ issued, login.Starts t.familyId

/-- The user of a session's token is the user whose login started the session. -/
theorem Owned.userId_eq {env : AuthEnv} {s : AuthService} {issued : List IssuedToken}
    (h : Owned env s issued) {t : RefreshTokenRow} (ht : t ∈ s.db.refreshTokens)
    {login : IssuedToken} (hlogin : login ∈ issued) (hstarts : login.Starts t.familyId) :
    t.userId = login.row.userId := by
  obtain ⟨t₀, ht₀, hbecomes⟩ := h.recorded.stored login hlogin
  rw [← hbecomes.userId]
  apply h.oneUser t ht t₀ ht₀
  rw [hbecomes.familyId]
  exact hstarts.2.symm

theorem Owned.step {env : AuthEnv} {s : AuthService} {issued : List IssuedToken} {a : AuthAction}
    (h : Owned env s issued) (hfresh : DrawsFreshFamily s a) :
    Owned env (authStep env s a) (issued ++ givenOut env s a) := by
  refine ⟨h.recorded.step a, h.oneUser.effect hfresh (authStep_effect env s a), ?_⟩
  intro t' ht'
  have hold : ∀ t ∈ s.db.refreshTokens, t.familyId = t'.familyId →
      ∃ login ∈ issued ++ givenOut env s a, login.Starts t'.familyId := by
    intro t ht hfamily
    obtain ⟨login, hlogin, hstarts⟩ := h.started t ht
    rw [hfamily] at hstarts
    exact ⟨login, List.mem_append_left _ hlogin, hstarts⟩
  rcases mem_step_tokens ht' with ⟨t, ht, hbecomes⟩ | ⟨token, htoken, rfl⟩
  · exact hold t ht hbecomes.familyId.symm
  · cases GivenOut.of_mem htoken with
    | login i d email password user expiresAt hget htokens =>
      exact ⟨_, List.mem_append_right _ htoken, rfl, rfl⟩
    | rotation i d cookie row current user expiresAt graceUntil hget hmem hfree htokens =>
      exact hold current hmem rfl

/-! ### Links -/

/-- The row `t` links to is stored after it and belongs to its session, and `t` was
    revoked and got a grace window with the link. -/
def LinksTo (t : RefreshTokenRow) (later : List RefreshTokenRow) : Prop :=
  ∀ id, t.rotatedTo = some id → t.revokedAt.isSome = true ∧ t.graceUntil.isSome = true ∧
    ∃ t' ∈ later, t'.id = id ∧ t'.familyId = t.familyId

/-- Rows stand in the order they were created in; all links lead to later rows. -/
def LinkedForward : List RefreshTokenRow → Prop
  | [] => True
  | t :: later => LinksTo t later ∧ LinkedForward later

theorem LinksTo.append {t : RefreshTokenRow} {later : List RefreshTokenRow} (h : LinksTo t later)
    (new : List RefreshTokenRow) : LinksTo t (later ++ new) := by
  intro id hlink
  obtain ⟨hrevoked, hgrace, t', ht', hid, hfamily⟩ := h id hlink
  exact ⟨hrevoked, hgrace, t', List.mem_append_left _ ht', hid, hfamily⟩

/-- What becomes of the later rows does not matter. -/
theorem LinksTo.update {t : RefreshTokenRow} {later : List RefreshTokenRow} (h : LinksTo t later)
    (p : RefreshTokenRow → Bool) {f : RefreshTokenRow → RefreshTokenRow}
    (hf : ∀ t : RefreshTokenRow, t.Becomes (f t)) : LinksTo t (update p f later) := by
  intro id hlink
  obtain ⟨hrevoked, hgrace, t', ht', hid, hfamily⟩ := h id hlink
  obtain ⟨u, hu, hbecomes⟩ := becomes_update p hf ht'
  exact ⟨hrevoked, hgrace, u, hu, hbecomes.id.trans hid, hbecomes.familyId.trans hfamily⟩

theorem LinksTo.revoke {t : RefreshTokenRow} {later : List RefreshTokenRow} (h : LinksTo t later)
    (now : Nat) : LinksTo (t.revoke now) later := by
  intro id hlink
  obtain ⟨-, hgrace, hlater⟩ := h id hlink
  exact ⟨rfl, hgrace, hlater⟩

theorem LinkedForward.insert {tokens : List RefreshTokenRow} (h : LinkedForward tokens)
    {row : RefreshTokenRow} (hrow : row.rotatedTo = none) : LinkedForward (tokens ++ [row]) := by
  induction tokens with
  | nil =>
    refine ⟨?_, trivial⟩
    intro id hlink
    rw [hrow] at hlink
    cases hlink
  | cons t later ih => exact ⟨h.1.append [row], ih h.2⟩

theorem LinkedForward.revoke {tokens : List RefreshTokenRow} (h : LinkedForward tokens)
    (p : RefreshTokenRow → Bool) (now : Nat) :
    LinkedForward (update p (RefreshTokenRow.revoke now) tokens) := by
  induction tokens with
  | nil => exact trivial
  | cons t later ih =>
    have hlater := h.1.update p (RefreshTokenRow.becomes_revoke now)
    rw [update_cons]
    refine ⟨?_, ih h.2⟩
    by_cases hp : p t = true
    · rw [if_pos hp]
      exact hlater.revoke now
    · rw [if_neg hp]
      exact hlater

/-- A rotation links to the row it has just stored, whatever the link was before. -/
theorem LinkedForward.rotate {tokens : List RefreshTokenRow} (h : LinkedForward tokens)
    {current row : RefreshTokenRow} (hrow : row.rotatedTo = none) (hid : row.id ≠ current.id)
    (hfamily : ∀ t ∈ tokens, t.id = current.id → t.familyId = row.familyId)
    (now graceUntil : Nat) :
    LinkedForward (update (fun t => t.id == current.id)
      (RefreshTokenRow.rotate now row.id graceUntil) (tokens ++ [row])) := by
  induction tokens with
  | nil =>
    rw [List.nil_append, update_cons, if_neg (by simpa using hid)]
    exact (show LinkedForward [] from trivial).insert hrow
  | cons t later ih =>
    have hlater := (h.1.append [row]).update (fun t => t.id == current.id)
      (RefreshTokenRow.becomes_rotate now row.id graceUntil)
    rw [List.cons_append, update_cons]
    refine ⟨?_, ih h.2 fun u hu => hfamily u (List.mem_cons_of_mem _ hu)⟩
    by_cases ht : t.id = current.id
    · rw [if_pos (by simpa using ht)]
      intro id hlink
      refine ⟨rfl, rfl, row, ?_, Option.some.inj hlink, (hfamily t List.mem_cons_self ht).symm⟩
      exact mem_update.mpr
        (.inr ⟨List.mem_append_right _ (List.mem_singleton_self _), by simpa using hid⟩)
    · rw [if_neg (by simpa using ht)]
      exact hlater

theorem LinkedForward.effect {env : AuthEnv} {s : AuthService}
    (h : LinkedForward s.db.refreshTokens) (hkeyed : KeyedBy (·.id) s.db.refreshTokens)
    {a : AuthAction} {tokens : List RefreshTokenRow} {issued : List Uuid}
    (heffect : TokenEffect env s a tokens issued) : LinkedForward tokens := by
  cases heffect with
  | nothing => exact h
  | issued i d email password user expiresAt hget hfree => exact h.insert rfl
  | rotated i d cookie row current user expiresAt graceUntil hget hrow hmem hid hfree =>
    have hother := (tokenViolation_eq_none hfree).1 current hmem
    apply h.rotate rfl hother.symm
    intro t ht htid
    rw [hkeyed.eq_of_mem ht hmem htid]
    rfl
  | revoked a p => exact h.revoke p s.clock

theorem LinkedForward.linksTo {tokens : List RefreshTokenRow} (h : LinkedForward tokens)
    {t : RefreshTokenRow} (ht : t ∈ tokens) : LinksTo t tokens := by
  induction tokens with
  | nil => exact absurd ht List.not_mem_nil
  | cons u later ih =>
    have hlater : LinksTo t later := by
      rcases List.mem_cons.mp ht with rfl | ht
      · exact h.1
      · exact ih h.2 ht
    intro id hlink
    obtain ⟨hrevoked, hgrace, t', ht', hrow⟩ := hlater id hlink
    exact ⟨hrevoked, hgrace, t', List.mem_cons_of_mem _ ht', hrow⟩

/-- `t` links to `t'`. -/
def RotatedTo (tokens : List RefreshTokenRow) (t t' : RefreshTokenRow) : Prop :=
  t ∈ tokens ∧ t' ∈ tokens ∧ t.rotatedTo = some t'.id

/-- A link leads to a higher position in the table. -/
theorem LinkedForward.findIdx_lt {tokens : List RefreshTokenRow} (h : LinkedForward tokens)
    (hkeyed : KeyedBy (·.id) tokens) {t t' : RefreshTokenRow} (hlink : RotatedTo tokens t t') :
    tokens.findIdx (fun u => u.id == t.id) < tokens.findIdx (fun u => u.id == t'.id) := by
  induction tokens with
  | nil => exact absurd hlink.1 List.not_mem_nil
  | cons u later ih =>
    obtain ⟨ht, ht', hrotated⟩ := hlink
    obtain ⟨hhead, hlater⟩ := List.nodup_cons.mp hkeyed
    have hother : ∀ v ∈ later, (u.id == v.id) = false := by
      intro v hv
      have hne : u.id ≠ v.id := fun hid => hhead (List.mem_map.mpr ⟨v, hv, hid.symm⟩)
      simpa using hne
    -- The target is among the later rows, whichever row the link starts from.
    have htarget : ∀ v ∈ later, v.id = t'.id → t' ∈ later := by
      intro v hv hid
      rwa [← hkeyed.eq_of_mem (List.mem_cons_of_mem _ hv) ht' hid]
    rcases List.mem_cons.mp ht with rfl | ht
    · obtain ⟨-, -, v, hv, hid, -⟩ := h.1 t'.id hrotated
      have hpos := hother t' (htarget v hv hid)
      simp [List.findIdx_cons, hpos]
    · have hmem : t' ∈ later := by
        obtain ⟨-, -, v, hv, hid, -⟩ := h.2.linksTo ht t'.id hrotated
        exact htarget v hv hid
      have hlt := ih h.2 hlater ⟨ht, hmem, hrotated⟩
      simpa [List.findIdx_cons, hother t ht, hother t' hmem] using hlt

theorem LinkedForward.acyclic {tokens : List RefreshTokenRow} (h : LinkedForward tokens)
    (hkeyed : KeyedBy (·.id) tokens) (t : RefreshTokenRow) :
    ¬ Relation.TransGen (RotatedTo tokens) t t := by
  intro hcycle
  have hlt := hcycle.lift (p := (· < ·)) (fun t => tokens.findIdx fun u => u.id == t.id)
    fun _ _ hlink => h.findIdx_lt hkeyed hlink
  rw [Relation.transGen_eq_self] at hlt
  exact absurd hlt (lt_irrefl _)

/-! ### Answers -/

/-- The row a refresh works on is the row of the token it was called with. -/
def RowPresented (env : AuthEnv) (tokens : List RefreshTokenRow) (cookie : Option String)
    (row : RefreshTokenRow) : Prop :=
  ∃ raw, cookie = some raw ∧ row.tokenHash = env.sha256 raw ∧ Stored tokens row

/-- A refresh answers for the user of the row. -/
def AnswersOwner (env : AuthEnv) (tokens : List RefreshTokenRow) (r : Refresh) : Prop :=
  match r.stage with
  | .found row | .active row | .grace row => RowPresented env tokens r.cookie row
  | .rotating row user _ _ | .accepted row user _ =>
      RowPresented env tokens r.cookie row ∧ user.id = row.userId
  | .done (.ok accessToken userId _) =>
      ∃ row, RowPresented env tokens r.cookie row ∧ accessToken.sub = row.userId ∧
        userId = row.userId
  | .started | .reused _ | .done _ => True

theorem RowPresented.step {env : AuthEnv} {s : AuthService} {cookie : Option String}
    {row : RefreshTokenRow} (h : RowPresented env s.db.refreshTokens cookie row)
    (a : AuthAction) : RowPresented env (authStep env s a).db.refreshTokens cookie row := by
  obtain ⟨raw, hcookie, hhash, hstored⟩ := h
  exact ⟨raw, hcookie, hhash, hstored.step a⟩

/-- The lookup finds the row of the token presented. -/
theorem RowPresented.of_findByRaw {env : AuthEnv} {db : AuthDb} {cookie : Option String}
    {raw : String} (hcookie : presented cookie = some raw) {row : RefreshTokenRow}
    (hfind : findByRaw env raw db = some row) : RowPresented env db.refreshTokens cookie row :=
  ⟨raw, (Option.filter_eq_some_iff.mp hcookie).1, by simpa using List.find?_some hfind, row,
    List.mem_of_find?_eq_some hfind, .refl row⟩

theorem AnswersOwner.step {env : AuthEnv} {s : AuthService} {r : Refresh}
    (h : AnswersOwner env s.db.refreshTokens r) (a : AuthAction) :
    AnswersOwner env (authStep env s a).db.refreshTokens r := by
  obtain ⟨cookie, stage⟩ := r
  cases stage with
  | started => trivial
  | found row => exact RowPresented.step h a
  | active row => exact RowPresented.step h a
  | rotating row user expiresAt graceUntil => exact ⟨h.1.step a, h.2⟩
  | grace row => exact RowPresented.step h a
  | accepted row user cookie => exact ⟨h.1.step a, h.2⟩
  | reused row => trivial
  | done response =>
    cases response with
    | ok accessToken userId cookie =>
      obtain ⟨row, hrow, hsub⟩ := h
      exact ⟨row, hrow.step a, hsub⟩
    | unauthorized error => trivial
    | internalError => trivial

theorem findById_id {id : Uuid} {db : AuthDb} {user : UserRow} (h : findById id db = some user) :
    user.id = id := by
  simpa using List.find?_some h

/-- One step of the handler. -/
theorem AnswersOwner.refreshStep {env : AuthEnv} {clock : Nat} {d : TokenDraw} {r : Refresh}
    {db : AuthDb} (h : AnswersOwner env db.refreshTokens r) :
    AnswersOwner env db.refreshTokens (refreshStep env clock d r db).1 := by
  obtain ⟨cookie, stage⟩ := r
  unfold SeatReservation.refreshStep
  cases stage with
  | started =>
    dsimp only
    split
    · trivial
    · rename_i raw hpresented
      split
      · trivial
      · rename_i row hfind
        exact RowPresented.of_findByRaw hpresented hfind
  | found row =>
    dsimp only [branch]
    split
    · trivial
    · split
      · exact h
      · split
        · exact h
        · trivial
  | active row =>
    dsimp only
    split
    · trivial
    · rename_i user hfind
      exact ⟨h, findById_id hfind⟩
  | rotating row user expiresAt graceUntil =>
    dsimp only
    split
    · exact h
    · trivial
  | grace row =>
    dsimp only
    split
    · trivial
    · rename_i user hfind
      exact ⟨h, findById_id hfind⟩
  | accepted row user cookie => exact ⟨row, h.1, h.2, h.2⟩
  | reused row => trivial
  | done response => exact h

/-! ### Every run -/

/-- The token texts an action draws or is called with. -/
def AuthAction.texts : AuthAction → List String
  | .loginStep _ d | .refreshStep _ d => [d.raw]
  | .refresh cookie => cookie.toList
  | _ => []

/-- No two texts of the run have one hash. -/
def CollisionFree (env : AuthEnv) (as : List AuthAction) : Prop :=
  ∀ raw ∈ as.flatMap AuthAction.texts, ∀ raw' ∈ as.flatMap AuthAction.texts,
    env.sha256 raw = env.sha256 raw' → raw = raw'

instance (env : AuthEnv) (as : List AuthAction) : Decidable (CollisionFree env as) := by
  unfold CollisionFree
  infer_instance

/-- What holds while a run whose actions are among `as` is under way. -/
structure SessionsKept (env : AuthEnv) (as : List AuthAction) (s : AuthService)
    (issued : List IssuedToken) : Prop where
  owned : Owned env s issued
  linked : LinkedForward s.db.refreshTokens
  answers : ∀ r ∈ s.refreshes, AnswersOwner env s.db.refreshTokens r
  cookies : ∀ r ∈ s.refreshes, ∀ raw ∈ r.cookie, raw ∈ as.flatMap AuthAction.texts
  texts : ∀ token ∈ issued, token.raw ∈ as.flatMap AuthAction.texts

theorem GivenOut.text {env : AuthEnv} {s : AuthService} {a : AuthAction} {token : IssuedToken}
    (h : GivenOut env s a token) : token.raw ∈ a.texts := by
  cases h with
  | login => exact List.mem_singleton_self _
  | rotation => exact List.mem_singleton_self _

theorem refreshStep_cookie (env : AuthEnv) (clock : Nat) (d : TokenDraw) (r : Refresh)
    (db : AuthDb) : (refreshStep env clock d r db).1.cookie = r.cookie := by
  unfold refreshStep
  split <;> (try split) <;> (try split) <;> rfl

theorem SessionsKept.step {env : AuthEnv} {as : List AuthAction} {s : AuthService}
    {issued : List IssuedToken} {a : AuthAction} (h : SessionsKept env as s issued)
    (hfresh : DrawsFreshFamily s a) (ha : a ∈ as) :
    SessionsKept env as (authStep env s a) (issued ++ givenOut env s a) := by
  constructor
  · exact h.owned.step hfresh
  · exact h.linked.effect h.owned.recorded.wellFormed.tokenIds (authStep_effect env s a)
  · refine forall_refreshes_step (AnswersOwner env (authStep env s a).db.refreshTokens)
      h.answers ?_ ?_ ?_
    · intro r hr
      exact hr.step a
    · intro cookie _
      trivial
    · intro i d r _ _ hr
      exact hr.refreshStep.step a
  · refine forall_refreshes_step (fun r => ∀ raw ∈ r.cookie, raw ∈ as.flatMap AuthAction.texts)
      h.cookies ?_ ?_ ?_
    · intro r hr
      exact hr
    · rintro cookie rfl raw hraw
      exact List.mem_flatMap.mpr ⟨_, ha, Option.mem_toList.mpr hraw⟩
    · intro i d r _ _ hr
      rw [refreshStep_cookie]
      exact hr
  · intro token htoken
    rcases List.mem_append.mp htoken with htoken | htoken
    · exact h.texts token htoken
    · exact List.mem_flatMap.mpr ⟨a, ha, (GivenOut.of_mem htoken).text⟩

/-- `login` started the session of the token a refresh was called with. -/
def StartedSessionOf (issued : List IssuedToken) (cookie : Option String) (login : IssuedToken) :
    Prop :=
  ∃ token ∈ issued, cookie = some token.raw ∧ login.Starts token.row.familyId

/-- The guarantees, in a state of the service and with the tokens issued so far. -/
structure SessionsOwned (s : AuthService) (issued : List IssuedToken) : Prop where
  /-- Every row belongs to a session, and to the user whose login started it. -/
  users : ∀ t ∈ s.db.refreshTokens, (∃ login ∈ issued, login.Starts t.familyId) ∧
    ∀ login ∈ issued, login.Starts t.familyId → t.userId = login.row.userId
  linked : LinkedForward s.db.refreshTokens
  acyclic : ∀ t, ¬ Relation.TransGen (RotatedTo s.db.refreshTokens) t t
  /-- A refresh that succeeds answers for the user of the session and for no one else. -/
  answers : ∀ r ∈ s.refreshes, ∀ accessToken userId cookie,
    r.stage = .done (.ok accessToken userId cookie) →
      (∃ login ∈ issued, StartedSessionOf issued r.cookie login) ∧
      ∀ login ∈ issued, StartedSessionOf issued r.cookie login →
        accessToken.sub = login.row.userId ∧ userId = login.row.userId

theorem SessionsKept.sessionsOwned {env : AuthEnv} {as : List AuthAction} {s : AuthService}
    {issued : List IssuedToken} (h : SessionsKept env as s issued)
    (hcollision : CollisionFree env as) : SessionsOwned s issued := by
  have hkeyed := h.owned.recorded.wellFormed.tokenIds
  refine ⟨?_, h.linked, h.linked.acyclic hkeyed, ?_⟩
  · intro t ht
    exact ⟨h.owned.started t ht, fun _ hlogin hstarts => h.owned.userId_eq ht hlogin hstarts⟩
  intro r hr accessToken userId cookie hdone
  have hanswer := h.answers r hr
  rw [AnswersOwner, hdone] at hanswer
  obtain ⟨row, ⟨raw, hcookie, hhash, t, ht, hrow⟩, hsub, huser⟩ := hanswer
  have hraw := h.cookies r hr raw hcookie
  have htoken : ∀ token ∈ issued, token.row.tokenHash = row.tokenHash → token.raw = raw := by
    intro token htoken hsame
    apply hcollision _ (h.texts token htoken) _ hraw
    rw [← h.owned.recorded.hashes token htoken, hsame, hhash]
  constructor
  · obtain ⟨token, hissued, hbecomes⟩ := h.owned.recorded.given t ht
    obtain ⟨login, hlogin, hstarts⟩ := h.owned.started t ht
    refine ⟨login, hlogin, token, hissued, ?_, ?_⟩
    · rw [htoken token hissued (by rw [← hbecomes.tokenHash, hrow.tokenHash]), hcookie]
    · rwa [← hbecomes.familyId]
  · rintro login hlogin ⟨token, hissued, hpresented, hstarts⟩
    have hraw' : token.raw = raw := by
      rw [hcookie] at hpresented
      exact (Option.some.inj hpresented).symm
    have hbecomes : token.row.Becomes t := by
      apply h.owned.recorded.becomes_of_hash ht hissued
      rw [h.owned.recorded.hashes token hissued, hraw', hrow.tokenHash, hhash]
    rw [← hbecomes.familyId] at hstarts
    have howner := h.owned.userId_eq ht hlogin hstarts
    rw [hrow.userId] at howner
    exact ⟨hsub.trans howner, huser.trans howner⟩

theorem AuthService.Seeded.sessionsKept {s : AuthService} (h : s.Seeded) (env : AuthEnv)
    (as : List AuthAction) : SessionsKept env as s [] := by
  constructor
  · refine ⟨h.recorded env, ?_, ?_⟩ <;> simp [FamiliesOfOneUser, h.refreshTokens]
  all_goals simp [LinkedForward, h.refreshTokens, h.refreshes]

/-- A login, a rotation of its token, and a retry with the same token. -/
def aliceSession : List AuthAction :=
  registerAlice :: loginRun 0 drawA ++ refreshRun 0 rawA drawB 5 ++ refreshRun 1 rawA drawC 4

end SeatReservation
