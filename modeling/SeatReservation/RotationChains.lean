import SeatReservation.SessionInvariants

/-!
# Rotation chains

The tokens of a family ought to form a chain: the token of the login is rotated
to a second one, that one to a third, and only the last is active.  The chain
is kept by every rotation of its last token.  Rotating a token that has been
rotated before forks the chain and orphans the token it was rotated to, and the
transaction of `rotate` does not exclude it, because the row it locks is not
compared with the row the handler decided on.
-/

namespace SeatReservation

open Relational TransitionSystem

/-! ### Chains of tokens -/

/-- `u` is another token of the family of `t`, and was rotated to `t`. -/
structure RefreshTokenRow.IsParentOf (u t : RefreshTokenRow) : Prop where
  rotatedTo : u.rotatedTo = some t.id
  other : u.id ≠ t.id
  family : u.familyId = t.familyId

/-- `t` has a parent, and only one. -/
def HasOneParent (tokens : List RefreshTokenRow) (t : RefreshTokenRow) : Prop :=
  ∃ u ∈ tokens, u.IsParentOf t ∧ ∀ u' ∈ tokens, u'.IsParentOf t → u' = u

/-- Every family has at most one active token, and every token that was not issued at a
    login is the `rotated_to` of exactly one other token of its family. -/
structure LinearFamilies (s : AuthService) : Prop where
  oneActive : UniqueOn (·.revokedAt.isNone) (·.familyId) s.db.refreshTokens
  oneParent : ∀ t ∈ s.db.refreshTokens, t.id ∉ s.issuedAtLogin → HasOneParent s.db.refreshTokens t

/-- What keeps the families linear: every family has at most one token that was not
    rotated, rotated tokens are revoked, and links lead to tokens that were not
    issued at a login. -/
structure Chains (tokens : List RefreshTokenRow) (issued : List Uuid) : Prop where
  oneTip : UniqueOn (·.rotatedTo.isNone) (·.familyId) tokens
  revoked : ∀ t ∈ tokens, t.rotatedTo.isSome = true → t.revokedAt.isSome = true
  child : ∀ u ∈ tokens, ∀ id, u.rotatedTo = some id →
    id ∉ issued ∧ ∃ t ∈ tokens, t.id = id ∧ u.IsParentOf t
  parent : ∀ t ∈ tokens, t.id ∉ issued → HasOneParent tokens t
  logins : ∀ id ∈ issued, ∃ t ∈ tokens, t.id = id

theorem Chains.oneActive {tokens : List RefreshTokenRow} {issued : List Uuid}
    (h : Chains tokens issued) : UniqueOn (·.revokedAt.isNone) (·.familyId) tokens := by
  have htip : ∀ t ∈ tokens, t.revokedAt.isNone = true → t.rotatedTo.isNone = true := by
    intro t ht hactive
    by_contra hrotated
    have hrevoked := h.revoked t ht (by simpa [Option.isSome_iff_ne_none] using hrotated)
    rw [Option.isNone_iff_eq_none.mp hactive] at hrevoked
    simp at hrevoked
  intro t ht t' ht' hactive hactive' hfamily
  exact h.oneTip t ht t' ht' (htip t ht hactive) (htip t' ht' hactive') hfamily

/-- Being a parent does not depend on the state of the child's row. -/
theorem RefreshTokenRow.IsParentOf.congr {u t t' : RefreshTokenRow} (h : u.IsParentOf t)
    (hid : t'.id = t.id) (hfamily : t'.familyId = t.familyId) : u.IsParentOf t' :=
  ⟨by rw [hid]; exact h.rotatedTo, by rw [hid]; exact h.other, by rw [hfamily]; exact h.family⟩

/-- A token that was not rotated is nobody's parent. -/
theorem RefreshTokenRow.not_isParentOf {row : RefreshTokenRow} (hrow : row.rotatedTo = none)
    (t : RefreshTokenRow) : ¬ row.IsParentOf t := by
  intro hparent
  have hrotated := hparent.rotatedTo
  rw [hrow] at hrotated
  simp at hrotated

/-! ### What keeps the chains -/

/-- A login starts a chain. -/
theorem Chains.issue {tokens : List RefreshTokenRow} {issued : List Uuid} (h : Chains tokens issued)
    {row : RefreshTokenRow} (hid : ∀ t ∈ tokens, t.id ≠ row.id)
    (hfamily : ∀ t ∈ tokens, t.familyId ≠ row.familyId) (hrow : row.rotatedTo = none) :
    Chains (tokens ++ [row]) (issued ++ [row.id]) := by
  have hnotparent := RefreshTokenRow.not_isParentOf hrow
  constructor
  · exact h.oneTip.insert fun t ht _ => hfamily t ht
  · intro t ht hrotated
    rcases List.mem_append.mp ht with ht | ht
    · exact h.revoked t ht hrotated
    · rw [List.mem_singleton.mp ht, hrow] at hrotated
      simp at hrotated
  · intro u hu id hrotated
    rcases List.mem_append.mp hu with hu | hu
    · obtain ⟨hlogin, t, ht, htid, hparent⟩ := h.child u hu id hrotated
      refine ⟨?_, t, List.mem_append_left _ ht, htid, hparent⟩
      intro hmem
      rcases List.mem_append.mp hmem with hmem | hmem
      · exact hlogin hmem
      · exact hid t ht (htid.trans (List.mem_singleton.mp hmem))
    · rw [List.mem_singleton.mp hu, hrow] at hrotated
      simp at hrotated
  · intro t ht hlogin
    rcases List.mem_append.mp ht with ht | ht
    · obtain ⟨u, hu, hparent, honly⟩ :=
        h.parent t ht fun hmem => hlogin (List.mem_append_left _ hmem)
      refine ⟨u, List.mem_append_left _ hu, hparent, ?_⟩
      intro u' hu' hparent'
      rcases List.mem_append.mp hu' with hu' | hu'
      · exact honly u' hu' hparent'
      · rw [List.mem_singleton.mp hu'] at hparent'
        exact absurd hparent' (hnotparent t)
    · rw [List.mem_singleton.mp ht] at hlogin
      exact absurd (List.mem_append_right _ (List.mem_singleton_self _)) hlogin
  · intro id hmem
    rcases List.mem_append.mp hmem with hmem | hmem
    · obtain ⟨t, ht, htid⟩ := h.logins id hmem
      exact ⟨t, List.mem_append_left _ ht, htid⟩
    · exact ⟨row, List.mem_append_right _ (List.mem_singleton_self _),
        (List.mem_singleton.mp hmem).symm⟩

/-- A revocation leaves the links alone. -/
theorem Chains.revoke {tokens : List RefreshTokenRow} {issued : List Uuid}
    (h : Chains tokens issued) (p : RefreshTokenRow → Bool) (now : Nat) :
    Chains (update p (RefreshTokenRow.revoke now) tokens) issued := by
  -- The links of a row are those of the row it was before.
  have hbefore : ∀ t : RefreshTokenRow, (if p t then t.revoke now else t).id = t.id ∧
      (if p t then t.revoke now else t).familyId = t.familyId ∧
      (if p t then t.revoke now else t).rotatedTo = t.rotatedTo := by
    intro t
    split
    · exact ⟨rfl, rfl, rfl⟩
    · exact ⟨rfl, rfl, rfl⟩
  have hparent : ∀ u t : RefreshTokenRow,
      (if p u then u.revoke now else u).IsParentOf (if p t then t.revoke now else t) ↔
        u.IsParentOf t := by
    intro u t
    obtain ⟨huid, hufamily, hurotated⟩ := hbefore u
    obtain ⟨htid, htfamily, -⟩ := hbefore t
    constructor
    · intro h
      refine ⟨?_, ?_, ?_⟩
      · rw [← hurotated, ← htid, h.rotatedTo]
      · rw [← huid, ← htid]
        exact h.other
      · rw [← hufamily, ← htfamily, h.family]
    · intro h
      refine ⟨?_, ?_, ?_⟩
      · rw [hurotated, htid, h.rotatedTo]
      · rw [huid, htid]
        exact h.other
      · rw [hufamily, htfamily, h.family]
  constructor
  · exact h.oneTip.update_of_imp (fun _ htip => htip) fun _ => rfl
  · intro t' ht' hrotated
    obtain ⟨t, ht, rfl⟩ := mem_update_iff_exists.mp ht'
    rw [(hbefore t).2.2] at hrotated
    split
    · rfl
    · exact h.revoked t ht hrotated
  · intro u' hu' id hrotated
    obtain ⟨u, hu, rfl⟩ := mem_update_iff_exists.mp hu'
    rw [(hbefore u).2.2] at hrotated
    obtain ⟨hlogin, t, ht, htid, hparent'⟩ := h.child u hu id hrotated
    exact ⟨hlogin, _, mem_update_iff_exists.mpr ⟨t, ht, rfl⟩, (hbefore t).1.trans htid,
      (hparent u t).mpr hparent'⟩
  · intro t' ht' hlogin
    obtain ⟨t, ht, rfl⟩ := mem_update_iff_exists.mp ht'
    rw [(hbefore t).1] at hlogin
    obtain ⟨u, hu, hparent', honly⟩ := h.parent t ht hlogin
    refine ⟨_, mem_update_iff_exists.mpr ⟨u, hu, rfl⟩, (hparent u t).mpr hparent', ?_⟩
    intro v' hv' hother
    obtain ⟨v, hv, rfl⟩ := mem_update_iff_exists.mp hv'
    rw [honly v hv ((hparent v t).mp hother)]
  · intro id hmem
    obtain ⟨t, ht, htid⟩ := h.logins id hmem
    exact ⟨_, mem_update_iff_exists.mpr ⟨t, ht, rfl⟩, (hbefore t).1.trans htid⟩

/-- Rotating the last token of a chain makes the chain longer. -/
theorem Chains.rotate {tokens : List RefreshTokenRow} {issued : List Uuid}
    (h : Chains tokens issued) (hkeyed : KeyedBy (·.id) tokens) {current row : RefreshTokenRow}
    (hmem : current ∈ tokens) (htip : current.rotatedTo = none)
    (hid : ∀ t ∈ tokens, t.id ≠ row.id) (hfamily : row.familyId = current.familyId)
    (hrow : row.rotatedTo = none) (now graceUntil : Nat) :
    Chains (update (fun t => t.id == current.id) (RefreshTokenRow.rotate now row.id graceUntil)
      (tokens ++ [row])) issued := by
  have hrows := fun t => @mem_rotated tokens hkeyed current row hmem hid now graceUntil t
  have hnotparent := RefreshTokenRow.not_isParentOf hrow
  constructor
  · apply h.oneTip.replace
    · intro t _
      rfl
    · intro t ht htnone htfamily
      rw [h.oneTip t ht current hmem htnone (by simp [htip]) (htfamily.trans hfamily)]
      simp
  · intro t ht hrotated
    rcases (hrows t).mp ht with rfl | ⟨ht, -⟩ | rfl
    · rfl
    · exact h.revoked t ht hrotated
    · rw [hrow] at hrotated
      simp at hrotated
  · intro u hu id hrotated
    rcases (hrows u).mp hu with rfl | ⟨hu, -⟩ | rfl
    · have hrotated : row.id = id := Option.some.inj hrotated
      refine ⟨?_, row, (hrows row).mpr (.inr (.inr rfl)), hrotated, rfl, hid current hmem,
        hfamily.symm⟩
      intro hlogin
      obtain ⟨t, ht, htid⟩ := h.logins id hlogin
      exact hid t ht (htid.trans hrotated.symm)
    · obtain ⟨hlogin, t, ht, htid, hparent⟩ := h.child u hu id hrotated
      obtain ⟨t', ht', hb⟩ :=
        becomes_update (fun t => t.id == current.id)
          (RefreshTokenRow.becomes_rotate now row.id graceUntil) (List.mem_append_left [row] ht)
      exact ⟨hlogin, t', ht', hb.id.trans htid, hparent.congr hb.id hb.familyId⟩
    · rw [hrow] at hrotated
      simp at hrotated
  · intro t ht hlogin
    rcases (hrows t).mp ht with rfl | ⟨ht, htid⟩ | rfl
    · obtain ⟨u, hu, hparent, honly⟩ := h.parent current hmem hlogin
      refine ⟨u, (hrows u).mpr (.inr (.inl ⟨hu, hparent.other⟩)), hparent.congr rfl rfl, ?_⟩
      intro u' hu' hparent'
      rcases (hrows u').mp hu' with rfl | ⟨hu', -⟩ | rfl
      · exact absurd rfl hparent'.other
      · exact honly u' hu' (hparent'.congr rfl rfl)
      · exact absurd hparent' (hnotparent _)
    · obtain ⟨u, hu, hparent, honly⟩ := h.parent t ht hlogin
      have huid : u.id ≠ current.id := by
        intro huid
        have hrotated := hparent.rotatedTo
        rw [hkeyed.eq_of_mem hu hmem huid, htip] at hrotated
        simp at hrotated
      refine ⟨u, (hrows u).mpr (.inr (.inl ⟨hu, huid⟩)), hparent, ?_⟩
      intro u' hu' hparent'
      rcases (hrows u').mp hu' with rfl | ⟨hu', -⟩ | rfl
      · exact absurd (Option.some.inj hparent'.rotatedTo).symm (hid t ht)
      · exact honly u' hu' hparent'
      · exact absurd hparent' (hnotparent _)
    · refine ⟨current.rotate now t.id graceUntil, (hrows _).mpr (.inl rfl),
        ⟨rfl, hid current hmem, hfamily.symm⟩, ?_⟩
      intro u' hu' hparent'
      rcases (hrows u').mp hu' with rfl | ⟨hu', -⟩ | rfl
      · rfl
      · obtain ⟨-, v, hv, hvid, -⟩ := h.child u' hu' t.id hparent'.rotatedTo
        exact absurd hvid (hid v hv)
      · exact absurd hparent' (hnotparent _)
  · intro id hlogin
    obtain ⟨t, ht, htid⟩ := h.logins id hlogin
    obtain ⟨t', ht', hb⟩ :=
      becomes_update (fun t => t.id == current.id)
        (RefreshTokenRow.becomes_rotate now row.id graceUntil) (List.mem_append_left [row] ht)
    exact ⟨t', ht', hb.id.trans htid⟩

/-- Rotating a token twice leaves its first child without a parent. -/
theorem Chains.not_hasOneParent_of_fork {tokens : List RefreshTokenRow} {issued : List Uuid}
    (h : Chains tokens issued) (hkeyed : KeyedBy (·.id) tokens) {current row : RefreshTokenRow}
    (hmem : current ∈ tokens) {child : Uuid} (hchild : current.rotatedTo = some child)
    (hid : ∀ t ∈ tokens, t.id ≠ row.id) (hrow : row.rotatedTo = none) (now graceUntil : Nat) :
    ∃ t ∈ update (fun t => t.id == current.id) (RefreshTokenRow.rotate now row.id graceUntil)
        (tokens ++ [row]), t.id ∉ issued ∧
      ¬ HasOneParent (update (fun t => t.id == current.id)
        (RefreshTokenRow.rotate now row.id graceUntil) (tokens ++ [row])) t := by
  have hrows := fun t => @mem_rotated tokens hkeyed current row hmem hid now graceUntil t
  obtain ⟨hlogin, t, ht, htid, hparent⟩ := h.child current hmem child hchild
  have htlogin : t.id ∉ issued := by rwa [htid]
  obtain ⟨u, -, -, honly⟩ := h.parent t ht htlogin
  refine ⟨t, (hrows t).mpr (.inr (.inl ⟨ht, hparent.other.symm⟩)), htlogin, ?_⟩
  rintro ⟨v, hv, hvparent, -⟩
  rcases (hrows v).mp hv with rfl | ⟨hv, hvid⟩ | rfl
  · exact hid t ht (Option.some.inj hvparent.rotatedTo).symm
  · have hsame : v = current := (honly v hv hvparent).trans (honly current hmem hparent).symm
    exact hvid (congrArg _ hsame)
  · exact RefreshTokenRow.not_isParentOf hrow t hvparent

/-! ### Every run -/

/-- A rotation that goes through locks a token that has not been rotated. -/
def RotatesTip (env : AuthEnv) (s : AuthService) (a : AuthAction) : Prop :=
  ∀ t ∈ rotatedRow env s a, t.rotatedTo = none

structure Chained (s : AuthService) : Prop where
  wellFormed : s.WellFormed
  chains : Chains s.db.refreshTokens s.issuedAtLogin

theorem Chained.linear {s : AuthService} (h : Chained s) : LinearFamilies s :=
  ⟨h.chains.oneActive, h.chains.parent⟩

theorem Chains.effect {env : AuthEnv} {s : AuthService} (h : Chained s) {a : AuthAction}
    (hfresh : DrawsFreshFamily s a) (htip : RotatesTip env s a) {tokens : List RefreshTokenRow}
    {issued : List Uuid} (heffect : TokenEffect env s a tokens issued) : Chains tokens issued := by
  cases heffect with
  | nothing => exact h.chains
  | issued i d email password user expiresAt hget hviol =>
    exact h.chains.issue (tokenViolation_eq_none hviol).1 (hfresh _ hget rfl) rfl
  | rotated i d cookie row current user expiresAt graceUntil hget hrow hmem hid hviol =>
    exact h.chains.rotate h.wellFormed.tokenIds hmem (htip current hrow)
      (tokenViolation_eq_none hviol).1 rfl rfl s.clock graceUntil
  | revoked a p => exact h.chains.revoke p s.clock

theorem Chained.step {env : AuthEnv} {s : AuthService} (h : Chained s) {a : AuthAction}
    (hfresh : DrawsFreshFamily s a) (htip : RotatesTip env s a) : Chained (authStep env s a) :=
  ⟨h.wellFormed.step a, Chains.effect h hfresh htip (authStep_effect env s a)⟩

theorem LinearFamilies.rotatesTip {env : AuthEnv} {s : AuthService} {a : AuthAction}
    (hlinear : LinearFamilies (authStep env s a)) (h : Chained s) : RotatesTip env s a := by
  intro current hrow
  obtain ⟨d, expiresAt, graceUntil, hmem, hviol, htokens, hissued⟩ := step_of_rotatedRow hrow
  cases hchild : current.rotatedTo with
  | none => rfl
  | some child =>
    obtain ⟨t, ht, hlogin, horphan⟩ := h.chains.not_hasOneParent_of_fork h.wellFormed.tokenIds hmem
      hchild (tokenViolation_eq_none hviol).1 rfl s.clock graceUntil
    have hparent := hlinear.oneParent
    rw [htokens, hissued] at hparent
    exact absurd (hparent t ht hlogin) horphan

/-- **Families stay linear iff no token is rotated twice.** -/
theorem families_linear_iff {s : AuthService} (hseed : s.Seeded) (env : AuthEnv)
    (as : List AuthAction) (hfresh : Along (authStep env) DrawsFreshFamily s as) :
    Along (authStep env) (fun s a => LinearFamilies (authStep env s a)) s as ↔
      Along (authStep env) (RotatesTip env) s as := by
  apply along_iff_along_of_fair Chained _ _ _ hfresh
  · intro t a h hfresh htip
    exact h.step hfresh htip
  · intro t a h hfresh
    constructor
    · intro hlinear
      exact hlinear.rotatesTip h
    · intro htip
      exact (h.step hfresh htip).linear
  · refine ⟨hseed.wellFormed, ?_⟩
    rw [hseed.refreshTokens, hseed.issuedAtLogin]
    constructor <;> simp [UniqueOn]

instance (env : AuthEnv) (s : AuthService) (a : AuthAction) : Decidable (RotatesTip env s a) := by
  unfold RotatesTip
  infer_instance

/-- Two refreshes look the token up before either rotates it. -/
def overlappingRefreshes : List AuthAction :=
  registerAlice :: loginRun 0 drawA ++ refreshRun 0 rawA drawB 3 ++ refreshRun 1 rawA drawC 3 ++
    [.refreshStep 0 drawB, .refreshStep 1 drawC]

/-- The family has two active tokens, and the first of them has no parent. -/
theorem overlappingRefreshes_fork :
    emptyAuth.Seeded ∧
      Along (authStep defaultAuthEnv) DrawsFreshFamily emptyAuth overlappingRefreshes ∧
      let s := exec (authStep defaultAuthEnv) emptyAuth overlappingRefreshes
      ¬ LinearFamilies s ∧
        s.db.refreshTokens.map (fun t => (t.id, t.familyId, t.rotatedTo, t.revokedAt.isNone)) =
          [(201, 301, some 203, false), (202, 301, none, true), (203, 301, none, true)] := by
  refine ⟨emptyAuth_seeded, by decide +kernel, ?_, by decide +kernel⟩
  intro hlinear
  exact absurd hlinear.oneActive (by decide +kernel)

/-- Two refreshes one after the other. -/
theorem successiveRefreshes_linear :
    Along (authStep defaultAuthEnv) (fun s a => LinearFamilies (authStep defaultAuthEnv s a))
      emptyAuth
      (registerAlice :: loginRun 0 drawA ++ refreshRun 0 rawA drawB 5 ++
        refreshRun 1 rawB drawC 5) :=
  (families_linear_iff emptyAuth_seeded defaultAuthEnv _ (by decide +kernel)).mpr
    (by decide +kernel)

end SeatReservation
