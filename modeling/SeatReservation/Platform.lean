import SeatReservation.SignOut
import SeatReservation.SystemInvariants

/-!
# The three services together

The auth service next to the combined system of the other two.  What connects
them is a user id: the auth service signs it into a token, the client carries the
token, and the guard of the other service hands the id to the handler.  There is
no foreign key between the databases and no call between the services, so who a
hold or a payment belongs to rests on what the guards let through.

The guards read clocks of their own.  `OnlySigned` is what the secret is for:
a text that verifies carries claims that were signed.
-/

namespace SeatReservation

open Relational TransitionSystem

/-! ### Requests behind the guard -/

/-- The routes with `JwtAuthGuard`, with what their handlers read and draw. -/
inductive GuardedCall where
  | hold (seatId : String) (header : Option String) (traceDraw : Uuid) (d : HoldDraw)
  | release (seatId : String) (header : Option String) (traceDraw : Uuid)
  | checkout (dto : CheckoutDto)

/-- What the handler does for the user of the request. -/
def GuardedCall.action (userId : Uuid) : GuardedCall → SystemAction
  | .hold seatId header traceDraw d => .hold seatId userId header traceDraw d
  | .release seatId header traceDraw => .release seatId userId header traceDraw
  | .checkout dto => .payment (.checkout ⟨dto, userId⟩) rfl

/-- Everything the system does without a request of a user. -/
def SystemAction.unguarded : SystemAction → Bool
  | .hold .. | .release .. | .payment (.checkout _) _ => false
  | _ => true

/-- A request the guard has let through. -/
structure Admission where
  user : AuthenticatedUser
  call : GuardedCall

structure PlatformEnv where
  auth : AuthEnv
  jwt : Jwt
  jwtAtTtlSeconds : Nat
  system : SystemEnv

/-- `signed` lists the tokens signed so far, and has no counterpart in the services. -/
structure Platform where
  auth : AuthService
  signed : List Signing
  system : System
  admissions : List Admission

inductive PlatformAction where
  | auth (a : AuthAction)
  | request (now : Nat) (authorization requestId : Option String) (call : GuardedCall)
  | handle (i : Nat)
  | lost (i : Nat)
  | system (a : SystemAction) (unguarded : a.unguarded = true)

/-- The time a request is let through at, on the clock of its guard, and its user. -/
def admitted (env : PlatformEnv) : PlatformAction → Option (Nat × AuthenticatedUser)
  | .request now authorization requestId _ =>
      match JwtAuthGuard.canActivate env.jwt now authorization requestId with
      | .ok user => some (now, user)
      | .error _ => none
  | _ => none

def platformStep (env : PlatformEnv) (p : Platform) : PlatformAction → Platform
  | .auth a =>
      { p with auth := authStep env.auth p.auth a, signed := p.signed ++ signings p.auth a }
  | .request now authorization requestId call =>
      match JwtAuthGuard.canActivate env.jwt now authorization requestId with
      | .ok user => { p with admissions := p.admissions ++ [⟨user, call⟩] }
      | .error _ => p
  | .handle i =>
      match p.admissions[i]? with
      | some admission =>
          { p with
            system := systemStep env.system p.system
              (admission.call.action admission.user.userId)
            admissions := p.admissions.eraseIdx i }
      | none => p
  | .lost i => { p with admissions := p.admissions.eraseIdx i }
  | .system a _ => { p with system := systemStep env.system p.system a }

/-- As the migrations and seeds leave it. -/
structure Platform.Seeded (p : Platform) : Prop where
  auth : p.auth.Seeded
  signed : p.signed = []
  system : p.system.Seeded
  admissions : p.admissions = []

/-- The claims of a token that has been signed. -/
def Signing.claims (ttlSeconds : Nat) (g : Signing) : AccessTokenClaims :=
  g.token.claims ttlSeconds g.clock

/-- A token that verifies was signed: nobody else has the secret. -/
def OnlySigned (env : PlatformEnv) (p : Platform) : PlatformAction → Prop
  | .request now authorization _ _ =>
      ∀ auth ∈ authorization, ∀ claims ∈ env.jwt.verify (now / 1000)
        (JsStrings.trim (JsStrings.sliceFrom 7 auth)),
          ∃ g ∈ p.signed, g.claims env.jwtAtTtlSeconds = claims
  | _ => True

instance (env : PlatformEnv) (p : Platform) : DecidablePred (OnlySigned env p)
  | .request now authorization _ _ => inferInstanceAs (Decidable
      (∀ auth ∈ authorization, ∀ claims ∈ env.jwt.verify (now / 1000)
        (JsStrings.trim (JsStrings.sliceFrom 7 auth)),
          ∃ g ∈ p.signed, g.claims env.jwtAtTtlSeconds = claims))
  | .auth _ | .handle _ | .lost _ | .system .. => inferInstanceAs (Decidable True)

/-- `verify` fails for a token that has expired. -/
def Jwt.ChecksExpiry (jwt : Jwt) : Prop :=
  ∀ now text claims, jwt.verify now text = some claims → now < claims.exp

/-! ### What the guard lets through -/

theorem admitted_iff {env : PlatformEnv} {a : PlatformAction} {now : Nat}
    {user : AuthenticatedUser} :
    admitted env a = some (now, user) ↔ ∃ authorization requestId call,
      a = .request now authorization requestId call ∧
        JwtAuthGuard.canActivate env.jwt now authorization requestId = .ok user := by
  constructor
  · intro h
    unfold admitted at h
    split at h
    · rename_i now' authorization requestId call
      split at h
      · rename_i user' hok
        cases h
        exact ⟨authorization, requestId, call, rfl, hok⟩
      · cases h
    · cases h
  · rintro ⟨authorization, requestId, call, rfl, hok⟩
    simp only [admitted, hok]

/-- The token is what the request was let through with. -/
structure Signing.Admits (env : PlatformEnv) (g : Signing) (now : Nat) (user : AuthenticatedUser) :
    Prop where
  sub : g.token.sub = user.userId
  email : g.token.email = user.email
  tv : g.token.tv = user.tokenVersion
  unexpired : now < g.clock + env.jwtAtTtlSeconds * 1000

theorem admits_of_admitted {env : PlatformEnv} (hjwt : env.jwt.ChecksExpiry) {p : Platform}
    {a : PlatformAction} (hsigned : OnlySigned env p a) {now : Nat} {user : AuthenticatedUser}
    (h : admitted env a = some (now, user)) : ∃ g ∈ p.signed, g.Admits env now user := by
  obtain ⟨authorization, requestId, call, rfl, hok⟩ := admitted_iff.mp h
  obtain ⟨auth, claims, rfl, hverify, rfl⟩ := JwtAuthGuard.canActivate_ok hok
  obtain ⟨g, hg, rfl⟩ := hsigned auth rfl claims hverify
  have hexp : now / 1000 < g.clock / 1000 + env.jwtAtTtlSeconds := hjwt _ _ _ hverify
  exact ⟨g, hg, rfl, rfl, rfl, by omega⟩

/-! ### Who the rows belong to -/

/-- A token of this user has been signed. -/
def Vouched (signed : List Signing) (userId : Uuid) : Prop := ∃ g ∈ signed, g.token.sub = userId

theorem Vouched.mono {signed signed' : List Signing} {userId : Uuid} (h : Vouched signed userId)
    (hsub : signed ⊆ signed') : Vouched signed' userId := by
  obtain ⟨g, hg, hsubject⟩ := h
  exact ⟨g, hsub hg, hsubject⟩

/-- Every user id of the system, in its rows and in the checkouts in progress, satisfies `P`. -/
structure System.UsersIn (P : Uuid → Prop) (s : System) : Prop where
  holds : ∀ h ∈ s.seat.holds, P h.userId
  intents : ∀ i ∈ s.payment.db.intents, P i.userId
  checkouts : ∀ c ∈ s.payment.checkouts, P c.request.userId

/-- The user an action of the system brings in. -/
def SystemAction.caller : SystemAction → Option Uuid
  | .hold _ userId .. => some userId
  | .payment (.checkout request) _ => some request.userId
  | _ => none

theorem GuardedCall.caller {userId id : Uuid} {call : GuardedCall}
    (h : (call.action userId).caller = some id) : id = userId := by
  cases call with
  | hold seatId header traceDraw d => exact (Option.some.inj h).symm
  | release seatId header traceDraw => cases h
  | checkout dto => exact (Option.some.inj h).symm

theorem SystemAction.caller_of_unguarded {a : SystemAction} (h : a.unguarded = true) :
    a.caller = none := by
  cases a with
  | hold seatId userId header traceDraw d => cases h
  | payment a hlocal =>
    cases a with
    | checkout request => cases h
    | _ => rfl
  | _ => rfl

/-- **A step brings in no user but its caller.** -/
theorem System.UsersIn.step {P : Uuid → Prop} {s : System} (h : s.UsersIn P)
    (hwf : s.WellFormed) (env : SystemEnv) {a : SystemAction}
    (hcaller : ∀ userId, a.caller = some userId → P userId) :
    (systemStep env s a).UsersIn P := by
  constructor
  · intro hold hmem
    rcases hwf.seatEffect env a with ⟨c, hcall, heffect⟩ | ⟨heq, -⟩
    · rcases heffect.hold_cases hmem with ⟨old, hold', -, -, huser⟩ |
        ⟨seatId, traceId, d, rfl, -, -⟩
      · rw [← huser]
        exact h.holds old hold'
      · cases seatCall_cases hcall with
        | hold seatId' userId header traceDraw d' => exact hcaller _ rfl
    · rw [heq] at hmem
      exact h.holds hold hmem
  · intro i hi
    rcases systemStep_paymentEffect env s a with ⟨c, -, heffect⟩ | ⟨heq, -⟩
    · revert i
      apply heffect.intentChange.forall_intents _ _ h.intents
      · intro i status now hi
        exact hi
      · intro c hc price pspIntentId clientSecret intentId _
        exact h.checkouts c hc
    · rw [heq] at hi
      exact h.intents i hi
  · intro c' hc'
    rcases systemStep_payment env s a with ⟨c, hcall, heq⟩ | ⟨-, heq⟩ | ⟨w, -, heq⟩
    · rw [heq] at hc'
      rcases mem_checkouts_step hc' with hc' | ⟨request, rfl, rfl⟩ | ⟨d, c₀, hc₀, rfl, -⟩
      · exact h.checkouts c' hc'
      · cases paymentCall_cases hcall with
        | own c hlocal => exact hcaller _ rfl
      · rw [checkoutStep_request]
        exact h.checkouts c₀ hc₀
    · rw [heq] at hc'
      exact h.checkouts c' hc'
    · rw [heq] at hc'
      exact h.checkouts c' hc'

/-! ### Alice takes a seat -/

/-- The token of Alice's first login, signed at time 0, with its parts cut short. -/
def aliceJwt : String := "eyJhbGciOiJI.eyJzdWIiOiIw.HyfVFR4jUuJH"

def aliceClaims : AccessTokenClaims := ⟨⟨101, "alice@example.com", 0⟩, 0, 900⟩

/-- `jsonwebtoken` on that token. -/
def aliceJsonwebtoken : Jwt where
  sign _ := aliceJwt
  verify now text := if text = aliceJwt ∧ now < 900 then some aliceClaims else none

theorem aliceJsonwebtoken_checksExpiry : aliceJsonwebtoken.ChecksExpiry := by
  intro now text claims h
  simp only [aliceJsonwebtoken] at h
  split at h
  · rename_i hlive
    cases h
    exact hlive.2
  · cases h

def alicePlatformEnv : PlatformEnv :=
  ⟨defaultAuthEnv, aliceJsonwebtoken, 900, defaultSystemEnv⟩

def seedPlatform : Platform := ⟨emptyAuth, [], seedSystem, []⟩

theorem seedPlatform_seeded : seedPlatform.Seeded :=
  ⟨emptyAuth_seeded, rfl, seedSystem_seeded, rfl⟩

/-- A request with Alice's token to hold seat A1. -/
def aliceHoldsA1 (now : Nat) : PlatformAction :=
  .request now (some ("Bearer " ++ aliceJwt)) none
    (.hold "00000000-0000-0000-0000-000000000001" none 701 ⟨501, 901, now, now, now⟩)

def aliceSignsIn : List PlatformAction := (registerAlice :: loginRun 0 drawA).map .auth

/-! ### Every reachable state -/

structure Platform.Consistent (env : PlatformEnv) (p : Platform) : Prop where
  auth : p.auth.WellFormed
  signed : AllHonest env.auth p.auth p.signed
  past : ∀ g ∈ p.signed, g.clock ≤ p.auth.clock
  grace : GraceBounded env.auth p.auth
  system : p.system.WellFormed
  admissions : ∀ a ∈ p.admissions, Vouched p.signed a.user.userId
  users : p.system.UsersIn (Vouched p.signed)

theorem Platform.Seeded.consistent {p : Platform} (h : p.Seeded) (env : PlatformEnv) :
    p.Consistent env where
  auth := h.auth.wellFormed
  signed := ⟨h.auth.snapshots env.auth, by simp [h.signed]⟩
  past := by simp [h.signed]
  grace := h.auth.graceBounded env.auth
  system := h.system.wellFormed
  admissions := by simp [h.admissions]
  users := ⟨by simp [h.system.seat.holds], by simp [h.system.payment.intents],
    by simp [h.system.payment.checkouts]⟩

theorem Platform.Consistent.step {env : PlatformEnv} (hjwt : env.jwt.ChecksExpiry) {p : Platform}
    (h : p.Consistent env) {a : PlatformAction} (hsigned : OnlySigned env p a) :
    (platformStep env p a).Consistent env := by
  cases a with
  | auth a =>
    have hgrow : p.signed ⊆ p.signed ++ signings p.auth a := List.subset_append_left ..
    refine ⟨h.auth.step a, h.signed.step a, ?_, h.grace.step a, h.system, ?_, ?_⟩
    · intro g hg
      have hclock := clock_le_step env.auth p.auth a
      rcases List.mem_append.mp hg with hg | hg
      · exact (h.past g hg).trans hclock
      · rw [(mem_signings hg).1]
        exact hclock
    · intro admission hmem
      exact (h.admissions admission hmem).mono hgrow
    · exact ⟨fun x hx => (h.users.holds x hx).mono hgrow,
        fun x hx => (h.users.intents x hx).mono hgrow,
        fun x hx => (h.users.checkouts x hx).mono hgrow⟩
  | request now authorization requestId call =>
    simp only [platformStep]
    split
    · rename_i user hok
      refine ⟨h.auth, h.signed, h.past, h.grace, h.system, ?_, h.users⟩
      intro admission hmem
      rcases List.mem_append.mp hmem with hmem | hmem
      · exact h.admissions admission hmem
      · rw [List.mem_singleton.mp hmem]
        obtain ⟨g, hg, hadmits⟩ := admits_of_admitted hjwt hsigned
          (admitted_iff.mpr ⟨authorization, requestId, call, rfl, hok⟩)
        exact ⟨g, hg, hadmits.sub⟩
    · exact h
  | handle i =>
    simp only [platformStep]
    cases hget : p.admissions[i]? with
    | none => exact h
    | some admission =>
      refine ⟨h.auth, h.signed, h.past, h.grace, h.system.step env.system _, ?_, ?_⟩
      · intro a ha
        exact h.admissions a (List.mem_of_mem_eraseIdx ha)
      · apply h.users.step h.system env.system
        intro userId hcaller
        rw [GuardedCall.caller hcaller]
        exact h.admissions admission (List.mem_of_getElem? hget)
  | lost i =>
    refine ⟨h.auth, h.signed, h.past, h.grace, h.system, ?_, h.users⟩
    intro a ha
    exact h.admissions a (List.mem_of_mem_eraseIdx ha)
  | system a hunguarded =>
    refine ⟨h.auth, h.signed, h.past, h.grace, h.system.step env.system a, h.admissions, ?_⟩
    apply h.users.step h.system env.system
    intro userId hcaller
    rw [SystemAction.caller_of_unguarded hunguarded] at hcaller
    cases hcaller

theorem Platform.Seeded.consistent_exec {env : PlatformEnv} (hjwt : env.jwt.ChecksExpiry)
    {p : Platform} (h : p.Seeded) {as : List PlatformAction}
    (hsigned : Along (platformStep env) (OnlySigned env) p as) :
    (exec (platformStep env) p as).Consistent env :=
  exec_invariant (Platform.Consistent env) (fun _ _ h hok => h.step hjwt hok) (h.consistent env)
    hsigned

/-- **A request is let through only for a user who was authenticated less than the lifetime of
    an access token ago.**  In every run, the token it was let through with was signed by the
    auth service less than `JWT_AT_TTL_SECONDS` before, names an account of the database by its
    id and address, and answered a request that had shown the password of that account or one of
    its refresh tokens. -/
theorem admitted_recently_authenticated {env : PlatformEnv} (hjwt : env.jwt.ChecksExpiry)
    {p : Platform} (hseed : p.Seeded) {as : List PlatformAction}
    (hsigned : Along (platformStep env) (OnlySigned env) p as) :
    Along (platformStep env)
      (fun q a => ∀ now user, admitted env a = some (now, user) →
        ∃ g ∈ q.signed, g.Admits env now user ∧ g.clock ≤ q.auth.clock ∧
          g.Honest env.auth q.auth.db) p as := by
  apply along_of_invariant (Platform.Consistent env) (fun _ _ h hok => h.step hjwt hok)
  · intro q a h hok now user hadmitted
    obtain ⟨g, hg, hadmits⟩ := admits_of_admitted hjwt hok hadmitted
    exact ⟨g, hg, hadmits, h.past g hg, h.signed.honest g hg⟩
  · exact hseed.consistent env
  · exact hsigned

/-- Alice's token gets her a hold in the last second of its lifetime, and nothing after it. -/
theorem admitted_recently_authenticated_alice :
    let as := aliceSignsIn ++ [.auth (.advance 899999), aliceHoldsA1 899999, .handle 0,
      aliceHoldsA1 900000]
    (exec (platformStep alicePlatformEnv) seedPlatform as).system.seat.holds.map (·.userId) =
        [101] ∧
      Along (platformStep alicePlatformEnv)
        (fun q a => ∀ now user, admitted alicePlatformEnv a = some (now, user) →
          ∃ g ∈ q.signed, g.Admits alicePlatformEnv now user ∧ g.clock ≤ q.auth.clock ∧
            g.Honest defaultAuthEnv q.auth.db) seedPlatform as :=
  ⟨by decide +kernel, admitted_recently_authenticated aliceJsonwebtoken_checksExpiry
    seedPlatform_seeded (by decide +kernel)⟩

/-- **Holds and payments belong to accounts.**  In every run each hold of `seat_db` and each
    intent of `payment_db` belongs to a user of `auth_db`, who has been authenticated by password
    or refresh token, although no constraint spans the databases. -/
theorem rows_belong_to_accounts {env : PlatformEnv} (hjwt : env.jwt.ChecksExpiry)
    {p : Platform} (hseed : p.Seeded) {as : List PlatformAction}
    (hsigned : Along (platformStep env) (OnlySigned env) p as) :
    let q := exec (platformStep env) p as
    (∀ h ∈ q.system.seat.holds, ∃ g ∈ q.signed, g.token.sub = h.userId ∧
      g.Honest env.auth q.auth.db) ∧
    ∀ i ∈ q.system.payment.db.intents, ∃ g ∈ q.signed, g.token.sub = i.userId ∧
      g.Honest env.auth q.auth.db := by
  intro q
  have h : q.Consistent env := hseed.consistent_exec hjwt hsigned
  constructor
  · intro hold hmem
    obtain ⟨g, hg, hsub⟩ := h.users.holds hold hmem
    exact ⟨g, hg, hsub, h.signed.honest g hg⟩
  · intro i hi
    obtain ⟨g, hg, hsub⟩ := h.users.intents i hi
    exact ⟨g, hg, hsub, h.signed.honest g hg⟩

theorem rows_belong_to_accounts_alice :
    let q := exec (platformStep alicePlatformEnv) seedPlatform
      (aliceSignsIn ++ [aliceHoldsA1 1000, .handle 0])
    q.system.seat.holds.length = 1 ∧ ∀ h ∈ q.system.seat.holds, ∃ g ∈ q.signed,
      g.token.sub = h.userId ∧ g.Honest defaultAuthEnv q.auth.db :=
  ⟨by decide +kernel, (rows_belong_to_accounts aliceJsonwebtoken_checksExpiry seedPlatform_seeded
    (by decide +kernel)).1⟩

/-! ### After a logout-all -/

/-- The action accepts no password of this user. -/
def Platform.NoSignIn (env : PlatformEnv) (userId : Uuid) (p : Platform) : PlatformAction → Prop
  | .auth a => SeatReservation.NoSignIn env.auth userId p.auth a
  | _ => True

instance (env : PlatformEnv) (userId : Uuid) (p : Platform) :
    DecidablePred (Platform.NoSignIn env userId p)
  | .auth a => inferInstanceAs (Decidable (SeatReservation.NoSignIn env.auth userId p.auth a))
  | .request .. | .handle _ | .lost _ | .system .. => inferInstanceAs (Decidable True)

/-- What every action of the auth service keeps, every action of the platform keeps. -/
theorem auth_invariant {env : PlatformEnv} (Inv : AuthService → Prop) {userId : Uuid}
    (hstep : ∀ (s : AuthService) a, s.WellFormed → Inv s → NoSignIn env.auth userId s a →
      Inv (authStep env.auth s a))
    {p : Platform} (hwf : p.auth.WellFormed) (h : Inv p.auth) {a : PlatformAction}
    (hno : p.NoSignIn env userId a) : Inv (platformStep env p a).auth := by
  cases a with
  | auth a => exact hstep p.auth a hwf h hno
  | request now authorization requestId call =>
    simp only [platformStep]
    split
    · exact h
    · exact h
  | handle i =>
    simp only [platformStep]
    split
    · exact h
    · exact h
  | lost i => exact h
  | system a hunguarded => exact h

/-- The user is signed out, and has no token younger than `latest`. -/
structure Platform.Expelled (env : PlatformEnv) (userId : Uuid) (latest : Nat) (p : Platform) :
    Prop where
  consistent : p.Consistent env
  signedOut : SignedOut userId p.auth
  old : ∀ g ∈ p.signed, g.token.sub = userId → g.clock ≤ latest

theorem Platform.Expelled.step {env : PlatformEnv} (hjwt : env.jwt.ChecksExpiry) {userId : Uuid}
    {latest : Nat} {p : Platform} (h : p.Expelled env userId latest) {a : PlatformAction}
    (hsigned : OnlySigned env p a) (hno : p.NoSignIn env userId a) :
    (platformStep env p a).Expelled env userId latest := by
  have hout := auth_invariant (SignedOut userId) (fun s a hwf h hno => h.step hwf hno)
    h.consistent.auth h.signedOut hno
  refine ⟨h.consistent.step hjwt hsigned, hout, ?_⟩
  cases a with
  | auth a =>
    intro g hg hsub
    rcases List.mem_append.mp hg with hg | hg
    · exact h.old g hg hsub
    · exact absurd hsub (h.signedOut.not_signed h.consistent.signed.snapshots hg)
  | request now authorization requestId call =>
    simp only [platformStep]
    split
    · exact h.old
    · exact h.old
  | handle i =>
    simp only [platformStep]
    split
    · exact h.old
    · exact h.old
  | lost i => exact h.old
  | system a hunguarded => exact h.old

/-- From a logout-all to the state where the grace windows are over and what was under way
    has been answered. -/
theorem expelled_of_logout {env : PlatformEnv} (hjwt : env.jwt.ChecksExpiry) {p : Platform}
    (h : p.Consistent env) {a : AuthAction} {userId : Uuid} {bs : List PlatformAction}
    (hsigned : Along (platformStep env) (OnlySigned env) p (.auth a :: bs))
    (hlogout : revocationOf p.auth a = some (.ofUser userId)) (hbefore : NoneUnderWay userId p.auth)
    (hno : Along (platformStep env) (Platform.NoSignIn env userId)
      (platformStep env p (.auth a)) bs)
    (hgrace : p.auth.clock + env.auth.rtGraceSeconds * 1000 <
      (exec (platformStep env) p (.auth a :: bs)).auth.clock)
    (hafter : NoneUnderWay userId (exec (platformStep env) p (.auth a :: bs)).auth) :
    (exec (platformStep env) p (.auth a :: bs)).Expelled env userId
      (exec (platformStep env) p (.auth a :: bs)).auth.clock := by
  have hstart : (platformStep env p (.auth a)).Consistent env := h.step hjwt hsigned.1
  have hfading : FadingOut userId (p.auth.clock + env.auth.rtGraceSeconds * 1000)
      (platformStep env p (.auth a)).auth := hbefore.fadingOut h.grace hlogout
  have hend := exec_invariant
    (fun q : Platform => q.Consistent env ∧
      FadingOut userId (p.auth.clock + env.auth.rtGraceSeconds * 1000) q.auth)
    (fun q b hq (hok : OnlySigned env q b ∧ q.NoSignIn env userId b) =>
      ⟨hq.1.step hjwt hok.1,
        auth_invariant (FadingOut userId _) (fun s a hwf h hno => h.step hwf hno)
          hq.1.auth hq.2 hok.2⟩)
    ⟨hstart, hfading⟩ ((along_and _ _ _ _).mpr ⟨hsigned.2, hno⟩)
  rw [exec_cons] at hgrace hafter ⊢
  exact ⟨hend.1, hend.2.signedOut hgrace hafter.refreshes, fun g hg _ => hend.1.past g hg⟩

/-- **Access ends after a logout-all.**  Let a user log out everywhere while no request of the
    user is under way, and not log in again.  Once the grace windows are over and the refreshes
    they let through are answered, the clock of the auth service at `latest`, the guards let no
    request through for the user from `latest + JWT_AT_TTL_SECONDS` on, on their clocks, whatever
    token is presented. -/
theorem access_ends_after_logout_all {env : PlatformEnv} (hjwt : env.jwt.ChecksExpiry)
    {p : Platform} (hseed : p.Seeded) {as bs cs : List PlatformAction} {a : AuthAction}
    {userId : Uuid}
    (hsigned : Along (platformStep env) (OnlySigned env) p (as ++ .auth a :: (bs ++ cs)))
    (hlogout : revocationOf (exec (platformStep env) p as).auth a = some (.ofUser userId))
    (hbefore : NoneUnderWay userId (exec (platformStep env) p as).auth)
    (hno : Along (platformStep env) (Platform.NoSignIn env userId)
      (exec (platformStep env) p (as ++ [.auth a])) (bs ++ cs))
    (hgrace : (exec (platformStep env) p as).auth.clock + env.auth.rtGraceSeconds * 1000 <
      (exec (platformStep env) p (as ++ .auth a :: bs)).auth.clock)
    (hafter : NoneUnderWay userId (exec (platformStep env) p (as ++ .auth a :: bs)).auth) :
    Along (platformStep env)
      (fun _ b => ∀ now user, admitted env b = some (now, user) →
        (exec (platformStep env) p (as ++ .auth a :: bs)).auth.clock +
          env.jwtAtTtlSeconds * 1000 ≤ now → user.userId ≠ userId)
      (exec (platformStep env) p (as ++ .auth a :: bs)) cs := by
  obtain ⟨hsigned₁, hsigned₂, hsigned₃⟩ := (along_append _ _ _ _).mp hsigned
  obtain ⟨hsigned₃, hsigned₄⟩ := (along_append _ _ _ _).mp hsigned₃
  obtain ⟨hno₁, hno₂⟩ := (along_append _ _ _ _).mp hno
  rw [exec_append, exec_cons, exec_nil] at hno₁ hno₂
  rw [exec_append] at hgrace hafter ⊢
  have hexpelled := expelled_of_logout hjwt (hseed.consistent_exec hjwt hsigned₁)
    ⟨hsigned₂, hsigned₃⟩ hlogout hbefore hno₁ hgrace hafter
  generalize (exec (platformStep env) (exec (platformStep env) p as) (.auth a :: bs)).auth.clock =
    latest at hexpelled ⊢
  refine along_of_invariant (Platform.Expelled env userId latest)
    (fun q b hq (hok : OnlySigned env q b ∧ q.NoSignIn env userId b) =>
      hq.step hjwt hok.1 hok.2) ?_ hexpelled ((along_and _ _ _ _).mpr ⟨hsigned₄, hno₂⟩)
  intro q b hq hok now user hadmitted hlate huser
  obtain ⟨g, hg, hadmits⟩ := admits_of_admitted hjwt hok.1 hadmitted
  have hold := hq.old g hg (hadmits.sub.trans huser)
  have hunexpired := hadmits.unexpired
  omega

/-- Alice logs out everywhere after five seconds; the token is let through until it expires. -/
def aliceSignsOut : List PlatformAction :=
  aliceSignsIn ++ ([.advance 5000, .logout (some rawA) true, .logoutStep 0].map .auth)

theorem access_ends_after_logout_all_alice :
    let bs : List PlatformAction := [.auth (.logoutStep 0), .auth (.advance 10001)]
    let after := exec (platformStep alicePlatformEnv) seedPlatform
      (aliceSignsOut ++ .auth (.logoutStep 0) :: bs)
    (admitted alicePlatformEnv (aliceHoldsA1 899999)).isSome = true ∧
      Along (platformStep alicePlatformEnv)
        (fun _ b => ∀ now user, admitted alicePlatformEnv b = some (now, user) →
          after.auth.clock + 900 * 1000 ≤ now → user.userId ≠ 101) after
        [aliceHoldsA1 899999, aliceHoldsA1 915001] :=
  ⟨by decide +kernel, access_ends_after_logout_all aliceJsonwebtoken_checksExpiry
    seedPlatform_seeded (by decide +kernel) (by decide +kernel) (by decide +kernel)
    (by decide +kernel) (by decide +kernel) (by decide +kernel)⟩

end SeatReservation
