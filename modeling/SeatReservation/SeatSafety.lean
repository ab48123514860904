import SeatReservation.SeatInvariants

/-!
# Selling a seat once, and announcing what is released

Two questions about every run of the seat service.  Nothing but the status of
the seat row records that a seat is sold, and `insertHoldTx` does not read it:
its unique indexes only see HELD holds.  A run therefore sells each seat at most
once exactly when no insert goes through on a RESERVED seat (`sold_once_iff`).
And of the four places that release a hold, the cleanup inside `insertHoldTx` is
the one that appends no event (`announces_iff`).
-/

namespace SeatReservation

open Relational TransitionSystem

/-! ### Selling a seat once -/

def OneReservedPerSeat (db : SeatDb) : Prop :=
  UniqueOn (fun h => h.status == .reserved) HoldRow.seatId db.holds

def StaysReserved (db db' : SeatDb) : Prop :=
  ∀ s ∈ db.seats, s.status = .reserved → s ∈ db'.seats

def SoldOnce (db db' : SeatDb) : Prop := OneReservedPerSeat db' ∧ StaysReserved db db'

instance (db db' : SeatDb) : Decidable (SoldOnce db db') :=
  inferInstanceAs
    (Decidable (UniqueOn _ _ _ ∧ ∀ s ∈ db.seats, s.status = .reserved → s ∈ db'.seats))

/-- A call of `insertHoldTx` on a RESERVED seat, with a new hold id and by a user
    without an active hold. -/
def resells (db : SeatDb) : SeatAction → Prop
  | .insertHoldTx seatId userId _ d =>
      (∃ s ∈ db.seats, Uuid.ofText seatId = some s.id ∧ s.status = .reserved) ∧
      (∀ h ∈ db.holds, h.id ≠ d.holdId) ∧
      (∀ h ∈ db.holds, h.userId = userId → h.status ≠ .held)
  | _ => False

instance (db : SeatDb) : (a : SeatAction) → Decidable (resells db a)
  | .insertHoldTx .. => inferInstanceAs (Decidable (_ ∧ _ ∧ _))
  | .releaseHold .. | .reserveHold .. | .tick .. => inferInstanceAs (Decidable False)

structure NeverResold (db : SeatDb) : Prop extends db.WellFormed where
  reservedSeat : ∀ h ∈ db.holds, h.status = .reserved →
    ∀ s ∈ db.seats, s.id = h.seatId → s.status = .reserved
  noActive : ∀ s ∈ db.seats, s.status = .reserved →
    ∀ h ∈ db.holds, h.seatId = s.id → h.status ≠ .held
  oneReserved : OneReservedPerSeat db

theorem SeatDb.Seeded.neverResold {db : SeatDb} (h : db.Seeded) : NeverResold db where
  toWellFormed := h.wellFormed
  reservedSeat := by intro r hr; simp [h.holds] at hr
  noActive := by
    intro s hs hres
    rw [h.available s hs] at hres
    simp at hres
  oneReserved := by intro r hr; simp [h.holds] at hr

/-- A hold on a seat that has an active hold is not RESERVED. -/
theorem NeverResold.not_reserved {db : SeatDb} (h : NeverResold db) {hold other : HoldRow}
    (hmem : hold ∈ db.holds) (hactive : hold.status = .held) (hother : other ∈ db.holds)
    (hseat : other.seatId = hold.seatId) : other.status ≠ .reserved := by
  intro hres
  obtain ⟨s, hs, hid⟩ := List.mem_map.mp (h.seatRef other hother)
  have hsold : s.status = .reserved := h.reservedSeat other hother hres s hs hid
  exact h.noActive s hs hsold hold hmem (by rw [hid, hseat]) hactive

theorem NeverResold.held {db : SeatDb} (h : NeverResold db) {seat : Uuid} {now : Nat}
    {hold : HoldRow} {outbox : Outbox} (hwf : SeatDb.WellFormed ⟨markSeat seat .held db.seats,
      lazyCleanup seat now db.holds ++ [hold], outbox, db.consumedEvents⟩)
    (hseat : hold.seatId = seat) (hstatus : hold.status = .held)
    (hunsold : ∀ s ∈ db.seats, s.id = seat → s.status ≠ .reserved) :
    NeverResold ⟨markSeat seat .held db.seats, lazyCleanup seat now db.holds ++ [hold], outbox,
      db.consumedEvents⟩ where
  toWellFormed := hwf
  reservedSeat := by
    intro r hr hres s hs hid
    have hold_r : r ∈ db.holds := by
      rcases List.mem_append.mp hr with hr | hr
      · rcases mem_lazyCleanup.mp hr with ⟨r₀, -, -, rfl⟩ | ⟨hr, -⟩
        · simp at hres
        · exact hr
      · rw [List.mem_singleton.mp hr, hstatus] at hres
        simp at hres
    rcases mem_markSeat.mp hs with ⟨s₀, hs₀, hid₀, rfl⟩ | ⟨hs, -⟩
    · exact absurd (h.reservedSeat r hold_r hres s₀ hs₀ hid) (hunsold s₀ hs₀ hid₀)
    · exact h.reservedSeat r hold_r hres s hs hid
  noActive := by
    intro s hs hsold r hr hid
    rcases mem_markSeat.mp hs with ⟨s₀, -, -, rfl⟩ | ⟨hs, hne⟩
    · simp at hsold
    · rcases List.mem_append.mp hr with hr | hr
      · rcases mem_lazyCleanup.mp hr with ⟨r₀, -, -, rfl⟩ | ⟨hr, -⟩
        · simp
        · exact h.noActive s hs hsold r hr hid
      · rw [List.mem_singleton.mp hr, hseat] at hid
        exact absurd hid.symm hne
  oneReserved := by
    apply UniqueOn.insert_of_not
    · exact h.oneReserved.update fun r _ => by simp
    · simp [hstatus]

theorem NeverResold.released {db : SeatDb} (h : NeverResold db) {p : HoldRow → Bool} {now : Nat}
    {outbox : Outbox}
    (hwf : SeatDb.WellFormed
      ⟨freeSeats ((returning p (HoldRow.release now) db.holds).map (·.seatId))
        (update p (HoldRow.release now) db.holds) db.seats,
        update p (HoldRow.release now) db.holds, outbox, db.consumedEvents⟩)
    (hactive : ∀ r ∈ db.holds, p r = true → r.status = .held) :
    NeverResold ⟨freeSeats ((returning p (HoldRow.release now) db.holds).map (·.seatId))
      (update p (HoldRow.release now) db.holds) db.seats, update p (HoldRow.release now) db.holds,
      outbox, db.consumedEvents⟩ where
  toWellFormed := hwf
  reservedSeat := by
    intro r hr hres s hs hid
    have hold_r : r ∈ db.holds := by
      rcases mem_update.mp hr with ⟨r₀, -, -, rfl⟩ | ⟨hr, -⟩
      · simp at hres
      · exact hr
    rcases mem_freeSeats hs with hs | ⟨s₀, hs₀, hfreed, -, rfl⟩
    · exact h.reservedSeat r hold_r hres s hs hid
    · -- The freed seat had an active hold, so `r` cannot be RESERVED.
      obtain ⟨row, hrow, hseat⟩ := List.mem_map.mp hfreed
      obtain ⟨hold, hmem, hp, rfl⟩ := mem_returning.mp hrow
      have hseat' : r.seatId = hold.seatId := by
        rw [HoldRow.release_seatId] at hseat
        exact hid.symm.trans hseat.symm
      exact absurd hres (h.not_reserved hmem (hactive hold hmem hp) hold_r hseat')
  noActive := by
    intro s hs hsold r hr hid
    rcases mem_freeSeats hs with hs | ⟨s₀, -, -, -, rfl⟩
    · rcases mem_update.mp hr with ⟨r₀, -, -, rfl⟩ | ⟨hr, -⟩
      · simp
      · exact h.noActive s hs hsold r hr hid
    · simp at hsold
  oneReserved := h.oneReserved.update fun r _ => by simp

theorem NeverResold.reserved {db : SeatDb} (h : NeverResold db) {hold : HoldRow} {now : Nat}
    {outbox : Outbox} {consumed : List (Uuid × String)}
    (hwf : SeatDb.WellFormed ⟨markSeat hold.seatId .reserved db.seats,
      update (isActiveHold hold.id) (HoldRow.reserve now) db.holds, outbox, consumed⟩)
    (hmem : hold ∈ db.holds) (hactive : hold.status = .held) :
    NeverResold ⟨markSeat hold.seatId .reserved db.seats,
      update (isActiveHold hold.id) (HoldRow.reserve now) db.holds, outbox, consumed⟩ := by
  have hsel : ∀ r ∈ db.holds, isActiveHold hold.id r = true → r = hold := by
    intro r hr hsel
    exact h.holdKeys.eq_of_mem hr hmem (isActiveHold_iff.mp hsel).1
  refine ⟨hwf, ?_, ?_, ?_⟩
  · intro r hr hres s hs hid
    rcases mem_markSeat.mp hs with ⟨s₀, -, -, rfl⟩ | ⟨hs, hne⟩
    · rfl
    · rcases mem_update.mp hr with ⟨r₀, hr₀, hp, rfl⟩ | ⟨hr, -⟩
      · rw [hsel r₀ hr₀ hp] at hid
        exact absurd hid hne
      · exact h.reservedSeat r hr hres s hs hid
  · intro s hs hsold r hr hid
    rcases mem_update.mp hr with ⟨r₀, -, -, rfl⟩ | ⟨hr, hnot⟩
    · simp
    · rcases mem_markSeat.mp hs with ⟨s₀, -, hid₀, rfl⟩ | ⟨hs, -⟩
      · -- The only active hold on the seat is the one that was just reserved.
        intro hheld
        have heq : r = hold := h.activePerSeat r hr hold hmem (by simp [hheld])
          (by simp [hactive]) (hid.trans hid₀)
        rw [heq, isActiveHold_iff.mpr ⟨rfl, hactive⟩] at hnot
        simp at hnot
      · exact h.noActive s hs hsold r hr hid
  · intro r hr r' hr' hres hres' hseat
    rcases mem_update.mp hr with ⟨r₀, hr₀, hp, rfl⟩ | ⟨hr, -⟩
    · rcases mem_update.mp hr' with ⟨r₀', hr₀', hp', rfl⟩ | ⟨hr', -⟩
      · rw [hsel r₀ hr₀ hp, hsel r₀' hr₀' hp']
      · rw [hsel r₀ hr₀ hp] at hseat
        exact absurd (by simpa using hres') (h.not_reserved hmem hactive hr' hseat.symm)
    · rcases mem_update.mp hr' with ⟨r₀', hr₀', hp', rfl⟩ | ⟨hr', -⟩
      · rw [hsel r₀' hr₀' hp'] at hseat
        exact absurd (by simpa using hres) (h.not_reserved hmem hactive hr hseat)
      · exact h.oneReserved r hr r' hr' hres hres' hseat

/-- An insert that goes through on a RESERVED seat is one `resells` describes. -/
theorem unsold_of_not_resells {env : SeatEnv} {db : SeatDb} {seatId : String} {userId : Uuid}
    {traceId : String} {d : HoldDraw} {seat : Uuid} (h : NeverResold db)
    (hsafe : ¬ resells db (.insertHoldTx seatId userId traceId d))
    (hseat : Uuid.ofText seatId = some seat)
    (hfree : holdViolation db.seats (lazyCleanup seat d.now db.holds)
      (newHold env seat userId d) = none) :
    ∀ s ∈ db.seats, s.id = seat → s.status ≠ .reserved := by
  intro s hs hid hsold
  obtain ⟨hnew, -, huser, -⟩ := holdViolation_lazyCleanup.mp hfree
  refine hsafe ⟨⟨s, hs, by rw [hseat, hid], hsold⟩, hnew, ?_⟩
  intro r hr hr_user hheld
  exact h.noActive s hs hsold r hr (by rw [(huser r hr hheld hr_user).1, hid]) hheld

theorem NeverResold.step {env : SeatEnv} {db : SeatDb} {a : SeatAction} (h : NeverResold db)
    (hsafe : ¬ resells db a) : NeverResold (seatStep env db a) := by
  have hwf := h.toWellFormed.step env a
  have heffect := seatStep_effect h.holdKeys env a
  generalize seatStep env db a = db' at hwf heffect ⊢
  cases heffect with
  | nothing => exact h
  | held seatId userId traceId d seat outbox row hseat hfree happ hkind =>
    exact h.held hwf rfl rfl (unsold_of_not_resells h hsafe hseat hfree)
  | released a now p outbox rows hactive happ hrows => exact h.released hwf hactive
  | reserved eventId group traceId d hold outbox row hmem hactive hnew happ hkind =>
    exact h.reserved hwf hmem hactive

theorem NeverResold.staysReserved {env : SeatEnv} {db : SeatDb} {a : SeatAction}
    (h : NeverResold db) (hsafe : ¬ resells db a) : StaysReserved db (seatStep env db a) := by
  intro s hs hsold
  have heffect := seatStep_effect h.holdKeys env a
  generalize seatStep env db a = db' at heffect ⊢
  cases heffect with
  | nothing => exact hs
  | held seatId userId traceId d seat outbox row hseat hfree happ hkind =>
    refine mem_markSeat.mpr (Or.inr ⟨hs, ?_⟩)
    intro hid
    exact unsold_of_not_resells h hsafe hseat hfree s hs hid hsold
  | released a now p outbox rows hactive happ hrows =>
    refine mem_update.mpr (Or.inr ⟨hs, ?_⟩)
    rw [Bool.and_eq_false_iff]
    left
    by_contra hfreed
    simp only [Bool.not_eq_false, List.contains_iff_mem] at hfreed
    obtain ⟨row, hrow, hseat⟩ := List.mem_map.mp hfreed
    obtain ⟨hold, hmem, hp, rfl⟩ := mem_returning.mp hrow
    exact h.noActive s hs hsold hold hmem hseat (hactive hold hmem hp)
  | reserved eventId group traceId d hold outbox row hmem hactive hnew happ hkind =>
    refine mem_markSeat.mpr (Or.inr ⟨hs, ?_⟩)
    intro hid
    exact h.noActive s hs hsold hold hmem hid.symm hactive

/-- A step that keeps every sold seat sold is not a second sale. -/
theorem not_resells_of_staysReserved {env : SeatEnv} {db : SeatDb} {a : SeatAction}
    (h : NeverResold db) (hstays : StaysReserved db (seatStep env db a)) : ¬ resells db a := by
  cases a with
  | insertHoldTx seatId userId traceId d =>
    rintro ⟨⟨s, hs, hseat, hsold⟩, hnew, huser⟩
    have hnone : ∀ r ∈ db.holds, r.status = .held → r.seatId ≠ s.id := fun r hr hheld hid =>
      h.noActive s hs hsold r hr hid hheld
    have hfree : holdViolation db.seats (lazyCleanup s.id d.now db.holds)
        (newHold env s.id userId d) = none := by
      refine holdViolation_lazyCleanup.mpr ⟨hnew, ?_, ?_, s, hs, rfl⟩
      · intro r hr hheld hid
        exact absurd hid (hnone r hr hheld)
      · intro r hr hheld hr_user
        exact absurd hheld (huser r hr hr_user)
    have hs' : s ∈ markSeat s.id .held db.seats := by
      have hmem := hstays s hs hsold
      simp only [seatStep, insertHoldTx_eq_commit traceId hseat hfree] at hmem
      exact hmem
    rcases mem_markSeat.mp hs' with ⟨s₀, -, -, heq⟩ | ⟨-, hne⟩
    · rw [← heq] at hsold
      simp at hsold
    · exact hne rfl
  | releaseHold holdId reason traceId d => exact id
  | reserveHold holdId eventId group traceId d => exact id
  | tick scan traceId now draw => exact id

/-- **A run sells every seat at most once iff it never inserts a hold on a seat
    that is already RESERVED.** -/
theorem sold_once_iff {db : SeatDb} (hseed : db.Seeded) (env : SeatEnv) (as : List SeatAction) :
    Along (seatStep env) (fun db a => SoldOnce db (seatStep env db a)) db as ↔
      Along (seatStep env) (fun db a => ¬ resells db a) db as := by
  apply along_iff_along NeverResold
  · intro db a h hsafe
    exact h.step hsafe
  · intro db a h
    constructor
    · intro hsold
      exact not_resells_of_staysReserved h hsold.2
    · intro hsafe
      exact ⟨(h.step hsafe).oneReserved, h.staysReserved hsafe⟩
  · exact hseed.neverResold

/-- One user holds and pays for seat A1, then a second one does the same. -/
def secondSale : List SeatAction :=
  let trace := "00000000-0000-0000-0000-0000000000aa"
  [.insertHoldTx "00000000-0000-0000-0000-000000000001" 101 trace ⟨201, 301, 1000, 1000, 1000⟩,
   .reserveHold 201 401 "seat-service" trace ⟨501, 2000, 2000⟩,
   .insertHoldTx "00000000-0000-0000-0000-000000000001" 102 trace ⟨202, 302, 3000, 3000, 3000⟩,
   .reserveHold 202 402 "seat-service" trace ⟨502, 4000, 4000⟩]

/-- The second hold takes the sold seat away, and the second payment sells it again. -/
theorem secondSale_resells :
    seedDb.Seeded ∧ ¬ OneReservedPerSeat (exec (seatStep defaultSeatEnv) seedDb secondSale) ∧
      ¬ StaysReserved (exec (seatStep defaultSeatEnv) seedDb (secondSale.take 2))
        (exec (seatStep defaultSeatEnv) seedDb (secondSale.take 3)) :=
  ⟨seedDb_seeded, by unfold OneReservedPerSeat; decide +kernel,
    by unfold StaysReserved; decide +kernel⟩

/-- Up to the first sale the run is one that sells once. -/
theorem firstSale_sold_once :
    Along (seatStep defaultSeatEnv) (fun db a => SoldOnce db (seatStep defaultSeatEnv db a)) seedDb
      (secondSale.take 2) :=
  (sold_once_iff seedDb_seeded defaultSeatEnv (secondSale.take 2)).mpr (by decide +kernel)

/-! ### Announcing what is released -/

/-- Every hold that goes from HELD to RELEASED is announced by a row the step appends. -/
def Announces (db db' : SeatDb) : Prop :=
  ∀ h ∈ db.holds, h.status = .held → ∀ h' ∈ db'.holds, h'.id = h.id → h'.status = .released →
    ∃ row ∈ appendedRows db.outbox db'.outbox, row.announcesRelease h = true

/-- A call of `insertHoldTx` that goes through on a seat with an expired HELD hold:
    the hold id is new and the user has no active hold but possibly that one. -/
def reclaimsExpired (db : SeatDb) : SeatAction → Prop
  | .insertHoldTx seatId userId _ d =>
      (∃ h ∈ db.holds, Uuid.ofText seatId = some h.seatId ∧ h.status = .held ∧
        h.heldUntil < d.now) ∧
      (∀ h ∈ db.holds, h.id ≠ d.holdId) ∧
      (∀ h ∈ db.holds, h.userId = userId → h.status = .held →
        Uuid.ofText seatId = some h.seatId)
  | _ => False

/-- The cleanup's precondition is exactly what makes the insert go through. -/
theorem reclaimsExpired_iff (env : SeatEnv) {db : SeatDb} (h : db.WellFormed) {seatId : String}
    {userId : Uuid} {traceId : String} {d : HoldDraw} :
    reclaimsExpired db (.insertHoldTx seatId userId traceId d) ↔
      ∃ seat, Uuid.ofText seatId = some seat ∧
        (∃ r ∈ db.holds, isExpiredOn seat d.now r = true) ∧
        holdViolation db.seats (lazyCleanup seat d.now db.holds) (newHold env seat userId d) =
          none := by
  constructor
  · rintro ⟨⟨r, hr, hseat, hheld, hlt⟩, hnew, huser⟩
    have hunique : ∀ r' ∈ db.holds, r'.status = .held → r'.seatId = r.seatId → r' = r := by
      intro r' hr' hheld' hseat'
      exact h.activePerSeat r' hr' r hr (by simp [hheld']) (by simp [hheld]) hseat'
    have hsame : ∀ r' : HoldRow, Uuid.ofText seatId = some r'.seatId → r'.seatId = r.seatId := by
      intro r' hseat'
      exact Option.some.inj (hseat'.symm.trans hseat)
    refine ⟨r.seatId, hseat, ⟨r, hr, isExpiredOn_iff.mpr ⟨rfl, hheld, hlt⟩⟩, ?_⟩
    obtain ⟨s, hs, hid⟩ := List.mem_map.mp (h.seatRef r hr)
    refine holdViolation_lazyCleanup.mpr ⟨hnew, ?_, ?_, s, hs, hid⟩
    · intro r' hr' hheld' hseat'
      rw [hunique r' hr' hheld' hseat']
      exact hlt
    · intro r' hr' hheld' huser'
      have hseat' := hsame r' (huser r' hr' huser' hheld')
      rw [hunique r' hr' hheld' hseat']
      exact ⟨rfl, hlt⟩
  · rintro ⟨seat, hseat, ⟨r, hr, hexp⟩, hfree⟩
    obtain ⟨hr_seat, hheld, hlt⟩ := isExpiredOn_iff.mp hexp
    obtain ⟨hnew, -, huser, -⟩ := holdViolation_lazyCleanup.mp hfree
    refine ⟨⟨r, hr, by rw [hseat, hr_seat], hheld, hlt⟩, hnew, ?_⟩
    intro r' hr' huser' hheld'
    rw [hseat, (huser r' hr' hheld' huser').1]

theorem SeatEffect.announces {env : SeatEnv} {db db' : SeatDb} {a : SeatAction}
    (heffect : SeatEffect env db a db') (h : db.WellFormed) (hsafe : ¬ reclaimsExpired db a) :
    Announces db db' := by
  intro hold hmem hheld hold' hmem' hid hreleased
  -- A hold that is still in the table as it was has not been released.
  have hstill : hold' ∈ db.holds → False := by
    intro hin
    rw [h.holdKeys.eq_of_mem hin hmem hid, hheld] at hreleased
    simp at hreleased
  cases heffect with
  | nothing => exact (hstill hmem').elim
  | held seatId userId traceId d seat outbox row hseat hfree happ hkind =>
    rcases List.mem_append.mp hmem' with hmem' | hmem'
    · rcases mem_lazyCleanup.mp hmem' with ⟨r, hr, hexp, rfl⟩ | ⟨hmem', -⟩
      · exact absurd ((reclaimsExpired_iff env h).mpr
          ⟨seat, hseat, ⟨r, hr, hexp⟩, hfree⟩) hsafe
      · exact (hstill hmem').elim
    · rw [List.mem_singleton.mp hmem'] at hreleased
      cases hreleased
  | released a now p outbox rows hactive happ hrows =>
    rcases mem_update.mp hmem' with ⟨r, hr, hp, rfl⟩ | ⟨hmem', -⟩
    · rw [happ.appendedRows_eq]
      have hr_eq : r = hold := h.holdKeys.eq_of_mem hr hmem hid
      have hret : r.release now ∈ returning p (HoldRow.release now) db.holds :=
        mem_returning.mpr ⟨r, hr, hp, rfl⟩
      obtain ⟨row, hrow, hann⟩ := exists_match hrows hret
      refine ⟨row, hrow, ?_⟩
      rw [← hr_eq]
      exact hann
    · exact (hstill hmem').elim
  | reserved eventId group traceId d r outbox row hr hactive hnew happ hkind =>
    rcases mem_update.mp hmem' with ⟨r₀, -, -, rfl⟩ | ⟨hmem', -⟩
    · simp at hreleased
    · exact (hstill hmem').elim

theorem not_reclaimsExpired_of_announces {env : SeatEnv} {db : SeatDb} {a : SeatAction}
    (h : db.WellFormed) (hann : Announces db (seatStep env db a)) : ¬ reclaimsExpired db a := by
  cases a with
  | insertHoldTx seatId userId traceId d =>
    intro hreclaims
    obtain ⟨seat, hseat, ⟨r, hr, hexp⟩, hfree⟩ := (reclaimsExpired_iff env h).mp hreclaims
    have hstep := insertHoldTx_eq_commit traceId hseat hfree
    have hrel : r.release d.now ∈
        (seatStep env db (.insertHoldTx seatId userId traceId d)).holds := by
      simp only [seatStep, hstep]
      exact List.mem_append_left _ (mem_lazyCleanup.mpr (Or.inl ⟨r, hr, hexp, rfl⟩))
    obtain ⟨row, hrow, hrow_ann⟩ := hann r hr (isExpiredOn_iff.mp hexp).2.1 _ hrel rfl rfl
    simp only [seatStep, hstep, (Outbox.Appends.insert ..).appendedRows_eq,
      List.mem_singleton] at hrow
    rw [hrow] at hrow_ann
    simp [OutboxRow.announcesRelease, Outbox.newRow] at hrow_ann
  | releaseHold holdId reason traceId d => exact id
  | reserveHold holdId eventId group traceId d => exact id
  | tick scan traceId now draw => exact id

/-- **A step announces every hold it releases iff it is not an insert that goes
    through on a seat with an expired hold.** -/
theorem announces_iff {db : SeatDb} (hseed : db.Seeded) (env : SeatEnv) (as : List SeatAction)
    (a : SeatAction) :
    Announces (exec (seatStep env) db as) (exec (seatStep env) db (as ++ [a])) ↔
      ¬ reclaimsExpired (exec (seatStep env) db as) a := by
  have hwf := hseed.wellFormed_exec env as
  rw [exec_append, exec_cons, exec_nil]
  constructor
  · exact not_reclaimsExpired_of_announces hwf
  · exact (seatStep_effect hwf.holdKeys env a).announces hwf

/-- A hold on seat A1 that expires at 121000. -/
def expiringHold : SeatAction :=
  .insertHoldTx "00000000-0000-0000-0000-000000000001" 101 "00000000-0000-0000-0000-0000000000aa"
    ⟨201, 301, 1000, 1000, 1000⟩

/-- The next user takes the seat over after the expiry, and nobody hears of the release. -/
theorem takeover_unannounced :
    seedDb.Seeded ∧ ¬ Announces (exec (seatStep defaultSeatEnv) seedDb [expiringHold])
      (exec (seatStep defaultSeatEnv) seedDb [expiringHold,
        .insertHoldTx "00000000-0000-0000-0000-000000000001" 102
          "00000000-0000-0000-0000-0000000000bb" ⟨202, 302, 200000, 200000, 200000⟩]) :=
  ⟨seedDb_seeded, by unfold Announces; decide +kernel⟩

/-- The sweeper announces the release of the same hold at the same time. -/
theorem sweep_announced :
    Announces (exec (seatStep defaultSeatEnv) seedDb [expiringHold])
      (exec (seatStep defaultSeatEnv) seedDb ([expiringHold] ++
        [.tick ⟨[201], by decide⟩ 601 200000 fun _ => (701, 200000)])) :=
  (announces_iff seedDb_seeded defaultSeatEnv [expiringHold] _).mpr fun h => h

end SeatReservation
