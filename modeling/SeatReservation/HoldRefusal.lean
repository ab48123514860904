import SeatReservation.SeatInvariants

/-!
# Why a hold is refused

`insertHoldTx` cleans up expired holds of the seat only, while two unique indexes
can refuse the new row.  So an expired hold never counts on its own seat, but
the one a user still has elsewhere blocks that user until the sweeper comes.
-/

namespace SeatReservation

open Relational TransitionSystem

/-- HELD, and not expired at the transaction's `NOW()`. -/
def HoldRow.IsLive (now : Nat) (h : HoldRow) : Prop := h.status = .held ∧ ¬ h.heldUntil < now

/-- Each refusal has a live hold as its reason. -/
structure RefusedForLiveReason (db : SeatDb) (seat userId : Uuid) (now : Nat)
    (result : Except SqlError InsertHoldResult) : Prop where
  seatHeld : result = .ok (.conflict .seatHeld) →
    ∃ h ∈ db.holds, h.seatId = seat ∧ h.IsLive now
  userHasHold : result = .ok (.conflict .userHasHold) →
    ∃ h ∈ db.holds, h.userId = userId ∧ h.seatId ≠ seat ∧ h.IsLive now

/-- The seat has a live hold anyway, or the drawn id is new and the user has no expired
    hold on another seat. -/
def NoStaleHold (db : SeatDb) (seat userId : Uuid) (d : HoldDraw) : Prop :=
  (∃ h ∈ db.holds, h.seatId = seat ∧ h.IsLive d.now) ∨
    ((∀ h ∈ db.holds, h.id ≠ d.holdId) ∧
      ∀ h ∈ db.holds, h.userId = userId → h.seatId ≠ seat → h.status = .held →
        ¬ h.heldUntil < d.now)

/-! ### The holds that are left after the cleanup -/

theorem exists_cleaned_id_iff {holds : List HoldRow} {seat id : Uuid} {now : Nat} :
    (∃ h ∈ lazyCleanup seat now holds, h.id = id) ↔ ∃ h ∈ holds, h.id = id := by
  have hids : (lazyCleanup seat now holds).map HoldRow.id = holds.map HoldRow.id :=
    map_update (fun r _ => HoldRow.release_id now r) holds
  rw [← List.mem_map, ← List.mem_map, hids]

/-- What is still HELD was HELD, and not an expired hold on the seat. -/
theorem mem_cleaned_held_iff {holds : List HoldRow} {seat : Uuid} {now : Nat} {h : HoldRow} :
    (h ∈ lazyCleanup seat now holds ∧ h.status = .held) ↔
      h ∈ holds ∧ h.status = .held ∧ (h.seatId = seat → ¬ h.heldUntil < now) := by
  constructor
  · rintro ⟨hmem, hheld⟩
    rcases mem_lazyCleanup.mp hmem with ⟨h₀, -, -, rfl⟩ | ⟨hmem, hnot⟩
    · simp at hheld
    · refine ⟨hmem, hheld, ?_⟩
      intro hseat hlt
      rw [isExpiredOn_iff.mpr ⟨hseat, hheld, hlt⟩] at hnot
      cases hnot
  · rintro ⟨hmem, hheld, hlive⟩
    refine ⟨mem_lazyCleanup.mpr (Or.inr ⟨hmem, ?_⟩), hheld⟩
    rw [Bool.eq_false_iff]
    intro hexp
    obtain ⟨hseat, -, hlt⟩ := isExpiredOn_iff.mp hexp
    exact hlive hseat hlt

theorem exists_cleaned_on_seat_iff {holds : List HoldRow} {seat : Uuid} {now : Nat} :
    (∃ h ∈ lazyCleanup seat now holds, h.status = .held ∧ h.seatId = seat) ↔
      ∃ h ∈ holds, h.seatId = seat ∧ h.IsLive now := by
  constructor
  · rintro ⟨h, hmem, hheld, hseat⟩
    obtain ⟨hmem, -, hlive⟩ := mem_cleaned_held_iff.mp ⟨hmem, hheld⟩
    exact ⟨h, hmem, hseat, hheld, hlive hseat⟩
  · rintro ⟨h, hmem, hseat, hheld, hlive⟩
    obtain ⟨hmem, -⟩ := mem_cleaned_held_iff.mpr ⟨hmem, hheld, fun _ => hlive⟩
    exact ⟨h, hmem, hheld, hseat⟩

/-! ### The answers of `insertHoldTx` -/

/-- What `insertHoldTx` answers when the row violates a constraint. -/
theorem insertHoldTx_of_violation {env : SeatEnv} {seatId : String} {userId : Uuid}
    (traceId : String) {d : HoldDraw} {db : SeatDb} {seat : Uuid}
    (hseat : Uuid.ofText seatId = some seat) {err : SqlError}
    (hviol : holdViolation db.seats (lazyCleanup seat d.now db.holds)
      (newHold env seat userId d) = some err) :
    (insertHoldTx env seatId userId traceId d db).1 =
      if err.code = "23505" then
        .ok (.conflict
          (if err.constraint = "uniq_active_hold_per_user" then .userHasHold else .seatHeld))
      else .error err := by
  unfold insertHoldTx
  rw [hseat]
  dsimp only
  rw [hviol]
  dsimp only
  split
  · rfl
  · rfl

theorem insertHoldTx_ok {env : SeatEnv} {seatId : String} {userId : Uuid} (traceId : String)
    {d : HoldDraw} {db : SeatDb} {seat : Uuid} (hseat : Uuid.ofText seatId = some seat)
    (hfree : holdViolation db.seats (lazyCleanup seat d.now db.holds)
      (newHold env seat userId d) = none) :
    (insertHoldTx env seatId userId traceId d db).1 = .ok (.ok (newHold env seat userId d)) := by
  unfold insertHoldTx
  rw [hseat]
  dsimp only
  rw [hfree]

theorem refused_iff_of_unique {db : SeatDb}
    (hunique : UniqueOn (fun h => h.status == .held) HoldRow.userId db.holds) (env : SeatEnv)
    {seatId : String} (userId : Uuid) (traceId : String) (d : HoldDraw) {seat : Uuid}
    (hseat : Uuid.ofText seatId = some seat) :
    RefusedForLiveReason db seat userId d.now (insertHoldTx env seatId userId traceId d db).1 ↔
      NoStaleHold db seat userId d := by
  rcases holdViolation_cases db.seats (lazyCleanup seat d.now db.holds) (newHold env seat userId d)
    with ⟨hid, hviol⟩ | ⟨-, hon, hviol⟩ | ⟨hid, hon, ⟨h, hmem, hheld, hmine⟩, hviol⟩ |
      ⟨hid, hon, hnone, hviol⟩
  · -- A drawn id that exists is reported as a held seat.
    have hanswer := insertHoldTx_of_violation traceId hseat hviol
    obtain ⟨h, hmem, hid⟩ := exists_cleaned_id_iff.mp hid
    constructor
    · intro hrefused
      exact Or.inl (hrefused.seatHeld hanswer)
    · rintro (hlive | ⟨hnew, -⟩)
      · exact ⟨fun _ => hlive, by rw [hanswer]; simp [uniqueViolation]⟩
      · exact absurd hid (hnew h hmem)
  · have hanswer := insertHoldTx_of_violation traceId hseat hviol
    have hlive := exists_cleaned_on_seat_iff.mp hon
    refine iff_of_true ⟨fun _ => hlive, ?_⟩ (Or.inl hlive)
    rw [hanswer]
    simp [uniqueViolation]
  · have hanswer := insertHoldTx_of_violation traceId hseat hviol
    obtain ⟨hmem, -, hkept⟩ := mem_cleaned_held_iff.mp ⟨hmem, hheld⟩
    have hnolive : ¬ ∃ h ∈ db.holds, h.seatId = seat ∧ h.IsLive d.now :=
      fun hlive => hon (exists_cleaned_on_seat_iff.mpr hlive)
    have hother : h.seatId ≠ seat := fun hhere => hnolive ⟨h, hmem, hhere, hheld, hkept hhere⟩
    -- The hold that blocks the user is the only HELD one the user has.
    have honly : ∀ h' ∈ db.holds, h'.userId = userId → h'.status = .held → h' = h := by
      intro h' hmem' hmine' hheld'
      exact hunique h' hmem' h hmem (by simp [hheld']) (by simp [hheld]) (hmine'.trans hmine.symm)
    constructor
    · intro hrefused
      obtain ⟨h', hmem', hmine', -, hlive'⟩ := hrefused.userHasHold hanswer
      rw [honly h' hmem' hmine' hlive'.1] at hlive'
      refine Or.inr ⟨fun r hr heq => hid (exists_cleaned_id_iff.mpr ⟨r, hr, heq⟩), ?_⟩
      intro r hr hminer _ hheldr
      rw [honly r hr hminer hheldr]
      exact hlive'.2
    · rintro (hlive | ⟨-, hfresh⟩)
      · exact absurd hlive hnolive
      · refine ⟨by rw [hanswer]; simp [uniqueViolation], fun _ => ?_⟩
        exact ⟨h, hmem, hmine, hother, hheld, hfresh h hmem hmine hother hheld⟩
  · have hanswer : ∀ reason,
        (insertHoldTx env seatId userId traceId d db).1 ≠ .ok (.conflict reason) := by
      intro reason
      rcases hviol with ⟨-, hviol⟩ | ⟨-, hviol⟩
      · rw [insertHoldTx_ok traceId hseat hviol]
        simp
      · rw [insertHoldTx_of_violation traceId hseat hviol]
        simp [foreignKeyViolation]
    refine iff_of_true ⟨fun h => absurd h (hanswer _), fun h => absurd h (hanswer _)⟩ ?_
    refine Or.inr ⟨fun r hr heq => hid (exists_cleaned_id_iff.mpr ⟨r, hr, heq⟩), ?_⟩
    intro r hr hmine hother hheld _
    obtain ⟨hmem, -⟩ := mem_cleaned_held_iff.mpr ⟨hr, hheld, fun hhere => absurd hhere hother⟩
    exact hnone ⟨r, hmem, hheld, hmine⟩

/-- **A refusal has a live reason** iff the seat is held anyway, or the user has no expired
    hold on another seat. -/
theorem refused_for_live_reason_iff {db : SeatDb} (hdb : db.Seeded) (env : SeatEnv)
    (as : List SeatAction) {seatId : String} (userId : Uuid) (traceId : String) (d : HoldDraw)
    {seat : Uuid} (hseat : Uuid.ofText seatId = some seat) :
    RefusedForLiveReason (exec (seatStep env) db as) seat userId d.now
        (insertHoldTx env seatId userId traceId d (exec (seatStep env) db as)).1 ↔
      NoStaleHold (exec (seatStep env) db as) seat userId d :=
  refused_iff_of_unique (hdb.wellFormed_exec env as).activePerUser env userId traceId d hseat

/-- User 101 takes seat A1 until 120 s. -/
def earlierHold : SeatAction :=
  .insertHoldTx (Uuid.toString 1) 101 "t" ⟨501, 901, 0, 0, 0⟩

/-- At 200 s user 101 asks for seat A2. -/
def laterDraw : HoldDraw := ⟨502, 902, 200000, 200000, 200000⟩

/-- The expired hold on A1 is the reason, and it is not live. -/
theorem refused_for_expired_hold :
    seedDb.Seeded ∧ ¬ RefusedForLiveReason (exec (seatStep defaultSeatEnv) seedDb [earlierHold]) 2
      101 laterDraw.now (insertHoldTx defaultSeatEnv (Uuid.toString 2) 101 "t" laterDraw
        (exec (seatStep defaultSeatEnv) seedDb [earlierHold])).1 := by
  refine ⟨seedDb_seeded, ?_⟩
  intro hrefused
  obtain ⟨h, hmem, hmine, -, hheld, hlive⟩ := hrefused.userHasHold (by decide +kernel)
  have hexpired : ∀ h ∈ (exec (seatStep defaultSeatEnv) seedDb [earlierHold]).holds,
      h.heldUntil < laterDraw.now := by decide +kernel
  exact hlive (hexpired h hmem)

/-- Another user is refused because the seat is taken. -/
theorem refused_for_taken_seat :
    RefusedForLiveReason (exec (seatStep defaultSeatEnv) seedDb [earlierHold]) 1 102 60000
      (insertHoldTx defaultSeatEnv (Uuid.toString 1) 102 "t" ⟨502, 902, 60000, 60000, 60000⟩
        (exec (seatStep defaultSeatEnv) seedDb [earlierHold])).1 :=
  (refused_for_live_reason_iff seedDb_seeded defaultSeatEnv [earlierHold] 102 "t"
    ⟨502, 902, 60000, 60000, 60000⟩ (by decide +kernel)).mpr
      (Or.inl ⟨newHold defaultSeatEnv 1 101 ⟨501, 901, 0, 0, 0⟩, by decide +kernel, rfl, rfl,
        by decide⟩)

end SeatReservation
