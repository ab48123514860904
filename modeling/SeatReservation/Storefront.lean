import SeatReservation.ReservationSafety
import SeatReservation.CheckoutAnswers
import SeatReservation.JsStrings
import SeatReservation.SeatRuntime

/-!
# What the page sells

The checkout takes the seat and the hold as two unrelated ids, and the seat
consumer reserves whatever hold the payment names: the services do not connect
the two.  The page does.  `holdSeat` asks for a hold and hands the seat it was
clicked on, with the `holdId` of the answer, to `checkout`.  So when every
checkout is sent by a page, each payment is for the hold it was quoted for.  The
user is another matter: `api` takes the token it finds when it is called, which
may be another user's by the time the answer comes in.
-/

namespace SeatReservation

open Relational TransitionSystem

/-! ### Answers to a request for a hold -/

/-- The body `SeatsController.hold` answers with. -/
structure HoldResponse where
  holdId : Uuid
  seatId : String
  heldUntil : Nat
  priceCents : Option Nat
deriving DecidableEq

def getPrice (seatId : String) (db : SeatDb) : Option (Nat × String) :=
  (Uuid.ofText seatId).bind fun id =>
    (db.seats.find? fun s => s.id == id).map fun s => (s.priceCents, s.currency)

/-- What a request for a hold is answered with, unless it fails. -/
def holdResponse (env : SeatEnv) (seatId : String) (userId : Uuid) (traceId : String)
    (d : HoldDraw) (db : SeatDb) : Option HoldResponse :=
  match insertHoldTx env seatId userId traceId d db with
  | (.ok (.ok hold), db') =>
      some ⟨hold.id, seatId, hold.heldUntil, (getPrice seatId db').map (·.1)⟩
  | _ => none

/-! ### The page -/

/-- A request `holdSeat` has sent with the token of `userId`. -/
structure SeatClick where
  tab : Nat
  userId : Uuid
  seatId : String
deriving DecidableEq

structure Quote where
  click : SeatClick
  response : HoldResponse
deriving DecidableEq

structure Storefront where
  system : System
  /-- The user of the `accessToken` of each open tab. -/
  tabs : List (Option Uuid)
  clicks : List SeatClick
  /-- Answers on their way to the page. -/
  answers : List Quote
  /-- All answers so far. -/
  quotes : List Quote
  /-- All checkouts sent so far. -/
  sent : List CheckoutRequest

@[simp] theorem PaymentAction.isLocal_checkout (request : CheckoutRequest) :
    (PaymentAction.checkout request).isLocal = true := rfl

def SystemAction.sendsCheckout : SystemAction → Bool
  | .payment (.checkout _) _ => true
  | _ => false

inductive StorefrontAction where
  | elsewhere (a : SystemAction) (isElsewhere : a.sendsCheckout = false)
  | openTab
  /-- A login sets the token, a logout clears it. -/
  | setToken (tab : Nat) (user : Option Uuid)
  | holdSeat (tab : Nat) (seatId : String)
  | clickLost (i : Nat)
  | hold (i : Nat) (header : Option String) (traceDraw : Uuid) (d : HoldDraw)
  | answerLost (i : Nat)
  | checkout (i : Nat) (key : UuidText)

namespace Storefront

/-- The user the page acts for. -/
def user (c : Storefront) (tab : Nat) : Option Uuid := c.tabs[tab]?.join

def holdSeat (tab : Nat) (seatId : String) (c : Storefront) : Storefront :=
  match c.user tab with
  | none => c
  | some user => { c with clicks := c.clicks ++ [⟨tab, user, seatId⟩] }

/-- The request is handled, and answered when there is a hold. -/
def hold (env : SystemEnv) (i : Nat) (header : Option String) (traceDraw : Uuid) (d : HoldDraw)
    (c : Storefront) : Storefront :=
  match c.clicks[i]? with
  | none => c
  | some click =>
      let answer := (holdResponse env.seat click.seatId click.userId
        (resolveTraceId header traceDraw) d c.system.seat).map (Quote.mk click)
      { c with
        system := systemStep env c.system
          (.hold click.seatId click.userId header traceDraw d)
        clicks := c.clicks.eraseIdx i
        answers := c.answers ++ answer.toList
        quotes := c.quotes ++ answer.toList }

/-- The page has the answer and calls `checkout`, with the token it has now. -/
def checkout (env : SystemEnv) (i : Nat) (key : UuidText) (c : Storefront) : Storefront :=
  match c.answers[i]? with
  | none => c
  | some q =>
      let c' := { c with answers := c.answers.eraseIdx i }
      match c.user q.click.tab, Uuid.ofText q.click.seatId with
      | some user, some seat =>
          if isUuidText q.click.seatId then
            let request : CheckoutRequest := ⟨⟨seat, q.response.holdId, key⟩, user⟩
            { c' with
              system := systemStep env c.system
                (.payment (.checkout request) (PaymentAction.isLocal_checkout request))
              sent := c.sent ++ [request] }
          else c'
      | _, _ => c'

def start (s : System) : Storefront := ⟨s, [], [], [], [], []⟩

end Storefront

def storefrontStep (env : SystemEnv) (c : Storefront) : StorefrontAction → Storefront
  | .elsewhere a _ => { c with system := systemStep env c.system a }
  | .openTab => { c with tabs := c.tabs ++ [none] }
  | .setToken tab user => { c with tabs := c.tabs.set tab user }
  | .holdSeat tab seatId => c.holdSeat tab seatId
  | .clickLost i => { c with clicks := c.clicks.eraseIdx i }
  | .hold i header traceDraw d => c.hold env i header traceDraw d
  | .answerLost i => { c with answers := c.answers.eraseIdx i }
  | .checkout i key => c.checkout env i key

/-! ### Prices -/

/-- Both databases have been given the same prices. -/
def SamePrices (s : System) : Prop :=
  ∀ r ∈ s.seat.seats, (getSeatPrice r.id s.payment.db).map (·.priceCents) = some r.priceCents

instance (s : System) : Decidable (SamePrices s) := by
  unfold SamePrices
  infer_instance

/-- A step changes nothing but the status of a seat. -/
theorem SeatEffect.seat_before {env : SeatEnv} {db db' : SeatDb} {a : SeatAction}
    (heffect : SeatEffect env db a db') {r' : SeatRow} (hr' : r' ∈ db'.seats) :
    ∃ r ∈ db.seats, r.id = r'.id ∧ r.priceCents = r'.priceCents := by
  cases heffect with
  | nothing => exact ⟨r', hr', rfl, rfl⟩
  | held =>
    rcases mem_update.mp hr' with ⟨r, hr, -, rfl⟩ | ⟨hr, -⟩
    · exact ⟨r, hr, rfl, rfl⟩
    · exact ⟨r', hr, rfl, rfl⟩
  | released =>
    rcases mem_update.mp hr' with ⟨r, hr, -, rfl⟩ | ⟨hr, -⟩
    · exact ⟨r, hr, rfl, rfl⟩
    · exact ⟨r', hr, rfl, rfl⟩
  | reserved =>
    rcases mem_update.mp hr' with ⟨r, hr, -, rfl⟩ | ⟨hr, -⟩
    · exact ⟨r, hr, rfl, rfl⟩
    · exact ⟨r', hr, rfl, rfl⟩

theorem getSeatPrice_systemStep (env : SystemEnv) (s : System) (a : SystemAction) (seat : Uuid) :
    getSeatPrice seat (systemStep env s a).payment.db = getSeatPrice seat s.payment.db := by
  unfold getSeatPrice
  rcases systemStep_paymentEffect env s a with ⟨c, -, heffect⟩ | ⟨-, hsame, -⟩
  · rw [heffect.seatPrices]
  · rw [hsame]

theorem SamePrices.step {s : System} (h : SamePrices s) (hwf : s.WellFormed) (env : SystemEnv)
    (a : SystemAction) : SamePrices (systemStep env s a) := by
  intro r' hr'
  rw [getSeatPrice_systemStep]
  have hbefore : ∃ r ∈ s.seat.seats, r.id = r'.id ∧ r.priceCents = r'.priceCents := by
    rcases systemStep_seat env s a with ⟨c, -, heq⟩ | ⟨-, heq⟩ | ⟨w, -, heq⟩
    · rw [heq] at hr'
      exact (seatStep_effect hwf.seat.holdKeys env.seat c).seat_before hr'
    · rw [heq] at hr'
      exact ⟨r', hr', rfl, rfl⟩
    · rw [heq] at hr'
      exact ⟨r', hr', rfl, rfl⟩
  obtain ⟨r, hr, hid, hprice⟩ := hbefore
  rw [← hid, ← hprice]
  exact h r hr

/-- The price the page is told is the price of the checkout. -/
theorem SamePrices.getPrice {s : System} (h : SamePrices s) {seatId : String} {seat : Uuid}
    (hseat : Uuid.ofText seatId = some seat) (hexists : seat ∈ s.seat.seats.map SeatRow.id) :
    (SeatReservation.getPrice seatId s.seat).map (·.1) =
      (getSeatPrice seat s.payment.db).map (·.priceCents) := by
  obtain ⟨r₀, hr₀, hid₀⟩ := List.mem_map.mp hexists
  unfold SeatReservation.getPrice
  rw [hseat, Option.bind_some]
  cases hfind : s.seat.seats.find? fun r => r.id == seat with
  | none => exact absurd (beq_iff_eq.mpr hid₀) (List.find?_eq_none.mp hfind r₀ hr₀)
  | some r =>
    have hid : r.id = seat := by simpa using List.find?_some hfind
    rw [← hid, h r (List.mem_of_find?_eq_some hfind)]
    rfl

/-! ### Where the checkouts come from -/

/-- The hold is the one the page was given for the click. -/
structure Quote.IsFor (q : Quote) (h : HoldRow) : Prop where
  holdId : h.id = q.response.holdId
  userId : h.userId = q.click.userId
  seatId : Uuid.ofText q.click.seatId = some h.seatId

theorem AnsweredByKey.mono {rs rs' : List CheckoutRequest} {s : PaymentService}
    (h : AnsweredByKey rs s) (hsub : rs ⊆ rs') : AnsweredByKey rs' s where
  checkouts := fun c hc => hsub (h.checkouts c hc)
  intents := fun i hi => (h.intents i hi).imp fun _ hr => ⟨hsub hr.1, hr.2⟩
  madeFor := fun i hi => (h.madeFor i hi).imp fun _ hr => ⟨hsub hr.1, hr.2⟩
  answers := h.answers

theorem AnsweredByKey.systemStep {rs : List CheckoutRequest} {s : System} {env : SystemEnv}
    {a : SystemAction} (h : AnsweredByKey rs s.payment)
    (ha : ∀ r hlocal, a = .payment (.checkout r) hlocal → r ∈ rs) :
    AnsweredByKey rs (systemStep env s a).payment := by
  rcases systemStep_payment env s a with ⟨c, hcall, heq⟩ | ⟨-, heq⟩ | ⟨w, -, heq⟩
  · rw [heq]
    apply h.step
    rintro r rfl
    cases paymentCall_cases hcall with
    | own c hlocal => exact ha r hlocal rfl
  · rw [heq]
    exact h
  · rw [heq]
    exact ⟨⟨h.checkouts, h.intents⟩, h.madeFor, h.answers⟩

/-- A hold that is reserved when a payment is consumed is the one the payment names. -/
theorem System.Reachable.reserved_named {s : System} (h : s.Reachable) {env : SystemEnv}
    {a : SystemAction} {e : PaymentSucceededV1}
    (hconsumed : SeatReservation.consumedSuccess env.formats s a = some e) {r : HoldRow}
    (hr : r ∈ s.seat.holds) (hheld : r.status = .held)
    (hreserved : ∃ r' ∈ (systemStep env s a).seat.holds, r'.id = r.id ∧ r'.status = .reserved) :
    e.holdId = r.id := by
  obtain ⟨r', hr', hid, hstatus⟩ := hreserved
  have hnot : r' ∉ s.seat.holds := by
    intro hin
    rw [h.wellFormed.seat.holdKeys.eq_of_mem hin hr hid, hheld] at hstatus
    cases hstatus
  rcases h.wellFormed.seatEffect env a with ⟨c, hcall, heffect⟩ | ⟨hsame, -⟩
  · rcases heffect.reserved_cases hr' hstatus with hin | ⟨eventId, group, traceId, d, rfl⟩
    · exact absurd hin hnot
    · obtain ⟨e', hconsumed', hid', -⟩ := consumedSuccess_of_reserveHold hcall
      rw [Option.some.inj (hconsumed.symm.trans hconsumed'), hid', hid]
  · rw [hsame] at hr'
    exact absurd hr' hnot

/-- Quotes are kept, and every checkout is for one of them; `payer` is what is known about
    the user of such a checkout. -/
structure Storefront.Sound (payer : Quote → Uuid → Prop) (c : Storefront) : Prop where
  reachable : c.system.Reachable
  priced : c.system.payment.Priced
  samePrices : SamePrices c.system
  answers : c.answers ⊆ c.quotes
  quotes : ∀ q ∈ c.quotes, ∃ h ∈ c.system.seat.holds, q.IsFor h ∧
    q.response.priceCents = (getSeatPrice h.seatId c.system.payment.db).map (·.priceCents)
  sent : ∀ r ∈ c.sent, ∃ q ∈ c.quotes, q.response.holdId = r.dto.holdId ∧
    Uuid.ofText q.click.seatId = some r.dto.seatId ∧ payer q r.userId
  answered : AnsweredByKey c.sent c.system.payment

/-- The checkout the page sends is by a user that `payer` allows. -/
def StorefrontAction.PaidBy (payer : Quote → Uuid → Prop) (c : Storefront) :
    StorefrontAction → Prop
  | .checkout i _ => ∀ q ∈ c.answers[i]?, ∀ user ∈ c.user q.click.tab, payer q user
  | _ => True

section

variable {payer : Quote → Uuid → Prop} {c : Storefront} {env : SystemEnv}

theorem Storefront.Sound.hold_kept (h : c.Sound payer) {q : Quote} {r : HoldRow}
    (hr : r ∈ c.system.seat.holds) (hfor : q.IsFor r)
    (hprice : q.response.priceCents =
      (getSeatPrice r.seatId c.system.payment.db).map (·.priceCents)) (a : SystemAction) :
    ∃ r' ∈ (systemStep env c.system a).seat.holds, q.IsFor r' ∧ q.response.priceCents =
      (getSeatPrice r'.seatId (systemStep env c.system a).payment.db).map (·.priceCents) := by
  rcases h.reachable.wellFormed.seatEffect env a with ⟨b, -, heffect⟩ | ⟨hsame, -⟩
  · obtain ⟨r', hr', hid, hseat, huser, -⟩ := heffect.hold_kept hr
    refine ⟨r', hr', ⟨hid.trans hfor.holdId, huser.trans hfor.userId, ?_⟩, ?_⟩
    · rw [hseat]
      exact hfor.seatId
    · rw [getSeatPrice_systemStep, hseat]
      exact hprice
  · rw [hsame]
    refine ⟨r, hr, hfor, ?_⟩
    rw [getSeatPrice_systemStep]
    exact hprice

/-- A step of the system keeps what has been quoted and sent. -/
theorem Storefront.Sound.act (h : c.Sound payer) {a : SystemAction}
    {sent : List CheckoutRequest} (hsub : c.sent ⊆ sent)
    (hsent : ∀ r ∈ sent, ∃ q ∈ c.quotes, q.response.holdId = r.dto.holdId ∧
      Uuid.ofText q.click.seatId = some r.dto.seatId ∧ payer q r.userId)
    (ha : ∀ r hlocal, a = .payment (.checkout r) hlocal → r ∈ sent) :
    Storefront.Sound payer
      { c with system := systemStep env c.system a, sent := sent } where
  reachable := h.reachable.step env a
  priced := h.priced.systemStep env a
  samePrices := h.samePrices.step h.reachable.wellFormed env a
  answers := h.answers
  quotes := by
    intro q hq
    obtain ⟨r, hr, hfor, hprice⟩ := h.quotes q hq
    exact h.hold_kept hr hfor hprice a
  sent := hsent
  answered := (h.answered.mono hsub).systemStep ha

/-- The answer to a click quotes the hold that was made for it. -/
theorem Storefront.Sound.quote (h : c.Sound payer) {click : SeatClick} {header : Option String}
    {traceDraw : Uuid} {d : HoldDraw} {response : HoldResponse}
    (hresponse : holdResponse env.seat click.seatId click.userId
      (resolveTraceId header traceDraw) d c.system.seat = some response) :
    let s := systemStep env c.system
      (.hold click.seatId click.userId header traceDraw d)
    ∃ r ∈ s.seat.holds, Quote.IsFor ⟨click, response⟩ r ∧
      response.priceCents = (getSeatPrice r.seatId s.payment.db).map (·.priceCents) := by
  intro s
  unfold holdResponse at hresponse
  split at hresponse
  · rename_i hold db' heq
    obtain ⟨seat, hseat, rfl, -, hholds⟩ := insertHoldTx_ok_cases heq
    obtain rfl := Option.some.inj hresponse
    have hdb : s.seat = db' := congrArg Prod.snd heq
    have hmem : newHold env.seat seat click.userId d ∈ s.seat.holds := by
      rw [hdb, hholds]
      exact List.mem_append_right _ List.mem_cons_self
    have hreach : s.Reachable := h.reachable.step env _
    refine ⟨_, hmem, ⟨rfl, rfl, hseat⟩, ?_⟩
    rw [← hdb]
    exact (h.samePrices.step h.reachable.wellFormed env _).getPrice hseat
      (hreach.wellFormed.seat.seatRef _ hmem)
  · cases hresponse

/-- What happens in the page alone. -/
theorem Storefront.Sound.page (h : c.Sound payer) {c' : Storefront}
    (hsystem : c'.system = c.system) (hquotes : c'.quotes = c.quotes) (hsent : c'.sent = c.sent)
    (hanswers : c'.answers ⊆ c.answers) : c'.Sound payer := by
  obtain ⟨system, tabs, clicks, answers, quotes, sent⟩ := c'
  dsimp only at hsystem hquotes hsent hanswers
  subst hsystem hquotes hsent
  exact ⟨h.reachable, h.priced, h.samePrices, List.Subset.trans hanswers h.answers, h.quotes,
    h.sent, h.answered⟩

theorem Storefront.Sound.checkout (h : c.Sound payer) {i : Nat} {key : UuidText}
    (hok : (StorefrontAction.checkout i key).PaidBy payer c) :
    (c.checkout env i key).Sound payer := by
  have herased : Storefront.Sound payer { c with answers := c.answers.eraseIdx i } :=
    h.page rfl rfl rfl List.eraseIdx_subset
  unfold Storefront.checkout
  cases hget : c.answers[i]? with
  | none => exact h
  | some q =>
    have hq : q ∈ c.quotes := h.answers (List.mem_of_getElem? hget)
    dsimp only
    split
    · rename_i user seat huser hseat
      split
      · refine herased.act (List.subset_append_left _ _) ?_ ?_
        · intro r hr
          rcases List.mem_append.mp hr with hr | hr
          · exact h.sent r hr
          · rw [List.mem_singleton.mp hr]
            exact ⟨q, hq, rfl, hseat, hok q hget user huser⟩
        · intro r hlocal heq
          cases heq
          exact List.mem_append_right _ List.mem_cons_self
      · exact herased
    · exact herased

theorem Storefront.Sound.hold (h : c.Sound payer) (i : Nat) (header : Option String)
    (traceDraw : Uuid) (d : HoldDraw) : (c.hold env i header traceDraw d).Sound payer := by
  unfold Storefront.hold
  cases hget : c.clicks[i]? with
  | none => exact h
  | some click =>
    have hafter := @Storefront.Sound.act payer c env h
      (.hold click.seatId click.userId header traceDraw d) c.sent (List.Subset.refl c.sent) h.sent
      (by intro r hlocal heq; cases heq)
    dsimp only
    cases hresponse : holdResponse env.seat click.seatId click.userId
        (resolveTraceId header traceDraw) d c.system.seat with
    | none =>
      refine hafter.page rfl (List.append_nil _) rfl ?_
      show c.answers ++ [] ⊆ c.answers
      rw [List.append_nil]
      exact List.Subset.refl _
    | some response =>
      refine ⟨hafter.reachable, hafter.priced, hafter.samePrices, ?_, ?_, ?_, hafter.answered⟩
      · intro q hq
        rcases List.mem_append.mp hq with hq | hq
        · exact List.mem_append_left _ (h.answers hq)
        · exact List.mem_append_right _ hq
      · intro q hq
        rcases List.mem_append.mp hq with hq | hq
        · exact hafter.quotes q hq
        · rw [List.mem_singleton.mp hq]
          exact h.quote hresponse
      · intro r hr
        obtain ⟨q, hq, hfor⟩ := h.sent r hr
        exact ⟨q, List.mem_append_left _ hq, hfor⟩

theorem Storefront.Sound.step (h : c.Sound payer) {a : StorefrontAction}
    (hok : a.PaidBy payer c) : (storefrontStep env c a).Sound payer := by
  cases a with
  | elsewhere a helsewhere =>
    apply h.act (List.Subset.refl c.sent) h.sent
    rintro r hlocal rfl
    cases helsewhere
  | openTab => exact h.page rfl rfl rfl (List.Subset.refl _)
  | setToken => exact h.page rfl rfl rfl (List.Subset.refl _)
  | holdSeat tab seatId =>
    unfold storefrontStep Storefront.holdSeat
    dsimp only
    split
    · exact h
    · exact h.page rfl rfl rfl (List.Subset.refl _)
  | clickLost => exact h.page rfl rfl rfl (List.Subset.refl _)
  | hold i header traceDraw d => exact h.hold i header traceDraw d
  | answerLost i => exact h.page rfl rfl rfl List.eraseIdx_subset
  | checkout i key => exact h.checkout hok

end

/-! ### What is sold -/

/-- A hold that a payment reserves has been quoted to the user who has it, the payment is for
    its seat, and its amount is the price that was quoted. -/
def SoldAsQuoted (env : SystemEnv) (c : Storefront) : StorefrontAction → Prop
  | .elsewhere a _ => ∀ e ∈ consumedSuccess env.formats c.system a, ∀ h ∈ c.system.seat.holds,
      h.status = .held →
      (∃ h' ∈ (systemStep env c.system a).seat.holds, h'.id = h.id ∧ h'.status = .reserved) →
      h.seatId = e.seatId ∧ ∃ q ∈ c.quotes, q.IsFor h ∧ q.response.priceCents = some e.amountCents
  | _ => True

/-- A hold is reserved by a payment of the user who has it. -/
def SoldToHolder (env : SystemEnv) (c : Storefront) : StorefrontAction → Prop
  | .elsewhere a _ => ∀ e ∈ consumedSuccess env.formats c.system a, ∀ h ∈ c.system.seat.holds,
      h.status = .held →
      (∃ h' ∈ (systemStep env c.system a).seat.holds, h'.id = h.id ∧ h'.status = .reserved) →
      h.userId = e.userId
  | _ => True

/-- The payment that reserves a hold comes from a checkout for a quote of that hold. -/
theorem Storefront.Sound.reserved {payer : Quote → Uuid → Prop} {c : Storefront}
    {env : SystemEnv} (h : c.Sound payer) {a : SystemAction} {e : PaymentSucceededV1}
    (hconsumed : consumedSuccess env.formats c.system a = some e) {r : HoldRow}
    (hr : r ∈ c.system.seat.holds) (hheld : r.status = .held)
    (hreserved : ∃ r' ∈ (systemStep env c.system a).seat.holds,
      r'.id = r.id ∧ r'.status = .reserved) :
    r.seatId = e.seatId ∧ ∃ q ∈ c.quotes, q.IsFor r ∧
      q.response.priceCents = some e.amountCents ∧ payer q e.userId := by
  have hnamed := h.reachable.reserved_named hconsumed hr hheld hreserved
  obtain ⟨i, hi, -, -, hseat, huser, hhold, hamount⟩ := h.reachable.consumedSuccess hconsumed
  obtain ⟨request, hrequest, hmade⟩ := h.answered.madeFor i hi
  obtain ⟨q, hq, hqhold, hqseat, hpayer⟩ := h.sent request hrequest
  obtain ⟨r₀, hr₀, hfor, hprice⟩ := h.quotes q hq
  -- The hold of the quote is the hold of the payment.
  obtain rfl : r₀ = r := by
    apply h.reachable.wellFormed.seat.holdKeys.eq_of_mem hr₀ hr
    rw [hfor.holdId, hqhold, ← hmade.holdId, ← hhold, hnamed]
  have hsame : r₀.seatId = i.seatId := by
    rw [hmade.seatId]
    exact Option.some.inj (hfor.seatId.symm.trans hqseat)
  obtain ⟨price, hfound, hcents, -⟩ := h.priced.intents i hi
  refine ⟨hsame.trans hseat.symm, q, hq, hfor, ?_, ?_⟩
  · rw [hprice, hsame, hfound, hamount, hcents]
    rfl
  · rw [huser, hmade.userId]
    exact hpayer

theorem System.Seeded.sound {s : System} (h : s.Seeded) (hprices : SamePrices s)
    (payer : Quote → Uuid → Prop) : (Storefront.start s).Sound payer where
  reachable := h.reachable
  priced := h.payment.priced
  samePrices := hprices
  answers := List.Subset.refl _
  quotes := by intro q hq; cases hq
  sent := by intro r hr; cases hr
  answered := by
    refine ⟨h.payment.requestedBy _, ?_, ?_⟩
    · intro i hi
      simp [Storefront.start, h.payment.intents] at hi
    · intro c hc
      simp [Storefront.start, h.payment.checkouts] at hc

/-- **The page sells what it quotes.**  When every checkout is sent by a page, in any run, the
    seat that a payment reserves is the one that was clicked on, for the user who clicked, at
    the price quoted; and if no answer comes in after another user has logged in to the tab,
    it is that user who pays. -/
theorem sold_as_quoted {s : System} (hseed : s.Seeded) (hprices : SamePrices s)
    (env : SystemEnv) (as : List StorefrontAction) :
    Along (storefrontStep env) (SoldAsQuoted env) (.start s) as ∧
      (Along (storefrontStep env)
          (StorefrontAction.PaidBy (fun q user => user = q.click.userId)) (.start s) as →
        Along (storefrontStep env) (SoldToHolder env) (.start s) as) := by
  constructor
  · apply along_of_invariant (Storefront.Sound fun _ _ => True) _ _ (hseed.sound hprices _)
      (along_mem _ (List.Subset.refl as))
    · intro c a h _
      apply h.step
      cases a <;> simp [StorefrontAction.PaidBy]
    · rintro c a h -
      cases a with
      | elsewhere a helsewhere =>
        intro e hconsumed r hr hheld hreserved
        obtain ⟨hseat, q, hq, hfor, hprice, -⟩ := h.reserved hconsumed hr hheld hreserved
        exact ⟨hseat, q, hq, hfor, hprice⟩
      | _ => trivial
  · intro hpaid
    apply along_of_invariant (Storefront.Sound fun q user => user = q.click.userId) _ _
      (hseed.sound hprices _) hpaid
    · intro c a h hok
      exact h.step hok
    · rintro c a h -
      cases a with
      | elsewhere a helsewhere =>
        intro e hconsumed r hr hheld hreserved
        obtain ⟨-, q, -, hfor, -, huser⟩ := h.reserved hconsumed hr hheld hreserved
        rw [hfor.userId, huser]
      | _ => trivial

instance (payer : Quote → Uuid → Prop) [∀ q user, Decidable (payer q user)] (c : Storefront)
    (a : StorefrontAction) : Decidable (a.PaidBy payer c) := by
  cases a <;> unfold StorefrontAction.PaidBy <;> infer_instance

/-- User 101 clicks on seat A3 and pays for it. -/
def clickedAndPaid : List StorefrontAction :=
  [.openTab, .setToken 0 (some 101), .holdSeat 0 seatA3,
   .hold 0 none 801 ⟨201, 301, 1000, 1000, 1000⟩, .checkout 0 firstKey] ++
    ((localRun (checkoutRun 0 ⟨⟨3, 201, firstKey⟩, 101⟩ 901 ++
      succeededRun "evt_1" firstKey 501) ++ publishPayment 4000 ++ [deliverPayment]).filterMap
        fun a => if h : a.sendsCheckout = false then some (.elsewhere a h) else none)

theorem sold_as_quoted_clicked :
    ((exec (storefrontStep defaultSystemEnv) (.start seedSystem) clickedAndPaid).system.seat.holds
      = [⟨201, 3, 101, .reserved, 121000, none, some 5000⟩]) ∧
    Along (storefrontStep defaultSystemEnv) (SoldAsQuoted defaultSystemEnv)
      (.start seedSystem) clickedAndPaid ∧
    Along (storefrontStep defaultSystemEnv) (SoldToHolder defaultSystemEnv) (.start seedSystem)
      clickedAndPaid :=
  have hsold := sold_as_quoted seedSystem_seeded (by decide +kernel) defaultSystemEnv
    clickedAndPaid
  ⟨by decide +kernel, hsold.1, hsold.2 (by decide +kernel)⟩

/-! ### What the page is told

`deliverMockWebhook` takes the PSP id from the client secret, as everything in
front of `_secret_`. -/

/-- No separator starts in front of a text that does not go on with `secret_`. -/
theorem beforeFirst_pi_mock {l : List Char} (h : l.head? ≠ some 's') :
    JsStrings.beforeFirst "_secret_".toList ("pi_mock_".toList ++ l) =
      "pi_mock_".toList ++ JsStrings.beforeFirst "_secret_".toList l := by
  cases l with
  | nil => decide
  | cons c l =>
    have hc : 's' ≠ c := fun heq => h (congrArg some heq.symm)
    have hseparator : "_secret_".toList = '_' :: 's' :: "ecret_".toList := by decide
    have hmock : "pi_mock_".toList = ['p', 'i', '_', 'm', 'o', 'c', 'k', '_'] := by decide
    rw [hseparator, hmock]
    simp only [List.cons_append, List.nil_append]
    rw [JsStrings.beforeFirst_cons (by decide), JsStrings.beforeFirst_cons (by decide),
      JsStrings.beforeFirst_cons_cons (by decide), JsStrings.beforeFirst_cons (by decide),
      JsStrings.beforeFirst_cons (by decide), JsStrings.beforeFirst_cons (by decide),
      JsStrings.beforeFirst_cons (by decide), JsStrings.beforeFirst_cons_cons hc]

theorem splitHead_clientSecretOf (key : UuidText) (random : String) :
    JsStrings.splitHead "_secret_" (clientSecretOf (pspIntentIdOf key.text) random) =
      pspIntentIdOf key.text := by
  have hchars := Uuid.ofText_chars key.reads
  have hunderscore : '_' ∉ key.text.toList := fun hin => absurd (hchars _ hin) (by decide)
  have hstart : (key.text.toList ++ ("_secret_".toList ++ random.toList)).head? ≠ some 's' := by
    cases htext : key.text.toList with
    | nil => simp
    | cons c l =>
      intro heq
      have hc : c = 's' := by simpa using heq
      rw [htext, hc] at hchars
      exact absurd (hchars 's' List.mem_cons_self) (by decide)
  have hrest : JsStrings.beforeFirst "_secret_".toList
      (key.text.toList ++ ("_secret_".toList ++ random.toList)) = key.text.toList := by
    have hhead : "_secret_".toList = '_' :: "secret_".toList := by decide
    rw [hhead, JsStrings.beforeFirst_append_of_not_mem hunderscore,
      JsStrings.beforeFirst_separator, List.append_nil]
  unfold JsStrings.splitHead clientSecretOf pspIntentIdOf
  simp only [String.toList_append, List.append_assoc]
  rw [beforeFirst_pi_mock hstart, hrest, ← String.toList_append, String.ofList_toList]

/-- The client secret of an intent names its PSP id. -/
structure PaymentService.NamesSecrets (s : PaymentService) : Prop where
  intents : ∀ i ∈ s.db.intents, ∃ random, i.clientSecret = clientSecretOf i.pspIntentId random
  called : ∀ c ∈ s.checkouts, ∀ price pspIntentId clientSecret,
    c.stage = .pspCalled price pspIntentId clientSecret →
      ∃ random, clientSecret = clientSecretOf pspIntentId random

theorem checkoutStep_clientSecret {d : CheckoutDraw} {c : Checkout} {db : PaymentDb}
    {price : SeatPrice} {pspIntentId clientSecret : String}
    (h : (checkoutStep d c db).1.stage = .pspCalled price pspIntentId clientSecret) :
    clientSecret = clientSecretOf pspIntentId d.random := by
  obtain ⟨request, stage⟩ := c
  obtain ⟨hstage, -⟩ := checkoutStep_pspCalled h
  cases hstage
  simp only [checkoutStep] at h
  split at h
  · cases h
    rfl
  · cases h

theorem PaymentService.NamesSecrets.step {s : PaymentService} (h : s.NamesSecrets)
    (env : PaymentEnv) (a : PaymentAction) : (paymentStep env s a).NamesSecrets where
  intents := by
    apply (paymentStep_effect env s a).intentChange.forall_intents _ _ h.intents
    · intro i status now hi
      exact hi
    · intro c hc price pspIntentId clientSecret intentId hstage
      exact h.called c hc price pspIntentId clientSecret hstage
  called := by
    intro c hc price pspIntentId clientSecret hstage
    rcases mem_checkouts_step hc with hc | ⟨request, -, rfl⟩ | ⟨d, c₀, -, rfl, -⟩
    · exact h.called c hc price pspIntentId clientSecret hstage
    · cases hstage
    · exact ⟨_, checkoutStep_clientSecret hstage⟩

theorem PaymentService.NamesSecrets.systemStep {s : System} (h : s.payment.NamesSecrets)
    (env : SystemEnv) (a : SystemAction) : (systemStep env s a).payment.NamesSecrets := by
  rcases systemStep_payment env s a with ⟨c, -, heq⟩ | ⟨-, heq⟩ | ⟨w, -, heq⟩
  · rw [heq]
    exact h.step env.payment c
  · rw [heq]
    exact h
  · rw [heq]
    exact ⟨h.intents, h.called⟩

/-- The page draws the key of each checkout anew, with `crypto.randomUUID`. -/
def StorefrontAction.FreshKey (c : Storefront) : StorefrontAction → Prop
  | .checkout _ key => ∀ r ∈ c.sent, r.dto.idempotencyKey.uuid ≠ key.uuid
  | _ => True

instance (c : Storefront) (a : StorefrontAction) : Decidable (a.FreshKey c) := by
  cases a <;> unfold StorefrontAction.FreshKey <;> infer_instance

def CheckoutRequest.key (r : CheckoutRequest) : Uuid := r.dto.idempotencyKey.uuid

theorem storefrontStep_sent {env : SystemEnv} {c : Storefront} {a : StorefrontAction}
    (hfresh : a.FreshKey c) (h : KeyedBy CheckoutRequest.key c.sent) :
    KeyedBy CheckoutRequest.key (storefrontStep env c a).sent := by
  cases a with
  | checkout i key =>
    simp only [storefrontStep, Storefront.checkout]
    split
    · exact h
    · split
      · split
        · exact h.insert hfresh
        · exact h
      · exact h
  | holdSeat tab seatId =>
    simp only [storefrontStep, Storefront.holdSeat]
    split <;> exact h
  | hold i header traceDraw d =>
    simp only [storefrontStep, Storefront.hold]
    split <;> exact h
  | _ => exact h

/-- Every step leaves the services alone or takes one of theirs. -/
theorem storefrontStep_system (env : SystemEnv) (c : Storefront) (a : StorefrontAction) :
    (storefrontStep env c a).system = c.system ∨
      ∃ b, (storefrontStep env c a).system = systemStep env c.system b := by
  cases a with
  | elsewhere a => exact Or.inr ⟨a, rfl⟩
  | checkout i key =>
    simp only [storefrontStep, Storefront.checkout]
    split
    · exact Or.inl rfl
    · rename_i q hget
      split
      · rename_i user seat huser hseat
        split
        · exact Or.inr ⟨.payment (.checkout ⟨⟨seat, q.response.holdId, key⟩, user⟩)
            (PaymentAction.isLocal_checkout _), rfl⟩
        · exact Or.inl rfl
      · exact Or.inl rfl
  | holdSeat tab seatId =>
    simp only [storefrontStep, Storefront.holdSeat]
    split <;> exact Or.inl rfl
  | hold i header traceDraw d =>
    simp only [storefrontStep, Storefront.hold]
    split
    · exact Or.inl rfl
    · rename_i click hget
      exact Or.inr ⟨.hold click.seatId click.userId header traceDraw d, rfl⟩
  | _ => exact Or.inl rfl

theorem System.Seeded.sound_fresh {s : System} (hseed : s.Seeded) (hprices : SamePrices s)
    {env : SystemEnv} {as : List StorefrontAction}
    (hfresh : Along (storefrontStep env) (fun c a => a.FreshKey c) (.start s) as) :
    let c := exec (storefrontStep env) (.start s) as
    c.Sound (fun _ _ => True) ∧ KeyedBy CheckoutRequest.key c.sent ∧
      c.system.payment.NamesSecrets := by
  apply exec_invariant (fun c : Storefront => c.Sound (fun _ _ => True) ∧
    KeyedBy CheckoutRequest.key c.sent ∧ c.system.payment.NamesSecrets) _ _ hfresh
  · rintro c a ⟨hsound, hkeys, hsecrets⟩ hfresh
    refine ⟨hsound.step ?_, storefrontStep_sent hfresh hkeys, ?_⟩
    · cases a <;> simp [StorefrontAction.PaidBy]
    · rcases storefrontStep_system env c a with hsame | ⟨b, hstep⟩
      · rw [hsame]
        exact hsecrets
      · rw [hstep]
        exact hsecrets.systemStep env b
  · refine ⟨hseed.sound hprices _, List.nodup_nil, ?_, ?_⟩
    · intro i hi
      simp [Storefront.start, hseed.payment.intents] at hi
    · intro c hc
      simp [Storefront.start, hseed.payment.checkouts] at hc

/-- **The checkout of the page is answered with the quote.**  When every checkout is sent by a
    page, each with a new key, a checkout that is answered 200 is for a hold the page has been
    quoted, at the price of the quote; the intent is for this hold, and it is the one intent
    with the PSP id the page takes from the client secret. -/
theorem checkout_answers_quote {s : System} (hseed : s.Seeded) (hprices : SamePrices s)
    {env : SystemEnv} {as : List StorefrontAction}
    (hfresh : Along (storefrontStep env) (fun c a => a.FreshKey c) (.start s) as) :
    let c := exec (storefrontStep env) (.start s) as
    ∀ k ∈ c.system.payment.checkouts, ∀ intentId clientSecret amountCents currency idempotent,
      k.stage = .done (.ok intentId clientSecret amountCents currency idempotent) →
        ∃ q ∈ c.quotes, q.response.holdId = k.request.dto.holdId ∧
          q.response.priceCents = some amountCents ∧
          ∃ i ∈ c.system.payment.db.intents, i.id = intentId ∧ i.holdId = q.response.holdId ∧
            ∀ j ∈ c.system.payment.db.intents,
              j.pspIntentId = JsStrings.splitHead "_secret_" clientSecret ↔ j = i := by
  intro c
  obtain ⟨hsound, hkeys, hsecrets⟩ := hseed.sound_fresh hprices hfresh
  intro k hk intentId clientSecret amountCents currency idempotent hdone
  obtain ⟨i, hi, idempotent', hresponse, hkey, -⟩ :=
    hsound.answered.answers k hk _ hdone rfl
  cases hresponse
  -- The key is that of no other request, so the intent was made for this one.
  obtain ⟨request, hrequest, hmade⟩ := hsound.answered.madeFor i hi
  obtain rfl : request = k.request := hkeys.eq_of_mem hrequest
    (hsound.answered.checkouts k hk) (hmade.idempotencyKey.symm.trans hkey)
  obtain ⟨q, hq, hqhold, hqseat, -⟩ := hsound.sent _ hrequest
  obtain ⟨r, -, hfor, hprice⟩ := hsound.quotes q hq
  obtain ⟨price, hfound, hcents, -⟩ := hsound.priced.intents i hi
  refine ⟨q, hq, hqhold, ?_, i, hi, rfl, hmade.holdId.trans hqhold.symm, ?_⟩
  · have hsame : r.seatId = i.seatId := by
      rw [hmade.seatId]
      exact Option.some.inj (hfor.seatId.symm.trans hqseat)
    rw [hprice, hsame, hfound, hcents]
    rfl
  · intro j hj
    have hwf := hsound.reachable.wellFormed.payment
    obtain ⟨random, hsecret⟩ := hsecrets.intents i hi
    obtain ⟨key, hpsp, -⟩ := hwf.pspIds i hi
    rw [hsecret, hpsp, splitHead_clientSecretOf, ← hpsp]
    constructor
    · exact hwf.eq_of_pspIntentId hj hi
    · rintro rfl
      rfl

theorem checkout_answers_quote_clicked :
    let c := exec (storefrontStep defaultSystemEnv) (.start seedSystem) clickedAndPaid
    ∀ k ∈ c.system.payment.checkouts, ∀ intentId clientSecret amountCents currency idempotent,
      k.stage = .done (.ok intentId clientSecret amountCents currency idempotent) →
        ∃ q ∈ c.quotes, q.response.holdId = k.request.dto.holdId ∧
          q.response.priceCents = some amountCents ∧
          ∃ i ∈ c.system.payment.db.intents, i.id = intentId ∧ i.holdId = q.response.holdId ∧
            ∀ j ∈ c.system.payment.db.intents,
              j.pspIntentId = JsStrings.splitHead "_secret_" clientSecret ↔ j = i :=
  checkout_answers_quote seedSystem_seeded (by decide +kernel) (by decide +kernel)

end SeatReservation
