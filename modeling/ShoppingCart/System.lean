import ShoppingCart.Redemption

/-! # The module as a system

Every call of the module is an `Operation`. The caller hands the module the rows it works
on, loaded from the store just before the call, as the views do when they fetch the cart,
and the services outside the module give their answers during the call (`Services`).
`step` runs one call: what it raised is dropped, what it wrote before raising stays.
A store is reachable when a sequence of calls leads to it from a store without orders.

`getDiscountPrice` stands for `CouponRedemption.get_discount_price` throughout: nothing
proved about the system depends on the price it computes.
-/

namespace ShoppingCart

/-- The calls of the module, each with the arguments its caller passes. Rows are passed
by key and loaded when the call starts. -/
inductive Operation
  | getCartForUser (user : UserId)
  | addPaidCourseRegistration (order : OrderId) (courseId : CourseId) (modeSlug : String)
      (cost : Option Int) (currency : Option String)
  | addCourseRegCodeItem (order : OrderId) (courseId : CourseId) (qty : Int)
      (modeSlug : String) (cost : Option Int) (currency : Option String)
  | addCertificateItem (order : OrderId) (courseId : CourseId) (cost : Int) (mode : String)
      (currency : String)
  | addDonation (order : OrderId) (donationAmount : Int) (courseId : Option CourseId)
      (currency : String)
  | clear (order : OrderId)
  | resetCartItemsPrices (order : OrderId)
  | startPurchase (order : OrderId)
  | updateOrderType (order : OrderId)
  | purchase (order : OrderId) (billTo : BillTo)
  | freeUserEnrollment (order : OrderId)
  | refundCertCallback (courseEnrollment : CertificateItem.UnenrolledEnrollment)
  | addRegCodeRedemption (courseRegCode : CodeId) (order : OrderId)
  | createInvoiceGeneratedRegistrationRedemption (courseRegCode : CodeId) (user : UserId)
  | deleteRegistrationRedemption (user : UserId) (cart : OrderId)
  | addCouponRedemption (coupon : Coupon) (order : OrderId)
  | deleteCouponRedemption (user : UserId) (cart : OrderId)
  deriving Repr

/-- Run `body` on the order stored under `key`; there is nothing to call without one. -/
def withOrder (key : OrderId) (body : Order → Action α) : Action Unit := do
  match ← Action.read (·.orders key) with
  | some order =>
    let _ ← body order
    pure ()
  | none => pure ()

theorem withOrder_after_none {key : OrderId} {body : Order → Action α} {store : Store}
    (row : store.orders key = none) : (withOrder key body).after store = store := by
  simp only [withOrder, Action.after_read_bind, row, Action.after_pure]

theorem withOrder_after_some {key : OrderId} {body : Order → Action α} {store : Store}
    {order : Order} (row : store.orders key = some order) :
    (withOrder key body).after store = (body order).after store := by
  simp only [withOrder, Action.after_read_bind, row, Action.after_bind_pure]

/-- Run `body` on the registration code stored under `key`. -/
def withCode (key : CodeId) (body : CourseRegistrationCode → Action α) : Action Unit := do
  match ← Action.read (·.registrationCodes key) with
  | some courseRegCode =>
    let _ ← body courseRegCode
    pure ()
  | none => pure ()

section

variable (getDiscountPrice : Int → Int → Int)

/-- The call of the module an operation makes. -/
def Operation.action (services : Services) : Operation → Action Unit
  | .getCartForUser user => do
    let _ ← Order.getCartForUser user
    pure ()
  | .addPaidCourseRegistration order courseId modeSlug cost currency =>
    withOrder order fun order =>
      PaidCourseRegistration.addToOrder services order courseId modeSlug cost currency
  | .addCourseRegCodeItem order courseId qty modeSlug cost currency =>
    withOrder order fun order =>
      CourseRegCodeItem.addToOrder services order courseId qty modeSlug cost currency
  | .addCertificateItem order courseId cost mode currency =>
    withOrder order fun order =>
      CertificateItem.addToOrder services order courseId cost mode currency
  | .addDonation order donationAmount courseId currency =>
    withOrder order fun order =>
      Donation.addToOrder services order donationAmount courseId currency
  | .clear order => withOrder order Order.clear
  | .resetCartItemsPrices order => withOrder order Order.resetCartItemsPrices
  | .startPurchase order => withOrder order Order.startPurchase
  | .updateOrderType order => withOrder order (Order.updateOrderType services)
  | .purchase order billTo => withOrder order fun order => Order.purchase services order billTo
  | .freeUserEnrollment order => withOrder order CourseRegistrationCode.freeUserEnrollment
  | .refundCertCallback courseEnrollment => do
    let _ ← CertificateItem.refundCertCallback courseEnrollment
    pure ()
  | .addRegCodeRedemption courseRegCode order =>
    withCode courseRegCode fun courseRegCode =>
      withOrder order (RegistrationCodeRedemption.addRegCodeRedemption courseRegCode)
  | .createInvoiceGeneratedRegistrationRedemption courseRegCode user =>
    withCode courseRegCode fun courseRegCode =>
      RegistrationCodeRedemption.createInvoiceGeneratedRegistrationRedemption courseRegCode user
  | .deleteRegistrationRedemption user cart =>
    withOrder cart (RegistrationCodeRedemption.deleteRegistrationRedemption user)
  | .addCouponRedemption coupon order =>
    withOrder order fun order => do
      -- the view passes the cart's own items as `cart_items`
      let cartItems ← Action.read (·.itemsOf order.id)
      CouponRedemption.addCouponRedemption getDiscountPrice coupon order cartItems
  | .deleteCouponRedemption user cart =>
    withOrder cart (CouponRedemption.deleteCouponRedemption user)

/-- One call of the module, with the services' answers during it. -/
def step (store : Store) (call : Services × Operation) : Store :=
  (call.2.action getDiscountPrice call.1).after store

/-- A sequence of calls, one after the other. -/
def run (store : Store) (calls : List (Services × Operation)) : Store :=
  calls.foldl (step getDiscountPrice) store

/-- A store before the module's first call: no orders, items or redemptions yet, and the
registration codes minted from invoices so far. -/
def Store.initial (registrationCodes : Table CourseRegistrationCode) (nextCodeId : Nat) :
    Store where
  orders _ := none
  nextOrderId := 0
  items _ := none
  nextItemId := 0
  registrationCodes := registrationCodes
  nextCodeId := nextCodeId
  registrationCodeRedemptions := []
  couponRedemptions := []
  effects := []
  fulfilments := []

/-- The stores some sequence of calls reaches from an initial store. -/
inductive Reachable : Store → Prop
  | initial (registrationCodes : Table CourseRegistrationCode) (nextCodeId : Nat) :
      Reachable (Store.initial registrationCodes nextCodeId)
  | step {store : Store} (call : Services × Operation) :
      Reachable store → Reachable (ShoppingCart.step getDiscountPrice store call)

theorem reachable_run {store : Store} (reachable : Reachable getDiscountPrice store)
    (calls : List (Services × Operation)) :
    Reachable getDiscountPrice (run getDiscountPrice store calls) := by
  induction calls generalizing store with
  | nil => exact reachable
  | cons call calls induction => exact induction (reachable.step call)

/-- A property that every call of a sequence keeps holds after the sequence. -/
theorem run_induction {Holds : Store → Prop} {calls : List (Services × Operation)}
    (kept : ∀ call ∈ calls, ∀ store, Holds store → Holds (step getDiscountPrice store call))
    {store : Store} (holds : Holds store) : Holds (run getDiscountPrice store calls) := by
  induction calls generalizing store with
  | nil => exact holds
  | cons call calls induction =>
    exact induction (fun call member => kept call (List.mem_cons_of_mem _ member))
      (kept call (List.mem_cons_self _ _) store holds)

/-- A property that every call keeps holds of every reachable store. -/
theorem Reachable.induction {Invariant : Store → Prop}
    (initial : ∀ registrationCodes nextCodeId,
      Invariant (Store.initial registrationCodes nextCodeId))
    (preserved : ∀ store call,
      Invariant store → Invariant (ShoppingCart.step getDiscountPrice store call))
    {store : Store} (reachable : Reachable getDiscountPrice store) : Invariant store := by
  induction reachable with
  | initial registrationCodes nextCodeId => exact initial registrationCodes nextCodeId
  | step call _ induction => exact preserved _ call induction

end

/-- Requests that run at once take their steps in the order a schedule gives. A property
that every step keeps, from a state outside a window to a state outside it, holds at the
end of every schedule none of whose prefixes leads into the window. -/
theorem schedule_induction {State : Type} (step : State → Bool → State)
    {Holds Window : State → Prop}
    (kept : ∀ state choice, Holds state → ¬Window state → ¬Window (step state choice) →
      Holds (step state choice)) :
    ∀ (schedule : List Bool) {state : State}, Holds state →
      (∀ steps ≤ schedule.length, ¬Window ((schedule.take steps).foldl step state)) →
      Holds (schedule.foldl step state)
  | [], _, holds, _ => holds
  | choice :: schedule, state, holds, outside =>
    schedule_induction step kept schedule
      (kept state choice holds (outside 0 (Nat.zero_le _)) (outside 1 (by simp)))
      fun steps fits => outside (steps + 1) (by simpa using fits)

/-- A property that every step keeps holds at the end of every schedule. -/
theorem schedule_always {State : Type} (step : State → Bool → State) {Holds : State → Prop}
    (kept : ∀ state choice, Holds state → Holds (step state choice)) (schedule : List Bool)
    {state : State} (holds : Holds state) : Holds (schedule.foldl step state) :=
  @schedule_induction State step Holds (fun _ => False)
    (fun state choice holds _ _ => kept state choice holds) schedule state holds fun _ _ => id

/-! ## A site with one course -/

/-- The services of a site whose one course, `1`, sells a verified certificate at 50 usd
next to its free default mode, to users not enrolled yet, and whose mail backend sends.
The runs that show what the module does on a given sequence of calls are made against it. -/
def Services.oneCourse : Services where
  getCourse courseId := if courseId = 1 then some ⟨"Demo"⟩ else none
  modeForCourse _ _ := none
  modesForCourseDict courseId slug :=
    if courseId = 1 ∧ slug = "verified" then
      some ⟨"verified", "Verified Certificate", 50, "usd"⟩
    else none
  defaultMode := ⟨"honor", "Honor Code Certificate", 0, "usd"⟩
  isEnrolled _ _ := false
  getOrCreateEnrollment _ _ := 7
  paidCourseRegistrationAnnotation _ := none
  courseRegCodeItemAnnotation _ := none
  platformName := "edX"
  storeBillingInfo := false
  siteName := "lms"
  redemptionUrl code := "/register_code_redemption/" ++ code
  sendEmail := .sent

/-- The site of `Services.oneCourse` with a second course, `2`. -/
def Services.twoCourses : Services :=
  { Services.oneCourse with
    getCourse := fun courseId => if courseId = 1 ∨ courseId = 2 then some ⟨"Demo"⟩ else none }

/-- User 5's cart holding one seat of course 1 at 40 usd. -/
def seatInCart : List (Services × Operation) :=
  [(.oneCourse, .getCartForUser 5),
   (.oneCourse, .addPaidCourseRegistration 0 1 "honor" (some 40) none)]

/-- Two registration codes of course 1, generated from invoice 3. -/
def codesOfCourseOne : Table CourseRegistrationCode := fun key =>
  if key < 2 then
    some { id := key, courseId := 1, createdBy := 9, order := none, invoice := some 3 }
  else none

end ShoppingCart
