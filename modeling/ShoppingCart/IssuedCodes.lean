import ShoppingCart.Codes
import ShoppingCart.Discounts

/-! # No registration code belongs to an open order

Only the callback of a code bundle mints registration codes, and only `purchase` runs it,
on items of the order it has just saved as purchased. Every other call leaves the code
table as it was, and no call moves an order that is purchased or refunded back to the cart
or to paying (`OrderStatus.Moves`). So from a store whose codes are tied to closed orders
or to none, as the codes generated from invoices are, every run keeps them so
(`run_keeps_codes_on_closed_orders`).
-/

namespace ShoppingCart

open Action

/-- Every registration code tied to an order is tied to a stored order that is purchased or
refunded. -/
def Store.CodesOnClosedOrders (store : Store) : Prop :=
  ∀ issue ∈ store.codeIssues, ∀ key, issue.2.2.1 = some key →
    ∃ order, store.orders key = some order ∧ ¬order.status.IsOpen

/-- A status the module moves a closed order to is closed. -/
theorem OrderStatus.Moves.closed {old new : OrderStatus} (moved : old.Moves new)
    (closed : ¬old.IsOpen) : ¬new.IsOpen := by
  rcases moved with rfl | ⟨rfl, -⟩ | rfl | rfl
  · exact closed
  · exact absurd (.inl rfl) closed
  all_goals simp

/-! ## The calls that mint nothing -/

section

variable (issues : List (CourseId × UserId × Option OrderId × Option InvoiceId))

theorem Order.keeps_codeIssues_getCartForUser (user : UserId) :
    Keeps (·.codeIssues = issues) (Order.getCartForUser user) :=
  keeps_bind (keeps_read _ _) fun
    | some _ => keeps_pure _ _
    | none => keeps_createOrder fun _ same => same

theorem CertificateItem.keeps_codeIssues_addToOrder (services : Services) (order : Order)
    (courseId : CourseId) (cost : Int) (mode currency : String) :
    Keeps (·.codeIssues = issues)
      (CertificateItem.addToOrder services order courseId cost mode currency) := by
  unfold CertificateItem.addToOrder OrderItem.addToOrder
  refine keeps_commitOnSuccess (keeps_bind (keeps_bind (keeps_read _ _) fun _ =>
    keeps_raiseIf _ _ _) fun _ => keeps_bind (keeps_write fun _ same => same) fun _ => ?_)
  split
  · refine keeps_bind (keeps_read _ _) fun existing => ?_
    dsimp only
    split <;> refine keeps_bind ?_ fun _ => ?_
    all_goals first
      | exact keeps_pure _ _
      | exact keeps_createItem fun _ same => same
      | split
        · exact keeps_bind (keeps_write fun _ same => same) fun _ =>
            keeps_bind (keeps_write fun _ same => same) fun _ => keeps_pure _ _
        · exact keeps_raise _ _
  · exact keeps_raise _ _

theorem Donation.keeps_codeIssues_addToOrder (services : Services) (order : Order)
    (donationAmount : Int) (courseId : Option CourseId) (currency : String) :
    Keeps (·.codeIssues = issues)
      (Donation.addToOrder services order donationAmount courseId currency) := by
  intro store same
  cases result : Donation.addToOrder services order donationAmount courseId currency store with
  | ok item store' =>
    obtain ⟨-, -, rfl⟩ := Donation.addToOrder_ok result
    rwa [after_of_ok result]
  | error => rwa [after_of_error result, commitOnSuccess_error result]

theorem Order.keeps_codeIssues_resetCartItemsPrices (order : Order) :
    Keeps (·.codeIssues = issues) (Order.resetCartItemsPrices order) :=
  keeps_bind (keeps_read _ _) fun items => keeps_forM items fun item _ store same => by
    rw [after, Order.resetItemPrice_apply]
    cases Order.priceReset item <;> exact same

theorem Order.keeps_codeIssues_startPurchase (order : Order) :
    Keeps (·.codeIssues = issues) (Order.startPurchase order) := by
  refine keeps_commitOnSuccess ?_
  split
  · exact keeps_bind (keeps_write fun _ same => same) fun _ =>
      keeps_bind (keeps_read _ _) fun items =>
        keeps_forM items fun _ _ => keeps_write fun _ same => same
  · exact keeps_pure _ _

theorem CourseRegistrationCode.keeps_codeIssues_freeUserEnrollment (cart : Order) :
    Keeps (·.codeIssues = issues) (CourseRegistrationCode.freeUserEnrollment cart) := by
  refine keeps_commitOnSuccess (keeps_bind (keeps_read _ _) fun cartItems => ?_)
  split
  · exact keeps_bind (keeps_forM cartItems fun _ _ =>
      keeps_bind (keeps_write fun _ same => same) fun _ => keeps_write fun _ same => same)
      fun _ => keeps_write fun _ same => same
  · exact keeps_pure _ _

theorem CertificateItem.keeps_codeIssues_refundCertCallback
    (courseEnrollment : CertificateItem.UnenrolledEnrollment) :
    Keeps (·.codeIssues = issues) (CertificateItem.refundCertCallback courseEnrollment) := by
  unfold CertificateItem.refundCertCallback
  split
  · exact keeps_pure _ _
  · refine keeps_bind (keeps_read _ _) fun targetCerts => ?_
    split
    · exact keeps_pure _ _
    · refine keeps_bind (keeps_write fun _ same => same) fun _ =>
        keeps_bind (keeps_read _ _) fun order => ?_
      split
      · exact keeps_bind (keeps_write fun _ same => same) fun _ => keeps_pure _ _
      · exact keeps_bind (keeps_pure _ _) fun _ => keeps_pure _ _

theorem RegistrationCodeRedemption.keeps_codeIssues_addRegCodeRedemption
    (courseRegCode : CourseRegistrationCode) (order : Order) :
    Keeps (·.codeIssues = issues)
      (RegistrationCodeRedemption.addRegCodeRedemption courseRegCode order) := by
  intro store same
  rw [after, RegistrationCodeRedemption.addRegCodeRedemption_apply]
  cases (store.itemsOf order.id).find? (·.kind.courseId == some courseRegCode.courseId)
  · exact same
  · dsimp only
    split_ifs <;> exact same

theorem CouponRedemption.keeps_codeIssues_addCouponRedemption
    (getDiscountPrice : Int → Int → Int) (coupon : Coupon) (order : Order)
    (cartItems : List OrderItem) :
    Keeps (·.codeIssues = issues)
      (CouponRedemption.addCouponRedemption getDiscountPrice coupon order cartItems) := by
  intro store same
  rw [after, CouponRedemption.addCouponRedemption_apply]
  split_ifs
  · exact same
  · cases cartItems.find? (·.kind.courseId == some coupon.courseId) <;> exact same

end

/-! ## The purchase -/

/-- What a `purchase_item` of an item of order `key` mints is tied to that order. -/
theorem OrderItem.keeps_mints_purchaseItem (services : Services) {item : OrderItem}
    {key : OrderId} (onOrder : item.order = key)
    (issues : List (CourseId × UserId × Option OrderId × Option InvoiceId)) :
    Keeps (fun store => ∃ added, store.codeIssues = issues ++ added ∧
      ∀ issue ∈ added, issue.2.2.1 = some key) (OrderItem.purchaseItem services item) := by
  rintro store ⟨added, codes, tied⟩
  cases result : OrderItem.purchaseItem services item store with
  | error =>
    rw [after_of_error result, OrderItem.purchaseItem_error result]
    exact ⟨added, codes, tied⟩
  | ok _ store' =>
    obtain ⟨called, calledOk, rfl⟩ := OrderItem.purchaseItem_ok result
    rw [after_of_ok result]
    refine ⟨added ++ item.mintedCodes, ?_, fun issue member => ?_⟩
    · show called.codeIssues = _
      rw [OrderItem.codeIssues_purchasedCallback calledOk, codes, List.append_assoc]
    · rcases List.mem_append.mp member with old | minted
      · exact tied issue old
      · unfold OrderItem.mintedCodes at minted
        split at minted
        · rw [(List.eq_of_mem_replicate minted), onOrder]
        · cases minted

/-- What `purchase` mints, whether it returns or raises, is tied to the order it
purchases. -/
theorem Order.purchase_mints (services : Services) {store start : Store} {self : Order}
    (billTo : BillTo) (tracks : store.Tracks start self) :
    ∃ added, ((Order.purchase services self billTo).after store).codeIssues =
      store.codeIssues ++ added ∧ ∀ issue ∈ added, issue.2.2.1 = some self.id := by
  unfold Order.purchase
  split_ifs with purchased
  · exact ⟨[], by simp, by simp⟩
  let closed := { self with
    status := .purchased
    billTo := Order.recordBilling self.billTo billTo services.storeBillingInfo }
  rw [after_write_bind, after_bind]
  have unminted : Keeps (·.codeIssues = store.codeIssues)
      (if closed.orderType = .business then Order.updateOrderType services closed
        else pure closed) := by
    split
    · exact Order.keeps_codeIssues_updateOrderType services closed _
    · exact keeps_pure _ _
  have passCodes := unminted (store.saveOrder closed) rfl
  cases passed : (if closed.orderType = .business then Order.updateOrderType services closed
      else pure closed) (store.saveOrder closed) with
  | error => exact ⟨[], by rw [after_of_error passed] at passCodes; simpa using passCodes,
      by simp⟩
  | ok self' reclassified =>
    rw [after_of_ok passed] at passCodes
    obtain ⟨-, sameId, -, -⟩ := purchase_pass_tracks services
      (tracks.saveOrder closed rfl rfl (.inr rfl) rfl) rfl passed
    simp only [after_read_bind, Order.after_bind_confirmPurchase]
    refine keeps_forM (reclassified.itemsOf self'.id) (fun item member =>
      OrderItem.keeps_mints_purchaseItem services ((Store.mem_itemsOf.mp member).2.trans sameId)
        store.codeIssues) reclassified ⟨[], by simpa using passCodes, by simp⟩

/-! ## Every call, every run -/

section

variable (getDiscountPrice : Int → Int → Int)

/-- Every call adds codes only after those already issued, and ties each it adds to no
order or to an order it leaves closed. -/
theorem step_adds_codes_on_closed_orders {store : Store} (invariant : store.Invariant)
    (call : Services × Operation) :
    ∃ added, (step getDiscountPrice store call).codeIssues = store.codeIssues ++ added ∧
      ∀ issue ∈ added, ∀ key, issue.2.2.1 = some key →
        ∃ order, (step getDiscountPrice store call).orders key = some order ∧
          ¬order.status.IsOpen := by
  obtain ⟨services, operation⟩ := call
  have unchanged : Keeps (·.codeIssues = store.codeIssues)
      (operation.action getDiscountPrice services) → ∃ added,
        (step getDiscountPrice store (services, operation)).codeIssues =
          store.codeIssues ++ added ∧ ∀ issue ∈ added, ∀ key, issue.2.2.1 = some key →
            ∃ order, (step getDiscountPrice store (services, operation)).orders key =
              some order ∧ ¬order.status.IsOpen :=
    fun kept => ⟨[], by simpa using kept store rfl, by simp⟩
  cases operation with
  | purchase key billTo =>
    simp only [step, Operation.action]
    cases row : store.orders key with
    | none => exact ⟨[], by rw [withOrder_after_none row]; simp, by simp⟩
    | some order =>
      rw [withOrder_after_some row]
      have keyed := (invariant.order_key key order row).1
      have tracks := invariant.tracks (keyed ▸ row)
      obtain ⟨added, codes, tied⟩ := Order.purchase_mints services billTo tracks
      obtain ⟨old, stored, status⟩ := (Order.purchase_hasOrderAt services billTo tracks).row
      refine ⟨added, codes, fun issue member other named => ?_⟩
      obtain rfl : other = order.id := Option.some.inj ((named.symm.trans (tied issue member)))
      exact ⟨old, stored, by simp [status]⟩
  | getCartForUser => exact unchanged (keeps_bind (Order.keeps_codeIssues_getCartForUser _ _)
      fun _ => keeps_pure _ _)
  | addPaidCourseRegistration | addCourseRegCodeItem =>
    exact unchanged (keeps_withOrder fun _ =>
      SeatVariant.keeps_addToOrder _ _ _ _ _ _ _ _ fun _ _ same _ _ _ _ => same)
  | addCertificateItem =>
    exact unchanged (keeps_withOrder fun _ =>
      CertificateItem.keeps_codeIssues_addToOrder _ _ _ _ _ _ _)
  | addDonation =>
    exact unchanged (keeps_withOrder fun _ => Donation.keeps_codeIssues_addToOrder _ _ _ _ _ _)
  | clear | deleteRegistrationRedemption | deleteCouponRedemption =>
    exact unchanged (keeps_withOrder fun _ => keeps_write fun _ same => same)
  | resetCartItemsPrices =>
    exact unchanged (keeps_withOrder fun _ => Order.keeps_codeIssues_resetCartItemsPrices _ _)
  | startPurchase =>
    exact unchanged (keeps_withOrder fun _ => Order.keeps_codeIssues_startPurchase _ _)
  | updateOrderType =>
    exact unchanged (keeps_withOrder fun _ => Order.keeps_codeIssues_updateOrderType _ _ _)
  | freeUserEnrollment =>
    exact unchanged (keeps_withOrder fun _ =>
      CourseRegistrationCode.keeps_codeIssues_freeUserEnrollment _ _)
  | refundCertCallback =>
    exact unchanged (keeps_bind (CertificateItem.keeps_codeIssues_refundCertCallback _ _)
      fun _ => keeps_pure _ _)
  | addRegCodeRedemption =>
    exact unchanged (keeps_withCode fun _ => keeps_withOrder fun _ =>
      RegistrationCodeRedemption.keeps_codeIssues_addRegCodeRedemption _ _ _)
  | createInvoiceGeneratedRegistrationRedemption =>
    exact unchanged (keeps_withCode fun _ => keeps_write fun _ same => same)
  | addCouponRedemption =>
    exact unchanged (keeps_withOrder fun _ => keeps_bind (keeps_read _ _) fun _ =>
      CouponRedemption.keeps_codeIssues_addCouponRedemption _ _ _ _ _)

theorem step_codesOnClosedOrders {store : Store} (invariant : store.Invariant)
    (closed : store.CodesOnClosedOrders) (call : Services × Operation) :
    (step getDiscountPrice store call).CodesOnClosedOrders := by
  obtain ⟨added, codes, tied⟩ :=
    step_adds_codes_on_closed_orders getDiscountPrice invariant call
  have moves := (step_follows getDiscountPrice call invariant).moves
  intro issue member key named
  rw [codes] at member
  rcases List.mem_append.mp member with old | new
  · obtain ⟨order, row, isClosed⟩ := closed issue old key named
    obtain ⟨order', row', -, moved⟩ := moves key order row
    exact ⟨order', row', moved.closed isClosed⟩
  · exact tied issue new key named

/-- Over every run from a store satisfying the invariant whose registration codes are tied
to purchased or refunded orders or to none, as those generated from invoices are, no
registration code is ever tied to a cart or to an order being paid. -/
theorem run_keeps_codes_on_closed_orders {store : Store} (invariant : store.Invariant)
    (closed : store.CodesOnClosedOrders) (calls : List (Services × Operation)) :
    (run getDiscountPrice store calls).CodesOnClosedOrders :=
  (@run_induction getDiscountPrice (fun store => store.Invariant ∧ store.CodesOnClosedOrders)
    calls (fun call _ _ holds => ⟨step_invariant getDiscountPrice call holds.1,
      step_codesOnClosedOrders getDiscountPrice holds.1 holds.2 call⟩) store
    ⟨invariant, closed⟩).2

end

/-- User 5 buys a bundle of two codes of course 2 on a site whose two codes of course 1
came from an invoice. -/
def bundlePurchased : List (Services × Operation) :=
  [(.twoCourses, .getCartForUser 5),
   (.twoCourses, .addCourseRegCodeItem 0 2 2 "honor" none none),
   (.twoCourses, .purchase 0 {})]

theorem run_keeps_codes_on_closed_orders_bundlePurchased :
    (run (fun _ price => price) (Store.initial codesOfCourseOne 2)
      bundlePurchased).CodesOnClosedOrders :=
  have fromInvoices : ∀ issue ∈ (Store.initial codesOfCourseOne 2).codeIssues,
      issue.2.2.1 = none := by decide
  run_keeps_codes_on_closed_orders _ (initial_invariant _ _)
    (fun issue member _ tied => absurd (tied.symm.trans (fromInvoices issue member)) nofun)
    bundlePurchased

example : (run (fun _ price => price) (Store.initial codesOfCourseOne 2)
      bundlePurchased).codeIssues =
    [(1, 9, none, some 3), (1, 9, none, some 3), (2, 5, some 0, none), (2, 5, some 0, none)] ∧
    ((run (fun _ price => price) (Store.initial codesOfCourseOne 2) bundlePurchased).orders
      0).map (·.status) = some .purchased := by decide

end ShoppingCart
