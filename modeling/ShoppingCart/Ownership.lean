import ShoppingCart.Checkout
import ShoppingCart.Reports
import ShoppingCart.Fulfilment

/-! # Every item belongs to its order's user

`OrderItem.user` carries the comment "user should always be = order.user". No check of
the module enforces it: it holds because every factory writes `user=order.user` on the row
it creates, and every other write saves again a row it read, with its order and user. Within
one call no order changes its user, so what a call keeps is stated against the store it
started from (`Store.OwnedSince`): one lemma per write, then one per call, and by induction
over the calls `run_keeps_items_owned`. `get_cart_for_user` is the one call that inserts an
order; no item sits on it yet.

What the invariant buys: an `UNENROLL_DONE` signal of one user, which picks a certificate of
that user, changes only rows of that same user, the certificate and its order
(`refundCertCallback_changes_only_user_rows`), and a purchase asks the enrollment and
verification services only for the order's user (`purchase_asks_only_for_buyer`).
-/

namespace ShoppingCart

open Action

/-- The user the order stored under each key is for, if one is stored. -/
def Store.ownerOf (store : Store) (key : OrderId) : Option UserId :=
  (store.orders key).map (·.user)

/-- `user should always be = order.user`: every item is its order's user's. -/
def Store.ItemsOwned (store : Store) : Prop :=
  ∀ key item, store.items key = some item → store.ownerOf item.order = some item.user

/-- What the writes of a call so far leave of the users of `start`, the store the call
started from: every order is stored for the user it was stored for, and every item is the
item of a user whose order its order was in `start`. -/
structure Store.OwnedSince (store start : Store) : Prop where
  owners : store.ownerOf = start.ownerOf
  items : ∀ key item, store.items key = some item → start.ownerOf item.order = some item.user

variable {store start : Store}

theorem Store.ownerOf_eq_of_orders {store' : Store} (orders : store'.orders = store.orders) :
    store'.ownerOf = store.ownerOf := by
  funext key
  simp only [Store.ownerOf, orders]

/-- A new order holds no item yet: every item sits on an order created before. -/
theorem Store.ItemsOwned.createOrder (owned : store.ItemsOwned) (invariant : store.Invariant)
    (make : OrderId → Order) : (store.createOrder make).ItemsOwned := by
  intro key item row
  have older := Nat.ne_of_lt (invariant.item_key key item row).2.2
  simpa [Store.ownerOf, Store.createOrder, older] using owned key item row

namespace Store.OwnedSince

theorem refl (owned : store.ItemsOwned) : store.OwnedSince store := ⟨rfl, owned⟩

theorem itemsOwned (since : store.OwnedSince start) : store.ItemsOwned := fun key item row => by
  rw [since.owners]
  exact since.items key item row

/-- Writes that leave the order and item tables as they were. -/
theorem of_tables {store' : Store} (since : store.OwnedSince start)
    (orders : store'.orders = store.orders) (items : store'.items = store.items) :
    store'.OwnedSince start where
  owners := (Store.ownerOf_eq_of_orders orders).trans since.owners
  items := items ▸ since.items

theorem of_lifecycle {store' : Store} (since : store.OwnedSince start)
    (same : store'.lifecycle = store.lifecycle) : store'.OwnedSince start := by
  simp only [Store.lifecycle, Prod.mk.injEq] at same
  exact since.of_tables same.1 same.2.2.1

/-- Every item a call has read from its store was its order's user's in `start`. -/
theorem valid_of_mem (since : store.OwnedSince start) {key : OrderId} {item : OrderItem}
    (member : item ∈ store.itemsOf key) : start.ownerOf item.order = some item.user :=
  let ⟨⟨slot, _, row⟩, _⟩ := Store.mem_itemsOf.mp member
  since.items slot item row

/-- Writing an item row, on an order stored in `start` for the item's user. -/
theorem setItem {store' : Store} {key : ItemId} {item : OrderItem}
    (since : store.OwnedSince start) (orders : store'.orders = store.orders)
    (items : store'.items = store.items.set key item)
    (valid : start.ownerOf item.order = some item.user) : store'.OwnedSince start where
  owners := (Store.ownerOf_eq_of_orders orders).trans since.owners
  items other row stored := by
    rw [items] at stored
    rcases Table.set_eq_some.mp stored with ⟨-, rfl⟩ | ⟨-, stored⟩
    · exact valid
    · exact since.items other row stored

theorem saveItem {item : OrderItem} (since : store.OwnedSince start)
    (valid : start.ownerOf item.order = some item.user) : (store.saveItem item).OwnedSince start :=
  since.setItem rfl rfl valid

theorem createItem {make : ItemId → OrderItem} (since : store.OwnedSince start)
    (valid : start.ownerOf (make store.nextItemId).order = some (make store.nextItemId).user) :
    (store.createItem make).OwnedSince start :=
  since.setItem rfl rfl valid

theorem deleteItem (since : store.OwnedSince start) (item : OrderItem) :
    (store.deleteItem item).OwnedSince start :=
  ⟨since.owners, fun key row stored => since.items key row (Table.erase_eq_some.mp stored).2⟩

/-- `Order.clear`'s bulk delete. -/
theorem deleteItemsOf (since : store.OwnedSince start) (key : OrderId) :
    { store with
      items := fun other => (store.items other).filter (·.order != key) }.OwnedSince start :=
  ⟨since.owners, fun other row stored =>
    since.items other row (Option.filter_eq_some.mp stored).1⟩

theorem markItemsOf (since : store.OwnedSince start) (key : OrderId) (status : OrderStatus) :
    (store.markItemsOf key status).OwnedSince start := by
  refine ⟨since.owners, fun other item stored => ?_⟩
  obtain ⟨row, kept, rfl⟩ := Option.map_eq_some'.mp stored
  split_ifs <;> exact since.items other row kept

/-- Saving an order over a row of `start` stored for the same user. -/
theorem saveOrder {order : Order} (since : store.OwnedSince start)
    (valid : start.ownerOf order.id = some order.user) :
    (store.saveOrder order).OwnedSince start := by
  refine ⟨funext fun key => ?_, since.items⟩
  by_cases here : key = order.id
  · rw [here, valid]
    simp [Store.ownerOf, Store.saveOrder]
  · rw [← since.owners]
    simp [Store.ownerOf, Store.saveOrder, here]

end Store.OwnedSince

/-! ## Every call -/

/-- A seat factory, handed an order stored for its user, returns the order with the
currency it wrote, under the same key for the same user. -/
theorem SeatVariant.addToOrder_ownedSince (variant : SeatVariant) (services : Services)
    {order : Order} (courseId : CourseId) (qty : Int) (modeSlug : String) (cost : Option Int)
    (currency : Option String) (valid : start.ownerOf order.id = some order.user) :
    Triple (·.OwnedSince start)
      (variant.addToOrder services order courseId qty modeSlug cost currency)
      (fun result store => store.OwnedSince start ∧ result.2.id = order.id ∧
        result.2.user = order.user) (·.OwnedSince start) := by
  intro store since
  cases result : variant.addToOrder services order courseId qty modeSlug cost currency store with
  | error => exact commitOnSuccess_error result ▸ since
  | ok value store' =>
    obtain ⟨item, order'⟩ := value
    obtain ⟨_, _, -, -, -, -, -, itemEq, rfl, rfl⟩ := SeatVariant.addToOrder_ok result
    exact ⟨(since.createItem (by rw [itemEq]; exact valid)).saveOrder valid, rfl, rfl⟩

theorem CertificateItem.keeps_ownedSince_addToOrder (services : Services) {order : Order}
    (courseId : CourseId) (cost : Int) (mode currency : String)
    (valid : start.ownerOf order.id = some order.user) :
    Keeps (·.OwnedSince start)
      (CertificateItem.addToOrder services order courseId cost mode currency) := by
  intro store since
  cases result : CertificateItem.addToOrder services order courseId cost mode currency store with
  | error => rw [after_of_error result, commitOnSuccess_error result]; exact since
  | ok value store' =>
    obtain ⟨item, order'⟩ := value
    obtain ⟨-, onOrder, user, -, -, rfl, saved⟩ := CertificateItem.addToOrder_ok result
    have itemValid : start.ownerOf item.order = some item.user := by rw [onOrder, user, valid]
    rw [after_of_ok result]
    rcases saved with ⟨-, lifecycle⟩ | ⟨-, lifecycle⟩
    all_goals refine Store.OwnedSince.of_lifecycle ?_ lifecycle
    · exact Store.OwnedSince.saveOrder (since.createItem itemValid) valid
    · exact Store.OwnedSince.saveItem (since.saveOrder valid) itemValid

theorem Donation.keeps_ownedSince_addToOrder (services : Services) {order : Order}
    (donationAmount : Int) (courseId : Option CourseId) (currency : String)
    (valid : start.ownerOf order.id = some order.user) :
    Keeps (·.OwnedSince start)
      (Donation.addToOrder services order donationAmount courseId currency) := by
  intro store since
  cases result : Donation.addToOrder services order donationAmount courseId currency store with
  | error => rw [after_of_error result, commitOnSuccess_error result]; exact since
  | ok item store' =>
    obtain ⟨-, ⟨_, itemEq⟩, rfl⟩ := Donation.addToOrder_ok result
    rw [after_of_ok result]
    exact since.createItem (by rw [itemEq]; exact valid)

namespace Order

theorem clear_ownedSince (order : Order) (since : store.OwnedSince start) :
    ((clear order).after store).OwnedSince start :=
  since.deleteItemsOf order.id

theorem resetCartItemsPrices_ownedSince (order : Order) (since : store.OwnedSince start) :
    ((resetCartItemsPrices order).after store).OwnedSince start := by
  simp only [resetCartItemsPrices, after_read_bind]
  have loop : Keeps (·.OwnedSince start) ((store.itemsOf order.id).forM resetItemPrice) :=
    keeps_forM _ fun item member => by
      have valid := since.valid_of_mem member
      unfold resetItemPrice
      split
      · split
        · exact keeps_write fun _ current => current.saveItem valid
        · exact keeps_pure _ ()
      · exact keeps_pure _ ()
  exact loop store since

theorem startPurchase_ownedSince (invariant : store.Invariant) {self : Order}
    (valid : start.ownerOf self.id = some self.user) (since : store.OwnedSince start) :
    ((startPurchase self).after store).OwnedSince start := by
  by_cases cart : self.status = .cart
  · have paying : (store.saveOrder { self with status := .paying }).OwnedSince start :=
      since.saveOrder valid
    exact (paying.markItemsOf self.id .paying).of_lifecycle (startPurchase_lifecycle invariant cart)
  · simpa [startPurchase, after_commitOnSuccess, cart] using since

/-- The reclassification pass, handed an order stored for its user, returns the order
under the same key for the same user: each conversion is a seat factory. -/
theorem reclassifyItems_ownedSince (services : Services) (isBusiness : Bool) :
    ∀ (cartItems : List OrderItem) (self : Order) (itemsToDelete : List OrderItem),
    start.ownerOf self.id = some self.user →
    Triple (·.OwnedSince start) (reclassifyItems services isBusiness cartItems self itemsToDelete)
      (fun result store => store.OwnedSince start ∧ result.1.id = self.id ∧
        result.1.user = self.user) (·.OwnedSince start)
  | [], _, _, _ => fun _ since => ⟨since, rfl, rfl⟩
  | cartItem :: rest, self, itemsToDelete, valid => by
    unfold reclassifyItems
    split
    case h_3 => exact reclassifyItems_ownedSince services _ rest self itemsToDelete valid
    all_goals
      refine triple_bind (SeatVariant.addToOrder_ownedSince _ _ _ _ _ _ _ valid)
        fun ⟨_, self'⟩ store ⟨since, id, user⟩ => ?_
      have valid' : start.ownerOf self'.id = some self'.user := by rw [id, user, valid]
      exact (reclassifyItems_ownedSince services _ rest self' _ valid').mono (fun _ holds => holds)
        (fun _ _ ⟨since, id', user'⟩ => ⟨since, id'.trans id, user'.trans user⟩)
        (fun _ holds => holds) store since

theorem updateOrderType_ownedSince (services : Services) {self : Order}
    (valid : start.ownerOf self.id = some self.user) :
    Triple (·.OwnedSince start) (updateOrderType services self)
      (fun self' store => store.OwnedSince start ∧ self'.id = self.id ∧ self'.user = self.user)
      (·.OwnedSince start) := by
  intro store since
  rw [updateOrderType, bind_apply, read_apply]
  refine triple_bind (reclassifyItems_ownedSince services _ (store.itemsOf self.id) self []
    valid) (fun result => ?_) store since
  rintro store ⟨since, id, user⟩
  have valid' : start.ownerOf result.1.id = some result.1.user := by rw [id, user, valid]
  refine triple_bind (keeps_forM _ fun item _ => keeps_write fun _ current =>
    current.deleteItem item).triple (fun _ => ?_) store since
  exact fun store since => ⟨since.saveOrder valid', id, user⟩

/-- The pass `purchase` makes before its loop, on the order it has just saved: the
reclassification of a business order. -/
theorem purchasePass_ownedSince (services : Services) {closed : Order}
    (valid : start.ownerOf closed.id = some closed.user) :
    Triple (·.OwnedSince start)
      (if closed.orderType = .business then updateOrderType services closed else pure closed)
      (fun self' store => store.OwnedSince start ∧ self'.id = closed.id ∧
        self'.user = closed.user) (·.OwnedSince start) := by
  split
  · exact updateOrderType_ownedSince services valid
  · exact fun _ since => ⟨since, rfl, rfl⟩

/-- `purchase` saves the order, for its user, then runs the reclassification pass and
marks purchased the items it reads back. -/
theorem purchase_ownedSince (services : Services) {self : Order} (billTo : BillTo)
    (valid : start.ownerOf self.id = some self.user) (since : store.OwnedSince start) :
    ((purchase services self billTo).after store).OwnedSince start := by
  unfold purchase
  split_ifs
  · exact since
  rw [after_write_bind]
  -- the validity of the saved copy is elaborated once the copy is known
  refine Triple.after (triple_bind (purchasePass_ownedSince services (by exact valid))
    fun self' => ?_) (since.saveOrder (by exact valid))
  refine Triple.of_after fun base ⟨since, _⟩ => ?_
  rw [after_read_bind, Order.after_bind_confirmPurchase]
  have loop : Keeps (·.OwnedSince start)
      ((base.itemsOf self'.id).forM (OrderItem.purchaseItem services)) :=
    keeps_forM _ fun item member current marked => by
      rcases OrderItem.purchaseItem_lifecycle services item current with same | saved
      · exact marked.of_lifecycle same
      · have valid := since.valid_of_mem member
        refine Store.OwnedSince.of_lifecycle ?_ saved
        exact Store.OwnedSince.saveItem (marked.of_tables rfl rfl) valid
  exact loop base since

theorem getCartForUser_itemsOwned (user : UserId) (invariant : store.Invariant)
    (owned : store.ItemsOwned) : ((getCartForUser user).after store).ItemsOwned := by
  unfold Action.after
  rw [getCartForUser_apply]
  cases (store.orders.rows store.nextOrderId).reverse.find? (isCartOf user) with
  | some _ => exact owned
  | none => exact owned.createOrder invariant _

end Order

theorem CourseRegistrationCode.freeUserEnrollment_ownedSince (invariant : store.Invariant)
    {cart : Order} (valid : start.ownerOf cart.id = some cart.user)
    (since : store.OwnedSince start) :
    ((CourseRegistrationCode.freeUserEnrollment cart).after store).OwnedSince start := by
  by_cases empty : store.itemsOf cart.id = []
  · simpa [CourseRegistrationCode.freeUserEnrollment, after_commitOnSuccess, empty] using since
  · have purchased : (store.saveOrder { cart with status := .purchased }).OwnedSince start :=
      since.saveOrder valid
    exact (purchased.markItemsOf cart.id .purchased).of_lifecycle
      (CourseRegistrationCode.freeUserEnrollment_lifecycle invariant cart empty)

namespace CertificateItem

/-- What a refund writes: nothing, or the first purchased verified certificate of the user in
the course saved again as refunded, and the order stored under its order key saved as
refunded. -/
theorem refundCertCallback_after (courseEnrollment : UnenrolledEnrollment) (store : Store) :
    (refundCertCallback courseEnrollment).after store = store ∨
      ∃ target ∈ store.items.rows store.nextItemId, isRefundTarget courseEnrollment target ∧
        (refundCertCallback courseEnrollment).after store =
          match store.orders target.order with
          | some order => (store.saveItem { target with status := .refunded }).saveOrder
              { order with status := .refunded }
          | none => store.saveItem { target with status := .refunded } := by
  unfold refundCertCallback
  split_ifs
  · exact .inl rfl
  simp only [after_read_bind]
  split
  · exact .inl rfl
  rename_i target _ targets
  obtain ⟨member, targeted⟩ := List.mem_filter.mp (targets ▸ List.mem_cons_self _ _)
  refine .inr ⟨target, member, targeted, ?_⟩
  rw [after_write_bind, after_read_bind]
  cases row : store.orders target.order <;>
    simp [Store.saveItem, row]

/-- A refund saves again a row it read, and the order that row sits on. -/
theorem refundCertCallback_ownedSince (courseEnrollment : UnenrolledEnrollment)
    (invariant : store.Invariant) (since : store.OwnedSince start) :
    ((refundCertCallback courseEnrollment).after store).OwnedSince start := by
  rcases refundCertCallback_after courseEnrollment store with same | ⟨target, member, -, after⟩
  · rw [same]
    exact since
  obtain ⟨key, -, stored⟩ := Table.mem_rows.mp member
  have refunded : (store.saveItem { target with status := .refunded }).OwnedSince start :=
    since.saveItem (since.items key target stored)
  rw [after]
  split
  · rename_i order row
    have valid : start.ownerOf order.id = some order.user := by
      rw [← since.owners, (invariant.order_key _ order row).1]
      simp [Store.ownerOf, row]
    exact Store.OwnedSince.saveOrder refunded valid
  · exact refunded

end CertificateItem

theorem RegistrationCodeRedemption.addRegCodeRedemption_ownedSince
    (courseRegCode : CourseRegistrationCode) (order : Order) (since : store.OwnedSince start) :
    ((RegistrationCodeRedemption.addRegCodeRedemption courseRegCode order).after
      store).OwnedSince start := by
  simp only [RegistrationCodeRedemption.addRegCodeRedemption, after_read_bind]
  split
  · exact since
  rename_i item found
  rw [after_read_bind, after_bind, raiseIf_apply]
  split_ifs
  · exact since
  simp only [after_write_bind, after_pure]
  have valid := since.valid_of_mem (List.mem_of_find?_eq_some found)
  exact Store.OwnedSince.saveItem (since.of_tables rfl rfl) valid

theorem CouponRedemption.addCouponRedemption_ownedSince (getDiscountPrice : Int → Int → Int)
    (coupon : Coupon) (order : Order) (since : store.OwnedSince start) :
    ((CouponRedemption.addCouponRedemption getDiscountPrice coupon order
      (store.itemsOf order.id)).after store).OwnedSince start := by
  simp only [CouponRedemption.addCouponRedemption, after_read_bind]
  rw [after_bind, raiseIf_apply]
  split_ifs
  · exact since
  simp only
  split
  · exact since
  rename_i item found
  simp only [after_write_bind, after_pure]
  have valid := since.valid_of_mem (List.mem_of_find?_eq_some found)
  exact Store.OwnedSince.saveItem (since.of_tables rfl rfl) valid

/-! ## Every run -/

theorem withOrder_itemsOwned {key : OrderId} {body : Order → Action α}
    (invariant : store.Invariant) (owned : store.ItemsOwned)
    (each : ∀ order, store.ownerOf order.id = some order.user →
      ((body order).after store).OwnedSince store) :
    ((withOrder key body).after store).ItemsOwned := by
  cases row : store.orders key with
  | none => rw [withOrder_after_none row]; exact owned
  | some order =>
    rw [withOrder_after_some row]
    exact (each order
      (by simp [Store.ownerOf, (invariant.order_key key order row).1, row])).itemsOwned

theorem withCode_itemsOwned {key : CodeId} {body : CourseRegistrationCode → Action α}
    (owned : store.ItemsOwned)
    (each : ∀ courseRegCode, ((body courseRegCode).after store).ItemsOwned) :
    ((withCode key body).after store).ItemsOwned := by
  simp only [withCode, after_read_bind]
  split
  · rw [after_bind_pure]
    exact each _
  · exact owned

section

variable (getDiscountPrice : Int → Int → Int)

/-- Every call of the module keeps every item its order's user's, whether it returns or
raises. -/
theorem step_itemsOwned (call : Services × Operation) (invariant : store.Invariant)
    (owned : store.ItemsOwned) : (step getDiscountPrice store call).ItemsOwned := by
  obtain ⟨services, operation⟩ := call
  simp only [step, Operation.action]
  have unchanged : ∀ {store' : Store}, store'.lifecycle = store.lifecycle →
      store'.OwnedSince store :=
    (Store.OwnedSince.refl owned).of_lifecycle
  cases operation with
  | getCartForUser user =>
    rw [after_bind_pure]
    exact Order.getCartForUser_itemsOwned user invariant owned
  | addPaidCourseRegistration | addCourseRegCodeItem =>
    exact withOrder_itemsOwned invariant owned fun _ valid =>
      (SeatVariant.addToOrder_ownedSince _ _ _ _ _ _ _ valid).after_of
        (fun _ _ holds => holds.1) (fun _ holds => holds) (.refl owned)
  | addCertificateItem =>
    exact withOrder_itemsOwned invariant owned fun _ valid =>
      CertificateItem.keeps_ownedSince_addToOrder _ _ _ _ _ valid _ (.refl owned)
  | addDonation =>
    exact withOrder_itemsOwned invariant owned fun _ valid =>
      Donation.keeps_ownedSince_addToOrder _ _ _ _ valid _ (.refl owned)
  | clear =>
    exact withOrder_itemsOwned invariant owned fun order _ =>
      Order.clear_ownedSince order (.refl owned)
  | resetCartItemsPrices =>
    exact withOrder_itemsOwned invariant owned fun order _ =>
      Order.resetCartItemsPrices_ownedSince order (.refl owned)
  | startPurchase =>
    exact withOrder_itemsOwned invariant owned fun _ valid =>
      Order.startPurchase_ownedSince invariant valid (.refl owned)
  | updateOrderType =>
    exact withOrder_itemsOwned invariant owned fun _ valid =>
      (Order.updateOrderType_ownedSince services valid).after_of
        (fun _ _ holds => holds.1) (fun _ holds => holds) (.refl owned)
  | purchase _ billTo =>
    exact withOrder_itemsOwned invariant owned fun _ valid =>
      Order.purchase_ownedSince services billTo valid (.refl owned)
  | freeUserEnrollment =>
    exact withOrder_itemsOwned invariant owned fun _ valid =>
      CourseRegistrationCode.freeUserEnrollment_ownedSince invariant valid (.refl owned)
  | refundCertCallback =>
    rw [after_bind_pure]
    exact (CertificateItem.refundCertCallback_ownedSince _ invariant (.refl owned)).itemsOwned
  | addRegCodeRedemption =>
    exact withCode_itemsOwned owned fun courseRegCode =>
      withOrder_itemsOwned invariant owned fun order _ =>
        RegistrationCodeRedemption.addRegCodeRedemption_ownedSince courseRegCode order
          (.refl owned)
  | createInvoiceGeneratedRegistrationRedemption =>
    exact withCode_itemsOwned owned fun _ => (unchanged rfl).itemsOwned
  | deleteRegistrationRedemption =>
    exact withOrder_itemsOwned invariant owned fun _ _ => unchanged rfl
  | addCouponRedemption coupon =>
    refine withOrder_itemsOwned invariant owned fun order _ => ?_
    rw [after_read_bind]
    exact CouponRedemption.addCouponRedemption_ownedSince getDiscountPrice coupon order
      (.refl owned)
  | deleteCouponRedemption =>
    exact withOrder_itemsOwned invariant owned fun _ _ => unchanged rfl

/-- Every store a sequence of calls reaches has every item its order's user's. -/
theorem Reachable.itemsOwned (reachable : Reachable getDiscountPrice store) :
    store.ItemsOwned := by
  induction reachable with
  | initial => exact fun _ _ row => nomatch row
  | step call reachable owned =>
    exact step_itemsOwned getDiscountPrice call (reachable_invariant getDiscountPrice reachable)
      owned

/-- `user should always be = order.user` holds along every run of the module's calls, each
returning or raising, from a store satisfying the invariant where it holds. -/
theorem run_keeps_items_owned (invariant : store.Invariant) (owned : store.ItemsOwned)
    (calls : List (Services × Operation)) : (run getDiscountPrice store calls).ItemsOwned :=
  (@run_induction getDiscountPrice (fun store => store.Invariant ∧ store.ItemsOwned) calls
    (fun call _ _ holds => ⟨step_invariant getDiscountPrice call holds.1,
      step_itemsOwned getDiscountPrice call holds.1 holds.2⟩) store ⟨invariant, owned⟩).2

end

theorem run_keeps_items_owned_seatInCart :
    (run (fun _ price => price) (Store.initial (fun _ => none) 0) seatInCart).Invariant ∧
      (run (fun _ price => price) (Store.initial (fun _ => none) 0) seatInCart).ItemsOwned ∧
      (run (fun _ price => price)
        (run (fun _ price => price) (Store.initial (fun _ => none) 0) seatInCart)
        [(.oneCourse, .updateOrderType 0), (.oneCourse, .purchase 0 {})]).ItemsOwned :=
  let reached := reachable_run (fun _ price => price) (.initial _ _) seatInCart
  ⟨reachable_invariant _ reached, reached.itemsOwned,
    run_keeps_items_owned _ (reachable_invariant _ reached) reached.itemsOwned _⟩

/-! ## What a refund may change -/

/-- An `UNENROLL_DONE` signal changes only rows of the unenrolled user. In a store
satisfying the invariant whose items are their orders' users', every order and every item
that `refund_cert_callback` writes was a row of that user: the handler picks the certificate
by its user, and the order it refunds is the certificate's order, so that user's too. -/
theorem refundCertCallback_changes_only_user_rows
    (courseEnrollment : CertificateItem.UnenrolledEnrollment) (invariant : store.Invariant)
    (owned : store.ItemsOwned) :
    let refunded := (CertificateItem.refundCertCallback courseEnrollment).after store
    (∀ key, refunded.orders key = store.orders key ∨
      ∃ order, store.orders key = some order ∧ order.user = courseEnrollment.user) ∧
    ∀ key, refunded.items key = store.items key ∨
      ∃ item, store.items key = some item ∧ item.user = courseEnrollment.user := by
  intro refunded
  rcases CertificateItem.refundCertCallback_after courseEnrollment store with
    same | ⟨target, member, targeted, after⟩
  · simp only [refunded, same, true_or, implies_true, and_self]
  obtain ⟨slot, -, stored⟩ := Table.mem_rows.mp member
  have user : target.user = courseEnrollment.user := by
    simp only [CertificateItem.isRefundTarget, Bool.and_eq_true, beq_iff_eq] at targeted
    exact targeted.1.1
  have items :
      refunded.items = store.items.set target.id { target with status := .refunded } := by
    simp only [refunded, after]
    split <;> rfl
  refine ⟨fun key => ?_, fun key => ?_⟩
  · simp only [refunded, after]
    split
    · rename_i order row
      have owner : order.user = target.user := by
        simpa [Store.ownerOf, row] using owned slot target stored
      by_cases here : key = order.id
      · exact .inr ⟨order, by rw [here, (invariant.order_key _ order row).1, row],
          owner.trans user⟩
      · exact .inl (by simp [Store.saveOrder, Store.saveItem, here])
    · exact .inl rfl
  · rw [items]
    by_cases here : key = target.id
    · exact .inr ⟨target, by rw [here, (invariant.item_key slot target stored).1, stored],
        user⟩
    · exact .inl (by simp [here])

theorem refundCertCallback_changes_only_user_rows_certificatePurchased :
    let bought := CertificateItem.certificatePurchased
    bought.Invariant ∧ bought.ItemsOwned ∧
      let refunded := (CertificateItem.refundCertCallback ⟨5, 1, true⟩).after bought
      (∀ key, refunded.orders key = bought.orders key ∨
        ∃ order, bought.orders key = some order ∧ order.user = 5) ∧
      ∀ key, refunded.items key = bought.items key ∨
        ∃ item, bought.items key = some item ∧ item.user = 5 :=
  let reached := reachable_run (fun _ price => price) (.initial _ _) (refundedCertificate.take 4)
  ⟨reachable_invariant _ reached, reached.itemsOwned,
    refundCertCallback_changes_only_user_rows ⟨5, 1, true⟩ (reachable_invariant _ reached)
      reached.itemsOwned⟩

/-! ## What a purchase asks for -/

/-- The user an effect asks something for, when it names one: an enrollment to get or
create, an enrollment, a verification attempt. A change of mode and an activation name an
enrollment instead. -/
def Effect.beneficiary : Effect → Option UserId
  | .getOrCreateEnrollment user _ | .enroll user _ _ | .submitVerification user => some user
  | .changeMode _ _ | .activate _ => none

/-- The fulfilment of an item asks only for the item's user. -/
theorem OrderItem.beneficiary_requestedEffects (item : OrderItem) :
    ∀ effect ∈ item.requestedEffects, ∀ user ∈ effect.beneficiary, user = item.user := by
  unfold OrderItem.requestedEffects
  split <;> simp [Effect.beneficiary]

/-- Since `base`, the store has asked of the services only for `user`. -/
def Store.AsksOnlyFor (store base : Store) (user : UserId) : Prop :=
  ∃ added, store.effects = base.effects ++ added ∧
    ∀ effect ∈ added, ∀ other ∈ effect.beneficiary, other = user

/-- `purchase_item` of an item of `user` asks only for `user`, whether it returns or raises. -/
theorem OrderItem.keeps_asksOnlyFor_purchaseItem (services : Services) {base : Store}
    {item : OrderItem} {user : UserId} (itemUser : item.user = user) :
    Keeps (·.AsksOnlyFor base user) (OrderItem.purchaseItem services item) := by
  intro store ⟨added, effects, only⟩
  cases result : OrderItem.purchaseItem services item store with
  | error =>
    rw [after_of_error result, OrderItem.purchaseItem_error result]
    exact ⟨added, effects, only⟩
  | ok _ store' =>
    obtain ⟨called, calledOk, rfl⟩ := OrderItem.purchaseItem_ok result
    rw [after_of_ok result]
    refine ⟨added ++ item.requestedEffects, ?_, fun effect member => ?_⟩
    · have called := OrderItem.effects_purchasedCallback calledOk
      rw [← List.append_assoc, ← effects]
      exact called
    · rcases List.mem_append.mp member with old | new
      · exact only effect old
      · exact fun other named => (item.beneficiary_requestedEffects effect new other named).trans
          itemUser

/-- In a store whose items are their orders' users', `purchase` asks the enrollment and
verification services only for the order's user, whether it returns or raises: the items it
fulfils are those the order holds after the reclassification pass, all that user's, and the
pass asks nothing. -/
theorem purchase_asks_only_for_buyer (services : Services) (owned : store.ItemsOwned)
    {self : Order} (billTo : BillTo) (stored : store.orders self.id = some self) :
    ((Order.purchase services self billTo).after store).AsksOnlyFor store self.user := by
  have nothing : ∀ {store' : Store}, store'.effects = store.effects →
      store'.AsksOnlyFor store self.user :=
    fun same => ⟨[], by rw [same, List.append_nil], by simp⟩
  have valid : store.ownerOf self.id = some self.user := by simp [Store.ownerOf, stored]
  unfold Order.purchase
  split_ifs
  · exact nothing rfl
  rw [after_write_bind]
  -- the pass keeps the items their users' and asks nothing
  refine Triple.after (triple_bind
    (((Order.purchasePass_ownedSince services (by exact valid)).and_keeps
      (?_ : Keeps (·.effects = store.effects) _)).mono (fun _ holds => holds)
      (fun _ _ holds => holds) fun _ holds => nothing holds.2) fun self' => ?_)
    (⟨(Store.OwnedSince.refl owned).saveOrder (by exact valid), rfl⟩ : _ ∧ _)
  · split
    · exact Order.keeps_effects_updateOrderType services _ _
    · exact keeps_pure _ _
  refine Triple.of_after fun base ⟨⟨since, sameId, _⟩, effects⟩ => ?_
  rw [after_read_bind, Order.after_bind_confirmPurchase]
  have loop : Keeps (·.AsksOnlyFor store self.user)
      ((base.itemsOf self'.id).forM (OrderItem.purchaseItem services)) :=
    keeps_forM _ fun item member => OrderItem.keeps_asksOnlyFor_purchaseItem services <| by
      have onOrder := (Store.mem_itemsOf.mp member).2
      have owner := since.valid_of_mem member
      rw [onOrder, sameId, valid, Option.some.injEq] at owner
      exact owner.symm
  exact loop base (nothing effects)

theorem purchase_asks_only_for_buyer_seatInCart :
    let cart := run (fun _ price => price) (Store.initial (fun _ => none) 0) seatInCart
    cart.ItemsOwned ∧ cart.orders 0 = some { id := 0, user := 5 } ∧
      ((Order.purchase .oneCourse { id := 0, user := 5 } {}).after cart).AsksOnlyFor cart 5 :=
  let reached := reachable_run (fun _ price => price) (.initial _ _) seatInCart
  ⟨reached.itemsOwned, by decide,
    purchase_asks_only_for_buyer .oneCourse reached.itemsOwned {} (by decide)⟩

end ShoppingCart
