import ShoppingCart.Tracking

/-! # Every call keeps the invariant and moves orders only as the module moves them

One lemma per call of the module, from a store the calls so far led to from `start`
(`Store.Since`, or, for the calls handed the caller's copy of an order, `Store.Tracks`) to
the store the call leaves, whether it returns or raises: the invariant still holds, the
currencies agree and every item is fulfilled at most once if they did in `start`, and every
order of `start` is still stored for the same user, its status moved only as
`OrderStatus.Moves` allows. A refund keeps all but the fulfilments (`Store.Follows`). The
factories and `update_order_type` are stated as triples, since `update_order_type` and
`purchase` go on with the order they return. Together they give `step_since` and
`step_follows`, and by induction over the calls, `reachable_invariant` and `run_follows`.
-/

namespace ShoppingCart

open Action

variable {store start : Store}

/-! ## Factories -/

/-- A seat factory keeps the caller's copy of the order tracked, and returns a copy that
is tracked in turn, with the same key and status. -/
theorem SeatVariant.addToOrder_tracks (variant : SeatVariant) (services : Services)
    (order : Order) (courseId : CourseId) (qty : Int) (modeSlug : String) (cost : Option Int)
    (currency : Option String) :
    Triple (·.Tracks start order)
      (variant.addToOrder services order courseId qty modeSlug cost currency)
      (fun result store => store.Tracks start result.2 ∧ result.2.id = order.id ∧
        result.2.status = order.status) (·.Tracks start order) := by
  intro store tracks
  cases result : variant.addToOrder services order courseId qty modeSlug cost currency store with
  | error => exact commitOnSuccess_error result ▸ tracks
  | ok value store' =>
    obtain ⟨item, order'⟩ := value
    obtain ⟨_, _, -, -, -, -, allowed, itemEq, rfl, rfl⟩ := addToOrder_ok result
    exact ⟨tracks.createItem_saveOrder item (by rw [itemEq]) (by rw [itemEq]) (by rw [itemEq])
      allowed, rfl, rfl⟩

theorem CertificateItem.addToOrder_tracks (services : Services) (order : Order)
    (courseId : CourseId) (cost : Int) (mode currency : String) :
    Triple (·.Tracks start order)
      (CertificateItem.addToOrder services order courseId cost mode currency)
      (fun result store => store.Tracks start result.2 ∧ result.2.id = order.id ∧
        result.2.status = order.status) (·.Tracks start order) := by
  intro store tracks
  cases result : CertificateItem.addToOrder services order courseId cost mode currency store with
  | error => exact commitOnSuccess_error result ▸ tracks
  | ok value store' =>
    obtain ⟨item, order'⟩ := value
    obtain ⟨allowed, onOrder, -, status, rfl, rfl, saved⟩ := addToOrder_ok result
    refine ⟨?_, rfl, rfl⟩
    rcases saved with ⟨fresh, lifecycle⟩ | ⟨⟨existing, member, sameKey⟩, lifecycle⟩
    · exact (tracks.createItem_saveOrder item fresh onOrder status allowed).of_lifecycle lifecycle
    · -- an earlier row of the order: the check allowed only the order's own currency
      have currency := allowed.resolve_right (List.ne_nil_of_mem member)
      exact ((tracks.saveOrder { order with currency := item.currency } rfl rfl (.inl rfl)
        currency.symm).saveItem member sameKey onOrder status rfl).of_lifecycle lifecycle

theorem Donation.addToOrder_tracks (services : Services) (order : Order) (donationAmount : Int)
    (courseId : Option CourseId) (currency : String) :
    Triple (·.Tracks start order)
      (Donation.addToOrder services order donationAmount courseId currency)
      (fun _ store => store.Tracks start order) (·.Tracks start order) := by
  intro store tracks
  cases result : Donation.addToOrder services order donationAmount courseId currency store with
  | error => exact commitOnSuccess_error result ▸ tracks
  | ok item store' =>
    obtain ⟨-, ⟨description, itemEq⟩, rfl⟩ := addToOrder_ok result
    exact tracks.createDonation _ (by rw [itemEq]) (by rw [itemEq]) (by rw [itemEq])
      (by rw [itemEq]; rfl)

/-- A seat factory keeps what its insert keeps, given what it checked before: no row of
its subclass for the course on the order, and the new row, under the next key and on the
order, one of its subclass for the course. -/
theorem SeatVariant.keeps_addToOrder {Holds : Store → Prop} (variant : SeatVariant)
    (services : Services) (order : Order) (courseId : CourseId) (qty : Int) (modeSlug : String)
    (cost : Option Int) (currency : Option String)
    (inserted : ∀ store (item : OrderItem), Holds store →
      variant.containedInOrder store order courseId = false → item.id = store.nextItemId →
      item.order = order.id → (∃ mode, item.kind = variant.kind courseId mode) →
      Holds ((store.createItem fun _ => item).saveOrder { order with currency := item.currency })) :
    Keeps Holds (variant.addToOrder services order courseId qty modeSlug cost currency) := by
  intro store holds
  cases result : variant.addToOrder services order courseId qty modeSlug cost currency store with
  | error => rw [after_of_error result, commitOnSuccess_error result]; exact holds
  | ok value store' =>
    obtain ⟨item, order'⟩ := value
    obtain ⟨_, _, -, -, fresh, -, -, itemEq, rfl, rfl⟩ := addToOrder_ok result
    rw [after_of_ok result]
    exact inserted store item holds fresh (by rw [itemEq]) (by rw [itemEq]) ⟨_, by rw [itemEq]⟩

/-- A seat factory leaves the items of an order unfulfilled: it inserts its row under the
next key. -/
theorem SeatVariant.keeps_unfulfilled_addToOrder (variant : SeatVariant) (services : Services)
    (order : Order) (courseId : CourseId) (qty : Int) (modeSlug : String) (cost : Option Int)
    (currency : Option String) (key : OrderId) :
    Keeps (·.Unfulfilled key)
      (variant.addToOrder services order courseId qty modeSlug cost currency) :=
  keeps_addToOrder variant services order courseId qty modeSlug cost currency
    fun _ item unfulfilled _ keyed _ _ => unfulfilled.createItem (fun _ => item) keyed

/-! ## Orders -/

namespace Order

theorem getCartForUser_since (user : UserId) (since : store.Since start) :
    ((getCartForUser user).after store).Since start := by
  unfold Action.after
  rw [getCartForUser_apply]
  cases found : (store.orders.rows store.nextOrderId).reverse.find? (isCartOf user) with
  | some cartOrder => exact since
  | none =>
    refine since.createCart user fun key order stored owned cart => ?_
    have member : order ∈ (store.orders.rows store.nextOrderId).reverse :=
      List.mem_reverse.mpr (Table.mem_rows.mpr
        ⟨key, (since.invariant.order_key key order stored).2, stored⟩)
    simpa [isCartOf, owned, cart] using List.find?_eq_none.mp found order member

theorem clear_since (order : Order) (since : store.Since start) :
    ((clear order).after store).Since start :=
  since.of_orders (since.invariant.deleteItemsOf order.id) (·.deleteItemsOf order.id)
    (·.deleteItemsOf order.id) rfl

theorem resetCartItemsPrices_since (order : Order) (since : store.Since start) :
    ((resetCartItemsPrices order).after store).Since start := by
  simp only [resetCartItemsPrices, after_read_bind]
  have loop : Keeps (fun current => current.Frames store ∧
      current.fulfilments = store.fulfilments ∧ (store.FulfilledOnce → current.FulfilledOnce))
      ((store.itemsOf order.id).forM resetItemPrice) :=
    keeps_forM _ fun item member => by
      obtain ⟨⟨key, -, stored⟩, -⟩ := Store.mem_itemsOf.mp member
      unfold resetItemPrice
      split
      · split
        · exact keeps_write fun _ ⟨frames, log, fulfilled⟩ =>
            ⟨frames.saveItem since.invariant _ member rfl rfl rfl rfl
              (since.invariant.items_follow_open_orders key item · stored), log,
              fun before => frames.fulfilledOnce_saveItem since.invariant before
                (fulfilled before) log _ member rfl rfl⟩
        · exact keeps_pure _ ()
      · exact keeps_pure _ ()
  obtain ⟨frames, -, fulfilled⟩ :=
    loop store ⟨.refl since.invariant, rfl, fun holds => holds⟩
  exact frames.since since (fulfilled ∘ since.fulfilled)

theorem startPurchase_since {self : Order} (tracks : store.Tracks start self) :
    ((startPurchase self).after store).Since start := by
  rw [startPurchase, after_commitOnSuccess]
  split_ifs with cart
  · obtain ⟨marked, loop, lifecycle⟩ := OrderItem.lifecycle_forM_save
      OrderItem.startPurchase (fun item => some { item with status := .paying })
      (fun _ _ => ⟨_, rfl, rfl⟩)
      (store.itemsOf self.id) (store.saveOrder { self with status := .paying })
    simp only [bind_apply, write_apply, read_apply]
    rw [show (store.saveOrder { self with status := .paying }).itemsOf self.id =
      store.itemsOf self.id from rfl, loop]
    refine (tracks.toSince.saveOrder_markItemsOf tracks.row .paying
      (Or.inr (Or.inl ⟨cart, rfl⟩)) (fun purchased => nomatch cart.symm.trans purchased)
      (by simp)).of_lifecycle ?_
    rw [lifecycle]
    exact congrArg (fun items => (_, _, items, _, _))
      (tracks.invariant.foldl_set_status_itemsOf self.id .paying)
  · exact tracks.toSince

/-- The reclassification pass keeps the caller's copy tracked and returns a copy that is
tracked in turn, with the same key and status; if a conversion raises, the order is still
stored at its status. -/
theorem reclassifyItems_tracks (services : Services) (isBusiness : Bool) :
    ∀ (cartItems : List OrderItem) (self : Order) (itemsToDelete : List OrderItem),
    Triple (·.Tracks start self) (reclassifyItems services isBusiness cartItems self itemsToDelete)
      (fun result store => store.Tracks start result.1 ∧ result.1.id = self.id ∧
        result.1.status = self.status) (·.HasOrderAt start self.id self.status)
  | [], self, itemsToDelete => fun _ tracks => ⟨tracks, rfl, rfl⟩
  | cartItem :: rest, self, itemsToDelete => by
    have continues : ∀ itemsToDelete (result : OrderItem × Order),
        Triple (fun store => store.Tracks start result.2 ∧ result.2.id = self.id ∧
          result.2.status = self.status)
          (reclassifyItems services isBusiness rest result.2 itemsToDelete)
          (fun result store => store.Tracks start result.1 ∧ result.1.id = self.id ∧
            result.1.status = self.status) (·.HasOrderAt start self.id self.status) := by
      rintro itemsToDelete ⟨_, self'⟩ store ⟨tracks, sameId, sameStatus⟩
      exact (reclassifyItems_tracks services isBusiness rest self' itemsToDelete).mono
        (fun _ holds => holds) (fun _ _ ⟨tracks, id, status⟩ =>
          ⟨tracks, id.trans sameId, status.trans sameStatus⟩)
        (fun _ holds => sameId ▸ sameStatus ▸ holds) store tracks
    unfold reclassifyItems
    split
    case h_3 => exact reclassifyItems_tracks services _ rest self itemsToDelete
    -- a seat becomes a code bundle, or a code bundle a seat: a seat factory either way
    all_goals
      exact triple_bind ((SeatVariant.addToOrder_tracks _ _ _ _ _ _ _ _).mono
        (fun _ holds => holds) (fun _ _ holds => holds) (fun _ tracks => tracks.hasOrderAt))
        fun result => continues _ result

theorem updateOrderType_tracks (services : Services) (self : Order) :
    Triple (·.Tracks start self) (updateOrderType services self)
      (fun self' store => store.Tracks start self' ∧ self'.id = self.id ∧
        self'.status = self.status) (·.HasOrderAt start self.id self.status) := by
  intro store tracks
  rw [updateOrderType, bind_apply, read_apply]
  refine triple_bind (reclassifyItems_tracks services _ (store.itemsOf self.id) self [])
    (fun result => ?_) store tracks
  rintro store ⟨tracks, sameId, sameStatus⟩
  have deleted : Keeps (·.Tracks start result.1)
      (result.2.forM fun item => Action.write (·.deleteItem item)) :=
    keeps_forM _ fun item _ =>
      keeps_write fun _ tracks =>
        tracks.of_orders (tracks.invariant.deleteItem item) (·.deleteItem item)
          (·.deleteItem item) rfl
  refine (triple_bind (deleted.triple.mono (fun _ holds => holds) (fun _ _ holds => holds)
    (fun _ tracks => sameId ▸ sameStatus ▸ tracks.hasOrderAt)) fun _ => ?_) store tracks
  intro store tracks
  exact ⟨tracks.saveOrder _ rfl rfl (.inl rfl) rfl, sameId, sameStatus⟩

/-- The reclassification pass keeps what both seat factories keep, as it calls them. -/
theorem keeps_reclassifyItems {Holds : Store → Prop} (services : Services)
    (seat : ∀ order courseId, Keeps Holds (PaidCourseRegistration.addToOrder services order
      courseId services.defaultMode.slug none none))
    (bundle : ∀ order courseId qty, Keeps Holds (CourseRegCodeItem.addToOrder services order
      courseId qty services.defaultMode.slug none none)) (isBusiness : Bool) :
    ∀ (cartItems : List OrderItem) (self : Order) (itemsToDelete : List OrderItem),
    Keeps Holds (reclassifyItems services isBusiness cartItems self itemsToDelete)
  | [], _, _ => keeps_pure _ _
  | cartItem :: rest, self, itemsToDelete => by
    unfold reclassifyItems
    split
    · exact keeps_bind (bundle _ _ _) fun ⟨_, self'⟩ =>
        keeps_reclassifyItems services seat bundle _ rest self' _
    · exact keeps_bind (seat _ _) fun ⟨_, self'⟩ =>
        keeps_reclassifyItems services seat bundle _ rest self' _
    · exact keeps_reclassifyItems services seat bundle _ rest self _

/-- `update_order_type` keeps what both seat factories, a deletion and a saved order keep. -/
theorem keeps_updateOrderType {Holds : Store → Prop} (services : Services)
    (seat : ∀ order courseId, Keeps Holds (PaidCourseRegistration.addToOrder services order
      courseId services.defaultMode.slug none none))
    (bundle : ∀ order courseId qty, Keeps Holds (CourseRegCodeItem.addToOrder services order
      courseId qty services.defaultMode.slug none none))
    (deleted : ∀ store item, Holds store → Holds (store.deleteItem item))
    (saved : ∀ store order, Holds store → Holds (store.saveOrder order)) (self : Order) :
    Keeps Holds (updateOrderType services self) :=
  keeps_bind (keeps_read _ _) fun _ =>
    keeps_bind (keeps_reclassifyItems services seat bundle _ _ self []) fun ⟨_, itemsToDelete⟩ =>
      keeps_bind (keeps_forM itemsToDelete fun item _ => keeps_write (deleted · item)) fun _ =>
        keeps_bind (keeps_write (saved · _)) fun _ => keeps_pure _ _

/-- `update_order_type` fulfils nothing and inserts its items under new keys: the items of
an order stay unfulfilled. -/
theorem keeps_unfulfilled_updateOrderType (services : Services) (self : Order) (key : OrderId) :
    Keeps (·.Unfulfilled key) (updateOrderType services self) :=
  keeps_updateOrderType services
    (fun _ _ => SeatVariant.keeps_unfulfilled_addToOrder _ _ _ _ _ _ _ _ key)
    (fun _ _ _ => SeatVariant.keeps_unfulfilled_addToOrder _ _ _ _ _ _ _ _ key)
    (fun _ item unfulfilled => unfulfilled.deleteItem item) (fun _ _ unfulfilled => unfulfilled)
    self

/-- `update_order_type` fulfils nothing. -/
theorem keeps_fulfilments_updateOrderType (services : Services) (self : Order)
    (log : List ItemId) : Keeps (·.fulfilments = log) (updateOrderType services self) :=
  keeps_updateOrderType services
    (fun _ _ => SeatVariant.keeps_addToOrder _ _ _ _ _ _ _ _ fun _ _ same _ _ _ _ => same)
    (fun _ _ _ => SeatVariant.keeps_addToOrder _ _ _ _ _ _ _ _ fun _ _ same _ _ _ _ => same)
    (fun _ _ same => same) (fun _ _ same => same) self

/-- Fulfilling, one after another, items with distinct keys in use, none fulfilled yet and
each on a purchased order, keeps every item fulfilled at most once, whether the loop ends
or stops at a callback that raises. -/
theorem fulfilledOnce_forM_purchaseItem (services : Services) :
    ∀ (items : List OrderItem) {store : Store}, store.FulfilledOnce →
      (items.map (·.id)).Nodup →
      (∀ item ∈ items, item.id ∉ store.fulfilments ∧ item.id < store.nextItemId ∧
        ∃ order, store.orders item.order = some order ∧ order.status = .purchased) →
      ((items.forM (OrderItem.purchaseItem services)).after store).FulfilledOnce
  | [], _, fulfilled, _, _ => fulfilled
  | item :: items, store, fulfilled, distinct, ready => by
    obtain ⟨fresh, keyInUse, onPurchased⟩ := ready item (List.mem_cons_self _ _)
    obtain ⟨notLater, distinct⟩ := List.nodup_cons.mp distinct
    rw [List.forM_cons', after_bind]
    cases result : OrderItem.purchaseItem services item store with
    | error => obtain rfl := OrderItem.purchaseItem_error result; exact fulfilled
    | ok _ store' =>
      obtain ⟨called, calledOk, rfl⟩ := OrderItem.purchaseItem_ok result
      have same :=
        OrderItem.keeps_lifecycle_purchasedCallback services item store.lifecycle store rfl
      rw [after_of_ok calledOk] at same
      have tables := same
      simp only [Store.lifecycle, Prod.mk.injEq] at tables
      obtain ⟨orders, -, -, nextItemId, log⟩ := tables
      refine fulfilledOnce_forM_purchaseItem services items
        ((fulfilled.of_lifecycle same).fulfil (log ▸ fresh) (nextItemId ▸ keyInUse)
          (orders ▸ onPurchased)) distinct fun other member => ?_
      obtain ⟨otherFresh, otherKey, otherOrder⟩ := ready other (List.mem_cons_of_mem _ member)
      refine ⟨?_, nextItemId ▸ otherKey, orders ▸ otherOrder⟩
      simp only [Store.saveItem, List.mem_append, List.mem_singleton, log, not_or]
      exact ⟨otherFresh, fun sameId => notLater (List.mem_map.mpr ⟨other, member, sameId⟩)⟩

/-- `purchase` leaves the order stored as `purchased`: it was purchased already, or
`purchase` saved it so before anything that may raise. It fulfils only items of that
order, none of which was fulfilled while the order was not purchased. -/
theorem purchase_hasOrderAt (services : Services) {self : Order} (billTo : BillTo)
    (tracks : store.Tracks start self) :
    ((purchase services self billTo).after store).HasOrderAt start self.id .purchased := by
  unfold purchase
  split_ifs with purchased
  · exact purchased ▸ tracks.hasOrderAt
  have closing := tracks.saveOrder
    { self with
      status := .purchased
      billTo := recordBilling self.billTo billTo services.storeBillingInfo }
    rfl rfl (.inr rfl) rfl
  have unfulfilled (fulfilled : start.FulfilledOnce) : store.Unfulfilled self.id :=
    (tracks.fulfilled fulfilled).unfulfilled tracks.invariant tracks.row purchased
  rw [after_write_bind]
  refine Triple.after (triple_bind (?_ : Triple
    (fun store => store.Tracks start _ ∧ (start.FulfilledOnce → store.Unfulfilled self.id)) _
    (fun self' store => (store.Tracks start self' ∧ self'.id = self.id ∧
      self'.status = .purchased) ∧ (start.FulfilledOnce → store.Unfulfilled self.id))
    (·.HasOrderAt start self.id .purchased)) fun self' => ?_) ⟨closing, unfulfilled⟩
  · split
    · have kept (order : Order) : Keeps (fun store => start.FulfilledOnce →
          store.Unfulfilled self.id) (updateOrderType services order) :=
        fun store unfulfilled fulfilled =>
          keeps_unfulfilled_updateOrderType services order self.id store (unfulfilled fulfilled)
      exact ((updateOrderType_tracks services _).and_keeps (kept _)).mono
        (fun _ holds => holds) (fun _ _ holds => holds) fun _ holds => holds.1
    · exact fun _ holds => ⟨⟨holds.1, rfl, rfl⟩, holds.2⟩
  refine Triple.of_after fun base ⟨⟨tracks, sameId, closed⟩, unfulfilled⟩ => ?_
  have closedRow : base.HasOrderAt start self.id .purchased :=
    sameId ▸ closed ▸ tracks.hasOrderAt
  rw [after_read_bind, after_bind_confirmPurchase]
  have loop :
      Keeps (·.Frames base) ((base.itemsOf self'.id).forM (OrderItem.purchaseItem services)) :=
    keeps_forM _ fun item member current frames => by
      rcases OrderItem.purchaseItem_lifecycle services item current with same | saved
      · exact frames.of_lifecycle same
      · refine ((frames.log _).saveItem tracks.invariant { item with status := .purchased } member
          rfl rfl rfl rfl fun order stored opened => ?_).of_lifecycle saved
        rw [(Store.mem_itemsOf.mp member).2, tracks.row, Option.some.injEq] at stored
        rw [← stored, closed] at opened
        exact absurd opened (by simp)
  refine (loop base (.refl tracks.invariant)).hasOrderAt closedRow fun fulfilled =>
    fulfilledOnce_forM_purchaseItem services _ (tracks.fulfilled fulfilled)
      (tracks.invariant.nodup_ids_itemsOf _) fun item member => ?_
  obtain ⟨⟨slot, below, stored⟩, onOrder⟩ := Store.mem_itemsOf.mp member
  exact ⟨(unfulfilled fulfilled).2 item (sameId ▸ member),
    (tracks.invariant.item_key slot item stored).1 ▸ below, self', onOrder ▸ tracks.row, closed⟩

end Order

/-! ## Free enrollment, refunds and discounts -/

/-- Free enrollment of a cart with items marks the cart and all its items purchased. -/
theorem CourseRegistrationCode.freeUserEnrollment_lifecycle (invariant : store.Invariant)
    (cart : Order) (nonempty : store.itemsOf cart.id ≠ []) :
    ((CourseRegistrationCode.freeUserEnrollment cart).after store).lifecycle =
      ((store.saveOrder { cart with status := .purchased }).markItemsOf cart.id
        .purchased).lifecycle := by
  rw [CourseRegistrationCode.freeUserEnrollment, after_commitOnSuccess]
  simp only [bind_apply, read_apply]
  split_ifs with opened
  · obtain ⟨marked, loop, lifecycle⟩ := OrderItem.lifecycle_forM_save
      (fun item => do
        Action.write (·.record (.enroll cart.user item.kind.courseId none))
        Action.write (·.saveItem { item with status := .purchased }))
      (fun item => some { item with status := .purchased }) (fun _ _ => ⟨_, rfl, rfl⟩)
      (store.itemsOf cart.id) store
    rw [bind_apply, loop]
    rw [invariant.foldl_set_status_itemsOf] at lifecycle
    simp only [Store.lifecycle, Prod.mk.injEq] at lifecycle
    simp only [write_apply, Store.lifecycle, Store.saveOrder, lifecycle]
    rfl
  · exact absurd (by simpa using opened) nonempty

theorem CourseRegistrationCode.freeUserEnrollment_since {cart : Order}
    (tracks : store.Tracks start cart) :
    ((CourseRegistrationCode.freeUserEnrollment cart).after store).Since start := by
  by_cases empty : store.itemsOf cart.id = []
  · simpa [CourseRegistrationCode.freeUserEnrollment, after_commitOnSuccess, empty] using
      tracks.toSince
  · exact (tracks.toSince.saveOrder_markItemsOf tracks.row .purchased
      (Or.inr (Or.inr (Or.inl rfl))) (fun _ => rfl) (by simp)).of_lifecycle
      (CourseRegistrationCode.freeUserEnrollment_lifecycle tracks.invariant cart empty)

/-- A refund keeps the invariant and moves orders as the module moves them; it is the one
call that takes the purchased mark off an order whose items were fulfilled. -/
theorem CertificateItem.refundCertCallback_follows (courseEnrollment : UnenrolledEnrollment)
    (invariant : store.Invariant) :
    ((CertificateItem.refundCertCallback courseEnrollment).after store).Follows store := by
  unfold CertificateItem.refundCertCallback
  split_ifs
  · exact .refl invariant
  simp only [after_read_bind]
  split
  · exact .refl invariant
  rename_i target _ targets
  have member : target ∈ (store.items.rows store.nextItemId).filter
      (isRefundTarget courseEnrollment) := targets ▸ List.mem_cons_self _ _
  obtain ⟨member, isTarget⟩ := List.mem_filter.mp member
  obtain ⟨key, below, stored⟩ := Table.mem_rows.mp member
  obtain ⟨keyed, -, orderExists⟩ := invariant.item_key key target stored
  have purchased : target.status = .purchased := by
    simp only [isRefundTarget, Bool.and_eq_true, beq_iff_eq] at isTarget
    exact isTarget.1.2
  have refunded := (Store.Since.refl invariant).of_orders (invariant.saveItem
    (show ({ target with status := .refunded } : OrderItem).id < store.nextItemId from
      keyed ▸ below) orderExists fun order row opened => by
      have same := invariant.items_follow_open_orders key target order stored row opened
      rw [← same, purchased] at opened
      exact absurd opened OrderStatus.isOpen_purchased)
    (fun agree => agree.saveItem _ fun order row => agree key target order stored row)
    (·.saveItem_over (show store.items target.id = some target by rw [keyed]; exact stored) rfl)
    rfl
  rw [after_write_bind, after_read_bind]
  split
  · rename_i order row
    have row' : store.orders order.id = some order := by
      rw [(invariant.order_key _ order row).1]
      exact row
    simp only [after_write_bind, after_pure]
    exact refunded.follows.saveOrder { order with status := .refunded } row' rfl
      (.inr OrderStatus.isOpen_refunded) rfl
  · simpa using refunded.follows

theorem RegistrationCodeRedemption.addRegCodeRedemption_since
    (courseRegCode : CourseRegistrationCode) (order : Order) (since : store.Since start) :
    ((RegistrationCodeRedemption.addRegCodeRedemption courseRegCode order).after store).Since
      start := by
  simp only [RegistrationCodeRedemption.addRegCodeRedemption, after_read_bind]
  split
  · exact since
  rename_i item found
  have member := List.mem_of_find?_eq_some found
  rw [after_read_bind, after_bind, raiseIf_apply]
  split_ifs
  · exact since
  simp only [after_write_bind, after_pure]
  exact since.saveItem_of_mem _ member rfl rfl rfl rfl rfl rfl

theorem CouponRedemption.addCouponRedemption_since (getDiscountPrice : Int → Int → Int)
    (coupon : Coupon) (order : Order) (since : store.Since start) :
    ((CouponRedemption.addCouponRedemption getDiscountPrice coupon order
      (store.itemsOf order.id)).after store).Since start := by
  simp only [CouponRedemption.addCouponRedemption, after_read_bind]
  rw [after_bind, raiseIf_apply]
  split_ifs
  · exact since
  simp only
  split
  · exact since
  rename_i item found
  have member := List.mem_of_find?_eq_some found
  simp only [after_write_bind, after_pure]
  exact since.saveItem_of_mem _ member rfl rfl rfl rfl rfl rfl

/-! ## Every call, every run -/

theorem keeps_withOrder {Holds : Store → Prop} {key : OrderId} {body : Order → Action α}
    (each : ∀ order, Keeps Holds (body order)) : Keeps Holds (withOrder key body) :=
  keeps_bind (keeps_read _ _) fun
    | some order => keeps_bind (each order) fun _ => keeps_pure _ ()
    | none => keeps_pure _ ()

theorem keeps_withCode {Holds : Store → Prop} {key : CodeId}
    {body : CourseRegistrationCode → Action α}
    (each : ∀ courseRegCode, Keeps Holds (body courseRegCode)) :
    Keeps Holds (withCode key body) :=
  keeps_bind (keeps_read _ _) fun
    | some courseRegCode => keeps_bind (each courseRegCode) fun _ => keeps_pure _ ()
    | none => keeps_pure _ ()

theorem withOrder_since {key : OrderId} {body : Order → Action α} (invariant : store.Invariant)
    (each : ∀ order, store.Tracks store order → ((body order).after store).Since store) :
    ((withOrder key body).after store).Since store := by
  cases row : store.orders key with
  | none => rw [withOrder_after_none row]; exact .refl invariant
  | some order =>
    rw [withOrder_after_some row]
    exact each order (invariant.tracks ((invariant.order_key key order row).1 ▸ row))

theorem withCode_since {key : CodeId} {body : CourseRegistrationCode → Action α}
    (invariant : store.Invariant)
    (each : ∀ courseRegCode, ((body courseRegCode).after store).Since store) :
    ((withCode key body).after store).Since store := by
  simp only [withCode, after_read_bind]
  split
  · rw [after_bind_pure]
    exact each _
  · exact .refl invariant

/-- A call of `refund_cert_callback`. -/
def Operation.IsRefund : Operation → Bool
  | .refundCertCallback _ => true
  | _ => false

section

variable (getDiscountPrice : Int → Int → Int)

/-- Every call of the module other than a refund keeps the invariant and every item
fulfilled at most once, and moves the orders it finds only as the module moves orders,
whether it returns or raises. -/
theorem step_since (call : Services × Operation) (notRefund : call.2.IsRefund = false)
    (invariant : store.Invariant) : (step getDiscountPrice store call).Since store := by
  obtain ⟨services, operation⟩ := call
  simp only [step, Operation.action]
  have unchanged :
      ∀ {store' : Store}, store'.lifecycle = store.lifecycle → store'.Since store :=
    (Store.Since.refl invariant).of_lifecycle
  cases operation with
  | getCartForUser user =>
    rw [after_bind_pure]
    exact Order.getCartForUser_since user (.refl invariant)
  | addPaidCourseRegistration | addCourseRegCodeItem =>
    exact withOrder_since invariant fun _ tracks =>
      (SeatVariant.addToOrder_tracks _ _ _ _ _ _ _ _).after_of
        (fun _ _ holds => holds.1.toSince) (fun _ tracks => tracks.toSince) tracks
  | addCertificateItem =>
    exact withOrder_since invariant fun _ tracks =>
      (CertificateItem.addToOrder_tracks _ _ _ _ _ _).after_of
        (fun _ _ holds => holds.1.toSince) (fun _ tracks => tracks.toSince) tracks
  | addDonation =>
    exact withOrder_since invariant fun _ tracks =>
      (Donation.addToOrder_tracks _ _ _ _ _).after_of
        (fun _ _ holds => holds.toSince) (fun _ tracks => tracks.toSince) tracks
  | clear => exact withOrder_since invariant fun order tracks =>
      Order.clear_since order tracks.toSince
  | resetCartItemsPrices => exact withOrder_since invariant fun order tracks =>
      Order.resetCartItemsPrices_since order tracks.toSince
  | startPurchase => exact withOrder_since invariant fun _ => Order.startPurchase_since
  | updateOrderType =>
    exact withOrder_since invariant fun _ tracks =>
      (Order.updateOrderType_tracks _ _).after_of
        (fun _ _ holds => holds.1.toSince) (fun _ holds => holds.toSince) tracks
  | purchase _ billTo =>
    exact withOrder_since invariant fun _ tracks =>
      (Order.purchase_hasOrderAt services billTo tracks).toSince
  | freeUserEnrollment =>
    exact withOrder_since invariant fun _ => CourseRegistrationCode.freeUserEnrollment_since
  | refundCertCallback => simp [Operation.IsRefund] at notRefund
  | addRegCodeRedemption =>
    exact withCode_since invariant fun courseRegCode => withOrder_since invariant
      fun order tracks =>
        RegistrationCodeRedemption.addRegCodeRedemption_since courseRegCode order
          tracks.toSince
  | createInvoiceGeneratedRegistrationRedemption =>
    exact withCode_since invariant fun _ => unchanged rfl
  | deleteRegistrationRedemption => exact withOrder_since invariant fun _ _ => unchanged rfl
  | addCouponRedemption coupon =>
    refine withOrder_since invariant fun order tracks => ?_
    rw [after_read_bind]
    exact CouponRedemption.addCouponRedemption_since getDiscountPrice coupon order
      tracks.toSince
  | deleteCouponRedemption => exact withOrder_since invariant fun _ _ => unchanged rfl

/-- Every call of the module, a refund included, keeps the invariant and moves the orders
it finds only as the module moves orders, whether it returns or raises. -/
theorem step_follows (call : Services × Operation) (invariant : store.Invariant) :
    (step getDiscountPrice store call).Follows store := by
  cases refund : call.2.IsRefund
  · exact (step_since getDiscountPrice call refund invariant).follows
  obtain ⟨services, operation⟩ := call
  cases operation <;> simp only [Operation.IsRefund, Bool.false_eq_true] at refund
  simp only [step, Operation.action, after_bind_pure]
  exact CertificateItem.refundCertCallback_follows _ invariant

/-- Every call of the module keeps the invariant, whether it returns or raises. -/
theorem step_invariant (call : Services × Operation) (invariant : store.Invariant) :
    (step getDiscountPrice store call).Invariant :=
  (step_follows getDiscountPrice call invariant).invariant

theorem initial_invariant (registrationCodes : Table CourseRegistrationCode) (nextCodeId : Nat) :
    (Store.initial registrationCodes nextCodeId).Invariant where
  order_key _ _ stored := nomatch stored
  item_key _ _ stored := nomatch stored
  items_follow_open_orders _ _ _ stored := nomatch stored
  one_cart_per_user _ _ _ _ stored := nomatch stored

theorem initial_fulfilledOnce (registrationCodes : Table CourseRegistrationCode)
    (nextCodeId : Nat) : (Store.initial registrationCodes nextCodeId).FulfilledOnce :=
  ⟨List.nodup_nil, fun _ logged => (nomatch logged), fun _ logged => (nomatch logged)⟩

/-- Every reachable store satisfies the invariant. -/
theorem reachable_invariant {store : Store} (reachable : Reachable getDiscountPrice store) :
    store.Invariant :=
  Reachable.induction getDiscountPrice initial_invariant
    (fun _ call invariant => step_invariant getDiscountPrice call invariant) reachable

/-- In every reachable store the items share their orders' currencies, donations apart. -/
theorem reachable_currenciesAgree {store : Store} (reachable : Reachable getDiscountPrice store) :
    store.CurrenciesAgree :=
  (@Reachable.induction getDiscountPrice (fun store => store.Invariant ∧ store.CurrenciesAgree)
    (fun _ _ => ⟨initial_invariant _ _, fun _ _ _ stored => nomatch stored⟩)
    (fun _ call ⟨invariant, agree⟩ => ⟨step_invariant getDiscountPrice call invariant,
      (step_follows getDiscountPrice call invariant).currencies agree⟩) _ reachable).2

/-- From any store satisfying the invariant, every sequence of calls leaves one that
satisfies it. -/
theorem run_keeps_invariant (invariant : store.Invariant) (calls : List (Services × Operation)) :
    (run getDiscountPrice store calls).Invariant :=
  run_induction getDiscountPrice (fun call _ _ => step_invariant getDiscountPrice call) invariant

/-- Every sequence of calls from a store satisfying the invariant keeps it, and moves the
orders of that store only as the module moves orders. -/
theorem run_follows (invariant : store.Invariant) (calls : List (Services × Operation)) :
    (run getDiscountPrice store calls).Follows store := by
  induction calls generalizing store with
  | nil => exact .refl invariant
  | cons call calls induction =>
    have first := step_follows getDiscountPrice call invariant
    exact (induction first.invariant).trans first

theorem run_keeps_invariant_seatInCart :
    (run (fun _ price => price) (Store.initial (fun _ => none) 0) seatInCart).Invariant :=
  run_keeps_invariant (fun _ price => price) (initial_invariant _ _) seatInCart

end

end ShoppingCart
