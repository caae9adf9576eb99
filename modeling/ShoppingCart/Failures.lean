import ShoppingCart.Reclassification

/-! # Calls that raise

A call of the module that raises leaves the store as it found it, unless it wrote outside
a transaction before raising. The factories, `start_purchase` and `free_user_enrollment`
run under `commit_on_success`; `add_reg_code_redemption` and `add_coupon_redemption` make
their checks before their first write; the other calls never raise. The two exceptions are
`update_order_type`, whose conversions each commit on their own, and `purchase`, which
saves the order as purchased before its pass and its loop: a `purchase` that raises leaves
the order purchased, and any later `purchase` of the order returns at once. Either an item
it did not fulfil is left, or every item was fulfilled and the codes CSV or the
confirmation e-mails raised after the loop. A `purchase` of an order that is not a business
one raises exactly when a seat or a code bundle of it names a course the catalogue no
longer has, or when the mail backend raises an error the e-mails do not catch.
-/

namespace ShoppingCart

namespace Action

/-- A raise leaves the store as the call found it. -/
def Atomic (action : Action α) : Prop :=
  ∀ store error store', action store = .error error store' → store' = store

/-- The call never raises. -/
def Returns (action : Action α) : Prop :=
  ∀ store, ∃ value store', action store = .ok value store'

theorem Returns.atomic {action : Action α} (returns : Returns action) : Atomic action :=
  fun store _ _ raised => by
    obtain ⟨_, _, returned⟩ := returns store
    rw [returned] at raised
    cases raised

theorem returns_pure (value : α) : Returns (pure value : Action α) :=
  fun store => ⟨value, store, rfl⟩

theorem returns_read (query : Store → α) : Returns (read query) :=
  fun store => ⟨query store, store, rfl⟩

theorem returns_write (change : Store → Store) : Returns (write change) :=
  fun store => ⟨(), change store, rfl⟩

theorem returns_bind {action : Action α} {next : α → Action β} (first : Returns action)
    (rest : ∀ value, Returns (next value)) : Returns (action >>= next) := fun store => by
  obtain ⟨value, middle, returned⟩ := first store
  obtain ⟨result, store', continued⟩ := rest value middle
  exact ⟨result, store', by simp only [bind_apply, returned, continued]⟩

theorem returns_forM {body : α → Action Unit} (each : ∀ value, Returns (body value)) :
    ∀ values : List α, Returns (values.forM body)
  | [] => returns_pure ()
  | value :: values => by
    rw [List.forM_cons']
    exact returns_bind (each value) fun _ => returns_forM each values

theorem atomic_commitOnSuccess (action : Action α) : Atomic (commitOnSuccess action) :=
  fun _ _ _ => commitOnSuccess_error

theorem atomic_raise (error : ShoppingCartError) : Atomic (raise error : Action α) :=
  fun _ _ _ raised => by
    simp only [raise_apply, EStateM.Result.error.injEq] at raised
    exact raised.2.symm

/-- A call that leaves the store as it is, whether it returns or raises, then an atomic
one. -/
theorem atomic_bind {action : Action α} {next : α → Action β}
    (reads : ∀ origin, Keeps (· = origin) action) (rest : ∀ value, Atomic (next value)) :
    Atomic (action >>= next) := fun store error store' raised => by
  have same := reads store store rfl
  rw [bind_apply] at raised
  cases result : action store with
  | ok value middle =>
    simp only [result] at raised
    rw [after_of_ok result] at same
    exact (rest value middle error store' raised).trans same
  | error _ middle =>
    simp only [result, EStateM.Result.error.injEq] at raised
    rw [after_of_error result] at same
    exact raised.2 ▸ same

/-- An atomic call, then one that never raises. -/
theorem atomic_bind_returns {action : Action α} {next : α → Action β} (first : Atomic action)
    (rest : ∀ value, Returns (next value)) : Atomic (action >>= next) :=
  fun store error store' raised => by
    rw [bind_apply] at raised
    cases result : action store with
    | ok value middle =>
      obtain ⟨_, _, returned⟩ := rest value middle
      simp only [result, returned, reduceCtorEq] at raised
    | error _ middle =>
      simp only [result, EStateM.Result.error.injEq] at raised
      exact raised.2 ▸ first store _ middle result

/-- What a call keeps holds of the store it leaves when it raises. -/
theorem Keeps.of_error {Holds : Store → Prop} {action : Action α} (kept : Keeps Holds action)
    {store store' : Store} {error : ShoppingCartError}
    (raised : action store = .error error store') (holds : Holds store) : Holds store' :=
  after_of_error raised ▸ kept store holds

/-- A sequence that raises raised in its first call, or in the rest once the first had
returned. -/
theorem bind_eq_error {action : Action α} {next : α → Action β} {store store' : Store}
    {error : ShoppingCartError} (raised : (action >>= next) store = .error error store') :
    action store = .error error store' ∨
      ∃ value middle, action store = .ok value middle ∧
        next value middle = .error error store' := by
  rw [bind_apply] at raised
  cases result : action store with
  | ok value middle => exact .inr ⟨value, middle, rfl, by simpa only [result] using raised⟩
  | error =>
    simp only [result, EStateM.Result.error.injEq] at raised
    obtain ⟨rfl, rfl⟩ := raised
    exact .inl rfl

/-- A loop of atomic calls that raises stopped at one value: the values before it ran to
a return, and the store is the one they left. -/
theorem forM_eq_error {body : α → Action Unit} (each : ∀ value, Atomic (body value)) :
    ∀ (values : List α) {store store' : Store} {error : ShoppingCartError},
      values.forM body store = .error error store' →
      ∃ done value rest, values = done ++ value :: rest ∧ done.forM body store = .ok () store'
  | [], _, _, _, raised => by simp at raised
  | value :: values, store, store', error, raised => by
    rw [List.forM_cons'] at raised
    rcases bind_eq_error raised with first | ⟨_, middle, returned, rest⟩
    · exact ⟨[], value, values, rfl, by rw [each value _ _ _ first]; rfl⟩
    · obtain ⟨done, stopped, after, rfl, ran⟩ := forM_eq_error each values rest
      exact ⟨value :: done, stopped, after, rfl, by simp [List.forM_cons', returned, ran]⟩

end Action

open Action

theorem atomic_withOrder {key : OrderId} {body : Order → Action α}
    (each : ∀ order, Atomic (body order)) : Atomic (withOrder key body) := by
  refine atomic_bind (fun _ => keeps_read _ _) fun row => ?_
  cases row with
  | none => exact (returns_pure ()).atomic
  | some order => exact atomic_bind_returns (each order) fun _ => returns_pure ()

theorem atomic_withCode {key : CodeId} {body : CourseRegistrationCode → Action α}
    (each : ∀ courseRegCode, Atomic (body courseRegCode)) : Atomic (withCode key body) := by
  refine atomic_bind (fun _ => keeps_read _ _) fun row => ?_
  cases row with
  | none => exact (returns_pure ()).atomic
  | some courseRegCode =>
    exact atomic_bind_returns (each courseRegCode) fun _ => returns_pure ()

theorem Order.getCartForUser_returns (user : UserId) : Returns (Order.getCartForUser user) :=
  fun store => by
    rw [Order.getCartForUser_apply]
    split <;> exact ⟨_, _, rfl⟩

theorem Order.resetCartItemsPrices_returns (order : Order) :
    Returns (Order.resetCartItemsPrices order) :=
  returns_bind (returns_read _) <| returns_forM fun item store =>
    ⟨(), _, Order.resetItemPrice_apply item store⟩

theorem CertificateItem.refundCertCallback_returns
    (courseEnrollment : CertificateItem.UnenrolledEnrollment) :
    Returns (CertificateItem.refundCertCallback courseEnrollment) := by
  unfold CertificateItem.refundCertCallback
  split
  · exact returns_pure none
  refine returns_bind (returns_read _) fun targetCerts => ?_
  cases targetCerts with
  | nil => exact returns_pure none
  | cons targetCert _ =>
    refine returns_bind (returns_write _) fun _ => returns_bind (returns_read _) fun row => ?_
    cases row with
    | none => exact returns_bind (returns_pure ()) fun _ => returns_pure _
    | some order => exact returns_bind (returns_write _) fun _ => returns_pure _

/-- `add_reg_code_redemption` raises before its first write. -/
theorem RegistrationCodeRedemption.addRegCodeRedemption_atomic
    (courseRegCode : CourseRegistrationCode) (order : Order) :
    Atomic (RegistrationCodeRedemption.addRegCodeRedemption courseRegCode order) := by
  refine atomic_bind (fun _ => keeps_read _ _) fun cartItems => ?_
  split
  · exact atomic_raise _
  · exact atomic_bind (fun _ => keeps_read _ _) fun _ =>
      atomic_bind (fun _ => keeps_raiseIf _ _ _) fun _ =>
        (returns_bind (returns_write _) fun _ =>
          returns_bind (returns_write _) fun _ => returns_pure _).atomic

/-- `add_coupon_redemption` raises before its first write. -/
theorem CouponRedemption.addCouponRedemption_atomic (getDiscountPrice : Int → Int → Int)
    (coupon : Coupon) (order : Order) (cartItems : List OrderItem) :
    Atomic (CouponRedemption.addCouponRedemption getDiscountPrice coupon order cartItems) := by
  refine atomic_bind (fun _ => keeps_read _ _) fun _ =>
    atomic_bind (fun _ => keeps_raiseIf _ _ _) fun _ => Returns.atomic ?_
  split
  · exact returns_pure false
  · exact returns_bind (returns_write _) fun _ =>
      returns_bind (returns_write _) fun _ => returns_pure true

/-! ## The calls of the module -/

/-- The calls that may write and then raise outside a transaction: `update_order_type` and
`purchase`. -/
def Operation.raisesAfterWriting : Operation → Bool
  | .updateOrderType _ | .purchase _ _ => true
  | _ => false

/-- An `update_order_type` that raises had items on the order, and left them there,
followed by the rows its conversions inserted. -/
theorem Order.updateOrderType_error_items (services : Services) {self : Order}
    {store store' : Store} {error : ShoppingCartError}
    (raised : Order.updateOrderType services self store = .error error store') :
    store.itemsOf self.id ≠ [] ∧
      ∃ created, store'.itemsOf self.id = store.itemsOf self.id ++ created := by
  rw [Order.updateOrderType_apply] at raised
  have converted := reclassifyItems_converts services (Order.isBusinessFor store self) store
    self.id (store.itemsOf self.id) self [] [] store ⟨rfl, [], .refl store self.id, .nil⟩
  cases pass : Order.reclassifyItems services (Order.isBusinessFor store self)
      (store.itemsOf self.id) self [] store with
  | ok => rw [pass] at raised; cases raised
  | error _ middle =>
    rw [pass] at raised converted
    cases raised
    obtain ⟨-, -, created, appends, -⟩ := converted
    refine ⟨fun empty => ?_, created, appends.itemsOf⟩
    rw [empty] at pass
    cases pass

/-- A loop of `purchase_item` over the items of an order that raises, in a store satisfying
the invariant, has logged the fulfilments of the items before the one that raised, and that
one is still on the order. -/
theorem OrderItem.forM_purchaseItem_error {services : Services} {store store' : Store}
    (invariant : store.Invariant) {key : OrderId} {error : ShoppingCartError}
    (raised : (store.itemsOf key).forM (purchaseItem services) store = .error error store') :
    ∃ added, store'.fulfilments = store.fulfilments ++ added ∧
      ∃ item ∈ store'.itemsOf key, item.id ∉ added := by
  obtain ⟨done, item, rest, split, ran⟩ :=
    forM_eq_error (fun _ => atomic_commitOnSuccess _) _ raised
  have lifecycle := OrderItem.forM_purchaseItem_ok services done ran
  simp only [Store.lifecycle, Prod.mk.injEq] at lifecycle
  obtain ⟨-, -, items, nextItemId, fulfilments⟩ := lifecycle
  have distinct := invariant.nodup_ids_itemsOf key
  rw [split, List.map_append, List.map_cons, List.nodup_append] at distinct
  have fresh : item.id ∉ done.map (·.id) := fun logged => distinct.2.2 logged (.head _)
  have member : item ∈ store.itemsOf key := split ▸ List.mem_append_right _ (.head _)
  obtain ⟨⟨slot, below, row⟩, onOrder⟩ := Store.mem_itemsOf.mp member
  obtain rfl := (invariant.item_key slot item row).1
  refine ⟨done.map (·.id), fulfilments, item,
    Store.mem_itemsOf.mpr ⟨⟨item.id, nextItemId ▸ below, ?_⟩, onOrder⟩, fresh⟩
  rw [items]
  refine (foldl_save_apply_of_forall_ne (fun item => some { item with status := .purchased })
    (fun _ _ saved => by cases saved; rfl) done store.items fun _ saved same => ?_).trans row
  exact fresh (same ▸ List.mem_map_of_mem _ saved)

/-- The site of `Services.oneCourse` once course 1 has been removed. -/
def Services.courseRemoved : Services :=
  { Services.oneCourse with getCourse := fun _ => none }

/-- The site of `Services.oneCourse` whose mail backend refuses connections. -/
def Services.mailRefused : Services :=
  { Services.oneCourse with sendEmail := .unhandledError }

/-- With the mail backend refusing connections, the purchase of user 5's seat raises once
the seat is fulfilled. -/
example : (match Order.purchase .mailRefused { id := 0, user := 5 } {}
      (run (fun _ price => price) (Store.initial (fun _ => none) 0) seatInCart) with
    | .error error store => some (error, store.fulfilments)
    | .ok _ _ => none) = some (.mailBackendError, [0]) := by decide

/-- The seat of the removed course stays at the cart's status, unfulfilled, on an order
stored as purchased. -/
example : (((Order.purchase .courseRemoved { id := 0, user := 5 } {}).after
      (run (fun _ price => price) (Store.initial (fun _ => none) 0) seatInCart)).orders 0).map
      (·.status) = some .purchased ∧
    ((Order.purchase .courseRemoved { id := 0, user := 5 } {}).after
      (run (fun _ price => price) (Store.initial (fun _ => none) 0) seatInCart)).fulfilments =
      [] ∧
    (((Order.purchase .courseRemoved { id := 0, user := 5 } {}).after
      (run (fun _ price => price) (Store.initial (fun _ => none) 0) seatInCart)).itemsOf 0).map
      (·.status) = [.cart] := by decide

/-! ## When a purchase raises -/

namespace OrderItem

/-- Whether the fulfilment of an item goes through: a seat or a code bundle needs its
course in the catalogue; a certificate and a donation always go through. -/
def fulfillable (services : Services) (item : OrderItem) : Bool :=
  match item.kind with
  | .paidCourseRegistration courseId _ | .courseRegCodeItem courseId _ =>
    (services.getCourse courseId).isSome
  | .certificateItem _ _ _ | .donation _ _ => true

/-- A callback returns, on any store, exactly when its item is fulfillable. -/
theorem purchasedCallback_returns_iff (services : Services) (item : OrderItem) (store : Store) :
    (∃ store', purchasedCallback services item store = .ok () store') ↔
      item.fulfillable services := by
  unfold purchasedCallback fulfillable
  cases item.kind with
  | paidCourseRegistration courseId | courseRegCodeItem courseId =>
    cases found : services.getCourse courseId <;> simp [found, saveRegistrationCode, forM_write]
  | certificateItem | donation => simp

theorem purchaseItem_returns_iff (services : Services) (item : OrderItem) (store : Store) :
    (∃ store', purchaseItem services item store = .ok () store') ↔
      item.fulfillable services := by
  rw [← purchasedCallback_returns_iff services item store]
  simp only [purchaseItem, commitOnSuccess_apply, bind_apply, write_apply]
  cases purchasedCallback services item store <;> simp

/-- A loop of `purchase_item` returns exactly when every item of it is fulfillable: what a
fulfilment needs does not depend on the store the earlier ones left. -/
theorem forM_purchaseItem_returns_iff (services : Services) :
    ∀ (items : List OrderItem) (store : Store),
      (∃ store', items.forM (purchaseItem services) store = .ok () store') ↔
        ∀ item ∈ items, item.fulfillable services
  | [], store => by simp
  | item :: items, store => by
    rw [List.forM_cons', List.forall_mem_cons, ← purchaseItem_returns_iff services item store,
      bind_apply]
    cases purchaseItem services item store with
    | ok _ middle => simp [forM_purchaseItem_returns_iff services items middle]
    | error => simp

end OrderItem

/-- User 5's seat is fulfillable while course 1 is in the catalogue, and no longer once it
has been removed. -/
example : ((run (fun _ price => price) (Store.initial (fun _ => none) 0) seatInCart).itemsOf
      0).map (OrderItem.fulfillable .oneCourse) = [true] ∧
    ((run (fun _ price => price) (Store.initial (fun _ => none) 0) seatInCart).itemsOf
      0).map (OrderItem.fulfillable .courseRemoved) = [false] := by decide

end ShoppingCart
