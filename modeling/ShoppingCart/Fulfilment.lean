import ShoppingCart.Codes

/-! # What a purchase asks of the enrollment services

The `purchased_callback` of a seat enrolls its buyer in its course and mode; that of a
certificate submits a verification attempt, changes the mode of its enrollment and
activates it; a code bundle mints codes instead (`ShoppingCart.Codes`) and a donation asks
nothing. `purchase` runs the callback of every item the order holds after the
reclassification pass, which asks nothing of the services, so what it asks is read off one
lemma per callback and the loop lemma `OrderItem.log_forM_purchaseItem`.
`free_user_enrollment` runs no callback: it enrolls the buyer in the course of every item,
whatever the item is, in the course's default mode.
-/

namespace ShoppingCart

open Action

namespace OrderItem

/-- What the fulfilment of an item asks of the enrollment and verification services. -/
def requestedEffects (item : OrderItem) : List Effect :=
  match item.kind with
  | .paidCourseRegistration courseId mode => [.enroll item.user (some courseId) (some mode)]
  | .certificateItem _ courseEnrollment mode =>
    [.submitVerification item.user, .changeMode courseEnrollment mode,
      .activate courseEnrollment]
  | .courseRegCodeItem _ _ | .donation _ _ => []

theorem effects_purchasedCallback {services : Services} {item : OrderItem}
    {store store' : Store} (returned : purchasedCallback services item store = .ok () store') :
    store'.effects = store.effects ++ item.requestedEffects := by
  unfold purchasedCallback at returned
  unfold requestedEffects
  cases kind : item.kind with
  | paidCourseRegistration courseId =>
    by_cases vanished : (services.getCourse courseId).isNone = true <;>
      simp [kind, vanished] at returned
    rw [← returned]
    rfl
  | courseRegCodeItem courseId =>
    by_cases vanished : (services.getCourse courseId).isNone = true <;>
      simp [kind, vanished] at returned
    have minted : Keeps (·.effects = store.effects) ((List.range item.qty.toNat).forM
        fun _ => saveRegistrationCode item.user courseId none (some item.order)) :=
      keeps_forM _ fun _ _ => keeps_write fun _ same => same
    simpa [after_of_ok returned] using minted store rfl
  | certificateItem =>
    simp only [kind, bind_apply, write_apply, EStateM.Result.ok.injEq] at returned
    rw [← returned.2]
    simp [Store.record]
  | donation =>
    simp only [kind, pure_apply, EStateM.Result.ok.injEq] at returned
    rw [← returned.2]
    simp

end OrderItem

/-- The reclassification pass asks nothing of the services. -/
theorem Order.keeps_effects_updateOrderType (services : Services) (self : Order)
    (effects : List Effect) : Keeps (·.effects = effects) (Order.updateOrderType services self) :=
  keeps_updateOrderType services
    (fun _ _ => SeatVariant.keeps_addToOrder _ _ _ _ _ _ _ _ fun _ _ same _ _ _ _ => same)
    (fun _ _ _ => SeatVariant.keeps_addToOrder _ _ _ _ _ _ _ _ fun _ _ same _ _ _ _ => same)
    (fun _ _ same => same) (fun _ _ same => same) self

/-- When `purchase` returns on an order of a store satisfying the invariant that is not
purchased yet, what it has asked of the enrollment and verification services, after what
was asked before, is the fulfilment of each item the order holds after the reclassification
pass, item after item; for an order that is not a business one, those are the items the
order held. -/
theorem purchase_requests_fulfilment_of_items (services : Services) {store store' : Store}
    (invariant : store.Invariant) {self : Order} (billTo : BillTo)
    (stored : store.orders self.id = some self) (notPurchased : self.status ≠ .purchased)
    (returned : Order.purchase services self billTo store = .ok () store') :
    let closed := { self with
      status := .purchased
      billTo := Order.recordBilling self.billTo billTo services.storeBillingInfo }
    ∃ self' reclassified,
      (if closed.orderType = .business then Order.updateOrderType services closed
        else pure closed) (store.saveOrder closed) = .ok self' reclassified ∧
      (self.orderType ≠ .business → reclassified.itemsOf self.id = store.itemsOf self.id) ∧
      store'.effects =
        store.effects ++ (reclassified.itemsOf self.id).flatMap OrderItem.requestedEffects := by
  intro closed
  obtain ⟨self', reclassified, passed, looped⟩ :=
    Order.purchase_ok invariant stored notPurchased returned
  have unrequested : reclassified.effects = store.effects := after_of_ok passed ▸
    Order.keeps_purchasePass services closed
      (Order.keeps_effects_updateOrderType services closed _) (store.saveOrder closed) rfl
  have requested := OrderItem.log_forM_purchaseItem services Store.effects
    OrderItem.requestedEffects OrderItem.effects_purchasedCallback (fun _ _ => rfl) _ looped
  refine ⟨self', reclassified, passed, fun personal => ?_, by rw [requested, unrequested]⟩
  simp only [closed, personal, if_false, pure_apply, EStateM.Result.ok.injEq] at passed
  rw [← passed.2, Store.itemsOf_saveOrder]

theorem purchase_requests_fulfilment_of_items_seatInCart :
    let closed : Order :=
      { id := 0, user := 5, status := .purchased, billTo := Order.recordBilling {} {} false }
    ∃ self' reclassified,
      (if closed.orderType = .business then Order.updateOrderType .oneCourse closed
        else pure closed)
        ((run (fun _ price => price) (Store.initial (fun _ => none) 0) seatInCart).saveOrder
          closed) = .ok self' reclassified ∧
      (OrderType.personal ≠ .business → reclassified.itemsOf 0 =
        (run (fun _ price => price) (Store.initial (fun _ => none) 0) seatInCart).itemsOf 0) ∧
      ((Order.purchase .oneCourse { id := 0, user := 5 } {}).after
          (run (fun _ price => price) (Store.initial (fun _ => none) 0) seatInCart)).effects =
        (run (fun _ price => price) (Store.initial (fun _ => none) 0) seatInCart).effects ++
          (reclassified.itemsOf 0).flatMap OrderItem.requestedEffects :=
  @purchase_requests_fulfilment_of_items .oneCourse
    (run (fun _ price => price) (Store.initial (fun _ => none) 0) seatInCart) _
    (reachable_invariant _ (reachable_run _ (.initial _ _) _)) { id := 0, user := 5 } {}
    (by decide) (by decide) rfl

/-- The purchase of user 5's seat asks the enrollment of the user in course 1 in the
default mode, and nothing else. -/
example : ((Order.purchase .oneCourse { id := 0, user := 5 } {}).after
    (run (fun _ price => price) (Store.initial (fun _ => none) 0) seatInCart)).effects =
    [.enroll 5 (some 1) (some "honor")] := by decide

/-! ## Free enrollment -/

/-- The loop of `free_user_enrollment` asks the enrollment of the cart's user in the course
of each item in turn, and mints no code. -/
theorem CourseRegistrationCode.effects_forM_enroll (cart : Order) :
    ∀ (items : List OrderItem) (store : Store), ∃ store',
      (items.forM fun item => do
        Action.write (·.record (.enroll cart.user item.kind.courseId none))
        Action.write (·.saveItem { item with status := .purchased })) store = .ok () store' ∧
      store'.effects =
        store.effects ++ items.map (fun item => .enroll cart.user item.kind.courseId none) ∧
      store'.codeIssues = store.codeIssues
  | [], store => ⟨store, rfl, by simp, rfl⟩
  | item :: items, store => by
    obtain ⟨store', ran, effects, codes⟩ := effects_forM_enroll cart items
      ((store.record (.enroll cart.user item.kind.courseId none)).saveItem
        { item with status := .purchased })
    refine ⟨store', by simp only [List.forM_cons', bind_apply, write_apply, ran], ?_, codes⟩
    rw [effects, List.map_cons, ← List.singleton_append, ← List.append_assoc]
    rfl

/-- Free enrollment of user 5's cart, which holds a certificate and a bundle of two codes,
enrolls the user in both courses and mints no code. -/
example : ((CourseRegistrationCode.freeUserEnrollment { id := 0, user := 5 }).after
    (run (fun _ price => price) (Store.initial (fun _ => none) 0)
      [(.twoCourses, .getCartForUser 5),
       (.twoCourses, .addCertificateItem 0 1 50 "verified" "usd"),
       (.twoCourses, .addCourseRegCodeItem 0 2 2 "honor" none none)])).effects =
    [.getOrCreateEnrollment 5 1, .enroll 5 (some 1) none, .enroll 5 (some 2) none] := by
  decide

end ShoppingCart
