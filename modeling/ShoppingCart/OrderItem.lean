import ShoppingCart.Basic

/-! # Order items

`OrderItem` and its four subclasses: the currency check every factory starts with, the
`add_to_order` factory of each subclass, and the fulfilment `purchased_callback` that
`purchase_item` runs. `PaidCourseRegistration.add_to_order` and
`CourseRegCodeItem.add_to_order` are the same code but for a few values, so they are one
definition, `SeatVariant.addToOrder`, applied to each subclass's values.
-/

namespace ShoppingCart

/-- Python's `if not cost: cost = fallback`: a missing or zero cost takes the fallback. -/
def costOrDefault (cost : Option Int) (fallback : Int) : Int :=
  match cost with
  | some cost => if cost = 0 then fallback else cost
  | none => fallback

/-- `if not currency: currency = fallback`. -/
def currencyOrDefault (currency : Option String) (fallback : String) : String :=
  match currency with
  | some currency => if currency = "" then fallback else currency
  | none => fallback

namespace OrderItem

/-- `OrderItem.add_to_order`: a currency other than the order's is refused once the order
has items. -/
def addToOrder (order : Order) (currency : String) : Action Unit := do
  let hasItems ← Action.read fun store => !(store.itemsOf order.id).isEmpty
  Action.raiseIf (order.currency != currency && hasItems)
    (.invalidCartItem "Trying to add a different currency into the cart")

/-- `OrderItem.start_purchase`. -/
def startPurchase (item : OrderItem) : Action Unit :=
  Action.write (·.saveItem { item with status := .paying })

/-- A loop whose body never raises and saves `change item` where there is one (besides
writes outside the order and item tables and the fulfilment log) saves them all, in
order. -/
theorem lifecycle_forM_save (body : OrderItem → Action Unit)
    (change : OrderItem → Option OrderItem)
    (saves : ∀ item store, ∃ store', body item store = .ok () store' ∧
      store'.lifecycle = ((change item).elim store store.saveItem).lifecycle) :
    ∀ (items : List OrderItem) (store : Store),
      ∃ store', items.forM body store = .ok () store' ∧
      store'.lifecycle = (store.orders, store.nextOrderId,
        items.foldl (fun table item => (change item).elim table
          fun changed => table.set changed.id changed) store.items, store.nextItemId,
        store.fulfilments)
  | [], store => ⟨store, rfl, rfl⟩
  | item :: items, store => by
    obtain ⟨saved, bodyOk, savedLifecycle⟩ := saves item store
    obtain ⟨final, loopOk, finalLifecycle⟩ := lifecycle_forM_save body change saves items saved
    refine ⟨final, by simp [bodyOk, loopOk], ?_⟩
    rw [finalLifecycle]
    cases changed : change item <;>
      simp only [changed, Option.elim, Store.lifecycle, Store.saveItem, Prod.mk.injEq]
        at savedLifecycle <;>
      simp [savedLifecycle, changed]

@[simp] theorem addToOrder_apply (order : Order) (currency : String) (store : Store) :
    addToOrder order currency store =
      if order.currency != currency && !(store.itemsOf order.id).isEmpty then
        .error (.invalidCartItem "Trying to add a different currency into the cart") store
      else .ok () store := by
  simp [addToOrder]

/-- The currency check passes exactly when the currency is the order's or the order is
empty. -/
theorem currency_of_addToOrder_ok {order : Order} {currency : String} {store store' : Store}
    (returned : addToOrder order currency store = .ok () store') :
    (order.currency = currency ∨ store.itemsOf order.id = []) ∧ store' = store := by
  rw [addToOrder_apply] at returned
  split_ifs at returned with mismatch
  simp only [EStateM.Result.ok.injEq, true_and] at returned
  simp only [Bool.and_eq_true, bne_iff_ne, ne_eq, Bool.not_eq_true', List.isEmpty_eq_false,
    not_and, Decidable.not_not] at mismatch
  refine ⟨?_, returned.symm⟩
  by_cases same : order.currency = currency
  · exact .inl same
  · exact .inr (by simpa using mismatch same)

end OrderItem

/-! ## Course seats and registration-code bundles -/

/-- What tells `PaidCourseRegistration` and `CourseRegCodeItem` apart in the code their
`contained_in_order` and `add_to_order` share. -/
structure SeatVariant where
  /-- The subclass row of a course in a mode. -/
  kind : CourseId → String → ItemKind
  /-- The course of an item of this subclass (`isinstance(item, cls)`), none for others. -/
  courseOf : ItemKind → Option CourseId
  /-- The translated `line_desc`, from the course's display name. -/
  lineDesc : String → String
  /-- The annotation table `csv_report_comments` reads. -/
  annotation : Services → CourseId → Option String

namespace SeatVariant

/-- `contained_in_order`. -/
def containedInOrder (variant : SeatVariant) (store : Store) (order : Order)
    (courseId : CourseId) : Bool :=
  (store.itemsOf order.id).any fun item => variant.courseOf item.kind == some courseId

/-- `add_to_order` of both seat subclasses. Its `get_or_create` always creates, since
`contained_in_order` has just ruled out a row of the subclass for the course. The order
object comes back with the currency the call wrote on it. -/
def addToOrder (variant : SeatVariant) (services : Services) (order : Order)
    (courseId : CourseId) (qty : Int) (modeSlug : String) (cost : Option Int)
    (currency : Option String) : Action (OrderItem × Order) :=
  commitOnSuccess do
    let some course := services.getCourse courseId
      | Action.raise (.courseDoesNotExistException "")
    let contained ← Action.read (variant.containedInOrder · order courseId)
    Action.raiseIf contained .itemAlreadyInCartException
    Action.raiseIf (services.isEnrolled order.user courseId) .alreadyEnrolledInCourseException
    let courseMode := (services.modeForCourse courseId modeSlug).getD services.defaultMode
    let cost := costOrDefault cost courseMode.minPrice
    let currency := currencyOrDefault currency courseMode.currency
    OrderItem.addToOrder order currency
    let item ← Action.createItem fun id =>
      { id, order := order.id, user := order.user, status := order.status, qty,
        unitCost := cost, lineDesc := variant.lineDesc course.displayName, currency,
        reportComments := (variant.annotation services courseId).getD "",
        kind := variant.kind courseId courseMode.slug }
    let order := { order with currency }
    Action.write (·.saveOrder order)
    pure (item, order)

/-- A seat factory that returns has found the course, no row of its subclass for it, and
an unenrolled user; it inserts the row below under the next key and writes its currency
on the order, which the currency check allows only for the order's own currency or an
empty order. -/
theorem addToOrder_ok {variant : SeatVariant} {services : Services} {order order' : Order}
    {courseId : CourseId} {qty : Int} {modeSlug : String} {cost : Option Int}
    {currency : Option String} {store store' : Store} {item : OrderItem}
    (returned : variant.addToOrder services order courseId qty modeSlug cost currency store =
      .ok (item, order') store') :
    ∃ course courseMode, services.getCourse courseId = some course ∧
      courseMode = (services.modeForCourse courseId modeSlug).getD services.defaultMode ∧
      variant.containedInOrder store order courseId = false ∧
      services.isEnrolled order.user courseId = false ∧
      (order.currency = item.currency ∨ store.itemsOf order.id = []) ∧
      item = { id := store.nextItemId, order := order.id, user := order.user,
               status := order.status, qty, unitCost := costOrDefault cost courseMode.minPrice,
               lineDesc := variant.lineDesc course.displayName,
               currency := currencyOrDefault currency courseMode.currency,
               reportComments := (variant.annotation services courseId).getD "",
               kind := variant.kind courseId courseMode.slug } ∧
      order' = { order with currency := item.currency } ∧
      store' = (store.createItem fun _ => item).saveOrder order' := by
  simp only [addToOrder, commitOnSuccess_apply] at returned
  cases found : services.getCourse courseId with
  | none => simp [found] at returned
  | some course =>
    cases contained : variant.containedInOrder store order courseId
    · cases enrolled : services.isEnrolled order.user courseId
      · simp only [found, contained, enrolled, Action.bind_apply, Action.read_apply,
          Action.raiseIf_apply, Bool.false_eq_true, if_false, Action.createItem_apply,
          Action.write_apply, Action.pure_apply] at returned
        cases checked : OrderItem.addToOrder order
            (currencyOrDefault currency
              ((services.modeForCourse courseId modeSlug).getD services.defaultMode).currency)
            store with
        | error =>
          rw [checked] at returned
          simp at returned
        | ok _ checkedStore =>
          obtain ⟨allowed, rfl⟩ := OrderItem.currency_of_addToOrder_ok checked
          simp only [checked, EStateM.Result.ok.injEq, Prod.mk.injEq] at returned
          obtain ⟨⟨rfl, rfl⟩, rfl⟩ := returned
          exact ⟨course, _, rfl, rfl, rfl, rfl, allowed, rfl, rfl, rfl⟩
      · simp [found, contained, enrolled] at returned
    · simp [found, contained] at returned

end SeatVariant

namespace PaidCourseRegistration

def variant : SeatVariant where
  kind := .paidCourseRegistration
  courseOf
    | .paidCourseRegistration courseId _ => some courseId
    | _ => none
  lineDesc courseName := s!"Registration for Course: {courseName}"
  annotation := Services.paidCourseRegistrationAnnotation

/-- `PaidCourseRegistration.contained_in_order`. -/
def containedInOrder (store : Store) (order : Order) (courseId : CourseId) : Bool :=
  variant.containedInOrder store order courseId

/-- `PaidCourseRegistration.add_to_order`: one seat. -/
def addToOrder (services : Services) (order : Order) (courseId : CourseId)
    (modeSlug : String) (cost : Option Int) (currency : Option String) :
    Action (OrderItem × Order) :=
  variant.addToOrder services order courseId 1 modeSlug cost currency

end PaidCourseRegistration

namespace CourseRegCodeItem

def variant : SeatVariant where
  kind := .courseRegCodeItem
  courseOf
    | .courseRegCodeItem courseId _ => some courseId
    | _ => none
  lineDesc courseName := s!"Enrollment codes for Course: {courseName}"
  annotation := Services.courseRegCodeItemAnnotation

/-- `CourseRegCodeItem.contained_in_order`. -/
def containedInOrder (store : Store) (order : Order) (courseId : CourseId) : Bool :=
  variant.containedInOrder store order courseId

/-- `CourseRegCodeItem.add_to_order`: `qty` registration codes to be minted. -/
def addToOrder (services : Services) (order : Order) (courseId : CourseId) (qty : Int)
    (modeSlug : String) (cost : Option Int) (currency : Option String) :
    Action (OrderItem × Order) :=
  variant.addToOrder services order courseId qty modeSlug cost currency

end CourseRegCodeItem

/-! ## Certificates and donations -/

namespace CertificateItem

/-- `CertificateItem.add_to_order`. Its `get_or_create` may find the row of an earlier
call; a missing course surfaces only when its `display_name` is read. -/
def addToOrder (services : Services) (order : Order) (courseId : CourseId) (cost : Int)
    (mode : String) (currency : String) : Action (OrderItem × Order) :=
  commitOnSuccess do
    OrderItem.addToOrder order currency
    Action.write (·.record (.getOrCreateEnrollment order.user courseId))
    let courseEnrollment := services.getOrCreateEnrollment order.user courseId
    let some modeInfo := services.modesForCourseDict courseId mode
      | Action.raise (.invalidCartItem s!"Mode {mode} does not exist for {courseId}")
    let kind := ItemKind.certificateItem courseId courseEnrollment mode
    let existing ← Action.read fun store =>
      (store.itemsOf order.id).find? fun item => item.user == order.user && item.kind == kind
    let item ← match existing with
      | some item => pure item
      | none => Action.createItem fun id => { id, order := order.id, user := order.user, kind }
    let some course := services.getCourse courseId
      | Action.raise .attributeError
    let modeName := modeInfo.name
    let courseName := course.displayName
    let item := { item with status := order.status, qty := 1, unitCost := cost,
                            lineDesc := s!"{modeName} for course {courseName}", currency }
    let order := { order with currency }
    Action.write (·.saveOrder order)
    Action.write (·.saveItem item)
    pure (item, order)

/-- A certificate that returns passed the currency check and is saved at the order's
status and currency, either as a new row under the next key or over the row of an earlier
call; the order takes its currency. -/
theorem addToOrder_ok {services : Services} {order order' : Order} {courseId : CourseId}
    {cost : Int} {mode currency : String} {store store' : Store} {item : OrderItem}
    (returned : addToOrder services order courseId cost mode currency store =
      .ok (item, order') store') :
    (order.currency = currency ∨ store.itemsOf order.id = []) ∧
      item.order = order.id ∧ item.user = order.user ∧ item.status = order.status ∧
      item.currency = currency ∧ order' = { order with currency } ∧
      ((item.id = store.nextItemId ∧
          store'.lifecycle = ((store.createItem fun _ => item).saveOrder order').lifecycle) ∨
        ((∃ existing ∈ store.itemsOf order.id, existing.id = item.id) ∧
          store'.lifecycle = ((store.saveOrder order').saveItem item).lifecycle)) := by
  simp only [addToOrder, commitOnSuccess_apply, Action.bind_apply] at returned
  cases checked : OrderItem.addToOrder order currency store with
  | error => rw [checked] at returned; simp at returned
  | ok _ checkedStore =>
    obtain ⟨allowed, rfl⟩ := OrderItem.currency_of_addToOrder_ok checked
    rw [checked] at returned
    cases modes : services.modesForCourseDict courseId mode with
    | none => simp [modes] at returned
    | some modeInfo =>
      simp only [modes, Action.write_apply, Action.read_apply, Action.bind_apply,
        Store.itemsOf_record] at returned
      cases existing : (checkedStore.itemsOf order.id).find? fun item =>
          item.user == order.user && item.kind ==
            .certificateItem courseId (services.getOrCreateEnrollment order.user courseId) mode
      all_goals cases found : services.getCourse courseId
      all_goals simp only [existing, found, Action.raise_apply, Action.createItem_apply,
          Action.pure_apply, Action.write_apply, Action.bind_apply, EStateM.Result.ok.injEq,
          Prod.mk.injEq, reduceCtorEq] at returned
      case none.some =>
        obtain ⟨⟨rfl, rfl⟩, rfl⟩ := returned
        refine ⟨allowed, rfl, rfl, rfl, rfl, rfl, .inl ⟨rfl, ?_⟩⟩
        simp [Store.lifecycle, Store.createItem, Store.saveOrder, Store.saveItem, Store.record]
      case some.some row _ =>
        obtain ⟨⟨rfl, rfl⟩, rfl⟩ := returned
        have member := List.mem_of_find?_eq_some existing
        have picked := List.find?_some existing
        simp only [Bool.and_eq_true, beq_iff_eq] at picked
        exact ⟨allowed, (Store.mem_itemsOf.mp member).2, picked.1, rfl, rfl, rfl,
          .inr ⟨⟨row, member, rfl⟩, rfl⟩⟩

end CertificateItem

namespace Donation

/-- `Donation._line_item_description`. -/
def lineItemDescription (services : Services) : Option CourseId → Action String
  | some courseId =>
    match services.getCourse courseId with
    | none => Action.raise (.courseDoesNotExistException
        s!"Could not find a course with the ID \x27{courseId}\x27")
    | some course =>
      let courseName := course.displayName
      pure s!"Donation for {courseName}"
  | none =>
    let platformName := services.platformName
    pure s!"Donation for {platformName}"

/-- `Donation.add_to_order`. It writes nothing on the order. -/
def addToOrder (services : Services) (order : Order) (donationAmount : Int)
    (courseId : Option CourseId) (currency : String) : Action OrderItem :=
  commitOnSuccess do
    OrderItem.addToOrder order currency
    let description ← lineItemDescription services courseId
    Action.createItem fun id =>
      { id, order := order.id, user := order.user, status := order.status, qty := 1,
        unitCost := donationAmount, currency, lineDesc := description,
        kind := .donation (if courseId.isSome then .course else .general) courseId }

theorem lineItemDescription_store {services : Services} {courseId : Option CourseId}
    {store store' : Store} {description : String}
    (returned : lineItemDescription services courseId store = .ok description store') :
    store' = store := by
  rcases courseId with _ | courseId
  · simp only [lineItemDescription, Action.pure_apply, EStateM.Result.ok.injEq] at returned
    exact returned.2.symm
  · cases found : services.getCourse courseId <;>
      simp_all [lineItemDescription, eq_comm]

/-- A donation that returns passed the currency check and is inserted under the next key;
the order is left as it was. -/
theorem addToOrder_ok {services : Services} {order : Order} {donationAmount : Int}
    {courseId : Option CourseId} {currency : String} {store store' : Store} {item : OrderItem}
    (returned : addToOrder services order donationAmount courseId currency store =
      .ok item store') :
    (order.currency = currency ∨ store.itemsOf order.id = []) ∧
      (∃ description, item =
        { id := store.nextItemId, order := order.id, user := order.user,
          status := order.status, qty := 1, unitCost := donationAmount, currency,
          lineDesc := description,
          kind := .donation (if courseId.isSome then .course else .general) courseId }) ∧
      store' = store.createItem fun _ => item := by
  simp only [addToOrder, commitOnSuccess_apply, Action.bind_apply] at returned
  cases checked : OrderItem.addToOrder order currency store with
  | error => rw [checked] at returned; simp at returned
  | ok _ checkedStore =>
    obtain ⟨allowed, rfl⟩ := OrderItem.currency_of_addToOrder_ok checked
    rw [checked] at returned
    cases described : lineItemDescription services courseId checkedStore with
    | error => simp [described] at returned
    | ok description describedStore =>
      obtain rfl := lineItemDescription_store described
      simp only [described, Action.createItem_apply, EStateM.Result.ok.injEq] at returned
      obtain ⟨rfl, rfl⟩ := returned
      exact ⟨allowed, ⟨description, rfl⟩, rfl⟩

end Donation

/-! ## Fulfilment -/

/-- Modelled from the spec: `save_registration_code` of `instructor.views.api`, absent from
the source, the code-issuance operation that mints one registration code of a course. -/
def saveRegistrationCode (user : UserId) (courseId : CourseId) (invoice : Option InvoiceId)
    (order : Option OrderId) : Action Unit :=
  Action.write (·.createRegistrationCode fun id =>
    { id, courseId, createdBy := user, order, invoice })

namespace OrderItem

/-- The message of the `PurchasedCallbackException` a seat raises for a vanished course. -/
def courseVanishedMessage (courseId : CourseId) : String :=
  s!"The customer purchased Course {courseId}, but that course doesn\x27t exist!"

/-- `purchased_callback` of each subclass: the fulfilment of the item. A certificate records
its verification attempt for `item.user`, where the source submits it for
`course_enrollment.user`. The two agree: `CertificateItem.add_to_order` takes the
enrollment of `order.user`, the user of the item, and an `EnrollmentId` does not carry its
user. -/
def purchasedCallback (services : Services) (item : OrderItem) : Action Unit :=
  match item.kind with
  | .paidCourseRegistration courseId mode => do
    Action.raiseIf (services.getCourse courseId).isNone
      (.purchasedCallbackException (courseVanishedMessage courseId))
    Action.write (·.record (.enroll item.user (some courseId) (some mode)))
  | .courseRegCodeItem courseId _ => do
    Action.raiseIf (services.getCourse courseId).isNone
      (.purchasedCallbackException (courseVanishedMessage courseId))
    (List.range item.qty.toNat).forM fun _ =>
      saveRegistrationCode item.user courseId none (some item.order)
  | .certificateItem _ courseEnrollment mode => do
    -- submitting the verification attempt is best effort: a failure is logged and ignored
    Action.write (·.record (.submitVerification item.user))
    Action.write (·.record (.changeMode courseEnrollment mode))
    Action.write (·.record (.activate courseEnrollment))
  | .donation _ _ => pure ()

/-- `OrderItem.purchase_item`: the callback, then the item marked purchased, in one
transaction. The fulfilment is logged once the callback has returned. -/
def purchaseItem (services : Services) (item : OrderItem) : Action Unit :=
  commitOnSuccess do
    purchasedCallback services item
    Action.write fun store => { store with fulfilments := store.fulfilments ++ [item.id] }
    Action.write (·.saveItem { item with status := .purchased })

/-- No fulfilment writes an order, an item or the fulfilment log. -/
theorem keeps_lifecycle_purchasedCallback (services : Services) (item : OrderItem)
    (lifecycle : Table Order × Nat × Table OrderItem × Nat × List ItemId) :
    Action.Keeps (·.lifecycle = lifecycle) (purchasedCallback services item) := by
  have recorded : ∀ effect, Action.Keeps (·.lifecycle = lifecycle)
      (Action.write (·.record effect)) := fun effect =>
    Action.keeps_write fun store same => by rw [Store.record_lifecycle, same]
  unfold purchasedCallback
  split
  · exact Action.keeps_bind (Action.keeps_raiseIf _ _ _) fun _ => recorded _
  · refine Action.keeps_bind (Action.keeps_raiseIf _ _ _) fun _ =>
      Action.keeps_forM _ fun _ _ => Action.keeps_write fun store same => ?_
    rw [Store.createRegistrationCode_lifecycle, same]
  · exact Action.keeps_bind (recorded _) fun _ =>
      Action.keeps_bind (recorded _) fun _ => recorded _
  · exact Action.keeps_pure _ ()

theorem purchaseItem_error {services : Services} {item : OrderItem} {store store' : Store}
    {error : ShoppingCartError} (raised : purchaseItem services item store = .error error store') :
    store' = store :=
  commitOnSuccess_error raised

/-- A `purchase_item` that returns ran the callback to its end, logged the fulfilment, and
saved the item as purchased. -/
theorem purchaseItem_ok {services : Services} {item : OrderItem} {store store' : Store}
    (returned : purchaseItem services item store = .ok () store') :
    ∃ called, purchasedCallback services item store = .ok () called ∧
      store' = ({ called with fulfilments := called.fulfilments ++ [item.id] }).saveItem
        { item with status := .purchased } := by
  simp only [purchaseItem, commitOnSuccess_apply, Action.bind_apply] at returned
  cases called : purchasedCallback services item store with
  | error => simp [called] at returned
  | ok _ calledStore =>
    simp only [called, Action.write_apply, EStateM.Result.ok.injEq] at returned
    exact ⟨calledStore, rfl, returned.2.symm⟩

/-- What `purchase_item` leaves of the orders, items and fulfilment log: nothing changed, or
the fulfilment logged and the item saved as purchased. -/
theorem purchaseItem_lifecycle (services : Services) (item : OrderItem) (store : Store) :
    ((purchaseItem services item).after store).lifecycle = store.lifecycle ∨
      ((purchaseItem services item).after store).lifecycle =
        ({ store with fulfilments := store.fulfilments ++ [item.id] }.saveItem
          { item with status := .purchased }).lifecycle := by
  cases result : purchaseItem services item store with
  | error => exact .inl (by rw [Action.after_of_error result, purchaseItem_error result])
  | ok _ store' =>
    obtain ⟨called, calledOk, rfl⟩ := purchaseItem_ok result
    have same := keeps_lifecycle_purchasedCallback services item store.lifecycle store rfl
    rw [Action.after_of_ok calledOk] at same
    refine .inr ?_
    rw [Action.after_of_ok result]
    simp only [Store.lifecycle, Store.saveItem, Prod.mk.injEq] at same ⊢
    exact ⟨same.1, same.2.1, by rw [same.2.2.1], same.2.2.2.1, by rw [same.2.2.2.2]⟩

/-- A loop of `purchase_item` that returns has logged the fulfilment of every item, in
order, and saved each as purchased. -/
theorem forM_purchaseItem_ok (services : Services) :
    ∀ (items : List OrderItem) {store store' : Store},
      items.forM (purchaseItem services) store = .ok () store' →
      store'.lifecycle = (store.orders, store.nextOrderId,
        items.foldl (fun table item => table.set item.id { item with status := .purchased })
          store.items, store.nextItemId, store.fulfilments ++ items.map (·.id))
  | [], _, _, returned => by
    cases returned
    simp [Store.lifecycle]
  | item :: items, store, store', returned => by
    rw [List.forM_cons'] at returned
    obtain ⟨_, saved, savedOk, rest⟩ := Action.bind_eq_ok returned
    obtain ⟨called, calledOk, rfl⟩ := purchaseItem_ok savedOk
    have same := keeps_lifecycle_purchasedCallback services item store.lifecycle store rfl
    rw [Action.after_of_ok calledOk] at same
    simp only [Store.lifecycle, Prod.mk.injEq] at same
    rw [forM_purchaseItem_ok services items rest]
    simp [Store.saveItem, same]

end OrderItem

end ShoppingCart
