import ShoppingCart.OrderItem

/-! # Orders

The methods of `Order` that read or move the cart: finding a user's cart, its total, the
price reset, clearing it, starting the purchase, the reclassification pass
`update_order_type`, and `purchase`. After its loop `purchase` builds the registration-code
CSV of a business order and mails the confirmations; neither writes to the store, but
either can raise once every item is fulfilled (`Order.confirmPurchase_apply`).
-/

namespace ShoppingCart

namespace Order

/-- The orders `get_cart_for_user` looks for: `filter(user=user, status='cart')`. -/
def isCartOf (user : UserId) (order : Order) : Bool :=
  order.user == user && order.status == .cart

/-- `Order.get_cart_for_user`: the user's newest cart, or a new one. -/
def getCartForUser (user : UserId) : Action Order := do
  -- `.order_by('-id')[:1].get()`
  let newest ← Action.read fun store =>
    (store.orders.rows store.nextOrderId).reverse.find? (isCartOf user)
  match newest with
  | some cartOrder => pure cartOrder
  -- `get_or_create(user=user, status='cart')`, whose lookup has just found nothing
  | none => Action.createOrder fun id => { id, user }

theorem getCartForUser_apply (user : UserId) (store : Store) :
    getCartForUser user store =
      match (store.orders.rows store.nextOrderId).reverse.find? (isCartOf user) with
      | some cartOrder => .ok cartOrder store
      | none =>
        .ok { id := store.nextOrderId, user } (store.createOrder fun id => { id, user }) := by
  simp only [getCartForUser, Action.bind_apply, Action.read_apply]
  cases (store.orders.rows store.nextOrderId).reverse.find? (isCartOf user) <;> rfl

/-- Once `get_cart_for_user` has returned a cart, the newest-cart query finds it: the next
call returns it and writes nothing. -/
theorem find?_isCartOf_of_getCartForUser {user : UserId} {store store' : Store}
    {cart : Order} (returned : getCartForUser user store = .ok cart store') :
    (store'.orders.rows store'.nextOrderId).reverse.find? (isCartOf user) = some cart := by
  rw [getCartForUser_apply] at returned
  cases found : (store.orders.rows store.nextOrderId).reverse.find? (isCartOf user) with
  | some cartOrder =>
    rw [found] at returned
    cases returned
    exact found
  | none =>
    rw [found] at returned
    cases returned
    simp [Store.createOrder, Table.rows_set_self, isCartOf]

/-- `Order.total_cost`: the line costs of the items whose status is the order's. -/
def totalCost (store : Store) (order : Order) : Int :=
  (((store.itemsOf order.id).filter (·.status == order.status)).map OrderItem.lineCost).sum

/-- The body of the loop of `reset_cart_items_prices`: `if item.list_price:` skips a
missing and a zero list price alike. -/
def resetItemPrice (item : OrderItem) : Action Unit :=
  match item.listPrice with
  | some listPrice =>
    if listPrice ≠ 0 then
      Action.write (·.saveItem { item with unitCost := listPrice, listPrice := none })
    else pure ()
  | none => pure ()

/-- The row the loop of `reset_cart_items_prices` saves for `item`, if it saves one. -/
def priceReset (item : OrderItem) : Option OrderItem :=
  match item.listPrice with
  | some listPrice =>
    if listPrice ≠ 0 then some { item with unitCost := listPrice, listPrice := none } else none
  | none => none

theorem resetItemPrice_apply (item : OrderItem) (store : Store) :
    resetItemPrice item store = .ok () ((priceReset item).elim store store.saveItem) := by
  unfold resetItemPrice priceReset
  cases item.listPrice with
  | none => rfl
  | some listPrice => by_cases zero : listPrice = 0 <;> simp [zero]

/-- `Order.reset_cart_items_prices`. -/
def resetCartItemsPrices (order : Order) : Action Unit := do
  let items ← Action.read (·.itemsOf order.id)
  items.forM resetItemPrice

/-- `Order.clear`: one bulk delete of the order's items. -/
def clear (order : Order) : Action Unit :=
  Action.write fun store =>
    { store with items := fun key => (store.items key).filter (·.order != order.id) }

/-- `Order.start_purchase`: a cart and all its items move to `paying`, in one transaction. -/
def startPurchase (self : Order) : Action Unit :=
  commitOnSuccess do
    if self.status = .cart then
      Action.write (·.saveOrder { self with status := .paying })
      let items ← Action.read (·.itemsOf self.id)
      items.forM OrderItem.startPurchase

/-- The loops of `update_order_type` over its cached `cart_items`: in a business order each
seat becomes a code bundle of its quantity, in a personal one each code bundle becomes a
seat, and the converted items are collected for deletion. Each conversion is its
factory's own transaction. -/
def reclassifyItems (services : Services) (isBusiness : Bool) :
    List OrderItem → Order → List OrderItem → Action (Order × List OrderItem)
  | [], self, itemsToDelete => pure (self, itemsToDelete)
  | cartItem :: rest, self, itemsToDelete =>
    match isBusiness, cartItem.kind with
    | true, .paidCourseRegistration courseId _ => do
      let (_, self) ← CourseRegCodeItem.addToOrder services self courseId cartItem.qty
        services.defaultMode.slug none none
      reclassifyItems services isBusiness rest self (itemsToDelete ++ [cartItem])
    | false, .courseRegCodeItem courseId _ => do
      let (_, self) ← PaidCourseRegistration.addToOrder services self courseId
        services.defaultMode.slug none none
      reclassifyItems services isBusiness rest self (itemsToDelete ++ [cartItem])
    | _, _ => reclassifyItems services isBusiness rest self itemsToDelete

/-- `Order.update_order_type`, which runs outside a transaction: a conversion that raises
leaves the earlier ones in place. -/
def updateOrderType (services : Services) (self : Order) : Action Order := do
  let cartItems ← Action.read (·.itemsOf self.id)
  let isBusiness := cartItems.any fun cartItem => cartItem.qty > 1
  let (self, itemsToDelete) ← reclassifyItems services isBusiness cartItems self []
  itemsToDelete.forM fun item => Action.write (·.deleteItem item)
  let self := { self with orderType := if isBusiness then .business else .personal }
  Action.write (·.saveOrder self)
  pure self

/-- The billing fields `purchase` writes: name, city, state, country and postal code always,
street, card and processor reply only when the site stores billing information. -/
def recordBilling (old given : BillTo) (storeBillingInfo : Bool) : BillTo :=
  { first := given.first, last := given.last, city := given.city, state := given.state,
    country := given.country, postalcode := given.postalcode,
    street1 := if storeBillingInfo then given.street1 else old.street1,
    street2 := if storeBillingInfo then given.street2 else old.street2,
    ccnum := if storeBillingInfo then given.ccnum else old.ccnum,
    cardtype := if storeBillingInfo then given.cardtype else old.cardtype,
    processorReplyDump :=
      if storeBillingInfo then given.processorReplyDump else old.processorReplyDump }

end Order

/-- `CourseRegistrationCode.objects.filter(course_id=course_id, order=order)`, in key
order. -/
def Store.codesOf (store : Store) (courseId : Option CourseId) (order : OrderId) :
    List CourseRegistrationCode :=
  (store.registrationCodes.rows store.nextCodeId).filter fun code =>
    some code.courseId == courseId && code.order == some order

namespace Order

/-- The rows `generate_registration_codes_csv` writes for one item: each code of its course
on the order, with the course's name and the code's redemption URL on the site. A code's
text is its key; `none` stands for `get_course_by_id` raising, for an item without a
course or whose course is gone. -/
def registrationCodesCsvRows (services : Services) (redemptionUrl : String → String)
    (siteName : String) (store : Store) (self : Order) (item : OrderItem) :
    Option (List (List String)) := do
  let courseId := item.kind.courseId
  let course ← courseId.bind services.getCourse
  let registrationCodes := store.codesOf courseId self.id
  pure (registrationCodes.map fun registrationCode =>
    [course.displayName, toString registrationCode.id,
      siteName ++ redemptionUrl (toString registrationCode.id)])

/-- `Order.generate_registration_codes_csv`, as the rows of the file: a header, then the
rows of each item in turn. The `course_info` it also returns for the e-mail, each course's
name with its dates, is left out. -/
def generateRegistrationCodesCsv (services : Services) (redemptionUrl : String → String)
    (self : Order) (orderitems : List OrderItem) (siteName : String) (store : Store) :
    Option (List (List String)) := do
  let rows ← orderitems.mapM
    (registrationCodesCsvRows services redemptionUrl siteName store self)
  pure (["Course Name", "Registration Code", "URL"] :: rows.flatten)

/-- A loop of `Option` steps ends with `some` exactly when every step does. -/
theorem isSome_mapM {α β : Type} (f : α → Option β) : ∀ values : List α,
    (values.mapM f).isSome = values.all fun value => (f value).isSome
  | [] => rfl
  | value :: values => by
    rw [List.mapM_cons, List.all_cons, ← isSome_mapM f values]
    cases f value <;> cases values.mapM f <;> rfl

/-- The codes CSV is built exactly when every item names a course the catalogue has. -/
theorem isSome_generateRegistrationCodesCsv (services : Services)
    (redemptionUrl : String → String) (self : Order) (orderitems : List OrderItem)
    (siteName : String) (store : Store) :
    (generateRegistrationCodesCsv services redemptionUrl self orderitems siteName
        store).isSome =
      orderitems.all fun item => (item.kind.courseId.bind services.getCourse).isSome := by
  have rows (item : OrderItem) :
      (registrationCodesCsvRows services redemptionUrl siteName store self item).isSome =
        (item.kind.courseId.bind services.getCourse).isSome := by
    unfold registrationCodesCsvRows
    cases course : item.kind.courseId.bind services.getCourse <;> simp [course]
  simp only [← rows, ← isSome_mapM, generateRegistrationCodesCsv]
  cases orderitems.mapM (registrationCodesCsvRows services redemptionUrl siteName store self) <;>
    rfl

/-- `Order.send_confirmation_emails`: an e-mail to each recipient, inside a `try` that
catches only `smtplib.SMTPException` and `BotoServerError`. The e-mails write nothing to
the store, and what they say is left out. -/
def sendConfirmationEmails (services : Services) : Action Unit :=
  Action.raiseIf (services.sendEmail == .unhandledError) .mailBackendError

/-- What `purchase` does after its loop: the codes CSV of a business order, then the
confirmation e-mails. -/
def confirmPurchase (services : Services) (self : Order) (orderitems : List OrderItem) :
    Action Unit := do
  if self.orderType = .business then
    let csvFile ← Action.read (generateRegistrationCodesCsv services services.redemptionUrl
      self orderitems services.siteName)
    Action.raiseIf csvFile.isNone .courseNotFound
  sendConfirmationEmails services

/-- The confirmation writes nothing. It raises for a business order with an item that names
no course of the catalogue, then for a mail backend error the e-mails do not catch. -/
theorem confirmPurchase_apply (services : Services) (self : Order)
    (orderitems : List OrderItem) (store : Store) :
    confirmPurchase services self orderitems store =
      if self.orderType = .business ∧
          ∃ item ∈ orderitems, item.kind.courseId.bind services.getCourse = none then
        .error .courseNotFound store
      else if services.sendEmail = .unhandledError then .error .mailBackendError store
      else .ok () store := by
  have built : (generateRegistrationCodesCsv services services.redemptionUrl self orderitems
      services.siteName store).isNone ↔
        ∃ item ∈ orderitems, item.kind.courseId.bind services.getCourse = none := by
    rw [← Bool.not_eq_false, Option.isNone_eq_false_iff, isSome_generateRegistrationCodesCsv]
    simp only [List.all_eq_true, not_forall, Option.not_isSome_iff_eq_none, exists_prop]
  unfold confirmPurchase sendConfirmationEmails
  by_cases business : self.orderType = .business
  · by_cases missing : ∃ item ∈ orderitems, item.kind.courseId.bind services.getCourse = none
    · simp only [business, missing, and_self, if_true, Action.bind_apply, Action.read_apply,
        Action.raiseIf_apply, built.mpr missing]
    · simp only [business, missing, and_false, if_true, if_false, Action.bind_apply,
        Action.read_apply, Action.raiseIf_apply, Bool.eq_false_iff.mpr (mt built.mp missing),
        Action.pure_apply]
      cases services.sendEmail <;> simp
  · simp only [business, false_and, if_false, Action.bind_apply, Action.pure_apply,
      Action.raiseIf_apply]
    cases services.sendEmail <;> simp

@[simp] theorem after_confirmPurchase (services : Services) (self : Order)
    (orderitems : List OrderItem) (store : Store) :
    (confirmPurchase services self orderitems).after store = store := by
  rw [Action.after, confirmPurchase_apply]
  split_ifs <;> rfl

theorem confirmPurchase_ok {services : Services} {self : Order} {orderitems : List OrderItem}
    {store store' : Store} (returned : confirmPurchase services self orderitems store = .ok () store') :
    store' = store := by
  simpa [Action.after_of_ok returned] using after_confirmPurchase services self orderitems store

theorem confirmPurchase_error {services : Services} {self : Order}
    {orderitems : List OrderItem} {store store' : Store} {error : ShoppingCartError}
    (raised : confirmPurchase services self orderitems store = .error error store') :
    store' = store := by
  simpa [Action.after_of_error raised] using after_confirmPurchase services self orderitems store

/-- A call followed by the confirmation leaves what the call leaves. -/
@[simp] theorem after_bind_confirmPurchase (action : Action Unit) (services : Services)
    (self : Order) (orderitems : List OrderItem) (store : Store) :
    (action >>= fun _ => confirmPurchase services self orderitems).after store =
      action.after store := by
  rw [Action.after_bind]
  cases returned : action store with
  | ok => simp only [after_confirmPurchase, Action.after_of_ok returned]
  | error => simp only [Action.after_of_error returned]

/-- `Order.purchase`, outside a transaction. The query `orderitems` is built before the
reclassification pass but only read by the loop after it; the CSV reads the same rows. -/
def purchase (services : Services) (self : Order) (billTo : BillTo) : Action Unit :=
  if self.status = .purchased then pure () else do
    let self := { self with status := .purchased,
                            billTo := recordBilling self.billTo billTo services.storeBillingInfo }
    Action.write (·.saveOrder self)
    let self ← (if self.orderType = .business then updateOrderType services self else pure self)
    let orderitems ← Action.read (·.itemsOf self.id)
    orderitems.forM (OrderItem.purchaseItem services)
    confirmPurchase services self orderitems

end Order

end ShoppingCart
