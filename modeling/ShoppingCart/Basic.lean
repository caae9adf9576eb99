import Mathlib

/-! # The shopping cart's rows and store

The rows of `lms/djangoapps/shoppingcart/models.py` and the store that holds them.
Each table maps a primary key to the row stored under it, and a query without an
`order_by` reads its rows in key order, the order the database returns them in.
Money is kept in cents, the unit of the source's two-place `DecimalField`s.

The services the module calls but does not own (the course catalogue, course modes,
enrollments, settings) are answers given to each call (`Services`). What the module
asks of them that changes the world outside the store is appended to a log (`Effect`).
-/

namespace ShoppingCart

/-! ## Identities, statuses and errors -/

abbrev UserId := Nat
abbrev OrderId := Nat
abbrev ItemId := Nat
abbrev CourseId := Nat
abbrev CodeId := Nat
abbrev CouponId := Nat
abbrev EnrollmentId := Nat
abbrev InvoiceId := Nat

/-- `ORDER_STATUSES`. An item carries a status too, meant to be a copy of its order's. -/
inductive OrderStatus
  | cart
  | paying
  | purchased
  | refunded
  deriving DecidableEq, Repr

/-- `OrderTypes.ORDER_TYPES`. -/
inductive OrderType
  | personal
  | business
  deriving DecidableEq, Repr

/-- The exceptions of `shoppingcart.exceptions` the module raises, each with the message
the source passes to it (the empty message where it passes none). -/
inductive ShoppingCartError
  | invalidCartItem (message : String)
  | purchasedCallbackException (message : String)
  | itemAlreadyInCartException
  | alreadyEnrolledInCourseException
  | courseDoesNotExistException (message : String)
  | multipleCouponsNotAllowedException
  | regCodeAlreadyExistException
  | itemDoesNotExistAgainstRegCodeException
  /-- `CertificateItem.add_to_order` reads `display_name` of a course the catalogue does
  not have. -/
  | attributeError
  /-- `get_course_by_id` finds no course for an item of the codes CSV: the item names none,
  or one the catalogue does not have. -/
  | courseNotFound
  /-- An exception of the mail backend other than the two `send_confirmation_emails`
  catches. -/
  | mailBackendError
  deriving DecidableEq, Repr

/-! ## Rows -/

/-- The billing snapshot `Order.purchase` writes (`bill_to_*`, `processor_reply_dump`). -/
structure BillTo where
  first : String := ""
  last : String := ""
  street1 : String := ""
  street2 : String := ""
  city : String := ""
  state : String := ""
  postalcode : String := ""
  country : String := ""
  ccnum : String := ""
  cardtype : String := ""
  processorReplyDump : String := ""
  deriving DecidableEq, Repr

/-- A row of `Order`: a cart, or the order it became. -/
structure Order where
  id : OrderId
  user : UserId
  currency : String := "usd"
  status : OrderStatus := .cart
  billTo : BillTo := {}
  orderType : OrderType := .personal
  deriving DecidableEq, Repr

/-- `Donation.DONATION_TYPES`. -/
inductive DonationType
  | general
  | course
  deriving DecidableEq, Repr

/-- The subclass of an `OrderItem` row, with the fields that subclass adds. -/
inductive ItemKind
  | paidCourseRegistration (courseId : CourseId) (mode : String)
  | courseRegCodeItem (courseId : CourseId) (mode : String)
  | certificateItem (courseId : CourseId) (courseEnrollment : EnrollmentId) (mode : String)
  | donation (donationType : DonationType) (courseId : Option CourseId)
  deriving DecidableEq, Repr

/-- `getattr(item, 'course_id')`, which is empty for a general donation. -/
def ItemKind.courseId : ItemKind → Option CourseId
  | .paidCourseRegistration courseId _ => some courseId
  | .courseRegCodeItem courseId _ => some courseId
  | .certificateItem courseId _ _ => some courseId
  | .donation _ courseId => courseId

/-- A row of `OrderItem` together with its subclass row. -/
structure OrderItem where
  id : ItemId
  order : OrderId
  user : UserId
  status : OrderStatus := .cart
  qty : Int := 1
  unitCost : Int := 0
  listPrice : Option Int := none
  lineDesc : String := "Misc. Item"
  currency : String := "usd"
  reportComments : String := ""
  kind : ItemKind
  deriving DecidableEq, Repr

/-- `OrderItem.line_cost`. -/
def OrderItem.lineCost (item : OrderItem) : Int := item.qty * item.unitCost

/-- A row of `CourseRegistrationCode`; the random `code` text is identified with the key. -/
structure CourseRegistrationCode where
  id : CodeId
  courseId : CourseId
  createdBy : UserId
  order : Option OrderId
  invoice : Option InvoiceId
  deriving DecidableEq, Repr

/-- A row of `RegistrationCodeRedemption`. -/
structure RegistrationCodeRedemption where
  order : Option OrderId
  registrationCode : CodeId
  redeemedBy : UserId
  deriving DecidableEq, Repr

/-- A row of `Coupon`. The module only reads coupons. -/
structure Coupon where
  id : CouponId
  code : String
  courseId : CourseId
  percentageDiscount : Int
  isActive : Bool
  deriving DecidableEq, Repr

/-- A row of `CouponRedemption`. Its `coupon` foreign key is kept as the coupon row it
points at, which the module never changes. -/
structure CouponRedemption where
  order : OrderId
  user : UserId
  coupon : Coupon
  deriving DecidableEq, Repr

/-! ## Services outside the module -/

/-- What `modulestore().get_course` returns that the module reads. -/
structure Course where
  displayName : String
  deriving DecidableEq, Repr

/-- A `CourseMode` row (`course_modes.models`). -/
structure CourseMode where
  slug : String
  name : String
  minPrice : Int
  currency : String
  deriving DecidableEq, Repr

/-- What the mail backend does with an `email.send()`. -/
inductive MailOutcome
  | sent
  /-- `smtplib.SMTPException` or `BotoServerError`, which `send_confirmation_emails` logs. -/
  | handledError
  /-- Any other exception, such as a refused connection. -/
  | unhandledError
  deriving DecidableEq, Repr

/-- The answers the services and settings give during one call of the module. -/
structure Services where
  /-- `modulestore().get_course`; `has_course` is whether it finds the course. -/
  getCourse : CourseId → Option Course
  /-- `CourseMode.mode_for_course`. -/
  modeForCourse : CourseId → String → Option CourseMode
  /-- A lookup in `CourseMode.modes_for_course_dict`. -/
  modesForCourseDict : CourseId → String → Option CourseMode
  /-- `CourseMode.DEFAULT_MODE`, whose slug is `DEFAULT_MODE_SLUG`. -/
  defaultMode : CourseMode
  /-- `CourseEnrollment.is_enrolled`. -/
  isEnrolled : UserId → CourseId → Bool
  /-- The enrollment `CourseEnrollment.get_or_create_enrollment` hands back. -/
  getOrCreateEnrollment : UserId → CourseId → EnrollmentId
  /-- `PaidCourseRegistrationAnnotation`, by course. -/
  paidCourseRegistrationAnnotation : CourseId → Option String
  /-- `CourseRegCodeItemAnnotation`, by course. -/
  courseRegCodeItemAnnotation : CourseId → Option String
  /-- `settings.PLATFORM_NAME`. -/
  platformName : String
  /-- `settings.FEATURES['STORE_BILLING_INFO']`. -/
  storeBillingInfo : Bool
  /-- `microsite.get_value('SITE_NAME', settings.SITE_NAME)`. -/
  siteName : String
  /-- `reverse('register_code_redemption', args=[code])`. -/
  redemptionUrl : String → String
  /-- What the mail backend does with each `email.send()` of the call. -/
  sendEmail : MailOutcome

/-- What the module asks of the enrollment and verification services. -/
inductive Effect
  | getOrCreateEnrollment (user : UserId) (courseId : CourseId)
  | enroll (user : UserId) (courseId : Option CourseId) (mode : Option String)
  | submitVerification (user : UserId)
  | changeMode (enrollment : EnrollmentId) (mode : String)
  | activate (enrollment : EnrollmentId)
  deriving DecidableEq, Repr

/-! ## Tables and the store -/

/-- A table: the row stored under each primary key, if any. -/
abbrev Table (α : Type) := Nat → Option α

namespace Table

/-- `row.save()` on a row stored under `key`. -/
def set (table : Table α) (key : Nat) (row : α) : Table α :=
  fun other => if other = key then some row else table other

/-- `row.delete()`. -/
def erase (table : Table α) (key : Nat) : Table α :=
  fun other => if other = key then none else table other

/-- The rows of the keys below `bound`, in key order. -/
def rows (table : Table α) (bound : Nat) : List α :=
  (List.range bound).filterMap table

@[simp] theorem set_apply (table : Table α) (key other : Nat) (row : α) :
    table.set key row other = if other = key then some row else table other := rfl

@[simp] theorem set_set (table : Table α) (key : Nat) (row row' : α) :
    (table.set key row).set key row' = table.set key row' := by
  funext other
  by_cases here : other = key <;> simp [here]

@[simp] theorem erase_apply (table : Table α) (key other : Nat) :
    table.erase key other = if other = key then none else table other := rfl

/-- What a key of a table holds after a save: the saved row, or what it held before. -/
theorem set_eq_some {table : Table α} {key other : Nat} {row row' : α} :
    table.set key row other = some row' ↔
      other = key ∧ row = row' ∨ other ≠ key ∧ table other = some row' := by
  by_cases here : other = key <;> simp [here]

theorem erase_eq_some {table : Table α} {key other : Nat} {row : α} :
    table.erase key other = some row ↔ other ≠ key ∧ table other = some row := by
  by_cases here : other = key <;> simp [here]

theorem mem_rows {table : Table α} {bound : Nat} {row : α} :
    row ∈ table.rows bound ↔ ∃ key, key < bound ∧ table key = some row := by
  simp [rows]

/-- A row saved under the bound comes after the rows below it. -/
theorem rows_set_self (table : Table α) (bound : Nat) (row : α) :
    (table.set bound row).rows (bound + 1) = table.rows bound ++ [row] := by
  rw [rows, List.range_succ, List.filterMap_append, rows]
  congr 1
  · exact List.filterMap_congr fun key member => by simp [(List.mem_range.mp member).ne]
  · simp

/-- A table that only drops rows has a sublist of the rows. -/
theorem rows_sublist {table table' : Table α}
    (kept : ∀ key row, table' key = some row → table key = some row) :
    ∀ bound, List.Sublist (table'.rows bound) (table.rows bound)
  | 0 => .slnil
  | bound + 1 => by
    rw [rows, rows, List.range_succ, List.filterMap_append, List.filterMap_append]
    refine (rows_sublist kept bound).append ?_
    cases here : table' bound with
    | none => simp [here]
    | some row => simp [here, kept bound row here]

end Table

/-- The database the module reads and writes, and the log of what it asked of the
services outside it. `fulfilments` lists the items whose `purchased_callback` ran to
the end, in order. -/
structure Store where
  orders : Table Order
  nextOrderId : Nat
  items : Table OrderItem
  nextItemId : Nat
  registrationCodes : Table CourseRegistrationCode
  nextCodeId : Nat
  registrationCodeRedemptions : List RegistrationCodeRedemption
  couponRedemptions : List CouponRedemption
  effects : List Effect
  fulfilments : List ItemId

namespace Store

/-- `order.orderitem_set.all()`: the items of an order, in key order. -/
def itemsOf (store : Store) (order : OrderId) : List OrderItem :=
  (store.items.rows store.nextItemId).filter (·.order == order)

theorem mem_itemsOf {store : Store} {order : OrderId} {item : OrderItem} :
    item ∈ store.itemsOf order ↔
      (∃ key, key < store.nextItemId ∧ store.items key = some item) ∧ item.order = order := by
  simp [itemsOf, Table.mem_rows]

def saveOrder (store : Store) (order : Order) : Store :=
  { store with orders := store.orders.set order.id order }

def saveItem (store : Store) (item : OrderItem) : Store :=
  { store with items := store.items.set item.id item }

def deleteItem (store : Store) (item : OrderItem) : Store :=
  { store with items := store.items.erase item.id }

/-- Insert the row `make key` under the next free key. -/
def createOrder (store : Store) (make : OrderId → Order) : Store :=
  { store with orders := store.orders.set store.nextOrderId (make store.nextOrderId),
               nextOrderId := store.nextOrderId + 1 }

def createItem (store : Store) (make : ItemId → OrderItem) : Store :=
  { store with items := store.items.set store.nextItemId (make store.nextItemId),
               nextItemId := store.nextItemId + 1 }

def createRegistrationCode (store : Store) (make : CodeId → CourseRegistrationCode) : Store :=
  { store with registrationCodes := store.registrationCodes.set store.nextCodeId
                 (make store.nextCodeId),
               nextCodeId := store.nextCodeId + 1 }

def record (store : Store) (effect : Effect) : Store :=
  { store with effects := store.effects ++ [effect] }

/-- The order and item tables with their next keys, and the fulfilment log: what the
orders and items go through. -/
def lifecycle (store : Store) : Table Order × Nat × Table OrderItem × Nat × List ItemId :=
  (store.orders, store.nextOrderId, store.items, store.nextItemId, store.fulfilments)

@[simp] theorem itemsOf_record (store : Store) (effect : Effect) (order : OrderId) :
    (store.record effect).itemsOf order = store.itemsOf order := rfl

@[simp] theorem record_lifecycle (store : Store) (effect : Effect) :
    (store.record effect).lifecycle = store.lifecycle := rfl

@[simp] theorem createRegistrationCode_lifecycle (store : Store)
    (make : CodeId → CourseRegistrationCode) :
    (store.createRegistrationCode make).lifecycle = store.lifecycle := rfl

@[simp] theorem itemsOf_saveOrder (store : Store) (order : Order) (key : OrderId) :
    (store.saveOrder order).itemsOf key = store.itemsOf key := rfl

theorem itemsOf_createItem (store : Store) (make : ItemId → OrderItem) (key : OrderId) :
    (store.createItem make).itemsOf key =
      store.itemsOf key ++ [make store.nextItemId].filter (·.order == key) := by
  simp only [itemsOf, createItem, Table.rows_set_self, List.filter_append]

/-- A write that only drops item rows leaves each order a sublist of its items. -/
theorem itemsOf_sublist {store store' : Store}
    (kept : ∀ key item, store'.items key = some item → store.items key = some item)
    (next : store'.nextItemId = store.nextItemId) (key : OrderId) :
    List.Sublist (store'.itemsOf key) (store.itemsOf key) := by
  rw [itemsOf, itemsOf, next]
  exact (Table.rows_sublist kept _).filter _

/-- Deleting an item, the rows being keyed by their ids, drops the row of its id. -/
theorem itemsOf_deleteItem {store : Store}
    (keyed : ∀ slot item, store.items slot = some item → item.id = slot) (item : OrderItem)
    (key : OrderId) :
    (store.deleteItem item).itemsOf key = (store.itemsOf key).filter (·.id != item.id) := by
  have erased : (store.items.erase item.id).rows store.nextItemId =
      (store.items.rows store.nextItemId).filter (·.id != item.id) := by
    rw [Table.rows, Table.rows, List.filter_filterMap]
    refine List.filterMap_congr fun slot _ => ?_
    cases stored : store.items slot with
    | none => simp [stored]
    | some row =>
      have keyedRow := keyed slot row stored
      by_cases here : slot = item.id <;> simp [stored, here, keyedRow, Option.filter]
  simp only [itemsOf, deleteItem, erased, List.filter_filter, Bool.and_comm]

/-- Deleting items one after another, the rows being keyed by their ids. -/
theorem itemsOf_foldl_deleteItem (key : OrderId) :
    ∀ (deleted : List OrderItem) {store : Store},
      (∀ slot item, store.items slot = some item → item.id = slot) →
      (deleted.foldl deleteItem store).itemsOf key =
        (store.itemsOf key).filter fun item => deleted.all (item.id != ·.id)
  | [], _, _ => by simp
  | gone :: deleted, store, keyed => by
    rw [List.foldl_cons, itemsOf_foldl_deleteItem key deleted
      fun slot item stored => keyed slot item (Table.erase_eq_some.mp stored).2,
      itemsOf_deleteItem keyed, List.filter_filter]
    simp only [List.all_cons, Bool.and_comm]

/-- Saving an order over its own row writes nothing. -/
theorem saveOrder_of_row {store : Store} {order : Order}
    (row : store.orders order.id = some order) : store.saveOrder order = store := by
  have same : store.orders.set order.id order = store.orders := funext fun key => by
    by_cases here : key = order.id <;> simp [here, row]
  simp only [saveOrder, same]

end Store

/-! ## Calls -/

/-- A call of the module against the store. It returns a value or raises, and keeps
what it wrote before raising, as Django's autocommit does outside a transaction. -/
abbrev Action := EStateM ShoppingCartError Store

namespace Action

def read (query : Store → α) : Action α := fun store => .ok (query store) store

def write (change : Store → Store) : Action Unit := fun store => .ok () (change store)

def raise (error : ShoppingCartError) : Action α := fun store => .error error store

/-- `if condition: raise error`. -/
def raiseIf (condition : Bool) (error : ShoppingCartError) : Action Unit :=
  if condition then raise error else pure ()

/-- `Order.objects.create`: the row `make key` under the next free key, returned. -/
def createOrder (make : OrderId → Order) : Action Order := fun store =>
  .ok (make store.nextOrderId) (store.createOrder make)

/-- `OrderItem.objects.create`, for any subclass. -/
def createItem (make : ItemId → OrderItem) : Action OrderItem := fun store =>
  .ok (make store.nextItemId) (store.createItem make)

/-- The store a call leaves behind, whether it returned or raised. -/
def after (action : Action α) (store : Store) : Store :=
  match action store with
  | .ok _ store' => store'
  | .error _ store' => store'

@[simp] theorem bind_apply (action : Action α) (next : α → Action β) (store : Store) :
    (action >>= next) store = match action store with
      | .ok value store' => next value store'
      | .error error store' => .error error store' := by
  cases result : action store <;> simp [bind, EStateM.bind, result]

@[simp] theorem map_apply (f : α → β) (action : Action α) (store : Store) :
    (f <$> action) store = match action store with
      | .ok value store' => .ok (f value) store'
      | .error error store' => .error error store' := by
  cases result : action store <;> simp [Functor.map, EStateM.map, result]

@[simp] theorem pure_apply (value : α) (store : Store) :
    (pure value : Action α) store = .ok value store := rfl

@[simp] theorem read_apply (query : Store → α) (store : Store) :
    read query store = .ok (query store) store := rfl

@[simp] theorem write_apply (change : Store → Store) (store : Store) :
    write change store = .ok () (change store) := rfl

@[simp] theorem raise_apply (error : ShoppingCartError) (store : Store) :
    (raise error : Action α) store = .error error store := rfl

@[simp] theorem raiseIf_apply (condition : Bool) (error : ShoppingCartError) (store : Store) :
    raiseIf condition error store = if condition then .error error store else .ok () store := by
  cases condition <;> rfl

@[simp] theorem createOrder_apply (make : OrderId → Order) (store : Store) :
    createOrder make store = .ok (make store.nextOrderId) (store.createOrder make) := rfl

@[simp] theorem createItem_apply (make : ItemId → OrderItem) (store : Store) :
    createItem make store = .ok (make store.nextItemId) (store.createItem make) := rfl

/-- A sequence that returns ran its first call to a return. -/
theorem bind_eq_ok {action : Action α} {next : α → Action β} {store store' : Store}
    {value : β} (returned : (action >>= next) store = .ok value store') :
    ∃ middle between,
      action store = .ok middle between ∧ next middle between = .ok value store' := by
  rw [bind_apply] at returned
  cases result : action store with
  | ok middle between => exact ⟨middle, between, rfl, by rwa [result] at returned⟩
  | error => simp [result] at returned

/-- A loop of writes returns the writes applied in turn. -/
theorem forM_write (change : α → Store → Store) :
    ∀ (values : List α) (store : Store),
      values.forM (fun value => write (change value)) store =
        .ok () (values.foldl (fun store value => change value store) store)
  | [], _ => rfl
  | value :: values, store => by
    simp only [List.forM_cons', bind_apply, write_apply, List.foldl_cons]
    exact forM_write change values _

theorem after_of_ok {action : Action α} {store store' : Store} {value : α}
    (returned : action store = .ok value store') : action.after store = store' := by
  simp [after, returned]

theorem after_of_error {action : Action α} {store store' : Store} {error : ShoppingCartError}
    (raised : action store = .error error store') : action.after store = store' := by
  simp [after, raised]

@[simp] theorem after_pure (value : α) (store : Store) :
    (pure value : Action α).after store = store := rfl

@[simp] theorem after_read (query : Store → α) (store : Store) :
    (read query).after store = store := rfl

@[simp] theorem after_write (change : Store → Store) (store : Store) :
    (write change).after store = change store := rfl

@[simp] theorem after_raise (error : ShoppingCartError) (store : Store) :
    (raise error : Action α).after store = store := rfl

@[simp] theorem after_createOrder (make : OrderId → Order) (store : Store) :
    (createOrder make).after store = store.createOrder make := rfl

@[simp] theorem after_createItem (make : ItemId → OrderItem) (store : Store) :
    (createItem make).after store = store.createItem make := rfl

theorem after_bind (action : Action α) (next : α → Action β) (store : Store) :
    (action >>= next).after store = match action store with
      | .ok value store' => (next value).after store'
      | .error _ store' => store' := by
  cases result : action store <;> simp [after, result]

@[simp] theorem after_read_bind (query : Store → α) (next : α → Action β) (store : Store) :
    (read query >>= next).after store = (next (query store)).after store := by
  simp [after_bind]

@[simp] theorem after_write_bind (change : Store → Store) (next : Unit → Action β)
    (store : Store) : (write change >>= next).after store = (next ()).after (change store) := by
  simp [after_bind]

@[simp] theorem after_bind_pure (action : Action α) (value : β) (store : Store) :
    (action >>= fun _ => pure value).after store = action.after store := by
  cases result : action store <;> simp [after, result]

@[simp] theorem after_map (f : α → β) (action : Action α) (store : Store) :
    (f <$> action).after store = action.after store := by
  cases result : action store <;> simp [after, result]

/-- A call keeps `Holds` when from any store satisfying it, it leaves one satisfying it,
whether it returns or raises. -/
def Keeps (Holds : Store → Prop) (action : Action α) : Prop :=
  ∀ store, Holds store → Holds (action.after store)

theorem keeps_pure (Holds : Store → Prop) (value : α) : Keeps Holds (pure value) :=
  fun _ holds => holds

theorem keeps_read (Holds : Store → Prop) (query : Store → α) : Keeps Holds (read query) :=
  fun _ holds => holds

theorem keeps_raiseIf (Holds : Store → Prop) (condition : Bool) (error : ShoppingCartError) :
    Keeps Holds (raiseIf condition error) := by
  intro store holds
  cases condition <;> exact holds

theorem keeps_write {Holds : Store → Prop} {change : Store → Store}
    (kept : ∀ store, Holds store → Holds (change store)) : Keeps Holds (write change) :=
  kept

theorem keeps_bind {Holds : Store → Prop} {action : Action α} {next : α → Action β}
    (first : Keeps Holds action) (rest : ∀ value, Keeps Holds (next value)) :
    Keeps Holds (action >>= next) := by
  intro store holds
  have kept := first store holds
  rw [after_bind]
  cases result : action store with
  | ok value store' => exact rest value store' (by simpa [after, result] using kept)
  | error _ store' => simpa [after, result] using kept

theorem keeps_forM {Holds : Store → Prop} {body : α → Action Unit} :
    ∀ values : List α, (∀ value ∈ values, Keeps Holds (body value)) →
      Keeps Holds (values.forM body)
  | [], _ => keeps_pure Holds ()
  | value :: values, each => by
    rw [List.forM_cons']
    exact keeps_bind (each value (List.mem_cons_self _ _)) fun _ =>
      keeps_forM values fun other member => each other (List.mem_cons_of_mem _ member)

theorem keeps_raise (Holds : Store → Prop) (error : ShoppingCartError) :
    Keeps Holds (raise error : Action α) :=
  fun _ holds => holds

theorem keeps_createOrder {Holds : Store → Prop} {make : OrderId → Order}
    (kept : ∀ store, Holds store → Holds (store.createOrder make)) :
    Keeps Holds (createOrder make) :=
  kept

theorem keeps_createItem {Holds : Store → Prop} {make : ItemId → OrderItem}
    (kept : ∀ store, Holds store → Holds (store.createItem make)) :
    Keeps Holds (createItem make) :=
  kept

/-! ## Hoare triples -/

/-- From a store satisfying `Pre`, the call returns a value and a store satisfying `Post`,
or raises and leaves a store satisfying `Raised`. -/
def Triple (Pre : Store → Prop) (action : Action α) (Post : α → Store → Prop)
    (Raised : Store → Prop) : Prop :=
  ∀ store, Pre store → match action store with
    | .ok value store' => Post value store'
    | .error _ store' => Raised store'

variable {Pre Raised : Store → Prop} {Post : α → Store → Prop}

theorem triple_bind {Mid : α → Store → Prop} {action : Action α} {next : α → Action β}
    {Post : β → Store → Prop} (first : Triple Pre action Mid Raised)
    (rest : ∀ value, Triple (Mid value) (next value) Post Raised) :
    Triple Pre (action >>= next) Post Raised := by
  intro store holds
  have := first store holds
  rw [bind_apply]
  cases result : action store with
  | ok value store' => rw [result] at this; exact rest value store' this
  | error => rw [result] at this; exact this

theorem Triple.mono {action : Action α} (triple : Triple Pre action Post Raised)
    {Pre' Raised' : Store → Prop} {Post' : α → Store → Prop}
    (pre : ∀ store, Pre' store → Pre store) (post : ∀ value store, Post value store →
      Post' value store) (raised : ∀ store, Raised store → Raised' store) :
    Triple Pre' action Post' Raised' := by
  intro store holds
  have := triple store (pre store holds)
  cases result : action store with
  | ok value store' => rw [result] at this; exact post value store' this
  | error => rw [result] at this; exact raised _ this

/-- A triple whose two outcomes agree on a property gives it of the store left behind. -/
theorem Triple.after {action : Action α} {Holds : Store → Prop}
    (triple : Triple Pre action (fun _ => Holds) Holds) {store : Store} (holds : Pre store) :
    Holds (action.after store) := by
  have := triple store holds
  unfold Action.after
  cases result : action store <;> rw [result] at this <;> exact this

/-- What both outcomes of a triple imply holds of the store left behind. -/
theorem Triple.after_of {action : Action α} (triple : Triple Pre action Post Raised)
    {Holds : Store → Prop} (post : ∀ value store, Post value store → Holds store)
    (raised : ∀ store, Raised store → Holds store) {store : Store} (holds : Pre store) :
    Holds (action.after store) :=
  (triple.mono (fun _ holds => holds) post raised).after holds

/-- A triple whose two outcomes agree on a property, from the property of the store left
behind. -/
theorem Triple.of_after {action : Action α} {Holds : Store → Prop}
    (holds : ∀ store, Pre store → Holds (action.after store)) :
    Triple Pre action (fun _ => Holds) Holds := by
  intro store pre
  have := holds store pre
  unfold Action.after at this
  cases result : action store <;> rw [result] at this <;> exact this

theorem Keeps.triple {Holds : Store → Prop} {action : Action α} (kept : Keeps Holds action) :
    Triple Holds action (fun _ => Holds) Holds := by
  intro store holds
  have := kept store holds
  unfold Action.after at this
  cases result : action store <;> rw [result] at this <;> exact this

/-- A property the call keeps holds beside what a triple of the call gives. -/
theorem Triple.and_keeps {action : Action α} (triple : Triple Pre action Post Raised)
    {Holds : Store → Prop} (kept : Keeps Holds action) :
    Triple (fun store => Pre store ∧ Holds store) action
      (fun value store => Post value store ∧ Holds store)
      (fun store => Raised store ∧ Holds store) := by
  intro store ⟨pre, holds⟩
  have post := triple store pre
  have kept := kept store holds
  unfold Action.after at kept
  cases result : action store <;> rw [result] at post kept <;> exact ⟨post, kept⟩

end Action

/-- `@transaction.commit_on_success`: a call that raises rolls the store back to where
the call started. -/
def commitOnSuccess (action : Action α) : Action α := fun store =>
  match action store with
  | .ok value store' => .ok value store'
  | .error error _ => .error error store

@[simp] theorem commitOnSuccess_apply (action : Action α) (store : Store) :
    commitOnSuccess action store = match action store with
      | .ok value store' => .ok value store'
      | .error error _ => .error error store := rfl

theorem commitOnSuccess_error {action : Action α} {store store' : Store}
    {error : ShoppingCartError} (raised : commitOnSuccess action store = .error error store') :
    store' = store := by
  simp only [commitOnSuccess_apply] at raised
  split at raised <;> simp_all

theorem after_commitOnSuccess (action : Action α) (store : Store) :
    (commitOnSuccess action).after store = match action store with
      | .ok _ store' => store'
      | .error _ _ => store := by
  cases result : action store <;> simp [Action.after, result]

/-- A transaction keeps what its body keeps: a body that raises is rolled back. -/
theorem keeps_commitOnSuccess {Holds : Store → Prop} {action : Action α}
    (kept : Action.Keeps Holds action) : Action.Keeps Holds (commitOnSuccess action) := by
  intro store holds
  have body := kept store holds
  rw [after_commitOnSuccess]
  cases result : action store
  · rwa [Action.after_of_ok result] at body
  · exact holds

end ShoppingCart
