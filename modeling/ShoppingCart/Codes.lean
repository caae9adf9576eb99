import ShoppingCart.Reclassification

/-! # The registration codes a purchase mints

`CourseRegCodeItem.purchased_callback` mints `qty` registration codes of its course on the
order; `purchase` runs the callback of every item the order holds after the
reclassification pass, which mints none. What each call adds to the code table is read off
one lemma per call and one lemma for the loop (`OrderItem.codeIssues_forM_purchaseItem`).
The codes CSV `purchase` mails for a business order lists, under each item, the codes of
its course on the order, so what it lists is read off the same count.
-/

namespace ShoppingCart

open Action

/-- A registration code without its key: its course, who created it, and the order or
invoice it came from. -/
def CourseRegistrationCode.issue (code : CourseRegistrationCode) :
    CourseId × UserId × Option OrderId × Option InvoiceId :=
  (code.courseId, code.createdBy, code.order, code.invoice)

/-- The registration codes of a store, in key order, without their keys. -/
def Store.codeIssues (store : Store) :
    List (CourseId × UserId × Option OrderId × Option InvoiceId) :=
  (store.registrationCodes.rows store.nextCodeId).map CourseRegistrationCode.issue

@[simp] theorem Store.codeIssues_createRegistrationCode (store : Store)
    (make : CodeId → CourseRegistrationCode) :
    (store.createRegistrationCode make).codeIssues =
      store.codeIssues ++ [(make store.nextCodeId).issue] := by
  simp [Store.codeIssues, Store.createRegistrationCode, Table.rows_set_self]

/-- What the `purchased_callback` of an item mints: `qty` codes of its course on its order
for a code bundle, created by its user and from no invoice; nothing for other items. -/
def OrderItem.mintedCodes (item : OrderItem) :
    List (CourseId × UserId × Option OrderId × Option InvoiceId) :=
  match item.kind with
  | .courseRegCodeItem courseId _ =>
    List.replicate item.qty.toNat (courseId, item.user, some item.order, none)
  | _ => []

namespace OrderItem

/-- The loop of `save_registration_code` calls mints one code per turn. -/
theorem codeIssues_forM_saveRegistrationCode (user : UserId) (courseId : CourseId)
    (order : Option OrderId) (count : Nat) (store : Store) :
    (List.range count).forM (fun _ => saveRegistrationCode user courseId none order) store =
      .ok () ((List.range count).foldl (fun store _ => store.createRegistrationCode fun id =>
        { id, courseId, createdBy := user, order, invoice := none }) store) ∧
    ((List.range count).foldl (fun store _ => store.createRegistrationCode fun id =>
        { id, courseId, createdBy := user, order, invoice := none }) store).codeIssues =
      store.codeIssues ++ List.replicate count (courseId, user, order, none) := by
  refine ⟨forM_write _ _ store, ?_⟩
  induction count with
  | zero => simp
  | succ count minted =>
    rw [List.range_succ, List.foldl_append, List.foldl_cons, List.foldl_nil,
      Store.codeIssues_createRegistrationCode, minted, List.replicate_succ',
      List.append_assoc]
    rfl

theorem codeIssues_purchasedCallback {services : Services} {item : OrderItem}
    {store store' : Store} (returned : purchasedCallback services item store = .ok () store') :
    store'.codeIssues = store.codeIssues ++ item.mintedCodes := by
  unfold purchasedCallback at returned
  unfold mintedCodes
  cases kind : item.kind with
  | paidCourseRegistration courseId =>
    by_cases vanished : (services.getCourse courseId).isNone = true <;>
      simp [kind, vanished] at returned
    rw [← returned]
    simp [Store.codeIssues, Store.record]
  | courseRegCodeItem courseId =>
    by_cases vanished : (services.getCourse courseId).isNone = true <;>
      simp [kind, vanished, (codeIssues_forM_saveRegistrationCode _ _ _ _ store).1] at returned
    rw [← returned]
    exact (codeIssues_forM_saveRegistrationCode _ _ _ _ store).2
  | certificateItem =>
    simp only [kind, bind_apply, write_apply, EStateM.Result.ok.injEq] at returned
    rw [← returned.2]
    simp [Store.codeIssues, Store.record]
  | donation =>
    simp only [kind, pure_apply, EStateM.Result.ok.injEq] at returned
    rw [← returned.2]
    simp

/-- A loop of `purchase_item` that returns has appended to a log that only the callbacks
write, after what it held, the entries of each item in turn. -/
theorem log_forM_purchaseItem {β : Type} (services : Services) (log : Store → List β)
    (entries : OrderItem → List β)
    (called : ∀ {item store store'}, purchasedCallback services item store = .ok () store' →
      log store' = log store ++ entries item)
    (logged : ∀ (item : OrderItem) (store : Store),
      log (({ store with fulfilments := store.fulfilments ++ [item.id] }).saveItem
        { item with status := .purchased }) = log store) :
    ∀ (items : List OrderItem) {store store' : Store},
      items.forM (purchaseItem services) store = .ok () store' →
      log store' = log store ++ items.flatMap entries
  | [], _, _, returned => by
    cases returned
    simp
  | item :: items, store, store', returned => by
    rw [List.forM_cons'] at returned
    obtain ⟨_, saved, savedOk, rest⟩ := bind_eq_ok returned
    obtain ⟨_, calledOk, rfl⟩ := purchaseItem_ok savedOk
    rw [log_forM_purchaseItem services log entries called logged items rest, logged,
      called calledOk, List.flatMap_cons, List.append_assoc]

/-- A loop of `purchase_item` that returns has minted, after the codes already issued, the
codes of each item in turn. -/
theorem codeIssues_forM_purchaseItem (services : Services) (items : List OrderItem)
    {store store' : Store} (returned : items.forM (purchaseItem services) store = .ok () store') :
    store'.codeIssues = store.codeIssues ++ items.flatMap mintedCodes :=
  log_forM_purchaseItem services Store.codeIssues mintedCodes codeIssues_purchasedCallback
    (fun _ _ => rfl) items returned

end OrderItem

/-- The reclassification pass mints no code: it inserts, deletes and saves items and
orders only. -/
theorem Order.keeps_codeIssues_updateOrderType (services : Services) (self : Order)
    (issues : List (CourseId × UserId × Option OrderId × Option InvoiceId)) :
    Keeps (·.codeIssues = issues) (Order.updateOrderType services self) :=
  keeps_updateOrderType services
    (fun _ _ => SeatVariant.keeps_addToOrder _ _ _ _ _ _ _ _ fun _ _ same _ _ _ _ => same)
    (fun _ _ _ => SeatVariant.keeps_addToOrder _ _ _ _ _ _ _ _ fun _ _ same _ _ _ _ => same)
    (fun _ _ same => same) (fun _ _ same => same) self

/-! ## The codes CSV of a business purchase -/

/-- An issue of a code of the course on the order. -/
def CourseRegistrationCode.issueOf (courseId : Option CourseId) (order : OrderId)
    (issue : CourseId × UserId × Option OrderId × Option InvoiceId) : Bool :=
  some issue.1 == courseId && issue.2.2.1 == some order

theorem Store.length_codesOf (store : Store) (courseId : Option CourseId) (order : OrderId) :
    (store.codesOf courseId order).length =
      (store.codeIssues.filter (CourseRegistrationCode.issueOf courseId order)).length := by
  rw [Store.codeIssues, List.filter_map, List.length_map]
  rfl

namespace Order

/-- The CSV lists under an item every code of its course on the order. -/
theorem length_registrationCodesCsvRows {services : Services} {redemptionUrl : String → String}
    {siteName : String} {store : Store} {self : Order} {item : OrderItem}
    {rows : List (List String)}
    (listed : registrationCodesCsvRows services redemptionUrl siteName store self item =
      some rows) :
    rows.length = (store.codesOf item.kind.courseId self.id).length := by
  unfold registrationCodesCsvRows at listed
  cases course : item.kind.courseId.bind services.getCourse <;>
    simp only [course, Option.bind_eq_bind, Option.none_bind, Option.some_bind,
      Option.pure_def, Option.some.injEq, reduceCtorEq] at listed
  rw [← listed, List.length_map]

end Order

/-- The reclassification pass of `purchase` keeps what `update_order_type` keeps. -/
theorem Order.keeps_purchasePass {Holds : Store → Prop} (services : Services) (closed : Order)
    (kept : Keeps Holds (Order.updateOrderType services closed)) :
    Keeps Holds (if closed.orderType = .business then Order.updateOrderType services closed
      else pure closed) := by
  split
  · exact kept
  · exact keeps_pure _ _

/-- When `purchase` returns on an order of a store satisfying the invariant that is not
purchased yet, the registration codes it has added, after the ones already issued, are
those the code bundles of the order mint, as the reclassification pass leaves the order:
`qty` codes of the bundle's course for each, created by the buyer, on the order and from no
invoice, item after item. The codes CSV then lists under each item the codes of its course
the order had before and those its bundles of that course minted. -/
theorem purchase_mints_codes_of_bundles (services : Services) {store store' : Store}
    (invariant : store.Invariant) {self : Order} (billTo : BillTo)
    (stored : store.orders self.id = some self) (notPurchased : self.status ≠ .purchased)
    (returned : Order.purchase services self billTo store = .ok () store') :
    let closed := { self with
      status := .purchased
      billTo := Order.recordBilling self.billTo billTo services.storeBillingInfo }
    ∃ self' reclassified,
      (if closed.orderType = .business then Order.updateOrderType services closed
        else pure closed) (store.saveOrder closed) = .ok self' reclassified ∧
      store'.codeIssues =
        store.codeIssues ++ (reclassified.itemsOf self.id).flatMap OrderItem.mintedCodes ∧
      ∀ redemptionUrl siteName item rows, Order.registrationCodesCsvRows services redemptionUrl
        siteName store' self item = some rows →
        rows.length = (store.codesOf item.kind.courseId self.id).length +
          (((reclassified.itemsOf self.id).flatMap OrderItem.mintedCodes).filter
            (CourseRegistrationCode.issueOf item.kind.courseId self.id)).length := by
  intro closed
  obtain ⟨self', reclassified, passed, looped⟩ :=
    Order.purchase_ok invariant stored notPurchased returned
  have unminted : reclassified.codeIssues = store.codeIssues := after_of_ok passed ▸
    Order.keeps_purchasePass services closed
      (Order.keeps_codeIssues_updateOrderType services closed _) (store.saveOrder closed) rfl
  have minted := OrderItem.codeIssues_forM_purchaseItem services _ looped
  rw [unminted] at minted
  refine ⟨self', reclassified, passed, minted, fun _ _ item rows listed => ?_⟩
  rw [Order.length_registrationCodesCsvRows listed, Store.length_codesOf, Store.length_codesOf,
    minted, List.filter_append, List.length_append]

theorem purchase_mints_codes_of_bundles_businessCart :
    let closed : Order :=
      { id := 0, user := 5, orderType := .business, status := .purchased,
        billTo := Order.recordBilling {} {} false }
    ∃ self' reclassified,
      (if closed.orderType = .business then Order.updateOrderType .twoCourses closed
        else pure closed) (businessCart.saveOrder closed) = .ok self' reclassified ∧
      ((Order.purchase .twoCourses { id := 0, user := 5, orderType := .business } {}).after
          businessCart).codeIssues =
        businessCart.codeIssues ++ (reclassified.itemsOf 0).flatMap OrderItem.mintedCodes ∧
      ∀ redemptionUrl siteName item rows, Order.registrationCodesCsvRows .twoCourses
        redemptionUrl siteName
        ((Order.purchase .twoCourses { id := 0, user := 5, orderType := .business } {}).after
          businessCart) { id := 0, user := 5, orderType := .business } item = some rows →
        rows.length = (businessCart.codesOf item.kind.courseId 0).length +
          (((reclassified.itemsOf 0).flatMap OrderItem.mintedCodes).filter
            (CourseRegistrationCode.issueOf item.kind.courseId 0)).length :=
  @purchase_mints_codes_of_bundles .twoCourses businessCart _
    (reachable_invariant _ (reachable_run _ (.initial _ _) _))
    { id := 0, user := 5, orderType := .business } {} (by decide) (by decide) rfl

example : ((Order.purchase .twoCourses { id := 0, user := 5, orderType := .business } {}).after
    businessCart).codeIssues = [(2, 5, some 0, none), (2, 5, some 0, none),
      (1, 5, some 0, none)] := by decide

example : Order.generateRegistrationCodesCsv .twoCourses ("/register/" ++ ·)
    { id := 0, user := 5, orderType := .business }
    (((Order.purchase .twoCourses { id := 0, user := 5, orderType := .business } {}).after
      businessCart).itemsOf 0) "site"
    ((Order.purchase .twoCourses { id := 0, user := 5, orderType := .business } {}).after
      businessCart) =
    some [["Course Name", "Registration Code", "URL"], ["Demo", "0", "site/register/0"],
      ["Demo", "1", "site/register/1"], ["Demo", "2", "site/register/2"]] := by decide

end ShoppingCart
