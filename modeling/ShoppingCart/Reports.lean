import ShoppingCart.Reclassification

/-! # Reports

The class methods the finance reports call: what each seat subclass has earned in a
course, and the verified certificates of a course by status. Each is a query over the item
table, so what a call changes in them is read off what the call does to the table: a refund
saves one row again (`Table.rows_set_split`), a purchase gives every item of the order its
new status (`Store.markItemsOf`).
-/

namespace ShoppingCart

/-- An aggregate `Sum(...)`: SQL gives `NULL` over no rows. -/
def aggregateSum (values : List Int) : Option Int :=
  if values.isEmpty then none else some values.sum

@[simp] theorem getD_aggregateSum (values : List Int) :
    (aggregateSum values).getD 0 = values.sum := by
  cases values <;> simp [aggregateSum]

namespace Table

theorem rows_succ (table : Table α) (bound : Nat) :
    table.rows (bound + 1) = table.rows bound ++ (table bound).toList := by
  cases stored : table bound <;> simp [rows, List.range_succ, stored]

theorem rows_set_of_le (table : Table α) {key bound : Nat} (above : bound ≤ key) (row : α) :
    (table.set key row).rows bound = table.rows bound :=
  List.filterMap_congr fun other member => by
    simp [(Nat.lt_of_lt_of_le (List.mem_range.mp member) above).ne]

/-- Saving a row over a key in use puts it where the old row stood among the rows. -/
theorem rows_set_split {table : Table α} {key : Nat} {old : α} (stored : table key = some old)
    (row : α) : ∀ {bound}, key < bound → ∃ before after,
      table.rows bound = before ++ old :: after ∧
        (table.set key row).rows bound = before ++ row :: after
  | bound + 1, below => by
    rw [rows_succ, rows_succ]
    rcases Nat.lt_succ_iff_lt_or_eq.mp below with below | rfl
    · obtain ⟨before, after, rows, rows'⟩ := rows_set_split stored row below
      exact ⟨before, after ++ (table bound).toList, by simp [rows], by simp [rows', below.ne']⟩
    · exact ⟨table.rows key, [], by simp [stored], by simp [rows_set_of_le table le_rfl]⟩

/-- The rows of a table whose every row is changed by `change`. -/
theorem rows_map (table : Table α) (change : α → β) (bound : Nat) :
    Table.rows (fun key => (table key).map change) bound = (table.rows bound).map change := by
  rw [rows, rows, List.map_filterMap]

end Table

namespace SeatVariant

/-- `cls.objects.filter(course_id=course_key, status='purchased')`. -/
def isPurchased (variant : SeatVariant) (courseKey : CourseId) (item : OrderItem) : Bool :=
  variant.courseOf item.kind == some courseKey && item.status == .purchased

/-- `get_total_amount_of_purchased_item`: the sum of `qty * unit_cost` (the `field` the
aggregate is given) over the purchased rows of the subclass in the course. -/
def getTotalAmountOfPurchasedItem (variant : SeatVariant) (store : Store)
    (courseKey : CourseId) : Int :=
  let totalCost := 0
  let result := aggregateSum (((store.items.rows store.nextItemId).filter
    (variant.isPurchased courseKey)).map fun item => item.qty * item.unitCost)
  result.getD totalCost

/-- Giving every item of order `key` the status `purchased`, where none of them had it,
adds the line costs of the order's items of the subclass in the course. -/
theorem sum_isPurchased_map (variant : SeatVariant) (courseKey : CourseId) (key : OrderId) :
    ∀ items : List OrderItem,
      (∀ item ∈ items, item.order = key → item.status ≠ .purchased) →
      (((items.map fun item => if item.order = key then { item with status := .purchased }
          else item).filter (variant.isPurchased courseKey)).map
            fun item => item.qty * item.unitCost).sum =
        ((items.filter (variant.isPurchased courseKey)).map
          fun item => item.qty * item.unitCost).sum +
        (((items.filter (·.order == key)).filter (variant.courseOf ·.kind == some courseKey)).map
          OrderItem.lineCost).sum
  | [], _ => rfl
  | item :: items, unpurchased => by
    have rest := sum_isPurchased_map variant courseKey key items fun other member =>
      unpurchased other (List.mem_cons_of_mem _ member)
    by_cases onOrder : item.order = key
    · have status := unpurchased item (List.mem_cons_self _ _) onOrder
      by_cases inCourse : variant.courseOf item.kind = some courseKey <;>
        simp [isPurchased, onOrder, status, inCourse, rest, OrderItem.lineCost, add_left_comm]
    · by_cases counted : variant.isPurchased courseKey item <;>
        simp [onOrder, counted, rest, add_assoc]

end SeatVariant

/-- `PaidCourseRegistration.get_total_amount_of_purchased_item`. -/
def PaidCourseRegistration.getTotalAmountOfPurchasedItem (store : Store)
    (courseKey : CourseId) : Int :=
  PaidCourseRegistration.variant.getTotalAmountOfPurchasedItem store courseKey

/-- `CourseRegCodeItem.get_total_amount_of_purchased_item`. -/
def CourseRegCodeItem.getTotalAmountOfPurchasedItem (store : Store) (courseKey : CourseId) :
    Int :=
  CourseRegCodeItem.variant.getTotalAmountOfPurchasedItem store courseKey

/-- A personal order that was open and whose purchase returns adds to what each seat
subclass has earned in a course the line costs of the order's items of that subclass in the
course, and nothing else. -/
theorem purchase_adds_line_costs_to_revenue (variant : SeatVariant) {services : Services}
    {order : Order} {billTo : BillTo} {store store' : Store} (invariant : store.Invariant)
    (stored : store.orders order.id = some order) (opened : order.status.IsOpen)
    (personal : order.orderType ≠ .business)
    (returned : Order.purchase services order billTo store = .ok () store')
    (courseKey : CourseId) :
    variant.getTotalAmountOfPurchasedItem store' courseKey =
      variant.getTotalAmountOfPurchasedItem store courseKey +
        (((store.itemsOf order.id).filter (variant.courseOf ·.kind == some courseKey)).map
          OrderItem.lineCost).sum := by
  have unpurchased : order.status ≠ .purchased := fun purchased => by
    simp [purchased] at opened
  obtain ⟨_, _, passed, looped⟩ := Order.purchase_ok invariant stored unpurchased returned
  rw [if_neg personal] at passed
  cases passed
  rw [Store.itemsOf_saveOrder] at looped
  have loop := OrderItem.forM_purchaseItem_ok services _ looped
  have marked := invariant.foldl_set_status_itemsOf order.id .purchased
  simp only [Store.lifecycle, Store.saveOrder, Prod.mk.injEq, Option.elim] at loop marked
  simp only [SeatVariant.getTotalAmountOfPurchasedItem, getD_aggregateSum, loop.2.2.1,
    loop.2.2.2.1, marked, Store.markItemsOf, Table.rows_map]
  refine variant.sum_isPurchased_map courseKey order.id _ fun item member onOrder => ?_
  obtain ⟨key, -, row⟩ := Table.mem_rows.mp member
  rw [invariant.items_follow_open_orders key item order row (onOrder ▸ stored) opened]
  exact unpurchased

theorem purchase_adds_line_costs_to_revenue_seatInCart :
    PaidCourseRegistration.variant.getTotalAmountOfPurchasedItem
        (Action.after (Order.purchase .oneCourse { id := 0, user := 5 } {})
          (run (fun _ price => price) (Store.initial (fun _ => none) 0) seatInCart)) 1 =
      PaidCourseRegistration.variant.getTotalAmountOfPurchasedItem
          (run (fun _ price => price) (Store.initial (fun _ => none) 0) seatInCart) 1 +
        ((((run (fun _ price => price) (Store.initial (fun _ => none) 0) seatInCart).itemsOf
          0).filter (PaidCourseRegistration.variant.courseOf ·.kind == some 1)).map
            OrderItem.lineCost).sum :=
  purchase_adds_line_costs_to_revenue _ (reachable_invariant _ (reachable_run _ (.initial _ _) _))
    (show (run (fun _ price => price) (Store.initial (fun _ => none) 0) seatInCart).orders 0 =
      some { id := 0, user := 5 } by decide) (.inl rfl) (by decide)
    (show Order.purchase .oneCourse { id := 0, user := 5 } {}
        (run (fun _ price => price) (Store.initial (fun _ => none) 0) seatInCart) =
      .ok () (Action.after (Order.purchase .oneCourse { id := 0, user := 5 } {})
        (run (fun _ price => price) (Store.initial (fun _ => none) 0) seatInCart)) from rfl) 1

namespace CertificateItem

/-- `CertificateItem.objects.filter(course_id=course_id, mode='verified', status=status)`. -/
def isVerified (courseId : CourseId) (status : OrderStatus) (item : OrderItem) : Bool :=
  item.status == status &&
    match item.kind with
    | .certificateItem courseId' _ mode => courseId' == courseId && mode == "verified"
    | _ => false

/-- `verified_certificates_count`. -/
def verifiedCertificatesCount (store : Store) (courseId : CourseId) (status : OrderStatus) :
    Nat :=
  ((store.items.rows store.nextItemId).filter (isVerified courseId status)).length

/-- `verified_certificates_monetary_field_sum`, the aggregated field given as what it reads
of a row; 0 over no rows. -/
def verifiedCertificatesMonetaryFieldSum (store : Store) (courseId : CourseId)
    (status : OrderStatus) (fieldToAggregate : OrderItem → Int) : Int :=
  match aggregateSum (((store.items.rows store.nextItemId).filter
      (isVerified courseId status)).map fieldToAggregate) with
  | none => 0
  | some query => query

/-- `verified_certificates_contributing_more_than_minimum`, given what
`CourseMode.min_course_price_for_verified_for_currency` answers. -/
def verifiedCertificatesContributingMoreThanMinimum
    (minCoursePriceForVerifiedForCurrency : CourseId → String → Int) (store : Store)
    (courseId : CourseId) : Nat :=
  ((store.items.rows store.nextItemId).filter fun item =>
    isVerified courseId .purchased item &&
      decide (item.unitCost > minCoursePriceForVerifiedForCurrency courseId "usd")).length

theorem verifiedCertificatesMonetaryFieldSum_eq (store : Store) (courseId : CourseId)
    (status : OrderStatus) (fieldToAggregate : OrderItem → Int) :
    verifiedCertificatesMonetaryFieldSum store courseId status fieldToAggregate =
      (((store.items.rows store.nextItemId).filter (isVerified courseId status)).map
        fieldToAggregate).sum := by
  rw [verifiedCertificatesMonetaryFieldSum, ← getD_aggregateSum]
  cases aggregateSum _ <;> rfl

/-- A refund that returns a certificate has saved again one purchased verified certificate
of the user in the course, as refunded, in the row it was read from. -/
theorem refundCertCallback_some {courseEnrollment : UnenrolledEnrollment} {store store' : Store}
    {cert : OrderItem}
    (returned : refundCertCallback courseEnrollment store = .ok (some cert) store') :
    ∃ target ∈ store.items.rows store.nextItemId, isRefundTarget courseEnrollment target ∧
      cert = { target with status := .refunded } ∧
      store'.items = store.items.set target.id cert ∧ store'.nextItemId = store.nextItemId := by
  unfold refundCertCallback at returned
  split at returned
  · cases returned
  · simp only [Action.bind_apply, Action.read_apply] at returned
    cases targets : (store.items.rows store.nextItemId).filter (isRefundTarget courseEnrollment)
      with
    | nil => simp [targets] at returned
    | cons target rest =>
      have member : target ∈ (store.items.rows store.nextItemId).filter
          (isRefundTarget courseEnrollment) := by
        rw [targets]; exact List.mem_cons_self _ _
      obtain ⟨member, targeted⟩ := List.mem_filter.mp member
      simp only [targets, Action.bind_apply, Action.write_apply, Action.read_apply] at returned
      cases ordered : store.orders target.order <;>
        · simp only [Store.saveItem, ordered, Action.write_apply, Action.pure_apply,
            Action.bind_apply, EStateM.Result.ok.injEq, Option.some.injEq] at returned
          obtain ⟨rfl, rfl⟩ := returned
          exact ⟨target, member, targeted, rfl, rfl, rfl⟩

/-- A refund that returns a certificate moves one verified certificate of the course from
the purchased ones to the refunded ones, in the counts and in the sums of unit costs the
finance reports read. -/
theorem refundCertCallback_moves_certificate {courseEnrollment : UnenrolledEnrollment}
    {store store' : Store} {cert : OrderItem} (invariant : store.Invariant)
    (returned : refundCertCallback courseEnrollment store = .ok (some cert) store') :
    verifiedCertificatesCount store' courseEnrollment.courseId .purchased + 1 =
        verifiedCertificatesCount store courseEnrollment.courseId .purchased ∧
      verifiedCertificatesCount store' courseEnrollment.courseId .refunded =
        verifiedCertificatesCount store courseEnrollment.courseId .refunded + 1 ∧
      verifiedCertificatesMonetaryFieldSum store' courseEnrollment.courseId .purchased
          (·.unitCost) + cert.unitCost =
        verifiedCertificatesMonetaryFieldSum store courseEnrollment.courseId .purchased
          (·.unitCost) ∧
      verifiedCertificatesMonetaryFieldSum store' courseEnrollment.courseId .refunded
          (·.unitCost) =
        verifiedCertificatesMonetaryFieldSum store courseEnrollment.courseId .refunded
          (·.unitCost) + cert.unitCost := by
  obtain ⟨target, member, targeted, rfl, items, next⟩ := refundCertCallback_some returned
  obtain ⟨key, below, row⟩ := Table.mem_rows.mp member
  obtain ⟨keyed, -⟩ := invariant.item_key key target row
  subst keyed
  obtain ⟨before, after, rows, rows'⟩ :=
    Table.rows_set_split row { target with status := .refunded } below
  obtain ⟨enrollment, kind, status⟩ : ∃ enrollment,
      target.kind = .certificateItem courseEnrollment.courseId enrollment "verified" ∧
        target.status = .purchased := by
    simp only [isRefundTarget, Bool.and_eq_true, beq_iff_eq] at targeted
    obtain ⟨⟨-, status⟩, kind⟩ := targeted
    split at kind
    · simp only [Bool.and_eq_true, beq_iff_eq] at kind
      exact ⟨_, by rename_i same; rw [same, kind.1, kind.2], status⟩
    · cases kind
  simp only [verifiedCertificatesCount, verifiedCertificatesMonetaryFieldSum_eq, items, next]
  rw [rows, rows']
  simp [List.filter_append, List.filter_cons, isVerified, kind, status]
  omega

/-- The store once user 5 has bought the verified certificate of course 1 and a
donation. -/
def certificatePurchased : Store :=
  run (fun _ price => price) (Store.initial (fun _ => none) 0) (refundedCertificate.take 4)

theorem refundCertCallback_moves_certificate_certificatePurchased :
    verifiedCertificatesCount
        (Action.after (refundCertCallback ⟨5, 1, true⟩) certificatePurchased) 1 .purchased + 1 =
        verifiedCertificatesCount certificatePurchased 1 .purchased ∧
      verifiedCertificatesCount
          (Action.after (refundCertCallback ⟨5, 1, true⟩) certificatePurchased) 1 .refunded =
        verifiedCertificatesCount certificatePurchased 1 .refunded + 1 ∧
      verifiedCertificatesMonetaryFieldSum
          (Action.after (refundCertCallback ⟨5, 1, true⟩) certificatePurchased) 1 .purchased
          (·.unitCost) + 50 =
        verifiedCertificatesMonetaryFieldSum certificatePurchased 1 .purchased (·.unitCost) ∧
      verifiedCertificatesMonetaryFieldSum
          (Action.after (refundCertCallback ⟨5, 1, true⟩) certificatePurchased) 1 .refunded
          (·.unitCost) =
        verifiedCertificatesMonetaryFieldSum certificatePurchased 1 .refunded (·.unitCost) + 50 :=
  refundCertCallback_moves_certificate (reachable_invariant _ (reachable_run _ (.initial _ _) _))
    (show refundCertCallback ⟨5, 1, true⟩ certificatePurchased =
      .ok (some { id := 0, order := 0, user := 5, status := .refunded, unitCost := 50,
                  lineDesc := "Verified Certificate for course Demo",
                  kind := .certificateItem 1 7 "verified" })
        (Action.after (refundCertCallback ⟨5, 1, true⟩) certificatePurchased) from rfl)

end CertificateItem

end ShoppingCart
