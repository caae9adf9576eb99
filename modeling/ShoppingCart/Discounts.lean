import ShoppingCart.Lifecycle

/-! # Discounts and the price reset

Both discounts keep an item's price in `list_price` and write the discounted price in
`unit_cost`; `reset_cart_items_prices` moves a non-zero `list_price` back. Along discounts
that pick no item twice, an item's list price stays unset or its price, and the reset gives
the price back. A second discount of the same item (a second registration code of its
course, or a second coupon of the same code) keeps the already discounted price as the
list price, and the reset no longer restores the price. Registration codes are checked for an earlier redemption only by
`add_reg_code_redemption`: a redemption made from an invoice is recorded unchecked.
`add_reg_code_redemption` raises exactly when the order has no item of the code's course
or the code has a redemption, and then writes nothing. Along any run of coupon
redemptions and removals, the coupons redeemed on an order share one code and are
pairwise distinct.
-/

namespace ShoppingCart

open Action

variable {store store' : Store}

/-! ## What each call writes -/

theorem Order.priceReset_id {item changed : OrderItem}
    (reset : Order.priceReset item = some changed) : changed.id = item.id := by
  unfold Order.priceReset at reset
  split at reset
  · split at reset
    · cases reset; rfl
    · cases reset
  · cases reset

/-- `reset_cart_items_prices` gives every item of the order with a non-zero list price
that price back as its unit cost. -/
theorem Order.resetCartItemsPrices_items (invariant : store.Invariant) (order : Order) :
    ((Order.resetCartItemsPrices order).after store).items = fun key =>
      (store.items key).map fun item =>
        if item.order = order.id then (Order.priceReset item).getD item else item := by
  obtain ⟨reset, loop, lifecycle⟩ := OrderItem.lifecycle_forM_save
    Order.resetItemPrice Order.priceReset
    (fun item store => ⟨_, Order.resetItemPrice_apply item store, rfl⟩)
    (store.itemsOf order.id) store
  simp only [Order.resetCartItemsPrices, after_read_bind]
  rw [after_of_ok loop]
  simp only [Store.lifecycle, Prod.mk.injEq] at lifecycle
  rw [lifecycle.2.2.1, invariant.foldl_save_itemsOf order.id _ fun _ _ => Order.priceReset_id]

/-- A registration code that returns was not redeemed before; it is recorded, and the
first item of the order in its course is made free, its price kept as list price. -/
theorem RegistrationCodeRedemption.addRegCodeRedemption_ok
    {courseRegCode courseRegCode' : CourseRegistrationCode} {order : Order}
    (returned : RegistrationCodeRedemption.addRegCodeRedemption courseRegCode order store =
      .ok courseRegCode' store') :
    ∃ item, (store.itemsOf order.id).find? (·.kind.courseId == some courseRegCode.courseId) =
        some item ∧
      store.registrationCodeRedemptions.filter (·.registrationCode == courseRegCode.id) = [] ∧
      store' = Store.saveItem
        { store with registrationCodeRedemptions := store.registrationCodeRedemptions ++
          [{ registrationCode := courseRegCode.id, order := some order.id,
             redeemedBy := order.user }] }
        { item with listPrice := some item.unitCost, unitCost := 0 } := by
  simp only [RegistrationCodeRedemption.addRegCodeRedemption, bind_apply, read_apply] at returned
  cases found : (store.itemsOf order.id).find? (·.kind.courseId == some courseRegCode.courseId)
    with
  | none => simp [found] at returned
  | some item =>
    simp only [found, bind_apply, read_apply, raiseIf_apply] at returned
    split_ifs at returned with redeemed
    simp only [Bool.not_eq_true', List.isEmpty_eq_false, not_not, Bool.not_eq_false,
      List.isEmpty_iff] at redeemed
    simp only [write_apply, pure_apply, EStateM.Result.ok.injEq] at returned
    exact ⟨item, rfl, by simpa using redeemed, returned.2.symm⟩

/-- A coupon that returns `true` is recorded, and the first item of the order in its
course gets the discounted price, its price kept as list price. -/
theorem CouponRedemption.addCouponRedemption_ok {getDiscountPrice : Int → Int → Int}
    {coupon : Coupon} {order : Order} {cartItems : List OrderItem}
    (returned : CouponRedemption.addCouponRedemption getDiscountPrice coupon order cartItems
      store = .ok true store') :
    ∃ item, cartItems.find? (·.kind.courseId == some coupon.courseId) = some item ∧
      store' = Store.saveItem
        { store with couponRedemptions := store.couponRedemptions ++
          [{ order := order.id, user := order.user, coupon }] }
        { item with listPrice := some item.unitCost,
                    unitCost := getDiscountPrice coupon.percentageDiscount item.unitCost } := by
  simp only [CouponRedemption.addCouponRedemption, bind_apply, read_apply, raiseIf_apply]
    at returned
  split_ifs at returned
  cases found : cartItems.find? (·.kind.courseId == some coupon.courseId) with
  | none => simp [found] at returned
  | some item =>
    simp only [found, bind_apply, write_apply, pure_apply, EStateM.Result.ok.injEq] at returned
    exact ⟨item, rfl, returned.2.symm⟩

/-- `add_coupon_redemption` in one equation: a coupon that conflicts with one redeemed on
the order by its user raises before writing anything; otherwise the first item of
`cartItems` in the coupon's course, if any, gets the discount. -/
theorem CouponRedemption.addCouponRedemption_apply (getDiscountPrice : Int → Int → Int)
    (coupon : Coupon) (order : Order) (cartItems : List OrderItem) (store : Store) :
    CouponRedemption.addCouponRedemption getDiscountPrice coupon order cartItems store =
      if (store.couponRedemptions.filter fun redemption =>
          redemption.order == order.id && redemption.user == order.user).any
          (CouponRedemption.conflicts ·.coupon coupon) then
        .error .multipleCouponsNotAllowedException store
      else match cartItems.find? (·.kind.courseId == some coupon.courseId) with
        | none => .ok false store
        | some item => .ok true (Store.saveItem
            { store with couponRedemptions := store.couponRedemptions ++
              [{ order := order.id, user := order.user, coupon }] }
            { item with listPrice := some item.unitCost,
                        unitCost := getDiscountPrice coupon.percentageDiscount item.unitCost })
    := by
  simp only [CouponRedemption.addCouponRedemption, bind_apply, read_apply, raiseIf_apply]
  split_ifs
  · rfl
  · cases cartItems.find? (·.kind.courseId == some coupon.courseId) <;> rfl

/-! ## Discounts, then the reset -/

/-- `Discounts getDiscountPrice order store picked store'`: successful discounts of `order`,
one after the other, lead from `store` to `store'`, discounting the items `picked` in turn.
A registration code succeeds when `add_reg_code_redemption` returns, a coupon when
`add_coupon_redemption`, given the order's items as stored, returns `True`; each discounts
the first item of the order in its course. -/
inductive Discounts (getDiscountPrice : Int → Int → Int) (order : Order) :
    Store → List ItemId → Store → Prop
  | done (store : Store) : Discounts getDiscountPrice order store [] store
  | regCode {store middle store' : Store} {picked : List ItemId} {item : OrderItem}
      {returned : CourseRegistrationCode} (courseRegCode : CourseRegistrationCode)
      (redeemed : RegistrationCodeRedemption.addRegCodeRedemption courseRegCode order store =
        .ok returned middle)
      (first : (store.itemsOf order.id).find? (·.kind.courseId == some courseRegCode.courseId) =
        some item)
      (rest : Discounts getDiscountPrice order middle picked store') :
      Discounts getDiscountPrice order store (item.id :: picked) store'
  | coupon {store middle store' : Store} {picked : List ItemId} {item : OrderItem}
      (coupon : Coupon)
      (redeemed : CouponRedemption.addCouponRedemption getDiscountPrice coupon order
        (store.itemsOf order.id) store = .ok true middle)
      (first : (store.itemsOf order.id).find? (·.kind.courseId == some coupon.courseId) =
        some item)
      (rest : Discounts getDiscountPrice order middle picked store') :
      Discounts getDiscountPrice order store (item.id :: picked) store'

/-- The row of `item` after discounts that picked it at most once: `item` itself, or `item`
discounted from its own price, to zero when that price is zero. -/
def OrderItem.DiscountedAtMostOnce (item row : OrderItem) : Prop :=
  row = item ∨ ∃ discountPrice, (item.unitCost = 0 → discountPrice = 0) ∧
    row = { item with listPrice := some item.unitCost, unitCost := discountPrice }

/-- A successful discount saves the item it picks with its price as list price and the
discounted price as unit cost, on a store whose orders and items are as before; a free
item stays free when `get_discount_price` keeps a zero price at zero. -/
theorem discount_saves_item {getDiscountPrice : Int → Int → Int}
    (freeStaysFree : ∀ percentage, getDiscountPrice percentage 0 = 0) {order : Order}
    {item : OrderItem} {middle : Store}
    (discounted :
      (∃ courseRegCode returned,
        RegistrationCodeRedemption.addRegCodeRedemption courseRegCode order store =
          .ok returned middle ∧
        (store.itemsOf order.id).find? (·.kind.courseId == some courseRegCode.courseId) =
          some item) ∨
      (∃ coupon, CouponRedemption.addCouponRedemption getDiscountPrice coupon order
          (store.itemsOf order.id) store = .ok true middle ∧
        (store.itemsOf order.id).find? (·.kind.courseId == some coupon.courseId) =
          some item)) :
    ∃ (discountPrice : Int) (between : Store), between.lifecycle = store.lifecycle ∧
      (item.unitCost = 0 → discountPrice = 0) ∧
      middle = between.saveItem
        { item with listPrice := some item.unitCost, unitCost := discountPrice } := by
  rcases discounted with ⟨courseRegCode, _, returned, picked⟩ | ⟨coupon, returned, picked⟩
  · obtain ⟨_, found, -, rfl⟩ := RegistrationCodeRedemption.addRegCodeRedemption_ok returned
    cases picked.symm.trans found
    refine ⟨0, _, ?_, fun _ => rfl, rfl⟩
    rfl
  · obtain ⟨_, found, rfl⟩ := CouponRedemption.addCouponRedemption_ok returned
    cases picked.symm.trans found
    refine ⟨_, _, ?_, fun free => by rw [free, freeStaysFree], rfl⟩
    rfl

/-- Along successful discounts that pick no item twice, the invariant holds and the row of
an item of the order is discounted at most once: a discount that picks it finds its row as
it was, and one that picks another item leaves its row alone. -/
theorem Discounts.discountedAtMostOnce {getDiscountPrice : Int → Int → Int}
    (freeStaysFree : ∀ percentage, getDiscountPrice percentage 0 = 0) {order : Order}
    {item : OrderItem} {picked : List ItemId}
    (discounted : Discounts getDiscountPrice order store picked store') (invariant : store.Invariant)
    {row : OrderItem} (stored : store.items item.id = some row) (shape : item.DiscountedAtMostOnce row)
    (untouched : row ≠ item → item.id ∉ picked) (once : picked.Nodup) :
    store'.Invariant ∧ ∃ row', store'.items item.id = some row' ∧ item.DiscountedAtMostOnce row' := by
  induction discounted generalizing row with
  | done => exact ⟨invariant, row, stored, shape⟩
  | @regCode store middle store' picked found _ courseRegCode redeemed first rest induction
  | @coupon store middle store' picked found coupon redeemed first rest induction =>
    obtain ⟨discountPrice, between, same, free, rfl⟩ := discount_saves_item freeStaysFree
      (by first
        | exact .inl ⟨courseRegCode, _, redeemed, first⟩
        | exact .inr ⟨coupon, redeemed, first⟩)
    have member := List.mem_of_find?_eq_some first
    have middleInvariant := invariant.saveItem_of_mem
      { found with listPrice := some found.unitCost, unitCost := discountPrice } member same rfl
      rfl rfl
    have foundRow := invariant.row_of_mem member
    obtain ⟨fresh, onceRest⟩ := List.nodup_cons.mp once
    by_cases here : found.id = item.id
    · -- the discount picks the item, which it finds as it was
      have original : item = row := by
        by_contra changed
        exact untouched (Ne.symm changed) (here ▸ List.mem_cons_self _ _)
      subst original
      have picksItem : item = found := Option.some.inj (stored.symm.trans (here ▸ foundRow))
      subst picksItem
      exact induction middleInvariant (by simp [Store.saveItem]) (.inr ⟨discountPrice, free, rfl⟩)
        (fun _ => fresh) onceRest
    · -- it picks another item and leaves the row alone
      have items : between.items = store.items := congrArg (fun lifecycle => lifecycle.2.2.1) same
      exact induction middleInvariant (by simp [Store.saveItem, Ne.symm here, items, stored])
        shape (fun changed => List.not_mem_of_not_mem_cons (untouched changed)) onceRest

/-- The reset of an item discounted once from a non-zero price. -/
theorem Order.priceReset_discounted {item : OrderItem} (undiscounted : item.listPrice = none)
    (priced : item.unitCost ≠ 0) (discountPrice : Int) :
    Order.priceReset { item with listPrice := some item.unitCost, unitCost := discountPrice } =
      some item := by
  cases item
  simp_all [Order.priceReset]

/-- The reset gives an item discounted at most once back its price as unit cost, and
otherwise leaves it as it was, but for a list price that stays `p` when `p` is zero. -/
theorem Order.priceReset_of_discountedAtMostOnce {item row : OrderItem}
    (undiscounted : item.listPrice = none) (shape : item.DiscountedAtMostOnce row) :
    ∃ listPrice, (listPrice = none ∨ listPrice = some item.unitCost) ∧
      (Order.priceReset row).getD row = { item with listPrice } := by
  have plain : item = { item with listPrice := none } := by
    cases item
    cases undiscounted
    rfl
  rcases shape with same | ⟨discountPrice, free, rfl⟩
  · refine ⟨none, .inl rfl, ?_⟩
    simp [same, Order.priceReset, undiscounted, ← plain]
  · by_cases priced : item.unitCost = 0
    · refine ⟨some item.unitCost, .inr rfl, ?_⟩
      have zero := free priced
      cases item
      simp_all [Order.priceReset]
    · exact ⟨none, .inl rfl, by rw [Order.priceReset_discounted undiscounted priced,
        Option.getD_some, ← plain]⟩

/-- An item priced `p`, with no list price, keeps a list price that is unset or `p` along
every sequence of successful discounts of its order that discounts no item twice, and the
next `reset_cart_items_prices` gives it unit cost `p` back, every other field as it was. -/
theorem reset_restores_price_after_discounts (getDiscountPrice : Int → Int → Int)
    (freeStaysFree : ∀ percentage, getDiscountPrice percentage 0 = 0)
    (invariant : store.Invariant) {order : Order} {item : OrderItem}
    (member : item ∈ store.itemsOf order.id) (undiscounted : item.listPrice = none)
    {picked : List ItemId} (discounted : Discounts getDiscountPrice order store picked store')
    (once : picked.Nodup) :
    (∃ row, store'.items item.id = some row ∧
      (row.listPrice = none ∨ row.listPrice = some item.unitCost)) ∧
    ∃ listPrice, (listPrice = none ∨ listPrice = some item.unitCost) ∧
      ((Order.resetCartItemsPrices order).after store').items item.id =
        some { item with listPrice } := by
  obtain ⟨invariant', row, stored, shape⟩ := discounted.discountedAtMostOnce freeStaysFree
    invariant (invariant.row_of_mem member) (.inl rfl) (fun changed => absurd rfl changed) once
  have listed : row.listPrice = none ∨ row.listPrice = some item.unitCost := by
    rcases shape with rfl | ⟨_, -, rfl⟩
    exacts [.inl undiscounted, .inr rfl]
  obtain ⟨listPrice, kept, reset⟩ := Order.priceReset_of_discountedAtMostOnce undiscounted shape
  have onOrder : row.order = order.id := by
    rcases shape with rfl | ⟨_, -, rfl⟩ <;> exact (Store.mem_itemsOf.mp member).2
  refine ⟨⟨row, stored, listed⟩, listPrice, kept, ?_⟩
  simp only [Order.resetCartItemsPrices_items invariant', stored, Option.map_some', if_pos onOrder,
    reset]

/-- A coupon's discounted price on whole cents: `value - percentage * value / 100`. -/
def centsOff (percentage value : Int) : Int := value - percentage * value / 100

/-- User 5's cart holding a seat of course 1 at 40 and one of course 2 at 30, against the
two codes of course 1. -/
def twoSeats : Store :=
  run centsOff (Store.initial codesOfCourseOne 2)
    [(.twoCourses, .getCartForUser 5),
     (.twoCourses, .addPaidCourseRegistration 0 1 "honor" (some 40) none),
     (.twoCourses, .addPaidCourseRegistration 0 2 "honor" (some 30) none)]

/-- The cart of `twoSeats` once code 0 has discounted the seat of course 1. -/
def twoSeatsCoded : Store :=
  (RegistrationCodeRedemption.addRegCodeRedemption ⟨0, 1, 9, none, some 3⟩
    { id := 0, user := 5 }).after twoSeats

/-- Then a coupon of course 2 discounts the other seat. -/
def twoSeatsDiscounted : Store :=
  (CouponRedemption.addCouponRedemption centsOff ⟨0, "TEN", 2, 10, true⟩ { id := 0, user := 5 }
    (twoSeatsCoded.itemsOf 0)).after twoSeatsCoded

/-- The seat of course `courseId` at `unitCost` that user 5 put in `twoSeats` under key
`id`. -/
def seatOfTwoSeats (id courseId : Nat) (unitCost : Int) : OrderItem :=
  { id, order := 0, user := 5, unitCost, lineDesc := "Registration for Course: Demo",
    kind := .paidCourseRegistration courseId "honor" }

theorem reset_restores_price_after_discounts_twoSeats :
    Discounts centsOff { id := 0, user := 5 } twoSeats [0, 1] twoSeatsDiscounted ∧
    (∃ row, twoSeatsDiscounted.items 0 = some row ∧
      (row.listPrice = none ∨ row.listPrice = some 40)) ∧
    ∃ listPrice, (listPrice = none ∨ listPrice = some 40) ∧
      ((Order.resetCartItemsPrices { id := 0, user := 5 }).after twoSeatsDiscounted).items 0 =
        some { seatOfTwoSeats 0 1 40 with listPrice } := by
  have discounted : Discounts centsOff { id := 0, user := 5 } twoSeats [0, 1]
      twoSeatsDiscounted := by
    refine @Discounts.regCode centsOff _ _ twoSeatsCoded _ _ (seatOfTwoSeats 0 1 40)
      ⟨0, 1, 9, none, some 3⟩ ⟨0, 1, 9, none, some 3⟩ ?_ ?_
      (@Discounts.coupon centsOff _ twoSeatsCoded _ _ _ (seatOfTwoSeats 1 2 30)
        ⟨0, "TEN", 2, 10, true⟩ ?_ ?_ (.done _)) <;> rfl
  exact ⟨discounted, reset_restores_price_after_discounts centsOff (fun _ => by simp [centsOff])
    (reachable_invariant _ (reachable_run _ (.initial _ _) _))
    (show seatOfTwoSeats 0 1 40 ∈ twoSeats.itemsOf 0 by decide) rfl discounted (by decide)⟩

/-- User 5's cart with the seat of course 1, against the two codes of that course. -/
def seatWithTwoCodes : Store :=
  run (fun _ price => price) (Store.initial codesOfCourseOne 2) seatInCart

/-- Both codes of course 1 redeemed on the cart, then its prices reset. -/
def twoCodesThenReset : List (Services × Operation) :=
  seatInCart ++ [(.oneCourse, .addRegCodeRedemption 0 0), (.oneCourse, .addRegCodeRedemption 1 0),
    (.oneCourse, .resetCartItemsPrices 0)]

/-- The seat costs 40; the second code discounts it again, leaving list price 0, which the
reset skips: the seat stays free. -/
theorem second_code_leaves_seat_free_after_reset :
    ((run (fun _ price => price) (Store.initial codesOfCourseOne 2) seatInCart).items 0).map
      (·.unitCost) = some 40 ∧
    ((run (fun _ price => price) (Store.initial codesOfCourseOne 2)
      (twoCodesThenReset.take 4)).items 0).map (fun item => (item.unitCost, item.listPrice)) =
      some (0, some 0) ∧
    ((run (fun _ price => price) (Store.initial codesOfCourseOne 2) twoCodesThenReset).items
      0).map (·.unitCost) = some 0 := by
  decide

/-! ## Redemptions of a registration code -/

/-- The redemptions recorded for registration code `code`. -/
def Store.redemptionsOf (store : Store) (code : CodeId) : List RegistrationCodeRedemption :=
  store.registrationCodeRedemptions.filter (·.registrationCode == code)

/-- Two invoice redemptions of code 0. -/
def twoInvoiceRedemptions : List (Services × Operation) :=
  [(.oneCourse, .createInvoiceGeneratedRegistrationRedemption 0 5),
   (.oneCourse, .createInvoiceGeneratedRegistrationRedemption 0 6)]

theorem invoice_redemption_redeems_code_twice :
    ((run (fun _ price => price) (Store.initial codesOfCourseOne 2)
      twoInvoiceRedemptions).redemptionsOf 0).length = 2 := by
  decide

/-- Each registration code has at most one redemption. -/
def Store.RedeemedAtMostOnce (store : Store) : Prop :=
  ∀ code, (store.redemptionsOf code).length ≤ 1

/-- `add_reg_code_redemption` in one equation: unless the order has an item of the code's
course and the code has no redemption, it raises before writing anything. -/
theorem RegistrationCodeRedemption.addRegCodeRedemption_apply
    (courseRegCode : CourseRegistrationCode) (order : Order) (store : Store) :
    RegistrationCodeRedemption.addRegCodeRedemption courseRegCode order store =
      match (store.itemsOf order.id).find? (·.kind.courseId == some courseRegCode.courseId) with
      | none => .error .itemDoesNotExistAgainstRegCodeException store
      | some item =>
        if store.redemptionsOf courseRegCode.id = [] then
          .ok courseRegCode (Store.saveItem
            { store with registrationCodeRedemptions := store.registrationCodeRedemptions ++
              [{ registrationCode := courseRegCode.id, order := some order.id,
                 redeemedBy := order.user }] }
            { item with listPrice := some item.unitCost, unitCost := 0 })
        else .error .regCodeAlreadyExistException store := by
  simp only [RegistrationCodeRedemption.addRegCodeRedemption, bind_apply, read_apply]
  cases (store.itemsOf order.id).find? (·.kind.courseId == some courseRegCode.courseId) with
  | none => rfl
  | some item =>
    simp only [bind_apply, read_apply]
    rw [show store.registrationCodeRedemptions.filter (·.registrationCode == courseRegCode.id) =
      store.redemptionsOf courseRegCode.id from rfl]
    cases store.redemptionsOf courseRegCode.id <;> rfl

/-- `add_reg_code_redemption` raises exactly when no item of the order is in the code's
course or the code has a redemption already, and then writes nothing. Otherwise it
returns the code, records one redemption of it for the order and its user, and saves
one item, the first of the order in the code's course, with its unit cost as list price
and a unit cost of zero. -/
theorem RegistrationCodeRedemption.addRegCodeRedemption_raises_iff_unmatched_or_redeemed
    (courseRegCode : CourseRegistrationCode) (order : Order) (store : Store) :
    ((∃ error store', RegistrationCodeRedemption.addRegCodeRedemption courseRegCode order store =
        .error error store') ↔
      (∀ item ∈ store.itemsOf order.id, item.kind.courseId ≠ some courseRegCode.courseId) ∨
        store.redemptionsOf courseRegCode.id ≠ []) ∧
    (∀ error store', RegistrationCodeRedemption.addRegCodeRedemption courseRegCode order store =
      .error error store' → store' = store) ∧
    (∀ returned store', RegistrationCodeRedemption.addRegCodeRedemption courseRegCode order
      store = .ok returned store' →
      ∃ item, (store.itemsOf order.id).find? (·.kind.courseId == some courseRegCode.courseId) =
          some item ∧ returned = courseRegCode ∧
        store' = Store.saveItem
          { store with registrationCodeRedemptions := store.registrationCodeRedemptions ++
            [{ registrationCode := courseRegCode.id, order := some order.id,
               redeemedBy := order.user }] }
          { item with listPrice := some item.unitCost, unitCost := 0 }) := by
  rw [RegistrationCodeRedemption.addRegCodeRedemption_apply]
  cases found : (store.itemsOf order.id).find? (·.kind.courseId == some courseRegCode.courseId)
    with
  | none =>
    have unmatched := List.find?_eq_none.mp found
    simp only [beq_iff_eq] at unmatched
    simpa using Or.inl unmatched
  | some item =>
    have matched : ¬∀ other ∈ store.itemsOf order.id,
        other.kind.courseId ≠ some courseRegCode.courseId := fun unmatched =>
      unmatched item (List.mem_of_find?_eq_some found) (by simpa using List.find?_some found)
    by_cases unredeemed : store.redemptionsOf courseRegCode.id = [] <;> simp [unredeemed, matched]

/-- A registration code raises before writing anything. -/
theorem RegistrationCodeRedemption.addRegCodeRedemption_error
    {courseRegCode : CourseRegistrationCode} {order : Order} {error : ShoppingCartError}
    (raised : RegistrationCodeRedemption.addRegCodeRedemption courseRegCode order store =
      .error error store') : store' = store := by
  rw [RegistrationCodeRedemption.addRegCodeRedemption_apply] at raised
  split at raised
  · cases raised; rfl
  · split_ifs at raised
    cases raised; rfl

theorem RegistrationCodeRedemption.keeps_redeemedAtMostOnce_addRegCodeRedemption
    (courseRegCode : CourseRegistrationCode) (order : Order) :
    Keeps Store.RedeemedAtMostOnce
      (RegistrationCodeRedemption.addRegCodeRedemption courseRegCode order) := by
  intro store once
  cases returned : RegistrationCodeRedemption.addRegCodeRedemption courseRegCode order store with
  | error =>
    rw [after_of_error returned, RegistrationCodeRedemption.addRegCodeRedemption_error returned]
    exact once
  | ok _ store' =>
    rw [after_of_ok returned]
    obtain ⟨_, -, unredeemed, rfl⟩ :=
      RegistrationCodeRedemption.addRegCodeRedemption_ok returned
    intro code
    by_cases same : code = courseRegCode.id
    · subst same
      simp [Store.redemptionsOf, Store.saveItem, unredeemed]
    · simpa [Store.redemptionsOf, Store.saveItem, Ne.symm same] using once code

theorem RegistrationCodeRedemption.keeps_redeemedAtMostOnce_deleteRegistrationRedemption
    (user : UserId) (cart : Order) :
    Keeps Store.RedeemedAtMostOnce
      (RegistrationCodeRedemption.deleteRegistrationRedemption user cart) :=
  keeps_write fun _ once code =>
    ((((List.filter_sublist _).filter _)).length_le).trans (once code)

/-- The calls a checkout makes with registration codes: redeeming one on an order, and
undoing the redemptions of a cart. -/
def Operation.IsCheckoutRedemption : Operation → Bool
  | .addRegCodeRedemption _ _ => true
  | .deleteRegistrationRedemption _ _ => true
  | _ => false

/-- Every run of checkout redemptions keeps each registration code redeemed at most once:
`add_reg_code_redemption` refuses a code with a redemption. -/
theorem run_checkout_redemptions_redeemed_at_most_once (getDiscountPrice : Int → Int → Int)
    (once : store.RedeemedAtMostOnce) (calls : List (Services × Operation))
    (redemptions : ∀ call ∈ calls, call.2.IsCheckoutRedemption) :
    (run getDiscountPrice store calls).RedeemedAtMostOnce := by
  refine run_induction getDiscountPrice (fun ⟨services, operation⟩ member store once => ?_) once
  have redemption := redemptions _ member
  cases operation <;>
    simp only [Operation.IsCheckoutRedemption, Bool.false_eq_true] at redemption
  · exact keeps_withCode (fun courseRegCode => keeps_withOrder fun order =>
      RegistrationCodeRedemption.keeps_redeemedAtMostOnce_addRegCodeRedemption courseRegCode
        order) store once
  · exact keeps_withOrder (fun cart =>
      RegistrationCodeRedemption.keeps_redeemedAtMostOnce_deleteRegistrationRedemption _ cart)
      store once

theorem run_checkout_redemptions_redeemed_at_most_once_seat :
    (run (fun _ price => price) seatWithTwoCodes
      [(.oneCourse, .addRegCodeRedemption 0 0), (.oneCourse, .addRegCodeRedemption 0 0),
       (.oneCourse, .deleteRegistrationRedemption 5 0),
       (.oneCourse, .addRegCodeRedemption 0 0)]).RedeemedAtMostOnce :=
  run_checkout_redemptions_redeemed_at_most_once (fun _ price => price)
    (fun code => by simp [Store.redemptionsOf, show seatWithTwoCodes.registrationCodeRedemptions =
      [] from rfl]) _ (by decide)

/-! ## Coupons redeemed on one order -/

/-- A call of `add_coupon_redemption` or `delete_coupon_redemption` on an order of the
store, the row Django loads for it, with any coupon and any list of items. -/
inductive CouponCall
  | addCouponRedemption (coupon : Coupon) (order : OrderId) (cartItems : List OrderItem)
  | deleteCouponRedemption (user : UserId) (cart : OrderId)

def CouponCall.action (getDiscountPrice : Int → Int → Int) : CouponCall → Action Unit
  | .addCouponRedemption coupon order cartItems => withOrder order fun order =>
    CouponRedemption.addCouponRedemption getDiscountPrice coupon order cartItems
  | .deleteCouponRedemption user cart =>
    withOrder cart (CouponRedemption.deleteCouponRedemption user)

/-- Coupon calls, one after the other. -/
def runCouponCalls (getDiscountPrice : Int → Int → Int) (store : Store)
    (calls : List CouponCall) : Store :=
  calls.foldl (fun store call => (call.action getDiscountPrice).after store) store

/-- The coupon redemptions recorded on order `key`. -/
def Store.couponRedemptionsOf (store : Store) (key : OrderId) : List CouponRedemption :=
  store.couponRedemptions.filter (·.order == key)

/-- What the conflict check of `add_coupon_redemption` keeps: each coupon redemption was
made by the user of its order, and the coupons redeemed on one order share one code and
are pairwise distinct. -/
structure Store.CouponsAgree (store : Store) : Prop where
  byOwner : ∀ redemption ∈ store.couponRedemptions,
    ∃ order, store.orders redemption.order = some order ∧ order.user = redemption.user
  oneCode : ∀ key, ∀ redemption ∈ store.couponRedemptionsOf key,
    ∀ other ∈ store.couponRedemptionsOf key, redemption.coupon.code = other.coupon.code
  distinct : ∀ key, ((store.couponRedemptionsOf key).map (·.coupon.id)).Nodup

namespace Store.CouponsAgree

theorem of_nil (none : store.couponRedemptions = []) : store.CouponsAgree where
  byOwner := by simp [none]
  oneCode := by simp [couponRedemptionsOf, none]
  distinct := by simp [couponRedemptionsOf, none]

/-- Dropping coupon redemptions, the orders unchanged. -/
theorem sublist (agree : store.CouponsAgree)
    (kept : List.Sublist store'.couponRedemptions store.couponRedemptions)
    (orders : store'.orders = store.orders) : store'.CouponsAgree := by
  have keptOf (key : OrderId) :
      List.Sublist (store'.couponRedemptionsOf key) (store.couponRedemptionsOf key) :=
    kept.filter _
  refine ⟨fun redemption member => orders ▸ agree.byOwner redemption (kept.subset member),
    fun key redemption member other member' => ?_, fun key => ?_⟩
  · exact agree.oneCode key redemption ((keptOf key).subset member) other
      ((keptOf key).subset member')
  · exact (agree.distinct key).sublist ((keptOf key).map _)

/-- Recording a coupon on an order, by the order's user, whose code is that of every coupon
redeemed on the order and which is none of them. -/
theorem append (agree : store.CouponsAgree) {redemption : CouponRedemption} {order : Order}
    (row : store.orders redemption.order = some order) (owner : order.user = redemption.user)
    (fits : ∀ other ∈ store.couponRedemptionsOf redemption.order,
      other.coupon.code = redemption.coupon.code ∧ other.coupon.id ≠ redemption.coupon.id) :
    { store with couponRedemptions := store.couponRedemptions ++ [redemption] }.CouponsAgree := by
  have recorded (key : OrderId) :
      Store.couponRedemptionsOf
          { store with couponRedemptions := store.couponRedemptions ++ [redemption] } key =
        store.couponRedemptionsOf key ++ if redemption.order = key then [redemption] else [] := by
    by_cases here : redemption.order = key <;> simp [couponRedemptionsOf, here]
  refine ⟨fun other member => ?_, fun key first member second member' => ?_, fun key => ?_⟩
  · rcases List.mem_append.mp member with old | new
    · exact agree.byOwner other old
    · obtain rfl := List.mem_singleton.mp new
      exact ⟨order, row, owner⟩
  · rw [recorded] at member member'
    by_cases here : redemption.order = key
    · subst here
      simp only [if_true, List.mem_append, List.mem_singleton] at member member'
      rcases member with old | rfl <;> rcases member' with old' | rfl
      · exact agree.oneCode _ first old second old'
      · exact (fits first old).1
      · exact (fits second old').1.symm
      · rfl
    · simp only [here, if_false, List.append_nil] at member member'
      exact agree.oneCode key first member second member'
  · rw [recorded]
    by_cases here : redemption.order = key
    · subst here
      simp only [if_true, List.map_append, List.map_singleton]
      exact (agree.distinct _).append (List.nodup_singleton _) fun id old new => by
        obtain ⟨other, member, rfl⟩ := List.mem_map.mp old
        exact (fits other member).2 (List.mem_singleton.mp new)
    · simpa [here] using agree.distinct key

end Store.CouponsAgree

/-- `delete_coupon_redemption` drops redemptions only. -/
theorem CouponRedemption.couponsAgree_deleteCouponRedemption (user : UserId) (cart : Order)
    (agree : store.CouponsAgree) :
    ((CouponRedemption.deleteCouponRedemption user cart).after store).CouponsAgree :=
  agree.sublist (List.filter_sublist _) rfl

/-- `add_coupon_redemption` on an order of the store writes no order, and records a coupon
only when it agrees with every coupon redeemed on the order by its user, which are all
the coupons redeemed on it. -/
theorem CouponRedemption.couponsAgree_addCouponRedemption (getDiscountPrice : Int → Int → Int)
    (coupon : Coupon) {order : Order} (cartItems : List OrderItem)
    (row : store.orders order.id = some order) (agree : store.CouponsAgree) :
    let store' := (CouponRedemption.addCouponRedemption getDiscountPrice coupon order
      cartItems).after store
    store'.orders = store.orders ∧ store'.CouponsAgree := by
  unfold Action.after
  rw [CouponRedemption.addCouponRedemption_apply]
  split_ifs with conflicting
  · exact ⟨rfl, agree⟩
  cases cartItems.find? (·.kind.courseId == some coupon.courseId) with
  | none => exact ⟨rfl, agree⟩
  | some item =>
    refine ⟨rfl, ?_⟩
    refine (agree.append row rfl fun other member => ?_).sublist (List.Sublist.refl _) rfl
    obtain ⟨owner, ownerRow, sameUser⟩ := agree.byOwner other (List.mem_filter.mp member).1
    have onOrder : other.order = order.id := by simpa using (List.mem_filter.mp member).2
    rw [onOrder, row, Option.some.injEq] at ownerRow
    have noConflict := List.any_eq_false.mp (eq_false_of_ne_true conflicting) other
      (List.mem_filter.mpr ⟨(List.mem_filter.mp member).1, by simp [onOrder, ← sameUser,
        ← ownerRow]⟩)
    simpa [CouponRedemption.conflicts] using noConflict


/-- Every coupon call keeps the orders, once keyed, and the coupons agreeing. -/
theorem CouponCall.keeps_couponsAgree (getDiscountPrice : Int → Int → Int) (call : CouponCall)
    {orders : Table Order} (keyed : ∀ key order, orders key = some order → order.id = key) :
    Keeps (fun store => store.orders = orders ∧ store.CouponsAgree)
      (call.action getDiscountPrice) := by
  cases call with
  | addCouponRedemption coupon key cartItems =>
    intro store ⟨sameOrders, agree⟩
    simp only [CouponCall.action]
    cases row : store.orders key with
    | none => rw [withOrder_after_none row]; exact ⟨sameOrders, agree⟩
    | some order =>
      rw [withOrder_after_some row]
      have stored : store.orders order.id = some order := by
        rw [keyed key order (sameOrders ▸ row), row]
      obtain ⟨kept, agreeing⟩ :=
        CouponRedemption.couponsAgree_addCouponRedemption getDiscountPrice coupon cartItems
          stored agree
      exact ⟨kept.trans sameOrders, agreeing⟩
  | deleteCouponRedemption user cart =>
    exact keeps_withOrder fun cart _ ⟨sameOrders, agree⟩ =>
      ⟨sameOrders, CouponRedemption.couponsAgree_deleteCouponRedemption user cart agree⟩

/-- Along every sequence of coupon calls, with any coupons, orders and item lists, the
coupons redeemed on each order share one code and are pairwise distinct: the same coupon
is never redeemed twice on an order, nor coupons of two codes. -/
theorem run_coupon_calls_keep_one_code (getDiscountPrice : Int → Int → Int)
    (invariant : store.Invariant) (agree : store.CouponsAgree) (calls : List CouponCall) :
    (runCouponCalls getDiscountPrice store calls).CouponsAgree := by
  suffices kept : ∀ (calls : List CouponCall) (current : Store),
      current.orders = store.orders ∧ current.CouponsAgree →
      (runCouponCalls getDiscountPrice current calls).orders = store.orders ∧
        (runCouponCalls getDiscountPrice current calls).CouponsAgree from
    (kept calls store ⟨rfl, agree⟩).2
  intro calls
  induction calls with
  | nil => exact fun _ holds => holds
  | cons call calls more =>
    exact fun current holds => more _ (call.keeps_couponsAgree getDiscountPrice
      (fun key order row => (invariant.order_key key order row).1) current holds)

/-- Two coupons of code `"A"` on user 5's seat of course 1, then one of code `"B"` and the
first again. -/
def couponsOnSeat : List CouponCall :=
  [.addCouponRedemption ⟨1, "A", 1, 10, true⟩ 0 (seatWithTwoCodes.itemsOf 0),
   .addCouponRedemption ⟨2, "A", 1, 20, true⟩ 0 (seatWithTwoCodes.itemsOf 0),
   .addCouponRedemption ⟨3, "B", 1, 10, true⟩ 0 (seatWithTwoCodes.itemsOf 0),
   .addCouponRedemption ⟨1, "A", 1, 10, true⟩ 0 (seatWithTwoCodes.itemsOf 0)]

theorem run_coupon_calls_keep_one_code_couponsOnSeat :
    (runCouponCalls (fun _ price => price) seatWithTwoCodes couponsOnSeat).CouponsAgree :=
  run_coupon_calls_keep_one_code (fun _ price => price)
    (reachable_invariant _ (reachable_run _ (.initial _ _) _)) (.of_nil (by decide)) _

/-- The coupon of code `"B"` and the second redemption of coupon 1 are refused. -/
example :
    ((runCouponCalls (fun _ price => price) seatWithTwoCodes couponsOnSeat).couponRedemptionsOf
      0).map (·.coupon.id) = [1, 2] := by
  decide

end ShoppingCart
