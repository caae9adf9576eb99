import ShoppingCart.Preservation

/-! # Carts, totals and refunds

What the invariant gives the callers of the module: the total of a cart or of an order
being paid counts all its items, a user has at most one cart, the one
`get_cart_for_user` returns, and an order that has left the cart never returns to it. Then
what a certificate refund leaves: the order is `refunded`, a status the guard of `purchase`
does not stop, so the next `purchase` marks it purchased again and runs the fulfilment of
every item a second time, while the items the refund does not name stay `purchased` on a
`refunded` order. Without a refund in between, a second `purchase` writes nothing, and
along every run without a refund no item is fulfilled twice.
-/

namespace ShoppingCart

variable (getDiscountPrice : Int → Int → Int) {store : Store}

/-! ## Totals and carts -/

/-- In every reachable store, the total of a cart or of an order being paid is the sum of
the line costs of all its items: none is left out for a status other than its order's. -/
theorem totalCost_eq_sum_of_open (reachable : Reachable getDiscountPrice store)
    {key : OrderId} {order : Order} (row : store.orders key = some order)
    (opened : order.status = .cart ∨ order.status = .paying) :
    Order.totalCost store order = ((store.itemsOf order.id).map OrderItem.lineCost).sum := by
  have invariant := reachable_invariant getDiscountPrice reachable
  have keyed := (invariant.order_key key order row).1
  rw [Order.totalCost, List.filter_eq_self.mpr]
  intro item member
  obtain ⟨⟨itemKey, -, stored⟩, onOrder⟩ := Store.mem_itemsOf.mp member
  have follows := invariant.items_follow_open_orders itemKey item order stored
    (by rw [onOrder, keyed]; exact row) opened
  simp [follows]

theorem totalCost_eq_sum_of_open_seatInCart :
    Order.totalCost (run (fun _ price => price) (Store.initial (fun _ => none) 0) seatInCart)
        { id := 0, user := 5 } =
      (((run (fun _ price => price) (Store.initial (fun _ => none) 0) seatInCart).itemsOf
        0).map OrderItem.lineCost).sum :=
  totalCost_eq_sum_of_open (fun _ price => price) (reachable_run _ (.initial _ _) _)
    (show (run (fun _ price => price) (Store.initial (fun _ => none) 0) seatInCart).orders 0 =
      some { id := 0, user := 5 } by decide) (.inl rfl)

/-- What `get_cart_for_user`'s query finds is a cart of `user` stored under some key. -/
theorem stored_of_find?_isCartOf {user : UserId} {cart : Order}
    (found : (store.orders.rows store.nextOrderId).reverse.find? (Order.isCartOf user) =
      some cart) :
    ∃ key, store.orders key = some cart ∧ cart.user = user ∧ cart.status = .cart := by
  have picked := List.find?_some found
  simp only [Order.isCartOf, Bool.and_eq_true, beq_iff_eq] at picked
  obtain ⟨key, -, row⟩ :=
    Table.mem_rows.mp (List.mem_reverse.mp (List.mem_of_find?_eq_some found))
  exact ⟨key, row, picked⟩

/-- A cart of `user` stored under some key is found by `get_cart_for_user`'s query. -/
theorem find?_isCartOf_of_invariant (invariant : store.Invariant) {user : UserId} {key : OrderId}
    {cart : Order} (row : store.orders key = some cart) (owned : cart.user = user)
    (isCart : cart.status = .cart) :
    (store.orders.rows store.nextOrderId).reverse.find? (Order.isCartOf user) = some cart := by
  cases found : (store.orders.rows store.nextOrderId).reverse.find? (Order.isCartOf user) with
  | none =>
    have member : cart ∈ (store.orders.rows store.nextOrderId).reverse :=
      List.mem_reverse.mpr (Table.mem_rows.mpr ⟨key, (invariant.order_key key cart row).2, row⟩)
    simpa [Order.isCartOf, owned, isCart] using List.find?_eq_none.mp found cart member
  | some other =>
    obtain ⟨otherKey, otherRow, ownedOther, isCartOther⟩ := stored_of_find?_isCartOf found
    obtain rfl := invariant.one_cart_per_user otherKey key other cart otherRow row
      (ownedOther.trans owned.symm) isCartOther isCart
    exact otherRow.symm.trans row

/-- In every reachable store each user has at most one cart; `get_cart_for_user` returns
it, writing nothing, when there is one, and creates a cart under the next key only when
the user has none. -/
theorem getCartForUser_returns_only_cart (reachable : Reachable getDiscountPrice store)
    (user : UserId) :
    (∀ key key' cart cart', store.orders key = some cart → store.orders key' = some cart' →
      cart.user = user → cart'.user = user → cart.status = .cart → cart'.status = .cart →
      key = key') ∧
    (∀ key cart, store.orders key = some cart → cart.user = user → cart.status = .cart →
      Order.getCartForUser user store = .ok cart store) ∧
    ((∀ key order, store.orders key = some order → order.user = user →
      order.status ≠ .cart) →
      Order.getCartForUser user store =
        .ok { id := store.nextOrderId, user } (store.createOrder fun id => { id, user })) := by
  have invariant := reachable_invariant getDiscountPrice reachable
  refine ⟨fun key key' cart cart' row row' owned owned' isCart isCart' =>
    invariant.one_cart_per_user key key' cart cart' row row' (owned.trans owned'.symm) isCart
      isCart', fun key cart row owned isCart => ?_, fun noCart => ?_⟩
  · rw [Order.getCartForUser_apply, find?_isCartOf_of_invariant invariant row owned isCart]
  · rw [Order.getCartForUser_apply]
    cases found : (store.orders.rows store.nextOrderId).reverse.find? (Order.isCartOf user) with
    | none => rfl
    | some other =>
      obtain ⟨otherKey, otherRow, owned, isCart⟩ := stored_of_find?_isCartOf found
      exact absurd isCart (noCart otherKey other otherRow owned)

theorem getCartForUser_returns_only_cart_seatInCart :
    (∀ key key' cart cart',
      (run (fun _ price => price) (Store.initial (fun _ => none) 0) seatInCart).orders key =
        some cart →
      (run (fun _ price => price) (Store.initial (fun _ => none) 0) seatInCart).orders key' =
        some cart' →
      cart.user = 5 → cart'.user = 5 → cart.status = .cart → cart'.status = .cart →
      key = key') ∧
    (∀ key cart,
      (run (fun _ price => price) (Store.initial (fun _ => none) 0) seatInCart).orders key =
        some cart → cart.user = 5 → cart.status = .cart →
      Order.getCartForUser 5 (run (fun _ price => price) (Store.initial (fun _ => none) 0)
        seatInCart) =
        .ok cart (run (fun _ price => price) (Store.initial (fun _ => none) 0) seatInCart)) ∧
    ((∀ key order,
      (run (fun _ price => price) (Store.initial (fun _ => none) 0) seatInCart).orders key =
        some order → order.user = 5 → order.status ≠ .cart) →
      Order.getCartForUser 5 (run (fun _ price => price) (Store.initial (fun _ => none) 0)
        seatInCart) =
        .ok { id := (run (fun _ price => price) (Store.initial (fun _ => none) 0)
          seatInCart).nextOrderId, user := 5 }
          ((run (fun _ price => price) (Store.initial (fun _ => none) 0) seatInCart).createOrder
            fun id => { id, user := 5 })) :=
  getCartForUser_returns_only_cart (fun _ price => price) (reachable_run _ (.initial _ _) _) 5

/-! ## Orders never return to the cart -/

/-- Along every run from a store satisfying the invariant, each of its orders stays stored
under its key for the same user, and its status moves only as `OrderStatus.Moves` allows (a
cart to `paying`, any order to `purchased` or `refunded`): an order that has left `cart`
never returns to it. -/
theorem run_never_returns_order_to_cart (invariant : store.Invariant)
    (calls : List (Services × Operation)) {key : OrderId} {order : Order}
    (row : store.orders key = some order) :
    ∃ order', (run getDiscountPrice store calls).orders key = some order' ∧
      order'.user = order.user ∧ order.status.Moves order'.status ∧
      (order.status ≠ .cart → order'.status ≠ .cart) := by
  obtain ⟨order', stored, sameUser, moved⟩ :=
    (run_follows getDiscountPrice invariant calls).moves key order row
  exact ⟨order', stored, sameUser, moved, moved.ne_cart⟩

/-- User 5's cart, its purchase started. -/
def seatBeingPaid : List (Services × Operation) :=
  seatInCart ++ [(.oneCourse, .startPurchase 0)]

theorem run_never_returns_order_to_cart_seatBeingPaid :
    ∃ order', (run (fun _ price => price)
        (run (fun _ price => price) (Store.initial (fun _ => none) 0) seatBeingPaid)
        [(.oneCourse, .purchase 0 {}), (.oneCourse, .getCartForUser 5)]).orders 0 = some order' ∧
      order'.user = 5 ∧ OrderStatus.paying.Moves order'.status ∧
      (OrderStatus.paying ≠ .cart → order'.status ≠ .cart) :=
  run_never_returns_order_to_cart (fun _ price => price)
    (reachable_invariant _ (reachable_run _ (.initial _ _) _)) _
    (show (run (fun _ price => price) (Store.initial (fun _ => none) 0) seatBeingPaid).orders 0 =
      some { id := 0, user := 5, status := .paying } by decide)

/-! ## A refund reopens fulfilment -/

/-- User 5 buys the verified certificate of course 1 and a donation in one order, then
unenrolls with a refund. -/
def refundedCertificate : List (Services × Operation) :=
  [(.oneCourse, .getCartForUser 5),
   (.oneCourse, .addCertificateItem 0 1 50 "verified" "usd"),
   (.oneCourse, .addDonation 0 10 none "usd"),
   (.oneCourse, .purchase 0 {}),
   (.oneCourse, .refundCertCallback ⟨5, 1, true⟩)]

/-- The refund marks the certificate and the order `refunded`, and leaves the donation
`purchased`. -/
theorem refund_leaves_purchased_item_on_refunded_order :
    ((run (fun _ price => price) (Store.initial (fun _ => none) 0) refundedCertificate).orders
      0).map (·.status) = some .refunded ∧
    ((run (fun _ price => price) (Store.initial (fun _ => none) 0) refundedCertificate).items
      1).map (fun item => (item.order, item.status)) = some (0, .purchased) := by
  decide

/-- A second `purchase` of the refunded order marks it purchased again. -/
theorem purchase_moves_refunded_order_back :
    ((run (fun _ price => price) (Store.initial (fun _ => none) 0) refundedCertificate).orders
      0).map (·.status) = some .refunded ∧
    ((run (fun _ price => price) (Store.initial (fun _ => none) 0)
      (refundedCertificate ++ [(.oneCourse, .purchase 0 {})])).orders 0).map (·.status) =
      some .purchased := by
  decide

/-- ... and runs the fulfilment of both items a second time. -/
theorem repurchase_after_refund_fulfils_again :
    (run (fun _ price => price) (Store.initial (fun _ => none) 0)
      (refundedCertificate ++ [(.oneCourse, .purchase 0 {})])).fulfilments = [0, 1, 0, 1] := by
  decide

/-! ## A second purchase without a refund -/

/-- A second `purchase` of an order, with any services and billing details, writes
nothing: the first left the order `purchased`, whether its fulfilment returned or raised. -/
theorem second_purchase_writes_nothing (invariant : store.Invariant) (key : OrderId)
    (services services' : Services) (billTo billTo' : BillTo) :
    step getDiscountPrice (step getDiscountPrice store (services, .purchase key billTo))
        (services', .purchase key billTo') =
      step getDiscountPrice store (services, .purchase key billTo) := by
  simp only [step, Operation.action]
  cases row : store.orders key with
  | none => rw [withOrder_after_none row, withOrder_after_none row]
  | some self =>
    have keyed := (invariant.order_key key self row).1
    obtain ⟨-, old, closed, purchased⟩ :=
      Order.purchase_hasOrderAt services billTo (invariant.tracks (keyed ▸ row))
    rw [keyed] at closed
    rw [withOrder_after_some row, withOrder_after_some closed]
    simp [Order.purchase, purchased]

theorem second_purchase_writes_nothing_refundedCertificate :
    step (fun _ price => price)
        (step (fun _ price => price)
          (run (fun _ price => price) (Store.initial (fun _ => none) 0)
            (refundedCertificate.take 3)) (.oneCourse, .purchase 0 {}))
        (.oneCourse, .purchase 0 {}) =
      step (fun _ price => price)
        (run (fun _ price => price) (Store.initial (fun _ => none) 0)
          (refundedCertificate.take 3)) (.oneCourse, .purchase 0 {}) :=
  second_purchase_writes_nothing (fun _ price => price)
    (reachable_invariant _ (reachable_run _ (.initial _ _) _)) 0 .oneCourse .oneCourse {} {}

/-! ## Without a refund, every item is fulfilled at most once -/

/-- From a store where every item was fulfilled at most once, every sequence of calls
without a refund fulfils every item at most once: `purchase` fulfils only the items of an
order it finds not purchased, and only a refund takes that mark off an order whose items
were fulfilled. -/
theorem run_without_refund_fulfils_once (invariant : store.Invariant)
    (fulfilled : store.FulfilledOnce) (calls : List (Services × Operation))
    (noRefund : ∀ call ∈ calls, call.2.IsRefund = false) :
    (run getDiscountPrice store calls).fulfilments.Nodup :=
  (@run_induction getDiscountPrice (fun store => store.Invariant ∧ store.FulfilledOnce) calls
    (fun call member _ ⟨invariant, fulfilled⟩ =>
      have since := step_since getDiscountPrice call (noRefund call member) invariant
      ⟨since.invariant, since.fulfilled fulfilled⟩) store ⟨invariant, fulfilled⟩).2.nodup

/-- The order of `refundedCertificate` purchased twice, with no refund in between. -/
theorem run_without_refund_fulfils_once_purchasedTwice :
    (run (fun _ price => price) (Store.initial (fun _ => none) 0)
      (refundedCertificate.take 4 ++ [(.oneCourse, .purchase 0 {})])).fulfilments.Nodup :=
  run_without_refund_fulfils_once _ (initial_invariant _ _) (initial_fulfilledOnce _ _) _
    (by decide)

/-! ## Free enrollment reads no total -/

end ShoppingCart
