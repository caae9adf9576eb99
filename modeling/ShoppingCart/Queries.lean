import ShoppingCart.Lifecycle

/-! # Whether a user's cart has items

`Order.user_cart_has_items`, which the views call to decide whether to show the cart, gets
the user's cart through `get_cart_for_user`, creating one when there is none, and asks it
`has_items`, of any class or of the classes asked for. In a store satisfying the invariant
it answers whether the one cart of the user holds such an item, and it changes the store as
`get_cart_for_user` does.
-/

namespace ShoppingCart

/-- The classes `has_items` may be asked about: `OrderItem` and its subclasses. -/
inductive ItemClass
  | orderItem
  | paidCourseRegistration
  | courseRegCodeItem
  | certificateItem
  | donation
  deriving DecidableEq, Repr

/-- `isinstance(item, item_type)` for an item whose subclass row is `kind`. -/
def ItemClass.isInstance : ItemClass → ItemKind → Bool
  | .orderItem, _ => true
  | .paidCourseRegistration, .paidCourseRegistration _ _ => true
  | .courseRegCodeItem, .courseRegCodeItem _ _ => true
  | .certificateItem, .certificateItem _ _ _ => true
  | .donation, .donation _ _ => true
  | _, _ => false

namespace Order

/-- `Order.has_items`: whether the order has an item at all (`none`), or one of the class
asked for. -/
def hasItems (store : Store) (self : Order) : Option ItemClass → Bool
  | none => !(store.itemsOf self.id).isEmpty
  | some itemType => (store.itemsOf self.id).any (itemType.isInstance ·.kind)

/-- `Order.user_cart_has_items`. An anonymous user is `none`; no `item_types`, like an
empty list, asks for an item of any class. -/
def userCartHasItems (user : Option UserId) (itemTypes : List ItemClass) : Action Bool :=
  match user with
  | none => pure false
  | some user => do
    let cart ← getCartForUser user
    if itemTypes.isEmpty then Action.read (hasItems · cart none)
    else Action.read fun store => itemTypes.any fun itemType => hasItems store cart itemType

/-- What the cart answers: whether it holds an item of one of the classes, or any item
when none is asked for. -/
theorem hasItems_answer (store : Store) (cart : Order) (itemTypes : List ItemClass) :
    (if itemTypes.isEmpty then hasItems store cart none
      else itemTypes.any fun itemType => hasItems store cart itemType) = true ↔
      ∃ item ∈ store.itemsOf cart.id,
        itemTypes = [] ∨ ∃ itemType ∈ itemTypes, itemType.isInstance item.kind := by
  cases itemTypes with
  | nil => simp [hasItems, List.isEmpty_iff, List.eq_nil_iff_forall_not_mem]
  | cons itemType itemTypes =>
    simp only [List.isEmpty_cons, Bool.false_eq_true, ↓reduceIte, hasItems, List.any_eq_true,
      reduceCtorEq, false_or]
    exact ⟨fun ⟨kind, chosen, item, member, found⟩ => ⟨item, member, kind, chosen, found⟩,
      fun ⟨item, member, kind, chosen, found⟩ => ⟨kind, chosen, item, member, found⟩⟩

end Order

/-- A cart created for a user holds no item: every item is on an order created before. -/
theorem Store.Invariant.itemsOf_nextOrderId {store : Store} (invariant : store.Invariant) :
    store.itemsOf store.nextOrderId = [] :=
  List.eq_nil_iff_forall_not_mem.mpr fun item member => by
    obtain ⟨⟨key, -, row⟩, onOrder⟩ := Store.mem_itemsOf.mp member
    exact absurd onOrder (invariant.item_key key item row).2.2.ne

/-- In a store satisfying the invariant, `user_cart_has_items` always returns, changes the
store as `get_cart_for_user` does, and answers whether the user has a cart holding an item
of one of the classes asked for, or any item when none is. -/
theorem userCartHasItems_iff_cart_holds {store : Store} (invariant : store.Invariant)
    (user : Option UserId) (itemTypes : List ItemClass) :
    ∃ answer store', Order.userCartHasItems user itemTypes store = .ok answer store' ∧
      store' = (match user with
        | none => store
        | some user => (Order.getCartForUser user).after store) ∧
      (answer = true ↔ ∃ user' key cart, user = some user' ∧ store.orders key = some cart ∧
        cart.user = user' ∧ cart.status = .cart ∧ ∃ item ∈ store.itemsOf cart.id,
          itemTypes = [] ∨ ∃ itemType ∈ itemTypes, itemType.isInstance item.kind) := by
  cases user with
  | none => exact ⟨false, store, rfl, rfl, by simp⟩
  | some user =>
    have answered : ∀ cart store', (if itemTypes.isEmpty then
        Action.read (Order.hasItems · cart none)
        else Action.read fun store => itemTypes.any fun itemType =>
          Order.hasItems store cart itemType) store' =
        .ok (if itemTypes.isEmpty then Order.hasItems store' cart none
          else itemTypes.any fun itemType => Order.hasItems store' cart itemType) store' :=
      fun _ _ => by cases itemTypes.isEmpty <;> rfl
    simp only [Order.userCartHasItems, Action.bind_apply, Action.after,
      Order.getCartForUser_apply]
    cases found : (store.orders.rows store.nextOrderId).reverse.find? (Order.isCartOf user) with
    | some cart =>
      obtain ⟨key, row, owned, isCart⟩ := stored_of_find?_isCartOf found
      refine ⟨_, store, answered cart store, rfl,
        (Order.hasItems_answer store cart itemTypes).trans
          ⟨fun holds => ⟨user, key, cart, rfl, row, owned, isCart, holds⟩, ?_⟩⟩
      rintro ⟨_, key', cart', ⟨⟩, row', owned', isCart', holds⟩
      obtain rfl := invariant.one_cart_per_user key key' cart cart' row row'
        (owned.trans owned'.symm) isCart isCart'
      obtain rfl : cart' = cart := Option.some.inj (row'.symm.trans row)
      exact holds
    | none =>
      refine ⟨_, _, answered _ _, rfl, (Order.hasItems_answer _ _ itemTypes).trans ⟨?_, ?_⟩⟩
      · rintro ⟨item, member, -⟩
        have member : item ∈ store.itemsOf store.nextOrderId := member
        rw [invariant.itemsOf_nextOrderId] at member
        cases member
      · rintro ⟨_, key, cart, ⟨⟩, row, owned, isCart, -⟩
        rw [find?_isCartOf_of_invariant invariant row owned isCart] at found
        cases found

theorem userCartHasItems_iff_cart_holds_seatInCart :
    ∃ answer store', Order.userCartHasItems (some 5) [.paidCourseRegistration]
        (run (fun _ price => price) (Store.initial (fun _ => none) 0) seatInCart) =
        .ok answer store' ∧
      store' = (Order.getCartForUser 5).after
        (run (fun _ price => price) (Store.initial (fun _ => none) 0) seatInCart) ∧
      (answer = true ↔ ∃ user' key cart, some 5 = some user' ∧
        (run (fun _ price => price) (Store.initial (fun _ => none) 0) seatInCart).orders key =
          some cart ∧ cart.user = user' ∧ cart.status = .cart ∧
        ∃ item ∈
          (run (fun _ price => price) (Store.initial (fun _ => none) 0) seatInCart).itemsOf
            cart.id, [ItemClass.paidCourseRegistration] = [] ∨
            ∃ itemType ∈ [ItemClass.paidCourseRegistration], itemType.isInstance item.kind) :=
  userCartHasItems_iff_cart_holds (reachable_invariant _ (reachable_run _ (.initial _ _) _))
    (some 5) [.paidCourseRegistration]

/-- User 5's cart holds a seat but no donation. -/
example : (match Order.userCartHasItems (some 5) [.donation, .paidCourseRegistration]
      (run (fun _ price => price) (Store.initial (fun _ => none) 0) seatInCart),
    Order.userCartHasItems (some 5) [.donation]
      (run (fun _ price => price) (Store.initial (fun _ => none) 0) seatInCart) with
    | .ok seat _, .ok donation _ => (seat, donation)
    | _, _ => (false, true)) = (true, false) := by decide

end ShoppingCart
