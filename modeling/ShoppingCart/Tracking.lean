import ShoppingCart.Invariant

/-! # What the calls leave of the store they started from

Besides the invariant, three facts follow a store through the calls. Every order stays
under its key for the same user, its status moved only as the module moves statuses
(`Store.OrdersMove`). Every item shares its order's currency unless it is a donation
(`Store.CurrenciesAgree`): `Donation.add_to_order` checks the currency but, unlike the other
factories, writes none on the order. Every item is fulfilled at most once, and a fulfilled
item sits on a purchased order (`Store.FulfilledOnce`); only a refund breaks this.
`Store.Since` bundles them with the invariant for the calls other than a refund, and
`Store.Follows` all but the fulfilments for every call; `Store.Tracks` adds the caller's
copy of an order, `Store.Frames` the store a loop over an order's items started from.
-/

namespace ShoppingCart

/-! ## Orders over a run -/

/-- The status changes the module makes to a stored order: `start_purchase` moves a cart
to `paying`, `purchase` and `free_user_enrollment` mark an order `purchased`, and a refund
marks it `refunded`. -/
def OrderStatus.Moves (old new : OrderStatus) : Prop :=
  new = old ∨ (old = .cart ∧ new = .paying) ∨ new = .purchased ∨ new = .refunded

namespace OrderStatus.Moves

theorem refl (status : OrderStatus) : status.Moves status := Or.inl rfl

theorem trans {old middle new : OrderStatus} (first : old.Moves middle)
    (second : middle.Moves new) : old.Moves new := by
  rcases second with rfl | ⟨rfl, rfl⟩ | rfl | rfl
  · exact first
  · rcases first with rfl | ⟨rfl, -⟩ | impossible | impossible
    · exact Or.inr (Or.inl ⟨rfl, rfl⟩)
    · exact Or.inr (Or.inl ⟨rfl, rfl⟩)
    all_goals cases impossible
  · exact Or.inr (Or.inr (Or.inl rfl))
  · exact Or.inr (Or.inr (Or.inr rfl))

theorem of_not_isOpen {old new : OrderStatus} (closed : ¬new.IsOpen) : old.Moves new := by
  cases new <;> simp_all [OrderStatus.IsOpen, OrderStatus.Moves]

/-- An order that has left `cart` never returns to it. -/
theorem ne_cart {old new : OrderStatus} (moved : old.Moves new) (left : old ≠ .cart) :
    new ≠ .cart := by
  rcases moved with rfl | ⟨rfl, -⟩ | rfl | rfl
  · exact left
  · exact absurd rfl left
  all_goals decide

end OrderStatus.Moves

/-- Every order of `store` is still stored in `store'` under its key, for the same user,
its status moved as the module moves statuses. -/
def Store.OrdersMove (store store' : Store) : Prop :=
  ∀ key order, store.orders key = some order →
    ∃ order', store'.orders key = some order' ∧ order'.user = order.user ∧
      order.status.Moves order'.status

namespace Store.OrdersMove

variable {store store' : Store}

theorem refl (store : Store) : store.OrdersMove store :=
  fun _ order row => ⟨order, row, rfl, .refl _⟩

theorem trans {store'' : Store} (first : store.OrdersMove store')
    (second : store'.OrdersMove store'') : store.OrdersMove store'' := fun key order row =>
  let ⟨middle, middleRow, middleUser, middleMoves⟩ := first key order row
  let ⟨last, lastRow, lastUser, lastMoves⟩ := second key middle middleRow
  ⟨last, lastRow, lastUser.trans middleUser, middleMoves.trans lastMoves⟩

theorem of_orders {base : Store} (moves : base.OrdersMove store)
    (orders : store'.orders = store.orders) : base.OrdersMove store' := by
  unfold Store.OrdersMove
  rw [orders]
  exact moves

/-- Saving an order over its own row, for the same user, at a status the module moves it to. -/
theorem saveOrder {order old : Order} (row : store.orders order.id = some old)
    (user : order.user = old.user) (status : old.status.Moves order.status) :
    store.OrdersMove (store.saveOrder order) := by
  intro key saved stored
  by_cases here : key = order.id
  · subst here
    rw [row, Option.some.injEq] at stored
    subst stored
    exact ⟨order, by simp [Store.saveOrder], user, status⟩
  · exact ⟨saved, by simp [Store.saveOrder, here, stored], rfl, .refl _⟩

/-- Inserting an order under the next free key leaves the others alone. -/
theorem createOrder (invariant : store.Invariant) (make : OrderId → Order) :
    store.OrdersMove (store.createOrder make) := fun key saved stored =>
  ⟨saved, by simp [Store.createOrder, Nat.ne_of_lt (invariant.order_key key saved stored).2,
    stored], rfl, .refl _⟩

end Store.OrdersMove

/-! ## Currencies -/

/-- A donation line, of either type. -/
def ItemKind.isDonation : ItemKind → Bool
  | .donation _ _ => true
  | _ => false

theorem ItemKind.isDonation_iff {kind : ItemKind} :
    kind.isDonation ↔ ∃ donationType courseId, kind = .donation donationType courseId := by
  cases kind <;> simp [ItemKind.isDonation]

/-- Every item shares the currency of its order, donations apart. -/
def Store.CurrenciesAgree (store : Store) : Prop :=
  ∀ key item order, store.items key = some item → store.orders item.order = some order →
    item.currency = order.currency ∨ item.kind.isDonation

namespace Store.CurrenciesAgree

variable {store : Store}

/-- Writes outside the order and item tables and the fulfilment log. -/
theorem of_lifecycle (agree : store.CurrenciesAgree) {store' : Store}
    (same : store'.lifecycle = store.lifecycle) : store'.CurrenciesAgree := by
  simp only [Store.lifecycle, Prod.mk.injEq] at same
  unfold Store.CurrenciesAgree
  rw [same.1, same.2.2.1]
  exact agree

/-- Saving an item that shares the currency of its order, or is a donation. -/
theorem saveItem (agree : store.CurrenciesAgree) (item : OrderItem)
    (agrees : ∀ order, store.orders item.order = some order →
      item.currency = order.currency ∨ item.kind.isDonation) :
    (store.saveItem item).CurrenciesAgree := by
  intro key row order stored ordered
  rcases Table.set_eq_some.mp stored with ⟨-, rfl⟩ | ⟨-, stored⟩
  · exact agrees order ordered
  · exact agree key row order stored ordered

theorem createItem (agree : store.CurrenciesAgree) (make : ItemId → OrderItem)
    (agrees : ∀ order, store.orders (make store.nextItemId).order = some order →
      (make store.nextItemId).currency = order.currency ∨
        (make store.nextItemId).kind.isDonation) :
    (store.createItem make).CurrenciesAgree := by
  intro key row order stored ordered
  rcases Table.set_eq_some.mp stored with ⟨-, rfl⟩ | ⟨-, stored⟩
  · exact agrees order ordered
  · exact agree key row order stored ordered

theorem deleteItem (agree : store.CurrenciesAgree) (item : OrderItem) :
    (store.deleteItem item).CurrenciesAgree := fun key row order stored =>
  agree key row order (Table.erase_eq_some.mp stored).2

theorem deleteItemsOf (agree : store.CurrenciesAgree) (key : OrderId) :
    { store with
      items := fun other => (store.items other).filter (·.order != key) }.CurrenciesAgree :=
  fun other row order stored => agree other row order (Option.filter_eq_some.mp stored).1

/-- Saving an order over its row with the row's currency. -/
theorem saveOrder (agree : store.CurrenciesAgree) (order : Order) {old : Order}
    (row : store.orders order.id = some old) (currency : order.currency = old.currency) :
    (store.saveOrder order).CurrenciesAgree := by
  intro key item saved stored ordered
  rcases Table.set_eq_some.mp ordered with ⟨here, rfl⟩ | ⟨-, ordered⟩
  · rw [currency]
    exact agree key item old stored (here ▸ row)
  · exact agree key item saved stored ordered

theorem createOrder (agree : store.CurrenciesAgree) (invariant : store.Invariant)
    (make : OrderId → Order) : (store.createOrder make).CurrenciesAgree := by
  intro key item order stored ordered
  rcases Table.set_eq_some.mp ordered with ⟨here, -⟩ | ⟨-, ordered⟩
  · exact absurd here (Nat.ne_of_lt (invariant.item_key key item stored).2.2)
  · exact agree key item order stored ordered

theorem markItemsOf (agree : store.CurrenciesAgree) (key : OrderId) (status : OrderStatus) :
    (store.markItemsOf key status).CurrenciesAgree := by
  intro other item order stored ordered
  obtain ⟨row, kept, rfl⟩ := Option.map_eq_some'.mp stored
  change store.orders _ = _ at ordered
  by_cases here : row.order = key <;> simp only [here, if_true, if_false] at ordered ⊢
  · exact agree other row order kept (by rwa [here])
  · exact agree other row order kept ordered

/-- Inserting an item on order `order` and writing the item's currency on the order, which
the currency check allows when the order has no items or already has that currency: what a
seat or certificate factory does. -/
theorem createItem_saveOrder (agree : store.CurrenciesAgree) (invariant : store.Invariant)
    {order : Order} (row : store.orders order.id = some order) (item : OrderItem)
    (onOrder : item.order = order.id)
    (allowed : order.currency = item.currency ∨ store.itemsOf order.id = []) :
    ((store.createItem fun _ => item).saveOrder
      { order with currency := item.currency }).CurrenciesAgree := by
  intro key current saved stored ordered
  rcases Table.set_eq_some.mp stored with ⟨-, rfl⟩ | ⟨-, stored⟩
  · rcases Table.set_eq_some.mp ordered with ⟨-, rfl⟩ | ⟨elsewhere, -⟩
    · exact Or.inl rfl
    · exact absurd onOrder elsewhere
  · rcases Table.set_eq_some.mp ordered with ⟨here, rfl⟩ | ⟨-, ordered⟩
    · rcases allowed with same | empty
      · show current.currency = item.currency ∨ _
        rw [← same]
        exact agree key current order stored (here ▸ row)
      · have member : current ∈ store.itemsOf order.id := Store.mem_itemsOf.mpr
          ⟨⟨key, (invariant.item_key key current stored).2.1, stored⟩, here⟩
        rw [empty] at member
        exact absurd member (List.not_mem_nil _)
    · exact agree key current saved stored ordered

end Store.CurrenciesAgree

/-! ## Fulfilments -/

/-- Every logged fulfilment names a key in use, no key is logged twice, and an item that was
fulfilled and is still stored sits on a purchased order. -/
structure Store.FulfilledOnce (store : Store) : Prop where
  nodup : store.fulfilments.Nodup
  key_lt : ∀ key ∈ store.fulfilments, key < store.nextItemId
  purchased : ∀ key ∈ store.fulfilments, ∀ item, store.items key = some item →
    ∃ order, store.orders item.order = some order ∧ order.status = .purchased

/-- Every fulfilment names a key in use, and no item of order `key` is fulfilled: what
`purchase` needs of the order it is about to fulfil. -/
def Store.Unfulfilled (store : Store) (key : OrderId) : Prop :=
  (∀ logged ∈ store.fulfilments, logged < store.nextItemId) ∧
    ∀ item ∈ store.itemsOf key, item.id ∉ store.fulfilments

/-- The items of an order have distinct keys. -/
theorem Store.Invariant.nodup_ids_itemsOf {store : Store} (invariant : store.Invariant)
    (key : OrderId) : ((store.itemsOf key).map (·.id)).Nodup := by
  refine List.Nodup.sublist ((List.filter_sublist _).map _) ?_
  rw [Table.rows, List.map_filterMap]
  refine (List.nodup_range _).filterMap fun slot slot' logged stored stored' => ?_
  obtain ⟨item, kept, rfl⟩ := Option.map_eq_some'.mp stored
  obtain ⟨item', kept', same⟩ := Option.map_eq_some'.mp stored'
  rw [← (invariant.item_key slot item kept).1, ← (invariant.item_key slot' item' kept').1, same]

namespace Store.FulfilledOnce

variable {store : Store}

/-- Writes outside the order and item tables and the fulfilment log. -/
theorem of_lifecycle (fulfilled : store.FulfilledOnce) {store' : Store}
    (same : store'.lifecycle = store.lifecycle) : store'.FulfilledOnce := by
  simp only [Store.lifecycle, Prod.mk.injEq] at same
  obtain ⟨orders, -, items, nextItemId, log⟩ := same
  refine ⟨?_, ?_, ?_⟩
  · rw [log]; exact fulfilled.nodup
  · rw [log, nextItemId]; exact fulfilled.key_lt
  · rw [log, items, orders]; exact fulfilled.purchased

/-- Saving an item; if its key was fulfilled, the item is on a purchased order. -/
theorem saveItem (fulfilled : store.FulfilledOnce) (item : OrderItem)
    (follows : item.id ∈ store.fulfilments →
      ∃ order, store.orders item.order = some order ∧ order.status = .purchased) :
    (store.saveItem item).FulfilledOnce := by
  refine ⟨fulfilled.nodup, fulfilled.key_lt, fun key logged row stored => ?_⟩
  rcases Table.set_eq_some.mp stored with ⟨rfl, rfl⟩ | ⟨-, stored⟩
  · exact follows logged
  · exact fulfilled.purchased key logged row stored

/-- Saving an item over a stored row, on the row's order. -/
theorem saveItem_over (fulfilled : store.FulfilledOnce) {item saved : OrderItem}
    (stored : store.items saved.id = some item) (sameOrder : saved.order = item.order) :
    (store.saveItem saved).FulfilledOnce :=
  fulfilled.saveItem saved fun logged => by
    rw [sameOrder]
    exact fulfilled.purchased _ logged item stored

theorem createItem (fulfilled : store.FulfilledOnce) (make : ItemId → OrderItem) :
    (store.createItem make).FulfilledOnce := by
  refine ⟨fulfilled.nodup, fun key logged => Nat.lt_succ_of_lt (fulfilled.key_lt key logged),
    fun key logged row stored => ?_⟩
  rcases Table.set_eq_some.mp stored with ⟨rfl, -⟩ | ⟨-, stored⟩
  · exact absurd (fulfilled.key_lt _ logged) (Nat.lt_irrefl _)
  · exact fulfilled.purchased key logged row stored

theorem deleteItem (fulfilled : store.FulfilledOnce) (item : OrderItem) :
    (store.deleteItem item).FulfilledOnce :=
  ⟨fulfilled.nodup, fulfilled.key_lt, fun key logged row stored =>
    fulfilled.purchased key logged row (Table.erase_eq_some.mp stored).2⟩

theorem deleteItemsOf (fulfilled : store.FulfilledOnce) (key : OrderId) :
    { store with
      items := fun other => (store.items other).filter (·.order != key) }.FulfilledOnce :=
  ⟨fulfilled.nodup, fulfilled.key_lt, fun other logged row stored =>
    fulfilled.purchased other logged row (Option.filter_eq_some.mp stored).1⟩

theorem markItemsOf (fulfilled : store.FulfilledOnce) (key : OrderId) (status : OrderStatus) :
    (store.markItemsOf key status).FulfilledOnce := by
  refine ⟨fulfilled.nodup, fulfilled.key_lt, fun other logged item stored => ?_⟩
  obtain ⟨row, kept, rfl⟩ := Option.map_eq_some'.mp stored
  have purchased := fulfilled.purchased other logged row kept
  split <;> exact purchased

/-- Saving an order over its row, a purchased order staying purchased. -/
theorem saveOrder (fulfilled : store.FulfilledOnce) (order : Order) {old : Order}
    (row : store.orders order.id = some old)
    (kept : old.status = .purchased → order.status = .purchased) :
    (store.saveOrder order).FulfilledOnce := by
  refine ⟨fulfilled.nodup, fulfilled.key_lt, fun key logged item stored => ?_⟩
  obtain ⟨current, ordered, purchased⟩ := fulfilled.purchased key logged item stored
  by_cases here : item.order = order.id
  · rw [here, row, Option.some.injEq] at ordered
    exact ⟨order, by simp [Store.saveOrder, here], kept (by rw [ordered]; exact purchased)⟩
  · exact ⟨current, by simp [Store.saveOrder, here, ordered], purchased⟩

theorem createOrder (fulfilled : store.FulfilledOnce) (invariant : store.Invariant)
    (make : OrderId → Order) : (store.createOrder make).FulfilledOnce := by
  refine ⟨fulfilled.nodup, fulfilled.key_lt, fun key logged item stored => ?_⟩
  obtain ⟨order, ordered, purchased⟩ := fulfilled.purchased key logged item stored
  exact ⟨order, by simp [Store.createOrder,
    Nat.ne_of_lt (invariant.item_key key item stored).2.2, ordered], purchased⟩

/-- Logging the fulfilment of an item not fulfilled yet, under a key in use and on a
purchased order, and saving the item as purchased: what `purchase_item` writes. -/
theorem fulfil (fulfilled : store.FulfilledOnce) {item : OrderItem}
    (fresh : item.id ∉ store.fulfilments) (keyInUse : item.id < store.nextItemId)
    (onPurchased : ∃ order, store.orders item.order = some order ∧ order.status = .purchased) :
    ({ store with fulfilments := store.fulfilments ++ [item.id] }.saveItem
      { item with status := .purchased }).FulfilledOnce := by
  refine ⟨List.nodup_append.mpr ⟨fulfilled.nodup, List.nodup_singleton _,
    List.disjoint_singleton.mpr fresh⟩, fun key logged => ?_, fun key logged row stored => ?_⟩
  · rcases List.mem_append.mp logged with old | new
    · exact fulfilled.key_lt key old
    · rw [List.mem_singleton.mp new]
      exact keyInUse
  · rcases Table.set_eq_some.mp stored with ⟨-, rfl⟩ | ⟨elsewhere, stored⟩
    · exact onPurchased
    · rcases List.mem_append.mp logged with old | new
      · exact fulfilled.purchased key old row stored
      · exact absurd (List.mem_singleton.mp new) elsewhere

/-- The items of a stored order that is not purchased are not fulfilled. -/
theorem unfulfilled (fulfilled : store.FulfilledOnce) (invariant : store.Invariant)
    {key : OrderId} {order : Order} (row : store.orders key = some order)
    (notPurchased : order.status ≠ .purchased) : store.Unfulfilled key := by
  refine ⟨fulfilled.key_lt, fun item member logged => notPurchased ?_⟩
  obtain ⟨current, ordered, purchased⟩ :=
    fulfilled.purchased _ logged item (invariant.row_of_mem member)
  have onOrder := (Store.mem_itemsOf.mp member).2
  rw [onOrder, row, Option.some.injEq] at ordered
  rw [ordered]
  exact purchased

end Store.FulfilledOnce

namespace Store.Unfulfilled

variable {store : Store} {key : OrderId}

theorem createItem (unfulfilled : store.Unfulfilled key) (make : ItemId → OrderItem)
    (fresh : (make store.nextItemId).id = store.nextItemId) :
    (store.createItem make).Unfulfilled key := by
  refine ⟨fun logged member => Nat.lt_succ_of_lt (unfulfilled.1 logged member),
    fun item member logged => ?_⟩
  obtain ⟨⟨slot, below, stored⟩, onOrder⟩ := Store.mem_itemsOf.mp member
  rcases Table.set_eq_some.mp stored with ⟨-, rfl⟩ | ⟨elsewhere, stored⟩
  · exact absurd (fresh ▸ unfulfilled.1 _ logged) (Nat.lt_irrefl _)
  · have below : slot < store.nextItemId := Nat.lt_of_le_of_ne (Nat.lt_succ_iff.mp below) elsewhere
    exact unfulfilled.2 item (Store.mem_itemsOf.mpr ⟨⟨slot, below, stored⟩, onOrder⟩) logged

theorem deleteItem (unfulfilled : store.Unfulfilled key) (item : OrderItem) :
    (store.deleteItem item).Unfulfilled key := by
  refine ⟨unfulfilled.1, fun current member => unfulfilled.2 current ?_⟩
  obtain ⟨⟨slot, below, stored⟩, onOrder⟩ := Store.mem_itemsOf.mp member
  exact Store.mem_itemsOf.mpr ⟨⟨slot, below, (Table.erase_eq_some.mp stored).2⟩, onOrder⟩

end Store.Unfulfilled

/-! ## What a call leaves of the store it started from -/

/-- `store` satisfies the invariant; its items share their orders' currencies (donations
apart), and are fulfilled at most once, if those of `start` were; every order of `start` is
still in it, moved as the module moves orders: what the calls other than a refund leave of
the store they started from. -/
structure Store.Since (store start : Store) : Prop where
  invariant : store.Invariant
  currencies : start.CurrenciesAgree → store.CurrenciesAgree
  fulfilled : start.FulfilledOnce → store.FulfilledOnce
  moves : start.OrdersMove store

/-- What every call leaves of the store it started from, a refund included: the invariant,
currencies that agree if they did, and every order moved as the module moves orders. -/
structure Store.Follows (store start : Store) : Prop where
  invariant : store.Invariant
  currencies : start.CurrenciesAgree → store.CurrenciesAgree
  moves : start.OrdersMove store

/-- The calls so far led from `start` to `store`, and `order`, the caller's copy of an
order, is the row stored under its key: what a factory or `purchase` may assume of the
`order` it is handed. -/
structure Store.Tracks (store start : Store) (order : Order)
    extends Store.Since store start : Prop where
  row : store.orders order.id = some order

/-- The calls so far led from `start` to `store`, and order `key` is stored at `status`:
what a caller still knows of its copy of an order once a call on it has raised. -/
structure Store.HasOrderAt (store start : Store) (key : OrderId) (status : OrderStatus)
    extends Store.Since store start : Prop where
  row : ∃ old, store.orders key = some old ∧ old.status = status

/-- A store a loop over the items of `base` reaches: the invariant holds, the items share
their orders' currencies if those of `base` did, and the orders and next keys are those of
`base`. -/
structure Store.Frames (store base : Store) : Prop where
  invariant : store.Invariant
  currencies : base.CurrenciesAgree → store.CurrenciesAgree
  orders : store.orders = base.orders
  nextOrderId : store.nextOrderId = base.nextOrderId
  nextItemId : store.nextItemId = base.nextItemId

variable {store start : Store} {order : Order}

namespace Store.Since

theorem refl (invariant : store.Invariant) : store.Since store :=
  ⟨invariant, id, id, .refl store⟩

theorem trans {origin : Store} (since : store.Since start) (earlier : start.Since origin) :
    store.Since origin :=
  ⟨since.invariant, since.currencies ∘ earlier.currencies,
    since.fulfilled ∘ earlier.fulfilled, earlier.moves.trans since.moves⟩

theorem follows (since : store.Since start) : store.Follows start :=
  ⟨since.invariant, since.currencies, since.moves⟩

/-- A write that keeps the orders, the invariant, the agreement of currencies and the
fulfilments. -/
theorem of_orders (since : store.Since start) {store' : Store} (invariant : store'.Invariant)
    (currencies : store.CurrenciesAgree → store'.CurrenciesAgree)
    (fulfilled : store.FulfilledOnce → store'.FulfilledOnce)
    (orders : store'.orders = store.orders) : store'.Since start :=
  ⟨invariant, currencies ∘ since.currencies, fulfilled ∘ since.fulfilled,
    since.moves.of_orders orders⟩

/-- Writes outside the order and item tables and the fulfilment log. -/
theorem of_lifecycle (since : store.Since start) {store' : Store}
    (same : store'.lifecycle = store.lifecycle) : store'.Since start :=
  since.of_orders (since.invariant.of_lifecycle same) (·.of_lifecycle same)
    (·.of_lifecycle same) (congrArg Prod.fst same)

/-- Saving an order over its row, for the same user and in its currency, at its status or
purchased. -/
theorem saveOrder (since : store.Since start) (order : Order) {old : Order}
    (row : store.orders order.id = some old) (sameUser : order.user = old.user)
    (status : order.status = old.status ∨ order.status = .purchased)
    (currency : order.currency = old.currency) : (store.saveOrder order).Since start :=
  ⟨since.invariant.saveOrder order row sameUser (status.imp_right fun purchased => by
      rw [purchased]
      exact OrderStatus.isOpen_purchased),
    fun agree => (since.currencies agree).saveOrder order row currency,
    fun fulfilled => (since.fulfilled fulfilled).saveOrder order row fun purchased =>
      status.elim (·.trans purchased) id,
    since.moves.trans (.saveOrder row sameUser
      (status.imp_right fun purchased => Or.inr (Or.inl purchased)))⟩

theorem createCart (since : store.Since start) (user : UserId)
    (noCart : ∀ key order, store.orders key = some order → order.user = user →
      order.status ≠ .cart) :
    (store.createOrder fun id => { id, user }).Since start :=
  ⟨since.invariant.createCart user noCart,
    fun agree => (since.currencies agree).createOrder since.invariant _,
    fun fulfilled => (since.fulfilled fulfilled).createOrder since.invariant _,
    since.moves.trans (.createOrder since.invariant _)⟩

/-- The caller's copy of an order saved at a new status other than `cart`, a purchased order
staying purchased, with every item of the order given that status. -/
theorem saveOrder_markItemsOf (since : store.Since start) {old : Order}
    (row : store.orders old.id = some old) (status : OrderStatus)
    (moved : old.status.Moves status) (kept : old.status = .purchased → status = .purchased)
    (notCart : status ≠ .cart) :
    ((store.saveOrder { old with status }).markItemsOf old.id status).Since start :=
  ⟨since.invariant.saveOrder_markItemsOf { old with status } row notCart,
    fun agree => ((since.currencies agree).saveOrder { old with status } row rfl).markItemsOf _ _,
    fun fulfilled =>
      ((since.fulfilled fulfilled).saveOrder { old with status } row kept).markItemsOf _ _,
    since.moves.trans ((Store.OrdersMove.saveOrder
      (show store.orders ({ old with status } : Order).id = some old from row) rfl moved).of_orders
      rfl)⟩

theorem tracks (since : store.Since start) (row : store.orders order.id = some order) :
    store.Tracks start order :=
  ⟨since, row⟩

/-- An item of an order saved again under its key, on its order, at its status and in its
currency, over a store with the same orders and items: what the discounts write. -/
theorem saveItem_of_mem (since : store.Since start) {key : OrderId} {item : OrderItem}
    (saved : OrderItem) (member : item ∈ store.itemsOf key) {store' : Store}
    (same : store'.lifecycle = store.lifecycle) (sameKey : saved.id = item.id)
    (sameOrder : saved.order = item.order) (sameStatus : saved.status = item.status)
    (sameCurrency : saved.currency = item.currency) (sameKind : saved.kind = item.kind) :
    (store'.saveItem saved).Since start := by
  obtain ⟨⟨row, -, stored⟩, -⟩ := Store.mem_itemsOf.mp member
  have keyed := (since.invariant.item_key row item stored).1
  refine since.of_orders
    (since.invariant.saveItem_of_mem saved member same sameKey sameOrder sameStatus)
    (fun agree => (agree.of_lifecycle same).saveItem saved fun order ordered => ?_)
    (fun fulfilled => (fulfilled.of_lifecycle same).saveItem_over ?_ sameOrder)
    (congrArg Prod.fst same)
  all_goals simp only [Store.lifecycle, Prod.mk.injEq] at same
  · rw [same.1, sameOrder] at ordered
    rw [sameCurrency, sameKind]
    exact agree row item order stored ordered
  · rw [same.2.2.1, sameKey, keyed]
    exact stored

end Store.Since

theorem Store.Invariant.tracks (invariant : store.Invariant)
    (row : store.orders order.id = some order) : store.Tracks store order :=
  ⟨.refl invariant, row⟩

namespace Store.Follows

theorem refl (invariant : store.Invariant) : store.Follows store :=
  ⟨invariant, id, .refl store⟩

theorem trans {origin : Store} (follows : store.Follows start) (earlier : start.Follows origin) :
    store.Follows origin :=
  ⟨follows.invariant, follows.currencies ∘ earlier.currencies,
    earlier.moves.trans follows.moves⟩

/-- Saving an order over its row, for the same user and in its currency, at its status or
closed: a refund closes a purchased order. -/
theorem saveOrder (follows : store.Follows start) (order : Order) {old : Order}
    (row : store.orders order.id = some old) (sameUser : order.user = old.user)
    (status : order.status = old.status ∨ ¬order.status.IsOpen)
    (currency : order.currency = old.currency) : (store.saveOrder order).Follows start :=
  ⟨follows.invariant.saveOrder order row sameUser status,
    fun agree => (follows.currencies agree).saveOrder order row currency, follows.moves.trans
      (.saveOrder row sameUser (status.elim Or.inl OrderStatus.Moves.of_not_isOpen))⟩

end Store.Follows

namespace Store.Tracks

theorem hasOrderAt (tracks : store.Tracks start order) :
    store.HasOrderAt start order.id order.status :=
  ⟨tracks.toSince, order, tracks.row, rfl⟩

/-- Saving the caller's copy in its currency, with its status kept or purchased. -/
theorem saveOrder (tracks : store.Tracks start order) (order' : Order)
    (id : order'.id = order.id) (user : order'.user = order.user)
    (status : order'.status = order.status ∨ order'.status = .purchased)
    (currency : order'.currency = order.currency) :
    (store.saveOrder order').Tracks start order' :=
  ⟨tracks.toSince.saveOrder order' (id ▸ tracks.row) user status currency,
    by simp [Store.saveOrder]⟩

theorem of_orders (tracks : store.Tracks start order) {store' : Store}
    (invariant : store'.Invariant) (currencies : store.CurrenciesAgree → store'.CurrenciesAgree)
    (fulfilled : store.FulfilledOnce → store'.FulfilledOnce)
    (orders : store'.orders = store.orders) : store'.Tracks start order :=
  ⟨tracks.toSince.of_orders invariant currencies fulfilled orders, orders ▸ tracks.row⟩

theorem of_lifecycle (tracks : store.Tracks start order) {store' : Store}
    (same : store'.lifecycle = store.lifecycle) : store'.Tracks start order :=
  tracks.of_orders (tracks.invariant.of_lifecycle same) (·.of_lifecycle same)
    (·.of_lifecycle same) (congrArg Prod.fst same)

/-- An item of the tracked order, saved over its row at the order's status and in its
currency. -/
theorem saveItem (tracks : store.Tracks start order) {existing item : OrderItem}
    (member : existing ∈ store.itemsOf order.id) (sameKey : existing.id = item.id)
    (onOrder : item.order = order.id) (status : item.status = order.status)
    (currency : item.currency = order.currency) :
    (store.saveItem item).Tracks start order := by
  have stored := sameKey ▸ tracks.invariant.row_of_mem member
  have existingOrder := (Store.mem_itemsOf.mp member).2
  refine tracks.of_orders (tracks.invariant.saveItem
    (sameKey ▸ tracks.invariant.id_lt_of_mem_itemsOf member)
    (onOrder ▸ (tracks.invariant.order_key _ order tracks.row).2) ?_)
    (·.saveItem item ?_) (·.saveItem_over stored (onOrder.trans existingOrder.symm)) rfl
  all_goals
    intro current stored
    rw [onOrder, tracks.row, Option.some.injEq] at stored
    subst stored
  · exact fun _ => status
  · exact Or.inl currency

/-- The invariant after inserting an item on the tracked order under the next key, at the
order's status. -/
theorem invariant_createItem (tracks : store.Tracks start order) (make : ItemId → OrderItem)
    (fresh : (make store.nextItemId).id = store.nextItemId)
    (onOrder : (make store.nextItemId).order = order.id)
    (status : (make store.nextItemId).status = order.status) :
    (store.createItem make).Invariant :=
  tracks.invariant.createItem fresh (onOrder ▸ (tracks.invariant.order_key _ order tracks.row).2)
    fun current stored _ => by
      rw [onOrder, tracks.row, Option.some.injEq] at stored
      rw [← stored, status]

/-- A donation on the tracked order, at the order's status, may be inserted under the next
key. -/
theorem createDonation (tracks : store.Tracks start order) (make : ItemId → OrderItem)
    (fresh : (make store.nextItemId).id = store.nextItemId)
    (onOrder : (make store.nextItemId).order = order.id)
    (status : (make store.nextItemId).status = order.status)
    (donation : (make store.nextItemId).kind.isDonation) :
    (store.createItem make).Tracks start order :=
  tracks.of_orders (tracks.invariant_createItem make fresh onOrder status)
    (·.createItem make fun _ _ => Or.inr donation) (·.createItem make) rfl

/-- An item inserted on the tracked order under the next key, at the order's status, with
the item's currency then written on the order, where the currency check allows it: what a
seat or certificate factory does. -/
theorem createItem_saveOrder (tracks : store.Tracks start order) (item : OrderItem)
    (fresh : item.id = store.nextItemId) (onOrder : item.order = order.id)
    (status : item.status = order.status)
    (allowed : order.currency = item.currency ∨ store.itemsOf order.id = []) :
    ((store.createItem fun _ => item).saveOrder { order with currency := item.currency }).Tracks
      start { order with currency := item.currency } :=
  ⟨⟨(tracks.invariant_createItem _ fresh onOrder status).saveOrder _ tracks.row rfl (.inl rfl),
    fun agree => (tracks.currencies agree).createItem_saveOrder tracks.invariant tracks.row item
      onOrder allowed,
    fun fulfilled => ((tracks.fulfilled fulfilled).createItem _).saveOrder _ tracks.row id,
    tracks.moves.trans (.saveOrder tracks.row rfl (.refl _))⟩, by simp [Store.saveOrder]⟩

end Store.Tracks

namespace Store.Frames

variable {base : Store}

theorem refl (invariant : base.Invariant) : base.Frames base :=
  ⟨invariant, id, rfl, rfl, rfl⟩

theorem of_lifecycle (frames : store.Frames base) {store' : Store}
    (same : store'.lifecycle = store.lifecycle) : store'.Frames base := by
  have invariant := frames.invariant.of_lifecycle same
  have currencies (agree : base.CurrenciesAgree) := (frames.currencies agree).of_lifecycle same
  simp only [Store.lifecycle, Prod.mk.injEq] at same
  exact ⟨invariant, currencies, same.1.trans frames.orders, same.2.1.trans frames.nextOrderId,
    same.2.2.2.1.trans frames.nextItemId⟩

/-- Appending to the fulfilment log. -/
theorem log (frames : store.Frames base) (fulfilments : List ItemId) :
    { store with fulfilments }.Frames base :=
  ⟨frames.invariant.of_tables rfl rfl rfl rfl, frames.currencies, frames.orders,
    frames.nextOrderId, frames.nextItemId⟩

/-- A loop that started where the calls so far had led, and that fulfilled items at most
once if `start` did. -/
theorem since (frames : store.Frames base) (earlier : base.Since start)
    (fulfilled : start.FulfilledOnce → store.FulfilledOnce) : store.Since start :=
  ⟨frames.invariant, frames.currencies ∘ earlier.currencies, fulfilled,
    earlier.moves.of_orders frames.orders⟩

theorem hasOrderAt (frames : store.Frames base) {key : OrderId} {status : OrderStatus}
    (holds : base.HasOrderAt start key status)
    (fulfilled : start.FulfilledOnce → store.FulfilledOnce) :
    store.HasOrderAt start key status :=
  ⟨frames.since holds.toSince fulfilled, frames.orders ▸ holds.row⟩

/-- Saving, in a loop over `base.itemsOf key` that logs no fulfilment, one of those items
on its order keeps every item fulfilled at most once. -/
theorem fulfilledOnce_saveItem (frames : store.Frames base) (baseInvariant : base.Invariant)
    (baseFulfilled : base.FulfilledOnce) (fulfilled : store.FulfilledOnce)
    (log : store.fulfilments = base.fulfilments) {key : OrderId} {item : OrderItem}
    (saved : OrderItem) (member : item ∈ base.itemsOf key) (sameKey : saved.id = item.id)
    (sameOrder : saved.order = item.order) : (store.saveItem saved).FulfilledOnce :=
  fulfilled.saveItem saved fun logged => by
    obtain ⟨⟨slot, -, stored⟩, -⟩ := Store.mem_itemsOf.mp member
    rw [← (baseInvariant.item_key slot item stored).1] at stored
    rw [log, sameKey] at logged
    rw [frames.orders, sameOrder]
    exact baseFulfilled.purchased _ logged item stored

/-- Saving, in a loop over `base.itemsOf key`, one of those items with its key, order,
currency and kind, at a status its order allows. -/
theorem saveItem (frames : store.Frames base) (baseInvariant : base.Invariant)
    {key : OrderId} {item : OrderItem} (saved : OrderItem) (member : item ∈ base.itemsOf key)
    (sameKey : saved.id = item.id) (sameOrder : saved.order = item.order)
    (sameCurrency : saved.currency = item.currency) (sameKind : saved.kind = item.kind)
    (follows : ∀ order, base.orders item.order = some order → order.status.IsOpen →
      saved.status = order.status) : (store.saveItem saved).Frames base := by
  obtain ⟨⟨row, -, stored⟩, -⟩ := Store.mem_itemsOf.mp member
  refine ⟨frames.invariant.saveItem ?_ ?_ ?_,
    fun agree => (frames.currencies agree).saveItem saved ?_,
    frames.orders, frames.nextOrderId, frames.nextItemId⟩
  · rw [frames.nextItemId, sameKey]
    exact baseInvariant.id_lt_of_mem_itemsOf member
  · rw [frames.nextOrderId, sameOrder]
    exact (baseInvariant.item_key row item stored).2.2
  · rw [frames.orders, sameOrder]
    exact follows
  · rw [frames.orders, sameOrder, sameCurrency, sameKind]
    exact fun order => agree row item order stored

end Store.Frames

end ShoppingCart
