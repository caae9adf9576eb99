import ShoppingCart.System

/-! # The invariant of reachable stores

Every reachable store keeps its keys straight (each row under its own key, below the next
free key, each item on an order that was created), keeps every item of a cart or of an
order being paid at its order's status, and holds at most one cart per user. Each part is
proved first of the writes the calls make (`Store.Invariant.saveItem`, ...), then of each
call, and from there of every reachable store (`reachable_invariant`).
-/

namespace ShoppingCart

/-- A cart, or an order being paid: the statuses whose items copy their order's. -/
def OrderStatus.IsOpen (status : OrderStatus) : Prop :=
  status = .cart ∨ status = .paying

@[simp] theorem OrderStatus.isOpen_purchased : ¬OrderStatus.purchased.IsOpen := by
  simp [OrderStatus.IsOpen]

@[simp] theorem OrderStatus.isOpen_refunded : ¬OrderStatus.refunded.IsOpen := by
  simp [OrderStatus.IsOpen]

/-- The items of order `key`, all given `status`. -/
def Store.markItemsOf (store : Store) (key : OrderId) (status : OrderStatus) : Store :=
  { store with items := fun other => (store.items other).map fun item =>
      if item.order = key then { item with status } else item }

theorem Store.itemsOf_markItemsOf (store : Store) (key : OrderId) (status : OrderStatus) :
    (store.markItemsOf key status).itemsOf key =
      (store.itemsOf key).map fun item => { item with status } := by
  have sameOrder : ((·.order == key) ∘ fun item : OrderItem =>
      if item.order = key then { item with status } else item) = (·.order == key) := by
    funext item
    simp only [Function.comp_apply]
    split <;> rfl
  simp only [Store.itemsOf, Store.markItemsOf, Table.rows, ← List.map_filterMap,
    List.filter_map, sameOrder]
  exact List.map_congr_left fun item member =>
    if_pos (by simpa using (List.mem_filter.mp member).2)

/-- What every reachable store satisfies. -/
structure Store.Invariant (store : Store) : Prop where
  order_key : ∀ key order, store.orders key = some order →
    order.id = key ∧ key < store.nextOrderId
  item_key : ∀ key item, store.items key = some item →
    item.id = key ∧ key < store.nextItemId ∧ item.order < store.nextOrderId
  items_follow_open_orders : ∀ key item order, store.items key = some item →
    store.orders item.order = some order → order.status.IsOpen → item.status = order.status
  one_cart_per_user : ∀ key key' order order', store.orders key = some order →
    store.orders key' = some order' → order.user = order'.user → order.status = .cart →
    order'.status = .cart → key = key'

namespace Store.Invariant

variable {store : Store}

/-- The invariant reads the order and item tables and their counters only. -/
theorem of_tables (invariant : store.Invariant) {store' : Store}
    (orders : store'.orders = store.orders) (items : store'.items = store.items)
    (nextOrderId : store'.nextOrderId = store.nextOrderId)
    (nextItemId : store'.nextItemId = store.nextItemId) : store'.Invariant := by
  obtain ⟨orderKey, itemKey, follow, oneCart⟩ := invariant
  rw [← orders, ← items, ← nextOrderId, ← nextItemId] at *
  exact ⟨orderKey, itemKey, follow, oneCart⟩

theorem record (invariant : store.Invariant) (effect : Effect) :
    (store.record effect).Invariant :=
  invariant.of_tables rfl rfl rfl rfl

/-- Saving an item under a key in use, on an existing order, at its order's status when
that order is open. -/
theorem saveItem (invariant : store.Invariant) {item : OrderItem}
    (keyInUse : item.id < store.nextItemId) (orderExists : item.order < store.nextOrderId)
    (follows : ∀ order, store.orders item.order = some order → order.status.IsOpen →
      item.status = order.status) : (store.saveItem item).Invariant where
  order_key := invariant.order_key
  item_key key row stored := by
    rcases Table.set_eq_some.mp stored with ⟨rfl, rfl⟩ | ⟨-, stored⟩
    · exact ⟨rfl, keyInUse, orderExists⟩
    · exact invariant.item_key key row stored
  items_follow_open_orders key row order stored := by
    rcases Table.set_eq_some.mp stored with ⟨-, rfl⟩ | ⟨-, stored⟩
    · exact follows order
    · exact invariant.items_follow_open_orders key row order stored
  one_cart_per_user := invariant.one_cart_per_user

/-- Raising the next free item key. -/
theorem withNextItemId (invariant : store.Invariant) {next : Nat}
    (grows : store.nextItemId ≤ next) : { store with nextItemId := next }.Invariant := by
  refine ⟨invariant.order_key, fun key item stored => ?_, invariant.items_follow_open_orders,
    invariant.one_cart_per_user⟩
  obtain ⟨keyed, below, orderExists⟩ := invariant.item_key key item stored
  exact ⟨keyed, by simp only; omega, orderExists⟩

/-- Inserting an item under the next free key, on an existing order, at its order's status
when that order is open. -/
theorem createItem (invariant : store.Invariant) {make : ItemId → OrderItem}
    (fresh : (make store.nextItemId).id = store.nextItemId)
    (orderExists : (make store.nextItemId).order < store.nextOrderId)
    (follows : ∀ order, store.orders (make store.nextItemId).order = some order →
      order.status.IsOpen → (make store.nextItemId).status = order.status) :
    (store.createItem make).Invariant := by
  have saved := (invariant.withNextItemId (Nat.le_succ store.nextItemId)).saveItem
    (lt_of_eq_of_lt fresh (Nat.lt_succ_self _)) orderExists follows
  simpa only [Store.saveItem, fresh] using saved

theorem deleteItem (invariant : store.Invariant) (item : OrderItem) :
    (store.deleteItem item).Invariant where
  order_key := invariant.order_key
  item_key key row stored := invariant.item_key key row (Table.erase_eq_some.mp stored).2
  items_follow_open_orders key row order stored :=
    invariant.items_follow_open_orders key row order (Table.erase_eq_some.mp stored).2
  one_cart_per_user := invariant.one_cart_per_user

/-- `Order.clear`'s bulk delete. -/
theorem deleteItemsOf (invariant : store.Invariant) (key : OrderId) :
    { store with
      items := fun other => (store.items other).filter (·.order != key) }.Invariant := by
  refine ⟨invariant.order_key, fun other item stored => ?_,
    fun other item order stored => ?_, invariant.one_cart_per_user⟩
  · exact invariant.item_key other item (Option.filter_eq_some.mp stored).1
  · exact invariant.items_follow_open_orders other item order (Option.filter_eq_some.mp stored).1

/-- Writing `order` under `key` of the order table keeps the rows keyed and below the next
key `next`, when `order` is keyed so, below `next`. -/
theorem order_key_set (invariant : store.Invariant) {key next : OrderId} {order : Order}
    (keyed : order.id = key) (below : key < next) (grows : store.nextOrderId ≤ next) :
    ∀ other saved, store.orders.set key order other = some saved →
      saved.id = other ∧ other < next := by
  intro other saved stored
  rcases Table.set_eq_some.mp stored with ⟨rfl, rfl⟩ | ⟨-, stored⟩
  · exact ⟨keyed, below⟩
  · have keyedBefore := invariant.order_key other saved stored
    exact ⟨keyedBefore.1, by omega⟩

/-- Writing `order` under `key` of the order table keeps one cart per user, when a cart
written there is the only cart of its user outside `key`. -/
theorem one_cart_per_user_set (invariant : store.Invariant) {key : OrderId} {order : Order}
    (alone : order.status = .cart → ∀ other saved, store.orders other = some saved →
      saved.user = order.user → saved.status = .cart → other = key) :
    ∀ other other' saved saved', store.orders.set key order other = some saved →
      store.orders.set key order other' = some saved' → saved.user = saved'.user →
      saved.status = .cart → saved'.status = .cart → other = other' := by
  intro other other' saved saved' stored stored' users carts carts'
  rcases Table.set_eq_some.mp stored with ⟨rfl, rfl⟩ | ⟨-, kept⟩ <;>
    rcases Table.set_eq_some.mp stored' with ⟨rfl, rfl⟩ | ⟨-, kept'⟩
  · rfl
  · exact (alone carts other' saved' kept' users.symm carts').symm
  · exact alone carts' other saved kept users carts
  · exact invariant.one_cart_per_user _ _ saved saved' kept kept' users carts carts'

/-- Saving an order over its own row, for the same user, either at the row's status or at
a status that is not open. -/
theorem saveOrder (invariant : store.Invariant) (order : Order) {old : Order}
    (row : store.orders order.id = some old) (sameUser : order.user = old.user)
    (status : order.status = old.status ∨ ¬order.status.IsOpen) :
    (store.saveOrder order).Invariant where
  order_key := invariant.order_key_set rfl (invariant.order_key order.id old row).2 le_rfl
  item_key := invariant.item_key
  items_follow_open_orders key item saved stored ordered opened := by
    rcases Table.set_eq_some.mp ordered with ⟨here, rfl⟩ | ⟨-, ordered⟩
    · rcases status with same | closed
      · rw [same] at opened ⊢
        exact invariant.items_follow_open_orders key item old stored (here ▸ row) opened
      · exact absurd opened closed
    · exact invariant.items_follow_open_orders key item saved stored ordered opened
  one_cart_per_user := invariant.one_cart_per_user_set fun cart other saved stored users carts =>
    invariant.one_cart_per_user other order.id saved old stored row (users.trans sameUser) carts
      (status.elim (· ▸ cart) fun closed => absurd (Or.inl cart) closed)

/-- Writes outside the order and item tables and the fulfilment log keep the invariant. -/
theorem of_lifecycle (invariant : store.Invariant) {store' : Store}
    (same : store'.lifecycle = store.lifecycle) : store'.Invariant := by
  simp only [Store.lifecycle, Prod.mk.injEq] at same
  exact invariant.of_tables same.1 same.2.2.1 same.2.1 same.2.2.2.1

/-- An item of an order is the row stored under its own id. -/
theorem row_of_mem (invariant : store.Invariant) {key : OrderId} {item : OrderItem}
    (member : item ∈ store.itemsOf key) : store.items item.id = some item := by
  obtain ⟨⟨row, -, stored⟩, -⟩ := Store.mem_itemsOf.mp member
  rwa [(invariant.item_key row item stored).1]

/-- An item of an order is a row under a key in use. -/
theorem id_lt_of_mem_itemsOf (invariant : store.Invariant) {key : OrderId} {item : OrderItem}
    (member : item ∈ store.itemsOf key) : item.id < store.nextItemId := by
  obtain ⟨⟨row, below, stored⟩, -⟩ := Store.mem_itemsOf.mp member
  rw [(invariant.item_key row item stored).1]
  exact below

/-- An item of an order already follows its order, so it may be saved again at its own
status. -/
theorem follows_of_mem (invariant : store.Invariant) {key : OrderId} {item : OrderItem}
    (member : item ∈ store.itemsOf key) : ∀ order, store.orders item.order = some order →
      order.status.IsOpen → item.status = order.status := by
  obtain ⟨⟨row, -, stored⟩, -⟩ := Store.mem_itemsOf.mp member
  exact fun order => invariant.items_follow_open_orders row item order stored

/-- `get_or_create` of a cart for a user who has none. -/
theorem createCart (invariant : store.Invariant) (user : UserId)
    (noCart : ∀ key order, store.orders key = some order → order.user = user →
      order.status ≠ .cart) :
    (store.createOrder fun id => { id, user }).Invariant where
  order_key := invariant.order_key_set rfl (Nat.lt_succ_self _) (Nat.le_succ _)
  item_key key item stored :=
    have keyed := invariant.item_key key item stored
    ⟨keyed.1, keyed.2.1, Nat.lt_succ_of_lt keyed.2.2⟩
  items_follow_open_orders key item order stored ordered := by
    rcases Table.set_eq_some.mp ordered with ⟨here, -⟩ | ⟨-, ordered⟩
    · exact absurd here (Nat.ne_of_lt (invariant.item_key key item stored).2.2)
    · exact invariant.items_follow_open_orders key item order stored ordered
  one_cart_per_user := invariant.one_cart_per_user_set fun _ other saved stored users carts =>
    absurd carts (noCart other saved stored users)

/-- An order saved over its own row at a status other than `cart`, with every one of its
items given that status: what `start_purchase` and `free_user_enrollment` leave. -/
theorem saveOrder_markItemsOf (invariant : store.Invariant) (order : Order) {old : Order}
    (row : store.orders order.id = some old) (notCart : order.status ≠ .cart) :
    ((store.saveOrder order).markItemsOf order.id order.status).Invariant where
  order_key := invariant.order_key_set rfl (invariant.order_key order.id old row).2 le_rfl
  item_key key item stored := by
    obtain ⟨row, kept, rfl⟩ := Option.map_eq_some'.mp stored
    have := invariant.item_key key row kept
    split <;> exact this
  items_follow_open_orders key item saved stored := by
    obtain ⟨row, kept, rfl⟩ := Option.map_eq_some'.mp stored
    by_cases here : row.order = order.id
    · simp only [Store.markItemsOf, Store.saveOrder, here, if_true, Table.set_apply,
        Option.some.injEq]
      rintro rfl _
      rfl
    · simp only [Store.markItemsOf, Store.saveOrder, here, if_false, Table.set_apply]
      exact invariant.items_follow_open_orders key row saved kept
  one_cart_per_user := invariant.one_cart_per_user_set fun cart => absurd cart notCart

end Store.Invariant

/-! ## Loops over an order's items -/

/-- Saves under other keys leave a key's row alone. -/
theorem foldl_save_apply_of_forall_ne (change : OrderItem → Option OrderItem)
    (sameKey : ∀ item changed, change item = some changed → changed.id = item.id)
    {key : Nat} :
    ∀ (items : List OrderItem) (table : Table OrderItem),
      (∀ item ∈ items, item.id ≠ key) →
        items.foldl (fun table item => (change item).elim table
          fun changed => table.set changed.id changed) table key = table key
  | [], _, _ => rfl
  | item :: items, table, others => by
    rw [List.foldl_cons, foldl_save_apply_of_forall_ne change sameKey items _
      fun other member => others other (List.mem_cons_of_mem _ member)]
    cases changed : change item with
    | none => rfl
    | some changed' =>
      simp [sameKey item changed' changed, Ne.symm (others item (List.mem_cons_self _ _))]

/-- Saving `change row`, where there is one, for each row of a table whose key is below
`bound` and that satisfies `chosen`, in key order, changes exactly those rows. -/
theorem foldl_save_rows (table : Table OrderItem)
    (keyed : ∀ key item, table key = some item → item.id = key) (chosen : OrderItem → Bool)
    (change : OrderItem → Option OrderItem)
    (sameKey : ∀ item changed, change item = some changed → changed.id = item.id) :
    ∀ bound : Nat,
    (((List.range bound).filterMap table).filter chosen).foldl
        (fun table item => (change item).elim table
          fun changed => table.set changed.id changed) table =
      fun key => if key < bound then (table key).map fun item =>
        if chosen item then (change item).getD item else item else table key
  | 0 => by funext key; simp
  | bound + 1 => by
    rw [List.range_succ, List.filterMap_append, List.filter_append, List.foldl_append,
      foldl_save_rows table keyed chosen change sameKey bound]
    funext key
    by_cases here : key = bound
    · subst here
      cases stored : table key with
      | none => simp [stored]
      | some item =>
        cases changed : change item with
        | none => by_cases picked : chosen item = true <;> simp [stored, picked, changed]
        | some changed' =>
          by_cases picked : chosen item = true <;>
            simp [stored, picked, changed, keyed key item stored, sameKey item changed' changed]
    · rw [foldl_save_apply_of_forall_ne change sameKey]
      · by_cases below : key < bound
        · simp [below, Nat.lt_succ_of_lt below]
        · simp [below, show ¬key < bound + 1 by omega]
      · intro item member
        simp only [List.filterMap_cons, List.filterMap_nil, List.mem_filter] at member
        cases stored : table bound <;> simp only [stored, List.mem_singleton,
          List.not_mem_nil, false_and] at member
        rw [member.1, keyed bound _ stored]
        exact Ne.symm here

namespace Store.Invariant

variable {store : Store}

/-- Saving `change item`, where there is one, for every item of an order, in the order
`itemsOf` reads them. -/
theorem foldl_save_itemsOf (invariant : store.Invariant) (key : OrderId)
    (change : OrderItem → Option OrderItem)
    (sameKey : ∀ item changed, change item = some changed → changed.id = item.id) :
    (store.itemsOf key).foldl (fun table item => (change item).elim table
      fun changed => table.set changed.id changed) store.items =
      fun other => (store.items other).map fun item =>
        if item.order = key then (change item).getD item else item := by
  rw [Store.itemsOf, Table.rows, foldl_save_rows store.items
    (fun key item stored => (invariant.item_key key item stored).1) _ change sameKey]
  funext other
  by_cases below : other < store.nextItemId
  · simp [below]
  · cases stored : store.items other with
    | none => simp [below, stored]
    | some item => exact absurd (invariant.item_key other item stored).2.1 below

/-- Saving every item of an order at `status`. -/
theorem foldl_set_status_itemsOf (invariant : store.Invariant) (key : OrderId)
    (status : OrderStatus) :
    (store.itemsOf key).foldl
      (fun table item => (some { item with status } : Option OrderItem).elim table
        fun changed => table.set changed.id changed) store.items =
      (store.markItemsOf key status).items := by
  rw [invariant.foldl_save_itemsOf key _ fun _ _ changed => by cases changed; rfl]
  simp [Store.markItemsOf]

end Store.Invariant

/-- An item of an order saved again under its key, on its order and at its status, over
a store with the same orders and items: what the discounts write. -/
theorem Store.Invariant.saveItem_of_mem {store : Store} (invariant : store.Invariant)
    {key : OrderId} {item : OrderItem} (saved : OrderItem) (member : item ∈ store.itemsOf key)
    {store' : Store} (same : store'.lifecycle = store.lifecycle) (sameKey : saved.id = item.id)
    (sameOrder : saved.order = item.order) (sameStatus : saved.status = item.status) :
    (store'.saveItem saved).Invariant := by
  obtain ⟨⟨row, -, stored⟩, -⟩ := Store.mem_itemsOf.mp member
  have unchanged := invariant.of_lifecycle same
  simp only [Store.lifecycle, Prod.mk.injEq] at same
  refine unchanged.saveItem ?_ ?_ fun order ordered opened => ?_
  · rw [same.2.2.2.1, sameKey]
    exact invariant.id_lt_of_mem_itemsOf member
  · rw [same.2.1, sameOrder]
    exact (invariant.item_key row item stored).2.2
  · rw [same.1, sameOrder] at ordered
    exact sameStatus.trans (invariant.follows_of_mem member order ordered opened)

end ShoppingCart
