import ShoppingCart.Lifecycle

/-! # The reclassification pass

`update_order_type` reads the items of an order once and calls the order a business one
when one of them has a quantity above one. It then converts, through the two seat
factories, every seat of a business order into a code bundle of its quantity and every
code bundle of a personal order into a single seat, and deletes the converted items last.
When it returns, the order holds no item of the kind it converts, each converted item is
replaced by a row of the other kind for its course, every other item is left alone, and a
second call writes nothing. When a conversion raises, the conversions before it stay,
and the converted items are not deleted. `purchase` fulfils exactly the items the pass
leaves, each once. Whatever the factories and the pass are called on, the factories'
check keeps every order to one seat and one code bundle per course.
-/

namespace ShoppingCart

open Action

variable {store store' base : Store}

/-! ## What the pass converts -/

namespace Order

/-- `is_order_type_business` of `update_order_type`: some item of the order has a quantity
above one. -/
def isBusinessFor (store : Store) (self : Order) : Bool :=
  (store.itemsOf self.id).any fun cartItem => cartItem.qty > 1

/-- What `update_order_type` does: the loops over the items it read, then, if they return,
the deletions and the order saved with its type. -/
theorem updateOrderType_apply (services : Services) (self : Order) (store : Store) :
    updateOrderType services self store =
      match reclassifyItems services (isBusinessFor store self) (store.itemsOf self.id) self []
          store with
      | .ok (self', itemsToDelete) middle =>
        .ok { self' with orderType := if isBusinessFor store self then .business else .personal }
          ((itemsToDelete.foldl Store.deleteItem middle).saveOrder
            { self' with orderType := if isBusinessFor store self then .business else .personal })
      | .error error middle => .error error middle := by
  have counted : ((store.itemsOf self.id).any fun cartItem => cartItem.qty > 1) =
      isBusinessFor store self := rfl
  simp only [updateOrderType, bind_apply, read_apply, counted]
  cases reclassifyItems services (isBusinessFor store self) (store.itemsOf self.id) self [] store
  · simp only [forM_write, write_apply, pure_apply]
  · rfl

/-- The items the pass converts: `hasattr(cart_item, 'paidcourseregistration')` in a
business order, `hasattr(cart_item, 'courseregcodeitem')` in a personal one. -/
def converts (isBusiness : Bool) (item : OrderItem) : Bool :=
  match isBusiness, item.kind with
  | true, .paidCourseRegistration _ _ => true
  | false, .courseRegCodeItem _ _ => true
  | _, _ => false

/-- The subclass a conversion creates: code bundles in a business order, seats in a
personal one. -/
def replacementVariant (isBusiness : Bool) : SeatVariant :=
  if isBusiness then CourseRegCodeItem.variant else PaidCourseRegistration.variant

/-- `new` replaces `old`: a row of the other seat subclass for the course of `old`, of its
quantity in a business order and a single seat in a personal one. -/
def Replaces (isBusiness : Bool) (old new : OrderItem) : Prop :=
  ∃ courseId, old.kind.courseId = some courseId ∧
    (replacementVariant isBusiness).courseOf new.kind = some courseId ∧
    new.qty = if isBusiness then old.qty else 1

/-- A replacement is not converted again. -/
theorem converts_eq_false_of_replaces {isBusiness : Bool} {old new : OrderItem}
    (replaces : Replaces isBusiness old new) : converts isBusiness new = false := by
  obtain ⟨_, -, replacement, -⟩ := replaces
  cases isBusiness <;> cases kind : new.kind <;>
    simp_all [converts, replacementVariant, PaidCourseRegistration.variant,
      CourseRegCodeItem.variant]

end Order

/-- `store` is `base` with the rows `created` inserted, one after another, under the next
keys, all on order `key`. -/
structure Store.Appends (store base : Store) (key : OrderId) (created : List OrderItem) :
    Prop where
  rows : store.items.rows store.nextItemId = base.items.rows base.nextItemId ++ created
  onOrder : ∀ item ∈ created, item.order = key
  fresh : ∀ item ∈ created, base.nextItemId ≤ item.id
  below : ∀ slot < base.nextItemId, store.items slot = base.items slot
  grows : base.nextItemId ≤ store.nextItemId

namespace Store.Appends

variable {key : OrderId} {created : List OrderItem}

theorem refl (store : Store) (key : OrderId) : store.Appends store key [] :=
  ⟨by simp, by simp, by simp, fun _ _ => rfl, le_rfl⟩

theorem trans {middle : Store} {created' : List OrderItem}
    (first : middle.Appends base key created) (second : store.Appends middle key created') :
    store.Appends base key (created ++ created') where
  rows := by rw [second.rows, first.rows, List.append_assoc]
  onOrder item member :=
    (List.mem_append.mp member).elim (first.onOrder item) (second.onOrder item)
  fresh item member := (List.mem_append.mp member).elim (first.fresh item)
    fun later => first.grows.trans (second.fresh item later)
  below slot below := (second.below slot (lt_of_lt_of_le below first.grows)).trans
    (first.below slot below)
  grows := first.grows.trans second.grows

/-- A seat factory's insert: the row under the next key, then the order saved. -/
theorem createItem_saveOrder (store : Store) {item : OrderItem} (order : Order)
    (keyed : item.id = store.nextItemId) (onOrder : item.order = key) :
    ((store.createItem fun _ => item).saveOrder order).Appends store key [item] where
  rows := Table.rows_set_self _ _ _
  onOrder := by simpa using onOrder
  fresh := by simp [keyed]
  below slot below := by simp [Store.saveOrder, Store.createItem, below.ne]
  grows := Nat.le_succ _

theorem itemsOf (appends : store.Appends base key created) :
    store.itemsOf key = base.itemsOf key ++ created := by
  have onKey : created.filter (·.order == key) = created :=
    List.filter_eq_self.mpr fun item member => by simp [appends.onOrder item member]
  rw [Store.itemsOf, Store.itemsOf, appends.rows, List.filter_append, onKey]

theorem itemsOf_of_ne (appends : store.Appends base key created) {other : OrderId}
    (elsewhere : other ≠ key) : store.itemsOf other = base.itemsOf other := by
  have offKey : created.filter (·.order == other) = [] :=
    List.filter_eq_nil_iff.mpr fun item member => by
      simp [appends.onOrder item member, Ne.symm elsewhere]
  rw [Store.itemsOf, Store.itemsOf, appends.rows, List.filter_append, offKey, List.append_nil]

end Store.Appends

/-- `store` is `base` after the conversions of `converted`, items of order `key`, in
turn: each replaced by a row inserted under the next key. -/
def Store.Converts (store base : Store) (key : OrderId) (isBusiness : Bool)
    (converted : List OrderItem) : Prop :=
  ∃ created, store.Appends base key created ∧
    List.Forall₂ (Order.Replaces isBusiness) converted created

/-! ## The conversions -/

/-- One conversion: a seat factory that returns inserts a row replacing `cartItem`, and
one that raises writes nothing. -/
theorem SeatVariant.addToOrder_converts (variant : SeatVariant) (services : Services)
    (self : Order) (courseId : CourseId) (qty : Int) (modeSlug : String) (cost : Option Int)
    (currency : Option String) {key : OrderId} {isBusiness : Bool}
    {converted : List OrderItem} (cartItem : OrderItem)
    (replaces : ∀ item : OrderItem, (∃ mode, item.kind = variant.kind courseId mode) →
      item.qty = qty → Order.Replaces isBusiness cartItem item) :
    Triple (fun store => self.id = key ∧ store.Converts base key isBusiness converted)
      (variant.addToOrder services self courseId qty modeSlug cost currency)
      (fun result store => result.2.id = key ∧
        store.Converts base key isBusiness (converted ++ [cartItem]))
      (fun store => store.Converts base key isBusiness converted) := by
  intro store ⟨sameKey, converts⟩
  cases result : variant.addToOrder services self courseId qty modeSlug cost currency store with
  | error => exact commitOnSuccess_error result ▸ converts
  | ok value store' =>
    obtain ⟨item, order'⟩ := value
    obtain ⟨created, appends, replaced⟩ := converts
    obtain ⟨_, _, -, -, -, -, -, itemEq, rfl, rfl⟩ := addToOrder_ok result
    refine ⟨sameKey, created ++ [item], appends.trans (.createItem_saveOrder _ _
      (by rw [itemEq]) (by rw [itemEq, sameKey])), List.rel_append replaced ?_⟩
    exact .cons (replaces item ⟨_, by rw [itemEq]⟩ (by rw [itemEq])) .nil

/-- The loops of the pass: when they return, every item they convert is queued for
deletion and replaced by a row under a new key; when a conversion raises, the conversions
of the items before it stay. -/
theorem reclassifyItems_converts (services : Services) (isBusiness : Bool) (base : Store)
    (key : OrderId) :
    ∀ (cartItems : List OrderItem) (self : Order) (itemsToDelete converted : List OrderItem),
    Triple (fun store => self.id = key ∧ store.Converts base key isBusiness converted)
      (Order.reclassifyItems services isBusiness cartItems self itemsToDelete)
      (fun result store => result.1.id = key ∧
        result.2 = itemsToDelete ++ cartItems.filter (Order.converts isBusiness) ∧
        store.Converts base key isBusiness
          (converted ++ cartItems.filter (Order.converts isBusiness)))
      (fun store => ∃ done, done <+: cartItems.filter (Order.converts isBusiness) ∧
        store.Converts base key isBusiness (converted ++ done))
  | [], _, _, _ => fun _ ⟨sameKey, converts⟩ => ⟨sameKey, by simp, by simpa using converts⟩
  | cartItem :: rest, self, itemsToDelete, converted => by
    unfold Order.reclassifyItems
    split
    case h_3 isBusiness _ _ notSeat notBundle =>
      have skipped : Order.converts isBusiness cartItem = false := by
        unfold Order.converts
        split <;> simp_all
      refine (reclassifyItems_converts services isBusiness base key rest self itemsToDelete
        converted).mono (fun _ holds => holds) (fun _ _ holds => ?_) fun _ holds => ?_ <;>
        simpa [skipped] using holds
    all_goals
      rename_i courseId mode kind
      refine triple_bind (Triple.mono (SeatVariant.addToOrder_converts _ _ _ _ _ _ _ _ cartItem
          fun item ⟨_, itemKind⟩ qty => ⟨courseId, by simp [kind, ItemKind.courseId],
            by simp [itemKind, Order.replacementVariant, PaidCourseRegistration.variant,
              CourseRegCodeItem.variant], by simp [qty]⟩)
          (fun _ holds => holds) (fun _ _ holds => holds)
          fun _ converts => ⟨[], List.nil_prefix, by simpa using converts⟩) fun ⟨_, self'⟩ => ?_
      exact Triple.mono (reclassifyItems_converts services _ base key rest self' _
          (converted ++ [cartItem])) (fun _ holds => holds)
        (fun _ _ ⟨sameKey, deleted, converts⟩ =>
          ⟨sameKey, by simp [Order.converts, kind, deleted],
            by simpa [Order.converts, kind] using converts⟩)
        fun _ ⟨done, earlier, converts⟩ => ⟨cartItem :: done,
          by simpa [Order.converts, kind] using earlier, by simpa using converts⟩

/-- The pass converts nothing on items none of which it converts. -/
theorem reclassifyItems_of_forall_converts_eq_false (services : Services) (isBusiness : Bool) :
    ∀ (cartItems : List OrderItem) (self : Order) (itemsToDelete : List OrderItem),
      (∀ item ∈ cartItems, Order.converts isBusiness item = false) →
      Order.reclassifyItems services isBusiness cartItems self itemsToDelete =
        pure (self, itemsToDelete)
  | [], _, _, _ => rfl
  | cartItem :: rest, self, itemsToDelete, unconverted => by
    have skipped := unconverted cartItem (List.mem_cons_self _ _)
    unfold Order.reclassifyItems
    split
    · simp_all [Order.converts]
    · simp_all [Order.converts]
    · exact reclassifyItems_of_forall_converts_eq_false services _ rest self itemsToDelete
        fun item member => unconverted item (List.mem_cons_of_mem _ member)

/-! ## What a pass that returns leaves -/

/-- Two items of a store satisfying the invariant with one id are one item. -/
theorem Store.Invariant.eq_of_id_eq (invariant : store.Invariant) {key key' : OrderId}
    {item item' : OrderItem} (member : item ∈ store.itemsOf key)
    (member' : item' ∈ store.itemsOf key') (same : item.id = item'.id) : item = item' :=
  Option.some.inj ((invariant.row_of_mem member).symm.trans
    (same ▸ invariant.row_of_mem member'))

/-- Deleting the items of order `key` the pass converts, from a store that appended their
replacements to `base`, leaves on `key` the items the pass does not convert followed by the
replacements, and every other order as in `base`. -/
theorem Store.Appends.itemsOf_foldl_deleteItem_converted {key : OrderId}
    {created : List OrderItem} (appends : store.Appends base key created)
    (invariant : base.Invariant)
    (keyed : ∀ slot item, store.items slot = some item → item.id = slot)
    (isBusiness : Bool) (other : OrderId) :
    (((base.itemsOf key).filter (Order.converts isBusiness)).foldl Store.deleteItem
        store).itemsOf other =
      if other = key then (base.itemsOf key).filter (!Order.converts isBusiness ·) ++ created
      else base.itemsOf other := by
  rw [Store.itemsOf_foldl_deleteItem _ _ keyed]
  -- a converted item is the only item of `base` with its id
  have kept (item : OrderItem) (member : item ∈ base.itemsOf item.order)
      (unconverted : item.order = key → Order.converts isBusiness item = false) :
      ((base.itemsOf key).filter (Order.converts isBusiness)).all (item.id != ·.id) = true := by
    simp only [List.all_eq_true, List.mem_filter, bne_iff_ne, ne_eq]
    rintro gone ⟨goneMember, picked⟩ same
    obtain rfl := invariant.eq_of_id_eq member goneMember same
    exact absurd picked (by simp [unconverted (Store.mem_itemsOf.mp goneMember).2])
  split_ifs with here
  · subst here
    rw [appends.itemsOf, List.filter_append]
    congr 1
    · refine List.filter_congr fun item member => ?_
      have onOrder := (Store.mem_itemsOf.mp member).2
      cases picked : Order.converts isBusiness item
      · exact kept item (onOrder ▸ member) fun _ => picked
      · simp only [Bool.not_true, List.all_eq_false, List.mem_filter, bne_self_eq_false,
          Bool.false_eq_true, not_false_eq_true, and_true]
        exact ⟨item, ⟨member, picked⟩, by simp⟩
    · refine List.filter_eq_self.mpr fun item member => ?_
      simp only [List.all_eq_true, List.mem_filter, bne_iff_ne, ne_eq]
      rintro gone ⟨goneMember, -⟩ same
      have older := invariant.id_lt_of_mem_itemsOf goneMember
      rw [← same] at older
      exact absurd (appends.fresh item member) (Nat.not_le.mpr older)
  · rw [appends.itemsOf_of_ne here]
    refine List.filter_eq_self.mpr fun item member => ?_
    have onOrder := (Store.mem_itemsOf.mp member).2
    exact kept item (onOrder ▸ member) fun sameOrder => absurd (onOrder ▸ sameOrder) here

/-- When `update_order_type` returns on an order of a store satisfying the invariant, the
order is saved with its new type, each item it converts is deleted and replaced by a row
under a new key, and every other item, of the order or not, is left alone. -/
theorem updateOrderType_ok (services : Services) (invariant : store.Invariant)
    {self self' : Order} (stored : store.orders self.id = some self)
    (returned : Order.updateOrderType services self store = .ok self' store') :
    store'.Tracks store self' ∧ self'.id = self.id ∧
      self'.orderType = (if Order.isBusinessFor store self then .business else .personal) ∧
      ∃ created, store'.itemsOf self.id = (store.itemsOf self.id).filter
          (!Order.converts (Order.isBusinessFor store self) ·) ++ created ∧
        List.Forall₂ (Order.Replaces (Order.isBusinessFor store self))
          ((store.itemsOf self.id).filter (Order.converts (Order.isBusinessFor store self)))
          created ∧
        ∀ other ≠ self.id, store'.itemsOf other = store.itemsOf other := by
  have tracked := Order.updateOrderType_tracks services self store (invariant.tracks stored)
  rw [returned] at tracked
  obtain ⟨tracks, sameId, -⟩ := tracked
  have converted := reclassifyItems_converts services (Order.isBusinessFor store self) store
    self.id (store.itemsOf self.id) self [] [] store ⟨rfl, [], .refl store self.id, .nil⟩
  have middleTracks := Order.reclassifyItems_tracks services (Order.isBusinessFor store self)
    (store.itemsOf self.id) self [] store (invariant.tracks stored)
  rw [Order.updateOrderType_apply] at returned
  cases pass : Order.reclassifyItems services (Order.isBusinessFor store self)
      (store.itemsOf self.id) self [] store with
  | error => rw [pass] at returned; cases returned
  | ok result middle =>
    rw [pass] at returned converted middleTracks
    cases returned
    obtain ⟨-, deleted, created, appends, replaced⟩ := converted
    have keyed slot item (row : middle.items slot = some item) : item.id = slot :=
      (middleTracks.1.invariant.item_key slot item row).1
    have items := appends.itemsOf_foldl_deleteItem_converted invariant keyed
    rw [deleted, List.nil_append] at tracks ⊢
    refine ⟨tracks, sameId, rfl, created, ?_, by simpa using replaced, fun other elsewhere => ?_⟩
    · rw [Store.itemsOf_saveOrder, items, if_pos rfl]
    · rw [Store.itemsOf_saveOrder, items, if_neg elsewhere]

theorem exists_of_mem_forall₂_left {R : α → β → Prop} :
    ∀ {as : List α} {bs : List β}, List.Forall₂ R as bs → ∀ {a}, a ∈ as → ∃ b ∈ bs, R a b
  | _, _, .nil, _, member => absurd member (List.not_mem_nil _)
  | _, _, .cons related rest, _, member => by
    rcases List.mem_cons.mp member with rfl | later
    · exact ⟨_, List.mem_cons_self _ _, related⟩
    · obtain ⟨b, found, relates⟩ := exists_of_mem_forall₂_left rest later
      exact ⟨b, List.mem_cons_of_mem _ found, relates⟩

theorem exists_of_mem_forall₂_right {R : α → β → Prop} :
    ∀ {as : List α} {bs : List β}, List.Forall₂ R as bs → ∀ {b}, b ∈ bs → ∃ a ∈ as, R a b
  | _, _, .nil, _, member => absurd member (List.not_mem_nil _)
  | _, _, .cons related rest, _, member => by
    rcases List.mem_cons.mp member with rfl | later
    · exact ⟨_, List.mem_cons_self _ _, related⟩
    · obtain ⟨a, found, relates⟩ := exists_of_mem_forall₂_right rest later
      exact ⟨a, List.mem_cons_of_mem _ found, relates⟩

/-- The replacements keep whether some item of the order has a quantity above one: a
business order's replacements keep their quantities, a personal order's have one. -/
theorem any_qty_after_conversions {items created : List OrderItem}
    (replaced : List.Forall₂ (Order.Replaces (items.any fun item => item.qty > 1))
      (items.filter (Order.converts (items.any fun item => item.qty > 1))) created) :
    ((items.filter (!Order.converts (items.any fun item => item.qty > 1) ·) ++ created).any
      fun item => item.qty > 1) = items.any fun item => item.qty > 1 := by
  refine Bool.eq_iff_iff.mpr ⟨fun large => ?_, fun large => ?_⟩
  · obtain ⟨item, member, itemLarge⟩ := List.any_eq_true.mp large
    rcases List.mem_append.mp member with kept | new
    · exact List.any_eq_true.mpr ⟨item, (List.mem_filter.mp kept).1, itemLarge⟩
    · obtain ⟨old, -, _, -, -, qty⟩ := exists_of_mem_forall₂_right replaced new
      by_contra small
      rw [Bool.not_eq_true] at small
      simp [qty, small] at itemLarge
  · obtain ⟨item, member, itemLarge⟩ := List.any_eq_true.mp large
    cases picked : Order.converts (items.any fun item => item.qty > 1) item
    · exact List.any_eq_true.mpr ⟨item, List.mem_append_left _ (List.mem_filter.mpr
        ⟨member, by simp [picked]⟩), itemLarge⟩
    · obtain ⟨new, newMember, _, -, -, qty⟩ :=
        exists_of_mem_forall₂_left replaced (List.mem_filter.mpr ⟨member, picked⟩)
      exact List.any_eq_true.mpr ⟨new, List.mem_append_right _ newMember, by
        simpa [qty, large] using itemLarge⟩

/-- On an order stored as it is, typed by its items, none of which the pass converts,
`update_order_type` returns the order and writes nothing. -/
theorem updateOrderType_of_reclassified (services : Services) {self : Order}
    (stored : store.orders self.id = some self)
    (typed : self.orderType =
      if Order.isBusinessFor store self then .business else .personal)
    (unconverted : ∀ item ∈ store.itemsOf self.id,
      Order.converts (Order.isBusinessFor store self) item = false) :
    Order.updateOrderType services self store = .ok self store := by
  rw [Order.updateOrderType_apply,
    reclassifyItems_of_forall_converts_eq_false services _ _ self [] unconverted, pure_apply,
    ← typed]
  simp [Store.saveOrder_of_row stored]

/-- What `update_order_type` leaves when it returns `self'` and `store'` on order `self` of
`store`. -/
structure Order.Reclassified (services : Services) (store store' : Store) (self self' : Order) :
    Prop where
  /-- The order is saved as returned. -/
  row : store'.orders self.id = some self'
  /-- Its type is business exactly when one of its items had a quantity above one. -/
  business : self'.orderType = .business ↔ ∃ item ∈ store.itemsOf self.id, item.qty > 1
  /-- It holds no item of the kind the pass converts: no seat in a business order, no code
  bundle in a personal one. -/
  unconverted : ∀ item ∈ store'.itemsOf self.id,
    Order.converts (Order.isBusinessFor store self) item = false
  /-- Its items are those the pass leaves alone, then one replacement for each item it
  converts, in turn. -/
  replaced : ∃ created, store'.itemsOf self.id = (store.itemsOf self.id).filter
      (!Order.converts (Order.isBusinessFor store self) ·) ++ created ∧
    List.Forall₂ (Order.Replaces (Order.isBusinessFor store self))
      ((store.itemsOf self.id).filter (Order.converts (Order.isBusinessFor store self))) created
  /-- The items of every other order are left alone. -/
  others : ∀ other ≠ self.id, store'.itemsOf other = store.itemsOf other
  /-- A second call returns the order and writes nothing. -/
  idempotent : Order.updateOrderType services self' store' = .ok self' store'

/-- Whenever `update_order_type` returns on an order of a store satisfying the invariant,
it leaves the order reclassified, and a second call writes nothing. -/
theorem updateOrderType_reclassifies_once (services : Services) (invariant : store.Invariant)
    {self self' : Order} (stored : store.orders self.id = some self)
    (returned : Order.updateOrderType services self store = .ok self' store') :
    Order.Reclassified services store store' self self' := by
  obtain ⟨tracks, sameId, typed, created, items, replaced, others⟩ :=
    updateOrderType_ok services invariant stored returned
  have row : store'.orders self.id = some self' := sameId ▸ tracks.row
  have unconverted (item : OrderItem) (member : item ∈ store'.itemsOf self.id) :
      Order.converts (Order.isBusinessFor store self) item = false := by
    rw [items] at member
    rcases List.mem_append.mp member with kept | new
    · simpa using (List.mem_filter.mp kept).2
    · obtain ⟨_, -, replaces⟩ := exists_of_mem_forall₂_right replaced new
      exact Order.converts_eq_false_of_replaces replaces
  have sameType : Order.isBusinessFor store' self' = Order.isBusinessFor store self := by
    rw [Order.isBusinessFor, sameId, items]
    exact any_qty_after_conversions replaced
  refine ⟨row, ?_, unconverted, ⟨created, items, replaced⟩, others, ?_⟩
  · have large : Order.isBusinessFor store self = true ↔
        ∃ item ∈ store.itemsOf self.id, item.qty > 1 := by
      simp [Order.isBusinessFor]
    rw [typed, ← large]
    cases Order.isBusinessFor store self <;> simp
  · refine updateOrderType_of_reclassified services (sameId ▸ row) (by rw [sameType, typed])
      fun item member => ?_
    rw [sameType]
    exact unconverted item (sameId ▸ member)

/-- User 5's cart holding one code bundle of course 1, of quantity one. -/
def bundleInCart : List (Services × Operation) :=
  [(.oneCourse, .getCartForUser 5),
   (.oneCourse, .addCourseRegCodeItem 0 1 1 "honor" none none)]

theorem updateOrderType_reclassifies_once_bundleInCart :
    Order.Reclassified .oneCourse
      (run (fun _ price => price) (Store.initial (fun _ => none) 0) bundleInCart)
      ((Order.updateOrderType .oneCourse { id := 0, user := 5 }).after
        (run (fun _ price => price) (Store.initial (fun _ => none) 0) bundleInCart))
      { id := 0, user := 5 } { id := 0, user := 5 } :=
  updateOrderType_reclassifies_once .oneCourse
    (reachable_invariant _ (reachable_run _ (.initial _ _) _)) (by decide) rfl

/-! ## What a pass that raises leaves -/

/-- When `update_order_type` raises, the items of the order are all still there, followed
by the replacements of the items converted before the conversion that raised; the items
of every other order are left alone. -/
theorem updateOrderType_raises_after_conversions (services : Services) {self : Order}
    {error : ShoppingCartError}
    (raised : Order.updateOrderType services self store = .error error store') :
    ∃ done created,
      done <+: (store.itemsOf self.id).filter (Order.converts (Order.isBusinessFor store self)) ∧
      store'.itemsOf self.id = store.itemsOf self.id ++ created ∧
      List.Forall₂ (Order.Replaces (Order.isBusinessFor store self)) done created ∧
      ∀ other ≠ self.id, store'.itemsOf other = store.itemsOf other := by
  rw [Order.updateOrderType_apply] at raised
  have converted := reclassifyItems_converts services (Order.isBusinessFor store self) store
    self.id (store.itemsOf self.id) self [] [] store ⟨rfl, [], .refl store self.id, .nil⟩
  cases pass : Order.reclassifyItems services (Order.isBusinessFor store self)
      (store.itemsOf self.id) self [] store with
  | ok => rw [pass] at raised; cases raised
  | error _ middle =>
    rw [pass] at raised converted
    cases raised
    obtain ⟨done, earlier, created, appends, replaced⟩ := converted
    exact ⟨done, created, earlier, appends.itemsOf, by simpa using replaced,
      fun _ elsewhere => appends.itemsOf_of_ne elsewhere⟩

/-- The store after user 5 puts in a cart a seat of course 1, a seat of course 2 and a
bundle of two codes of course 2. -/
def seatsAndBundle : Store :=
  run (fun _ price => price) (Store.initial (fun _ => none) 0)
    [(.twoCourses, .getCartForUser 5),
     (.twoCourses, .addPaidCourseRegistration 0 1 "honor" none none),
     (.twoCourses, .addPaidCourseRegistration 0 2 "honor" none none),
     (.twoCourses, .addCourseRegCodeItem 0 2 2 "honor" none none)]

theorem updateOrderType_raises_after_conversions_seatsAndBundle :
    ∃ done created,
      done <+: (seatsAndBundle.itemsOf 0).filter
        (Order.converts (Order.isBusinessFor seatsAndBundle { id := 0, user := 5 })) ∧
      ((Order.updateOrderType .twoCourses { id := 0, user := 5 }).after seatsAndBundle).itemsOf
        0 = seatsAndBundle.itemsOf 0 ++ created ∧
      List.Forall₂ (Order.Replaces (Order.isBusinessFor seatsAndBundle { id := 0, user := 5 }))
        done created ∧
      ∀ other ≠ 0,
        ((Order.updateOrderType .twoCourses { id := 0, user := 5 }).after
          seatsAndBundle).itemsOf other = seatsAndBundle.itemsOf other :=
  @updateOrderType_raises_after_conversions _ _ .twoCourses _ .itemAlreadyInCartException rfl

/-- On this cart the pass raises when it converts the seat of course 2, whose code bundle
is already in the cart, and leaves behind the code bundle it made of the seat of course 1
next to the seat itself: the items of the order are not as they were before the call. -/
theorem update_order_type_raise_keeps_first_conversion :
    seatsAndBundle.orders 0 = some { id := 0, user := 5 } ∧
    Order.updateOrderType .twoCourses { id := 0, user := 5 } seatsAndBundle =
      .error .itemAlreadyInCartException
        ((Order.updateOrderType .twoCourses { id := 0, user := 5 }).after seatsAndBundle) ∧
    (seatsAndBundle.itemsOf 0).map (fun item => (item.kind, item.qty)) =
      [(.paidCourseRegistration 1 "honor", 1), (.paidCourseRegistration 2 "honor", 1),
       (.courseRegCodeItem 2 "honor", 2)] ∧
    (((Order.updateOrderType .twoCourses { id := 0, user := 5 }).after seatsAndBundle).itemsOf
        0).map (fun item => (item.kind, item.qty)) =
      [(.paidCourseRegistration 1 "honor", 1), (.paidCourseRegistration 2 "honor", 1),
       (.courseRegCodeItem 2 "honor", 2), (.courseRegCodeItem 1 "honor", 1)] :=
  ⟨by decide, rfl, by decide, by decide⟩

/-! ## One seat and one code bundle per course -/

/-- The rows of `variant` for course `courseId` among the items of order `key`. -/
def SeatVariant.seatsOf (variant : SeatVariant) (store : Store) (key : OrderId)
    (courseId : CourseId) : List OrderItem :=
  (store.itemsOf key).filter fun item => variant.courseOf item.kind == some courseId

/-- No order holds two rows of `variant` for one course. -/
def SeatVariant.OneSeatPerCourse (variant : SeatVariant) (store : Store) : Prop :=
  ∀ key courseId, (variant.seatsOf store key courseId).length ≤ 1

/-- The two seat subclasses, whose `add_to_order` checks `contained_in_order`. -/
def seatVariants : List SeatVariant := [PaidCourseRegistration.variant, CourseRegCodeItem.variant]

/-- Every order holds at most one seat and at most one code bundle of each course. -/
def Store.OneSeatPerCourse (store : Store) : Prop :=
  ∀ variant ∈ seatVariants, variant.OneSeatPerCourse store

/-- A row of one seat subclass is a row of no other, and names the course it was made
for. -/
theorem SeatVariant.eq_of_courseOf_kind {variant other : SeatVariant}
    (seat : variant ∈ seatVariants) (otherSeat : other ∈ seatVariants)
    {courseId courseId' : CourseId} {mode : String}
    (courseOf : other.courseOf (variant.kind courseId mode) = some courseId') :
    other = variant ∧ courseId' = courseId := by
  simp only [seatVariants, List.mem_cons, List.mem_singleton, List.not_mem_nil, or_false]
    at seat otherSeat
  rcases seat with rfl | rfl <;> rcases otherSeat with rfl | rfl <;>
    simp_all [PaidCourseRegistration.variant, CourseRegCodeItem.variant]

/-- A store before the first call holds no items. -/
theorem Store.oneSeatPerCourse_initial (registrationCodes : Table CourseRegistrationCode)
    (nextCodeId : Nat) : (Store.initial registrationCodes nextCodeId).OneSeatPerCourse :=
  fun _ _ _ _ => by simp [SeatVariant.seatsOf, Store.itemsOf, Table.rows, Store.initial]

/-- A write that only drops item rows keeps one seat per course. -/
theorem Store.OneSeatPerCourse.of_sublist (holds : store.OneSeatPerCourse)
    (sub : ∀ key, List.Sublist (store'.itemsOf key) (store.itemsOf key)) :
    store'.OneSeatPerCourse :=
  fun variant seat key courseId =>
    ((sub key).filter _).length_le.trans (holds variant seat key courseId)

/-- Inserting a row keeps one row of `variant` per course when the order of the row holds
none of `variant` for its course. -/
theorem SeatVariant.OneSeatPerCourse.createItem_saveOrder {variant : SeatVariant}
    (holds : variant.OneSeatPerCourse store) (item : OrderItem) (order : Order)
    (alone : ∀ courseId, variant.courseOf item.kind = some courseId →
      variant.seatsOf store item.order courseId = []) :
    variant.OneSeatPerCourse ((store.createItem fun _ => item).saveOrder order) := by
  intro key courseId
  simp only [SeatVariant.seatsOf, Store.itemsOf_saveOrder, Store.itemsOf_createItem,
    List.filter_append, List.length_append]
  by_cases mine : item.order = key ∧ variant.courseOf item.kind = some courseId
  · obtain ⟨rfl, courseOf⟩ := mine
    have empty := alone courseId courseOf
    simp only [SeatVariant.seatsOf] at empty
    simp [empty, courseOf]
  · have other : (([item].filter (·.order == key)).filter
        fun item => variant.courseOf item.kind == some courseId) = [] := by
      simp only [List.filter_cons, List.filter_nil, beq_iff_eq]
      split <;> simp_all
    simpa [other] using holds key courseId

/-- A seat factory keeps one seat and one code bundle per course: it inserts a row only
when the order holds none of its subclass for the course. -/
theorem SeatVariant.keeps_oneSeatPerCourse_addToOrder (variant : SeatVariant)
    (seat : variant ∈ seatVariants) (services : Services) (order : Order) (courseId : CourseId)
    (qty : Int) (modeSlug : String) (cost : Option Int) (currency : Option String) :
    Keeps Store.OneSeatPerCourse
      (variant.addToOrder services order courseId qty modeSlug cost currency) :=
  keeps_addToOrder variant services order courseId qty modeSlug cost currency
    fun _ item holds absent _ onOrder ⟨_, kind⟩ other otherSeat =>
      (holds other otherSeat).createItem_saveOrder item _ fun _ courseOf => by
        rw [kind] at courseOf
        obtain ⟨rfl, rfl⟩ := eq_of_courseOf_kind seat otherSeat courseOf
        rw [onOrder]
        simpa [SeatVariant.seatsOf, SeatVariant.containedInOrder, List.filter_eq_nil_iff]
          using absent

theorem Order.keeps_oneSeatPerCourse_updateOrderType (services : Services) (self : Order) :
    Keeps Store.OneSeatPerCourse (Order.updateOrderType services self) :=
  keeps_updateOrderType services
    (fun _ _ => PaidCourseRegistration.variant.keeps_oneSeatPerCourse_addToOrder
      (by simp [seatVariants]) _ _ _ _ _ _ _)
    (fun _ _ _ => CourseRegCodeItem.variant.keeps_oneSeatPerCourse_addToOrder
      (by simp [seatVariants]) _ _ _ _ _ _ _)
    (fun _ _ holds => holds.of_sublist
      (Store.itemsOf_sublist (fun _ _ stored => (Table.erase_eq_some.mp stored).2) rfl))
    (fun _ _ holds => holds) self

theorem Order.keeps_oneSeatPerCourse_clear (order : Order) :
    Keeps Store.OneSeatPerCourse (Order.clear order) :=
  keeps_write fun _ holds => holds.of_sublist
    (Store.itemsOf_sublist (fun _ _ stored => (Option.filter_eq_some.mp stored).1) rfl)

theorem Order.keeps_oneSeatPerCourse_getCartForUser (user : UserId) :
    Keeps Store.OneSeatPerCourse (Order.getCartForUser user) :=
  keeps_bind (keeps_read _ _) fun
    | some _ => keeps_pure _ _
    | none => fun _ holds => holds

/-- The calls that make and change carts of seats: `get_cart_for_user`, the two seat
factories, `update_order_type` and `clear`. -/
def Operation.IsSeatCall : Operation → Bool
  | .getCartForUser _ | .addPaidCourseRegistration _ _ _ _ _
  | .addCourseRegCodeItem _ _ _ _ _ _ | .updateOrderType _ | .clear _ => true
  | _ => false

/-- Every run of seat calls, with any services, keeps every order to at most one seat and
at most one code bundle of each course. -/
theorem run_seat_calls_keep_one_seat_per_course (getDiscountPrice : Int → Int → Int)
    (holds : store.OneSeatPerCourse) (calls : List (Services × Operation))
    (seatCalls : ∀ call ∈ calls, call.2.IsSeatCall) :
    (run getDiscountPrice store calls).OneSeatPerCourse := by
  refine run_induction getDiscountPrice (fun ⟨services, operation⟩ member store holds => ?_) holds
  have seatCall := seatCalls _ member
  cases operation <;> simp only [Operation.IsSeatCall, Bool.false_eq_true] at seatCall
  · exact keeps_bind (Order.keeps_oneSeatPerCourse_getCartForUser _)
      (fun _ => keeps_pure _ ()) store holds
  · exact keeps_withOrder (fun _ => PaidCourseRegistration.variant.keeps_oneSeatPerCourse_addToOrder
      (by simp [seatVariants]) _ _ _ _ _ _ _) store holds
  · exact keeps_withOrder (fun _ => CourseRegCodeItem.variant.keeps_oneSeatPerCourse_addToOrder
      (by simp [seatVariants]) _ _ _ _ _ _ _) store holds
  · exact keeps_withOrder Order.keeps_oneSeatPerCourse_clear store holds
  · exact keeps_withOrder (Order.keeps_oneSeatPerCourse_updateOrderType services) store holds

theorem run_seat_calls_keep_one_seat_per_course_repeatedSeat :
    (run (fun _ price => price) (Store.initial (fun _ => none) 0)
      [(.twoCourses, .getCartForUser 5),
       (.twoCourses, .addPaidCourseRegistration 0 1 "honor" none none),
       (.twoCourses, .addPaidCourseRegistration 0 1 "honor" none none),
       (.twoCourses, .addCourseRegCodeItem 0 1 3 "honor" none none),
       (.twoCourses, .updateOrderType 0),
       (.twoCourses, .clear 0)]).OneSeatPerCourse :=
  run_seat_calls_keep_one_seat_per_course (fun _ price => price)
    (Store.oneSeatPerCourse_initial _ _) _ (by decide)

/-! ## What `purchase` fulfils -/

/-- The pass `purchase` runs before its loop returns the order as stored, purchased, and
logs no fulfilment. -/
theorem purchase_pass_tracks (services : Services) {self self' : Order}
    (tracks : store.Tracks base self) (purchased : self.status = .purchased)
    (passed : (if self.orderType = .business then Order.updateOrderType services self
      else pure self) store = .ok self' store') :
    store'.Tracks base self' ∧ self'.id = self.id ∧ self'.status = .purchased ∧
      store'.fulfilments = store.fulfilments := by
  split at passed
  · have pass := (Order.updateOrderType_tracks services self).and_keeps
      (Order.keeps_fulfilments_updateOrderType services self store.fulfilments) store ⟨tracks, rfl⟩
    rw [passed] at pass
    obtain ⟨⟨tracks', sameId, sameStatus⟩, log⟩ := pass
    exact ⟨tracks', sameId, sameStatus.trans purchased, log⟩
  · cases passed
    exact ⟨tracks, rfl, purchased, rfl⟩

/-- A `purchase` that returns on an order not purchased yet has saved it as purchased, run
the reclassification pass to a return, and run the loop of `purchase_item` over the items
the order then holds to a return; the confirmation after the loop writes nothing. -/
theorem Order.purchase_ok {services : Services} (invariant : store.Invariant) {self : Order}
    {billTo : BillTo} (stored : store.orders self.id = some self)
    (notPurchased : self.status ≠ .purchased)
    (returned : Order.purchase services self billTo store = .ok () store') :
    let closed := { self with
      status := .purchased
      billTo := Order.recordBilling self.billTo billTo services.storeBillingInfo }
    ∃ self' reclassified,
      (if closed.orderType = .business then Order.updateOrderType services closed
        else pure closed) (store.saveOrder closed) = .ok self' reclassified ∧
      (reclassified.itemsOf self.id).forM (OrderItem.purchaseItem services) reclassified =
        .ok () store' := by
  intro closed
  rw [Order.purchase, if_neg notPurchased] at returned
  obtain ⟨_, _, wrote, returned⟩ := bind_eq_ok returned
  cases wrote
  obtain ⟨self', reclassified, passed, returned⟩ := bind_eq_ok returned
  obtain ⟨-, sameId, -, -⟩ := purchase_pass_tracks services
    ((invariant.tracks stored).saveOrder closed rfl rfl (.inr rfl) rfl) rfl passed
  obtain ⟨_, _, read, returned⟩ := bind_eq_ok returned
  cases read
  obtain ⟨_, looped, loop, confirmed⟩ := bind_eq_ok returned
  cases Order.confirmPurchase_ok confirmed
  exact ⟨self', reclassified, passed, sameId ▸ loop⟩

/-- The loop of `purchase` that returns, on a store that tracks the purchased order, logs
the fulfilment of each item the order holds, each once, leaves the order as it was, marks
its items purchased and brings back no deleted row. -/
theorem purchase_loop_ok (services : Services) {self : Order} (tracks : store.Tracks base self)
    (looped : (store.itemsOf self.id).forM (OrderItem.purchaseItem services) store =
      .ok () store') :
    store'.fulfilments = store.fulfilments ++ (store.itemsOf self.id).map (·.id) ∧
      ((store.itemsOf self.id).map (·.id)).Nodup ∧ store'.orders self.id = some self ∧
      store'.itemsOf self.id =
        (store.itemsOf self.id).map (fun item => { item with status := .purchased }) ∧
      (∀ item ∈ store'.itemsOf self.id, item.status = .purchased) ∧
      ∀ key, store.items key = none → store'.items key = none := by
  have lifecycle := OrderItem.forM_purchaseItem_ok services _ looped
  simp only [Store.lifecycle, Prod.mk.injEq] at lifecycle
  obtain ⟨orders, -, items, nextItemId, fulfilments⟩ := lifecycle
  replace items := items.trans (tracks.invariant.foldl_set_status_itemsOf self.id .purchased)
  have marked : store'.itemsOf self.id =
      (store.itemsOf self.id).map (fun item => { item with status := .purchased }) := by
    rw [← Store.itemsOf_markItemsOf]
    simp only [Store.itemsOf, items, nextItemId]
    rfl
  refine ⟨fulfilments, tracks.invariant.nodup_ids_itemsOf _, orders ▸ tracks.row, marked,
    fun item member => ?_, fun key gone => by simp [items, Store.markItemsOf, gone]⟩
  obtain ⟨_, -, rfl⟩ := List.mem_map.mp (marked ▸ member)
  rfl

/-- When `purchase` returns on an order of a store satisfying the invariant that is not
purchased yet, the fulfilments it logs are those of the items the order holds after the
reclassification pass, each once; an item the pass deleted is neither fulfilled nor saved
back; and the order and all its items are left purchased. -/
theorem purchase_fulfils_reclassified_items (services : Services) (invariant : store.Invariant)
    {self : Order} (billTo : BillTo) (stored : store.orders self.id = some self)
    (notPurchased : self.status ≠ .purchased)
    (returned : Order.purchase services self billTo store = .ok () store') :
    let closed := { self with
      status := .purchased
      billTo := Order.recordBilling self.billTo billTo services.storeBillingInfo }
    ∃ self' reclassified,
      (if closed.orderType = .business then Order.updateOrderType services closed
        else pure closed) (store.saveOrder closed) = .ok self' reclassified ∧
      store'.fulfilments = store.fulfilments ++ (reclassified.itemsOf self.id).map (·.id) ∧
      ((reclassified.itemsOf self.id).map (·.id)).Nodup ∧
      (∀ item ∈ store.itemsOf self.id, reclassified.items item.id = none →
        item.id ∉ (reclassified.itemsOf self.id).map (·.id) ∧ store'.items item.id = none) ∧
      store'.orders self.id = some self' ∧ self'.status = .purchased ∧
      store'.itemsOf self.id =
        (reclassified.itemsOf self.id).map (fun item => { item with status := .purchased }) ∧
      ∀ item ∈ store'.itemsOf self.id, item.status = .purchased := by
  intro closed
  obtain ⟨self', reclassified, passed, looped⟩ :=
    Order.purchase_ok invariant stored notPurchased returned
  obtain ⟨tracks, sameId, purchased, log⟩ := purchase_pass_tracks services
    ((invariant.tracks stored).saveOrder closed rfl rfl (.inr rfl) rfl) rfl passed
  rw [← sameId] at looped ⊢
  obtain ⟨fulfilments, distinct, row, marked, allPurchased, kept⟩ :=
    purchase_loop_ok services tracks looped
  refine ⟨self', reclassified, passed, by rw [fulfilments, log]; rfl, distinct,
    fun item _ gone => ⟨fun fulfilled => ?_, kept _ gone⟩, row, purchased, marked, allPurchased⟩
  obtain ⟨other, member, same⟩ := List.mem_map.mp fulfilled
  rw [← same, tracks.invariant.row_of_mem member] at gone
  cases gone

/-- The store after user 5 puts in a cart a seat of course 1 and a bundle of two codes of
course 2, and the pass turns the order into a business one. -/
def businessCart : Store :=
  run (fun _ price => price) (Store.initial (fun _ => none) 0)
    [(.twoCourses, .getCartForUser 5),
     (.twoCourses, .addPaidCourseRegistration 0 1 "honor" none none),
     (.twoCourses, .addCourseRegCodeItem 0 2 2 "honor" none none),
     (.twoCourses, .updateOrderType 0)]

/-- User 5's business cart: a bundle of two codes of course 2, the pass run, and then a
seat of course 1, which the pass inside `purchase` converts and deletes. -/
def businessCartWithSeat : Store :=
  run (fun _ price => price) (Store.initial (fun _ => none) 0)
    [(.twoCourses, .getCartForUser 5),
     (.twoCourses, .addCourseRegCodeItem 0 2 2 "honor" none none),
     (.twoCourses, .updateOrderType 0),
     (.twoCourses, .addPaidCourseRegistration 0 1 "honor" none none)]

theorem purchase_fulfils_reclassified_items_businessCart :
    let closed : Order :=
      { id := 0, user := 5, orderType := .business, status := .purchased,
        billTo := Order.recordBilling {} {} false }
    let paid := (Order.purchase .twoCourses { id := 0, user := 5, orderType := .business } {}).after
      businessCartWithSeat
    ∃ self' reclassified,
      (if closed.orderType = .business then Order.updateOrderType .twoCourses closed
        else pure closed) (businessCartWithSeat.saveOrder closed) = .ok self' reclassified ∧
      paid.fulfilments = businessCartWithSeat.fulfilments ++ (reclassified.itemsOf 0).map (·.id) ∧
      ((reclassified.itemsOf 0).map (·.id)).Nodup ∧
      (∀ item ∈ businessCartWithSeat.itemsOf 0, reclassified.items item.id = none →
        item.id ∉ (reclassified.itemsOf 0).map (·.id) ∧ paid.items item.id = none) ∧
      paid.orders 0 = some self' ∧ self'.status = .purchased ∧
      paid.itemsOf 0 =
        (reclassified.itemsOf 0).map (fun item => { item with status := .purchased }) ∧
      ∀ item ∈ paid.itemsOf 0, item.status = .purchased :=
  @purchase_fulfils_reclassified_items businessCartWithSeat _ .twoCourses
    (reachable_invariant _ (reachable_run _ (.initial _ _) _))
    { id := 0, user := 5, orderType := .business } {} (by decide) (by decide) rfl

/-- The pass turns the seat (item 1) into a bundle of course 1 (item 2) and deletes it;
the purchase fulfils the two bundles only. -/
example : ((Order.purchase .twoCourses { id := 0, user := 5, orderType := .business } {}).after
      businessCartWithSeat).fulfilments = [0, 2] ∧
    ((Order.purchase .twoCourses { id := 0, user := 5, orderType := .business } {}).after
      businessCartWithSeat).items 1 = none := by decide

end ShoppingCart
