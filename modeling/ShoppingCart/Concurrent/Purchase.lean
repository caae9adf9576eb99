import ShoppingCart.Lifecycle

/-! # Two purchases of one order at once

`Order.purchase` checks the status of the caller's copy of the order, saves it as
purchased, and only then fulfils the items; nothing locks the order in between. A
request is modelled by the store step it takes next, so that two requests can be
interleaved step by step. A step is atomic where the code is: one read, one save, one
`purchase_item` transaction, and `update_order_type`, taken as one step, as are the codes
CSV and the e-mails after the loop, which write nothing.

A request that runs alone ends and leaves what the sequential call leaves
(`PurchaseStage.finishes_load`), from which the schedule results below start: two
requests run one after the other leave what one `purchase` leaves
(`serial_purchases_purchase_once`). More generally, every schedule that
never has both requests holding an unpurchased copy leaves what one `purchase` leaves
(`purchases_outside_window_purchase_once`): each step outside that window keeps one of the
two requests idle, the other running as it would alone. Two requests that both load the
order before either saves it fulfil every item twice.
-/

namespace ShoppingCart

/-- Where one `purchase` request stands: the store step it takes next. -/
inductive PurchaseStage
  /-- The view loads the order stored under `key`. -/
  | load (key : OrderId)
  /-- `purchase` checks the status of its copy and saves the copy as purchased. -/
  | save (self : Order)
  /-- `update_order_type()`, if the order is a business order. -/
  | reclassify (self : Order)
  /-- The loop evaluates the query `orderitems`. -/
  | read (self : Order)
  /-- `purchase_item()` of each item `left` of `orderitems`, then the codes CSV and the
  e-mails. -/
  | fulfil (self : Order) (orderitems left : List OrderItem)
  | done
  deriving Repr

namespace PurchaseStage

variable (services : Services) (billTo : BillTo)

/-- The store step a request takes at a stage, and the stage it moves to. -/
def next : PurchaseStage → Action PurchaseStage
  | .load key => do
    match ← Action.read (·.orders key) with
    | some self => pure (.save self)
    | none => pure .done
  | .save self =>
    if self.status = .purchased then pure .done else do
      let self := { self with
        status := .purchased
        billTo := Order.recordBilling self.billTo billTo services.storeBillingInfo }
      Action.write (·.saveOrder self)
      pure (.reclassify self)
  | .reclassify self => do
    let self ← (if self.orderType = .business then Order.updateOrderType services self
      else pure self)
    pure (.read self)
  | .read self => do
    let orderitems ← Action.read (·.itemsOf self.id)
    pure (.fulfil self orderitems orderitems)
  | .fulfil self orderitems [] => do
    Order.confirmPurchase services self orderitems
    pure .done
  | .fulfil self orderitems (item :: left) => do
    OrderItem.purchaseItem services item
    pure (.fulfil self orderitems left)
  | .done => pure .done

/-- One step of a request. A step that raises ends the request; what it wrote stays. -/
def advance (stage : PurchaseStage) (store : Store) : PurchaseStage × Store :=
  match next services billTo stage store with
  | .ok stage' store' => (stage', store')
  | .error _ store' => (.done, store')

/-- At most `fuel` steps of one request that runs alone. -/
def runAlone : Nat → PurchaseStage × Store → PurchaseStage × Store
  | 0, state => state
  | fuel + 1, (stage, store) => runAlone fuel (advance services billTo stage store)

/-- Run alone from `stage` and `store`, the request ends and leaves `result`. -/
def Finishes (stage : PurchaseStage) (store result : Store) : Prop :=
  ∃ bound, ∀ fuel, bound ≤ fuel →
    runAlone services billTo fuel (stage, store) = (.done, result)

theorem runAlone_done : ∀ (fuel : Nat) (store : Store),
    runAlone services billTo fuel (.done, store) = (.done, store)
  | 0, _ => rfl
  | fuel + 1, store => runAlone_done fuel store

theorem finishes_done (store : Store) : Finishes services billTo .done store store :=
  ⟨0, fun fuel _ => runAlone_done services billTo fuel store⟩

theorem Finishes.of_advance {stage stage' : PurchaseStage} {store store' result : Store}
    (advanced : advance services billTo stage store = (stage', store'))
    (finishes : Finishes services billTo stage' store' result) :
    Finishes services billTo stage store result := by
  obtain ⟨bound, finished⟩ := finishes
  refine ⟨bound + 1, fun fuel enough => ?_⟩
  cases fuel with
  | zero => omega
  | succ fuel =>
    show runAlone services billTo fuel (advance services billTo stage store) = _
    rw [advanced]
    exact finished fuel (by omega)

/-- A step that raises ends the request where it stopped. -/
theorem finishes_of_error {stage : PurchaseStage} {store store' : Store}
    (error : ShoppingCartError) (raised : next services billTo stage store = .error error store') :
    Finishes services billTo stage store store' :=
  .of_advance services billTo (by simp [advance, raised]) (finishes_done services billTo store')

theorem finishes_of_ok {stage stage' : PurchaseStage} {store store' result : Store}
    (returned : next services billTo stage store = .ok stage' store')
    (finishes : Finishes services billTo stage' store' result) :
    Finishes services billTo stage store result :=
  .of_advance services billTo (by simp [advance, returned]) finishes

/-- The confirmation ends the request and writes nothing, whether it returns or raises. -/
theorem advance_confirm (self : Order) (orderitems : List OrderItem) (store : Store) :
    advance services billTo (.fulfil self orderitems []) store = (.done, store) := by
  simp only [advance, next, Action.bind_apply, Order.confirmPurchase_apply]
  split_ifs <;> rfl

/-- The fulfilment stages run the loop of `purchase`. -/
theorem finishes_fulfil (self : Order) (orderitems : List OrderItem) :
    ∀ (left : List OrderItem) (store : Store),
      Finishes services billTo (.fulfil self orderitems left) store
        ((left.forM (OrderItem.purchaseItem services)).after store)
  | [], store => .of_advance services billTo (advance_confirm services billTo self orderitems store)
      (finishes_done services billTo store)
  | item :: left, store => by
    rw [List.forM_cons', Action.after_bind]
    cases fulfilled : OrderItem.purchaseItem services item store with
    | ok _ store' =>
      exact finishes_of_ok services billTo (by simp [next, fulfilled])
        (finishes_fulfil self orderitems left store')
    | error failure store' =>
      exact finishes_of_error services billTo failure (by simp [next, fulfilled])

theorem finishes_read (self : Order) (store : Store) :
    Finishes services billTo (.read self) store
      ((do
        let orderitems ← Action.read (·.itemsOf self.id)
        orderitems.forM (OrderItem.purchaseItem services)
        Order.confirmPurchase services self orderitems).after store) := by
  rw [Action.after_read_bind, Order.after_bind_confirmPurchase]
  exact finishes_of_ok services billTo rfl (finishes_fulfil services billTo self _ _ store)

theorem finishes_reclassify (self : Order) (store : Store) :
    Finishes services billTo (.reclassify self) store
      ((do
        let self ← (if self.orderType = OrderType.business then
          Order.updateOrderType services self else pure self)
        let orderitems ← Action.read (·.itemsOf self.id)
        orderitems.forM (OrderItem.purchaseItem services)
        Order.confirmPurchase services self orderitems).after store) := by
  rw [Action.after_bind]
  split
  · rename_i self' store' reclassified
    refine finishes_of_ok services billTo ?_ (finishes_read services billTo self' store')
    simp [next, reclassified]
  · rename_i failure store' reclassified
    exact finishes_of_error services billTo failure (by simp [next, reclassified])

/-- From the loaded order on, a request does what `Order.purchase` does. -/
theorem finishes_save (self : Order) (store : Store) :
    Finishes services billTo (.save self) store
      ((Order.purchase services self billTo).after store) := by
  unfold Order.purchase
  by_cases purchased : self.status = .purchased
  · simp only [purchased, if_true, Action.after_pure]
    refine finishes_of_ok services billTo ?_ (finishes_done services billTo store)
    simp [next, purchased]
  · rw [if_neg purchased, Action.after_write_bind]
    refine finishes_of_ok services billTo ?_ (finishes_reclassify services billTo _ _)
    simp [next, purchased]

theorem finishes_load_none {key : OrderId} {store : Store} (row : store.orders key = none) :
    Finishes services billTo (.load key) store store := by
  refine finishes_of_ok services billTo ?_ (finishes_done services billTo store)
  simp [next, row]

theorem finishes_load_some {key : OrderId} {store : Store} {self : Order}
    (row : store.orders key = some self) :
    Finishes services billTo (.load key) store
      ((Order.purchase services self billTo).after store) := by
  refine finishes_of_ok services billTo ?_ (finishes_save services billTo self store)
  simp [next, row]

/-- A request that loads an order stored as `purchased` ends without writing. -/
theorem finishes_load_purchased {key : OrderId} {store : Store} {old : Order}
    (row : store.orders key = some old) (purchased : old.status = .purchased) :
    Finishes services billTo (.load key) store store := by
  have saved : Finishes services billTo (.save old) store store :=
    finishes_of_ok services billTo (by simp [next, purchased]) (finishes_done services billTo store)
  refine finishes_of_ok services billTo ?_ saved
  simp [next, row]

/-- A request that runs alone ends, and leaves the store the sequential call
`purchase` of the order under `key` leaves. -/
theorem finishes_load (key : OrderId) (store : Store) :
    Finishes services billTo (.load key) store
      ((withOrder key fun order => Order.purchase services order billTo).after store) := by
  cases row : store.orders key with
  | none => rw [withOrder_after_none row]; exact finishes_load_none services billTo row
  | some self => rw [withOrder_after_some row]; exact finishes_load_some services billTo row

/-! ## What a request writes from each stage on -/

/-- The order under `key` is missing or stored as `purchased`. -/
def Settled (store : Store) (key : OrderId) : Prop :=
  ∀ order, store.orders key = some order → order.status = .purchased

/-- A request that writes nothing from here on: it has ended, holds a purchased copy, or
has still to load an order that is missing or purchased. -/
def Idle (key : OrderId) (store : Store) : PurchaseStage → Prop
  | .load key' => key' = key ∧ Settled store key
  | .save copy => copy.status = .purchased
  | .done => True
  | _ => False

/-- A request that has not saved the order yet. -/
def Unsaved : PurchaseStage → Prop
  | .load _ | .save _ => True
  | _ => False

/-- What a request on the order under `key` of `start` knows of the store at each stage:
nothing is written before it saves, it then tracks its saved copy through the pass, and
after the pass the order stays missing or purchased. -/
def Ahead (start : Store) (key : OrderId) (store : Store) : PurchaseStage → Prop
  | .load key' => key' = key ∧ store = start
  | .save copy => store = start ∧ start.orders key = some copy
  | .reclassify self => store.Tracks start self ∧ self.id = key ∧ self.status = .purchased
  | .read _ | .fulfil _ _ _ | .done => Settled store key

/-- The store a step leaves is the one its call leaves, whether it returned or raised. -/
theorem advance_store (stage : PurchaseStage) (store : Store) :
    (advance services billTo stage store).2 = (next services billTo stage).after store := by
  cases result : next services billTo stage store <;> simp [advance, Action.after, result]

theorem Finishes.advance {stage : PurchaseStage} {store result : Store}
    (finishes : Finishes services billTo stage store result) :
    Finishes services billTo (PurchaseStage.advance services billTo stage store).1
      (PurchaseStage.advance services billTo stage store).2 result := by
  obtain ⟨bound, finished⟩ := finishes
  exact ⟨bound, fun fuel enough => finished (fuel + 1) (by omega)⟩

theorem Finishes.eq_of_done {store result : Store}
    (finishes : Finishes services billTo .done store result) : store = result := by
  obtain ⟨bound, finished⟩ := finishes
  simpa [runAlone_done] using finished bound le_rfl

/-- An idle request steps without writing, and stays idle. -/
theorem Idle.advance {key : OrderId} {store : Store} {stage : PurchaseStage}
    (idle : stage.Idle key store) :
    (advance services billTo stage store).2 = store ∧
      (advance services billTo stage store).1.Idle key store := by
  match stage, idle with
  | .load _, ⟨rfl, settled⟩ =>
    cases row : store.orders key with
    | none => simp [PurchaseStage.advance, next, row, Idle]
    | some order => simpa [PurchaseStage.advance, next, row, Idle] using settled order row
  | .save copy, purchased =>
    have purchased : copy.status = .purchased := purchased
    simp [PurchaseStage.advance, next, purchased, Idle]
  | .done, _ => simp [PurchaseStage.advance, next, Idle]

variable {start : Store} {key : OrderId}

/-- The pass of a request that tracks its purchased copy leaves the order purchased,
whether it returns or raises. -/
theorem settled_after_reclassify {store : Store} {self : Order}
    (tracks : store.Tracks start self) (keyed : self.id = key)
    (purchased : self.status = .purchased) :
    Settled ((if self.orderType = .business then Order.updateOrderType services self
      else pure self).after store) key := by
  intro order stored
  split at stored
  · have pass := Order.updateOrderType_tracks services self store tracks
    unfold Action.after at stored
    cases passed : Order.updateOrderType services self store with
    | ok self' store' =>
      rw [passed] at pass stored
      obtain ⟨tracks', sameId, sameStatus⟩ := pass
      rw [← keyed, ← sameId, tracks'.row] at stored
      cases stored
      exact sameStatus.trans purchased
    | error _ store' =>
      rw [passed] at pass stored
      obtain ⟨-, old, row, oldStatus⟩ := pass
      rw [← keyed, row] at stored
      cases stored
      exact oldStatus.trans purchased
  · rw [Action.after_pure, ← keyed, tracks.row] at stored
    cases stored
    exact purchased

/-- Fulfilling an item writes no order. -/
theorem settled_after_purchaseItem {store : Store} (item : OrderItem)
    (settled : Settled store key) :
    Settled ((OrderItem.purchaseItem services item).after store) key := by
  have orders : ((OrderItem.purchaseItem services item).after store).orders = store.orders := by
    rcases OrderItem.purchaseItem_lifecycle services item store with same | saved
    · exact congrArg Prod.fst same
    · exact congrArg Prod.fst saved
  exact fun order stored => settled order (orders ▸ stored)

/-- What a request knows of the store at its next stage. -/
theorem Ahead.advance (invariant : start.Invariant) {store : Store} {stage : PurchaseStage}
    (ahead : stage.Ahead start key store) :
    (advance services billTo stage store).1.Ahead start key
      (advance services billTo stage store).2 := by
  match stage, ahead with
  | .load _, ⟨rfl, same⟩ =>
    subst same
    cases row : store.orders key with
    | none => simp [PurchaseStage.advance, next, row, Ahead, Settled]
    | some copy => simp [PurchaseStage.advance, next, row, Ahead]
  | .save copy, ⟨same, row⟩ =>
    subst same
    by_cases purchased : copy.status = .purchased
    · simp only [PurchaseStage.advance, next, purchased, if_true, Action.pure_apply, Ahead]
      intro order stored
      rw [row] at stored
      cases stored
      exact purchased
    · have keyed := (invariant.order_key key copy row).1
      simp only [PurchaseStage.advance, next, purchased, if_false, Action.bind_apply,
        Action.write_apply, Action.pure_apply, Ahead]
      exact ⟨(invariant.tracks (show store.orders copy.id = some copy by rw [keyed]; exact row)
        ).saveOrder _ rfl rfl (.inr rfl) rfl, keyed, trivial⟩
  | .reclassify self, ⟨tracks, keyed, purchased⟩ =>
    have settled := settled_after_reclassify services tracks keyed purchased
    simp only [PurchaseStage.advance, next, Action.bind_apply]
    cases passed : (if self.orderType = .business then Order.updateOrderType services self
        else pure self) store with
    | ok => simpa [Action.after_of_ok passed, Ahead] using settled
    | error => simpa [Action.after_of_error passed, Ahead] using settled
  | .read _, settled => simpa [PurchaseStage.advance, next, Ahead] using settled
  | .fulfil self orderitems [], settled =>
    rw [advance_confirm]
    exact settled
  | .fulfil _ _ (item :: _), settled =>
    have stays := settled_after_purchaseItem services item settled
    cases fulfilled : OrderItem.purchaseItem services item store with
    | ok =>
      simpa [PurchaseStage.advance, next, fulfilled, Ahead, Action.after_of_ok fulfilled]
        using stays
    | error =>
      simpa [PurchaseStage.advance, next, fulfilled, Ahead, Action.after_of_error fulfilled]
        using stays
  | .done, settled => simpa [PurchaseStage.advance, next, Ahead] using settled

/-- Saving a purchased copy of the order under `key` leaves it purchased. -/
theorem settled_saveOrder (store : Store) {order : Order} (keyed : order.id = key)
    (purchased : order.status = .purchased) : Settled (store.saveOrder order) key := by
  intro stored row
  simp only [Store.saveOrder, Table.set_apply, keyed, if_true, Option.some.injEq] at row
  rw [← row]
  exact purchased

/-- A step of a request keeps an order that is missing or purchased so. -/
theorem settled_advance (invariant : start.Invariant) {store : Store} {stage : PurchaseStage}
    (ahead : stage.Ahead start key store) (settled : Settled store key) :
    Settled (advance services billTo stage store).2 key := by
  rw [advance_store]
  match stage, ahead with
  | .load _, ⟨rfl, _⟩ => cases row : store.orders key <;> simpa [next, row] using settled
  | .save copy, ⟨same, row⟩ =>
    subst same
    by_cases purchased : copy.status = .purchased
    · simpa [next, purchased] using settled
    · simp only [next, purchased, if_false, Action.after_write_bind, Action.after_pure]
      exact settled_saveOrder _ (invariant.order_key key copy row).1 rfl
  | .reclassify self, ⟨tracks, keyed, purchased⟩ =>
    simpa [next] using settled_after_reclassify services tracks keyed purchased
  | .read _, _ => simpa [next] using settled
  | .fulfil _ _ [], _ => simpa [next] using settled
  | .fulfil _ _ (item :: _), _ =>
    simpa [next] using settled_after_purchaseItem services item settled
  | .done, _ => simpa [next] using settled

/-- An idle request stays idle while another request that knows the store takes a step. -/
theorem Idle.of_advance (invariant : start.Invariant) {store : Store}
    {leader other : PurchaseStage} (ahead : leader.Ahead start key store)
    (idle : other.Idle key store) :
    other.Idle key (PurchaseStage.advance services billTo leader store).2 := by
  match other, idle with
  | .load _, ⟨rfl, settled⟩ =>
    exact ⟨rfl, settled_advance services billTo invariant ahead settled⟩
  | .save _, purchased => exact purchased
  | .done, _ => trivial

/-- Both requests hold a copy of the order, loaded before either saved it, and neither
copy is purchased: the window in which two purchases both go on to fulfil. -/
def bothUnpurchased : PurchaseStage → PurchaseStage → Bool
  | .save copy, .save copy' => copy.status != .purchased && copy'.status != .purchased
  | _, _ => false

theorem bothUnpurchased_comm (stage stage' : PurchaseStage) :
    bothUnpurchased stage stage' = bothUnpurchased stage' stage := by
  cases stage <;> cases stage' <;> simp [bothUnpurchased, Bool.and_comm]

end PurchaseStage

/-! ## Two requests -/

/-- Two `purchase` requests and the store they share. -/
structure PurchasePair where
  first : PurchaseStage
  second : PurchaseStage
  store : Store

namespace PurchasePair

variable (services : Services) (billTo : BillTo)

/-- The first request (`true`) or the second takes its next step. -/
def step (pair : PurchasePair) : Bool → PurchasePair
  | true =>
    let (first, store) := PurchaseStage.advance services billTo pair.first pair.store
    { pair with first, store }
  | false =>
    let (second, store) := PurchaseStage.advance services billTo pair.second pair.store
    { pair with second, store }

/-- The requests take their steps in the order of `schedule`. -/
def interleave (pair : PurchasePair) (schedule : List Bool) : PurchasePair :=
  schedule.foldl (step services billTo) pair

theorem interleave_append (pair : PurchasePair) (schedule schedule' : List Bool) :
    interleave services billTo pair (schedule ++ schedule') =
      interleave services billTo (interleave services billTo pair schedule) schedule' :=
  List.foldl_append _ _ _ _

/-- Steps of the first request alone are a run of it alone. -/
theorem interleave_replicate_true : ∀ (steps : Nat) (pair : PurchasePair),
    interleave services billTo pair (List.replicate steps true) =
      { pair with
        first := (PurchaseStage.runAlone services billTo steps (pair.first, pair.store)).1
        store := (PurchaseStage.runAlone services billTo steps (pair.first, pair.store)).2 }
  | 0, _ => rfl
  | steps + 1, pair => interleave_replicate_true steps (step services billTo pair true)

theorem interleave_replicate_false : ∀ (steps : Nat) (pair : PurchasePair),
    interleave services billTo pair (List.replicate steps false) =
      { pair with
        second := (PurchaseStage.runAlone services billTo steps (pair.second, pair.store)).1
        store := (PurchaseStage.runAlone services billTo steps (pair.second, pair.store)).2 }
  | 0, _ => rfl
  | steps + 1, pair => interleave_replicate_false steps (step services billTo pair false)

/-- A schedule that runs the second request only once the first has ended runs the two
one after the other. -/
theorem interleave_serial {first second : PurchaseStage} {store middle result : Store}
    (firstEnds : PurchaseStage.Finishes services billTo first store middle)
    (secondEnds : PurchaseStage.Finishes services billTo second middle result) :
    ∃ bound, ∀ firstSteps secondSteps, bound ≤ firstSteps → bound ≤ secondSteps →
      interleave services billTo ⟨first, second, store⟩
        (List.replicate firstSteps true ++ List.replicate secondSteps false) =
      ⟨.done, .done, result⟩ := by
  obtain ⟨firstBound, firstRuns⟩ := firstEnds
  obtain ⟨secondBound, secondRuns⟩ := secondEnds
  refine ⟨max firstBound secondBound, fun firstSteps secondSteps firstEnough secondEnough => ?_⟩
  rw [interleave_append, interleave_replicate_true]
  simp only [firstRuns firstSteps (le_of_max_le_left firstEnough)]
  rw [interleave_replicate_false]
  simp only [secondRuns secondSteps (le_of_max_le_right secondEnough)]

/-! ## Schedules that keep out of the window -/

/-- Both requests are in the window. -/
def bothLoaded (pair : PurchasePair) : Bool := pair.first.bothUnpurchased pair.second

variable {start result : Store} {key : OrderId}

/-- Neither request has saved, nothing is written, and each would end with `result` if it
ran alone from here. -/
def Pending (start result : Store) (key : OrderId) (one other : PurchaseStage)
    (store : Store) : Prop :=
  one.Unsaved ∧ other.Unsaved ∧ one.Ahead start key store ∧ other.Ahead start key store ∧
    one.Finishes services billTo store result ∧ other.Finishes services billTo store result

/-- The leader would end with `result` if it ran alone from here, and the other request
writes nothing. -/
def Leads (start result : Store) (key : OrderId) (leader other : PurchaseStage)
    (store : Store) : Prop :=
  leader.Finishes services billTo store result ∧ leader.Ahead start key store ∧
    other.Idle key store

/-- Where two purchases of the order under `key` stand on a schedule that has kept out of
the window: as one purchase alone, ending with `result`. -/
def Serializes (start result : Store) (key : OrderId) (pair : PurchasePair) : Prop :=
  Pending services billTo start result key pair.first pair.second pair.store ∨
    Leads services billTo start result key pair.first pair.second pair.store ∨
    Leads services billTo start result key pair.second pair.first pair.store

theorem Pending.symm {one other : PurchaseStage} {store : Store}
    (pending : Pending services billTo start result key one other store) :
    Pending services billTo start result key other one store :=
  let ⟨oneUnsaved, otherUnsaved, oneAhead, otherAhead, oneEnds, otherEnds⟩ := pending
  ⟨otherUnsaved, oneUnsaved, otherAhead, oneAhead, otherEnds, oneEnds⟩

/-- One step of either request, outside the window, keeps the two as one purchase. -/
theorem moves (invariant : start.Invariant) {mover partner : PurchaseStage} {store : Store}
    (outside : mover.bothUnpurchased partner = false)
    (serial : Pending services billTo start result key mover partner store ∨
      Leads services billTo start result key mover partner store ∨
      Leads services billTo start result key partner mover store) :
    Pending services billTo start result key (mover.advance services billTo store).1 partner
        (mover.advance services billTo store).2 ∨
      Leads services billTo start result key (mover.advance services billTo store).1 partner
        (mover.advance services billTo store).2 ∨
      Leads services billTo start result key partner (mover.advance services billTo store).1
        (mover.advance services billTo store).2 := by
  rcases serial with ⟨moverUnsaved, partnerUnsaved, moverAhead, partnerAhead, moverEnds,
      partnerEnds⟩ | ⟨ends, ahead, idle⟩ | ⟨ends, ahead, idle⟩
  · have moverAhead' := moverAhead.advance services billTo invariant
    cases mover with
    | load =>
      obtain ⟨keyed, same⟩ := moverAhead
      subst same
      cases row : store.orders key with
      | none =>
        simp only [PurchaseStage.advance, PurchaseStage.next, keyed, row, Action.bind_apply,
          Action.read_apply, Action.pure_apply]
        exact .inr (.inr ⟨partnerEnds, partnerAhead, trivial⟩)
      | some copy =>
        have ends := moverEnds.advance
        simp only [PurchaseStage.advance, PurchaseStage.next, keyed, row, Action.bind_apply,
          Action.read_apply, Action.pure_apply] at ends ⊢
        exact .inl ⟨trivial, partnerUnsaved, ⟨rfl, row⟩, partnerAhead, ends, partnerEnds⟩
    | save copy =>
      obtain ⟨same, row⟩ := moverAhead
      subst same
      by_cases purchased : copy.status = .purchased
      · simp only [PurchaseStage.advance, PurchaseStage.next, purchased, if_true,
          Action.pure_apply]
        exact .inr (.inr ⟨partnerEnds, partnerAhead, trivial⟩)
      · refine .inr (.inl ⟨moverEnds.advance, moverAhead', ?_⟩)
        simp only [PurchaseStage.advance, PurchaseStage.next, purchased, if_false,
          Action.bind_apply, Action.write_apply, Action.pure_apply]
        cases partner with
        | load =>
          exact ⟨partnerAhead.1,
            PurchaseStage.settled_saveOrder _ (invariant.order_key key copy row).1 rfl⟩
        | save copy' =>
          obtain ⟨-, row'⟩ := partnerAhead
          obtain rfl : copy' = copy := Option.some.inj (row'.symm.trans row)
          simp [PurchaseStage.bothUnpurchased, purchased] at outside
        | _ => exact partnerUnsaved.elim
    | _ => exact moverUnsaved.elim
  · exact .inr (.inl ⟨ends.advance, ahead.advance services billTo invariant,
      PurchaseStage.Idle.of_advance services billTo invariant ahead idle⟩)
  · obtain ⟨same, idle'⟩ := PurchaseStage.Idle.advance services billTo idle
    rw [same]
    exact .inr (.inr ⟨ends, ahead, idle'⟩)

/-- One step of the pair, outside the window, keeps the two as one purchase. -/
theorem Serializes.step (invariant : start.Invariant) {pair : PurchasePair}
    (serial : Serializes services billTo start result key pair)
    (outside : pair.bothLoaded = false) (choice : Bool) :
    Serializes services billTo start result key (step services billTo pair choice) := by
  cases choice
  · have moved := moves services billTo invariant
      ((PurchaseStage.bothUnpurchased_comm _ _).trans outside)
      (by rcases serial with pending | leads | leads
          exacts [.inl pending.symm, .inr (.inr leads), .inr (.inl leads)])
    rcases moved with pending | leads | leads
    exacts [.inl pending.symm, .inr (.inr leads), .inr (.inl leads)]
  · exact moves services billTo invariant outside serial

end PurchasePair

/-- User 5 has put the verified certificate of course 1 in their cart. -/
def certificateInCart : List (Services × Operation) :=
  [(.oneCourse, .getCartForUser 5),
   (.oneCourse, .addCertificateItem 0 1 50 "verified" "usd")]

/-- Two purchase requests of one order, the second started only once the first has ended,
leave what one `purchase` leaves: the second finds the order purchased and writes nothing. -/
theorem serial_purchases_purchase_once (services : Services) (billTo : BillTo) {store : Store}
    (invariant : store.Invariant) (key : OrderId) :
    ∃ bound, ∀ first second, bound ≤ first → bound ≤ second →
      (PurchasePair.interleave services billTo ⟨.load key, .load key, store⟩
        (List.replicate first true ++ List.replicate second false)).store =
      (withOrder key fun order => Order.purchase services order billTo).after store := by
  have second : PurchaseStage.Finishes services billTo (.load key)
      ((withOrder key fun order => Order.purchase services order billTo).after store)
      ((withOrder key fun order => Order.purchase services order billTo).after store) := by
    cases row : store.orders key with
    | none =>
      rw [withOrder_after_none row]
      exact PurchaseStage.finishes_load_none services billTo row
    | some self =>
      have keyed := (invariant.order_key key self row).1
      obtain ⟨-, old, closed, purchased⟩ :=
        Order.purchase_hasOrderAt services billTo (invariant.tracks (keyed ▸ row))
      rw [keyed] at closed
      rw [withOrder_after_some row]
      exact PurchaseStage.finishes_load_purchased services billTo closed purchased
  obtain ⟨bound, serial⟩ := PurchasePair.interleave_serial services billTo
    (PurchaseStage.finishes_load services billTo key store) second
  exact ⟨bound, fun first second firstEnough secondEnough =>
    congrArg PurchasePair.store (serial first second firstEnough secondEnough)⟩

theorem serial_purchases_purchase_once_certificateInCart :
    ∃ bound, ∀ first second, bound ≤ first → bound ≤ second →
      (PurchasePair.interleave .oneCourse {}
        ⟨.load 0, .load 0,
          run (fun _ price => price) (Store.initial (fun _ => none) 0) certificateInCart⟩
        (List.replicate first true ++ List.replicate second false)).store =
      (withOrder 0 fun order => Order.purchase .oneCourse order {}).after
        (run (fun _ price => price) (Store.initial (fun _ => none) 0) certificateInCart) :=
  serial_purchases_purchase_once .oneCourse {}
    (reachable_invariant _ (reachable_run _ (.initial _ _) _)) 0

/-- Both requests load the cart, then both save it, then each fulfils the items. -/
def loadsBeforeSaves : List Bool :=
  [true, false, true, false, true, true, false, false, true, false]

/-- Two purchases of the cart that both load it before either saves it each fulfil the
certificate: it is fulfilled twice, and both requests end. -/
theorem concurrent_purchases_fulfil_twice :
    (PurchasePair.interleave .oneCourse {}
        ⟨.load 0, .load 0,
          run (fun _ price => price) (Store.initial (fun _ => none) 0) certificateInCart⟩
        loadsBeforeSaves).store.fulfilments = [0, 0] := by
  decide

/-- Every schedule of two purchase requests of one order that never has both requests
holding an unpurchased copy at once, once both have ended, leaves what one sequential
`purchase` of the order leaves: outside that window the requests serialize, and the one
that loads second finds the order purchased and writes nothing. -/
theorem purchases_outside_window_purchase_once (services : Services) (billTo : BillTo)
    {store : Store} (invariant : store.Invariant) (key : OrderId) (schedule : List Bool)
    (outside : ∀ steps ≤ schedule.length,
      (PurchasePair.interleave services billTo ⟨.load key, .load key, store⟩
        (schedule.take steps)).bothLoaded = false)
    (firstEnded : (PurchasePair.interleave services billTo ⟨.load key, .load key, store⟩
      schedule).first = .done)
    (secondEnded : (PurchasePair.interleave services billTo ⟨.load key, .load key, store⟩
      schedule).second = .done) :
    (PurchasePair.interleave services billTo ⟨.load key, .load key, store⟩ schedule).store =
      (withOrder key fun order => Order.purchase services order billTo).after store := by
  have ends := PurchaseStage.finishes_load services billTo key store
  have serial := @schedule_induction _ (PurchasePair.step services billTo)
    (PurchasePair.Serializes services billTo store
      ((withOrder key fun order => Order.purchase services order billTo).after store) key)
    (fun pair => pair.bothLoaded = true)
    (fun _ choice serial outside _ => serial.step services billTo invariant
      (by simpa using outside) choice)
    schedule ⟨.load key, .load key, store⟩
    (.inl ⟨trivial, trivial, ⟨rfl, rfl⟩, ⟨rfl, rfl⟩, ends, ends⟩)
    fun steps fits => by simpa using outside steps fits
  unfold PurchasePair.interleave at firstEnded secondEnded ⊢
  rcases serial with ⟨unsaved, -⟩ | ⟨finishes, -⟩ | ⟨finishes, -⟩
  · rw [firstEnded] at unsaved
    exact unsaved.elim
  · rw [firstEnded] at finishes
    exact finishes.eq_of_done
  · rw [secondEnded] at finishes
    exact finishes.eq_of_done

/-- The first request saves the cart before the second loads it; the second then finds it
purchased and ends while the first fulfils the certificate. -/
def savesBeforeLoads : List Bool :=
  [true, true, false, true, false, true, true, true]

theorem purchases_outside_window_purchase_once_certificateInCart :
    (PurchasePair.interleave .oneCourse {}
        ⟨.load 0, .load 0,
          run (fun _ price => price) (Store.initial (fun _ => none) 0) certificateInCart⟩
        savesBeforeLoads).store =
      (withOrder 0 fun order => Order.purchase .oneCourse order {}).after
        (run (fun _ price => price) (Store.initial (fun _ => none) 0) certificateInCart) :=
  purchases_outside_window_purchase_once .oneCourse {}
    (reachable_invariant _ (reachable_run _ (.initial _ _) _)) 0 savesBeforeLoads
    (by decide) rfl rfl

end ShoppingCart
