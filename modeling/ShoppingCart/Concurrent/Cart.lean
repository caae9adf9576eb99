import ShoppingCart.System

/-! # Two requests for one user's cart at once

`Order.get_cart_for_user` keeps at most one cart per user only while its calls do not
overlap. It looks for the user's newest cart and, finding none, calls `get_or_create`,
whose lookup and insert are two more store steps, with no unique constraint on the user's
carts between them. A request is modelled by the store step it takes next. Run alone, a
request does what the sequential call does (`CartStage.runAlone_find`), so that a request
started once another has ended finds that one's cart
(`serial_cart_requests_return_one_cart`). Over every
schedule the user has one cart more for each request past its insert, and outside the
window in which both requests have passed the lookup of `get_or_create` at most one of
them has; so two requests that end leave the user two new carts exactly when their
schedule enters that window (`creates_two_carts_iff_both_looked_up`).
-/

namespace ShoppingCart

/-- The carts of `user`, in key order: `filter(user=user, status='cart')`. -/
def Store.cartsOf (store : Store) (user : UserId) : List Order :=
  (store.orders.rows store.nextOrderId).filter (Order.isCartOf user)

/-- A new cart of `user` comes after the ones there were. -/
theorem Store.cartsOf_createOrder (store : Store) (user : UserId) :
    (store.createOrder fun id => { id, user }).cartsOf user =
      store.cartsOf user ++ [{ id := store.nextOrderId, user }] := by
  simp [Store.cartsOf, Store.createOrder, Table.rows_set_self, Order.isCartOf]

/-- Where one `get_cart_for_user` request stands: the store step it takes next, or how it
ended. -/
inductive CartStage
  /-- `filter(user=user, status='cart').order_by('-id')[:1].get()`. -/
  | find
  /-- The lookup of `get_or_create(user=user, status='cart')`, a `get`. -/
  | lookup
  /-- The insert of `get_or_create`, once its lookup found nothing. -/
  | create
  /-- The call returned `cart`; `created` is the flag `get_or_create` returns with it. -/
  | returned (cart : Order) (created : Bool)
  /-- The `get` of `get_or_create` found several carts. -/
  | multipleObjectsReturned
  deriving DecidableEq, Repr

namespace CartStage

variable (user : UserId)

/-- One store step of a request for the cart of `user`, and the stage it moves to. -/
def advance : CartStage → Store → CartStage × Store
  | .find, store =>
    match (store.orders.rows store.nextOrderId).reverse.find? (Order.isCartOf user) with
    | some cartOrder => (.returned cartOrder false, store)
    | none => (.lookup, store)
  | .lookup, store =>
    match store.cartsOf user with
    | [] => (.create, store)
    | [cartOrder] => (.returned cartOrder false, store)
    | _ :: _ :: _ => (.multipleObjectsReturned, store)
  | .create, store =>
    (.returned { id := store.nextOrderId, user } true, store.createOrder fun id => { id, user })
  | .returned cartOrder created, store => (.returned cartOrder created, store)
  | .multipleObjectsReturned, store => (.multipleObjectsReturned, store)

/-- At most `fuel` steps of one request that runs alone. -/
def runAlone : Nat → CartStage × Store → CartStage × Store
  | 0, state => state
  | fuel + 1, (stage, store) => runAlone fuel (advance user stage store)

/-- The request has returned or raised. -/
def ended : CartStage → Bool
  | .returned _ _ | .multipleObjectsReturned => true
  | _ => false

theorem runAlone_ended {stage : CartStage} (finished : stage.ended = true) :
    ∀ (fuel : Nat) (store : Store), runAlone user fuel (stage, store) = (stage, store)
  | 0, _ => rfl
  | fuel + 1, store => by
    have stays : advance user stage store = (stage, store) := by
      cases stage <;> simp_all [ended, advance]
    show runAlone user fuel (advance user stage store) = _
    rw [stays]
    exact runAlone_ended finished fuel store

/-- A request that runs alone for three steps or more returns the cart the sequential
`get_cart_for_user` returns, with the same store: the lookup of `get_or_create` finds
nothing where the first query found nothing, and only then does it create. -/
theorem runAlone_find (store : Store) (fuel : Nat) (enough : 3 ≤ fuel) :
    ∃ cart store', Order.getCartForUser user store = .ok cart store' ∧
      runAlone user fuel (.find, store) = (.returned cart
        ((store.orders.rows store.nextOrderId).reverse.find? (Order.isCartOf user)).isNone,
        store') := by
  obtain ⟨fuel, rfl⟩ := Nat.exists_eq_add_of_le' enough
  rw [Order.getCartForUser_apply]
  cases found : (store.orders.rows store.nextOrderId).reverse.find? (Order.isCartOf user) with
  | some cart =>
    refine ⟨cart, store, rfl, ?_⟩
    simp only [runAlone, advance, found]
    exact @runAlone_ended user (.returned cart false) rfl _ _
  | none =>
    have none : store.cartsOf user = [] := List.filter_eq_nil_iff.mpr fun order member =>
      by simpa using List.find?_eq_none.mp found order (List.mem_reverse.mpr member)
    refine ⟨_, _, rfl, ?_⟩
    simp only [runAlone, advance, found, none]
    exact @runAlone_ended user (.returned { id := store.nextOrderId, user } true) rfl _ _

/-! ## What each step writes -/

/-- The carts a request has inserted: one once its `get_or_create` has created one. -/
def inserted : CartStage → Nat
  | .returned _ true => 1
  | _ => 0

/-- The request has passed the lookup of `get_or_create` and not yet inserted. -/
def lookedUp : CartStage → Bool
  | .create => true
  | _ => false

/-- The request has passed the lookup of `get_or_create` finding nothing: it is about to
insert, or has inserted. -/
def claims : CartStage → Nat
  | .create | .returned _ true => 1
  | _ => 0

theorem claims_eq (stage : CartStage) : stage.claims = stage.inserted + stage.lookedUp.toNat := by
  cases stage with
  | returned _ created => cases created <;> rfl
  | _ => rfl

theorem inserted_le_claims (stage : CartStage) : stage.inserted ≤ stage.claims := by
  rw [claims_eq]
  exact Nat.le_add_right _ _

theorem claims_of_lookedUp {stage : CartStage} (passed : stage.lookedUp = true) :
    stage.claims = 1 := by
  cases stage <;> simp_all [lookedUp, claims]

theorem inserted_of_ended {stage : CartStage} (finished : stage.ended = true)
    (claimed : stage.claims = 1) : stage.inserted = 1 := by
  cases stage with
  | returned _ created => cases created <;> simp_all [claims, inserted]
  | _ => simp_all [ended, claims]

/-- How the carts of the user and the requests past their insert move together in one
step: only an insert writes, and it adds one cart of the user. -/
theorem carts_advance (stage : CartStage) (store : Store) :
    ((advance user stage store).2.cartsOf user).length + stage.inserted =
      (store.cartsOf user).length + (advance user stage store).1.inserted := by
  cases stage with
  | find =>
    simp only [advance]
    split <;> rfl
  | lookup =>
    simp only [advance]
    split <;> rfl
  | create => simp [advance, Store.cartsOf_createOrder, inserted]
  | returned | multipleObjectsReturned => rfl

/-- A step keeps a request's claim, but for the lookup that finds nothing, which needs the
user to have no cart. -/
theorem claims_advance (stage : CartStage) (store : Store) :
    (advance user stage store).1.claims = stage.claims ∨
      (advance user stage store).1.lookedUp = true ∧ store.cartsOf user = [] ∧
        stage.claims = 0 := by
  cases stage with
  | find =>
    left
    simp only [advance]
    split <;> rfl
  | lookup =>
    simp only [advance]
    split
    · exact .inr ⟨rfl, ‹_›, rfl⟩
    all_goals exact .inl rfl
  | create | returned | multipleObjectsReturned => exact .inl rfl

theorem advance_claimed {stage : CartStage} {store : Store} (claimed : stage.claims = 1) :
    (advance user stage store).1.claims = 1 := by
  rcases claims_advance user stage store with same | ⟨-, -, unclaimed⟩ <;> omega

end CartStage

/-! ## Two requests -/

/-- Two `get_cart_for_user` requests and the store they share. -/
structure CartPair where
  first : CartStage
  second : CartStage
  store : Store

namespace CartPair

variable (user : UserId)

/-- The first request (`true`) or the second takes its next step; both ask for the cart
of `user`. -/
def step (pair : CartPair) : Bool → CartPair
  | true =>
    let (first, store) := CartStage.advance user pair.first pair.store
    { pair with first, store }
  | false =>
    let (second, store) := CartStage.advance user pair.second pair.store
    { pair with second, store }

@[simp] theorem step_true (pair : CartPair) :
    step user pair true = ⟨(CartStage.advance user pair.first pair.store).1, pair.second,
      (CartStage.advance user pair.first pair.store).2⟩ := rfl

@[simp] theorem step_false (pair : CartPair) :
    step user pair false = ⟨pair.first, (CartStage.advance user pair.second pair.store).1,
      (CartStage.advance user pair.second pair.store).2⟩ := rfl

/-- The requests take their steps in the order of `schedule`. -/
def interleave (pair : CartPair) (schedule : List Bool) : CartPair :=
  schedule.foldl (step user) pair

theorem interleave_append (pair : CartPair) (schedule schedule' : List Bool) :
    interleave user pair (schedule ++ schedule') =
      interleave user (interleave user pair schedule) schedule' :=
  List.foldl_append _ _ _ _

/-- Steps of the first request alone are a run of it alone. -/
theorem interleave_replicate_true : ∀ (steps : Nat) (pair : CartPair),
    interleave user pair (List.replicate steps true) =
      { pair with
        first := (CartStage.runAlone user steps (pair.first, pair.store)).1
        store := (CartStage.runAlone user steps (pair.first, pair.store)).2 }
  | 0, _ => rfl
  | steps + 1, pair => interleave_replicate_true steps (step user pair true)

theorem interleave_replicate_false : ∀ (steps : Nat) (pair : CartPair),
    interleave user pair (List.replicate steps false) =
      { pair with
        second := (CartStage.runAlone user steps (pair.second, pair.store)).1
        store := (CartStage.runAlone user steps (pair.second, pair.store)).2 }
  | 0, _ => rfl
  | steps + 1, pair => interleave_replicate_false steps (step user pair false)

/-- Both requests have passed the lookup of `get_or_create` and neither has inserted. -/
def bothLookedUp (pair : CartPair) : Bool :=
  pair.first.lookedUp && pair.second.lookedUp

/-- The user has the `base` carts there were when the requests started, and one more for
each request past its insert. -/
def Counted (base : Nat) (pair : CartPair) : Prop :=
  (pair.store.cartsOf user).length = base + pair.first.inserted + pair.second.inserted

/-- At most one request has passed the lookup of `get_or_create` finding nothing. -/
def Exclusive (pair : CartPair) : Prop :=
  pair.first.claims + pair.second.claims ≤ 1

/-- Both requests have passed the lookup of `get_or_create` finding nothing. -/
def BothClaim (pair : CartPair) : Prop :=
  pair.first.claims = 1 ∧ pair.second.claims = 1

variable {user}

theorem Counted.step {base : Nat} {pair : CartPair} (counted : Counted user base pair)
    (choice : Bool) : Counted user base (step user pair choice) := by
  unfold Counted at counted ⊢
  cases choice
  · have moved := CartStage.carts_advance user pair.second pair.store
    simp only [step_false]; omega
  · have moved := CartStage.carts_advance user pair.first pair.store
    simp only [step_true]; omega

/-- A request whose lookup finds nothing while the other has not passed its own keeps the
two exclusive: the lookup needs the user to have no cart, so the other has not inserted. -/
theorem exclusive_advance {mover partner : CartStage} {store : Store} {base : Nat}
    (counted : (store.cartsOf user).length = base + mover.inserted + partner.inserted)
    (exclusive : mover.claims + partner.claims ≤ 1)
    (outside : (CartStage.advance user mover store).1.lookedUp = true →
      partner.lookedUp = false) :
    (CartStage.advance user mover store).1.claims + partner.claims ≤ 1 := by
  rcases CartStage.claims_advance user mover store with same | ⟨passed, none, unclaimed⟩
  · omega
  · rw [CartStage.claims_of_lookedUp passed, CartStage.claims_eq partner, outside passed,
      Bool.toNat_false]
    rw [none, List.length_nil] at counted
    omega

theorem Exclusive.step {base : Nat} {pair : CartPair} (counted : Counted user base pair)
    (exclusive : Exclusive pair) (choice : Bool)
    (outside : (step user pair choice).bothLookedUp = false) :
    Exclusive (step user pair choice) := by
  unfold Counted at counted
  unfold Exclusive at exclusive ⊢
  cases choice
  · simp only [step_false, bothLookedUp] at *
    have moved := exclusive_advance
      (show (pair.store.cartsOf user).length =
        base + pair.second.inserted + pair.first.inserted by omega) (by omega)
      fun passed => by simpa [passed] using outside
    omega
  · simp only [step_true, bothLookedUp] at *
    exact exclusive_advance counted exclusive fun passed => by simpa [passed] using outside

theorem BothClaim.step {pair : CartPair} (claimed : BothClaim pair) (choice : Bool) :
    BothClaim (step user pair choice) := by
  cases choice
  · exact ⟨claimed.1, CartStage.advance_claimed _ claimed.2⟩
  · exact ⟨CartStage.advance_claimed _ claimed.1, claimed.2⟩

variable (user)

/-- On every schedule that keeps out of the window, the user gains at most one cart. -/
theorem creates_once_outside_window (store : Store) (schedule : List Bool)
    (outside : ∀ steps ≤ schedule.length,
      (interleave user ⟨.find, .find, store⟩ (schedule.take steps)).bothLookedUp = false) :
    ((interleave user ⟨.find, .find, store⟩ schedule).store.cartsOf user).length ≤
      (store.cartsOf user).length + 1 := by
  obtain ⟨counted, exclusive⟩ := @schedule_induction _ (step user)
    (fun pair => Counted user (store.cartsOf user).length pair ∧ Exclusive pair)
    (fun pair => pair.bothLookedUp = true)
    (fun _ choice ⟨counted, exclusive⟩ _ outside =>
      ⟨counted.step choice, exclusive.step counted choice (by simpa using outside)⟩)
    schedule ⟨.find, .find, store⟩ ⟨rfl, Nat.zero_le _⟩ fun steps fits => by
      simpa using outside steps fits
  unfold Counted at counted
  unfold Exclusive at exclusive
  have := CartStage.inserted_le_claims (interleave user ⟨.find, .find, store⟩ schedule).first
  have := CartStage.inserted_le_claims (interleave user ⟨.find, .find, store⟩ schedule).second
  unfold interleave at *
  omega

end CartPair

/-- Two requests for the cart of a user that both end leave the user two more carts
exactly when the schedule brings both past the lookup of `get_or_create` before either
inserts; on every other schedule the user gains at most one cart. -/
theorem creates_two_carts_iff_both_looked_up (user : UserId) (store : Store)
    (schedule : List Bool)
    (ended : (CartPair.interleave user ⟨.find, .find, store⟩ schedule).first.ended = true ∧
      (CartPair.interleave user ⟨.find, .find, store⟩ schedule).second.ended = true) :
    ((CartPair.interleave user ⟨.find, .find, store⟩ schedule).store.cartsOf user).length =
        (store.cartsOf user).length + 2 ↔
      ∃ steps ≤ schedule.length,
        (CartPair.interleave user ⟨.find, .find, store⟩ (schedule.take steps)).bothLookedUp =
          true := by
  have counted : CartPair.Counted user (store.cartsOf user).length
      (CartPair.interleave user ⟨.find, .find, store⟩ schedule) :=
    schedule_always _ (fun _ choice counted => counted.step choice) schedule rfl
  constructor
  · intro twice
    by_contra never
    push_neg at never
    have once := CartPair.creates_once_outside_window user store schedule
      fun steps fits => by simpa using never steps fits
    omega
  · rintro ⟨steps, -, window⟩
    simp only [CartPair.bothLookedUp, Bool.and_eq_true] at window
    have claimed : CartPair.BothClaim
        (CartPair.interleave user ⟨.find, .find, store⟩ schedule) := by
      rw [CartPair.interleave, ← List.take_append_drop steps schedule, List.foldl_append]
      exact schedule_always _ (fun _ choice claimed => claimed.step choice) _
        ⟨CartStage.claims_of_lookedUp window.1, CartStage.claims_of_lookedUp window.2⟩
    unfold CartPair.Counted at counted
    rw [CartStage.inserted_of_ended ended.1 claimed.1,
      CartStage.inserted_of_ended ended.2 claimed.2] at counted
    exact counted

/-- Two requests for the cart of a user, the second started only once the first has
ended, return the cart one sequential `get_cart_for_user` returns and leave the store it
leaves: the second finds the cart the first found or created, and writes nothing. -/
theorem serial_cart_requests_return_one_cart (user : UserId) (store : Store)
    (first second : Nat) (firstEnough : 3 ≤ first) (secondEnough : 3 ≤ second) :
    ∃ cart store' created, Order.getCartForUser user store = .ok cart store' ∧
      CartPair.interleave user ⟨.find, .find, store⟩
          (List.replicate first true ++ List.replicate second false) =
        ⟨.returned cart created, .returned cart false, store'⟩ := by
  obtain ⟨cart, store', called, firstRuns⟩ := CartStage.runAlone_find user store first firstEnough
  have found := Order.find?_isCartOf_of_getCartForUser called
  obtain ⟨_, _, again, secondRuns⟩ := CartStage.runAlone_find user store' second secondEnough
  rw [Order.getCartForUser_apply, found] at again
  cases again
  refine ⟨cart, store',
    ((store.orders.rows store.nextOrderId).reverse.find? (Order.isCartOf user)).isNone, called, ?_⟩
  rw [CartPair.interleave_append, CartPair.interleave_replicate_true, firstRuns,
    CartPair.interleave_replicate_false]
  simp only [secondRuns, found, Option.isNone_some]

theorem serial_cart_requests_return_one_cart_initial :
    ∃ cart store' created, Order.getCartForUser 5 (Store.initial (fun _ => none) 0) =
        .ok cart store' ∧
      CartPair.interleave 5 ⟨.find, .find, Store.initial (fun _ => none) 0⟩
          (List.replicate 3 true ++ List.replicate 3 false) =
        ⟨.returned cart created, .returned cart false, store'⟩ :=
  serial_cart_requests_return_one_cart 5 _ 3 3 (Nat.le_refl 3) (Nat.le_refl 3)

/-- Both requests find no cart, both look it up, both insert. -/
def lookupsBeforeInserts : List Bool := [true, false, true, false, true, false]

theorem creates_two_carts_iff_both_looked_up_initial :
    ((CartPair.interleave 5 ⟨.find, .find, Store.initial (fun _ => none) 0⟩
        lookupsBeforeInserts).first.ended = true ∧
      (CartPair.interleave 5 ⟨.find, .find, Store.initial (fun _ => none) 0⟩
        lookupsBeforeInserts).second.ended = true) ∧
    (((CartPair.interleave 5 ⟨.find, .find, Store.initial (fun _ => none) 0⟩
        lookupsBeforeInserts).store.cartsOf 5).length =
        ((Store.initial (fun _ => none) 0).cartsOf 5).length + 2 ↔
      ∃ steps ≤ lookupsBeforeInserts.length,
        (CartPair.interleave 5 ⟨.find, .find, Store.initial (fun _ => none) 0⟩
          (lookupsBeforeInserts.take steps)).bothLookedUp = true) :=
  have ended : (CartPair.interleave 5 ⟨.find, .find, Store.initial (fun _ => none) 0⟩
        lookupsBeforeInserts).first.ended = true ∧
      (CartPair.interleave 5 ⟨.find, .find, Store.initial (fun _ => none) 0⟩
        lookupsBeforeInserts).second.ended = true := by decide
  ⟨ended, creates_two_carts_iff_both_looked_up _ _ _ ended⟩

/-- Those two requests leave user 5 with two carts; a schedule that runs the first to its
end before the second starts leaves one, which the second finds. -/
example : ((CartPair.interleave 5 ⟨.find, .find, Store.initial (fun _ => none) 0⟩
      lookupsBeforeInserts).store.cartsOf 5).length = 2 ∧
    (CartPair.interleave 5 ⟨.find, .find, Store.initial (fun _ => none) 0⟩
      [true, true, true, false]).second = .returned { id := 0, user := 5 } false := by decide

end ShoppingCart
