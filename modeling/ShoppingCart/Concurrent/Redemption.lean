import ShoppingCart.Discounts

/-! # Two redemptions of one registration code at once

`RegistrationCodeRedemption.add_reg_code_redemption` looks for a redemption of the code
and, finding none, inserts one: the check and the insert are two store steps, with no
lock or unique constraint between them. A request is modelled by the store step it takes
next. Run alone, a request does what the sequential call does
(`RedemptionStage.runAlone_read`), so that a request started once another has returned
finds the code redeemed and raises (`serial_redemptions_redeem_once`); two requests whose checks both come before either
insert both return, and the code ends with two redemptions. Over every schedule, the code
has one redemption more for each request past its insert, and outside that window at most
one request is past its check; so two requests that end leave two new redemptions exactly
when their schedule enters the window (`redeems_twice_iff_both_checked`).
-/

namespace ShoppingCart

/-- Where one `add_reg_code_redemption` request stands: the store step it takes next, or
how it ended. -/
inductive RedemptionStage
  /-- `order.orderitem_set.all()`, and the first item in the code's course. -/
  | read
  /-- `cls.objects.filter(registration_code=course_reg_code)`. -/
  | check (item : OrderItem)
  /-- `code_redemption.save()`. -/
  | insert (item : OrderItem)
  /-- `item.save()` with the item made free. -/
  | save (item : OrderItem)
  | returned
  | raised (error : ShoppingCartError)
  deriving DecidableEq, Repr

namespace RedemptionStage

variable (courseRegCode : CourseRegistrationCode) (order : Order)

/-- The store step a request takes at a stage, and the stage it moves to. -/
def next : RedemptionStage → Action RedemptionStage
  | .read => do
    let cartItems ← Action.read (·.itemsOf order.id)
    match cartItems.find? (·.kind.courseId == some courseRegCode.courseId) with
    | none => Action.raise .itemDoesNotExistAgainstRegCodeException
    | some item => pure (.check item)
  | .check item => do
    let codeRedemption ← Action.read fun store =>
      store.registrationCodeRedemptions.filter (·.registrationCode == courseRegCode.id)
    Action.raiseIf (!codeRedemption.isEmpty) .regCodeAlreadyExistException
    pure (.insert item)
  | .insert item => do
    Action.write fun store =>
      { store with registrationCodeRedemptions := store.registrationCodeRedemptions ++
          [{ registrationCode := courseRegCode.id, order := some order.id,
             redeemedBy := order.user }] }
    pure (.save item)
  | .save item => do
    Action.write (·.saveItem { item with listPrice := some item.unitCost, unitCost := 0 })
    pure .returned
  | .returned => pure .returned
  | .raised error => pure (.raised error)

/-- One step of a request; a step that raises ends it. -/
def advance (stage : RedemptionStage) (store : Store) : RedemptionStage × Store :=
  match next courseRegCode order stage store with
  | .ok stage' store' => (stage', store')
  | .error error store' => (.raised error, store')

/-- At most `fuel` steps of one request that runs alone. -/
def runAlone : Nat → RedemptionStage × Store → RedemptionStage × Store
  | 0, state => state
  | fuel + 1, (stage, store) => runAlone fuel (advance courseRegCode order stage store)

/-- How a sequential call ended, as the stage a request ends in. -/
def outcome : EStateM.Result ShoppingCartError Store CourseRegistrationCode →
    RedemptionStage × Store
  | .ok _ store => (.returned, store)
  | .error error store => (.raised error, store)

theorem runAlone_ended (stage : RedemptionStage)
    (ended : stage = .returned ∨ ∃ error, stage = .raised error) :
    ∀ (fuel : Nat) (store : Store), runAlone courseRegCode order fuel (stage, store) =
      (stage, store)
  | 0, _ => rfl
  | fuel + 1, store => by
    have stays : advance courseRegCode order stage store = (stage, store) := by
      rcases ended with rfl | ⟨error, rfl⟩ <;> rfl
    show runAlone courseRegCode order fuel (advance courseRegCode order stage store) = _
    rw [stays]
    exact runAlone_ended stage ended fuel store

/-- A request that runs alone for four steps or more ends as the sequential call
`add_reg_code_redemption` does: it returns or raises the same error, with the same
store. -/
theorem runAlone_read (store : Store) (fuel : Nat) (enough : 4 ≤ fuel) :
    runAlone courseRegCode order fuel (.read, store) =
      outcome (RegistrationCodeRedemption.addRegCodeRedemption courseRegCode order store) := by
  obtain ⟨fuel, rfl⟩ := Nat.exists_eq_add_of_le' enough
  simp only [RegistrationCodeRedemption.addRegCodeRedemption, Action.bind_apply,
    Action.read_apply]
  cases found : (store.itemsOf order.id).find? (·.kind.courseId == some courseRegCode.courseId)
    with
  | none =>
    simp only [runAlone, advance, next, found, Action.bind_apply, Action.read_apply,
      Action.raise_apply]
    exact runAlone_ended courseRegCode order _ (.inr ⟨_, rfl⟩) _ _
  | some item =>
    by_cases redeemed : (store.registrationCodeRedemptions.filter
      (·.registrationCode == courseRegCode.id)).isEmpty = false
    · simp only [runAlone, advance, next, found, redeemed, Action.bind_apply,
        Action.read_apply, Action.raiseIf_apply, Action.pure_apply, Bool.not_false, if_true]
      exact runAlone_ended courseRegCode order _ (.inr ⟨_, rfl⟩) _ _
    · simp only [Bool.not_eq_false] at redeemed
      simp only [runAlone, advance, next, found, redeemed, Action.bind_apply,
        Action.read_apply, Action.raiseIf_apply, Action.write_apply, Action.pure_apply,
        Bool.not_true, Bool.false_eq_true, if_false]
      exact runAlone_ended courseRegCode order _ (.inl rfl) _ _

/-! ## What each step writes -/

/-- The redemptions a request has inserted: one once it is past its insert. -/
def inserted : RedemptionStage → Nat
  | .save _ | .returned => 1
  | _ => 0

/-- The request has passed its check and not yet inserted. -/
def checked : RedemptionStage → Bool
  | .insert _ => true
  | _ => false

/-- The request has returned or raised. -/
def ended : RedemptionStage → Bool
  | .returned | .raised _ => true
  | _ => false

theorem advance_read (store : Store) :
    (advance courseRegCode order .read store).2 = store ∧
      (advance courseRegCode order .read store).1.inserted = 0 ∧
      (advance courseRegCode order .read store).1.checked = false := by
  cases found : (store.itemsOf order.id).find? (·.kind.courseId == some courseRegCode.courseId)
    <;> simp [advance, next, found, Action.bind_apply, Action.read_apply, Action.raise_apply,
      Action.pure_apply, inserted, checked]

/-- A check passes only while the code has no redemption. -/
theorem advance_check (item : OrderItem) (store : Store) :
    (advance courseRegCode order (.check item) store).2 = store ∧
      (advance courseRegCode order (.check item) store).1.inserted = 0 ∧
      ((advance courseRegCode order (.check item) store).1.checked = true →
        store.redemptionsOf courseRegCode.id = []) := by
  simp only [advance, next, Action.bind_apply, Action.read_apply, Action.raiseIf_apply]
  split_ifs with redeemed
  · simp [inserted, checked]
  · simpa [inserted, checked, Store.redemptionsOf] using redeemed

/-- How the number of redemptions of the code and of requests past their insert move
together in one step. -/
theorem redemptions_advance (stage : RedemptionStage) (store : Store) :
    ((advance courseRegCode order stage store).2.redemptionsOf courseRegCode.id).length +
        stage.inserted =
      (store.redemptionsOf courseRegCode.id).length +
        (advance courseRegCode order stage store).1.inserted := by
  cases stage with
  | read =>
    obtain ⟨same, none, -⟩ := advance_read courseRegCode order store
    rw [same, none]; rfl
  | check item =>
    obtain ⟨same, none, -⟩ := advance_check courseRegCode order item store
    rw [same, none]; rfl
  | insert item => simp [advance, next, inserted, Store.redemptionsOf]
  | save item => simp [advance, next, inserted, Store.redemptionsOf, Store.saveItem]
  | returned | raised => rfl

/-- The request has passed its check: it is about to insert, or has inserted. -/
def claims : RedemptionStage → Nat
  | .insert _ | .save _ | .returned => 1
  | _ => 0

theorem claims_eq (stage : RedemptionStage) :
    stage.claims = stage.inserted + stage.checked.toNat := by
  cases stage <;> rfl

theorem inserted_le_claims (stage : RedemptionStage) : stage.inserted ≤ stage.claims := by
  cases stage <;> simp [inserted, claims]

theorem claims_of_checked {stage : RedemptionStage} (passed : stage.checked = true) :
    stage.claims = 1 := by
  cases stage <;> simp_all [checked, claims]

theorem inserted_of_ended {stage : RedemptionStage} (finished : stage.ended = true)
    (claimed : stage.claims = 1) : stage.inserted = 1 := by
  cases stage <;> simp_all [RedemptionStage.ended, claims, inserted]

/-- A step keeps a request's claim on the code, but for the check that passes, which
needs the code unredeemed. -/
theorem claims_advance (stage : RedemptionStage) (store : Store) :
    (advance courseRegCode order stage store).1.claims = stage.claims ∨
      (advance courseRegCode order stage store).1.checked = true ∧
        store.redemptionsOf courseRegCode.id = [] ∧ stage.claims = 0 := by
  cases stage with
  | read =>
    obtain ⟨-, none, unchecked⟩ := advance_read courseRegCode order store
    left; rw [claims_eq, none, unchecked]; rfl
  | check item =>
    obtain ⟨-, none, unredeemed⟩ := advance_check courseRegCode order item store
    cases passed : (advance courseRegCode order (.check item) store).1.checked
    · left; rw [claims_eq, none, passed]; rfl
    · exact .inr ⟨rfl, unredeemed passed, rfl⟩
  | insert | save | returned | raised => exact .inl rfl

theorem advance_claimed {stage : RedemptionStage} {store : Store} (claimed : stage.claims = 1) :
    (advance courseRegCode order stage store).1.claims = 1 := by
  rcases claims_advance courseRegCode order stage store with same | ⟨-, -, unclaimed⟩ <;> omega

end RedemptionStage

/-! ## Two requests -/

/-- Two `add_reg_code_redemption` requests and the store they share. -/
structure RedemptionPair where
  first : RedemptionStage
  second : RedemptionStage
  store : Store

namespace RedemptionPair

variable (courseRegCode : CourseRegistrationCode) (firstOrder secondOrder : Order)

/-- The first request (`true`), on `firstOrder`, or the second, on `secondOrder`, takes its
next step; both redeem `courseRegCode`. -/
def step (pair : RedemptionPair) : Bool → RedemptionPair
  | true =>
    let (first, store) := RedemptionStage.advance courseRegCode firstOrder pair.first pair.store
    { pair with first, store }
  | false =>
    let (second, store) :=
      RedemptionStage.advance courseRegCode secondOrder pair.second pair.store
    { pair with second, store }

@[simp] theorem step_true (pair : RedemptionPair) :
    step courseRegCode firstOrder secondOrder pair true =
      ⟨(RedemptionStage.advance courseRegCode firstOrder pair.first pair.store).1, pair.second,
        (RedemptionStage.advance courseRegCode firstOrder pair.first pair.store).2⟩ := rfl

@[simp] theorem step_false (pair : RedemptionPair) :
    step courseRegCode firstOrder secondOrder pair false =
      ⟨pair.first, (RedemptionStage.advance courseRegCode secondOrder pair.second pair.store).1,
        (RedemptionStage.advance courseRegCode secondOrder pair.second pair.store).2⟩ := rfl

/-- The requests take their steps in the order of `schedule`. -/
def interleave (pair : RedemptionPair) (schedule : List Bool) : RedemptionPair :=
  schedule.foldl (step courseRegCode firstOrder secondOrder) pair

theorem interleave_append (pair : RedemptionPair) (schedule schedule' : List Bool) :
    interleave courseRegCode firstOrder secondOrder pair (schedule ++ schedule') =
      interleave courseRegCode firstOrder secondOrder
        (interleave courseRegCode firstOrder secondOrder pair schedule) schedule' :=
  List.foldl_append _ _ _ _

/-- Steps of the first request alone are a run of it alone. -/
theorem interleave_replicate_true : ∀ (steps : Nat) (pair : RedemptionPair),
    interleave courseRegCode firstOrder secondOrder pair (List.replicate steps true) =
      { pair with
        first := (RedemptionStage.runAlone courseRegCode firstOrder steps
          (pair.first, pair.store)).1
        store := (RedemptionStage.runAlone courseRegCode firstOrder steps
          (pair.first, pair.store)).2 }
  | 0, _ => rfl
  | steps + 1, pair =>
    interleave_replicate_true steps (step courseRegCode firstOrder secondOrder pair true)

theorem interleave_replicate_false : ∀ (steps : Nat) (pair : RedemptionPair),
    interleave courseRegCode firstOrder secondOrder pair (List.replicate steps false) =
      { pair with
        second := (RedemptionStage.runAlone courseRegCode secondOrder steps
          (pair.second, pair.store)).1
        store := (RedemptionStage.runAlone courseRegCode secondOrder steps
          (pair.second, pair.store)).2 }
  | 0, _ => rfl
  | steps + 1, pair =>
    interleave_replicate_false steps (step courseRegCode firstOrder secondOrder pair false)

/-- How both requests stand, and how many redemptions the code has. -/
def summary (pair : RedemptionPair) : RedemptionStage × RedemptionStage × Nat :=
  (pair.first, pair.second, (pair.store.redemptionsOf courseRegCode.id).length)

/-! ## Every schedule -/

/-- Both requests have passed their check and neither has inserted: the window in which
the two checks come before either insert. -/
def bothChecked (pair : RedemptionPair) : Bool :=
  pair.first.checked && pair.second.checked

/-- The code has the `base` redemptions it had when the requests started, and one more for
each request past its insert. -/
def Counted (base : Nat) (pair : RedemptionPair) : Prop :=
  (pair.store.redemptionsOf courseRegCode.id).length =
    base + pair.first.inserted + pair.second.inserted

/-- At most one request has passed its check. -/
def Exclusive (pair : RedemptionPair) : Prop :=
  pair.first.claims + pair.second.claims ≤ 1

variable {courseRegCode}

theorem Counted.step {base : Nat} {pair : RedemptionPair}
    (counted : Counted courseRegCode base pair) (choice : Bool) :
    Counted courseRegCode base (step courseRegCode firstOrder secondOrder pair choice) := by
  unfold Counted at counted ⊢
  cases choice
  · have moved := RedemptionStage.redemptions_advance courseRegCode secondOrder pair.second
      pair.store
    simp only [step_false]; omega
  · have moved := RedemptionStage.redemptions_advance courseRegCode firstOrder pair.first
      pair.store
    simp only [step_true]; omega

/-- A request whose check passes while the other has not passed its own keeps the two
exclusive: the check needs the code unredeemed, so the other has not inserted. -/
theorem exclusive_advance (order : Order) {mover partner : RedemptionStage} {store : Store}
    {base : Nat}
    (counted : (store.redemptionsOf courseRegCode.id).length =
      base + mover.inserted + partner.inserted)
    (exclusive : mover.claims + partner.claims ≤ 1)
    (outside : (RedemptionStage.advance courseRegCode order mover store).1.checked = true →
      partner.checked = false) :
    (RedemptionStage.advance courseRegCode order mover store).1.claims + partner.claims ≤ 1 := by
  rcases RedemptionStage.claims_advance courseRegCode order mover store
    with same | ⟨passed, unredeemed, unclaimed⟩
  · omega
  · have moverClaims := RedemptionStage.claims_eq mover
    rw [RedemptionStage.claims_of_checked passed, RedemptionStage.claims_eq partner,
      outside passed, Bool.toNat_false]
    rw [unredeemed, List.length_nil] at counted
    omega

theorem Exclusive.step {base : Nat} {pair : RedemptionPair}
    (counted : Counted courseRegCode base pair) (exclusive : Exclusive pair) (choice : Bool)
    (outside : (step courseRegCode firstOrder secondOrder pair choice).bothChecked = false) :
    Exclusive (step courseRegCode firstOrder secondOrder pair choice) := by
  unfold Counted at counted
  unfold Exclusive at exclusive ⊢
  cases choice
  · simp only [step_false, bothChecked] at *
    have moved := exclusive_advance secondOrder
      (show (pair.store.redemptionsOf courseRegCode.id).length =
        base + pair.second.inserted + pair.first.inserted by omega) (by omega)
      fun passed => by simpa [passed] using outside
    omega
  · simp only [step_true, bothChecked] at *
    have moved := exclusive_advance firstOrder counted exclusive
      fun passed => by simpa [passed] using outside
    exact moved

/-- Both requests have passed their check. -/
def BothClaim (pair : RedemptionPair) : Prop :=
  pair.first.claims = 1 ∧ pair.second.claims = 1

theorem BothClaim.step {pair : RedemptionPair} (claimed : BothClaim pair) (choice : Bool) :
    BothClaim (step courseRegCode firstOrder secondOrder pair choice) := by
  cases choice
  · exact ⟨claimed.1, RedemptionStage.advance_claimed _ _ claimed.2⟩
  · exact ⟨RedemptionStage.advance_claimed _ _ claimed.1, claimed.2⟩

variable (courseRegCode)

/-- On every schedule that keeps out of the window, the code gains at most one
redemption. -/
theorem redeems_once_outside_window (store : Store) (schedule : List Bool)
    (outside : ∀ steps ≤ schedule.length,
      (interleave courseRegCode firstOrder secondOrder ⟨.read, .read, store⟩
        (schedule.take steps)).bothChecked = false) :
    ((interleave courseRegCode firstOrder secondOrder ⟨.read, .read, store⟩
      schedule).store.redemptionsOf courseRegCode.id).length ≤
      (store.redemptionsOf courseRegCode.id).length + 1 := by
  obtain ⟨counted, exclusive⟩ := @schedule_induction _
    (step courseRegCode firstOrder secondOrder)
    (fun pair => Counted courseRegCode (store.redemptionsOf courseRegCode.id).length pair ∧
      Exclusive pair)
    (fun pair => pair.bothChecked = true)
    (fun _ choice ⟨counted, exclusive⟩ _ outside =>
      ⟨counted.step firstOrder secondOrder choice,
        exclusive.step firstOrder secondOrder counted choice (by simpa using outside)⟩)
    schedule ⟨.read, .read, store⟩ ⟨rfl, Nat.zero_le _⟩ fun steps fits => by
      simpa using outside steps fits
  unfold Counted at counted
  unfold Exclusive at exclusive
  have := RedemptionStage.inserted_le_claims
    (interleave courseRegCode firstOrder secondOrder ⟨.read, .read, store⟩ schedule).first
  have := RedemptionStage.inserted_le_claims
    (interleave courseRegCode firstOrder secondOrder ⟨.read, .read, store⟩ schedule).second
  unfold interleave at *
  omega

end RedemptionPair

/-- The two requests alternate: both read, both check, both insert, both save. -/
def checksBeforeInserts : List Bool :=
  [true, false, true, false, true, false, true, false]

/-- Two redemptions of code 0 on user 5's cart whose checks both come before either
insert both return, and the code ends with two redemptions. -/
theorem concurrent_redemptions_both_return :
    RedemptionPair.summary ⟨0, 1, 9, none, some 3⟩
      (RedemptionPair.interleave ⟨0, 1, 9, none, some 3⟩ { id := 0, user := 5 }
        { id := 0, user := 5 } ⟨.read, .read, seatWithTwoCodes⟩ checksBeforeInserts) =
      (.returned, .returned, 2) := by
  decide

/-- Two redemptions of one code, the second started only once the first has ended, end as
the two sequential calls one after the other do. When the first returns, the second finds
the code redeemed, raises and writes nothing: serial requests redeem a code once. -/
theorem serial_redemptions_redeem_once (courseRegCode : CourseRegistrationCode)
    (firstOrder secondOrder : Order) (store : Store) (first second : Nat)
    (firstEnough : 4 ≤ first) (secondEnough : 4 ≤ second) :
    let firstCall := RedemptionStage.outcome
      (RegistrationCodeRedemption.addRegCodeRedemption courseRegCode firstOrder store)
    let secondCall := RedemptionStage.outcome
      (RegistrationCodeRedemption.addRegCodeRedemption courseRegCode secondOrder firstCall.2)
    RedemptionPair.interleave courseRegCode firstOrder secondOrder ⟨.read, .read, store⟩
        (List.replicate first true ++ List.replicate second false) =
      ⟨firstCall.1, secondCall.1, secondCall.2⟩ ∧
    (firstCall.1 = .returned → ∃ error, secondCall = (.raised error, firstCall.2)) := by
  intro firstCall secondCall
  refine ⟨?_, fun returned => ?_⟩
  · rw [RedemptionPair.interleave_append, RedemptionPair.interleave_replicate_true,
      RedemptionStage.runAlone_read courseRegCode firstOrder store first firstEnough,
      RedemptionPair.interleave_replicate_false,
      RedemptionStage.runAlone_read courseRegCode secondOrder _ second secondEnough]
  · cases called : RegistrationCodeRedemption.addRegCodeRedemption courseRegCode firstOrder store
      with
    | error => simp [firstCall, called, RedemptionStage.outcome] at returned
    | ok _ coded =>
      obtain ⟨_, -, -, saved⟩ := RegistrationCodeRedemption.addRegCodeRedemption_ok called
      have redeemed : coded.redemptionsOf courseRegCode.id ≠ [] := by
        simp [saved, Store.redemptionsOf, Store.saveItem]
      simp only [secondCall, firstCall, called, RedemptionStage.outcome]
      cases again : RegistrationCodeRedemption.addRegCodeRedemption courseRegCode secondOrder coded
        with
      | ok =>
        obtain ⟨_, -, unredeemed, -⟩ := RegistrationCodeRedemption.addRegCodeRedemption_ok again
        exact absurd unredeemed redeemed
      | error error =>
        exact ⟨error, by rw [RegistrationCodeRedemption.addRegCodeRedemption_error again]⟩

theorem serial_redemptions_redeem_once_seat :
    let firstCall := RedemptionStage.outcome (RegistrationCodeRedemption.addRegCodeRedemption
      ⟨0, 1, 9, none, some 3⟩ { id := 0, user := 5 } seatWithTwoCodes)
    let secondCall := RedemptionStage.outcome (RegistrationCodeRedemption.addRegCodeRedemption
      ⟨0, 1, 9, none, some 3⟩ { id := 0, user := 5 } firstCall.2)
    RedemptionPair.interleave ⟨0, 1, 9, none, some 3⟩ { id := 0, user := 5 }
        { id := 0, user := 5 } ⟨.read, .read, seatWithTwoCodes⟩
        (List.replicate 4 true ++ List.replicate 4 false) =
      ⟨firstCall.1, secondCall.1, secondCall.2⟩ ∧
    (firstCall.1 = .returned → ∃ error, secondCall = (.raised error, firstCall.2)) :=
  serial_redemptions_redeem_once _ _ _ _ 4 4 (Nat.le_refl 4) (Nat.le_refl 4)

/-- There the first redeems the code and the second raises `RegCodeAlreadyExistException`,
leaving the code one redemption. -/
example : RedemptionPair.summary ⟨0, 1, 9, none, some 3⟩
    (RedemptionPair.interleave ⟨0, 1, 9, none, some 3⟩ { id := 0, user := 5 }
      { id := 0, user := 5 } ⟨.read, .read, seatWithTwoCodes⟩
      (List.replicate 4 true ++ List.replicate 4 false)) =
    (.returned, .raised .regCodeAlreadyExistException, 1) := by decide

/-- Two redemptions of one code that both end leave the code with two more redemptions
exactly when the schedule brings both past their check before either inserts; on every
other schedule one of them raises and the code gains at most one. -/
theorem redeems_twice_iff_both_checked (courseRegCode : CourseRegistrationCode)
    (firstOrder secondOrder : Order) (store : Store) (schedule : List Bool)
    (ended : (RedemptionPair.interleave courseRegCode firstOrder secondOrder
        ⟨.read, .read, store⟩ schedule).first.ended = true ∧
      (RedemptionPair.interleave courseRegCode firstOrder secondOrder
        ⟨.read, .read, store⟩ schedule).second.ended = true) :
    ((RedemptionPair.interleave courseRegCode firstOrder secondOrder ⟨.read, .read, store⟩
      schedule).store.redemptionsOf courseRegCode.id).length =
        (store.redemptionsOf courseRegCode.id).length + 2 ↔
      ∃ steps ≤ schedule.length, (RedemptionPair.interleave courseRegCode firstOrder
        secondOrder ⟨.read, .read, store⟩ (schedule.take steps)).bothChecked = true := by
  have counted : RedemptionPair.Counted courseRegCode (store.redemptionsOf courseRegCode.id).length
      (RedemptionPair.interleave courseRegCode firstOrder secondOrder ⟨.read, .read, store⟩
        schedule) :=
    schedule_always _ (fun _ choice counted => counted.step firstOrder secondOrder choice)
      schedule rfl
  constructor
  · intro twice
    by_contra never
    push_neg at never
    have once := RedemptionPair.redeems_once_outside_window courseRegCode firstOrder
      secondOrder store schedule fun steps fits => by simpa using never steps fits
    omega
  · rintro ⟨steps, -, window⟩
    simp only [RedemptionPair.bothChecked, Bool.and_eq_true] at window
    have claimed : RedemptionPair.BothClaim (RedemptionPair.interleave courseRegCode
        firstOrder secondOrder ⟨.read, .read, store⟩ schedule) := by
      rw [RedemptionPair.interleave, ← List.take_append_drop steps schedule, List.foldl_append]
      exact schedule_always _
        (fun _ choice claimed => claimed.step firstOrder secondOrder choice) _
        ⟨RedemptionStage.claims_of_checked window.1, RedemptionStage.claims_of_checked window.2⟩
    unfold RedemptionPair.Counted at counted
    rw [RedemptionStage.inserted_of_ended ended.1 claimed.1,
      RedemptionStage.inserted_of_ended ended.2 claimed.2] at counted
    exact counted

theorem redeems_twice_iff_both_checked_seat :
    ((RedemptionPair.interleave ⟨0, 1, 9, none, some 3⟩ { id := 0, user := 5 }
        { id := 0, user := 5 } ⟨.read, .read, seatWithTwoCodes⟩
          checksBeforeInserts).first.ended = true ∧
      (RedemptionPair.interleave ⟨0, 1, 9, none, some 3⟩ { id := 0, user := 5 }
        { id := 0, user := 5 } ⟨.read, .read, seatWithTwoCodes⟩
          checksBeforeInserts).second.ended = true) ∧
    (((RedemptionPair.interleave ⟨0, 1, 9, none, some 3⟩ { id := 0, user := 5 }
        { id := 0, user := 5 } ⟨.read, .read, seatWithTwoCodes⟩
          checksBeforeInserts).store.redemptionsOf 0).length =
        (seatWithTwoCodes.redemptionsOf 0).length + 2 ↔
      ∃ steps ≤ checksBeforeInserts.length,
        (RedemptionPair.interleave ⟨0, 1, 9, none, some 3⟩ { id := 0, user := 5 }
          { id := 0, user := 5 } ⟨.read, .read, seatWithTwoCodes⟩
            (checksBeforeInserts.take steps)).bothChecked = true) :=
  have ended : (RedemptionPair.interleave ⟨0, 1, 9, none, some 3⟩ { id := 0, user := 5 }
        { id := 0, user := 5 } ⟨.read, .read, seatWithTwoCodes⟩
          checksBeforeInserts).first.ended = true ∧
      (RedemptionPair.interleave ⟨0, 1, 9, none, some 3⟩ { id := 0, user := 5 }
        { id := 0, user := 5 } ⟨.read, .read, seatWithTwoCodes⟩
          checksBeforeInserts).second.ended = true := by decide
  ⟨ended, redeems_twice_iff_both_checked _ _ _ _ _ ended⟩

end ShoppingCart
