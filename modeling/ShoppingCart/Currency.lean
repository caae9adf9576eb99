import ShoppingCart.Lifecycle

/-! # Currencies of an order's items

`OrderItem.add_to_order` refuses a currency other than the order's once the order has
items, and the seat and certificate factories then write the item's currency on the
order. `Donation.add_to_order` writes nothing on the order: a donation in another currency
on an empty order leaves the order at its old currency, which the next item's check then
compares against. Everything else keeps the currencies in step: in every reachable store
an item in another currency than its order is a donation.
-/

namespace ShoppingCart

/-- A donation in euros on user 5's empty cart, then a seat in dollars. -/
def euroDonationThenSeat : List (Services × Operation) :=
  [(.oneCourse, .getCartForUser 5),
   (.oneCourse, .addDonation 0 10 none "eur"),
   (.oneCourse, .addPaidCourseRegistration 0 1 "honor" none (some "usd"))]

/-- Both items are accepted: the order keeps `usd`, the donation is in `eur`. -/
theorem donation_currency_differs_from_order :
    ((run (fun _ price => price) (Store.initial (fun _ => none) 0) euroDonationThenSeat).items
      0).map (fun item => (item.order, item.currency)) = some (0, "eur") ∧
    ((run (fun _ price => price) (Store.initial (fun _ => none) 0) euroDonationThenSeat).items
      1).map (fun item => (item.order, item.currency)) = some (0, "usd") ∧
    ((run (fun _ price => price) (Store.initial (fun _ => none) 0) euroDonationThenSeat).orders
      0).map (·.currency) = some "usd" := by
  decide

/-- In every reachable store an item in another currency than its order is a donation:
the seat and certificate factories write their currency on the order once the check has
let them through, and no other call writes a currency. -/
theorem reachable_item_in_other_currency_is_donation {getDiscountPrice : Int → Int → Int}
    {store : Store} (reachable : Reachable getDiscountPrice store) {key : ItemId}
    {item : OrderItem} {order : Order} (stored : store.items key = some item)
    (ordered : store.orders item.order = some order) (differs : item.currency ≠ order.currency) :
    ∃ donationType courseId, item.kind = .donation donationType courseId :=
  ItemKind.isDonation_iff.mp
    ((reachable_currenciesAgree getDiscountPrice reachable key item order stored
      ordered).resolve_left differs)

/-- The donation `euroDonationThenSeat` leaves on order 0. -/
def euroDonation : OrderItem :=
  { id := 0, order := 0, user := 5, unitCost := 10, currency := "eur",
    lineDesc := "Donation for edX", kind := .donation .general none }

theorem reachable_item_in_other_currency_is_donation_euroDonation :
    (run (fun _ price => price) (Store.initial (fun _ => none) 0) euroDonationThenSeat).items 0 =
        some euroDonation ∧
      (run (fun _ price => price) (Store.initial (fun _ => none) 0) euroDonationThenSeat).orders
        euroDonation.order = some { id := 0, user := 5 } ∧
      euroDonation.currency ≠ ({ id := 0, user := 5 } : Order).currency ∧
      ∃ donationType courseId, euroDonation.kind = .donation donationType courseId := by
  have stored : (run (fun _ price => price) (Store.initial (fun _ => none) 0)
      euroDonationThenSeat).items 0 = some euroDonation := by decide
  have ordered : (run (fun _ price => price) (Store.initial (fun _ => none) 0)
      euroDonationThenSeat).orders euroDonation.order = some { id := 0, user := 5 } := by decide
  have differs : euroDonation.currency ≠ ({ id := 0, user := 5 } : Order).currency := by decide
  exact ⟨stored, ordered, differs, reachable_item_in_other_currency_is_donation
    (reachable_run _ (.initial _ _) _) stored ordered differs⟩

end ShoppingCart
