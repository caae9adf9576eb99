import ShoppingCart.Order

/-! # Discounts, free enrollment and refunds

The two discount mechanisms (registration codes, coupons) and their removal, the
free-enrollment shortcut `CourseRegistrationCode.free_user_enrollment`, and the refund
`CertificateItem.refund_cert_callback` runs when an enrollment is undone.
-/

namespace ShoppingCart

namespace CourseRegistrationCode

/-- `CourseRegistrationCode.free_user_enrollment`: enroll the user in the course of every
item of the cart and mark the items and the cart purchased, in one transaction. -/
def freeUserEnrollment (cart : Order) : Action Unit :=
  commitOnSuccess do
    let cartItems ← Action.read (·.itemsOf cart.id)
    if !cartItems.isEmpty then
      cartItems.forM fun item => do
        Action.write (·.record (.enroll cart.user item.kind.courseId none))
        Action.write (·.saveItem { item with status := .purchased })
      Action.write (·.saveOrder { cart with status := .purchased })

end CourseRegistrationCode

namespace RegistrationCodeRedemption

/-- `RegistrationCodeRedemption.delete_registration_redemption`. -/
def deleteRegistrationRedemption (user : UserId) (cart : Order) : Action Unit :=
  Action.write fun store =>
    { store with
      registrationCodeRedemptions := store.registrationCodeRedemptions.filter fun redemption =>
        !(redemption.redeemedBy == user && redemption.order == some cart.id) }

/-- `RegistrationCodeRedemption.add_reg_code_redemption`: on the first item of the order
for the code's course, unless the code has a redemption already, record the redemption
and make the item free, keeping its price as the list price. -/
def addRegCodeRedemption (courseRegCode : CourseRegistrationCode) (order : Order) :
    Action CourseRegistrationCode := do
  let cartItems ← Action.read (·.itemsOf order.id)
  match cartItems.find? (·.kind.courseId == some courseRegCode.courseId) with
  | none => Action.raise .itemDoesNotExistAgainstRegCodeException
  | some item => do
    let codeRedemption ← Action.read fun store =>
      store.registrationCodeRedemptions.filter (·.registrationCode == courseRegCode.id)
    Action.raiseIf (!codeRedemption.isEmpty) .regCodeAlreadyExistException
    Action.write fun store =>
      { store with registrationCodeRedemptions := store.registrationCodeRedemptions ++
          [{ registrationCode := courseRegCode.id, order := some order.id,
             redeemedBy := order.user }] }
    Action.write (·.saveItem { item with listPrice := some item.unitCost, unitCost := 0 })
    pure courseRegCode

/-- `RegistrationCodeRedemption.create_invoice_generated_registration_redemption`: a
redemption with no order, for a code generated from an invoice. -/
def createInvoiceGeneratedRegistrationRedemption (courseRegCode : CourseRegistrationCode)
    (user : UserId) : Action Unit :=
  Action.write fun store =>
    { store with registrationCodeRedemptions := store.registrationCodeRedemptions ++
        [{ registrationCode := courseRegCode.id, order := none, redeemedBy := user }] }

end RegistrationCodeRedemption

namespace CouponRedemption

/-- `CouponRedemption.delete_coupon_redemption`. -/
def deleteCouponRedemption (user : UserId) (cart : Order) : Action Unit :=
  Action.write fun store =>
    { store with
      couponRedemptions := store.couponRedemptions.filter fun redemption =>
        !(redemption.user == user && redemption.order == cart.id) }

/-- The conflict `add_coupon_redemption` checks against each redemption already on the
order: a coupon of another code, or the very same coupon. -/
def conflicts (existing coupon : Coupon) : Bool :=
  existing.code != coupon.code || existing.id == coupon.id

/-- `CouponRedemption.add_coupon_redemption`. `getDiscountPrice` is
`CouponRedemption.get_discount_price`, whose float-to-decimal rounding is not modelled: every
result here holds whatever price it computes. -/
def addCouponRedemption (getDiscountPrice : Int → Int → Int) (coupon : Coupon)
    (order : Order) (cartItems : List OrderItem) : Action Bool := do
  let couponRedemptions ← Action.read fun store =>
    store.couponRedemptions.filter fun redemption =>
      redemption.order == order.id && redemption.user == order.user
  Action.raiseIf (couponRedemptions.any (conflicts ·.coupon coupon))
    .multipleCouponsNotAllowedException
  match cartItems.find? (·.kind.courseId == some coupon.courseId) with
  | none => pure false
  | some item => do
    Action.write fun store =>
      { store with couponRedemptions := store.couponRedemptions ++
          [{ order := order.id, user := order.user, coupon }] }
    let discountPrice := getDiscountPrice coupon.percentageDiscount item.unitCost
    Action.write (·.saveItem { item with listPrice := some item.unitCost,
                                         unitCost := discountPrice })
    pure true

end CouponRedemption

namespace CertificateItem

/-- The enrollment an `UNENROLL_DONE` signal carries, with what its `refundable()` answers. -/
structure UnenrolledEnrollment where
  user : UserId
  courseId : CourseId
  refundable : Bool
  deriving DecidableEq, Repr

/-- The rows `refund_cert_callback` looks for: purchased verified certificates of the
user in the course. -/
def isRefundTarget (courseEnrollment : UnenrolledEnrollment) (item : OrderItem) : Bool :=
  item.user == courseEnrollment.user && item.status == .purchased &&
    match item.kind with
    | .certificateItem courseId _ mode =>
      courseId == courseEnrollment.courseId && mode == "verified"
    | _ => false

/-- `CertificateItem.refund_cert_callback`: the first target certificate, and the whole
order it belongs to, become `refunded`. The e-mail to billing is left out. -/
def refundCertCallback (courseEnrollment : UnenrolledEnrollment) : Action (Option OrderItem) :=
  if !courseEnrollment.refundable then pure none else do
    let targetCerts ← Action.read fun store =>
      (store.items.rows store.nextItemId).filter (isRefundTarget courseEnrollment)
    match targetCerts with
    | [] => pure none
    | targetCert :: _ => do
      let targetCert := { targetCert with status := .refunded }
      Action.write (·.saveItem targetCert)
      -- `target_cert.order` is loaded from the store; orders are never deleted
      match ← Action.read (·.orders targetCert.order) with
      | some order => Action.write (·.saveOrder { order with status := .refunded })
      | none => pure ()
      pure (some targetCert)

end CertificateItem

end ShoppingCart
