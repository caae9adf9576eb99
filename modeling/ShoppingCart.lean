import ShoppingCart.Basic
import ShoppingCart.OrderItem
import ShoppingCart.Order
import ShoppingCart.Redemption
import ShoppingCart.System
import ShoppingCart.Invariant
import ShoppingCart.Tracking
import ShoppingCart.Preservation
import ShoppingCart.Lifecycle
import ShoppingCart.Reclassification
import ShoppingCart.Discounts
import ShoppingCart.Currency
import ShoppingCart.Reports
import ShoppingCart.Codes
import ShoppingCart.Queries
import ShoppingCart.IssuedCodes
import ShoppingCart.Failures
import ShoppingCart.Fulfilment
import ShoppingCart.Checkout
import ShoppingCart.Ownership
import ShoppingCart.Concurrent.Purchase
import ShoppingCart.Concurrent.Redemption
import ShoppingCart.Concurrent.Cart
