import MandatePlane.HostEnvironment

/-!
# The gateway client

The request models with their validation, the calls that change something at the
gateway, the answers the handlers read, and the two HMAC checks.  What the gateway
answers is an input of every step: a response, or the text of whatever exception
the call or the parsing of its answer raised.
-/

namespace MandatePlane.RazorpayClient

open DomainModel JsonValue HostEnvironment

structure RazorpayOrderResponse where
  id : String
  amount : ℤ
  currency : String
  status : String

structure RazorpayPaymentLinkResponse where
  id : String
  shortUrl : String
  amount : ℤ
  currency : String

structure RazorpayRefundResponse where
  id : String
  amount : ℤ
  currency : String
  status : String

/-- The gateway's side of one dispatch. -/
structure GatewayAnswers where
  createOrder : Except String RazorpayOrderResponse
  createPaymentLink : Except String RazorpayPaymentLinkResponse
  createRefund : Except String RazorpayRefundResponse

/-! ### Request models -/

/-- A field of type `str`. -/
def textField (env : Platform) (model field : String) : Json → Except String String
  | .str s => .ok s
  | value => .error (env.validationErrorText model field value)

/-- A field of type `str | None`. -/
def optionalTextField (env : Platform) (model field : String) : Json → Except String (Option String)
  | .str s => .ok (some s)
  | .null => .ok none
  | value => .error (env.validationErrorText model field value)

/-- `RazorpayOrderRequest(...)`, whose amount must be positive. -/
def orderRequest (env : Platform) (amount : ℤ) (currency : String) (receipt : Json)
    (notes : List (String × String)) : Except String GatewayCall :=
  if 0 < amount then
    (optionalTextField env "RazorpayOrderRequest" "receipt" receipt).map
      fun receipt => .createOrder amount currency receipt notes
  else .error (env.validationErrorText "RazorpayOrderRequest" "amount" (.int amount))

/-- `RazorpayPaymentLinkRequest(...)`. -/
def paymentLinkRequest (env : Platform) (amount : ℤ) (currency : String)
    (description customerName customerEmail customerContact : Json)
    (notes : List (String × String)) : Except String GatewayCall := do
  let description ← textField env "RazorpayPaymentLinkRequest" "description" description
  let name ← optionalTextField env "RazorpayPaymentLinkRequest" "customer_name" customerName
  let email ← optionalTextField env "RazorpayPaymentLinkRequest" "customer_email" customerEmail
  let contact ← optionalTextField env "RazorpayPaymentLinkRequest" "customer_contact" customerContact
  return .createPaymentLink amount currency description name email contact notes

/-! ### Signatures -/

/-- `verify_payment_signature`: HMAC over `order_id|payment_id` with the key secret. -/
def verifyPaymentSignature (env : Platform) (settings : Settings)
    (razorpayOrderId razorpayPaymentId razorpaySignature : String) : Except Refusal Bool :=
  if settings.razorpayKeySecret.isEmpty || razorpaySignature.isEmpty then .ok false
  else compareDigest
    (env.hmacSha256Hex settings.razorpayKeySecret s!"{razorpayOrderId}|{razorpayPaymentId}")
    razorpaySignature

end MandatePlane.RazorpayClient
