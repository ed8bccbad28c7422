import MandatePlane.DomainModel

/-!
# What the handlers take from their surroundings

Hashing, JSON decoding, case mapping, date formatting, the texts of third-party
exceptions and the database's treatment of arguments of the wrong type are not
decided by the repository; they are fields of `Platform`, and every theorem holds
for all of them.  What Python itself fixes and the handlers rely on (`strip`,
`startswith`, `compare_digest`) is defined here.
-/

namespace MandatePlane.HostEnvironment

open DomainModel JsonValue

/-- How a statement with an ill-typed argument ends: the driver refuses it and the transaction
stays usable, or the server rejects it and the transaction can only roll back. -/
inductive SqlFault where
  | refused (text : String)
  | aborted

structure Platform where
  sha256Hex : String → String
  hmacSha256Hex : (key message : String) → String
  jsonLoads : String → Option Json
  upper : String → String
  lower : String → String
  isoformat : DateTime → String
  /-- SQL `text ILIKE '%' || fragment || '%'`. -/
  ilikeContains : (text fragment : String) → Bool
  /-- A non-text value compared with, or stored in, a text column. -/
  textFault : Json → SqlFault
  /-- A non-integer value subtracted from a `BIGINT` column holding the given number. -/
  minusNonInteger : ℤ → Json → Except SqlFault ℤ
  /-- `str(ValidationError)` of a Razorpay request model given a value its field rejects. -/
  validationErrorText : (model field : String) → Json → String

structure Settings where
  environment : String
  razorpayKeySecret : String
  razorpayWebhookSecret : String

/-- A JSON value as a text argument. -/
def Platform.bindText (env : Platform) : Json → Except SqlFault String
  | .str s => .ok s
  | value => .error (env.textFault value)

/-- `column - value` for a `BIGINT` column holding `n`. -/
def Platform.minus (env : Platform) (n : ℤ) : Json → Except SqlFault ℤ
  | .int k => .ok (n - k)
  | value => env.minusNonInteger n value

/-- `hmac.compare_digest` on strings; a non-ASCII argument raises `TypeError`. -/
def compareDigest (a b : String) : Except Refusal Bool :=
  if (a.toList ++ b.toList).all (fun c => c.toNat < 128) then .ok (a = b) else .error .serverError

/-- The characters `str.strip` removes. -/
def isPythonSpace (c : Char) : Bool :=
  let n := c.toNat
  (9 ≤ n && n ≤ 13) || (28 ≤ n && n ≤ 32) || n = 0x85 || n = 0xA0 || n = 0x1680 ||
    (0x2000 ≤ n && n ≤ 0x200A) || n = 0x2028 || n = 0x2029 || n = 0x202F || n = 0x205F ||
    n = 0x3000

/-- `text.strip()`. -/
def strip (text : String) : String :=
  String.ofList ((text.toList.dropWhile isPythonSpace).reverse.dropWhile isPythonSpace).reverse

/-- `text.startswith(start)`. -/
def startsWith (text start : String) : Bool := start.toList.isPrefixOf text.toList

/-- `text[n:]`. -/
def dropChars (text : String) (n : ℕ) : String := String.ofList (text.toList.drop n)

/-- `separator.join(texts)`. -/
def join (separator : String) : List String → String
  | [] => ""
  | [text] => text
  | text :: texts => text ++ separator ++ join separator texts

@[simp] theorem bindText_str (env : Platform) (s : String) : env.bindText (.str s) = .ok s := rfl

@[simp] theorem minus_int (env : Platform) (n k : ℤ) : env.minus n (.int k) = .ok (n - k) := rfl

end MandatePlane.HostEnvironment
