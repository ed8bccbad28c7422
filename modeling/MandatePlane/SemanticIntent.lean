import MandatePlane.NearestDouble
import MandatePlane.TextPatterns
import MandatePlane.TransactionLookup

/-!
# The semantic intent parser

`MockLLMAdapter` answers a tool's result with a text and a user's prompt with what
`_parse_semantic_intent` makes of it in lower case: a reply, or one tool call.  The parser is
a cascade of phrases, of which the first that occurs decides.

The amount of a refund is looked up in a table of phrases and else read by a pattern, which
is modelled as such.  Which characters are decimal digits is a table of the host.
-/

namespace MandatePlane.SemanticIntent

open JsonValue HostEnvironment TextPatterns NearestDouble
open McpGateway (Rendering)
open TransactionLookup (containsText)

/-! ### Tool calls and replies -/

/-- A value among the arguments of a tool call. -/
inductive Argument where
  | text (s : String)
  | flag (b : Bool)
  | integer (n : ℤ)
  | number (x : WithTop ℚ)

structure LLMToolCall where
  id : String
  name : String
  arguments : List (String × Argument)

structure LLMResponse where
  content : Option String
  toolCalls : List LLMToolCall
  model : String
  provider : String

/-- `list[LLMToolCall] | str`. -/
inductive Parsed where
  | calls (toolCalls : List LLMToolCall)
  | reply (text : String)

/-- `f"call_{kind}_{uuid.uuid4().hex[:8]}"`. -/
def callId (kind uuidHex : String) : String :=
  s!"call_{kind}_" ++ String.ofList (uuidHex.toList.take 8)

/-- `any(phrase in text for phrase in phrases)`. -/
def containsAny (text : String) (phrases : List String) : Bool := phrases.any (containsText text)

/-! ### The words of a prompt -/

/-- The characters that are replaced by blanks: `:`, `,` and the quotes. -/
def isSeparator (c : Char) : Bool := c ∈ ":,\"'".toList

/-- `text.replace(":", " ").replace(",", " ").replace('"', " ").replace("'", " ")`. -/
def replaceSeparators (text : String) : String :=
  String.ofList (text.toList.map fun c => if isSeparator c then ' ' else c)

/-- `text.split()`. -/
def splitWords (text : String) : List String :=
  (words isPythonSpace text.toList).map String.ofList

/-- The words a target is looked for among. -/
def cleanWords (userText : String) : List String := splitWords (replaceSeparators userText)

/-! ### Greetings, questions and products -/

def isGreeting (textLower : String) : Bool :=
  textLower ∈ ["hello", "hi", "hey", "good morning", "good evening", "greetings"]

def asksCapabilities (textLower : String) : Bool :=
  containsAny textLower ["what is your limit", "what it your limit", "what are your limits",
    "how much can you", "what are your bounds", "what are your rules", "tell me your limit",
    "tell me your bound", "what can you do", "how do you work", "who are you", "help"]

def asksHistory (textLower : String) : Bool :=
  containsAny textLower ["recent purchases", "my purchases", "past purchases", "recent orders",
    "my orders", "past orders", "show my recent", "show recent", "show orders", "show purchases",
    "what did i buy", "what did we buy", "what was bought", "inspect", "lookup", "status",
    "check operation", "check order", "latest order", "last order", "op_"]

/-- The operation a history query is about. -/
def lookupTarget (userText textLower : String) : String :=
  match (cleanWords userText).find? fun w => startsWith w "op_" || startsWith w "pay_" with
  | some w => w
  | none =>
    if containsAny textLower ["order", "bought", "purchase", "item", "recent", "past", "my"] then
      "latest_order"
    else "latest"

def asksCatalog (textLower : String) : Bool :=
  containsAny textLower ["browse", "catalog", "products", "show products", "list items",
    "what do you sell", "available items", "show items", "what is there", "what can i buy",
    "what all can i buy", "what can we buy", "what to buy", "what is available",
    "what do you have", "items for sale"]

/-- The answer to a question about a product. -/
def productAnswer (textLower : String) : Option String :=
  if containsAny textLower ["what is", "tell me about", "price of", "cost of", "how much is",
      "recommend", "show me", "which", "difference between"] then
    if containsAny textLower ["keyboard", "keychron"] then
      some ("The **Keychron K2 Mechanical Keyboard** is available in our catalog for " ++
        "**Rs. 6,500.00**. It features wireless/wired connectivity and hot-swappable switches. " ++
        "Say *'Buy 1 Keychron K2'* if you'd like me to order it!")
    else if containsAny textLower ["mouse", "logitech", "mx master"] then
      some ("The **Logitech MX Master 3S Mouse** is available for **Rs. 8,999.00**. " ++
        "It is designed for ergonomics and ultra-quiet precision. " ++
        "Say *'Buy 1 Logitech Mouse'* to purchase.")
    else if containsAny textLower ["desk mat", "mat", "felt"] then
      some ("The **Ergonomic Wool Felt Desk Mat** is available for **Rs. 1,500.00**. " ++
        "Say *'Buy 1 Desk Mat'* if you would like me to procure one.")
    else if containsAny textLower ["monitor", "dell", "4k"] then
      some ("The **Dell UltraSharp 32-inch 4K Monitor** is priced at **Rs. 75,000.00**. " ++
        "High-value hardware orders are governed by Mandate's multi-level policy thresholds.")
    else if containsAny textLower ["workstation", "server", "gpu"] then
      some ("The **Rackmount GPU AI Workstation** is priced at **Rs. 4,50,000.00** " ++
        "for enterprise compute workloads.")
    else none
  else none

/-! ### Refunds -/

def asksRefund (textLower : String) : Bool := containsAny textLower ["refund", "return", "reimburse"]

def asksRefundPolicy (textLower : String) : Bool :=
  containsAny textLower ["can i refund", "is refund possible", "how do refunds work",
    "policy on refund", "do you do refunds"]

/-- The phrases that stand for an amount: those looked for in the text, those looked for in the
lowered and stripped text, and the rupees. -/
def refundShortcuts : List (List String × List String × ℕ) :=
  [(["25,000", "25000"], [], 25000), (["2,500", "2500"], [], 2500), (["1,500", "1500"], [], 1500),
    (["5,000", "5000"], [], 5000), (["6,500", "6500"], ["keyboard", "keychron"], 6500),
    (["8,999", "8999"], ["mouse", "logitech"], 8999), ([], ["desk mat", "felt", "mat"], 1500),
    (["75,000", "75000"], ["monitor"], 75000)]

/-- The amount the first phrase that occurs stands for. -/
def shortcutAmount (userText textLower : String) : Option ℕ :=
  (refundShortcuts.find? fun shortcut =>
    containsAny userText shortcut.1 || containsAny textLower shortcut.2.1).map fun shortcut =>
      shortcut.2.2

/-- What `\d` matches, with the values of the digits. -/
structure UnicodeDigits where
  value : Char → Option ℕ
  ascii : ∀ c, c.toNat < 128 → value c = if c.isDigit then some (c.toNat - 48) else none
  space : ∀ c, isPythonSpace c = true → value c = none
  rupee : value '₹' = none
  longS : value 'ſ' = none

def UnicodeDigits.isDigit (digits : UnicodeDigits) (c : Char) : Bool := (digits.value c).isSome

section Pattern

open Pattern

/-- `(?:rs\.?|₹|\$)?`, in whatever case. -/
def currencyMark : Pattern Char :=
  opt (alt (alt (seq (one (· ∈ ['r', 'R'])) (seq (one (· ∈ ['s', 'S', 'ſ'])) (opt (one (· = '.')))))
    (one (· = '₹'))) (one (· = '$')))

/-- `\d{1,3}(?:,\d{3})*(?:\.\d+)?|\d+`. -/
def amountGroup (digits : UnicodeDigits) : Pattern Char :=
  alt (seq (seq (one digits.isDigit) (upTo (one digits.isDigit) 2))
      (seq (star (seq (one (· = ',')) (times (one digits.isDigit) 3)))
        (opt (seq (one (· = '.')) (seq (one digits.isDigit) (star (one digits.isDigit)))))))
    (seq (one digits.isDigit) (star (one digits.isDigit)))

/-- The pattern of the amount, with its group. -/
def amountPattern (digits : UnicodeDigits) : Pattern Char :=
  captured (seq currencyMark (star (one isPythonSpace))) (amountGroup digits)

end Pattern

/-- The value of a row of digits. -/
def naturalValue (digits : UnicodeDigits) (row : List Char) : ℕ :=
  row.foldl (fun n c => 10 * n + (digits.value c).getD 0) 0

/-- The value of a decimal fraction. -/
def decimalValue (digits : UnicodeDigits) (numeral : List Char) : ℚ :=
  let fraction := (numeral.dropWhile (· ≠ '.')).drop 1
  naturalValue digits (numeral.takeWhile (· ≠ '.')) +
    naturalValue digits fraction / 10 ^ fraction.length

/-- `float(numeral.replace(",", ""))`. -/
def floatOf (digits : UnicodeDigits) (numeral : List Char) : WithTop ℚ :=
  nearestDouble (decimalValue digits (numeral.filter (· ≠ ',')))

/-- The amount of a refund, a thousand rupees if no positive one is found. -/
def refundAmount (digits : UnicodeDigits) (userText textLower : String) : WithTop ℚ :=
  match shortcutAmount userText textLower with
  | some amount => ((amount : ℚ) : WithTop ℚ)
  | none =>
    match Pattern.search (amountPattern digits) userText.toList with
    | none => ((1000 : ℚ) : WithTop ℚ)
    | some found =>
      if 0 < floatOf digits found.1 then floatOf digits found.1 else ((1000 : ℚ) : WithTop ℚ)

/-- The payment of a refund. -/
def refundTarget (userText : String) : String :=
  match (cleanWords userText).find? fun w => startsWith w "pay_" with
  | some w => w
  | none => if containsText userText "pay_demo" then "pay_demo_cap_01" else "pay_fake_attacker_01"

def refundCall (digits : UnicodeDigits) (uuidHex userText textLower : String) : LLMToolCall where
  id := callId "rfnd" uuidHex
  name := "issue_customer_refund"
  arguments := [("payment_id", .text (refundTarget userText)),
    ("amount_in_rupees", .number (refundAmount digits userText textLower)),
    ("reason", .text "Customer request via support dialogue")]

/-! ### Orders -/

def isBuyingAction (textLower : String) : Bool :=
  (containsAny textLower ["buy 1", "buy a", "buy the", "buy two", "buy 5", "buy ", "place order",
      "place an order", "procure", "purchase 1", "purchase a", "purchase the", "i want to buy",
      "i would like to buy", "get me a", "get me 1", "get a", "create purchase order",
      "create order", "order 1", "order a", "order the"] ||
    (startsWith textLower "buy" || startsWith textLower "order" ||
      startsWith textLower "purchase" || startsWith textLower "procure")) &&
    !containsAny textLower ["what can", "what all", "can i buy", "should i buy", "how to buy",
      "where to buy", "why buy"]

def orderQuantity (userText : String) : ℤ :=
  if containsText userText "100" then 100 else if containsText userText "5" then 5 else 1

def orderProduct (textLower : String) : String :=
  if containsAny textLower ["mat", "desk mat", "felt", "wool"] then "prod_desk_mat_01"
  else if containsAny textLower ["mouse", "logitech", "mx master", "mx"] then "prod_mouse_01"
  else if containsAny textLower ["monitor", "dell", "4k", "ultrasharp", "75,000", "screen"] then
    "prod_monitor_high_end"
  else if containsAny textLower ["workstation", "server", "gpu", "rackmount", "ai rack",
      "450,000"] then
    "prod_enterprise_server"
  else "prod_kb_01"

/-! ### The cascade -/

/-- `_parse_semantic_intent`. -/
def parseSemanticIntent (env : Platform) (digits : UnicodeDigits) (uuidHex userText : String) :
    Parsed :=
  let textLower := strip (env.lower userText)
  if isGreeting textLower then
    .reply ("Hello! I am your Mandate AI Agent. I can help you explore our verified catalog, " ++
      "inspect purchase history in the ledger, recommend products, and securely execute bounded " ++
      "financial transactions.")
  else if asksCapabilities textLower then
    .reply ("I operate as an autonomous AI Agent bounded by Mandate's Deterministic Policy Gate. " ++
      "I can chat with you, browse products, look up past orders, and process authorized " ++
      "purchases or refunds. Every financial action I propose is cryptographically validated " ++
      "and constrained by mathematical authority limits before touching Razorpay.")
  else if asksHistory textLower then
    .calls [⟨callId "lookup" uuidHex, "lookup_transaction",
      [("operation_id", .text (lookupTarget userText textLower)), ("order_only", .flag true)]⟩]
  else if asksCatalog textLower then .calls [⟨callId "browse" uuidHex, "browse_catalog", []⟩]
  else
    match productAnswer textLower with
    | some answer => .reply answer
    | none =>
      if asksRefund textLower then
        if asksRefundPolicy textLower then
          .reply ("Yes! Settled purchases within 30 days are eligible for refund through " ++
            "customer support. You can say *'Process a damaged item return refund of " ++
            "Rs. 1,500'* to initiate a refund.")
        else .calls [refundCall digits uuidHex userText textLower]
      else if isBuyingAction textLower then
        .calls [⟨callId "order" uuidHex, "create_purchase_order",
          [("product_id", .text (orderProduct textLower)),
            ("quantity", .integer (orderQuantity userText)),
            ("customer_name", .text "Alice Developer")]⟩]
      else if containsAny textLower ["payment link", "send invoice", "create invoice"] then
        .calls [⟨callId "plink" uuidHex, "create_payment_link_for_customer",
          [("amount_in_rupees", .integer 4500), ("description", .text "Mandate Invoice #1029"),
            ("customer_name", .text "Client")]⟩]
      else if containsAny textLower ["thank", "thanks", "awesome", "great", "cool", "ok", "okay",
          "good", "bye"] then
        .reply ("You're welcome! Let me know if you need help exploring the catalog, looking up " ++
          "past orders, or executing bounded financial transactions.")
      else
        .reply ("I am here to help! You asked: \"" ++ userText ++ "\". " ++
          "You can chat with me about items in our catalog, ask me to check your recent " ++
          "purchases, or command a financial action (e.g. *'Buy 1 Keychron K2'* or " ++
          "*'Process a refund of Rs. 1,500'*).")

/-! ### The adapter -/

/-- `for item in value`. -/
def iterate : Json → Option (List Json)
  | .arr items => some items
  | .obj fields => some (fields.map fun field => .str field.1)
  | .str s => some (s.toList.map fun c => .str (String.singleton c))
  | _ => none

/-- A line of the catalog; an item that is no dictionary with the two keys raises. -/
def catalogLine (host : Rendering) : Json → Option String
  | .obj item =>
    match item.lookup "name", item.lookup "price_inr" with
    | some name, some price =>
      some (s!"• **{host.text name}** — {host.text price} (" ++
        (if (dictGet item "in_stock" .null).truthy then "In Stock" else "Out of Stock") ++ ")")
    | _, _ => none
  | _ => none

/-- `parsed_res.get("policy_decision") == decision`. -/
def decided (parsed : Dict) (decision : String) : Bool :=
  match dictGet parsed "policy_decision" .null with
  | .str s => s = decision
  | _ => false

/-- `_format_tool_execution_response`, which raises for a catalog it cannot read. -/
def formatToolExecutionResponse (env : Platform) (host : Rendering) (rawContent : String) :
    Option String :=
  let parsed : Dict :=
    if startsWith rawContent "\x7b" then
      match env.jsonLoads rawContent with
      | some (.obj fields) => fields
      | _ => []
    else []
  match parsed.lookup "catalog_items" with
  | some items => do
    let lines ← (← iterate items).mapM (catalogLine host)
    return "Here are the available products in our verified catalog:\n\n" ++ join "\n" lines ++
      "\n\nLet me know if you would like me to procure any of these items within my mandate bounds."
  | none =>
    match parsed.lookup "operation_id", parsed.lookup "status", parsed.lookup "amount_inr",
        parsed.lookup "policy_decision" with
    | some opId, some status, some price, none =>
      let item := dictGet parsed "product" (.str "Keychron K2 Mechanical Keyboard")
      let refundStatus :=
        dictGet parsed "refund_eligible" (.str "Yes (Within 30-day return policy window)")
      some ("📦 **Order Details:**\n\n" ++
        s!"• **Item:** **{host.text item}**\n" ++
        "• **Order ID:** `" ++ host.text opId ++ "`\n" ++
        s!"• **Price:** **{host.text price}**\n" ++
        "• **Status:** `" ++ host.text status ++ "`\n" ++
        s!"• **Refund Status:** {host.text refundStatus}\n\n" ++
        "Verified against Mandate Ledger & PostgreSQL event store.")
    | _, _, _, _ =>
      if decided parsed "ALLOW" then
        let prod := (dictGet parsed "product" .null).orElse (.str
          (if containsText (host.text (.obj parsed)) "refund" then "Customer Refund" else "Item"))
        let opId := dictGet parsed "operation_id" .null
        let amt := dictGet parsed "amount_inr" .null
        some ("✅ **Financial Operation Authorized!**\n\n" ++
          "I have successfully executed `" ++ host.text opId ++ "` for " ++
          s!"**{host.text prod}** totaling **{host.text amt}**.\n" ++
          "Mandate's Deterministic Policy Gate approved the transaction and reserved the funds.")
      else if decided parsed "DENY" then
        let prod := (dictGet parsed "product" .null).orElse (.str "requested operation")
        let err := (dictGet parsed "error_message" .null).orElse (.str "Operation bounds exceeded")
        some ("🛑 **Mandate Policy Blocked Action!**\n\n" ++
          s!"I attempted to execute the request for **{host.text prod}**, " ++
          "but Mandate's Policy Gate **DENIED** authorization:\n" ++
          s!"> *{host.text err}*\n\n" ++ "No Razorpay funds were disbursed.")
      else
        some ("Operation evaluated by Mandate Control Plane:\n```json\n" ++ rawContent ++ "\n```")

/-- What a message says and who says it. -/
structure ChatMessage where
  role : String
  content : String

structure MockLLMAdapter where
  predefinedToolCalls : List LLMToolCall

/-- The last user message, in lower case. -/
def lastUserText (env : Platform) (messages : List ChatMessage) : String :=
  match messages.reverse.find? fun m => m.role = "user" with
  | some m => env.lower m.content
  | none => ""

/-- `MockLLMAdapter.chat_completion`, which raises only if the formatting of a tool's result does. -/
def MockLLMAdapter.chatCompletion (env : Platform) (host : Rendering) (digits : UnicodeDigits)
    (uuidHex : String) (adapter : MockLLMAdapter) (messages : List ChatMessage) :
    Option LLMResponse :=
  match messages.getLast?.filter fun m => m.role = "tool" with
  | some m =>
    (formatToolExecutionResponse env host m.content).map fun text =>
      ⟨some text, [], "mock-semantic-v1", "mock"⟩
  | none =>
    if adapter.predefinedToolCalls = [] then
      match parseSemanticIntent env digits uuidHex (lastUserText env messages) with
      | .calls toolCalls => some ⟨none, toolCalls, "mock-semantic-v1", "mock"⟩
      | .reply text => some ⟨some text, [], "mock-semantic-v1", "mock"⟩
    else some ⟨none, adapter.predefinedToolCalls, "mock-deterministic-v1", "mock"⟩

end MandatePlane.SemanticIntent
