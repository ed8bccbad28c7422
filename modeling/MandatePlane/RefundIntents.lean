import MandatePlane.SemanticIntent

/-!
# Refund intents

A refund names a payment and an amount.  The payment is the first word that begins with
`pay_` after the prompt is in lower case and its separators are blanks.  The amount is that of
the first phrase of a table that occurs anywhere in the prompt, and otherwise it is read at the
first digit, three digits at most and then groups of a comma and three digits.

So a prompt with one payment and one amount is understood as it is written if its id has
neither upper-case letters nor separators, and if its amount is what the table or the first
digit says.
-/

namespace MandatePlane.RefundIntents

open HostEnvironment TextPatterns NearestDouble SemanticIntent
open McpGateway (Rendering)

/-! ### The payment -/

/-- What `str.lower` does to words: it works within them, and lower-case ASCII text at the start of
one stays. -/
structure LowerCase (lower : String → String) : Prop where
  words : ∀ text, splitWords (lower text) = (splitWords text).map lower
  start : ∀ start w, (∀ c ∈ start.toList, c.toNat < 128 ∧ c.isUpper = false) →
    startsWith w start = true → startsWith (lower w) start = true

/-- The parts of a word between its separators. -/
def pieces (w : String) : List String := (words isSeparator w.toList).map String.ofList

/-- A word up to its first separator. -/
def upToSeparator (w : String) : String :=
  String.ofList (w.toList.takeWhile fun c => !isSeparator c)

/-- The first part of some words that begins with `pay_`. -/
def paymentAmong (ws : List String) : Option String :=
  (ws.flatMap pieces).find? fun w => startsWith w "pay_"

/-- **The separators cut the words of a text.** -/
theorem cleanWords_eq (text : String) : cleanWords text = (splitWords text).flatMap pieces := by
  have hblank : isPythonSpace ' ' = true := by decide
  have hboth : words isPythonSpace (text.toList.map fun c => if isSeparator c then ' ' else c) =
      words (fun c => isPythonSpace c || isSeparator c) text.toList := by
    refine words_map _ (fun c => ?_) (fun c hc => ?_) text.toList
    · cases hsep : isSeparator c with
      | true => rw [if_pos rfl, hblank, Bool.or_true]
      | false => rw [if_neg Bool.false_ne_true, Bool.or_false]
    · rw [Bool.or_eq_false_iff] at hc
      rw [hc.2, if_neg Bool.false_ne_true]
  unfold cleanWords splitWords replaceSeparators pieces
  rw [String.toList_ofList, hboth, words_or, List.flatMap_map, List.map_flatMap]
  refine List.flatMap_congr fun w _ => ?_
  rw [String.toList_ofList]

/-- A word that begins with `pay_` does so up to its first separator, which is its first part. -/
theorem paymentAmong_cons {w : String} (h : startsWith w "pay_" = true) (ws : List String) :
    paymentAmong (w :: ws) = some (upToSeparator w) := by
  obtain ⟨rest, hrest⟩ := List.isPrefixOf_iff_prefix.mp h
  have hp : isSeparator 'p' = false := by decide
  have htake : w.toList.takeWhile (fun c => !isSeparator c) =
      "pay_".toList ++ rest.takeWhile fun c => !isSeparator c := by
    rw [← hrest, List.takeWhile_append_of_pos (List.all_eq_true.mp (by decide +kernel))]
  have hchars : (upToSeparator w).toList =
      "pay_".toList ++ rest.takeWhile fun c => !isSeparator c := by
    rw [upToSeparator, String.toList_ofList, htake]
  have hstarts : startsWith (upToSeparator w) "pay_" = true := by
    unfold startsWith
    rw [hchars]
    exact List.isPrefixOf_iff_prefix.mpr (List.prefix_append _ _)
  have hpieces : pieces w = upToSeparator w ::
      ((scan isSeparator w.toList).2.map String.ofList) := by
    have hw : w.toList = 'p' :: ("ay_".toList ++ rest) := hrest.symm
    unfold pieces upToSeparator
    rw [hw, words_of_head hp, List.map_cons]
  unfold paymentAmong
  rw [List.flatMap_cons, hpieces, List.cons_append]
  exact List.find?_cons_of_pos hstarts

/-- **The payment of a refund**: one among the words before the one that names it, or the part of
that word up to its first separator. -/
theorem refundTarget_eq {text w : String} {before after : List String}
    (hwords : splitWords text = before ++ w :: after) (hw : startsWith w "pay_" = true) :
    refundTarget text = (paymentAmong before).getD (upToSeparator w) := by
  have hfound : (cleanWords text).find? (fun w => startsWith w "pay_") =
      some ((paymentAmong before).getD (upToSeparator w)) := by
    have hhere := paymentAmong_cons hw after
    unfold paymentAmong at hhere ⊢
    rw [cleanWords_eq, hwords, List.flatMap_append, List.find?_append, hhere]
    cases (before.flatMap pieces).find? fun w => startsWith w "pay_" with
    | none => rfl
    | some w' => rfl
  unfold refundTarget
  rw [hfound]

/-! ### The amount -/

section Numeral

variable (digits : UnicodeDigits)

/-- The groups of a comma and three digits a text begins with. -/
def commaGroups : List Char → List Char
  | sep :: a :: b :: c :: rest =>
    if sep = ',' ∧ digits.isDigit a ∧ digits.isDigit b ∧ digits.isDigit c then
      sep :: a :: b :: c :: commaGroups rest
    else []
  | _ => []

/-- The decimal fraction a text begins with. -/
def decimals : List Char → List Char
  | sep :: c :: rest =>
    if sep = '.' ∧ digits.isDigit c then sep :: (c :: rest).takeWhile digits.isDigit else []
  | _ => []

/-- Groups and a fraction. -/
def afterWhole (text : List Char) : List Char :=
  commaGroups digits text ++ decimals digits (text.drop (commaGroups digits text).length)

/-- **The numeral a text begins with**: at most three digits, groups of a comma and three digits,
and a fraction. -/
def leadingNumeral (text : List Char) : List Char :=
  let whole := (text.takeWhile digits.isDigit).take 3
  whole ++ afterWhole digits (text.drop whole.length)

/-- A text from its first digit on. -/
def fromFirstDigit (text : List Char) : List Char := text.dropWhile fun c => !digits.isDigit c

/-- The rupees that are read at the first digit, none if there is no digit. -/
def readRupees (userText : String) : WithTop ℚ :=
  floatOf digits (leadingNumeral digits (fromFirstDigit digits userText.toList))

end Numeral

section Patterns

open Pattern

variable {digits : UnicodeDigits}

/-- A comma and three digits. -/
theorem first_commaGroup (sep : Char) (text : List Char) :
    first (seq (one (· = ',')) (times (one digits.isDigit) 3)) (sep :: text) =
      if sep = ',' ∧ (text.take 3).length = 3 ∧ (text.take 3).all digits.isDigit then
        some (sep :: text.take 3, text.drop 3)
      else none := by
  rw [first_seq_one, first_times_one]
  by_cases hsep : sep = ','
  · simp only [hsep, decide_true, if_true, true_and]
    split
    · rfl
    · rfl
  · simp only [hsep, decide_false, Bool.false_eq_true, if_false, false_and]

theorem takes_commaGroups :
    Takes (star (seq (one (· = ',')) (times (one digits.isDigit) 3))) (commaGroups digits) := by
  have hfuel : ∀ n, ∀ text : List Char, text.length ≤ n →
      first (starFuel (seq (one (· = ',')) (times (one digits.isDigit) 3)) n) text =
        some (commaGroups digits text, text.drop (commaGroups digits text).length) := by
    intro n
    induction n with
    | zero =>
      intro text h
      rw [List.length_eq_zero_iff.mp (Nat.le_zero.mp h)]
      rfl
    | succ n ih =>
      intro text h
      rw [starFuel, first_opt]
      cases text with
      | nil => rfl
      | cons sep text =>
        have hgroup := @first_commaGroup digits sep text
        rcases text with _ | ⟨a, _ | ⟨b, _ | ⟨c, rest⟩⟩⟩
        · rw [first_seq_none (by rw [hgroup]; simp)]
          rfl
        · rw [first_seq_none (by rw [hgroup]; simp)]
          rfl
        · rw [first_seq_none (by rw [hgroup]; simp)]
          rfl
        · simp only [List.take_succ_cons, List.take_zero, List.drop_succ_cons, List.drop_zero,
            List.length_cons, List.length_nil, List.all_cons, List.all_nil, Bool.and_true,
            Bool.and_eq_true, true_and] at hgroup
          unfold commaGroups
          by_cases hdigits : sep = ',' ∧ digits.isDigit a ∧ digits.isDigit b ∧ digits.isDigit c
          · rw [if_pos hdigits] at hgroup ⊢
            have hrest := ih rest (by simp only [List.length_cons] at h; omega)
            rw [first_seq hgroup hrest]
            rfl
          · rw [if_neg hdigits] at hgroup ⊢
            rw [first_seq_none hgroup]
            rfl
  exact fun text => hfuel text.length text (le_refl _)

theorem takes_decimals :
    Takes (opt (seq (one (· = '.')) (seq (one digits.isDigit) (star (one digits.isDigit)))))
      (decimals digits) := by
  intro text
  rw [first_opt]
  rcases text with _ | ⟨sep, _ | ⟨c, rest⟩⟩
  · rfl
  · rw [first_seq_one]
    split
    · rfl
    · rfl
  · rw [first_seq_one, first_seq_one, takes_star_one]
    unfold decimals
    by_cases hsep : sep = '.'
    · cases hc : digits.isDigit c with
      | true => simp [hsep, hc]
      | false => simp [hsep, hc]
    · simp [hsep]

/-- **The group takes the numeral the text begins with.** -/
theorem first_amountGroup {c : Char} (h : digits.isDigit c = true) (text : List Char) :
    first (amountGroup digits) (c :: text) =
      some (leadingNumeral digits (c :: text),
        (c :: text).drop (leadingNumeral digits (c :: text)).length) := by
  have hwhole : first (seq (one digits.isDigit) (upTo (one digits.isDigit) 2)) (c :: text) =
      some (((c :: text).takeWhile digits.isDigit).take 3,
        (c :: text).drop (((c :: text).takeWhile digits.isDigit).take 3).length) := by
    rw [first_seq_one, if_pos h, takes_upTo_one, List.takeWhile_cons_of_pos h]
    rfl
  have hafter := (@takes_commaGroups digits).seq (@takes_decimals digits)
  unfold amountGroup
  rw [first_alt, first_seq hwhole (hafter _)]
  simp only [Option.some_or, leadingNumeral, afterWhole, List.drop_drop, List.length_append]

/-- A text that does not begin with a digit. -/
theorem amountGroup_of_not_digit {c : Char} (h : digits.isDigit c = false) (text : List Char) :
    amountGroup digits (c :: text) = [] := by
  unfold amountGroup alt seq one
  simp [h]

/-- ASCII characters that are no digits. -/
theorem not_digit_of_ascii {c : Char} (hascii : c.toNat < 128) (h : c.isDigit = false) :
    digits.isDigit c = false := by
  unfold UnicodeDigits.isDigit
  rw [digits.ascii c hascii, h]
  rfl

theorem not_digit_of_none {c : Char} (h : digits.value c = none) : digits.isDigit c = false := by
  unfold UnicodeDigits.isDigit
  rw [h]
  rfl

/-- A currency mark has no digits. -/
theorem skips_currencyMark : Skips digits.isDigit currencyMark := by
  have hmem : ∀ cs : List Char, (∀ c ∈ cs, digits.isDigit c = false) →
      Skips digits.isDigit (one (· ∈ cs)) := fun cs h =>
    skips_one fun c hc => h c (of_decide_eq_true hc)
  have heq : ∀ c : Char, digits.isDigit c = false → Skips digits.isDigit (one (· = c)) :=
    fun c h => skips_one fun c' hc' => of_decide_eq_true hc' ▸ h
  have hr := hmem ['r', 'R'] (by
    intro c hc
    rcases List.mem_pair.mp hc with rfl | rfl
    · exact not_digit_of_ascii (by decide) (by decide)
    · exact not_digit_of_ascii (by decide) (by decide))
  have hs := hmem ['s', 'S', 'ſ'] (by
    intro c hc
    rcases List.mem_cons.mp hc with rfl | hc
    · exact not_digit_of_ascii (by decide) (by decide)
    · rcases List.mem_pair.mp hc with rfl | rfl
      · exact not_digit_of_ascii (by decide) (by decide)
      · exact not_digit_of_none digits.longS)
  have hdot := heq '.' (not_digit_of_ascii (by decide) (by decide))
  have hrupee := heq '₹' (not_digit_of_none digits.rupee)
  have hdollar := heq '$' (not_digit_of_ascii (by decide) (by decide))
  exact (((hr.seq (hs.seq hdot.opt)).alt hrupee).alt hdollar).opt

/-- **The pattern reads the amount at the first digit**, whatever stands before it. -/
theorem search_amountPattern (text : List Char) :
    search (amountPattern digits) text =
      match fromFirstDigit digits text with
      | [] => none
      | c :: rest => some (leadingNumeral digits (c :: rest),
          (c :: rest).drop (leadingNumeral digits (c :: rest)).length) := by
  have hskips : Skips digits.isDigit (seq currencyMark (star (one isPythonSpace))) :=
    skips_currencyMark.seq (skips_one fun c hc => not_digit_of_none (digits.space c hc)).star
  have hnothing : ∀ as, ([], as) ∈ seq currencyMark (star (one isPythonSpace)) as := fun as =>
    mem_seq (mem_opt _ as) (mem_star _ as)
  have hsome : ∀ c rest, digits.isDigit c = true → amountGroup digits (c :: rest) ≠ [] := by
    intro c rest hc hnil
    have hfirst := first_amountGroup hc rest
    rw [first, hnil] at hfirst
    cases hfirst
  have hfound := search_captured hskips rfl (fun c rest hc => amountGroup_of_not_digit hc rest)
    hnothing hsome text
  unfold amountPattern
  rw [hfound]
  show first (amountGroup digits) (fromFirstDigit digits text) = _
  cases hfrom : fromFirstDigit digits text with
  | nil => rfl
  | cons c rest =>
    have hdigit : digits.isDigit c = true := by
      have hnot := List.head?_dropWhile_not (fun c => !digits.isDigit c) text
      unfold fromFirstDigit at hfrom
      rw [hfrom] at hnot
      simpa using hnot
    exact first_amountGroup hdigit rest

end Patterns

section Amount

variable {digits : UnicodeDigits} {userText textLower : String}

/-- An integer below `2 ^ 53` is read as it is. -/
theorem floatOf_numeral {numeral : List Char} {n : ℕ}
    (hvalue : decimalValue digits (numeral.filter (· ≠ ',')) = n) (hn : n < 2 ^ 53) :
    floatOf digits numeral = ((n : ℚ) : WithTop ℚ) := by
  unfold floatOf
  rw [hvalue, nearestDouble_natCast hn]

/-- Without a digit there is nothing. -/
theorem floatOf_nil : floatOf digits (leadingNumeral digits []) = 0 := by
  have hvalue : decimalValue digits [] = (0 : ℕ) := by simp [decimalValue, naturalValue]
  exact floatOf_numeral hvalue (by decide)

/-- **The amount of a refund.** -/
theorem refundAmount_eq : refundAmount digits userText textLower =
    match shortcutAmount userText textLower with
    | some amount => ((amount : ℚ) : WithTop ℚ)
    | none =>
      if 0 < readRupees digits userText then readRupees digits userText
      else ((1000 : ℚ) : WithTop ℚ) := by
  unfold refundAmount
  cases shortcutAmount userText textLower with
  | some amount => rfl
  | none =>
    unfold readRupees
    rw [search_amountPattern]
    cases fromFirstDigit digits userText.toList with
    | nil =>
      have hnot : ¬ 0 < floatOf digits (leadingNumeral digits []) := by
        rw [floatOf_nil]
        exact lt_irrefl _
      exact (if_neg hnot).symm
    | cons c rest => rfl

end Amount

/-! ### Prompts for refunds -/

/-- The prompt reaches the branch that issues a refund. -/
structure ReachesRefund (env : Platform) (prompt : String) : Prop where
  greeting : isGreeting (strip (env.lower (env.lower prompt))) = false
  capabilities : asksCapabilities (strip (env.lower (env.lower prompt))) = false
  history : asksHistory (strip (env.lower (env.lower prompt))) = false
  catalog : asksCatalog (strip (env.lower (env.lower prompt))) = false
  product : productAnswer (strip (env.lower (env.lower prompt))) = none
  refund : asksRefund (strip (env.lower (env.lower prompt))) = true
  policy : asksRefundPolicy (strip (env.lower (env.lower prompt))) = false

/-- Digits, among which there may be commas, and the number they are. -/
def IsNumeral (row : List Char) (n : ℕ) : Prop :=
  (∀ c ∈ row, c.isDigit = true ∨ c = ',') ∧
    (row.filter Char.isDigit).foldl (fun n c => 10 * n + (c.toNat - 48)) 0 = n

theorem isNumeral_iff {row : List Char} {n : ℕ} :
    IsNumeral row n ↔ row.all (fun c => c.isDigit || c == ',') = true ∧
      (row.filter Char.isDigit).foldl (fun n c => 10 * n + (c.toNat - 48)) 0 = n := by
  simp only [IsNumeral, List.all_eq_true, Bool.or_eq_true, beq_iff_eq]

/-- **A prompt with one payment and an amount.**  It may name other amounts too. -/
structure RefundPrompt (prompt paymentId : String) (n : ℕ) : Prop where
  payment : (splitWords prompt).filter (fun w => startsWith w "pay_") = [paymentId]
  amount : ∃ before row after, prompt.toList = before ++ row ++ after ∧ IsNumeral row n
  positive : 0 < n

/-- The adapter is asked the prompt: it has no calls of its own, and the prompt is the last that the
user said, and no tool has answered since. -/
structure Asked (adapter : MockLLMAdapter) (messages : List ChatMessage) (prompt : String) : Prop where
  predefined : adapter.predefinedToolCalls = []
  noTool : ∀ m ∈ messages.getLast?, m.role ≠ "tool"
  said : (messages.reverse.find? fun m => m.role = "user").map ChatMessage.content = some prompt

/-- **The refund that is proposed**: one call, with this payment and so many rupees. -/
def Proposes (response : Option LLMResponse) (paymentId : String) (n : ℕ) : Prop :=
  ∃ id reason, response.map LLMResponse.toolCalls = some [⟨id, "issue_customer_refund",
    [("payment_id", .text paymentId), ("amount_in_rupees", .number ((n : ℚ) : WithTop ℚ)),
      ("reason", reason)]⟩]

/-- **The payment is kept**: the words before it have no part that begins with `pay_` in lower case,
and the lower case and the separators take nothing from it.  Or the first such part is the same. -/
def PaymentKept (env : Platform) (prompt paymentId : String) : Prop :=
  ∃ before after, splitWords prompt = before ++ paymentId :: after ∧
    (paymentAmong (before.map env.lower) = some paymentId ∨
      paymentAmong (before.map env.lower) = none ∧ upToSeparator (env.lower paymentId) = paymentId)

/-- **The amount is kept**: the first phrase of the table that occurs stands for it, or none occurs
and the numeral at the first digit is its.  A thousand is also what no positive numeral stands for. -/
inductive AmountKept (digits : UnicodeDigits) (userText textLower : String) (n : ℕ) : Prop
  | shortcut (h : shortcutAmount userText textLower = some n)
  | numeral (hnone : shortcutAmount userText textLower = none)
      (h : readRupees digits userText = ((n : ℚ) : WithTop ℚ))
  | default (hnone : shortcutAmount userText textLower = none)
      (h : ¬ 0 < readRupees digits userText) (hn : n = 1000)

section Prompts

variable {env : Platform} {host : Rendering} {digits : UnicodeDigits} {uuidHex : String}
  {adapter : MockLLMAdapter} {messages : List ChatMessage} {prompt paymentId : String} {n : ℕ}

/-- What is proposed. -/
theorem chatCompletion_of_refund (hasked : Asked adapter messages prompt)
    (hreach : ReachesRefund env prompt) :
    adapter.chatCompletion env host digits uuidHex messages = some ⟨none,
      [refundCall digits uuidHex (env.lower prompt) (strip (env.lower (env.lower prompt)))],
      "mock-semantic-v1", "mock"⟩ := by
  have hlast : (messages.getLast?.filter fun m => m.role = "tool") = none := by
    rw [Option.filter_eq_none_iff]
    intro m hm
    rw [decide_eq_true_eq]
    exact hasked.noTool m hm
  have htext : lastUserText env messages = env.lower prompt := by
    obtain ⟨m, hm, rfl⟩ := Option.map_eq_some_iff.mp hasked.said
    unfold lastUserText
    rw [hm]
  have hparse : parseSemanticIntent env digits uuidHex (env.lower prompt) =
      .calls [refundCall digits uuidHex (env.lower prompt)
        (strip (env.lower (env.lower prompt)))] := by
    unfold parseSemanticIntent
    simp only [hreach.greeting, hreach.capabilities, hreach.history, hreach.catalog,
      hreach.product, hreach.refund, hreach.policy, Bool.false_eq_true, if_false, if_true]
  unfold MockLLMAdapter.chatCompletion
  rw [hlast]
  simp only [hasked.predefined, if_true, htext, hparse]

/-- It has the payment and the amount of the prompt. -/
theorem proposes_iff (hasked : Asked adapter messages prompt) (hreach : ReachesRefund env prompt) :
    Proposes (adapter.chatCompletion env host digits uuidHex messages) paymentId n ↔
      refundTarget (env.lower prompt) = paymentId ∧
        refundAmount digits (env.lower prompt) (strip (env.lower (env.lower prompt))) =
          ((n : ℚ) : WithTop ℚ) := by
  unfold Proposes
  rw [chatCompletion_of_refund hasked hreach]
  constructor
  · rintro ⟨id, reason, h⟩
    have hcall := (List.cons.inj (Option.some.inj h)).1
    simp only [refundCall, LLMToolCall.mk.injEq, List.cons.injEq, Prod.mk.injEq,
      Argument.text.injEq, Argument.number.injEq, true_and] at hcall
    exact ⟨hcall.2.1, hcall.2.2.1⟩
  · rintro ⟨hpayment, hamount⟩
    refine ⟨callId "rfnd" uuidHex, .text "Customer request via support dialogue", ?_⟩
    rw [Option.map_some, refundCall, hpayment, hamount]

theorem paymentKept_iff (hlower : LowerCase env.lower) (hprompt : RefundPrompt prompt paymentId n) :
    refundTarget (env.lower prompt) = paymentId ↔ PaymentKept env prompt paymentId := by
  have hmem : paymentId ∈ (splitWords prompt).filter fun w => startsWith w "pay_" := by
    rw [hprompt.payment]
    exact List.mem_singleton_self _
  obtain ⟨hword, hstarts⟩ := List.mem_filter.mp hmem
  have hascii : "pay_".toList.all (fun c => decide (c.toNat < 128) && !c.isUpper) = true := by
    decide +kernel
  have hlowered : startsWith (env.lower paymentId) "pay_" = true := by
    refine hlower.start "pay_" paymentId (fun c hc => ?_) hstarts
    have hcase := List.all_eq_true.mp hascii c hc
    rwa [Bool.and_eq_true, decide_eq_true_eq, Bool.not_eq_true'] at hcase
  have htarget : ∀ before after, splitWords prompt = before ++ paymentId :: after →
      refundTarget (env.lower prompt) =
        (paymentAmong (before.map env.lower)).getD (upToSeparator (env.lower paymentId)) := by
    intro before after hwords
    refine @refundTarget_eq _ _ _ (after.map env.lower) ?_ hlowered
    rw [hlower.words, hwords, List.map_append, List.map_cons]
  constructor
  · intro h
    obtain ⟨before, after, hwords⟩ := List.append_of_mem hword
    rw [htarget before after hwords] at h
    refine ⟨before, after, hwords, ?_⟩
    cases hamong : paymentAmong (before.map env.lower) with
    | none =>
      rw [hamong] at h
      exact .inr ⟨rfl, h⟩
    | some w =>
      rw [hamong] at h
      exact .inl (congrArg some h)
  · rintro ⟨before, after, hwords, hkept⟩
    rw [htarget before after hwords]
    rcases hkept with hamong | ⟨hamong, hsame⟩
    · rw [hamong]
      rfl
    · rw [hamong]
      exact hsame

theorem amountKept_iff {userText textLower : String} (hn : 0 < n) :
    refundAmount digits userText textLower = ((n : ℚ) : WithTop ℚ) ↔
      AmountKept digits userText textLower n := by
  have hcast : ∀ m : ℕ, ((m : ℚ) : WithTop ℚ) = ((n : ℚ) : WithTop ℚ) ↔ m = n := fun m => by
    rw [WithTop.coe_inj, Nat.cast_inj]
  rw [refundAmount_eq]
  constructor
  · intro h
    cases hshortcut : shortcutAmount userText textLower with
    | some amount =>
      rw [hshortcut] at h
      exact .shortcut (hshortcut.trans (congrArg some ((hcast amount).mp h)))
    | none =>
      rw [hshortcut] at h
      dsimp only at h
      split at h
      · exact .numeral hshortcut h
      · rename_i hread
        exact .default hshortcut hread ((hcast 1000).mp h).symm
  · intro h
    cases h with
    | shortcut h => rw [h]
    | numeral hnone h =>
      have hpos : 0 < readRupees digits userText := by
        rw [h]
        exact_mod_cast hn
      rw [hnone]
      dsimp only
      rw [if_pos hpos, h]
    | default hnone h hn =>
      rw [hnone]
      dsimp only
      rw [if_neg h, hn]
      rfl

end Prompts

/-- **A refund intent is faithful exactly if the prompt keeps its payment and its amount.** -/
theorem refund_intent_faithful_iff (env : Platform) (host : Rendering) (digits : UnicodeDigits)
    (uuidHex : String) (adapter : MockLLMAdapter) (messages : List ChatMessage)
    (prompt paymentId : String) (n : ℕ) (hlower : LowerCase env.lower)
    (hasked : Asked adapter messages prompt) (hreach : ReachesRefund env prompt)
    (hprompt : RefundPrompt prompt paymentId n) :
    Proposes (adapter.chatCompletion env host digits uuidHex messages) paymentId n ↔
      PaymentKept env prompt paymentId ∧
        AmountKept digits (env.lower prompt) (strip (env.lower (env.lower prompt))) n := by
  rw [proposes_iff hasked hreach, paymentKept_iff hlower hprompt, amountKept_iff hprompt.positive]

namespace Sample

/-- A host that knows the ASCII digits. -/
def asciiDigits : UnicodeDigits where
  value c := if c.isDigit then some (c.toNat - 48) else none
  ascii _ _ := rfl
  space c h := by
    have hspace : c.isDigit = false := by
      rw [Bool.eq_false_iff]
      intro hdigit
      have hrange : 48 ≤ c.toNat ∧ c.toNat ≤ 57 := by
        simpa [Char.isDigit, UInt32.le_iff_toNat_le] using hdigit
      simp only [isPythonSpace, Bool.or_eq_true, Bool.and_eq_true, decide_eq_true_eq] at h
      omega
    rw [if_neg (by rw [hspace]; decide)]
  rupee := by decide
  longS := by decide

def rendering : Rendering := ⟨fun _ => none, fun _ => "", fun _ => ""⟩

def askedFor (prompt : String) : List ChatMessage := [⟨"system", "support"⟩, ⟨"user", prompt⟩]

theorem asked (prompt : String) : Asked ⟨[]⟩ (askedFor prompt) prompt := by
  refine ⟨rfl, fun m hm => ?_, rfl⟩
  cases hm
  show "user" ≠ "tool"
  decide

open ControlPlane.Sample in
theorem lowerCase : LowerCase platform.lower :=
  ⟨fun _ => (List.map_id _).symm, fun _ _ _ h => h⟩

end Sample

open Sample ControlPlane.Sample in
/-- Five hundred rupees are refunded. -/
theorem refund_intent_faithful_fiveHundred :
    Proposes (MockLLMAdapter.chatCompletion platform rendering asciiDigits "0123456789abcdef" ⟨[]⟩
      (askedFor "refund pay_abc 500")) "pay_abc" 500 := by
  have hreach : ReachesRefund platform "refund pay_abc 500" :=
    ⟨by decide +kernel, by decide +kernel, by decide +kernel, by decide +kernel, by decide +kernel,
      by decide +kernel, by decide +kernel⟩
  have hprompt : RefundPrompt "refund pay_abc 500" "pay_abc" 500 :=
    ⟨by decide +kernel, ⟨"refund pay_abc ".toList, "500".toList, [], by decide,
      isNumeral_iff.mpr (by decide +kernel)⟩, by decide⟩
  have hvalue : decimalValue asciiDigits ((leadingNumeral asciiDigits (fromFirstDigit asciiDigits
      "refund pay_abc 500".toList)).filter (· ≠ ',')) = (500 : ℕ) := by decide +kernel
  refine (refund_intent_faithful_iff platform rendering asciiDigits _ ⟨[]⟩ _ _ _ 500 lowerCase
    (asked _) hreach hprompt).mpr ⟨⟨["refund"], ["500"], by decide +kernel, .inr ?_⟩, ?_⟩
  · decide +kernel
  · exact .numeral (by decide +kernel) (floatOf_numeral hvalue (by decide))

open Sample ControlPlane.Sample in
/-- **Four thousand five hundred rupees become four hundred and fifty**: without a comma the pattern
stops after three digits. -/
theorem not_refund_intent_faithful :
    ReachesRefund platform "refund pay_abc 4500" ∧
      RefundPrompt "refund pay_abc 4500" "pay_abc" 4500 ∧
      ¬ Proposes (MockLLMAdapter.chatCompletion platform rendering asciiDigits "0123456789abcdef"
        ⟨[]⟩ (askedFor "refund pay_abc 4500")) "pay_abc" 4500 := by
  have hreach : ReachesRefund platform "refund pay_abc 4500" :=
    ⟨by decide +kernel, by decide +kernel, by decide +kernel, by decide +kernel, by decide +kernel,
      by decide +kernel, by decide +kernel⟩
  have hprompt : RefundPrompt "refund pay_abc 4500" "pay_abc" 4500 :=
    ⟨by decide +kernel, ⟨"refund pay_abc ".toList, "4500".toList, [], by decide,
      isNumeral_iff.mpr (by decide +kernel)⟩, by decide⟩
  refine ⟨hreach, hprompt, fun h => ?_⟩
  have hvalue : decimalValue asciiDigits ((leadingNumeral asciiDigits (fromFirstDigit asciiDigits
      "refund pay_abc 4500".toList)).filter (· ≠ ',')) = (450 : ℕ) := by decide +kernel
  have hread : readRupees asciiDigits "refund pay_abc 4500" = (((450 : ℕ) : ℚ) : WithTop ℚ) :=
    floatOf_numeral hvalue (by decide)
  have hnone : shortcutAmount (platform.lower "refund pay_abc 4500")
      (strip (platform.lower (platform.lower "refund pay_abc 4500"))) = none := by decide +kernel
  have hamount := ((proposes_iff (asked _) hreach).mp h).2
  cases (amountKept_iff (by decide)).mp hamount with
  | shortcut h =>
    rw [hnone] at h
    cases h
  | numeral _ h =>
    have hsame : (450 : ℕ) = 4500 := by
      have hcoe := hread.symm.trans h
      rw [WithTop.coe_inj, Nat.cast_inj] at hcoe
      exact hcoe
    exact absurd hsame (by decide)
  | default _ _ hn => exact absurd hn (by decide)

end MandatePlane.RefundIntents
