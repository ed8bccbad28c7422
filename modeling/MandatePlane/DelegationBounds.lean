import MandatePlane.AgentChat
import MandatePlane.BudgetContainment

/-!
# What a delegation may not loosen

A delegation is checked against the direct parent only, at the moment it is accepted,
and no endpoint changes the terms of a mandate afterwards.  So whatever a delegation
establishes between the child and everything above its parent holds between every
mandate and all its ancestors, in every state.

The checks bound the amount of an operation, the currency, the validity and the kinds of
operations.  The threshold of human review is not among them: a child may be given any
threshold, and with a higher one, operations go through that its parent would have
stopped for review.
-/

namespace MandatePlane.DelegationBounds

open DomainModel KeyedTable LabelledRun LedgerView HostEnvironment HandlerPostings
open ControlPlane MandateRoutes MandateSteps DelegationHierarchy PolicyEngine AgentChat
open BudgetContainment

/-! ### Relations along chains of delegations -/

/-- Every parent is there, and `R` holds between every mandate and its ancestors. -/
structure ChainsKeep (R : Mandate → Mandate → Prop) (mandates : Table Mandate) : Prop where
  linked : ∀ m ∈ mandates.rows, ∀ id, m.parentMandateId = some id →
    ∃ p, mandates.find? id = some p
  along : ∀ d ∈ mandates.rows, ∀ a, Ancestor mandates d a → R a d

section Chains

variable {R : Mandate → Mandate → Prop} {mandates mandates' : Table Mandate}

theorem chainsKeep_of_empty (h : mandates.rows = []) : ChainsKeep R mandates := by
  refine ⟨fun m hm => ?_, fun d hd => ?_⟩
  · rw [h] at hm
    cases hm
  · rw [h] at hd
    cases hd

/-- The parents of the mandates that were there are the same after an insert. -/
theorem parent_of_insert {m q p : Mandate} {id : String}
    (hlinked : ∀ m ∈ mandates.rows, ∀ id, m.parentMandateId = some id →
      ∃ p, mandates.find? id = some p)
    (hi : mandates.insert m = some mandates') (hq : q ∈ mandates.rows)
    (hlink : q.parentMandateId = some id) (hp : mandates'.find? id = some p) :
    mandates.find? id = some p := by
  obtain ⟨p', hp'⟩ := hlinked q hq id hlink
  rw [Table.find?_insert_of_some hi hp'] at hp
  rw [hp', hp]

/-- An insert gives no mandate that was there a new ancestor. -/
theorem ancestor_of_insert {m d a : Mandate}
    (hlinked : ∀ m ∈ mandates.rows, ∀ id, m.parentMandateId = some id →
      ∃ p, mandates.find? id = some p)
    (hi : mandates.insert m = some mandates') (hd : d ∈ mandates.rows)
    (ha : Ancestor mandates' d a) : Ancestor mandates d a ∧ a ∈ mandates.rows := by
  induction ha with
  | parent hlink hp =>
    have hp := parent_of_insert hlinked hi hd hlink hp
    exact ⟨.parent hlink hp, Table.mem_of_find? hp⟩
  | above _ hlink hp ih =>
    have hp := parent_of_insert hlinked hi ih.2 hlink hp
    exact ⟨.above ih.1 hlink hp, Table.mem_of_find? hp⟩

/-- A mandate without a parent. -/
theorem ChainsKeep.root {m : Mandate} (h : ChainsKeep R mandates)
    (hi : mandates.insert m = some mandates') (hparent : m.parentMandateId = none) :
    ChainsKeep R mandates' := by
  refine ⟨fun r hr id hlink => ?_, fun d hd a ha => ?_⟩
  · rcases (Table.mem_insert hi).mp hr with hr | rfl
    · obtain ⟨p, hp⟩ := h.linked r hr id hlink
      exact ⟨p, Table.find?_insert_of_some hi hp⟩
    · rw [hparent] at hlink
      cases hlink
  · rcases (Table.mem_insert hi).mp hd with hd | rfl
    · exact h.along d hd a (ancestor_of_insert h.linked hi hd ha).1
    · exfalso
      induction ha with
      | parent hlink _ =>
        rw [hparent] at hlink
        cases hlink
      | above _ _ _ ih => exact ih

/-- An insert takes no ancestor away. -/
theorem ancestor_insert {m d a : Mandate} (hi : mandates.insert m = some mandates')
    (ha : Ancestor mandates d a) : Ancestor mandates' d a := by
  induction ha with
  | parent hlink hp => exact .parent hlink (Table.find?_insert_of_some hi hp)
  | above _ hlink hp ih => exact .above ih hlink (Table.find?_insert_of_some hi hp)

/-- What is above the parent of a mandate is above the mandate. -/
theorem ancestor_of_parent {m parent a : Mandate} {parentId : String}
    (hlink : m.parentMandateId = some parentId) (hparent : mandates.find? parentId = some parent)
    (ha : a = parent ∨ Ancestor mandates parent a) : Ancestor mandates m a := by
  rcases ha with rfl | ha
  · exact .parent hlink hparent
  · induction ha with
    | parent hlink' hp => exact .above (.parent hlink hparent) hlink' hp
    | above _ hlink' hp ih => exact .above ih hlink' hp

/-- The ancestors of a new child are its parent and its parent's ancestors. -/
theorem ancestor_of_child {m parent a : Mandate} {parentId : String}
    (hlinked : ∀ m ∈ mandates.rows, ∀ id, m.parentMandateId = some id →
      ∃ p, mandates.find? id = some p)
    (hi : mandates.insert m = some mandates') (hlink : m.parentMandateId = some parentId)
    (hparent : mandates.find? parentId = some parent) (ha : Ancestor mandates' m a) :
    (a = parent ∨ Ancestor mandates parent a) ∧ a ∈ mandates.rows := by
  induction ha with
  | parent hlink' hp =>
    rw [hlink] at hlink'
    cases hlink'
    rw [Table.find?_insert_of_some hi hparent] at hp
    cases hp
    exact ⟨.inl rfl, Table.mem_of_find? hparent⟩
  | above _ hlink' hp ih =>
    have hp := parent_of_insert hlinked hi ih.2 hlink' hp
    refine ⟨.inr ?_, Table.mem_of_find? hp⟩
    rcases ih.1 with rfl | habove
    · exact .parent hlink' hp
    · exact .above habove hlink' hp

/-- **A new child keeps the chains** if it is related to its parent and to all above it. -/
theorem ChainsKeep.child {m parent : Mandate} {parentId : String} (h : ChainsKeep R mandates)
    (hi : mandates.insert m = some mandates') (hlink : m.parentMandateId = some parentId)
    (hparent : mandates.find? parentId = some parent) (hR : R parent m)
    (habove : ∀ a, Ancestor mandates parent a → R a m) : ChainsKeep R mandates' := by
  refine ⟨fun r hr id hlink' => ?_, fun d hd a ha => ?_⟩
  · rcases (Table.mem_insert hi).mp hr with hr | rfl
    · obtain ⟨p, hp⟩ := h.linked r hr id hlink'
      exact ⟨p, Table.find?_insert_of_some hi hp⟩
    · rw [hlink] at hlink'
      cases hlink'
      exact ⟨parent, Table.find?_insert_of_some hi hparent⟩
  · rcases (Table.mem_insert hi).mp hd with hd | rfl
    · exact h.along d hd a (ancestor_of_insert h.linked hi hd ha).1
    · rcases (ancestor_of_child h.linked hi hlink hparent ha).1 with rfl | ha
      · exact hR
      · exact habove a ha

end Chains

/-! ### What the steps keep -/

section Steps

variable {R : Mandate → Mandate → Prop} {env : Platform} {settings : Settings} {s s' : Store}
  {c : Call} {events : List Event}

/-- The ancestors of a mandate are its ancestors in the terms. -/
theorem ancestor_terms {d a : Mandate} :
    Ancestor s.mandates d a → Ancestor (terms s) (termsOf d) (termsOf a) := by
  intro ha
  induction ha with
  | parent hlink hp => exact .parent hlink (by rw [terms_find?, hp]; rfl)
  | above _ hlink hp ih => exact .above ih hlink (by rw [terms_find?, hp]; rfl)

theorem ancestor_of_terms {d b : Mandate} (hb : Ancestor (terms s) (termsOf d) b) :
    ∃ a, Ancestor s.mandates d a ∧ termsOf a = b := by
  induction hb with
  | parent hlink hp =>
    rw [terms_find?] at hp
    obtain ⟨p, hfind, rfl⟩ := Option.map_eq_some_iff.mp hp
    exact ⟨p, .parent hlink hfind, rfl⟩
  | above _ hlink hp ih =>
    obtain ⟨q, hq, rfl⟩ := ih
    rw [terms_find?] at hp
    obtain ⟨p, hfind, rfl⟩ := Option.map_eq_some_iff.mp hp
    exact ⟨p, .above hq hlink hfind, rfl⟩

/-- A delegation seen in the terms. -/
theorem Delegated.terms_insert {parentId : String} {payload : MandateDelegateRequest}
    {id : String} {now : DateTime} {parent : Mandate} {currency : String}
    (h : Delegated env s parentId payload id now parent currency s'.mandates) :
    (terms s).insert (termsOf (childMandate payload parent currency id now)) = some (terms s') ∧
      (terms s).find? parent.id = some (termsOf parent) := by
  have hsame : terms (s.updateMandate parentId (allocate payload.aggregateSpendLimit)) =
      terms s := terms_columns s fun _ => rfl
  constructor
  · rw [← hsame]
    exact Table.mapRows_insert key_termsOf h.inserted
  · rw [terms_find?, show parent.id = parentId from Table.key_of_find? h.found, h.found]
    rfl

/-- **One step keeps the chains** of a relation between terms, if every delegation it accepts
relates the child to its parent and to all above it. -/
theorem chainsKeep_step (h : CallStep env settings s c events s')
    (hterms : ∀ a d, R (termsOf a) (termsOf d) ↔ R a d)
    (hchild : ∀ parentId payload id now parent currency,
      c = .control (.delegate parentId payload id now) →
      Delegated env s parentId payload id.text now parent currency s'.mandates →
      ∀ a, a = parent ∨ Ancestor s.mandates parent a →
        R a (childMandate payload parent currency id.text now))
    (hk : ChainsKeep R (terms s)) : ChainsKeep R (terms s') := by
  rcases h.terms_cases with he | ⟨m, hparent, hi⟩ |
    ⟨parentId, payload, id, now, parent, currency, hc, hd⟩
  · rwa [he]
  · exact hk.root hi hparent
  · have hrelated := hchild parentId payload id now parent currency hc hd
    obtain ⟨hi, hparent⟩ := Delegated.terms_insert hd
    refine hk.child hi rfl hparent ((hterms _ _).mpr (hrelated parent (.inl rfl))) fun b hb => ?_
    obtain ⟨a, ha, rfl⟩ := ancestor_of_terms hb
    exact (hterms _ _).mpr (hrelated a (.inr ha))

/-- The chains of the terms are the chains of the mandates. -/
theorem along_of_terms (hterms : ∀ a d, R (termsOf a) (termsOf d) ↔ R a d)
    (hk : ChainsKeep R (terms s)) {d a : Mandate} (hd : d ∈ s.mandates.rows)
    (ha : Ancestor s.mandates d a) : R a d :=
  (hterms _ _).mp (hk.along (termsOf d) (List.mem_map_of_mem hd) (termsOf a) (ancestor_terms ha))

end Steps

/-! ### Active below active -/

section Live

variable {env : Platform} {settings : Settings} {s s' : Store} {c : Call} {events : List Event}

theorem liveHierarchy_callStep (h : CallStep env settings s c events s')
    (hlive : LiveHierarchy s.mandates) : LiveHierarchy s'.mandates := by
  cases h with
  | control h => exact liveHierarchy_step h hlive
  | silent => exact hlive
  | reissued h =>
    exact hlive.insert h (reissuedMandate_named _ _ _ _ _) fun _ hlink => by cases hlink

/-- **No live authority below a dead ancestor**: in every state of every run that starts without
mandates, the ancestors of an ACTIVE mandate are ACTIVE. -/
theorem live_below_live (env : Platform) (settings : Settings) (s : Store) (calls : List Call)
    (hempty : s.mandates.rows = []) :
    (interactivePlane env settings).Throughout (fun s => ∀ d ∈ s.mandates.rows,
      d.status = .active → ∀ a, Ancestor s.mandates d a → a.status = .active) s calls := by
  have hstart : LiveHierarchy s.mandates := by
    refine ⟨fun m hm => ?_, fun m hm => ?_⟩
    · rw [hempty] at hm
      cases hm
    · rw [hempty] at hm
      cases hm
  have hstep : ∀ (s : Store) (c : Call), LiveHierarchy s.mandates →
      LiveHierarchy ((interactivePlane env settings).next s c).mandates :=
    fun s c hlive => liveHierarchy_callStep (answer_step env settings s c) hlive
  refine Machine.throughout_mono (fun s hl => ?_) (Machine.throughout_of_step hstep hstart calls)
  intro d hd hactive a ha
  exact hl.ancestor_active hd hactive ha

/-- A child is suspended with its parent, stays so while the parent is, and the agent's chat goes on
under a mandate of its own. -/
theorem live_below_live_suspended :
    (interactivePlane Sample.platform Sample.settings).Throughout (fun s =>
      ∀ d ∈ s.mandates.rows, d.status = .active → ∀ a, Ancestor s.mandates d a →
        a.status = .active) unissued
      [.control issue, .control (handOut 400 (by decide)), .control (.suspend "mnd_1" none),
        .control (.activate "mnd_2"), .chat "agt_1" ⟨none, none, none⟩ "hex" ⟨5, some 0⟩,
        .control (.activate "mnd_1")] :=
  live_below_live _ _ _ _ rfl

end Live

/-! ### No escalation -/

/-- What an ancestor allows bounds what a mandate allows. -/
structure Bounded (env : Platform) (a d : Mandate) : Prop where
  amount : d.maxAmountPerOp ≤ a.maxAmountPerOp
  currency : env.upper d.currency = env.upper a.currency
  validity : d.validUntil.instant ≤ a.validUntil.instant
  operations : a.allowedOperations ≠ [] → d.allowedOperations ≠ [] ∧
    ∀ opType ∈ d.allowedOperations, opType ∈ a.allowedOperations

section Escalation

variable {env : Platform}

theorem Bounded.trans {a b d : Mandate} (h : Bounded env a b) (h' : Bounded env b d) :
    Bounded env a d := by
  refine ⟨h'.amount.trans h.amount, h'.currency.trans h.currency, h'.validity.trans h.validity,
    fun ha => ?_⟩
  obtain ⟨hb, hsub⟩ := h.operations ha
  obtain ⟨hd, hsub'⟩ := h'.operations hb
  exact ⟨hd, fun opType ho => hsub opType (hsub' opType ho)⟩

/-- A kind of operation that an ancestor does not allow is not allowed. -/
theorem Bounded.denied {a d : Mandate} (h : Bounded env a d) {op : FinancialOperation}
    (hdeny : (allowedOperationTypeRule a op).decision = .deny) :
    (allowedOperationTypeRule d op).decision = .deny := by
  obtain ⟨hne, hnot⟩ := allowedOperationTypeRule_deny.mp hdeny
  obtain ⟨hd, hsub⟩ := h.operations hne
  exact allowedOperationTypeRule_deny.mpr ⟨hd, fun ho => hnot (hsub _ ho)⟩

@[simp] theorem instant_assumeUtc (d : DateTime) : (assumeUtc d).instant = d.instant := by
  rcases d with ⟨wallclock, offset⟩
  cases offset with
  | none => simp [assumeUtc, DateTime.instant, DateTime.ensureUtc]
  | some offset => rfl

/-- **An accepted delegation stays within its parent.** -/
theorem bounded_of_valid {parent : Mandate} {payload : MandateDelegateRequest}
    {currency : String} (hupper : ∀ text, env.upper (env.upper text) = env.upper text)
    (h : validateDelegationInvariants env parent payload = .ok currency) (id : String)
    (now : DateTime) : Bounded env parent (childMandate payload parent currency id now) := by
  obtain ⟨-, -, hcurrency, hamount, hallowed, huntil, -⟩ := validateDelegationInvariants_eq_ok h
  rw [instant_assumeUtc, instant_assumeUtc] at huntil
  refine ⟨hamount, ?_, huntil, fun hne => ?_⟩
  · show env.upper currency = env.upper parent.currency
    rw [hcurrency, hupper]
  · show (if payload.allowedOperations.isEmpty then parent.allowedOperations
      else payload.allowedOperations) ≠ [] ∧ ∀ opType ∈ (if payload.allowedOperations.isEmpty then
        parent.allowedOperations else payload.allowedOperations),
          opType ∈ parent.allowedOperations
    split
    · exact ⟨hne, fun _ ho => ho⟩
    · rename_i hown
      rw [List.isEmpty_iff] at hown
      exact ⟨hown, hallowed.resolve_left hne⟩

/-- **No escalation along chains of delegations**: in every state of every run that starts without
mandates, what a mandate allows is bounded by each of its ancestors, and the operation-type rule
denies under it what it denies under an ancestor. -/
theorem non_escalation (env : Platform) (settings : Settings) (s : Store) (calls : List Call)
    (hupper : ∀ text, env.upper (env.upper text) = env.upper text)
    (hempty : s.mandates.rows = []) :
    (interactivePlane env settings).Throughout (fun s => ∀ d ∈ s.mandates.rows,
      ∀ a, Ancestor s.mandates d a → Bounded env a d ∧ ∀ op,
        (allowedOperationTypeRule a op).decision = .deny →
        (allowedOperationTypeRule d op).decision = .deny) s calls := by
  have hterms : ∀ a d, Bounded env (termsOf a) (termsOf d) ↔ Bounded env a d :=
    fun a d => ⟨fun h => ⟨h.amount, h.currency, h.validity, h.operations⟩,
      fun h => ⟨h.amount, h.currency, h.validity, h.operations⟩⟩
  have hstep : ∀ (s : Store) (c : Call), ChainsKeep (Bounded env) (terms s) →
      ChainsKeep (Bounded env) (terms ((interactivePlane env settings).next s c)) := by
    intro s c hk
    refine chainsKeep_step (answer_step env settings s c) hterms ?_ hk
    intro parentId payload id now parent currency _ hd a ha
    have hone := bounded_of_valid hupper hd.valid id.text now
    rcases ha with rfl | ha
    · exact hone
    · exact (along_of_terms hterms hk (Table.mem_of_find? hd.found) ha).trans hone
  have hstart : ChainsKeep (Bounded env) (terms s) := by
    refine chainsKeep_of_empty ?_
    show s.mandates.rows.map termsOf = []
    rw [hempty, List.map_nil]
  refine Machine.throughout_mono (fun s hk d hd a ha => ?_)
    (Machine.throughout_of_step hstep hstart calls)
  have hb := along_of_terms hterms hk hd ha
  exact ⟨hb, fun op => hb.denied⟩

/-- A child in the currency and within the validity of its parent. -/
theorem non_escalation_handOut :
    (interactivePlane Sample.platform Sample.settings).Throughout (fun s =>
      ∀ d ∈ s.mandates.rows, ∀ a, Ancestor s.mandates d a → Bounded Sample.platform a d ∧ ∀ op,
        (allowedOperationTypeRule a op).decision = .deny →
        (allowedOperationTypeRule d op).decision = .deny) unissued
      [.control issue, .control (handOut 400 (by decide))] :=
  non_escalation _ _ _ _ (fun _ => rfl) rfl

end Escalation

/-! ### Human review -/

/-- An operation nobody has approved yet is sent to human review under `d` if it is under `a`, where
`a` has a positive threshold. -/
def KeepsReview (a d : Mandate) : Prop :=
  ∀ threshold, a.reviewThresholdAmount = some threshold → 0 < threshold →
    ∀ op : FinancialOperation, truthyId op.approvedById = none →
      (humanReviewThresholdRule a op).decision = .requireHumanReview →
      (humanReviewThresholdRule d op).decision = .requireHumanReview

/-- Every mandate keeps the review of its ancestors. -/
def ReviewKept (s : Store) : Prop :=
  ∀ d ∈ s.mandates.rows, ∀ a, Ancestor s.mandates d a → KeepsReview a d

/-- An accepted delegation that brings its own threshold keeps it at or below every positive
threshold at or above the parent. -/
def ThresholdWithin (env : Platform) (s : Store) : Call → Prop
  | .control (.delegate parentId payload id now) => ∀ parent currency mandates,
      Delegated env s parentId payload id.text now parent currency mandates →
      ∀ own, payload.reviewThresholdAmount = some own → own ≠ 0 →
      ∀ a, a = parent ∨ Ancestor s.mandates parent a →
      ∀ threshold, a.reviewThresholdAmount = some threshold → 0 < threshold → own ≤ threshold
  | _ => True

section Review

variable {env : Platform} {settings : Settings} {s s' : Store} {c : Call} {events : List Event}

theorem humanReviewThresholdRule_review {m : Mandate} {op : FinancialOperation}
    (hop : truthyId op.approvedById = none) :
    (humanReviewThresholdRule m op).decision = .requireHumanReview ↔
      ∃ threshold, m.reviewThresholdAmount = some threshold ∧ threshold ≠ 0 ∧
        threshold ≤ op.amount := by
  rw [humanReviewThresholdRule, hop]
  dsimp only
  cases m.reviewThresholdAmount with
  | none => simp [allowed]
  | some threshold =>
    dsimp only
    split
    · rename_i h
      exact ⟨fun _ => ⟨threshold, rfl, h⟩, fun _ => rfl⟩
    · rename_i h
      constructor
      · intro hd
        cases hd
      · rintro ⟨t, ht, hreview⟩
        cases ht
        exact absurd hreview h

/-- **Review is kept** exactly by a threshold that is no higher. -/
theorem keepsReview_iff {a d : Mandate} :
    KeepsReview a d ↔ ∀ threshold, a.reviewThresholdAmount = some threshold → 0 < threshold →
      ∃ own, d.reviewThresholdAmount = some own ∧ own ≠ 0 ∧ own ≤ threshold := by
  constructor
  · intro h threshold ha hpos
    have hop : truthyId (none : Option String) = none := rfl
    let op : FinancialOperation :=
      { id := "", operationId := "", idempotencyKey := "", agentId := "", mandateId := ""
        operationType := .createOrder, status := .initiated, amount := threshold, currency := ""
        payload := [], policyEvaluationDetails := none, errorMessage := none
        approvedById := none, createdAt := 0 }
    have hreview := h threshold ha hpos op hop
      ((humanReviewThresholdRule_review hop).mpr ⟨threshold, ha, by omega, le_refl _⟩)
    exact (humanReviewThresholdRule_review hop).mp hreview
  · intro h threshold ha hpos op hop hreview
    obtain ⟨t, ht, -, hle⟩ := (humanReviewThresholdRule_review hop).mp hreview
    rw [ha] at ht
    cases ht
    obtain ⟨own, hd, hne, hown⟩ := h threshold ha hpos
    exact (humanReviewThresholdRule_review hop).mpr ⟨own, hd, hne, hown.trans hle⟩

/-- A delegation that meets what it must is accepted. -/
theorem next_of_delegated {parentId : String} {payload : MandateDelegateRequest}
    {id : GeneratedId} {now : DateTime} {parent : Mandate} {currency : String}
    {mandates : Table Mandate}
    (h : Delegated env s parentId payload id.text now parent currency mandates) :
    ((interactivePlane env settings).next s
      (.control (.delegate parentId payload id now))).mandates = mandates := by
  obtain ⟨agent, hagent⟩ := h.target
  show (outcome s (delegateChildMandate env parentId payload id.text now s)).1.mandates = mandates
  rw [delegateChildMandate, h.found]
  simp only [orRefuse, bind, Except.bind, h.active, decide_true, ensure, if_true, hagent, h.valid]
  rw [show (s.updateMandate parentId (allocate payload.aggregateSpendLimit)).mandates.insert
    (childMandate payload parent currency id.text now) = some mandates from h.inserted]
  rfl

theorem keepsReview_terms (a d : Mandate) :
    KeepsReview (termsOf a) (termsOf d) ↔ KeepsReview a d := by
  rw [keepsReview_iff, keepsReview_iff]
  exact Iff.rfl

/-- The threshold of a child is its own, or its parent's if it brings none. -/
theorem keepsReview_child {a parent : Mandate} {payload : MandateDelegateRequest}
    {currency id : String} {now : DateTime} (hparent : a = parent ∨ KeepsReview a parent)
    (hown : ∀ own, payload.reviewThresholdAmount = some own → own ≠ 0 → ∀ threshold,
      a.reviewThresholdAmount = some threshold → 0 < threshold → own ≤ threshold) :
    KeepsReview a (childMandate payload parent currency id now) := by
  rw [keepsReview_iff]
  intro threshold ha hpos
  have hinherited : ∃ own, parent.reviewThresholdAmount = some own ∧ own ≠ 0 ∧ own ≤ threshold := by
    rcases hparent with rfl | hkeeps
    · exact ⟨threshold, ha, by omega, le_refl _⟩
    · exact keepsReview_iff.mp hkeeps threshold ha hpos
  show ∃ own, thresholdOr payload.reviewThresholdAmount parent.reviewThresholdAmount = some own ∧
    own ≠ 0 ∧ own ≤ threshold
  cases hp : payload.reviewThresholdAmount with
  | none => exact hinherited
  | some own =>
    rw [thresholdOr]
    split
    · exact hinherited
    · rename_i hne
      exact ⟨own, rfl, hne, hown own hp hne threshold ha hpos⟩

/-- **One step keeps the review** if the threshold it brings is no higher. -/
theorem review_step (h : CallStep env settings s c events s') (hwithin : ThresholdWithin env s c)
    (hk : ChainsKeep KeepsReview (terms s)) : ChainsKeep KeepsReview (terms s') := by
  refine chainsKeep_step h keepsReview_terms ?_ hk
  rintro parentId payload id now parent currency rfl hd a ha
  refine keepsReview_child ?_ fun own hp hne => hwithin parent currency _ hd own hp hne a ha
  refine ha.imp_right fun ha => ?_
  exact along_of_terms keepsReview_terms hk (Table.mem_of_find? hd.found) ha

/-- A step after which the review is kept brought no higher threshold. -/
theorem thresholdWithin_of_kept (h : ReviewKept ((interactivePlane env settings).next s c)) :
    ThresholdWithin env s c := by
  match c with
  | .control (.delegate parentId payload id now) =>
    intro parent currency mandates hd own hown hne a ha threshold hthreshold hpos
    obtain rfl := @next_of_delegated env settings s parentId payload id now parent currency _ hd
    obtain ⟨hi, hparent⟩ := Delegated.terms_insert hd
    have hrow : childMandate payload parent currency id.text now ∈ ((interactivePlane env
        settings).next s (.control (.delegate parentId payload id now))).mandates.rows :=
      (Table.mem_insert hd.inserted).mpr (.inr rfl)
    have habove := ancestor_insert hi (ancestor_of_parent
      (show (termsOf (childMandate payload parent currency id.text now)).parentMandateId =
        some parent.id from rfl) hparent (ha.imp (congrArg termsOf) ancestor_terms))
    obtain ⟨b, hb, hterms⟩ := ancestor_of_terms habove
    have hbthreshold : (termsOf b).reviewThresholdAmount = some threshold := by
      rw [hterms, ← hthreshold]
      rfl
    obtain ⟨t, ht, -, hle⟩ := keepsReview_iff.mp (h _ hrow b hb) threshold hbthreshold hpos
    have hchild : thresholdOr payload.reviewThresholdAmount parent.reviewThresholdAmount = some t := ht
    rw [hown, thresholdOr, if_neg hne] at hchild
    cases hchild
    exact hle
  | .chat _ _ _ _ => trivial
  | .control (.request _ _ _) => trivial
  | .control (.approve _ _ _ _) => trivial
  | .control (.verify _ _) => trivial
  | .control (.webhook _) => trivial
  | .control (.sweep _) => trivial
  | .control (.create _ _ _) => trivial
  | .control (.suspend _ _) => trivial
  | .control (.revoke _ _) => trivial
  | .control (.activate _) => trivial
  | .control (.agentStatus _ _ _) => trivial

/-- **Delegation never weakens human review** in a run exactly if every delegation in it that brings
its own threshold keeps it at or below every positive threshold at or above the parent. -/
theorem review_never_weakened (env : Platform) (settings : Settings) (s : Store)
    (calls : List Call) (hempty : s.mandates.rows = []) :
    (interactivePlane env settings).Throughout ReviewKept s calls ↔
      (interactivePlane env settings).Along (ThresholdWithin env) s calls := by
  have hstart : ChainsKeep KeepsReview (terms s) := by
    refine chainsKeep_of_empty ?_
    show s.mandates.rows.map termsOf = []
    rw [hempty, List.map_nil]
  clear hempty
  constructor
  · intro h
    induction calls generalizing s with
    | nil => trivial
    | cons c calls ih =>
      have hwithin : ThresholdWithin env s c :=
        @thresholdWithin_of_kept env settings s c (Machine.throughout_head h.2)
      exact ⟨hwithin, ih _ (review_step (answer_step env settings s c) hwithin hstart) h.2⟩
  · intro h
    have hstep : ∀ (s : Store) (c : Call), ChainsKeep KeepsReview (terms s) →
        ThresholdWithin env s c →
        ChainsKeep KeepsReview (terms ((interactivePlane env settings).next s c)) :=
      fun s c hk hwithin => review_step (answer_step env settings s c) hwithin hk
    refine Machine.throughout_mono (fun s hk => ?_) (Machine.throughout_of_inv hstep hstart h)
    intro d hd a ha
    exact along_of_terms keepsReview_terms hk hd ha

/-- A parent that has orders of 500 reviewed. -/
def issueReviewed : Action :=
  .create
    { agentId := "agt_1"
      grantedById := "prn_1"
      currency := "INR"
      maxAmountPerOp := 1000
      aggregateSpendLimit := 1000
      reviewThresholdAmount := some 500
      allowedOperations := []
      policyConfig := []
      validUntil := ⟨1000, some 0⟩
      max_pos := Sample.thousand_pos
      limit_pos := Sample.thousand_pos
      threshold_pos := by decide }
    ⟨"mnd_1", Sample.mandate_1_named⟩ ⟨0, some 0⟩

/-- A child with a threshold of its own. -/
def handOutReviewed (threshold : ℤ) : Action :=
  .delegate "mnd_1"
    { targetAgentId := "agt_1"
      currency := none
      maxAmountPerOp := 1000
      aggregateSpendLimit := 800
      reviewThresholdAmount := some threshold
      allowedOperations := []
      validUntil := ⟨1000, some 0⟩
      max_pos := Sample.thousand_pos
      limit_pos := by decide }
    ⟨"mnd_2", Sample.mandate_2_named⟩ ⟨0, some 0⟩

/-- A child with a threshold of 300 is stricter. -/
theorem review_never_weakened_300 :
    (interactivePlane Sample.platform Sample.settings).Throughout ReviewKept unissued
      [.control issueReviewed, .control (handOutReviewed 300)] := by
  refine (review_never_weakened _ _ _ _ rfl).mpr ⟨trivial, ?_, trivial⟩
  intro parent currency mandates hd own hown _ a ha threshold hthreshold _
  have hrows : ((interactivePlane Sample.platform Sample.settings).next unissued
      (.control issueReviewed)).mandates.rows.all (fun m => m.reviewThresholdAmount = some 500) =
        true := by
    decide +kernel
  have hrow : a ∈ ((interactivePlane Sample.platform Sample.settings).next unissued
      (.control issueReviewed)).mandates.rows := by
    rcases ha with rfl | ha
    · exact Table.mem_of_find? hd.found
    · cases ha with
      | parent _ hp => exact Table.mem_of_find? hp
      | above _ _ hp => exact Table.mem_of_find? hp
  have ha : a.reviewThresholdAmount = some 500 :=
    of_decide_eq_true (List.all_eq_true.mp hrows a hrow)
  rw [ha] at hthreshold
  cases hthreshold
  cases hown
  decide

/-- Under a child with a threshold of 900 an order of 600 is not reviewed. -/
theorem not_reviewKept_of_higher_threshold :
    unissued.mandates.rows = [] ∧
      ¬ (interactivePlane Sample.platform Sample.settings).Throughout ReviewKept unissued
        [.control issueReviewed, .control (handOutReviewed 900)] := by
  refine ⟨rfl, fun h => ?_⟩
  have hlast := Machine.throughout_iff.mp h _ (List.prefix_refl _)
  generalize hs : (interactivePlane Sample.platform Sample.settings).run unissued
    [.control issueReviewed, .control (handOutReviewed 900)] = s at hlast
  have hrows : s.mandates.rows.map (fun m => (m.id, m.parentMandateId, m.reviewThresholdAmount)) =
      [("mnd_1", none, some 500), ("mnd_2", some "mnd_1", some 900)] := by
    rw [← hs]
    decide +kernel
  obtain ⟨root, rest, hroot, hr, hrest⟩ := List.map_eq_cons_iff.mp hrows
  obtain ⟨child, rest, hchild, hc, -⟩ := List.map_eq_cons_iff.mp hrest
  subst hchild
  simp only [Prod.mk.injEq] at hr hc
  have hrootRow : root ∈ s.mandates.rows := by rw [hroot]; exact List.mem_cons_self
  have hchildRow : child ∈ s.mandates.rows := by
    rw [hroot]
    exact List.mem_cons_of_mem _ List.mem_cons_self
  have hfind : s.mandates.find? "mnd_1" = some root := Table.find?_eq_some_iff.mpr ⟨hrootRow, hr.1⟩
  obtain ⟨own, hown, -, hle⟩ := keepsReview_iff.mp
    (hlast child hchildRow root (.parent hc.2.1 hfind)) 500 hr.2.2 (by omega)
  rw [hc.2.2] at hown
  cases hown
  omega

end Review

end MandatePlane.DelegationBounds
