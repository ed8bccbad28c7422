import MandatePlane.BudgetTree
import MandatePlane.DelegationHierarchy
import MandatePlane.LedgerConsistency

/-!
# The budget of a mandate and of everything delegated below it

A delegation takes the child's limit off what the parent may still delegate, and
records it in `delegated_child_budget_allocated`; it counts what the parent has
committed, reserved and handed out before.  A reservation counts only the first two.
So a mandate can spend what it has handed out, and its children can spend it again.

Where every reservation leaves what has been handed out, each mandate keeps its own
spend and its children's limits within its limit, and the tree of mandates does the
rest.
-/

namespace MandatePlane.BudgetContainment

open DomainModel KeyedTable HoldLedger LabelledRun LedgerView HostEnvironment HandlerPostings
open ControlPlane OperationRoutes MandateRoutes MandateSteps DelegationHierarchy
open LedgerConsistency BudgetTree

/-! ### The tree of mandates -/

def nodeOf (m : Mandate) : Node String ℤ := ⟨m.id, m.parentMandateId, m.aggregateSpendLimit⟩

def nodes (mandates : Table Mandate) : List (Node String ℤ) := mandates.rows.map nodeOf

/-- What a mandate has handed out to its children. -/
def allocatedTo (mandates : Table Mandate) (id : String) : ℤ :=
  ((mandates.find? id).map Mandate.delegatedChildBudgetAllocated).getD 0

open Classical in
/-- `current_aggregate_spend + reserved_spend`, summed over a mandate and all its descendants. -/
noncomputable def subtreeSpend (mandates : Table Mandate) (m : Mandate) : ℤ :=
  mandates.sum fun r => if r.id = m.id ∨ Ancestor mandates r m then
    r.currentAggregateSpend + r.reservedSpend else 0

/-- Every mandate and its descendants together stay within its limit. -/
def Contained (s : Store) : Prop :=
  ∀ m ∈ s.mandates.rows, subtreeSpend s.mandates m ≤ m.aggregateSpendLimit

variable {mandates mandates' : Table Mandate}

theorem link_iff {k p : String} :
    Link (nodes mandates) k p ↔ ∃ m, mandates.find? k = some m ∧ m.parentMandateId = some p := by
  constructor
  · rintro ⟨n, hn, hid, hparent⟩
    obtain ⟨m, hm, rfl⟩ := List.mem_map.mp hn
    exact ⟨m, Table.find?_eq_some_iff.mpr ⟨hm, hid⟩, hparent⟩
  · rintro ⟨m, hm, hparent⟩
    obtain ⟨hm, hid⟩ := Table.find?_eq_some_iff.mp hm
    exact ⟨nodeOf m, List.mem_map_of_mem hm, hid, hparent⟩

/-- **Descending from a mandate** is being below its node. -/
theorem within_iff {m r : Mandate} (hm : m ∈ mandates.rows) (hr : r ∈ mandates.rows) :
    Within (nodes mandates) m.id r.id ↔ r.id = m.id ∨ Ancestor mandates r m := by
  have hself : mandates.find? r.id = some r := Table.find?_of_mem hr
  constructor
  · intro hw
    have hpath : ∀ {k}, Relation.ReflTransGen (Link (nodes mandates)) r.id k →
        ∀ q, mandates.find? k = some q → r.id = q.id ∨ Ancestor mandates r q := by
      intro k hk
      induction hk with
      | refl =>
        intro q hq
        rw [hself] at hq
        cases hq
        exact .inl rfl
      | tail _ hl ih =>
        intro q hq
        obtain ⟨b, hb, hparent⟩ := link_iff.mp hl
        rcases ih b hb with hid | habove
        · have hsame : r = b := Table.eq_of_key_eq hr (Table.mem_of_find? hb) hid
          exact .inr (.parent (hsame ▸ hparent) hq)
        · exact .inr (.above habove hparent hq)
    exact hpath hw m (Table.find?_of_mem hm)
  · rintro (hid | habove)
    · rw [hid]
      exact Relation.ReflTransGen.refl
    · clear hm
      have hrow : Within (nodes mandates) m.id r.id ∧ mandates.find? m.id = some m := by
        induction habove with
        | @parent id p hlink hp =>
          have hkey : p.id = id := Table.key_of_find? hp
          rw [hkey]
          exact ⟨Relation.ReflTransGen.single (link_iff.mpr ⟨r, hself, hlink⟩), hp⟩
        | @above id q p hq hlink hp ih =>
          have hkey : p.id = id := Table.key_of_find? hp
          obtain ⟨hw, hfind⟩ := ih
          rw [hkey]
          exact ⟨Relation.ReflTransGen.tail hw (link_iff.mpr ⟨q, hfind, hlink⟩), hp⟩
      exact hrow.1

/-- What a mandate has committed and reserved. -/
def spendOf (mandates : Table Mandate) (id : String) : ℤ :=
  ((mandates.find? id).map fun m => m.currentAggregateSpend + m.reservedSpend).getD 0

theorem subtreeSpend_eq {m : Mandate} (hm : m ∈ mandates.rows) :
    subtreeSpend mandates m = usedWithin (nodes mandates) (spendOf mandates) m.id := by
  rw [subtreeSpend, usedWithin, nodes, List.map_map]
  refine congrArg List.sum (List.map_congr_left fun r hr => ?_)
  have hspend : spendOf mandates r.id = r.currentAggregateSpend + r.reservedSpend := by
    rw [spendOf, show mandates.find? r.id = some r from Table.find?_of_mem hr]
    rfl
  by_cases hw : Within (nodes mandates) m.id r.id
  · exact (if_pos ((within_iff hm hr).mp hw)).trans (hspend.symm.trans (if_pos hw).symm)
  · exact (if_neg fun hb => hw ((within_iff hm hr).mpr hb)).trans (if_neg hw).symm

/-! ### What delegation keeps -/

/-- Mandates are delegated below mandates, and each has handed out its children's limits. -/
structure Apportioned (mandates : Table Mandate) : Prop where
  grown : Grown (nodes mandates)
  allotted : ∀ m ∈ mandates.rows,
    m.delegatedChildBudgetAllocated = childLimits (nodes mandates) m.id

theorem nodes_allotments (s : Store) : nodes (allotments s) = nodes s.mandates := by
  rw [nodes, nodes, allotments, Table.mapRows, List.map_map]
  rfl

theorem apportioned_allotments {s : Store} :
    Apportioned (allotments s) ↔ Apportioned s.mandates := by
  constructor
  · rintro ⟨hgrown, hallotted⟩
    rw [nodes_allotments] at hgrown hallotted
    exact ⟨hgrown, fun m hm => hallotted (allotmentOf m) (List.mem_map_of_mem hm)⟩
  · rintro ⟨hgrown, hallotted⟩
    rw [← nodes_allotments] at hgrown hallotted
    refine ⟨hgrown, fun m hm => ?_⟩
    obtain ⟨m₀, hm₀, rfl⟩ := List.mem_map.mp hm
    exact hallotted m₀ hm₀

theorem nodes_insert {m : Mandate} (hi : mandates.insert m = some mandates') :
    nodes mandates' = nodes mandates ++ [nodeOf m] ∧ ∀ x ∈ nodes mandates, x.id ≠ m.id := by
  obtain ⟨hnew, hrows⟩ := Table.insert_eq_some_iff.mp hi
  constructor
  · rw [nodes, hrows, List.map_append, List.map_singleton, nodes]
  · intro x hx
    obtain ⟨r, hr, rfl⟩ := List.mem_map.mp hx
    exact Table.find?_eq_none_iff.mp hnew r hr

theorem nodes_modify {id : String} {f : Mandate → Mandate}
    {hf : ∀ m, Keyed.key (f m) = Keyed.key m} (h : ∀ m, nodeOf (f m) = nodeOf m) :
    nodes (mandates.modify id f hf) = nodes mandates := by
  rw [nodes, nodes, Table.modify, Table.mapRows, List.map_map]
  apply List.map_congr_left
  intro m _
  simp only [Function.comp]
  split
  · exact h m
  · rfl

/-- A root mandate takes nothing from any other. -/
theorem Apportioned.root {m : Mandate} (h : Apportioned mandates)
    (hi : mandates.insert m = some mandates') (hparent : m.parentMandateId = none)
    (hnone : m.delegatedChildBudgetAllocated = 0) : Apportioned mandates' := by
  obtain ⟨hnodes, hnew⟩ := nodes_insert hi
  refine ⟨?_, fun r hr => ?_⟩
  · rw [hnodes]
    refine .grow h.grown hnew fun p hp => ?_
    rw [show (nodeOf m).parent = none from hparent] at hp
    cases hp
  · rw [hnodes, childLimits_append, if_neg, add_zero]
    · rcases (Table.mem_insert hi).mp hr with hr | rfl
      · exact h.allotted r hr
      · rw [hnone, childLimits_of_new h.grown hnew]
    · rw [show (nodeOf m).parent = none from hparent]
      exact nofun

/-- **A delegation hands out the child's limit.** -/
theorem Apportioned.child {m parent : Mandate} {parentId : String} {budget : ℤ}
    {f : Mandate → Mandate} {hf : ∀ m, Keyed.key (f m) = Keyed.key m} (h : Apportioned mandates)
    (hfound : mandates.find? parentId = some parent)
    (hi : (mandates.modify parentId f hf).insert m = some mandates')
    (hnode : ∀ m, nodeOf (f m) = nodeOf m)
    (hbudget : (f parent).delegatedChildBudgetAllocated =
      parent.delegatedChildBudgetAllocated + budget)
    (hparent : m.parentMandateId = some parentId) (hlimit : m.aggregateSpendLimit = budget)
    (hnone : m.delegatedChildBudgetAllocated = 0) : Apportioned mandates' := by
  obtain ⟨hnodes, hnew⟩ := nodes_insert hi
  rw [nodes_modify hnode] at hnodes hnew
  obtain ⟨hmem, hkey⟩ := Table.find?_eq_some_iff.mp hfound
  have hthere : nodeOf parent ∈ nodes mandates := List.mem_map_of_mem hmem
  have hne : m.id ≠ parentId := fun he => hnew _ hthere (Eq.trans hkey he.symm)
  refine ⟨?_, fun r hr => ?_⟩
  · rw [hnodes]
    refine .grow h.grown hnew fun p hp => ⟨nodeOf parent, hthere, ?_⟩
    rw [show (nodeOf m).parent = some parentId from hparent] at hp
    cases hp
    exact hkey
  · rw [hnodes, childLimits_append, show (nodeOf m).parent = some parentId from hparent,
      show (nodeOf m).limit = budget from hlimit]
    rcases (Table.mem_insert hi).mp hr with hr | rfl
    · rcases Table.mem_modify.mp hr with ⟨r₀, hr₀, hid, rfl⟩ | ⟨hr, hid⟩
      · have hsame : r₀ = parent := Table.eq_of_key_eq hr₀ hmem (hid.trans hkey.symm)
        subst hsame
        have hid' : parentId = (f r₀).id := (Eq.trans (hf r₀) hid).symm
        rw [hbudget, h.allotted r₀ hr₀, ← hid', if_pos rfl, ← hkey]
        rfl
      · have hid' : parentId ≠ r.id := fun he => hid he.symm
        rw [h.allotted r hr, if_neg fun he => hid' (Option.some.inj he), add_zero]
    · rw [hnone, childLimits_of_new h.grown hnew, if_neg fun he => hne (Option.some.inj he).symm,
        add_zero]

variable {env : Platform} {settings : Settings} {s s' : Store} {a : Action} {events : List Event}

theorem apportioned_step (h : Step env settings s a events s') (hap : Apportioned s.mandates) :
    Apportioned s'.mandates := by
  rcases h.allotments_cases with he | ⟨payload, id, now, agent, -, hi⟩ |
    ⟨parentId, payload, id, now, parent, currency, -, hdelegated⟩
  · rw [← apportioned_allotments] at hap ⊢
    rwa [he]
  · exact hap.root hi rfl rfl
  · have hkey : parent.id = parentId := Table.key_of_find? hdelegated.found
    refine hap.child hdelegated.found hdelegated.inserted (fun _ => rfl) rfl ?_ rfl rfl
    exact congrArg some hkey

/-! ### What reservations keep -/

/-- What a mandate may spend itself: its limit less what it has handed out. -/
def unallocated (mandates : Table Mandate) (id : String) (limit : ℤ) : ℤ :=
  limit - allocatedTo mandates id

theorem allocatedTo_of_find? {id : String} {m : Mandate} (hm : mandates.find? id = some m) :
    allocatedTo mandates id = m.delegatedChildBudgetAllocated := by
  rw [allocatedTo, hm]
  rfl

theorem allocatedTo_allotments (s : Store) : allocatedTo (allotments s) = allocatedTo s.mandates := by
  funext id
  rw [allocatedTo, allocatedTo, allotments, Table.find?_mapRows, Option.map_map]
  rfl

/-- **Containment of a store.**  Mandates that keep to what they have not handed out contain their
descendants. -/
theorem contained_of_unallocated (hap : Apportioned s.mandates)
    (hw : WithinLimits (unallocated s.mandates) (ledger s)) : Contained s := by
  intro m hm
  rw [subtreeSpend_eq hm]
  refine usedWithin_le hap.grown (fun n hn => ?_) (nodeOf m) (List.mem_map_of_mem hm)
  obtain ⟨r, hr, rfl⟩ := List.mem_map.mp hn
  have hself : s.mandates.find? r.id = some r := Table.find?_of_mem hr
  have hle : r.currentAggregateSpend + r.reservedSpend ≤
      r.aggregateSpendLimit - allocatedTo s.mandates r.id :=
    hw (mandateAccount r) (List.mem_map_of_mem hr)
  have hspend : spendOf s.mandates r.id = r.currentAggregateSpend + r.reservedSpend := by
    rw [spendOf, hself]
    rfl
  rw [allocatedTo_of_find? hself] at hle
  show spendOf s.mandates r.id + childLimits (nodes s.mandates) r.id ≤ r.aggregateSpendLimit
  rw [hspend, ← hap.allotted r hr]
  omega

/-- An observed new mandate has a new id, empty counters and a positive limit. -/
theorem issued_fresh {L : Books} {m : Mandate} (hr : eventBook.Along EventRule L events)
    (hm : .issued m ∈ events) :
    L.accounts.find? m.id = none ∧ m.reservedSpend = 0 ∧ m.currentAggregateSpend = 0 ∧
      0 < m.aggregateSpendLimit := by
  have hstep : ∀ (L₁ : Books) (e : Event),
      (∀ k, L₁.accounts.find? k = none → L.accounts.find? k = none) → EventRule L₁ e →
        ∀ k, (eventBook.next L₁ e).accounts.find? k = none → L.accounts.find? k = none :=
    fun _ _ hkept _ k hk => hkept k (account_of_enter_none hk)
  have hissued : ∀ (L₁ : Books) (e : Event),
      (∀ k, L₁.accounts.find? k = none → L.accounts.find? k = none) → EventRule L₁ e →
        ∀ m, e = .issued m → L.accounts.find? m.id = none ∧ m.reservedSpend = 0 ∧
          m.currentAggregateSpend = 0 ∧ 0 < m.aggregateSpendLimit := by
    rintro L₁ e hkept hrule m rfl
    exact ⟨hkept _ hrule.2.2.2, hrule.1, hrule.2.1, hrule.2.2.1⟩
  have hfresh := Machine.along_of_inv hstep hissued (fun _ hk => hk) hr
  obtain ⟨_, hall⟩ := Machine.exists_of_along hfresh hm
  exact hall m rfl

/-- A reservation leaves what the mandate has handed out. -/
def LeavesDelegated (env : Platform) (settings : Settings) (s : Store) : Action → Prop
  | .request payload headers inputs => ∀ agent mandate,
      Permitted env settings s payload headers inputs agent mandate →
      mandate.currentAggregateSpend + mandate.reservedSpend +
        mandate.delegatedChildBudgetAllocated + payload.amount ≤ mandate.aggregateSpendLimit
  | .approve operationId approval _ _ => ∀ op mandate, Granted s operationId approval op mandate →
      mandate.currentAggregateSpend + mandate.reservedSpend +
        mandate.delegatedChildBudgetAllocated + op.amount ≤ mandate.aggregateSpendLimit
  | _ => True

/-- A reservation that leaves what was handed out keeps to what was not. -/
theorem reservesWithin_of_leaves {L : Books} {op : FinancialOperation} {mandate : Mandate}
    {amount dCommitted : ℤ} (hL : L.accounts = (ledger s).accounts)
    (hmandate : s.mandates.find? op.mandateId = some mandate)
    (hroom : mandate.currentAggregateSpend + mandate.reservedSpend +
      mandate.delegatedChildBudgetAllocated + amount ≤ mandate.aggregateSpendLimit) :
    ReservesWithin (unallocated s.mandates) L (.posted op .reserved amount dCommitted) := by
  intro _ acc hacc
  rw [hL, accounts_find?, hmandate] at hacc
  cases hacc
  have hkey : mandate.id = op.mandateId := Table.key_of_find? hmandate
  show mandate.currentAggregateSpend + mandate.reservedSpend + amount ≤
    mandate.aggregateSpendLimit - allocatedTo s.mandates mandate.id
  rw [hkey, allocatedTo_of_find? hmandate]
  omega

/-- A gateway execution reserves nothing. -/
theorem reservesWithin_of_executeGatewayOperation {gateway : RazorpayClient.GatewayAnswers}
    {mandate : Mandate} {operation : FinancialOperation} {payload : JsonValue.Dict}
    {bound : String → ℤ → ℤ} {L : Books} {e : Event} {s₀ : Store}
    (he : e ∈ (executeGatewayOperation env gateway mandate operation payload s₀).events) :
    ReservesWithin bound L e := by
  rcases executeGatewayOperation_events he with ⟨call, -, rfl⟩ | rfl | rfl | rfl
  · trivial
  · exact nofun
  · exact nofun
  · exact nofun

/-- **Every log reserves within what was not handed out.** -/
theorem step_reservesWithin (h : Step env settings s a events s')
    (hverify : VerifiesInFlight env settings s a) (hleaves : LeavesDelegated env settings s a) :
    eventBook.Along (ReservesWithin (unallocated s.mandates)) (ledger s) events := by
  have hruled := h.ruled hverify
  rcases h.dispatch_cases with ⟨payload, headers, inputs, agent, mandate, result, rfl, hreq⟩ |
    ⟨operationId, approval, now, gateway, op, mandate, rfl, hfound, hstatus, hmandate, happ⟩ |
    hsettling
  · cases hreq.decided with
    | rejected _ _ _ => exact ⟨trivial, nofun, trivial⟩
    | parked _ _ _ => exact ⟨trivial, nofun, trivial⟩
    | dispatched hdecision hroom done hdone =>
      subst hdone
      refine ⟨trivial, reservesWithin_of_leaves rfl hreq.mandateFound ?_, ?_⟩
      · exact hleaves agent mandate ⟨hreq.authenticated, hreq.fresh, hreq.mandateFound,
          hreq.agentFound, hreq.inserted, ⟨result, hreq.evaluated, hdecision⟩, hroom⟩
      · exact Machine.along_of_forall fun e he _ => reservesWithin_of_executeGatewayOperation he
  · cases happ with
    | rejected _ _ => exact ⟨nofun, trivial⟩
    | dispatched happroved hroom done hdone =>
      subst hdone
      refine ⟨reservesWithin_of_leaves rfl hmandate ?_, ?_⟩
      · exact hleaves op mandate ⟨hfound, hstatus, happroved, hmandate, hroom⟩
      · exact Machine.along_of_forall fun e he _ => reservesWithin_of_executeGatewayOperation he
  · refine Machine.along_of_forall fun e he _ => ?_
    cases e with
    | issued m =>
      obtain ⟨hnone, hReserved, hCommitted, hlimit⟩ := issued_fresh hruled he
      have hzero : allocatedTo s.mandates m.id = 0 := by
        rw [accounts_find?, Option.map_eq_none_iff] at hnone
        rw [allocatedTo, hnone]
        rfl
      show m.currentAggregateSpend + m.reservedSpend ≤
        m.aggregateSpendLimit - allocatedTo s.mandates m.id
      omega
    | posted op target dReserved dCommitted =>
      rintro rfl
      rcases hsettling _ he with h | h <;> cases h
    | opened op => trivial
    | credited mandateId amount => trivial
    | gatewayCall op call => trivial

/-- Handing out leaves room for what the parent has spent. -/
theorem unallocated_delegated {parentId : String} {payload : MandateDelegateRequest} {id : String}
    {now : DateTime} {parent : Mandate} {currency : String}
    (h : Delegated env s parentId payload id now parent currency mandates)
    (hw : WithinLimits (unallocated s.mandates) (ledger s)) :
    ∀ m ∈ mandates.rows, m.currentAggregateSpend + m.reservedSpend ≤
      unallocated mandates m.id m.aggregateSpendLimit := by
  intro m hm
  have hself : mandates.find? m.id = some m := Table.find?_of_mem hm
  rw [unallocated, allocatedTo_of_find? hself]
  rcases (Table.mem_insert h.inserted).mp hm with hm | rfl
  · rcases Table.mem_modify.mp hm with ⟨m₀, hm₀, hid, rfl⟩ | ⟨hm, -⟩
    · have hsame : m₀ = parent := by
        have hfind := Table.find?_eq_some_iff.mpr ⟨hm₀, hid⟩
        rw [h.found] at hfind
        exact (Option.some.inj hfind).symm
      obtain ⟨-, -, -, -, -, -, havailable⟩ := validateDelegationInvariants_eq_ok h.valid
      have hpos := payload.limit_pos
      rw [parentAvailable] at havailable
      subst hsame
      show m₀.currentAggregateSpend + m₀.reservedSpend ≤ m₀.aggregateSpendLimit -
        (m₀.delegatedChildBudgetAllocated + payload.aggregateSpendLimit)
      omega
    · have hle := hw (mandateAccount m) (List.mem_map_of_mem hm)
      have hfind : s.mandates.find? (mandateAccount m).id = some m := Table.find?_of_mem hm
      rw [unallocated, allocatedTo_of_find? hfind] at hle
      exact hle
  · have hpos := payload.limit_pos
    show (0 : ℤ) + 0 ≤ payload.aggregateSpendLimit - 0
    omega

theorem withinLimits_unallocated :
    WithinLimits (unallocated s.mandates) (ledger s) ↔
      ∀ m ∈ s.mandates.rows, m.currentAggregateSpend + m.reservedSpend ≤
        unallocated s.mandates m.id m.aggregateSpendLimit := by
  constructor
  · exact fun hw m hm => hw (mandateAccount m) (List.mem_map_of_mem hm)
  · intro hw acc hacc
    obtain ⟨m, hm, rfl⟩ := List.mem_map.mp hacc
    exact hw m hm

/-- **One step and what was handed out.** -/
theorem unallocated_step {credited : String → ℤ} (h : Step env settings s a events s')
    (hverify : VerifiesInFlight env settings s a) (hleaves : LeavesDelegated env settings s a)
    (hrefund : NonnegativeRefunds env a) (hp : PositiveAmounts s)
    (hb : Balanced credited (ledger s)) (hw : WithinLimits (unallocated s.mandates) (ledger s)) :
    WithinLimits (unallocated s'.mandates) (ledger s') := by
  have hruled := h.ruled hverify
  have ha := positiveAmounts_iff.mp hp
  have hcovered : eventBook.Along (Covered (unallocated s.mandates)) (ledger s) events :=
    along_of_balanced (fun _ _ _ hb ha hr hc => covered_of_balanced hb ha hr hc) hb ha hruled
      (step_covered h (capturedFits_of_balanced hb hp a) hrefund)
  have hlog : WithinLimits (unallocated s.mandates) (ledger s') := by
    rw [h.books]
    exact withinLimits_log hw ha hruled (step_reservesWithin h hverify hleaves) hcovered
  have hsame (he : allocatedTo s'.mandates = allocatedTo s.mandates) :
      WithinLimits (unallocated s'.mandates) (ledger s') := by
    have hbound : unallocated s'.mandates = unallocated s.mandates := by
      unfold unallocated
      rw [he]
    rw [hbound]
    exact hlog
  rcases h.allotments_cases with he | ⟨payload, id, now, agent, -, hi⟩ |
    ⟨parentId, payload, id, now, parent, currency, -, hdelegated⟩
  · apply hsame
    rw [← allocatedTo_allotments, he, allocatedTo_allotments]
  · apply hsame
    funext k
    rw [allocatedTo, allocatedTo, Table.find?_insert hi]
    split
    · rename_i hk
      rw [hk, (Table.insert_eq_some_iff.mp hi).1]
      rfl
    · rfl
  · exact withinLimits_unallocated.mpr (unallocated_delegated hdelegated hw)

/-- **Hierarchical containment.**  In a run that starts without mandates and operations, whose
reservations leave what was handed out and whose verifications find their operation in flight,
every mandate contains its descendants in every state. -/
theorem budget_contained (env : Platform) (settings : Settings) (s : Store) (actions : List Action)
    (hmandates : s.mandates.rows = []) (hoperations : s.operations.rows = [])
    (hrefunds : ∀ a ∈ actions, NonnegativeRefunds env a)
    (hkept : (controlPlane env settings).Along (fun s a => LeavesDelegated env settings s a ∧
      VerifiesInFlight env settings s a) s actions) :
    (controlPlane env settings).Throughout Contained s actions := by
  have hfresh : Fresh s := by
    refine ⟨hoperations, fun m hm => ?_⟩
    rw [hmandates] at hm
    cases hm
  have hgrown : Apportioned s.mandates := by
    have hnone : nodes s.mandates = [] := by rw [nodes, hmandates, List.map_nil]
    refine ⟨hnone ▸ .nil, fun m hm => ?_⟩
    rw [hmandates] at hm
    cases hm
  have hstart : WithinLimits (unallocated s.mandates) (ledger s) := by
    refine withinLimits_unallocated.mpr fun m hm => ?_
    rw [hmandates] at hm
    cases hm
  have hstep : ∀ (s : Store) (a : Action),
      (Apportioned s.mandates ∧ WithinLimits (unallocated s.mandates) (ledger s) ∧
        PositiveAmounts s ∧ ∃ credited, Balanced credited (ledger s)) →
      ((LeavesDelegated env settings s a ∧ VerifiesInFlight env settings s a) ∧
        NonnegativeRefunds env a) →
      Apportioned ((controlPlane env settings).next s a).mandates ∧
        WithinLimits (unallocated ((controlPlane env settings).next s a).mandates)
          (ledger ((controlPlane env settings).next s a)) ∧
        PositiveAmounts ((controlPlane env settings).next s a) ∧
        ∃ credited, Balanced credited (ledger ((controlPlane env settings).next s a)) := by
    rintro s a ⟨hap, hw, hp, credited, hb⟩ ⟨⟨hleaves, hverify⟩, hrefund⟩
    have h := perform_step env settings s a
    exact ⟨apportioned_step h hap, unallocated_step h hverify hleaves hrefund hp hb hw,
      positiveAmounts_step h hp, _, balanced_step h hverify hp hb⟩
  exact Machine.throughout_mono (fun _ h => contained_of_unallocated h.1 h.2.1)
    (Machine.throughout_of_inv hstep ⟨hgrown, hstart, hfresh.positive, _, hfresh.balanced⟩
      (Machine.along_and hkept (Machine.along_of_forall fun a ha _ => hrefunds a ha)))

/-! ### A mandate that spends what it has handed out -/

/-- The agent and its principal, before any mandate is issued. -/
def unissued : Store := { Sample.store with mandates := .empty }

/-- The root mandate of the small world. -/
def issue : Action :=
  .create
    { agentId := "agt_1"
      grantedById := "prn_1"
      currency := "INR"
      maxAmountPerOp := 1000
      aggregateSpendLimit := 1000
      reviewThresholdAmount := none
      allowedOperations := []
      policyConfig := []
      validUntil := ⟨1000, some 0⟩
      max_pos := Sample.thousand_pos
      limit_pos := Sample.thousand_pos
      threshold_pos := nofun }
    ⟨"mnd_1", Sample.mandate_1_named⟩ ⟨0, some 0⟩

/-- A child mandate with a given limit. -/
def handOut (budget : ℤ) (limit_pos : 0 < budget) : Action :=
  .delegate "mnd_1"
    { targetAgentId := "agt_1"
      currency := none
      maxAmountPerOp := 1000
      aggregateSpendLimit := budget
      reviewThresholdAmount := none
      allowedOperations := []
      validUntil := ⟨1000, some 0⟩
      max_pos := Sample.thousand_pos
      limit_pos }
    ⟨"mnd_2", Sample.mandate_2_named⟩ ⟨0, some 0⟩

/-- An order under the child mandate. -/
def requestChild (amount : ℤ) (amount_pos : 0 < amount) : Action :=
  .request { Sample.order "operation_B" amount Sample.length_B amount_pos with mandateId := "mnd_2" }
    ⟨none, none, none⟩ (Sample.inputs "operation_B" "order_B" amount)

/-- A child with 400 of the 1000, an order of 600 above it and one of 400 under it. -/
theorem budget_contained_capturedA :
    (controlPlane Sample.platform Sample.settings).Throughout Contained unissued
      [issue, handOut 400 (by decide), Sample.requestA, requestChild 400 (by decide),
        Sample.deliver Sample.capturedA] := by
  refine budget_contained _ _ _ _ rfl rfl ?_ ⟨⟨trivial, trivial⟩, ⟨trivial, trivial⟩,
    ⟨?_, trivial⟩, ⟨?_, trivial⟩, ⟨trivial, trivial⟩, trivial⟩
  · intro a ha
    simp only [List.mem_cons, List.not_mem_nil, or_false] at ha
    rcases ha with rfl | rfl | rfl | rfl | rfl
    · trivial
    · trivial
    · trivial
    · trivial
    · exact nonnegativeRefunds_of_captured (show Sample.platform.jsonLoads Sample.capturedA =
        some (Sample.capturedEvent "evt_1" "order_A" "pay_A") by rfl)
  · intro agent mandate hpermitted
    have hmandates : ((controlPlane Sample.platform Sample.settings).run unissued
        [issue, handOut 400 (by decide)]).mandates.rows.all (fun m => m.id ≠ "mnd_1" ||
          m.currentAggregateSpend + m.reservedSpend + m.delegatedChildBudgetAllocated + 600 ≤
            m.aggregateSpendLimit) = true := by
      decide +kernel
    obtain ⟨hm, hid⟩ := Table.find?_eq_some_iff.mp hpermitted.mandateFound
    have hid : mandate.id = "mnd_1" := hid
    show mandate.currentAggregateSpend + mandate.reservedSpend +
      mandate.delegatedChildBudgetAllocated + 600 ≤ mandate.aggregateSpendLimit
    simpa [hid] using List.all_eq_true.mp hmandates mandate hm
  · intro agent mandate hpermitted
    have hmandates : ((controlPlane Sample.platform Sample.settings).run unissued
        [issue, handOut 400 (by decide), Sample.requestA]).mandates.rows.all
          (fun m => m.id ≠ "mnd_2" ||
            m.currentAggregateSpend + m.reservedSpend + m.delegatedChildBudgetAllocated + 400 ≤
              m.aggregateSpendLimit) = true := by
      decide +kernel
    obtain ⟨hm, hid⟩ := Table.find?_eq_some_iff.mp hpermitted.mandateFound
    have hid : mandate.id = "mnd_2" := hid
    show mandate.currentAggregateSpend + mandate.reservedSpend +
      mandate.delegatedChildBudgetAllocated + 400 ≤ mandate.aggregateSpendLimit
    simpa [hid] using List.all_eq_true.mp hmandates mandate hm

/-- A mandate that has handed out all it has reserves 600, and so does its child: 1200 of 1000. -/
theorem not_contained_of_spent_allotment :
    unissued.mandates.rows = [] ∧ unissued.operations.rows = [] ∧
      ¬ (controlPlane Sample.platform Sample.settings).Throughout Contained unissued
        [issue, handOut 1000 (by decide), Sample.requestA, requestChild 600 (by decide)] := by
  refine ⟨rfl, rfl, fun h => ?_⟩
  have hlast := Machine.throughout_iff.mp h _ (List.prefix_refl _)
  generalize hs : (controlPlane Sample.platform Sample.settings).run unissued
    [issue, handOut 1000 (by decide), Sample.requestA, requestChild 600 (by decide)] = s at hlast
  have hrows : s.mandates.rows.map (fun m => (m.id, m.parentMandateId,
      m.currentAggregateSpend + m.reservedSpend, m.aggregateSpendLimit)) =
        [("mnd_1", none, 600, 1000), ("mnd_2", some "mnd_1", 600, 1000)] := by
    rw [← hs]
    decide +kernel
  obtain ⟨root, rest, hroot, hr, hrest⟩ := List.map_eq_cons_iff.mp hrows
  obtain ⟨child, rest, hchild, hc, hrest⟩ := List.map_eq_cons_iff.mp hrest
  obtain rfl := List.map_eq_nil_iff.mp hrest
  subst hchild
  simp only [Prod.mk.injEq] at hr hc
  have hm : root ∈ s.mandates.rows := by rw [hroot]; exact List.mem_cons_self
  have hfind : s.mandates.find? "mnd_1" = some root := Table.find?_eq_some_iff.mpr ⟨hm, hr.1⟩
  have htotal : subtreeSpend s.mandates root = 1200 := by
    rw [subtreeSpend, Table.sum, hroot, List.map_cons, List.map_cons, List.map_nil, List.sum_cons,
      List.sum_cons, List.sum_nil, if_pos (.inl rfl), if_pos (.inr (.parent hc.2.1 hfind))]
    omega
  have hle := hlast root hm
  omega

end MandatePlane.BudgetContainment
