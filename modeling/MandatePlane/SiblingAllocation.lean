import MandatePlane.AgentChat
import MandatePlane.BudgetContainment
import MandatePlane.MandateSessions

/-!
# What a mandate hands out, with delegations under way

Any number of delegations and cascades run as sessions, one statement at a time; every
other call runs to completion between two statements, or waits if it writes a mandate
whose row a session has locked.

A delegation computes the new allocation from the row it has locked, so that row must
not change before its commit.  What others can change of it is excluded by the lock,
and what the lock does not exclude leaves the allocation and the limit alone.
-/

namespace MandatePlane.SiblingAllocation

open DomainModel KeyedTable LabelledRun LedgerView HostEnvironment ControlPlane MandateRoutes
open MandateSteps AgentChat BudgetTree BudgetContainment ReadCommitted OperationSessions
open MandateSessions

/-! ### The service -/

/-- A call that is served statement by statement. -/
inductive MandateCall where
  | delegate (call : DelegateCall)
  | cascade (call : CascadeCall)

def MandateCall.start : MandateCall → MandatePoint
  | .delegate call => .lockParent call
  | .cascade call => .read call

/-- The columns of a mandate that a call can write. -/
structure Columns where
  status : MandateStatus
  currentAggregateSpend : ℤ
  reservedSpend : ℤ
  delegatedChildBudgetAllocated : ℤ
  suspensionReason : Option String
  version : ℤ
  deriving DecidableEq

def columns (m : Mandate) : Columns :=
  ⟨m.status, m.currentAggregateSpend, m.reservedSpend, m.delegatedChildBudgetAllocated,
    m.suspensionReason, m.version⟩

/-- The mandates that a call has written or inserted. -/
def written (s s' : Store) : List Row :=
  (s'.mandates.rows.filter fun m =>
    (s.mandates.find? m.id).map columns ≠ some (columns m)).map fun m => .mandate m.id

inductive Turn (ι : Type*) where
  | call (c : Call)
  | session (i : ι)

section Service

variable {ι : Type*} [DecidableEq ι]

/-- Calls that run to completion, unless they wait for a row, and sessions that take turns. -/
def serving (env : Platform) (settings : Settings) :
    Machine (World ι Row Store MandatePoint) (Turn ι) (Option ι × Event) where
  next w
    | .call c =>
      if ∀ k ∈ written w.committed (answer env settings w.committed c).1, w.owner k = none then
        { w with committed := (answer env settings w.committed c).1 }
      else w
    | .session i => (fire (fun _ => mandateCode env) w i).1
  log w
    | .call c =>
      if ∀ k ∈ written w.committed (answer env settings w.committed c).1, w.owner k = none then
        (answer env settings w.committed c).2.map fun e => (none, e)
      else []
    | .session i => (fire (fun _ => mandateCode env) w i).2.map fun l => (some l.1, l.2)

end Service

/-- The limits of the direct children of a mandate. -/
def childrenLimits (mandates : Table Mandate) (id : String) : ℤ :=
  mandates.sum fun m => if m.parentMandateId = some id then m.aggregateSpendLimit else 0

/-- No counter of a mandate is negative. -/
def NonNegative (s : Store) : Prop :=
  ∀ m ∈ s.mandates.rows, 0 ≤ m.currentAggregateSpend ∧ 0 ≤ m.reservedSpend

instance (s : Store) : Decidable (NonNegative s) := inferInstanceAs (Decidable (∀ _ ∈ _, _))

/-! ### The allocations of a table -/

/-- Every mandate has handed out the limits of its children, and no more than its own limit. -/
structure Sound (mandates : Table Mandate) : Prop where
  apportioned : Apportioned mandates
  within : ∀ m ∈ mandates.rows, m.delegatedChildBudgetAllocated ≤ m.aggregateSpendLimit

/-- The row of a mandate is there, with the allocation and the limit of a copy. -/
def Standing (mandates : Table Mandate) (copy : Mandate) : Prop :=
  ∃ row, mandates.find? copy.id = some row ∧
    row.delegatedChildBudgetAllocated = copy.delegatedChildBudgetAllocated ∧
    row.aggregateSpendLimit = copy.aggregateSpendLimit

section Tables

variable {s s' : Store} {mandates mandates' : Table Mandate} {m copy : Mandate}

theorem childrenLimits_eq (mandates : Table Mandate) (id : String) :
    childrenLimits mandates id = childLimits (nodes mandates) id := by
  rw [childLimits, nodes, List.map_map]
  rfl

theorem sound_empty (h : mandates.rows = []) : Sound mandates := by
  have hnone : nodes mandates = [] := by rw [nodes, h, List.map_nil]
  refine ⟨⟨hnone ▸ .nil, fun m hm => ?_⟩, fun m hm => ?_⟩
  · rw [h] at hm
    cases hm
  · rw [h] at hm
    cases hm

theorem find?_allotments (s : Store) (id : String) :
    (allotments s).find? id = (s.mandates.find? id).map allotmentOf := Table.find?_mapRows _ _ _

/-- The rows of a table with the same allotments have the same allocations and limits. -/
theorem standing_of_allotments (h : allotments s' = allotments s)
    (hcopy : Standing s.mandates copy) : Standing s'.mandates copy := by
  obtain ⟨row, hrow, hallocated, hlimit⟩ := hcopy
  have hfind : (allotments s').find? copy.id = some (allotmentOf row) := by
    rw [h, find?_allotments, hrow]
    rfl
  rw [find?_allotments] at hfind
  obtain ⟨row', hrow', hsame⟩ := Option.map_eq_some_iff.mp hfind
  have ha : (allotmentOf row').delegatedChildBudgetAllocated =
      (allotmentOf row).delegatedChildBudgetAllocated := by rw [hsame]
  have hl : (allotmentOf row').aggregateSpendLimit = (allotmentOf row).aggregateSpendLimit := by
    rw [hsame]
  exact ⟨row', hrow', Eq.trans ha hallocated, Eq.trans hl hlimit⟩

theorem free_of_allotments {id : String} (h : allotments s' = allotments s)
    (hfree : s.mandates.find? id = none) : s'.mandates.find? id = none := by
  have hfind : (allotments s').find? id = none := by
    rw [h, find?_allotments, hfree]
    rfl
  rw [find?_allotments] at hfind
  exact Option.map_eq_none_iff.mp hfind

theorem Sound.of_allotments (h : allotments s' = allotments s) (hs : Sound s.mandates) :
    Sound s'.mandates := by
  refine ⟨?_, fun m' hm' => ?_⟩
  · rw [← apportioned_allotments, h, apportioned_allotments]
    exact hs.apportioned
  · have hm : allotmentOf m' ∈ (allotments s').rows := List.mem_map_of_mem hm'
    rw [h] at hm
    obtain ⟨m, hm, hsame⟩ := List.mem_map.mp hm
    have ha : (allotmentOf m).delegatedChildBudgetAllocated =
        (allotmentOf m').delegatedChildBudgetAllocated := by rw [hsame]
    have hl : (allotmentOf m).aggregateSpendLimit = (allotmentOf m').aggregateSpendLimit := by
      rw [hsame]
    calc m'.delegatedChildBudgetAllocated = m.delegatedChildBudgetAllocated := ha.symm
      _ ≤ m.aggregateSpendLimit := hs.within m hm
      _ = m'.aggregateSpendLimit := hl

/-- A new root mandate. -/
theorem Sound.root (hs : Sound mandates) (hi : mandates.insert m = some mandates')
    (hparent : m.parentMandateId = none) (hnone : m.delegatedChildBudgetAllocated = 0)
    (hlimit : 0 < m.aggregateSpendLimit) : Sound mandates' := by
  refine ⟨hs.apportioned.root hi hparent hnone, fun r hr => ?_⟩
  rcases (Table.mem_insert hi).mp hr with hr | rfl
  · exact hs.within r hr
  · omega

/-- **A new child within what its parent has left.** -/
theorem Sound.child {parent : Mandate} {parentId : String} {budget : ℤ} {f : Mandate → Mandate}
    {hf : ∀ m, Keyed.key (f m) = Keyed.key m} (hs : Sound mandates)
    (hfound : mandates.find? parentId = some parent)
    (hi : (mandates.modify parentId f hf).insert m = some mandates')
    (hnode : ∀ m, nodeOf (f m) = nodeOf m)
    (hbudget : (f parent).delegatedChildBudgetAllocated =
      parent.delegatedChildBudgetAllocated + budget)
    (hroom : parent.delegatedChildBudgetAllocated + budget ≤ parent.aggregateSpendLimit)
    (hparent : m.parentMandateId = some parentId) (hlimit : m.aggregateSpendLimit = budget)
    (hnone : m.delegatedChildBudgetAllocated = 0) (hpos : 0 < budget) : Sound mandates' := by
  refine ⟨hs.apportioned.child hfound hi hnode hbudget hparent hlimit hnone, fun r hr => ?_⟩
  rcases (Table.mem_insert hi).mp hr with hr | rfl
  · rcases Table.mem_modify.mp hr with ⟨r₀, hr₀, hid, rfl⟩ | ⟨hr, -⟩
    · have hsame : r₀ = parent :=
        Table.eq_of_key_eq hr₀ (Table.mem_of_find? hfound) (hid.trans (Table.key_of_find? hfound).symm)
      have hl : (f r₀).aggregateSpendLimit = r₀.aggregateSpendLimit :=
        congrArg Node.limit (hnode r₀)
      rw [hsame] at hl ⊢
      omega
    · exact hs.within r hr
  · omega

/-- A new row below another one disturbs no third one. -/
theorem standing_of_child {parentId : String} {f : Mandate → Mandate}
    {hf : ∀ m, Keyed.key (f m) = Keyed.key m}
    (hi : (mandates.modify parentId f hf).insert m = some mandates') (hne : copy.id ≠ parentId)
    (hcopy : Standing mandates copy) : Standing mandates' copy := by
  obtain ⟨row, hrow, hsame⟩ := hcopy
  refine ⟨row, Table.find?_insert_of_some hi ?_, hsame⟩
  rw [Table.find?_modify_of_ne _ _ _ hne, hrow]

theorem free_of_child {parentId id : String} {f : Mandate → Mandate}
    {hf : ∀ m, Keyed.key (f m) = Keyed.key m}
    (hi : (mandates.modify parentId f hf).insert m = some mandates') (hne : id ≠ m.id)
    (hfree : mandates.find? id = none) : mandates'.find? id = none := by
  rw [Table.find?_insert hi]
  exact (if_neg hne).trans (Table.find?_modify_eq_none.mpr hfree)

end Tables

/-! ### The sessions -/

section Sessions

variable {ι : Type*}

/-- The parent's row is locked, and the copy of it still counts. -/
structure Held (w : World ι Row Store MandatePoint) (i : ι) (parent : Mandate) : Prop where
  lock : w.owner (.mandate parent.id) = some i
  standing : Standing w.committed.mandates parent

/-- The points of a delegation before its flush. -/
def delegating : MandatePoint → Bool
  | .lockParent _ | .loadAgent _ _ | .flushChild _ _ _ => true
  | _ => false

/-- Where a session stands, with its writes. -/
inductive Serving (w : World ι Row Store MandatePoint) (i : ι) :
    MandatePoint → (Store → Store) → Prop
  | asking (call : DelegateCall) : Serving w i (.lockParent call) id
  | locked {call : DelegateCall} {parent : Mandate} (h : Held w i parent)
      (hspent : 0 ≤ parent.currentAggregateSpend + parent.reservedSpend) :
      Serving w i (.loadAgent call parent) id
  | checked {call : DelegateCall} {parent : Mandate} {currency : String} (h : Held w i parent)
      (hroom : parent.delegatedChildBudgetAllocated + call.payload.aggregateSpendLimit ≤
        parent.aggregateSpendLimit) : Serving w i (.flushChild call parent currency) id
  | flushed {call : DelegateCall} {parent : Mandate} {currency : String} (h : Held w i parent)
      (hroom : parent.delegatedChildBudgetAllocated + call.payload.aggregateSpendLimit ≤
        parent.aggregateSpendLimit)
      (hlock : w.owner (.mandate call.id.text) = some i)
      (hfree : w.committed.mandates.find? call.id.text = none) :
      Serving w i .finish fun s => (delegateRows call parent currency s).getD s
  | other {p : MandatePoint} {f : Store → Store} (hp : delegating p = false)
      (hf : ∀ s, allotments (f s) = allotments s) : Serving w i p f

/-- What holds between any two turns. -/
structure Consistent (w : World ι Row Store MandatePoint) : Prop where
  sound : Sound w.committed.mandates
  serving : ∀ i, Serving w i (w.session i).point (w.session i).writes

variable {env : Platform} {settings : Settings} {w w' : World ι Row Store MandatePoint} {i j : ι}
  {p : MandatePoint} {f : Store → Store}

/-- What a turn of another session, or a call, leaves as it is. -/
theorem Serving.kept (h : Serving w i p f)
    (hlock : ∀ k, w.owner k = some i → w'.owner k = some i)
    (hstanding : ∀ parent, w.owner (.mandate parent.id) = some i →
      Standing w.committed.mandates parent → Standing w'.committed.mandates parent)
    (hfree : ∀ id, w.owner (.mandate id) = some i → w.committed.mandates.find? id = none →
      w'.committed.mandates.find? id = none) : Serving w' i p f := by
  have hheld {parent : Mandate} (h : Held w i parent) : Held w' i parent :=
    ⟨hlock _ h.lock, hstanding parent h.lock h.standing⟩
  cases h with
  | asking call => exact .asking call
  | locked h hspent => exact .locked (hheld h) hspent
  | checked h hroom => exact .checked (hheld h) hroom
  | flushed h hroom hown hnew => exact .flushed (hheld h) hroom (hlock _ hown) (hfree _ hown hnew)
  | other hp hf => exact .other hp hf

/-- A turn that leaves the allotments as they are. -/
theorem Serving.kept_of_allotments (h : Serving w i p f)
    (hlock : ∀ k, w.owner k = some i → w'.owner k = some i)
    (hsame : allotments w'.committed = allotments w.committed) : Serving w' i p f :=
  h.kept hlock (fun _ _ => standing_of_allotments hsame) fun _ _ => free_of_allotments hsame

/-- A turn that inserts a mandate below another one, where this session holds neither row. -/
theorem Serving.kept_of_child {parentId : String} {child : Mandate} {g : Mandate → Mandate}
    {hg : ∀ m, Keyed.key (g m) = Keyed.key m} (h : Serving w i p f)
    (hlock : ∀ k, w.owner k = some i → w'.owner k = some i)
    (hi : (w.committed.mandates.modify parentId g hg).insert child = some w'.committed.mandates)
    (hparent : w.owner (.mandate parentId) ≠ some i)
    (hchild : w.owner (.mandate child.id) ≠ some i) : Serving w' i p f := by
  refine h.kept hlock (fun parent hown => standing_of_child hi ?_)
    fun id hown => free_of_child hi ?_
  · rintro rfl
    exact hparent hown
  · rintro rfl
    exact hchild hown

/-! What a statement does to the session whose turn it is. -/

theorem allotments_writeCopies (copies : List Mandate) (s : Store) :
    allotments (writeCopies copies s) = allotments s := by
  induction copies with
  | nil => rfl
  | cons m copies ih =>
    have hone : allotments ((writeCopies copies s).updateMandate m.id (setMarked m)) =
        allotments (writeCopies copies s) := allotments_columns _ fun _ => rfl
    exact hone.trans ih

/-- The statements of a cascade. -/
theorem other_ran {rows : Store → List Row} {run : Store → Effect Store Event MandatePoint}
    (hp : delegating p = false) (hcode : mandateCode env p = .exec rows run) (s : Store) :
    delegating (run s).next = false ∧ ∀ s', allotments ((run s).write s') = allotments s' := by
  have hresume (call : CascadeCall) (state : CascadeState) :
      delegating (resume call state) = false := by
    unfold resume
    split
    · rfl
    · rfl
  cases p with
  | lockParent call => cases hp
  | loadAgent call parent => cases hp
  | flushChild call parent currency => cases hp
  | read call =>
    cases hcode
    refine ⟨?_, fun _ => rfl⟩
    dsimp only
    split
    · rfl
    · exact hresume _ _
  | load call id state =>
    cases hcode
    refine ⟨?_, fun _ => rfl⟩
    dsimp only
    split
    · rfl
    · rfl
  | children call id state =>
    cases hcode
    exact ⟨hresume _ _, fun _ => rfl⟩
  | flushMarked call state =>
    cases hcode
    exact ⟨rfl, allotments_writeCopies state.copies⟩
  | finish => cases hcode
  | returned => cases hcode
  | raised refusal => cases hcode
  | refused refusal => cases hcode

/-- What a parent has left bounds what it hands out. -/
theorem room_of_valid {parent : Mandate} {payload : MandateDelegateRequest} {currency : String}
    (hspent : 0 ≤ parent.currentAggregateSpend + parent.reservedSpend)
    (hvalid : validateDelegationInvariants env parent payload = .ok currency) :
    parent.delegatedChildBudgetAllocated + payload.aggregateSpendLimit ≤
      parent.aggregateSpendLimit := by
  obtain ⟨-, -, -, -, -, -, hleft⟩ := validateDelegationInvariants_eq_ok hvalid
  have hpos := payload.limit_pos
  unfold parentAvailable at hleft
  omega

variable [DecidableEq ι]

theorem Serving.ran {rows : Store → List Row} {run : Store → Effect Store Event MandatePoint}
    (h : Serving w i p f) (hspend : NonNegative w.committed)
    (hcode : mandateCode env p = .exec rows run) :
    Serving (w.advance i (rows (f w.committed)) (run (f w.committed))) i
      (run (f w.committed)).next ((run (f w.committed)).write ∘ f) := by
  cases h with
  | asking call =>
    cases hcode
    cases hparent : w.committed.mandates.find? call.parentId with
    | none =>
      simp only [id, hparent]
      exact .other rfl fun _ => rfl
    | some parent =>
      by_cases hactive : parent.status = .active
      · simp only [id, hparent, if_pos hactive]
        have hkey : parent.id = call.parentId := Table.key_of_find? hparent
        obtain ⟨hcommitted, hreserved⟩ := hspend parent (Table.mem_of_find? hparent)
        refine .locked ⟨if_pos (List.mem_singleton_self _), parent, ?_, rfl, rfl⟩ (by omega)
        rw [hkey]
        exact hparent
      · simp only [id, hparent, if_neg hactive]
        exact .other rfl fun _ => rfl
  | @locked call parent h hspent =>
    cases hcode
    cases hagent : w.committed.agents.find? call.payload.targetAgentId with
    | none =>
      simp only [id, hagent]
      exact .other rfl fun _ => rfl
    | some agent =>
      cases hvalid : validateDelegationInvariants env parent call.payload with
      | error refusal =>
        simp only [id, hagent]
        exact .other rfl fun _ => rfl
      | ok currency =>
        simp only [id, hagent]
        exact .checked ⟨h.lock, h.standing⟩ (room_of_valid hspent hvalid)
  | @checked call parent currency h hroom =>
    cases hcode
    cases hrows : delegateRows call parent currency w.committed with
    | none =>
      simp only [id, hrows]
      exact .other rfl fun _ => rfl
    | some s' =>
      simp only [id, hrows]
      exact .flushed ⟨if_pos List.mem_cons_self, h.standing⟩ hroom
        (if_pos (List.mem_cons_of_mem _ List.mem_cons_self)) (delegateRows_free hrows)
  | flushed _ _ _ _ => cases hcode
  | other hp hf =>
    obtain ⟨hnext, hwrite⟩ := other_ran hp hcode (f w.committed)
    exact .other hnext fun s => (hwrite (f s)).trans (hf s)

/-- The commit of a delegation, seen by the table and by the other sessions. -/
theorem consistent_delegated {call : DelegateCall} {parent : Mandate} {currency : String}
    (h : Consistent w) (hheld : Held w i parent)
    (hroom : parent.delegatedChildBudgetAllocated + call.payload.aggregateSpendLimit ≤
      parent.aggregateSpendLimit)
    (hlock : w.owner (.mandate call.id.text) = some i)
    (hfree : w.committed.mandates.find? call.id.text = none)
    (hwrites : (w.session i).writes = fun s => (delegateRows call parent currency s).getD s) :
    Consistent (w.publish i .returned) := by
  obtain ⟨s', hrows, hinsert⟩ := @delegateRows_eq_some w.committed call parent currency hfree
  have hview : w.view i = s' := by
    rw [World.view, hwrites]
    show (delegateRows call parent currency w.committed).getD w.committed = s'
    rw [hrows]
    rfl
  have hinserted : (w.committed.mandates.modify parent.id
      (setAllocation parent call.payload.aggregateSpendLimit)).insert (call.child parent currency) =
        some (w.publish i (.returned : MandatePoint)).committed.mandates := by
    show _ = some (w.view i).mandates
    rw [hview]
    exact hinsert
  obtain ⟨row, hrow, hallocated, hlimit⟩ := hheld.standing
  refine ⟨h.sound.child hrow hinserted (fun _ => rfl) ?_ ?_ rfl rfl rfl call.payload.limit_pos,
    fun j => ?_⟩
  · show parent.delegatedChildBudgetAllocated + call.payload.aggregateSpendLimit =
      row.delegatedChildBudgetAllocated + call.payload.aggregateSpendLimit
    rw [hallocated]
  · rw [hallocated, hlimit]
    exact hroom
  · by_cases hj : j = i
    · subst hj
      rw [publish_session_self]
      exact .other rfl fun _ => rfl
    · rw [publish_session_of_ne hj]
      -- a row of this session is not a row of another one
      have howned {k : Row} (hk : w.owner k = some i) : w.owner k ≠ some j := by
        rw [hk]
        exact fun he => hj (Option.some.inj he).symm
      exact (h.serving j).kept_of_child (fun k hk => release_of_ne hk hj) hinserted
        (howned hheld.lock) (howned hlock)

/-- A turn of a session. -/
theorem consistent_session {labels : List (ι × Event)} (h : Consistent w)
    (hspend : NonNegative w.committed)
    (hfired : Fired (fun _ => mandateCode env) w i labels w') : Consistent w' := by
  have hown := h.serving i
  have hquiet (hsame : allotments w'.committed = allotments w.committed)
      (hself : Serving w' i (w'.session i).point (w'.session i).writes) : Consistent w' := by
    refine ⟨h.sound.of_allotments hsame, fun j => ?_⟩
    by_cases hj : j = i
    · rw [hj]
      exact hself
    · rw [hfired.session_other hj]
      exact (h.serving j).kept_of_allotments (fun k hk => hfired.owner_kept hj hk) hsame
  generalize hp : (w.session i).point = p at hown
  generalize hf : (w.session i).writes = f at hown
  cases hfired with
  | waited => exact h
  | ran hcode _ =>
    refine hquiet rfl ?_
    have hview : w.view i = f w.committed := by rw [World.view, hf]
    rw [hp] at hcode
    rw [advance_session_self, hf, hview]
    exact hown.ran hspend hcode
  | grabbed hcode _ =>
    rw [hp] at hcode
    cases p <;> cases hcode
  | rolledBack hcode =>
    refine hquiet rfl ?_
    rw [discard_session_self]
    rw [hp] at hcode
    cases p <;> cases hcode
    exact .other rfl fun _ => rfl
  | @committed next hcode =>
    rw [hp] at hcode
    have hfinish : p = .finish ∧ next = .returned := by
      cases p <;> cases hcode
      exact ⟨rfl, rfl⟩
    obtain ⟨rfl, rfl⟩ := hfinish
    cases hown with
    | flushed hheld hroom hlock hfree =>
      exact consistent_delegated h hheld hroom hlock hfree hf
    | other _ hsame =>
      refine hquiet ?_ ?_
      · show allotments ((w.session i).writes w.committed) = allotments w.committed
        rw [hf]
        exact hsame _
      · rw [publish_session_self]
        exact .other rfl fun _ => rfl

end Sessions

/-! ### The calls -/

section Calls

variable {env : Platform} {settings : Settings} {s s' : Store} {c : Call} {events : List Event}

theorem reissuedMandate_limit (agent : Agent) (previous : Option Mandate) (hex : String)
    (now : DateTime) : 0 < (reissuedMandate env agent previous hex now).aggregateSpendLimit := by
  show 0 < (chatBounds (env.upper agent.agentType)).2.1
  unfold chatBounds
  split
  · decide
  · split
    · decide
    · decide

/-- How a call changes the allotments: not at all, by a root mandate, or by a delegation. -/
theorem allotments_cases (h : CallStep env settings s c events s') :
    allotments s' = allotments s ∨
      (∃ m, m.parentMandateId = none ∧ m.delegatedChildBudgetAllocated = 0 ∧
        0 < m.aggregateSpendLimit ∧ s.mandates.insert m = some s'.mandates) ∨
      ∃ parentId payload id now parent currency,
        Delegated env s parentId payload id now parent currency s'.mandates := by
  cases h with
  | control h =>
    rcases h.allotments_cases with he | ⟨payload, _, _, _, -, hi⟩ | ⟨_, _, _, _, _, _, -, hd⟩
    · exact .inl he
    · exact .inr (.inl ⟨_, rfl, rfl, payload.limit_pos, hi⟩)
    · exact .inr (.inr ⟨_, _, _, _, _, _, hd⟩)
  | silent => exact .inl rfl
  | reissued h => exact .inr (.inl ⟨_, rfl, rfl, reissuedMandate_limit _ _ _ _, h⟩)

/-- An inserted mandate is written. -/
theorem written_of_new {m : Mandate} (hm : m ∈ s'.mandates.rows)
    (hnew : s.mandates.find? m.id = none) : .mandate m.id ∈ written s s' := by
  refine List.mem_map.mpr ⟨m, List.mem_filter.mpr ⟨hm, decide_eq_true ?_⟩, rfl⟩
  rw [hnew]
  exact nofun

/-- A mandate whose allocation has changed is written. -/
theorem written_of_allocated {m m₀ : Mandate} (hm : m ∈ s'.mandates.rows)
    (hold : s.mandates.find? m.id = some m₀)
    (hne : m₀.delegatedChildBudgetAllocated ≠ m.delegatedChildBudgetAllocated) :
    .mandate m.id ∈ written s s' := by
  refine List.mem_map.mpr ⟨m, List.mem_filter.mpr ⟨hm, decide_eq_true ?_⟩, rfl⟩
  rw [hold]
  exact fun he => hne (congrArg Columns.delegatedChildBudgetAllocated (Option.some.inj he))

variable {ι : Type*} {w : World ι Row Store MandatePoint}

/-- A call that writes no locked row. -/
theorem consistent_call (h : Consistent w) (hspend : NonNegative w.committed)
    (hstep : CallStep env settings w.committed c events s')
    (hfree : ∀ k ∈ written w.committed s', w.owner k = none) :
    Consistent { w with committed := s' } := by
  have hunowned {k : Row} {i : ι} (hk : k ∈ written w.committed s') : w.owner k ≠ some i := by
    rw [hfree k hk]
    exact nofun
  rcases allotments_cases hstep with hsame | ⟨m, hparent, hnone, hlimit, hi⟩ |
    ⟨parentId, payload, id, now, parent, currency, hdelegated⟩
  · exact ⟨h.sound.of_allotments hsame,
      fun i => (h.serving i).kept_of_allotments (fun _ hk => hk) hsame⟩
  · have hwritten : .mandate m.id ∈ written w.committed s' :=
      written_of_new ((Table.mem_insert hi).mpr (.inr rfl)) (Table.insert_eq_some_iff.mp hi).1
    refine ⟨h.sound.root hi hparent hnone hlimit, fun i => (h.serving i).kept (fun _ hk => hk)
      (fun copy _ hcopy => ?_) fun id hown hnew => ?_⟩
    · obtain ⟨row, hrow, hsame⟩ := hcopy
      exact ⟨row, Table.find?_insert_of_some hi hrow, hsame⟩
    · show s'.mandates.find? id = none
      rw [Table.find?_insert hi]
      refine (if_neg ?_).trans hnew
      rintro rfl
      exact hunowned hwritten hown
  · have hkey : parent.id = parentId := Table.key_of_find? hdelegated.found
    obtain ⟨hcommitted, hreserved⟩ := hspend parent (Table.mem_of_find? hdelegated.found)
    have hroom := room_of_valid (by omega) hdelegated.valid
    have hi := hdelegated.inserted
    have hfound : s'.mandates.find? parentId =
        some (allocate payload.aggregateSpendLimit parent) := by
      refine Table.find?_insert_of_some hi ?_
      rw [Table.find?_modify_self, hdelegated.found]
      rfl
    have hparentWritten : .mandate parentId ∈ written w.committed s' := by
      rw [← hkey]
      refine @written_of_allocated _ _ (allocate payload.aggregateSpendLimit parent) parent
        (Table.mem_of_find? hfound) (hkey ▸ hdelegated.found) ?_
      have hpos := payload.limit_pos
      show parent.delegatedChildBudgetAllocated ≠
        parent.delegatedChildBudgetAllocated + payload.aggregateSpendLimit
      omega
    have hchildWritten : .mandate id ∈ written w.committed s' :=
      @written_of_new _ _ (childMandate payload parent currency id now)
        ((Table.mem_insert hi).mpr (.inr rfl))
        (Table.find?_modify_eq_none.mp (Table.insert_eq_some_iff.mp hi).1)
    exact ⟨h.sound.child hdelegated.found hi (fun _ => rfl) rfl hroom (congrArg some hkey) rfl rfl
      payload.limit_pos, fun i => (h.serving i).kept_of_child (fun _ hk => hk) hi
        (hunowned hparentWritten) (hunowned hchildWritten)⟩

end Calls

section Runs

variable {ι : Type*} [DecidableEq ι]

/-- **No sibling over-allocation**: in every state of every run that starts without mandates, with any
number of delegations and cascades under way, a mandate has handed out the limits of its children and
no more than its own limit, if no counter is ever negative. -/
theorem no_sibling_over_allocation (env : Platform) (settings : Settings)
    (requests : ι → MandateCall) (s : Store) (turns : List (Turn ι)) (hempty : s.mandates.rows = [])
    (hspend : (serving env settings).Throughout (fun w => NonNegative w.committed)
      (opening s fun i => (requests i).start) turns) :
    (serving env settings).Throughout (fun w => ∀ m ∈ w.committed.mandates.rows,
      m.delegatedChildBudgetAllocated = childrenLimits w.committed.mandates m.id ∧
        m.delegatedChildBudgetAllocated ≤ m.aggregateSpendLimit)
      (opening s fun i => (requests i).start) turns := by
  have hopen : Consistent (opening s fun i => (requests i).start : World ι Row Store MandatePoint) := by
    refine ⟨sound_empty hempty, fun i => ?_⟩
    show Serving _ i (requests i).start id
    cases requests i with
    | delegate call => exact .asking call
    | cascade call => exact .other rfl fun _ => rfl
  have hstep : ∀ (w : World ι Row Store MandatePoint) (turn : Turn ι), Consistent w →
      NonNegative w.committed → Consistent ((serving env settings).next w turn) := by
    intro w turn hw hside
    cases turn with
    | call c =>
      show Consistent (if _ then _ else _)
      split
      · rename_i hfree
        exact consistent_call hw hside (answer_step env settings w.committed c) hfree
      · exact hw
    | session i => exact consistent_session hw hside (fire_fired _ w i)
  refine Machine.throughout_mono (fun w hw m hm => ⟨?_, hw.sound.within m hm⟩)
    (Machine.throughout_of_inv hstep hopen (Machine.along_of_throughout hspend))
  rw [childrenLimits_eq]
  exact hw.sound.apportioned.allotted m hm

end Runs

/-- A delegation of the sample's mandate to a child of its own id. -/
def handOut (id : GeneratedId) (budget : ℤ) (limit_pos : 0 < budget) : MandateCall :=
  .delegate
    { parentId := "mnd_1"
      payload :=
        { targetAgentId := "agt_1"
          currency := none
          maxAmountPerOp := 1000
          aggregateSpendLimit := budget
          reviewThresholdAmount := none
          allowedOperations := []
          validUntil := ⟨1000, some 0⟩
          max_pos := Sample.thousand_pos
          limit_pos }
      id
      now := ⟨0, some 0⟩ }

/-- Two delegations of 600 meet at a mandate of 1000: the second waits for the first, and finds too
little left. -/
theorem no_sibling_over_allocation_waiting :
    (serving Sample.platform Sample.settings).Throughout (fun w =>
      ∀ m ∈ w.committed.mandates.rows,
        m.delegatedChildBudgetAllocated = childrenLimits w.committed.mandates m.id ∧
          m.delegatedChildBudgetAllocated ≤ m.aggregateSpendLimit)
      (opening unissued fun first : Bool => (if first then
        handOut ⟨"mnd_2", rfl⟩ 600 (by decide) else handOut ⟨"mnd_3", rfl⟩ 600 (by decide)).start)
      [.call (.control issue), .session true, .session false, .session true, .session false,
        .session true, .session true, .session false, .session false, .session false] :=
  no_sibling_over_allocation _ _ _ _ _ rfl (by decide +kernel)

end MandatePlane.SiblingAllocation
