import MandatePlane.Deployment
import MandatePlane.LedgerConsistency

/-!
# The books of a deployment

The two counters of a mandate are the sums over its operations since the last reset as long as
the third act of the demonstration settles what it has reserved.  It settles its
operation in any case: one that the policy rejected is marked SUCCEEDED too, and its amount leaves
a reservation that was never made.
-/

namespace MandatePlane.ShowcaseBooks

open DomainModel KeyedTable HoldLedger LabelledRun LedgerView HostEnvironment HandlerPostings
open MandateSteps ControlPlane AgentChat LedgerConsistency ActiveMandates AgentRoutes DemoRoutes
open TransactionLookup Deployment

/-! ### The journal since the last reset -/

def follow (events : List Event) : JournalEntry → List Event
  | .observed event => events ++ [event]
  | .converged _ => events
  | .cleared => []

/-- What the pipeline observed since the last reset. -/
def sinceCleared (journal : List JournalEntry) : List Event := journal.foldl follow []

theorem foldl_observed (es events : List Event) :
    (observed events).foldl follow es = es ++ events := by
  induction events generalizing es with
  | nil => exact (List.append_nil es).symm
  | cons e events ih =>
    show (observed events).foldl follow (es ++ [e]) = _
    rw [ih, List.append_assoc]
    rfl

@[simp] theorem sinceCleared_observed (j : List JournalEntry) (events : List Event) :
    sinceCleared (j ++ observed events) = sinceCleared j ++ events := by
  rw [sinceCleared, List.foldl_append, foldl_observed]
  rfl

@[simp] theorem sinceCleared_converged (j : List JournalEntry) (op : FinancialOperation) :
    sinceCleared (j ++ [.converged op]) = sinceCleared j := by
  rw [sinceCleared, List.foldl_append]
  rfl

@[simp] theorem sinceCleared_cleared (j : List JournalEntry) :
    sinceCleared (j ++ [.cleared]) = [] := by
  rw [sinceCleared, List.foldl_append]
  rfl

/-! ### One log -/

/-- The operation waits for its settlement under the child mandate. -/
def Settles (op : FinancialOperation) : Prop :=
  op.status.inFlight = true ∧ op.mandateId = childMandateId

/-- The books are balanced for the journal, and every amount is positive. -/
structure Booked (j : List JournalEntry) (s : Store) : Prop where
  balanced : Balanced (creditedTo (sinceCleared j)) (ledger s)
  positive : PositiveAmounts s

theorem creditedTo_append (events events' : List Event) :
    creditedTo (events ++ events') = fun id => creditedTo events id + creditedTo events' id := by
  funext id
  rw [creditedTo, List.map_append, List.sum_append]
  rfl

/-- **A ruled log that explains the ledger keeps the books.** -/
theorem balanced_of_log {s s' : Store} {es events : List Event}
    (hb : Balanced (creditedTo es) (ledger s)) (hp : PositiveAmounts s)
    (hbooks : ledger s' = eventBook.run (ledger s) events)
    (hruled : eventBook.Along EventRule (ledger s) events) :
    Balanced (creditedTo (es ++ events)) (ledger s') ∧ PositiveAmounts s' := by
  have ha := positiveAmounts_iff.mp hp
  refine ⟨?_, ?_⟩
  · rw [hbooks, eventBook_run, creditedTo_append]
    simp only [creditedTo_eq events]
    exact balanced_run hb (along_faithful hb ha hruled)
  · rw [positiveAmounts_iff, hbooks]
    exact Machine.inv_run (M := eventBook) (P := EventRule)
      (I := fun L => ∀ h ∈ L.holds.rows, 0 < h.amount)
      (fun L e ha hr => amounts_of_rule ha hr) ha hruled

section Steps

variable {env : Platform} {settings : Settings} {s s' : Store} {j j' : List JournalEntry}

/-- Verifications of payments find their operation in flight. -/
def CallVerifies (env : Platform) (settings : Settings) (s : Store) : Call → Prop
  | .control a => VerifiesInFlight env settings s a
  | .chat _ _ _ _ => True

theorem callVerifies_of_isEntry {c : Call} (h : IsEntry c) (s : Store) :
    CallVerifies env settings s c := by
  cases c with
  | control a =>
    cases a with
    | request _ _ _ => trivial
    | _ => exact absurd h not_false
  | chat _ _ _ _ => trivial

/-- **A call explains the ledger by a ruled log.** -/
theorem answer_explained {c : Call} (hc : CallVerifies env settings s c) :
    ledger (answer env settings s c).1 = eventBook.run (ledger s) (answer env settings s c).2 ∧
      eventBook.Along EventRule (ledger s) (answer env settings s c).2 := by
  have hstep := answer_step env settings s c
  generalize answer env settings s c = done at hstep
  obtain ⟨s', events⟩ := done
  cases hstep with
  | control h => exact ⟨h.books, h.ruled hc⟩
  | silent => exact ⟨rfl, trivial⟩
  | @reissued agentId headers hex now agent previous mandates h =>
    have hlimit : 0 < (chatBounds (env.upper agent.agentType)).2.1 := by
      unfold chatBounds
      split
      · decide
      · split <;> decide
    obtain ⟨hledger, hnone⟩ := ledger_insertMandate h
    exact ⟨hledger, ⟨⟨rfl, rfl, hlimit, hnone⟩, trivial⟩⟩

theorem Booked.observed {events : List Event} (h : Booked j s)
    (hbooks : ledger s' = eventBook.run (ledger s) events)
    (hruled : eventBook.Along EventRule (ledger s) events) :
    Booked (j ++ observed events) s' := by
  obtain ⟨hb, hp⟩ := balanced_of_log h.balanced h.positive hbooks hruled
  refine ⟨?_, hp⟩
  rw [sinceCleared_observed]
  exact hb

theorem seeded_fresh (inputs : ResetInputs) : Fresh (seededStore inputs) := by
  refine ⟨rfl, fun m hm => ?_⟩
  simp only [seededStore, List.mem_cons, List.not_mem_nil, or_false] at hm
  rcases hm with rfl | rfl | rfl <;> exact ⟨rfl, rfl⟩

/-- A reset starts new books. -/
theorem booked_seeded (j : List JournalEntry) (inputs : ResetInputs) :
    Booked (j ++ [.cleared]) (seededStore inputs) := by
  refine ⟨?_, (seeded_fresh inputs).positive⟩
  rw [sinceCleared_cleared]
  exact (seeded_fresh inputs).balanced

/-- **A step on the tables keeps the books.** -/
theorem booked_step (h : Booked j s)
    (hstep : TableStep env settings (CallVerifies env settings) s j' s') : Booked (j ++ j') s' := by
  cases hstep with
  | called c hc =>
    obtain ⟨hbooks, hruled⟩ := answer_explained hc
    exact h.observed hbooks hruled
  | captured hcaptured =>
    have hexplained := (processDomainWebhookEvent_spec hcaptured).explained.1
    exact h.observed hexplained.books hexplained.ruled
  | enrolled principals agents _ =>
    rw [List.append_nil]
    exact ⟨h.balanced, h.positive⟩
  | cleared inputs _ => exact booked_seeded j inputs

theorem booked_path (h : Booked j s)
    (hpath : Path env settings (CallVerifies env settings) s j' s') : Booked (j ++ j') s' := by
  induction hpath with
  | refl =>
    rw [List.append_nil]
    exact h
  | step _ hstep ih =>
    rw [← List.append_assoc]
    exact booked_step ih hstep

/-! ### The settlement of the third act -/

variable {op : FinancialOperation}

theorem ledger_converge (hchild : op.mandateId = childMandateId) :
    ledger (converge op s) =
      eventBook.run (ledger s) [.posted op .succeeded (-op.amount) op.amount] := by
  unfold converge
  rw [ledger_commitDispatched, ledger_moveTo, ← hchild]
  rfl

/-- **A settlement of what is in flight keeps the books.** -/
theorem Booked.converge (h : Booked j s) (hrow : s.operations.find? op.id = some op)
    (hsettles : Settles op) : Booked (j ++ [.converged op]) (converge op s) := by
  have hrule : eventBook.Along EventRule (ledger s)
      [.posted op .succeeded (-op.amount) op.amount] := by
    refine ⟨⟨?_, .commit hsettles.1⟩, trivial⟩
    rw [holds_find?, hrow]
    rfl
  obtain ⟨hb, hp⟩ := balanced_of_log h.balanced h.positive (ledger_converge hsettles.2) hrule
  refine ⟨?_, hp⟩
  rw [sinceCleared_converged]
  rw [creditedTo_append] at hb
  have hzero : (fun id => creditedTo (sinceCleared j) id +
      creditedTo [.posted op .succeeded (-op.amount) op.amount] id) =
        creditedTo (sinceCleared j) := by
    funext id
    exact add_zero _
  rwa [hzero] at hb

/-- **Any other settlement breaks the books**: the child mandate's reservation loses an amount that
no operation of it had in flight. -/
theorem not_consistent_converge (h : Booked j s) (hrow : s.operations.find? op.id = some op)
    {m : Mandate} (hchild : s.mandates.find? childMandateId = some m) (hnot : ¬ Settles op)
    (events : List Event) : ¬ Consistent events (DemoRoutes.converge op s) := by
  intro hconsistent
  have hid : m.id = childMandateId := Table.key_of_find? hchild
  have hpos := h.positive op (Table.mem_of_find? hrow)
  obtain ⟨hbefore, -, -⟩ := consistent_of_balanced h.balanced h.positive m (Table.mem_of_find? hchild)
  have hafter : m.commitDispatched op.amount ∈ (DemoRoutes.converge op s).mandates.rows := by
    have hfind : (DemoRoutes.converge op s).mandates.find? childMandateId =
        some (m.commitDispatched op.amount) := by
      show (s.mandates.modify childMandateId (Mandate.commitDispatched op.amount)).find?
        childMandateId = _
      rw [Table.find?_modify_self, hchild]
      rfl
    exact Table.mem_of_find? hfind
  obtain ⟨hreserved, -, -⟩ := hconsistent _ hafter
  have hsum : (DemoRoutes.converge op s).operations.sum (fun o =>
      if o.mandateId = m.id ∧ o.status.inFlight = true then o.amount else 0) =
        s.operations.sum fun o =>
          if o.mandateId = m.id ∧ o.status.inFlight = true then o.amount else 0 := by
    show (s.operations.modify op.id (.moveTo .succeeded)
      (FinancialOperation.moveTo_key .succeeded)).sum _ = _
    rw [Table.sum_modify hrow]
    have hgone : ¬ ((op.moveTo .succeeded).mandateId = m.id ∧
        (op.moveTo .succeeded).status.inFlight = true) := fun hboth => by cases hboth.2
    have hwas : ¬ (op.mandateId = m.id ∧ op.status.inFlight = true) :=
      fun hboth => hnot ⟨hboth.2, hboth.1.trans hid⟩
    rw [if_neg hgone, if_neg hwas]
    simp
  have hsame : (m.commitDispatched op.amount).reservedSpend = m.reservedSpend :=
    hreserved.trans (hsum.trans hbefore.symm)
  have hmoved : m.reservedSpend - op.amount = m.reservedSpend := hsame
  omega

end Steps

/-! ### Every run -/

section Runs

variable {env : Platform} {settings : Settings} {host : Host} {d : Dataset} {c : DeploymentCall}
  {j : List JournalEntry}

/-- What a call of the deployment has to verify. -/
def Verifies (env : Platform) (settings : Settings) (d : Dataset) : DeploymentCall → Prop
  | .plane (.control a) => VerifiesInFlight env settings d.store a
  | _ => True

theorem callPath_of_verifies (host : Host) (hverify : Verifies env settings d c) :
    CallPath env settings (CallVerifies env settings) d.store (deploy env settings host d c).2
      (deploy env settings host d c).1.store := by
  refine deploy_path (fun c hc s => callVerifies_of_isEntry hc s) fun a ha => ?_
  subst ha
  exact hverify

/-- The settlements of a call find their operation in flight, or its books are broken. -/
theorem booked_or_broken (host : Host) (hbooked : Booked j d.store) (hverify : Verifies env settings d c) :
    ((∀ op, .converged op ∈ (deploy env settings host d c).2 → Settles op) ∧
        Booked (j ++ (deploy env settings host d c).2) (deploy env settings host d c).1.store) ∨
      (∃ op, .converged op ∈ (deploy env settings host d c).2 ∧ ¬ Settles op) ∧
        ∀ events, ¬ Consistent events (deploy env settings host d c).1.store := by
  have hquiet : ∀ {s s' : Store} {j : List JournalEntry},
      Path env settings (CallVerifies env settings) s j s' → ∀ op, .converged op ∉ j := by
    intro s s' j hpath op
    induction hpath with
    | refl => exact List.not_mem_nil
    | step _ hstep ih =>
      rw [List.mem_append, not_or]
      refine ⟨ih, ?_⟩
      cases hstep <;> simp [observed]
  have hpath := callPath_of_verifies host hverify
  generalize deploy env settings host d c = done at hpath ⊢
  obtain ⟨d', journal⟩ := done
  dsimp only at hpath ⊢
  generalize d'.store = s' at hpath ⊢
  cases hpath with
  | quiet h => exact .inl ⟨fun op hop => absurd hop (hquiet h op), booked_path hbooked h⟩
  | @converging j₁ s₁ op h hrow hchild =>
    obtain ⟨m, hm⟩ := hchild
    have hbooked₁ := booked_path hbooked h
    by_cases hsettles : Settles op
    · refine .inl ⟨fun op' hop' => ?_, ?_⟩
      · rcases List.mem_append.mp hop' with hop' | hop'
        · exact absurd hop' (hquiet h op')
        · cases List.mem_singleton.mp hop'
          exact hsettles
      · rw [← List.append_assoc]
        exact hbooked₁.converge hrow hsettles
    · exact .inr ⟨⟨op, List.mem_append_right _ (List.mem_singleton_self _), hsettles⟩,
        not_consistent_converge hbooked₁ hrow hm hsettles⟩

/-- The books are consistent in every state of a run from booked ones exactly where the run
settles only what is in flight. -/
theorem consistent_iff_of_booked (calls : List DeploymentCall) (hbooked : Booked j d.store)
    (hverify : (deployment env settings host).Along (Verifies env settings) d calls) :
    (∀ taken, taken <+: calls →
        Consistent (sinceCleared (j ++ (deployment env settings host).trace d taken))
          ((deployment env settings host).run d taken).store) ↔
      ∀ op, .converged op ∈ (deployment env settings host).trace d calls → Settles op := by
  induction calls generalizing d j with
  | nil =>
    refine iff_of_true (fun taken htaken => ?_) fun op hop => absurd hop List.not_mem_nil
    rw [List.prefix_nil.mp htaken, Machine.trace_nil, List.append_nil]
    exact consistent_of_balanced hbooked.balanced hbooked.positive
  | cons c calls ih =>
    obtain ⟨hc, hrest⟩ := hverify
    rw [Machine.trace_cons]
    rcases booked_or_broken host hbooked hc with
      ⟨hsettles, hnext⟩ | ⟨⟨op, hop, hnot⟩, hbroken⟩
    · have hstep := ih hnext hrest
      constructor
      · intro hconsistent op hop
        refine (List.mem_append.mp hop).elim (hsettles op) fun hop => hstep.mp ?_ op hop
        intro taken htaken
        have hlater := hconsistent (c :: taken) (List.cons_prefix_cons.mpr ⟨rfl, htaken⟩)
        rw [Machine.trace_cons, ← List.append_assoc] at hlater
        exact hlater
      · intro hall taken htaken
        cases taken with
        | nil =>
          rw [Machine.trace_nil, List.append_nil]
          exact consistent_of_balanced hbooked.balanced hbooked.positive
        | cons c' taken =>
          obtain ⟨rfl, hshorter⟩ := List.cons_prefix_cons.mp htaken
          rw [Machine.trace_cons, ← List.append_assoc]
          exact hstep.mpr (fun op hop => hall op (List.mem_append_right _ hop)) taken hshorter
    · refine iff_of_false (fun hconsistent => ?_) fun hall =>
        hnot (hall op (List.mem_append_left _ hop))
      exact hbroken _ (hconsistent [c] (List.cons_prefix_cons.mpr ⟨rfl, List.nil_prefix⟩))

end Runs

/-- **The books of a deployment.**  In a run that starts before any request, with resets wherever
they come, and that verifies payments of operations in flight only, the counters are
the sums over the operations since the last reset in every state, exactly where every third act
settles an operation that is in flight under the child mandate. -/
theorem deployment_consistent_iff (env : Platform) (settings : Settings) (host : Host) (d : Dataset)
    (calls : List DeploymentCall) (hfresh : Fresh d.store)
    (hverify : (deployment env settings host).Along (Verifies env settings) d calls) :
    (∀ taken, taken <+: calls →
        Consistent (sinceCleared ((deployment env settings host).trace d taken))
          ((deployment env settings host).run d taken).store) ↔
      ∀ op, .converged op ∈ (deployment env settings host).trace d calls → Settles op :=
  consistent_iff_of_booked (j := []) calls ⟨hfresh.balanced, hfresh.positive⟩ hverify

/-! ### A third act within the rate limit and one beyond it -/

namespace Sample

open ControlPlane.Sample Deployment.Sample

theorem eightDigits : "0a1b2c3d".length = 8 := by decide

def seedTimes : SeedTimes := ⟨0, 0, 0⟩

def resetInputs : ResetInputs := ⟨seedTimes, seedTimes, seedTimes⟩

/-- An act that is let through by the rate limiter, or is not. -/
def act (allowed : Bool) : ScenarioInputs where
  hex := "0a1b2c3d"
  hex_length := eightDigits
  request :=
    { inputs "operation_A" "order_A" 200000 with rateLimit := ⟨allowed, 60, 59, .int 0, none⟩ }
  reconciliation := ⟨20, 60, "rec_1", fun _ => .error "not found"⟩

def showcase (allowed : Bool) : List DeploymentCall :=
  [.reset resetInputs, .scenario 3 (act allowed)]

/-- The operations a journal shows settled by the third act. -/
def convergedRows (journal : List JournalEntry) : List FinancialOperation :=
  journal.filterMap fun
    | .converged op => some op
    | _ => none

theorem mem_convergedRows {journal : List JournalEntry} {op : FinancialOperation}
    (h : .converged op ∈ journal) : op ∈ convergedRows journal :=
  List.mem_filterMap.mpr ⟨_, h, rfl⟩

end Sample

open Sample ControlPlane.Sample Deployment.Sample in
/-- Within the limit the third act settles an operation in flight. -/
theorem showcase_settles {op : FinancialOperation}
    (hop : .converged op ∈ (deployment platform settings host).trace start (showcase true)) :
    Settles op := by
  have hall : ((convergedRows ((deployment platform settings host).trace start
      (showcase true))).all fun op => op.status.inFlight && op.mandateId = childMandateId) =
        true := by
    decide +kernel
  have hop := List.all_eq_true.mp hall op (mem_convergedRows hop)
  rw [Bool.and_eq_true] at hop
  exact ⟨hop.1, of_decide_eq_true hop.2⟩

open Sample ControlPlane.Sample Deployment.Sample in
theorem deployment_consistent_within_limit :
    Consistent (sinceCleared ((deployment platform settings host).trace start (showcase true)))
      ((deployment platform settings host).run start (showcase true)).store :=
  (deployment_consistent_iff platform settings host start (showcase true)
    ⟨rfl, by decide⟩ ⟨trivial, trivial, trivial⟩).mpr (fun _ hop => showcase_settles hop)
    (showcase true) List.prefix_rfl

open Sample ControlPlane.Sample Deployment.Sample in
/-- **A rejected operation is settled**: beyond the rate limit the third act leaves the child
mandate with less than nothing reserved. -/
theorem overdrawn_beyond_limit :
    (((deployment platform settings host).run start (showcase false)).store.mandates.rows.map
      fun m => (m.reservedSpend, m.currentAggregateSpend)) =
        [(0, 0), (-200000, 200000), (0, 0)] := by
  decide +kernel

end MandatePlane.ShowcaseBooks
