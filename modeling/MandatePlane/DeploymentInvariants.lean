import MandatePlane.Deployment
import MandatePlane.SweepCompleteness

/-!
# Invariants of the deployment

What every step on the tables keeps, and the settlement of the third act too, holds in every state
of a run.  So no operation has two transactions, each transaction is of a dispatched operation, and
each operation is under a stored mandate, with registrations, benchmarks and resets anywhere
in the run.
-/

namespace MandatePlane.DeploymentInvariants

open DomainModel KeyedTable HoldLedger LabelledRun LedgerView HostEnvironment HandlerPostings
open MandateSteps ControlPlane AgentChat ActiveMandates TransactionLinks SweepCompleteness
open TransactionLookup AgentRunner AgentRoutes DemoRoutes Deployment

section Rules

variable {env : Platform} {settings : Settings} {host : Host} {P : Store → Call → Prop}
  {s s' : Store} {j : List JournalEntry}

/-- What steps keep, paths keep. -/
theorem Path.keeps {I : Store → Prop}
    (hstep : ∀ s j s', I s → TableStep env settings P s j s' → I s')
    (h : Path env settings P s j s') (hI : I s) : I s' := by
  induction h with
  | refl => exact hI
  | step _ hlast ih => exact hstep _ _ _ ih hlast

/-- **What steps and settlements keep, calls keep.** -/
theorem CallPath.keeps {I : Store → Prop}
    (hstep : ∀ s j s', I s → TableStep env settings P s j s' → I s')
    (hconverge : ∀ s op, I s → s.operations.find? op.id = some op → I (converge op s))
    (h : CallPath env settings P s j s') (hI : I s) : I s' := by
  cases h with
  | quiet h => exact Path.keeps hstep h hI
  | converging h hrow _ => exact hconverge _ _ (Path.keeps hstep h hI) hrow

/-- A step of which nothing more is known. -/
abbrev AnyStep (env : Platform) (settings : Settings) : Store → List JournalEntry → Store → Prop :=
  TableStep env settings fun _ _ => True

/-- Every call is steps of which nothing more is known. -/
theorem deploy_anyPath (env : Platform) (settings : Settings) (host : Host) (d : Dataset)
    (c : DeploymentCall) :
    CallPath env settings (fun _ _ => True) d.store (deploy env settings host d c).2
      (deploy env settings host d c).1.store :=
  deploy_path (fun _ _ _ => trivial) fun _ _ => trivial

/-- **What steps and settlements keep holds in every state of a run.** -/
theorem deployment_keeps {I : Store → Prop}
    (hstep : ∀ s j s', I s → AnyStep env settings s j s' → I s')
    (hconverge : ∀ s op, I s → s.operations.find? op.id = some op → I (converge op s))
    {d : Dataset} (hI : I d.store) (calls : List DeploymentCall) :
    I ((deployment env settings host).run d calls).store :=
  Machine.inv_run (P := fun _ _ => True) (I := fun d => I d.store)
    (fun d c hI _ => CallPath.keeps hstep hconverge (deploy_anyPath env settings host d c) hI) hI
    (Machine.along_of_forall fun _ _ _ => trivial)

end Rules

/-! ### Transactions and their operations -/

/-- Each operation has one transaction at most and is under a stored mandate. -/
structure Sound (s : Store) : Prop where
  oneLink : OneLink s
  attached : Attached (ledger s)

section Sound

variable {env : Platform} {settings : Settings} {host : Host} {s s' : Store}
  {j : List JournalEntry}

/-- A change that keeps the links and takes no operation back. -/
theorem OneLink.of_links (h : OneLink s) (hlinks : links s' = links s)
    (hpast : ∀ id, PastDispatch id (ledger s) → PastDispatch id (ledger s')) : OneLink s' := by
  refine ⟨?_, fun link hm => ?_⟩
  · rw [hlinks]
    exact h.single
  · rw [hlinks] at hm
    exact hpast link.1 (h.dispatched link hm)

/-- A ruled event keeps every hold with its account. -/
theorem attached_of_rule {L : Books} {e : Event} (ha : Attached L) (hr : EventRule L e) :
    Attached (eventBook.next L e) := by
  apply attached_enter ha (entry e)
  intro hold he
  cases e with
  | opened op =>
    cases he
    exact hr.2.2.2
  | issued _ => cases he
  | posted _ _ _ _ => cases he
  | credited _ _ => cases he
  | gatewayCall _ _ => cases he

/-- **A ruled log that keeps the links keeps the store sound.** -/
theorem Sound.of_explained {events : List Event} (h : Sound s) (he : Explained s events s')
    (hlinks : links s' = links s) : Sound s' := by
  refine ⟨OneLink.of_links h.oneLink hlinks fun id hpast => ?_, ?_⟩
  · rw [he.books]
    exact pastDispatch_run hpast (Machine.along_mono (fun _ _ hr => onward_of_rule hr) he.ruled)
  · rw [he.books]
    exact Machine.inv_run (fun _ _ ha hr => attached_of_rule ha hr) h.attached he.ruled

theorem sound_empty (hoperations : s.operations.rows = []) (htransactions : s.transactions = []) :
    Sound s :=
  ⟨(attached_and_oneLink_empty hoperations htransactions).2,
    (attached_and_oneLink_empty hoperations htransactions).1⟩

theorem Sound.of_ledger (h : Sound s) (hledger : ledger s' = ledger s)
    (hlinks : links s' = links s) : Sound s' := by
  refine ⟨OneLink.of_links h.oneLink hlinks fun id hpast => ?_, ?_⟩
  · rw [hledger]
    exact hpast
  · rw [hledger]
    exact h.attached

theorem processed_links {eventData eventType : JsonValue.Json} {done : Store × List Event}
    (h : Processed env eventData s eventType done) : links done.1 = links s := by
  cases h with
  | ignored => rfl
  | refunded _ _ _ _ _ => rfl
  | @captured eventType _ _ orderId _ op gatewayPaymentId _ _ _ _ _ _ =>
    exact capture_links op eventType orderId gatewayPaymentId s
  | @failed eventType _ _ orderId _ op errorMessage _ _ _ _ _ _ =>
    exact failPayment_links op eventType orderId errorMessage s

/-- **Every step keeps the store sound.** -/
theorem sound_step (h : Sound s) (hstep : AnyStep env settings s j s') : Sound s' := by
  cases hstep with
  | called c _ =>
    have hcall := answer_step env settings s c
    generalize answer env settings s c = done at hcall ⊢
    obtain ⟨s', events⟩ := done
    cases hcall with
    | control hcontrol =>
      exact ⟨oneLink_step hcontrol h.oneLink, attached_step hcontrol h.attached⟩
    | silent => exact h
    | reissued hinsert =>
      obtain ⟨hledger, hnone⟩ := ledger_insertMandate hinsert
      refine ⟨OneLink.of_links h.oneLink rfl fun id hpast => ?_, ?_⟩
      · rw [hledger]
        exact hpast
      · rw [hledger]
        exact attached_enter h.attached _ fun hold he => by cases he
  | captured hcaptured =>
    have hprocessed := processDomainWebhookEvent_spec hcaptured
    exact h.of_explained hprocessed.explained.1 (processed_links hprocessed)
  | enrolled principals agents _ => exact h.of_ledger rfl rfl
  | cleared inputs _ => exact sound_empty rfl rfl

/-- The settlement of the third act takes no operation back and keeps the links. -/
theorem sound_converge {op : FinancialOperation} (h : Sound s) : Sound (converge op s) := by
  have hledger : ledger (converge op s) = (ledger s).enter
      (.post op.id childMandateId .succeeded (-op.amount) op.amount) := by
    unfold converge
    rw [ledger_commitDispatched, ledger_moveTo]
    rfl
  refine ⟨OneLink.of_links h.oneLink rfl fun id hpast => ?_, ?_⟩
  · obtain ⟨hold, hfind, hphase⟩ := hpast
    have hpost := holds_enter_post (ledger s) op.id id childMandateId .succeeded (-op.amount)
      op.amount
    rw [hledger]
    by_cases hid : id = op.id
    · subst hid
      rw [if_pos rfl, hfind] at hpost
      refine ⟨_, hpost, fun hundispatched => ?_⟩
      rcases hundispatched with he | he <;> cases he
    · rw [if_neg hid, hfind] at hpost
      exact ⟨hold, hpost, hphase⟩
  · rw [hledger]
    exact attached_enter h.attached _ fun hold he => by cases he

/-- **Every state of a run is sound.** -/
theorem sound_run (env : Platform) (settings : Settings) (host : Host) {d : Dataset}
    (h : Sound d.store) (calls : List DeploymentCall) :
    Sound ((deployment env settings host).run d calls).store :=
  deployment_keeps (fun _ _ _ hI hstep => sound_step hI hstep) (fun _ _ hI _ => sound_converge hI)
    h calls

/-- The transactions of a sound store are of stored operations. -/
theorem stored_of_transaction (h : Sound s) {tx : Transaction} (htx : tx ∈ s.transactions) :
    ∃ op, s.operations.find? tx.operationId = some op := by
  obtain ⟨hold, hfind, -⟩ := h.oneLink.dispatched (linkOf tx) (List.mem_map_of_mem htx)
  rw [holds_find?] at hfind
  obtain ⟨op, hop, -⟩ := Option.map_eq_some_iff.mp hfind
  exact ⟨op, hop⟩

/-- Operation ids stay unique where the orders stay. -/
theorem operationIdsUnique_of_orders (h : OperationIdsUnique s) (horders : orders s' = orders s) :
    OperationIdsUnique s' := by
  rw [operationIdsUnique_iff] at h ⊢
  rwa [horders]

/-- **Every step keeps the operation ids unique.** -/
theorem operationIdsUnique_step (h : OperationIdsUnique s) (hstep : AnyStep env settings s j s') :
    OperationIdsUnique s' := by
  cases hstep with
  | called c _ =>
    have hcall := answer_step env settings s c
    generalize answer env settings s c = done at hcall ⊢
    obtain ⟨s', events⟩ := done
    cases hcall with
    | control hcontrol =>
      rcases hcontrol.orders_cases with horders | ⟨payload, _, inputs, _, _, _, -, hreq⟩
      · exact operationIdsUnique_of_orders h horders
      · obtain ⟨s₁, hinserted⟩ := hreq.inserted
        have hnew := (Store.insertOperation_eq_some_iff.mp hinserted).1
        rw [operationIdsUnique_iff] at h ⊢
        obtain ⟨-, hrows⟩ := Table.insert_eq_some_iff.mp hreq.ordered
        rw [hrows, List.map_append, List.nodup_append]
        refine ⟨h, List.nodup_singleton _, fun id hid id' hid' heq => ?_⟩
        obtain ⟨order, horder, rfl⟩ := List.mem_map.mp hid
        obtain ⟨old, hold, rfl⟩ := List.mem_map.mp horder
        rw [List.map_singleton, List.mem_singleton] at hid'
        exact (hnew old hold).1 (heq.trans hid')
    | silent => exact h
    | reissued _ => exact h
  | captured hcaptured =>
    exact operationIdsUnique_of_orders h (processDomainWebhookEvent_spec hcaptured).explained.2
  | enrolled principals agents _ => exact h
  | cleared inputs _ => exact List.nodup_nil

theorem orders_converge (op : FinancialOperation) (s : Store) :
    orders (converge op s) = orders s := by
  unfold converge
  rw [orders_updateMandate, orders_moveTo]

/-- In every state of a run the operation ids are unique. -/
theorem operationIdsUnique_run (env : Platform) (settings : Settings) (host : Host) {d : Dataset}
    (h : OperationIdsUnique d.store) (calls : List DeploymentCall) :
    OperationIdsUnique ((deployment env settings host).run d calls).store :=
  deployment_keeps (fun _ _ _ hI hstep => operationIdsUnique_step hI hstep)
    (fun s op hI _ => operationIdsUnique_of_orders hI (orders_converge op s)) h calls

end Sound

end MandatePlane.DeploymentInvariants
