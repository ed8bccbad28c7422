import MandatePlane.CascadeCorrectness
import MandatePlane.HandlerCongruence

/-!
# Revoking before or after a payment settles

A cascade stamps the mandates below its root.  Which they are depends on the parent
pointers, and what it writes to them lies beside the counters; a delivery reads and
writes the counters, the operations and the transactions.  So the two can be taken in
either order: the same tables are left, the audit trail aside, and the delivery settles
what it would have settled.
-/

namespace MandatePlane.RevocationCommutation

open DomainModel KeyedTable LabelledRun LedgerView HostEnvironment MandateRoutes MandateSteps
open ControlPlane WebhookRoutes Lockstep HandlerCongruence CascadeCorrectness

/-- What a cascade over the ids of a list writes to a mandate. -/
def stamp (status : MandateStatus) (reason : String) (ids : List String) (m : Mandate) : Mandate :=
  if m.id ∈ ids then withStatus status reason m else m

/-- Everything but the audit trail. -/
def tables (s : Store) : Store := { s with auditEvents := [] }

theorem tables_eq_iff {s s' : Store} :
    tables s' = tables s ↔ s'.mandates = s.mandates ∧ s'.operations = s.operations ∧
      s'.transactions = s.transactions ∧ aside s' = aside s := by
  cases s
  cases s'
  simp only [tables, aside, Store.mk.injEq, Prod.mk.injEq]
  tauto

section Stamp

variable {status : MandateStatus} {reason : String} {ids : List String}

theorem stamp_id (m : Mandate) : (stamp status reason ids m).id = m.id := by
  unfold stamp
  split <;> rfl

/-- Stamping lies beside the counters. -/
theorem counterRelation_stamp :
    CounterRelation fun m m' => m' = stamp status reason ids m := by
  refine ⟨?_, ?_, ?_, ?_⟩
  · rintro m _ rfl
    exact stamp_id m
  · rintro m _ rfl
    unfold stamp
    split <;> rfl
  · rintro m _ rfl
    unfold stamp
    split <;> rfl
  · rintro m _ committed reserved rfl
    unfold stamp
    by_cases hid : m.id ∈ ids
    · rw [if_pos hid, if_pos hid]
      rfl
    · rw [if_neg hid, if_neg hid]

end Stamp

/-- The store after a cascade over the ids of a list. -/
def stampedAll (status : MandateStatus) (reason : String) (ids : List String) (s : Store) : Store :=
  { s with mandates := s.mandates.mapRows (stamp status reason ids) stamp_id }

variable {status : MandateStatus} {reason rootId : String} {ids : List String} {s s' : Store}

theorem stampedAll_nil : stampedAll status reason [] s = s := by
  have hnone : s.mandates.mapRows (stamp status reason []) stamp_id = s.mandates := by
    apply Table.ext
    exact List.map_id'' (fun m => if_neg List.not_mem_nil) _
  rw [stampedAll, hnone]

theorem corresponds_iff_tables :
    Corresponds (fun m m' => m' = stamp status reason ids m) Eq s s' ↔
      tables s' = tables (stampedAll status reason ids s) := by
  have hrows : List.Forall₂ (fun m m' => m' = stamp status reason ids m) s.mandates.rows
      s'.mandates.rows ↔ s'.mandates = (stampedAll status reason ids s).mandates := by
    have hview : List.Forall₂ (fun m m' => m' = stamp status reason ids m) s.mandates.rows
        s'.mandates.rows ↔
          List.Forall₂ Eq s'.mandates.rows (s.mandates.rows.map (stamp status reason ids)) := by
      rw [List.forall₂_map_right_iff]
      exact ⟨List.Forall₂.flip, List.Forall₂.flip⟩
    rw [hview, List.forall₂_eq_eq_eq]
    exact ⟨fun h => Table.ext h, congrArg Table.rows⟩
  rw [tables_eq_iff]
  constructor
  · intro h
    exact ⟨hrows.mp h.mandates, h.operations, h.transactions, h.rest.symm⟩
  · rintro ⟨hmandates, hoperations, htransactions, haside⟩
    exact ⟨hoperations, htransactions, hrows.mpr hmandates, haside.symm⟩

/-! ### The cascade -/

theorem cascadeOne_tables (rootId currId : String) (s : Store) :
    tables (cascadeOne rootId status reason currId s) =
      tables (s.updateMandate currId (withStatus status reason)) := by
  unfold cascadeOne
  cases h : s.mandates.find? currId with
  | none =>
    have hsame : s.mandates.modify currId (withStatus status reason) = s.mandates :=
      Table.modify_of_find?_none _ _ h
    simp [tables, Store.updateMandate, hsame]
  | some m => rfl

/-- One more id. -/
theorem stamp_cons {currId : String} (hnew : currId ∉ ids) :
    (s.mandates.mapRows (stamp status reason ids) stamp_id).modify currId
        (withStatus status reason) =
      s.mandates.mapRows (stamp status reason (currId :: ids)) stamp_id := by
  apply Table.ext
  simp only [Table.modify, Table.mapRows, List.map_map]
  apply List.map_congr_left
  intro m _
  show (if (stamp status reason ids m).id = currId then _ else _) = stamp status reason _ m
  rw [stamp_id]
  unfold stamp
  by_cases hid : m.id = currId
  · have hold : m.id ∉ ids := hid ▸ hnew
    simp [hid, hnew]
  · simp [hid]

/-- **What a cascade leaves depends on the parent pointers only**, as to the mandates it stamps. -/
theorem cascade_stamps (rootId : String) (status : MandateStatus) (reason : String) {root : Mandate}
    (hroot : s.mandates.find? rootId = some root) :
    ∃ ids, ∀ s₁, terms s₁ = terms s → ∃ s₂, cascadeMandateStatus rootId status reason s₁ = some s₂ ∧
      tables s₂ = tables (stampedAll status reason ids s₁) := by
  obtain ⟨out, hout, hnodup⟩ := exists_drained hroot
  refine ⟨out, fun s₁ hterms => ?_⟩
  have hchildren : childIds s₁.mandates = childIds s.mandates := by
    funext id
    rw [← childIds_terms, hterms, childIds_terms]
  have hlength : s₁.mandates.rows.length = s.mandates.rows.length := by
    have hlen := congrArg (fun t : Table Mandate => t.rows.length) hterms
    simpa [terms, Table.mapRows] using hlen
  rw [← hchildren, ← hlength] at hout
  refine cascadeLoop_inv (I := fun ids t => tables t = tables (stampedAll status reason ids s₁))
    (fun visited t currId h hnew => ?_) rfl ?_ hout hnodup
  · obtain ⟨hmandates, hoperations, htransactions, haside⟩ := tables_eq_iff.mp h
    rw [cascadeOne_tables, tables_eq_iff]
    refine ⟨?_, hoperations, htransactions, haside⟩
    show t.mandates.modify currId (withStatus status reason) = _
    rw [hmandates]
    exact stamp_cons hnew
  · rw [stampedAll_nil]

/-- A cascade endpoint stamps the same mandates in every store with the same terms; none, where the
mandate it names is not there. -/
theorem changeStatus_stamps (status : MandateStatus) (defaultReason mandateId : String)
    (reason : Option String) (s : Store) :
    ∃ ids, ∀ s₁, terms s₁ = terms s →
      tables (outcome s₁ (changeStatusCascade status defaultReason mandateId reason s₁)).1 =
        tables (stampedAll status (textOr reason defaultReason) ids s₁) := by
  have hfind : ∀ s₁, terms s₁ = terms s → (s₁.mandates.find? mandateId).map termsOf =
      (s.mandates.find? mandateId).map termsOf := by
    intro s₁ hterms
    rw [← terms_find?, ← terms_find?, hterms]
  cases hroot : s.mandates.find? mandateId with
  | none =>
    refine ⟨[], fun s₁ hterms => ?_⟩
    have hnone := hfind s₁ hterms
    rw [hroot, Option.map_none, Option.map_eq_none_iff] at hnone
    rw [changeStatusCascade, hnone, stampedAll_nil]
    rfl
  | some root =>
    obtain ⟨ids, hids⟩ := cascade_stamps mandateId status (textOr reason defaultReason) hroot
    refine ⟨ids, fun s₁ hterms => ?_⟩
    have hsome := hfind s₁ hterms
    rw [hroot, Option.map_some] at hsome
    obtain ⟨root₁, hroot₁, -⟩ := Option.map_eq_some_iff.mp hsome
    have hkey : root₁.id = mandateId := Table.key_of_find? hroot₁
    obtain ⟨s₂, hs₂, htables⟩ := hids s₁ hterms
    rw [← htables]
    rw [← hkey] at hs₂
    rw [changeStatusCascade, hroot₁]
    show tables (outcome s₁ ((orRefuse (cascadeMandateStatus root₁.id status
      (textOr reason defaultReason) s₁) .noReturn) >>= _)).1 = _
    rw [hs₂]
    rfl

/-! ### The delivery -/

section Delivery

variable {env : Platform} {settings : Settings} {delivery : WebhookDelivery}

theorem terms_delivered :
    terms ((controlPlane env settings).next s (.webhook delivery)) = terms s := by
  rcases (perform_step env settings s (.webhook delivery)).allotments_cases with
    hsame | ⟨_, _, _, _, hother, _⟩ | ⟨_, _, _, _, _, _, hother, _⟩
  · exact terms_of_allotments hsame
  · cases hother
  · cases hother

/-- **A delivery after a cascade** does to the stamped store what it does to the store. -/
theorem delivered_stamped (h : tables s' = tables (stampedAll status reason ids s)) :
    tables ((controlPlane env settings).next s' (.webhook delivery)) =
        tables (stampedAll status reason ids
          ((controlPlane env settings).next s (.webhook delivery))) ∧
      (controlPlane env settings).log s' (.webhook delivery) =
        (controlPlane env settings).log s (.webhook delivery) := by
  have hrelation : CounterRelation fun m m' => m' = stamp status reason ids m :=
    counterRelation_stamp
  have hstep := @handle_congr _ env s s' hrelation (corresponds_iff_tables.mpr h) settings delivery
  show tables (outcome s' (handleRazorpayWebhook env settings delivery s')).1 =
      tables (stampedAll status reason ids
        (outcome s (handleRazorpayWebhook env settings delivery s)).1) ∧
    (outcome s' (handleRazorpayWebhook env settings delivery s')).2 =
      (outcome s (handleRazorpayWebhook env settings delivery s)).2
  generalize handleRazorpayWebhook env settings delivery s = x at hstep ⊢
  generalize handleRazorpayWebhook env settings delivery s' = x' at hstep ⊢
  cases hstep with
  | failed e => exact ⟨h, rfl⟩
  | returned hcommit =>
    obtain ⟨hstore, hevents, -⟩ := hcommit
    exact ⟨corresponds_iff_tables.mp hstore, hevents⟩

end Delivery

/-- A delivery and a cascade leave the same tables in either order, and the delivery observes the
same: it settles what it would have settled. -/
structure Commutes (env : Platform) (settings : Settings) (s : Store) (delivery : WebhookDelivery)
    (cascade : Action) : Prop where
  tables : tables ((controlPlane env settings).run s [.webhook delivery, cascade]) =
    tables ((controlPlane env settings).run s [cascade, .webhook delivery])
  settles : (controlPlane env settings).log ((controlPlane env settings).next s cascade)
      (.webhook delivery) = (controlPlane env settings).log s (.webhook delivery)

/-- The cascade endpoints, which differ in the status they write. -/
theorem commutes_of_stamps {env : Platform} {settings : Settings} {delivery : WebhookDelivery}
    {cascade : Action}
    (h : ∃ ids, ∀ s₁, terms s₁ = terms s → RevocationCommutation.tables
      ((controlPlane env settings).next s₁ cascade) =
        RevocationCommutation.tables (stampedAll status reason ids s₁)) :
    Commutes env settings s delivery cascade := by
  obtain ⟨ids, hids⟩ := h
  obtain ⟨hdelivered, hlog⟩ := @delivered_stamped _ _ ids s _ env settings delivery (hids s rfl)
  refine ⟨?_, hlog⟩
  show RevocationCommutation.tables ((controlPlane env settings).next
    ((controlPlane env settings).next s (.webhook delivery)) cascade) =
      RevocationCommutation.tables ((controlPlane env settings).next
        ((controlPlane env settings).next s cascade) (.webhook delivery))
  rw [hdelivered, hids _ terms_delivered]

/-- **Settlement commutes with revocation.**  In every state, for every delivery and every suspension
or revocation of any mandate: taken in either order they leave the same mandates, operations,
transactions and records, and the delivery settles the same after the cascade as before. -/
theorem settlement_commutes (env : Platform) (settings : Settings) (s : Store)
    (delivery : WebhookDelivery) (mandateId : String) (reason : Option String) :
    Commutes env settings s delivery (.suspend mandateId reason) ∧
      Commutes env settings s delivery (.revoke mandateId reason) :=
  ⟨commutes_of_stamps (changeStatus_stamps .suspended "Parent mandate suspended" mandateId reason s),
    commutes_of_stamps
      (changeStatus_stamps .revoked "Parent mandate permanently revoked" mandateId reason s)⟩

end MandatePlane.RevocationCommutation
