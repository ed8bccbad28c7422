import MandatePlane.LedgerView
import MandatePlane.MandateRoutes
import MandatePlane.Worklist

/-!
# What the mandate and agent endpoints change

Issuing and delegating open one account; the status endpoints open none.  None of
them touches an operation, a transaction or a counter of an existing mandate other
than the parent's allocation.

The cascade is followed through its loop: the ids it has visited have the target
status, every child of a visited id is visited or queued, and nothing else changed.
-/

namespace MandatePlane.MandateSteps

open DomainModel KeyedTable HoldLedger LedgerView HostEnvironment MandateRoutes PolicyEngine

/-! ### New mandates -/

/-- An inserted mandate is a new account. -/
theorem ledger_insertMandate {s : Store} {mandates : Table Mandate} {m : Mandate}
    (h : s.mandates.insert m = some mandates) :
    ledger { s with mandates } = (ledger s).enter (.account (mandateAccount m)) ∧
      (ledger s).accounts.find? m.id = none := by
  have hview := Table.mapRows_insert key_mandateAccount h
  constructor
  · simp only [ledger, Ledger.enter, hview, Option.getD_some]
  · have hn : s.mandates.find? m.id = none := (Table.insert_eq_some_iff.mp h).1
    rw [accounts_find?, hn]
    rfl

/-- **`POST /mandates`.** -/
theorem createMandate_spec {env : Platform} {payload : MandateCreate} {id : String}
    {now : DateTime} {s : Store} {c : Committed Mandate}
    (h : createMandate env payload id now s = .ok c) :
    ∃ agent mandates, s.mandates.insert (rootMandate env payload agent id now) = some mandates ∧
      c.store = { s with mandates }.audit
        (createdAudit payload (rootMandate env payload agent id now)) ∧
      c.events = [.issued (rootMandate env payload agent id now)] := by
  obtain ⟨found, -, h⟩ := bind_eq_ok.mp h
  obtain ⟨agent, -, h⟩ := bind_eq_ok.mp h
  obtain ⟨_, -, h⟩ := bind_eq_ok.mp h
  obtain ⟨mandates, hinsert, h⟩ := bind_eq_ok.mp h
  rw [orRefuse_eq_ok] at hinsert
  cases h
  exact ⟨agent, mandates, hinsert, rfl, rfl⟩

/-- What a parent must satisfy for a delegation to be accepted. -/
theorem validateDelegationInvariants_eq_ok {env : Platform} {parent : Mandate}
    {payload : MandateDelegateRequest} {currency : String}
    (h : validateDelegationInvariants env parent payload = .ok currency) :
    currency = env.upper (textOr payload.currency parent.currency) ∧
      parent.delegationDepth < parent.maxDelegationDepth ∧ currency = env.upper parent.currency ∧
      payload.maxAmountPerOp ≤ parent.maxAmountPerOp ∧
      (parent.allowedOperations = [] ∨
        ∀ opType ∈ payload.allowedOperations, opType ∈ parent.allowedOperations) ∧
      (assumeUtc payload.validUntil).instant ≤ (assumeUtc parent.validUntil).instant ∧
      payload.aggregateSpendLimit ≤ parentAvailable parent := by
  simp only [validateDelegationInvariants] at h
  split at h
  · cases h
  · rename_i hdepth
    split at h
    · cases h
    · rename_i hcurrency
      split at h
      · cases h
      · rename_i hmax
        split at h
        · cases h
        · rename_i hallowed
          split at h
          · cases h
          · rename_i huntil
            split at h
            · cases h
            · rename_i hlimit
              cases h
              refine ⟨rfl, not_le.mp hdepth, not_not.mp hcurrency, not_lt.mp hmax, ?_,
                not_lt.mp huntil, not_lt.mp hlimit⟩
              rw [not_and_or, not_not] at hallowed
              refine hallowed.imp id fun hnone opType hm => ?_
              rw [Option.not_isSome_iff_eq_none, List.find?_eq_none] at hnone
              simpa using hnone opType hm

/-- **`POST /mandates/{parent_id}/delegate`.** -/
theorem delegateChildMandate_spec {env : Platform} {parentId : String}
    {payload : MandateDelegateRequest} {id : String} {now : DateTime} {s : Store}
    {c : Committed Mandate} (h : delegateChildMandate env parentId payload id now s = .ok c) :
    ∃ parent currency mandates, s.mandates.find? parentId = some parent ∧
      parent.status = .active ∧
      (∃ agent, s.agents.find? payload.targetAgentId = some agent) ∧
      validateDelegationInvariants env parent payload = .ok currency ∧
      (s.mandates.modify parentId (allocate payload.aggregateSpendLimit)).insert
        (childMandate payload parent currency id now) = some mandates ∧
      c.store = { s with mandates }.audit
        (delegatedAudit parent (childMandate payload parent currency id now)) ∧
      c.events = [.issued (childMandate payload parent currency id now)] := by
  obtain ⟨parent, hparent, h⟩ := bind_eq_ok.mp h
  obtain ⟨_, hactive, h⟩ := bind_eq_ok.mp h
  obtain ⟨agent, hagent, h⟩ := bind_eq_ok.mp h
  obtain ⟨currency, hvalid, h⟩ := bind_eq_ok.mp h
  obtain ⟨mandates, hinsert, h⟩ := bind_eq_ok.mp h
  rw [orRefuse_eq_ok] at hparent hagent hinsert
  rw [ensure_eq_ok, decide_eq_true_eq] at hactive
  cases h
  exact ⟨parent, currency, mandates, hparent, hactive, ⟨agent, hagent⟩, hvalid, hinsert, rfl, rfl⟩

/-! ### The cascade -/

/-- A write that leaves id, limit and counters of a mandate alone. -/
theorem ledger_updateMandate_of_eq {s : Store} {id : String} {f : Mandate → Mandate}
    {hf : ∀ m, Keyed.key (f m) = Keyed.key m} (h : ∀ m, mandateAccount (f m) = mandateAccount m) :
    ledger (s.updateMandate id f hf) = ledger s := by
  unfold ledger Store.updateMandate
  congr 1
  exact Table.mapRows_modify_of_eq key_mandateAccount _ _ _ hf h

/-- What a status endpoint may change: mandates, and those only outside their counters and
allotments. -/
structure StatusOnly (s s' : Store) : Prop where
  books : ledger s' = ledger s
  allotments : allotments s' = allotments s
  operations : s'.operations = s.operations
  transactions : s'.transactions = s.transactions
  agents : s'.agents = s.agents

theorem StatusOnly.refl (s : Store) : StatusOnly s s := ⟨rfl, rfl, rfl, rfl, rfl⟩

theorem StatusOnly.trans {s s' s'' : Store} (h : StatusOnly s s') (h' : StatusOnly s' s'') :
    StatusOnly s s'' :=
  ⟨h'.books.trans h.books, h'.allotments.trans h.allotments, h'.operations.trans h.operations,
    h'.transactions.trans h.transactions, h'.agents.trans h.agents⟩

theorem StatusOnly.terms {s s' : Store} (h : StatusOnly s s') :
    LedgerView.terms s' = LedgerView.terms s := terms_of_allotments h.allotments

theorem cascadeOne_statusOnly (rootId : String) (status : MandateStatus) (reason currId : String)
    (s : Store) : StatusOnly s (cascadeOne rootId status reason currId s) := by
  unfold cascadeOne
  split
  · exact .refl s
  · refine ⟨?_, ?_, rfl, rfl, rfl⟩
    · rw [ledger_audit]
      exact ledger_updateMandate_of_eq fun _ => rfl
    · show allotments (s.updateMandate currId (withStatus status reason)) = allotments s
      exact allotments_columns s fun _ => rfl

theorem reactivated_statusOnly (s : Store) (id : String) :
    StatusOnly s (s.updateMandate id reactivated) :=
  ⟨ledger_updateMandate_of_eq fun _ => rfl, allotments_columns s fun _ => rfl, rfl, rfl, rfl⟩

/-- The children of a mandate are the same in the terms. -/
theorem childIds_terms (s : Store) (id : String) :
    childIds (terms s) id = childIds s.mandates id := by
  simp only [childIds, terms, Table.mapRows, List.filter_map, List.map_map]
  rfl

/-- How far a cascade has come: the visited mandates have the status, the others are as before. -/
structure Marked (status : MandateStatus) (s₀ : Store) (visited : List String) (s : Store) :
    Prop where
  marked : ∀ id ∈ visited, ∀ m, s.mandates.find? id = some m → m.status = status
  untouched : ∀ id, id ∉ visited → s.mandates.find? id = s₀.mandates.find? id
  only : StatusOnly s₀ s

theorem Marked.refl (status : MandateStatus) (s : Store) : Marked status s [] s :=
  ⟨fun _ h => absurd h List.not_mem_nil, fun _ _ => rfl, .refl s⟩

theorem cascadeOne_find? (rootId : String) (status : MandateStatus) (reason currId id : String)
    (s : Store) : (cascadeOne rootId status reason currId s).mandates.find? id =
      if id = currId then (s.mandates.find? currId).map (withStatus status reason)
      else s.mandates.find? id := by
  unfold cascadeOne
  split
  · rename_i hnone
    split
    · rename_i hid
      rw [hid, hnone]
      rfl
    · rfl
  · show (s.mandates.modify currId (withStatus status reason)).find? id = _
    exact Table.find?_modify _ _ _ _ _

/-- One round marks one more mandate. -/
theorem Marked.one {status : MandateStatus} {s₀ s : Store} {visited : List String}
    (h : Marked status s₀ visited s) (rootId reason currId : String) :
    Marked status s₀ (currId :: visited) (cascadeOne rootId status reason currId s) := by
  refine ⟨fun id hid m hm => ?_, fun id hid => ?_, h.only.trans (cascadeOne_statusOnly _ _ _ _ s)⟩
  · rw [cascadeOne_find?] at hm
    split at hm
    · obtain ⟨m₀, -, rfl⟩ := Option.map_eq_some_iff.mp hm
      rfl
    · rename_i hne
      exact h.marked id ((List.mem_cons.mp hid).resolve_left hne) m hm
  · have hne : id ≠ currId := by
      rintro rfl
      exact hid List.mem_cons_self
    rw [cascadeOne_find?, if_neg hne]
    exact h.untouched id fun hm => hid (List.mem_cons_of_mem _ hm)

/-- **The loop is a worklist over the children.**  It returns when the worklist drains, and keeps
what every round keeps. -/
theorem cascadeLoop_along {rootId reason : String} {status : MandateStatus}
    {I : List String → Store → Prop} {s₀ : Store}
    (hone : ∀ visited s currId, I visited s →
      I (currId :: visited) (cascadeOne rootId status reason currId s))
    {fuel : ℕ} {queue visited : List String} {s : Store} (hterms : terms s = terms s₀)
    (h : I visited s) :
    (Worklist.drain (childIds s₀.mandates) fuel queue visited = none ∧
        cascadeLoop rootId status reason fuel queue visited s = none) ∨
      ∃ out s', Worklist.drain (childIds s₀.mandates) fuel queue visited = some out ∧
        cascadeLoop rootId status reason fuel queue visited s = some s' ∧ I out s' := by
  induction fuel generalizing queue visited s with
  | zero =>
    cases queue with
    | nil => exact .inr ⟨visited, s, rfl, rfl, h⟩
    | cons currId queue => exact .inl ⟨rfl, rfl⟩
  | succ fuel ih =>
    cases queue with
    | nil => exact .inr ⟨visited, s, rfl, rfl, h⟩
    | cons currId queue =>
      have hnext : terms (cascadeOne rootId status reason currId s) = terms s₀ :=
        (cascadeOne_statusOnly rootId status reason currId s).terms.trans hterms
      have hchildren : childIds (cascadeOne rootId status reason currId s).mandates currId =
          childIds s₀.mandates currId := by
        rw [← childIds_terms, hnext, childIds_terms]
      rw [Worklist.drain, cascadeLoop, hchildren]
      exact ih hnext (hone visited s currId h)

/-- **A cascade marks what its worklist visits.** -/
theorem cascadeLoop_drain {rootId reason : String} {status : MandateStatus} {fuel : ℕ}
    {queue visited : List String} {s₀ s : Store} (h : Marked status s₀ visited s) :
    (Worklist.drain (childIds s₀.mandates) fuel queue visited = none ∧
        cascadeLoop rootId status reason fuel queue visited s = none) ∨
      ∃ out s', Worklist.drain (childIds s₀.mandates) fuel queue visited = some out ∧
        cascadeLoop rootId status reason fuel queue visited s = some s' ∧
        Marked status s₀ out s' :=
  cascadeLoop_along (fun _ _ currId h => h.one rootId reason currId) h.only.terms h

/-- The children of a mandate. -/
theorem mem_childIds {mandates : Table Mandate} {id c : String} :
    c ∈ childIds mandates id ↔ ∃ m ∈ mandates.rows, m.parentMandateId = some id ∧ m.id = c := by
  simp only [childIds, List.mem_map, List.mem_filter, decide_eq_true_eq]
  constructor
  · rintro ⟨m, ⟨hm, hparent⟩, hid⟩
    exact ⟨m, hm, hparent, hid⟩
  · rintro ⟨m, hm, hparent, hid⟩
    exact ⟨m, ⟨hm, hparent⟩, hid⟩

/-- The mandates of a store form a forest. -/
theorem forest_childIds (mandates : Table Mandate) :
    Worklist.Forest (childIds mandates) (mandates.rows.map Mandate.id) := by
  refine ⟨fun k k' c hk hk' => ?_, fun k => ?_, fun k c hk => ?_⟩
  · obtain ⟨m, hm, hparent, hid⟩ := mem_childIds.mp hk
    obtain ⟨m', hm', hparent', hid'⟩ := mem_childIds.mp hk'
    have hsame : m = m' := Table.eq_of_key_eq hm hm' (hid.trans hid'.symm)
    rw [hsame, hparent'] at hparent
    exact (Option.some.inj hparent).symm
  · exact (List.Sublist.map _ List.filter_sublist).nodup mandates.nodup
  · obtain ⟨m, hm, -, hid⟩ := mem_childIds.mp hk
    exact hid ▸ List.mem_map_of_mem hm

/-- A cascade that went all the way and no further: it marked the root, with every mandate its
children, and nothing else. -/
structure Cascaded (status : MandateStatus) (rootId : String) (s s' : Store) (visited : List String) :
    Prop extends Marked status s visited s' where
  found : ∃ m, s.mandates.find? rootId = some m
  root : rootId ∈ visited
  closed : ∀ id ∈ visited, ∀ c ∈ childIds s.mandates id, c ∈ visited
  below : ∀ id ∈ visited,
    Relation.ReflTransGen (fun a b => b ∈ childIds s.mandates a) rootId id

/-- **A cascade from a stored mandate returns** and goes all the way. -/
theorem cascadeMandateStatus_spec {rootId : String} {status : MandateStatus} {s : Store}
    {m : Mandate} (hroot : s.mandates.find? rootId = some m) (reason : String) :
    ∃ visited s', cascadeMandateStatus rootId status reason s = some s' ∧
      Cascaded status rootId s s' visited := by
  obtain ⟨hm, hid⟩ := Table.find?_eq_some_iff.mp hroot
  have hmem : rootId ∈ s.mandates.rows.map Mandate.id :=
    List.mem_map.mpr ⟨m, hm, hid⟩
  have hfuel : (s.mandates.rows.map Mandate.id).length ≤ s.mandates.rows.length + 1 := by
    rw [List.length_map]
    omega
  obtain ⟨out, hout, -⟩ := Worklist.drain_root_returns (forest_childIds s.mandates) hmem hfuel
  rcases @cascadeLoop_drain rootId reason status (s.mandates.rows.length + 1) [rootId] [] s s
    (.refl status s) with ⟨hnone, -⟩ | ⟨out', s', hout', hs', hmarked⟩
  · rw [hout] at hnone
    cases hnone
  · rw [hout] at hout'
    cases hout'
    obtain ⟨-, -, hclosed⟩ := Worklist.drain_closed hout fun _ h => absurd h List.not_mem_nil
    exact ⟨out, s', hs', hmarked, ⟨m, hroot⟩, (Worklist.mem_drain_root hout).mpr .refl, hclosed,
      fun id hid => (Worklist.mem_drain_root hout).mp hid⟩

/-- **`POST /mandates/{mandate_id}/suspend` and `/revoke`** return for every stored mandate, after a
cascade that went all the way. -/
theorem changeStatusCascade_spec {status : MandateStatus} {defaultReason mandateId : String}
    {reason : Option String} {s : Store} {m : Mandate}
    (hfind : s.mandates.find? mandateId = some m) :
    ∃ c visited, changeStatusCascade status defaultReason mandateId reason s = .ok c ∧
      c.events = [] ∧ Cascaded status mandateId s c.store visited := by
  obtain ⟨visited, s', hs', hcascaded⟩ :=
    cascadeMandateStatus_spec hfind (textOr reason defaultReason)
  refine ⟨⟨(s'.mandates.find? mandateId).getD m, s', []⟩, visited, ?_, rfl, hcascaded⟩
  rw [changeStatusCascade, hfind]
  show (orRefuse (cascadeMandateStatus m.id status (textOr reason defaultReason) s) .noReturn >>= _) = _
  rw [show m.id = mandateId from Table.key_of_find? hfind, hs']
  rfl

/-- A status call that returned found its mandate. -/
theorem changeStatusCascade_eq_ok {status : MandateStatus} {defaultReason mandateId : String}
    {reason : Option String} {s : Store} {c : Committed Mandate}
    (h : changeStatusCascade status defaultReason mandateId reason s = .ok c) :
    c.events = [] ∧ ∃ visited, Cascaded status mandateId s c.store visited := by
  obtain ⟨m, hm, -⟩ := bind_eq_ok.mp h
  rw [orRefuse_eq_ok] at hm
  obtain ⟨c', visited, hc', hevents, hcascaded⟩ :=
    @changeStatusCascade_spec status defaultReason mandateId reason s m hm
  rw [h] at hc'
  cases hc'
  exact ⟨hevents, visited, hcascaded⟩

end MandatePlane.MandateSteps
