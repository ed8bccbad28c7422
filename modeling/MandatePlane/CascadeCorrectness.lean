import MandatePlane.ControlPlane

/-!
# The cascade reaches the descendants, each once

The loop takes an id from the queue without asking whether it was visited before.  It need
not ask: a mandate has one parent, so it is queued once, when that parent is visited; and
the parent of the start mandate, should it lie below it, finds the start visited already.
So the visited ids are pairwise different, and each round stamps a mandate that still is as
it was at the start.
-/

namespace MandatePlane.CascadeCorrectness

open DomainModel KeyedTable MandateRoutes MandateSteps

/-- The mandate with id `id` is the start mandate or one of its descendants. -/
def Descends (mandates : Table Mandate) (rootId id : String) : Prop :=
  Relation.ReflTransGen
    (fun a b => ∃ m ∈ mandates.rows, m.parentMandateId = some a ∧ m.id = b) rootId id

theorem descends_iff {mandates : Table Mandate} {rootId id : String} :
    Descends mandates rootId id ↔
      Relation.ReflTransGen (fun a b => b ∈ childIds mandates a) rootId id := by
  have hstep : (fun a b => b ∈ childIds mandates a) =
      fun a b => ∃ m ∈ mandates.rows, m.parentMandateId = some a ∧ m.id = b := by
    funext a b
    exact propext mem_childIds
  rw [Descends, hstep]

/-- The audit records of a cascade that stamped the mandates of a list, in this order. -/
def cascadeAudits (rootId : String) (status : MandateStatus) (reason : String) (s : Store)
    (ids : List String) : List AuditEvent :=
  ids.filterMap fun id => (s.mandates.find? id).map (cascadeAudit rootId status reason)

/-- How far a cascade has come: every visited mandate was stamped once and recorded once. -/
structure Stamped (rootId : String) (status : MandateStatus) (reason : String) (s₀ : Store)
    (visited : List String) (s : Store) : Prop where
  mandates : ∀ id, s.mandates.find? id =
    if id ∈ visited then (s₀.mandates.find? id).map (withStatus status reason)
    else s₀.mandates.find? id
  audits : s.auditEvents = s₀.auditEvents ++ cascadeAudits rootId status reason s₀ visited.reverse
  only : StatusOnly s₀ s

variable {rootId reason : String} {status : MandateStatus} {s₀ s : Store} {visited : List String}

theorem Stamped.refl : Stamped rootId status reason s [] s :=
  ⟨fun _ => (if_neg List.not_mem_nil).symm, (List.append_nil _).symm, .refl s⟩

theorem cascadeOne_audits (rootId : String) (status : MandateStatus) (reason currId : String)
    (s : Store) : (cascadeOne rootId status reason currId s).auditEvents =
      s.auditEvents ++ cascadeAudits rootId status reason s [currId] := by
  unfold cascadeOne cascadeAudits
  cases h : s.mandates.find? currId with
  | none => simp [h]
  | some m => simp [h, Store.audit, Store.updateMandate]

/-- A round on an id that was not visited before. -/
theorem Stamped.one (h : Stamped rootId status reason s₀ visited s) {currId : String}
    (hnew : currId ∉ visited) :
    Stamped rootId status reason s₀ (currId :: visited)
      (cascadeOne rootId status reason currId s) := by
  have hcurr : s.mandates.find? currId = s₀.mandates.find? currId := by
    rw [h.mandates, if_neg hnew]
  refine ⟨fun id => ?_, ?_, h.only.trans (cascadeOne_statusOnly _ _ _ _ s)⟩
  · rw [cascadeOne_find?]
    by_cases hid : id = currId
    · rw [if_pos hid, hid, if_pos List.mem_cons_self, hcurr]
    · have hmem : id ∈ currId :: visited ↔ id ∈ visited := by simp [hid]
      rw [if_neg hid, h.mandates]
      simp only [hmem]
  · rw [cascadeOne_audits, h.audits, List.append_assoc, List.reverse_cons]
    simp only [cascadeAudits, List.filterMap_append, hcurr, List.filterMap_cons, List.filterMap_nil]

/-- **The loop.**  Where the worklist drains to pairwise different ids, the cascade returns and has
taken them in that order, each for the first time. -/
theorem cascadeLoop_inv {I : List String → Store → Prop}
    (hone : ∀ visited s currId, I visited s → currId ∉ visited →
      I (currId :: visited) (cascadeOne rootId status reason currId s))
    {fuel : ℕ} {queue out : List String} (hterms : LedgerView.terms s = LedgerView.terms s₀)
    (h : I visited s) (hout : Worklist.drain (childIds s₀.mandates) fuel queue visited = some out)
    (hnodup : out.Nodup) :
    ∃ s', cascadeLoop rootId status reason fuel queue visited s = some s' ∧ I out s' := by
  have honce : ∀ visited s currId, (visited.Nodup → I visited s) → (currId :: visited).Nodup →
      I (currId :: visited) (cascadeOne rootId status reason currId s) := by
    intro visited s currId h hfresh
    obtain ⟨hnew, hbefore⟩ := List.nodup_cons.mp hfresh
    exact hone visited s currId (h hbefore) hnew
  rcases cascadeLoop_along (I := fun visited s => visited.Nodup → I visited s) honce hterms
    (fun _ => h) with ⟨hnone, -⟩ | ⟨out', s', hout', hs', hinv⟩
  · rw [hnone] at hout
    cases hout
  · rw [hout] at hout'
    cases hout'
    exact ⟨s', hs', hinv hnodup⟩

/-- The worklist of a cascade from a stored mandate drains. -/
theorem exists_drained {mandates : Table Mandate} {root : Mandate}
    (hroot : mandates.find? rootId = some root) :
    ∃ out, Worklist.drain (childIds mandates) (mandates.rows.length + 1) [rootId] [] = some out ∧
      out.Nodup := by
  obtain ⟨hrow, hkey⟩ := Table.find?_eq_some_iff.mp hroot
  have hmem : rootId ∈ mandates.rows.map Mandate.id := List.mem_map.mpr ⟨root, hrow, hkey⟩
  have hfuel : (mandates.rows.map Mandate.id).length ≤ mandates.rows.length + 1 := by
    rw [List.length_map]
    omega
  exact Worklist.drain_root_returns (forest_childIds mandates) hmem hfuel

/-- The records name the mandates they are about. -/
theorem resourceIds_cascadeAudits (ids : List String) :
    (cascadeAudits rootId status reason s ids).map AuditEvent.resourceId =
      ids.filter fun id => (s.mandates.find? id).isSome := by
  induction ids with
  | nil => rfl
  | cons id ids ih =>
    unfold cascadeAudits at ih ⊢
    cases h : s.mandates.find? id with
    | none => simpa [h] using ih
    | some m =>
      have hid : m.id = id := Table.key_of_find? h
      simpa [h, cascadeAudit, hid] using ih

/-- A record of the cascade is about a stamped mandate. -/
theorem mem_cascadeAudits {ids : List String} {e : AuditEvent}
    (he : e ∈ cascadeAudits rootId status reason s ids) :
    ∃ m ∈ s.mandates.rows, m.id ∈ ids ∧ e = cascadeAudit rootId status reason m := by
  obtain ⟨id, hid, he⟩ := List.mem_filterMap.mp he
  obtain ⟨m, hm, rfl⟩ := Option.map_eq_some_iff.mp he
  obtain ⟨hrow, hkey⟩ := Table.find?_eq_some_iff.mp hm
  have hmid : m.id = id := hkey
  exact ⟨m, hrow, hmid ▸ hid, rfl⟩

/-- **Cascade correctness.**  Whatever the parent pointers, the cascade from a stored mandate
returns.  It stamps that mandate and its descendants once each, with the status, the reason and
one more version, records each of them once, and leaves every other mandate as it is. -/
theorem cascade_correct (rootId : String) (status : MandateStatus) (reason : String) (s : Store)
    (hroot : ∃ root, s.mandates.find? rootId = some root) :
    ∃ s' added, cascadeMandateStatus rootId status reason s = some s' ∧
      s'.auditEvents = s.auditEvents ++ added ∧
      (∀ m ∈ s.mandates.rows, Descends s.mandates rootId m.id →
        s'.mandates.find? m.id = some { m with
            status
            suspensionReason := some reason
            version := m.version + 1 } ∧
          (added.map AuditEvent.resourceId).count m.id = 1) ∧
      (∀ id, ¬ Descends s.mandates rootId id → s'.mandates.find? id = s.mandates.find? id) ∧
      ∀ e ∈ added, ∃ m ∈ s.mandates.rows, Descends s.mandates rootId m.id ∧
        e = { action := if status = .revoked then .mandateRevoked else .mandateSuspended
              actorId := "SYSTEM"
              actorType := "SYSTEM"
              resourceId := m.id
              resourceType := "MANDATE"
              payload := [("reason", .str reason), ("cascaded_from", .str rootId)]
              previousState := none
              newState := some [("status", .str status.value)] } := by
  obtain ⟨root, hroot⟩ := hroot
  obtain ⟨out, hout, hnodup⟩ := exists_drained hroot
  obtain ⟨s', hs', hstamped⟩ := cascadeLoop_inv (I := Stamped rootId status reason s)
    (fun _ _ _ h hnew => h.one hnew) rfl .refl hout hnodup
  have hdescends (id : String) : Descends s.mandates rootId id ↔ id ∈ out := by
    rw [descends_iff, Worklist.mem_drain_root hout]
  have hdistinct : out.reverse.Nodup := List.nodup_reverse.mpr hnodup
  refine ⟨s', _, hs', hstamped.audits, fun m hm hbelow => ?_, fun id haside => ?_, fun e he => ?_⟩
  · have hid : m.id ∈ out := (hdescends m.id).mp hbelow
    have hfind : s.mandates.find? m.id = some m := Table.find?_of_mem hm
    constructor
    · rw [hstamped.mandates, if_pos hid, hfind]
      rfl
    · rw [resourceIds_cascadeAudits]
      refine List.count_eq_one_of_mem (hdistinct.filter _) ?_
      rw [List.mem_filter, hfind]
      exact ⟨List.mem_reverse.mpr hid, rfl⟩
  · rw [hstamped.mandates, if_neg fun hid => haside ((hdescends id).mpr hid)]
  · obtain ⟨m, hm, hid, he⟩ := mem_cascadeAudits he
    exact ⟨m, hm, (hdescends m.id).mpr (List.mem_reverse.mp hid), he⟩

/-- Two mandates, each the parent of the other. -/
def cycle : Store :=
  { ControlPlane.Sample.store with
    mandates := ⟨[{ ControlPlane.Sample.mandate with parentMandateId := some "mnd_2" },
      { ControlPlane.Sample.mandate with id := "mnd_2", parentMandateId := some "mnd_1" }],
      by decide⟩ }

/-- A cascade around a cycle. -/
theorem cascade_correct_cycle :
    ∃ s' added, cascadeMandateStatus "mnd_1" .revoked "done" cycle = some s' ∧
      s'.auditEvents = cycle.auditEvents ++ added ∧
      (∀ m ∈ cycle.mandates.rows, Descends cycle.mandates "mnd_1" m.id →
        s'.mandates.find? m.id = some { m with
            status := .revoked
            suspensionReason := some "done"
            version := m.version + 1 } ∧
          (added.map AuditEvent.resourceId).count m.id = 1) ∧
      (∀ id, ¬ Descends cycle.mandates "mnd_1" id →
        s'.mandates.find? id = cycle.mandates.find? id) ∧
      ∀ e ∈ added, ∃ m ∈ cycle.mandates.rows, Descends cycle.mandates "mnd_1" m.id ∧
        e = { action := .mandateRevoked
              actorId := "SYSTEM"
              actorType := "SYSTEM"
              resourceId := m.id
              resourceType := "MANDATE"
              payload := [("reason", .str "done"), ("cascaded_from", .str "mnd_1")]
              previousState := none
              newState := some [("status", .str "REVOKED")] } :=
  cascade_correct "mnd_1" .revoked "done" cycle ⟨_, rfl⟩

end MandatePlane.CascadeCorrectness
