import MandatePlane.ControlPlane

/-!
# Delegated authority lives with its ancestors

Suspension and revocation go down the whole tree, a child is only delegated from an
ACTIVE parent, and a mandate is only reactivated below an ACTIVE one.  So in every
state a mandate that is ACTIVE has only ACTIVE ancestors, although no request ever
looks at them.
-/

namespace MandatePlane.DelegationHierarchy

open DomainModel KeyedTable LabelledRun LedgerView HostEnvironment HandlerPostings
open ControlPlane MandateRoutes MandateSteps PolicyEngine

/-- `p` is a parent of `m`, or a parent of one of its ancestors. -/
inductive Ancestor (mandates : Table Mandate) (m : Mandate) : Mandate → Prop
  | parent {id : String} {p : Mandate} (hlink : m.parentMandateId = some id)
      (hp : mandates.find? id = some p) : Ancestor mandates m p
  | above {id : String} {q p : Mandate} (hq : Ancestor mandates m q)
      (hlink : q.parentMandateId = some id) (hp : mandates.find? id = some p) :
      Ancestor mandates m p

/-- Every mandate has an id and, if it was delegated, its parent; an ACTIVE one an ACTIVE parent. -/
structure LiveHierarchy (mandates : Table Mandate) : Prop where
  named : ∀ m ∈ mandates.rows, m.id.isEmpty = false
  linked : ∀ m ∈ mandates.rows, ∀ id, m.parentMandateId = some id →
    ∃ p, mandates.find? id = some p ∧ (m.status = .active → p.status = .active)

/-- **Active below active.**  The ancestors of an ACTIVE mandate are ACTIVE. -/
theorem LiveHierarchy.ancestor_active {mandates : Table Mandate} (h : LiveHierarchy mandates)
    {m p : Mandate} (hm : m ∈ mandates.rows) (hactive : m.status = .active)
    (ha : Ancestor mandates m p) : p.status = .active := by
  have hrow : p ∈ mandates.rows ∧ p.status = .active := by
    induction ha with
    | parent hlink hp =>
      obtain ⟨p', hp', himp⟩ := h.linked m hm _ hlink
      rw [hp] at hp'
      cases hp'
      exact ⟨Table.mem_of_find? hp, himp hactive⟩
    | above _ hlink hp ih =>
      obtain ⟨p', hp', himp⟩ := h.linked _ ih.1 _ hlink
      rw [hp] at hp'
      cases hp'
      exact ⟨Table.mem_of_find? hp, himp ih.2⟩
  exact hrow.2

/-! ### What keeps the hierarchy -/

/-- The counters play no part. -/
theorem liveHierarchy_grants {s : Store} :
    LiveHierarchy (grants s) ↔ LiveHierarchy s.mandates := by
  constructor
  · intro h
    refine ⟨fun m hm => h.named (grantOf m) (List.mem_map_of_mem hm), fun m hm id hlink => ?_⟩
    obtain ⟨p, hp, himp⟩ := h.linked (grantOf m) (List.mem_map_of_mem hm) id hlink
    rw [grants, Table.find?_mapRows] at hp
    obtain ⟨p₀, hp₀, rfl⟩ := Option.map_eq_some_iff.mp hp
    exact ⟨p₀, hp₀, himp⟩
  · intro h
    refine ⟨fun m hm => ?_, fun m hm id hlink => ?_⟩
    · obtain ⟨m₀, hm₀, rfl⟩ := List.mem_map.mp hm
      exact h.named m₀ hm₀
    · obtain ⟨m₀, hm₀, rfl⟩ := List.mem_map.mp hm
      obtain ⟨p, hp, himp⟩ := h.linked m₀ hm₀ id hlink
      refine ⟨grantOf p, ?_, himp⟩
      rw [grants, Table.find?_mapRows, hp]
      rfl

theorem LiveHierarchy.of_grants {s s' : Store} (h : LiveHierarchy s.mandates)
    (hg : grants s' = grants s) : LiveHierarchy s'.mandates := by
  rw [← liveHierarchy_grants] at h ⊢
  rwa [hg]

/-- A new mandate without a parent, or below an ACTIVE one. -/
theorem LiveHierarchy.insert {mandates mandates' : Table Mandate} {m : Mandate}
    (h : LiveHierarchy mandates) (hi : mandates.insert m = some mandates')
    (hname : m.id.isEmpty = false)
    (hlink : ∀ id, m.parentMandateId = some id →
      ∃ p, mandates.find? id = some p ∧ p.status = .active) : LiveHierarchy mandates' := by
  refine ⟨fun m' hm' => ?_, fun m' hm' id hlink' => ?_⟩
  · rcases (Table.mem_insert hi).mp hm' with hm' | rfl
    · exact h.named m' hm'
    · exact hname
  · rcases (Table.mem_insert hi).mp hm' with hm' | rfl
    · obtain ⟨p, hp, himp⟩ := h.linked m' hm' id hlink'
      exact ⟨p, Table.find?_insert_of_some hi hp, himp⟩
    · obtain ⟨p, hp, hactive⟩ := hlink id hlink'
      exact ⟨p, Table.find?_insert_of_some hi hp, fun _ => hactive⟩

/-- An update that keeps the parent and may make the status ACTIVE only below an ACTIVE parent. -/
theorem LiveHierarchy.modify {mandates : Table Mandate} {k : String} {f : Mandate → Mandate}
    {hf : ∀ m, Keyed.key (f m) = Keyed.key m} (h : LiveHierarchy mandates)
    (hparent : ∀ m, (f m).parentMandateId = m.parentMandateId)
    (hkept : ∀ m, m.status = .active → (f m).status = .active)
    (hraised : ∀ m, mandates.find? k = some m → (f m).status = .active → m.status = .active ∨
      ∀ id, m.parentMandateId = some id → ∃ p, mandates.find? id = some p ∧ p.status = .active) :
    LiveHierarchy (mandates.modify k f hf) := by
  have hfind {id : String} {p : Mandate} (hp : mandates.find? id = some p) :
      ∃ p', (mandates.modify k f hf).find? id = some p' ∧
        (p.status = .active → p'.status = .active) := by
    rw [Table.find?_modify]
    split
    · rename_i hid
      rw [← hid, hp]
      exact ⟨f p, rfl, hkept p⟩
    · exact ⟨p, hp, fun hactive => hactive⟩
  refine ⟨fun m' hm' => ?_, fun m' hm' id hlink => ?_⟩
  · rcases Table.mem_modify.mp hm' with ⟨m, hm, -, rfl⟩ | ⟨hm, -⟩
    · rw [show (f m).id = m.id from hf m]
      exact h.named m hm
    · exact h.named m' hm
  · rcases Table.mem_modify.mp hm' with ⟨m, hm, hk, rfl⟩ | ⟨hm, -⟩
    · rw [hparent] at hlink
      obtain ⟨p, hp, himp⟩ := h.linked m hm id hlink
      obtain ⟨p', hp', hlive⟩ := hfind hp
      refine ⟨p', hp', fun hactive => hlive ?_⟩
      rcases hraised m (Table.find?_eq_some_iff.mpr ⟨hm, hk⟩) hactive with hm' | hall
      · exact himp hm'
      · obtain ⟨q, hq, hqactive⟩ := hall id hlink
        rw [hp] at hq
        cases hq
        exact hqactive
    · obtain ⟨p, hp, himp⟩ := h.linked m' hm id hlink
      obtain ⟨p', hp', hlive⟩ := hfind hp
      exact ⟨p', hp', fun hactive => hlive (himp hactive)⟩

/-- **The cascade keeps the hierarchy.**  What is still ACTIVE was not visited, and neither was its
parent, whose children would have been visited with it. -/
theorem LiveHierarchy.cascade {s s' : Store} {status : MandateStatus} {rootId : String}
    {visited : List String} (h : LiveHierarchy s.mandates)
    (hc : Cascaded status rootId s s' visited) (hstatus : status ≠ .active) :
    LiveHierarchy s'.mandates := by
  have hterms := hc.only.terms
  have hback {id : String} {m' : Mandate} (hm' : s'.mandates.find? id = some m') :
      ∃ m, s.mandates.find? id = some m ∧ m.parentMandateId = m'.parentMandateId ∧
        m.id = m'.id := by
    have hfind : (terms s).find? id = some (termsOf m') := by
      rw [← hterms, terms_find?, hm']
      rfl
    rw [terms_find?] at hfind
    obtain ⟨m, hm, hterm⟩ := Option.map_eq_some_iff.mp hfind
    have hparent : (termsOf m).parentMandateId = (termsOf m').parentMandateId := by rw [hterm]
    have hid : (termsOf m).id = (termsOf m').id := by rw [hterm]
    exact ⟨m, hm, hparent, hid⟩
  refine ⟨fun m' hm' => ?_, fun m' hm' id hlink => ?_⟩
  · obtain ⟨m, hm, -, hid⟩ := hback (Table.find?_of_mem hm')
    exact hid ▸ h.named m (Table.mem_of_find? hm)
  · obtain ⟨m, hm, hparent, hid⟩ := hback (Table.find?_of_mem hm')
    have hmrow := Table.mem_of_find? hm
    obtain ⟨p, hp, himp⟩ := h.linked m hmrow id (hparent.trans hlink)
    have hpterm : (terms s').find? id = some (termsOf p) := by
      rw [hterms, terms_find?, hp]
      rfl
    rw [terms_find?] at hpterm
    obtain ⟨p', hp', -⟩ := Option.map_eq_some_iff.mp hpterm
    refine ⟨p', hp', fun hactive => ?_⟩
    have hunvisited : m'.id ∉ visited := by
      intro hv
      exact hstatus ((hc.marked m'.id hv m' (Table.find?_of_mem hm')).symm.trans hactive)
    have hparentUnvisited : id ∉ visited := by
      intro hv
      have hchild : m'.id ∈ childIds s.mandates id := by
        refine List.mem_map.mpr ⟨m, List.mem_filter.mpr ⟨hmrow, ?_⟩, hid⟩
        rw [hparent, hlink]
        exact decide_eq_true rfl
      exact hunvisited (hc.closed id hv _ hchild)
    have hsame : m = m' := by
      have hfind := hc.untouched m'.id hunvisited
      rw [show s'.mandates.find? m'.id = some m' from Table.find?_of_mem hm'] at hfind
      rw [show s.mandates.find? m'.id = some m from hm] at hfind
      exact (Option.some.inj hfind).symm
    rw [hc.untouched id hparentUnvisited, hp] at hp'
    cases hp'
    exact himp (hsame ▸ hactive)

/-- A truthy parent that is there and not inactive is ACTIVE. -/
theorem active_of_inactiveParent {mandates : Table Mandate} (h : LiveHierarchy mandates)
    {m p : Mandate} {id : String} (hm : inactiveParent mandates m = false)
    (hlink : m.parentMandateId = some id) (hp : mandates.find? id = some p) :
    p.status = .active := by
  have hname : id.isEmpty = false := by
    have hkey : p.id = id := Table.key_of_find? hp
    exact hkey ▸ h.named p (Table.mem_of_find? hp)
  simp only [inactiveParent, hlink, truthyId, hname, Bool.false_eq_true, if_false, hp,
    Option.any_some, decide_eq_false_iff_not, not_not] at hm
  exact hm

variable {env : Platform} {settings : Settings} {s s' : Store} {a : Action} {events : List Event}

/-- **One step keeps the hierarchy live.** -/
theorem liveHierarchy_step (h : Step env settings s a events s')
    (hlive : LiveHierarchy s.mandates) : LiveHierarchy s'.mandates := by
  cases h with
  | refused => exact hlive
  | requested h => exact hlive.of_grants h.explained.grants
  | approved _ _ _ hexp => exact hlive.of_grants hexp.grants
  | verified _ _ hgrants => exact hlive.of_grants hgrants
  | delivered h => exact hlive.of_grants h.explained.1.grants
  | swept hexp => exact hlive.of_grants hexp.grants
  | @created payload id now agent mandates h =>
    exact hlive.insert h id.nonempty fun parentId hlink => by cases hlink
  | @delegated parentId payload id now parent currency mandates h =>
    have hparent : LiveHierarchy (s.mandates.modify parentId
        (allocate payload.aggregateSpendLimit)) :=
      hlive.modify (fun _ => rfl) (fun _ h => h) fun _ _ h => .inl h
    refine hparent.insert h.inserted id.nonempty fun parentId' hlink => ?_
    cases hlink
    have hkey : parent.id = parentId := Table.key_of_find? h.found
    rw [hkey]
    refine ⟨allocate payload.aggregateSpendLimit parent, ?_, h.active⟩
    rw [Table.find?_modify_self, h.found]
    rfl
  | suspended h => exact hlive.cascade h (by decide)
  | revoked h => exact hlive.cascade h (by decide)
  | @activated mandateId mandate hfind hparent =>
    show LiveHierarchy (s.mandates.modify mandateId reactivated)
    refine hlive.modify (fun _ => rfl) (fun _ _ => rfl) fun m hm _ => .inr fun id hlink => ?_
    rw [hfind] at hm
    cases hm
    obtain ⟨p, hp, -⟩ := hlive.linked mandate (Table.mem_of_find? hfind) id hlink
    exact ⟨p, hp, active_of_inactiveParent hlive hparent hlink hp⟩
  | agentChanged => exact hlive

end MandatePlane.DelegationHierarchy
