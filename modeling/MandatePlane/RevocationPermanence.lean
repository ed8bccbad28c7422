import MandatePlane.ControlPlane

/-!
# What becomes of a revoked mandate

A revocation is announced as permanent.  Every endpoint leaves a REVOKED mandate as it
is, except two: an activation writes ACTIVE whatever the status was, and a suspension
writes SUSPENDED down the whole tree, over the revoked mandates in it as well.
-/

namespace MandatePlane.RevocationPermanence

open DomainModel KeyedTable LabelledRun LedgerView HostEnvironment HandlerPostings
open ControlPlane MandateRoutes MandateSteps

/-- The mandate is stored and REVOKED. -/
def Revoked (s : Store) (id : String) : Prop :=
  ∃ m, s.mandates.find? id = some m ∧ m.status = .revoked

instance (s : Store) (id : String) : Decidable (Revoked s id) :=
  decidable_of_iff ((s.mandates.find? id).any fun m => m.status = .revoked)
    (by simp [Revoked, Option.any_eq_true])

/-- `id` is `rootId` or lies below it. -/
def AtOrBelow (mandates : Table Mandate) (rootId id : String) : Prop :=
  Relation.ReflTransGen (fun a b => b ∈ childIds mandates a) rootId id

/-- The action finds no REVOKED mandate where it writes a status: an activation is refused or for a
mandate that is not REVOKED, a suspension for a subtree without one. -/
def LeavesRevoked (s : Store) : Action → Prop
  | .activate mandateId => ∀ m, s.mandates.find? mandateId = some m →
      inactiveParent s.mandates m = false → m.status ≠ .revoked
  | .suspend mandateId _ => ∀ root, s.mandates.find? mandateId = some root →
      ∀ id, AtOrBelow s.mandates mandateId id → ¬ Revoked s id
  | _ => True

variable {env : Platform} {settings : Settings} {s s' : Store} {a : Action} {events : List Event}

theorem revoked_grants {id : String} :
    Revoked s id ↔ ∃ m, (grants s).find? id = some m ∧ m.status = .revoked := by
  rw [grants, Table.find?_mapRows]
  constructor
  · rintro ⟨m, hm, hstatus⟩
    exact ⟨grantOf m, by rw [hm]; rfl, hstatus⟩
  · rintro ⟨m, hm, hstatus⟩
    obtain ⟨m₀, hm₀, rfl⟩ := Option.map_eq_some_iff.mp hm
    exact ⟨m₀, hm₀, hstatus⟩

theorem Revoked.of_grants {id : String} (h : Revoked s id) (hg : grants s' = grants s) :
    Revoked s' id := by
  rw [revoked_grants] at h ⊢
  rwa [hg]

theorem Revoked.insert {id : String} {m : Mandate} {mandates : Table Mandate} (h : Revoked s id)
    (hi : s.mandates.insert m = some mandates) : Revoked { s with mandates } id := by
  obtain ⟨r, hr, hstatus⟩ := h
  exact ⟨r, Table.find?_insert_of_some hi hr, hstatus⟩

/-- A write that is not for this mandate, or does not touch its status. -/
theorem Revoked.update {id k : String} {f : Mandate → Mandate}
    {hf : ∀ m, Keyed.key (f m) = Keyed.key m} (h : Revoked s id)
    (hstatus : id = k → ∀ m, s.mandates.find? k = some m → m.status = .revoked →
      (f m).status = .revoked) : Revoked (s.updateMandate k f hf) id := by
  obtain ⟨m, hm, hrevoked⟩ := h
  by_cases hk : id = k
  · subst hk
    refine ⟨f m, ?_, hstatus rfl m hm hrevoked⟩
    show (s.mandates.modify id f hf).find? id = _
    rw [Table.find?_modify_self, hm]
    rfl
  · refine ⟨m, ?_, hrevoked⟩
    show (s.mandates.modify k f hf).find? id = _
    rw [Table.find?_modify_of_ne _ _ _ hk, hm]

/-- A cascade keeps what it does not visit. -/
theorem Revoked.unvisited {id rootId : String} {status : MandateStatus} {visited : List String}
    (h : Revoked s id) (hc : Cascaded status rootId s s' visited) (hid : id ∉ visited) :
    Revoked s' id := by
  obtain ⟨m, hm, hrevoked⟩ := h
  exact ⟨m, by rw [hc.untouched id hid, hm], hrevoked⟩

/-- What a cascade visits is stored as before, with the status of the cascade. -/
theorem visited_status {id rootId : String} {status : MandateStatus} {visited : List String}
    (hc : Cascaded status rootId s s' visited) (hid : id ∈ visited) {m : Mandate}
    (hm : s.mandates.find? id = some m) :
    ∃ m', s'.mandates.find? id = some m' ∧ m'.status = status := by
  have hterm : (terms s').find? id = some (termsOf m) := by
    rw [hc.only.terms, terms_find?, hm]
    rfl
  rw [terms_find?] at hterm
  obtain ⟨m', hm', -⟩ := Option.map_eq_some_iff.mp hterm
  exact ⟨m', hm', hc.marked id hid m' hm'⟩

/-- **One step keeps a revoked mandate revoked** if it finds none where it writes a status. -/
theorem Step.revoked_kept (h : Step env settings s a events s') (hleaves : LeavesRevoked s a)
    {id : String} (hrevoked : Revoked s id) : Revoked s' id := by
  cases h with
  | refused => exact hrevoked
  | requested h => exact hrevoked.of_grants h.explained.grants
  | approved _ _ _ hexp => exact hrevoked.of_grants hexp.grants
  | verified _ _ hgrants => exact hrevoked.of_grants hgrants
  | delivered h => exact hrevoked.of_grants h.explained.1.grants
  | swept hexp => exact hrevoked.of_grants hexp.grants
  | created h => exact hrevoked.insert h
  | @delegated parentId payload _ _ _ _ _ h =>
    have hparent : Revoked (s.updateMandate parentId (allocate payload.aggregateSpendLimit)) id :=
      hrevoked.update fun _ _ _ hm => hm
    exact hparent.insert h.inserted
  | @suspended mandateId _ _ visited h =>
    obtain ⟨root, hroot⟩ := h.found
    exact hrevoked.unvisited h fun hv => hleaves root hroot id (h.below id hv) hrevoked
  | @revoked _ _ _ visited h =>
    by_cases hv : id ∈ visited
    · obtain ⟨m, hm, -⟩ := hrevoked
      exact visited_status h hv hm
    · exact hrevoked.unvisited h hv
  | @activated mandateId mandate hfind hparent =>
    refine hrevoked.update fun _ m hm hr => ?_
    rw [hfind] at hm
    cases hm
    exact absurd hr (hleaves mandate hfind hparent)
  | agentChanged => exact hrevoked

/-- What lies below a visited mandate is visited. -/
theorem visited_of_atOrBelow {rootId id : String} {status : MandateStatus} {visited : List String}
    (hc : Cascaded status rootId s s' visited) (h : AtOrBelow s.mandates rootId id) :
    id ∈ visited := by
  induction h with
  | refl => exact hc.root
  | tail _ hchild ih => exact hc.closed _ ih _ hchild

/-- A step that keeps every revoked mandate revoked found none where it writes a status. -/
theorem leavesRevoked_of_kept
    (hkept : ∀ id, Revoked s id → Revoked ((controlPlane env settings).next s a) id) :
    LeavesRevoked s a := by
  cases a with
  | activate mandateId =>
    intro m hm hparent hstatus
    have haccepted : activateMandate mandateId s =
        .ok ⟨reactivated m, s.updateMandate mandateId reactivated, []⟩ := by
      rw [activateMandate, hm]
      simp only [orRefuse, bind, Except.bind, hparent, ensure]
      rfl
    obtain ⟨m', hm', hrevoked⟩ := hkept mandateId ⟨m, hm, hstatus⟩
    have hnext : (controlPlane env settings).next s (.activate mandateId) =
        s.updateMandate mandateId reactivated := by
      show (outcome s (activateMandate mandateId s)).1 = _
      rw [haccepted]
      rfl
    rw [hnext] at hm'
    replace hm' : (s.mandates.modify mandateId reactivated).find? mandateId = some m' := hm'
    rw [Table.find?_modify_self, hm] at hm'
    cases hm'
    cases hrevoked
  | suspend mandateId reason =>
    intro root hroot id hbelow hrevoked
    obtain ⟨c, visited, hc, -, hcascaded⟩ :=
      @changeStatusCascade_spec .suspended "Parent mandate suspended" mandateId reason s root hroot
    have hnext : (controlPlane env settings).next s (.suspend mandateId reason) = c.store := by
      show (outcome s (suspendMandateCascade mandateId reason s)).1 = _
      rw [suspendMandateCascade, hc]
      rfl
    obtain ⟨m'', hm'', hrevoked'⟩ := hkept id hrevoked
    obtain ⟨m, hm, -⟩ := hrevoked
    have hvisited := visited_of_atOrBelow hcascaded hbelow
    obtain ⟨m', hm', hsuspended⟩ := visited_status hcascaded hvisited hm
    rw [hnext, hm'] at hm''
    cases hm''
    rw [hsuspended] at hrevoked'
    cases hrevoked'
  | request _ _ _ => trivial
  | approve _ _ _ _ => trivial
  | verify _ _ => trivial
  | webhook _ => trivial
  | sweep _ => trivial
  | create _ _ _ => trivial
  | delegate _ _ _ _ => trivial
  | revoke _ _ => trivial
  | agentStatus _ _ _ => trivial

/-! ### Runs -/

/-- **Revocation is permanent** in a run exactly if no activation and no suspension in it finds a
REVOKED mandate where it writes a status. -/
theorem revocation_permanent (env : Platform) (settings : Settings) (s : Store)
    (actions : List Action) :
    (∀ before after, before ++ after <+: actions → ∀ id,
        Revoked ((controlPlane env settings).run s before) id →
        Revoked ((controlPlane env settings).run s (before ++ after)) id) ↔
      (controlPlane env settings).Along LeavesRevoked s actions := by
  constructor
  · intro hkept
    induction actions generalizing s with
    | nil => trivial
    | cons a actions ih =>
      refine ⟨@leavesRevoked_of_kept env settings s a fun id => ?_,
        ih _ fun before after hprefix id => ?_⟩
      · exact hkept [] [a] (List.prefix_append [a] actions) id
      · exact hkept (a :: before) after (List.cons_prefix_cons.mpr ⟨rfl, hprefix⟩) id
  · intro hleaves before after hprefix id hrevoked
    have hboth := Machine.along_of_prefix hprefix hleaves
    have hstep : ∀ (s : Store) (a : Action), Revoked s id → LeavesRevoked s a →
        Revoked ((controlPlane env settings).next s a) id :=
      fun s a h hl => Step.revoked_kept (perform_step env settings s a) hl h
    rw [Machine.run_append]
    exact Machine.inv_run hstep hrevoked (Machine.along_append.mp hboth).2

/-- A revoked mandate is activated: it is ACTIVE again. -/
theorem not_permanent_of_activation :
    ¬ ∀ before after, before ++ after <+:
        [Action.revoke "mnd_1" none, Action.activate "mnd_1"] → ∀ id,
      Revoked ((controlPlane Sample.platform Sample.settings).run Sample.store before) id →
      Revoked ((controlPlane Sample.platform Sample.settings).run Sample.store
        (before ++ after)) id := by
  intro h
  have hrevoked : Revoked ((controlPlane Sample.platform Sample.settings).run Sample.store
      [.revoke "mnd_1" none]) "mnd_1" := by
    decide +kernel
  have hactive : ¬ Revoked ((controlPlane Sample.platform Sample.settings).run Sample.store
      [.revoke "mnd_1" none, .activate "mnd_1"]) "mnd_1" := by
    decide +kernel
  exact hactive (h [.revoke "mnd_1" none] [.activate "mnd_1"] (List.prefix_refl _) "mnd_1" hrevoked)

end MandatePlane.RevocationPermanence
