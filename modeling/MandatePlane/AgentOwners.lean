import MandatePlane.ReferentialIntegrity

/-!
# Who owns the agents

A registration binds the agent to the owner it names, to the demo merchant where the owner is not
stored, or to an owner provisioned under the name it gives.  Every provisioned owner gets the same
email, which is unique, so that one is provisioned at most.  Beside the seeded principal there is
never more than this one, whoever is named, and all authority comes from the two.
-/

namespace MandatePlane.AgentOwners

open DomainModel KeyedTable LabelledRun HostEnvironment OperationRoutes ControlPlane AgentChat
open EntryPoints AgentRunner AgentRoutes DemoRoutes EvaluationRoutes Deployment DeploymentInvariants
open HandlerPostings TransactionLookup EvaluationHarness
open SideTables ForeignKeys ReferentialIntegrity

/-! ### The owners -/

/-- The email of every provisioned owner. -/
def provisionedEmail : String := "admin@alphacommerce.example"

/-- The provisioned owner, if there is one. -/
def standIn (d : Dataset) : Option String :=
  (d.contacts.rows.find? fun contact => contact.email = provisionedEmail).map PrincipalContact.id

/-- The invariant: the contacts are those of the principals, no two have one email, and each is
the seeded one or provisioned. -/
structure Tenancy (d : Dataset) : Prop where
  matched : d.store.principals.rows.map Principal.id = d.contacts.rows.map PrincipalContact.id
  emails : (d.contacts.rows.map PrincipalContact.email).Nodup
  known : ∀ contact ∈ d.contacts.rows, contact.id = principalId ∨ contact.email = provisionedEmail

/-- The same owners. -/
structure SameOwners (d d' : Dataset) : Prop where
  contacts : d'.contacts = d.contacts
  principals : d'.store.principals = d.store.principals

section Owners

variable {env : Platform} {settings : Settings} {host : Host} {d d' d'' : Dataset}

theorem SameOwners.refl (d : Dataset) : SameOwners d d := ⟨rfl, rfl⟩

theorem SameOwners.trans (h : SameOwners d d') (h' : SameOwners d' d'') : SameOwners d d'' :=
  ⟨h'.contacts.trans h.contacts, h'.principals.trans h.principals⟩

theorem Tenancy.same (h : Tenancy d) (hsame : SameOwners d d') : Tenancy d' := by
  refine ⟨?_, ?_, ?_⟩
  · rw [hsame.contacts, hsame.principals]
    exact h.matched
  · rw [hsame.contacts]
    exact h.emails
  · rw [hsame.contacts]
    exact h.known

/-- A principal is the seeded one or the one that was provisioned. -/
theorem Tenancy.owner (h : Tenancy d) {id : String} (hid : Stored d.store.principals id) :
    id = principalId ∨ standIn d = some id := by
  obtain ⟨principal, hfound⟩ := hid
  have hkey : principal.id = id := Table.key_of_find? hfound
  have hmem : id ∈ d.contacts.rows.map PrincipalContact.id := by
    rw [← h.matched, ← hkey]
    exact List.mem_map_of_mem (Table.mem_of_find? hfound)
  obtain ⟨contact, hcontact, rfl⟩ := List.mem_map.mp hmem
  refine (h.known contact hcontact).imp_right fun hemail => ?_
  rw [standIn]
  cases hfind : d.contacts.rows.find? fun contact => contact.email = provisionedEmail with
  | none =>
    have hnone := List.find?_eq_none.mp hfind contact hcontact
    exact absurd (decide_eq_true hemail) hnone
  | some other =>
    have hother := List.find?_some hfind
    rw [decide_eq_true_iff] at hother
    have hsame : other = contact := List.inj_on_of_nodup_map h.emails
      (List.mem_of_find?_eq_some hfind) hcontact (hother.trans hemail.symm)
    rw [hsame]
    rfl

/-! ### Registrations -/

/-- A provisioned owner has a row and a contact of its own. -/
theorem Tenancy.provision (h : Tenancy d) {ownerId : String}
    (hinsert : d.insertPrincipal (provisioned ownerId) = some d') : Tenancy d' := by
  obtain ⟨hnew, principals, contacts, hprincipals, hcontacts, rfl⟩ :=
    Dataset.insertPrincipal_eq_some hinsert
  have hrows := (Table.insert_eq_some_iff.mp hprincipals).2
  have hcontactRows := (Table.insert_eq_some_iff.mp hcontacts).2
  refine ⟨?_, ?_, fun contact hcontact => ?_⟩
  · show principals.rows.map Principal.id = contacts.rows.map PrincipalContact.id
    rw [hrows, hcontactRows, List.map_append, List.map_append, h.matched]
    rfl
  · show (contacts.rows.map PrincipalContact.email).Nodup
    rw [hcontactRows, List.map_append, List.nodup_append]
    refine ⟨h.emails, List.nodup_singleton _, fun email hemail email' hemail' heq => ?_⟩
    rw [List.map_singleton, List.mem_singleton] at hemail'
    obtain ⟨contact, hcontact, rfl⟩ := List.mem_map.mp hemail
    exact hnew contact hcontact (heq.trans hemail')
  · rcases (Table.mem_insert hcontacts).mp hcontact with hold | rfl
    · exact h.known contact hold
    · exact .inr rfl

theorem Tenancy.register (h : Tenancy d) {payload : AgentCreate} {inputs : RegistrationInputs}
    {agent : Agent} (hregister : registerAgent env payload inputs d = .ok (agent, d')) :
    Tenancy d' := by
  obtain ⟨ownerId, d₁, agents, howner, -, -, rfl⟩ := registerAgent_cases hregister
  have hresolved : Tenancy d₁ := by
    rcases resolveOwner_cases howner with ⟨owner, -, rfl⟩ | ⟨-, hinsert⟩
    · exact h
    · exact h.provision hinsert
  exact hresolved.same ⟨rfl, rfl⟩

/-- **No second owner is provisioned**: where one is, and is not the demo merchant, an owner that
is not stored is refused. -/
theorem Tenancy.refuses (h : Tenancy d) {id : String} (hstand : standIn d = some id)
    (hmerchant : id ≠ demoMerchant) {payload : AgentCreate} (inputs : RegistrationInputs)
    (hunknown : ¬ Stored d.store.principals payload.ownerId) :
    registerAgent env payload inputs d = .error .serverError := by
  have hnone {k : String} (hk : ¬ Stored d.store.principals k) :
      d.store.principals.find? k = none := by
    by_contra hsome
    exact hk (Option.ne_none_iff_exists'.mp hsome)
  have hdemo : ¬ Stored d.store.principals demoMerchant := by
    intro hstored
    rcases h.owner hstored with he | he
    · exact absurd he (by decide)
    · exact hmerchant (Option.some.inj (hstand.symm.trans he))
  have hclash : (d.contacts.rows.any fun r => r.email = (provisioned payload.ownerId).email) =
      true := by
    obtain ⟨contact, hfind, -⟩ := Option.map_eq_some_iff.mp hstand
    have hemail := List.find?_some hfind
    exact List.any_eq_true.mpr ⟨contact, List.mem_of_find?_eq_some hfind, hemail⟩
  have hrefused : resolveOwner payload.ownerId d = .error .serverError := by
    rw [resolveOwner, hnone hunknown]
    dsimp only
    rw [hnone hdemo]
    dsimp only
    rw [Dataset.insertPrincipal, if_pos hclash]
    rfl
  rw [registerAgent, hrefused]
  rfl

end Owners

/-! ### The other calls -/

section Calls

variable {env : Platform} {settings : Settings} {d : Dataset} {s s' : Store}

/-- No call of the interactive plane writes a principal. -/
theorem answer_principals (s : Store) (c : Call) :
    (answer env settings s c).1.principals = s.principals := by
  cases c with
  | chat agentId headers hex now => exact congrArg Prod.fst (chat_side agentId headers hex now)
  | control a =>
    by_cases hwebhook : ∃ delivery, a = .webhook delivery
    · obtain ⟨delivery, rfl⟩ := hwebhook
      exact webhook_principals
    · exact congrArg Prod.fst (perform_side env settings s a fun delivery he =>
        hwebhook ⟨delivery, he⟩)

theorem reached_principals {Q : Call → Prop} {events : List Event}
    (h : Reached env settings Q s s' events) : s'.principals = s.principals := by
  obtain ⟨calls, -, rfl, -⟩ := h
  exact Machine.inv_run (P := fun _ _ => True)
    (I := fun s' : Store => s'.principals = s.principals)
    (fun s' c hI _ => (answer_principals s' c).trans hI) rfl
    (Machine.along_of_forall fun _ _ _ => trivial)

theorem actOne_sameOwners (inputs : ScenarioInputs) :
    SameOwners d (actOne env settings inputs d).dataset := by
  unfold actOne
  split
  · exact .refl d
  · rename_i op hop
    have hrequested : op.store.principals = d.store.principals :=
      congrArg Prod.fst (request_side hop)
    split
    · exact ⟨rfl, hrequested⟩
    · rename_i s events hcaptured
      have hcaptured : s.principals = op.store.principals :=
        congrArg Prod.fst (processed_side (processDomainWebhookEvent_spec hcaptured))
      exact ⟨rfl, hcaptured.trans hrequested⟩

theorem actTwo_sameOwners (inputs : ScenarioInputs) :
    SameOwners d (actTwo env settings inputs d).dataset := by
  unfold actTwo
  split
  · exact .refl d
  · rename_i op hop
    exact ⟨rfl, congrArg Prod.fst (request_side hop)⟩

theorem actThree_sameOwners (inputs : ScenarioInputs) :
    SameOwners d (actThree env settings inputs d).dataset := by
  unfold actThree
  split
  · exact .refl d
  · rename_i op hop
    exact ⟨rfl, congrArg Prod.fst (request_side hop)⟩

theorem scenario_sameOwners (step : ℤ) (inputs : ScenarioInputs) :
    SameOwners d (runScriptedDemoScenario env settings step inputs d).dataset := by
  unfold runScriptedDemoScenario
  split
  · exact .refl d
  · split
    · split
      · exact .refl d
      · split
        · exact actOne_sameOwners inputs
        · split
          · exact actTwo_sameOwners inputs
          · exact actThree_sameOwners inputs
    · exact .refl d

theorem runActs_sameOwners (acts : List (ℤ × ScenarioInputs)) :
    SameOwners d (runActs env settings acts d).1 := by
  induction acts generalizing d with
  | nil => exact .refl d
  | cons act acts ih =>
    obtain ⟨step, inputs⟩ := act
    have hact := @scenario_sameOwners env settings d step inputs
    rw [runActs]
    dsimp only
    split
    · exact hact
    · exact hact.trans ih

theorem runBenchmark_sameOwners {host : Conversions} {texts : LedgerTexts} {agent : Agent}
    {mandate : Mandate} {multiplier : ℕ} {scenarios : List AdversarialScenario} :
    SameOwners d
      (runBenchmark env settings host texts agent mandate multiplier scenarios d).dataset := by
  obtain ⟨events, hreached, -⟩ := @runBenchmark_reached env settings host texts agent mandate
    multiplier scenarios d
  refine ⟨?_, reached_principals hreached⟩
  unfold runBenchmark
  split <;> rfl

end Calls

/-! ### Every run -/

section Runs

variable {env : Platform} {settings : Settings} {host : Host} {d d' : Dataset}

/-- A reset leaves the seeded owner only. -/
theorem reset_tenancy {inputs : ResetInputs}
    (h : resetDemoDataset env settings inputs = .ok d) : Tenancy d := by
  obtain ⟨_, -, h⟩ := bind_eq_ok.mp h
  cases h
  refine ⟨rfl, List.nodup_singleton _, fun contact hcontact => .inl ?_⟩
  rw [List.mem_singleton.mp hcontact]
  rfl

theorem afterReset_tenancy (h : Tenancy d) (inputs : ResetInputs) :
    Tenancy (afterReset d (resetDemoDataset env settings inputs)).1 := by
  cases hreset : resetDemoDataset env settings inputs with
  | error refusal => exact h
  | ok d' => exact reset_tenancy hreset

theorem benchmark_tenancy (h : Tenancy d) {host : Conversions} {texts : LedgerTexts}
    {payload : RunBenchmarkRequest} {scenarios : List AdversarialScenario} {reset : ResetInputs} :
    Tenancy (executeAdversarialBenchmark env settings host texts payload scenarios reset
      d).dataset := by
  unfold executeAdversarialBenchmark
  split
  · exact h
  · split
    · exact h.same runBenchmark_sameOwners
    · split
      · exact h
      · rename_i d' hreset
        split
        · exact reset_tenancy hreset
        · exact (reset_tenancy hreset).same runBenchmark_sameOwners

/-- **Every call of the deployment keeps the owners known.** -/
theorem tenancy_deploy (h : Tenancy d) (c : DeploymentCall) :
    Tenancy (deploy env settings host d c).1 := by
  cases c with
  | plane act =>
    cases act with
    | control a => exact h.same ⟨rfl, answer_principals d.store (.control a)⟩
    | enter e =>
      exact h.same ⟨rfl, reached_principals (enter_reached host.conversions d.database e)⟩
  | register payload inputs =>
    rw [deploy]
    split
    · rename_i agent d' hregister
      exact h.register hregister
    · exact h
  | reconcileNow inputs => exact h.same ⟨rfl, rfl⟩
  | reset inputs => exact afterReset_tenancy h inputs
  | scenario step inputs => exact h.same (scenario_sameOwners step inputs)
  | journey reset first second third =>
    show Tenancy (runFullFiveMinuteJourney env settings reset first second third d).dataset
    unfold runFullFiveMinuteJourney
    split
    · exact h
    · rename_i d' hreset
      exact (reset_tenancy hreset).same (runActs_sameOwners _)
  | benchmark payload scenarios reset => exact benchmark_tenancy h
  | startup autoSeedDemo reset =>
    show Tenancy (bootstrap env settings autoSeedDemo reset d).1
    unfold bootstrap
    split
    · exact afterReset_tenancy h reset
    · exact h

/-- Whose authority there is: that of the seeded principal and of one more at most. -/
structure TwoOwners (env : Platform) (d : Dataset) : Prop where
  principals : ∀ id, Stored d.store.principals id → id = principalId ∨ standIn d = some id
  owners : ∀ agent ∈ d.store.agents.rows,
    agent.ownerId = principalId ∨ standIn d = some agent.ownerId
  grantors : ∀ m ∈ d.store.mandates.rows,
    m.grantedById = principalId ∨ standIn d = some m.grantedById
  refuses : ∀ id payload inputs, standIn d = some id → id ≠ demoMerchant →
    ¬ Stored d.store.principals payload.ownerId →
    registerAgent env payload inputs d = .error .serverError

/-- **Two owners at most.**  In every state of every run the only principals are the seeded one and
the one that registrations have provisioned, an agent is owned and a mandate granted by one of the
two, and where the provisioned one is not the demo merchant, a registration for an owner that is
not stored is refused. -/
theorem owners_at_most_two (env : Platform) (settings : Settings) (host : Host) (d : Dataset)
    (h : Tenancy d) (hintact : Intact d.database) (calls : List DeploymentCall) :
    TwoOwners env ((deployment env settings host).run d calls) := by
  have hrun : Tenancy ((deployment env settings host).run d calls) ∧
      Intact ((deployment env settings host).run d calls).database :=
    Machine.inv_run (P := fun _ _ => True) (I := fun d : Dataset => Tenancy d ∧ Intact d.database)
      (fun _ c hI _ => ⟨tenancy_deploy hI.1 c, intact_deploy hI.2 c⟩) ⟨h, hintact⟩
      (Machine.along_of_forall fun _ _ _ => trivial)
  obtain ⟨htenancy, hintact⟩ := hrun
  have hreferences := hintact.references
  exact ⟨fun _ => htenancy.owner,
    fun agent hagent => htenancy.owner (hreferences.owners agent hagent _ rfl),
    fun m hm => htenancy.owner (hreferences.grantors m hm _ rfl),
    fun _ _ inputs hstand hmerchant hunknown => htenancy.refuses hstand hmerchant inputs hunknown⟩

end Runs

namespace Sample

open ControlPlane.Sample Deployment.Sample McpGateway.Sample

/-- A startup that seeds an empty database, and a registration for an owner that is not stored. -/
def registered : Dataset :=
  (deployment platform settings host).run
    ⟨⟨⟨.empty, .empty, .empty, .empty, [], .empty, []⟩, []⟩, [], .empty, []⟩
    [.startup true ⟨⟨0, 0, 0⟩, ⟨0, 0, 0⟩, ⟨0, 0, 0⟩⟩,
      .register ⟨"Scout", "prn_scout", "SHOPPING", by decide⟩
        ⟨⟨"agt_scout", rfl⟩, ⟨_, digits_length⟩⟩]

-- the owner is provisioned
example : standIn registered = some "prn_scout" := rfl

end Sample

open ControlPlane.Sample Deployment.Sample Sample in
theorem owners_at_most_two_registered : TwoOwners platform registered :=
  owners_at_most_two platform settings host
    ⟨⟨⟨.empty, .empty, .empty, .empty, [], .empty, []⟩, []⟩, [], .empty, []⟩
    ⟨rfl, .nil, fun _ hcontact => absurd hcontact List.not_mem_nil⟩
    ⟨references_empty rfl rfl rfl rfl, fun _ ht => absurd ht List.not_mem_nil⟩ _

end MandatePlane.AgentOwners
