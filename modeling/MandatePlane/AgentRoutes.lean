import MandatePlane.ActiveMandates
import MandatePlane.GatewayReconciliation

/-!
# Registering agents

`register_agent` binds a new agent to a principal.  An owner that is not stored is replaced by
the merchant of the demonstration, or provisioned under a fixed email address, and the email
addresses of principals are unique.  The key is generated, hashed and forgotten: the
answer is the agent's row without it.

The data set is everything that is stored: the tables of the control plane, the execution traces,
the reports, and the columns of principals that only registration and seeding write.
-/

namespace MandatePlane.AgentRoutes

open DomainModel KeyedTable HostEnvironment EntryPoints GatewayReconciliation ActiveMandates

/-! ### The data set -/

/-- The name and the email address of a principal's row. -/
structure PrincipalContact where
  id : String
  name : String
  email : String

instance : Keyed PrincipalContact String := ⟨PrincipalContact.id⟩

/-- An audit event of the kind `AGENT_REGISTERED`. -/
structure RegistrationAudit where
  actorId : String
  agentId : String
  agentName : String

structure Dataset where
  database : Database
  reports : List ReconciliationReport
  contacts : Table PrincipalContact
  registrations : List RegistrationAudit

namespace Dataset

def store (d : Dataset) : Store := d.database.store

/-- The data set with other rows in the control plane's tables. -/
def withStore (d : Dataset) (store : Store) : Dataset :=
  { d with database := { d.database with store } }

@[simp] theorem store_withStore (d : Dataset) (s : Store) : (d.withStore s).store = s := rfl

/-- `INSERT INTO principals`; the primary key and the unique email are checked. -/
def insertPrincipal (d : Dataset) (contact : PrincipalContact) : Option Dataset :=
  if d.contacts.rows.any fun r => r.email = contact.email then none
  else
    match d.store.principals.insert ⟨contact.id, true⟩, d.contacts.insert contact with
    | some principals, some contacts =>
      some { d.withStore { d.store with principals } with contacts }
    | _, _ => none

/-- `INSERT INTO agents`; the primary key and the unique `api_key_hash` are checked. -/
def insertAgent (d : Dataset) (agent : Agent) : Option Dataset :=
  if d.store.agents.rows.any fun r => r.apiKeyHash = agent.apiKeyHash then none
  else (d.store.agents.insert agent).map fun agents => d.withStore { d.store with agents }

end Dataset

/-! ### The endpoint -/

structure AgentCreate where
  name : String
  ownerId : String
  agentType : String
  name_length : 2 ≤ name.length ∧ name.length ≤ 128

/-- What a registration draws: the id of the row and the hexadecimal digits of the key. -/
structure RegistrationInputs where
  id : GeneratedId
  hex : McpGateway.UuidHex

/-- The principal that stands in for an owner that is not stored. -/
def demoMerchant : String := "prn_demo_merchant_01"

/-- The row provisioned for an owner that is not stored. -/
def provisioned (ownerId : String) : PrincipalContact where
  id := if ownerId.isEmpty then demoMerchant else ownerId
  name := "Alpha Commerce Enterprise"
  email := "admin@alphacommerce.example"

/-- Step 1: the owner, stored, replaced or provisioned. -/
def resolveOwner (ownerId : String) (d : Dataset) : Except Refusal (String × Dataset) :=
  match d.store.principals.find? ownerId with
  | some principal => .ok (principal.id, d)
  | none =>
    match d.store.principals.find? demoMerchant with
    | some principal => .ok (principal.id, d)
    | none =>
      (orRefuse (d.insertPrincipal (provisioned ownerId)) .serverError).map fun d =>
        ((provisioned ownerId).id, d)

/-- The generated key, of which only the hash is kept. -/
def rawApiKey (inputs : RegistrationInputs) : String := s!"ag_key_{inputs.hex.text}"

def registeredAgent (env : Platform) (payload : AgentCreate) (ownerId : String)
    (inputs : RegistrationInputs) : Agent where
  id := inputs.id.text
  name := payload.name
  ownerId
  status := .active
  apiKeyHash := env.sha256Hex (rawApiKey inputs)
  agentType := env.upper (if payload.agentType.isEmpty then "SHOPPING" else payload.agentType)

/-- `POST /agents`. -/
def registerAgent (env : Platform) (payload : AgentCreate) (inputs : RegistrationInputs)
    (d : Dataset) : Except Refusal (Agent × Dataset) := do
  let (ownerId, d) ← resolveOwner payload.ownerId d
  let agent := registeredAgent env payload ownerId inputs
  let d ← orRefuse (d.insertAgent agent) .serverError
  return (agent, { d with
    registrations := d.registrations ++ [⟨payload.ownerId, agent.id, agent.name⟩] })

/-! ### What a registration writes -/

section Writes

variable {env : Platform} {d d' : Dataset}

theorem Dataset.insertPrincipal_eq_some {contact : PrincipalContact}
    (h : d.insertPrincipal contact = some d') :
    (∀ old ∈ d.contacts.rows, old.email ≠ contact.email) ∧ ∃ principals contacts,
      d.store.principals.insert ⟨contact.id, true⟩ = some principals ∧
      d.contacts.insert contact = some contacts ∧
      d' = { d.withStore { d.store with principals } with contacts } := by
  unfold Dataset.insertPrincipal at h
  split at h
  · cases h
  · rename_i hnew
    split at h
    · rename_i principals contacts hprincipals hcontacts
      cases h
      exact ⟨fun old hold hemail => hnew (List.any_eq_true.mpr ⟨old, hold, decide_eq_true hemail⟩),
        principals, contacts, hprincipals, hcontacts, rfl⟩
    · cases h

/-- The owner is stored, or it was provisioned. -/
theorem resolveOwner_cases {ownerId id : String} (h : resolveOwner ownerId d = .ok (id, d')) :
    (∃ principal, d.store.principals.find? id = some principal ∧ d' = d) ∨
      id = (provisioned ownerId).id ∧ d.insertPrincipal (provisioned ownerId) = some d' := by
  unfold resolveOwner at h
  split at h
  · rename_i principal hprincipal
    cases h
    exact .inl ⟨principal, Table.find?_of_mem (Table.mem_of_find? hprincipal), rfl⟩
  · split at h
    · rename_i principal hprincipal
      cases h
      exact .inl ⟨principal, Table.find?_of_mem (Table.mem_of_find? hprincipal), rfl⟩
    · obtain ⟨d₁, hinsert, heq⟩ := except_map_eq_ok h
      cases heq
      rw [orRefuse_eq_ok] at hinsert
      exact .inr ⟨rfl, hinsert⟩

/-- A registration resolves the owner, and inserts the agent under it. -/
theorem registerAgent_cases {payload : AgentCreate} {inputs : RegistrationInputs} {agent : Agent}
    (h : registerAgent env payload inputs d = .ok (agent, d')) :
    ∃ ownerId d₁ agents, resolveOwner payload.ownerId d = .ok (ownerId, d₁) ∧
      agent = registeredAgent env payload ownerId inputs ∧
      d₁.store.agents.insert agent = some agents ∧
      d' = { d₁.withStore { d₁.store with agents } with
        registrations := d₁.registrations ++ [⟨payload.ownerId, agent.id, agent.name⟩] } := by
  obtain ⟨⟨ownerId, d₁⟩, howner, h⟩ := bind_eq_ok.mp h
  obtain ⟨d₂, hagent, h⟩ := bind_eq_ok.mp h
  rw [orRefuse_eq_ok] at hagent
  cases h
  unfold Dataset.insertAgent at hagent
  split at hagent
  · cases hagent
  · obtain ⟨agents, hinsert, rfl⟩ := Option.map_eq_some_iff.mp hagent
    exact ⟨ownerId, d₁, agents, howner, rfl, hinsert, rfl⟩

end Writes

end MandatePlane.AgentRoutes
