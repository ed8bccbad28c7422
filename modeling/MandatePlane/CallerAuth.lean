import MandatePlane.HostEnvironment

/-!
# Authentication of the calling agent

`authenticate_agent_caller`: a credential from `X-Agent-Key` or the bearer token of
`Authorization` is matched against the agents' stored hashes and ids; outside
production a bare agent id is accepted instead.
-/

namespace MandatePlane.CallerAuth

open DomainModel KeyedTable HostEnvironment

/-- The three headers as FastAPI passes them. -/
structure CallerHeaders where
  xAgentKey : Option String
  authorization : Option String
  xAgentId : Option String

/-- A header that is present and not empty. -/
def truthyHeader : Option String → Option String
  | none => none
  | some text => if text.isEmpty then none else some text

/-- The token of an `Authorization` header, with or without the `Bearer` scheme. -/
def bearerToken (rawAuth : String) : String :=
  if startsWith rawAuth "Bearer " then strip (dropChars rawAuth 7) else rawAuth

/-- `raw_key or bearer_token`. -/
def activeKey (headers : CallerHeaders) : Option String :=
  match truthyHeader headers.xAgentKey with
  | some key => some key
  | none => truthyHeader ((truthyHeader headers.authorization).map bearerToken)

/-- The rows a credential matches. -/
def matchesCredential (env : Platform) (key : String) (agent : Agent) : Bool :=
  agent.apiKeyHash = key || agent.apiKeyHash = s!"hash_{key}" ||
    agent.apiKeyHash = env.sha256Hex key || agent.id = key

def authenticateAgentCaller (env : Platform) (settings : Settings) (agents : Table Agent)
    (headers : CallerHeaders) (required : Bool) : Except Refusal (Option Agent) :=
  match activeKey headers with
  | some key =>
    match agents.rows.find? (matchesCredential env key) with
    | none => .error (.http 401 "Invalid or unauthorized Agent API Key.")
    | some agent =>
      if agent.status ≠ .active then
        .error (.http 403 (s!"Agent '{agent.name}' is currently {agent.status.value} " ++
          "and cannot execute operations."))
      else
        match truthyHeader headers.xAgentId with
        | none => .ok (some agent)
        | some agentId =>
          if agent.id ≠ agentId then
            .error (.http 403 (s!"Agent identity mismatch: Authenticated credential belongs to " ++
              s!"'{agent.id}', not '{agentId}'."))
          else .ok (some agent)
  | none =>
    match truthyHeader headers.xAgentId with
    | some agentId =>
      if env.lower settings.environment ≠ "production" then
        match agents.find? agentId with
        | none => .error (.http 401 s!"Agent '{agentId}' not found.")
        | some agent =>
          if agent.status ≠ .active then
            .error (.http 403 s!"Agent '{agent.name}' is currently {agent.status.value}.")
          else .ok (some agent)
      else missing required
    | none => missing required
where
  missing (required : Bool) : Except Refusal (Option Agent) :=
    if required then
      .error (.http 401
        "Missing authentication: Provide X-Agent-Key or Authorization Bearer token header.")
    else .ok none

end MandatePlane.CallerAuth
