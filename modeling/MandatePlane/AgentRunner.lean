import MandatePlane.TransactionLookup
import MandatePlane.AuthenticatedEntry
import MandatePlane.IdempotentReplies

/-!
# The execution traces of a chat turn

`AgentRunner.execute_turn` with what each tool call answers and the trace it adds.  A
financial call commits its operation at once, together with the traces added before it.
Its own trace is added after that, and committed by the next operation or at the end of the
turn, so that an exception in between loses it.
-/

namespace MandatePlane.AgentRunner

open DomainModel KeyedTable LedgerView JsonValue HostEnvironment HandlerPostings OperationRoutes
open ControlPlane McpGateway EntryPoints AuthenticatedEntry TransactionLookup IdempotentReplies

/-! ### The turn -/

/-- What is kept of an `AgentExecutionTrace`. -/
structure TraceRow where
  agentId : String
  toolName : String
  operationId : Option String

/-- The session of a turn, the traces it has committed and those it has added since. -/
structure TurnSession where
  session : Session
  persisted : List TraceRow
  added : List TraceRow

namespace TurnSession

/-- What the session sees. -/
def view (x : TurnSession) : Store := x.session.view.store

/-- What the session has committed. -/
def committed (x : TurnSession) : Store := x.session.committed.store

def commit (x : TurnSession) : TurnSession := ⟨x.session.commit, x.persisted ++ x.added, []⟩

/-- `self.db.add(trace)`. -/
def addTrace (x : TurnSession) (row : TraceRow) : TurnSession :=
  { x with session := x.session.addTrace ⟨row.agentId, row.toolName⟩, added := x.added ++ [row] }

/-- A request's writes and its commit. -/
def record (x : TurnSession) (done : Committed FinancialOperation) : TurnSession :=
  { x with session := x.session.write done.store done.events }.commit

end TurnSession

/-- `_dispatch_agent_tool`: the session after it and the operation id it answers with. -/
def dispatchAgentTool (env : Platform) (settings : Settings) (host : Conversions)
    (texts : LedgerTexts) (agent : Agent) (mandateId : String) (call : LlmToolCall)
    (x : TurnSession) : Except Refusal (TurnSession × Option String) :=
  if call.name = "lookup_transaction" then
    (lookupTransaction env host.toRendering texts agent call.arguments x.view).map
      fun result => (x, some result.operationId)
  else
    match agentTool host agent.id mandateId call with
    | .error refusal => .error refusal
    | .ok none => .ok (x, none)
    | .ok (some payload) =>
      match requestFinancialOperation env settings payload noHeaders call.inputs x.view with
      | .error refusal => .error refusal
      | .ok done =>
        match x.view.operationByIdempotencyKey payload.idempotencyKey with
        | .ok none => .ok (x.record done, some done.value.operationId)
        | _ => .ok (x, some done.value.operationId)

/-- The loop over the tool calls: the session after it, or the session in which a call raised. -/
def traceToolCalls (env : Platform) (settings : Settings) (host : Conversions)
    (texts : LedgerTexts) (agent : Agent) (mandateId : String) :
    List LlmToolCall → TurnSession → Except TurnSession TurnSession
  | [], x => .ok x
  | call :: calls, x =>
    match dispatchAgentTool env settings host texts agent mandateId call x with
    | .error _ => .error x
    | .ok (y, opId) =>
      traceToolCalls env settings host texts agent mandateId calls
        (y.addTrace ⟨agent.id, call.name, opId⟩)

/-- `execute_turn`, up to what it leaves: the committed store and the persisted traces. -/
def executeTracedTurn (env : Platform) (settings : Settings) (host : Conversions)
    (texts : LedgerTexts) (agent : Agent) (mandateId : String) (turn : Completions)
    (x : TurnSession) : Store × List TraceRow :=
  match turn.toolCalls with
  | none => (x.committed, x.persisted)
  | some calls =>
    match traceToolCalls env settings host texts agent mandateId calls x with
    | .error y => (y.committed, y.persisted)
    | .ok y =>
      if calls ≠ [] ∧ turn.replies = false then (y.committed, y.persisted)
      else (y.commit.committed, y.commit.persisted)

/-! ### When a call raises and when it commits -/

/-- What a call does in a store: nothing new, commit an operation, or raise. -/
def callFate (env : Platform) (host : Conversions) (texts : LedgerTexts) (agent : Agent)
    (mandateId : String) (call : LlmToolCall) (s : Store) : Fate :=
  if call.name = "lookup_transaction" then
    match lookupTransaction env host.toRendering texts agent call.arguments s with
    | .error _ => .raises
    | .ok _ => .idle
  else
    match agentTool host agent.id mandateId call with
    | .error _ => .raises
    | .ok none => .idle
    | .ok (some payload) =>
      match s.operationByIdempotencyKey payload.idempotencyKey with
      | .error _ => .raises
      | .ok (some _) => .idle
      | .ok none =>
        if (s.mandates.find? payload.mandateId).isSome && (s.agents.find? payload.agentId).isSome &&
            (s.insertOperation (newOperation env payload call.inputs)).isSome then .acts
        else .raises

/-- The store after a call that commits. -/
def storeAfter (env : Platform) (settings : Settings) (host : Conversions) (agent : Agent)
    (mandateId : String) (call : LlmToolCall) (s : Store) : Store :=
  match agentTool host agent.id mandateId call with
  | .ok (some payload) =>
    (outcome s (requestFinancialOperation env settings payload noHeaders call.inputs s)).1
  | _ => s

/-- **An exception after a commit**: a call raises after a call of the turn has committed an
operation, or the second completion does. -/
def RaisesAfterCommit (env : Platform) (settings : Settings) (host : Conversions)
    (texts : LedgerTexts) (agent : Agent) (mandateId : String) (replies : Bool) :
    List LlmToolCall → Store → Bool → Prop
  | [], _, acted => acted = true ∧ replies = false
  | call :: calls, s, acted =>
    match callFate env host texts agent mandateId call s with
    | .raises => acted = true
    | .idle => RaisesAfterCommit env settings host texts agent mandateId replies calls s acted
    | .acts => RaisesAfterCommit env settings host texts agent mandateId replies calls
        (storeAfter env settings host agent mandateId call s) true

section Dispatch

variable {env : Platform} {settings : Settings} {host : Conversions} {texts : LedgerTexts}
  {agent : Agent} {mandateId : String} {call : LlmToolCall} {x : TurnSession} {s : Store}

/-- A lookup answers with the id of a row or with the made-up one. -/
theorem lookupTransaction_operationId {rendering : Rendering} {args : Dict} {result : LookupResult}
    (h : lookupTransaction env rendering texts agent args s = .ok result) :
    result.operationId = sampleOrder.operationId ∨
      ∃ op ∈ s.operations.rows, op.operationId = result.operationId := by
  obtain ⟨named, hnamed, h⟩ := bind_eq_ok.mp h
  cases named with
  | some op =>
    cases h
    refine .inr ⟨op, ?_, rfl⟩
    unfold namedOperation at hnamed
    split at hnamed
    · exact Table.mem_of_find? (Store.find?_of_operationByOperationId hnamed).1
    · cases hnamed
  | none =>
    dsimp only at h
    split at h
    · rename_i op hop
      cases h
      unfold newestOperation at hop
      exact .inr ⟨op, List.mem_of_mem_filter (List.argmax_mem hop), rfl⟩
    · cases h
      exact .inl rfl

/-- A request whose key is new and that returns was processable. -/
theorem processable_of_returned {payload : OperationCreate} {inputs : RequestInputs}
    {c : Committed FinancialOperation}
    (hfresh : s.operationByIdempotencyKey payload.idempotencyKey = .ok none)
    (h : requestFinancialOperation env settings payload noHeaders inputs s = .ok c) :
    Processable env s payload inputs := by
  rcases request_returned h with ⟨existingOp, hexisting, -⟩ | ⟨owner, mandate, s₁, result, hev, -⟩
  · rw [hfresh] at hexisting
    cases hexisting
  · exact ⟨hfresh, ⟨mandate, hev.mandateFound⟩, ⟨owner, hev.agentFound⟩, s₁, hev.inserted⟩

theorem processable_iff_isSome {payload : OperationCreate} {inputs : RequestInputs}
    (hfresh : s.operationByIdempotencyKey payload.idempotencyKey = .ok none) :
    Processable env s payload inputs ↔
      ((s.mandates.find? payload.mandateId).isSome && (s.agents.find? payload.agentId).isSome &&
        (s.insertOperation (newOperation env payload inputs)).isSome) = true := by
  simp only [Bool.and_eq_true, Option.isSome_iff_exists]
  exact ⟨fun h => ⟨⟨h.mandate, h.agent⟩, h.inserted⟩, fun h => ⟨hfresh, h.1.1, h.1.2, h.2⟩⟩

/-- **A request under a free key** leaves its row where it is processable, and raises elsewhere. -/
theorem request_of_fresh {payload : OperationCreate} {inputs : RequestInputs}
    (hfresh : s.operationByIdempotencyKey payload.idempotencyKey = .ok none) :
    (Processable env s payload inputs ∧ ∃ done owner mandate result,
      requestFinancialOperation env settings payload noHeaders inputs s = .ok done ∧
        done.value.operationId = inputs.operationId ∧
        Requested env settings payload noHeaders inputs s done.events done.store owner mandate
          result) ∨
    (¬ Processable env s payload inputs ∧ ∃ refusal,
      requestFinancialOperation env settings payload noHeaders inputs s = .error refusal) := by
  have hauth : authenticateRequest env settings payload noHeaders s.agents = .ok () :=
    authenticateRequest_noHeaders payload s.agents
  by_cases hprocessable : Processable env s payload inputs
  · obtain ⟨done, owner, mandate, result, hrun, hrequested⟩ :=
      requested_of_processable hauth hprocessable
    refine .inl ⟨hprocessable, done, owner, mandate, result, hrun, ?_, hrequested⟩
    rcases returned_cases hrun with hfound | ⟨-, horder⟩
    · rw [hfresh] at hfound
      cases hfound
    · have hsame := congrArg FinancialOperation.operationId horder
      exact hsame
  · refine .inr ⟨hprocessable, ?_⟩
    cases hrun : requestFinancialOperation env settings payload noHeaders inputs s with
    | error refusal => exact ⟨refusal, rfl⟩
    | ok done => exact absurd (processable_of_returned hfresh hrun) hprocessable

/-- **What a dispatch does, by the fate of the call.** -/
inductive Dispatch (env : Platform) (settings : Settings) (host : Conversions) (agent : Agent)
    (mandateId : String) (call : LlmToolCall) (x : TurnSession) :
    Fate → Except Refusal (TurnSession × Option String) → Prop
  | raised (refusal : Refusal) : Dispatch env settings host agent mandateId call x .raises
      (.error refusal)
  | answered {opId : Option String}
      (h : ∀ id, opId = some id → id = sampleOrder.operationId ∨
        ∃ op ∈ x.view.operations.rows, op.operationId = id) :
      Dispatch env settings host agent mandateId call x .idle (.ok (x, opId))
  | acted {payload : OperationCreate} {done : Committed FinancialOperation} {owner : Agent}
      {mandate : Mandate} {result : PolicyEvaluationResult}
      (hafter : storeAfter env settings host agent mandateId call x.view = done.store)
      (hrequested : Requested env settings payload noHeaders call.inputs x.view done.events
        done.store owner mandate result) :
      Dispatch env settings host agent mandateId call x .acts
        (.ok (x.record done, some call.inputs.operationId))

theorem dispatchAgentTool_dispatch :
    Dispatch env settings host agent mandateId call x
      (callFate env host texts agent mandateId call x.view)
      (dispatchAgentTool env settings host texts agent mandateId call x) := by
  unfold callFate dispatchAgentTool
  by_cases hname : call.name = "lookup_transaction"
  · rw [if_pos hname, if_pos hname]
    cases hlookup : lookupTransaction env host.toRendering texts agent call.arguments x.view with
    | error refusal => exact .raised refusal
    | ok result =>
      refine .answered fun id hid => ?_
      rw [← Option.some.inj hid]
      exact lookupTransaction_operationId hlookup
  · rw [if_neg hname, if_neg hname]
    cases htool : agentTool host agent.id mandateId call with
    | error refusal => exact .raised refusal
    | ok requested =>
      cases requested with
      | none => exact .answered fun _ h => by cases h
      | some payload =>
        dsimp only
        cases hkey : x.view.operationByIdempotencyKey payload.idempotencyKey with
        | error refusal =>
          rw [request_ambiguous (authenticateRequest_noHeaders payload x.view.agents) hkey]
          exact .raised refusal
        | ok existing =>
          cases existing with
          | some op =>
            rw [request_stored (authenticateRequest_noHeaders payload x.view.agents) hkey]
            exact .answered fun id hid => .inr ⟨op,
              (IdempotentRequests.mem_of_operationByIdempotencyKey hkey).1, Option.some.inj hid⟩
          | none =>
            dsimp only
            rcases @request_of_fresh env settings x.view payload call.inputs hkey with
              ⟨hprocessable, done, owner, mandate, result, hrun, hid, hrequested⟩ |
                ⟨hnot, refusal, hrun⟩
            · rw [if_pos ((processable_iff_isSome hkey).mp hprocessable), hrun]
              dsimp only
              rw [hid]
              refine .acted ?_ hrequested
              unfold storeAfter
              rw [htool]
              dsimp only
              rw [hrun]
              rfl
            · rw [if_neg fun h => hnot ((processable_iff_isSome hkey).mpr h), hrun]
              exact .raised refusal

end Dispatch

/-! ### The rows after a request -/

section Rows

variable {env : Platform} {settings : Settings}

/-- The rows after a request: those before it, as they were requested, and the new one. -/
theorem row_cases {payload : OperationCreate} {inputs : RequestInputs} {s s' : Store}
    {events : List Event} {owner : Agent} {mandate : Mandate} {result : PolicyEvaluationResult}
    (h : Requested env settings payload noHeaders inputs s events s' owner mandate result)
    {op : FinancialOperation} (hop : op ∈ s'.operations.rows) :
    (∃ old ∈ s.operations.rows, old.id = op.id ∧ old.operationId = op.operationId) ∨
      op.id = inputs.id ∧ op.operationId = inputs.operationId := by
  have hmem : orderOf op ∈ (orders s').rows := List.mem_map_of_mem hop
  rcases (Table.mem_insert h.ordered).mp hmem with hold | hnew
  · obtain ⟨old, hrow, heq⟩ := List.mem_map.mp hold
    have hid := congrArg FinancialOperation.id heq
    have hoperationId := congrArg FinancialOperation.operationId heq
    exact .inl ⟨old, hrow, hid, hoperationId⟩
  · have hid := congrArg FinancialOperation.id hnew
    have hoperationId := congrArg FinancialOperation.operationId hnew
    exact .inr ⟨hid, hoperationId⟩

/-- Every row before a request is still there after it. -/
theorem row_kept {payload : OperationCreate} {inputs : RequestInputs} {s s' : Store}
    {events : List Event} {owner : Agent} {mandate : Mandate} {result : PolicyEvaluationResult}
    (h : Requested env settings payload noHeaders inputs s events s' owner mandate result)
    {old : FinancialOperation} (hold : old ∈ s.operations.rows) :
    ∃ op ∈ s'.operations.rows, op.id = old.id ∧ op.operationId = old.operationId := by
  have hmem : orderOf old ∈ (orders s').rows :=
    (Table.mem_insert h.ordered).mpr (.inl (List.mem_map_of_mem hold))
  obtain ⟨op, hop, heq⟩ := List.mem_map.mp hmem
  have hid := congrArg FinancialOperation.id heq
  have hoperationId := congrArg FinancialOperation.operationId heq
  exact ⟨op, hop, hid, hoperationId⟩

/-- The new row is there, and its ids were not taken. -/
theorem row_new {payload : OperationCreate} {inputs : RequestInputs} {s s' : Store}
    {events : List Event} {owner : Agent} {mandate : Mandate} {result : PolicyEvaluationResult}
    (h : Requested env settings payload noHeaders inputs s events s' owner mandate result) :
    (∃ op ∈ s'.operations.rows, op.id = inputs.id ∧ op.operationId = inputs.operationId) ∧
      s.operations.find? inputs.id = none ∧
      ∀ old ∈ s.operations.rows, old.operationId ≠ inputs.operationId := by
  refine ⟨?_, ?_, ?_⟩
  · have hmem : orderOf (newOperation env payload inputs) ∈ (orders s').rows :=
      (Table.mem_insert h.ordered).mpr (.inr rfl)
    obtain ⟨op, hop, heq⟩ := List.mem_map.mp hmem
    have hid := congrArg FinancialOperation.id heq
    have hoperationId := congrArg FinancialOperation.operationId heq
    exact ⟨op, hop, hid, hoperationId⟩
  · obtain ⟨hnone, -⟩ := Table.insert_eq_some_iff.mp h.ordered
    rw [orders_find?] at hnone
    exact Option.map_eq_none_iff.mp hnone
  · intro old hold heq
    obtain ⟨s₁, hinserted⟩ := h.inserted
    exact ((Store.insertOperation_eq_some_iff.mp hinserted).1 old hold).1 heq

end Rows

/-! ### The turn without its traces -/

section Forget

variable {env : Platform} {settings : Settings} {host : Conversions} {texts : LedgerTexts}
  {agent : Agent} {mandateId : String} {s : Store}

/-- Where operation ids are unique a lookup answers. -/
theorem lookupTransaction_answers (hunique : OperationIdsUnique s) (rendering : Rendering)
    (args : Dict) : ∃ result, lookupTransaction env rendering texts agent args s = .ok result := by
  have hnamed : ∃ named, namedOperation (lookupId rendering args) s = .ok named := by
    unfold namedOperation
    split
    · by_cases h : ∃ op ∈ s.operations.rows, op.operationId = lookupId rendering args
      · obtain ⟨op, hop, hid⟩ := h
        exact ⟨some op, hid ▸ operationByOperationId_of_mem hunique hop⟩
      · exact ⟨none, operationByOperationId_of_forall fun op hop hid => h ⟨op, hop, hid⟩⟩
    · exact ⟨none, rfl⟩
  obtain ⟨named, hnamed⟩ := hnamed
  unfold lookupTransaction
  simp only [hnamed, bind, Except.bind]
  cases named with
  | some op => exact ⟨_, rfl⟩
  | none =>
    dsimp only
    split
    · exact ⟨_, rfl⟩
    · exact ⟨_, rfl⟩

theorem operationIdsUnique_iff :
    OperationIdsUnique s ↔ ((orders s).rows.map FinancialOperation.operationId).Nodup := by
  show _ ↔ ((s.operations.rows.map orderOf).map FinancialOperation.operationId).Nodup
  rw [List.map_map]
  rfl

/-- **A request keeps the operation ids unique.** -/
theorem operationIdsUnique_request {payload : OperationCreate} {inputs : RequestInputs}
    {done : Committed FinancialOperation} (hunique : OperationIdsUnique s)
    (h : requestFinancialOperation env settings payload noHeaders inputs s = .ok done) :
    OperationIdsUnique done.store := by
  rcases requestFinancialOperation_spec h with ⟨hs, -⟩ | ⟨owner, mandate, result, hreq⟩
  · rw [hs]
    exact hunique
  · rw [operationIdsUnique_iff] at hunique ⊢
    obtain ⟨-, hrows⟩ := Table.insert_eq_some_iff.mp hreq.ordered
    rw [hrows, List.map_append, List.nodup_append]
    refine ⟨hunique, List.nodup_singleton _, fun a ha b hb heq => ?_⟩
    obtain ⟨order, horder, rfl⟩ := List.mem_map.mp ha
    obtain ⟨old, hold, rfl⟩ := List.mem_map.mp horder
    rw [List.map_singleton, List.mem_singleton] at hb
    have hsame : old.operationId = inputs.operationId := heq.trans hb
    exact (row_new hreq).2.2 old hold hsame

/-- What a session with traces is to the session without them. -/
def forget : Except TurnSession TurnSession → Except Session Session
  | .error y => .error y.session
  | .ok y => .ok y.session

/-- **Without its traces the turn is the turn of the entry points.** -/
theorem forget_traceToolCalls (calls : List LlmToolCall) {x : TurnSession}
    (hunique : OperationIdsUnique x.view) :
    forget (traceToolCalls env settings host texts agent mandateId calls x) =
      runToolCalls env settings host agent.id mandateId calls x.session := by
  induction calls generalizing x with
  | nil => rfl
  | cons call calls ih =>
    rw [traceToolCalls, runToolCalls]
    unfold dispatchAgentTool
    by_cases hname : call.name = "lookup_transaction"
    · obtain ⟨result, hresult⟩ := @lookupTransaction_answers env texts agent x.view hunique
        host.toRendering call.arguments
      have htool : agentTool host agent.id mandateId call = .ok none := by
        unfold agentTool
        rw [hname]
        rfl
      rw [if_pos hname, hresult, htool]
      exact ih (x := x.addTrace ⟨agent.id, call.name, some result.operationId⟩) hunique
    · rw [if_neg hname]
      cases htool : agentTool host agent.id mandateId call with
      | error refusal => rfl
      | ok requested =>
        cases requested with
        | none => exact ih (x := x.addTrace ⟨agent.id, call.name, none⟩) hunique
        | some payload =>
          dsimp only
          unfold requestInSession
          have hview : x.session.view.store = x.view := rfl
          rw [hview]
          cases hrun : requestFinancialOperation env settings payload noHeaders call.inputs
              x.view with
          | error refusal => rfl
          | ok done =>
            have hunique' : OperationIdsUnique done.store := operationIdsUnique_request hunique hrun
            dsimp only
            cases hkey : x.view.operationByIdempotencyKey payload.idempotencyKey with
            | error refusal =>
              exact ih (x := x.addTrace ⟨agent.id, call.name, some done.value.operationId⟩) hunique
            | ok existing =>
              cases existing with
              | some op =>
                exact ih (x := x.addTrace ⟨agent.id, call.name, some done.value.operationId⟩)
                  hunique
              | none =>
                exact ih (x := (x.record done).addTrace
                  ⟨agent.id, call.name, some done.value.operationId⟩) hunique'

end Forget

/-! ### Which operations keep their traces -/

/-- The row was not there when the turn began. -/
def Created (x : TurnSession) (op : FinancialOperation) : Prop :=
  x.view.operations.find? op.id = none

/-- **Every action is traced**: each operation that the turn has committed has a persisted trace. -/
def EveryActionTraced (x : TurnSession) (left : Store × List TraceRow) : Prop :=
  ∀ op ∈ left.1.operations.rows, Created x op → ∃ row ∈ left.2, row.operationId = some op.operationId

/-- The generated operation ids are in no trace yet. -/
def FreshIds (x : TurnSession) (calls : List LlmToolCall) : Prop :=
  ∀ call ∈ calls, call.inputs.operationId ≠ sampleOrder.operationId ∧
    ∀ row ∈ x.persisted ++ x.added, row.operationId ≠ some call.inputs.operationId

/-- **The loop invariant**, with whether a call has committed an operation: every operation has a
trace, persisted or added, and the last one committed has none that is persisted. -/
structure LoopInvariant (x y : TurnSession) (acted : Bool) : Prop where
  known : ∀ id, x.view.operations.find? id ≠ none → y.view.operations.find? id ≠ none
  sourced : ∀ row ∈ y.persisted ++ y.added, ∀ id, row.operationId = some id →
    id = sampleOrder.operationId ∨ (∃ r ∈ x.persisted ++ x.added, r.operationId = some id) ∨
      ∃ op ∈ y.view.operations.rows, op.operationId = id
  covered : ∀ op ∈ y.view.operations.rows, Created x op →
    ∃ row ∈ y.persisted ++ y.added, row.operationId = some op.operationId
  untouched : acted = false → y.committed.operations = x.committed.operations
  exposed : acted = true → ∃ op ∈ y.committed.operations.rows, Created x op ∧
    ∀ row ∈ y.persisted, row.operationId ≠ some op.operationId

section Loop

variable {env : Platform} {settings : Settings} {host : Conversions} {texts : LedgerTexts}
  {agent : Agent} {mandateId : String} {x y : TurnSession} {acted : Bool}

theorem not_created_of_mem {op : FinancialOperation} (hop : op ∈ x.view.operations.rows) :
    ¬ Created x op := by
  intro h
  have hfound : x.view.operations.find? op.id = some op := Table.find?_of_mem hop
  rw [Created, hfound] at h
  cases h

theorem loopInvariant_start : LoopInvariant x x false where
  known := fun _ h => h
  sourced := fun row hrow id hid => .inr (.inl ⟨row, hrow, hid⟩)
  covered := fun op hop hcreated => absurd hcreated (not_created_of_mem hop)
  untouched := fun _ => rfl
  exposed := fun h => by cases h

/-- A call that commits nothing adds its trace. -/
theorem LoopInvariant.answered (h : LoopInvariant x y acted) (agentId toolName : String)
    {opId : Option String} (hid : ∀ id, opId = some id → id = sampleOrder.operationId ∨
      ∃ op ∈ y.view.operations.rows, op.operationId = id) :
    LoopInvariant x (y.addTrace ⟨agentId, toolName, opId⟩) acted where
  known := h.known
  sourced := by
    intro row hrow id hrowId
    have hmem : row ∈ (y.persisted ++ y.added) ++ [⟨agentId, toolName, opId⟩] := by
      rw [List.append_assoc]
      exact hrow
    rcases List.mem_append.mp hmem with hold | hnew
    · exact h.sourced row hold id hrowId
    · rw [List.mem_singleton.mp hnew] at hrowId
      exact (hid id hrowId).imp_right .inr
  covered := by
    intro op hop hcreated
    obtain ⟨row, hrow, hrowId⟩ := h.covered op hop hcreated
    refine ⟨row, ?_, hrowId⟩
    show row ∈ y.persisted ++ (y.added ++ _)
    rw [← List.append_assoc]
    exact List.mem_append_left _ hrow
  untouched := h.untouched
  exposed := h.exposed

/-- **A call that commits an operation** persists the traces added before it, not its own. -/
theorem LoopInvariant.acts (h : LoopInvariant x y acted) (agentId : String) {call : LlmToolCall}
    (hfresh : FreshIds x [call]) {payload : OperationCreate} {done : Committed FinancialOperation}
    {owner : Agent} {mandate : Mandate} {result : PolicyEvaluationResult}
    (hrequested : Requested env settings payload noHeaders call.inputs y.view done.events
      done.store owner mandate result) :
    LoopInvariant x ((y.record done).addTrace
      ⟨agentId, call.name, some call.inputs.operationId⟩) true where
  known := by
    intro id hid
    have hfound := h.known id hid
    obtain ⟨old, hold⟩ := Option.ne_none_iff_exists'.mp hfound
    obtain ⟨op, hop, hopId, -⟩ := row_kept hrequested (Table.mem_of_find? hold)
    have hkey : old.id = id := Table.key_of_find? hold
    have hrow : done.store.operations.find? op.id = some op := Table.find?_of_mem hop
    show done.store.operations.find? id ≠ none
    rw [← hkey, ← hopId, hrow]
    exact nofun
  sourced := by
    intro row hrow id hrowId
    rcases List.mem_append.mp hrow with hold | hnew
    · rcases h.sourced row hold id hrowId with hsample | hstart | ⟨old, hmem, holdId⟩
      · exact .inl hsample
      · exact .inr (.inl hstart)
      · obtain ⟨op, hop, -, hopId⟩ := row_kept hrequested hmem
        exact .inr (.inr ⟨op, hop, hopId.trans holdId⟩)
    · rw [List.mem_singleton.mp hnew] at hrowId
      obtain ⟨⟨op, hop, -, hopId⟩, -⟩ := row_new hrequested
      exact .inr (.inr ⟨op, hop, hopId.trans (Option.some.inj hrowId)⟩)
  covered := by
    intro op hop hcreated
    rcases row_cases hrequested hop with ⟨old, hold, hid, hoperationId⟩ | ⟨-, hoperationId⟩
    · have hold' : Created x old := by
        rw [Created, hid]
        exact hcreated
      obtain ⟨row, hrow, hrowId⟩ := h.covered old hold hold'
      exact ⟨row, List.mem_append_left _ hrow, hrowId.trans (congrArg some hoperationId)⟩
    · exact ⟨⟨agentId, call.name, some call.inputs.operationId⟩,
        List.mem_append_right _ (List.mem_singleton_self _), congrArg some hoperationId.symm⟩
  untouched := fun h => by cases h
  exposed := by
    intro _
    obtain ⟨⟨op, hop, hid, hoperationId⟩, hnone, hunused⟩ := row_new hrequested
    refine ⟨op, hop, ?_, ?_⟩
    · by_contra hknown
      rw [Created, hid] at hknown
      exact h.known _ hknown hnone
    · intro row hrow hrowId
      rw [hoperationId] at hrowId
      obtain ⟨hsample, htraces⟩ := hfresh call (List.mem_singleton_self call)
      rcases h.sourced row hrow _ hrowId with h | ⟨r, hr, hrId⟩ | ⟨old, hold, holdId⟩
      · exact hsample h
      · exact htraces r hr hrId
      · exact hunused old hold holdId

/-- **The loop over the tool calls** keeps the invariant, and a turn that raises after a commit is
one that ends, by an exception, in a session that has committed an operation. -/
theorem traceToolCalls_spec {replies : Bool} (calls : List LlmToolCall)
    (h : LoopInvariant x y acted) (hfresh : FreshIds x calls) :
    match traceToolCalls env settings host texts agent mandateId calls y with
    | .error z => ∃ acted', LoopInvariant x z acted' ∧
        (RaisesAfterCommit env settings host texts agent mandateId replies calls y.view acted ↔
          acted' = true)
    | .ok z => ∃ acted', LoopInvariant x z acted' ∧
        (RaisesAfterCommit env settings host texts agent mandateId replies calls y.view acted ↔
          acted' = true ∧ replies = false) := by
  induction calls generalizing y acted with
  | nil => exact ⟨acted, h, Iff.rfl⟩
  | cons call calls ih =>
    have hfirst : FreshIds x [call] := by
      intro c hc
      exact hfresh c (List.mem_singleton.mp hc ▸ List.mem_cons_self)
    have hrest : FreshIds x calls := fun c hc => hfresh c (List.mem_cons_of_mem call hc)
    have hdispatch := @dispatchAgentTool_dispatch env settings host texts agent mandateId call y
    rw [traceToolCalls, RaisesAfterCommit]
    generalize callFate env host texts agent mandateId call y.view = fate at hdispatch
    generalize dispatchAgentTool env settings host texts agent mandateId call y = result
      at hdispatch
    cases hdispatch with
    | raised refusal => exact ⟨acted, h, Iff.rfl⟩
    | answered hid => exact ih (h.answered agent.id call.name hid) hrest
    | acted hafter hrequested =>
      have hnext := ih (h.acts agent.id hfirst hrequested) hrest
      rw [hafter]
      exact hnext

end Loop

/-! ### A purchase of the sample world -/

namespace Sample

open ControlPlane.Sample

/-- The sample world with a mandate that covers a keyboard. -/
def shop : Store :=
  { store with
    mandates := table { mandate with maxAmountPerOp := 1000000, aggregateSpendLimit := 1000000 } }

def keyboard : LlmToolCall where
  name := "create_purchase_order"
  arguments := [("product_id", .str "prod_kb_01"), ("quantity", .int 1)]
  hex := ⟨"0123456789abcdef0123456789abcdef", McpGateway.Sample.digits_length⟩
  inputs := inputs "op_1" "order_1" 650000

/-- The session of a chat in the sample world. -/
def opened : TurnSession where
  session := ⟨⟨shop, []⟩, ⟨shop, []⟩, [], []⟩
  persisted := []
  added := []

/-- A turn that buys a keyboard, and whether the model then finds an answer. -/
def buying (replies : Bool) : Completions := ⟨some [keyboard], replies⟩

def left (replies : Bool) : Store × List TraceRow :=
  executeTracedTurn platform settings plainConversions TransactionLookup.Sample.texts
    ControlPlane.Sample.agent "mnd_1" (buying replies) opened

end Sample

end MandatePlane.AgentRunner
