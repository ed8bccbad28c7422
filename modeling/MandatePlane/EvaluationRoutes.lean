import MandatePlane.DemoRoutes
import MandatePlane.EvaluationHarness

/-!
# The benchmark endpoint

`execute_adversarial_benchmark` looks for an agent and an ACTIVE mandate to run under.  Where it
finds none it resets the demonstration and takes the seeded ones.  The scenarios then run in
the session of the request, turn by turn.
-/

namespace MandatePlane.EvaluationRoutes

open DomainModel KeyedTable HostEnvironment EntryPoints AgentRunner EvaluationHarness
open TransactionLookup AgentRoutes DemoRoutes

structure RunBenchmarkRequest where
  agentId : Option String
  multiplier : ℕ
  multiplier_bounds : 1 ≤ multiplier ∧ multiplier ≤ 500

/-- What a benchmark runs under, as far as it is there. -/
structure Subject where
  agent : Option Agent
  mandate : Option Mandate

def isActive (m : Mandate) : Bool := m.status = .active

/-- Step 1: the agent that is named and an ACTIVE mandate of it, or the first agent and the first
ACTIVE mandate there are. -/
def benchmarkSubject (agentId : Option String) (s : Store) : Except Refusal Subject :=
  match PolicyEngine.truthyId agentId with
  | some agentId =>
    (orRefuse (s.agents.find? agentId) (.http 404 "Agent not found")).map fun agent =>
      ⟨some agent, s.mandates.rows.find? fun m => m.agentId = agent.id && isActive m⟩
  | none => .ok ⟨s.agents.rows.head?, s.mandates.rows.find? isActive⟩

/-- Both are there. -/
def Subject.pair (subject : Subject) : Option (Agent × Mandate) :=
  match subject.agent, subject.mandate with
  | some agent, some mandate => some (agent, mandate)
  | _, _ => none

/-- The session of a request, before anything is written. -/
def openTurn (d : Database) : TurnSession := ⟨⟨d, d, [], []⟩, [], []⟩

/-- How a benchmark ends. -/
structure BenchmarkDone where
  dataset : Dataset
  journal : List JournalEntry
  answer : Except Refusal BenchmarkCounts

/-- The scenarios under an agent and a mandate; what raises keeps what the turns committed. -/
def runBenchmark (env : Platform) (settings : Settings) (host : Conversions) (texts : LedgerTexts)
    (agent : Agent) (mandate : Mandate) (multiplier : ℕ) (scenarios : List AdversarialScenario)
    (d : Dataset) : BenchmarkDone :=
  match runEvaluation env settings host texts agent mandate.id multiplier scenarios
      (openTurn d.database) with
  | .error x => ⟨{ d with database := x.session.committed }, observed x.session.done,
      .error .serverError⟩
  | .ok (x, counts) => ⟨{ d with database := x.session.committed }, observed x.session.done,
      .ok counts⟩

/-- The seeded agent and mandate. -/
def seededSubject (s : Store) : Option (Agent × Mandate) :=
  Subject.pair ⟨s.agents.find? parentAgentId, s.mandates.find? parentMandateId⟩

/-- `POST /evaluation/run`. -/
def executeAdversarialBenchmark (env : Platform) (settings : Settings) (host : Conversions)
    (texts : LedgerTexts) (payload : RunBenchmarkRequest) (scenarios : List AdversarialScenario)
    (reset : ResetInputs) (d : Dataset) : BenchmarkDone :=
  match benchmarkSubject payload.agentId d.store with
  | .error refusal => ⟨d, [], .error refusal⟩
  | .ok subject =>
    match subject.pair with
    | some (agent, mandate) =>
      runBenchmark env settings host texts agent mandate payload.multiplier scenarios d
    | none =>
      match resetDemoDataset env settings reset with
      | .error refusal => ⟨d, [], .error refusal⟩
      | .ok d =>
        match seededSubject d.store with
        | none => ⟨d, [.cleared],
            .error (.http 500 "Failed to initialize benchmark agent and mandate.")⟩
        | some (agent, mandate) =>
          let done := runBenchmark env settings host texts agent mandate payload.multiplier
            scenarios d
          { done with journal := .cleared :: done.journal }

end MandatePlane.EvaluationRoutes
