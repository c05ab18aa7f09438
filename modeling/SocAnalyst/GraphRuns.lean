import SocAnalyst.GraphNodes
import SocAnalyst.Decisions
import SocAnalyst.Runs

/-!
# Running the investigation graph

The edges of `graph/builder.py` and the service of `graph/runtime.py`: a run drives the
graph from node to node until it waits for a person, ends or raises.
-/
namespace SocAnalyst.Graph
open SocAnalyst.Builtins SocAnalyst.Values SocAnalyst.Dicts SocAnalyst.Risk SocAnalyst.Decisions SocAnalyst.Runs

/-! ### Edges -/

/-- Branch on the verdict. -/
def routeAfterThreat (state : GraphState) : Except PyError Node := do
  match ← (get state.investigation (lit "threat_assessment")).getOr (lit "verdict") .null with
  | .str verdict => if verdict = Verdict.BENIGN.value then return .REPORT else return .CVE_RESEARCH
  | _ => return .CVE_RESEARCH

/-- The arm of the gate that a decision takes. -/
def armOf : Value → Node
  | .str decision =>
    if decision = DecisionType.REDIRECT.value then .TRIAGE
    else if decision = DecisionType.APPROVE.value then .NOTIFY
    else .CLOSE
  | _ => .CLOSE

/-- Branch on the recorded human decision. -/
def routeAfterGate (state : GraphState) : Except PyError Node := do
  let decisions ← item (lit "human_decisions") (.dict state.conversation)
  if !decisions.truthy then return .CLOSE
  match decisions with
  | .list decisions =>
    match decisions.getLast? with
    | none => return .CLOSE
    | some last => return armOf (← getFrom (lit "decision") .null last)
  | _ => throw .TypeError

/-- What runs after a node, on the state it left. -/
def successor (node : Node) (state : GraphState) : Except PyError (Option Node) :=
  match node with
  | .INGEST_SEED => .ok (some .LOG_ANALYSIS)
  | .LOG_ANALYSIS => .ok (some .THREAT_DETECTION)
  | .THREAT_DETECTION => (routeAfterThreat state).map some
  | .CVE_RESEARCH => .ok (some .REPORT)
  | .REPORT => .ok (some .REMEDIATION)
  | .REMEDIATION => .ok (some .TRIAGE)
  | .TRIAGE => .ok (some .HUMAN_GATE)
  | .HUMAN_GATE => (routeAfterGate state).map some
  | .NOTIFY => .ok (some .CLOSE)
  | .CLOSE => .ok none

/-! ### The service -/

/-- A checkpoint: the state, and the node that runs next unless the graph has ended. -/
structure Checkpoint where
  values : GraphState
  next : Option Node

/-- A human decision as the service is given it. -/
inductive GivenDecision where
  | text (decision : Text)
  | mapping (data : Mapping)

/-- Why the service does not return a result. -/
inductive GraphError where
  | invalidResume (message : Text)
  | raised (error : PyError)

structure GraphRunResult where
  investigationId : Text
  status : InvestigationStatus
  currentNode : Option Node
  awaitingHuman : Bool
  pendingInterrupt : Option Mapping
  nodeHistory : List NodeTransition
  createdAt : Text
  updatedAt : Text

section
variable [Printer] (agents : Agents)

/-- One node on the state; a decision reaches the gate only. -/
def execute (node : Node) (resume : Option Mapping) (state : GraphState) : Except Stop Update :=
  match node with
  | .INGEST_SEED => (ingestSeed agents state).mapError .raised
  | .LOG_ANALYSIS => (logAnalysis agents state).mapError .raised
  | .THREAT_DETECTION => (threatDetection agents state).mapError .raised
  | .CVE_RESEARCH => (cveResearch agents state).mapError .raised
  | .REPORT => (report agents state).mapError .raised
  | .REMEDIATION => (remediation agents state).mapError .raised
  | .TRIAGE => (triage agents state).mapError .raised
  | .HUMAN_GATE => humanGate agents state resume
  | .NOTIFY => (notify agents state).mapError .raised
  | .CLOSE => (close agents state).mapError .raised

/-- One node, its update applied, and the edge it leaves by. -/
def advance (node : Node) (resume : Option Mapping) (state : GraphState) : Except Stop (Update × Checkpoint) :=
  match execute agents node resume state with
  | .error stop => .error stop
  | .ok update =>
    match successor node (state.apply update) with
    | .error e => .error (.raised e)
    | .ok next => .ok (update,⟨state.apply update,next⟩)

/-- How far a node is from the end when no decision is at hand. -/
def rank : Node → Nat
  | .INGEST_SEED => 10
  | .LOG_ANALYSIS => 9
  | .THREAT_DETECTION => 8
  | .CVE_RESEARCH => 7
  | .REPORT => 6
  | .REMEDIATION => 5
  | .TRIAGE => 4
  | .HUMAN_GATE => 3
  | .NOTIFY => 2
  | .CLOSE => 1

omit [Printer] in
theorem successor_rank {node other : Node} {state : GraphState} (after : successor node state = .ok (some other))
    (elsewhere : node ≠ .HUMAN_GATE) : rank other < rank node := by
  cases node with
  | THREAT_DETECTION =>
    unfold successor routeAfterThreat at after
    cases verdict : (get state.investigation (lit "threat_assessment")).getOr (lit "verdict") .null with
    | error e => simp [verdict,bind,Except.bind,Except.map] at after
    | ok value =>
      cases value with
      | str text =>
        by_cases benign : text = Verdict.BENIGN.value <;>
          simp [verdict,benign,bind,Except.bind,Except.map,pure,Except.pure] at after <;> subst after <;> decide
      | _ => simp [verdict,bind,Except.bind,Except.map,pure,Except.pure] at after; subst after; decide
  | HUMAN_GATE => exact absurd rfl elsewhere
  | _ =>
    simp [successor] at after
    try (subst after; decide)

theorem advance_rank {node : Node} {resume : Option Mapping} {state : GraphState} {update : Update} {next : Checkpoint}
    {other : Node} (ran : advance agents node resume state = .ok (update,next)) (follows : next.next = some other) :
    node = .HUMAN_GATE ∧ resume ≠ none ∨ rank other < rank node := by
  unfold advance at ran
  cases executed : execute agents node resume state with
  | error stop => simp [executed] at ran
  | ok done =>
    cases edge : successor node (state.apply done) with
    | error e => simp [executed,edge] at ran
    | ok after =>
      simp only [executed,edge,Except.ok.injEq,Prod.mk.injEq] at ran
      obtain ⟨_,rfl⟩ := ran
      simp only at follows
      subst follows
      by_cases gate : node = .HUMAN_GATE
      · subst gate
        refine .inl ⟨rfl,?_⟩
        rintro rfl
        unfold execute humanGate at executed
        simp only at executed
        split at executed <;> cases executed
      · exact .inr (successor_rank edge gate)

/-- How a run came to a stop. -/
inductive Outcome where
  | finished
  | paused (payload : Mapping)
  | raised (error : PyError)

set_option linter.unusedVariables false in
/-- Drive the graph to its next stop, reporting each node as it completes. The decision
    is at hand for the first node only. -/
def stream (resume : Option Mapping) (checkpoint : Checkpoint) : List (Node × Update) × Checkpoint × Outcome :=
  match here : checkpoint.next with
  | none => ([],checkpoint,.finished)
  | some node =>
    match ran : advance agents node resume checkpoint.values with
    | .error (.interrupted payload) => ([],checkpoint,.paused payload)
    | .error (.raised e) => ([],checkpoint,.raised e)
    | .ok (update,next) =>
      let later := stream none next
      ((node,update) :: later.1,later.2)
termination_by (if resume.isSome then 20 else 0) + (checkpoint.next.map rank).getD 0
decreasing_by
  have positive : 0 < rank node := by cases node <;> decide
  cases follows : next.next with
  | none => simp [here]; omega
  | some other =>
    have small : rank other ≤ 10 := by cases other <;> decide
    rcases advance_rank agents ran follows with ⟨_,resumed⟩ | lower
    · have given : resume.isSome = true := Option.isSome_iff_ne_none.mpr resumed
      simp [here,given]
      omega
    · simp [here]
      omega

/-- The decisions a person may take. -/
def validDecisions : List Text := [DecisionType.APPROVE,.EDIT,.REJECT,.REDIRECT].map DecisionType.value

def coerceDecision (decision : GivenDecision) : Except GraphError Mapping :=
  let data := match decision with
    | .text decision => [(lit "decision",.str decision)]
    | .mapping data => data
  let value := lower ((lookup data (lit "decision")).getD (.str [])).toText
  if value ∈ validDecisions then .ok (assign (lit "decision") (.str value) data)
  else .error (.invalidResume (lit "invalid decision: " ++ Interpreter.repr value))

omit [Printer] in
/-- The outcome of a run, read off the state it left. -/
def resultOf (checkpoint : Checkpoint) (pending : Option Mapping) : GraphRunResult where
  investigationId := checkpoint.values.investigationId
  status := checkpoint.values.status
  currentNode := checkpoint.values.currentNode
  awaitingHuman := pending.isSome
  pendingInterrupt := pending
  nodeHistory := checkpoint.values.nodeHistory
  createdAt := checkpoint.values.createdAt
  updatedAt := checkpoint.values.updatedAt

omit [Printer] in
/-- The result of a run that stopped, unless it raised. -/
def Outcome.result (checkpoint : Checkpoint) : Outcome → Except GraphError GraphRunResult
  | .finished => .ok (resultOf checkpoint none)
  | .paused payload => .ok (resultOf checkpoint (some payload))
  | .raised e => .error (.raised e)

/-- What a run reports, leaves and returns. -/
def runFrom (resume : Option Mapping) (checkpoint : Checkpoint) :
    List (Node × Update) × Checkpoint × Except GraphError GraphRunResult :=
  let ran := stream agents resume checkpoint
  (ran.1,ran.2.1,ran.2.2.result ran.2.1)

/-- Start a new investigation, running until the human gate or completion. -/
def start (values : GraphState) : List (Node × Update) × Checkpoint × Except GraphError GraphRunResult :=
  runFrom agents none ⟨values,some .INGEST_SEED⟩

/-- Resume a paused investigation with a recorded human decision. -/
def resume (decision : GivenDecision) (checkpoint : Checkpoint) :
    List (Node × Update) × Checkpoint × Except GraphError GraphRunResult :=
  match checkpoint.next with
  | none => ([],checkpoint,.error (.invalidResume (lit "investigation is not awaiting a human decision")))
  | some _ =>
    match coerceDecision decision with
    | .error e => ([],checkpoint,.error e)
    | .ok normalized => runFrom agents (some normalized) checkpoint

end
end SocAnalyst.Graph
