import SocAnalyst.Dicts
import SocAnalyst.Values

/-!
# The state of the investigation graph

The state object of `graph/state.py` with its reducers: the node history is appended to
and numbered, and a sub-state is merged key by key, lists by concatenation.
-/
namespace SocAnalyst.Graph
open SocAnalyst.Builtins SocAnalyst.Values SocAnalyst.Dicts

/-- The entries of a `dict`. -/
abbrev Mapping := List (Text × Value)

/-- `mapping.get(key)`. -/
def get (mapping : Mapping) (key : Text) : Value := (lookup mapping key).getD .null

@[simp] theorem lookup_assign (mapping : Mapping) (key other : Text) (value : Value) :
    lookup (assign key value mapping) other = if other = key then some value else lookup mapping other :=
  Dict.find?_assign key other value mapping

/-! ### Reducers -/

inductive Node where
  | INGEST_SEED
  | LOG_ANALYSIS
  | THREAT_DETECTION
  | CVE_RESEARCH
  | REPORT
  | REMEDIATION
  | TRIAGE
  | HUMAN_GATE
  | NOTIFY
  | CLOSE
  deriving DecidableEq, Repr

def Node.value : Node → Text
  | .INGEST_SEED => lit "ingest_seed"
  | .LOG_ANALYSIS => lit "log_analysis"
  | .THREAT_DETECTION => lit "threat_detection"
  | .CVE_RESEARCH => lit "cve_research"
  | .REPORT => lit "report"
  | .REMEDIATION => lit "remediation"
  | .TRIAGE => lit "triage"
  | .HUMAN_GATE => lit "human_gate"
  | .NOTIFY => lit "notify"
  | .CLOSE => lit "close"

/-- One entry in the per-node transition log. -/
structure NodeTransition where
  sequence : Nat := 0
  node : Node
  owner : Text
  status : Text
  detail : Text
  deriving DecidableEq

/-- Append transitions, stamping each new one with a monotonic sequence number. -/
def extendHistory (current incoming : List NodeTransition) : List NodeTransition :=
  current ++ incoming.mapIdx fun index transition => { transition with sequence := current.length + index }

mutual
def mergeValue : Value → Value → Value
  | .list current, .list incoming => .list (current ++ incoming)
  | .dict current, .dict incoming => .dict (mergeMapping current incoming)
  | _, incoming => incoming
def mergeMapping (current : List (Text × Value)) : List (Text × Value) → List (Text × Value)
  | [] => current
  | (key,value) :: rest =>
    mergeMapping (assign key (match lookup current key with
      | some old => mergeValue old value
      | none => value) current) rest
end

/-- Merge a sub-state update: lists append, nested mappings merge, scalars overwrite. -/
def mergeSubstate (current incoming : Mapping) : Mapping := mergeMapping current incoming

/-! ### The composed state -/

/-- Investigation lifecycle. -/
inductive InvestigationStatus where
  | OPEN
  | IN_PROGRESS
  | AWAITING_APPROVAL
  | CLOSED
  | ARCHIVED
  deriving DecidableEq, Repr

def InvestigationStatus.value : InvestigationStatus → Text
  | .OPEN => lit "open"
  | .IN_PROGRESS => lit "in_progress"
  | .AWAITING_APPROVAL => lit "awaiting_approval"
  | .CLOSED => lit "closed"
  | .ARCHIVED => lit "archived"

structure GraphState where
  schemaVersion : Int
  investigationId : Text
  triggerSource : Text
  status : InvestigationStatus
  currentNode : Option Node
  configSnapshot : Mapping
  createdAt : Text
  updatedAt : Text
  nodeHistory : List NodeTransition
  errors : List Value
  shared : Mapping
  agents : Mapping
  evidence : Mapping
  investigation : Mapping
  report : Mapping
  notification : Mapping
  conversation : Mapping

/-- What a node writes; a sub-state it does not name is not touched. -/
structure Update where
  status : Option InvestigationStatus := none
  currentNode : Node
  updatedAt : Text
  nodeHistory : List NodeTransition
  agents : Mapping := []
  investigation : Mapping := []
  report : Mapping := []
  notification : Mapping := []
  conversation : Mapping := []

/-- The state after an update, each channel through its reducer. -/
def GraphState.apply (state : GraphState) (update : Update) : GraphState :=
  { state with
    status := update.status.getD state.status
    currentNode := some update.currentNode
    updatedAt := update.updatedAt
    nodeHistory := extendHistory state.nodeHistory update.nodeHistory
    agents := mergeSubstate state.agents update.agents
    investigation := mergeSubstate state.investigation update.investigation
    report := mergeSubstate state.report update.report
    notification := mergeSubstate state.notification update.notification
    conversation := mergeSubstate state.conversation update.conversation }

/-- `list(value)` of an optional entry. -/
def listed (mapping : Mapping) (key : Text) : Except PyError Value :=
  ((lookup mapping key).getD (.list [])).iterate.map .list

/-- A fresh, fully-initialized state for a new investigation. -/
def newState (investigationId triggerSource : Text) (configSnapshot : Mapping) (createdAt : Text) (evidence : Mapping)
    (assets : List Mapping) : Except PyError GraphState := do
  let rawRecords ← listed evidence (lit "raw_records")
  let requestedSources ← listed evidence (lit "requested_sources")
  let sourceFailures ← listed evidence (lit "source_failures")
  return {
    schemaVersion := 2
    investigationId, triggerSource
    status := .OPEN
    currentNode := none
    configSnapshot := if (lookup configSnapshot (lit "schema_version")).isSome then configSnapshot
      else configSnapshot ++ [(lit "schema_version",.int 2)]
    createdAt
    updatedAt := createdAt
    nodeHistory := []
    errors := []
    shared := [(lit "retrieved_context",.list []),(lit "entities",.list []),(lit "assets",.list (assets.map .dict)),
      (lit "working_notes",.list [])]
    agents := []
    evidence := [(lit "raw_records",rawRecords),(lit "requested_sources",requestedSources),
      (lit "source_failures",sourceFailures),(lit "time_window",get evidence (lit "time_window"))]
    investigation := [(lit "normalized_events",.list []),(lit "timeline",.list []),(lit "threat_assessment",.null),
      (lit "vulnerability_dossier",.null),(lit "remediation_plan",.null),(lit "coverage_gaps",.list [])]
    report := [(lit "executive_summary",.null),(lit "technical_report",.null),(lit "citations",.list []),
      (lit "report_status",.null)]
    notification := [(lit "pending",.list []),(lit "sent",.list []),(lit "channel_results",.list [])]
    conversation := [(lit "messages",.list []),(lit "human_decisions",.list []),(lit "open_questions",.list [])] }

/-! ### What the reducers keep -/

@[simp] theorem mergeSubstate_nil (current : Mapping) : mergeSubstate current [] = current := by
  simp [mergeSubstate,mergeMapping]

/-- The history only grows. -/
theorem prefix_extendHistory (current incoming : List NodeTransition) : current <+: extendHistory current incoming :=
  List.prefix_append _ _

/-- A history numbered by position. -/
def Numbered (history : List NodeTransition) : Prop := history.map (·.sequence) = List.range history.length

theorem numbered_extendHistory {current : List NodeTransition} (numbered : Numbered current) (incoming : List NodeTransition) :
    Numbered (extendHistory current incoming) := by
  unfold Numbered extendHistory at *
  rw [List.map_append,numbered,List.length_append,List.length_mapIdx,List.range_add]
  congr 1
  apply List.ext_getElem <;> simp

end SocAnalyst.Graph
