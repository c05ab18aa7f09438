import SocAnalyst.GraphState
import SocAnalyst.Risk

/-!
# The nodes of the investigation graph

The nodes of `graph/nodes.py`. What the five agents return is a parameter; the nodes
around them read the state and write their update as the source does.
-/
namespace SocAnalyst.Graph
open SocAnalyst.Builtins SocAnalyst.Values SocAnalyst.Dicts SocAnalyst.Risk

/-! ### What the agents are asked and answer -/

/-- Threat Detector verdict. -/
inductive Verdict where
  | BENIGN
  | SUSPICIOUS
  | MALICIOUS
  deriving DecidableEq, Repr

def Verdict.value : Verdict → Text
  | .BENIGN => lit "benign"
  | .SUSPICIOUS => lit "suspicious"
  | .MALICIOUS => lit "malicious"

def severityValue : Severity → Text
  | .INFO => lit "info"
  | .LOW => lit "low"
  | .MEDIUM => lit "medium"
  | .HIGH => lit "high"
  | .CRITICAL => lit "critical"

def priorityValue : TriagePriority → Text
  | .LOW => lit "low"
  | .MEDIUM => lit "medium"
  | .HIGH => lit "high"
  | .URGENT => lit "urgent"

/-- An optional text, dumped. -/
def dumpText : Option Text → Value
  | none => .null
  | some text => .str text

structure SourceFailure where
  sourceId : Text
  reason : Text
  detail : Text

structure LogAnalysisRequest where
  investigationId : Text
  records : List Value
  requestedSources : List Value
  timeWindow : Option Value
  sourceFailures : List SourceFailure

structure LogAnalysisResult where
  events : List Value
  timeline : List Value
  correlations : List Value
  /-- The kind and the detail of each gap. -/
  coverageGaps : List (Text × Text)
  quarantined : List Value
  sourceCoverage : Value
  parseFailureRate : Value

structure ThreatDetectionRequest where
  investigationId : Text
  events : List Value
  timeline : List Value
  coverageGaps : List Value
  internalNetworks : List Value
  criticalAssets : List Value

/-- The fields of the assessment that the graph reads, and the others. -/
structure ThreatDetectionResult where
  verdict : Verdict
  severity : Severity
  score : Value
  triagePriority : TriagePriority
  signals : List Value
  iocs : List Value
  attackTechniques : List (Text × Mapping)
  enrichmentStatus : Text
  escalationRequired : Bool
  escalationReason : Option Text
  confidence : Value
  others : Mapping

/-- `model_dump` of an assessment. -/
def ThreatDetectionResult.dump (result : ThreatDetectionResult) : Mapping :=
  [(lit "verdict",.str result.verdict.value),
    (lit "severity",.dict [(lit "score",result.score),(lit "level",.str (severityValue result.severity))]),
    (lit "triage_priority",.str (priorityValue result.triagePriority)),
    (lit "iocs",.list result.iocs),
    (lit "attack_techniques",.list (result.attackTechniques.map fun technique =>
      .dict ((lit "technique_id",.str technique.1) :: technique.2))),
    (lit "signals",.list result.signals),
    (lit "enrichment_status",.str result.enrichmentStatus),
    (lit "escalation_required",.bool result.escalationRequired),
    (lit "escalation_reason",dumpText result.escalationReason),
    (lit "confidence",result.confidence)] ++ result.others

structure CveResearchRequest where
  investigationId : Text
  threatAssessment : Value
  assets : List Value
  /-- The messages in which identifiers are looked for. -/
  evidenceText : Text

/-- The dossier: of each confirmed assessment its CVE and the rest. -/
structure CveResearchResult where
  cves : List (Text × Mapping × Mapping)
  candidates : List Value
  searchedProducts : List Value
  highestSeverity : Option Severity
  stale : Bool
  others : Mapping

def CveResearchResult.dump (result : CveResearchResult) : Mapping :=
  [(lit "cves",.list (result.cves.map fun cve =>
      .dict ((lit "record",.dict ((lit "cve_id",.str cve.1) :: cve.2.1)) :: cve.2.2))),
    (lit "candidates",.list result.candidates),
    (lit "stale",.bool result.stale),
    (lit "searched_products",.list result.searchedProducts)] ++ result.others

structure IncidentReportRequest where
  investigationId : Text
  triggerSource : Text
  logAnalysis : Option Mapping
  threatAssessment : Value
  vulnerabilityDossier : Value
  criticalAssets : List Value

structure IncidentReport where
  executiveSummary : Text
  technicalBody : Text
  citations : List Value
  status : Text
  findings : List Value
  timeline : List Value
  affectedAssets : List Text
  caveats : List Text
  isComplete : Bool

structure RemediationPlanRequest where
  investigationId : Text
  threatAssessment : Value
  vulnerabilityDossier : Value
  assets : List Value
  criticalAssets : List Value

structure RemediationPlan where
  recommendations : List (TriagePriority × Mapping)
  highestPriority : Option TriagePriority
  /-- The score of the overall risk, and its other fields. -/
  overallRisk : Option (Value × Mapping)
  knowledgeLimited : Bool
  others : Mapping

def dumpRisk : Option (Value × Mapping) → Value
  | none => .null
  | some risk => .dict ((lit "score",risk.1) :: risk.2)

def RemediationPlan.dump (plan : RemediationPlan) : Mapping :=
  [(lit "recommendations",.list (plan.recommendations.map fun item =>
      .dict ((lit "priority",.str (priorityValue item.1)) :: item.2))),
    (lit "overall_risk",dumpRisk plan.overallRisk),
    (lit "requires_human_approval",.bool true),
    (lit "knowledge_limited",.bool plan.knowledgeLimited)] ++ plan.others

structure AgentOutcome (α : Type) where
  output : α
  confidence : Value
  promptVersion : Value
  toolCalls : List Value

/-- The agents, each of which may raise, and the clock at each length of the history. -/
structure Agents where
  analyze : LogAnalysisRequest → Except PyError (AgentOutcome LogAnalysisResult)
  assess : ThreatDetectionRequest → Except PyError (AgentOutcome ThreatDetectionResult)
  research : CveResearchRequest → Except PyError (AgentOutcome CveResearchResult)
  report : IncidentReportRequest → Except PyError (AgentOutcome IncidentReport)
  recommend : RemediationPlanRequest → Except PyError (AgentOutcome RemediationPlan)
  /-- Whether a seeded asset record validates. -/
  readable : Value → Bool
  utcnow : Nat → Text

/-! ### Reading values -/

/-- `value.get(key, default)`. -/
def getFrom (key : Text) (default : Value) : Value → Except PyError Value
  | .dict entries => .ok ((lookup entries key).getD default)
  | _ => .error .AttributeError

/-- `value[key]`. -/
def item (key : Text) : Value → Except PyError Value
  | .dict entries =>
    match lookup entries key with
    | some value => .ok value
    | none => .error .KeyError
  | _ => .error .TypeError

/-- `len(value)`. -/
def size : Value → Except PyError Nat
  | .list items => .ok items.length
  | .dict entries => .ok entries.length
  | .str text => .ok text.length
  | _ => .error .TypeError

/-- `list(mapping.get(key, []))`. -/
def listFrom (mapping : Mapping) (key : Text) : Except PyError (List Value) := ((lookup mapping key).getD (.list [])).iterate

/-- An item of `str.join`, which has to be a string. -/
def joinable : Value → Except PyError Text
  | .str text => .ok text
  | _ => .error .TypeError

/-- `str.join` over values. -/
def joinStrings (separator : Text) (values : List Value) : Except PyError Text :=
  (mapRaising joinable values).map (joined separator)

def number (n : Nat) : Text := lit (toString n)

/-- `text.strip(": ")`. -/
def stripColons (text : Text) : Text :=
  (text.dropWhile fun c => c = 58 || c = 32).rdropWhile fun c => c = 58 || c = 32

/-- Build a transition record; the reducer stamps its `sequence`. -/
def transition (node : Node) (owner detail : Text) : NodeTransition :=
  { node := node, owner := owner, status := lit "completed", detail := detail }

def ownerRuntime : Text := lit "graph-runtime"

/-- An agent's record of its own run. -/
def agentRecord {α : Type} (name : Text) (outcome : AgentOutcome α) (lastOutput : Mapping) : Mapping :=
  [(name,.dict [(lit "agent_name",.str name),
    (lit "last_output",.dict (lastOutput ++ [(lit "prompt_version",outcome.promptVersion)])),
    (lit "confidence",outcome.confidence),(lit "retry_count",.int 0),(lit "tool_calls",.list outcome.toolCalls)])]

/-! ### The nodes before the gate -/

section
variable [Printer] (agents : Agents) (state : GraphState)

omit [Printer] in
def ingestSeed : Except PyError Update :=
  .ok { status := some .IN_PROGRESS, currentNode := .INGEST_SEED, updatedAt := agents.utcnow state.nodeHistory.length
        nodeHistory := [transition .INGEST_SEED ownerRuntime (lit "investigation seeded")] }

def readFailure : Value → Except PyError SourceFailure
  | .dict entries => .ok {
      sourceId := ((lookup entries (lit "source_id")).getD (.str [])).toText
      reason := ((lookup entries (lit "reason")).getD (.str (lit "unknown"))).toText
      detail := ((lookup entries (lit "detail")).getD (.str [])).toText }
  | _ => .error .AttributeError

/-- Normalize and correlate the seeded evidence into a timeline. -/
def logAnalysis : Except PyError Update := do
  let window := get state.evidence (lit "time_window")
  let records ← listFrom state.evidence (lit "raw_records")
  let requestedSources ← listFrom state.evidence (lit "requested_sources")
  let failures ← mapRaising readFailure (← listFrom state.evidence (lit "source_failures"))
  let outcome ← agents.analyze
    ⟨state.investigationId,records,requestedSources,if window.truthy then some window else none,failures⟩
  let result := outcome.output
  return {
    currentNode := .LOG_ANALYSIS
    updatedAt := agents.utcnow state.nodeHistory.length
    investigation := [(lit "normalized_events",.list result.events),(lit "timeline",.list result.timeline),
      (lit "coverage_gaps",.list (result.coverageGaps.map fun gap => .str (stripColons (gap.1 ++ lit ": " ++ gap.2))))]
    agents := agentRecord (lit "log_analyzer") outcome [(lit "events",.int result.events.length),
      (lit "correlations",.int result.correlations.length),(lit "quarantined",.int result.quarantined.length),
      (lit "source_coverage",result.sourceCoverage),(lit "parse_failure_rate",result.parseFailureRate)]
    nodeHistory := [transition .LOG_ANALYSIS (lit "log-analyzer") (number result.events.length ++ lit " events, " ++
      number result.correlations.length ++ lit " correlations, " ++ number result.coverageGaps.length ++ lit " gaps")] }

omit [Printer] in
/-- Assess the normalized evidence into a verdict, IoCs, techniques, and severity. -/
def threatDetection : Except PyError Update := do
  let events ← listFrom state.investigation (lit "normalized_events")
  let timeline ← listFrom state.investigation (lit "timeline")
  let coverageGaps ← listFrom state.investigation (lit "coverage_gaps")
  let internalNetworks ← listFrom state.configSnapshot (lit "internal_networks")
  let criticalAssets ← listFrom state.configSnapshot (lit "critical_assets")
  let outcome ← agents.assess ⟨state.investigationId,events,timeline,coverageGaps,internalNetworks,criticalAssets⟩
  let result := outcome.output
  return {
    currentNode := .THREAT_DETECTION
    updatedAt := agents.utcnow state.nodeHistory.length
    investigation := [(lit "threat_assessment",.dict result.dump)]
    agents := agentRecord (lit "threat_detector") outcome [(lit "verdict",.str result.verdict.value),
      (lit "severity",.str (severityValue result.severity)),(lit "severity_score",result.score),
      (lit "triage_priority",.str (priorityValue result.triagePriority)),(lit "signals",.int result.signals.length),
      (lit "iocs",.int result.iocs.length),
      (lit "attack_techniques",.list (result.attackTechniques.map fun technique => .str technique.1)),
      (lit "enrichment_status",.str result.enrichmentStatus),(lit "escalation_required",.bool result.escalationRequired)]
    nodeHistory := [transition .THREAT_DETECTION (lit "threat-detector") (lit "verdict=" ++ result.verdict.value ++
      lit ", severity=" ++ severityValue result.severity ++ lit ", " ++ number result.signals.length ++
      lit " signal(s), " ++ number result.attackTechniques.length ++ lit " technique(s)")] }

/-- Research the vulnerabilities relevant to an assessed threat. -/
def cveResearch : Except PyError Update := do
  let seeded ← listFrom state.shared (lit "assets")
  let events ← listFrom state.investigation (lit "normalized_events")
  let messages ← mapRaising (getFrom (lit "message") (.str [])) events
  let outcome ← agents.research ⟨state.investigationId,get state.investigation (lit "threat_assessment"),
    seeded.filter agents.readable,joined (lit " ") (messages.map Value.toText)⟩
  let result := outcome.output
  let unreadable := (seeded.filter fun asset => !agents.readable asset).length
  return {
    currentNode := .CVE_RESEARCH
    updatedAt := agents.utcnow state.nodeHistory.length
    investigation := [(lit "vulnerability_dossier",.dict result.dump)]
    agents := agentRecord (lit "cve_research") outcome [(lit "confirmed",.int result.cves.length),
      (lit "candidates",.int result.candidates.length),(lit "searched_products",.list result.searchedProducts),
      (lit "highest_severity",dumpText (result.highestSeverity.map severityValue)),(lit "stale",.bool result.stale)]
    nodeHistory := [transition .CVE_RESEARCH (lit "cve-research") (number result.cves.length ++ lit " confirmed, " ++
      number result.candidates.length ++ lit " candidate(s) across " ++ number result.searchedProducts.length ++
      lit " product(s)" ++
      (if unreadable = 0 then [] else lit "; " ++ number unreadable ++ lit " asset record(s) unreadable"))] }

omit [Printer] in
/-- Synthesize every finding into the report a human will actually read. -/
def report : Except PyError Update := do
  let events ← listFrom state.investigation (lit "normalized_events")
  let timeline ← listFrom state.investigation (lit "timeline")
  let coverageGaps ← listFrom state.investigation (lit "coverage_gaps")
  let criticalAssets ← listFrom state.configSnapshot (lit "critical_assets")
  let outcome ← agents.report ⟨state.investigationId,state.triggerSource,
    if events = [] then none else some [(lit "events",.list events),(lit "timeline",.list timeline),
      (lit "coverage_gaps",.list coverageGaps)],
    get state.investigation (lit "threat_assessment"),get state.investigation (lit "vulnerability_dossier"),criticalAssets⟩
  let result := outcome.output
  return {
    currentNode := .REPORT
    updatedAt := agents.utcnow state.nodeHistory.length
    report := [(lit "executive_summary",.str result.executiveSummary),(lit "technical_report",.str result.technicalBody),
      (lit "citations",.list result.citations),(lit "report_status",.str result.status)]
    agents := agentRecord (lit "incident_reporter") outcome [(lit "findings",.int result.findings.length),
      (lit "timeline_entries",.int result.timeline.length),
      (lit "affected_assets",.list (result.affectedAssets.map .str)),(lit "caveats",.list (result.caveats.map .str)),
      (lit "complete",.bool result.isComplete)]
    nodeHistory := [transition .REPORT (lit "incident-reporter") (number result.findings.length ++ lit " finding(s), " ++
      number result.caveats.length ++ lit " caveat(s), " ++ number result.citations.length ++ lit " citation(s)")] }

omit [Printer] in
/-- Turn the findings into a prioritized plan for a human to approve. -/
def remediation : Except PyError Update := do
  let assets ← listFrom state.shared (lit "assets")
  let criticalAssets ← listFrom state.configSnapshot (lit "critical_assets")
  let outcome ← agents.recommend ⟨state.investigationId,get state.investigation (lit "threat_assessment"),
    get state.investigation (lit "vulnerability_dossier"),assets,criticalAssets⟩
  let plan := outcome.output
  return {
    currentNode := .REMEDIATION
    updatedAt := agents.utcnow state.nodeHistory.length
    investigation := [(lit "remediation_plan",.dict plan.dump)]
    agents := agentRecord (lit "patch_recommender") outcome [(lit "recommendations",.int plan.recommendations.length),
      (lit "highest_priority",dumpText (plan.highestPriority.map priorityValue)),
      (lit "overall_risk",match plan.overallRisk with
        | none => .float (.finite 0)
        | some risk => risk.1),
      (lit "knowledge_limited",.bool plan.knowledgeLimited),(lit "requires_human_approval",.bool true)]
    nodeHistory := [transition .REMEDIATION (lit "patch-recommender")
      (number plan.recommendations.length ++ lit " recommendation(s), all pending human approval")] }

/-- What triage records about the findings. -/
def triageDetail : Except PyError Text := do
  let assessment := get state.investigation (lit "threat_assessment")
  let verdict := (← assessment.getOr (lit "verdict") (.str [])).toText
  let priority := (← assessment.getOr (lit "triage_priority") (.str [])).toText
  let dossier := get state.investigation (lit "vulnerability_dossier")
  let researched ← if dossier.truthy then do
      let cves ← size (← getFrom (lit "cves") (.list []) dossier)
      pure (lit ", " ++ number cves ++ lit " confirmed CVE(s)")
    else pure (lit ", no CVE research")
  let drafted := if (get state.report (lit "technical_report")).truthy then lit ", report drafted" else lit ", no report"
  let plan := get state.investigation (lit "remediation_plan")
  let planned ← if plan.truthy then do
      let recommendations ← size (← getFrom (lit "recommendations") (.list []) plan)
      pure (lit ", " ++ number recommendations ++ lit " recommendation(s)")
    else pure []
  return lit "advanced to gate (verdict=" ++ (if verdict = [] then lit "not assessed" else verdict) ++ lit ", priority=" ++
    (if priority = [] then lit "unset" else priority) ++ researched ++ drafted ++ planned ++ lit ")"

/-- Set the investigation's disposition from the assessment and hand it to a human. -/
def triage : Except PyError Update :=
  (triageDetail state).map fun detail => {
    status := some .AWAITING_APPROVAL, currentNode := .TRIAGE, updatedAt := agents.utcnow state.nodeHistory.length
    nodeHistory := [transition .TRIAGE ownerRuntime detail] }

/-! ### The gate -/

/-- Why a node does not return an update: it waits for a person, or it raised. -/
inductive Stop where
  | interrupted (payload : Mapping)
  | raised (error : PyError)

omit [Printer] in
/-- The CVEs of the confirmed assessments. -/
def confirmedCves (dossier : Value) : Except PyError (List Value) := do
  let cves ← (← dossier.getOr (lit "cves") (.list [])).iterate
  mapRaising (fun cve => do item (lit "cve_id") (← item (lit "record") cve)) cves

omit [Printer] in
/-- Whether some recommendation has the priority. -/
def anyAt (priority : Text) : List Value → Except PyError Bool
  | [] => .ok false
  | recommendation :: rest => do
    match ← getFrom (lit "priority") .null recommendation with
    | .str text => if text = priority then return true else anyAt priority rest
    | _ => anyAt priority rest

omit [Printer] in
/-- The first of the priorities that some recommendation has. -/
def highestAt (recommendations : List Value) : List Text → Except PyError (Option Text)
  | [] => .ok none
  | priority :: rest => do
    if ← anyAt priority recommendations then return some priority
    else highestAt recommendations rest

omit [Printer] in
/-- What the analyst is being asked to authorize, and that it is unexecuted. -/
def remediationSummary : Except PyError Mapping := do
  let plan := get state.investigation (lit "remediation_plan")
  if !plan.truthy then
    return [(lit "recommendation_count",.int 0),(lit "recommendations_pending_approval",.bool false)]
  let recommendations ← (← getFrom (lit "recommendations") (.list []) plan).iterate
  let highest ← highestAt recommendations [lit "urgent",lit "high",lit "medium",lit "low"]
  let risk ← (← getFrom (lit "overall_risk") .null plan).getOr (lit "score") .null
  return [(lit "recommendation_count",.int recommendations.length),
    (lit "highest_recommendation_priority",dumpText highest),(lit "overall_risk",risk),
    (lit "recommendations_pending_approval",.bool !recommendations.isEmpty)]

omit [Printer] in
/-- What the analyst is being asked to weigh, drawn from the assessment. -/
def gateSummary : Except PyError Mapping := do
  let assessment := get state.investigation (lit "threat_assessment")
  if !assessment.truthy then
    return [(lit "assessed",.bool false)]
  let severity ← getFrom (lit "severity") .null assessment
  let dossier := get state.investigation (lit "vulnerability_dossier")
  let verdict ← getFrom (lit "verdict") .null assessment
  let level ← severity.getOr (lit "level") .null
  let score ← severity.getOr (lit "score") .null
  let priority ← getFrom (lit "triage_priority") .null assessment
  let confidence ← getFrom (lit "confidence") .null assessment
  let enrichment ← getFrom (lit "enrichment_status") .null assessment
  let escalated ← getFrom (lit "escalation_required") .null assessment
  let reason ← getFrom (lit "escalation_reason") .null assessment
  let confirmed ← confirmedCves dossier
  let candidates ← size (← dossier.getOr (lit "candidates") (.list []))
  let stale ← dossier.getOr (lit "stale") .null
  return [(lit "assessed",.bool true),(lit "verdict",verdict),(lit "severity",level),(lit "severity_score",score),
    (lit "triage_priority",priority),(lit "confidence",confidence),(lit "enrichment_status",enrichment),
    (lit "escalation_required",.bool escalated.truthy),(lit "escalation_reason",reason),
    (lit "confirmed_cves",.list confirmed),(lit "candidate_cve_count",.int candidates),
    (lit "cve_research_stale",if dossier.truthy then .bool stale.truthy else .null),
    (lit "executive_summary",get state.report (lit "executive_summary")),
    (lit "report_status",get state.report (lit "report_status"))] ++ (← remediationSummary state)

/-- First-class human approval interrupt: it waits unless a decision resumes it. -/
def humanGate (resume : Option Mapping) : Except Stop Update :=
  match gateSummary state with
  | .error e => .error (.raised e)
  | .ok summary =>
    match resume with
    | none => .error (.interrupted ([(lit "kind",.str (lit "human_approval")),(lit "investigation_id",.str state.investigationId),
        (lit "reason",.str (lit "awaiting analyst approval before any consequential action"))] ++ summary))
    | some decision =>
      match item (lit "decision") (.dict decision) with
      | .error e => .error (.raised e)
      | .ok value => .ok {
          currentNode := .HUMAN_GATE, updatedAt := agents.utcnow state.nodeHistory.length
          conversation := [(lit "human_decisions",.list [.dict decision])]
          nodeHistory := [transition .HUMAN_GATE (lit "human-review") (lit "decision=" ++ value.toText)] }

/-! ### The nodes after the gate -/

/-- The hosts an alert names. -/
def alertedHosts (assets : List Value) : Except PyError (List Text) := do
  let hostnames ← mapRaising (getFrom (lit "hostname") .null) assets
  return (hostnames.filter Value.truthy).map Value.toText

omit [Printer] in
/-- A line that counts the items, when there are any. -/
def countedLine (items : Value) (line : Text) : Except PyError (List Text) :=
  if items.truthy then (size items).map fun count => [number count ++ line] else .ok []

/-- The lines an alert highlights. -/
def alertHighlights : Except PyError (List Text) := do
  let hosts ← alertedHosts (← listFrom state.shared (lit "assets"))
  let dossier := get state.investigation (lit "vulnerability_dossier")
  let confirmed ← confirmedCves dossier
  let named ← joinStrings (lit ", ") (confirmed.take 5)
  let recommendations ← (get state.investigation (lit "remediation_plan")).getOr (lit "recommendations") (.list [])
  let awaiting ← countedLine recommendations (lit " remediation recommendation(s) await human action")
  let recorded ← countedLine ((lookup state.investigation (lit "coverage_gaps")).getD (.list []))
    (lit " coverage gap(s) recorded on this investigation")
  return (if hosts = [] then [] else [lit "Affected hosts: " ++ joined (lit ", ") (hosts.take 5)]) ++
    (if confirmed.isEmpty then [] else [lit "Confirmed CVEs: " ++ named]) ++ awaiting ++ recorded

/-- The alert an approved investigation warrants, with its priority. -/
def alertFor : Except PyError (Mapping × Value) := do
  let assessment := get state.investigation (lit "threat_assessment")
  let severity ← assessment.getOr (lit "severity") .null
  let highlights ← alertHighlights state
  let ranked ← assessment.getOr (lit "triage_priority") .null
  let level ← severity.getOr (lit "level") .null
  let verdict ← assessment.getOr (lit "verdict") .null
  let summary := get state.report (lit "executive_summary")
  let priority := if ranked.truthy then ranked else .str (priorityValue .HIGH)
  return ([(lit "investigation_id",.str state.investigationId),
    (lit "title",.str (lit "Investigation " ++ state.investigationId ++ lit " approved for notification")),
    (lit "summary",if summary.truthy then summary
      else .str (lit "An analyst approved this investigation; see the console for detail.")),
    (lit "priority",priority),(lit "severity",level),(lit "verdict",verdict),(lit "highlights",.list (highlights.map .str))],
    priority)

/-- Assemble the outbound alert an approved investigation warrants. -/
def notify : Except PyError Update :=
  (alertFor state).map fun alert => {
    currentNode := .NOTIFY, updatedAt := agents.utcnow state.nodeHistory.length
    notification := [(lit "pending",.list [.dict alert.1])]
    nodeHistory := [transition .NOTIFY ownerRuntime
      (lit "alert prepared at " ++ alert.2.toText ++ lit " priority, pending dispatch")] }

omit [Printer] in
/-- Terminal node: finalize and persist the investigation status. -/
def close : Except PyError Update :=
  .ok { status := some .CLOSED, currentNode := .CLOSE, updatedAt := agents.utcnow state.nodeHistory.length
        nodeHistory := [transition .CLOSE ownerRuntime (lit "investigation closed")] }

end
end SocAnalyst.Graph
