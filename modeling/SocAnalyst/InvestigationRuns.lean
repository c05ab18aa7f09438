import SocAnalyst.GateDecision
import SocAnalyst.IncidentReports
import SocAnalyst.Recommender

/-!
# Persisting an investigation as it runs

`run_investigation` of `backend/workers/investigations.py`: the graph runs to the gate
and reports each node as it completes; every report is written to the case record in a
transaction of its own, and a report that fails is logged and passed over.
-/
namespace SocAnalyst.InvestigationRuns
open SocAnalyst.Builtins SocAnalyst.Values SocAnalyst.Dicts SocAnalyst.Logs SocAnalyst.Risk SocAnalyst.Runs SocAnalyst.Graph
open SocAnalyst.GateDecision (Investigation ReportStatus readStatus)
open SocAnalyst.IncidentReports (AssessedCve)
open SocAnalyst.Recommender (RemediationRecommendation)

/-! ### The case record -/

inductive StageStatus where
  | complete
  | skipped
  | failed
  deriving DecidableEq, Repr

/-- What is recorded of a stage. -/
structure StageRecord where
  status : StageStatus
  detail : Text
  deriving DecidableEq

structure ReportRow where
  executiveSummary : Text
  technicalBody : Text
  citations : List Mapping
  status : ReportStatus
  version : Nat

/-- What is committed about an investigation: its row, and the rows of its artifacts with
    the versions they were written under. A row stands for the result it is mapped from. -/
structure CaseRecord where
  row : Investigation
  severity : Option Severity := none
  summary : Text := []
  pipeline : Dict Node StageRecord := Dict.empty
  logEvents : List NormalizedEvent := []
  assessments : List (Nat × IncidentReports.ThreatDetectionResult) := []
  findings : List (Nat × AssessedCve) := []
  reports : List ReportRow := []
  recommendations : List (Nat × RemediationRecommendation) := []

/-- The record as it is created. -/
def created : CaseRecord := { row := { status := .OPEN } }

/-- `func.max(version) or 0`. -/
def latestVersion (versions : List Nat) : Nat := versions.foldl max 0

def recordStage (stage : Node) (status : StageStatus) (detail : Text) (case : CaseRecord) : CaseRecord :=
  { case with pipeline := case.pipeline.set stage ⟨status,detail⟩ }

/-- Carry the assessment's headline onto the case record. -/
def setHeadline (severity : Option Severity) (summary : Text) (case : CaseRecord) : CaseRecord :=
  { case with severity := severity.or case.severity, summary := if summary = [] then case.summary else summary }

/-- The validation of what the nodes wrote. -/
structure Schemas where
  readEvent : Value → Option NormalizedEvent
  readThreat : Value → Except PyError IncidentReports.ThreatDetectionResult
  readDossier : Value → Except PyError IncidentReports.CveResearchResult
  readPlan : Value → Except PyError (List RemediationRecommendation)

def plural (count : Nat) (noun : String) : Text := number count ++ lit (" " ++ noun)

/-- `dict(citation)`. -/
def asDict : Value → Except PyError Mapping
  | .dict entries => .ok entries
  | _ => .error .TypeError

section
variable [Printer]

/-- `str(value or "")`. -/
def textOr (value : Value) : Text := if value.truthy then value.toText else []

/-- `list(value or [])`. -/
def listOr (value : Value) : Except PyError (List Value) := if value.truthy then value.iterate else .ok []

variable (schemas : Schemas) (utcnow : Text)

omit [Printer] in
/-- Move the lifecycle status, stamping closure when it closes. -/
def markStatus (status : InvestigationStatus) (case : CaseRecord) : CaseRecord :=
  { case with row := {
      status
      closedAt := if status = .CLOSED ∧ case.row.closedAt = none then some utcnow else case.row.closedAt } }

omit [Printer] in
def persistLogAnalysis (update : Update) (case : CaseRecord) : Except PyError CaseRecord := do
  let payload ← ((lookup update.investigation (lit "normalized_events")).getD (.list [])).iterate
  let events := payload.filterMap schemas.readEvent
  let unreadable := payload.length - events.length
  return recordStage .LOG_ANALYSIS .complete
    (plural events.length "event(s)" ++ (if unreadable = 0 then [] else lit ", " ++ plural unreadable "unreadable"))
    { case with logEvents := case.logEvents ++ events }

omit [Printer] in
def persistThreatDetection (update : Update) (case : CaseRecord) : Except PyError CaseRecord := do
  let assessment ← schemas.readThreat (← item (lit "threat_assessment") (.dict update.investigation))
  let version := latestVersion (case.assessments.map (·.1)) + 1
  let case := setHeadline (some assessment.severityLevel) [] { case with assessments := case.assessments ++ [(version,assessment)] }
  let case := recordStage .THREAT_DETECTION .complete
    (assessment.verdict.value ++ lit ", " ++ severityValue assessment.severityLevel) case
  if assessment.verdict = .BENIGN then
    return recordStage .CVE_RESEARCH .skipped (lit "benign verdict; vulnerability research not required") case
  else return case

omit [Printer] in
def persistCveResearch (update : Update) (case : CaseRecord) : Except PyError CaseRecord := do
  let dossier ← schemas.readDossier (← item (lit "vulnerability_dossier") (.dict update.investigation))
  let version := latestVersion (case.findings.map (·.1)) + 1
  return recordStage .CVE_RESEARCH .complete
    (plural dossier.cves.length "confirmed, " ++ plural dossier.candidates.length "candidate(s)" ++
      (if dossier.stale then lit "; assembled from the indexed corpus" else []))
    { case with findings := case.findings ++ (dossier.cves ++ dossier.candidates ++ dossier.ruledOut).map (version,·) }

def persistReport (update : Update) (case : CaseRecord) : Except PyError CaseRecord := do
  let citations ← mapRaising asDict (← listOr (get update.report (lit "citations")))
  let row : ReportRow := {
    executiveSummary := textOr (get update.report (lit "executive_summary"))
    technicalBody := textOr (get update.report (lit "technical_report"))
    citations
    status := .DRAFT
    version := latestVersion (case.reports.map (·.version)) + 1 }
  let case := setHeadline none row.executiveSummary { case with reports := case.reports ++ [row] }
  return recordStage .REPORT .complete (lit "v" ++ number row.version ++ lit ", " ++ plural row.citations.length "citation(s)") case

omit [Printer] in
def persistRemediation (update : Update) (case : CaseRecord) : Except PyError CaseRecord := do
  let plan ← schemas.readPlan (← item (lit "remediation_plan") (.dict update.investigation))
  let version := latestVersion (case.recommendations.map (·.1)) + 1
  return recordStage .REMEDIATION .complete (plural plan.length "recommendation(s), all pending approval")
    { case with recommendations := case.recommendations ++ plan.map (version,·) }

/-- Move one node's output into the tables the backend owns. -/
def persist (node : Node) (update : Update) (case : CaseRecord) : Except PyError CaseRecord :=
  match node with
  | .LOG_ANALYSIS => persistLogAnalysis schemas update case
  | .THREAT_DETECTION => persistThreatDetection schemas update case
  | .CVE_RESEARCH => persistCveResearch schemas update case
  | .REPORT => persistReport update case
  | .REMEDIATION => persistRemediation schemas update case
  | .TRIAGE => .ok (markStatus utcnow .AWAITING_APPROVAL case)
  | .CLOSE => .ok (markStatus utcnow .CLOSED case)
  | _ => .ok case

/-! ### The run -/

/-- What a session raises when the database refuses or is gone. -/
inductive DatabaseError where
  | OperationalError
  | IntegrityError
  | DataError
  deriving DecidableEq, Repr

inductive WriteError where
  | operation (error : PyError)
  | database (error : DatabaseError)

/-- Which transactions the database fails, at whatever point before they are committed. A
    run reports every node once at most. -/
structure Failures where
  opening : Option DatabaseError := none
  callback : Node → Option DatabaseError := fun _ => none
  closing : Option DatabaseError := none

omit [Printer] in
/-- One persistence step in its own transaction, which is rolled back when it raises. -/
def write (failure : Option DatabaseError) (operation : CaseRecord → Except PyError CaseRecord) (case : CaseRecord) :
    CaseRecord × Option WriteError :=
  match operation case,failure with
  | .ok next,none => (next,none)
  | .ok _,some e => (case,some (.database e))
  | .error e,_ => (case,some (.operation e))

variable (failures : Failures)

/-- The callback on one node; what it raises is logged. -/
def reportNode (case : CaseRecord) (chunk : Node × Update) : CaseRecord :=
  (write (failures.callback chunk.1) (persist schemas utcnow chunk.1 chunk.2) case).1

omit [Printer] in
/-- The first stage with no recorded outcome. -/
def failedStage (case : CaseRecord) : Node :=
  ([Node.LOG_ANALYSIS,.THREAT_DETECTION,.CVE_RESEARCH,.REPORT,.REMEDIATION].find? fun stage =>
    match case.pipeline.get? stage with
    | some ⟨.complete,_⟩ | some ⟨.skipped,_⟩ => false
    | _ => true).getD .REMEDIATION

structure RunRequest where
  investigationId : Text
  triggerSource : Text
  criticalAssets : List Text := []
  internalNetworks : List Text := []
  evidence : Mapping := []
  assets : List Mapping := []

def RunRequest.configSnapshot (request : RunRequest) : Mapping :=
  [(lit "critical_assets",.list (request.criticalAssets.map .str)),(lit "internal_networks",.list (request.internalNetworks.map .str))]

/-- What a run leaves: the record, the nodes that were reported, the result of the graph
    when it returned, and what the worker itself raised. -/
structure Ran where
  case : CaseRecord
  reported : List (Node × Update) := []
  result : Option GraphRunResult := none
  raised : Option WriteError := none

def errorName : GraphError → Text
  | .invalidResume _ => lit "InvalidResumeError"
  | .raised .ValueError => lit "ValueError"
  | .raised .TypeError => lit "TypeError"
  | .raised .OverflowError => lit "OverflowError"
  | .raised .RecursionError => lit "RecursionError"
  | .raised .UnicodeEncodeError => lit "UnicodeEncodeError"
  | .raised .KeyError => lit "KeyError"
  | .raised .AttributeError => lit "AttributeError"
  | .raised .OSError => lit "OSError"

omit [Printer] in
/-- A run that failed is recorded at the stage it died at. -/
def recordFailure (error : GraphError) (reported : List (Node × Update)) (case : CaseRecord) : Ran :=
  let written := write failures.closing (fun case => .ok (recordStage (failedStage case) .failed (errorName error) case)) case
  { case := written.1, reported, raised := written.2 }

/-- Execute an investigation end-to-end, persisting each stage as it completes. -/
def runInvestigation (agents : Agents) (request : RunRequest) (case : CaseRecord) : Ran :=
  match write failures.opening (fun case => .ok (markStatus utcnow .IN_PROGRESS case)) case with
  | (case,some e) => { case, raised := some e }
  | (case,none) =>
    match newState request.investigationId request.triggerSource request.configSnapshot utcnow request.evidence request.assets with
    | .error e => recordFailure failures (.raised e) [] case
    | .ok values =>
      let started := start agents values
      let case := started.1.foldl (reportNode schemas utcnow failures) case
      match started.2.2 with
      | .ok result => { case, reported := started.1, result := some result }
      | .error e => recordFailure failures e started.1 case

end

/-! ### What the record says of a stage -/

/-- The status recorded of a stage. -/
def stageStatus (case : CaseRecord) (stage : Node) : Option StageStatus := (case.pipeline.get? stage).map (·.status)

@[simp] theorem stageStatus_recordStage (stage other : Node) (status : StageStatus) (detail : Text) (case : CaseRecord) :
    stageStatus (recordStage stage status detail case) other = if other = stage then some status else stageStatus case other := by
  unfold stageStatus recordStage
  rw [Dict.get?_set]
  split_ifs <;> rfl

/-- Rows are added and none is taken away. -/
structure Grows (case next : CaseRecord) : Prop where
  logEvents : case.logEvents ⊆ next.logEvents
  assessments : case.assessments ⊆ next.assessments
  findings : case.findings ⊆ next.findings
  reports : case.reports ⊆ next.reports
  recommendations : case.recommendations ⊆ next.recommendations

theorem Grows.refl (case : CaseRecord) : Grows case case :=
  ⟨List.Subset.refl _,List.Subset.refl _,List.Subset.refl _,List.Subset.refl _,List.Subset.refl _⟩

section
variable [Printer] (schemas : Schemas) (utcnow : Text)

/-- The rows of a stage's output are in the tables. -/
def Stored (stage : Node) (update : Update) (case : CaseRecord) : Prop :=
  match stage with
  | .LOG_ANALYSIS => ∃ payload, ((lookup update.investigation (lit "normalized_events")).getD (.list [])).iterate = .ok payload ∧
      payload.filterMap schemas.readEvent ⊆ case.logEvents
  | .THREAT_DETECTION => ∃ value assessment version, item (lit "threat_assessment") (.dict update.investigation) = .ok value ∧
      schemas.readThreat value = .ok assessment ∧ (version,assessment) ∈ case.assessments
  | .CVE_RESEARCH => ∃ value dossier version, item (lit "vulnerability_dossier") (.dict update.investigation) = .ok value ∧
      schemas.readDossier value = .ok dossier ∧ (dossier.cves ++ dossier.candidates ++ dossier.ruledOut).map (version,·) ⊆ case.findings
  | .REPORT => ∃ row ∈ case.reports, row.executiveSummary = textOr (get update.report (lit "executive_summary")) ∧
      row.technicalBody = textOr (get update.report (lit "technical_report"))
  | .REMEDIATION => ∃ value plan version, item (lit "remediation_plan") (.dict update.investigation) = .ok value ∧
      schemas.readPlan value = .ok plan ∧ plan.map (version,·) ⊆ case.recommendations
  | _ => False

/-- The output of a stage that the graph reported is in the tables. -/
def Persisted (reported : List (Node × Update)) (case : CaseRecord) (stage : Node) : Prop :=
  ∃ update, (stage,update) ∈ reported ∧ Stored schemas stage update case

/-- A stage whose output is not in the tables is not recorded as complete. -/
def Distinguishes (reported : List (Node × Update)) (case : CaseRecord) : Prop :=
  ∀ stage, ¬ Persisted schemas reported case stage → stageStatus case stage ≠ some .complete

/-- What a committed callback does to the record. -/
structure Committed (node : Node) (update : Update) (case next : CaseRecord) : Prop where
  row : node ≠ .TRIAGE → node ≠ .CLOSE → next.row = case.row
  grows : Grows case next
  stages : ∀ stage, stageStatus next stage = some .complete →
    stageStatus case stage = some .complete ∨ (stage = node ∧ Stored schemas node update next)

variable {schemas utcnow} {node : Node} {update : Update} {case next : CaseRecord}

theorem Stored.mono {stage : Node} (stored : Stored schemas stage update case) (grows : Grows case next) :
    Stored schemas stage update next := by
  cases stage with
  | LOG_ANALYSIS =>
    obtain ⟨payload,read,rows⟩ := stored
    exact ⟨payload,read,List.Subset.trans rows grows.logEvents⟩
  | THREAT_DETECTION =>
    obtain ⟨value,assessment,version,found,read,row⟩ := stored
    exact ⟨value,assessment,version,found,read,grows.assessments row⟩
  | CVE_RESEARCH =>
    obtain ⟨value,dossier,version,found,read,rows⟩ := stored
    exact ⟨value,dossier,version,found,read,List.Subset.trans rows grows.findings⟩
  | REPORT =>
    obtain ⟨row,listed,said⟩ := stored
    exact ⟨row,grows.reports listed,said⟩
  | REMEDIATION =>
    obtain ⟨value,plan,version,found,read,rows⟩ := stored
    exact ⟨value,plan,version,found,read,List.Subset.trans rows grows.recommendations⟩
  | _ => exact stored.elim

omit [Printer] in
theorem markStatus_grows (status : InvestigationStatus) (case : CaseRecord) : Grows case (markStatus utcnow status case) :=
  ⟨List.Subset.refl _,List.Subset.refl _,List.Subset.refl _,List.Subset.refl _,List.Subset.refl _⟩

omit [Printer] in
theorem recordStage_grows (stage : Node) (status : StageStatus) (detail : Text) (grows : Grows case next) :
    Grows case (recordStage stage status detail next) :=
  ⟨grows.logEvents,grows.assessments,grows.findings,grows.reports,grows.recommendations⟩

/-- A stage that is recorded next to its rows. -/
theorem recordStage_stages {detail : Text} (same : ∀ other, stageStatus next other = stageStatus case other)
    (stored : Stored schemas node update next) (stage : Node)
    (complete : stageStatus (recordStage node .complete detail next) stage = some .complete) :
    stageStatus case stage = some .complete ∨ (stage = node ∧ Stored schemas node update (recordStage node .complete detail next)) := by
  rw [stageStatus_recordStage] at complete
  split_ifs at complete with here
  · exact .inr ⟨here,stored.mono (recordStage_grows node _ _ (Grows.refl next))⟩
  · rw [same] at complete
    exact .inl complete

theorem persist_committed (ran : persist schemas utcnow node update case = .ok next) : Committed schemas node update case next := by
  cases node with
  | LOG_ANALYSIS =>
    simp only [persist,persistLogAnalysis,bind_ok] at ran
    obtain ⟨payload,read,made⟩ := ran
    cases made
    exact ⟨fun _ _ => rfl,{ Grows.refl case with logEvents := List.subset_append_left _ _ },
      recordStage_stages (fun _ => rfl) ⟨payload,read,List.subset_append_right _ _⟩⟩
  | THREAT_DETECTION =>
    simp only [persist,persistThreatDetection,bind_ok] at ran
    obtain ⟨value,found,assessment,read,made⟩ := ran
    let version := latestVersion (case.assessments.map (·.1)) + 1
    let rated := setHeadline (some assessment.severityLevel) [] { case with assessments := case.assessments ++ [(version,assessment)] }
    have grows : Grows case rated := { Grows.refl case with assessments := List.subset_append_left _ _ }
    have listed : Stored schemas .THREAT_DETECTION update rated :=
      ⟨value,assessment,version,found,read,List.mem_append_right _ (List.mem_singleton_self _)⟩
    have same : ∀ stage, stageStatus rated stage = stageStatus case stage := fun _ => rfl
    split_ifs at made with benign
    · cases made
      refine ⟨fun _ _ => rfl,recordStage_grows _ _ _ (recordStage_grows _ _ _ grows),?_⟩
      intro stage complete
      rw [stageStatus_recordStage] at complete
      split_ifs at complete
      · cases complete
      · rcases recordStage_stages same listed stage complete with before | ⟨here,stored⟩
        · exact .inl before
        · exact .inr ⟨here,stored.mono (recordStage_grows .CVE_RESEARCH _ _ (Grows.refl _))⟩
    · cases made
      exact ⟨fun _ _ => rfl,recordStage_grows _ _ _ grows,recordStage_stages same listed⟩
  | CVE_RESEARCH =>
    simp only [persist,persistCveResearch,bind_ok] at ran
    obtain ⟨value,found,dossier,read,made⟩ := ran
    cases made
    exact ⟨fun _ _ => rfl,{ Grows.refl case with findings := List.subset_append_left _ _ },
      recordStage_stages (fun _ => rfl) ⟨value,dossier,_,found,read,List.subset_append_right _ _⟩⟩
  | REPORT =>
    simp only [persist,persistReport,bind_ok] at ran
    obtain ⟨items,_,citations,_,made⟩ := ran
    cases made
    exact ⟨fun _ _ => rfl,{ Grows.refl case with reports := List.subset_append_left _ _ },
      recordStage_stages (fun _ => rfl) ⟨_,List.mem_append_right _ (List.mem_singleton_self _),rfl,rfl⟩⟩
  | REMEDIATION =>
    simp only [persist,persistRemediation,bind_ok] at ran
    obtain ⟨value,found,plan,read,made⟩ := ran
    cases made
    exact ⟨fun _ _ => rfl,{ Grows.refl case with recommendations := List.subset_append_left _ _ },
      recordStage_stages (fun _ => rfl) ⟨value,plan,_,found,read,List.subset_append_right _ _⟩⟩
  | TRIAGE =>
    cases ran
    exact ⟨fun other => absurd rfl other,markStatus_grows _ _,fun _ => .inl⟩
  | CLOSE =>
    cases ran
    exact ⟨fun _ other => absurd rfl other,markStatus_grows _ _,fun _ => .inl⟩
  | _ =>
    cases ran
    exact ⟨fun _ _ => rfl,Grows.refl _,fun _ => .inl⟩

/-! ### What the callbacks leave behind -/

variable {failures : Failures}

variable (schemas utcnow failures) in
/-- A callback is committed whole, or leaves the record as it was. -/
theorem reportNode_cases (case : CaseRecord) (chunk : Node × Update) :
    reportNode schemas utcnow failures case chunk = case ∨
      (failures.callback chunk.1 = none ∧
        persist schemas utcnow chunk.1 chunk.2 case = .ok (reportNode schemas utcnow failures case chunk)) := by
  unfold reportNode write
  cases persist schemas utcnow chunk.1 chunk.2 case with
  | error e => exact .inl rfl
  | ok next =>
    cases failures.callback chunk.1 with
    | none => exact .inr ⟨rfl,rfl⟩
    | some e => exact .inl rfl

theorem Persisted.mono {reported more : List (Node × Update)} {stage : Node} (persisted : Persisted schemas reported case stage)
    (listed : reported ⊆ more) (grows : Grows case next) : Persisted schemas more next stage := by
  obtain ⟨update,member,stored⟩ := persisted
  exact ⟨update,listed member,stored.mono grows⟩

theorem distinguishes_iff {reported : List (Node × Update)} :
    Distinguishes schemas reported case ↔
      ∀ stage, stageStatus case stage = some .complete → Persisted schemas reported case stage := by
  constructor
  · intro distinct stage complete
    by_contra missing
    exact distinct stage missing complete
  · intro kept stage missing complete
    exact missing (kept stage complete)

theorem reportNode_distinguishes {reported : List (Node × Update)} (distinct : Distinguishes schemas reported case)
    (chunk : Node × Update) : Distinguishes schemas (reported ++ [chunk]) (reportNode schemas utcnow failures case chunk) := by
  rw [distinguishes_iff] at distinct ⊢
  intro stage complete
  have earlier := List.subset_append_left reported [chunk]
  rcases reportNode_cases schemas utcnow failures case chunk with same | ⟨_,ran⟩
  · rw [same] at complete ⊢
    exact (distinct stage complete).mono earlier (Grows.refl case)
  · have committed := persist_committed ran
    rcases committed.stages stage complete with before | ⟨rfl,stored⟩
    · exact (distinct stage before).mono earlier committed.grows
    · exact ⟨chunk.2,by simp,stored⟩

variable (schemas utcnow failures) in
/-- Every node is reported in turn, whichever callbacks fail. -/
theorem foldl_distinguishes (chunks : List (Node × Update)) {reported : List (Node × Update)}
    (distinct : Distinguishes schemas reported case) :
    Distinguishes schemas (reported ++ chunks) (chunks.foldl (reportNode schemas utcnow failures) case) := by
  induction chunks generalizing reported case with
  | nil => simpa using distinct
  | cons chunk rest ih => simpa using ih (reportNode_distinguishes distinct chunk)

theorem reportNode_row (case : CaseRecord) (chunk : Node × Update) (open' : chunk.1 ≠ .TRIAGE) (running : chunk.1 ≠ .CLOSE) :
    (reportNode schemas utcnow failures case chunk).row = case.row := by
  rcases reportNode_cases schemas utcnow failures case chunk with same | ⟨_,ran⟩
  · rw [same]
  · exact (persist_committed ran).row open' running

/-- Only the triage and the closing node touch the row. -/
theorem foldl_row (chunks : List (Node × Update)) (open' : .TRIAGE ∉ chunks.map (·.1)) (running : .CLOSE ∉ chunks.map (·.1)) :
    (chunks.foldl (reportNode schemas utcnow failures) case).row = case.row := by
  induction chunks generalizing case with
  | nil => rfl
  | cons chunk rest ih =>
    simp only [List.map_cons,List.mem_cons,not_or] at open' running
    rw [List.foldl_cons,ih open'.2 running.2,reportNode_row case chunk (Ne.symm open'.1) (Ne.symm running.1)]

theorem reportNode_triage (case : CaseRecord) (update : Update) :
    (reportNode schemas utcnow failures case (.TRIAGE,update)).row.status =
      if failures.callback .TRIAGE = none then .AWAITING_APPROVAL else case.row.status := by
  unfold reportNode write persist
  cases failures.callback .TRIAGE with
  | none => rfl
  | some e => rfl

/-! ### A run that pauses at the gate -/

variable {agents : Agents} {request : RunRequest}

/-- A start that pauses reported the triage node last, and the closing node not at all. -/
theorem start_reports {investigationId triggerSource createdAt : Text} {configSnapshot evidence : Mapping} {assets : List Mapping}
    {values : GraphState} (seeded : newState investigationId triggerSource configSnapshot createdAt evidence assets = .ok values)
    {result : GraphRunResult} (returned : (start agents values).2.2 = .ok result) (paused : result.awaitingHuman = true) :
    ∃ before update, (start agents values).1 = before ++ [(.TRIAGE,update)] ∧
      .TRIAGE ∉ before.map (·.1) ∧ .CLOSE ∉ before.map (·.1) := by
  have atGate : (start agents values).2.1.next = some .HUMAN_GATE := by
    unfold start runFrom at returned ⊢
    dsimp only at returned ⊢
    cases stopped : (stream agents none ⟨values,some .INGEST_SEED⟩).2.2 with
    | finished =>
      rw [stopped] at returned
      cases returned
      cases paused
    | paused payload => exact stream_paused none _ payload stopped
    | raised e =>
      rw [stopped] at returned
      cases returned
  have run := stream_passes agents ⟨values,some .INGEST_SEED⟩
  have tracked : Tracked ([] ++ (start agents values).1.map fun chunk => ⟨chunk.1,none⟩) (start agents values).2.1 :=
    run_tracked (Tracked.seeded seeded) run
  have front := path_fronts tracked.path (by
    intro pass member
    obtain ⟨chunk,_,rfl⟩ := List.mem_map.mp member
    rfl)
  rw [atGate,List.nil_append,List.map_map] at front
  have split : ∀ path ∈ fronts (some .HUMAN_GATE), ∃ before, path = before ++ [.TRIAGE] ∧ .TRIAGE ∉ before ∧ .CLOSE ∉ before := by
    intro path member
    simp only [fronts,reportFronts,List.map_cons,List.map_nil,List.mem_cons,List.not_mem_nil,or_false] at member
    rcases member with rfl | rfl
    · exact ⟨[.INGEST_SEED,.LOG_ANALYSIS,.THREAT_DETECTION,.REPORT,.REMEDIATION],rfl,by decide,by decide⟩
    · exact ⟨[.INGEST_SEED,.LOG_ANALYSIS,.THREAT_DETECTION,.CVE_RESEARCH,.REPORT,.REMEDIATION],rfl,by decide,by decide⟩
  obtain ⟨nodes,ended,triaged,closed⟩ := split _ front
  obtain ⟨before,last,reported,rfl,final⟩ := List.map_eq_append_iff.mp ended
  obtain ⟨chunk,rfl,named⟩ := List.map_eq_singleton_iff.mp final
  obtain ⟨node,update⟩ := chunk
  obtain rfl : node = .TRIAGE := named
  exact ⟨before,update,reported,triaged,closed⟩

/-- The worker returned, and the graph is paused at the gate. -/
def ReturnsPaused (ran : Ran) : Prop := ran.raised = none ∧ ∃ result, ran.result = some result ∧ result.awaitingHuman = true

variable (schemas utcnow failures agents request) in
/-- A run that pauses recorded its start, and then every node up to the triage. -/
theorem run_paused (case : CaseRecord)
    (paused : ReturnsPaused (runInvestigation schemas utcnow failures agents request case)) :
    ∃ before update, .TRIAGE ∉ before.map (·.1) ∧ .CLOSE ∉ before.map (·.1) ∧
      (runInvestigation schemas utcnow failures agents request case).reported = before ++ [(.TRIAGE,update)] ∧
      (runInvestigation schemas utcnow failures agents request case).case =
        (before ++ [(.TRIAGE,update)]).foldl (reportNode schemas utcnow failures) (markStatus utcnow .IN_PROGRESS case) := by
  obtain ⟨returned,result,resulted,waiting⟩ := paused
  unfold runInvestigation write at *
  cases opened : failures.opening with
  | some e =>
    simp only [opened] at returned
    cases returned
  | none =>
    simp only [opened] at resulted ⊢
    cases seeded : newState request.investigationId request.triggerSource request.configSnapshot utcnow request.evidence request.assets with
    | error e =>
      simp only [seeded,recordFailure] at resulted
      cases resulted
    | ok values =>
      simp only [seeded] at resulted ⊢
      cases ended : (start agents values).2.2 with
      | error e =>
        simp only [ended,recordFailure] at resulted
        cases resulted
      | ok outcome =>
        simp only [ended,Option.some.injEq] at resulted ⊢
        subst resulted
        obtain ⟨before,update,reported,triaged,closed⟩ := start_reports seeded ended waiting
        exact ⟨before,update,triaged,closed,reported,by rw [reported]⟩

/-- The row a paused run leaves waits for a decision if the triage node was persisted. -/
theorem run_status (case : CaseRecord)
    (paused : ReturnsPaused (runInvestigation schemas utcnow failures agents request case)) :
    (runInvestigation schemas utcnow failures agents request case).case.row.status =
      if failures.callback .TRIAGE = none then .AWAITING_APPROVAL else .IN_PROGRESS := by
  obtain ⟨before,update,triaged,closed,_,left⟩ := run_paused schemas utcnow failures agents request case paused
  rw [left,List.foldl_append,List.foldl_cons,List.foldl_nil,reportNode_triage,foldl_row before triaged closed]
  rfl

theorem created_distinguishes : Distinguishes schemas [] created := by
  intro stage _ complete
  cases complete

/-- However a run ends, no stage is recorded as complete without its rows. -/
theorem run_distinguishes (schemas : Schemas) (utcnow : Text) (failures : Failures) (agents : Agents) (request : RunRequest) :
    Distinguishes schemas (runInvestigation schemas utcnow failures agents request created).reported
      (runInvestigation schemas utcnow failures agents request created).case := by
  have closing : ∀ (error : GraphError) (reported : List (Node × Update)) (case : CaseRecord), Distinguishes schemas reported case →
      Distinguishes schemas (recordFailure failures error reported case).reported (recordFailure failures error reported case).case := by
    intro error reported case distinct
    unfold recordFailure write
    cases failures.closing with
    | some e => exact distinct
    | none =>
      rw [distinguishes_iff] at distinct ⊢
      intro stage complete
      rw [stageStatus_recordStage] at complete
      split_ifs at complete
      · cases complete
      · exact (distinct stage complete).mono (List.Subset.refl _) (recordStage_grows _ _ _ (Grows.refl case))
  have fresh : Distinguishes schemas [] (markStatus utcnow .IN_PROGRESS created) := created_distinguishes
  unfold runInvestigation write
  cases failures.opening with
  | some e => exact created_distinguishes
  | none =>
    dsimp only
    cases newState request.investigationId request.triggerSource request.configSnapshot utcnow request.evidence request.assets with
    | error e => exact closing _ _ _ fresh
    | ok values =>
      have reported := foldl_distinguishes schemas utcnow failures (start agents values).1 fresh
      dsimp only
      cases (start agents values).2.2 with
      | error e => exact closing _ _ _ reported
      | ok result => exact reported

variable (schemas) in
/-- The record agrees with a graph that waits at the gate. -/
structure Reconciled (reported : List (Node × Update)) (case : CaseRecord) : Prop where
  awaiting : case.row.status = .AWAITING_APPROVAL
  decidable : ∀ request world, world.database.investigation = some case.row →
    (readStatus request world).phases request = .checked case.row
  distinguished : Distinguishes schemas reported case

omit [Printer] in
/-- The endpoint accepts a decision on a row that waits for one. -/
theorem readStatus_accepts {row : Investigation} (awaiting : row.status = .AWAITING_APPROVAL) (request : Nat)
    (world : GateDecision.World) (live : world.database.investigation = some row) :
    (readStatus request world).phases request = .checked row := by
  unfold readStatus
  simp only [live,awaiting,ne_eq,not_true,if_false]
  exact Function.update_self ..

/-- A run that leaves the graph at the gate leaves a case that can be decided exactly when
    the triage node was persisted. -/
theorem reconciled_iff_triaged (schemas : Schemas) (utcnow : Text) (failures : Failures) (agents : Agents) (request : RunRequest)
    (paused : ReturnsPaused (runInvestigation schemas utcnow failures agents request created)) :
    Reconciled schemas (runInvestigation schemas utcnow failures agents request created).reported
      (runInvestigation schemas utcnow failures agents request created).case ↔ failures.callback .TRIAGE = none := by
  have status := run_status created paused
  constructor
  · intro reconciled
    by_contra lost
    rw [if_neg lost,reconciled.awaiting] at status
    cases status
  · intro persisted
    rw [if_pos persisted] at status
    exact ⟨status,readStatus_accepts status,run_distinguishes schemas utcnow failures agents request⟩

end

/-- The schemas on what agents that find nothing write. -/
def quietSchemas : Schemas where
  readEvent _ := none
  readThreat _ := .ok { verdict := .BENIGN, severityLevel := .INFO, enrichmentStatus := .UNAVAILABLE, confidence := 1, sure := by decide }
  readDossier _ := .error .ValueError
  readPlan _ := .ok []

def quietRequest : RunRequest where
  investigationId := lit "inv"
  triggerSource := lit "analyst"

/-- The database is gone for a moment when the triage node is reported. -/
def triageLost : Failures where
  callback node := if node = .TRIAGE then some .OperationalError else none

private theorem quiet_starts :
    let _ := asciiPrinter
    ∃ values result, newState quietRequest.investigationId quietRequest.triggerSource quietRequest.configSnapshot [] quietRequest.evidence
      quietRequest.assets = .ok values ∧ (start quietAgents values).2.2 = .ok result ∧ result.awaitingHuman = true := by
  intro _
  let values := (newState quietRequest.investigationId quietRequest.triggerSource quietRequest.configSnapshot [] [] []).toOption.get rfl
  have seeded : newState quietRequest.investigationId quietRequest.triggerSource quietRequest.configSnapshot [] quietRequest.evidence
      quietRequest.assets = .ok values := rfl
  obtain ⟨here,front,waiting⟩ : ∃ here, Run (Step quietAgents) ⟨values,some .INGEST_SEED⟩ [⟨.INGEST_SEED,none⟩,⟨.LOG_ANALYSIS,none⟩,
      ⟨.THREAT_DETECTION,none⟩,⟨.REPORT,none⟩,⟨.REMEDIATION,none⟩,⟨.TRIAGE,none⟩] here ∧ here.next = some .HUMAN_GATE :=
    ⟨_,.go ⟨rfl,⟨_,rfl⟩,by decide⟩ (.go ⟨rfl,⟨_,rfl⟩,by decide⟩ (.go ⟨rfl,⟨_,rfl⟩,by decide⟩ (.go ⟨rfl,⟨_,rfl⟩,by decide⟩
      (.go ⟨rfl,⟨_,rfl⟩,by decide⟩ (.go ⟨rfl,⟨_,rfl⟩,by decide⟩ (.stop _)))))),rfl⟩
  have tracked : Tracked ([] ++ _) here := run_tracked (Tracked.seeded seeded) front
  obtain ⟨payload,waits⟩ := stream_gate quietAgents waiting tracked.shaped
  have ran := stream_run front (by decide)
  refine ⟨values,resultOf here (some payload),seeded,?_,rfl⟩
  unfold start runFrom
  dsimp only
  rw [ran,waits]
  rfl

/-- Agents that find nothing leave the graph at the gate, whichever callbacks fail. -/
theorem quiet_run_pauses (failures : Failures) (opened : failures.opening = none) :
    let _ := asciiPrinter
    ReturnsPaused (runInvestigation quietSchemas [] failures quietAgents quietRequest created) := by
  intro _
  obtain ⟨values,result,seeded,started,waiting⟩ := quiet_starts
  unfold runInvestigation write
  simp only [opened,seeded,started]
  exact ⟨rfl,result,rfl,waiting⟩

/-- A run whose callbacks are all committed. -/
theorem committed_run_reconciled :
    let _ := asciiPrinter
    ReturnsPaused (runInvestigation quietSchemas [] {} quietAgents quietRequest created) ∧
      Reconciled quietSchemas (runInvestigation quietSchemas [] {} quietAgents quietRequest created).reported
        (runInvestigation quietSchemas [] {} quietAgents quietRequest created).case := by
  intro _
  have paused := quiet_run_pauses {} rfl
  exact ⟨paused,(reconciled_iff_triaged quietSchemas [] {} quietAgents quietRequest paused).mpr rfl⟩

/-- The triage node is lost to the database: the graph waits at the gate, and the record
    says that the investigation is running. -/
theorem lost_triage_undecidable :
    let _ := asciiPrinter
    ReturnsPaused (runInvestigation quietSchemas [] triageLost quietAgents quietRequest created) ∧
      (runInvestigation quietSchemas [] triageLost quietAgents quietRequest created).case.row.status = .IN_PROGRESS ∧
      (∀ request world, world.database.investigation =
          some (runInvestigation quietSchemas [] triageLost quietAgents quietRequest created).case.row →
        ∃ message, (readStatus request world).phases request = .refused (.conflict message)) ∧
      ¬ Reconciled quietSchemas (runInvestigation quietSchemas [] triageLost quietAgents quietRequest created).reported
        (runInvestigation quietSchemas [] triageLost quietAgents quietRequest created).case := by
  intro _
  have paused := quiet_run_pauses triageLost rfl
  have running := run_status created paused
  rw [if_neg (by decide)] at running
  refine ⟨paused,running,?_,?_⟩
  · intro request world live
    unfold readStatus
    simp only [live,running]
    exact ⟨_,Function.update_self ..⟩
  · intro reconciled
    rw [reconciled.awaiting] at running
    cases running

end SocAnalyst.InvestigationRuns
