import SocAnalyst.ExecutiveSummaries
import SocAnalyst.ReportedGaps
import SocAnalyst.Retries

/-!
# Alert payloads

`deliver_alert` of `backend/workers/notifications.py` validates what `notify` assembled, and
drops it when it is malformed. In every run of the graph it is well formed, since the
reporter's summary is short enough.
-/
namespace SocAnalyst.AlertPayloads
open SocAnalyst.Builtins SocAnalyst.Values SocAnalyst.Dicts SocAnalyst.Risk SocAnalyst.Runs SocAnalyst.Graph
open SocAnalyst.Notifications SocAnalyst.Retries SocAnalyst.ExecutiveSummaries

/-! ### The contract -/

def isHex (c : Nat) : Bool := (48 ≤ c && c ≤ 57) || (97 ≤ c && c ≤ 102)

/-- What `str` writes of a UUID: hexadecimal digits in five groups. -/
structure IsUuid (text : Text) : Prop where
  grouped : ∃ low mid high clock node, text = joined (lit "-") [low,mid,high,clock,node] ∧
    (low.length = 8 ∧ mid.length = 4 ∧ high.length = 4 ∧ clock.length = 4 ∧ node.length = 12) ∧
    ∀ c ∈ low ++ mid ++ high ++ clock ++ node, isHex c = true

/-- How the contract reads a UUID from a text: it reads what `str` writes of one. -/
structure UuidReader where
  read : Text → Option Text
  canonical : ∀ text, IsUuid text → read text = some text

/-- The alert that `deliver_alert` dispatches, unless it drops the payload as malformed. -/
def deliverAlert (uuids : UuidReader) (payload : Mapping) (approvalId : Text) (consoleUrl : Option Text) : Option AlertRequest :=
  (validateAlert uuids.read payload approvalId consoleUrl).toOption

/-! ### What the graph prepares -/

def titleOf (investigationId : Text) : Text := lit "Investigation " ++ investigationId ++ lit " approved for notification"

/-- An alert of values that its fields allow. -/
def payloadOf (investigationId summary : Text) (priority : TriagePriority) (severity : Option Severity) (verdict : Option Text)
    (highlights : List Text) : Mapping :=
  [(lit "investigation_id",.str investigationId),(lit "title",.str (titleOf investigationId)),(lit "summary",.str summary),
    (lit "priority",.str (Graph.priorityValue priority)),(lit "severity",dumpText (severity.map Graph.severityValue)),
    (lit "verdict",dumpText verdict),(lit "highlights",.list (highlights.map .str))]

theorem readPriority_value (priority : TriagePriority) :
    readEnum [.LOW,.MEDIUM,.HIGH,.URGENT] AlertTemplates.priorityValue (.str (Graph.priorityValue priority)) = .ok priority := by
  cases priority <;> rfl

theorem readSeverity_value (severity : Option Severity) :
    readOptional (readEnum [.INFO,.LOW,.MEDIUM,.HIGH,.CRITICAL] AlertTemplates.severityValue) (dumpText (severity.map Graph.severityValue)) = .ok severity := by
  cases severity with
  | none => rfl
  | some severity => cases severity <;> rfl

theorem readVerdict_value (verdict : Option Text) : readOptional readText (dumpText verdict) = .ok verdict := by
  cases verdict <;> rfl

theorem readTexts_texts (texts : List Text) : readTexts (.list (texts.map .str)) = .ok texts := by
  change mapRaising readText (texts.map Value.str) = _
  rw [mapRaising_ok,List.forall₂_map_left_iff,List.forall₂_same]
  exact fun _ _ => rfl

/-- An alert of such values is as good as its texts. -/
theorem validateAlert_payloadOf (uuids : UuidReader) {investigationId : Text} (identified : IsUuid investigationId) (summary : Text)
    (priority : TriagePriority) (severity : Option Severity) (verdict : Option Text) (highlights : List Text) (approvalId : Text)
    (consoleUrl : Option Text) :
    validateAlert uuids.read (payloadOf investigationId summary priority severity verdict highlights) approvalId consoleUrl =
      alertRequest investigationId approvalId (titleOf investigationId) summary priority severity verdict highlights consoleUrl := by
  generalize made : payloadOf investigationId summary priority severity verdict highlights = payload
  have known : (payload.any fun entry => entry.1 ∉ alertFields) = false := by
    subst made
    change ([lit "investigation_id",lit "title",lit "summary",lit "priority",lit "severity",lit "verdict",lit "highlights"].any
      fun key => key ∉ alertFields) = false
    decide
  have identity : Graph.get payload (lit "investigation_id") = .str investigationId := by subst made; rfl
  have title : Graph.get payload (lit "title") = .str (titleOf investigationId) := by subst made; rfl
  have said : Graph.get payload (lit "summary") = .str summary := by subst made; rfl
  have ranked : Graph.get payload (lit "priority") = .str (Graph.priorityValue priority) := by subst made; rfl
  have level : Graph.get payload (lit "severity") = dumpText (severity.map Graph.severityValue) := by subst made; rfl
  have judged : Graph.get payload (lit "verdict") = dumpText verdict := by subst made; rfl
  have lines : lookup payload (lit "highlights") = some (.list (highlights.map .str)) := by subst made; rfl
  have uuid := uuids.canonical _ identified
  simp only [validateAlert,known,identity,title,said,ranked,level,judged,lines,readText,uuid,readPriority_value,readSeverity_value,
    readVerdict_value,readTexts_texts,Option.map_some,Option.getD_some,bind,Except.bind,Bool.false_eq_true,if_false]

section
variable [Printer] {state : GraphState} {next : Option Node}

omit [Printer] in
theorem length_countedLine {items : Value} {line : Text} {lines : List Text} (made : countedLine items line = .ok lines) :
    lines.length ≤ 1 := by
  unfold countedLine at made
  split_ifs at made
  · obtain ⟨count,_,rfl⟩ := map_ok.mp made
    exact le_rfl
  · cases made
    exact Nat.zero_le 1

theorem length_alertHighlights {lines : List Text} (made : alertHighlights state = .ok lines) : lines.length ≤ 4 := by
  simp only [alertHighlights,bind_ok] at made
  obtain ⟨_,_,_,_,_,_,_,_,_,_,_,awaiting,_,recorded,made⟩ := made
  cases made
  have third := length_countedLine awaiting
  have fourth := length_countedLine recorded
  simp only [List.length_append]
  split_ifs <;> simp only [List.length_nil,List.length_singleton] <;> omega

/-- The summary that an alert carries. -/
def summaryOf (state : GraphState) : Value :=
  if (get state.report (lit "executive_summary")).truthy then get state.report (lit "executive_summary")
  else .str (lit "An analyst approved this investigation; see the console for detail.")

/-- Past the agents the alert has values that its fields allow. -/
theorem alertFor_payloadOf (shaped : Shaped state next) {summary : Text} (summarized : summaryOf state = .str summary) :
    ∃ priority severity verdict highlights, highlights.length ≤ 4 ∧
      alertFor state = .ok (payloadOf state.investigationId summary priority severity verdict highlights,.str (Graph.priorityValue priority)) := by
  obtain ⟨alert,made⟩ := alertFor_returns shaped
  simp only [alertFor,bind_ok] at made
  obtain ⟨severity,_,highlights,lines,_⟩ := made
  have few := length_alertHighlights lines
  change (if _ then _ else _) = _ at summarized
  unfold alertFor
  rw [lines]
  rcases shaped.assessment.read with assessment | ⟨_,assessment,result,rfl⟩
  · refine ⟨.HIGH,none,none,highlights,few,?_⟩
    rw [assessment]
    simp only [payloadOf,← summarized]
    rfl
  · refine ⟨result.triagePriority,some result.severity,some result.verdict.value,highlights,few,?_⟩
    have ranked : (Value.str (Graph.priorityValue result.triagePriority)).truthy = true := by
      cases result.triagePriority <;> rfl
    have severity : (Value.dict result.dump).getOr (lit "severity") .null =
        .ok (.dict [(lit "score",result.score),(lit "level",.str (Graph.severityValue result.severity))]) := rfl
    have priority : (Value.dict result.dump).getOr (lit "triage_priority") .null = .ok (.str (Graph.priorityValue result.triagePriority)) := rfl
    rw [assessment]
    simp only [payloadOf,← summarized,severity,priority,bind,Except.bind,ranked,if_true]
    rfl

end

/-! ### What a run keeps of the report -/

section
variable [Printer] {pipeline : Pipeline}

/-- The reporter's report on what a state has found, with the summary that the state keeps
    of it. -/
structure Drafted (pipeline : Pipeline) (state : GraphState) (report : IncidentReports.IncidentReport) : Prop where
  asked : ∃ request, reportRequest state = .ok request ∧ pipeline.reporter.report pipeline.schemas request = .ok report
  kept : lookup state.report (lit "executive_summary") = some (.str report.executiveSummary)

omit [Printer] in
/-- A string that is merged takes the place of what was there. -/
theorem lookup_mergeSubstate_str {current rest : Mapping} {key text : Text} (apart : ∀ entry ∈ rest, entry.1 ≠ key) :
    lookup (mergeSubstate current ((key,.str text) :: rest)) key = some (.str text) := by
  have first : lookup (mergeSubstate current [(key,.str text)]) key = some (.str text) := by
    simp only [mergeSubstate,mergeMapping,lookup_assign,if_true,Option.some.injEq]
    cases lookup current key with
    | none => rfl
    | some old => cases old <;> rfl
  have later := @lookup_mergeSubstate_other (mergeSubstate current [(key,.str text)]) rest key apart
  rw [first] at later
  exact later

omit [Printer] in
/-- What the reporter is asked is read from the findings before its own. -/
theorem reportRequest_apply {state : GraphState} {node : Node} {resume : Option Mapping} {update : Update}
    (written : Writes node resume update) (late : rank node ≤ rank .REPORT) : reportRequest (state.apply update) = reportRequest state := by
  have same : ∀ key ∈ [lit "normalized_events",lit "timeline",lit "coverage_gaps",lit "threat_assessment",lit "vulnerability_dossier"],
      lookup (state.apply update).investigation key = lookup state.investigation key := by
    have apart : ∀ key ∈ [lit "normalized_events",lit "timeline",lit "coverage_gaps",lit "threat_assessment",
        lit "vulnerability_dossier"], lit "remediation_plan" ≠ key := by decide
    intro key known
    refine lookup_mergeSubstate_other fun entry member => ?_
    have finds := written.investigation
    cases node with
    | REMEDIATION =>
      obtain ⟨_,only⟩ := finds
      rw [only,List.mem_singleton] at member
      rw [member]
      exact apart key known
    | LOG_ANALYSIS => exact absurd late (by decide)
    | THREAT_DETECTION => exact absurd late (by decide)
    | CVE_RESEARCH => exact absurd late (by decide)
    | _ =>
      have nothing : update.investigation = [] := finds
      rw [nothing] at member
      cases member
  simp only [List.forall_mem_cons,List.not_mem_nil,false_implies,implies_true,and_true] at same
  obtain ⟨events,timeline,gaps,assessment,dossier⟩ := same
  simp only [reportRequest,listFrom,Graph.get,events,timeline,gaps,assessment,dossier]
  rfl

theorem report_drafts {state : GraphState} {update : Update} (ran : Graph.report pipeline.agents state = .ok update) :
    ∃ report, Drafted pipeline (state.apply update) report := by
  have executed : execute pipeline.agents .REPORT none state = .ok update := mapError_ok.mpr ran
  have written := execute_writes executed
  obtain ⟨request,outcome,asked,reported,made⟩ : ∃ request outcome, reportRequest state = .ok request ∧
      pipeline.agents.report request = .ok outcome ∧ update.report = [(lit "executive_summary",.str outcome.output.executiveSummary),
        (lit "technical_report",.str outcome.output.technicalBody),(lit "citations",.list outcome.output.citations),
        (lit "report_status",.str outcome.output.status)] := by
    simp only [Graph.report,bind_ok] at ran
    obtain ⟨_,events,_,timeline,_,gaps,_,assets,outcome,reported,made⟩ := ran
    cases made
    refine ⟨_,outcome,?_,reported,rfl⟩
    simp only [reportRequest,events,timeline,gaps,assets,bind,Except.bind]
    rfl
  obtain ⟨report,drafted,rfl⟩ := map_ok.mp reported
  refine ⟨report,⟨request,by rw [reportRequest_apply written le_rfl,asked],drafted⟩,?_⟩
  have apart : ∀ key ∈ [lit "technical_report",lit "citations",lit "report_status"], key ≠ lit "executive_summary" := by decide
  simp only [GraphState.apply,made]
  refine lookup_mergeSubstate_str fun entry member => ?_
  simp only [List.mem_cons,List.not_mem_nil,or_false] at member
  rcases member with rfl | rfl | rfl
  · exact apart _ (by simp)
  · exact apart _ (by simp)
  · exact apart _ (by simp)

/-- Only the reporter writes the report. -/
theorem execute_report {agents : Agents} {node : Node} {resume : Option Mapping} {state : GraphState} {update : Update}
    (ran : execute agents node resume state = .ok update) (elsewhere : node ≠ .REPORT) : update.report = [] := by
  cases node with
  | REPORT => exact absurd rfl elsewhere
  | INGEST_SEED =>
    simp only [execute,mapError_ok,ingestSeed,Except.ok.injEq] at ran
    exact ran ▸ rfl
  | LOG_ANALYSIS =>
    simp only [execute,mapError_ok,logAnalysis,bind_ok] at ran
    obtain ⟨_,_,_,_,_,_,_,_,_,_,made⟩ := ran
    cases made
    rfl
  | THREAT_DETECTION =>
    simp only [execute,mapError_ok,threatDetection,bind_ok] at ran
    obtain ⟨_,_,_,_,_,_,_,_,_,_,_,_,made⟩ := ran
    cases made
    rfl
  | CVE_RESEARCH =>
    simp only [execute,mapError_ok,cveResearch,bind_ok] at ran
    obtain ⟨_,_,_,_,_,_,_,_,made⟩ := ran
    cases made
    rfl
  | REMEDIATION =>
    simp only [execute,mapError_ok,remediation,bind_ok] at ran
    obtain ⟨_,_,_,_,_,_,made⟩ := ran
    cases made
    rfl
  | TRIAGE =>
    simp only [execute,mapError_ok,triage,map_ok] at ran
    obtain ⟨_,_,rfl⟩ := ran
    rfl
  | HUMAN_GATE =>
    simp only [execute,humanGate] at ran
    split at ran
    · cases ran
    · split at ran
      · cases ran
      · split at ran
        · cases ran
        · cases ran
          rfl
  | NOTIFY =>
    simp only [execute,mapError_ok,notify,map_ok] at ran
    obtain ⟨_,_,rfl⟩ := ran
    rfl
  | CLOSE =>
    simp only [execute,mapError_ok,close,Except.ok.injEq] at ran
    exact ran ▸ rfl

/-- What a run keeps once the reporter has passed: the report is on what the state has
    found, and the run does not go back before the reporter. -/
structure Reported (pipeline : Pipeline) (here : Checkpoint) : Prop where
  drafted : ∃ report, Drafted pipeline here.values report
  onward : ∀ other, here.next = some other → rank other < rank .REPORT

/-- One node keeps the report, or drafts it. -/
theorem reported_step {passes : List Pass} {here next : Checkpoint} {pass : Pass} (tracked : Tracked passes here)
    (reported : Node.REPORT ∈ passes.map (·.node) → Reported pipeline here) (step : Step pipeline.agents here pass next) :
    Node.REPORT ∈ (passes ++ [pass]).map (·.node) → Reported pipeline next := by
  have edge := (step.flow tracked).2
  obtain ⟨waiting,⟨update,ran⟩,_⟩ := step
  obtain ⟨executed,applied,_⟩ := advance_ok.mp ran
  intro passed
  have late : rank pass.node ≤ rank .REPORT := by
    by_cases here' : pass.node = .REPORT
    · rw [here']
    · have earlier : Node.REPORT ∈ passes.map (·.node) := by simpa [Ne.symm here'] using passed
      exact ((reported earlier).onward _ waiting).le
  refine ⟨?_,fun other follows => ?_⟩
  · rw [applied]
    by_cases here' : pass.node = .REPORT
    · rw [here'] at executed
      exact report_drafts (mapError_ok.mp executed)
    · have earlier : Node.REPORT ∈ passes.map (·.node) := by simpa [Ne.symm here'] using passed
      obtain ⟨report,⟨request,asked,made⟩,kept⟩ := (reported earlier).drafted
      refine ⟨report,⟨request,by rw [reportRequest_apply (execute_writes executed) late,asked],made⟩,?_⟩
      simp only [GraphState.apply,execute_report executed here',mergeSubstate_nil,kept]
  · by_cases near : 5 ≤ rank other
    · exact (edge.onward other follows near).trans_le late
    · have far : rank .REPORT = 6 := rfl
      omega

theorem run_reported {passes more : List Pass} {here next : Checkpoint} (tracked : Tracked passes here)
    (reported : Node.REPORT ∈ passes.map (·.node) → Reported pipeline here) (run : Run (Step pipeline.agents) here more next) :
    Node.REPORT ∈ (passes ++ more).map (·.node) → Reported pipeline next :=
  (run.accumulates (P := fun done here => Tracked done here ∧ (Node.REPORT ∈ done.map (·.node) → Reported pipeline here))
    (fun _ _ _ _ both step => ⟨both.1.step step,reported_step both.1 both.2 step⟩) passes ⟨tracked,reported⟩).2

/-- A run keeps the investigation it was started for. -/
theorem run_investigationId {agents : Agents} {here next : Checkpoint} {passes : List Pass} (run : Run (Step agents) here passes next) :
    next.values.investigationId = here.values.investigationId := by
  have keeps : ∀ middle pass next, middle.values.investigationId = here.values.investigationId → Step agents middle pass next →
      next.values.investigationId = here.values.investigationId := by
    rintro middle pass next kept ⟨_,⟨update,ran⟩,_⟩
    obtain ⟨_,applied,_⟩ := advance_ok.mp ran
    rw [applied]
    exact kept
  exact Run.invariant keeps run rfl

/-- The reporter renders the summary of the report it drafts. -/
theorem report_summary {reporter : IncidentReports.IncidentReporter} {schemas : LogAnalysis.LogSchemas} {request : IncidentReportRequest}
    {report : IncidentReports.IncidentReport} (renders : reporter.renderExecutiveSummary = renderExecutiveSummary)
    (ran : reporter.report schemas request = .ok report) :
    report.executiveSummary = renderExecutiveSummary report ∧ report.investigationId = request.investigationId := by
  simp only [IncidentReports.IncidentReporter.report,bind_ok] at ran
  obtain ⟨_,_,_,_,_,_,_,_,_,_,_,_,_,_,_,_,_,_,made⟩ := ran
  cases made
  rw [renders]
  exact ⟨rfl,rfl⟩

omit [Printer] in
theorem IsUuid.length {text : Text} (identified : IsUuid text) : text.length = 36 := by
  obtain ⟨low,mid,high,clock,node,rfl,sizes,_⟩ := identified.grouped
  have dash : (lit "-").length = 1 := by decide
  simp only [joined,List.length_append,dash,sizes]

/-! ### The alert of an approved investigation -/

/-- An approval's alert, as it is delivered: the payload that `notify` leaves in the state,
    completed with any approval and link, is dispatched. -/
structure Delivered (uuids : UuidReader) (agents : Agents) (state : GraphState) : Prop where
  prepared : ∃ update payload, notify agents state = .ok update ∧ update.notification = [(lit "pending",.list [.dict payload])] ∧
    ∀ approvalId consoleUrl, ∃ alert, deliverAlert uuids payload approvalId consoleUrl = some alert ∧
      alert.investigationId = state.investigationId ∧ alert.approvalId = approvalId

/-- An alert with a summary that is short and not blank is delivered. -/
theorem delivered_of_summary (uuids : UuidReader) (agents : Agents) {state : GraphState} {next : Option Node} (shaped : Shaped state next)
    (identified : IsUuid state.investigationId) {summary : Text} (summarized : summaryOf state = .str summary)
    (informative : strip summary ≠ [] ∧ summary.length ≤ 1200) : Delivered uuids agents state := by
  obtain ⟨priority,severity,verdict,highlights,few,made⟩ := alertFor_payloadOf shaped summarized
  have titled : strip (titleOf state.investigationId) ≠ [] := by
    have letter : 73 ∈ lit "Investigation " := by decide
    have inside : 73 ∈ titleOf state.investigationId := by
      simp only [titleOf,List.mem_append]
      tauto
    exact strip_ne_nil inside (by decide)
  have valid : strip (titleOf state.investigationId) ≠ [] ∧ (strip summary ≠ [] ∧ summary.length ≤ 1200) ∧ highlights.length ≤ 8 :=
    ⟨titled,informative,by omega⟩
  refine ⟨_,_,by rw [notify,made]; rfl,rfl,fun approvalId consoleUrl => ?_⟩
  refine ⟨⟨state.investigationId,approvalId,titleOf state.investigationId,summary,priority,severity,verdict,highlights,consoleUrl,
    valid.1,valid.2.1,valid.2.2⟩,?_,rfl,rfl⟩
  rw [deliverAlert,validateAlert_payloadOf uuids identified,alertRequest,dif_pos valid]
  rfl

/-- In every run whose reporter renders the summary, the alert of an approved investigation
    is delivered when the sentences of its report count less than a billion. -/
theorem approved_alert_delivered (uuids : UuidReader) (pipeline : Pipeline)
    (renders : pipeline.reporter.renderExecutiveSummary = renderExecutiveSummary) {investigationId triggerSource : Text}
    {configSnapshot : Mapping} {createdAt : Text} {evidence : Mapping} {assets : List Mapping} {values : GraphState}
    (identified : IsUuid investigationId)
    (seeded : newState investigationId triggerSource configSnapshot createdAt evidence assets = .ok values)
    {passes : List Pass} {here : Checkpoint} (run : Run (Step pipeline.agents) ⟨values,some .INGEST_SEED⟩ passes here)
    (waiting : here.next = some .NOTIFY) :
    ∃ report, Drafted pipeline here.values report ∧ (Countable report → Delivered uuids pipeline.agents here.values) := by
  have fresh := Tracked.seeded seeded
  have tracked : Tracked ([] ++ passes) here := run_tracked fresh run
  have passed : Node.REPORT ∈ ([] ++ passes : List Pass).map (·.node) := required_passed tracked.path (by rw [waiting]; decide)
  obtain ⟨report,drafted⟩ := (run_reported fresh (fun none => absurd none List.not_mem_nil) run passed).drafted
  refine ⟨report,drafted,fun countable => ?_⟩
  obtain ⟨⟨request,asked,made⟩,kept⟩ := drafted
  obtain ⟨rendered,same⟩ := report_summary renders made
  have known : here.values.investigationId = investigationId := by
    rw [run_investigationId run]
    simp only [newState,bind_ok] at seeded
    obtain ⟨_,_,_,_,_,_,begun⟩ := seeded
    cases begun
    rfl
  have named : request.investigationId = here.values.investigationId := by
    simp only [reportRequest,bind_ok] at asked
    obtain ⟨_,_,_,_,_,_,_,_,request'⟩ := asked
    cases request'
    rfl
  have canonical : IsUuid here.values.investigationId := known ▸ identified
  have solid := strip_renderExecutiveSummary report
  have summarized : summaryOf here.values = .str report.executiveSummary := by
    have some : report.executiveSummary ≠ [] := by
      rintro none
      rw [← rendered,none] at solid
      exact solid rfl
    have stored : Graph.get here.values.report (lit "executive_summary") = .str report.executiveSummary := by rw [Graph.get,kept]; rfl
    rw [summaryOf,stored,if_pos (by simpa [Value.truthy] using some)]
  have short : (renderExecutiveSummary report).length ≤ 1200 := by
    have bound := length_renderExecutiveSummary countable
    rw [same,named,canonical.length] at bound
    omega
  exact delivered_of_summary uuids pipeline.agents tracked.shaped canonical summarized (by rw [rendered]; exact ⟨solid,short⟩)

end

/-! ### An approved investigation -/

/-- A reader of the texts that `str` writes. -/
def canonicalReader : UuidReader where
  read := some
  canonical := fun _ _ => rfl

def sampleId : Text := lit "1b4e28ba-2fa1-11d2-883f-0016d3cca427"

theorem sampleId_identified : IsUuid sampleId :=
  ⟨⟨lit "1b4e28ba",lit "2fa1",lit "11d2",lit "883f",lit "0016d3cca427",rfl,by decide,by decide⟩⟩

/-- What the detector and the researcher found, as the report reads it. -/
def foundThreat : IncidentReports.ThreatDetectionResult where
  verdict := .MALICIOUS
  severityLevel := .CRITICAL
  enrichmentStatus := .COMPLETE
  confidence := 9/10
  sure := by norm_num [LogAnalysis.Share]

def foundDossier : IncidentReports.CveResearchResult where
  cves := [⟨Assessments.exposedAssessment,lit "Remote code execution in log4j",some .CRITICAL,9/10,by norm_num [LogAnalysis.Share]⟩]
  candidates := []
  ruledOut := []
  stale := false
  confidence := 9/10
  sure := by norm_num [LogAnalysis.Share]

/-- The agents that find it. -/
def findingAgents : Agents :=
  { quietAgents with
    assess := fun _ => .ok ⟨⟨.MALICIOUS,.CRITICAL,.int 9,.URGENT,[],[],[],lit "complete",false,none,.int 1,[]⟩,.int 1,.null,[]⟩
    research := fun _ => .ok ⟨⟨[(Assessments.exposedAssessment.cveId,[],[])],[],[],some .CRITICAL,false,[]⟩,.int 1,.null,[]⟩ }

/-- The sample pipeline with these agents and the renderer. -/
def findingPipeline : Pipeline :=
  let _ := asciiPrinter
  { samplePipeline with
    reporter := { samplePipeline.reporter with
      readThreat := fun _ => some foundThreat
      readDossier := fun _ => some foundDossier
      renderExecutiveSummary := renderExecutiveSummary }
    others := findingAgents }

def sampleAssets : List Mapping := [[(lit "hostname",.str (lit "web-01"))]]

/-- The state at the gate of an investigation of the sample record. -/
def gateReached : Option (GraphState × Checkpoint) :=
  let _ := asciiPrinter
  (newState sampleId (lit "manual") [] [] (sampleEvidence [sampleRecord]) sampleAssets).toOption.bind fun values =>
    (follow findingPipeline.agents [.INGEST_SEED,.LOG_ANALYSIS,.THREAT_DETECTION,.CVE_RESEARCH,.REPORT,.REMEDIATION,.TRIAGE]
      ⟨values,some .INGEST_SEED⟩).map (values,·)

/-- What runs next, and the counts of the report on the state. -/
def gateSeen : Option (Option Node × Nat × Nat × Nat) :=
  let _ := asciiPrinter
  gateReached.bind fun reached => (reportRequest reached.2.values).toOption.bind fun request =>
    (findingPipeline.reporter.report findingPipeline.schemas request).toOption.map fun report =>
      (reached.2.next,report.affectedAssets.length,report.cves.length,report.caveats.length)

/-- The alert of an approved investigation that exposed a host to a vulnerability. -/
theorem sample_alert_delivered :
    let _ := asciiPrinter
    ∃ values passes here report, newState sampleId (lit "manual") [] [] (sampleEvidence [sampleRecord]) sampleAssets = .ok values ∧
      Run (Step findingPipeline.agents) ⟨values,some .INGEST_SEED⟩ passes here ∧ here.next = some .NOTIFY ∧
      Drafted findingPipeline here.values report ∧ report.affectedAssets.length = 1 ∧ report.cves.length = 1 ∧
      Delivered canonicalReader findingPipeline.agents here.values := by
  intro _
  have seen : gateSeen = some (some .HUMAN_GATE,1,1,1) := by decide +kernel
  simp only [gateSeen,gateReached,Option.map_eq_some_iff,Option.bind_eq_some_iff,Prod.mk.injEq] at seen
  obtain ⟨_,⟨values,made,gate,followed,rfl⟩,request,asked,report,drafted,waiting,assets,cves,caveats⟩ := seen
  have seeded := toOption_some made
  have front := follow_run _ followed
  have tracked : Tracked ([] ++ _) gate := run_tracked (Tracked.seeded seeded) front
  let decision : Mapping := [(lit "decision",.str (lit "approve"))]
  obtain ⟨here,step⟩ := tracked.goes findingPipeline.agents ⟨.HUMAN_GATE,some decision⟩ waiting (by decide) ⟨rfl,.text (lit "approve"),rfl⟩
  have onward : here.next = some .NOTIFY := by
    have edge := (step.flow tracked).2
    generalize here.next = next at edge
    cases edge with
    | gate => decide
  have same : reportRequest here.values = .ok request := by
    obtain ⟨_,⟨update,ran⟩,_⟩ := step
    obtain ⟨executed,applied,_⟩ := advance_ok.mp ran
    rw [applied,reportRequest_apply (execute_writes executed) (by decide)]
    exact toOption_some asked
  obtain ⟨report',found,delivered⟩ := approved_alert_delivered canonicalReader findingPipeline rfl sampleId_identified seeded
    (front.append (.go step (.stop _))) onward
  obtain ⟨request',asked',drafted'⟩ := found.asked
  obtain rfl : request' = request := Except.ok.inj (asked'.symm.trans same)
  obtain rfl : report' = report := Except.ok.inj (drafted'.symm.trans (toOption_some drafted))
  exact ⟨values,_,here,report',seeded,front.append (.go step (.stop _)),onward,found,assets,cves,
    delivered ⟨by rw [assets]; decide,by rw [cves]; decide,by rw [caveats]; decide⟩⟩

end SocAnalyst.AlertPayloads
