import SocAnalyst.GraphService
import SocAnalyst.IncidentReports

/-!
# Coverage gaps on their way to the report

The log analysis node flattens the gaps to strings, the report node hands them on with
the rest of the evidence section, and the reporter states them as caveats. When the
analysis normalized no event the report node hands on no evidence section.
-/
namespace SocAnalyst.Graph
open SocAnalyst.Builtins SocAnalyst.Values SocAnalyst.Dicts SocAnalyst.Runs SocAnalyst.Times SocAnalyst.Logs
open SocAnalyst.LogAnalysis (LogSchemas LogAnalyzer Sound readText AllComparable Share)
open SocAnalyst.IncidentReports (IncidentReporter Readable readLogAnalysis readSection report_returns report_gaps)

/-- The agents of the program around the log analyzer and the reporter. -/
structure Pipeline where
  schemas : LogSchemas
  analyzer : LogAnalyzer
  reporter : IncidentReporter
  others : Agents

/-- The threat detector takes requests whose texts validate only. -/
def Pipeline.assess (pipeline : Pipeline) (request : ThreatDetectionRequest) : Except PyError (AgentOutcome ThreatDetectionResult) := do
  let _ ← mapRaising readText request.coverageGaps
  let _ ← mapRaising readText request.internalNetworks
  let _ ← mapRaising readText request.criticalAssets
  pipeline.others.assess request

def Pipeline.agents [Printer] (pipeline : Pipeline) : Agents :=
  { pipeline.others with
    analyze := pipeline.analyzer.agent pipeline.schemas
    assess := pipeline.assess
    report := pipeline.reporter.agent pipeline.schemas }

/-- What the report node asks of the reporter. -/
def reportRequest (state : GraphState) : Except PyError IncidentReportRequest := do
  let events ← listFrom state.investigation (lit "normalized_events")
  let timeline ← listFrom state.investigation (lit "timeline")
  let coverageGaps ← listFrom state.investigation (lit "coverage_gaps")
  let criticalAssets ← listFrom state.configSnapshot (lit "critical_assets")
  return ⟨state.investigationId,state.triggerSource,
    if events = [] then none else some [(lit "events",.list events),(lit "timeline",.list timeline),
      (lit "coverage_gaps",.list coverageGaps)],
    get state.investigation (lit "threat_assessment"),get state.investigation (lit "vulnerability_dossier"),criticalAssets⟩

/-- The report node returns when the reporter does. -/
theorem report_asks (agents : Agents) (state : GraphState) :
    (∃ update, report agents state = .ok update) ↔ ∃ request outcome, reportRequest state = .ok request ∧ agents.report request = .ok outcome := by
  simp only [report,reportRequest,bind_ok]
  constructor
  · rintro ⟨update,events,read,timeline,timed,gaps,told,assets,listed,outcome,ran,_⟩
    exact ⟨_,outcome,⟨events,read,timeline,timed,gaps,told,assets,listed,rfl⟩,ran⟩
  · rintro ⟨request,outcome,⟨events,read,timeline,timed,gaps,told,assets,listed,made⟩,ran⟩
    cases made
    exact ⟨_,events,read,timeline,timed,gaps,told,assets,listed,outcome,ran,rfl⟩

/-- The normalized events of a state. -/
def normalizedEvents (state : GraphState) : List Value :=
  match get state.investigation (lit "normalized_events") with
  | .list events => events
  | _ => []

/-- The strings in `investigation.coverage_gaps`. -/
def coverageGaps (state : GraphState) : List Text :=
  match get state.investigation (lit "coverage_gaps") with
  | .list gaps => gaps.filterMap fun gap => match gap with
    | .str text => some text
    | _ => none
  | _ => []

/-- The report node returns, and the report it had made states every gap of the state. -/
def StatesEveryGap [Printer] (pipeline : Pipeline) (state : GraphState) : Prop :=
  ∃ request report, reportRequest state = .ok request ∧ pipeline.reporter.report pipeline.schemas request = .ok report ∧
    (∃ update, Graph.report pipeline.agents state = .ok update) ∧
    ∀ gap ∈ coverageGaps state, ⟨.COVERAGE_GAP,.EVIDENCE,gap⟩ ∈ report.caveats

/-! ### What the log analysis leaves -/

/-- The findings of the log analysis, as its node dumps them. -/
structure Analyzed (schemas : LogSchemas) (state : GraphState) (result : LogAnalysis.LogAnalysisResult) : Prop where
  sound : Sound result
  events : lookup state.investigation (lit "normalized_events") = some (.list (result.events.map schemas.dumpEvent))
  timeline : lookup state.investigation (lit "timeline") = some (.list (result.timeline.map schemas.dumpEntry))
  gaps : lookup state.investigation (lit "coverage_gaps") = some (.list (result.coverageGaps.map fun gap => .str gap.text))

/-- Nothing was analyzed yet. -/
def Unanalyzed (state : GraphState) : Prop :=
  ∀ key ∈ [lit "normalized_events",lit "timeline",lit "coverage_gaps"], lookup state.investigation key = some (.list [])

/-- What a run keeps of the evidence: empty findings up to the log analysis, its findings
    from then on, and readable names of assets once the threat detector has taken them. -/
structure Evident (schemas : LogSchemas) (here : Checkpoint) : Prop where
  before : ∀ node, here.next = some node → rank .LOG_ANALYSIS ≤ rank node → Unanalyzed here.values
  after : ∀ node, here.next = some node → rank node < rank .LOG_ANALYSIS → ∃ result, Analyzed schemas here.values result
  assets : ∀ node, here.next = some node → rank node < rank .THREAT_DETECTION →
    ∃ names : List Text, listFrom here.values.configSnapshot (lit "critical_assets") = .ok (names.map .str)

/-- Only the log analysis writes its findings. -/
theorem finds_elsewhere {node : Node} {findings : Mapping} (finds : Finds node findings) (elsewhere : node ≠ .LOG_ANALYSIS)
    {key : Text} (known : key ∈ [lit "normalized_events",lit "timeline",lit "coverage_gaps"]) :
    ∀ entry ∈ findings, entry.1 ≠ key := by
  have apart : ∀ other ∈ [lit "threat_assessment",lit "vulnerability_dossier",lit "remediation_plan"],
      ∀ key ∈ [lit "normalized_events",lit "timeline",lit "coverage_gaps"], other ≠ key := by decide
  cases node <;> simp only [Finds] at finds
  case LOG_ANALYSIS => exact absurd rfl elsewhere
  case THREAT_DETECTION =>
    obtain ⟨_,rfl⟩ := finds
    simpa using apart _ (by simp) key known
  case CVE_RESEARCH =>
    obtain ⟨_,rfl⟩ := finds
    simpa using apart _ (by simp) key known
  case REMEDIATION =>
    obtain ⟨_,rfl⟩ := finds
    simpa using apart _ (by simp) key known
  all_goals simp [finds]

/-- The edges lead on to the next stage at the most. -/
theorem Edge.near {pass : Pass} {next : Option Node} (edge : Edge pass next) {other : Node} (follows : next = some other) :
    (rank other < rank .LOG_ANALYSIS → rank pass.node ≤ rank .LOG_ANALYSIS) ∧
      (rank other < rank .THREAT_DETECTION → rank pass.node ≤ rank .THREAT_DETECTION) := by
  cases edge with
  | plain member =>
    have all : ∀ edge ∈ declared, ∀ other, edge.2 = some other →
        (rank other < rank .LOG_ANALYSIS → rank edge.1 ≤ rank .LOG_ANALYSIS) ∧
          (rank other < rank .THREAT_DETECTION → rank edge.1 ≤ rank .THREAT_DETECTION) := by decide
    exact all _ member other follows
  | gate decision => exact ⟨fun _ => show rank .HUMAN_GATE ≤ _ by decide,fun _ => show rank .HUMAN_GATE ≤ _ by decide⟩

section
variable [Printer] {pipeline : Pipeline}

/-- The log analysis dumps its findings into the empty ones. -/
theorem logAnalysis_leaves {state : GraphState} {update : Update} (empty : Unanalyzed state)
    (ran : logAnalysis pipeline.agents state = .ok update) : ∃ result, Analyzed pipeline.schemas (state.apply update) result := by
  simp only [logAnalysis,bind_ok] at ran
  obtain ⟨_,_,_,_,_,_,_,_,outcome,analyzed,made⟩ := ran
  cases made
  obtain ⟨result,sound,events,timeline,gaps⟩ := LogAnalysis.agent_dumps analyzed
  have told : (outcome.output.coverageGaps.map fun gap => Value.str (LogAnalysis.gapText gap)) =
      result.coverageGaps.map fun gap => .str gap.text := by
    rw [gaps,List.map_map]
    rfl
  refine ⟨result,sound,?_,?_,?_⟩ <;> simp only [GraphState.apply,mergeSubstate,mergeMapping,lookup_assign]
  · rw [empty (lit "normalized_events") (by simp),events]
    simp [mergeValue,show ¬ lit "normalized_events" = lit "timeline" by decide,show ¬ lit "normalized_events" = lit "coverage_gaps" by decide]
  · rw [empty (lit "timeline") (by simp),timeline]
    simp [mergeValue,show ¬ lit "timeline" = lit "normalized_events" by decide,show ¬ lit "timeline" = lit "coverage_gaps" by decide]
  · rw [empty (lit "coverage_gaps") (by simp),← told]
    simp [mergeValue,LogAnalysis.gapText,show ¬ lit "coverage_gaps" = lit "normalized_events" by decide,
      show ¬ lit "coverage_gaps" = lit "timeline" by decide]

omit [Printer] in
theorem Analyzed.elsewhere {node : Node} {resume : Option Mapping} {state : GraphState} {update : Update} {result : LogAnalysis.LogAnalysisResult}
    (analyzed : Analyzed pipeline.schemas state result) (written : Writes node resume update) (elsewhere : node ≠ .LOG_ANALYSIS) :
    Analyzed pipeline.schemas (state.apply update) result := by
  have kept : ∀ key ∈ [lit "normalized_events",lit "timeline",lit "coverage_gaps"],
      lookup (state.apply update).investigation key = lookup state.investigation key :=
    fun key known => lookup_mergeSubstate_other (finds_elsewhere written.investigation elsewhere known)
  exact ⟨analyzed.sound,by rw [kept _ (by simp)]; exact analyzed.events,by rw [kept _ (by simp)]; exact analyzed.timeline,
    by rw [kept _ (by simp)]; exact analyzed.gaps⟩

/-- The detector ran on names of assets. -/
theorem threatDetection_takes {state : GraphState} {update : Update} (ran : threatDetection pipeline.agents state = .ok update) :
    ∃ names : List Text, listFrom state.configSnapshot (lit "critical_assets") = .ok (names.map .str) := by
  simp only [threatDetection,bind_ok] at ran
  obtain ⟨_,_,_,_,_,_,_,_,assets,listed,outcome,assessed,_⟩ := ran
  simp only [Pipeline.agents,Pipeline.assess,bind_ok] at assessed
  obtain ⟨_,_,_,_,names,validated,_⟩ := assessed
  exact ⟨names,by rw [listed,LogAnalysis.readTexts_ok.mp validated]⟩

theorem Evident.step {passes : List Pass} {here next : Checkpoint} {pass : Pass} (tracked : Tracked passes here)
    (evident : Evident pipeline.schemas here) (step : Step pipeline.agents here pass next) : Evident pipeline.schemas next := by
  have flow := step.flow tracked
  obtain ⟨waiting,⟨update,ran⟩,_⟩ := step
  obtain ⟨executed,applied,_⟩ := advance_ok.mp ran
  have written := execute_writes executed
  refine ⟨?_,?_,?_⟩
  · intro node follows early key known
    have lower := Edge.onward flow.2 node follows (le_trans (by decide) early)
    have elsewhere : pass.node ≠ .LOG_ANALYSIS := by
      intro same
      rw [same] at lower
      omega
    rw [applied]
    refine (lookup_mergeSubstate_other (finds_elsewhere written.investigation elsewhere known)).trans ?_
    exact evident.before pass.node waiting (by omega) key known
  · intro node follows late
    have near := (Edge.near flow.2 follows).1 late
    rw [applied]
    by_cases here' : pass.node = .LOG_ANALYSIS
    · rw [here'] at executed waiting
      exact logAnalysis_leaves (evident.before _ waiting le_rfl) (mapError_ok.mp executed)
    · have lower : rank pass.node < rank .LOG_ANALYSIS := by
        refine lt_of_le_of_ne near fun same => here' ?_
        revert same
        cases pass.node <;> decide
      obtain ⟨result,analyzed⟩ := evident.after pass.node waiting lower
      exact ⟨result,analyzed.elsewhere written here'⟩
  · intro node follows late
    have near := (Edge.near flow.2 follows).2 late
    have same : next.values.configSnapshot = here.values.configSnapshot := by rw [applied]; rfl
    rw [same]
    by_cases here' : pass.node = .THREAT_DETECTION
    · rw [here'] at executed
      exact threatDetection_takes (mapError_ok.mp executed)
    · refine evident.assets pass.node waiting (lt_of_le_of_ne near fun same => here' ?_)
      revert same
      cases pass.node <;> decide

omit [Printer] in
theorem Evident.seeded {schemas : LogSchemas} {investigationId triggerSource : Text} {configSnapshot : Mapping} {createdAt : Text}
    {evidence : Mapping} {assets : List Mapping} {values : GraphState}
    (seeded : newState investigationId triggerSource configSnapshot createdAt evidence assets = .ok values) :
    Evident schemas ⟨values,some .INGEST_SEED⟩ := by
  simp only [newState,bind_ok] at seeded
  obtain ⟨_,_,_,_,_,_,made⟩ := seeded
  cases made
  refine ⟨?_,?_,?_⟩
  · rintro node _ _ key known
    simp only [List.mem_cons,List.not_mem_nil,or_false] at known
    rcases known with rfl | rfl | rfl <;> rfl
  · rintro node ⟨⟩ late
    exact absurd late (by decide)
  · rintro node ⟨⟩ late
    exact absurd late (by decide)

theorem run_evident {passes more : List Pass} {here next : Checkpoint} (tracked : Tracked passes here)
    (evident : Evident pipeline.schemas here) (run : Run (Step pipeline.agents) here more next) : Evident pipeline.schemas next :=
  (run.accumulates (P := fun done here => Tracked done here ∧ Evident pipeline.schemas here)
    (fun _ _ _ _ both step => ⟨both.1.step step,both.2.step both.1 step⟩) passes ⟨tracked,evident⟩).2

/-! ### What the report states -/

section
variable {state : GraphState} {result : LogAnalysis.LogAnalysisResult}

omit [Printer] in
theorem Analyzed.normalizedEvents {schemas : LogSchemas} (analyzed : Analyzed schemas state result) :
    normalizedEvents state = result.events.map schemas.dumpEvent := by
  unfold Graph.normalizedEvents get
  rw [analyzed.events]
  rfl

omit [Printer] in
theorem Analyzed.coverageGaps {schemas : LogSchemas} (analyzed : Analyzed schemas state result) :
    coverageGaps state = result.coverageGaps.map (·.text) := by
  unfold Graph.coverageGaps get
  rw [analyzed.gaps]
  simp [List.filterMap_map]

/-- The findings of the log analysis as the report node hands them on, which it does only
    when some event was normalized. -/
def handedOn (schemas : LogSchemas) (result : LogAnalysis.LogAnalysisResult) : Option Mapping :=
  if result.events = [] then none
  else some [(lit "events",.list (result.events.map schemas.dumpEvent)),(lit "timeline",.list (result.timeline.map schemas.dumpEntry)),
    (lit "coverage_gaps",.list (result.coverageGaps.map fun gap => .str gap.text))]

omit [Printer] in
theorem Analyzed.request {schemas : LogSchemas} (analyzed : Analyzed schemas state result) {names : List Text}
    (listed : listFrom state.configSnapshot (lit "critical_assets") = .ok (names.map .str)) :
    reportRequest state = .ok ⟨state.investigationId,state.triggerSource,handedOn schemas result,
      get state.investigation (lit "threat_assessment"),get state.investigation (lit "vulnerability_dossier"),names.map .str⟩ := by
  simp only [reportRequest,handedOn,listed]
  simp only [listFrom,analyzed.events,analyzed.timeline,analyzed.gaps,Option.getD_some,Value.iterate,bind,Except.bind,pure,
    Except.pure,List.map_eq_nil_iff]

/-- Gaps are never blank, so none is skipped. -/
theorem gapTexts_texts (gaps : List LogAnalysis.CoverageGap) :
    IncidentReports.gapTexts (.list (gaps.map fun gap => .str gap.text)) = .ok (gaps.map (·.text)) := by
  have solid : ∀ gap : LogAnalysis.CoverageGap, (Value.str gap.text).truthy = true := fun gap => by
    simpa [Value.truthy] using gap.text_ne_nil
  unfold IncidentReports.gapTexts
  by_cases none : gaps = []
  · subst none
    rfl
  · rw [if_pos (by simpa [Value.truthy] using none)]
    simp [Value.iterate,Except.map,List.filter_map,Function.comp_def,solid]

/-- What validates again of the dumped findings can be ordered and is as sure as it was. -/
theorem readLogAnalysis_dumps (sound : Sound result) (schemas : LogSchemas) (some : result.events ≠ []) :
    ∃ events entries, readLogAnalysis schemas (handedOn schemas result) = .ok (events,entries,result.coverageGaps.map (·.text)) ∧
      AllComparable (events.map (·.eventTime)) ∧ AllComparable (entries.map (·.eventTime)) ∧ ∀ event ∈ events, Share event.confidence := by
  obtain ⟨kind,same⟩ := IncidentReports.kind_of_allComparable sound.ordered
  have timed : ∀ entry ∈ result.timeline, entry.eventTime.aware = kind := by
    intro entry member
    rw [sound.timeline] at member
    obtain ⟨event,known,rfl⟩ := List.mem_map.mp member
    exact same _ (List.mem_map_of_mem known)
  refine ⟨(result.events.map schemas.dumpEvent).filterMap schemas.readEvent,
    (result.timeline.map schemas.dumpEntry).filterMap schemas.readEntry,?_,?_,?_,?_⟩
  · have found : ∀ events timeline gaps : Value, lookup [(lit "events",events),(lit "timeline",timeline),(lit "coverage_gaps",gaps)]
        (lit "coverage_gaps") = .some gaps := fun _ _ _ => rfl
    simp only [readLogAnalysis,handedOn,if_neg some,Option.getD_some,found,gapTexts_texts]
    rfl
  · refine IncidentReports.allComparable_of_kind kind ?_
    simp only [List.mem_map,List.mem_filterMap]
    rintro _ ⟨read,⟨_,⟨event,member,rfl⟩,validated⟩,rfl⟩
    exact (schemas.event_kept event read validated).1.trans (same _ (List.mem_map_of_mem member))
  · refine IncidentReports.allComparable_of_kind kind ?_
    simp only [List.mem_map,List.mem_filterMap]
    rintro _ ⟨read,⟨_,⟨entry,member,rfl⟩,validated⟩,rfl⟩
    exact (schemas.entry_kept entry read validated).trans (timed entry member)
  · simp only [List.mem_filterMap,List.mem_map]
    rintro read ⟨_,⟨event,member,rfl⟩,validated⟩
    rw [(schemas.event_kept event read validated).2]
    exact sound.sure event member

/-- What a reporter makes of the request of the report node. -/
theorem report_of_analyzed (analyzed : Analyzed pipeline.schemas state result) {names : List Text}
    (listed : listFrom state.configSnapshot (lit "critical_assets") = .ok (names.map .str))
    (threat : ∃ payload, readSection (get state.investigation (lit "threat_assessment")) = .ok payload)
    (dossier : ∃ payload, readSection (get state.investigation (lit "vulnerability_dossier")) = .ok payload) :
    ∃ request report, reportRequest state = .ok request ∧ pipeline.reporter.report pipeline.schemas request = .ok report ∧
      ∀ gap, ⟨.COVERAGE_GAP,.EVIDENCE,gap⟩ ∈ report.caveats ↔ result.events ≠ [] ∧ gap ∈ coverageGaps state := by
  have evidence : ∃ read : List NormalizedEvent × List LogAnalysis.TimelineEntry × List Text,
      readLogAnalysis pipeline.schemas (handedOn pipeline.schemas result) = .ok read ∧
      (∀ gap, gap ∈ read.2.2 ↔ result.events ≠ [] ∧ gap ∈ coverageGaps state) ∧
      AllComparable (read.1.map (·.eventTime)) ∧ AllComparable (read.2.1.map (·.eventTime)) ∧
      ∀ event ∈ read.1, Share event.confidence := by
    by_cases none : result.events = []
    · rw [handedOn,if_pos none]
      exact ⟨([],[],[]),rfl,by simp [none],by simp [AllComparable],by simp [AllComparable],by simp⟩
    · obtain ⟨events,entries,read,ordered,timed,sure⟩ := readLogAnalysis_dumps analyzed.sound pipeline.schemas none
      exact ⟨_,read,by simp [none,analyzed.coverageGaps],ordered,timed,sure⟩
  obtain ⟨read,given,gaps,ordered,timed,sure⟩ := evidence
  have named : ∀ asset ∈ names.map Value.str, ∃ name, asset = .str name := by simp
  obtain ⟨report,reported⟩ := report_returns pipeline.reporter pipeline.schemas
    ⟨state.investigationId,state.triggerSource,handedOn pipeline.schemas result,
      get state.investigation (lit "threat_assessment"),get state.investigation (lit "vulnerability_dossier"),names.map .str⟩
    ⟨threat,dossier,named,read,given,ordered,timed,sure⟩
  obtain ⟨again,same,stated⟩ := report_gaps reported
  rw [given,Except.ok.injEq] at same
  subst same
  exact ⟨_,report,analyzed.request listed,reported,fun gap => (stated gap).trans (gaps gap)⟩

end

theorem statesEveryGap_iff {passes : List Pass} {here : Checkpoint} (tracked : Tracked passes here)
    (evident : Evident pipeline.schemas here) (waiting : here.next = some .REPORT) :
    StatesEveryGap pipeline here.values ↔ normalizedEvents here.values ≠ [] ∨ coverageGaps here.values = [] := by
  obtain ⟨result,analyzed⟩ := evident.after _ waiting (by decide)
  obtain ⟨names,listed⟩ := evident.assets _ waiting (by decide)
  have sections : ∀ {key : Text} {writer : Node} {Dumped : Mapping → Prop}, Slot key writer Dumped here.values here.next →
      ∃ payload, readSection (get here.values.investigation key) = .ok payload := by
    intro key writer Dumped slot
    rcases slot.read with absent | ⟨entries,stored,_⟩
    · exact ⟨[],by rw [absent]; rfl⟩
    · exact ⟨entries,by rw [stored]; rfl⟩
  obtain ⟨request,report,asked,reported,stated⟩ :=
    report_of_analyzed analyzed listed (sections tracked.shaped.assessment) (sections tracked.shaped.dossier)
  have some : normalizedEvents here.values ≠ [] ↔ result.events ≠ [] := by
    rw [analyzed.normalizedEvents,ne_eq,List.map_eq_nil_iff]
  rw [some]
  constructor
  · rintro ⟨request',report',asked',reported',_,every⟩
    rw [asked,Except.ok.injEq] at asked'
    subst asked'
    rw [reported,Except.ok.injEq] at reported'
    subst reported'
    by_cases none : coverageGaps here.values = []
    · exact .inr none
    · obtain ⟨gap,rest,first⟩ := List.exists_cons_of_ne_nil none
      exact .inl ((stated gap).mp (every gap (by rw [first]; simp))).1
  · intro either
    refine ⟨request,report,asked,reported,(report_asks _ _).mpr ⟨request,_,asked,map_ok.mpr ⟨report,reported,rfl⟩⟩,?_⟩
    intro gap member
    refine (stated gap).mpr ⟨?_,member⟩
    rcases either with events | none
    · exact events
    · rw [none] at member
      cases member

/-- In every run of the graph the report states every gap exactly when some event was
    normalized or there was no gap to state. -/
theorem gaps_stated_iff_events (pipeline : Pipeline) {investigationId triggerSource : Text} {configSnapshot : Mapping} {createdAt : Text}
    {evidence : Mapping} {assets : List Mapping} {values : GraphState}
    (seeded : newState investigationId triggerSource configSnapshot createdAt evidence assets = .ok values)
    {passes : List Pass} {here : Checkpoint} (run : Run (Step pipeline.agents) ⟨values,some .INGEST_SEED⟩ passes here)
    (waiting : here.next = some .REPORT) :
    StatesEveryGap pipeline here.values ↔ normalizedEvents here.values ≠ [] ∨ coverageGaps here.values = [] :=
  statesEveryGap_iff (run_tracked (Tracked.seeded seeded) run) (run_evident (Tracked.seeded seeded) (Evident.seeded seeded) run) waiting

end

/-! ### One source that could not be read -/

theorem toOption_some {ε α : Type} {x : Except ε α} {y : α} (made : x.toOption = some y) : x = .ok y := by
  cases x with
  | error e => cases made
  | ok z => exact congrArg Except.ok (Option.some.inj made)

section
variable [Printer] (agents : Agents)

/-- Run the nodes given, one after the other. -/
def follow : List Node → Checkpoint → Option Checkpoint
  | [],here => some here
  | node :: rest,here =>
    if here.next = some node ∧ node ≠ .HUMAN_GATE then
      (advance agents node none here.values).toOption.bind fun ran => follow rest ran.2
    else none

theorem follow_run {nodes : List Node} {here next : Checkpoint} (followed : follow agents nodes here = some next) :
    Run (Step agents) here (nodes.map fun node => ⟨node,none⟩) next := by
  induction nodes generalizing here with
  | nil =>
    cases followed
    exact .stop _
  | cons node rest ih =>
    unfold follow at followed
    split_ifs at followed with allowed
    obtain ⟨⟨update,after⟩,ran,later⟩ := Option.bind_eq_some_iff.mp followed
    refine .go ⟨allowed.1,⟨update,?_⟩,allowed.2⟩ (ih later)
    exact toOption_some ran

end

/-- The time of the sample record, and the record. -/
def sampleTime : DateTime := ⟨86400000000,some 0,by decide⟩
def sampleContent : Text := lit "time=0001-01-02 user=bob"

def textAt (key : String) (entries : Mapping) : Text :=
  match get entries (lit key) with
  | .str text => text
  | _ => []

/-- Schemas that know the sample record. -/
def sampleSchemas : LogSchemas where
  readRecord
    | .dict entries => .ok {
        recordId := textAt "record_id" entries, sourceId := textAt "source_id" entries, sourceKind := .FILE
        content := textAt "content" entries }
    | _ => .error .ValueError
  readWindow _ := .error .ValueError
  dumpEvent event :=
    if event.eventTime = sampleTime ∧ event.confidence = 4/5 then
      .dict [(lit "event_id",.str event.eventId),(lit "source_id",.str event.sourceId)]
    else .null
  readEvent
    | .dict entries => some {
        eventId := textAt "event_id" entries, recordId := lit "fw:1", sourceId := textAt "source_id" entries, sourceKind := .FILE
        logFormat := .KEY_VALUE, eventTime := sampleTime, confidence := 4/5 }
    | _ => none
  dumpEntry entry := if entry.eventTime = sampleTime then .dict [(lit "event_id",.str entry.eventId)] else .null
  readEntry
    | .dict entries => some { eventId := textAt "event_id" entries, eventTime := sampleTime, sourceId := [], summary := [] }
    | _ => none
  event_kept event read validated := by
    by_cases sample : event.eventTime = sampleTime ∧ event.confidence = 4/5
    · rw [if_pos sample] at validated
      cases validated
      exact ⟨congrArg DateTime.aware sample.1.symm,sample.2.symm⟩
    · rw [if_neg sample] at validated
      cases validated
  entry_kept entry read validated := by
    by_cases sample : entry.eventTime = sampleTime
    · rw [if_pos sample] at validated
      cases validated
      exact congrArg DateTime.aware sample.symm
    · rw [if_neg sample] at validated
      cases validated

/-- What the parsers, the extraction and the correlation make of the sample record. -/
def sampleAnalyzer : LogAnalyzer where
  parseRecord record := .ok (if record.content = sampleContent then some {
    logFormat := .KEY_VALUE, eventTime := some sampleTime, message := record.content, actor := some (lit "bob")
    fields := [(lit "time",.str (lit "0001-01-02")),(lit "user",.str (lit "bob"))]
    confidence := 4/5, sure := ⟨by norm_num,by norm_num⟩ } else none)
  extractEntities _ given := .ok (given.filterMap fun entity => entity.2.map fun value => ⟨entity.1,value⟩)
  correlateEvents _ := .ok []
  sha256 _ := lit "1d60c1b68eca09acbf809251a64e1a8e9a0d60f8781ddc9e355a2c5a5db8d88e"
  promptVersion := lit "1"

def samplePipeline : Pipeline where
  schemas := sampleSchemas
  analyzer := sampleAnalyzer
  reporter := {
    readThreat := fun _ => none, readDossier := fun _ => none, renderExecutiveSummary := fun _ => lit "Summary"
    renderTechnicalBody := fun _ => lit "Report", dumpCitation := fun _ => .null, promptVersion := lit "1" }
  others := quietAgents

/-- A source that timed out beside the records that were collected. -/
def sampleEvidence (records : List Value) : Mapping :=
  [(lit "raw_records",.list records),(lit "source_failures",.list [.dict [(lit "source_id",.str (lit "siem")),
    (lit "reason",.str (lit "timeout"))]])]

/-- The run up to the report. -/
def sampleFront : List Pass := [⟨.INGEST_SEED,none⟩,⟨.LOG_ANALYSIS,none⟩,⟨.THREAT_DETECTION,none⟩]

/-- The state before the report of an investigation of these records. -/
def sampleReached (records : List Value) : Option (GraphState × Checkpoint) :=
  let _ := asciiPrinter
  (newState (lit "inv") (lit "manual") [] [] (sampleEvidence records) []).toOption.bind fun values =>
    (follow samplePipeline.agents (sampleFront.map (·.node)) ⟨values,some .INGEST_SEED⟩).map (values,·)

/-- What is asked about the state reached. -/
def sampleSeen (records : List Value) : Option (Bool × Option Node × List Text) :=
  (sampleReached records).map fun reached =>
    ((normalizedEvents reached.2.values).isEmpty,reached.2.next,coverageGaps reached.2.values)

theorem sampleSeen_run {records : List Value} {quiet : Bool} {next : Option Node} {gaps : List Text}
    (seen : sampleSeen records = some (quiet,next,gaps)) :
    ∃ values here, newState (lit "inv") (lit "manual") [] [] (sampleEvidence records) [] = .ok values ∧
      Run (@Step asciiPrinter (@Pipeline.agents asciiPrinter samplePipeline)) ⟨values,some .INGEST_SEED⟩ sampleFront here ∧
      (normalizedEvents here.values).isEmpty = quiet ∧ here.next = next ∧ coverageGaps here.values = gaps := by
  simp only [sampleSeen,sampleReached,Option.map_eq_some_iff,Option.bind_eq_some_iff,Prod.mk.injEq] at seen
  obtain ⟨_,⟨values,made,here,followed,rfl⟩,events,waiting,gaps⟩ := seen
  exact ⟨values,here,toOption_some made,@follow_run asciiPrinter _ _ _ _ followed,events,waiting,gaps⟩

/-- An event that was normalized beside the gap. -/
def sampleRecord : Value :=
  .dict [(lit "record_id",.str (lit "fw:1")),(lit "source_id",.str (lit "fw")),
    (lit "source_kind",.str (lit "file")),(lit "content",.str sampleContent)]

/-- Beside an event the gap is stated. -/
theorem gap_beside_event_stated :
    ∃ values here, newState (lit "inv") (lit "manual") [] [] (sampleEvidence [sampleRecord]) [] = .ok values ∧
      Run (@Step asciiPrinter (@Pipeline.agents asciiPrinter samplePipeline)) ⟨values,some .INGEST_SEED⟩ sampleFront here ∧
      coverageGaps here.values = [lit "source_unavailable: timeout"] ∧ @StatesEveryGap asciiPrinter samplePipeline here.values := by
  have seen : sampleSeen [sampleRecord] = some (false,some .REPORT,[lit "source_unavailable: timeout"]) := by decide +kernel
  obtain ⟨values,here,seeded,run,events,waiting,gaps⟩ := sampleSeen_run seen
  refine ⟨values,here,seeded,run,gaps,
    (@gaps_stated_iff_events asciiPrinter samplePipeline _ _ _ _ _ _ _ seeded _ _ run waiting).mpr (.inl ?_)⟩
  rintro none
  rw [none] at events
  cases events

/-- With no event beside it the gap is lost. -/
theorem lone_gap_lost :
    ∃ values here, newState (lit "inv") (lit "manual") [] [] (sampleEvidence []) [] = .ok values ∧
      Run (@Step asciiPrinter (@Pipeline.agents asciiPrinter samplePipeline)) ⟨values,some .INGEST_SEED⟩ sampleFront here ∧
      here.next = some .REPORT ∧ coverageGaps here.values = [lit "source_unavailable: timeout"] ∧
      ¬ @StatesEveryGap asciiPrinter samplePipeline here.values := by
  have seen : sampleSeen [] = some (true,some .REPORT,[lit "source_unavailable: timeout"]) := by decide +kernel
  obtain ⟨values,here,seeded,run,events,waiting,gaps⟩ := sampleSeen_run seen
  refine ⟨values,here,seeded,run,waiting,gaps,fun stated => ?_⟩
  have tracked := @run_tracked asciiPrinter _ _ _ _ _ (Tracked.seeded seeded) run
  have evident := @run_evident asciiPrinter samplePipeline _ _ _ _ (Tracked.seeded seeded) (Evident.seeded seeded) run
  rcases (@statesEveryGap_iff asciiPrinter samplePipeline _ _ tracked evident waiting).mp stated with some | none
  · exact some (List.isEmpty_iff.mp events)
  · rw [gaps] at none
    cases none

end SocAnalyst.Graph
