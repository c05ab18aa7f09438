import SocAnalyst.Enrichment
import SocAnalyst.LogAnalysis
import SocAnalyst.Reporting

/-!
# The incident reporter

`IncidentReporter` of `agents/incident_reporter/reporter.py`: what the agents found is
restated with its support, and every limitation becomes a caveat. The rendering of the
document and the validation of the sections are whatever the reporter was given.
-/
namespace SocAnalyst.IncidentReports
open SocAnalyst.Builtins SocAnalyst.Doubles SocAnalyst.Times SocAnalyst.Dicts SocAnalyst.Values SocAnalyst.Logs SocAnalyst.Risk
open SocAnalyst.Applicability SocAnalyst.Assessments SocAnalyst.Reporting SocAnalyst.Iocs SocAnalyst.Enrichment SocAnalyst.LogAnalysis
open SocAnalyst.Graph (Mapping Verdict number get severityValue)

/-! ### Contracts -/

/-- The upstream stage a finding or caveat belongs to. -/
inductive ReportSectionKind where
  | EVIDENCE
  | THREAT
  | VULNERABILITY
  | OVERALL
  deriving DecidableEq, Repr

def ReportSectionKind.value : ReportSectionKind → Text
  | .EVIDENCE => lit "evidence"
  | .THREAT => lit "threat"
  | .VULNERABILITY => lit "vulnerability"
  | .OVERALL => lit "overall"

/-- Why part of the report is weaker than it looks. -/
inductive CaveatKind where
  | MISSING_SECTION
  | COVERAGE_GAP
  | TIMELINE_TRUNCATED
  | LOW_CONFIDENCE
  | DEGRADED_ENRICHMENT
  | STALE_RESEARCH
  | UNCONFIRMED_APPLICABILITY
  | ESCALATION_REQUIRED
  deriving DecidableEq, Repr

def CaveatKind.value : CaveatKind → Text
  | .MISSING_SECTION => lit "missing_section"
  | .COVERAGE_GAP => lit "coverage_gap"
  | .TIMELINE_TRUNCATED => lit "timeline_truncated"
  | .LOW_CONFIDENCE => lit "low_confidence"
  | .DEGRADED_ENRICHMENT => lit "degraded_enrichment"
  | .STALE_RESEARCH => lit "stale_research"
  | .UNCONFIRMED_APPLICABILITY => lit "unconfirmed_applicability"
  | .ESCALATION_REQUIRED => lit "escalation_required"

/-- The upstream artifacts a claim rests on. -/
structure FindingSupport where
  eventIds : List Text := []
  signalRuleIds : List Text := []
  techniqueIds : List Text := []
  cveIds : List Text := []
  indicatorValues : List Text := []

/-- Whether something upstream backs the claim. -/
def FindingSupport.Backed (support : FindingSupport) : Prop :=
  support.eventIds ≠ [] ∨ support.signalRuleIds ≠ [] ∨ support.techniqueIds ≠ [] ∨ support.cveIds ≠ [] ∨ support.indicatorValues ≠ []

instance (support : FindingSupport) : Decidable support.Backed := inferInstanceAs (Decidable (_ ∨ _))
instance (q : ℚ) : Decidable (Share q) := inferInstanceAs (Decidable (_ ∧ _))

/-- One documented finding, with the evidence that supports it. -/
structure ReportFinding where
  sectionKind : ReportSectionKind
  title : Text
  detail : Text
  support : FindingSupport
  confidence : ℚ
  citations : List Citation
  backed : support.Backed
  sure : Share confidence

/-- The validated constructor: a finding that points at nothing is refused. -/
def reportFinding (sectionKind : ReportSectionKind) (title detail : Text) (support : FindingSupport) (confidence : ℚ)
    (citations : List Citation := []) : Except PyError ReportFinding :=
  if valid : support.Backed ∧ Share confidence then
    .ok ⟨sectionKind,title,detail,support,confidence,citations,valid.1,valid.2⟩
  else .error .ValueError

/-- A stated limitation on the report's reliability. -/
structure ReportCaveat where
  kind : CaveatKind
  sectionKind : ReportSectionKind
  detail : Text
  deriving DecidableEq

/-- One ordered step in the narrative, traceable to its source event. -/
structure ReportTimelineEntry where
  eventId : Text
  occurredAt : DateTime
  sourceId : Text
  summary : Text
  notability : ℚ
  rawRef : Option Text

structure DetectionSignal where
  ruleId : Text
  name : Text
  description : Text
  eventIds : List Text := []
  techniqueIds : List Text := []
  detail : Text := []

structure TechniqueMapping where
  techniqueId : Text
  name : Text
  tactics : List Text := []
  rationale : Text := []
  confidence : ℚ

/-- The assessment of the threat detector, as the report reads it. -/
structure ThreatDetectionResult where
  verdict : Verdict
  severityLevel : Severity
  iocs : List IocIndicator := []
  attackTechniques : List TechniqueMapping := []
  signals : List DetectionSignal := []
  enrichmentStatus : EnrichmentStatus
  escalationRequired : Bool := false
  escalationReason : Option Text := none
  citations : List Citation := []
  confidence : ℚ
  sure : Share confidence

/-- An assessment with the parts of its record that only the report reads. -/
structure AssessedCve where
  assessment : CveAssessment
  summary : Text
  severity : Option Severity
  confidence : ℚ
  sure : Share confidence

structure CveResearchResult where
  cves : List AssessedCve
  candidates : List AssessedCve
  ruledOut : List AssessedCve
  stale : Bool
  confidence : ℚ
  sure : Share confidence

structure IndicatorRow where
  type : IocType
  value : Text
  defanged : Text
  reputation : IocReputation
  source : Option Text
  internal : Bool

structure CveRow where
  cveId : Text
  cvssScore : Option ℚ
  severity : Option Severity
  applicability : CveApplicability
  summary : Text

inductive ReportStatus where
  | DRAFT
  | FINAL
  deriving DecidableEq, Repr

def ReportStatus.value : ReportStatus → Text
  | .DRAFT => lit "draft"
  | .FINAL => lit "final"

/-- The report that the synthesis ends in. -/
structure IncidentReport where
  investigationId : Text
  title : Text
  status : ReportStatus := .DRAFT
  executiveSummary : Text := []
  technicalBody : Text := []
  verdict : Option Verdict
  severity : Option Severity
  timeline : List ReportTimelineEntry
  findings : List ReportFinding
  affectedAssets : List AffectedAsset
  indicators : List IndicatorRow
  techniques : List TechniqueMapping
  cves : List CveRow
  caveats : List ReportCaveat
  citations : List Citation
  confidence : ℚ
  generatedFrom : List ReportSectionKind
  sure : Share confidence

/-- Whether every upstream section contributed to the report. -/
def IncidentReport.isComplete (report : IncidentReport) : Bool := report.caveats.all fun caveat => caveat.kind ≠ .MISSING_SECTION

/-- A reporter: its threshold, the schemas of the sections and the renderer. -/
structure IncidentReporter where
  /-- Below this, a section's confidence is called out. -/
  lowConfidence : ℚ := 3/5
  readThreat : Mapping → Option ThreatDetectionResult
  readDossier : Mapping → Option CveResearchResult
  renderExecutiveSummary : IncidentReport → Text
  renderTechnicalBody : IncidentReport → Text
  dumpCitation : Citation → Value
  promptVersion : Text

/-! ### Reading upstream state -/

/-- A section that is a dictionary or missing. -/
def readSection : Value → Except PyError Mapping
  | .null => .ok []
  | .dict entries => .ok entries
  | _ => .error .ValueError

/-- Validate a whole upstream section, if it is there and readable. -/
def readModel {α : Type} (read : Mapping → Option α) (payload : Mapping) : Option α := if payload = [] then none else read payload

/-- Whatever validates of a list. -/
def validateEach {α : Type} (read : Value → Option α) : Option Value → List α
  | some (.list items) => items.filterMap read
  | _ => []

/-- `str(item)` of the items that are true. -/
def gapTexts [Printer] (payload : Value) : Except PyError (List Text) :=
  if payload.truthy then payload.iterate.map fun items => (items.filter (·.truthy)).map Value.toText else .ok []

/-- Read the evidence section, tolerating anything malformed inside it. -/
def readLogAnalysis [Printer] (schemas : LogSchemas) (payload : Option Mapping) :
    Except PyError (List NormalizedEvent × List TimelineEntry × List Text) := do
  let data := payload.getD []
  let events := validateEach schemas.readEvent (lookup data (lit "events"))
  let entries := validateEach schemas.readEntry (lookup data (lit "timeline"))
  let gaps ← gapTexts ((lookup data (lit "coverage_gaps")).getD (.list []))
  return (events,entries,gaps)

def sectionsPresent (logAnalysis : Option Mapping) (threat : Option ThreatDetectionResult) (dossier : Option CveResearchResult) :
    List ReportSectionKind :=
  (if logAnalysis.getD [] ≠ [] then [.EVIDENCE] else []) ++ (if threat.isSome then [.THREAT] else []) ++
    (if dossier.isSome then [.VULNERABILITY] else [])

/-- Which sections this investigation ought to have produced. -/
def sectionsExpected (threat : Option ThreatDetectionResult) : List ReportSectionKind :=
  [.EVIDENCE,.THREAT] ++ (if threat.any fun assessment => assessment.verdict ≠ .BENIGN then [.VULNERABILITY] else [])

/-! ### Timeline and references -/

/-- The most notable entries in order, when there are too many. -/
def bounded (limit : Nat) (ordered : List TimelineEntry) : Except PyError (List TimelineEntry) :=
  if ordered.length - limit = 0 then .ok ordered
  else sortedByTime (·.eventTime) (·.eventId) ((sortedBy (fun entry : TimelineEntry =>
    (toLex (-entry.notability,toLex (entry.eventTime.instant,entry.eventId)) : ℚ ×ₗ Int ×ₗ Text)) ordered).take limit)

/-- Order and bound the narrative timeline; the number is of the entries left out. -/
def assembleTimeline (entries : List TimelineEntry) (limit : Nat) (events : List NormalizedEvent) :
    Except PyError (List ReportTimelineEntry × Nat) := do
  let rawRefs : Dict Text (Option Text) := events.foldl (fun refs event => refs.set event.eventId event.rawRef) Dict.empty
  let unique : Dict Text TimelineEntry :=
    entries.foldl (fun kept entry => if (kept.get? entry.eventId).isSome then kept else kept.set entry.eventId entry) Dict.empty
  let ordered ← sortedByTime (·.eventTime) (·.eventId) unique.values
  let shown ← bounded limit ordered
  return (shown.map fun entry =>
    ⟨entry.eventId,entry.eventTime,entry.sourceId,entry.summary,entry.notability,(rawRefs.get? entry.eventId).getD none⟩,
    ordered.length - limit)

/-- Identity of a citation: its source plus the exact thing it points at. -/
def citationKey (citation : Citation) : Text × Text :=
  (citation.sourceId,orElse citation.chunkId (orElse citation.url (citation.title.getD [])))

/-- The first citation under every key. -/
def compileFrom : List (Text × Text) → List Citation → List Citation
  | _, [] => []
  | seen, citation :: rest =>
    if citationKey citation ∈ seen then compileFrom seen rest else citation :: compileFrom (citationKey citation :: seen) rest

/-- Merge every cited source into one reference list. -/
def compileCitations (groups : List (List Citation)) : List Citation := compileFrom [] groups.flatten

/-! ### Caveats -/

def missingSectionCaveats (missing : List ReportSectionKind) : List ReportCaveat :=
  (sortedBy ReportSectionKind.value missing).map fun sectionKind => {
    kind := .MISSING_SECTION
    sectionKind
    detail := lit "the " ++ sectionKind.value ++ lit (" section is missing from this report; the upstream " ++
      "stage produced nothing readable, so the report is assembled without it") }

def truncatedCaveats (leftOut shown : Nat) : List ReportCaveat :=
  if leftOut = 0 then [] else [{
    kind := .TIMELINE_TRUNCATED
    sectionKind := .EVIDENCE
    detail := number leftOut ++ lit " of " ++ number (leftOut + shown) ++ lit (" timeline entries were omitted; " ++
      "the most notable were retained and the full sequence remains in the investigation record") }]

def evidenceCaveats (coverageGaps : List Text) : List ReportCaveat :=
  coverageGaps.map fun gap => ⟨.COVERAGE_GAP,.EVIDENCE,gap⟩

/-- A share as whole percents. -/
def percent (q : ℚ) : Text := lit (toString (roundHalfEven (q * 100)) ++ "%")

def enrichmentValue : EnrichmentStatus → Text
  | .COMPLETE => lit "complete"
  | .DEGRADED => lit "degraded"
  | .UNAVAILABLE => lit "unavailable"

/-- Everything about the assessment a reader should weigh it against. -/
def threatCaveats (lowConfidence : ℚ) : Option ThreatDetectionResult → List ReportCaveat
  | none => []
  | some threat =>
    (if threat.confidence < lowConfidence then [⟨.LOW_CONFIDENCE,.THREAT,lit "the threat assessment was reached with " ++
      percent threat.confidence ++ lit " confidence; treat the verdict as provisional"⟩] else []) ++
    (if threat.enrichmentStatus ≠ .COMPLETE then [⟨.DEGRADED_ENRICHMENT,.THREAT,lit "indicator reputation was " ++
      enrichmentValue threat.enrichmentStatus ++ lit "; indicators without a named source are unchecked, not clean"⟩] else []) ++
    (if threat.escalationRequired ∧ truthy threat.escalationReason then
      [⟨.ESCALATION_REQUIRED,.THREAT,threat.escalationReason.getD []⟩] else [])

def vulnerabilityCaveats : Option CveResearchResult → List ReportCaveat
  | none => []
  | some dossier =>
    (if dossier.stale then [⟨.STALE_RESEARCH,.VULNERABILITY,lit ("vulnerability research did not rest on the live feed; some or all " ++
      "records came from the indexed corpus and may be out of date")⟩] else []) ++
    (if dossier.candidates ≠ [] then [⟨.UNCONFIRMED_APPLICABILITY,.VULNERABILITY,number dossier.candidates.length ++
      lit (" vulnerability candidate(s) could not be confirmed against the asset inventory and require manual checking")⟩] else [])

/-! ### Findings -/

/-- Distinct texts in order. -/
def sortedSet (texts : List Text) : List Text := sortedBy id texts.dedup

/-- Restate what was observed, without characterizing it. -/
def evidenceFindings (events : List NormalizedEvent) (entries : List TimelineEntry) : Except PyError (List ReportFinding) :=
  if events = [] then .ok []
  else
    let sources := sortedSet (events.map (·.sourceId))
    let hosts := sortedSet ((events.map fun event => event.host.getD []).filter (· ≠ []))
    (reportFinding .EVIDENCE (number events.length ++ lit " security-relevant events normalized")
      (lit "Evidence was collected from " ++ number sources.length ++ lit " source(s) (" ++ joined (lit ", ") sources ++
        lit ") and normalized into " ++ number entries.length ++ lit " timeline entries across " ++
        (if hosts = [] then lit "no identified" else number hosts.length) ++ lit " host(s)" ++
        (if hosts = [] then lit "." else lit ": " ++ joined (lit ", ") hosts ++ lit "."))
      { eventIds := events.map (·.eventId) }
      (roundTo 4 ((events.map (·.confidence)).sum / events.length))).map ([·])

def reputationValue : IocReputation → Text
  | .MALICIOUS => lit "malicious"
  | .SUSPICIOUS => lit "suspicious"
  | .HARMLESS => lit "harmless"
  | .UNKNOWN => lit "unknown"

/-- Whether an intel source actually asserted that the indicator is bad. -/
def isHostile (ioc : IocIndicator) : Bool := ioc.enriched && (ioc.reputation = .MALICIOUS || ioc.reputation = .SUSPICIOUS)

/-- An optional text in an f-string. -/
def shown (text : Option Text) : Text := text.getD (lit "None")

/-- One finding per detection that fired, plus each confirmed hostile indicator. -/
def threatFindings : Option ThreatDetectionResult → Except PyError (List ReportFinding)
  | none => .ok []
  | some threat => do
    let fired ← mapRaising (fun signal : DetectionSignal =>
      reportFinding .THREAT signal.name (signal.description ++ lit " Observed: " ++ signal.detail)
        { eventIds := signal.eventIds, signalRuleIds := [signal.ruleId], techniqueIds := signal.techniqueIds } threat.confidence)
      threat.signals
    let hostile ← mapRaising (fun ioc : IocIndicator =>
      reportFinding .THREAT (lit "Indicator reported as " ++ reputationValue ioc.reputation)
        (shown ioc.reputationSource ++ lit " reported " ++ ioc.defanged ++ lit " as " ++ reputationValue ioc.reputation ++ lit " (" ++
          shown ioc.reputationDetail ++ lit ").")
        { eventIds := ioc.eventIds, indicatorValues := [ioc.defanged] } threat.confidence)
      (threat.iocs.filter isHostile)
    return fired ++ hostile

/-- One finding per confirmed CVE. -/
def vulnerabilityFindings : Option CveResearchResult → Except PyError (List ReportFinding)
  | none => .ok []
  | some dossier =>
    mapRaising (fun cve : AssessedCve =>
      let record := cve.assessment.record
      let score := match record.cvss with
        | none => []
        | some cvss => lit " CVSS " ++ showTenths cvss.baseScore ++ lit "/10."
      let evidence := joined (lit " ") ((cve.assessment.evidence.map (·.detail)).filter (· ≠ []))
      reportFinding .VULNERABILITY (record.cveId ++ lit " confirmed applicable") (strip (cve.summary ++ score ++ lit " " ++ evidence))
        { cveIds := [record.cveId], eventIds := cve.assessment.exploitMapping.eventIds
          techniqueIds := cve.assessment.exploitMapping.techniqueIds }
        cve.confidence cve.assessment.citations)
      dossier.cves

/-! ### The report -/

/-- Inherited from upstream, scaled by how much of the report exists. -/
def reportConfidence (threat : Option ThreatDetectionResult) (dossier : Option CveResearchResult)
    (expected present : List ReportSectionKind) : ℚ :=
  let upstream := (threat.map (·.confidence)).toList ++ (dossier.map (·.confidence)).toList
  if upstream = [] ∨ expected = [] then 0
  else
    let completeness := ((expected.filter (· ∈ present)).length : ℚ) / expected.length
    roundTo 4 (min 1 (max 0 (upstream.sum / upstream.length * completeness)))

theorem reportConfidence_share (threat : Option ThreatDetectionResult) (dossier : Option CveResearchResult)
    (expected present : List ReportSectionKind) : Share (reportConfidence threat dossier expected present) := by
  unfold reportConfidence
  dsimp only
  split_ifs
  · exact ⟨le_rfl,zero_le_one⟩
  · exact Share.round ⟨le_min zero_le_one (le_max_left _ _),min_le_left _ _⟩ 4

/-- How many timeline entries the narrative carries. -/
def maxTimelineEntries : Nat := 50

section
variable [Printer] (reporter : IncidentReporter) (schemas : LogSchemas)

/-- Assemble the report, stating everything it could not build. -/
def IncidentReporter.report (request : Graph.IncidentReportRequest) : Except PyError IncidentReport := do
  let threatPayload ← readSection request.threatAssessment
  let dossierPayload ← readSection request.vulnerabilityDossier
  let criticalAssets ← mapRaising readText request.criticalAssets
  let (events,entries,gaps) ← readLogAnalysis schemas request.logAnalysis
  let threat := readModel reporter.readThreat threatPayload
  let dossier := readModel reporter.readDossier dossierPayload
  let sections := sectionsPresent request.logAnalysis threat dossier
  let expected := sectionsExpected threat
  let (timeline,leftOut) ← assembleTimeline entries maxTimelineEntries events
  let evidence ← evidenceFindings events entries
  let detected ← threatFindings threat
  let vulnerable ← vulnerabilityFindings dossier
  let affectedAssets ← collectAffectedAssets events ((dossier.map (·.cves)).getD [] |>.map (·.assessment)) criticalAssets
  let report : IncidentReport := {
    investigationId := request.investigationId
    title := lit "Incident report — investigation " ++ request.investigationId
    verdict := threat.map (·.verdict)
    severity := threat.map (·.severityLevel)
    timeline
    findings := evidence ++ detected ++ vulnerable
    affectedAssets
    indicators := ((threat.map (·.iocs)).getD []).map fun ioc =>
      ⟨ioc.type,ioc.value,ioc.defanged,ioc.reputation,ioc.reputationSource,ioc.internal⟩
    techniques := (threat.map (·.attackTechniques)).getD []
    cves := ((dossier.map (·.cves)).getD []).map fun cve => ⟨cve.assessment.cveId,cve.assessment.record.cvss.map (·.baseScore),
      cve.severity,cve.assessment.applicability,cve.summary⟩
    caveats := missingSectionCaveats (expected.filter (· ∉ sections)) ++ truncatedCaveats leftOut timeline.length ++
      evidenceCaveats gaps ++ threatCaveats reporter.lowConfidence threat ++ vulnerabilityCaveats dossier
    citations := compileCitations ((threat.map (·.citations)).toList ++
      (dossier.map fun found => (found.cves ++ found.candidates ++ found.ruledOut).flatMap (·.assessment.citations)).toList)
    confidence := reportConfidence threat dossier expected sections
    generatedFrom := sortedBy ReportSectionKind.value sections
    sure := reportConfidence_share _ _ _ _ }
  return { report with
    executiveSummary := reporter.renderExecutiveSummary report
    technicalBody := reporter.renderTechnicalBody report }

/-- The reporter as the graph calls it. The node counts the findings and the entries. -/
def IncidentReporter.agent (request : Graph.IncidentReportRequest) : Except PyError (Graph.AgentOutcome Graph.IncidentReport) :=
  (reporter.report schemas request).map fun report => {
    output := {
      executiveSummary := report.executiveSummary
      technicalBody := report.technicalBody
      citations := report.citations.map reporter.dumpCitation
      status := report.status.value
      findings := report.findings.map fun finding => .str finding.title
      timeline := report.timeline.map fun entry => .str entry.eventId
      affectedAssets := report.affectedAssets.map (·.hostname)
      caveats := report.caveats.map (·.kind.value)
      isComplete := report.isComplete }
    confidence := .float (rounded report.confidence)
    promptVersion := .str reporter.promptVersion
    toolCalls := [countOf "assemble_timeline" report.timeline.length,
      countOf "collect_affected_assets" report.affectedAssets.length,countOf "compile_citations" report.citations.length,
      countOf "render_report" 1] }

end

/-! ### When the parts return -/

/-- Readings that can be ordered are all of one kind. -/
theorem kind_of_allComparable {times : List DateTime} (all : AllComparable times) : ∃ kind, ∀ t ∈ times, t.aware = kind := by
  cases times with
  | nil => exact ⟨true,by simp⟩
  | cons first rest => exact ⟨first.aware,fun t member => all t member first (by simp)⟩

theorem allComparable_of_kind {times : List DateTime} (kind : Bool) (same : ∀ t ∈ times, t.aware = kind) : AllComparable times :=
  fun s first t second => (same s first).trans (same t second).symm

theorem min_kind {s t : DateTime} {kind : Bool} (left : s.aware = kind) (right : t.aware = kind) :
    ∃ least, s.min t = .ok least ∧ least.aware = kind := by
  have ordered : Comparable t s := right.trans left.symm
  unfold DateTime.min
  rw [lt_comparable ordered]
  by_cases smaller : t.instant < s.instant
  · exact ⟨t,by simp [Except.map,smaller],right⟩
  · exact ⟨s,by simp [Except.map,smaller],left⟩

theorem max_kind {s t : DateTime} {kind : Bool} (left : s.aware = kind) (right : t.aware = kind) :
    ∃ greatest, s.max t = .ok greatest ∧ greatest.aware = kind := by
  have ordered : Comparable s t := left.trans right.symm
  unfold DateTime.max
  rw [lt_comparable ordered]
  by_cases smaller : s.instant < t.instant
  · exact ⟨t,by simp [Except.map,smaller],right⟩
  · exact ⟨s,by simp [Except.map,smaller],left⟩

/-- The assets were first and last seen at readings of one kind. -/
def SeenAt (kind : Bool) (byHost : Dict Text AffectedAsset) : Prop :=
  ∀ key asset, byHost.get? key = some asset → (∀ t, asset.firstSeen = some t → t.aware = kind) ∧
    ∀ t, asset.lastSeen = some t → t.aware = kind

section
variable [Interpreter]

theorem recordEvent_returns (critical : List Text) {kind : Bool} {byHost : Dict Text AffectedAsset} (seen : SeenAt kind byHost)
    {event : NormalizedEvent} (same : event.eventTime.aware = kind) :
    ∃ next, recordEvent critical byHost event = .ok next ∧ SeenAt kind next := by
  have stored : ∀ key (asset : AffectedAsset), (∀ t, asset.firstSeen = some t → t.aware = kind) →
      (∀ t, asset.lastSeen = some t → t.aware = kind) → SeenAt kind (byHost.set key asset) := by
    intro key asset first last other found at_
    rw [Dict.get?_set] at at_
    split_ifs at at_ with here
    · cases at_
      exact ⟨first,last⟩
    · exact seen other found at_
  unfold recordEvent
  rcases event.host with _ | _ | ⟨c,rest⟩
  · exact ⟨byHost,rfl,seen⟩
  · exact ⟨byHost,rfl,seen⟩
  · cases found : byHost.get? (lower (c :: rest)) with
    | none =>
      simp only [found]
      refine ⟨_,rfl,stored _ _ ?_ ?_⟩ <;> rintro t ⟨⟩ <;> exact same
    | some existing =>
      obtain ⟨first,last⟩ := seen _ existing found
      have given : ∀ reading : Option DateTime, (∀ t, reading = some t → t.aware = kind) →
          (reading.getD event.eventTime).aware = kind := by
        intro reading kept
        cases reading with
        | none => exact same
        | some t => exact kept t rfl
      obtain ⟨least,smaller,leastKind⟩ := min_kind (given _ first) same
      obtain ⟨greatest,greater,greatestKind⟩ := max_kind (given _ last) same
      simp only [found,smaller,greater]
      refine ⟨_,rfl,stored _ _ ?_ ?_⟩
      · rintro t ⟨⟩
        exact leastKind
      · rintro t ⟨⟩
        exact greatestKind

theorem recordEvents_returns (critical : List Text) {kind : Bool} {events : List NormalizedEvent}
    (same : ∀ event ∈ events, event.eventTime.aware = kind) {byHost : Dict Text AffectedAsset} (seen : SeenAt kind byHost) :
    ∃ final, recordEvents critical byHost events = .ok final := by
  induction events generalizing byHost with
  | nil => exact ⟨byHost,rfl⟩
  | cons event rest ih =>
    obtain ⟨next,recorded,kept⟩ := recordEvent_returns critical seen (same event (by simp))
    obtain ⟨final,later⟩ := ih (fun event member => same event (List.mem_cons_of_mem _ member)) kept
    exact ⟨final,by rw [recordEvents,recorded]; exact later⟩

theorem collectAffectedAssets_returns {events : List NormalizedEvent} (all : AllComparable (events.map (·.eventTime)))
    (confirmed : List CveAssessment) (criticalAssets : List Text) :
    ∃ assets, collectAffectedAssets events confirmed criticalAssets = .ok assets := by
  obtain ⟨kind,same⟩ := kind_of_allComparable all
  have fresh : SeenAt kind Dict.empty := by simp [SeenAt]
  obtain ⟨final,recorded⟩ := recordEvents_returns (criticalAssets.map lower)
    (fun event member => same _ (List.mem_map_of_mem member)) fresh
  exact ⟨_,by rw [collectAffectedAssets,recorded]; rfl⟩

end

/-- Only entries that were given are kept. -/
theorem unique_values {entries : List TimelineEntry} {kept : Dict Text TimelineEntry} (entry : TimelineEntry)
    (listed : entry ∈ (entries.foldl (fun kept entry =>
      if (kept.get? entry.eventId).isSome then kept else kept.set entry.eventId entry) kept).values) :
    entry ∈ kept.values ∨ entry ∈ entries := by
  induction entries generalizing kept with
  | nil => exact .inl listed
  | cons first rest ih =>
    rw [List.foldl_cons] at listed
    rcases ih listed with earlier | later
    · split_ifs at earlier with known
      · exact .inl earlier
      · obtain ⟨key,found⟩ := (Dict.mem_values _ _).mp earlier
        rw [Dict.get?_set] at found
        split_ifs at found
        · cases found
          exact .inr (by simp)
        · exact .inl ((Dict.mem_values _ _).mpr ⟨key,found⟩)
    · exact .inr (List.mem_cons_of_mem _ later)

theorem assembleTimeline_returns {entries : List TimelineEntry} (all : AllComparable (entries.map (·.eventTime))) (limit : Nat)
    (events : List NormalizedEvent) : ∃ timeline, assembleTimeline entries limit events = .ok timeline := by
  have fewer : ∀ items : List TimelineEntry, (∀ item ∈ items, item ∈ entries) → AllComparable (items.map (·.eventTime)) :=
    fun items sub => all.subset (List.map_subset _ sub)
  unfold assembleTimeline
  refine bind_returns (sortedByTime_returns _ (fewer _ ?_)) ?_
  · intro entry listed
    rcases unique_values entry listed with earlier | given
    · cases earlier
    · exact given
  · intro ordered sorted
    have known : ∀ entry ∈ ordered, entry ∈ entries := by
      intro entry member
      rcases unique_values entry (((sortedByTime_ok sorted).2 entry).mp member) with earlier | given
      · cases earlier
      · exact given
    refine bind_returns ?_ fun shown _ => ⟨_,rfl⟩
    unfold bounded
    split_ifs
    · exact ⟨ordered,rfl⟩
    · refine sortedByTime_returns _ (fewer _ fun entry member => known entry ?_)
      exact (mem_sortedBy _ _ entry).mp (List.mem_of_mem_take member)

/-- A finding is accepted when something backs it and its certainty is a share. -/
theorem reportFinding_returns {sectionKind : ReportSectionKind} {title detail : Text} {support : FindingSupport} {confidence : ℚ}
    {citations : List Citation} (backed : support.Backed) (sure : Share confidence) :
    ∃ finding, reportFinding sectionKind title detail support confidence citations = .ok finding :=
  ⟨_,dif_pos ⟨backed,sure⟩⟩

theorem mean_share {shares : List ℚ} (each : ∀ q ∈ shares, Share q) : Share (shares.sum / shares.length) := by
  have bounds : 0 ≤ shares.sum ∧ shares.sum ≤ shares.length := by
    induction shares with
    | nil => simp
    | cons q rest ih =>
      obtain ⟨low,high⟩ := ih fun r member => each r (List.mem_cons_of_mem _ member)
      have first := each q (by simp)
      rw [List.sum_cons,List.length_cons,Nat.cast_succ]
      exact ⟨add_nonneg first.1 low,by linarith [first.2]⟩
  exact ⟨div_nonneg bounds.1 (Nat.cast_nonneg _),div_le_one_of_le₀ bounds.2 (Nat.cast_nonneg _)⟩

theorem evidenceFindings_returns {events : List NormalizedEvent} (sure : ∀ event ∈ events, Share event.confidence)
    (entries : List TimelineEntry) : ∃ findings, evidenceFindings events entries = .ok findings := by
  unfold evidenceFindings
  split_ifs with none
  · exact ⟨[],rfl⟩
  · have mean : Share ((events.map (·.confidence)).sum / events.length) := by
      have each : ∀ q ∈ events.map (·.confidence), Share q := by simpa using sure
      have shares := mean_share each
      rwa [List.length_map] at shares
    have backed : FindingSupport.Backed { eventIds := events.map (·.eventId) } := .inl (by simpa using none)
    obtain ⟨finding,accepted⟩ := reportFinding_returns backed (mean.round 4)
    exact ⟨[finding],map_ok.mpr ⟨finding,accepted,rfl⟩⟩

theorem threatFindings_returns (threat : Option ThreatDetectionResult) : ∃ findings, threatFindings threat = .ok findings := by
  cases threat with
  | none => exact ⟨[],rfl⟩
  | some threat =>
    refine bind_returns (mapRaising_returns.mpr fun signal _ => reportFinding_returns (.inr (.inl (by simp))) threat.sure) ?_
    intro fired _
    refine bind_returns (mapRaising_returns.mpr fun ioc _ => reportFinding_returns ?_ threat.sure) fun hostile _ => ⟨_,rfl⟩
    exact .inr (.inr (.inr (.inr (by simp))))

theorem vulnerabilityFindings_returns (dossier : Option CveResearchResult) :
    ∃ findings, vulnerabilityFindings dossier = .ok findings := by
  cases dossier with
  | none => exact ⟨[],rfl⟩
  | some dossier =>
    refine mapRaising_returns.mpr fun cve _ => reportFinding_returns ?_ cve.sure
    exact .inr (.inr (.inr (.inl (by simp))))

/-! ### Every gap of the evidence section is a caveat -/

section
variable [Printer] {reporter : IncidentReporter} {schemas : LogSchemas} {request : Graph.IncidentReportRequest}

/-- A request whose sections are dictionaries and whose events can be ordered. -/
structure Readable (schemas : LogSchemas) (request : Graph.IncidentReportRequest) : Prop where
  threat : ∃ payload, readSection request.threatAssessment = .ok payload
  dossier : ∃ payload, readSection request.vulnerabilityDossier = .ok payload
  critical : ∀ asset ∈ request.criticalAssets, ∃ name, asset = .str name
  evidence : ∃ read : List NormalizedEvent × List TimelineEntry × List Text, readLogAnalysis schemas request.logAnalysis = .ok read ∧
    AllComparable (read.1.map (·.eventTime)) ∧ AllComparable (read.2.1.map (·.eventTime)) ∧ ∀ event ∈ read.1, Share event.confidence

variable (reporter schemas request) in
theorem report_returns (readable : Readable schemas request) : ∃ report, reporter.report schemas request = .ok report := by
  obtain ⟨⟨events,entries,gaps⟩,read,ordered,timed,sure⟩ := readable.evidence
  unfold IncidentReporter.report
  refine bind_returns readable.threat fun threat _ => bind_returns readable.dossier fun dossier _ => bind_returns ?_ fun critical _ => ?_
  · refine mapRaising_returns.mpr fun asset member => ?_
    obtain ⟨name,rfl⟩ := readable.critical asset member
    exact ⟨name,rfl⟩
  · refine bind_returns ⟨_,read⟩ ?_
    rintro _ same
    rw [read,Except.ok.injEq] at same
    subst same
    refine bind_returns (assembleTimeline_returns timed _ _) fun timeline _ => ?_
    refine bind_returns (evidenceFindings_returns sure _) fun evidence _ => ?_
    refine bind_returns (threatFindings_returns _) fun detected _ => ?_
    refine bind_returns (vulnerabilityFindings_returns _) fun vulnerable _ => ?_
    exact bind_returns (collectAffectedAssets_returns ordered _ _) fun assets _ => ⟨_,rfl⟩

omit [Printer] in
/-- The caveats of the other parts are of other kinds. -/
theorem other_caveats (caveat : ReportCaveat) (gap : caveat.kind = .COVERAGE_GAP) :
    (∀ missing, caveat ∉ missingSectionCaveats missing) ∧ (∀ leftOut shown, caveat ∉ truncatedCaveats leftOut shown) ∧
      (∀ low threat, caveat ∉ threatCaveats low threat) ∧ ∀ dossier, caveat ∉ vulnerabilityCaveats dossier := by
  refine ⟨?_,?_,?_,?_⟩
  · intro missing listed
    obtain ⟨sectionKind,_,rfl⟩ := List.mem_map.mp listed
    cases gap
  · intro leftOut shown listed
    unfold truncatedCaveats at listed
    split_ifs at listed
    · cases listed
    · rw [List.mem_singleton] at listed
      subst listed
      cases gap
  · intro low threat listed
    cases threat with
    | none => cases listed
    | some threat =>
      simp only [threatCaveats,List.mem_append] at listed
      rcases listed with (listed | listed) | listed <;> split_ifs at listed <;> simp_all
  · intro dossier listed
    cases dossier with
    | none => cases listed
    | some dossier =>
      simp only [vulnerabilityCaveats,List.mem_append] at listed
      rcases listed with listed | listed <;> split_ifs at listed <;> simp_all

/-- The coverage gaps a report states are those of the evidence section it was given. -/
theorem report_gaps {report : IncidentReport} (ran : reporter.report schemas request = .ok report) :
    ∃ read : List NormalizedEvent × List TimelineEntry × List Text, readLogAnalysis schemas request.logAnalysis = .ok read ∧
      ∀ gap, ⟨.COVERAGE_GAP,.EVIDENCE,gap⟩ ∈ report.caveats ↔ gap ∈ read.2.2 := by
  simp only [IncidentReporter.report,bind_ok] at ran
  obtain ⟨_,_,_,_,_,_,⟨events,entries,gaps⟩,read,_,_,_,_,_,_,_,_,_,_,made⟩ := ran
  cases made
  refine ⟨_,read,fun gap => ?_⟩
  obtain ⟨missing,truncated,threat,dossier⟩ := other_caveats ⟨.COVERAGE_GAP,.EVIDENCE,gap⟩ rfl
  simp [missing,truncated,threat,dossier,evidenceCaveats]

end

end SocAnalyst.IncidentReports
