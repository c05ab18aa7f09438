import SocAnalyst.GraphState
import SocAnalyst.Severities
import SocAnalyst.Techniques

/-!
# The threat detector

`ThreatDetector.assess` of `agents/threat_detector/detector.py`: extract, enrich, detect,
map, score. Confidence is computed on doubles. Gaps in the evidence lower it, and nothing
else but the escalation reads them.
-/
namespace SocAnalyst.ThreatDetection
open SocAnalyst.Builtins SocAnalyst.Doubles SocAnalyst.Dicts SocAnalyst.Logs SocAnalyst.Iocs SocAnalyst.Enrichment
open SocAnalyst.Assessments SocAnalyst.Detections SocAnalyst.Techniques SocAnalyst.Severities
open SocAnalyst.Risk (TriagePriority roundFloat roundFloat_mono roundFloat_clamped)
open SocAnalyst.Graph (Verdict Mapping number)
open SocAnalyst.Recommender (AgentDegradation sortedSet present)

/-! ### Contracts -/

/-- Whether a statement records something observed or something concluded. -/
inductive ClaimKind where
  | OBSERVATION
  | INFERENCE
  deriving DecidableEq, Repr

/-- One statement, explicitly labelled. -/
structure AssessmentClaim where
  kind : ClaimKind
  statement : Text
  eventIds : List Text := []
  citations : List Citation := []

/-- The evidence and the estate that an assessment reads. -/
structure ThreatDetectionRequest where
  investigationId : Text
  events : List Mapping
  coverageGaps : List Text
  internalNetworks : List Text
  criticalAssets : List Text

structure ThreatDetectionResult where
  investigationId : Text
  verdict : Verdict
  severity : SeverityAssessment
  triagePriority : TriagePriority
  iocs : List IocIndicator
  attackTechniques : List TechniqueMapping
  signals : List DetectionSignal
  claims : List AssessmentClaim
  enrichmentStatus : EnrichmentStatus
  escalationRequired : Bool
  escalationReason : Option Text
  knowledgeGrounded : Bool
  citations : List Citation
  confidence : ℚ
  sure : 0 ≤ confidence ∧ confidence ≤ 1

structure AgentOutcome where
  output : ThreatDetectionResult
  confidence : ℚ
  toolCalls : List (Text × Nat)
  degradations : List AgentDegradation

/-- A passage of reference knowledge. -/
structure KnowledgeChunk where
  chunkId : Text
  source : Text

/-- Retrieval-only access to curated reference knowledge. -/
structure KnowledgeMemory where
  isAvailable : Bool
  search : Text → Nat → Except PyError (List KnowledgeChunk)

/-- The detector, with the catalogue of rules, the validation of an event and the
    interpreter's sum of floats. -/
structure ThreatDetector where
  reputation : ReputationProvider
  knowledge : Option KnowledgeMemory
  window : Int
  maxIndicators : Int
  rules : List DetectionRule
  readEvent : Mapping → Except PyError NormalizedEvent
  sum : List ℚ → ℚ

/-! ### Evidence -/

/-- Validate incoming events, counting rather than raising on malformed ones. -/
def parseEvents (readEvent : Mapping → Except PyError NormalizedEvent) :
    List Mapping → Except PyError (List NormalizedEvent × Nat)
  | [] => .ok ([],0)
  | item :: rest =>
    match readEvent item with
    | .ok event => (parseEvents readEvent rest).map fun parsed => (event :: parsed.1,parsed.2)
    | .error .ValueError | .error .UnicodeEncodeError => (parseEvents readEvent rest).map fun parsed => (parsed.1,parsed.2 + 1)
    | .error e => .error e

/-- Which designated critical assets appear in the evidence. -/
def criticalAssetsInvolved [Interpreter] (events : List NormalizedEvent) (criticalAssets : List Text) : List Text :=
  let hosts := (present (events.map (·.host))).map lower
  sortedSet (criticalAssets.filter fun asset => lower asset ∈ hosts)

/-- The retrieval query, from what actually fired. -/
def knowledgeQuery (techniques : List TechniqueMapping) (signals : List DetectionSignal) : Text :=
  let parts := (techniques.take 3).map (fun technique => technique.techniqueId ++ lit " " ++ technique.name) ++
    (signals.take 3).map (·.name)
  if joined (lit "; ") parts = [] then lit "security detection guidance" else joined (lit "; ") parts

/-- Drop repeats, keeping first-seen order. -/
def dedupeCitations (citations : List Citation) : List Citation :=
  keepFirst (fun citation => (citation.sourceId,if truthy citation.chunkId then citation.chunkId else citation.url)) citations

/-- The references supporting the assessment, and whether knowledge was retrieved. -/
def ground (knowledge : Option KnowledgeMemory) (techniques : List TechniqueMapping) (signals : List DetectionSignal) :
    Except PyError (List Citation × Bool) :=
  let citations := techniques.flatMap (·.citations)
  match knowledge with
  | none => .ok (dedupeCitations citations,false)
  | some memory =>
    if !memory.isAvailable || signals.isEmpty then .ok (dedupeCitations citations,false)
    else (memory.search (knowledgeQuery techniques signals) 4).map fun chunks =>
      (dedupeCitations (citations ++ chunks.map fun chunk =>
        { sourceId := chunk.source, source := chunk.source, chunkId := some chunk.chunkId }),!chunks.isEmpty)

/-! ### Confidence -/

/-- Confidence multipliers per enrichment outcome. -/
def enrichmentConfidence : EnrichmentStatus → ℚ
  | .COMPLETE => 1
  | .DEGRADED => nearest (85/100)
  | .UNAVAILABLE => nearest (7/10)

/-- What agreement between the signals is worth. -/
def corroborationFactor (signals : List DetectionSignal) : ℚ :=
  let count := (corroboratingRules signals).length
  if signals = [] then nearest (8/10)
  else if count = 0 then 1/2
  else min 1 (plus (1/2) (times (1/4) (count - 1)))

/-- Each gap costs a tenth, down to the floor. -/
def gapFactor (coverageGaps : List Text) : ℚ := max (nearest (6/10)) (minus 1 (times (nearest (1/10)) coverageGaps.length))

/-- Calibrate confidence from evidence quality, corroboration and blind spots. -/
def confidenceOf (sum : List ℚ → ℚ) (events : List NormalizedEvent) (signals : List DetectionSignal)
    (status : EnrichmentStatus) (coverageGaps : List Text) : ℚ :=
  if events.isEmpty then 0
  else
    let quality := dividedBy (sum (events.map (·.confidence))) events.length
    let score := times (times (times quality (corroborationFactor signals)) (enrichmentConfidence status)) (gapFactor coverageGaps)
    roundFloat 4 (min 1 (max 0 score))

theorem confidenceOf_sure (sum : List ℚ → ℚ) (events : List NormalizedEvent) (signals : List DetectionSignal)
    (status : EnrichmentStatus) (coverageGaps : List Text) :
    0 ≤ confidenceOf sum events signals status coverageGaps ∧ confidenceOf sum events signals status coverageGaps ≤ 1 := by
  unfold confidenceOf
  split_ifs
  · exact ⟨le_rfl,zero_le_one⟩
  · simpa using roundFloat_clamped (n := 1) (by norm_num) 4 _

theorem gapFactor_nonneg (coverageGaps : List Text) : 0 ≤ gapFactor coverageGaps :=
  le_max_of_le_left (nearest_nonneg (by norm_num))

/-- More gaps never raise the factor. -/
theorem gapFactor_anti {coverageGaps more : List Text} (le : coverageGaps.length ≤ more.length) :
    gapFactor more ≤ gapFactor coverageGaps := by
  have count : (coverageGaps.length : ℚ) ≤ more.length := by exact_mod_cast le
  have penalty := times_mono (nearest_nonneg (show (0 : ℚ) ≤ 1/10 by norm_num)) count
  apply max_le_max le_rfl
  apply nearest_mono
  linarith

/-- A smaller factor gives a smaller product, once products below zero count as zero. -/
theorem clamped_times_mono {z x y : ℚ} (nonneg : 0 ≤ x) (le : x ≤ y) : max 0 (times z x) ≤ max 0 (times z y) := by
  rcases le_total 0 z with positive | negative
  · exact max_le_max le_rfl (times_mono positive le)
  · have vanish : times z x ≤ 0 := nearest_nonpos (mul_nonpos_of_nonpos_of_nonneg negative nonneg)
    rw [max_eq_left vanish]
    exact le_max_left _ _

theorem confidenceOf_anti (sum : List ℚ → ℚ) (events : List NormalizedEvent) (signals : List DetectionSignal)
    (status : EnrichmentStatus) {coverageGaps more : List Text} (le : coverageGaps.length ≤ more.length) :
    confidenceOf sum events signals status more ≤ confidenceOf sum events signals status coverageGaps := by
  unfold confidenceOf
  by_cases none : events.isEmpty = true
  · rw [if_pos none,if_pos none]
  · rw [if_neg none,if_neg none]
    apply roundFloat_mono
    apply min_le_min le_rfl
    exact clamped_times_mono (gapFactor_nonneg more) (gapFactor_anti le)

/-! ### Claims -/

def statusValue : EnrichmentStatus → Text
  | .COMPLETE => lit "complete"
  | .DEGRADED => lit "degraded"
  | .UNAVAILABLE => lit "unavailable"

def reputationValue : IocReputation → Text
  | .MALICIOUS => lit "malicious"
  | .SUSPICIOUS => lit "suspicious"
  | .HARMLESS => lit "harmless"
  | .UNKNOWN => lit "unknown"

/-- A text or `None`, formatted. -/
def shown (text : Option Text) : Text := text.getD (lit "None")

/-- Split what was seen from what was concluded. -/
def buildClaims (signals : List DetectionSignal) (iocs : List IocIndicator) (techniques : List TechniqueMapping)
    (verdict : Verdict) (severity : SeverityAssessment) (status : EnrichmentStatus) : List AssessmentClaim :=
  (signals.map fun signal => ⟨.OBSERVATION,signal.name ++ lit ": " ++ signal.detail,signal.eventIds,[]⟩) ++
  ((iocs.filter (·.enriched)).map fun ioc => ⟨.OBSERVATION,shown ioc.reputationSource ++ lit " reported " ++ ioc.defanged ++
    lit " as " ++ reputationValue ioc.reputation ++ lit " (" ++ shown ioc.reputationDetail ++ lit ")",ioc.eventIds,[]⟩) ++
  (if status = .COMPLETE then [] else [⟨.OBSERVATION,lit "Indicator reputation was " ++ statusValue status ++
    lit ("; indicators without a " ++ "named source remain unknown rather than assumed clean."),[],[]⟩]) ++
  (techniques.map fun technique => ⟨.INFERENCE,lit "The observed activity is consistent with " ++ technique.techniqueId ++
    lit " (" ++ technique.name ++ lit "); " ++ technique.rationale,technique.eventIds,technique.citations⟩) ++
  [⟨.INFERENCE,lit "Verdict " ++ verdict.value ++ lit ": " ++ severity.rationale,[],[]⟩]

/-! ### The assessment -/

section
variable [Interpreter]

/-- What the evidence gives before the gaps in it are looked at. -/
structure Findings where
  events : List NormalizedEvent
  unreadable : Nat
  iocs : List IocIndicator
  status : EnrichmentStatus
  notes : List Text
  signals : List DetectionSignal
  citations : List Citation
  grounded : Bool

/-- Extract, enrich, detect and ground. -/
def ThreatDetector.findings (detector : ThreatDetector) (request : ThreatDetectionRequest) : Except PyError Findings := do
  let (events,unreadable) ← parseEvents detector.readEvent request.events
  let observed ← extractIocs request.internalNetworks events
  let (iocs,status,notes) ← (enrichIndicators observed detector.reputation detector.maxIndicators).outcome
  let fired ← evaluateRules ⟨events,detector.window,request.internalNetworks⟩ detector.rules
  let signals := withHostile fired (signalFromHostileIndicators iocs)
  let (citations,grounded) ← ground detector.knowledge (mapTechniques signals) signals
  return ⟨events,unreadable,iocs,status,notes,signals,citations,grounded⟩

/-- Assess an investigation's evidence, reporting everything it could not check. -/
def ThreatDetector.assess (detector : ThreatDetector) (request : ThreatDetectionRequest) : Except PyError AgentOutcome := do
  let found ← detector.findings request
  let techniques := mapTechniques found.signals
  let critical := criticalAssetsInvolved found.events request.criticalAssets
  let severity := scoreSeverity found.signals critical
  let verdict := deriveVerdict severity found.signals found.iocs
  let confidence := confidenceOf detector.sum found.events found.signals found.status request.coverageGaps
  let priority := derivePriority verdict severity (critical ≠ [])
  let escalation := assessEscalation verdict severity confidence (critical ≠ []) request.coverageGaps
  return {
    output := {
      investigationId := request.investigationId, verdict := verdict, severity := severity, triagePriority := priority
      iocs := found.iocs, attackTechniques := techniques, signals := found.signals
      claims := buildClaims found.signals found.iocs techniques verdict severity found.status
      enrichmentStatus := found.status, escalationRequired := escalation.1, escalationReason := escalation.2
      knowledgeGrounded := found.grounded, citations := found.citations, confidence := confidence
      sure := confidenceOf_sure _ _ _ _ _ }
    confidence := confidence
    toolCalls := [(lit "extract_iocs",found.iocs.length),(lit "evaluate_rules",found.signals.length),
      (lit "map_techniques",techniques.length),(lit "lookup_reputation",(found.iocs.filter (·.enriched)).length),
      (lit "retrieve_knowledge",found.citations.length)]
    degradations :=
      (if found.unreadable = 0 then [] else
        [⟨lit "unreadable_events",number found.unreadable ++ lit " event(s) did not match the normalized contract"⟩]) ++
      (found.notes.map fun note => ⟨lit "enrichment",note⟩) ++
      (if detector.knowledge.isSome ∧ found.grounded = false then
        [⟨lit "knowledge_unavailable",lit "no detection knowledge was retrieved to ground the assessment"⟩] else []) }

/-! ### Two requests that differ in their gaps -/

omit [Interpreter] in
/-- A case is escalated when it would hurt and something about it is uncertain. -/
theorem assessEscalation_required (verdict : Verdict) (severity : SeverityAssessment) (confidence : ℚ) (involved : Bool)
    (coverageGaps : List Text) : (assessEscalation verdict severity confidence involved coverageGaps).1 = true ↔
      highImpact severity involved = true ∧ verdict ≠ .BENIGN ∧
        (confidence < ambiguityConfidence ∨ coverageGaps ≠ [] ∨ verdict = .SUSPICIOUS) := by
  unfold assessEscalation
  by_cases routine : highImpact severity involved = false ∨ verdict = .BENIGN
  · rw [if_pos routine]
    constructor
    · intro required
      cases required
    · rintro ⟨impact,malign,_⟩
      rcases routine with low | benign
      · rw [low] at impact; cases impact
      · exact absurd benign malign
  · rw [if_neg routine]
    obtain ⟨impact,malign⟩ := not_or.mp routine
    rw [Bool.not_eq_false] at impact
    split_ifs with unsure gaps suspicious <;> simp_all

/-- The second outcome finds the same, is no surer and is escalated if the first is. -/
structure NoSurer (first second : AgentOutcome) : Prop where
  iocs : second.output.iocs = first.output.iocs
  signals : second.output.signals = first.output.signals
  techniques : second.output.attackTechniques = first.output.attackTechniques
  severity : second.output.severity = first.output.severity
  verdict : second.output.verdict = first.output.verdict
  priority : second.output.triagePriority = first.output.triagePriority
  confidence : second.output.confidence ≤ first.output.confidence
  escalated : first.output.escalationRequired = true → second.output.escalationRequired = true

/-- Further coverage gaps lower the confidence at most, and never turn an escalated case
    into a routine one; an exception is raised by both runs or by neither. -/
theorem more_gaps_noSurer (detector : ThreatDetector) (request : ThreatDetectionRequest) {more : List Text}
    (additional : request.coverageGaps.Subperm more) :
    (∀ e, detector.assess request = .error e → detector.assess { request with coverageGaps := more } = .error e) ∧
    ∀ first, detector.assess request = .ok first →
      ∃ second, detector.assess { request with coverageGaps := more } = .ok second ∧ NoSurer first second := by
  have same : detector.findings { request with coverageGaps := more } = detector.findings request := rfl
  cases found : detector.findings request with
  | error e =>
    have raised : detector.assess request = .error e := by rw [ThreatDetector.assess,found]; rfl
    have raised' : detector.assess { request with coverageGaps := more } = .error e := by
      rw [ThreatDetector.assess,same,found]
      rfl
    rw [raised,raised']
    exact ⟨fun _ equal => equal,fun _ equal => by cases equal⟩
  | ok findings =>
    constructor
    · intro e raised
      rw [ThreatDetector.assess,found] at raised
      cases raised
    · intro first returned
      rw [ThreatDetector.assess,found] at returned
      cases returned
      refine ⟨_,by rw [ThreatDetector.assess,same,found]; rfl,?_⟩
      have surer := confidenceOf_anti detector.sum findings.events findings.signals findings.status additional.length_le
      refine ⟨rfl,rfl,rfl,rfl,rfl,rfl,surer,?_⟩
      intro escalated
      rw [assessEscalation_required] at escalated ⊢
      obtain ⟨impact,malign,reason⟩ := escalated
      refine ⟨impact,malign,?_⟩
      rcases reason with unsure | gaps | suspicious
      · exact .inl (surer.trans_lt unsure)
      · obtain ⟨gap,member⟩ := List.exists_mem_of_ne_nil _ gaps
        exact .inr (.inl (List.ne_nil_of_mem (additional.subset member)))
      · exact .inr (.inr suspicious)

end

/-- A rule that fires when there is any evidence. -/
def clearedLog : DetectionRule where
  ruleId := lit "audit_log_cleared"
  name := lit "Audit log cleared"
  description := lit "Event or audit logs were cleared."
  weight := 8
  techniqueIds := [lit "T1070"]
  evaluate context := .ok (if context.events = [] then [] else [⟨context.events.map (·.eventId),lit "1 event(s)"⟩])

/-- A detector without feeds that reads every record as one event. -/
def offlineDetector : ThreatDetector where
  reputation := ⟨lit "none",false,fun _ _ => .error .ValueError⟩
  knowledge := none
  window := 1800000000
  maxIndicators := 25
  rules := [clearedLog]
  readEvent _ := .ok (visited (lit "https://example.com/"))
  sum weights := weights.foldl plus 0

/-- One record, with nothing known to be missing. -/
def oneRecord : ThreatDetectionRequest := ⟨lit "inv-1",[[]],[],[],[]⟩

/-- A silent source lowers the confidence of the same assessment at most. -/
theorem silent_source_noSurer :
    let _ := ascii
    (∀ e, offlineDetector.assess oneRecord = .error e →
      offlineDetector.assess { oneRecord with coverageGaps := [lit "siem: source_unavailable"] } = .error e) ∧
    ∀ first, offlineDetector.assess oneRecord = .ok first →
      ∃ second, offlineDetector.assess { oneRecord with coverageGaps := [lit "siem: source_unavailable"] } = .ok second ∧
        NoSurer first second := by
  intro _
  exact more_gaps_noSurer offlineDetector oneRecord List.nil_subperm

end SocAnalyst.ThreatDetection
