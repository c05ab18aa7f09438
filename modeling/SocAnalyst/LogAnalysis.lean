import Mathlib.Data.Prod.Lex
import SocAnalyst.GraphNodes
import SocAnalyst.Logs

/-!
# The log analyzer

`LogAnalyzer` of `agents/log_analyzer/analyzer.py`: records become events or are
quarantined, and whatever the analysis could not see becomes a coverage gap. The
parsers, the extraction and the correlation are whatever the analyzer was built with.
-/
namespace SocAnalyst.LogAnalysis
open SocAnalyst.Builtins SocAnalyst.Doubles SocAnalyst.Times SocAnalyst.Dicts SocAnalyst.Values SocAnalyst.Logs SocAnalyst.Risk
open SocAnalyst.Graph (Mapping number stripColons SourceFailure)

/-! ### Contracts -/

/-- The investigation's time bounds. -/
structure TimeWindow where
  start : DateTime
  stop : DateTime

/-- One unparsed record with the metadata of where it came from. -/
structure RawLogRecord where
  recordId : Text
  sourceId : Text
  sourceKind : LogSourceKind
  content : Text
  rawRef : Option Text := none
  receivedAt : Option DateTime := none
  declaredFormat : Option LogFormat := none

/-- A record that could not be parsed. -/
structure QuarantinedRecord where
  recordId : Text
  sourceId : Text
  reason : Text
  content : Text

structure TimelineEntry where
  eventId : Text
  eventTime : DateTime
  sourceId : Text
  summary : Text
  notability : ℚ := 0

inductive CoverageGapKind where
  | SOURCE_UNAVAILABLE
  | SOURCE_EMPTY
  | PARSE_FAILURE
  | WINDOW_UNCOVERED
  deriving DecidableEq, Repr

def CoverageGapKind.value : CoverageGapKind → Text
  | .SOURCE_UNAVAILABLE => lit "source_unavailable"
  | .SOURCE_EMPTY => lit "source_empty"
  | .PARSE_FAILURE => lit "parse_failure"
  | .WINDOW_UNCOVERED => lit "window_uncovered"

/-- Something the analysis could not see, and why. -/
structure CoverageGap where
  kind : CoverageGapKind
  sourceId : Option Text := none
  detail : Text := []
  affectedRecords : Nat := 0

structure LogAnalysisRequest where
  investigationId : Text
  records : List RawLogRecord
  timeWindow : Option TimeWindow := none
  requestedSources : List Text := []

structure LogAnalysisResult where
  investigationId : Text
  events : List NormalizedEvent
  timeline : List TimelineEntry
  correlations : List Value
  coverageGaps : List CoverageGap
  quarantined : List QuarantinedRecord
  confidence : ℚ
  sourceCoverage : ℚ
  parseFailureRate : ℚ

/-- What a parser makes of a record. Every parser is sure of it to a degree. -/
structure ParsedRecord where
  logFormat : LogFormat
  eventTime : Option DateTime
  message : Text
  host : Option Text := none
  actor : Option Text := none
  action : Option Text := none
  outcome : Option Text := none
  eventType : EventType := .OTHER
  fields : List (Text × Value) := []
  confidence : ℚ := 1
  sure : 0 ≤ confidence ∧ confidence ≤ 1

/-- An analyzer: its parsers and tools, any of which may raise. -/
structure LogAnalyzer where
  parseRecord : RawLogRecord → Except PyError (Option ParsedRecord)
  extractEntities : Text → List (EntityType × Option Text) → Except PyError (List Entity)
  correlateEvents : List NormalizedEvent → Except PyError (List Value)
  /-- The hexadecimal digest of an encoded text. -/
  sha256 : Text → Text
  promptVersion : Text

/-! ### Readings of the clock -/

/-- The `<=` of two readings. -/
def atMost (s t : DateTime) : Except PyError Bool := (t.lt s).map (!·)

/-- `(s - t).total_seconds()`. -/
def secondsBetween (s t : DateTime) : Except PyError ℚ :=
  if Comparable s t then .ok ((s.instant - t.instant : ℚ) / 1000000) else .error .TypeError

/-- Readings that can all be ordered. -/
def AllComparable (times : List DateTime) : Prop := ∀ s ∈ times, ∀ t ∈ times, Comparable s t

instance (times : List DateTime) : Decidable (AllComparable times) := inferInstanceAs (Decidable (∀ s ∈ times, ∀ t ∈ times, _))

theorem AllComparable.subset {times fewer : List DateTime} (all : AllComparable times) (sub : fewer ⊆ times) : AllComparable fewer :=
  fun s first t second => all s (sub first) t (sub second)

/-- `sorted(items, key=(time, name))`. A sort that meets readings of both kinds has to
    order two of them, and raises. -/
def sortedByTime {α : Type} (time : α → DateTime) (name : α → Text) (items : List α) : Except PyError (List α) :=
  if AllComparable (items.map time) then
    .ok (sortedBy (fun item => (toLex ((time item).instant,name item) : Int ×ₗ Text)) items)
  else .error .TypeError

theorem sortedByTime_ok {α : Type} {time : α → DateTime} {name : α → Text} {items sorted : List α}
    (ran : sortedByTime time name items = .ok sorted) :
    AllComparable (items.map time) ∧ ∀ item, item ∈ sorted ↔ item ∈ items := by
  unfold sortedByTime at ran
  split_ifs at ran with all
  cases ran
  exact ⟨all,fun item => mem_sortedBy _ _ item⟩

theorem sortedByTime_returns {α : Type} {time : α → DateTime} (name : α → Text) {items : List α}
    (all : AllComparable (items.map time)) : ∃ sorted, sortedByTime time name items = .ok sorted := by
  unfold sortedByTime
  rw [if_pos all]
  exact ⟨_,rfl⟩

/-- A sort by time keeps the items and puts the instants in order. -/
theorem sortedByTime_sorted {α : Type} {time : α → DateTime} {name : α → Text} {items sorted : List α}
    (ran : sortedByTime time name items = .ok sorted) :
    sorted.Perm items ∧ sorted.Pairwise fun first second => (time first).instant ≤ (time second).instant := by
  unfold sortedByTime at ran
  split_ifs at ran with all
  cases ran
  refine ⟨List.perm_insertionSort _ _,(pairwise_sortedBy _ _).imp fun {first second} below => ?_⟩
  rcases Prod.Lex.toLex_le_toLex.mp below with before | ⟨same,_⟩
  · exact before.le
  · exact same.le

def TimeWindow.contains (window : TimeWindow) (moment : DateTime) : Except PyError Bool := do
  if ← atMost window.start moment then atMost moment window.stop else return false

/-- The least of a non-empty list by a comparison that may raise. -/
def earliest (first : DateTime) : List DateTime → Except PyError DateTime
  | [] => .ok first
  | next :: rest =>
    match first.min next with
    | .error e => .error e
    | .ok smaller => earliest smaller rest

def latest (first : DateTime) : List DateTime → Except PyError DateTime
  | [] => .ok first
  | next :: rest =>
    match first.max next with
    | .error e => .error e
    | .ok greater => latest greater rest

/-! ### Scoring -/

/-- Base notability per event type. -/
def typeNotability : EventType → ℚ
  | .AUTH_FAILURE => 3/5
  | .PRIVILEGE_CHANGE => 7/10
  | .ACCOUNT_CHANGE => 3/5
  | .PROCESS_START => 1/2
  | .SERVICE_CONTROL => 1/2
  | .NETWORK_CONNECTION => 2/5
  | .CONFIGURATION_CHANGE => 2/5
  | .FILE_ACCESS => 3/10
  | .AUTH_SUCCESS => 1/5
  | .OTHER => 1/10

def entityBonus : EntityType → ℚ
  | .FILE_HASH => 3/20
  | .IP_ADDRESS => 1/10
  | .URL => 1/10
  | .DOMAIN => 1/20
  | .PROCESS => 1/20
  | _ => 0

/-- The loop over the entities: each kind counts once. -/
def bonuses (seen : List EntityType) : List Entity → ℚ
  | [] => 0
  | entity :: rest =>
    if entity.type ∈ seen then bonuses seen rest else entityBonus entity.type + bonuses (entity.type :: seen) rest

/-- How much an event merits human attention. -/
def scoreNotability (event : NormalizedEvent) : ℚ :=
  let score := typeNotability event.eventType + bonuses [] event.entities +
    (if event.outcome = some (lit "failure") then 1/10 else 0)
  roundTo 4 (min 1 (max 0 score) * event.confidence)

/-! ### One record -/

section
variable (analyzer : LogAnalyzer)

/-- A stable id derived from the record. -/
def eventId (record : RawLogRecord) : Except PyError Text :=
  let text := record.sourceId ++ lit "|" ++ record.recordId ++ lit "|" ++ record.content
  if Encodable text then .ok (lit "evt-" ++ (analyzer.sha256 text).take 16) else .error .UnicodeEncodeError

def looksLikeProcess (action : Option Text) : Bool := (action.getD []).contains 46

/-- Parse one record into a provenance-tagged event, or quarantine it. -/
def normalize (record : RawLogRecord) : Except PyError (Option NormalizedEvent) := do
  match ← analyzer.parseRecord record with
  | none => return none
  | some parsed =>
    match parsed.eventTime.or record.receivedAt with
    | none => return none
    | some eventTime =>
      let entities ← analyzer.extractEntities (parsed.message ++ lit " " ++ record.content)
        [(.HOST,parsed.host),(.USER,parsed.actor),(.PROCESS,if looksLikeProcess parsed.action then parsed.action else none)]
      let event : NormalizedEvent := {
        eventId := ← eventId analyzer record
        recordId := record.recordId
        sourceId := record.sourceId
        sourceKind := record.sourceKind
        logFormat := parsed.logFormat
        eventTime
        eventType := parsed.eventType
        host := parsed.host
        actor := parsed.actor
        action := parsed.action
        outcome := parsed.outcome
        message := parsed.message
        entities
        fields := parsed.fields
        rawRef := record.rawRef
        confidence := roundTo 4 (parsed.confidence * (if parsed.eventTime.isNone then 3/5 else 1)) }
      return some { event with notability := scoreNotability event }

/-- The loop over the records. -/
def normalizeAll : List RawLogRecord → Except PyError (List NormalizedEvent × List QuarantinedRecord)
  | [] => .ok ([],[])
  | record :: rest => do
    let outcome ← normalize analyzer record
    let (events,quarantined) ← normalizeAll rest
    match outcome with
    | none => return (events,⟨record.recordId,record.sourceId,lit "unparseable",record.content⟩ :: quarantined)
    | some event => return (event :: events,quarantined)

end

def eventTypeValue : EventType → Text
  | .AUTH_SUCCESS => lit "auth_success"
  | .AUTH_FAILURE => lit "auth_failure"
  | .PRIVILEGE_CHANGE => lit "privilege_change"
  | .PROCESS_START => lit "process_start"
  | .NETWORK_CONNECTION => lit "network_connection"
  | .FILE_ACCESS => lit "file_access"
  | .SERVICE_CONTROL => lit "service_control"
  | .ACCOUNT_CHANGE => lit "account_change"
  | .CONFIGURATION_CHANGE => lit "configuration_change"
  | .OTHER => lit "other"

/-- `value or fallback`. -/
def orElse (value : Option Text) (fallback : Text) : Text := if truthy value then value.getD [] else fallback

/-- A short, factual description of an event. -/
def summarize (event : NormalizedEvent) : Text :=
  eventTypeValue event.eventType ++ (if truthy event.outcome then lit " (" ++ event.outcome.getD [] ++ lit ")" else []) ++
    lit ": " ++ orElse event.actor (lit "unknown actor") ++ lit " on " ++ orElse event.host (lit "unknown host")

def timelineEntry (event : NormalizedEvent) : TimelineEntry where
  eventId := event.eventId
  eventTime := event.eventTime
  sourceId := event.sourceId
  summary := summarize event
  notability := event.notability

/-! ### Coverage gaps -/

/-- How many records each source had quarantined, by source in the order they came up. -/
def countBySource (quarantined : List QuarantinedRecord) : Dict Text Nat :=
  quarantined.foldl (fun counts record => counts.set record.sourceId ((counts.get? record.sourceId).getD 0 + 1)) Dict.empty

/-- A window is reported as uncovered when this share of it contains no evidence. -/
def uncoveredRatio : ℚ := 1/2

/-- The window is largely devoid of evidence. -/
def windowGap (request : LogAnalysisRequest) (events : List NormalizedEvent) : Except PyError (Option CoverageGap) := do
  match request.timeWindow with
  | none => return none
  | some window =>
    let total ← secondsBetween window.stop window.start
    if total ≤ 0 then return none
    let inside ← mapRaising (fun event : NormalizedEvent => (window.contains event.eventTime).map fun held => (event.eventTime,held)) events
    match (inside.filter (·.2)).map (·.1) with
    | [] => return some { kind := .WINDOW_UNCOVERED, detail := lit "no events fall within the requested time window" }
    | first :: rest =>
      let observed ← secondsBetween (← latest first rest) (← earliest first rest)
      if observed / total < uncoveredRatio then
        return some {
          kind := .WINDOW_UNCOVERED
          detail := lit "evidence covers only " ++ showTenths (roundTo 1 (observed / total * 100)) ++ lit "% of the requested window" }
      else return none

/-- Everything the analysis could not see. -/
def coverageGaps (request : LogAnalysisRequest) (events : List NormalizedEvent) (quarantined : List QuarantinedRecord)
    (failures : List SourceFailure) : Except PyError (List CoverageGap) := do
  let unavailable := failures.map fun failure => {
    kind := .SOURCE_UNAVAILABLE, sourceId := failure.sourceId, detail := stripColons (failure.reason ++ lit ": " ++ failure.detail) }
  let silent := (request.requestedSources.filter fun source =>
    source ∉ events.map (·.sourceId) ∧ source ∉ failures.map (·.sourceId)).map fun source => {
      kind := .SOURCE_EMPTY, sourceId := source, detail := lit "source returned no usable records" }
  let unparsed := (sortedBy (·.1) (countBySource quarantined).entries).map fun entry => {
    kind := .PARSE_FAILURE, sourceId := entry.1, affectedRecords := entry.2
    detail := number entry.2 ++ lit " record(s) could not be parsed and were quarantined" }
  return unavailable ++ silent ++ unparsed ++ (← windowGap request events).toList

/-! ### The analysis -/

/-- Share of the requested sources that produced usable evidence. -/
def sourceCoverage (request : LogAnalysisRequest) (events : List NormalizedEvent) : ℚ :=
  let requested := (if request.requestedSources = [] then request.records.map (·.sourceId) else request.requestedSources).dedup
  if requested = [] then 0
  else ((requested.filter fun source => source ∈ events.map (·.sourceId)).length : ℚ) / requested.length

/-- Overall confidence from source coverage and parse certainty. -/
def overallConfidence (events : List NormalizedEvent) (coverage failureRate : ℚ) : ℚ :=
  if events = [] then 0
  else
    let mean := (events.map (·.confidence)).sum / events.length
    roundTo 4 (min 1 (max 0 (mean * (1/2 + 1/2 * coverage) * (1 - failureRate))))

/-- Analyze a batch of records, reporting everything it could not do. -/
def LogAnalyzer.analyze (analyzer : LogAnalyzer) (request : LogAnalysisRequest) (failures : List SourceFailure) :
    Except PyError LogAnalysisResult := do
  let (normalized,quarantined) ← normalizeAll analyzer request.records
  let events ← sortedByTime (·.eventTime) (·.eventId) normalized
  let correlations ← analyzer.correlateEvents events
  let gaps ← coverageGaps request events quarantined failures
  let coverage := sourceCoverage request events
  let failureRate := if request.records = [] then 0 else (quarantined.length : ℚ) / request.records.length
  return {
    investigationId := request.investigationId
    events
    timeline := events.map timelineEntry
    correlations
    coverageGaps := gaps
    quarantined
    confidence := overallConfidence events coverage failureRate
    sourceCoverage := roundTo 4 coverage
    parseFailureRate := roundTo 4 failureRate }

/-! ### The agent -/

/-- The validation and the dumps of the log records. What is read back from a dump keeps
    the kind of the reading and the certainty. -/
structure LogSchemas where
  readRecord : Value → Except PyError RawLogRecord
  readWindow : Value → Except PyError TimeWindow
  dumpEvent : NormalizedEvent → Value
  readEvent : Value → Option NormalizedEvent
  dumpEntry : TimelineEntry → Value
  readEntry : Value → Option TimelineEntry
  event_kept : ∀ event read, readEvent (dumpEvent event) = some read →
    Comparable read.eventTime event.eventTime ∧ read.confidence = event.confidence
  entry_kept : ∀ entry read, readEntry (dumpEntry entry) = some read → Comparable read.eventTime entry.eventTime

/-- A `str` field. -/
def readText : Value → Except PyError Text
  | .str text => .ok text
  | _ => .error .ValueError

theorem readText_ok {value : Value} {text : Text} : readText value = .ok text ↔ value = .str text := by
  cases value <;> simp [readText]

/-- Texts validate as what they are. -/
theorem readTexts_ok {values : List Value} {texts : List Text} : mapRaising readText values = .ok texts ↔ values = texts.map .str := by
  rw [mapRaising_ok]
  simp only [readText_ok]
  rw [← List.forall₂_map_right_iff (R := Eq),List.forall₂_eq_eq_eq]

def readOptional {α : Type} (read : Value → Except PyError α) : Option Value → Except PyError (Option α)
  | none => .ok none
  | some value => (read value).map some

def countOf (tool : String) (count : Nat) : Value := .dict [(lit "tool",.str (lit tool)),(lit "count",.int count)]

/-- The analyzer as the graph calls it. -/
def LogAnalyzer.agent (schemas : LogSchemas) (analyzer : LogAnalyzer) (request : Graph.LogAnalysisRequest) :
    Except PyError (Graph.AgentOutcome Graph.LogAnalysisResult) := do
  let records ← mapRaising schemas.readRecord request.records
  let requestedSources ← mapRaising readText request.requestedSources
  let timeWindow ← readOptional schemas.readWindow request.timeWindow
  let result ← analyzer.analyze ⟨request.investigationId,records,timeWindow,requestedSources⟩ request.sourceFailures
  return {
    output := {
      events := result.events.map schemas.dumpEvent
      timeline := result.timeline.map schemas.dumpEntry
      correlations := result.correlations
      coverageGaps := result.coverageGaps.map fun gap => (gap.kind.value,gap.detail)
      quarantined := result.quarantined.map fun record => .str record.recordId
      sourceCoverage := .float (rounded result.sourceCoverage)
      parseFailureRate := .float (rounded result.parseFailureRate) }
    confidence := .float (rounded result.confidence)
    promptVersion := .str analyzer.promptVersion
    toolCalls := [countOf "parse_record" records.length,countOf "extract_entities" result.events.length,
      countOf "correlate_events" result.correlations.length] }

/-! ### What an analysis promises -/

/-- A share, or a degree of certainty. -/
def Share (q : ℚ) : Prop := 0 ≤ q ∧ q ≤ 1

theorem Share.mul {p q : ℚ} (first : Share p) (second : Share q) : Share (p * q) :=
  ⟨mul_nonneg first.1 second.1,mul_le_one₀ first.2 second.1 second.2⟩

/-- Rounding to some digits stays between whole numbers. -/
theorem Share.round {q : ℚ} (share : Share q) (digits : Nat) : Share (roundTo digits q) := by
  have scale : (0 : ℚ) < 10^digits := by positivity
  have whole : ((10^digits : ℤ) : ℚ) = 10^digits := by push_cast; rfl
  have low : 0 ≤ roundHalfEven (q * 10^digits) :=
    le_roundHalfEven (by rw [Int.cast_zero]; exact mul_nonneg share.1 scale.le)
  have high : roundHalfEven (q * 10^digits) ≤ 10^digits :=
    roundHalfEven_le (by rw [whole]; exact mul_le_of_le_one_left scale.le share.2)
  constructor
  · exact div_nonneg (by exact_mod_cast low) scale.le
  · rw [roundTo,div_le_one scale,← whole]
    exact_mod_cast high

section
variable {analyzer : LogAnalyzer}

/-- An event is as sure as its parser, at most. -/
theorem normalize_share {record : RawLogRecord} {event : NormalizedEvent}
    (ran : normalize analyzer record = .ok (some event)) : Share event.confidence := by
  simp only [normalize,bind_ok] at ran
  obtain ⟨parsed,_,ran⟩ := ran
  cases parsed with
  | none => cases ran
  | some parsed =>
    simp only at ran
    cases time : parsed.eventTime.or record.receivedAt with
    | none =>
      rw [time] at ran
      cases ran
    | some eventTime =>
      simp only [time,bind_ok] at ran
      obtain ⟨_,_,_,_,made⟩ := ran
      cases made
      refine Share.round (Share.mul parsed.sure ?_) 4
      split_ifs <;> constructor <;> norm_num

theorem normalizeAll_share {records : List RawLogRecord} {events : List NormalizedEvent} {quarantined : List QuarantinedRecord}
    (ran : normalizeAll analyzer records = .ok (events,quarantined)) : ∀ event ∈ events, Share event.confidence := by
  induction records generalizing events quarantined with
  | nil =>
    cases ran
    simp
  | cons record rest ih =>
    simp only [normalizeAll,bind_ok] at ran
    obtain ⟨outcome,normalized,⟨more,others⟩,later,made⟩ := ran
    cases outcome with
    | none =>
      cases made
      exact ih later
    | some event =>
      cases made
      exact List.forall_mem_cons.mpr ⟨normalize_share normalized,ih later⟩

/-- What the report relies on: events that can be ordered, each sure to a degree, and a
    timeline of them. -/
structure Sound (result : LogAnalysisResult) : Prop where
  ordered : AllComparable (result.events.map (·.eventTime))
  sure : ∀ event ∈ result.events, Share event.confidence
  timeline : result.timeline = result.events.map timelineEntry

theorem analyze_sound {request : LogAnalysisRequest} {failures : List SourceFailure} {result : LogAnalysisResult}
    (ran : analyzer.analyze request failures = .ok result) : Sound result := by
  simp only [LogAnalyzer.analyze,bind_ok] at ran
  obtain ⟨⟨normalized,quarantined⟩,loop,events,sorted,_,_,_,_,made⟩ := ran
  cases made
  obtain ⟨all,same⟩ := sortedByTime_ok sorted
  refine ⟨?_,fun event member => normalizeAll_share loop event ((same event).mp member),rfl⟩
  refine all.subset ?_
  exact List.map_subset _ fun event member => (same event).mp member

end

/-- What the graph is handed was dumped from a sound result. -/
theorem agent_dumps {schemas : LogSchemas} {analyzer : LogAnalyzer} {request : Graph.LogAnalysisRequest}
    {outcome : Graph.AgentOutcome Graph.LogAnalysisResult} (ran : analyzer.agent schemas request = .ok outcome) :
    ∃ result, Sound result ∧ outcome.output.events = result.events.map schemas.dumpEvent ∧
      outcome.output.timeline = result.timeline.map schemas.dumpEntry ∧
      outcome.output.coverageGaps = result.coverageGaps.map fun gap => (gap.kind.value,gap.detail) := by
  simp only [LogAnalyzer.agent,bind_ok] at ran
  obtain ⟨_,_,_,_,_,_,result,analyzed,made⟩ := ran
  cases made
  exact ⟨result,analyze_sound analyzed,rfl,rfl,rfl⟩

/-- What the graph keeps of a gap: its kind and its detail in one string. -/
def gapText (gap : Text × Text) : Text := stripColons (gap.1 ++ lit ": " ++ gap.2)

def CoverageGap.text (gap : CoverageGap) : Text := gapText (gap.kind.value,gap.detail)

/-- A gap is never blank: its kind is spelled in letters. -/
theorem CoverageGap.text_ne_nil (gap : CoverageGap) : gap.text ≠ [] := by
  have letter : ∃ c rest, gap.kind.value = c :: rest ∧ ¬ (c = 58 ∨ c = 32) := by
    cases gap.kind <;> exact ⟨_,_,rfl,by decide⟩
  obtain ⟨c,rest,spelled,solid⟩ := letter
  intro blank
  unfold CoverageGap.text gapText stripColons at blank
  simp only [spelled] at blank
  rw [List.cons_append,List.cons_append,List.dropWhile_cons_of_neg (by simpa using solid),
    List.rdropWhile_eq_nil_iff] at blank
  exact solid (by simpa using blank c (by simp))

end SocAnalyst.LogAnalysis
