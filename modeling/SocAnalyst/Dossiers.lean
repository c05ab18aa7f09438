import SocAnalyst.BatchAnalyses
import SocAnalyst.ExploitMappings
import SocAnalyst.Extraction
import SocAnalyst.NvdRecords
import SocAnalyst.Recommender
import SocAnalyst.ThreatDetection

/-!
# Vulnerability dossiers

The agent of `agents/cve_research/researcher.py`: every lookup goes to the live feed and
falls back to the indexed corpus, the records are merged by identifier, and each one is
assessed against the estate. The answers of the feed and of the corpus to each lookup are
parameters, so they may change from one lookup to the next.
-/
namespace SocAnalyst.Dossiers
open SocAnalyst.Builtins SocAnalyst.Doubles SocAnalyst.Dicts SocAnalyst.Values SocAnalyst.Times SocAnalyst.Raising
open SocAnalyst.Applicability SocAnalyst.ExploitMappings
open SocAnalyst.Assessments (Citation ExploitMapping InRange SourceTrustTier)
open SocAnalyst.AlertTemplates (WordTable)
open SocAnalyst.Detections (unique)
open SocAnalyst.Extraction (character edge oneOrMore spelled)
open SocAnalyst.Graph (Mapping)
open SocAnalyst.LogAnalysis (AllComparable earliest)
open SocAnalyst.NvdRecords (CveDataSource)
open SocAnalyst.Patterns (Pattern findAll)
open SocAnalyst.Recommender (AgentDegradation normalizeCweId)
open SocAnalyst.Risk (roundFloat roundFloat_clamped)

/-- A published vulnerability record, as read from a source. -/
abbrev CveRecord := NvdRecords.CveRecord

/-- What the assessment reads of a record. -/
def judged (record : CveRecord) : Applicability.CveRecord where
  cveId := record.cveId
  cvss := record.cvss.map fun cvss =>
    ⟨(Cvss.real cvss.baseScore).getD 0,cvss.attackVector,cvss.privilegesRequired,cvss.userInteraction⟩
  cweIds := record.cweIds
  affected := record.affected
  references := record.references

/-- One lookup: a CVE identifier to fetch or a product to search. -/
structure Query where
  text : Text
  byId : Bool

/-- What the live feed says to one lookup. -/
inductive Answer where
  | unavailable
  | found (records : List CveRecord)
  | failed (reason : Text)

/-- The live feed and the passages of the indexed corpus, at each lookup of a run. -/
structure Sources where
  live : Nat → Query → Except PyError Answer
  corpus : Nat → Text → Except PyError (List Text)

/-- What one lookup contributes, and why it fell back if it did. -/
structure Offer where
  query : Text
  records : List CveRecord
  reason : Option Text

section
variable [Reader]

/-! ### Records -/

/-- `_CVSS_VECTOR`. -/
def cvssVector : Pattern Nat :=
  .seq ((lit "CVSS:3.").foldr (fun c rest => .seq (character c) rest) .nothing)
    (.seq (.symbol fun c => c == 48 || c == 49) (.seq (character 47) (oneOrMore fun c => (65 ≤ c && c ≤ 90) || c == 58 || c == 47)))

/-- `_CWE_IN_TEXT`. -/
def cweInText : Pattern Nat := .seq edge (.seq (spelled (lit "cwe-")) (.seq (oneOrMore Extraction.isDigit) edge))

/-- The record of an identifier that a passage names. No range is inferred from prose. -/
def corpusRecord (content cveId : Text) : CveRecord where
  cveId := cveId
  title := cveId
  summary := strip content
  cvss := (findAll cvssVector.whole content).head?.bind fun vector => Cvss.interpret vector none
  cweIds := sortedBy id ((findAll cweInText.whole content).map AlertTemplates.upper).dedup
  source := .KNOWLEDGE_CORPUS
  stale := true

/-- Build corpus-backed records from a retrieved passage. -/
def recordsFromChunk (content : Text) : List CveRecord := (sortedBy id (findCveIds content)).map (corpusRecord content)

/-- One lookup against the live feed, degrading to the corpus on failure. -/
def lookupOne (sources : Sources) (turn : Nat × Query) : Except PyError Offer := do
  let fallBack (reason : Text) : Except PyError Offer := do
    let passages ← sources.corpus turn.1 turn.2.text
    return ⟨turn.2.text,passages.flatMap recordsFromChunk,some reason⟩
  match ← sources.live turn.1 turn.2 with
  | .found records => return ⟨turn.2.text,records,none⟩
  | .failed reason => fallBack reason
  | .unavailable => fallBack (lit "not_configured")

omit [Reader] in
def mergeOne (records : Dict Text CveRecord) (record : CveRecord) : Dict Text CveRecord :=
  match records.get? record.cveId with
  | none => records.set record.cveId record
  | some existing => if existing.stale && !record.stale then records.set record.cveId record else records

omit [Reader] in
/-- Collect records by identifier, preferring live data over cached. -/
def merge (records : Dict Text CveRecord) (found : List CveRecord) : Dict Text CveRecord := found.foldl mergeOne records

omit [Reader] in
/-- The lookups in order, numbered. -/
def turns (referenced products : List Text) : List (Nat × Query) :=
  (referenced.map (Query.mk · true) ++ products.map (Query.mk · false)).zipIdx.map Prod.swap

/-- What every lookup contributes. -/
def offersOf (sources : Sources) (referenced products : List Text) : Except PyError (List Offer) :=
  mapRaising (lookupOne sources) (turns referenced products)

omit [Reader] in
/-- The records of the lookups, merged as they come. -/
def collected (offers : List Offer) : Dict Text CveRecord := offers.foldl (fun records offer => merge records offer.records) .empty

omit [Reader] in
/-- The lookups that fell back. -/
def fellBack (offers : List Offer) : List Text := (offers.filter (·.reason.isSome)).map (·.query)

omit [Reader] in
/-- The note about the lookups that fell back, if there are any. -/
def shortfall (offers : List Offer) : List AgentDegradation :=
  if fellBack offers = [] then []
  else [{
    reason := lit "live_feed_unavailable"
    detail := lit "the live CVE feed was unavailable (" ++ joined (lit ", ") (sortedBy id (offers.filterMap (·.reason)).dedup) ++ lit ") for " ++
      lit (toString (fellBack offers).length) ++ lit " of " ++ lit (toString offers.length) ++ lit " lookup(s) — " ++
      joined (lit ", ") ((fellBack offers).take 5) ++ lit "; " ++
      lit (toString ((collected offers).values.filter (·.stale)).length) ++ lit " record(s) recovered from the indexed corpus" }]

omit [Reader] in
/-- The distinct inventory products to research, bounded by budget. -/
def productsToSearch (maxProducts : Nat) (assets : List AssetContext) : List Text × Nat :=
  let seen := unique ((assets.flatMap fun asset => asset.software.map (·.product)).filter (· ≠ []))
  (seen.take maxProducts,seen.length - maxProducts)

/-! ### Assessments -/

/-- The weakness classes of the catalogue with their names. -/
def weaknesses : List (Text × Text) :=
  [(lit "CWE-20",lit "Improper Input Validation"),(lit "CWE-22",lit "Path Traversal"),(lit "CWE-77",lit "Command Injection"),
    (lit "CWE-78",lit "OS Command Injection"),(lit "CWE-79",lit "Cross-site Scripting"),(lit "CWE-89",lit "SQL Injection"),
    (lit "CWE-94",lit "Code Injection"),
    (lit "CWE-119",lit "Improper Restriction of Operations within the Bounds of a Memory Buffer"),
    (lit "CWE-125",lit "Out-of-bounds Read"),(lit "CWE-190",lit "Integer Overflow or Wraparound"),
    (lit "CWE-200",lit "Exposure of Sensitive Information to an Unauthorized Actor"),
    (lit "CWE-269",lit "Improper Privilege Management"),(lit "CWE-287",lit "Improper Authentication"),
    (lit "CWE-306",lit "Missing Authentication for Critical Function"),(lit "CWE-352",lit "Cross-Site Request Forgery"),
    (lit "CWE-362",lit "Race Condition"),(lit "CWE-400",lit "Uncontrolled Resource Consumption"),(lit "CWE-416",lit "Use After Free"),
    (lit "CWE-434",lit "Unrestricted Upload of File with Dangerous Type"),(lit "CWE-502",lit "Deserialization of Untrusted Data"),
    (lit "CWE-522",lit "Insufficiently Protected Credentials"),
    (lit "CWE-611",lit "Improper Restriction of XML External Entity Reference"),
    (lit "CWE-732",lit "Incorrect Permission Assignment for Critical Resource"),(lit "CWE-787",lit "Out-of-bounds Write"),
    (lit "CWE-798",lit "Use of Hard-coded Credentials"),(lit "CWE-862",lit "Missing Authorization"),
    (lit "CWE-863",lit "Incorrect Authorization"),(lit "CWE-918",lit "Server-Side Request Forgery"),
    (lit "CWE-1321",lit "Prototype Pollution")]

/-- The citation of a catalogued weakness class. -/
def weaknessCitation (weakness : Text × Text) : Citation where
  sourceId := lit "mitre_cwe"
  source := lit "MITRE CWE"
  url := lit "https://cwe.mitre.org/data/definitions/" ++ weakness.1.drop 4 ++ lit ".html"
  title := weakness.1 ++ lit " — " ++ weakness.2
  trustTier := some .AUTHORITATIVE

/-- The citation of the record itself. -/
def recordCitation (record : CveRecord) : Citation :=
  match record.source with
  | .NVD => {
      sourceId := lit "nvd", source := lit "NVD", url := lit "https://nvd.nist.gov/vuln/detail/" ++ record.cveId
      title := record.cveId, trustTier := some .AUTHORITATIVE, publishedAt := record.publishedAt }
  | .KNOWLEDGE_CORPUS => {
      sourceId := lit "knowledge_corpus", source := lit "Indexed CVE corpus", title := record.cveId, publishedAt := record.publishedAt }

/-- Every assessment is cited: the record itself, plus its weakness classes. -/
def citationsFor (record : CveRecord) : List Citation :=
  recordCitation record :: (record.cweIds.filterMap fun cweId =>
    (normalizeCweId cweId).bind fun normalized => weaknesses.find? fun weakness => weakness.1 = normalized).map weaknessCitation

omit [Reader] in
/-- How sure the agent is about the relevance of one record. -/
def assessmentConfidence (record : CveRecord) (applicability : CveApplicability) (evidence : List ApplicabilityEvidence)
    (mapping : ExploitMapping) : ℚ :=
  let reasons := evidence.map (·.reason)
  let score := match applicability with
    | .CONFIRMED => nearest (9/10)
    | .NOT_APPLICABLE => nearest (8/10)
    | .CANDIDATE =>
      if .VERSION_UNKNOWN ∈ reasons then nearest (5/10)
      else if .VERSION_UNPARSEABLE ∈ reasons then nearest (45/100)
      else if .NO_AFFECTED_RANGE_PUBLISHED ∈ reasons then nearest (35/100)
      else nearest (3/10)
  let fresh := if record.stale then times score (nearest (7/10)) else score
  let scored := if record.cvss.isNone then times fresh (nearest (9/10)) else fresh
  let linked := if mapping.isEmpty then scored else min 1 (plus scored (nearest (5/100)))
  roundFloat 4 (min 1 (max 0 linked))

/-- Evidence for a confirmation: it names the asset, the product and the installed version. -/
def Names (item : ApplicabilityEvidence) : Prop :=
  InRange item ∧ truthy item.hostname = true ∧ truthy item.product = true ∧ truthy item.installedVersion = true

instance (item : ApplicabilityEvidence) : Decidable (Names item) := inferInstanceAs (Decidable (_ ∧ _))

/-- One CVE, assessed against an estate. -/
structure CveAssessment where
  record : CveRecord
  applicability : CveApplicability
  evidence : List ApplicabilityEvidence
  exploitMapping : ExploitMapping
  citations : List Citation
  confidence : ℚ
  supported : applicability = .CONFIRMED → ∃ item ∈ evidence, Names item
  sure : 0 ≤ confidence ∧ confidence ≤ 1

/-- Worst first, then by identifier. -/
def bySeverity (assessment : CveAssessment) : ℚ ×ₗ Text :=
  toLex (-((assessment.record.cvss.bind fun cvss => Cvss.real cvss.baseScore).getD 0),assessment.record.cveId)

omit [Reader] in
theorem rounded_sure (score : ℚ) : 0 ≤ roundFloat 4 (min 1 (max 0 score)) ∧ roundFloat 4 (min 1 (max 0 score)) ≤ 1 := by
  simpa using roundFloat_clamped (n := 1) (by norm_num) 4 score

/-- Assess one record against the estate and the observed activity. -/
def assess (assets : List AssetContext) (context : ThreatContext) (record : CveRecord) : Except PyError CveAssessment :=
  match assessApplicability (judged record) assets with
  | .error e => .error e
  | .ok (applicability,evidence) =>
    if supported : applicability = .CONFIRMED → ∃ item ∈ evidence, Names item then
      .ok {
        record, applicability, evidence
        exploitMapping := mapToObserved (judged record) context
        citations := citationsFor record
        confidence := assessmentConfidence record applicability evidence (mapToObserved (judged record) context)
        supported := supported
        sure := rounded_sure _ }
    else .error .ValueError

/-! ### The dossier -/

structure CveResearchRequest where
  investigationId : Text
  threatAssessment : Option Mapping
  assets : List AssetContext
  referencedCveIds : List Text

structure CveResearchResult where
  investigationId : Text
  cves : List CveAssessment
  candidates : List CveAssessment
  ruledOut : List CveAssessment
  sourceFreshness : Option DateTime
  stale : Bool
  searchedProducts : List Text
  confidence : ℚ
  sure : 0 ≤ confidence ∧ confidence ≤ 1

/-- Every assessment made, whatever its applicability. -/
def CveResearchResult.allAssessments (result : CveResearchResult) : List CveAssessment :=
  result.cves ++ result.candidates ++ result.ruledOut

structure CveResearcher where
  sources : Sources
  maxProducts : Nat
  /-- `sum` of floats. -/
  sum : List ℚ → ℚ
  order : SetOrder

/-- Applicability certainty, source freshness and corroboration. -/
def confidenceOf (sum : List ℚ → ℚ) (assessments : List CveAssessment) (hasInventory stale : Bool) : ℚ :=
  if assessments = [] then 0
  else
    let mean := dividedBy (sum (assessments.map (·.confidence))) assessments.length
    let known := if hasInventory then mean else times mean (1/2)
    let fresh := if stale then times known (nearest (7/10)) else known
    roundFloat 4 (min 1 (max 0 fresh))

omit [Reader] in
theorem confidenceOf_sure (sum : List ℚ → ℚ) (assessments : List CveAssessment) (hasInventory stale : Bool) :
    0 ≤ confidenceOf sum assessments hasInventory stale ∧ confidenceOf sum assessments hasInventory stale ≤ 1 := by
  unfold confidenceOf
  split_ifs
  · exact ⟨le_rfl,zero_le_one⟩
  · exact rounded_sure _
  · exact rounded_sure _
  · exact rounded_sure _
  · exact rounded_sure _

/-- How current the least current record used was. -/
def oldestModification (records : List CveRecord) : Except PyError (Option DateTime) :=
  match records.filterMap (·.modifiedAt) with
  | [] => .ok none
  | first :: rest => (earliest first rest).map some

/-- What the inventory leaves to be desired. -/
def inventoryNotes (skipped : Nat) (assets : List AssetContext) : List AgentDegradation :=
  (if skipped = 0 then [] else [⟨lit "search_budget",
    lit (toString skipped) ++ lit " inventory product(s) exceeded the research budget"⟩]) ++
  if assets = [] then [⟨lit "no_asset_inventory",
    lit ("no asset inventory was supplied, so no CVE can be confirmed " ++ "applicable — every finding stays a candidate")⟩]
  else []

def ofStatus (applicability : CveApplicability) (assessments : List CveAssessment) : List CveAssessment :=
  sortedBy bySeverity (assessments.filter fun item => item.applicability = applicability)

/-- Assemble a cited vulnerability dossier, reporting what it could not check. -/
def CveResearcher.research (researcher : CveResearcher) (request : CveResearchRequest) :
    Except PyError (CveResearchResult × List AgentDegradation) := do
  let context ← fromPayload researcher.order request.threatAssessment
  let (products,skipped) := productsToSearch researcher.maxProducts request.assets
  let offers ← offersOf researcher.sources request.referencedCveIds products
  let records := (collected offers).values
  let assessments ← mapRaising (assess request.assets context) records
  let stale := fellBack offers ≠ [] || records.any (·.stale)
  let freshness ← oldestModification records
  return ({
    investigationId := request.investigationId
    cves := ofStatus .CONFIRMED assessments
    candidates := ofStatus .CANDIDATE assessments
    ruledOut := ofStatus .NOT_APPLICABLE assessments
    sourceFreshness := freshness
    stale := stale
    searchedProducts := products
    confidence := confidenceOf researcher.sum assessments (request.assets ≠ []) stale
    sure := confidenceOf_sure _ _ _ _ },inventoryNotes skipped request.assets ++ shortfall offers)

/-! ### The record of an identifier -/

omit [Reader]

/-- The first live record of an identifier, else the first cached one. -/
def best (found : List CveRecord) (cveId : Text) : Option CveRecord :=
  (found.find? fun record => record.cveId = cveId && !record.stale).or (found.find? fun record => record.cveId = cveId)

theorem best_cveId {found : List CveRecord} {cveId : Text} {record : CveRecord} (chosen : best found cveId = some record) :
    record ∈ found ∧ record.cveId = cveId := by
  rcases Option.or_eq_some_iff.mp chosen with live | ⟨_,cached⟩
  · have named := List.find?_some live
    simp only [Bool.and_eq_true,decide_eq_true_eq] at named
    exact ⟨List.mem_of_find?_eq_some live,named.1⟩
  · exact ⟨List.mem_of_find?_eq_some cached,by simpa using List.find?_some cached⟩

/-- One more record. -/
theorem best_snoc (found : List CveRecord) (record : CveRecord) (cveId : Text) :
    best (found ++ [record]) cveId =
      if record.cveId ≠ cveId then best found cveId
      else match best found cveId with
        | none => some record
        | some existing => if existing.stale && !record.stale then some record else some existing := by
  by_cases same : record.cveId = cveId
  · rw [if_neg (not_not.mpr same)]
    unfold best
    simp only [List.find?_append]
    cases live : found.find? fun record => record.cveId = cveId && !record.stale with
    | some existing =>
      have fresh := List.find?_some live
      simp only [Bool.and_eq_true,Bool.not_eq_true'] at fresh
      simp [fresh.2]
    | none =>
      cases cached : found.find? fun record => record.cveId = cveId with
      | none => cases old : record.stale <;> simp [same,old]
      | some existing =>
        have aged : existing.stale = true := by
          have unfit := List.find?_eq_none.mp live existing (List.mem_of_find?_eq_some cached)
          have named := List.find?_some cached
          simp only [decide_eq_true_eq] at named
          simpa [named] using unfit
        cases old : record.stale <;> simp [same,old,aged]
  · rw [if_pos same]
    unfold best
    simp [List.find?_append,same]

/-- A dictionary that holds the best of what was found. -/
def Holds (records : Dict Text CveRecord) (found : List CveRecord) : Prop := ∀ cveId, records.get? cveId = best found cveId

theorem holds_mergeOne {records : Dict Text CveRecord} {before : List CveRecord} (holds : Holds records before) (record : CveRecord) :
    Holds (mergeOne records record) (before ++ [record]) := by
  intro cveId
  rw [best_snoc,← holds cveId,mergeOne]
  by_cases same : record.cveId = cveId
  · subst same
    rw [if_neg (not_not.mpr rfl)]
    cases kept : records.get? record.cveId with
    | none => simp
    | some existing =>
      simp only
      split_ifs with newer
      · simp
      · exact kept
  · rw [if_pos same]
    cases records.get? record.cveId with
    | none => simp [Dict.get?_set,Ne.symm same]
    | some existing =>
      simp only
      split_ifs
      · simp [Dict.get?_set,Ne.symm same]
      · rfl

theorem holds_merge {records : Dict Text CveRecord} {before : List CveRecord} (holds : Holds records before) (found : List CveRecord) :
    Holds (merge records found) (before ++ found) := by
  induction found generalizing records before with
  | nil => simpa [merge] using holds
  | cons record found ih =>
    rw [List.append_cons]
    exact ih (holds_mergeOne holds record)

theorem holds_collected (offers : List Offer) : Holds (collected offers) (offers.flatMap (·.records)) := by
  have all : ∀ (records : Dict Text CveRecord) (before : List CveRecord), Holds records before →
      Holds (offers.foldl (fun records offer => merge records offer.records) records) (before ++ offers.flatMap (·.records)) := by
    induction offers with
    | nil => simp
    | cons offer offers ih =>
      intro records before holds
      rw [List.foldl_cons,List.flatMap_cons,← List.append_assoc]
      exact ih _ _ (holds_merge holds offer.records)
  exact all .empty [] fun cveId => rfl

/-- The records are the best ones of the identifiers found, each one once. -/
theorem mem_collected (offers : List Offer) (record : CveRecord) :
    record ∈ (collected offers).values ↔ best (offers.flatMap (·.records)) record.cveId = some record := by
  have holds := holds_collected offers
  rw [Dict.mem_values]
  constructor
  · rintro ⟨cveId,kept⟩
    rw [holds cveId] at kept
    rwa [(best_cveId kept).2]
  · exact fun chosen => ⟨record.cveId,(holds record.cveId).trans chosen⟩

theorem cveIds_collected (offers : List Offer) : ((collected offers).values.map (·.cveId)).Nodup := by
  have keyed : (collected offers).values.map (·.cveId) = (collected offers).keys := by
    unfold Dict.values Dict.keys
    rw [List.map_map]
    refine List.map_congr_left fun entry listed => ?_
    have kept : (collected offers).get? entry.1 = some entry.2 := (Dict.get?_eq_some _ _ _).mpr listed
    rw [holds_collected offers] at kept
    exact (best_cveId kept).2
  rw [keyed]
  exact (collected offers).distinct

/-! ### The oldest modification -/

theorem min_ok {first second smaller : DateTime} :
    first.min second = .ok smaller ↔ Comparable second first ∧ smaller = if second.instant < first.instant then second else first := by
  by_cases comparable : Comparable second first
  · rw [DateTime.min,lt_comparable comparable]
    simp [Except.map,comparable,eq_comm]
  · simp [DateTime.min,DateTime.lt,comparable,Except.map]

/-- The earliest reading of a list, which is found when all can be compared. -/
theorem earliest_iff {first time : DateTime} {rest : List DateTime} :
    earliest first rest = .ok time → AllComparable (first :: rest) ∧ ∀ other ∈ first :: rest, time.instant ≤ other.instant := by
  induction rest generalizing first with
  | nil =>
    rintro ⟨⟩
    simp [AllComparable,Comparable]
  | cons next rest ih =>
    intro found
    rw [earliest] at found
    cases least : first.min next with
    | error e => simp [least] at found
    | ok smaller =>
      rw [least] at found
      obtain ⟨comparable,rfl⟩ := min_ok.mp least
      obtain ⟨all,below⟩ := ih found
      have known : ∀ other ∈ first :: next :: rest, other.aware = first.aware := by
        have head : (if next.instant < first.instant then next else first).aware = first.aware := by
          split_ifs
          · exact comparable
          · rfl
        intro other listed
        rcases List.mem_cons.mp listed with rfl | listed
        · rfl
        · rcases List.mem_cons.mp listed with rfl | later
          · exact comparable
          · exact (all other (List.mem_cons_of_mem _ later) _ (List.mem_cons_self ..)).trans head
      refine ⟨fun s member t other => (known s member).trans (known t other).symm,fun other listed => ?_⟩
      have start := below _ (List.mem_cons_self ..)
      rcases List.mem_cons.mp listed with rfl | listed
      · split_ifs at start with earlier
        · exact start.trans earlier.le
        · exact start
      · rcases List.mem_cons.mp listed with rfl | later
        · split_ifs at start with earlier
          · exact start
          · exact start.trans (not_lt.mp earlier)
        · exact below other (List.mem_cons_of_mem _ later)

/-- The times at which records were modified. -/
def stamps (records : List CveRecord) : List DateTime := records.filterMap (·.modifiedAt)

theorem oldestModification_ok {records : List CveRecord} {oldest : Option DateTime} (found : oldestModification records = .ok oldest) :
    AllComparable (stamps records) ∧ ∀ stamp ∈ stamps records, ∃ floor, oldest = some floor ∧ floor.instant ≤ stamp.instant := by
  unfold oldestModification at found
  unfold stamps
  cases listed : records.filterMap (·.modifiedAt) with
  | nil => exact ⟨by simp [AllComparable],by simp⟩
  | cons first rest =>
    rw [listed] at found
    obtain ⟨time,least,rfl⟩ : ∃ time, earliest first rest = .ok time ∧ some time = oldest := by
      cases least : earliest first rest with
      | error e => simp [least,Except.map] at found
      | ok time => exact ⟨time,rfl,by simpa [least,Except.map] using found⟩
    obtain ⟨all,below⟩ := earliest_iff least
    exact ⟨all,fun stamp member => ⟨time,rfl,below stamp member⟩⟩

theorem oldestModification_returns (records : List CveRecord) : Returns (oldestModification records) ↔ AllComparable (stamps records) := by
  constructor
  · rintro ⟨oldest,found⟩
    exact (oldestModification_ok found).1
  · intro all
    unfold oldestModification
    unfold stamps at all
    split
    · exact ⟨_,rfl⟩
    · rename_i first rest listed
      rw [listed] at all
      obtain ⟨time,_,found⟩ := BatchAnalyses.earliest_of all
      rw [found]
      exact ⟨_,rfl⟩

end

/-! ### One assessment -/

section
variable [Reader] {assets : List AssetContext} {context : ThreatContext} {record : CveRecord}

theorem assess_ok {item : CveAssessment} (ran : assess assets context record = .ok item) :
    item.record = record ∧ StatusCorrect (judged record) assets item.applicability := by
  unfold assess at ran
  cases outcome : assessApplicability (judged record) assets with
  | error e => simp [outcome] at ran
  | ok result =>
    obtain ⟨applicability,evidence⟩ := result
    simp only [outcome] at ran
    split_ifs at ran with supported
    cases ran
    exact ⟨rfl,(assessApplicability_ok outcome).1⟩

/-- An assessment that does not raise: every version that is compared can be read, and what is
    confirmed is confirmed on a machine and a product with names. -/
structure Assessable (record : CveRecord) (assets : List AssetContext) : Prop where
  readable : ∀ triple, Compared (judged record) assets triple → ¬ triple.Unreadable
  named : (∃ triple, Compared (judged record) assets triple ∧ triple.Exposed) →
    ∃ triple, Compared (judged record) assets triple ∧ triple.Exposed ∧ triple.asset.hostname ≠ [] ∧ triple.installed.product ≠ []

/-- Evidence that names what it should is that of an exposed triple with names. -/
theorem names_iff {triple : Triple} {item : ApplicabilityEvidence} (made : triple.assess = .ok item) :
    Names item ↔ triple.Exposed ∧ triple.asset.hostname ≠ [] ∧ triple.installed.product ≠ [] := by
  obtain ⟨exposed,-,hostname,product,version⟩ := (assess_correct triple).2 item made
  unfold Names InRange
  rw [exposed,hostname,product]
  have filled : ∀ text : Text, truthy (some text) = true ↔ text ≠ [] := by simp [truthy]
  rw [filled,filled]
  constructor
  · rintro ⟨shown,host,named,_⟩
    exact ⟨shown,host,named⟩
  rintro ⟨shown,host,named⟩
  refine ⟨shown,host,named,?_⟩
  rw [version (exposed.mpr shown)]
  obtain ⟨v,parses,-⟩ := shown
  cases carried : triple.installed.version with
  | none =>
    rw [carried] at parses
    cases parses
  | some text =>
    rw [carried] at parses
    cases text with
    | nil => cases parses
    | cons c rest => rfl

theorem assess_returns : Returns (assess assets context record) ↔ Assessable record assets := by
  have loop := assessApplicability_returns (judged record) assets
  constructor
  · rintro ⟨item,ran⟩
    unfold assess at ran
    cases outcome : assessApplicability (judged record) assets with
    | error e => simp [outcome] at ran
    | ok result =>
      obtain ⟨applicability,evidence⟩ := result
      refine ⟨loop.mp ⟨_,_,outcome⟩,fun exposed => ?_⟩
      obtain ⟨correct,collected⟩ := assessApplicability_ok outcome
      have confirmed := correct.confirmed.mpr exposed
      simp only [outcome] at ran
      split_ifs at ran with supported
      obtain ⟨item,listed,names⟩ := supported confirmed
      obtain ⟨triple,compared,made⟩ := (collected (by rw [confirmed]; decide) item).mp listed
      exact ⟨triple,compared,(names_iff made).mp names⟩
  · intro assessable
    obtain ⟨applicability,evidence,outcome⟩ := loop.mpr assessable.readable
    obtain ⟨correct,collected⟩ := assessApplicability_ok outcome
    have supported : applicability = .CONFIRMED → ∃ item ∈ evidence, Names item := by
      intro confirmed
      obtain ⟨triple,compared,exposed,named⟩ := assessable.named (correct.confirmed.mp confirmed)
      have readable : ¬ triple.Unreadable := assessable.readable triple compared
      cases made : triple.assess with
      | error e => exact absurd (((assess_correct triple).1 e).mp made).2 readable
      | ok item =>
        have listed := (collected (by rw [confirmed]; decide) item).mpr ⟨triple,compared,made⟩
        exact ⟨item,listed,(names_iff made).mpr ⟨exposed,named⟩⟩
    simp only [Returns,assess,outcome]
    rw [dif_pos supported]
    exact ⟨_,rfl⟩

end

/-! ### The whole dossier -/

section
variable [Reader]

/-- Only what a passage says is known of a record from the corpus. -/
theorem recordsFromChunk_unranged {content : Text} {record : CveRecord} (listed : record ∈ recordsFromChunk content) :
    record.affected = [] ∧ record.stale = true := by
  obtain ⟨cveId,_,rfl⟩ := List.mem_map.mp listed
  exact ⟨rfl,rfl⟩

theorem lookupOne_ok {sources : Sources} {turn : Nat × Query} {offer : Offer} (ran : lookupOne sources turn = .ok offer) :
    offer.query = turn.2.text ∧ (offer.reason ≠ none → ∀ record ∈ offer.records, record.affected = [] ∧ record.stale = true) := by
  have cached : ∀ reason : Text, (do
      let passages ← sources.corpus turn.1 turn.2.text
      return (⟨turn.2.text,passages.flatMap recordsFromChunk,some reason⟩ : Offer)) = Except.ok offer →
      offer.query = turn.2.text ∧ (offer.reason ≠ none → ∀ record ∈ offer.records, record.affected = [] ∧ record.stale = true) := by
    intro reason fallen
    obtain ⟨passages,_,made⟩ := bind_ok.mp fallen
    cases made
    refine ⟨rfl,fun _ record listed => ?_⟩
    obtain ⟨passage,_,named⟩ := List.mem_flatMap.mp listed
    exact recordsFromChunk_unranged named
  obtain ⟨answer,_,made⟩ := bind_ok.mp ran
  cases answer with
  | found records =>
    cases made
    exact ⟨rfl,by simp⟩
  | failed reason => exact cached reason made
  | unavailable => exact cached (lit "not_configured") made

/-- What a dossier says of the lookups it rests on. -/
structure Dossier (request : CveResearchRequest) (offers : List Offer) (result : CveResearchResult) : Prop where
  /-- Each identifier is assessed once, by the first live record found, else by the first cached one. -/
  once : (result.allAssessments.map (·.record.cveId)).Nodup
  complete : ∀ record, (∃ item ∈ result.allAssessments, item.record = record) ↔
    best (offers.flatMap (·.records)) record.cveId = some record
  statuses : ∀ item ∈ result.allAssessments, StatusCorrect (judged item.record) request.assets item.applicability
  confirmed : ∀ item, item ∈ result.cves ↔ item ∈ result.allAssessments ∧ item.applicability = .CONFIRMED
  candidate : ∀ item, item ∈ result.candidates ↔ item ∈ result.allAssessments ∧ item.applicability = .CANDIDATE
  cleared : ∀ item, item ∈ result.ruledOut ↔ item ∈ result.allAssessments ∧ item.applicability = .NOT_APPLICABLE
  sorted : ∀ items ∈ [result.cves,result.candidates,result.ruledOut], items.Pairwise fun x y => bySeverity x ≤ bySeverity y
  /-- Nothing is confirmed or ruled out on what the corpus says. -/
  live : ∀ item ∈ result.cves ++ result.ruledOut, ∃ offer ∈ offers, offer.reason = none ∧ item.record ∈ offer.records
  stale : result.stale = true ↔ (∃ offer ∈ offers, offer.reason ≠ none) ∨ ∃ item ∈ result.allAssessments, item.record.stale = true
  oldest : ∀ item ∈ result.allAssessments, ∀ stamp ∈ item.record.modifiedAt,
    ∃ floor, result.sourceFreshness = some floor ∧ floor.instant ≤ stamp.instant

omit [Reader] in
theorem mem_ofStatus {applicability : CveApplicability} {assessments : List CveAssessment} {item : CveAssessment} :
    item ∈ ofStatus applicability assessments ↔ item ∈ assessments ∧ item.applicability = applicability := by
  simp [ofStatus]

omit [Reader] in
/-- The three parts of a dossier hold every assessment once. -/
theorem parts_perm (assessments : List CveAssessment) :
    (ofStatus .CONFIRMED assessments ++ ofStatus .CANDIDATE assessments ++ ofStatus .NOT_APPLICABLE assessments).Perm assessments := by
  have shuffled : ∀ status, (ofStatus status assessments).Perm (assessments.filter fun item => item.applicability = status) :=
    fun status => List.perm_insertionSort _ _
  refine (((shuffled _).append (shuffled _)).append (shuffled _)).trans ?_
  clear shuffled
  induction assessments with
  | nil => rfl
  | cons item assessments ih =>
    cases status : item.applicability with
    | CONFIRMED => simpa [status] using ih
    | CANDIDATE =>
      simp only [List.filter_cons,status]
      simp only [reduceCtorEq,decide_false,decide_true,if_true,Bool.false_eq_true,if_false]
      refine (List.Perm.append_right _ List.perm_middle).trans ?_
      exact ih.cons item
    | NOT_APPLICABLE =>
      simp only [List.filter_cons,status]
      simp only [reduceCtorEq,decide_false,decide_true,if_true,Bool.false_eq_true,if_false]
      exact List.perm_middle.trans (ih.cons item)

omit [Reader] in
theorem fellBack_ne_nil (offers : List Offer) : fellBack offers ≠ [] ↔ ∃ offer ∈ offers, offer.reason ≠ none := by
  unfold fellBack
  rw [ne_eq,List.map_eq_nil_iff,List.filter_eq_nil_iff]
  simp [Option.isSome_iff_ne_none]

theorem research_ok {researcher : CveResearcher} {request : CveResearchRequest} {result : CveResearchResult} {notes : List AgentDegradation}
    (ran : researcher.research request = .ok (result,notes)) :
    ∃ context offers assessments, fromPayload researcher.order request.threatAssessment = .ok context ∧
      offersOf researcher.sources request.referencedCveIds (productsToSearch researcher.maxProducts request.assets).1 = .ok offers ∧
      mapRaising (assess request.assets context) (collected offers).values = .ok assessments ∧
      oldestModification (collected offers).values = .ok result.sourceFreshness ∧
      result.cves = ofStatus .CONFIRMED assessments ∧ result.candidates = ofStatus .CANDIDATE assessments ∧
      result.ruledOut = ofStatus .NOT_APPLICABLE assessments ∧
      result.stale = (decide (fellBack offers ≠ []) || (collected offers).values.any (·.stale)) := by
  simp only [CveResearcher.research,bind_ok] at ran
  obtain ⟨context,read,offers,looked,assessments,assessed,freshness,oldest,made⟩ := ran
  cases made
  exact ⟨context,offers,assessments,read,looked,assessed,oldest,rfl,rfl,rfl,rfl⟩

/-- A dossier that is returned accounts for every identifier that its lookups found, on the
    best record found, and never confirms or rules out on cached passages. -/
theorem dossier_accounts {researcher : CveResearcher} {request : CveResearchRequest} {result : CveResearchResult}
    {notes : List AgentDegradation} (ran : researcher.research request = .ok (result,notes)) :
    ∃ offers, offersOf researcher.sources request.referencedCveIds (productsToSearch researcher.maxProducts request.assets).1 = .ok offers ∧
      Dossier request offers result := by
  obtain ⟨context,offers,assessments,read,looked,assessed,oldest,cves,candidates,ruledOut,stale⟩ := research_ok ran
  have all : result.allAssessments.Perm assessments := by
    unfold CveResearchResult.allAssessments
    rw [cves,candidates,ruledOut]
    exact parts_perm assessments
  have paired := mapRaising_ok.mp assessed
  have records : assessments.map (·.record) = (collected offers).values := by
    refine List.forall₂_eq_eq_eq ▸ List.forall₂_map_left_iff.mpr ?_
    exact paired.flip.imp fun item record made => (assess_ok made).1
  have statuses : ∀ item ∈ assessments, StatusCorrect (judged item.record) request.assets item.applicability := by
    intro item listed
    obtain ⟨record,_,made⟩ := (mapRaising_mem assessed item).mp listed
    obtain ⟨rfl,correct⟩ := assess_ok made
    exact correct
  have found : ∀ record, (∃ item ∈ result.allAssessments, item.record = record) ↔
      best (offers.flatMap (·.records)) record.cveId = some record := by
    intro record
    rw [← mem_collected,← records,List.mem_map]
    exact exists_congr fun item => and_congr_left fun _ => all.mem_iff
  refine ⟨offers,looked,?_,found,fun item listed => statuses item (all.mem_iff.mp listed),fun item => ?_,fun item => ?_,fun item => ?_,
    ?_,?_,?_,?_⟩
  · have distinct := cveIds_collected offers
    rw [← records,List.map_map] at distinct
    exact (all.map _).nodup_iff.mpr distinct
  · rw [cves,mem_ofStatus,all.mem_iff]
  · rw [candidates,mem_ofStatus,all.mem_iff]
  · rw [ruledOut,mem_ofStatus,all.mem_iff]
  · rw [cves,candidates,ruledOut]
    simp only [List.forall_mem_cons,List.not_mem_nil,IsEmpty.forall_iff,implies_true,and_true]
    exact ⟨pairwise_sortedBy _ _,pairwise_sortedBy _ _,pairwise_sortedBy _ _⟩
  · intro item settled
    have listed : item ∈ assessments := by
      rcases List.mem_append.mp settled with listed | listed
      · exact (mem_ofStatus.mp (cves ▸ listed)).1
      · exact (mem_ofStatus.mp (ruledOut ▸ listed)).1
    have chosen := (found item.record).mp ⟨item,all.mem_iff.mpr listed,rfl⟩
    obtain ⟨offer,offered,held⟩ := List.mem_flatMap.mp (best_cveId chosen).1
    refine ⟨offer,offered,by_contra fun fell => ?_,held⟩
    obtain ⟨turn,_,answered⟩ := (mapRaising_mem looked offer).mp offered
    have unranged := ((lookupOne_ok answered).2 fell item.record held).1
    have correct := statuses item listed
    have none : ∀ triple, ¬ Compared (judged item.record) request.assets triple := fun triple compared => by
      have ranged := compared.2.2.1
      simp [judged,unranged] at ranged
    rcases List.mem_append.mp settled with confirmed | cleared
    · obtain ⟨triple,compared,_⟩ := correct.confirmed.mp (mem_ofStatus.mp (cves ▸ confirmed)).2
      exact none triple compared
    · obtain ⟨⟨triple,compared⟩,_⟩ := correct.notApplicable.mp (mem_ofStatus.mp (ruledOut ▸ cleared)).2
      exact none triple compared
  · rw [stale,Bool.or_eq_true,decide_eq_true_eq,fellBack_ne_nil,← records,List.any_map]
    simp only [List.any_eq_true,Function.comp_apply]
    exact or_congr_right (exists_congr fun item => and_congr_left fun _ => all.mem_iff.symm)
  · intro item listed stamp modified
    refine (oldestModification_ok oldest).2 stamp (List.mem_filterMap.mpr ⟨item.record,?_,modified⟩)
    rw [← records]
    exact List.mem_map_of_mem (all.mem_iff.mp listed)

/-- Research returns when the upstream assessment can be read, no lookup raises, every record
    that is kept can be assessed and their modification times can be compared. -/
theorem research_returns (researcher : CveResearcher) (request : CveResearchRequest) :
    Returns (researcher.research request) ↔ Returns (fromPayload researcher.order request.threatAssessment) ∧
      ∃ offers, offersOf researcher.sources request.referencedCveIds (productsToSearch researcher.maxProducts request.assets).1 = .ok offers ∧
        (∀ record, best (offers.flatMap (·.records)) record.cveId = some record → Assessable record request.assets) ∧
        AllComparable (stamps (collected offers).values) := by
  have each : ∀ context offers, Returns (mapRaising (assess request.assets context) (collected offers).values) ↔
      ∀ record, best (offers.flatMap (·.records)) record.cveId = some record → Assessable record request.assets := by
    intro context offers
    unfold Returns
    rw [mapRaising_returns]
    exact forall_congr' fun record => imp_congr (mem_collected offers record) assess_returns
  constructor
  · rintro ⟨⟨result,notes⟩,ran⟩
    obtain ⟨context,offers,assessments,read,looked,assessed,oldest,-⟩ := research_ok ran
    exact ⟨⟨context,read⟩,offers,looked,(each context offers).mp ⟨assessments,assessed⟩,(oldestModification_ok oldest).1⟩
  · rintro ⟨⟨context,read⟩,offers,looked,assessable,comparable⟩
    obtain ⟨assessments,assessed⟩ := (each context offers).mpr assessable
    obtain ⟨oldest,found⟩ := (oldestModification_returns _).mpr comparable
    exact ⟨_,bind_ok.mpr ⟨context,read,bind_ok.mpr ⟨offers,looked,bind_ok.mpr ⟨assessments,assessed,bind_ok.mpr ⟨oldest,found,rfl⟩⟩⟩⟩⟩

end

/-! ### A feed that is down -/

def advisory : Text := lit "log4j: CVE-2021-44228"

/-- The feed is down, and the corpus has one passage. -/
def cachedOnly : CveResearcher where
  sources := ⟨fun _ _ => .ok (.failed (lit "unreachable")),fun _ _ => .ok [advisory]⟩
  maxProducts := 12
  sum := List.sum
  order := inListOrder

def oneIdentifier : CveResearchRequest := ⟨lit "inv",none,[],[lit "CVE-2021-44228"]⟩

theorem recordsFromChunk_advisory : let _ := asciiReader
    recordsFromChunk advisory = [corpusRecord advisory (lit "CVE-2021-44228")] := by
  intro reader
  have found : findCveIds advisory = [lit "CVE-2021-44228"] := by decide
  unfold recordsFromChunk
  rw [found]
  rfl

/-- The identifier is a candidate of a stale dossier. -/
theorem cached_dossier : let _ := asciiReader
    ∃ result notes offers, cachedOnly.research oneIdentifier = .ok (result,notes) ∧ Dossier oneIdentifier offers result ∧
      result.stale = true ∧ ∃ item ∈ result.candidates, item.record.cveId = lit "CVE-2021-44228" := by
  intro reader
  have looked : offersOf cachedOnly.sources oneIdentifier.referencedCveIds
      (productsToSearch cachedOnly.maxProducts oneIdentifier.assets).1 =
      .ok [⟨lit "CVE-2021-44228",[corpusRecord advisory (lit "CVE-2021-44228")],some (lit "unreachable")⟩] := by
    rw [← recordsFromChunk_advisory]
    rfl
  have chosen : best [corpusRecord advisory (lit "CVE-2021-44228")] (lit "CVE-2021-44228") =
      some (corpusRecord advisory (lit "CVE-2021-44228")) := rfl
  have kept : ∀ record cveId, best [corpusRecord advisory (lit "CVE-2021-44228")] cveId = some record →
      record = corpusRecord advisory (lit "CVE-2021-44228") := fun record cveId found =>
    List.mem_singleton.mp (best_cveId found).1
  have unranged : ∀ triple, ¬ Compared (judged (corpusRecord advisory (lit "CVE-2021-44228"))) oneIdentifier.assets triple :=
    fun triple compared => by simpa [judged,corpusRecord] using compared.2.2.1
  have assessable : ∀ record, best [corpusRecord advisory (lit "CVE-2021-44228")] record.cveId = some record →
      Assessable record oneIdentifier.assets := by
    intro record found
    rw [kept record record.cveId found]
    refine ⟨fun triple compared => absurd compared (unranged triple),?_⟩
    rintro ⟨triple,compared,_⟩
    exact absurd compared (unranged triple)
  obtain ⟨⟨result,notes⟩,ran⟩ := (research_returns cachedOnly oneIdentifier).mpr
    ⟨⟨_,rfl⟩,_,looked,assessable,by rw [show stamps _ = [] from rfl]; decide⟩
  obtain ⟨offers,again,dossier⟩ := dossier_accounts ran
  obtain rfl := Except.ok.inj (again.symm.trans looked)
  refine ⟨result,notes,_,ran,dossier,dossier.stale.mpr (.inl ⟨_,List.mem_cons_self ..,by simp⟩),?_⟩
  obtain ⟨item,listed,same⟩ := (dossier.complete (corpusRecord advisory (lit "CVE-2021-44228"))).mpr chosen
  refine ⟨item,(dossier.candidate item).mpr ⟨listed,?_⟩,congrArg (·.cveId) same⟩
  have correct := dossier.statuses item listed
  rw [same] at correct
  cases status : item.applicability with
  | CANDIDATE => rfl
  | CONFIRMED =>
    obtain ⟨triple,compared,_⟩ := correct.confirmed.mp status
    exact absurd compared (unranged triple)
  | NOT_APPLICABLE =>
    obtain ⟨⟨triple,compared⟩,_⟩ := correct.notApplicable.mp status
    exact absurd compared (unranged triple)

end SocAnalyst.Dossiers
