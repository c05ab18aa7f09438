import SocAnalyst.NvdRecords
import SocAnalyst.Remediation

/-!
# Bodies of answered lookups

What the lookups of `integrations/nvd.py`, `threat_intel.py` and `advisories.py` make of the
body of a response with status 200: the parser of advisories, the engine counts of a
reputation, and the bodies that every lookup reports.
-/
namespace SocAnalyst.ResponseBodies
open SocAnalyst.Builtins SocAnalyst.Values SocAnalyst.Times SocAnalyst.Iocs SocAnalyst.Enrichment SocAnalyst.Resilience
open SocAnalyst.Adapters SocAnalyst.Raising SocAnalyst.NvdRecords
open SocAnalyst.Doubles (dividedBy)
open SocAnalyst.LogParsers (withZone)
open SocAnalyst.Nvd (optional)
open SocAnalyst.Remediation (Advisory AdvisoryFix)

/-! ### Advisories -/

section
variable [Printer]

/-- The patched version, which the API spells two different ways. -/
def parseFixedVersion : Value → Option Text
  | .str text => optional (some (.str text))
  | .dict fields => optional (lookup fields (lit "identifier"))
  | _ => none

/-- The fix of one package, if the package has a name. -/
def parseFix : Value → Option AdvisoryFix
  | .dict entry =>
    let held := get entry (lit "package")
    match if held.truthy then held else .dict [] with
    | .dict package =>
      let name := strip ((lookup package (lit "name")).getD (.str [])).toText
      if name = [] then none
      else some {
        package := name
        ecosystem := optional (lookup package (lit "ecosystem"))
        vulnerableRange := optional (lookup entry (lit "vulnerable_version_range"))
        fixedVersion := parseFixedVersion (get entry (lit "first_patched_version")) }
    | _ => none
  | _ => none

def parseFixes : Value → List AdvisoryFix
  | .list entries => entries.filterMap parseFix
  | _ => []

variable (fromIsoformat : Text → Option DateTime)

/-- The timestamp of an advisory, in which `Z` is an offset. -/
def parseTimestamp (value : Value) : Option DateTime :=
  if value.truthy then (fromIsoformat (replaceAll (lit "Z") (lit "+00:00") value.toText)).map withZone else none

/-- The advisory of one item, if it has an identifier. -/
def parseAdvisory : Value → Option Advisory
  | .dict item =>
    if (get item (lit "ghsa_id")).truthy then some {
      advisoryId := (get item (lit "ghsa_id")).toText
      cveId := optional (lookup item (lit "cve_id"))
      summary := strip ((lookup item (lit "summary")).getD (.str [])).toText
      severity := optional (lookup item (lit "severity"))
      url := optional (lookup item (lit "html_url"))
      publishedAt := parseTimestamp fromIsoformat (get item (lit "published_at"))
      fixes := parseFixes (get item (lit "vulnerabilities")) }
    else none
  | _ => none

/-- Parse a GitHub advisories response, validating it as untrusted input. -/
def parseGithubAdvisories : Value → Except PyError (List Advisory)
  | .list items => .ok (items.filterMap (parseAdvisory fromIsoformat))
  | _ => .error .TypeError

/-- The parser of advisories lets nothing escape. -/
theorem parseGithubAdvisories_held (payload : Value) : ¬ Escapes Uncaught (parseGithubAdvisories fromIsoformat payload) := by
  cases payload <;> simp [parseGithubAdvisories,Uncaught,malformed]

theorem parseGithubAdvisories_returns (payload : Value) :
    Returns (parseGithubAdvisories fromIsoformat payload) ↔ ∃ items, payload = .list items := by
  cases payload <;> simp [parseGithubAdvisories]

end

/-! ### Engine counts -/

/-- The value of one engine count, if it is an integer. -/
def engineCount (entry : Text × Value) : Option (Text × Int) :=
  match entry.2 with
  | .int n => some (entry.1,n)
  | .bool flag => some (entry.1,if flag then 1 else 0)
  | _ => none

/-- The engine counts among the attributes. -/
def readCounts : Value → Except PyError (List (Text × Int))
  | .dict fields =>
    match if (get fields (lit "last_analysis_stats")).truthy then get fields (lit "last_analysis_stats") else .dict [] with
    | .dict counts => .ok (counts.filterMap engineCount)
    | _ => .error .TypeError
  | _ => .error .AttributeError

/-- The body has attributes. -/
def Attributes (payload attributes : Value) : Prop :=
  ∃ entries data, payload = .dict entries ∧ lookup entries (lit "data") = some (.dict data) ∧
    lookup data (lit "attributes") = some attributes

/-- An object of engine counts is held, or left out. -/
def HoldsCounts (fields counts : List (Text × Value)) : Prop :=
  get fields (lit "last_analysis_stats") = .dict counts ∨ (get fields (lit "last_analysis_stats")).truthy = false ∧ counts = []

/-- The body has an object of engine counts, which may be left out. -/
def Counts (payload : Value) (counts : List (Text × Value)) : Prop :=
  ∃ fields, Attributes payload (.dict fields) ∧ HoldsCounts fields counts

/-- The three numbers that a verdict names can be written. -/
def Writable (stats : List (Text × Int)) : Prop :=
  ∀ n ∈ [votes stats (lit "malicious"),votes stats (lit "suspicious"),(stats.map (·.2)).foldl (· + ·) 0],
    (lit (toString n.natAbs)).length ≤ maxStrDigits

/-- The attributes of the body are no object, or its counts make a number too long to be written. -/
def VerdictBreaks (payload : Value) : Prop :=
  (∃ attributes, Attributes payload attributes ∧ ∀ fields, attributes ≠ .dict fields) ∨
  ∃ counts, Counts payload counts ∧ ¬ Writable (counts.filterMap engineCount)

theorem item_ok (payload : Value) (key : Text) (value : Value) :
    item payload key = .ok value ↔ ∃ entries, payload = .dict entries ∧ lookup entries key = some value := by
  cases payload with
  | dict entries => cases found : lookup entries key <;> simp [item,found]
  | null | bool | int | float | str | list => simp [item]

theorem item_held {payload : Value} {key : Text} {e : PyError} (raised : item payload key = .error e) : ¬ Uncaught e := by
  have known : e = .KeyError ∨ e = .TypeError := by
    cases payload with
    | dict entries => cases found : lookup entries key <;> simp_all [item]
    | null | bool | int | float | str | list => simp_all [item]
  rcases known with rfl | rfl <;> simp [Uncaught,malformed]

/-- The attributes of a body, or an exception that is caught. -/
theorem attributes_split (payload : Value) :
    (∃ e, analysisStats payload = .error e ∧ ¬ Uncaught e ∧ ∀ attributes, ¬ Attributes payload attributes) ∨
    ∃ attributes, (∀ other, Attributes payload other ↔ other = attributes) ∧ analysisStats payload = readCounts attributes := by
  have attributes_iff (attributes : Value) : Attributes payload attributes ↔
      ∃ data, item payload (lit "data") = .ok data ∧ item data (lit "attributes") = .ok attributes := by
    simp only [Attributes,item_ok]
    constructor
    · rintro ⟨entries,data,rfl,first,second⟩
      exact ⟨.dict data,⟨entries,rfl,first⟩,data,rfl,second⟩
    · rintro ⟨_,⟨entries,rfl,first⟩,data,rfl,second⟩
      exact ⟨entries,data,rfl,first,second⟩
  unfold analysisStats
  cases held : item payload (lit "data") with
  | error e => exact .inl ⟨e,rfl,item_held held,fun attributes given => by simp [attributes_iff,held] at given⟩
  | ok data =>
    cases found : item data (lit "attributes") with
    | error e =>
      refine .inl ⟨e,?_,item_held found,fun other given => by simp [attributes_iff,held,found] at given⟩
      simp only [bind,Except.bind,found]
    | ok attributes =>
      refine .inr ⟨attributes,fun other => by simp [attributes_iff,held,found,eq_comm],?_⟩
      simp only [bind,Except.bind,found]
      rfl

theorem readCounts_fields (fields : List (Text × Value)) :
    (∃ counts, HoldsCounts fields counts ∧ readCounts (.dict fields) = .ok (counts.filterMap engineCount) ∧
      ∀ other, HoldsCounts fields other → other = counts) ∨
    (readCounts (.dict fields) = .error .TypeError ∧ ∀ counts, ¬ HoldsCounts fields counts) := by
  simp only [HoldsCounts,readCounts]
  generalize get fields (lit "last_analysis_stats") = stats
  cases truth : stats.truthy with
  | false =>
    refine .inl ⟨[],.inr ⟨rfl,rfl⟩,by simp,?_⟩
    rintro other (rfl | ⟨_,rfl⟩)
    · simpa [Value.truthy] using truth
    · rfl
  | true =>
    cases stats with
    | dict counts => exact .inl ⟨counts,.inl rfl,by simp,by simp⟩
    | null | bool | int | float | str | list => exact .inr ⟨by simp,by simp⟩

theorem analysisStats_ok (payload : Value) (stats : List (Text × Int)) :
    analysisStats payload = .ok stats ↔ ∃ counts, Counts payload counts ∧ counts.filterMap engineCount = stats := by
  rcases attributes_split payload with ⟨e,raised,_,none⟩ | ⟨attributes,only,read⟩
  · exact iff_of_false (by simp [raised]) fun ⟨_,⟨_,given,_⟩,_⟩ => none _ given
  · rw [read]
    cases attributes with
    | dict fields =>
      have held (counts : List (Text × Value)) : Counts payload counts ↔ HoldsCounts fields counts := by
        simp [Counts,only]
      simp only [held]
      rcases readCounts_fields fields with ⟨counts,holds,made,unique⟩ | ⟨raised,none⟩
      · rw [made,Except.ok.injEq]
        exact ⟨fun same => ⟨counts,holds,same⟩,fun ⟨other,holds',same⟩ => unique other holds' ▸ same⟩
      · exact iff_of_false (by simp [raised]) fun ⟨counts,holds,_⟩ => none counts holds
    | null | bool | int | float | str | list => simp [readCounts,Counts,only]

theorem analysisStats_escapes (payload : Value) :
    Escapes Uncaught (analysisStats payload) ↔ ∃ attributes, Attributes payload attributes ∧ ∀ fields, attributes ≠ .dict fields := by
  rcases attributes_split payload with ⟨e,raised,held,none⟩ | ⟨attributes,only,read⟩
  · exact iff_of_false (by simp [raised,held]) fun ⟨attributes,given,_⟩ => none attributes given
  · rw [read]
    cases attributes with
    | dict fields =>
      refine iff_of_false ?_ (by simp [only])
      rcases readCounts_fields fields with ⟨counts,_,made,_⟩ | ⟨raised,_⟩
      · simp [made]
      · simp [raised,Uncaught,malformed]
    | null | bool | int | float | str | list => simp [readCounts,only,Uncaught,malformed]

/-- The verdict is put into words just where its numbers can be written. -/
theorem verdictOf_returns (ioc : IocIndicator) (stats : List (Text × Int)) : Returns (VirusTotalReputationProvider.verdictOf ioc stats) ↔ Writable stats := by
  have written (n : Int) : Returns (strOfInt n) ↔ (lit (toString n.natAbs)).length ≤ maxStrDigits := by
    unfold strOfInt
    split_ifs with long
    · exact iff_of_false (not_returns_error _) (not_le.mpr long)
    · exact iff_of_true (returns_ok _) (not_lt.mp long)
  have sequence {x y z : Int} {verdict : Text → Text → Text → ReputationVerdict} :
      Returns (do let a ← strOfInt x; let b ← strOfInt y; let c ← strOfInt z; return verdict a b c : Except PyError ReputationVerdict) ↔
      Returns (strOfInt x) ∧ Returns (strOfInt y) ∧ Returns (strOfInt z) := by
    cases strOfInt x <;> cases strOfInt y <;> cases strOfInt z <;> simp [bind,Except.bind,pure,Except.pure]
  unfold VirusTotalReputationProvider.verdictOf Writable
  rw [sequence]
  simp [written]

/-! ### What a body is expected to hold -/

/-- What is expected in one place of a body. -/
inductive Expected where
  | object (fields : List (Text × Expected))
  /-- An object with any keys, and the same under each of them. -/
  | table (entries : Expected)
  | listOf (items : Expected)
  | number

/-- Somewhere in the body stands a list where an object is expected, a text inside a list of
    objects, null in place of a list, or a number too large for a float. -/
inductive Misplaced : Expected → Value → Prop
  | list_for_object (fields : List (Text × Expected)) (items : List Value) : Misplaced (.object fields) (.list items)
  | list_for_table (entries : Expected) (items : List Value) : Misplaced (.table entries) (.list items)
  | text_for_object (fields : List (Text × Expected)) (items : List Value) (text : Text) (member : .str text ∈ items) :
      Misplaced (.listOf (.object fields)) (.list items)
  | null_for_list (items : Expected) : Misplaced (.listOf items) .null
  | too_large (n : Int) (large : TooLarge n) : Misplaced .number (.int n)
  | infinite (negative : Bool) : Misplaced .number (.float (.infinite negative))
  | under_key (fields : List (Text × Expected)) (entries : List (Text × Value)) (key : Text) (expected : Expected) (value : Value)
      (known : (key,expected) ∈ fields) (held : lookup entries key = some value) (inside : Misplaced expected value) :
      Misplaced (.object fields) (.dict entries)
  | under_any_key (expected : Expected) (entries : List (Text × Value)) (key : Text) (value : Value)
      (held : lookup entries key = some value) (inside : Misplaced expected value) : Misplaced (.table expected) (.dict entries)
  | in_list (expected : Expected) (items : List Value) (value : Value) (member : value ∈ items) (inside : Misplaced expected value) :
      Misplaced (.listOf expected) (.list items)

def objects : Expected := .listOf (.object [])

/-- A metric block of the feed. -/
def metricBlock : Expected := .listOf (.object [(lit "cvssData",.object [(lit "baseScore",.number)])])

/-- A CVE of the feed. -/
def feedCve : Expected := .object [
  (lit "descriptions",objects),
  (lit "metrics",.object (cvssKeys.map fun key => (key,metricBlock))),
  (lit "weaknesses",.listOf (.object [(lit "description",objects)])),
  (lit "configurations",.listOf (.object [(lit "nodes",.listOf (.object [(lit "cpeMatch",objects)]))])),
  (lit "references",objects)]

/-- A body of the vulnerability feed. -/
def feedBody : Expected := .object [(lit "vulnerabilities",.listOf (.object [(lit "cve",feedCve)]))]

/-- A body about an indicator. -/
def verdictBody : Expected :=
  .object [(lit "data",.object [(lit "attributes",.object [(lit "last_analysis_stats",.table .number)])])]

/-- A body of advisories. -/
def advisoryBody : Expected :=
  .listOf (.object [(lit "vulnerabilities",.listOf (.object [(lit "package",.object []),(lit "first_patched_version",.object [])]))])

/-! ### What a lookup reports -/

/-- A response with status 200. -/
def delivered (text : Text) (payload : Value) : Except Raised HttpResponse := .ok ⟨200,text,.ok payload⟩

section
variable {σ answer : Type} (guards : σ → Guards) (before : σ) (readings : Readings) (expected : Expected) (payload : Value)
  (read : answer → Prop) (degraded : Text → answer) (after : Called σ answer)

/-- What an admitted call leaves of its guards. -/
def settled (ending : Ending) : Guards := ((guards before).enter readings.asked readings.limited).2.conclude readings.recorded ending

/-- The call returns what is read from the body, and the breaker records a success. -/
def Answered : Prop := (∃ result, read result ∧ after.outcome = .ok result) ∧ guards after.state = settled guards before readings .succeeded

/-- The call returns the degraded answer of a malformed body, and the breaker records a failure. -/
def Refused : Prop := (∃ detail, after.outcome = .ok (degraded detail)) ∧ guards after.state = settled guards before readings .failed

/-- The call answers or refuses, and it refuses a body with something misplaced. -/
structure Reported : Prop where
  ended : Answered guards before readings read after ∨ Refused guards before readings degraded after
  malformed : Misplaced expected payload → Refused guards before readings degraded after

variable {guards before readings expected payload read degraded after}

/-- The breaker tells a success from a failure. -/
theorem settled_apart : settled guards before readings .succeeded ≠ settled guards before readings .failed := by
  intro same
  have breakers := congrArg Guards.breaker same
  simp only [settled,Guards.conclude] at breakers
  generalize ((guards before).enter readings.asked readings.limited).2.breaker = breaker at breakers
  cases probing : breaker.halfOpen with
  | true =>
    have opened := congrArg CircuitBreaker.openedAt breakers
    simp [CircuitBreaker.recordSuccess,CircuitBreaker.recordFailure,probing] at opened
  | false =>
    have counted := congrArg CircuitBreaker.failures breakers
    simp [CircuitBreaker.recordSuccess,CircuitBreaker.recordFailure,probing] at counted

theorem Answered.reported_iff (answered : Answered guards before readings read after) :
    Reported guards before readings expected payload read degraded after ↔ ¬ Misplaced expected payload := by
  constructor
  · intro reported misplaced
    exact settled_apart (answered.2.symm.trans (reported.malformed misplaced).2)
  · exact fun sound => ⟨.inl answered,fun misplaced => absurd misplaced sound⟩

theorem Refused.reported (refused : Refused guards before readings degraded after) :
    Reported guards before readings expected payload read degraded after := ⟨.inr refused,fun _ => refused⟩

theorem not_reported_of_raised {e : PyError} (raised : after.outcome = .error e) :
    ¬ Reported guards before readings expected payload read degraded after := by
  rintro ⟨⟨⟨_,_,answered⟩,_⟩ | ⟨⟨_,answered⟩,_⟩,_⟩ <;> rw [raised] at answered <;> cases answered

end

section
variable {record : Type} (describe : PyError → Text)

/-- A lookup of records returns those of the body, or a stale answer or a typed failure. -/
def RecordsReported (expected : Expected) (parse : Value → Except PyError (List record)) (aged : record → record) (source : Source record)
    (key label : Text) (readings : Readings) (payload : Value) (after : Called (Source record) (LookupResult record)) : Prop :=
  Reported Source.guards source readings expected payload (fun result => ∃ records, parse payload = .ok records ∧ result = { records := records })
    (source.degrade aged key label (lit "malformed_response")) after

theorem readResponse_delivered {ρ : Type} (parse : Value → Except PyError ρ) (status text : Text) (payload : Value) :
    readResponse describe status parse (delivered text payload) = match parse payload with
      | .ok read => .read read
      | .error e => if malformed e then .failed (lit "malformed_response") (describe e) else .raised e := by
  simp only [readResponse,delivered,ne_eq,not_true_eq_false,if_false]
  rfl

/-- A lookup reports a body unless the parser raises what is not caught, or reads one that has
    something misplaced. -/
theorem lookup_reports (expected : Expected) (parse : Value → Except PyError (List record)) (aged : record → record) (source : Source record)
    (circuit limit status key label text : Text) (readings : Readings) (payload : Value)
    (sent : (source.lookup aged circuit limit key label readings (readResponse describe status parse (delivered text payload))).sent = true) :
    RecordsReported expected parse aged source key label readings payload
      (source.lookup aged circuit limit key label readings (readResponse describe status parse (delivered text payload))) ↔
    ¬ Escapes Uncaught (parse payload) ∧ (Returns (parse payload) → ¬ Misplaced expected payload) := by
  rw [readResponse_delivered] at sent ⊢
  unfold RecordsReported
  unfold Source.lookup at sent ⊢
  cases cached : source.cache.get key readings.found with
  | mk found cache =>
    rw [cached] at sent
    cases found with
    | some records => simp at sent
    | none =>
      cases entered : source.guards.enter readings.asked readings.limited with
      | mk admission guards =>
        rw [entered] at sent
        cases admission with
        | circuitOpen | rateLimited => simp at sent
        | admitted =>
          cases parsed : parse payload with
          | ok records =>
            rw [Answered.reported_iff ⟨⟨_,⟨records,rfl,rfl⟩,rfl⟩,by simp [settled,entered]⟩]
            simp
          | error e =>
            cases caught : malformed e with
            | true =>
              simp only [caught,if_true]
              refine iff_of_true (Refused.reported ⟨⟨_,rfl⟩,by simp [settled,entered]⟩) ?_
              simp [Uncaught,caught]
            | false =>
              simp only [caught,Bool.false_eq_true,if_false]
              refine iff_of_false (not_reported_of_raised rfl) ?_
              simp [Uncaught,caught]

end

section
variable [Interpreter] (describe : PyError → Text)

/-- A reputation lookup returns the verdict of the body, or a stale one or a typed failure. -/
def VerdictReported (provider : VirusTotalReputationProvider) (ioc : IocIndicator) (readings : Readings) (payload : Value)
    (after : Called VirusTotalReputationProvider ReputationResult) : Prop :=
  Reported VirusTotalReputationProvider.guards provider readings verdictBody payload
    (fun result => ∃ stats verdict, analysisStats payload = .ok stats ∧ VirusTotalReputationProvider.verdictOf ioc stats = .ok verdict ∧
      result = { verdict := some verdict })
    (provider.degrade ioc (VirusTotalReputationProvider.cacheKey ioc) (lit "malformed_response")) after

/-- How an admitted lookup ends. -/
def concluded (provider : VirusTotalReputationProvider) (ioc : IocIndicator) (readings : Readings) (guards : Guards) :
    Answer (Except PyError ReputationVerdict) → Called VirusTotalReputationProvider ReputationResult
  | .read (.ok verdict) =>
    ⟨{ provider with
        cache := provider.cache.set (VirusTotalReputationProvider.cacheKey ioc) verdict readings.stored
        guards := guards.conclude readings.recorded .succeeded },true,.ok { verdict := some verdict }⟩
  | .read (.error e) => ⟨{ provider with guards := guards.conclude readings.recorded .succeeded },true,.error e⟩
  | .failed reason detail =>
    ⟨{ provider with guards := guards.conclude readings.recorded .failed },true,
      .ok (provider.degrade ioc (VirusTotalReputationProvider.cacheKey ioc) reason detail)⟩
  | .raised e => ⟨{ provider with guards := guards },true,.error e⟩

/-- A lookup whose request goes out was admitted. -/
theorem lookup_sent {provider : VirusTotalReputationProvider} {ioc : IocIndicator} {readings : Readings}
    {get : Text → Except Raised HttpResponse} (sent : (provider.lookup describe ioc readings get).sent = true) :
    ∃ path guards, provider.guards.enter readings.asked readings.limited = (.admitted,guards) ∧
      provider.lookup describe ioc readings get =
        concluded provider ioc readings guards (VirusTotalReputationProvider.readVerdict describe ioc (get path)) := by
  unfold VirusTotalReputationProvider.lookup at sent ⊢
  by_cases configured : provider.apiKey = []
  · simp [configured] at sent
  rw [if_neg configured] at sent ⊢
  split at sent
  case h_1 | h_2 => simp at sent
  case h_3 path supported =>
    split at sent
    case h_1 hit => simp at sent
    case h_2 miss =>
      split at sent
      case h_1 | h_2 => simp at sent
      case h_3 guards enter =>
        refine ⟨path,guards,enter,?_⟩
        cases VirusTotalReputationProvider.readVerdict describe ioc (get path) with
        | read outcome => cases outcome <;> rfl
        | failed | raised => rfl

theorem verdict_reports (provider : VirusTotalReputationProvider) (ioc : IocIndicator) (text : Text) (readings : Readings)
    (payload : Value) (sent : (provider.lookup describe ioc readings fun _ => delivered text payload).sent = true) :
    VerdictReported provider ioc readings payload (provider.lookup describe ioc readings fun _ => delivered text payload) ↔
    ¬ VerdictBreaks payload ∧ ((∃ counts, Counts payload counts) → ¬ Misplaced verdictBody payload) := by
  have breaks : VerdictBreaks payload ↔
      Escapes Uncaught (analysisStats payload) ∨ ∃ stats, analysisStats payload = .ok stats ∧ ¬ Writable stats := by
    simp only [VerdictBreaks,analysisStats_escapes,analysisStats_ok]
    refine or_congr_right ⟨?_,?_⟩
    · rintro ⟨counts,given,long⟩
      exact ⟨_,⟨counts,given,rfl⟩,long⟩
    · rintro ⟨_,⟨counts,given,rfl⟩,long⟩
      exact ⟨counts,given,long⟩
  have counted : (∃ counts, Counts payload counts) ↔ Returns (analysisStats payload) := by
    simp [Returns,analysisStats_ok]
  have found : VirusTotalReputationProvider.notFound (delivered text payload) = false := rfl
  obtain ⟨path,guards,enter,ends⟩ := lookup_sent describe sent
  rw [ends,breaks,counted,VirusTotalReputationProvider.readVerdict,found,if_neg Bool.false_ne_true,readResponse_delivered]
  unfold VerdictReported
  cases parsed : analysisStats payload with
  | ok stats =>
    have returns := verdictOf_returns ioc stats
    simp only [Except.map]
    cases told : VirusTotalReputationProvider.verdictOf ioc stats with
    | ok verdict =>
      rw [told] at returns
      have writable : Writable stats := returns.mp (returns_ok verdict)
      have answered : Answered VirusTotalReputationProvider.guards provider readings
          (fun result => ∃ stats' verdict, (.ok stats : Except PyError _) = .ok stats' ∧
            VirusTotalReputationProvider.verdictOf ioc stats' = .ok verdict ∧ result = { verdict := some verdict })
          (concluded provider ioc readings guards (.read (.ok verdict))) :=
        ⟨⟨_,⟨stats,verdict,rfl,told,rfl⟩,rfl⟩,by simp [settled,enter,concluded]⟩
      rw [answered.reported_iff]
      simp [writable]
    | error e =>
      rw [told] at returns
      have long : ¬ Writable stats := fun writable => not_returns_error e (returns.mpr writable)
      refine iff_of_false (not_reported_of_raised rfl) ?_
      simp [long]
  | error e =>
    simp only [Except.map]
    cases caught : malformed e with
    | true =>
      simp only [if_true]
      refine iff_of_true (Refused.reported ⟨⟨_,rfl⟩,by simp [settled,enter,concluded]⟩) ?_
      simp [Uncaught,caught]
    | false =>
      simp only [Bool.false_eq_true,if_false]
      refine iff_of_false (not_reported_of_raised rfl) ?_
      simp [Uncaught,caught]

end

theorem five_positive : 1 ≤ 5 := by decide

def freshGuards : Guards where
  limiter := { capacity := 5, perSecond := dividedBy 1 6, tokens := 5, updatedAt := 0, positive := five_positive }
  breaker := { failureThreshold := 5, resetSeconds := 60, positive := five_positive }

/-- Sources that have answered nothing yet. -/
def freshFeed : Source CveRecord := ⟨{ ttl := 21600 },freshGuards⟩
def freshAdvisories : Source Advisory := ⟨{ ttl := 21600 },freshGuards⟩
def freshProvider : VirusTotalReputationProvider := ⟨lit "key",{ ttl := 21600 },freshGuards⟩

def startReadings : Readings := ⟨0,0,0,0,0⟩

def someAddress : IocIndicator := ⟨.IP_ADDRESS,lit "203.0.113.7",[],[],none,none,0,false,.UNKNOWN,none,none,false⟩

/-- A lookup of a CVE in the fresh feed, answered by a body. -/
def freshQuery (payload : Value) : Called (Source CveRecord) (LookupResult CveRecord) :=
  nvdQuery (fun _ => []) (@parseNvdResponse asciiPrinter fun _ => none) CveRecord.aged freshFeed
    [(lit "cveId",lit "CVE-2021-44228")] (lit "id:CVE-2021-44228") (lit "CVE-2021-44228") startReadings fun _ => delivered [] payload

def freshFetch (payload : Value) : Called (Source Advisory) (LookupResult Advisory) :=
  githubFetch (fun _ => []) (@parseGithubAdvisories asciiPrinter fun _ => none) id freshAdvisories (lit "CVE-2021-44228") startReadings
    fun _ => delivered [] payload

def freshLookup (payload : Value) : Called VirusTotalReputationProvider ReputationResult :=
  @VirusTotalReputationProvider.lookup asciiPrinter.toInterpreter (fun _ => []) freshProvider someAddress startReadings
    fun _ => delivered [] payload

def QueryReported (payload : Value) : Prop :=
  RecordsReported feedBody (@parseNvdResponse asciiPrinter fun _ => none) CveRecord.aged freshFeed (lit "id:CVE-2021-44228")
    (lit "CVE-2021-44228") startReadings payload (freshQuery payload)

def FetchReported (payload : Value) : Prop :=
  RecordsReported advisoryBody (@parseGithubAdvisories asciiPrinter fun _ => none) id freshAdvisories (lit "CVE-2021-44228")
    (lit "CVE-2021-44228") startReadings payload (freshFetch payload)

def LookupReported (payload : Value) : Prop :=
  @VerdictReported asciiPrinter.toInterpreter freshProvider someAddress startReadings payload (freshLookup payload)

def nullList : Value := .dict [(lit "vulnerabilities",.null)]

/-- Engine counts in place of which stands a list. -/
def listedCounts : Value :=
  .dict [(lit "data",.dict [(lit "attributes",.dict [(lit "last_analysis_stats",.list [.int 1])])])]

theorem bodies_sent : (freshQuery nullList).sent = true ∧ (freshLookup listedCounts).sent = true ∧ (freshFetch .null).sent = true := by
  decide +kernel

theorem listed_uncounted (counts : List (Text × Value)) : ¬ Counts listedCounts counts := by
  rintro ⟨fields,⟨_,_,same,first,second⟩,held⟩
  cases same
  cases first
  cases second
  rcases held with held | ⟨falsy,_⟩
  · cases held
  · cases falsy

end SocAnalyst.ResponseBodies
