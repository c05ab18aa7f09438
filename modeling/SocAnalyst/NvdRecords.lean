import SocAnalyst.Adapters
import SocAnalyst.Cvss
import SocAnalyst.LogParsers
import SocAnalyst.Nvd
import SocAnalyst.Raising

/-!
# Records of the vulnerability feed

`parse_nvd_response` of `integrations/nvd.py` with its helpers, and the bodies on which it
raises what a lookup does not catch.
-/
namespace SocAnalyst.NvdRecords
open SocAnalyst.Builtins SocAnalyst.Doubles SocAnalyst.Dicts SocAnalyst.Values SocAnalyst.Times SocAnalyst.Raising
open SocAnalyst.Adapters (malformed)
open SocAnalyst.Applicability (AffectedRange)
open SocAnalyst.Cvss (CvssMetrics interpret interpret_isSome parseVector)
open SocAnalyst.LogParsers (withZone)
open SocAnalyst.Nvd (eachUnder parseConfigurations vulnerableRange)

/-! ### The parser -/

inductive CveDataSource where
  | NVD
  | KNOWLEDGE_CORPUS
  deriving DecidableEq, Repr

/-- A published vulnerability record, as read from a source. -/
structure CveRecord where
  cveId : Text
  title : Text := []
  summary : Text := []
  cvss : Option CvssMetrics := none
  cweIds : List Text := []
  affected : List AffectedRange := []
  references : List Text := []
  publishedAt : Option DateTime := none
  modifiedAt : Option DateTime := none
  source : CveDataSource := .NVD
  stale : Bool := false

/-- A record served from an expired entry of the cache. -/
def CveRecord.aged (record : CveRecord) : CveRecord := { record with stale := true }

/-- `entries.get(key)`. -/
def get (entries : List (Text × Value)) (key : Text) : Value := (lookup entries key).getD .null

/-- The metric blocks, best first. -/
def cvssKeys : List Text := [lit "cvssMetricV31",lit "cvssMetricV30"]

/-- `text.split(". ")[0]`. -/
def beforeStop : Text → Text
  | 46 :: 32 :: _ => []
  | c :: rest => c :: beforeStop rest
  | [] => []

/-- A short label: the first sentence of the description, or the identifier. -/
def title (cveId summary : Text) : Text :=
  if summary = [] then cveId
  else
    let first := strip (beforeStop summary)
    if first.length ≤ 160 then first else first.take 157 ++ lit "..."

/-- `float` of an integer. -/
def floatOfInt (n : Int) : Except PyError PyFloat :=
  match rounded n with
  | .infinite _ => .error .OverflowError
  | value => .ok value

/-- The reported score where it is a number; the truth values are numbers too. -/
def reportedScore : Value → Except PyError (Option PyFloat)
  | .bool flag => (floatOfInt (if flag then 1 else 0)).map some
  | .int n => (floatOfInt n).map some
  | .float value => .ok (some value)
  | _ => .ok none

section
variable [Printer]

def isEnglish (entry : List (Text × Value)) : Bool :=
  match lookup entry (lit "lang") with
  | some (.str text) => text = lit "en"
  | _ => false

/-- The first description in English. -/
def englishDescription : Value → Text
  | .list entries =>
    match entries.findSome? fun entry => match entry with
      | .dict fields => if isEnglish fields then some fields else none
      | _ => none with
    | some fields => strip ((lookup fields (lit "value")).getD (.str [])).toText
    | none => []
  | _ => []

/-- The score data of one block, interpreted. -/
def readBlock (data : Value) : Except PyError (Option CvssMetrics) :=
  match data with
  | .dict data => (reportedScore (get data (lit "baseScore"))).map (interpret ((lookup data (lit "vectorString")).getD (.str [])).toText)
  | _ => .ok none

/-- The metric block under a key, of which the first entry counts. -/
def cvssBlock (metrics : List (Text × Value)) (key : Text) : Except PyError (Option CvssMetrics) :=
  match get metrics key with
  | .list (first :: _) => first.getOr (lit "cvssData") .null >>= readBlock
  | _ => .ok none

/-- The best available CVSS v3.x block through the shared interpreter. -/
def parseCvss : Value → Except PyError (Option CvssMetrics)
  | .dict metrics => firstRaising (cvssBlock metrics) cvssKeys
  | _ => .ok none

/-- The trimmed text an item holds under a key. -/
def textUnder (key : Text) (item : Value) : Except PyError Text :=
  (item.getOr key (.str [])).map fun value => strip value.toText

/-- The texts that are not blank, each once. -/
def distinct (texts : List Text) : List Text := keepFirst id (texts.filter (· ≠ []))

def parseWeaknesses : Value → Except PyError (List Text)
  | .list entries =>
    (mapRaising (eachUnder (lit "description") fun description => (textUnder (lit "value") description).map ([·])) entries).map fun found =>
      distinct found.flatten
  | _ => .ok []

def parseReferences : Value → Except PyError (List Text)
  | .list entries => (mapRaising (textUnder (lit "url")) entries).map distinct
  | _ => .ok []

/-- `datetime.fromisoformat` is a parameter: nothing where it raises `ValueError`. -/
def parseTimestamp (fromIsoformat : Text → Option DateTime) (value : Value) : Option DateTime :=
  if value.truthy then (fromIsoformat value.toText).map withZone else none

variable (fromIsoformat : Text → Option DateTime)

def parseCve (cve : List (Text × Value)) : Except PyError CveRecord := do
  let summary := englishDescription (get cve (lit "descriptions"))
  let cveId := (get cve (lit "id")).toText
  let cvss ← parseCvss (get cve (lit "metrics"))
  let cweIds ← parseWeaknesses (get cve (lit "weaknesses"))
  let affected ← parseConfigurations (get cve (lit "configurations"))
  let references ← parseReferences (get cve (lit "references"))
  return {
    cveId := cveId
    title := title cveId summary
    summary := summary
    cvss := cvss
    cweIds := cweIds
    affected := affected
    references := references
    publishedAt := parseTimestamp fromIsoformat (get cve (lit "published"))
    modifiedAt := parseTimestamp fromIsoformat (get cve (lit "lastModified")) }

/-- The record of one item, if it has an identifier. -/
def parseItem (item : Value) : Except PyError (Option CveRecord) := do
  match ← item.getOr (lit "cve") .null with
  | .dict cve => if (get cve (lit "id")).truthy then (parseCve fromIsoformat cve).map some else return none
  | _ => return none

/-- Parse an NVD v2 response into records, validating it as untrusted input. -/
def parseNvdResponse : Value → Except PyError (List CveRecord)
  | .dict payload =>
    match get payload (lit "vulnerabilities") with
    | .list items => (mapRaising (parseItem fromIsoformat) items).map (·.filterMap id)
    | _ => .error .TypeError
  | _ => .error .AttributeError

end

/-! ### Objects and what they hold -/

/-- What a lookup does not catch. -/
def Uncaught (e : PyError) : Prop := malformed e = false

/-- A value that attribute access takes for an object: a dictionary, or one that is replaced
    by an empty dictionary. -/
def ObjectLike (value : Value) : Prop := value.truthy = true → ∃ entries, value = .dict entries

/-- A loop over what the value holds under a key visits the items. -/
def Visits (key : Text) (value : Value) (items : List Value) : Prop :=
  ∃ held, value.getOr key (.list []) = .ok held ∧ held.iterate = .ok items

/-- Every item under the key passes. -/
def HoldsUnder (key : Text) (passes : Value → Prop) (value : Value) : Prop :=
  ∃ items, Visits key value items ∧ ∀ item ∈ items, passes item

/-- The value is no object, or an item under the key breaks the loop over them. -/
def BreaksUnder (key : Text) (passes breaks : Value → Prop) (value : Value) : Prop :=
  ¬ ObjectLike value ∨ ∃ items, Visits key value items ∧ Reaches passes breaks items

/-- Every item passes, if the value is a list. -/
def EachOf (passes : Value → Prop) (value : Value) : Prop := ∀ items, value = .list items → ∀ item ∈ items, passes item

/-- The value is a list, and an item breaks the loop over it. -/
def BreaksOf (passes breaks : Value → Prop) (value : Value) : Prop := ∃ items, value = .list items ∧ Reaches passes breaks items

theorem getOr_charted (key : Text) (default : Value) :
    Charted Uncaught (fun value => value.getOr key default) ObjectLike fun value => ¬ ObjectLike value := by
  have split (value : Value) : (ObjectLike value ∧ Returns (value.getOr key default)) ∨
      (¬ ObjectLike value ∧ value.getOr key default = .error .AttributeError) := by
    unfold ObjectLike Value.getOr
    by_cases holds : value.truthy = true
    · cases value <;> simp [holds]
    · simp [holds]
  constructor <;> intro value
  · rcases split value with ⟨object,returns⟩ | ⟨other,raised⟩
    · simp [object,returns]
    · simp [other,raised]
  · rcases split value with ⟨object,returns⟩ | ⟨other,raised⟩
    · simp [object,returns_not_escapes returns]
    · simp [other,raised,Uncaught,malformed]

theorem iterate_error {value : Value} {e : PyError} (raised : value.iterate = .error e) : e = .TypeError := by
  cases value <;> simp_all [Value.iterate]

variable {α : Type} {step : Value → Except PyError (List α)} {passes breaks : Value → Prop}

theorem eachUnder_charted (key : Text) (charted : Charted Uncaught step passes breaks) :
    Charted Uncaught (eachUnder key step) (HoldsUnder key passes) (BreaksUnder key passes breaks) := by
  have loop := charted.loop
  constructor <;> intro value
  · unfold HoldsUnder Visits eachUnder
    cases got : value.getOr key (.list []) with
    | error e => simp
    | ok held =>
      cases visited : held.iterate with
      | error e => simp [visited]
      | ok items => simp [visited,loop.returns]
  · unfold BreaksUnder Visits eachUnder
    have object := (getOr_charted key (.list [])).returns value
    cases got : value.getOr key (.list []) with
    | error e =>
      rw [got] at object
      have raised := (getOr_charted key (.list [])).escapes value
      rw [got] at raised
      simpa using raised
    | ok held =>
      rw [got] at object
      have like : ObjectLike value := object.mp (returns_ok held)
      cases visited : held.iterate with
      | error e =>
        have caught : ¬ Uncaught e := by simp [iterate_error visited,Uncaught,malformed]
        simp [visited,like,caught]
      | ok items => simp [visited,like,loop.escapes]

/-- A loop over a value that is skipped unless it is a list. -/
theorem listed_charted {β γ : Type} {step : Value → Except PyError β} {f : Value → Except PyError γ} {g : List β → γ}
    (charted : Charted Uncaught step passes breaks) (lists : ∀ items, f (.list items) = (mapRaising step items).map g)
    (others : ∀ value, (∀ items, value ≠ .list items) → Returns (f value)) :
    Charted Uncaught f (EachOf passes) (BreaksOf passes breaks) := by
  have loop := charted.loop
  constructor <;> intro value
  · by_cases list : ∃ items, value = .list items
    · obtain ⟨items,rfl⟩ := list
      simp [lists,loop.returns,EachOf]
    · have other := others value fun items same => list ⟨items,same⟩
      exact ⟨fun _ items same => absurd ⟨items,same⟩ list,fun _ => other⟩
  · by_cases list : ∃ items, value = .list items
    · obtain ⟨items,rfl⟩ := list
      simp [lists,loop.escapes,BreaksOf]
    · have other := others value fun items same => list ⟨items,same⟩
      exact ⟨fun escapes => absurd escapes (returns_not_escapes other),fun ⟨items,same,_⟩ => absurd ⟨items,same⟩ list⟩

/-! ### The fields of a record -/

/-- A number that no double is near. -/
def TooLarge (n : Int) : Prop := 2^1024 ≤ |nearest n|

theorem floatOfInt_error (n : Int) : (floatOfInt n = .error .OverflowError ∧ TooLarge n) ∨ (Returns (floatOfInt n) ∧ ¬ TooLarge n) := by
  unfold floatOfInt rounded TooLarge
  by_cases finite : |nearest (n : ℚ)| < 2^1024
  · refine .inr ⟨?_,not_le.mpr finite⟩
    rw [dif_pos finite]
    split_ifs <;> simp
  · exact .inl ⟨by rw [dif_neg finite],not_lt.mp finite⟩

theorem not_tooLarge {n : Int} (bits : |n| ≤ 2^53) : ¬ TooLarge n := by
  have double := isDouble_intCast bits
  rw [TooLarge,nearest_of_isDouble double]
  exact not_le.mpr double.1

/-- Only an integer is too large to be a score. -/
theorem reportedScore_split (value : Value) :
    (reportedScore value = .error .OverflowError ∧ ∃ n, value = .int n ∧ TooLarge n) ∨
    (Returns (reportedScore value) ∧ ¬ ∃ n, value = .int n ∧ TooLarge n) := by
  cases value with
  | bool flag =>
    rcases floatOfInt_error (if flag then 1 else 0) with ⟨_,large⟩ | ⟨returns,_⟩
    · exact absurd large (not_tooLarge (by cases flag <;> norm_num))
    · exact .inr ⟨by simpa [reportedScore] using returns,by simp⟩
  | int n =>
    rcases floatOfInt_error n with ⟨raised,large⟩ | ⟨returns,fits⟩
    · exact .inl ⟨by simp [reportedScore,raised,Except.map],n,rfl,large⟩
    · exact .inr ⟨by simpa [reportedScore] using returns,by simpa using fits⟩
  | null | float | str | list | dict => exact .inr ⟨returns_ok _,by simp⟩

section
variable [Printer]

/-- The score data of a block. -/
def Scored (metrics : List (Text × Value)) (key : Text) (data : List (Text × Value)) : Prop :=
  ∃ first rest, get metrics key = .list (first :: rest) ∧ first.getOr (lit "cvssData") .null = .ok (.dict data)

/-- The first entry of a block is no object, or its score is an integer too large for a float. -/
def BlockBreaks (metrics : List (Text × Value)) (key : Text) : Prop :=
  (∃ first rest, get metrics key = .list (first :: rest) ∧ ¬ ObjectLike first) ∨
  ∃ data n, Scored metrics key data ∧ get data (lit "baseScore") = .int n ∧ TooLarge n

/-- A block that breaks nothing and has no vector that can be parsed. -/
def BlockSkipped (metrics : List (Text × Value)) (key : Text) : Prop :=
  ¬ BlockBreaks metrics key ∧
    ∀ data, Scored metrics key data → parseVector ((lookup data (lit "vectorString")).getD (.str [])).toText = none

/-- A block breaks the search for a score. -/
def ScoreBreaks (value : Value) : Prop :=
  ∃ metrics, value = .dict metrics ∧ Reaches (BlockSkipped metrics) (BlockBreaks metrics) cvssKeys

theorem readBlock_split (data : List (Text × Value)) :
    (readBlock (.dict data) = .error .OverflowError ∧ ∃ n, get data (lit "baseScore") = .int n ∧ TooLarge n) ∨
    ((¬ ∃ n, get data (lit "baseScore") = .int n ∧ TooLarge n) ∧ ∃ found, readBlock (.dict data) = .ok found ∧
      (found = none ↔ parseVector ((lookup data (lit "vectorString")).getD (.str [])).toText = none)) := by
  unfold readBlock
  rcases reportedScore_split (get data (lit "baseScore")) with ⟨raised,large⟩ | ⟨⟨reported,read⟩,fits⟩
  · exact .inl ⟨by simp [raised,Except.map],large⟩
  · refine .inr ⟨fits,interpret ((lookup data (lit "vectorString")).getD (.str [])).toText reported,by simp [read,Except.map],?_⟩
    rw [← Option.isNone_iff_eq_none,← Option.not_isSome,interpret_isSome,Option.not_isSome,Option.isNone_iff_eq_none]

theorem block_unscored {metrics : List (Text × Value)} {key : Text}
    (like : ∀ first rest, get metrics key = .list (first :: rest) → ObjectLike first) (unscored : ∀ data, ¬ Scored metrics key data) :
    ¬ BlockBreaks metrics key ∧ BlockSkipped metrics key := by
  have unbroken : ¬ BlockBreaks metrics key := by
    rintro (⟨first,rest,block,other⟩ | ⟨data,_,given,_⟩)
    · exact other (like first rest block)
    · exact unscored data given
  exact ⟨unbroken,unbroken,fun data given => absurd given (unscored data)⟩

/-- A block breaks the search, or it is read and holds nothing just where it is skipped. -/
theorem cvssBlock_split (metrics : List (Text × Value)) (key : Text) :
    (BlockBreaks metrics key ∧ Escapes Uncaught (cvssBlock metrics key)) ∨
    (¬ BlockBreaks metrics key ∧ ∃ found, cvssBlock metrics key = .ok found ∧ (found = none ↔ BlockSkipped metrics key)) := by
  by_cases block : ∃ first rest, get metrics key = .list (first :: rest)
  · obtain ⟨first,rest,block⟩ := block
    have same {data : List (Text × Value)} : Scored metrics key data ↔ first.getOr (lit "cvssData") .null = .ok (.dict data) :=
      ⟨fun ⟨first',rest',block',held⟩ => by rw [block] at block'; cases block'; exact held,fun held => ⟨first,rest,block,held⟩⟩
    by_cases object : ObjectLike first
    · obtain ⟨held,got⟩ := ((getOr_charted (lit "cvssData") .null).returns first).mpr object
      have reads : cvssBlock metrics key = readBlock held := by
        simp only [cvssBlock,block,got]
        rfl
      have like : ∀ first rest, get metrics key = .list (first :: rest) → ObjectLike first := by
        intro first' rest' block'
        rw [block] at block'
        cases block'
        exact object
      rw [reads]
      by_cases data : ∃ data, held = .dict data
      · obtain ⟨data,rfl⟩ := data
        have only {data' : List (Text × Value)} : Scored metrics key data' ↔ data' = data := by
          rw [same,got]
          simp [eq_comm]
        have broken : BlockBreaks metrics key ↔ ∃ n, get data (lit "baseScore") = .int n ∧ TooLarge n := by
          constructor
          · rintro (⟨first',rest',block',other⟩ | ⟨data',n,given,large⟩)
            · exact absurd (like first' rest' block') other
            · rw [only] at given
              exact ⟨n,given ▸ large⟩
          · rintro ⟨n,large⟩
            exact .inr ⟨data,n,only.mpr rfl,large⟩
        rcases readBlock_split data with ⟨raised,large⟩ | ⟨fits,found,read,nothing⟩
        · exact .inl ⟨broken.mpr large,.OverflowError,raised,rfl⟩
        · refine .inr ⟨fun breaks => fits (broken.mp breaks),found,read,nothing.trans ?_⟩
          constructor
          · intro unparsed
            refine ⟨fun breaks => fits (broken.mp breaks),fun data' given => ?_⟩
            rw [only.mp given]
            exact unparsed
          · intro skipped
            exact skipped.2 data (only.mpr rfl)
      · have unscored : ∀ data, ¬ Scored metrics key data := by
          intro data' given
          have held' := same.mp given
          rw [got] at held'
          exact data ⟨data',Except.ok.inj held'⟩
        have skipped := block_unscored like unscored
        refine .inr ⟨skipped.1,none,?_,by simp [skipped.2]⟩
        cases held with
        | dict entries => exact absurd ⟨entries,rfl⟩ data
        | null | bool | int | float | str | list => rfl
    · have raised := ((getOr_charted (lit "cvssData") .null).escapes first).mpr object
      refine .inl ⟨.inl ⟨first,rest,block,object⟩,?_⟩
      simp only [cvssBlock,block]
      exact (escapes_bind _ _).mpr (.inl raised)
  · have skipped := block_unscored (fun first rest given => absurd ⟨first,rest,given⟩ block)
      fun data ⟨first,rest,given,_⟩ => block ⟨first,rest,given⟩
    refine .inr ⟨skipped.1,none,?_,by simp [skipped.2]⟩
    unfold cvssBlock
    split
    · exact absurd ⟨_,_,‹_›⟩ block
    · rfl

theorem cvssBlock_escapes (metrics : List (Text × Value)) (key : Text) :
    Escapes Uncaught (cvssBlock metrics key) ↔ BlockBreaks metrics key := by
  rcases cvssBlock_split metrics key with ⟨breaks,escapes⟩ | ⟨unbroken,found,read,_⟩
  · exact iff_of_true escapes breaks
  · rw [read]
    exact iff_of_false (not_escapes_ok found) unbroken

theorem cvssBlock_skips (metrics : List (Text × Value)) (key : Text) : cvssBlock metrics key = .ok none ↔ BlockSkipped metrics key := by
  rcases cvssBlock_split metrics key with ⟨breaks,e,raised,_⟩ | ⟨unbroken,found,read,nothing⟩
  · rw [raised]
    exact iff_of_false (by simp) fun skipped => skipped.1 breaks
  · rw [read,Except.ok.injEq]
    exact nothing

theorem parseCvss_charted : Charted Uncaught parseCvss (fun value => ¬ ScoreBreaks value) ScoreBreaks := by
  have escapes (value : Value) : Escapes Uncaught (parseCvss value) ↔ ScoreBreaks value := by
    unfold ScoreBreaks
    cases value with
    | dict metrics =>
      simp only [parseCvss,firstRaising_escapes,cvssBlock_skips,cvssBlock_escapes]
      simp
    | null | bool | int | float | str | list => simp [parseCvss]
  refine ⟨fun value => ?_,escapes⟩
  rw [← escapes value]
  cases value with
  | dict metrics =>
    apply firstRaising_returns
    intro key _
    rcases cvssBlock_split metrics key with ⟨_,escapes⟩ | ⟨_,found,read,_⟩
    · exact .inr escapes
    · exact .inl ⟨found,read⟩
  | null | bool | int | float | str | list => simp [parseCvss]

theorem textUnder_charted (key : Text) : Charted Uncaught (textUnder key) ObjectLike fun item => ¬ ObjectLike item :=
  (getOr_charted key (.str [])).map fun _ value => strip value.toText

/-- The weaknesses can be read. -/
def WeaknessesPass : Value → Prop := EachOf (HoldsUnder (lit "description") ObjectLike)

/-- A weakness is no object, or one of its descriptions is none. -/
def WeaknessesBreak : Value → Prop :=
  BreaksOf (HoldsUnder (lit "description") ObjectLike)
    (BreaksUnder (lit "description") ObjectLike fun description => ¬ ObjectLike description)

theorem parseWeaknesses_charted : Charted Uncaught parseWeaknesses WeaknessesPass WeaknessesBreak :=
  listed_charted (eachUnder_charted (lit "description") ((textUnder_charted (lit "value")).map fun _ value => [value])) (fun _ => rfl)
    fun value other => by cases value with
      | list items => exact absurd rfl (other items)
      | null | bool | int | float | str | dict => exact returns_ok []

/-- The configurations can be read. -/
def ConfigurationsPass : Value → Prop := EachOf (HoldsUnder (lit "nodes") (HoldsUnder (lit "cpeMatch") fun _ => True))

/-- A configuration is no object, or one of its nodes is none. -/
def ConfigurationsBreak : Value → Prop :=
  BreaksOf (HoldsUnder (lit "nodes") (HoldsUnder (lit "cpeMatch") fun _ => True))
    (BreaksUnder (lit "nodes") (HoldsUnder (lit "cpeMatch") fun _ => True) (BreaksUnder (lit "cpeMatch") (fun _ => True) fun _ => False))

theorem parseConfigurations_charted : Charted Uncaught parseConfigurations ConfigurationsPass ConfigurationsBreak := by
  have steady : Charted Uncaught (fun cpeMatch => (.ok (vulnerableRange cpeMatch).toList : Except PyError (List AffectedRange)))
      (fun _ => True) fun _ => False := ⟨fun _ => by simp,fun _ => by simp⟩
  refine listed_charted (eachUnder_charted (lit "nodes") (eachUnder_charted (lit "cpeMatch") steady)) (fun _ => rfl) ?_
  intro value other
  cases value with
  | list items => exact absurd rfl (other items)
  | null | bool | int | float | str | dict => exact returns_ok []

/-- The references can be read. -/
def ReferencesPass : Value → Prop := EachOf ObjectLike

/-- A reference is no object. -/
def ReferencesBreak : Value → Prop := BreaksOf ObjectLike fun entry => ¬ ObjectLike entry

theorem parseReferences_charted : Charted Uncaught parseReferences ReferencesPass ReferencesBreak :=
  listed_charted (textUnder_charted (lit "url")) (fun _ => rfl) fun value other => by cases value with
    | list items => exact absurd rfl (other items)
    | null | bool | int | float | str | dict => exact returns_ok []

/-! ### The body -/

/-- The fields of a record can be read. -/
def RecordPasses (cve : List (Text × Value)) : Prop :=
  ¬ ScoreBreaks (get cve (lit "metrics")) ∧ WeaknessesPass (get cve (lit "weaknesses")) ∧
    ConfigurationsPass (get cve (lit "configurations")) ∧ ReferencesPass (get cve (lit "references"))

/-- A field breaks the reading of a record, and the fields read before it pass. -/
def RecordBreaks (cve : List (Text × Value)) : Prop :=
  ScoreBreaks (get cve (lit "metrics")) ∨ ¬ ScoreBreaks (get cve (lit "metrics")) ∧
    (WeaknessesBreak (get cve (lit "weaknesses")) ∨ WeaknessesPass (get cve (lit "weaknesses")) ∧
      (ConfigurationsBreak (get cve (lit "configurations")) ∨ ConfigurationsPass (get cve (lit "configurations")) ∧
        ReferencesBreak (get cve (lit "references"))))

/-- The item is an object with a CVE that has an identifier. -/
def Identified (item : Value) (cve : List (Text × Value)) : Prop :=
  item.getOr (lit "cve") .null = .ok (.dict cve) ∧ (get cve (lit "id")).truthy = true

def ItemPasses (item : Value) : Prop := ObjectLike item ∧ ∀ cve, Identified item cve → RecordPasses cve

def ItemBreaks (item : Value) : Prop := ¬ ObjectLike item ∨ ∃ cve, Identified item cve ∧ RecordBreaks cve

/-- The body is an object with a list of items that can be read. -/
def BodyPasses (payload : Value) : Prop :=
  ∃ entries items, payload = .dict entries ∧ get entries (lit "vulnerabilities") = .list items ∧ ∀ item ∈ items, ItemPasses item

/-- The body is no object, or an item of its list breaks the reading. -/
def BodyBreaks (payload : Value) : Prop :=
  (∀ entries, payload ≠ .dict entries) ∨
  ∃ entries, payload = .dict entries ∧ BreaksOf ItemPasses ItemBreaks (get entries (lit "vulnerabilities"))

variable (fromIsoformat : Text → Option DateTime)

theorem parseCve_charted : Charted Uncaught (parseCve fromIsoformat) RecordPasses RecordBreaks := by
  have field {β : Type} {f : Value → Except PyError β} {p b : Value → Prop} (charted : Charted Uncaught f p b) (key : Text) :
      Charted Uncaught (fun cve => f (get cve key)) (fun cve => p (get cve key)) fun cve => b (get cve key) :=
    ⟨fun cve => charted.returns _,fun cve => charted.escapes _⟩
  exact (field parseCvss_charted (lit "metrics")).andThen fun cvss =>
    (field parseWeaknesses_charted (lit "weaknesses")).andThen fun cweIds =>
      (field parseConfigurations_charted (lit "configurations")).andThen fun affected =>
        (field parseReferences_charted (lit "references")).map fun cve references => _

theorem parseItem_identified {item : Value} {cve : List (Text × Value)} (identified : Identified item cve) :
    parseItem fromIsoformat item = (parseCve fromIsoformat cve).map some := by
  simp only [parseItem,identified.1,bind,Except.bind,identified.2,if_true]

theorem parseItem_unidentified {item : Value} (object : ObjectLike item) (unidentified : ∀ cve, ¬ Identified item cve) :
    parseItem fromIsoformat item = .ok none := by
  obtain ⟨held,got⟩ := ((getOr_charted (lit "cve") .null).returns item).mpr object
  simp only [parseItem,got]
  cases held with
  | dict cve =>
    have blank : ¬ (get cve (lit "id")).truthy = true := fun given => unidentified cve ⟨got,given⟩
    simp only [bind,Except.bind,blank]
    rfl
  | null | bool | int | float | str | list => rfl

theorem parseItem_charted : Charted Uncaught (parseItem fromIsoformat) ItemPasses ItemBreaks := by
  have record := parseCve_charted fromIsoformat
  have charted (item : Value) : (Returns (parseItem fromIsoformat item) ↔ ItemPasses item) ∧
      (Escapes Uncaught (parseItem fromIsoformat item) ↔ ItemBreaks item) := by
    unfold ItemPasses ItemBreaks
    by_cases object : ObjectLike item
    · by_cases identified : ∃ cve, Identified item cve
      · obtain ⟨cve,identified⟩ := identified
        have only {other : List (Text × Value)} : Identified item other ↔ other = cve := by
          refine ⟨fun known => ?_,fun same => same ▸ identified⟩
          have same := identified.1.symm.trans known.1
          simpa [eq_comm] using same
        rw [parseItem_identified fromIsoformat identified,returns_map,escapes_map,record.returns,record.escapes]
        simp [object,only]
      · have unidentified := not_exists.mp identified
        rw [parseItem_unidentified fromIsoformat object unidentified]
        simp [object,unidentified]
    · obtain ⟨e,raised,uncaught⟩ := ((getOr_charted (lit "cve") .null).escapes item).mpr object
      have escapes : parseItem fromIsoformat item = .error e := by
        simp only [parseItem,raised]
        rfl
      simp [escapes,object,uncaught]
  exact ⟨fun item => (charted item).1,fun item => (charted item).2⟩

theorem parseNvdResponse_charted : Charted Uncaught (parseNvdResponse fromIsoformat) BodyPasses BodyBreaks := by
  have loop := (parseItem_charted fromIsoformat).loop
  constructor <;> intro payload
  · unfold BodyPasses
    cases payload with
    | dict entries =>
      simp only [parseNvdResponse]
      cases list : get entries (lit "vulnerabilities") with
      | list items => simp [list,loop.returns]
      | null | bool | int | float | str | dict => simp [list]
    | null | bool | int | float | str | list => simp [parseNvdResponse]
  · unfold BodyBreaks BreaksOf
    cases payload with
    | dict entries =>
      simp only [parseNvdResponse]
      cases list : get entries (lit "vulnerabilities") with
      | list items => simp [list,loop.escapes]
      | null | bool | int | float | str | dict => simp [list,Uncaught,malformed]
    | null | bool | int | float | str | list => simp [parseNvdResponse,Uncaught,malformed]

end
end SocAnalyst.NvdRecords
