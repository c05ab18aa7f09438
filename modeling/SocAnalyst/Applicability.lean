import Mathlib.Algebra.Order.Ring.Rat
import Mathlib.Data.List.Forall2
import SocAnalyst.Versions

/-!
# Applicability

`in_vulnerable_range` and `assess_applicability` of `tools/versions.py`, over the
contracts of `models/vulnerability.py`. A triple of asset, installed product and
published range is `Exposed`, `Cleared`, or neither; the status of the assessment
is read off all the triples whose products match.
-/
namespace SocAnalyst.Applicability
open SocAnalyst.Builtins SocAnalyst.Versions

/-! ### Contracts -/

/-- Whether a CVE is confirmed to apply to the affected assets. -/
inductive CveApplicability where
  | CONFIRMED
  | CANDIDATE
  | NOT_APPLICABLE
  deriving DecidableEq, Repr

/-- Why a CVE landed in the applicability bucket it did. -/
inductive ApplicabilityReason where
  | VERSION_IN_VULNERABLE_RANGE
  | VERSION_NOT_IN_VULNERABLE_RANGE
  | VERSION_UNKNOWN
  | VERSION_UNPARSEABLE
  | NO_AFFECTED_RANGE_PUBLISHED
  | PRODUCT_NOT_IN_INVENTORY
  | TECHNIQUE_MATCH_ONLY
  deriving DecidableEq, Repr

/-- One installed product on one asset. -/
structure AssetSoftware where
  product : Text
  version : Option Text
  deriving DecidableEq

/-- One machine of the inventory. -/
structure AssetContext where
  hostname : Text
  software : List AssetSoftware
  deriving DecidableEq

/-- The comparison a version must satisfy against a bound to stay inside. -/
inductive Comparison where
  | ge
  | gt
  | le
  | lt
  deriving DecidableEq

/-- The comparison, evaluated. -/
def Comparison.satisfies : Comparison → Version → Version → Bool
  | .ge, version, bound => bound ≤ version
  | .gt, version, bound => bound < version
  | .le, version, bound => version ≤ bound
  | .lt, version, bound => version < bound

/-- A published range of versions a CVE affects. -/
structure AffectedRange where
  product : Text
  vendor : Option Text
  versionStartIncluding : Option Text
  versionStartExcluding : Option Text
  versionEndIncluding : Option Text
  versionEndExcluding : Option Text
  deriving DecidableEq

/-- Whether the range names no bounds, i.e. affects every version. -/
def AffectedRange.isUnbounded (affected : AffectedRange) : Bool :=
  !(truthy affected.versionStartIncluding || truthy affected.versionStartExcluding ||
    truthy affected.versionEndIncluding || truthy affected.versionEndExcluding)

/-- The four bounds in the order they are checked. -/
def AffectedRange.bounds (affected : AffectedRange) : List (Option Text × Comparison) :=
  [(affected.versionStartIncluding,.ge),(affected.versionStartExcluding,.gt),
    (affected.versionEndIncluding,.le),(affected.versionEndExcluding,.lt)]

/-- A parsed CVSS vector with the score it implies. -/
structure CvssMetrics where
  baseScore : ℚ
  attackVector : Option Text
  privilegesRequired : Option Text
  userInteraction : Option Text
  deriving DecidableEq

/-- A published vulnerability record. -/
structure CveRecord where
  cveId : Text
  cvss : Option CvssMetrics
  cweIds : List Text
  affected : List AffectedRange
  references : List Text
  deriving DecidableEq

/-- The specific evidence behind an applicability decision. -/
structure ApplicabilityEvidence where
  reason : ApplicabilityReason
  hostname : Option Text := none
  product : Option Text := none
  installedVersion : Option Text := none
  matchedRange : Option AffectedRange := none
  detail : Text
  deriving DecidableEq

/-! ### The assessment -/

section
variable [Interpreter]

/-- The loop over the bounds. -/
def checkBounds (version : Version) : List (Option Text × Comparison) → Except PyError (Option Bool)
  | [] => .ok (some true)
  | (none,_) :: rest => checkBounds version rest
  | (some raw,comparison) :: rest =>
    match parseVersion (some raw) with
    | .error e => .error e
    | .ok none => .ok none
    | .ok (some bound) => if comparison.satisfies version bound then checkBounds version rest else .ok (some false)

/-- Whether a version falls inside a published vulnerable range; `none` when a
    bound exists but cannot be parsed. -/
def inVulnerableRange (version : Version) (affected : AffectedRange) : Except PyError (Option Bool) :=
  if affected.isUnbounded then .ok (some true) else checkBounds version affected.bounds

/-- Assess one installed product against one published range. -/
def assessOne (asset : AssetContext) (product : Text) (installedVersion : Option Text) (affected : AffectedRange) :
    Except PyError ApplicabilityEvidence :=
  match installedVersion with
  | none | some [] => .ok {
      reason := .VERSION_UNKNOWN, hostname := asset.hostname, product := product, matchedRange := affected
      detail := asset.hostname ++ lit " runs " ++ product ++ lit " but the inventory records no version" }
  | some installedVersion =>
    match parseVersion (some installedVersion) with
    | .error e => .error e
    | .ok none => .ok {
        reason := .VERSION_UNPARSEABLE, hostname := asset.hostname, product := product
        installedVersion := installedVersion, matchedRange := affected
        detail := lit "version " ++ Interpreter.repr installedVersion ++ lit " on " ++ asset.hostname ++ lit " could not be parsed" }
    | .ok (some parsed) =>
      match inVulnerableRange parsed affected with
      | .error e => .error e
      | .ok none => .ok {
          reason := .VERSION_UNPARSEABLE, hostname := asset.hostname, product := product
          installedVersion := installedVersion, matchedRange := affected
          detail := lit "the published range contains a bound that could not be parsed" }
      | .ok (some true) => .ok {
          reason := .VERSION_IN_VULNERABLE_RANGE, hostname := asset.hostname, product := product
          installedVersion := installedVersion, matchedRange := affected
          detail := asset.hostname ++ lit " runs " ++ product ++ lit " " ++ installedVersion ++
            lit ", which falls inside the published vulnerable range" }
      | .ok (some false) => .ok {
          reason := .VERSION_NOT_IN_VULNERABLE_RANGE, hostname := asset.hostname, product := product
          installedVersion := installedVersion, matchedRange := affected
          detail := asset.hostname ++ lit " runs " ++ product ++ lit " " ++ installedVersion ++
            lit ", which is outside the published vulnerable range" }

/-- One comparison the assessment makes. -/
structure Triple where
  asset : AssetContext
  installed : AssetSoftware
  affected : AffectedRange
  deriving DecidableEq

/-- The triples whose products match, in the order of the three nested loops. -/
def matchedTriples (affected : List AffectedRange) (assets : List AssetContext) : List Triple :=
  assets.flatMap fun asset => asset.software.flatMap fun installed =>
    (affected.filter fun range => productsMatch installed.product range.product).map fun range =>
      ⟨asset,installed,range⟩

/-- The body of the three nested loops. -/
def Triple.assess (triple : Triple) : Except PyError ApplicabilityEvidence :=
  assessOne triple.asset triple.installed.product triple.installed.version triple.affected

/-- The status the collected reasons add up to. -/
def statusOf (reasons : List ApplicabilityReason) : CveApplicability :=
  if .VERSION_IN_VULNERABLE_RANGE ∈ reasons then .CONFIRMED
  else if ∃ reason ∈ reasons, reason ≠ .VERSION_NOT_IN_VULNERABLE_RANGE then .CANDIDATE
  else .NOT_APPLICABLE

/-- Decide whether a CVE applies to this estate, and say why. -/
def assessApplicability (record : CveRecord) (assets : List AssetContext) :
    Except PyError (CveApplicability × List ApplicabilityEvidence) :=
  if record.affected = [] then
    .ok (.CANDIDATE,[{
      reason := .NO_AFFECTED_RANGE_PUBLISHED
      detail := record.cveId ++ lit (" publishes no affected version range, so applicability " ++
        "cannot be confirmed against the inventory") }])
  else match mapRaising Triple.assess (matchedTriples record.affected assets) with
    | .error e => .error e
    | .ok [] => .ok (.CANDIDATE,[{
        reason := .PRODUCT_NOT_IN_INVENTORY
        detail := if assets ≠ [] then lit "no asset inventory entry matches the products " ++ record.cveId ++ lit " affects"
          else lit "no asset inventory was supplied, so applicability cannot be assessed" }])
    | .ok evidence => .ok (statusOf (evidence.map (·.reason)),evidence)

/-! ### What a range says about a version -/

/-- A bound that is absent, or parses and holds of the version. -/
def Satisfied (version : Version) (bound : Option Text × Comparison) : Prop :=
  ∀ raw, bound.1 = some raw → ∃ w, Parses (some raw) w ∧ bound.2.satisfies version w = true
/-- A bound that is absent or parses. -/
def Parseable (bound : Option Text × Comparison) : Prop := ∀ raw, bound.1 = some raw → ∃ w, Parses (some raw) w
/-- A bound that parses and does not hold of the version. -/
def Violated (version : Version) (bound : Option Text × Comparison) : Prop :=
  ∃ raw w, bound.1 = some raw ∧ Parses (some raw) w ∧ bound.2.satisfies version w = false
/-- A bound with a numeral that `int` refuses. -/
def TooLong (bound : Option Text × Comparison) : Prop := ∃ raw, bound.1 = some raw ∧ Overlong raw

/-- The range is unbounded, or the version satisfies every bound it has. -/
def Inside (version : Version) (affected : AffectedRange) : Prop :=
  affected.isUnbounded = true ∨ ∀ bound ∈ affected.bounds, Satisfied version bound
/-- The version violates a bound, and every bound checked before it parses. -/
def Outside (version : Version) (affected : AffectedRange) : Prop :=
  Reaches Parseable (Violated version) affected.bounds

private theorem absent_cases (version : Version) (comparison : Comparison) :
    Satisfied version (none,comparison) ∧ Parseable (none,comparison) ∧ ¬ Violated version (none,comparison) ∧
      ¬ TooLong (none,comparison) := by
  simp [Satisfied,Parseable,Violated,TooLong]

/-- How one present bound settles, by the outcome of its parsing. -/
private theorem present_cases (version : Version) (raw : Text) (comparison : Comparison) :
    (parseVersion (some raw) = .error .ValueError ∧ TooLong (some raw,comparison) ∧ ¬ Parseable (some raw,comparison)) ∨
    (parseVersion (some raw) = .ok none ∧ ¬ TooLong (some raw,comparison) ∧ ¬ Parseable (some raw,comparison)) ∨
    ∃ bound, Parses (some raw) bound ∧ ¬ TooLong (some raw,comparison) ∧ Parseable (some raw,comparison) ∧
      (Satisfied version (some raw,comparison) ↔ comparison.satisfies version bound = true) ∧
      (Violated version (some raw,comparison) ↔ comparison.satisfies version bound = false) := by
  have raises := parseVersion_error raw
  cases outcome : parseVersion (some raw) with
  | error e =>
    obtain ⟨rfl,long⟩ := (raises e).mp outcome
    exact .inl ⟨rfl,⟨raw,rfl,long⟩,by simp [Parseable,Parses,outcome]⟩
  | ok result =>
    have short : ¬ TooLong (some raw,comparison) := by
      rintro ⟨raw',same,long⟩
      cases same
      rw [(raises .ValueError).mpr ⟨rfl,long⟩] at outcome
      cases outcome
    cases result with
    | none => exact .inr (.inl ⟨rfl,short,by simp [Parseable,Parses,outcome]⟩)
    | some bound =>
      refine .inr (.inr ⟨bound,outcome,short,?_,?_,?_⟩)
      · simp [Parseable,Parses,outcome]
      · simp [Satisfied,Parses,outcome]
      · simp [Violated,Parses,outcome]

private theorem not_satisfied (version : Version) {bound : Option Text × Comparison} (unread : ¬ Parseable bound) :
    ¬ Satisfied version bound ∧ ¬ Violated version bound := by
  constructor
  · intro satisfied
    exact unread fun raw present => (satisfied raw present).imp fun _ h => h.1
  · rintro ⟨raw,w,present,parses,_⟩
    exact unread fun raw' present' => ⟨w,by rw [present] at present'; cases present'; exact parses⟩

/-- The loop over the bounds, outcome by outcome. -/
theorem checkBounds_correct (version : Version) (bounds : List (Option Text × Comparison)) :
    (checkBounds version bounds = .ok (some true) ↔ ∀ bound ∈ bounds, Satisfied version bound) ∧
    (checkBounds version bounds = .ok (some false) ↔ Reaches Parseable (Violated version) bounds) ∧
    (∀ e, checkBounds version bounds = .error e ↔ e = .ValueError ∧ Reaches (Satisfied version) TooLong bounds) := by
  induction bounds with
  | nil => simp [checkBounds]
  | cons bound rest ih =>
    obtain ⟨value,comparison⟩ := bound
    simp only [List.forall_mem_cons,reaches_cons]
    cases value with
    | none =>
      obtain ⟨satisfied,parseable,intact,short⟩ := absent_cases version comparison
      simpa [checkBounds,satisfied,parseable,intact,short] using ih
    | some raw =>
      unfold checkBounds
      rcases present_cases version raw comparison with
        ⟨outcome,long,unread⟩ | ⟨outcome,short,unread⟩ | ⟨bound,parses,short,parseable,satisfied,violated⟩
      · have neither := not_satisfied version unread
        simp [outcome,long,unread,neither.1,neither.2,eq_comm]
      · have neither := not_satisfied version unread
        simp [outcome,short,unread,neither.1,neither.2]
      · rw [show parseVersion (some raw) = .ok (some bound) from parses]
        by_cases holds : comparison.satisfies version bound = true
        · simpa [holds,short,parseable,satisfied,violated] using ih
        · simp only [Bool.not_eq_true] at holds
          simp [holds,short,satisfied,violated]

/-- An unbounded range has no bound that parses, and none that is too long. -/
theorem unbounded_bounds {affected : AffectedRange} (unbounded : affected.isUnbounded = true) (version : Version) :
    (∀ bound ∈ affected.bounds, ¬ Violated version bound) ∧ ∀ bound ∈ affected.bounds, ¬ TooLong bound := by
  have blank : ∀ bound ∈ affected.bounds, ∀ raw, bound.1 = some raw → raw = [] := by
    simp only [AffectedRange.isUnbounded,Bool.not_eq_true',Bool.or_eq_false_iff] at unbounded
    obtain ⟨⟨⟨si,se⟩,ei⟩,ee⟩ := unbounded
    have empty : ∀ value : Option Text, truthy value = false → ∀ raw, value = some raw → raw = [] := by
      rintro value falsy raw rfl
      by_contra nonempty
      simp [truthy,nonempty] at falsy
    intro bound member
    simp only [AffectedRange.bounds,List.mem_cons,List.mem_nil_iff,or_false] at member
    rcases member with rfl | rfl | rfl | rfl
    · exact empty _ si
    · exact empty _ se
    · exact empty _ ei
    · exact empty _ ee
  constructor
  · rintro bound member ⟨raw,w,present,parses,_⟩
    have := blank bound member raw present
    subst this
    simp [Parses,parseVersion] at parses
  · rintro bound member ⟨raw,present,long⟩
    have := blank bound member raw present
    subst this
    exact not_overlong_blank rfl long

/-- `in_vulnerable_range`, outcome by outcome. -/
theorem inVulnerableRange_correct (version : Version) (affected : AffectedRange) :
    (inVulnerableRange version affected = .ok (some true) ↔ Inside version affected) ∧
    (inVulnerableRange version affected = .ok (some false) ↔ Outside version affected) ∧
    (∀ e, inVulnerableRange version affected = .error e ↔
      e = .ValueError ∧ Reaches (Satisfied version) TooLong affected.bounds) := by
  unfold inVulnerableRange Inside Outside
  by_cases unbounded : affected.isUnbounded = true
  · obtain ⟨intact,short⟩ := unbounded_bounds unbounded version
    have noViolation : ¬ Reaches Parseable (Violated version) affected.bounds := by
      intro reaches
      obtain ⟨bound,member,violated⟩ := reaches.mem
      exact intact bound member violated
    have noNumeral : ¬ Reaches (Satisfied version) TooLong affected.bounds := by
      intro reaches
      obtain ⟨bound,member,long⟩ := reaches.mem
      exact short bound member long
    simp [unbounded,noViolation,noNumeral]
  · simpa [unbounded] using checkBounds_correct version affected.bounds

/-! ### What a triple shows -/

/-- The installed version parses and lies inside the range. -/
def Triple.Exposed (triple : Triple) : Prop :=
  ∃ v, Parses triple.installed.version v ∧ Inside v triple.affected
/-- The installed version parses and lies outside the range. -/
def Triple.Cleared (triple : Triple) : Prop :=
  ∃ v, Parses triple.installed.version v ∧ Outside v triple.affected
/-- The installed version is unknown or unparseable, or an unparseable bound is
    met before any violated one. -/
def Triple.Undecided (triple : Triple) : Prop :=
  (¬ ∃ v, Parses triple.installed.version v) ∨ ∃ v, Parses triple.installed.version v ∧
    Reaches (fun bound => ¬ Violated v bound) (fun bound => ¬ Parseable bound) triple.affected.bounds
/-- The installed version, or a bound met before any unparseable or violated
    one, holds a numeral that `int` refuses. -/
def Triple.Unreadable (triple : Triple) : Prop :=
  (∃ text, triple.installed.version = some text ∧ Overlong text) ∨ ∃ v, Parses triple.installed.version v ∧
    Reaches (Satisfied v) TooLong triple.affected.bounds

private theorem not_inside_outside {version : Version} {affected : AffectedRange} (inside : Inside version affected) :
    ¬ Outside version affected := by
  intro outside
  have yes := (inVulnerableRange_correct version affected).1.mpr inside
  have no := (inVulnerableRange_correct version affected).2.1.mpr outside
  rw [yes] at no
  cases no

private theorem blank_unparsed {version : Option Text} (blank : version = none ∨ version = some []) :
    (∀ v, ¬ Parses version v) ∧ ∀ text, version = some text → ¬ Overlong text := by
  have unknown : parseVersion version = .ok none := by rcases blank with rfl | rfl <;> rfl
  refine ⟨fun v parses => ?_,?_⟩
  · rw [Parses,unknown] at parses
    cases parses
  · rintro text rfl
    rcases blank with none | empty
    · cases none
    · cases empty
      exact not_overlong_blank rfl

/-- What the body of the loops raises, and what the evidence it returns says. -/
theorem assess_correct (triple : Triple) :
    (∀ e, triple.assess = .error e ↔ e = .ValueError ∧ triple.Unreadable) ∧
    ∀ evidence, triple.assess = .ok evidence →
      (evidence.reason = .VERSION_IN_VULNERABLE_RANGE ↔ triple.Exposed) ∧
      (evidence.reason = .VERSION_NOT_IN_VULNERABLE_RANGE ↔ triple.Cleared) ∧
      evidence.hostname = some triple.asset.hostname ∧ evidence.product = some triple.installed.product ∧
      (evidence.reason = .VERSION_IN_VULNERABLE_RANGE → evidence.installedVersion = triple.installed.version) := by
  obtain ⟨asset,⟨product,version⟩,affected⟩ := triple
  by_cases blank : version = none ∨ version = some []
  · obtain ⟨noVersion,short⟩ := blank_unparsed blank
    have quiet : (⟨asset,⟨product,version⟩,affected⟩ : Triple).assess = .ok {
        reason := .VERSION_UNKNOWN, hostname := asset.hostname, product := product, matchedRange := affected
        detail := asset.hostname ++ lit " runs " ++ product ++ lit " but the inventory records no version" } := by
      rcases blank with rfl | rfl <;> rfl
    rw [quiet]
    simp only [Triple.Exposed,Triple.Cleared,Triple.Unreadable,noVersion,false_and,exists_false,or_false]
    refine ⟨?_,?_⟩
    · intro e
      simpa using fun _ => short
    · rintro evidence ⟨⟩
      simp
  · obtain ⟨text,rfl⟩ : ∃ text, version = some text := by
      cases version with
      | none => simp at blank
      | some text => exact ⟨text,rfl⟩
    have nonempty : text ≠ [] := by simpa using blank
    obtain ⟨c,rest,rfl⟩ := List.exists_cons_of_ne_nil nonempty
    have raises := parseVersion_error (c :: rest)
    simp only [Triple.assess,assessOne,Triple.Exposed,Triple.Cleared,Triple.Unreadable,Parses]
    cases outcome : parseVersion (some (c :: rest)) with
    | error e' =>
      obtain ⟨rfl,long⟩ := (raises e').mp outcome
      simp [long,eq_comm]
    | ok result =>
      have short : ¬ Overlong (c :: rest) := by
        intro long
        rw [(raises .ValueError).mpr ⟨rfl,long⟩] at outcome
        cases outcome
      cases result with
      | none => simp [short]
      | some v =>
        obtain ⟨inside,outside,fails⟩ := inVulnerableRange_correct v affected
        cases verdict : inVulnerableRange v affected with
        | error e' =>
          obtain ⟨rfl,long⟩ := (fails e').mp verdict
          simp [verdict,short,long,eq_comm]
        | ok answer =>
          have quiet : ¬ Reaches (Satisfied v) TooLong affected.bounds := by
            intro long
            rw [(fails .ValueError).mpr ⟨rfl,long⟩] at verdict
            cases verdict
          rw [verdict] at inside outside
          cases answer with
          | none =>
            have neither : ¬ Inside v affected ∧ ¬ Outside v affected := by simp [← inside,← outside]
            simp +contextual [verdict,short,quiet,neither.1,neither.2,eq_comm]
          | some decided =>
            cases decided with
            | true =>
              have within : Inside v affected := inside.mp rfl
              simp +contextual [verdict,short,quiet,within,not_inside_outside within,eq_comm]
            | false =>
              have without : Outside v affected := outside.mp rfl
              have notInside : ¬ Inside v affected := fun within => not_inside_outside within without
              simp +contextual [verdict,short,quiet,without,notInside,eq_comm]

/-! ### The status of an assessment -/

/-- A triple the assessment compares: its product matches an affected one. -/
def Compared (record : CveRecord) (assets : List AssetContext) (triple : Triple) : Prop :=
  triple.asset ∈ assets ∧ triple.installed ∈ triple.asset.software ∧ triple.affected ∈ record.affected ∧
    productsMatch triple.installed.product triple.affected.product = true

theorem mem_matchedTriples (record : CveRecord) (assets : List AssetContext) (triple : Triple) :
    triple ∈ matchedTriples record.affected assets ↔ Compared record assets triple := by
  obtain ⟨asset,installed,affected⟩ := triple
  simp only [matchedTriples,Compared,List.mem_flatMap,List.mem_map,List.mem_filter,Triple.mk.injEq]
  constructor
  · rintro ⟨_,listed,_,carried,_,⟨ranged,product⟩,rfl,rfl,rfl⟩
    exact ⟨listed,carried,ranged,product⟩
  · rintro ⟨listed,carried,ranged,product⟩
    exact ⟨asset,listed,installed,carried,affected,⟨ranged,product⟩,rfl,rfl,rfl⟩

/-- What a status claims about the triples compared. -/
structure StatusCorrect (record : CveRecord) (assets : List AssetContext) (status : CveApplicability) : Prop where
  confirmed : status = .CONFIRMED ↔ ∃ triple, Compared record assets triple ∧ triple.Exposed
  notApplicable : status = .NOT_APPLICABLE ↔
    (∃ triple, Compared record assets triple) ∧ ∀ triple, Compared record assets triple → triple.Cleared
  undecided : ∀ triple, Compared record assets triple → triple.Undecided → status ≠ .NOT_APPLICABLE

theorem statusCorrect_unique {record : CveRecord} {assets : List AssetContext} {first second : CveApplicability}
    (left : StatusCorrect record assets first) (right : StatusCorrect record assets second) : first = second := by
  have confirmed := left.confirmed.trans right.confirmed.symm
  have ruledOut := left.notApplicable.trans right.notApplicable.symm
  cases first <;> cases second <;> simp_all

private theorem not_undecided {triple : Triple} (cleared : triple.Cleared) : ¬ triple.Undecided := by
  obtain ⟨v,parses,outside⟩ := cleared
  rintro (unknown | ⟨w,parses',early⟩)
  · exact unknown ⟨v,parses⟩
  · have same := parses_unique parses parses'
    subst same
    unfold Outside at outside
    revert outside early
    induction triple.affected.bounds with
    | nil => simp
    | cons bound rest ih =>
      simp only [reaches_cons]
      rintro (violated | ⟨parseable,later⟩) (unread | ⟨intact,early⟩)
      · exact (not_satisfied v unread).2 violated
      · exact intact violated
      · exact unread parseable
      · exact ih later early

omit [Interpreter] in
private theorem statusOf_correct (reasons : List ApplicabilityReason) :
    (statusOf reasons = .CONFIRMED ↔ .VERSION_IN_VULNERABLE_RANGE ∈ reasons) ∧
    (statusOf reasons = .NOT_APPLICABLE ↔ ∀ reason ∈ reasons, reason = .VERSION_NOT_IN_VULNERABLE_RANGE) := by
  unfold statusOf
  by_cases confirmed : .VERSION_IN_VULNERABLE_RANGE ∈ reasons
  · refine ⟨by simp [confirmed],?_⟩
    simp only [confirmed,if_true,reduceCtorEq,false_iff]
    intro all
    cases all _ confirmed
  · by_cases other : ∃ reason ∈ reasons, reason ≠ .VERSION_NOT_IN_VULNERABLE_RANGE
    · refine ⟨by simp [confirmed,other],?_⟩
      simp only [confirmed,other,if_true,if_false,reduceCtorEq,false_iff]
      obtain ⟨reason,member,different⟩ := other
      exact fun all => different (all reason member)
    · refine ⟨by simp [confirmed,other],?_⟩
      simp only [confirmed,other,if_false,true_iff]
      push Not at other
      exact other

/-- A returned assessment carries the correct status, and its evidence is the
    evidence of the triples compared. -/
theorem assessApplicability_ok {record : CveRecord} {assets : List AssetContext} {status : CveApplicability}
    {evidence : List ApplicabilityEvidence} (run : assessApplicability record assets = .ok (status,evidence)) :
    StatusCorrect record assets status ∧
      (status ≠ .CANDIDATE → ∀ item, item ∈ evidence ↔ ∃ triple, Compared record assets triple ∧ triple.assess = .ok item) := by
  have nothing : (∀ triple, ¬ Compared record assets triple) → StatusCorrect record assets .CANDIDATE := by
    intro none
    exact ⟨by simp [none],by simp [none],fun triple compared => absurd compared (none triple)⟩
  unfold assessApplicability at run
  by_cases unpublished : record.affected = []
  · have none : ∀ triple, ¬ Compared record assets triple := fun triple compared => by
      have := compared.2.2.1
      simp [unpublished] at this
    simp only [unpublished,if_true,Except.ok.injEq,Prod.mk.injEq] at run
    obtain ⟨rfl,_⟩ := run
    exact ⟨nothing none,fun different => absurd rfl different⟩
  · simp only [unpublished,if_false] at run
    cases loop : mapRaising Triple.assess (matchedTriples record.affected assets) with
    | error e => simp [loop] at run
    | ok items =>
      have collected := mapRaising_mem loop
      have returns := mapRaising_returns.mp ⟨items,loop⟩
      simp only [mem_matchedTriples] at collected returns
      rw [loop] at run
      cases items with
      | nil =>
        have none : ∀ triple, ¬ Compared record assets triple := fun triple compared => by
          obtain ⟨item,made⟩ := returns triple compared
          simpa using (collected item).mpr ⟨triple,compared,made⟩
        simp only [Except.ok.injEq,Prod.mk.injEq] at run
        obtain ⟨rfl,_⟩ := run
        exact ⟨nothing none,fun different => absurd rfl different⟩
      | cons first rest =>
        simp only [Except.ok.injEq,Prod.mk.injEq] at run
        obtain ⟨rfl,rfl⟩ := run
        obtain ⟨isConfirmed,isRuledOut⟩ := statusOf_correct ((first :: rest).map (·.reason))
        have confirmed : statusOf ((first :: rest).map (·.reason)) = .CONFIRMED ↔
            ∃ triple, Compared record assets triple ∧ triple.Exposed := by
          rw [isConfirmed,List.mem_map]
          constructor
          · rintro ⟨item,member,reason⟩
            obtain ⟨triple,compared,made⟩ := (collected item).mp member
            exact ⟨triple,compared,((assess_correct triple).2 item made).1.mp reason⟩
          · rintro ⟨triple,compared,exposed⟩
            obtain ⟨item,made⟩ := returns triple compared
            exact ⟨item,(collected item).mpr ⟨triple,compared,made⟩,((assess_correct triple).2 item made).1.mpr exposed⟩
        have ruledOut : statusOf ((first :: rest).map (·.reason)) = .NOT_APPLICABLE ↔
            (∃ triple, Compared record assets triple) ∧ ∀ triple, Compared record assets triple → triple.Cleared := by
          rw [isRuledOut]
          constructor
          · intro all
            obtain ⟨triple,compared,_⟩ := (collected first).mp (by simp)
            refine ⟨⟨triple,compared⟩,?_⟩
            intro other compared'
            obtain ⟨item,made⟩ := returns other compared'
            have reason := all _ (List.mem_map_of_mem ((collected item).mpr ⟨other,compared',made⟩))
            exact ((assess_correct other).2 item made).2.1.mp reason
          · rintro ⟨_,all⟩ reason member
            obtain ⟨item,listed,rfl⟩ := List.mem_map.mp member
            obtain ⟨triple,compared,made⟩ := (collected item).mp listed
            exact ((assess_correct triple).2 item made).2.1.mpr (all triple compared)
        refine ⟨⟨confirmed,ruledOut,?_⟩,fun _ => collected⟩
        intro triple compared undecided status
        exact not_undecided ((ruledOut.mp status).2 triple compared) undecided

/-- The assessment returns exactly when no compared triple is unreadable. -/
theorem assessApplicability_returns (record : CveRecord) (assets : List AssetContext) :
    (∃ status evidence, assessApplicability record assets = .ok (status,evidence)) ↔
      ∀ triple, Compared record assets triple → ¬ triple.Unreadable := by
  have quiet : ∀ triple : Triple, (∃ item, triple.assess = .ok item) ↔ ¬ triple.Unreadable := by
    intro triple
    have raises := (assess_correct triple).1
    cases outcome : triple.assess with
    | error e => simpa using ((raises e).mp outcome).2
    | ok item =>
      simp only [Except.ok.injEq,exists_eq',true_iff]
      intro unreadable
      rw [(raises .ValueError).mpr ⟨rfl,unreadable⟩] at outcome
      cases outcome
  unfold assessApplicability
  by_cases unpublished : record.affected = []
  · have none : ∀ triple, ¬ Compared record assets triple := fun triple compared => by
      have := compared.2.2.1
      simp [unpublished] at this
    simp [unpublished,none]
  · simp only [unpublished,if_false]
    have loop := @mapRaising_returns _ _ _ Triple.assess (matchedTriples record.affected assets)
    simp only [mem_matchedTriples,quiet] at loop
    rw [← loop]
    cases mapRaising Triple.assess (matchedTriples record.affected assets) with
    | error e => simp
    | ok items => cases items <;> simp

/-- The same estate with its machines, and the software of each, in another order. -/
def Rearranged (assets others : List AssetContext) : Prop :=
  ∃ middle, assets.Perm middle ∧
    List.Forall₂ (fun a b => a.hostname = b.hostname ∧ a.software.Perm b.software) middle others

/-- The assessment returns the correct status, and the same one in whatever order
    machines, software entries and ranges come. -/
def Settles (record : CveRecord) (assets : List AssetContext) : Prop :=
  ∃ status evidence, assessApplicability record assets = .ok (status,evidence) ∧
    StatusCorrect record assets status ∧
    ∀ ranges others, record.affected.Perm ranges → Rearranged assets others →
      ∃ evidence', assessApplicability { record with affected := ranges } others = .ok (status,evidence')

omit [Interpreter] in
private theorem forall₂_right {α : Type*} {R : α → α → Prop} {xs ys : List α} (paired : List.Forall₂ R xs ys) :
    ∀ y ∈ ys, ∃ x ∈ xs, R x y := by
  induction paired with
  | nil => simp
  | cons head _ ih =>
    intro y member
    rcases List.mem_cons.mp member with rfl | member
    · exact ⟨_,by simp,head⟩
    · obtain ⟨x,listed,related⟩ := ih y member
      exact ⟨x,List.mem_cons_of_mem _ listed,related⟩

/-- Rearranging loses no comparison and adds none, up to the machine's software order. -/
private theorem compared_rearranged {record : CveRecord} {assets others : List AssetContext} {ranges : List AffectedRange}
    (reordered : record.affected.Perm ranges) (rearranged : Rearranged assets others)
    {installed : AssetSoftware} {affected : AffectedRange} :
    (∃ asset, Compared { record with affected := ranges } others ⟨asset,installed,affected⟩) ↔
      ∃ asset, Compared record assets ⟨asset,installed,affected⟩ := by
  obtain ⟨middle,shuffled,paired⟩ := rearranged
  constructor
  · rintro ⟨asset,listed,carried,ranged,product⟩
    obtain ⟨original,member,_,software⟩ := forall₂_right paired asset listed
    exact ⟨original,shuffled.mem_iff.mpr member,software.mem_iff.mpr carried,reordered.mem_iff.mpr ranged,product⟩
  · rintro ⟨asset,listed,carried,ranged,product⟩
    obtain ⟨copy,member,_,software⟩ := forall₂_right paired.flip asset (shuffled.mem_iff.mp listed)
    exact ⟨copy,member,software.mem_iff.mp carried,reordered.mem_iff.mp ranged,product⟩

/-- What a triple shows does not depend on the machine's own record. -/
private theorem shows_rearranged {record : CveRecord} {assets others : List AssetContext} {ranges : List AffectedRange}
    (reordered : record.affected.Perm ranges) (rearranged : Rearranged assets others) (P : Triple → Prop)
    (blind : ∀ a b installed affected, P ⟨a,installed,affected⟩ ↔ P ⟨b,installed,affected⟩) :
    (∃ triple, Compared { record with affected := ranges } others triple ∧ P triple) ↔
      ∃ triple, Compared record assets triple ∧ P triple := by
  constructor
  · rintro ⟨⟨asset,installed,affected⟩,compared,shows⟩
    obtain ⟨original,compared'⟩ := (compared_rearranged reordered rearranged).mp ⟨asset,compared⟩
    exact ⟨_,compared',(blind asset original installed affected).mp shows⟩
  · rintro ⟨⟨asset,installed,affected⟩,compared,shows⟩
    obtain ⟨copy,compared'⟩ := (compared_rearranged reordered rearranged).mpr ⟨asset,compared⟩
    exact ⟨_,compared',(blind asset copy installed affected).mp shows⟩

/-- A correct status stays correct when the estate and the ranges are reordered. -/
theorem StatusCorrect.rearranged {record : CveRecord} {assets others : List AssetContext} {ranges : List AffectedRange}
    {status : CveApplicability} (correct : StatusCorrect record assets status)
    (reordered : record.affected.Perm ranges) (rearranged : Rearranged assets others) :
    StatusCorrect { record with affected := ranges } others status := by
  have moved := fun P => shows_rearranged (P := P) reordered rearranged
  have exposed := moved Triple.Exposed fun _ _ _ _ => Iff.rfl
  have spared := moved (fun triple => ¬ triple.Cleared) fun _ _ _ _ => Iff.rfl
  have unclear := moved Triple.Undecided fun _ _ _ _ => Iff.rfl
  have some := moved (fun _ => True) fun _ _ _ _ => Iff.rfl
  simp only [and_true] at some
  have all : (∀ triple, Compared { record with affected := ranges } others triple → triple.Cleared) ↔
      ∀ triple, Compared record assets triple → triple.Cleared := by
    have := not_congr spared
    push Not at this
    exact this
  refine ⟨by rw [exposed]; exact correct.confirmed,by rw [some,all]; exact correct.notApplicable,?_⟩
  intro triple compared undecided
  obtain ⟨original,compared',undecided'⟩ := unclear.mp ⟨triple,compared,undecided⟩
  exact correct.undecided original compared' undecided'

/-- The assessment settles every estate in which no numeral too long for `int` is
    read, and no other. -/
theorem assess_settles_iff_readable (record : CveRecord) (assets : List AssetContext) :
    Settles record assets ↔ ∀ triple, Compared record assets triple → ¬ triple.Unreadable := by
  constructor
  · rintro ⟨status,evidence,run,_⟩
    exact (assessApplicability_returns record assets).mp ⟨status,evidence,run⟩
  · intro readable
    obtain ⟨status,evidence,run⟩ := (assessApplicability_returns record assets).mpr readable
    have correct := (assessApplicability_ok run).1
    refine ⟨status,evidence,run,correct,?_⟩
    intro ranges others reordered rearranged
    have readable' : ∀ triple, Compared { record with affected := ranges } others triple → ¬ triple.Unreadable := by
      have same := shows_rearranged reordered rearranged Triple.Unreadable fun _ _ _ _ => Iff.rfl
      intro triple compared unreadable
      obtain ⟨original,compared',unreadable'⟩ := same.mp ⟨triple,compared,unreadable⟩
      exact readable original compared' unreadable'
    obtain ⟨status',evidence',run'⟩ := (assessApplicability_returns _ others).mpr readable'
    have agree := statusCorrect_unique (assessApplicability_ok run').1 (correct.rearranged reordered rearranged)
    exact ⟨evidence',agree ▸ run'⟩

end

/-! ### An inventory that aborts the assessment -/

/-- A log4j range up to 2.15. -/
def log4jRange : AffectedRange := ⟨lit "log4j",none,none,none,none,some (lit "2.15.0")⟩
/-- The record that publishes it. -/
def log4jRecord : CveRecord := ⟨lit "CVE-2021-44228",none,[],[log4jRange],[]⟩

/-- A numeral of 4301 digits. -/
def hugeNumeral : Text := List.replicate 4301 57
/-- A host with an exposed log4j, and a second entry the inventory got wrong. -/
def overlongHost : AssetContext :=
  ⟨lit "web-01",[⟨lit "log4j",some (lit "2.14.1")⟩,⟨lit "log4j",some hugeNumeral⟩]⟩

/-- The exposed host is never reported: the second entry's numeral aborts the assessment. -/
theorem overlong_host_unsettled :
    @assessApplicability ascii log4jRecord [overlongHost] = .error .ValueError ∧
      ¬ @Settles ascii log4jRecord [overlongHost] := by
  let _ := ascii
  let exposed : Triple := ⟨overlongHost,⟨lit "log4j",some (lit "2.14.1")⟩,log4jRange⟩
  let huge : Triple := ⟨overlongHost,⟨lit "log4j",some hugeNumeral⟩,log4jRange⟩
  have compared : matchedTriples log4jRecord.affected [overlongHost] = [exposed,huge] := rfl
  have long : Overlong hugeNumeral := by
    refine overlong_digits ?_ (by rw [hugeNumeral,List.length_replicate]; decide)
    intro c member
    rw [List.eq_of_mem_replicate member]
    decide
  have raises : huge.assess = .error .ValueError :=
    ((assess_correct huge).1 .ValueError).mpr ⟨rfl,.inl ⟨_,rfl,long⟩⟩
  obtain ⟨evidence,made⟩ : ∃ evidence, exposed.assess = .ok evidence := ⟨_,rfl⟩
  have aborted : assessApplicability log4jRecord [overlongHost] = .error .ValueError := by
    simp only [assessApplicability,compared,mapRaising,made,raises,Except.map]
    rfl
  refine ⟨aborted,?_⟩
  rintro ⟨status,evidence,run,_⟩
  rw [aborted] at run
  cases run

end SocAnalyst.Applicability
