import SocAnalyst.Applicability
import SocAnalyst.Times

/-!
# Assessments

The contracts of `models/vulnerability.py` and `models/values.py` that carry an
applicability decision downstream, and what the evidence of a decision taken by
`assess_applicability` says about the hosts it names.
-/
namespace SocAnalyst.Assessments
open SocAnalyst.Builtins SocAnalyst.Times SocAnalyst.Versions SocAnalyst.Applicability

inductive SourceTrustTier where
  | AUTHORITATIVE
  | VENDOR
  | COMMUNITY
  | INTERNAL
  deriving DecidableEq, Repr

/-- A source reference bound to a grounded claim. -/
structure Citation where
  sourceId : Text
  source : Text
  url : Option Text := none
  chunkId : Option Text := none
  title : Option Text := none
  trustTier : Option SourceTrustTier := none
  publishedAt : Option DateTime := none
  deriving DecidableEq

/-- How a CVE connects to what was actually observed. -/
structure ExploitMapping where
  techniqueIds : List Text := []
  signalRuleIds : List Text := []
  eventIds : List Text := []
  rationale : Text := []
  deriving DecidableEq

/-- Whether nothing observed ties to the CVE. -/
def ExploitMapping.isEmpty (mapping : ExploitMapping) : Bool :=
  !(mapping.techniqueIds ≠ [] || mapping.signalRuleIds ≠ [])

/-- Evidence that a version lies in the vulnerable range. -/
def InRange (item : ApplicabilityEvidence) : Prop := item.reason = .VERSION_IN_VULNERABLE_RANGE

instance (item : ApplicabilityEvidence) : Decidable (InRange item) := inferInstanceAs (Decidable (_ = _))

/-- One CVE, assessed against an estate. A confirmation carries evidence that names
    the asset, the product and the installed version that matched. -/
structure CveAssessment where
  record : CveRecord
  applicability : CveApplicability
  evidence : List ApplicabilityEvidence
  exploitMapping : ExploitMapping := {}
  citations : List Citation := []
  supported : applicability = .CONFIRMED → ∃ item ∈ evidence, InRange item ∧ truthy item.hostname = true ∧
    truthy item.product = true ∧ truthy item.installedVersion = true

def CveAssessment.cveId (assessment : CveAssessment) : Text := assessment.record.cveId

/-- The item names this host: a hostname that is not empty. -/
def NamesHost (item : ApplicabilityEvidence) (host : Text) : Prop := item.hostname = some host ∧ host ≠ []

instance (item : ApplicabilityEvidence) (host : Text) : Decidable (NamesHost item host) :=
  inferInstanceAs (Decidable (_ ∧ _))

section
variable [Interpreter]

/-- The decision and the evidence are those of `assess_applicability` on this estate. -/
def AssessedOn (assets : List AssetContext) (assessment : CveAssessment) : Prop :=
  assessApplicability assessment.record assets = .ok (assessment.applicability,assessment.evidence)

end

/-! ### A mixed estate -/

/-- Two hosts, one with a log4j inside the published range and one beyond it. -/
def mixedEstate : List AssetContext :=
  [⟨lit "web-01",[⟨lit "log4j",some (lit "2.14.1")⟩]⟩,⟨lit "web-02",[⟨lit "log4j",some (lit "2.17.0")⟩]⟩]

/-- The evidence gathered on them. -/
def mixedEvidence : List ApplicabilityEvidence :=
  [{ reason := .VERSION_IN_VULNERABLE_RANGE, hostname := lit "web-01", product := lit "log4j"
     installedVersion := lit "2.14.1", matchedRange := log4jRange
     detail := lit "web-01 runs log4j 2.14.1, which falls inside the published vulnerable range" },
   { reason := .VERSION_NOT_IN_VULNERABLE_RANGE, hostname := lit "web-02", product := lit "log4j"
     installedVersion := lit "2.17.0", matchedRange := log4jRange
     detail := lit "web-02 runs log4j 2.17.0, which is outside the published vulnerable range" }]

/-- The confirmed assessment of the two hosts. -/
def mixedAssessment : CveAssessment where
  record := log4jRecord
  applicability := .CONFIRMED
  evidence := mixedEvidence
  supported _ := ⟨mixedEvidence.head (by simp [mixedEvidence]),by simp [mixedEvidence],rfl,rfl,rfl,rfl⟩

/-- The assessment of the exposed host alone. -/
def exposedAssessment : CveAssessment where
  record := log4jRecord
  applicability := .CONFIRMED
  evidence := mixedEvidence.take 1
  supported _ := ⟨_,List.mem_singleton_self _,rfl,rfl,rfl,rfl⟩

theorem mixed_assessed : @AssessedOn ascii mixedEstate mixedAssessment := by
  unfold AssessedOn
  rfl

end SocAnalyst.Assessments
