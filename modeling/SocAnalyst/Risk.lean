import Mathlib.Algebra.Order.Floor.Semiring
import Mathlib.Data.List.MinMax
import Mathlib.Data.Rat.Floor
import SocAnalyst.Builtins
import SocAnalyst.Doubles

/-!
# Risk

`score_risk` and `derive_priority` of `services/risk.py`, computed on doubles.
-/
namespace SocAnalyst.Risk
open SocAnalyst.Builtins SocAnalyst.Doubles

/-- Severity scale, shared by assessments and investigations. -/
inductive Severity where
  | INFO
  | LOW
  | MEDIUM
  | HIGH
  | CRITICAL
  deriving DecidableEq, Repr

/-- The level's value with a capital letter. -/
def Severity.title : Severity → Text
  | .INFO => lit "Info"
  | .LOW => lit "Low"
  | .MEDIUM => lit "Medium"
  | .HIGH => lit "High"
  | .CRITICAL => lit "Critical"

inductive TriagePriority where
  | LOW
  | MEDIUM
  | HIGH
  | URGENT
  deriving DecidableEq, Repr

/-- `round(q, digits)`. -/
def roundTo (digits : Nat) (q : ℚ) : ℚ := roundHalfEven (q * 10^digits) / 10^digits

theorem roundTo_mono (digits : Nat) {q r : ℚ} (le : q ≤ r) : roundTo digits q ≤ roundTo digits r := by
  have scale : (0 : ℚ) < 10^digits := by positivity
  apply div_le_div_of_nonneg_right _ scale.le
  exact_mod_cast roundHalfEven_mono (mul_le_mul_of_nonneg_right le scale.le)

/-- A whole number is rounded to itself. -/
theorem roundTo_natCast (digits n : Nat) : roundTo digits n = n := by
  have scale : (10 : ℚ)^digits ≠ 0 := by positivity
  have whole : (n : ℚ) * 10^digits = ((n * 10^digits : ℤ) : ℚ) := by push_cast; ring
  rw [roundTo,whole,roundHalfEven_intCast]
  push_cast
  field_simp

/-- `round(x, digits)` of a float. -/
def roundFloat (digits : Nat) (x : ℚ) : ℚ := nearest (roundTo digits x)

theorem roundFloat_mono (digits : Nat) {x y : ℚ} (le : x ≤ y) : roundFloat digits x ≤ roundFloat digits y :=
  nearest_mono (roundTo_mono digits le)

theorem roundFloat_natCast {n : Nat} (bits : n ≤ 2^53) (digits : Nat) : roundFloat digits n = n := by
  rw [roundFloat,roundTo_natCast]
  have whole : IsDouble ((n : ℤ) : ℚ) := isDouble_intCast (by rw [abs_of_nonneg (by positivity)]; exact_mod_cast bits)
  exact_mod_cast nearest_of_isDouble whole

/-- A number between nothing and a whole bound stays there. -/
theorem roundFloat_clamped {n : Nat} (bits : n ≤ 2^53) (digits : Nat) (x : ℚ) :
    0 ≤ roundFloat digits (min n (max 0 x)) ∧ roundFloat digits (min n (max 0 x)) ≤ n := by
  have zero := roundFloat_natCast (n := 0) (by norm_num) digits
  have top := roundFloat_natCast bits digits
  rw [Nat.cast_zero] at zero
  constructor
  · exact zero.ge.trans (roundFloat_mono digits (le_min (by positivity) (le_max_left _ _)))
  · exact (roundFloat_mono digits (min_le_left _ _)).trans top.le

/-- A multiple of one tenth, or the float nearest to it, printed. -/
def showTenths (q : ℚ) : Text :=
  let tenths := roundHalfEven (q * 10)
  lit (toString (tenths / 10) ++ "." ++ toString (tenths % 10))

def severityLevel (score : ℚ) : Severity :=
  if 9 ≤ score then .CRITICAL
  else if 7 ≤ score then .HIGH
  else if 4 ≤ score then .MEDIUM
  else if 1/10 ≤ score then .LOW
  else .INFO

/-- Additive weights, in the units of the score they adjust. -/
def exploitationWeight : ℚ := 3/2
def internetReachableWeight : ℚ := 1
def criticalAssetWeight : ℚ := 1
/-- Multiplier applied when applicability was never confirmed. -/
def unconfirmedDiscount : ℚ := nearest (3/5)

/-- Everything the prioritizer is allowed to consider. -/
structure RiskInputs where
  severityScore : ℚ
  applicabilityConfirmed : Bool := true
  exploitationObserved : Bool := false
  internetReachable : Bool := false
  assetCritical : Bool := false
  subject : Text := lit "this finding"

/-- One contribution to a risk score. -/
structure RiskFactor where
  name : Text
  weight : ℚ
  detail : Text
  deriving DecidableEq

structure RiskScore where
  score : ℚ
  level : Severity
  rationale : Text
  factors : List RiskFactor
  deriving DecidableEq

/-- The bonus for a critical asset. -/
def criticalAssetFactor : RiskFactor := ⟨lit "critical_asset",criticalAssetWeight,lit "a business-critical asset is affected"⟩

/-- The severity and the bonuses that apply. -/
def raisingFactors (inputs : RiskInputs) : List RiskFactor :=
  [⟨lit "severity",roundFloat 2 inputs.severityScore,lit "base severity of " ++ inputs.subject⟩] ++
    (if inputs.exploitationObserved then [⟨lit "exploitation_observed",exploitationWeight,
      lit "the investigation tied observed activity to this finding"⟩] else []) ++
    (if inputs.internetReachable then [⟨lit "internet_reachable",internetReachableWeight,
      lit "exploitable over the network without credentials or user interaction"⟩] else []) ++
    (if inputs.assetCritical then [criticalAssetFactor] else [])

/-- The severity with every bonus that applies. -/
def raisedScore (inputs : RiskInputs) : ℚ :=
  let observed := if inputs.exploitationObserved then plus inputs.severityScore exploitationWeight else inputs.severityScore
  let reachable := if inputs.internetReachable then plus observed internetReachableWeight else observed
  if inputs.assetCritical then plus reachable criticalAssetWeight else reachable

/-- A factor's name as it reads in a sentence. -/
def RiskFactor.spoken (factor : RiskFactor) : Text := factor.name.map fun c => if c = 95 then 32 else c

/-- Score how much a finding matters in this environment. -/
def scoreRisk (inputs : RiskInputs) : RiskScore :=
  let raised := raisedScore inputs
  let score := if inputs.applicabilityConfirmed then raised else times raised unconfirmedDiscount
  let factors := raisingFactors inputs ++ (if inputs.applicabilityConfirmed then [] else
    [⟨lit "unconfirmed_applicability",-roundFloat 2 (minus raised score),lit "applicability was not confirmed against the asset inventory"⟩])
  let final := roundFloat 1 (min 10 (max 0 score))
  let level := severityLevel final
  { score := final, level := level, factors := factors
    rationale := level.title ++ lit " risk (" ++ showTenths final ++ lit "/10) for " ++ inputs.subject ++ lit ": " ++
      joined (lit ", ") (factors.map RiskFactor.spoken) ++ lit "." }

/-- Order the remediation queue. -/
def derivePriority (risk : RiskScore) (exploitationObserved : Bool) : TriagePriority :=
  if exploitationObserved then .URGENT
  else if 9 ≤ risk.score then .URGENT
  else if 7 ≤ risk.score then .HIGH
  else if 4 ≤ risk.score then .MEDIUM
  else .LOW

/-- Roll individual risks up into one figure: the first of the worst. -/
def combineRisk (scores : List RiskScore) (subject : Text) : RiskScore :=
  match scores.argmax (·.score) with
  | none => { score := 0, level := severityLevel 0, rationale := lit "No remediable finding was identified for " ++ subject ++ lit ".", factors := [] }
  | some worst =>
    { score := worst.score, level := worst.level
      rationale := worst.level.title ++ lit " overall risk (" ++ showTenths worst.score ++ lit "/10) for " ++ subject ++
        lit ", set by its most serious of " ++ lit (toString scores.length) ++ lit " finding(s): " ++ worst.rationale
      factors := worst.factors }

/-- A scored risk is on the scale. -/
theorem scoreRisk_bounded (inputs : RiskInputs) : 0 ≤ (scoreRisk inputs).score ∧ (scoreRisk inputs).score ≤ 10 := by
  have clamped : (10 : ℚ) = ((10 : Nat) : ℚ) := by norm_num
  simp only [scoreRisk,clamped]
  exact roundFloat_clamped (by norm_num) 1 _

/-- The bonus is among the factors exactly when an asset is critical. -/
theorem criticalAssetFactor_mem (inputs : RiskInputs) :
    criticalAssetFactor ∈ (scoreRisk inputs).factors ↔ inputs.assetCritical = true := by
  have names : ∀ factor ∈ (scoreRisk inputs).factors, factor.name = lit "critical_asset" → inputs.assetCritical = true := by
    intro factor member same
    simp only [scoreRisk,raisingFactors,List.mem_append,List.mem_singleton] at member
    rcases member with (((rfl | member) | member) | member) | member
    · exact absurd (show lit "severity" = lit "critical_asset" from same) (by decide)
    · split_ifs at member
      · rw [List.mem_singleton] at member; subst member; exact absurd same (by decide)
      · cases member
    · split_ifs at member
      · rw [List.mem_singleton] at member; subst member; exact absurd same (by decide)
      · cases member
    · split_ifs at member with critical
      · exact critical
      · cases member
    · split_ifs at member
      · cases member
      · rw [List.mem_singleton] at member
        subst member
        exact absurd (show lit "unconfirmed_applicability" = lit "critical_asset" from same) (by decide)
  constructor
  · exact fun member => names _ member rfl
  · intro critical
    simp [scoreRisk,raisingFactors,critical]

end SocAnalyst.Risk
