import Mathlib.Data.List.MinMax
import Mathlib.Data.List.Perm.Subperm
import Mathlib.Tactic.Ring
import SocAnalyst.Detections
import SocAnalyst.GraphNodes
import SocAnalyst.Notifications

/-!
# Severity

Severity, verdict, triage priority and escalation, as in `tools/severity.py`. Scores are
exact rationals. More evidence never lowers what triage reads off them, and noise leaves
them alone.
-/
namespace SocAnalyst.Severities
open SocAnalyst.Builtins SocAnalyst.Doubles SocAnalyst.Times SocAnalyst.Iocs SocAnalyst.Detections
open SocAnalyst.Risk (Severity TriagePriority severityLevel roundTo showTenths roundTo_mono roundTo_natCast)
open SocAnalyst.Graph (Verdict severityValue)
open SocAnalyst.Notifications (priorityRank)
open SocAnalyst.Recommender (sortedSet)

/-! ### Scoring -/

/-- Scored severity with the factors that produced it. -/
structure SeverityAssessment where
  score : ℚ
  level : Severity
  rationale : Text
  factors : List Text
  bounded : 0 ≤ score ∧ score ≤ 10

/-- What each further rule adds beyond the first, and the cap on it. -/
def corroborationStep : ℚ := 1/2
def corroborationCap : ℚ := 2
/-- Weight below which a rule is context rather than corroboration. -/
def corroborationMinWeight : ℚ := 4
def criticalAssetBonus : ℚ := 1
def maliciousRuleCount : Nat := 2
def maliciousScore : ℚ := 7
/-- Below this, an assessment is ambiguous. -/
def ambiguityConfidence : ℚ := nearest (3/5)

/-- The distinct rules substantive enough to count as independent agreement. -/
def corroboratingRules (signals : List DetectionSignal) : List Text :=
  ((signals.filter fun signal => corroborationMinWeight ≤ signal.weight).map (·.ruleId)).dedup

/-- What agreement between so many rules adds. -/
def corroboration (count : Nat) : ℚ := max 0 (min corroborationCap (corroborationStep * (count - 1)))

def assetBonus (involved : Bool) : ℚ := if involved then criticalAssetBonus else 0

/-- The score of the strongest weight, the agreeing rules and the assets. -/
def severityScore (strongest : ℚ) (count : Nat) (involved : Bool) : ℚ :=
  roundTo 1 (min 10 (strongest + corroboration count + assetBonus involved))

theorem corroboration_mono {count more : Nat} (le : count ≤ more) : corroboration count ≤ corroboration more := by
  have cast : (count : ℚ) ≤ more := by exact_mod_cast le
  apply max_le_max le_rfl
  apply min_le_min le_rfl
  simp only [corroborationStep]
  linarith

theorem corroboration_bounds (count : Nat) : 0 ≤ corroboration count ∧ corroboration count ≤ 2 :=
  ⟨le_max_left _ _,max_le (by norm_num) (min_le_left _ _)⟩

theorem assetBonus_bounds (involved : Bool) : 0 ≤ assetBonus involved ∧ assetBonus involved ≤ 1 := by
  cases involved <;> norm_num [assetBonus,criticalAssetBonus]

theorem severityScore_mono {strongest stronger : ℚ} (weight : strongest ≤ stronger) {count more : Nat} (rules : count ≤ more)
    {involved also : Bool} (assets : involved = true → also = true) :
    severityScore strongest count involved ≤ severityScore stronger more also := by
  have agreement := corroboration_mono rules
  have bonus : assetBonus involved ≤ assetBonus also := by
    cases involved with
    | false => exact (assetBonus_bounds also).1
    | true => rw [assets rfl]
  apply roundTo_mono
  apply min_le_min le_rfl
  linarith

theorem severityScore_bounded {strongest : ℚ} (nonneg : 0 ≤ strongest) (count : Nat) (involved : Bool) :
    0 ≤ severityScore strongest count involved ∧ severityScore strongest count involved ≤ 10 := by
  have agreement := (corroboration_bounds count).1
  have bonus := (assetBonus_bounds involved).1
  constructor
  · have bottom : roundTo 1 ((0 : Nat) : ℚ) ≤ severityScore strongest count involved := by
      apply roundTo_mono
      apply le_min <;> push_cast <;> linarith
    rw [roundTo_natCast] at bottom
    exact_mod_cast bottom
  · have top : severityScore strongest count involved ≤ roundTo 1 ((10 : Nat) : ℚ) := by
      apply roundTo_mono
      push_cast
      exact min_le_left _ _
    rw [roundTo_natCast] at top
    exact_mod_cast top

/-- The bonuses add three at most, and rounding half of a tenth. -/
theorem severityScore_le (strongest : ℚ) (count : Nat) (involved : Bool) :
    severityScore strongest count involved ≤ strongest + 3 + 1/20 := by
  have agreement := (corroboration_bounds count).2
  have bonus := (assetBonus_bounds involved).2
  have rounding : roundTo 1 (strongest + 3) ≤ strongest + 3 + 1/20 := by
    have half := roundHalfEven_le_add_half ((strongest + 3) * 10^1)
    rw [roundTo,div_le_iff₀ (by norm_num)]
    linarith
  refine le_trans ?_ rounding
  apply roundTo_mono
  apply (min_le_right _ _).trans
  linarith

theorem zero_bounded : (0 : ℚ) ≤ 0 ∧ (0 : ℚ) ≤ 10 := ⟨le_rfl,by norm_num⟩

section
variable [Interpreter]

/-- The rules that fired without counting. -/
def contextOnly (signals : List DetectionSignal) : List Text :=
  sortedSet ((signals.map (·.ruleId)).filter fun rule => rule ∉ corroboratingRules signals)

def severityFactors (strongest : DetectionSignal) (signals : List DetectionSignal) (critical : List Text) : List Text :=
  let rules := corroboratingRules signals
  [lit "strongest signal " ++ Interpreter.repr strongest.ruleId ++ lit " contributes " ++ showTenths (roundTo 1 strongest.weight)] ++
    (if corroboration rules.length = 0 then [] else [lit (toString rules.length) ++
      lit " substantive rules corroborate, adding " ++ showTenths (corroboration rules.length)]) ++
    (if contextOnly signals = [] then [] else [lit (toString (contextOnly signals).length) ++
      lit " context-only rule(s) recorded without affecting the score: " ++ joined (lit ", ") (contextOnly signals)]) ++
    (if critical = [] then [] else [lit "critical asset(s) " ++ joined (lit ", ") (Dicts.sortedBy id critical) ++
      lit " involved, adding " ++ showTenths criticalAssetBonus])

/-- Score severity from the fired signals and the assets they touched. -/
def scoreSeverity (signals : List DetectionSignal) (critical : List Text) : SeverityAssessment :=
  match signals.argmax (·.weight) with
  | none => {
      score := 0, level := .INFO, rationale := lit "No detection heuristic matched the available evidence."
      factors := [lit "no signals fired"], bounded := zero_bounded }
  | some strongest =>
    let count := (corroboratingRules signals).length
    let score := severityScore strongest.weight count (critical ≠ [])
    { score := score, level := severityLevel score
      rationale := (severityLevel score).title ++ lit " (" ++ showTenths score ++ lit "/10): " ++ lower strongest.name ++
        lit " with " ++ lit (toString count) ++ lit " substantive detection(s) across " ++
        lit (toString (signals.flatMap (·.eventIds)).dedup.length) ++ lit " event(s)."
      factors := severityFactors strongest signals critical
      bounded := severityScore_bounded strongest.bounded.1 count _ }

/-! ### The verdict, the queue and the gate -/

/-- Decide benign, suspicious or malicious from evidence. -/
def deriveVerdict (severity : SeverityAssessment) (signals : List DetectionSignal) (iocs : List IocIndicator) : Verdict :=
  if signals.isEmpty then .BENIGN
  else if iocs.any isHostile then .MALICIOUS
  else if maliciousScore ≤ severity.score ∧ maliciousRuleCount ≤ (corroboratingRules signals).length then .MALICIOUS
  else .SUSPICIOUS

/-- Order the queue: what an analyst should look at first. -/
def derivePriority (verdict : Verdict) (severity : SeverityAssessment) (involved : Bool) : TriagePriority :=
  if verdict = .BENIGN then .LOW
  else if severity.level = .CRITICAL ∨ (involved ∧ verdict = .MALICIOUS) then .URGENT
  else if severity.level = .HIGH ∨ involved then .HIGH
  else if severity.level = .MEDIUM then .MEDIUM
  else .LOW

/-- A share as a number with two decimals. -/
def showHundredths (q : ℚ) : Text :=
  let hundredths := (roundHalfEven (q * 100)).toNat
  lit (toString (hundredths / 100) ++ ".") ++ padded 2 (hundredths % 100)

def highImpact (severity : SeverityAssessment) (involved : Bool) : Bool :=
  severity.level = .HIGH || severity.level = .CRITICAL || involved

/-- Decide whether the case must be escalated rather than routinely approved. -/
def assessEscalation (verdict : Verdict) (severity : SeverityAssessment) (confidence : ℚ) (involved : Bool)
    (coverageGaps : List Text) : Bool × Option Text :=
  if highImpact severity involved = false ∨ verdict = .BENIGN then (false,none)
  else if confidence < ambiguityConfidence then
    (true,some (severityValue severity.level ++ lit " severity assessed with low confidence (" ++ showHundredths confidence ++
      lit "); the evidence is not conclusive enough to route routinely."))
  else if coverageGaps ≠ [] then
    (true,some (severityValue severity.level ++ lit " severity assessed with " ++ lit (toString coverageGaps.length) ++
      lit " coverage gap(s); part of the evidence picture is missing."))
  else if verdict = .SUSPICIOUS then
    (true,some (severityValue severity.level ++ lit (" severity but the verdict is suspicious rather than " ++
      "conclusive; a human should decide before anything follows from it.")))
  else (false,none)

/-! ### Evidence that covers other evidence -/

def severityRank : Severity → Nat
  | .INFO => 0
  | .LOW => 1
  | .MEDIUM => 2
  | .HIGH => 3
  | .CRITICAL => 4

def verdictRank : Verdict → Nat
  | .BENIGN => 0
  | .SUSPICIOUS => 1
  | .MALICIOUS => 2

/-- What triage reads off an assessment. -/
structure Triage where
  score : ℚ
  level : Severity
  verdict : Verdict
  priority : TriagePriority
  deriving DecidableEq

/-- The severity, the verdict and the priority, one derived from the other. -/
def triage (signals : List DetectionSignal) (iocs : List IocIndicator) (critical : List Text) : Triage :=
  let severity := scoreSeverity signals critical
  let verdict := deriveVerdict severity signals iocs
  ⟨severity.score,severity.level,verdict,derivePriority verdict severity (critical ≠ [])⟩

/-- No higher on any of the four scales. -/
structure Triage.AtMost (low high : Triage) : Prop where
  score : low.score ≤ high.score
  level : severityRank low.level ≤ severityRank high.level
  verdict : verdictRank low.verdict ≤ verdictRank high.verdict
  priority : priorityRank low.priority ≤ priorityRank high.priority

/-- Every signal is matched by one as strong, and every substantive rule by itself. -/
structure Covered (signals more : List DetectionSignal) : Prop where
  strength : ∀ signal ∈ signals, ∃ other ∈ more, signal.weight ≤ other.weight
  rules : corroboratingRules signals ⊆ corroboratingRules more

omit [Interpreter] in
theorem mem_corroboratingRules (signals : List DetectionSignal) (rule : Text) :
    rule ∈ corroboratingRules signals ↔ ∃ signal ∈ signals, corroborationMinWeight ≤ signal.weight ∧ signal.ruleId = rule := by
  simp [corroboratingRules,and_assoc]

omit [Interpreter] in
theorem Covered.of_subset {signals more : List DetectionSignal} (sub : signals ⊆ more) : Covered signals more where
  strength signal member := ⟨signal,sub member,le_rfl⟩
  rules := by
    intro rule counted
    rw [mem_corroboratingRules] at counted ⊢
    obtain ⟨signal,member,substantive,named⟩ := counted
    exact ⟨signal,sub member,substantive,named⟩

omit [Interpreter] in
theorem Covered.count_le {signals more : List DetectionSignal} (covered : Covered signals more) :
    (corroboratingRules signals).length ≤ (corroboratingRules more).length :=
  ((List.nodup_dedup _).subperm covered.rules).length_le

omit [Interpreter] in
theorem Covered.ne_nil {signals more : List DetectionSignal} (covered : Covered signals more) (fired : signals ≠ []) : more ≠ [] := by
  obtain ⟨signal,member⟩ := List.exists_mem_of_ne_nil signals fired
  obtain ⟨other,found,_⟩ := covered.strength signal member
  exact List.ne_nil_of_mem found

/-- The score is that of the strongest signal. -/
theorem scoreSeverity_score {signals : List DetectionSignal} {strongest : DetectionSignal}
    (top : strongest ∈ signals.argmax (·.weight)) (critical : List Text) :
    (scoreSeverity signals critical).score =
      severityScore strongest.weight (corroboratingRules signals).length (critical ≠ []) := by
  rw [Option.mem_def] at top
  simp only [scoreSeverity,top]

theorem scoreSeverity_level (signals : List DetectionSignal) (critical : List Text) :
    (scoreSeverity signals critical).level = severityLevel (scoreSeverity signals critical).score := by
  simp only [scoreSeverity]
  cases signals.argmax (·.weight) with
  | none => rw [severityLevel]; norm_num
  | some strongest => rfl

theorem scoreSeverity_mono {signals more : List DetectionSignal} (covered : Covered signals more) {critical also : List Text}
    (assets : critical ≠ [] → also ≠ []) : (scoreSeverity signals critical).score ≤ (scoreSeverity more also).score := by
  cases top : signals.argmax (·.weight) with
  | none =>
    have zero : (scoreSeverity signals critical).score = 0 := by simp only [scoreSeverity,top]
    rw [zero]
    exact (scoreSeverity more also).bounded.1
  | some strongest =>
    obtain ⟨other,found,stronger⟩ := covered.strength strongest (List.argmax_mem top)
    cases top' : more.argmax (·.weight) with
    | none => rw [List.argmax_eq_none.mp top'] at found; cases found
    | some strongest' =>
      rw [scoreSeverity_score top,scoreSeverity_score top']
      apply severityScore_mono (stronger.trans (List.le_of_mem_argmax found top')) covered.count_le
      simpa using assets

omit [Interpreter] in
theorem severityLevel_mono {low high : ℚ} (le : low ≤ high) : severityRank (severityLevel low) ≤ severityRank (severityLevel high) := by
  unfold severityLevel
  split_ifs <;> first | decide | (exfalso; linarith)

omit [Interpreter] in
theorem deriveVerdict_mono {signals more : List DetectionSignal} (covered : Covered signals more) {low high : SeverityAssessment}
    (score : low.score ≤ high.score) {iocs others : List IocIndicator} (hostile : iocs.any isHostile = true → others.any isHostile = true) :
    verdictRank (deriveVerdict low signals iocs) ≤ verdictRank (deriveVerdict high more others) := by
  by_cases fired : signals = []
  · simp [deriveVerdict,fired,verdictRank]
  · have fired' := covered.ne_nil fired
    have count := covered.count_le
    simp only [deriveVerdict,List.isEmpty_iff,fired,fired',if_false]
    by_cases known : iocs.any isHostile = true
    · rw [if_pos known,if_pos (hostile known)]
    · rw [if_neg known]
      by_cases agreed : maliciousScore ≤ low.score ∧ maliciousRuleCount ≤ (corroboratingRules signals).length
      · have agreed' : maliciousScore ≤ high.score ∧ maliciousRuleCount ≤ (corroboratingRules more).length :=
          ⟨agreed.1.trans score,agreed.2.trans count⟩
        rw [if_pos agreed,if_pos agreed',ite_self]
      · rw [if_neg agreed]
        split_ifs <;> decide

omit [Interpreter] in
/-- The priority, read off the ranks. -/
theorem derivePriority_rank (verdict : Verdict) (severity : SeverityAssessment) (involved : Bool) :
    priorityRank (derivePriority verdict severity involved) =
      if verdictRank verdict = 0 then 0
      else if severityRank severity.level = 4 ∨ (involved.toNat = 1 ∧ verdictRank verdict = 2) then 3
      else if severityRank severity.level = 3 ∨ involved.toNat = 1 then 2
      else if severityRank severity.level = 2 then 1 else 0 := by
  simp only [derivePriority]
  cases verdict <;> cases severity.level <;> cases involved <;> rfl

omit [Interpreter] in
theorem derivePriority_mono {verdict worse : Verdict} (verdicts : verdictRank verdict ≤ verdictRank worse)
    {low high : SeverityAssessment} (levels : severityRank low.level ≤ severityRank high.level) {involved also : Bool}
    (assets : involved = true → also = true) :
    priorityRank (derivePriority verdict low involved) ≤ priorityRank (derivePriority worse high also) := by
  have verdictTop : verdictRank worse ≤ 2 := by cases worse <;> decide
  have levelTop : severityRank high.level ≤ 4 := by cases high.level <;> decide
  have flags : involved.toNat ≤ also.toNat ∧ also.toNat ≤ 1 := ⟨Bool.toNat_le_toNat assets,Bool.toNat_le also⟩
  rw [derivePriority_rank,derivePriority_rank]
  split_ifs <;> omega

/-- More evidence, hostile intelligence or critical assets never lower what triage reads. -/
theorem triage_mono {signals more : List DetectionSignal} (covered : Covered signals more) {iocs others : List IocIndicator}
    (hostile : iocs.any isHostile = true → others.any isHostile = true) {critical also : List Text}
    (assets : critical ≠ [] → also ≠ []) : (triage signals iocs critical).AtMost (triage more others also) := by
  have score := scoreSeverity_mono covered assets
  have level : severityRank (scoreSeverity signals critical).level ≤ severityRank (scoreSeverity more also).level := by
    rw [scoreSeverity_level,scoreSeverity_level]
    exact severityLevel_mono score
  have verdict := deriveVerdict_mono covered score hostile
  exact ⟨score,level,verdict,derivePriority_mono verdict level (by simpa using assets)⟩

omit [Interpreter] in
theorem Triage.AtMost.antisymm {low high : Triage} (up : low.AtMost high) (down : high.AtMost low) : low = high := by
  obtain ⟨score,level,verdict,priority⟩ := up
  obtain ⟨score',level',verdict',priority'⟩ := down
  obtain ⟨_,lowLevel,lowVerdict,lowPriority⟩ := low
  obtain ⟨_,highLevel,highVerdict,highPriority⟩ := high
  have sameLevel : lowLevel = highLevel := by
    cases lowLevel <;> cases highLevel <;> simp_all [severityRank]
  have sameVerdict : lowVerdict = highVerdict := by
    cases lowVerdict <;> cases highVerdict <;> simp_all [verdictRank]
  have samePriority : lowPriority = highPriority := by
    cases lowPriority <;> cases highPriority <;> simp_all [priorityRank]
  rw [Triage.mk.injEq]
  exact ⟨le_antisymm score score',sameLevel,sameVerdict,samePriority⟩

/-! ### Noise -/

/-- Another firing of a present rule at its weight, or context no stronger than what is there. -/
def Noise (signals : List DetectionSignal) (signal : DetectionSignal) : Prop :=
  (∃ present ∈ signals, present.ruleId = signal.ruleId ∧ present.weight = signal.weight) ∨
    (signal.weight < corroborationMinWeight ∧ ∃ present ∈ signals, signal.weight ≤ present.weight)

omit [Interpreter] in
/-- Noise is covered by what it is added to. -/
theorem Noise.covered {signals : List DetectionSignal} {signal : DetectionSignal} (noise : Noise signals signal) :
    Covered (signal :: signals) signals := by
  constructor
  · intro other member
    rcases List.mem_cons.mp member with rfl | member
    · rcases noise with ⟨present,found,_,same⟩ | ⟨_,present,found,weaker⟩
      · exact ⟨present,found,same.ge⟩
      · exact ⟨present,found,weaker⟩
    · exact ⟨other,member,le_rfl⟩
  · intro rule counted
    rw [mem_corroboratingRules] at counted ⊢
    obtain ⟨other,member,substantive,named⟩ := counted
    rcases List.mem_cons.mp member with rfl | member
    · rcases noise with ⟨present,found,same,weight⟩ | ⟨context,_⟩
      · exact ⟨present,found,weight ▸ substantive,same.trans named⟩
      · exact absurd substantive (not_le.mpr context)
    · exact ⟨other,member,substantive,named⟩

omit [Interpreter] in
theorem Covered.trans {signals more most : List DetectionSignal} (first : Covered signals more) (second : Covered more most) :
    Covered signals most where
  strength signal member := by
    obtain ⟨other,found,weaker⟩ := first.strength signal member
    obtain ⟨top,found',weaker'⟩ := second.strength other found
    exact ⟨top,found',weaker.trans weaker'⟩
  rules _ counted := second.rules (first.rules counted)

/-- The score stays on its scale and near the strongest signal; more evidence never
    lowers what triage reads, wherever it is added, and noise does not change it. -/
theorem triage_steady (signals : List DetectionSignal) (iocs : List IocIndicator) (critical : List Text) :
    (0 ≤ (triage signals iocs critical).score ∧ (triage signals iocs critical).score ≤ 10) ∧
    (∀ strongest ∈ signals, (∀ signal ∈ signals, signal.weight ≤ strongest.weight) →
      (triage signals iocs critical).score ≤ strongest.weight + 3 + 1/20) ∧
    (∀ more others also, signals ⊆ more → iocs ⊆ others → critical ⊆ also →
      (triage signals iocs critical).AtMost (triage more others also)) ∧
    ∀ signal more, List.Perm more (signal :: signals) → Noise signals signal →
      triage more iocs critical = triage signals iocs critical := by
  refine ⟨(scoreSeverity signals critical).bounded,?_,?_,?_⟩
  · intro strongest member top
    show (scoreSeverity signals critical).score ≤ _
    cases found : signals.argmax (·.weight) with
    | none => rw [List.argmax_eq_none.mp found] at member; cases member
    | some first =>
      have weaker := top first (List.argmax_mem found)
      have bound := severityScore_le first.weight (corroboratingRules signals).length (critical ≠ [])
      rw [scoreSeverity_score found]
      linarith
  · intro more others also moreSignals moreIocs moreAssets
    apply triage_mono (Covered.of_subset moreSignals)
    · intro hostile
      obtain ⟨ioc,member,flagged⟩ := List.any_eq_true.mp hostile
      exact List.any_eq_true.mpr ⟨ioc,moreIocs member,flagged⟩
    · intro involved
      obtain ⟨asset,member⟩ := List.exists_mem_of_ne_nil critical involved
      exact List.ne_nil_of_mem (moreAssets member)
  · intro signal more shuffled noise
    have down : Covered more signals := (Covered.of_subset shuffled.subset).trans noise.covered
    have up : Covered signals more := Covered.of_subset fun other member => shuffled.mem_iff.mpr (.tail _ member)
    exact (triage_mono down id id).antisymm (triage_mono up id id)

end

end SocAnalyst.Severities
