import Mathlib.Data.Rat.Floor
import SocAnalyst.Enrichment
import SocAnalyst.Recommender

/-!
# Detection heuristics

The contracts of `models/threat.py` and the engine of `tools/detection.py`: rules are
data, run over the evidence one after the other. What a rule looks for is a parameter.
-/
namespace SocAnalyst.Detections
open SocAnalyst.Builtins SocAnalyst.Dicts SocAnalyst.Logs SocAnalyst.Iocs
open SocAnalyst.Recommender (sortedSet present)

/-! ### Contracts -/

/-- One detection heuristic that fired, and the evidence that made it fire. -/
structure DetectionSignal where
  ruleId : Text
  name : Text
  description : Text
  /-- Contribution to the severity score, in CVSS-like units. -/
  weight : ℚ
  eventIds : List Text := []
  techniqueIds : List Text := []
  detail : Text := []
  bounded : 0 ≤ weight ∧ weight ≤ 10

/-- Whether an intel source actually asserted that an indicator is bad. -/
def isHostile (ioc : IocIndicator) : Bool := ioc.enriched && (ioc.reputation = .MALICIOUS || ioc.reputation = .SUSPICIOUS)

/-- Everything the rules are allowed to see. -/
structure DetectionContext where
  events : List NormalizedEvent
  /-- In microseconds. -/
  window : Int
  internalNetworks : List Text

/-- One firing of a rule: the events responsible, and why. -/
structure RuleMatch where
  eventIds : List Text
  detail : Text

/-- A named heuristic with its weight and the techniques it supports. -/
structure DetectionRule where
  ruleId : Text
  name : Text
  description : Text
  weight : ℚ
  techniqueIds : List Text
  evaluate : DetectionContext → Except PyError (List RuleMatch)

/-! ### The engine -/

/-- The signal of one match, which the contract checks. -/
def DetectionRule.signal (rule : DetectionRule) (found : RuleMatch) : Except PyError DetectionSignal :=
  if bounded : 0 ≤ rule.weight ∧ rule.weight ≤ 10 then
    .ok { ruleId := rule.ruleId, name := rule.name, description := rule.description, weight := rule.weight
          eventIds := found.eventIds, techniqueIds := rule.techniqueIds, detail := found.detail, bounded := bounded }
  else .error .ValueError

/-- The signals of one rule. -/
def DetectionRule.signals (rule : DetectionRule) (context : DetectionContext) : Except PyError (List DetectionSignal) := do
  let found ← rule.evaluate context
  mapRaising rule.signal found

/-- Run every rule, returning one signal per match, strongest first. -/
def evaluateRules (context : DetectionContext) (rules : List DetectionRule) : Except PyError (List DetectionSignal) := do
  let signals ← mapRaising (·.signals context) rules
  return sortedBy (fun signal : DetectionSignal =>
    (toLex (-signal.weight,toLex (signal.ruleId,signal.detail)) : ℚ ×ₗ Text ×ₗ Text)) signals.flatten

/-- The values in the order they were first seen. -/
def unique (values : List Text) : List Text := values.foldl appendUnique []

theorem mem_unique {values : List Text} {value : Text} : value ∈ unique values ↔ value ∈ values := by
  have from_seen : ∀ seen : List Text, value ∈ values.foldl appendUnique seen ↔ value ∈ seen ∨ value ∈ values := by
    induction values with
    | nil => simp
    | cons first rest ih =>
      intro seen
      rw [List.foldl_cons,ih,appendUnique,List.mem_cons]
      split_ifs with there
      · exact ⟨fun known => known.imp_right .inr,fun known => known.elim .inl fun later =>
          later.elim (fun same => .inl (same ▸ there)) .inr⟩
      · rw [List.mem_append,List.mem_singleton,or_assoc]
  exact (from_seen []).trans (by simp)

theorem unique_nodup (values : List Text) : (unique values).Nodup := by
  have from_seen : ∀ seen : List Text, seen.Nodup → (values.foldl appendUnique seen).Nodup := by
    induction values with
    | nil => exact fun _ once => once
    | cons first rest ih =>
      intro seen once
      rw [List.foldl_cons]
      refine ih _ ?_
      rw [appendUnique]
      split_ifs with there
      · exact once
      · exact List.nodup_append.mpr ⟨once,List.nodup_singleton _,fun a member b single equal =>
          there (List.mem_singleton.mp single ▸ equal ▸ member)⟩
  exact from_seen [] List.nodup_nil

/-- The indicators that are counted: the malicious ones, or all the hostile ones. -/
def graded (iocs : List IocIndicator) : List IocIndicator :=
  let malicious := (iocs.filter isHostile).filter (·.reputation = .MALICIOUS)
  if malicious = [] then iocs.filter isHostile else malicious

theorem hostile_bounded (malicious : Bool) :
    (0 : ℚ) ≤ (if malicious then 17/2 else 6) ∧ (if malicious then 17/2 else 6 : ℚ) ≤ 10 := by
  cases malicious <;> norm_num

/-- Turn confirmed hostile indicators into a signal. -/
def signalFromHostileIndicators (iocs : List IocIndicator) : Option DetectionSignal :=
  if (iocs.filter isHostile).isEmpty then none
  else
    let counted := graded iocs
    let sources := sortedSet (present (counted.map (·.reputationSource)))
    some {
      ruleId := lit "hostile_indicator_confirmed"
      name := lit "Indicator flagged by threat intelligence"
      description := lit ("One or more observed indicators were reported as malicious or suspicious " ++
        "by an external threat-intelligence source.")
      weight := if (iocs.filter isHostile).any (·.reputation = .MALICIOUS) then 17/2 else 6
      eventIds := unique (counted.flatMap (·.eventIds))
      detail := lit (toString counted.length) ++ lit " indicator(s) flagged by " ++
        (if sources = [] then lit "threat intelligence" else joined (lit ", ") sources) ++ lit ": " ++
        joined (lit ", ") ((counted.take 5).map (·.defanged))
      bounded := hostile_bounded _ }

/-- The confirmed signal is sorted in among the others. -/
def withHostile (signals : List DetectionSignal) (hostile : Option DetectionSignal) : List DetectionSignal :=
  match hostile with
  | none => signals
  | some hostile => sortedBy (fun signal : DetectionSignal => (toLex (-signal.weight,signal.ruleId) : ℚ ×ₗ Text)) (signals ++ [hostile])

end SocAnalyst.Detections
