import SocAnalyst.AlertTemplates
import SocAnalyst.Assessments
import SocAnalyst.Detections

/-!
# ATT&CK techniques

`tools/attack.py`: the pinned vocabulary, and the techniques that fired signals map to.
-/
namespace SocAnalyst.Techniques
open SocAnalyst.Builtins SocAnalyst.Doubles SocAnalyst.Dicts SocAnalyst.Assessments SocAnalyst.Detections
open SocAnalyst.AlertTemplates (upper)
open SocAnalyst.Risk (roundFloat)

/-- One catalogued technique. -/
structure TechniqueDefinition where
  techniqueId : Text
  name : Text
  tactics : List Text

/-- An observed behavior mapped to a technique. -/
structure TechniqueMapping where
  techniqueId : Text
  name : Text
  tactics : List Text
  rationale : Text
  eventIds : List Text
  confidence : ℚ
  citations : List Citation

/-- The canonical page, including the form of a sub-technique. -/
def TechniqueDefinition.url (technique : TechniqueDefinition) : Text :=
  let base := technique.techniqueId.takeWhile (· ≠ 46)
  let sub := (technique.techniqueId.dropWhile (· ≠ 46)).drop 1
  lit "https://attack.mitre.org/techniques/" ++ base ++ lit "/" ++ (if sub = [] then [] else sub ++ lit "/")

/-- A resolvable reference supporting the mapping. -/
def TechniqueDefinition.citation (technique : TechniqueDefinition) : Citation where
  sourceId := lit "mitre_attack"
  source := lit "MITRE ATT&CK"
  url := some technique.url
  title := some (technique.techniqueId ++ lit " — " ++ technique.name)
  trustTier := some .AUTHORITATIVE

/-- The pinned vocabulary. -/
def catalogue : List TechniqueDefinition :=
  [⟨lit "T1021",lit "Remote Services",[lit "Lateral Movement"]⟩,
    ⟨lit "T1027",lit "Obfuscated Files or Information",[lit "Defense Evasion"]⟩,
    ⟨lit "T1041",lit "Exfiltration Over C2 Channel",[lit "Exfiltration"]⟩,
    ⟨lit "T1053",lit "Scheduled Task/Job",[lit "Execution",lit "Persistence",lit "Privilege Escalation"]⟩,
    ⟨lit "T1059",lit "Command and Scripting Interpreter",[lit "Execution"]⟩,
    ⟨lit "T1059.001",lit "Command and Scripting Interpreter: PowerShell",[lit "Execution"]⟩,
    ⟨lit "T1068",lit "Exploitation for Privilege Escalation",[lit "Privilege Escalation"]⟩,
    ⟨lit "T1070",lit "Indicator Removal",[lit "Defense Evasion"]⟩,
    ⟨lit "T1070.001",lit "Indicator Removal: Clear Windows Event Logs",[lit "Defense Evasion"]⟩,
    ⟨lit "T1071",lit "Application Layer Protocol",[lit "Command and Control"]⟩,
    ⟨lit "T1078",lit "Valid Accounts",
      [lit "Defense Evasion",lit "Persistence",lit "Privilege Escalation",lit "Initial Access"]⟩,
    ⟨lit "T1098",lit "Account Manipulation",[lit "Persistence",lit "Privilege Escalation"]⟩,
    ⟨lit "T1105",lit "Ingress Tool Transfer",[lit "Command and Control"]⟩,
    ⟨lit "T1110",lit "Brute Force",[lit "Credential Access"]⟩,
    ⟨lit "T1136",lit "Create Account",[lit "Persistence"]⟩,
    ⟨lit "T1218",lit "System Binary Proxy Execution",[lit "Defense Evasion"]⟩,
    ⟨lit "T1543",lit "Create or Modify System Process",[lit "Persistence",lit "Privilege Escalation"]⟩,
    ⟨lit "T1548",lit "Abuse Elevation Control Mechanism",[lit "Privilege Escalation",lit "Defense Evasion"]⟩,
    ⟨lit "T1562",lit "Impair Defenses",[lit "Defense Evasion"]⟩,
    ⟨lit "T1569",lit "System Services",[lit "Execution"]⟩]

/-- Look a technique up, returning `none` for anything not catalogued. -/
def knownTechnique (techniqueId : Text) : Option TechniqueDefinition :=
  catalogue.find? fun technique => technique.techniqueId = upper techniqueId

/-- The signals of each catalogued technique, a signal once for each time it names it. -/
def grouped (signals : List DetectionSignal) : Dict Text (List DetectionSignal) :=
  (signals.flatMap fun signal => (signal.techniqueIds.filterMap knownTechnique).map fun technique => (technique.techniqueId,signal)).foldl
    (fun groups entry => groups.set entry.1 ((groups.get? entry.1).getD [] ++ [entry.2])) .empty

/-- Corroboration plus signal strength, capped below certainty. -/
def confidence (contributing : List DetectionSignal) : ℚ :=
  let strongest := (contributing.map (·.weight)).foldr max 0
  let corroboration := times (nearest (12/100)) (contributing.length - 1)
  roundFloat 4 (min (nearest (95/100)) (plus (plus (nearest (40/100)) (dividedBy strongest 20)) corroboration))

/-- The mapping of one technique. -/
def mapping (technique : TechniqueDefinition) (contributing : List DetectionSignal) : TechniqueMapping where
  techniqueId := technique.techniqueId
  name := technique.name
  tactics := technique.tactics
  rationale := joined (lit "; ") (contributing.map (·.name))
  eventIds := unique (contributing.flatMap (·.eventIds))
  confidence := confidence contributing
  citations := [technique.citation]

/-- Map fired detection signals onto techniques. -/
def mapTechniques (signals : List DetectionSignal) : List TechniqueMapping :=
  (sortedBy Prod.fst (grouped signals).entries).filterMap fun group =>
    (catalogue.find? fun technique => technique.techniqueId = group.1).map fun technique => mapping technique group.2

end SocAnalyst.Techniques
