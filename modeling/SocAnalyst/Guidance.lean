import SocAnalyst.AlertTemplates
import SocAnalyst.Recommender

/-!
# The guidance catalogue

The templates of `tools/remediation.py`, and which of them addresses a technique or a
weakness class.
-/
namespace SocAnalyst.Guidance
open SocAnalyst.Builtins SocAnalyst.Remediation
open SocAnalyst.AlertTemplates (upper)
open SocAnalyst.Recommender (Catalogue)

def credentialAttackControls : RemediationTemplate where
  templateId := lit "credential_attack_controls"
  action := lit "Harden authentication on the affected accounts and hosts"
  type := .CONFIGURATION
  rationale := lit ("Repeated authentication attempts against a single principal indicate " ++
    "credential guessing; rate limiting and a second factor remove the " ++
    "attacker's ability to keep trying.")
  expectedImpact := lit ("Guessing attacks fail before they succeed. Users without an enrolled " ++
    "second factor will be interrupted at next sign-in.")
  steps := [lit "Reset the credentials of every account named in the timeline.",
    lit "Require multi-factor authentication for those accounts.",
    lit "Enable account lockout or progressive delay on repeated failures.",
    lit "Review whether the source addresses should reach this service at all."]
  verification := lit ("Confirm authentication failures for the named principals stop, and that " ++
    "a test sign-in is challenged for a second factor.")
  grounding := .CLASS_SPECIFIC
  mitigationIds := [lit "M1032",lit "M1027",lit "M1018"]

def accountPrivilegeReview : RemediationTemplate where
  templateId := lit "account_privilege_review"
  action := lit "Review the account and privilege changes observed"
  type := .MITIGATION
  rationale := lit ("Accounts created or elevated during an incident are a common persistence " ++
    "route, and one that survives the original entry point being closed.")
  expectedImpact := lit ("Attacker-created access is removed. Legitimate changes made in the same " ++
    "window will need re-approving.")
  steps := [lit ("List accounts created or modified in the incident window and confirm " ++
      "each with its owner."),
    lit "Remove group memberships that were not requested through change control.",
    lit "Rotate credentials for any privileged account involved."]
  verification := lit "Confirm the privileged group membership matches the approved baseline."
  grounding := .CLASS_SPECIFIC
  mitigationIds := [lit "M1026",lit "M1018"]

def scriptExecutionControls : RemediationTemplate where
  templateId := lit "script_execution_controls"
  action := lit "Constrain script and interpreter execution on the affected hosts"
  type := .CONFIGURATION
  rationale := lit ("Obfuscated or hidden interpreter invocations are deliberate concealment; " ++
    "execution policy and script logging remove both the capability and the " ++
    "attacker's ability to work unobserved.")
  expectedImpact := lit ("Unsigned and encoded scripts stop running. Administrative automation that " ++
    "relies on unsigned scripts will need signing or an explicit exemption.")
  steps := [lit "Enable script block and module logging so future invocations are recorded in full.",
    lit "Apply an execution policy or allow-list that blocks unsigned scripts.",
    lit "Review scheduled tasks and services for the same command line."]
  verification := lit "Confirm a test encoded invocation is blocked and appears in the script log."
  grounding := .CLASS_SPECIFIC
  mitigationIds := [lit "M1038",lit "M1042",lit "M1047"]

def persistenceReview : RemediationTemplate where
  templateId := lit "persistence_review"
  action := lit "Review services, scheduled tasks, and startup entries on the affected hosts"
  type := .MITIGATION
  rationale := lit ("Services and scheduled jobs created during an incident survive reboots and " ++
    "credential resets, so closing the entry point alone does not end the access.")
  expectedImpact := lit ("Attacker persistence is removed. Legitimate jobs created in the same window " ++
    "will need confirming with their owners.")
  steps := [lit "Compare installed services and scheduled tasks against a known-good baseline.",
    lit "Remove entries that cannot be attributed to an approved change.",
    lit "Re-check after reboot, since some persistence re-creates itself."]
  verification := lit "Confirm the service and task inventory matches the baseline after a reboot."
  grounding := .CLASS_SPECIFIC
  mitigationIds := [lit "M1047",lit "M1022"]

def logIntegrity : RemediationTemplate where
  templateId := lit "log_integrity"
  action := lit "Restore and protect the audit trail"
  type := .CONFIGURATION
  rationale := lit ("Cleared logs destroy the record this and every future investigation depends " ++
    "on. Forwarding logs off-host puts them beyond the reach of whoever holds the host.")
  expectedImpact := lit ("Future activity remains reconstructable even if a host is fully compromised. " ++
    "Log storage and forwarding volume will increase.")
  steps := [lit "Forward security logs to a remote collector the host cannot modify.",
    lit "Restrict log-clearing rights to a small, audited set of accounts.",
    lit "Alert on log-clearing events themselves."]
  verification := lit "Confirm a test log-clearing event is alerted on and the remote copy survives."
  grounding := .CLASS_SPECIFIC
  mitigationIds := [lit "M1029",lit "M1047",lit "M1022"]

def restoreSecurityTooling : RemediationTemplate where
  templateId := lit "restore_security_tooling"
  action := lit "Restore the disabled security tooling and alert on future changes"
  type := .CONFIGURATION
  rationale := lit ("Endpoint protection and auditing were turned off. Until they are restored the " ++
    "host is both undefended and unobserved.")
  expectedImpact := lit "Detection coverage returns on the affected host."
  steps := [lit "Re-enable endpoint protection, auditing, and the host firewall.",
    lit "Confirm the tooling reports healthy to its management console.",
    lit "Alert on future attempts to disable it."]
  verification := lit "Confirm the management console shows the agent healthy and reporting."
  grounding := .CLASS_SPECIFIC
  mitigationIds := [lit "M1049",lit "M1047"]

def egressControls : RemediationTemplate where
  templateId := lit "egress_controls"
  action := lit "Review and restrict outbound access from the affected hosts"
  type := .CONFIGURATION
  rationale := lit ("Repeated contact with an external destination is the shape of command and " ++
    "control as well as of ordinary polling; egress filtering makes the difference " ++
    "visible and cuts the channel if it is the former.")
  expectedImpact := lit ("Unapproved outbound destinations become unreachable. Legitimate integrations " ++
    "must be allow-listed first, so this needs a change window.")
  steps := [lit "Confirm with the service owner whether the destination is expected.",
    lit ("If it is not, block it at the egress point and hunt for the same " ++
      "destination elsewhere."),
    lit "Move toward a default-deny egress policy for this network segment."]
  verification := lit "Confirm the destination is unreachable from the segment and no service broke."
  grounding := .CLASS_SPECIFIC
  mitigationIds := [lit "M1037",lit "M1030"]

def remoteAccessReview : RemediationTemplate where
  templateId := lit "remote_access_review"
  action := lit "Review remote administration access to the affected hosts"
  type := .CONFIGURATION
  rationale := lit ("Remote execution and remote desktop are how lateral movement happens once a " ++
    "single host is held; limiting who may reach them limits how far an intrusion travels.")
  expectedImpact := lit ("Remote administration is reachable only from approved sources. Ad-hoc " ++
    "administrative access from arbitrary hosts will stop working.")
  steps := [lit "Restrict remote administration ports to a jump host or management network.",
    lit "Require multi-factor authentication for remote administrative sessions.",
    lit "Review which accounts hold remote logon rights."]
  verification := lit "Confirm remote administration is refused from a non-management address."
  grounding := .CLASS_SPECIFIC
  mitigationIds := [lit "M1030",lit "M1032",lit "M1026"]

def untrustedInputHandling : RemediationTemplate where
  templateId := lit "untrusted_input_handling"
  action := lit "Fix the unsafe handling of untrusted input in the affected component"
  type := .PATCH
  rationale := lit ("The weakness class behind this vulnerability is untrusted input reaching an " ++
    "interpreter, a parser, or a deserializer. Until that path is closed, the same " ++
    "class of bug recurs with each new payload.")
  expectedImpact := lit ("The vulnerable input path is closed. Application changes require testing " ++
    "before release.")
  steps := [lit "Apply the vendor fix if one exists; otherwise disable the affected feature.",
    lit "Validate and constrain the input at the boundary rather than deep in the call stack.",
    lit "Add a regression test reproducing the original payload."]
  verification := lit "Confirm the original payload no longer reaches the vulnerable code path."
  grounding := .CLASS_SPECIFIC
  mitigationIds := [lit "M1051",lit "M1013"]

def accessControlFix : RemediationTemplate where
  templateId := lit "access_control_fix"
  action := lit "Correct the access control on the affected component"
  type := .CONFIGURATION
  rationale := lit ("The weakness class behind this vulnerability is a missing or incorrect " ++
    "authorization check, so the exposure is not limited to the path that was found.")
  expectedImpact := lit ("Unauthorized access is refused. Callers relying on the gap will start failing, " ++
    "which is the intended outcome but needs communicating.")
  steps := [lit "Apply the vendor fix if one exists.",
    lit "Audit the surrounding endpoints or objects for the same missing check.",
    lit "Restrict permissions on the affected resource to the roles that need it."]
  verification := lit "Confirm an unauthorized caller is refused on the affected path."
  grounding := .CLASS_SPECIFIC
  mitigationIds := [lit "M1022",lit "M1026",lit "M1051"]

def genericHardening : RemediationTemplate where
  templateId := lit "generic_hardening"
  action := lit "Apply conservative hardening to the affected assets"
  type := .MITIGATION
  rationale := lit ("No product-specific remediation was available for this finding, so this is " ++
    "general hardening rather than a fix. It reduces exposure while the specific " ++
    "remediation is identified.")
  expectedImpact := lit ("Reduced exposure without addressing the underlying cause. The specific fix is " ++
    "still required.")
  steps := [lit "Confirm the affected software is on a supported, fully patched release.",
    lit "Restrict network reachability of the affected service to what it needs.",
    lit "Increase logging on the affected hosts until the specific remediation is applied.",
    lit "Track this item until product-specific guidance is available."]
  verification := lit "Confirm patch level and reachability match the intended baseline."
  grounding := .GENERIC

def templates : List RemediationTemplate :=
  [credentialAttackControls,accountPrivilegeReview,scriptExecutionControls,persistenceReview,
    logIntegrity,restoreSecurityTooling,egressControls,remoteAccessReview,
    untrustedInputHandling,accessControlFix,genericHardening]

/-- Observed technique to the guidance that addresses it. -/
def techniqueTemplates : List (Text × Text) :=
  [(lit "T1021",lit "remote_access_review"),(lit "T1027",lit "script_execution_controls"),
    (lit "T1041",lit "egress_controls"),(lit "T1053",lit "persistence_review"),
    (lit "T1059",lit "script_execution_controls"),(lit "T1059.001",lit "script_execution_controls"),
    (lit "T1068",lit "account_privilege_review"),(lit "T1070",lit "log_integrity"),
    (lit "T1070.001",lit "log_integrity"),(lit "T1071",lit "egress_controls"),
    (lit "T1078",lit "credential_attack_controls"),(lit "T1098",lit "account_privilege_review"),
    (lit "T1105",lit "egress_controls"),(lit "T1110",lit "credential_attack_controls"),
    (lit "T1136",lit "account_privilege_review"),(lit "T1218",lit "script_execution_controls"),
    (lit "T1543",lit "persistence_review"),(lit "T1548",lit "account_privilege_review"),
    (lit "T1562",lit "restore_security_tooling"),(lit "T1569",lit "persistence_review")]

/-- Weakness class to the guidance that addresses it. -/
def weaknessTemplates : List (Text × Text) :=
  [(lit "CWE-20",lit "untrusted_input_handling"),(lit "CWE-22",lit "untrusted_input_handling"),
    (lit "CWE-77",lit "untrusted_input_handling"),(lit "CWE-78",lit "untrusted_input_handling"),
    (lit "CWE-79",lit "untrusted_input_handling"),(lit "CWE-89",lit "untrusted_input_handling"),
    (lit "CWE-94",lit "untrusted_input_handling"),(lit "CWE-502",lit "untrusted_input_handling"),
    (lit "CWE-611",lit "untrusted_input_handling"),(lit "CWE-918",lit "untrusted_input_handling"),
    (lit "CWE-1321",lit "untrusted_input_handling"),(lit "CWE-269",lit "access_control_fix"),
    (lit "CWE-287",lit "access_control_fix"),(lit "CWE-306",lit "access_control_fix"),
    (lit "CWE-732",lit "access_control_fix"),(lit "CWE-798",lit "access_control_fix"),
    (lit "CWE-862",lit "access_control_fix"),(lit "CWE-863",lit "access_control_fix")]

/-- The template of a key. -/
def templateFor (table : List (Text × Text)) (key : Text) : Option RemediationTemplate :=
  ((table.find? fun entry => entry.1 = upper key).map Prod.snd).bind fun templateId =>
    templates.find? fun template => template.templateId = templateId

/-- Guidance addressing an observed technique, if any is catalogued. -/
def forTechnique (techniqueId : Text) : Option RemediationTemplate := templateFor techniqueTemplates techniqueId

/-- Guidance addressing a CVE's weakness class, if any is catalogued. -/
def forWeakness (cweId : Text) : Option RemediationTemplate := templateFor weaknessTemplates cweId

/-- The pinned catalogue. -/
def pinned : Catalogue := ⟨forTechnique,forWeakness⟩

/-- The conservative fallback, always labelled as generic. -/
def genericGuidance : RemediationTemplate := genericHardening

/-- A text begins with a code point. -/
def Opens (text : Text) (c : Nat) : Prop := text.head? = some c

theorem Opens.same {text : Text} {c d : Nat} (first : Opens text c) (second : Opens text d) : c = d :=
  Option.some.inj (first.symm.trans second)

theorem opens_literal (c : Char) (rest : List Char) : Opens (lit (String.ofList (c :: rest))) c.toNat := by
  simp [Opens,lit]

theorem opens_append {s : String} {c : Nat} (first : Opens (lit s) c) (t : String) : Opens (lit (s ++ t)) c := by
  unfold Opens lit at *
  rw [String.toList_append,List.map_append,List.head?_append,first]
  rfl

theorem all_of_opens {text : Text} {c : Nat} {p : Nat → Bool} (first : Opens text c) (holds : p c = true) : text.head?.all p = true := by
  rw [show text.head? = some c from first]
  exact holds

theorem any_of_opens {text : Text} {c : Nat} {p : Nat → Bool} (first : Opens text c) (holds : p c = true) : text.head?.any p = true := by
  rw [show text.head? = some c from first]
  exact holds

/-- No action reads like one for a CVE, and no rationale is blank. -/
theorem templates_plain :
    ∀ template ∈ templates, (template.action.head?.all fun c => c ≠ 80 ∧ c ≠ 69) = true ∧
      (template.rationale.head?.any fun c => !isSpace c) = true := by
  intro template listed
  simp only [templates,List.mem_cons,List.not_mem_nil,or_false] at listed
  rcases listed with rfl | rfl | rfl | rfl | rfl | rfl | rfl | rfl | rfl | rfl | rfl
  all_goals
    dsimp only [credentialAttackControls,accountPrivilegeReview,scriptExecutionControls,persistenceReview,logIntegrity,
      restoreSecurityTooling,egressControls,remoteAccessReview,untrustedInputHandling,accessControlFix,genericHardening]
    constructor
    · exact all_of_opens (opens_literal _ _) (by decide)
    · apply any_of_opens
      · repeat with_reducible apply opens_append
        exact opens_literal _ _
      · decide

theorem template_justified {template : RemediationTemplate} (listed : template ∈ templates) :
    ∃ c ∈ template.rationale, isSpace c = false := by
  have first := (templates_plain template listed).2
  cases spelled : template.rationale with
  | nil => rw [spelled] at first; cases first
  | cons c tail =>
    rw [spelled] at first
    exact ⟨c,List.mem_cons_self,by simpa using first⟩

theorem forTechnique_mem {techniqueId : Text} {template : RemediationTemplate} (known : forTechnique techniqueId = some template) :
    template ∈ templates := by
  obtain ⟨templateId,_,found⟩ := Option.bind_eq_some_iff.mp known
  exact List.mem_of_find?_eq_some found

theorem genericGuidance_mem : genericGuidance ∈ templates := by simp [genericGuidance,templates]

end SocAnalyst.Guidance
