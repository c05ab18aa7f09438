import SocAnalyst.Assessments

/-!
# Advisories and upgrade guidance

`Advisory.fix_for` of `integrations/advisories.py` and `patch_guidance` of
`tools/remediation.py`. `Picked` says which entry of an advisory the choice falls on.
-/
namespace SocAnalyst.Remediation
open SocAnalyst.Builtins SocAnalyst.Times SocAnalyst.Versions SocAnalyst.Assessments

/-! ### Advisories -/

/-- One package's remediation: what is vulnerable, and where it is fixed. -/
structure AdvisoryFix where
  package : Text
  ecosystem : Option Text := none
  vulnerableRange : Option Text := none
  fixedVersion : Option Text := none
  deriving DecidableEq

/-- A published security advisory for one CVE. -/
structure Advisory where
  advisoryId : Text
  cveId : Option Text := none
  summary : Text := []
  severity : Option Text := none
  url : Option Text := none
  publishedAt : Option DateTime := none
  fixes : List AdvisoryFix := []
  source : Text := lit "github"
  deriving DecidableEq

/-- A resolvable reference for the advisory. -/
def Advisory.citation (advisory : Advisory) : Citation where
  sourceId := lit "vendor_advisories"
  source := lit "GitHub Security Advisories"
  url := advisory.url
  title := some advisory.advisoryId
  trustTier := some .VENDOR
  publishedAt := advisory.publishedAt

/-- A lookup that did not happen, and why. -/
structure AdvisoryLookupFailure where
  cveId : Text
  reason : Text
  detail : Text := []
  deriving DecidableEq

structure AdvisoryLookupResult where
  advisories : List Advisory := []
  failure : Option AdvisoryLookupFailure := none
  deriving DecidableEq

def AdvisoryLookupResult.ok (result : AdvisoryLookupResult) : Bool := result.failure.isNone

/-- Read-only access to published advisories. -/
structure AdvisorySource where
  isAvailable : Bool
  fetch : Text → AdvisoryLookupResult

/-- `max(items, key=score)` of a first item and the others: the first of the best. -/
def firstMax {α : Type} (score : α → Nat) (first : α) (others : List α) : α :=
  others.foldl (fun best item => if score best < score item then item else best) first

section
variable [Interpreter]

/-- The entries that name a patched release. -/
def Advisory.candidates (advisory : Advisory) : List AdvisoryFix := advisory.fixes.filter fun fix => truthy fix.fixedVersion

/-- The fix whose package best matches a product name. -/
def Advisory.fixFor (advisory : Advisory) (product : Option Text) : Option AdvisoryFix :=
  match advisory.candidates with
  | [] => none
  | first :: others =>
    match product with
    | none | some [] => some first
    | some product =>
      let best := firstMax (fun fix => productMatchScore product fix.package) first others
      if productMatchScore product best.package > 0 then some best else some first

/-- How well an entry matches a product that may be missing. -/
def matchScore (product : Option Text) (fix : AdvisoryFix) : Nat :=
  match product with
  | none | some [] => 0
  | some product => productMatchScore product fix.package

/-- The first of the entries that name a patched release and match the product best. -/
def Picked (advisory : Advisory) (product : Option Text) (fix : AdvisoryFix) : Prop :=
  ∃ earlier later, advisory.candidates = earlier ++ fix :: later ∧
    (∀ other ∈ earlier, matchScore product other < matchScore product fix) ∧
    ∀ other ∈ later, matchScore product other ≤ matchScore product fix

omit [Interpreter] in
theorem firstMax_first {α : Type} (score : α → Nat) (first : α) (others : List α) :
    ∃ earlier later, first :: others = earlier ++ firstMax score first others :: later ∧
      (∀ other ∈ earlier, score other < score (firstMax score first others)) ∧
      ∀ other ∈ later, score other ≤ score (firstMax score first others) := by
  unfold firstMax
  induction others using List.reverseRecOn with
  | nil => exact ⟨[],[],rfl,by simp,by simp⟩
  | append_singleton others item ih =>
    obtain ⟨earlier,later,split,below,above⟩ := ih
    rw [List.foldl_append]
    set best := others.foldl (fun best item => if score best < score item then item else best) first
    simp only [List.foldl_cons,List.foldl_nil]
    split_ifs with better
    · refine ⟨first :: others,[],rfl,?_,by simp⟩
      intro other member
      rw [split,List.mem_append,List.mem_cons] at member
      rcases member with member | rfl | member
      · exact (below other member).trans better
      · exact better
      · exact (above other member).trans_lt better
    · refine ⟨earlier,later ++ [item],by rw [← List.cons_append,split]; simp,below,?_⟩
      intro other member
      rcases List.mem_append.mp member with member | member
      · exact above other member
      · rw [List.mem_singleton] at member
        exact member ▸ Nat.le_of_not_lt better

private theorem picked_unique {advisory : Advisory} {product : Option Text} {fix other : AdvisoryFix}
    (one : Picked advisory product fix) (two : Picked advisory product other) : fix = other := by
  obtain ⟨earlier,later,split,below,above⟩ := one
  obtain ⟨earlier',later',split',below',above'⟩ := two
  have same := split.symm.trans split'
  rcases List.append_eq_append_iff.mp same with ⟨middle,front,back⟩ | ⟨middle,front,back⟩
  · cases middle with
    | nil => exact (List.cons.inj back).1
    | cons head tail =>
      simp only [List.cons_append,List.cons.injEq] at back
      have first := below' fix (by rw [front,← back.1]; simp)
      have second := above other (by rw [back.2]; simp)
      omega
  · cases middle with
    | nil => exact (List.cons.inj back).1.symm
    | cons head tail =>
      simp only [List.cons_append,List.cons.injEq] at back
      have first := below other (by rw [front,← back.1]; simp)
      have second := above' fix (by rw [back.2]; simp)
      omega

/-- The choice falls on the first best entry. -/
theorem fixFor_picked (advisory : Advisory) (product : Option Text) (fix : AdvisoryFix) :
    advisory.fixFor product = some fix ↔ Picked advisory product fix := by
  have picked : ∀ first others, advisory.candidates = first :: others →
      ∃ chosen, advisory.fixFor product = some chosen ∧ Picked advisory product chosen := by
    intro first others listed
    have leading : (∀ other ∈ others, matchScore product other ≤ matchScore product first) → Picked advisory product first :=
      fun top => ⟨[],others,listed,by simp,top⟩
    rcases product with _ | _ | ⟨c,rest⟩
    · exact ⟨first,by simp [Advisory.fixFor,listed],leading fun _ _ => le_refl _⟩
    · exact ⟨first,by simp [Advisory.fixFor,listed],leading fun _ _ => le_refl _⟩
    · obtain ⟨earlier,later,split,below,above⟩ :=
        firstMax_first (fun fix : AdvisoryFix => productMatchScore (c :: rest) fix.package) first others
      set best := firstMax (fun fix : AdvisoryFix => productMatchScore (c :: rest) fix.package) first others with bestDef
      by_cases scored : productMatchScore (c :: rest) best.package > 0
      · exact ⟨best,by simp [Advisory.fixFor,listed,← bestDef,scored],earlier,later,listed.trans split,below,above⟩
      · refine ⟨first,by simp [Advisory.fixFor,listed,← bestDef,scored],leading ?_⟩
        intro other member
        have bounded : productMatchScore (c :: rest) other.package ≤ productMatchScore (c :: rest) best.package := by
          have member' : other ∈ first :: others := List.mem_cons_of_mem _ member
          rw [split,List.mem_append,List.mem_cons] at member'
          rcases member' with earlier' | same | later'
          · exact (below other earlier').le
          · exact same ▸ le_refl _
          · exact above other later'
        simp only [matchScore]
        omega
  constructor
  · intro chosen
    cases listed : advisory.candidates with
    | nil => simp [Advisory.fixFor,listed] at chosen
    | cons first others =>
      obtain ⟨other,chosen',holds⟩ := picked first others listed
      rw [chosen,Option.some.injEq] at chosen'
      exact chosen' ▸ holds
  · intro holds
    obtain ⟨earlier,later,split,_⟩ := id holds
    obtain ⟨first,others,listed⟩ : ∃ first others, advisory.candidates = first :: others := by
      cases listed : advisory.candidates with
      | nil => simp [listed] at split
      | cons first others => exact ⟨first,others,rfl⟩
    obtain ⟨other,chosen,holds'⟩ := picked first others listed
    rw [chosen,picked_unique holds holds']

end

/-! ### Guidance -/

/-- Kind of remediation recommendation. -/
inductive RecommendationType where
  | PATCH
  | CONFIGURATION
  | MITIGATION
  | OTHER
  deriving DecidableEq, Repr

/-- How well-grounded a recommendation is. -/
inductive RemediationConfidence where
  | VENDOR_SPECIFIC
  | CLASS_SPECIFIC
  | GENERIC
  deriving DecidableEq, Repr

/-- The catalogued mitigations, by identifier. -/
def mitigations : List (Text × Text) :=
  [(lit "M1013",lit "Application Developer Guidance"),(lit "M1018",lit "User Account Management"),
    (lit "M1022",lit "Restrict File and Directory Permissions"),(lit "M1026",lit "Privileged Account Management"),
    (lit "M1027",lit "Password Policies"),(lit "M1029",lit "Remote Data Storage"),(lit "M1030",lit "Network Segmentation"),
    (lit "M1032",lit "Multi-factor Authentication"),(lit "M1037",lit "Filter Network Traffic"),
    (lit "M1038",lit "Execution Prevention"),(lit "M1042",lit "Disable or Remove Feature or Program"),
    (lit "M1047",lit "Audit"),(lit "M1049",lit "Antivirus/Antimalware"),(lit "M1051",lit "Update Software"),
    (lit "M1054",lit "Software Configuration")]

/-- The reference for one catalogued mitigation. -/
def mitigationCitation (mitigation : Text × Text) : Citation where
  sourceId := lit "mitre_attack"
  source := lit "MITRE ATT&CK"
  url := some (lit "https://attack.mitre.org/mitigations/" ++ mitigation.1 ++ lit "/")
  title := some (mitigation.1 ++ lit " — " ++ mitigation.2)
  trustTier := some .AUTHORITATIVE

/-- The source for generic hardening advice. -/
def baselineCitation : Citation where
  sourceId := lit "internal_baseline"
  source := lit "Internal remediation baseline"
  title := some (lit "Conservative hardening guidance (no product-specific advisory available)")
  trustTier := some .INTERNAL

/-- One catalogued piece of remediation guidance. -/
structure RemediationTemplate where
  templateId : Text
  action : Text
  type : RecommendationType
  rationale : Text
  expectedImpact : Text
  steps : List Text
  verification : Text
  grounding : RemediationConfidence
  mitigationIds : List Text := []
  extraCitations : List Citation := []

/-- What a citation is told apart by. -/
def citationKey (citation : Citation) : Text :=
  if truthy citation.url then citation.url.getD [] else if truthy citation.title then citation.title.getD [] else citation.sourceId

/-- The first citation under every key. -/
def uniqueCitations : List Text → List Citation → List Citation
  | _, [] => []
  | seen, citation :: rest =>
    if citationKey citation ∈ seen then uniqueCitations seen rest
    else citation :: uniqueCitations (citationKey citation :: seen) rest

/-- The keys kept are those not seen before. -/
theorem keys_uniqueCitations (seen : List Text) (citations : List Citation) (key : Text) :
    key ∈ (uniqueCitations seen citations).map citationKey ↔ key ∈ citations.map citationKey ∧ key ∉ seen := by
  induction citations generalizing seen with
  | nil => simp [uniqueCitations]
  | cons citation rest ih =>
    unfold uniqueCitations
    split_ifs with known
    · rw [ih,List.map_cons,List.mem_cons]
      constructor
      · exact fun ⟨listed,fresh⟩ => ⟨.inr listed,fresh⟩
      · rintro ⟨rfl | listed,fresh⟩
        · exact absurd known fresh
        · exact ⟨listed,fresh⟩
    · rw [List.map_cons,List.map_cons,List.mem_cons,List.mem_cons,ih,List.mem_cons,not_or]
      constructor
      · rintro (rfl | ⟨listed,_,fresh⟩)
        · exact ⟨.inl rfl,known⟩
        · exact ⟨.inr listed,fresh⟩
      · rintro ⟨rfl | listed,fresh⟩
        · exact .inl rfl
        · exact (em (key = citationKey citation)).imp id fun other => ⟨listed,other,fresh⟩

/-- Every source this guidance rests on. -/
def RemediationTemplate.citations (template : RemediationTemplate) : List Citation :=
  let found := (template.mitigationIds.filterMap fun item =>
    (mitigations.find? fun mitigation => mitigation.1 = item).map mitigationCitation) ++ template.extraCitations
  uniqueCitations [] (if found = [] then [baselineCitation] else found)

theorem citations_nonempty (template : RemediationTemplate) : template.citations ≠ [] := by
  have kept : ∀ found : List Citation, found ≠ [] → uniqueCitations [] found ≠ [] := by
    intro found nonempty
    cases found with
    | nil => exact absurd rfl nonempty
    | cons citation rest => simp [uniqueCitations]
  unfold RemediationTemplate.citations
  refine kept _ ?_
  split_ifs with none
  · simp
  · exact none

/-- What `patch_guidance` is given. -/
structure PatchArguments where
  cveId : Text
  product : Option Text := none
  fixedVersion : Option Text := none
  references : List Text := []
  advisoryCitation : Option Citation := none

/-- Build upgrade guidance for a confirmed CVE. -/
def patchGuidance (given : PatchArguments) : RemediationTemplate :=
  let fixed := given.fixedVersion.getD []
  let isFixed := truthy given.fixedVersion
  let subject := if truthy given.product then given.product.getD [] else lit "the affected component"
  let target := if isFixed then lit " to " ++ fixed ++ lit " or later" else []
  { templateId := lit "patch:" ++ given.cveId
    action := lit "Patch " ++ given.cveId ++ lit " on " ++ subject ++ target
    type := .PATCH
    rationale := given.cveId ++ lit " was confirmed applicable to assets in this investigation. " ++
      (if isFixed then lit "The vendor has published a fixed release (" ++ fixed ++
        lit "), so the exposure can be removed rather than only reduced."
      else lit ("No fixed release was identified, so the advisory must be consulted " ++ "for the current remediation."))
    expectedImpact := lit ("The vulnerability is removed from the upgraded hosts. Upgrading requires a " ++
      "service restart and a change window.")
    steps := [lit "Identify every host running " ++ subject ++ lit " and record its current version.",
      if isFixed then lit "Upgrade " ++ subject ++ target ++ lit " in a change window, starting with internet-facing hosts."
      else lit "Consult the referenced advisory for the fixed release of " ++ subject ++ lit ".",
      lit "Restart the affected services so the new version is actually loaded."] ++
      (if isFixed then [] else [lit ("If no fixed release exists yet, apply the vendor's interim mitigation and " ++
        "track the advisory for updates.")])
    verification := lit "Confirm the deployed version of " ++ subject ++ lit " is" ++
      (if target = [] then lit " the fixed release" else target) ++ lit " on every affected host."
    grounding := if isFixed then .VENDOR_SPECIFIC else .CLASS_SPECIFIC
    mitigationIds := [lit "M1051"]
    extraCitations := given.advisoryCitation.toList ++ (given.references.take 3).map fun url =>
      { sourceId := lit "vendor_advisories", source := lit "Vendor advisory", url := some url } }

end SocAnalyst.Remediation
