import SocAnalyst.IncidentReports
import SocAnalyst.Markdown

/-!
# The technical document of a report

`render_technical_body` of `tools/rendering.py`: a report as a Markdown document.
-/
namespace SocAnalyst.ReportRendering
open SocAnalyst.Builtins SocAnalyst.Times SocAnalyst.Dicts SocAnalyst.Values SocAnalyst.Logs SocAnalyst.Risk SocAnalyst.Assessments
open SocAnalyst.Reporting SocAnalyst.LogAnalysis SocAnalyst.Markdown
open SocAnalyst.IncidentReports (ReportSectionKind FindingSupport ReportFinding ReportCaveat ReportTimelineEntry ReportStatus citationKey percent)
open SocAnalyst.Graph (Mapping Verdict number get severityValue)

/-- A report as the renderer reads it: indicators, techniques and CVEs are dictionaries. -/
structure IncidentReport where
  investigationId : Text
  title : Text
  status : ReportStatus
  verdict : Option Verdict
  severity : Option Severity
  timeline : List ReportTimelineEntry
  findings : List ReportFinding
  affectedAssets : List AffectedAsset
  indicators : List Mapping
  techniques : List Mapping
  cves : List Mapping
  caveats : List ReportCaveat
  citations : List Citation
  confidence : ℚ
  version : Nat
  generatedFrom : List ReportSectionKind

/-! ### Escaping -/

def maxCell : Nat := 200

/-- What `_CELL_BREAKERS` matches, one or more at a time. -/
def isCellBreaker (c : Nat) : Bool := c == 124 || c == 13 || c == 10

/-- `_CELL_BREAKERS.sub(" ", text)`, from inside a match or not. -/
def joinBreakers : Bool → Text → Text
  | _, [] => []
  | inside, c :: rest =>
    if isCellBreaker c then (if inside then joinBreakers true rest else 32 :: joinBreakers true rest) else c :: joinBreakers false rest

def spaceNext : Text → Bool
  | [] => false
  | c :: _ => isSpace c

/-- One of the characters that `_LINE_STRUCTURE` names. -/
def isMarker (c : Nat) : Bool := c == 35 || c == 62 || c == 45 || c == 42 || c == 43

def markerNext : Text → Bool
  | [] => false
  | c :: rest => isMarker c && spaceNext rest

def pointNext : Text → Bool
  | [] => false
  | c :: rest => c == 46 && spaceNext rest

section
variable [Interpreter]

/-- A marker and a space, or digits, a point and a space. -/
def Structured (text : Text) : Prop :=
  markerNext text = true ∨ text.takeWhile Versions.isDigit ≠ [] ∧ pointNext (text.dropWhile Versions.isDigit) = true

instance (text : Text) : Decidable (Structured text) := inferInstanceAs (Decidable (_ ∨ _))

/-- `_LINE_STRUCTURE.sub(r"\1\\\2\3", text)`. -/
def neutralize (text : Text) : Text :=
  if Structured (text.dropWhile isSpace) then text.takeWhile isSpace ++ 92 :: text.dropWhile isSpace else text

end

/-- A text with its line breaks and cell separators made blanks, trimmed. -/
def flattened (text : Text) : Text := strip (joinBreakers false text)

def shortened (text : Text) (limit : Nat) : Text := if limit < text.length then upTo text (limit - 1 : Int) ++ lit "…" else text

def orDash (text : Text) : Text := if text = [] then lit "—" else text

section
variable [Printer]

/-- Make an untrusted value safe to place inside a table cell. -/
def escapeCell (value : Value) (limit : Nat := maxCell) : Text :=
  match value with
  | .null => lit "—"
  | value => orDash (shortened (neutralize (flattened value.toText)) limit)

/-! ### Sections -/

/-- A section: a sentence if it has no rows, else its opening and the rows. -/
def renderSection (opening nothing : Text) (rows : List Text) : Text := if rows = [] then nothing else opening ++ joined [10] rows ++ [10]

def metadataRows (report : IncidentReport) : List (Text × Text) := [
  (lit "Investigation",report.investigationId),
  (lit "Verdict",(report.verdict.map Graph.Verdict.value).getD (lit "not assessed")),
  (lit "Severity",(report.severity.map severityValue).getD (lit "unrated")),
  (lit "Confidence",percent report.confidence),
  (lit "Report version",number report.version),
  (lit "Status",report.status.value),
  (lit "Assembled from",orElse (some (joined (lit ", ") (report.generatedFrom.map ReportSectionKind.value))) (lit "nothing"))]

def renderMetadata (report : IncidentReport) : Text :=
  lit "## Overview\n\n| Field | Value |\n|---|---|\n" ++
    joined [10] ((metadataRows report).map fun row => tableRow [row.1,escapeCell (.str row.2)]) ++ [10]

def timelineRow (entry : ReportTimelineEntry) : Text :=
  tableRow [entry.occurredAt.isoformat,escapeCell (.str entry.sourceId) 40,escapeCell (.str entry.summary),
    lit "`" ++ escapeCell (.str entry.eventId) 40 ++ lit "`",escapeCell (.str (orElse entry.rawRef (lit "—"))) 80]

def renderTimeline (report : IncidentReport) : Text :=
  renderSection (lit "## Timeline\n\n| Time (UTC) | Source | Event | Event ID | Raw record |\n|---|---|---|---|---|\n")
    (lit "## Timeline\n\nNo timeline could be reconstructed from the available evidence.\n") (report.timeline.map timelineRow)

/-- One-based reference numbers for the compiled list. -/
def citationNumbers (citations : List Citation) : Dict (Text × Text) Nat :=
  (citations.zipIdx 1).foldl (fun numbers numbered => numbers.set (citationKey numbered.1) numbered.2) Dict.empty

/-- A claim's citations as `[1][4]` marks, ordered and deduplicated. -/
def referenceMarks (citations : List Citation) (numbers : Dict (Text × Text) Nat) : Text :=
  (sortedBy id (citations.filterMap fun citation => numbers.get? (citationKey citation)).dedup).flatMap fun n =>
    lit "[" ++ number n ++ lit "]"

/-- One kind of artifact a claim rests on, if there are any. -/
def supportPart (label : Text) (values : List Text) : List Text :=
  if values = [] then [] else
    [label ++ lit " " ++ joined (lit ", ") ((values.take 8).map fun value => lit "`" ++ escapeCell (.str value) 60 ++ lit "`") ++
      if 8 < values.length then lit " (+" ++ number (values.length - 8) ++ lit " more)" else []]

/-- Name the artifacts a claim rests on. -/
def renderSupport (finding : ReportFinding) : Text :=
  let parts := supportPart (lit "events") finding.support.eventIds ++ supportPart (lit "detections") finding.support.signalRuleIds ++
    supportPart (lit "techniques") finding.support.techniqueIds ++ supportPart (lit "CVEs") finding.support.cveIds ++
    supportPart (lit "indicators") finding.support.indicatorValues
  if parts = [] then lit "—" else joined (lit "; ") parts

def findingLines (numbers : Dict (Text × Text) Nat) (finding : ReportFinding) : List Text := [
  lit "### " ++ escapeCell (.str finding.title) 120 ++ lit " (" ++ finding.sectionKind.value ++ lit ", confidence " ++
    percent finding.confidence ++ lit ")" ++ referenceMarks finding.citations numbers,
  [],
  escapeCell (.str finding.detail) 2000,
  [],
  lit "*Supported by:* " ++ renderSupport finding,
  []]

def renderFindings (report : IncidentReport) (numbers : Dict (Text × Text) Nat) : Text :=
  if report.findings = [] then lit "## Findings\n\nNo findings were produced by the investigation.\n"
  else joined [10] ([lit "## Findings",[]] ++ report.findings.flatMap (findingLines numbers))

def assetRow (asset : AffectedAsset) : Text :=
  tableRow [escapeCell (.str asset.hostname) 80,if asset.critical then lit "yes" else lit "no",number asset.eventCount,
    escapeCell (.str (orElse (some (joined (lit ", ") asset.confirmedCveIds)) (lit "—"))) 120]

def renderAssets (report : IncidentReport) : Text :=
  renderSection (lit "## Affected assets\n\n| Host | Business-critical | Events | Confirmed CVEs |\n|---|---|---|---|\n")
    (lit "## Affected assets\n\nNo asset could be attributed from the evidence.\n") (report.affectedAssets.map assetRow)

/-- `value or other`. -/
def orOther (value other : Value) : Value := if value.truthy then value else other

def indicatorRow (item : Mapping) : Text :=
  tableRow [escapeCell (get item (lit "type")) 20,
    lit "`" ++ escapeCell (orOther (get item (lit "defanged")) (get item (lit "value"))) 120 ++ lit "`",
    escapeCell (get item (lit "reputation")) 20,escapeCell (orOther (get item (lit "source")) (.str (lit "not checked"))) 40]

def renderIndicators (report : IncidentReport) : Text :=
  renderSection (lit ("## Indicators of compromise\n\nValues are defanged for safe handling.\n\n" ++
      "| Type | Indicator | Reputation | Asserted by |\n|---|---|---|---|\n"))
    (lit "## Indicators of compromise\n\nNo indicators were extracted.\n") (report.indicators.map indicatorRow)

/-- A list-valued field of a table. -/
def joinItems : Value → Text
  | .list items => joined (lit ", ") (items.map Value.toText)
  | _ => []

def techniqueRow (item : Mapping) : Text :=
  tableRow [escapeCell (get item (lit "technique_id")) 20,escapeCell (get item (lit "name")) 80,
    escapeCell (.str (joinItems (get item (lit "tactics")))) 80,escapeCell (get item (lit "rationale")) 160]

def renderTechniques (report : IncidentReport) : Text :=
  renderSection (lit "## Adversary techniques\n\n| ID | Name | Tactics | Why |\n|---|---|---|---|\n")
    (lit "## Adversary techniques\n\nNo ATT&CK technique was mapped.\n") (report.techniques.map techniqueRow)

def vulnerabilityRow (item : Mapping) : Text :=
  tableRow [escapeCell (get item (lit "cve_id")) 24,escapeCell (get item (lit "cvss_score")) 8,
    escapeCell (get item (lit "applicability")) 24,escapeCell (get item (lit "summary")) 200]

def renderVulnerabilities (report : IncidentReport) : Text :=
  renderSection (lit "## Vulnerabilities\n\n| CVE | CVSS | Applicability | Summary |\n|---|---|---|---|\n")
    (lit "## Vulnerabilities\n\nNo vulnerability was confirmed applicable to the affected assets.\n") (report.cves.map vulnerabilityRow)

def caveatLine (caveat : ReportCaveat) : Text :=
  lit "- **" ++ escapeCell (.str caveat.kind.value) 40 ++ lit "** (" ++ escapeCell (.str caveat.sectionKind.value) 20 ++ lit "): " ++
    escapeCell (.str caveat.detail) 400

def renderCaveats (report : IncidentReport) : Text :=
  renderSection (lit "## Caveats\n\n") (lit "## Caveats\n\nNone recorded.\n") (report.caveats.map caveatLine)

def referenceLine (citation : Citation) (index : Nat) : Text :=
  let target := if truthy citation.url then citation.url else citation.chunkId
  number index ++ lit ". " ++ escapeCell (.str (orElse citation.title citation.source)) 120 ++ lit " (" ++
    escapeCell (.str citation.source) 60 ++ lit ")" ++ if truthy target then lit " — " ++ escapeCell (.str (target.getD [])) 200 else []

def renderReferences (citations : List Citation) : Text :=
  renderSection (lit "## References\n\n") (lit "## References\n\nNo external source was cited.\n")
    ((citations.zipIdx 1).map fun numbered => referenceLine numbered.1 numbered.2)

def documentParts (report : IncidentReport) : List Text := [
  lit "# " ++ escapeCell (.str report.title) 120 ++ [10],
  renderMetadata report,
  renderTimeline report,
  renderFindings report (citationNumbers report.citations),
  renderAssets report,
  renderIndicators report,
  renderTechniques report,
  renderVulnerabilities report,
  renderCaveats report,
  renderReferences report.citations]

/-- The full technical document. -/
def renderTechnicalBody (report : IncidentReport) : Text :=
  (joined [10] ((documentParts report).filter (· ≠ []))).rdropWhile isSpace ++ [10]

end
end SocAnalyst.ReportRendering
