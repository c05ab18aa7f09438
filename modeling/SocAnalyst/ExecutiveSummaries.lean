import SocAnalyst.ReportRendering

/-!
# Executive summaries

`render_executive_summary` of `tools/rendering.py` and how long its paragraph gets: each
sentence is bounded, whatever the hosts are called.
-/
namespace SocAnalyst.ExecutiveSummaries
open SocAnalyst.Builtins SocAnalyst.Doubles SocAnalyst.Values SocAnalyst.LogAnalysis SocAnalyst.Reporting
open SocAnalyst.ReportRendering hiding IncidentReport
open SocAnalyst.IncidentReports (IncidentReport percent)
open SocAnalyst.Graph (number severityValue)

section
variable [Printer] (report : IncidentReport)

omit [Printer] in
def opening : Text :=
  lit "Investigation " ++ report.investigationId ++ lit " was assessed as **" ++
    (report.verdict.map Graph.Verdict.value).getD (lit "not assessed") ++ lit "** with **" ++
    (report.severity.map severityValue).getD (lit "unrated") ++ lit "** severity."

def scope : Text :=
  let hosts := report.affectedAssets.map (·.hostname)
  if hosts = [] then lit " No affected asset could be identified from the available evidence."
  else lit " Activity was observed across " ++ number hosts.length ++ lit " asset(s): " ++
    joined (lit ", ") ((hosts.take 5).map fun host => escapeCell (.str host) 60) ++
    (if hosts.length ≤ 5 then lit "." else lit ", and " ++ number (hosts.length - 5) ++ lit " more.")

omit [Printer] in
def vulnerability : Text :=
  if report.cves.length = 0 then lit " No vulnerability was confirmed against these assets."
  else lit " " ++ number report.cves.length ++ lit " vulnerability finding(s) were confirmed against these assets."

omit [Printer] in
def caveats : Text :=
  if report.caveats = [] then lit " No limitations were recorded on the evidence supporting this report."
  else lit " This report carries " ++ number report.caveats.length ++ lit " stated limitation(s); see Caveats before acting on it."

omit [Printer] in
def closing : Text :=
  lit " Overall confidence in these findings is " ++ percent report.confidence ++
    lit ". All conclusions are analytical recommendations for human review; no action has been taken."

/-- The paragraph a manager reads. -/
def renderExecutiveSummary : Text := opening report ++ scope report ++ vulnerability report ++ caveats report ++ closing report

/-! ### How long it gets -/

/-- A report whose sentences count less than a billion. -/
structure Countable (report : IncidentReport) : Prop where
  assets : report.affectedAssets.length < 10 ^ 9
  cves : report.cves.length < 10 ^ 9
  caveats : report.caveats.length < 10 ^ 9

omit [Printer] in
theorem length_number {n : Nat} (small : n < 10 ^ 9) : (number n).length ≤ 9 := by
  rw [number,lit,Nat.toString_eq_repr,Nat.toList_repr,List.length_map]
  exact (Nat.length_toDigits_le_iff (by norm_num) (by norm_num)).mpr small

omit [Printer] in
theorem length_percent {q : ℚ} (share : Share q) : (percent q).length ≤ 10 := by
  have low : 0 ≤ roundHalfEven (q * 100) := le_roundHalfEven (n := 0) (by rw [Int.cast_zero]; linarith [share.1])
  have high : roundHalfEven (q * 100) ≤ 100 := roundHalfEven_le (n := 100) (by push_cast; linarith [share.2])
  obtain ⟨n,same⟩ := Int.eq_ofNat_of_zero_le low
  have small : n < 10 ^ 9 := by omega
  have written : percent q = number n ++ lit "%" := by
    rw [percent,same]
    change lit (toString n ++ "%") = _
    rw [number,lit,String.toList_append,List.map_append]
    rfl
  have sign : (lit "%").length = 1 := by decide
  have digits := length_number small
  rw [written,List.length_append]
  omega

/-- A cell is no longer than its limit, which leaves room for a dash. -/
theorem length_escapeCell (value : Value) {limit : Nat} (room : 1 ≤ limit) : (escapeCell value limit).length ≤ limit := by
  have dash : (lit "—").length = 1 := by decide
  have cut : ∀ text, (orDash (shortened text limit)).length ≤ limit := by
    intro text
    unfold orDash
    split_ifs with none
    · omega
    · unfold shortened
      split_ifs with long
      · have ellipsis : (lit "…").length = 1 := by decide
        have kept : ¬ ((limit : Int) - 1 < 0) := by omega
        rw [List.length_append,ellipsis,upTo,if_neg kept,List.length_take]
        omega
      · omega
  cases value <;> first | exact cut _ | (change (lit "—").length ≤ limit; omega)

omit [Printer] in
theorem length_opening (report : IncidentReport) : (opening report).length ≤ report.investigationId.length + 80 := by
  have verdict : ((report.verdict.map Graph.Verdict.value).getD (lit "not assessed")).length ≤ 12 := by
    rcases report.verdict with _ | verdict
    · decide
    · cases verdict <;> decide
  have severity : ((report.severity.map severityValue).getD (lit "unrated")).length ≤ 8 := by
    rcases report.severity with _ | severity
    · decide
    · cases severity <;> decide
  simp [opening,lit] at verdict severity ⊢
  omega

/-- Five hosts are named at most, each in a cell of sixty characters. -/
theorem length_scope {report : IncidentReport} (countable : Countable report) : (scope report).length ≤ 400 := by
  have counted := length_number countable.assets
  have others := length_number (n := report.affectedAssets.length - 5) (lt_of_le_of_lt (Nat.sub_le ..) countable.assets)
  have cells : ∀ cell ∈ ((report.affectedAssets.map (·.hostname)).take 5).map fun host => escapeCell (.str host) 60, cell.length ≤ 60 := by
    intro cell member
    obtain ⟨host,_,rfl⟩ := List.mem_map.mp member
    exact length_escapeCell _ (by decide)
  have named := @length_joined (lit ", ") _ _ cells
  have few : ((report.affectedAssets.map (·.hostname)).take 5).length ≤ 5 := List.length_take_le ..
  have separated : (lit ", ").length = 2 := by decide
  rw [List.length_map,separated] at named
  unfold scope
  dsimp only
  split_ifs <;> simp [lit] at * <;> omega

omit [Printer] in
theorem length_vulnerability {report : IncidentReport} (countable : Countable report) : (vulnerability report).length ≤ 80 := by
  have counted := length_number countable.cves
  unfold vulnerability
  split_ifs
  · simp [lit]
  · simp [lit]
    omega

omit [Printer] in
theorem length_caveats {report : IncidentReport} (countable : Countable report) : (caveats report).length ≤ 100 := by
  have counted := length_number countable.caveats
  unfold caveats
  split_ifs
  · simp [lit]
  · simp [lit]
    omega

omit [Printer] in
theorem length_closing (report : IncidentReport) : (closing report).length ≤ 160 := by
  have sure := length_percent report.sure
  simp [closing,lit] at sure ⊢
  omega

/-- The paragraph is shorter than an alert may be, whatever the hosts are called. -/
theorem length_renderExecutiveSummary {report : IncidentReport} (countable : Countable report) :
    (renderExecutiveSummary report).length ≤ report.investigationId.length + 820 := by
  have first := length_opening report
  have second := length_scope countable
  have third := length_vulnerability countable
  have fourth := length_caveats countable
  have last := length_closing report
  simp only [renderExecutiveSummary,List.length_append]
  omega

theorem strip_renderExecutiveSummary (report : IncidentReport) : strip (renderExecutiveSummary report) ≠ [] := by
  have letter : 73 ∈ lit "Investigation " := by decide
  have inside : 73 ∈ renderExecutiveSummary report := by
    simp only [renderExecutiveSummary,opening,List.mem_append,letter,true_or]
  exact strip_ne_nil inside (by decide)

end
end SocAnalyst.ExecutiveSummaries
