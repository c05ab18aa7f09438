import SocAnalyst.AlertLinks

/-!
# The lines of an alert

How many lines a message has, and what the cut of a long field leaves of its entities. A
Slack field keeps its line feeds, and is cut after it is escaped.
-/
namespace SocAnalyst.AlertLines
open SocAnalyst.Builtins SocAnalyst.Notifications SocAnalyst.AlertTemplates SocAnalyst.AlertLinks

/-! ### What shows of a field -/

/-- The longest beginning of a text that fits the room when it is escaped. -/
def fitting : Nat → Text → Text
  | _, [] => []
  | room, c :: rest => if (slackEscape c).length ≤ room then c :: fitting (room - (slackEscape c).length) rest else []

/-- A field as it is escaped: without control characters, trimmed. -/
def cleaned (value : Text) : Text := strip (dropControl value)

/-- The whole field is within its limit. -/
def Fits (value : Text) (limit : Nat) : Prop := ((cleaned value).flatMap slackEscape).length ≤ limit

instance (value : Text) (limit : Nat) : Decidable (Fits value limit) := inferInstanceAs (Decidable (_ ≤ _))

/-- The part of a field that shows. -/
def kept (value : Text) (limit : Nat) : Text := if Fits value limit then cleaned value else fitting (limit - 1) (cleaned value)

/-- The line feeds that show. -/
def breaks (value : Text) (limit : Nat) : Nat := (kept value limit).count 10

/-- A field is cut, if at all, between two of its characters. -/
def CutsBetween (value : Text) (limit : Nat) : Prop :=
  Fits value limit ∨ ((fitting (limit - 1) (cleaned value)).flatMap slackEscape).length = limit - 1

instance (value : Text) (limit : Nat) : Decidable (CutsBetween value limit) := inferInstanceAs (Decidable (_ ∨ _))

/-- What the cut may leave of an entity. -/
def partials : List Text := [lit "&",lit "&a",lit "&am",lit "&amp",lit "&l",lit "&lt",lit "&g",lit "&gt"]

theorem slackEscape_cases (c : Nat) :
    (c = 38 ∧ slackEscape c = lit "&amp;") ∨ (c = 60 ∧ slackEscape c = lit "&lt;") ∨ (c = 62 ∧ slackEscape c = lit "&gt;") ∨
      (c ≠ 38 ∧ c ≠ 60 ∧ c ≠ 62 ∧ slackEscape c = [c]) := by
  unfold slackEscape
  split_ifs with amp less more
  · exact .inl ⟨amp,rfl⟩
  · exact .inr (.inl ⟨less,rfl⟩)
  · exact .inr (.inr (.inl ⟨more,rfl⟩))
  · exact .inr (.inr (.inr ⟨amp,less,more,rfl⟩))

theorem take_entity : ∀ entity ∈ [lit "&amp;",lit "&lt;",lit "&gt;"], ∀ n < entity.length, entity.take n = [] ∨ entity.take n ∈ partials := by
  decide

theorem take_slackEscape {c n : Nat} (short : n < (slackEscape c).length) : (slackEscape c).take n = [] ∨ (slackEscape c).take n ∈ partials := by
  rcases slackEscape_cases c with ⟨_,same⟩ | ⟨_,same⟩ | ⟨_,same⟩ | ⟨_,_,_,same⟩
  · exact take_entity _ (by simp [same]) n short
  · exact take_entity _ (by simp [same]) n short
  · exact take_entity _ (by simp [same]) n short
  · rw [same] at short ⊢
    have none : n = 0 := by simpa using short
    exact .inl (by rw [none]; rfl)

/-- A cut leaves whole characters, and then perhaps part of an entity. -/
theorem take_escaped (n : Nat) (text : Text) :
    ∃ part, (part = [] ∨ part ∈ partials) ∧ (text.flatMap slackEscape).take n = (fitting n text).flatMap slackEscape ++ part := by
  induction text generalizing n with
  | nil => exact ⟨[],.inl rfl,by simp [fitting]⟩
  | cons c rest ih =>
    rw [List.flatMap_cons,fitting]
    split_ifs with room
    · obtain ⟨part,few,taken⟩ := ih (n - (slackEscape c).length)
      exact ⟨part,few,by rw [List.take_append,List.take_of_length_le room,taken,List.flatMap_cons,List.append_assoc]⟩
    · refine ⟨(slackEscape c).take n,take_slackEscape (by omega),?_⟩
      rw [List.take_append_of_le_length (by omega)]
      rfl

/-- A field in the message: what shows of it, escaped, then what the cut leaves of an
    entity, then the sign of the cut. -/
theorem escapeSlack_shape (value : Text) {limit : Nat} (positive : 0 < limit) :
    ∃ part, (part = [] ∨ part ∈ partials) ∧ (CutsBetween value limit ↔ part = []) ∧
      ((part = [] ∧ escapeSlack value limit = (kept value limit).flatMap slackEscape) ∨
        escapeSlack value limit = (kept value limit).flatMap slackEscape ++ part ++ [8230]) := by
  rw [escapeSlack_eq,truncate_eq _ positive]
  unfold kept CutsBetween
  by_cases fits : Fits value limit
  · have short : ((strip (dropControl value)).flatMap slackEscape).length ≤ limit := fits
    rw [if_pos short,if_pos fits]
    exact ⟨[],.inl rfl,by simp [fits],.inl ⟨rfl,rfl⟩⟩
  · have long : ¬ ((strip (dropControl value)).flatMap slackEscape).length ≤ limit := fits
    rw [if_neg long,if_neg fits]
    obtain ⟨part,few,taken⟩ := take_escaped (limit - 1) (cleaned value)
    have lengths := congrArg List.length taken
    rw [List.length_append,List.length_take_of_le (by unfold cleaned; omega)] at lengths
    refine ⟨part,few,?_,.inr (by rw [← taken]; rfl)⟩
    simp only [fits,false_or,← List.length_eq_zero_iff]
    omega

theorem count_escaped (text : Text) : (text.flatMap slackEscape).count 10 = text.count 10 := by
  induction text with
  | nil => rfl
  | cons c rest ih =>
    rw [List.flatMap_cons,List.count_append,ih,List.count_cons]
    rcases slackEscape_cases c with ⟨rfl,same⟩ | ⟨rfl,same⟩ | ⟨rfl,same⟩ | ⟨_,_,_,same⟩
    · rw [same]; simp [lit]
    · rw [same]; simp [lit]
    · rw [same]; simp [lit]
    · rw [same]
      simp [List.count_cons]
      omega

theorem partials_plain : ∀ part ∈ partials, part.count 10 = 0 ∧ 60 ∉ part ∧ 62 ∉ part := by decide

/-- A field keeps the line feeds that show of it. -/
theorem count_escapeSlack (value : Text) {limit : Nat} (positive : 0 < limit) : (escapeSlack value limit).count 10 = breaks value limit := by
  obtain ⟨part,few,_,⟨_,same⟩ | same⟩ := escapeSlack_shape value positive
  · rw [same,count_escaped]
    rfl
  · have none : part.count 10 = 0 := by
      rcases few with rfl | listed
      · rfl
      · exact (partials_plain part listed).1
    rw [same,List.count_append,List.count_append,count_escaped,none]
    rfl

/-! ### Entities -/

/-- Neither angle bracket stands in the text, and every ampersand begins an entity. -/
def WellEscaped (text : Text) : Prop :=
  60 ∉ text ∧ 62 ∉ text ∧ ∀ before after, text = before ++ 38 :: after → ∃ entity ∈ [lit "amp;",lit "lt;",lit "gt;"], entity <+: after

/-- A text that escapes another. -/
def Written (text : Text) : Prop := ∃ source : Text, text = source.flatMap slackEscape

theorem Written.append {x y : Text} (first : Written x) (second : Written y) : Written (x ++ y) := by
  obtain ⟨a,rfl⟩ := first
  obtain ⟨b,rfl⟩ := second
  exact ⟨a ++ b,List.flatMap_append.symm⟩

theorem written_plain {text : Text} (plain : ∀ c ∈ text, c ≠ 38 ∧ c ≠ 60 ∧ c ≠ 62) : Written text := by
  refine ⟨text,?_⟩
  induction text with
  | nil => rfl
  | cons c rest ih =>
    obtain ⟨⟨amp,less,more⟩,later⟩ := List.forall_mem_cons.mp plain
    rw [List.flatMap_cons,slackEscape,if_neg amp,if_neg less,if_neg more,← ih later]
    rfl

theorem written_joined {separator : Text} {pieces : List Text} (between : Written separator) (all : ∀ piece ∈ pieces, Written piece) :
    Written (joined separator pieces) := by
  induction pieces with
  | nil => exact ⟨[],rfl⟩
  | cons first rest ih =>
    obtain ⟨here,later⟩ := List.forall_mem_cons.mp all
    by_cases none : rest = []
    · rw [none]
      exact here
    · rw [joined_cons separator first none]
      exact (here.append between).append (ih later)

theorem mem_slackEscape {c d : Nat} (member : d ∈ slackEscape c) : d ≠ 60 ∧ d ≠ 62 := by
  rcases slackEscape_cases c with ⟨_,same⟩ | ⟨_,same⟩ | ⟨_,same⟩ | ⟨_,less,more,same⟩
  · rw [same] at member
    exact (by decide : ∀ d ∈ lit "&amp;", d ≠ 60 ∧ d ≠ 62) d member
  · rw [same] at member
    exact (by decide : ∀ d ∈ lit "&lt;", d ≠ 60 ∧ d ≠ 62) d member
  · rw [same] at member
    exact (by decide : ∀ d ∈ lit "&gt;", d ≠ 60 ∧ d ≠ 62) d member
  · rw [same,List.mem_singleton] at member
    exact ⟨member ▸ less,member ▸ more⟩

theorem entity_start : ∀ entity ∈ [lit "amp;",lit "lt;",lit "gt;"], 38 ∉ entity := by decide

/-- What is escaped holds whole entities only. -/
theorem Written.wellEscaped {text : Text} (written : Written text) : WellEscaped text := by
  obtain ⟨source,rfl⟩ := written
  refine ⟨fun member => ?_,fun member => ?_,?_⟩
  · obtain ⟨c,_,inside⟩ := List.mem_flatMap.mp member
    exact (mem_slackEscape inside).1 rfl
  · obtain ⟨c,_,inside⟩ := List.mem_flatMap.mp member
    exact (mem_slackEscape inside).2 rfl
  · induction source with
    | nil =>
      intro before after empty
      simp at empty
    | cons c rest ih =>
      intro before after whole
      rw [List.flatMap_cons] at whole
      rcases List.append_eq_append_iff.mp whole with ⟨excess,_,later⟩ | ⟨excess,covers,meets⟩
      · exact ih excess after later
      · cases excess with
        | nil => exact ih [] after meets.symm
        | cons d others =>
          rw [List.cons_append] at meets
          injection meets with amp goes
          subst amp
          have entity : slackEscape c = lit "&amp;" ∨ slackEscape c = lit "&lt;" ∨ slackEscape c = lit "&gt;" := by
            rcases slackEscape_cases c with ⟨_,same⟩ | ⟨_,same⟩ | ⟨_,same⟩ | ⟨other,_,_,same⟩
            · exact .inl same
            · exact .inr (.inl same)
            · exact .inr (.inr same)
            · have inside : (38 : Nat) ∈ slackEscape c := by rw [covers]; simp
              rw [same,List.mem_singleton] at inside
              exact absurd inside.symm other
          have begins : ∀ name ∈ [lit "amp;",lit "lt;",lit "gt;"], slackEscape c = 38 :: name → name <+: after := by
            intro name listed same
            cases before with
            | nil =>
              rw [same,List.nil_append] at covers
              injection covers with _ tail
              exact ⟨rest.flatMap slackEscape,by rw [goes,tail]⟩
            | cons e es =>
              rw [same,List.cons_append] at covers
              injection covers with _ tail
              exact absurd (by rw [tail]; simp) (entity_start name listed)
          rcases entity with same | same | same
          · exact ⟨lit "amp;",by simp,begins _ (by simp) same⟩
          · exact ⟨lit "lt;",by simp,begins _ (by simp) same⟩
          · exact ⟨lit "gt;",by simp,begins _ (by simp) same⟩

theorem partials_unfinished : ∀ part ∈ partials, part.head? = some 38 ∧
    ∀ entity ∈ [lit "amp;",lit "lt;",lit "gt;"], 8230 ∉ entity ∧ ¬ entity <+: part.tail := by
  decide

/-- Part of an entity before the sign of the cut is no entity. -/
theorem not_wellEscaped {text part : Text} (listed : part ∈ partials) (stands : part ++ [8230] <:+: text) : ¬ WellEscaped text := by
  rintro ⟨_,_,entities⟩
  obtain ⟨before,after,whole⟩ := stands
  obtain ⟨begins,unfinished⟩ := partials_unfinished part listed
  obtain ⟨others,rfl⟩ := List.head?_eq_some_iff.mp begins
  obtain ⟨entity,member,rest,same⟩ := entities before (others ++ 8230 :: after) (by rw [← whole]; simp)
  obtain ⟨unmarked,apart⟩ := unfinished entity member
  rcases List.append_eq_append_iff.mp same with ⟨excess,within,_⟩ | ⟨excess,beyond,meets⟩
  · exact apart ⟨excess,within.symm⟩
  · cases excess with
    | nil => exact apart ⟨[],by simpa using beyond⟩
    | cons c more =>
      injection meets with mark _
      refine unmarked ?_
      rw [beyond,mark]
      simp

/-! ### The lines of the messages -/

def lineCount (text : Text) : Nat := text.count 10 + 1

theorem lineCount_joined {pieces : List Text} (some : pieces ≠ []) :
    lineCount (joined [10] pieces) = (pieces.map fun piece => piece.count 10).sum + pieces.length := by
  have positive := List.length_pos_iff.mpr some
  have feed : [10].count 10 = 1 := rfl
  rw [lineCount,count_joined,List.count_flatten,feed,Nat.mul_one]
  have same : pieces.map (List.count 10) = pieces.map fun piece => piece.count 10 := rfl
  rw [same]
  omega

theorem sum_nonempty (pieces : List Text) :
    ((pieces.filter fun piece => piece ≠ []).map fun piece => piece.count 10).sum = (pieces.map fun piece => piece.count 10).sum := by
  induction pieces with
  | nil => rfl
  | cons first rest ih =>
    by_cases empty : first = []
    · simpa [empty] using ih
    · simpa [empty] using ih

/-- Nothing of a text shows. -/
def Vanishes (text : Text) : Prop := ∀ c ∈ text, isControl c = true ∨ isSpace c = true

instance (text : Text) : Decidable (Vanishes text) := inferInstanceAs (Decidable (∀ c ∈ text, _))

theorem cleaned_nil (value : Text) : cleaned value = [] ↔ Vanishes value := by
  constructor
  · intro empty c member
    by_contra solid
    simp only [not_or,Bool.not_eq_true] at solid
    exact strip_ne_nil (List.mem_filter.mpr ⟨member,by simp [solid.1]⟩) solid.2 empty
  · intro vanishes
    have blank : ∀ c ∈ dropControl value, isSpace c = true := by
      intro c member
      obtain ⟨inside,shown⟩ := List.mem_filter.mp member
      exact (vanishes c inside).resolve_left (by simpa using shown)
    rw [cleaned,strip,List.dropWhile_eq_nil_iff.mpr blank]
    rfl

theorem escapeSlack_nil (value : Text) {limit : Nat} (positive : 0 < limit) : escapeSlack value limit = [] ↔ Vanishes value := by
  have escaped : (strip (dropControl value)).flatMap slackEscape = [] ↔ cleaned value = [] := by
    rw [List.flatMap_eq_nil_iff,cleaned,List.eq_nil_iff_forall_not_mem]
    refine forall_congr' fun c => ⟨fun none member => ?_,fun none member => absurd member none⟩
    have empty := none member
    rcases slackEscape_cases c with ⟨_,same⟩ | ⟨_,same⟩ | ⟨_,same⟩ | ⟨_,_,_,same⟩ <;> rw [same] at empty <;> cases empty
  rw [escapeSlack_eq,truncate_eq _ positive,← cleaned_nil,← escaped]
  split_ifs with short
  · rfl
  · refine iff_of_false (by simp) fun empty => short ?_
    rw [empty]
    exact Nat.zero_le _

section
variable [WordTable]

/-- A text vanishes defanged just when it does as it is. -/
theorem vanishes_defang (text : Text) : Vanishes (defang text) ↔ Vanishes text := by
  have each : ∀ afterWord, Vanishes (defangFrom 0 afterWord text) ↔ Vanishes text := by
    induction size : text.length using Nat.strong_induction_on generalizing text with
    | _ n ih =>
      intro afterWord
      rcases defang_cases afterWord text with rfl | ⟨rfl,first,middle,rest,rfl,isScheme,opens,_⟩ | ⟨c,rest,rfl,kept⟩
      · exact Iff.rfl
      · have solid : ¬ (isControl first = true ∨ isSpace first = true) := by
          simp [InScheme.not_control (.inl opens),InScheme.not_space (.inl opens)]
        rw [defangFrom_scheme isScheme]
        exact iff_of_false (fun all => solid (all first (by simp))) fun all => solid (all first (by simp))
      · rw [defangFrom_keep kept]
        simp only [Vanishes,List.forall_mem_cons]
        exact and_congr_right fun _ => ih rest.length (by rw [← size]; simp) rest rfl (word c)
  exact each false

/-- The untrusted texts of an alert as Slack places them, with their limits. -/
def slackFields (alert : AlertRequest) : List (Text × Nat) :=
  [(alert.title,200)] ++ (if truthy alert.verdict then [(alert.verdict.getD [],40)] else []) ++
  [(alert.investigationId,64),(defang alert.summary,800)] ++ (alert.highlights.map fun item => (defang item,maxLine)) ++
  (if truthy alert.consoleUrl then [(alert.consoleUrl.getD [],300)] else [])

/-- The line feeds that show of an alert's texts. -/
def breaksOf (alert : AlertRequest) : Nat := ((slackFields alert).map fun field => breaks field.1 field.2).sum

omit [WordTable] in
theorem count_severity (severity : Risk.Severity) : (lit "severity " ++ escapeSlack (severityValue severity)).count 10 = 0 := by
  cases severity <;> decide

omit [WordTable] in
theorem count_priority (priority : Risk.TriagePriority) : (escapeSlack (upper (priorityValue priority))).count 10 = 0 := by
  cases priority <;> decide

omit [WordTable] in
theorem count_labelled {label : Text} (plain : label.count 10 = 0) (value : Text) {limit : Nat} (positive : 0 < limit) :
    (label ++ escapeSlack value limit).count 10 = breaks value limit := by
  rw [List.count_append,plain,Nat.zero_add,count_escapeSlack value positive]

omit [WordTable] in
theorem count_slackFacts (alert : AlertRequest) : (slackFacts alert).count 10 =
    (if truthy alert.verdict then breaks (alert.verdict.getD []) 40 else 0) + breaks alert.investigationId 64 := by
  have sign : (lit " · ").count 10 = 0 := by decide
  have verdict : (lit "verdict " ++ escapeSlack (alert.verdict.getD []) 40).count 10 = breaks (alert.verdict.getD []) 40 :=
    count_labelled (by decide) _ (by decide)
  have investigation : (lit "investigation " ++ escapeSlack alert.investigationId 64).count 10 = breaks alert.investigationId 64 :=
    count_labelled (by decide) _ (by decide)
  unfold slackFacts
  rw [count_joined,sign,Nat.mul_zero,Nat.add_zero,List.count_flatten,sum_nonempty]
  simp only [List.map_cons,List.map_nil,List.sum_cons,List.sum_nil,Nat.add_zero,investigation]
  have severity : ((alert.severity.map fun severity => lit "severity " ++ escapeSlack (severityValue severity)).getD []).count 10 = 0 := by
    cases alert.severity with
    | none => rfl
    | some severity => exact count_severity severity
  rw [severity,Nat.zero_add]
  split_ifs
  · rw [verdict]
  · rfl

omit [WordTable] in
theorem slackFacts_some (alert : AlertRequest) : slackFacts alert ≠ [] := by
  have listed : lit "investigation " ++ escapeSlack alert.investigationId 64 <:+: slackFacts alert :=
    infix_joined (List.mem_filter.mpr ⟨by simp,by simp [lit]⟩)
  intro empty
  rw [empty] at listed
  have none := List.infix_nil.mp listed
  simp [lit] at none

/-- The lines of a Slack message that are left out are that of a summary of which nothing
    shows. -/
theorem slackLines_shown (alert : AlertRequest) : ((slackLines alert).filter fun line => line ≠ []).length =
    3 + (if Vanishes alert.summary then 0 else 1) + alert.highlights.length + if truthy alert.consoleUrl then 1 else 0 := by
  have summary : escapeSlack (defang alert.summary) 800 = [] ↔ Vanishes alert.summary :=
    (escapeSlack_nil _ (by decide)).trans (vanishes_defang _)
  have highlights : (alert.highlights.map fun item => lit "• " ++ escapeSlack (defang item)).filter (fun line => line ≠ []) =
      alert.highlights.map fun item => lit "• " ++ escapeSlack (defang item) := by
    refine List.filter_eq_self.mpr fun line listed => ?_
    obtain ⟨item,_,rfl⟩ := List.mem_map.mp listed
    simp [lit]
  have facts := slackFacts_some alert
  unfold slackLines
  simp only [List.filter_append,List.length_append,highlights,List.length_map]
  have first : ([lit "*" ++ escapeSlack (upper (priorityValue alert.priority)) ++ lit "* — " ++ escapeSlack alert.title 200,slackFacts alert,
      escapeSlack (defang alert.summary) 800].filter fun line => line ≠ []).length = 2 + if Vanishes alert.summary then 0 else 1 := by
    by_cases vanishes : Vanishes alert.summary
    · simp [lit,facts,summary.mpr vanishes,vanishes]
    · have shown : escapeSlack (defang alert.summary) 800 ≠ [] := fun empty => vanishes (summary.mp empty)
      simp [lit,facts,shown,vanishes]
  rw [first]
  split_ifs <;> simp [lit]
  all_goals omega

/-- The line feeds of a Slack message are those that show of its fields. -/
theorem slackLines_breaks (alert : AlertRequest) : ((slackLines alert).map fun line => line.count 10).sum = breaksOf alert := by
  have last : (lit "This alert was approved by an analyst. No remediation has been performed.").count 10 = 0 := by decide
  have highlights : ((alert.highlights.map fun item => lit "• " ++ escapeSlack (defang item)).map fun line => line.count 10) =
      (alert.highlights.map fun item => (defang item,maxLine)).map fun field => breaks field.1 field.2 := by
    have bullet : (lit "• ").count 10 = 0 := by decide
    have each : ∀ item, (lit "• " ++ escapeSlack (defang item)).count 10 = breaks (defang item) maxLine := fun item =>
      count_labelled bullet (defang item) (by decide)
    simp only [List.map_map,Function.comp_def,each]
  have head : (lit "*" ++ escapeSlack (upper (priorityValue alert.priority)) ++ lit "* — " ++ escapeSlack alert.title 200).count 10 =
      breaks alert.title 200 := by
    refine count_labelled ?_ _ (by decide)
    rw [List.count_append,List.count_append,count_priority]
    rfl
  have console : ((if truthy alert.consoleUrl then [lit "Investigation: " ++ escapeSlack (alert.consoleUrl.getD []) 300] else []).map
      fun line => line.count 10).sum = ((if truthy alert.consoleUrl then [(alert.consoleUrl.getD [],300)] else []).map
      fun field => breaks field.1 field.2).sum := by
    split_ifs
    · rw [List.map_singleton,List.map_singleton,count_labelled (by decide) _ (by decide)]
    · rfl
  have verdict : ((if truthy alert.verdict then [(alert.verdict.getD [],40)] else []).map fun field => breaks field.1 field.2).sum =
      if truthy alert.verdict then breaks (alert.verdict.getD []) 40 else 0 := by
    split_ifs
    · exact List.sum_singleton
    · rfl
  unfold slackLines breaksOf slackFields
  simp only [List.map_append,List.sum_append,List.map_cons,List.map_nil,List.sum_cons,List.sum_nil,highlights,head,count_slackFacts,last,
    console,verdict,count_escapeSlack _ (show 0 < 800 by decide)]
  omega

/-- A Slack message has its lines, and one more for each line feed that shows. -/
theorem lineCount_slack (alert : AlertRequest) : lineCount (renderSlack alert).body =
    3 + (if Vanishes alert.summary then 0 else 1) + alert.highlights.length + (if truthy alert.consoleUrl then 1 else 0) + breaksOf alert := by
  have lines := slackLines_shown alert
  have some : (slackLines alert).filter (fun line => line ≠ []) ≠ [] := by
    intro empty
    rw [empty,List.length_nil] at lines
    omega
  change lineCount (joined [10] _) = _
  rw [lineCount_joined some,sum_nonempty,slackLines_breaks,lines]
  omega

omit [WordTable] in
theorem joinBreaks_unbroken (inside : Bool) (text : Text) : ∀ c ∈ joinBreaks inside text, c ≠ 10 := by
  induction text generalizing inside with
  | nil => exact fun c member => absurd member List.not_mem_nil
  | cons d rest ih =>
    intro c member same
    rw [joinBreaks] at member
    split_ifs at member with breaks again
    · exact ih true c member same
    · rcases List.mem_cons.mp member with rfl | later
      · cases same
      · exact ih true c later same
    · rcases List.mem_cons.mp member with rfl | later
      · exact breaks (by rw [same]; rfl)
      · exact ih false c later same

omit [WordTable] in
/-- A field of an email has no line feed. -/
theorem count_escapePlain (value : Text) {limit : Nat} (positive : 0 < limit) : (escapePlain value limit).count 10 = 0 := by
  have unbroken : 10 ∉ strip (joinBreaks false (dropControl value)) := fun member =>
    joinBreaks_unbroken false _ 10 ((strip_sublist _).subset member) rfl
  rw [escapePlain,truncate_eq _ positive]
  split_ifs with short
  · exact List.count_eq_zero.mpr unbroken
  · refine List.count_eq_zero.mpr fun member => ?_
    rcases List.mem_append.mp member with inside | mark
    · exact unbroken (List.mem_of_mem_take inside)
    · exact absurd (List.mem_singleton.mp mark) (by decide)

/-- No line of an email has a line feed. -/
theorem emailLines_flat (alert : AlertRequest) : ∀ line ∈ emailLines alert, line.count 10 = 0 := by
  have labelled : ∀ (label value : Text) (limit : Nat), label.count 10 = 0 → 0 < limit → (label ++ escapePlain value limit).count 10 = 0 := by
    intro label value limit plain positive
    rw [List.count_append,plain,count_escapePlain value positive]
  have priority : (lit "Priority:      " ++ priorityValue alert.priority).count 10 = 0 := by cases alert.priority <;> decide
  have severity : (lit "Severity:      " ++ severityText alert).count 10 = 0 := by
    unfold severityText
    cases alert.severity with
    | none => decide
    | some severity => cases severity <;> decide
  intro line listed
  simp only [emailLines,List.mem_append,List.mem_cons,List.not_mem_nil,or_false] at listed
  rcases listed with (((((rfl | rfl | rfl | rfl) | listed) | rfl) | listed) | listed) | rfl | rfl | rfl
  · exact count_escapePlain _ (by decide)
  · rfl
  · exact priority
  · exact severity
  · split_ifs at listed
    · rw [List.mem_singleton.mp listed]
      exact labelled _ _ _ (by decide) (by decide)
    · cases listed
  · exact labelled _ _ _ (by decide) (by decide)
  · split_ifs at listed
    · simp only [List.mem_append,List.mem_cons,List.not_mem_nil,or_false,List.mem_map] at listed
      rcases listed with (rfl | rfl) | ⟨item,_,rfl⟩
      · rfl
      · decide
      · exact labelled _ _ _ (by decide) (by decide)
    · cases listed
  · split_ifs at listed
    · simp only [List.mem_cons,List.not_mem_nil,or_false] at listed
      rcases listed with rfl | rfl
      · rfl
      · exact labelled _ _ _ (by decide) (by decide)
    · cases listed
  · rfl
  · decide
  · decide

theorem length_emailLines (alert : AlertRequest) : (emailLines alert).length =
    8 + (if truthy alert.verdict then 1 else 0) + (if alert.highlights = [] then 0 else 2 + alert.highlights.length) +
      2 * if truthy alert.consoleUrl then 1 else 0 := by
  have verdict : (if truthy alert.verdict then [lit "Verdict:       " ++ escapePlain (alert.verdict.getD []) 40] else []).length =
      if truthy alert.verdict then 1 else 0 := by
    split_ifs
    · rfl
    · rfl
  have highlights : (if alert.highlights ≠ [] then [[],lit "Highlights:"] ++ alert.highlights.map fun item => lit "  - " ++ escapePlain (defang item)
      else []).length = if alert.highlights = [] then 0 else 2 + alert.highlights.length := by
    by_cases none : alert.highlights = []
    · rw [if_neg (not_not.mpr none),if_pos none]
      rfl
    · rw [if_pos none,if_neg none,List.length_append,List.length_map]
      rfl
  have console : (if truthy alert.consoleUrl then [[],lit "Open the investigation: " ++ escapePlain (alert.consoleUrl.getD []) 300]
      else []).length = 2 * if truthy alert.consoleUrl then 1 else 0 := by
    split_ifs
    · rfl
    · rfl
  unfold emailLines
  simp only [List.length_append,List.length_cons,List.length_nil,verdict,highlights,console]
  omega

/-- An email has one line for each that is joined. -/
theorem lineCount_email (alert : AlertRequest) : lineCount (renderEmail alert).body =
    8 + (if truthy alert.verdict then 1 else 0) + (if alert.highlights = [] then 0 else 2 + alert.highlights.length) +
      2 * if truthy alert.consoleUrl then 1 else 0 := by
  have some : emailLines alert ≠ [] := by simp [emailLines]
  have none : ((emailLines alert).map fun line => line.count 10).sum = 0 := by
    refine List.sum_eq_zero fun n listed => ?_
    obtain ⟨line,member,rfl⟩ := List.mem_map.mp listed
    exact emailLines_flat alert line member
  change lineCount (joined [10] _) = _
  rw [lineCount_joined some,none,Nat.zero_add]
  exact length_emailLines alert

/-! ### The entities of a Slack message -/

omit [WordTable] in
theorem written_field {value : Text} {limit : Nat} (positive : 0 < limit) (between : CutsBetween value limit) :
    Written (escapeSlack value limit) := by
  obtain ⟨part,_,clean,⟨_,same⟩ | same⟩ := escapeSlack_shape value positive
  · exact ⟨_,same⟩
  · rw [clean.mp between,List.append_nil] at same
    rw [same]
    exact Written.append ⟨_,rfl⟩ (written_plain (by decide))

omit [WordTable] in
theorem not_written_field {value body : Text} {limit : Nat} (positive : 0 < limit) (cut : ¬ CutsBetween value limit)
    (stands : escapeSlack value limit <:+: body) : ¬ WellEscaped body := by
  obtain ⟨part,few,clean,⟨none,_⟩ | same⟩ := escapeSlack_shape value positive
  · exact absurd (clean.mpr none) cut
  · refine not_wellEscaped (few.resolve_left fun none => cut (clean.mpr none)) (List.IsInfix.trans ?_ stands)
    rw [same,List.append_assoc]
    exact (List.suffix_append _ _).isInfix

omit [WordTable] in
theorem written_slackFacts {alert : AlertRequest} (verdict : truthy alert.verdict = true → CutsBetween (alert.verdict.getD []) 40)
    (investigation : CutsBetween alert.investigationId 64) : Written (slackFacts alert) := by
  refine written_joined (written_plain (by decide)) fun part listed => ?_
  have member := (List.mem_filter.mp listed).1
  simp only [List.mem_cons,List.not_mem_nil,or_false] at member
  rcases member with rfl | rfl | rfl
  · cases alert.severity with
    | none => exact ⟨[],rfl⟩
    | some severity => exact written_plain (by cases severity <;> decide)
  · split_ifs with present
    · exact (written_plain (by decide)).append (written_field (by decide) (verdict present))
    · exact ⟨[],rfl⟩
  · exact (written_plain (by decide)).append (written_field (by decide) investigation)

/-- A message of which every field is cut between its characters escapes a text. -/
theorem written_slack {alert : AlertRequest} (clean : ∀ field ∈ slackFields alert, CutsBetween field.1 field.2) :
    Written (renderSlack alert).body := by
  have title : CutsBetween alert.title 200 := clean (alert.title,200) (by simp [slackFields])
  have summary : CutsBetween (defang alert.summary) 800 := clean (defang alert.summary,800) (by simp [slackFields])
  have investigation : CutsBetween alert.investigationId 64 := clean (alert.investigationId,64) (by simp [slackFields])
  have verdict : truthy alert.verdict = true → CutsBetween (alert.verdict.getD []) 40 :=
    fun present => clean (alert.verdict.getD [],40) (by simp [slackFields,present])
  have console : truthy alert.consoleUrl = true → CutsBetween (alert.consoleUrl.getD []) 300 :=
    fun present => clean (alert.consoleUrl.getD [],300) (by simp [slackFields,present])
  have highlight : ∀ item ∈ alert.highlights, CutsBetween (defang item) maxLine := fun item listed =>
    clean (defang item,maxLine) (by simp only [slackFields,List.mem_append,List.mem_map]; exact .inl (.inr ⟨item,listed,rfl⟩))
  have priority : Written (escapeSlack (upper (priorityValue alert.priority))) := written_plain (by cases alert.priority <;> decide)
  refine written_joined (written_plain (by decide)) fun line listed => ?_
  have member := (List.mem_filter.mp listed).1
  simp only [slackLines,List.mem_append,List.mem_cons,List.not_mem_nil,or_false,List.mem_map] at member
  rcases member with (((rfl | rfl | rfl) | ⟨item,quoted,rfl⟩) | link) | rfl
  · exact (((written_plain (by decide)).append priority).append (written_plain (by decide))).append (written_field (by decide) title)
  · exact written_slackFacts verdict investigation
  · exact written_field (by decide) summary
  · exact (written_plain (by decide)).append (written_field (by decide) (highlight item quoted))
  · split_ifs at link with present
    · rw [List.mem_singleton.mp link]
      exact (written_plain (by decide)).append (written_field (by decide) (console present))
    · cases link
  · exact written_plain (by decide)

omit [WordTable] in
theorem fact_within {alert : AlertRequest} {label value : Text} (labelled : label ≠ [])
    (listed : label ++ value = lit "investigation " ++ escapeSlack alert.investigationId 64 ∨
      truthy alert.verdict = true ∧ label ++ value = lit "verdict " ++ escapeSlack (alert.verdict.getD []) 40) : value <:+: slackFacts alert := by
  refine (List.suffix_append label value).isInfix.trans (infix_joined (List.mem_filter.mpr ⟨?_,by simp [labelled]⟩))
  rcases listed with same | ⟨present,same⟩
  · simp [same]
  · simp [same,present]

/-- Every field stands in the message. -/
theorem field_within {alert : AlertRequest} {field : Text × Nat} (listed : field ∈ slackFields alert) :
    escapeSlack field.1 field.2 <:+: (renderSlack alert).body ∧ 0 < field.2 := by
  have shown : ∀ {line : Text}, line ∈ slackLines alert → line ≠ [] → line <:+: (renderSlack alert).body :=
    fun member some => infix_joined (List.mem_filter.mpr ⟨member,by simpa using some⟩)
  have facts : slackFacts alert <:+: (renderSlack alert).body := shown (by simp [slackLines]) (slackFacts_some alert)
  simp only [slackFields,List.mem_append,List.mem_cons,List.not_mem_nil,or_false,List.mem_map] at listed
  rcases listed with (((rfl | present) | rfl | rfl) | ⟨item,quoted,rfl⟩) | present
  · have head : lit "*" ++ escapeSlack (upper (priorityValue alert.priority)) ++ lit "* — " ++ escapeSlack alert.title 200 ∈ slackLines alert := by
      simp [slackLines]
    exact ⟨(List.suffix_append _ _).isInfix.trans (shown head (by simp [lit])),Nat.succ_pos _⟩
  · split_ifs at present with there
    · rw [List.mem_singleton.mp present]
      exact ⟨(fact_within (by simp [lit]) (.inr ⟨there,rfl⟩)).trans facts,Nat.succ_pos _⟩
    · cases present
  · exact ⟨(fact_within (by simp [lit]) (.inl rfl)).trans facts,Nat.succ_pos _⟩
  · exact ⟨slackQuotes_body alert _ (List.mem_cons_self ..),Nat.succ_pos _⟩
  · exact ⟨slackQuotes_body alert _ (List.mem_cons_of_mem _ (List.mem_map.mpr ⟨item,quoted,rfl⟩)),(by decide : 0 < maxLine)⟩
  · split_ifs at present with there
    · rw [List.mem_singleton.mp present]
      have link : lit "Investigation: " ++ escapeSlack (alert.consoleUrl.getD []) 300 ∈ slackLines alert := by
        simp [slackLines,there]
      exact ⟨(List.suffix_append _ _).isInfix.trans (shown link (by simp [lit])),Nat.succ_pos _⟩
    · cases present

/-- A Slack message holds whole entities only just when every field is cut between its
    characters. -/
theorem wellEscaped_iff (alert : AlertRequest) :
    WellEscaped (renderSlack alert).body ↔ ∀ field ∈ slackFields alert, CutsBetween field.1 field.2 := by
  constructor
  · intro escaped field listed
    by_contra cut
    obtain ⟨stands,positive⟩ := field_within listed
    exact not_written_field positive cut stands escaped
  · exact fun clean => (written_slack clean).wellEscaped

/-! ### Alerts of one shape -/

/-- As many highlights, the same enumerated fields, the same optional fields given. -/
structure SameShape (a b : AlertRequest) : Prop where
  highlights : a.highlights.length = b.highlights.length
  priority : a.priority = b.priority
  severity : a.severity = b.severity
  verdict : a.verdict.isSome = b.verdict.isSome
  consoleUrl : a.consoleUrl.isSome = b.consoleUrl.isSome

/-- Both messages have as many lines for one alert as for the other. -/
def SameLines (a b : AlertRequest) : Prop :=
  lineCount (renderSlack a).body = lineCount (renderSlack b).body ∧ lineCount (renderEmail a).body = lineCount (renderEmail b).body

/-- As many line feeds show of one alert as of the other, a summary of which nothing shows
    taking one away; and they leave the same optional fields empty. -/
structure BreaksAlike (a b : AlertRequest) : Prop where
  breaks : breaksOf a + (if Vanishes a.summary then 0 else 1) = breaksOf b + if Vanishes b.summary then 0 else 1
  verdict : truthy a.verdict = truthy b.verdict
  consoleUrl : truthy a.consoleUrl = truthy b.consoleUrl

omit [WordTable] in
/-- The optional lines of an email are told apart by their number. -/
theorem optional_lines (n : Nat) (v w c d : Bool) (same : 8 + (if v then 1 else 0) + n + 2 * (if c then 1 else 0) =
    8 + (if w then 1 else 0) + n + 2 * if d then 1 else 0) : v = w ∧ c = d := by
  cases v <;> cases w <;> cases c <;> cases d <;> simp at same ⊢ <;> omega

theorem sameLines_iff {a b : AlertRequest} (shape : SameShape a b) : SameLines a b ↔ BreaksAlike a b := by
  have highlights := shape.highlights
  have none : a.highlights = [] ↔ b.highlights = [] := by rw [← List.length_eq_zero_iff,highlights,List.length_eq_zero_iff]
  unfold SameLines
  rw [lineCount_slack,lineCount_slack,lineCount_email,lineCount_email]
  constructor
  · rintro ⟨slack,email⟩
    simp only [none,highlights] at slack email
    have options := optional_lines _ _ _ _ _ email
    refine ⟨?_,options.1,options.2⟩
    rw [options.2] at slack
    omega
  · rintro ⟨breaks,verdict,console⟩
    simp only [none,highlights,verdict,console]
    exact ⟨by omega,trivial⟩

/-- For alerts of one shape the messages have the same numbers of lines and whole entities
    just when as many line feeds show of both and no cut falls within an entity. -/
theorem lines_and_entities_iff {a b : AlertRequest} (shape : SameShape a b) :
    SameLines a b ∧ WellEscaped (renderSlack a).body ∧ WellEscaped (renderSlack b).body ↔
      BreaksAlike a b ∧ ∀ field ∈ slackFields a ++ slackFields b, CutsBetween field.1 field.2 := by
  rw [sameLines_iff shape,wellEscaped_iff,wellEscaped_iff,List.forall_mem_append]

end

/-! ### Alerts on one host -/

theorem says_malware : strip (lit "Malware found") ≠ [] ∧ (lit "Malware found").length ≤ 1200 := by decide

theorem one_highlight (host : Text) : [host].length ≤ 8 := Nat.le_add_left 1 7

def naming (host : Text) : AlertRequest := { quoting (lit "Malware found") says_malware with highlights := [host],short := one_highlight host }

/-- A verdict whose cut falls within the entity of its ampersand. -/
def cutWithin : AlertRequest := { naming (lit "web-01") with verdict := some (List.replicate 36 120 ++ lit "& more") }

theorem naming_clean : ∀ host ∈ [lit "web-01",lit "db-02"], ∀ field ∈ @slackFields asciiWords (naming host), CutsBetween field.1 field.2 := by
  decide +kernel

theorem hosts_lines_and_entities : @SameLines asciiWords (naming (lit "web-01")) (naming (lit "db-02")) ∧
    WellEscaped (@renderSlack asciiWords (naming (lit "web-01"))).body ∧ WellEscaped (@renderSlack asciiWords (naming (lit "db-02"))).body := by
  let := asciiWords
  refine (@lines_and_entities_iff asciiWords (naming (lit "web-01")) (naming (lit "db-02")) ⟨rfl,rfl,rfl,rfl,rfl⟩).mpr
    ⟨⟨by decide +kernel,rfl,rfl⟩,List.forall_mem_append.mpr ⟨?_,?_⟩⟩
  · exact naming_clean _ (by simp)
  · exact naming_clean _ (by simp)

/-- A highlight adds a line of its own, and a cut leaves half an entity. -/
theorem line_forged : (SameShape (naming (lit "web-01" ++ [10] ++ lit "No action is required.")) (naming (lit "web-01")) ∧
      ¬ @SameLines asciiWords (naming (lit "web-01" ++ [10] ++ lit "No action is required.")) (naming (lit "web-01"))) ∧
    ¬ WellEscaped (@renderSlack asciiWords cutWithin).body := by
  refine ⟨⟨⟨rfl,rfl,rfl,rfl,rfl⟩,fun same => ?_⟩,fun escaped => ?_⟩
  · have more := same.1
    rw [@lineCount_slack asciiWords,@lineCount_slack asciiWords] at more
    exact absurd more (by decide +kernel)
  · have clean := (@wellEscaped_iff asciiWords cutWithin).mp escaped
    exact absurd (clean (cutWithin.verdict.getD [],40) (by decide +kernel)) (by decide +kernel)

end SocAnalyst.AlertLines
