import SocAnalyst.ReportRendering

/-!
# The outline of a report

What untrusted text can do to the lines of the technical document. Only the detail of a
finding starts a line.
-/
namespace SocAnalyst.ReportOutlines
open SocAnalyst.Builtins SocAnalyst.Times SocAnalyst.Dicts SocAnalyst.Values SocAnalyst.Assessments SocAnalyst.Reporting
open SocAnalyst.LogAnalysis SocAnalyst.Markdown SocAnalyst.ReportRendering
open SocAnalyst.IncidentReports (ReportSectionKind FindingSupport ReportFinding ReportCaveat ReportTimelineEntry percent)
open SocAnalyst.Graph (Mapping number get severityValue)

/-! ### Markers that are not neutralized -/

/-- Two to six number signs and a blank, or one alone. -/
def forgesHeading (text : Text) : Bool :=
  ((text.takeWhile (· == 35)).length == 1 && (text.dropWhile (· == 35)).isEmpty) ||
    (2 ≤ (text.takeWhile (· == 35)).length && (text.takeWhile (· == 35)).length ≤ 6 && blankNext (text.dropWhile (· == 35)))

/-- A quote mark with no space after it. -/
def forgesQuote : Text → Bool
  | [] => false
  | c :: rest => c == 62 && !spaceNext rest

/-- A bullet alone. -/
def forgesBullet : Text → Bool
  | [] => false
  | c :: rest => (c == 45 || c == 43 || c == 42) && rest.isEmpty

/-- A point alone, or a parenthesis and a blank. -/
def undelimited : Text → Bool
  | [] => false
  | c :: rest => (c == 46 && rest.isEmpty) || (c == 41 && blankNext rest)

def forgesNumber (text : Text) : Bool :=
  1 ≤ (text.takeWhile isDigit).length && (text.takeWhile isDigit).length ≤ 9 && undelimited (text.dropWhile isDigit)

/-- What shows of a detail. -/
def visible (text : Text) : Text := if 2000 < text.length then text.take 1999 else text

/-- Whether a text opens with a marker that is left as it is; a code fence shows only up to
    the cut. -/
def forgesText (text : Text) : Bool :=
  forgesHeading text || forgesQuote text || forgesBullet text || forgesNumber text || opensFence (visible text)

/-- Whether a detail, its line breaks made blanks and trimmed, opens with such a marker. -/
def forges (detail : Text) : Bool := forgesText (flattened detail)

theorem blankNext_solid {rest : Text} (solid : spaceNext rest = false) : blankNext rest = rest.isEmpty := by
  cases rest with
  | nil => rfl
  | cons c more =>
    have other : c ≠ 32 ∧ c ≠ 9 := by
      constructor
      · rintro rfl
        cases solid
      · rintro rfl
        cases solid
    simp [blankNext,other.1,other.2]

section
variable [Interpreter]

theorem markers_undigited : ∀ c ∈ [35,62,45,42,43,96,126,46,41], Versions.isDigit c = false := by
  have ascii : ∀ c ∈ [35,62,45,42,43,96,126,46,41], c < 128 ∧ asciiDigit c = none := by decide
  intro c listed
  obtain ⟨small,none⟩ := ascii c listed
  rw [Versions.isDigit,Interpreter.decimal_ascii c small,none]
  rfl

theorem digit_isDigit {c : Nat} (digit : isDigit c = true) : Versions.isDigit c = true := by
  simp only [isDigit,Bool.and_eq_true,decide_eq_true_eq] at digit
  rw [Versions.isDigit,Interpreter.decimal_ascii c (by omega),asciiDigit,if_pos digit]
  rfl

/-- Digits before a delimiter are all the digits that the interpreter knows there. -/
theorem dropWhile_delimited {text rest : Text} {c : Nat} (next : text.dropWhile isDigit = c :: rest) (delimiter : c = 46 ∨ c = 41) :
    text.takeWhile Versions.isDigit = text.takeWhile isDigit ∧ text.dropWhile Versions.isDigit = c :: rest := by
  have stop : Versions.isDigit c = false := markers_undigited c (by rcases delimiter with rfl | rfl <;> decide)
  have whole : text.takeWhile isDigit ++ c :: rest = text := by rw [← next,List.takeWhile_append_dropWhile]
  have digits : ∀ d ∈ text.takeWhile isDigit, Versions.isDigit d = true := fun d member => digit_isDigit (List.mem_takeWhile_imp member)
  constructor
  · conv_lhs => rw [← whole]
    rw [List.takeWhile_append_of_pos digits,List.takeWhile_cons_of_neg (by simp [stop]),List.append_nil]
  · conv_lhs => rw [← whole]
    rw [List.dropWhile_append_of_pos digits,List.dropWhile_cons_of_neg (by simp [stop])]

/-! ### Neutralized or not -/

omit [Interpreter] in
theorem visible_cons (c : Nat) (rest : Text) : ∃ more, visible (c :: rest) = c :: more := by
  unfold visible
  split_ifs
  · exact ⟨rest.take 1998,rfl⟩
  · exact ⟨rest,rfl⟩

omit [Interpreter] in
theorem opensFence_head {c : Nat} (backtick : c ≠ 96) (tilde : c ≠ 126) (rest : Text) : opensFence (c :: rest) = false := by
  simp [opensFence,backtick,tilde]

theorem forgesNumber_structured {text : Text} (next : pointNext (text.dropWhile Versions.isDigit) = true) : forgesNumber text = false := by
  cases after : text.dropWhile isDigit with
  | nil => simp [forgesNumber,after,undelimited]
  | cons c rest =>
    by_cases delimiter : c = 46 ∨ c = 41
    · rw [(dropWhile_delimited after delimiter).2] at next
      obtain ⟨point,space⟩ : c = 46 ∧ spaceNext rest = true := by simpa [pointNext] using next
      have some : rest.isEmpty = false := by
        cases rest with
        | nil => cases space
        | cons d more => rfl
      simp [forgesNumber,after,undelimited,point,some]
    · rw [not_or] at delimiter
      simp [forgesNumber,after,undelimited,delimiter.1,delimiter.2]

/-- A text that is neutralized opens with no other marker. -/
theorem forges_structured {text : Text} (structured : Structured text) : forgesText text = false := by
  rcases structured with marker | ⟨some,next⟩
  · cases text with
    | nil => cases marker
    | cons c rest =>
      cases rest with
      | nil => simp [markerNext,spaceNext] at marker
      | cons s more =>
        obtain ⟨named,space⟩ : isMarker c = true ∧ isSpace s = true := by simpa [markerNext,spaceNext] using marker
        have sign : s ≠ 35 := by
          rintro rfl
          cases space
        obtain ⟨shown,begins⟩ := visible_cons c (s :: more)
        simp only [isMarker,Bool.or_eq_true,beq_iff_eq] at named
        rcases named with (((rfl | rfl) | rfl) | rfl) | rfl
        all_goals
          rw [forgesText,begins,opensFence_head (by decide) (by decide)]
          simp [forgesHeading,forgesQuote,forgesBullet,forgesNumber,spaceNext,isDigit,sign,space]
  · cases text with
    | nil => exact absurd rfl some
    | cons d rest =>
      have digit : Versions.isDigit d = true := by
        by_contra other
        exact some (List.takeWhile_cons_of_neg other)
      have others : ∀ c ∈ [35,62,45,42,43,96,126,46,41], d ≠ c := by
        rintro c listed rfl
        rw [markers_undigited d listed] at digit
        cases digit
      simp only [List.forall_mem_cons] at others
      obtain ⟨sign,quote,hyphen,asterisk,plus,backtick,tilde,_⟩ := others
      obtain ⟨shown,begins⟩ := visible_cons d rest
      rw [forgesText,forgesNumber_structured next,begins,opensFence_head backtick tilde]
      simp [forgesHeading,forgesQuote,forgesBullet,sign,quote,hyphen,asterisk,plus]

theorem heading_unstructured {text : Text} (free : ¬ Structured text) : opensHeading text = forgesHeading text := by
  cases text with
  | nil => rfl
  | cons c rest =>
    by_cases sign : c = 35
    · subst sign
      by_cases more : (rest.takeWhile (· == 35)).length = 0
      · have solid : spaceNext rest = false := by
          by_contra space
          exact free (.inl (by simpa [markerNext,isMarker] using space))
        have same : rest.dropWhile (· == 35) = rest := by
          have none := List.length_eq_zero_iff.mp more
          calc rest.dropWhile (· == 35) = rest.takeWhile (· == 35) ++ rest.dropWhile (· == 35) := by rw [none,List.nil_append]
            _ = rest := List.takeWhile_append_dropWhile
        simp [opensHeading,forgesHeading,more,same,blankNext_solid solid]
      · obtain ⟨n,size⟩ := Nat.exists_eq_succ_of_ne_zero more
        simp [opensHeading,forgesHeading,size]
    · simp [opensHeading,forgesHeading,sign]

theorem quote_unstructured {text : Text} (free : ¬ Structured text) : opensQuote text = forgesQuote text := by
  cases text with
  | nil => rfl
  | cons c rest =>
    by_cases quote : c = 62
    · subst quote
      have solid : spaceNext rest = false := by
        by_contra space
        exact free (.inl (by simpa [markerNext,isMarker] using space))
      simp [opensQuote,forgesQuote,solid]
    · simp [opensQuote,forgesQuote,quote]

theorem bullet_unstructured {text : Text} (free : ¬ Structured text) : opensBullet text = forgesBullet text := by
  cases text with
  | nil => rfl
  | cons c rest =>
    by_cases bullet : c = 45 ∨ c = 43 ∨ c = 42
    · have solid : spaceNext rest = false := by
        by_contra space
        exact free (.inl (by rcases bullet with rfl | rfl | rfl <;> simpa [markerNext,isMarker] using space))
      rw [opensBullet,forgesBullet,blankNext_solid solid]
    · have other : (c == 45 || c == 43 || c == 42) = false := by simpa [← or_assoc] using bullet
      rw [opensBullet,forgesBullet,other,Bool.false_and,Bool.false_and]

theorem number_unstructured {text : Text} (free : ¬ Structured text) : opensNumber text = forgesNumber text := by
  by_cases some : (text.takeWhile isDigit).length = 0
  · simp [opensNumber,forgesNumber,some]
  · have same : delimited (text.dropWhile isDigit) = undelimited (text.dropWhile isDigit) := by
      cases after : text.dropWhile isDigit with
      | nil => rfl
      | cons c rest =>
        by_cases point : c = 46
        · obtain ⟨digits,whole⟩ := dropWhile_delimited after (.inl point)
          have solid : spaceNext rest = false := by
            by_contra space
            refine free (.inr ⟨?_,?_⟩)
            · rw [digits]
              exact fun none => some (by rw [none]; rfl)
            · rw [whole]
              simpa [pointNext,point] using space
          simp [delimited,undelimited,point,blankNext_solid solid]
        · simp [delimited,undelimited,beq_false_of_ne point]
    rw [opensNumber,forgesNumber,same]

end

/-! ### The cut -/

/-- Texts that begin alike begin with the same run, and then go on alike, unless both runs
    are longer than that beginning. -/
theorem run_alike {p : Nat → Bool} {first second : Text} {n : Nat} (alike : first.take n = second.take n) :
    (first.takeWhile p = second.takeWhile p ∧ (first.takeWhile p).length < n ∧
      (first.dropWhile p).take (n - (first.takeWhile p).length) = (second.dropWhile p).take (n - (first.takeWhile p).length)) ∨
    (n ≤ (first.takeWhile p).length ∧ n ≤ (second.takeWhile p).length) := by
  induction n generalizing first second with
  | zero => exact .inr ⟨Nat.zero_le _,Nat.zero_le _⟩
  | succ n ih =>
    cases first with
    | nil =>
      cases second with
      | nil => exact .inl ⟨rfl,Nat.succ_pos n,rfl⟩
      | cons d others => cases alike
    | cons c rest =>
      cases second with
      | nil => cases alike
      | cons d others =>
        rw [List.take_succ_cons,List.take_succ_cons] at alike
        injection alike with head tail
        subst head
        by_cases within : p c = true
        · simp only [List.takeWhile_cons_of_pos within,List.dropWhile_cons_of_pos within,List.length_cons,List.cons.injEq,true_and,
            Nat.succ_lt_succ_iff,Nat.succ_sub_succ,Nat.succ_le_succ_iff]
          exact ih tail
        · left
          simp [List.takeWhile_cons_of_neg within,List.dropWhile_cons_of_neg within,tail]

theorem blankNext_alike {first second : Text} {n : Nat} (some : 0 < n) (alike : first.take n = second.take n) :
    blankNext first = blankNext second := by
  obtain ⟨m,rfl⟩ := Nat.exists_eq_succ_of_ne_zero some.ne'
  cases first with
  | nil => cases second with
    | nil => rfl
    | cons d others => cases alike
  | cons c rest => cases second with
    | nil => cases alike
    | cons d others =>
      rw [List.take_succ_cons,List.take_succ_cons] at alike
      injection alike with head _
      rw [head]
      rfl

theorem heads_alike {first second : Text} {n : Nat} (some : 1 < n) (alike : first.take n = second.take n) :
    opensQuote first = opensQuote second ∧ opensBullet first = opensBullet second ∧ delimited first = delimited second := by
  obtain ⟨m,rfl⟩ := Nat.exists_eq_succ_of_ne_zero (Nat.lt_of_succ_lt some).ne'
  cases first with
  | nil => cases second with
    | nil => exact ⟨rfl,rfl,rfl⟩
    | cons d others => cases alike
  | cons c rest => cases second with
    | nil => cases alike
    | cons d others =>
      rw [List.take_succ_cons,List.take_succ_cons] at alike
      injection alike with head tail
      have next : blankNext rest = blankNext others := blankNext_alike (Nat.lt_of_succ_lt_succ some) tail
      subst head
      exact ⟨rfl,congrArg (_ && ·) next,congrArg (_ && ·) next⟩

theorem heading_alike {first second : Text} {n : Nat} (long : 6 < n) (alike : first.take n = second.take n) :
    opensHeading first = opensHeading second := by
  rcases run_alike (p := (· == 35)) alike with ⟨run,short,after⟩ | ⟨more,others⟩
  · rw [opensHeading,opensHeading,← run,blankNext_alike (by omega) after]
  · have much : ¬ (first.takeWhile (· == 35)).length ≤ 6 ∧ ¬ (second.takeWhile (· == 35)).length ≤ 6 := ⟨by omega,by omega⟩
    simp [opensHeading,much.1,much.2]

theorem number_alike {first second : Text} {n : Nat} (long : 10 < n) (alike : first.take n = second.take n) :
    opensNumber first = opensNumber second := by
  rcases run_alike (p := isDigit) alike with ⟨run,short,after⟩ | ⟨more,others⟩
  · by_cases few : (first.takeWhile isDigit).length ≤ 9
    · rw [opensNumber,opensNumber,← run,(heads_alike (by omega) after).2.2]
    · simp [opensNumber,← run,few]
  · have much : ¬ (first.takeWhile isDigit).length ≤ 9 ∧ ¬ (second.takeWhile isDigit).length ≤ 9 := ⟨by omega,by omega⟩
    simp [opensNumber,much.1,much.2]

/-- The sign of the cut adds nothing to a code fence. -/
theorem fence_cut (text : Text) : opensFence (text ++ [8230]) = opensFence text := by
  have run : ∀ mark ∈ [96,126], (text ++ [8230]).takeWhile (· == mark) = text.takeWhile (· == mark) := by
    intro mark listed
    have other : [8230].takeWhile (· == mark) = [] := by
      revert mark
      decide
    rw [List.takeWhile_append]
    split_ifs with whole
    · rw [other,List.append_nil]
      exact ((List.takeWhile_prefix _).eq_of_length whole).symm
    · rfl
  have rest : ((text ++ [8230]).dropWhile (· == 96)).contains 96 = (text.dropWhile (· == 96)).contains 96 := by
    rw [List.dropWhile_append]
    split_ifs with empty
    · rw [List.isEmpty_iff.mp empty]
      rfl
    · simp
  rw [opensFence,opensFence,run 96 (by simp),run 126 (by simp),rest]

theorem shortened_eq (text : Text) : shortened text 2000 = if 2000 < text.length then text.take 1999 ++ [8230] else text := rfl

theorem fence_shortened (text : Text) : opensFence (shortened text 2000) = opensFence (visible text) := by
  rw [shortened_eq,visible]
  split_ifs
  · exact fence_cut _
  · rfl

theorem shortened_alike (text : Text) : (shortened text 2000).take 1999 = text.take 1999 := by
  rw [shortened_eq]
  split_ifs with long
  · rw [List.take_append_of_le_length (by rw [List.length_take]; omega),List.take_take,Nat.min_self]
  · rfl

/-! ### An escaped value -/

theorem plain_joinBreakers (inside : Bool) (text : Text) : Plain (joinBreakers inside text) := by
  induction text generalizing inside with
  | nil => intro c member; cases member
  | cons c rest ih =>
    rw [joinBreakers]
    split_ifs with breaker started
    · exact ih true
    · exact List.forall_mem_cons.mpr ⟨by decide,ih true⟩
    · refine List.forall_mem_cons.mpr ⟨?_,ih false⟩
      refine ⟨?_,?_,?_⟩
      all_goals
        rintro rfl
        exact breaker rfl

theorem plain_flattened (text : Text) : Plain (flattened text) := fun c member =>
  plain_joinBreakers false text c ((strip_sublist _).subset member)

/-- Nothing blank is at the start of a trimmed text. -/
theorem trimmed_start (text : Text) : (strip text).dropWhile isSpace = strip text := by
  have start := List.head?_dropWhile_not isSpace text
  unfold strip
  cases left : text.dropWhile isSpace with
  | nil => rfl
  | cons c rest =>
    rw [left] at start
    have solid : isSpace c = false := by simpa using start
    cases right : (c :: rest).rdropWhile isSpace with
    | nil => rfl
    | cons d more =>
      have same : d = c := by
        obtain ⟨tail,whole⟩ := List.rdropWhile_prefix isSpace (l := c :: rest)
        rw [right,List.cons_append] at whole
        injection whole
      exact List.dropWhile_cons_of_neg (by simp [same,solid])

/-- A text whose last character is no blank. -/
def Closed (text : Text) : Prop := ∃ c, text.getLast? = some c ∧ isSpace c = false

theorem Closed.after {text : Text} (closed : Closed text) (before : Text) : Closed (before ++ text) := by
  obtain ⟨c,last,solid⟩ := closed
  have some : text ≠ [] := by rintro rfl; cases last
  exact ⟨c,by rw [List.getLast?_append_of_ne_nil _ some,last],solid⟩

theorem closed_strip {text : Text} (some : strip text ≠ []) : Closed (strip text) := by
  have last := List.rdropWhile_last_not isSpace (text.dropWhile isSpace) some
  rw [Bool.not_eq_true] at last
  exact ⟨(strip text).getLast some,List.getLast?_eq_getLast_of_ne_nil some,last⟩

section
variable [Printer]

theorem neutralize_eq (text : Text) : neutralize (flattened text) = flattened text ∧ ¬ Structured (flattened text) ∨
    neutralize (flattened text) = 92 :: flattened text ∧ Structured (flattened text) := by
  have start : (flattened text).dropWhile isSpace = flattened text := trimmed_start _
  have none : (flattened text).takeWhile isSpace = [] := by
    have whole := List.takeWhile_append_dropWhile (p := isSpace) (l := flattened text)
    rw [start] at whole
    exact List.append_left_eq_self.mp whole
  unfold neutralize
  rw [start,none]
  split_ifs with structured
  · exact .inr ⟨rfl,structured⟩
  · exact .inl ⟨rfl,structured⟩

omit [Printer] in
theorem plain_shortened {text : Text} (plain : Plain text) (limit : Nat) : Plain (shortened text limit) := by
  unfold shortened
  split_ifs
  · exact Plain.append (fun c member => plain c (List.mem_of_mem_take member)) (by decide)
  · exact plain

theorem plain_escapeCell (value : Value) (limit : Nat) : Plain (escapeCell value limit) := by
  have plain : ∀ text, Plain (orDash (shortened (neutralize (flattened text)) limit)) := by
    intro text
    have start : Plain (neutralize (flattened text)) := by
      rcases neutralize_eq text with ⟨same,_⟩ | ⟨marked,_⟩
      · rw [same]
        exact plain_flattened text
      · rw [marked]
        exact List.forall_mem_cons.mpr ⟨by decide,plain_flattened text⟩
    unfold orDash
    split_ifs
    · decide
    · exact plain_shortened start limit
  cases value with
  | null => exact (by decide : Plain (lit "—"))
  | _ => exact plain _

theorem closed_escapeCell (value : Value) (limit : Nat) : Closed (escapeCell value limit) := by
  have closed : ∀ text, Closed (orDash (shortened (neutralize (flattened text)) limit)) := by
    intro text
    unfold orDash
    split_ifs with empty
    · exact ⟨8212,rfl,rfl⟩
    · unfold shortened at empty ⊢
      split_ifs at empty ⊢ with long
      · exact Closed.after ⟨8230,rfl,rfl⟩ _
      · rcases neutralize_eq text with ⟨same,_⟩ | ⟨marked,structured⟩
        · rw [same] at empty ⊢
          exact closed_strip empty
        · rw [marked]
          refine Closed.after (closed_strip fun none => ?_) [92]
          rw [flattened,none] at structured
          rcases structured with marker | ⟨some,_⟩
          · cases marker
          · exact some rfl
  cases value with
  | null => exact ⟨8212,rfl,rfl⟩
  | _ => exact closed _

omit [Printer] in
/-- A line that starts with no blank opens a block just when it starts with a marker. -/
theorem opensBlock_solid {c : Nat} (solid : c ≠ 32) (rest : Text) : opensBlock (c :: rest) = opensMarker (c :: rest) := by
  simp [opensBlock,solid]

/-- A detail opens a block just when its marker is left as it is. -/
theorem opensBlock_detail (detail : Text) : opensBlock (escapeCell (.str detail) 2000) = forges detail := by
  change opensBlock (orDash (shortened (neutralize (flattened detail)) 2000)) = forgesText (flattened detail)
  rcases neutralize_eq detail with ⟨same,free⟩ | ⟨marked,structured⟩
  · rw [same]
    have start := trimmed_start (joinBreakers false detail)
    change (flattened detail).dropWhile isSpace = flattened detail at start
    cases text : flattened detail with
    | nil => rfl
    | cons c rest =>
      rw [text] at start free
      have solid : c ≠ 32 := by
        rintro rfl
        have shorter := congrArg List.length start
        have fewer := (List.dropWhile_suffix isSpace (l := rest)).length_le
        rw [List.dropWhile_cons_of_pos rfl,List.length_cons] at shorter
        omega
      have alike := shortened_alike (c :: rest)
      cases shown : shortened (c :: rest) 2000 with
      | nil => rw [shown] at alike; cases alike
      | cons d more =>
        have head : d = c := by
          rw [shown] at alike
          injection alike
        subst head
        rw [orDash,if_neg (List.cons_ne_nil d more),opensBlock_solid solid,← shown,opensMarker,forgesText,
          heading_alike (by decide) alike,(heads_alike (by decide) alike).1,(heads_alike (by decide) alike).2.1,
          number_alike (by decide) alike,fence_shortened,heading_unstructured free,quote_unstructured free,
          bullet_unstructured free,number_unstructured free]
  · rw [marked,forges_structured structured]
    have begins : ∃ more, shortened (92 :: flattened detail) 2000 = 92 :: more := by
      unfold shortened
      split_ifs
      · exact ⟨_,rfl⟩
      · exact ⟨_,rfl⟩
    obtain ⟨more,begins⟩ := begins
    rw [begins]
    rfl

end

/-! ### Plain fields -/

theorem plain_number (n : Nat) : Plain (number n) := by
  intro c member
  have digit := digits_number member
  omega

theorem plain_percent (q : ℚ) : Plain (percent q) := by
  have whole : ∀ n : ℤ, Plain (lit (toString n)) := by
    rintro (n | n)
    · exact plain_number n
    · have sign : lit (toString (Int.negSucc n)) = lit "-" ++ number (n + 1) := by
        simp [lit,number,Int.toString_eq_repr,Int.repr]
      rw [sign]
      exact Plain.append (by decide) (plain_number _)
  have split : percent q = lit (toString (Doubles.roundHalfEven (q * 100))) ++ lit "%" := by simp [percent,lit]
  rw [split]
  exact (whole _).append (by decide)

theorem plain_isoformat (t : DateTime) : Plain t.isoformat := by
  intro c member
  have printed := printed_isoformat t c member
  omega

theorem plain_section (kind : ReportSectionKind) : Plain kind.value := by cases kind <;> decide

theorem plain_referenceMarks (citations : List Citation) (numbers : Dict (Text × Text) Nat) : Plain (referenceMarks citations numbers) := by
  intro c member
  obtain ⟨n,_,inside⟩ := List.mem_flatMap.mp member
  have mark : Plain (lit "[" ++ number n ++ lit "]") := (Plain.append (by decide) (plain_number n)).append (by decide)
  exact mark c inside

section
variable [Printer]

theorem plain_supportPart {label : Text} (plain : Plain label) (values : List Text) : ∀ part ∈ supportPart label values, Plain part := by
  intro part listed
  by_cases none : values = []
  · rw [supportPart,if_pos none] at listed
    cases listed
  · rw [supportPart,if_neg none] at listed
    rw [List.mem_singleton.mp listed]
    have shown : Plain (joined (lit ", ") ((values.take 8).map fun value => lit "`" ++ escapeCell (.str value) 60 ++ lit "`")) := by
      refine Plain.joined (by decide) fun text quoted => ?_
      obtain ⟨value,_,rfl⟩ := List.mem_map.mp quoted
      exact (Plain.append (by decide) (plain_escapeCell _ _)).append (by decide)
    refine ((plain.append (by decide)).append shown).append ?_
    split_ifs
    · exact (Plain.append (by decide) (plain_number _)).append (by decide)
    · decide

theorem plain_renderSupport (finding : ReportFinding) : Plain (renderSupport finding) := by
  simp only [renderSupport]
  split_ifs
  · decide
  · refine Plain.joined (by decide) fun part listed => ?_
    simp only [List.mem_append] at listed
    rcases listed with (((event | detection) | technique) | cve) | indicator
    · exact plain_supportPart (by decide) _ part event
    · exact plain_supportPart (by decide) _ part detection
    · exact plain_supportPart (by decide) _ part technique
    · exact plain_supportPart (by decide) _ part cve
    · exact plain_supportPart (by decide) _ part indicator

/-! ### The lines of each section -/

theorem outline_metadataRow (row : Text × Text) (labelled : Plain row.1) :
    outline (tableRow [row.1,escapeCell (.str row.2)]) = [(3,false)] := by
  refine outline_tableRow (by simp) ?_
  simp only [List.forall_mem_cons]
  exact ⟨labelled,plain_escapeCell _ _,by simp⟩

theorem outline_timelineRow (entry : ReportTimelineEntry) : outline (timelineRow entry) = [(6,false)] := by
  refine outline_tableRow (by simp) ?_
  simp only [List.forall_mem_cons]
  have quoted : Plain (lit "`" ++ escapeCell (.str entry.eventId) 40 ++ lit "`") :=
    (Plain.append (by decide) (plain_escapeCell _ _)).append (by decide)
  exact ⟨plain_isoformat _,plain_escapeCell _ _,plain_escapeCell _ _,quoted,plain_escapeCell _ _,by simp⟩

theorem outline_assetRow (asset : AffectedAsset) : outline (assetRow asset) = [(5,false)] := by
  refine outline_tableRow (by simp) ?_
  simp only [List.forall_mem_cons]
  have critical : Plain (if asset.critical then lit "yes" else lit "no") := by split_ifs <;> decide
  exact ⟨plain_escapeCell _ _,critical,plain_number _,plain_escapeCell _ _,by simp⟩

theorem outline_indicatorRow (item : Mapping) : outline (indicatorRow item) = [(5,false)] := by
  refine outline_tableRow (by simp) ?_
  simp only [List.forall_mem_cons]
  exact ⟨plain_escapeCell _ _,(Plain.append (by decide) (plain_escapeCell _ _)).append (by decide),plain_escapeCell _ _,
    plain_escapeCell _ _,by simp⟩

theorem outline_techniqueRow (item : Mapping) : outline (techniqueRow item) = [(5,false)] := by
  refine outline_tableRow (by simp) ?_
  simp only [List.forall_mem_cons]
  exact ⟨plain_escapeCell _ _,plain_escapeCell _ _,plain_escapeCell _ _,plain_escapeCell _ _,by simp⟩

theorem outline_vulnerabilityRow (item : Mapping) : outline (vulnerabilityRow item) = [(5,false)] := by
  refine outline_tableRow (by simp) ?_
  simp only [List.forall_mem_cons]
  exact ⟨plain_escapeCell _ _,plain_escapeCell _ _,plain_escapeCell _ _,plain_escapeCell _ _,by simp⟩

omit [Printer] in
/-- A plain line whose beginning decides what it opens. -/
theorem outline_begun {line : Text} {opens : Bool} (plain : Plain line) (begun : opensBlock line = opens) : outline line = [(0,opens)] := by
  rw [outline_plain plain,begun]

theorem outline_caveatLine (caveat : ReportCaveat) : outline (caveatLine caveat) = [(0,true)] := by
  refine outline_begun ?_ rfl
  have start : Plain (lit "- **" ++ escapeCell (.str caveat.kind.value) 40) := Plain.append (by decide) (plain_escapeCell _ _)
  exact (((start.append (by decide)).append (plain_escapeCell _ _)).append (by decide)).append (plain_escapeCell _ _)

theorem outline_referenceLine (citation : Citation) (index : Nat) :
    outline (referenceLine citation index) = [(0,decide (1 ≤ (number index).length) && decide ((number index).length ≤ 9))] := by
  refine outline_begun ?_ ?_
  · have start : Plain (number index ++ lit ". ") := (plain_number _).append (by decide)
    have target : ∀ named : Option Text, Plain (if truthy named then lit " — " ++ escapeCell (.str (named.getD [])) 200 else []) := by
      intro named
      split_ifs
      · exact Plain.append (by decide) (plain_escapeCell _ _)
      · decide
    exact ((((start.append (plain_escapeCell _ _)).append (by decide)).append (plain_escapeCell _ _)).append (by decide)).append (target _)
  · have digits : ∀ d ∈ number index, isDigit d = true := by
      intro d member
      have digit := digits_number member
      simpa [isDigit] using digit
    simp only [referenceLine,List.append_assoc]
    exact opensBlock_numbered digits _

theorem outline_findingLines (numbers : Dict (Text × Text) Nat) (finding : ReportFinding) :
    (findingLines numbers finding).flatMap outline = [(0,true),(0,false),(0,forges finding.detail),(0,false),(0,false),(0,false)] := by
  have heading : Plain (lit "### " ++ escapeCell (.str finding.title) 120 ++ lit " (" ++ finding.sectionKind.value ++
      lit ", confidence " ++ percent finding.confidence ++ lit ")" ++ referenceMarks finding.citations numbers) := by
    have start : Plain (lit "### " ++ escapeCell (.str finding.title) 120) := Plain.append (by decide) (plain_escapeCell _ _)
    have kind := (start.append (by decide : Plain (lit " ("))).append (plain_section finding.sectionKind)
    have share := (kind.append (by decide : Plain (lit ", confidence "))).append (plain_percent finding.confidence)
    exact (share.append (by decide)).append (plain_referenceMarks _ _)
  have support : Plain (lit "*Supported by:* " ++ renderSupport finding) := Plain.append (by decide) (plain_renderSupport finding)
  have opens : outline [] = [(0,false)] := rfl
  simp only [findingLines,List.flatMap_cons,List.flatMap_nil,opens]
  rw [outline_begun heading rfl,outline_begun (plain_escapeCell _ _) (opensBlock_detail finding.detail),outline_begun support rfl]
  rfl

/-! ### The document -/

omit [Printer] in
theorem outline_section {opening nothing : Text} (ended : opening.getLast? = some 10) (rows : List Text) :
    outline (renderSection opening nothing rows) =
      if rows = [] then outline nothing else (outline opening).dropLast ++ rows.flatMap outline ++ [(0,false)] := by
  unfold renderSection
  split_ifs with none
  · rfl
  · rw [List.append_assoc,outline_opening ended,outline_ended,outline_joined none,List.append_assoc]

omit [Printer] in
/-- Rows of one outline each make sections of one outline. -/
theorem section_alike {opening nothing : Text} (ended : opening.getLast? = some 10) {first second : List Text}
    (rows : first.map outline = second.map outline) :
    outline (renderSection opening nothing first) = outline (renderSection opening nothing second) := by
  have length : first.length = second.length := by simpa using congrArg List.length rows
  have none : first = [] ↔ second = [] := by rw [← List.length_eq_zero_iff,length,List.length_eq_zero_iff]
  rw [outline_section ended,outline_section ended,List.flatMap_def,List.flatMap_def,rows]
  simp only [none]

omit [Printer] in
theorem rows_alike {α : Type} {write : α → Text} {shape : List (Nat × Bool)} (each : ∀ item, outline (write item) = shape)
    {first second : List α} (same : first.length = second.length) : (first.map write).map outline = (second.map write).map outline := by
  have all : ∀ items : List α, (items.map write).map outline = List.replicate items.length shape := by
    intro items
    rw [List.map_map,List.eq_replicate_iff]
    refine ⟨List.length_map _,fun line listed => ?_⟩
    obtain ⟨item,_,rfl⟩ := List.mem_map.mp listed
    exact each item
  rw [all,all,same]

theorem references_alike {first second : List Citation} (same : first.length = second.length) :
    outline (renderReferences first) = outline (renderReferences second) := by
  have all : ∀ citations : List Citation,
      (((citations.zipIdx 1).map fun numbered => referenceLine numbered.1 numbered.2).map outline) =
        (List.range' 1 citations.length).map fun index =>
          [(0,decide (1 ≤ (number index).length) && decide ((number index).length ≤ 9))] := by
    intro citations
    rw [← List.zipIdx_map_snd,List.map_map,List.map_map]
    refine List.map_congr_left fun numbered _ => ?_
    rw [Function.comp_apply,Function.comp_apply,outline_referenceLine]
  unfold renderReferences
  apply section_alike
  · decide
  · rw [all,all,same]

/-- What a finding adds to the outline. -/
def findingOutline (forged : Bool) : List (Nat × Bool) := [(0,true),(0,false),(0,forged),(0,false),(0,false),(0,false)]

theorem outline_findings (report : IncidentReport) (numbers : Dict (Text × Text) Nat) :
    outline (renderFindings report numbers) =
      if report.findings = [] then outline (lit "## Findings\n\nNo findings were produced by the investigation.\n")
      else [(0,true),(0,false)] ++ report.findings.flatMap fun finding => findingOutline (forges finding.detail) := by
  unfold renderFindings
  split_ifs
  · rfl
  · have start : [lit "## Findings",[]].flatMap outline = [(0,true),(0,false)] := by decide
    rw [outline_joined (by simp),List.flatMap_append,List.flatMap_assoc,start]
    refine congrArg _ (List.flatMap_congr fun finding _ => ?_)
    exact outline_findingLines numbers finding

omit [Printer] in
/-- The outlines of as many findings tell which of them forge a block. -/
theorem findings_outline_iff {first second : List Bool} (same : first.length = second.length) :
    first.flatMap findingOutline = second.flatMap findingOutline ↔ first = second := by
  refine ⟨fun outlines => ?_,fun equal => by rw [equal]⟩
  induction first generalizing second with
  | nil => exact (List.length_eq_zero_iff.mp same.symm).symm
  | cons forged rest ih =>
    cases second with
    | nil => cases same
    | cons other others =>
      rw [List.flatMap_cons,List.flatMap_cons] at outlines
      obtain ⟨here,later⟩ := List.append_inj outlines rfl
      have head : forged = other := by simpa [findingOutline] using here
      rw [head,ih (Nat.succ.inj same) later]

omit [Printer] in
theorem closed_joined {texts : List Text} (some : texts ≠ []) (each : ∀ text ∈ texts, Closed text) : Closed (joined [10] texts) := by
  induction texts with
  | nil => exact absurd rfl some
  | cons first rest ih =>
    obtain ⟨here,later⟩ := List.forall_mem_cons.mp each
    by_cases none : rest = []
    · subst none
      exact here
    · rw [joined_cons [10] first none]
      exact (ih none later).after _

theorem closed_referenceLine (citation : Citation) (index : Nat) : Closed (referenceLine citation index) := by
  have target : ∀ before (named : Option Text),
      Closed (before ++ lit ")" ++ if truthy named then lit " — " ++ escapeCell (.str (named.getD [])) 200 else []) := by
    intro before named
    split_ifs
    · exact ((closed_escapeCell _ _).after _).after _
    · rw [List.append_nil]
      exact Closed.after ⟨41,rfl,rfl⟩ before
  exact target _ _

/-- The last section is trimmed of nothing but its line feed. -/
theorem closed_references (citations : List Citation) : ∃ text, Closed text ∧ renderReferences citations = text ++ [10] := by
  unfold renderReferences renderSection
  split_ifs with none
  · exact ⟨lit "## References\n\nNo external source was cited.",⟨46,by decide,rfl⟩,rfl⟩
  · refine ⟨_,Closed.after (closed_joined none fun row listed => ?_) _,rfl⟩
    obtain ⟨numbered,_,rfl⟩ := List.mem_map.mp listed
    exact closed_referenceLine _ _

omit [Printer] in
theorem section_some {opening nothing : Text} (some : nothing ≠ []) (rows : List Text) : renderSection opening nothing rows ≠ [] := by
  unfold renderSection
  split_ifs
  · exact some
  · simp

theorem parts_some (report : IncidentReport) : ∀ part ∈ documentParts report, part ≠ [] := by
  simp only [documentParts,List.forall_mem_cons]
  have findings : renderFindings report (citationNumbers report.citations) ≠ [] := by
    unfold renderFindings
    split_ifs
    · decide
    · rw [List.singleton_append.symm.trans rfl]
      simp [joined]
  exact ⟨by simp,by simp [renderMetadata],section_some (by decide +kernel) _,findings,section_some (by decide +kernel) _,section_some (by decide +kernel) _,
    section_some (by decide +kernel) _,section_some (by decide +kernel) _,section_some (by decide +kernel) _,section_some (by decide +kernel) _,by simp⟩

theorem outline_body (report : IncidentReport) : outline (renderTechnicalBody report) = (documentParts report).flatMap outline := by
  have kept : (documentParts report).filter (· ≠ []) = documentParts report :=
    List.filter_eq_self.mpr fun part listed => by simpa using parts_some report part listed
  obtain ⟨text,closed,ended⟩ := closed_references report.citations
  obtain ⟨before,whole⟩ : ∃ before, joined [10] (documentParts report) = before ++ renderReferences report.citations := by
    refine ⟨joined [10] (documentParts report).dropLast ++ [10],?_⟩
    simp [documentParts,joined]
  obtain ⟨c,last,solid⟩ := closed.after before
  have trimmed : (joined [10] (documentParts report)).rdropWhile isSpace = before ++ text := by
    obtain ⟨front,same⟩ := List.getLast?_eq_some_iff.mp last
    rw [whole,ended,← List.append_assoc,List.rdropWhile_concat_pos _ _ _ rfl,same]
    exact List.rdropWhile_concat_neg _ _ _ (by simp [solid])
  rw [renderTechnicalBody,kept,trimmed,List.append_assoc,← ended,← whole]
  exact outline_joined (by simp [documentParts])

/-! ### Reports of one shape -/

/-- As many rows of every kind; what else they say may differ. -/
structure SameShape (a b : IncidentReport) : Prop where
  timeline : a.timeline.length = b.timeline.length
  findings : a.findings.length = b.findings.length
  affectedAssets : a.affectedAssets.length = b.affectedAssets.length
  indicators : a.indicators.length = b.indicators.length
  techniques : a.techniques.length = b.techniques.length
  cves : a.cves.length = b.cves.length
  caveats : a.caveats.length = b.caveats.length
  citations : a.citations.length = b.citations.length

theorem outline_title (report : IncidentReport) :
    outline (lit "# " ++ escapeCell (.str report.title) 120 ++ [10]) = [(0,true),(0,false)] := by
  have plain : Plain (lit "# " ++ escapeCell (.str report.title) 120) := Plain.append (by decide) (plain_escapeCell _ _)
  rw [outline_ended,outline_begun plain rfl]
  rfl

theorem metadata_alike (a b : IncidentReport) : outline (renderMetadata a) = outline (renderMetadata b) := by
  have rows : ∀ report : IncidentReport, ((metadataRows report).map fun row => tableRow [row.1,escapeCell (.str row.2)]).flatMap outline =
      List.replicate 7 (3,false) := by
    intro report
    have labelled : ∀ row ∈ metadataRows report, Plain row.1 := by
      simp only [metadataRows,List.forall_mem_cons]
      exact ⟨by decide,by decide,by decide,by decide,by decide,by decide,by decide,by simp⟩
    rw [List.flatMap_map]
    calc (metadataRows report).flatMap (fun row => outline (tableRow [row.1,escapeCell (.str row.2)]))
        = (metadataRows report).flatMap fun _ => [(3,false)] :=
          List.flatMap_congr fun row listed => outline_metadataRow row (labelled row listed)
      _ = List.replicate 7 (3,false) := rfl
  have all : ∀ report : IncidentReport, outline (renderMetadata report) =
      (outline (lit "## Overview\n\n| Field | Value |\n|---|---|\n")).dropLast ++ (List.replicate 7 (3,false) ++ [(0,false)]) := by
    intro report
    rw [renderMetadata,List.append_assoc,outline_opening (by decide),outline_ended,outline_joined (by simp [metadataRows]),rows]
  rw [all,all]

theorem findings_alike_iff {a b : IncidentReport} (same : a.findings.length = b.findings.length) (numbers others : Dict (Text × Text) Nat) :
    outline (renderFindings a numbers) = outline (renderFindings b others) ↔
      (a.findings.map fun finding => forges finding.detail) = b.findings.map fun finding => forges finding.detail := by
  rw [outline_findings,outline_findings]
  by_cases none : a.findings = []
  · have empty : b.findings = [] := by rw [← List.length_eq_zero_iff,← same,none]; rfl
    simp [none,empty]
  · have some : b.findings ≠ [] := by rwa [Ne,← List.length_eq_zero_iff,← same,List.length_eq_zero_iff]
    rw [if_neg none,if_neg some,List.append_cancel_left_eq]
    rw [← findings_outline_iff (by rw [List.length_map,List.length_map,same]),List.flatMap_map,List.flatMap_map]

/-- The documents of reports of one shape have the same outline just when the same findings
    forge a block. -/
theorem same_outline_iff {a b : IncidentReport} (shape : SameShape a b) :
    outline (renderTechnicalBody a) = outline (renderTechnicalBody b) ↔
      (a.findings.map fun finding => forges finding.detail) = b.findings.map fun finding => forges finding.detail := by
  have timeline : outline (renderTimeline a) = outline (renderTimeline b) :=
    section_alike (by decide +kernel) (rows_alike outline_timelineRow shape.timeline)
  have assets : outline (renderAssets a) = outline (renderAssets b) :=
    section_alike (by decide +kernel) (rows_alike outline_assetRow shape.affectedAssets)
  have indicators : outline (renderIndicators a) = outline (renderIndicators b) :=
    section_alike (by decide +kernel) (rows_alike outline_indicatorRow shape.indicators)
  have techniques : outline (renderTechniques a) = outline (renderTechniques b) :=
    section_alike (by decide +kernel) (rows_alike outline_techniqueRow shape.techniques)
  have vulnerabilities : outline (renderVulnerabilities a) = outline (renderVulnerabilities b) :=
    section_alike (by decide +kernel) (rows_alike outline_vulnerabilityRow shape.cves)
  have caveats : outline (renderCaveats a) = outline (renderCaveats b) :=
    section_alike (by decide +kernel) (rows_alike outline_caveatLine shape.caveats)
  rw [outline_body,outline_body]
  simp only [documentParts,List.flatMap_cons,List.flatMap_nil,outline_title]
  rw [metadata_alike a b,timeline,assets,indicators,techniques,vulnerabilities,caveats,references_alike shape.citations]
  rw [List.append_cancel_left_eq,List.append_cancel_left_eq,List.append_cancel_left_eq,List.append_cancel_right_eq]
  exact findings_alike_iff shape.findings _ _

/-- As many lines, the same cell separators in each, and the same lines that open a block. -/
structure SameStructure (first second : Text) : Prop where
  length : (lines first).length = (lines second).length
  cells : (lines first).map separators = (lines second).map separators
  blocks : (lines first).map opensBlock = (lines second).map opensBlock

omit [Printer] in
theorem sameStructure_iff {first second : Text} : SameStructure first second ↔ outline first = outline second := by
  constructor
  · rintro ⟨_,cells,blocks⟩
    have pairs : ∀ document, outline document = ((lines document).map separators).zip ((lines document).map opensBlock) :=
      fun document => (List.zip_map' ..).symm
    rw [pairs,pairs,cells,blocks]
  · intro same
    refine ⟨?_,?_,?_⟩
    · simpa [outline] using congrArg List.length same
    · simpa [outline,Function.comp_def,lineOutline] using congrArg (List.map Prod.fst) same
    · simpa [outline,Function.comp_def,lineOutline] using congrArg (List.map Prod.snd) same

/-- Reports of one shape make documents of one structure just when the same findings have a
    detail that opens with a marker left as it is. -/
theorem technicalBody_alike_iff {a b : IncidentReport} (shape : SameShape a b) :
    SameStructure (renderTechnicalBody a) (renderTechnicalBody b) ↔
      (a.findings.map fun finding => forges finding.detail) = b.findings.map fun finding => forges finding.detail :=
  sameStructure_iff.trans (same_outline_iff shape)

end

/-! ### Reports with one finding -/

theorem by_event : FindingSupport.Backed { eventIds := [lit "event-1"] } := .inl (List.cons_ne_nil _ _)

theorem certain : Share 1 := ⟨zero_le_one,le_rfl⟩

/-- A finding on one event, with this detail. -/
def finding (detail : Text) : ReportFinding where
  sectionKind := .EVIDENCE
  title := lit "Logins"
  detail := detail
  support := { eventIds := [lit "event-1"] }
  confidence := 1
  citations := []
  backed := by_event
  sure := certain

def noting (detail : Text) : IncidentReport where
  investigationId := lit "inv-1"
  title := lit "Report"
  status := .DRAFT
  verdict := none
  severity := none
  timeline := []
  findings := [finding detail]
  affectedAssets := []
  indicators := []
  techniques := []
  cves := []
  caveats := []
  citations := []
  confidence := 1
  version := 1
  generatedFrom := []

theorem noting_shape (first second : Text) : SameShape (noting first) (noting second) := ⟨rfl,rfl,rfl,rfl,rfl,rfl,rfl,rfl⟩

theorem neutralized_alike : SameStructure (@renderTechnicalBody asciiPrinter (noting (lit "# 3 failed logins")))
    (@renderTechnicalBody asciiPrinter (noting (lit "3 failed | logins"))) :=
  (@technicalBody_alike_iff asciiPrinter (noting (lit "# 3 failed logins")) (noting (lit "3 failed | logins")) (noting_shape _ _)).mpr (by decide)

theorem noting_apart {detail : Text} (forged : forges detail = true) :
    ¬ SameStructure (@renderTechnicalBody asciiPrinter (noting detail)) (@renderTechnicalBody asciiPrinter (noting (lit "benign"))) := by
  intro same
  have alike := (@same_outline_iff asciiPrinter _ _ (noting_shape detail (lit "benign"))).mp (sameStructure_iff.mp same)
  have unmarked : forges (lit "benign") = false := by decide
  simp [noting,finding,forged,unmarked] at alike

/-- A heading, a quote, a list item and a code fence that a detail forges. -/
theorem blocks_forged : SameShape (noting (lit "## Verdict: benign")) (noting (lit "benign")) ∧
    ¬ SameStructure (@renderTechnicalBody asciiPrinter (noting (lit "## Verdict: benign")))
      (@renderTechnicalBody asciiPrinter (noting (lit "benign"))) ∧
    ¬ SameStructure (@renderTechnicalBody asciiPrinter (noting (lit ">benign"))) (@renderTechnicalBody asciiPrinter (noting (lit "benign"))) ∧
    ¬ SameStructure (@renderTechnicalBody asciiPrinter (noting (lit "1) benign"))) (@renderTechnicalBody asciiPrinter (noting (lit "benign"))) ∧
    ¬ SameStructure (@renderTechnicalBody asciiPrinter (noting (lit "```"))) (@renderTechnicalBody asciiPrinter (noting (lit "benign"))) :=
  ⟨noting_shape _ _,noting_apart (by decide),noting_apart (by decide),noting_apart (by decide),noting_apart (by decide)⟩

end SocAnalyst.ReportOutlines
