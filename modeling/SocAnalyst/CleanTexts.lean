import SocAnalyst.Blocks
import SocAnalyst.Chunking

/-!
# Cleaned texts

What `clean_text` makes of a text, line by line. Runs of line breaks are cut before the
lines are trimmed, so that lines of blanks only part the runs they become part of.
-/
namespace SocAnalyst.CleanTexts
open SocAnalyst.Builtins SocAnalyst.Blocks SocAnalyst.Ingestion SocAnalyst.Chunking

/-! ### Lines between content -/

/-- Nothing but whitespace. -/
def Blank (line : Text) : Prop := ∀ c ∈ line, isSpace c = true

instance (line : Text) : Decidable (Blank line) := inferInstanceAs (Decidable (∀ c ∈ line, _))

/-- Some line has content. -/
def Content (lines : List Text) : Prop := ∃ line ∈ lines, ¬ Blank line

/-- Two adjacent lines in this relation, with content after them. -/
def Later (pair : Text → Text → Prop) (lines : List Text) : Prop :=
  ∃ before first second after, lines = before ++ first :: second :: after ∧ pair first second ∧ Content after

/-- Two adjacent lines in this relation, with content before and after them. -/
def Between (pair : Text → Text → Prop) (lines : List Text) : Prop :=
  ∃ before first second after, lines = before ++ first :: second :: after ∧ pair first second ∧ Content before ∧ Content after

/-- Two blank lines. -/
def Gap (first second : Text) : Prop := Blank first ∧ Blank second

/-- Two blank lines that are not both empty. -/
def Loose (first second : Text) : Prop := Gap first second ∧ (first ≠ [] ∨ second ≠ [])

section
variable {pair : Text → Text → Prop} {line : Text} {lines : List Text}

theorem blank_nil : Blank [] := fun _ member => absurd member List.not_mem_nil

theorem content_cons : Content (line :: lines) ↔ ¬ Blank line ∨ Content lines := by simp [Content]

theorem not_later_short (short : lines.length ≤ 1) : ¬ Later pair lines := by
  rintro ⟨before,first,second,after,rfl,_⟩
  rw [List.length_append,List.length_cons,List.length_cons] at short
  omega

theorem later_cons {first second : Text} {rest : List Text} :
    Later pair (first :: second :: rest) ↔ (pair first second ∧ Content rest) ∨ Later pair (second :: rest) := by
  constructor
  · rintro ⟨before,one,two,after,whole,holds,content⟩
    cases before with
    | nil =>
      cases whole
      exact .inl ⟨holds,content⟩
    | cons front before => exact .inr ⟨before,one,two,after,(List.cons.inj whole).2,holds,content⟩
  · rintro (⟨holds,content⟩ | ⟨before,one,two,after,whole,holds,content⟩)
    · exact ⟨[],first,second,rest,rfl,holds,content⟩
    · exact ⟨first :: before,one,two,after,by rw [whole]; rfl,holds,content⟩

/-- A line that is in no such pair may be left out. -/
theorem later_content (apart : ∀ second, ¬ pair line second) : Later pair (line :: lines) ↔ Later pair lines := by
  cases lines with
  | nil => exact iff_of_false (not_later_short (by simp)) (not_later_short (by simp))
  | cons second rest =>
    rw [later_cons]
    simp [apart]

theorem Between.later (between : Between pair lines) : Later pair lines := by
  obtain ⟨before,first,second,after,whole,holds,_,content⟩ := between
  exact ⟨before,first,second,after,whole,holds,content⟩

theorem not_between_short (short : lines.length ≤ 1) : ¬ Between pair lines := fun both => not_later_short short both.later

theorem between_cons : Between pair (line :: lines) ↔ (¬ Blank line ∧ Later pair lines) ∨ Between pair lines := by
  constructor
  · rintro ⟨before,first,second,after,whole,holds,early,late⟩
    cases before with
    | nil =>
      obtain ⟨_,member,_⟩ := early
      cases member
    | cons front before =>
      obtain ⟨rfl,rest⟩ := List.cons.inj whole
      rcases content_cons.mp early with here | further
      · exact .inl ⟨here,before,first,second,after,rest,holds,late⟩
      · exact .inr ⟨before,first,second,after,rest,holds,further,late⟩
  · rintro (⟨here,before,first,second,after,rest,holds,late⟩ | ⟨before,first,second,after,rest,holds,early,late⟩)
    · exact ⟨line :: before,first,second,after,by rw [rest]; rfl,holds,content_cons.mpr (.inl here),late⟩
    · exact ⟨line :: before,first,second,after,by rw [rest]; rfl,holds,content_cons.mpr (.inr early),late⟩

theorem between_blank (blank : Blank line) : Between pair (line :: lines) ↔ Between pair lines := by simp [between_cons,blank]

theorem between_content (content : ¬ Blank line) : Between pair (line :: lines) ↔ Later pair lines := by
  rw [between_cons]
  exact ⟨fun either => either.elim And.right Between.later,fun later => .inl ⟨content,later⟩⟩

theorem between_congr {other : Text → Text → Prop} (same : ∀ first second, pair first second ↔ other first second) :
    Between pair lines ↔ Between other lines := by simp only [Between,same]

/-- Lines written anew one by one, content staying content. -/
theorem between_map {write : Text → Text} (keeps : ∀ line, Blank (write line) ↔ Blank line) :
    Between pair (lines.map write) ↔ Between (fun first second => pair (write first) (write second)) lines := by
  have content : ∀ some : List Text, Content (some.map write) ↔ Content some := by
    intro some
    simp [Content,keeps]
  constructor
  · rintro ⟨before,first,second,after,whole,holds,early,late⟩
    obtain ⟨front,back,rfl,rfl,tail⟩ := List.map_eq_append_iff.mp whole
    obtain ⟨one,others,rfl,rfl,last⟩ := List.map_eq_cons_iff.mp tail
    obtain ⟨two,rest,rfl,rfl,rfl⟩ := List.map_eq_cons_iff.mp last
    exact ⟨front,one,two,rest,rfl,holds,(content _).mp early,(content _).mp late⟩
  · rintro ⟨before,first,second,after,rfl,holds,early,late⟩
    exact ⟨before.map write,write first,write second,after.map write,by simp,holds,(content _).mpr early,(content _).mpr late⟩

end

/-! ### Runs of breaks, by lines -/

/-- `collapseBreaks` on the lines of a text. -/
def collapseLines : Nat → List Text → List Text
  | _,[] => []
  | _,[line] => [line]
  | kept,line :: next :: rest =>
    if line ≠ [] then line :: collapseLines 1 (next :: rest)
    else if kept < 2 then [] :: collapseLines (kept + 1) (next :: rest)
    else collapseLines kept (next :: rest)

attribute [local simp] collapseLines

theorem collapseLines_ne_nil (kept : Nat) {lines : List Text} (some : lines ≠ []) : collapseLines kept lines ≠ [] := by
  induction kept,lines using collapseLines.induct with
  | case1 => exact (some rfl).elim
  | case2 => exact some
  | case3 kept line next rest filled ih => simp [filled]
  | case4 kept line next rest none few ih => simp [few,not_not.mp none]
  | case5 kept line next rest none many ih =>
    rw [collapseLines,if_neg none,if_neg many]
    exact ih (by simp)

theorem collapseBreaks_line {line : Text} (one : 10 ∉ line) (kept : Nat) : collapseBreaks kept line = line := by
  induction line generalizing kept with
  | nil => rfl
  | cons c rest ih =>
    obtain ⟨other,later⟩ := not_or.mp (fun either => one (List.mem_cons.mpr either))
    rw [collapseBreaks,if_neg (Ne.symm other),ih later]

theorem collapseBreaks_append {line : Text} (one : 10 ∉ line) (some : line ≠ []) (kept : Nat) (rest : Text) :
    collapseBreaks kept (line ++ 10 :: rest) = line ++ 10 :: collapseBreaks 1 rest := by
  induction line generalizing kept with
  | nil => exact (some rfl).elim
  | cons c others ih =>
    obtain ⟨other,later⟩ := not_or.mp (fun either => one (List.mem_cons.mpr either))
    rw [List.cons_append,collapseBreaks,if_neg (Ne.symm other)]
    by_cases last : others = []
    · subst last
      simp [collapseBreaks]
    · rw [ih later last,List.cons_append]

theorem collapseBreaks_intercalate (kept : Nat) (lines : List Text) (free : ∀ line ∈ lines, 10 ∉ line) :
    collapseBreaks kept ([10].intercalate lines) = [10].intercalate (collapseLines kept lines) := by
  induction kept,lines using collapseLines.induct with
  | case1 => rfl
  | case2 kept line => simpa using collapseBreaks_line (free line (by simp)) kept
  | case3 kept line next rest some ih =>
    have later := ih fun other member => free other (List.mem_cons_of_mem _ member)
    rw [List.intercalate_cons_cons,List.append_assoc,List.singleton_append,collapseBreaks_append (free line (by simp)) some,later,
      collapseLines,if_pos some,List.intercalate_cons_of_ne_nil (collapseLines_ne_nil _ (by simp))]
    simp
  | case4 kept line next rest none few ih =>
    have later := ih fun other member => free other (List.mem_cons_of_mem _ member)
    obtain rfl : line = [] := not_not.mp none
    rw [List.intercalate_cons_cons,List.nil_append,List.singleton_append,collapseBreaks,if_pos rfl,if_pos few,later,collapseLines,if_neg none,
      if_pos few,List.intercalate_cons_of_ne_nil (collapseLines_ne_nil _ (by simp))]
    simp
  | case5 kept line next rest none many ih =>
    have later := ih fun other member => free other (List.mem_cons_of_mem _ member)
    obtain rfl : line = [] := not_not.mp none
    rw [List.intercalate_cons_cons,List.nil_append,List.singleton_append,collapseBreaks,if_pos rfl,if_neg many,later,collapseLines,if_neg none,
      if_neg many]

theorem content_collapseLines (kept : Nat) (lines : List Text) : Content (collapseLines kept lines) ↔ Content lines := by
  induction kept,lines using collapseLines.induct with
  | case1 | case2 => rfl
  | case3 kept line next rest some ih => rw [collapseLines,if_pos some,content_cons,ih,← content_cons]
  | case4 kept line next rest none few ih =>
    obtain rfl : line = [] := not_not.mp none
    rw [collapseLines,if_neg none,if_pos few,content_cons,ih,← content_cons]
  | case5 kept line next rest none many ih =>
    obtain rfl : line = [] := not_not.mp none
    rw [collapseLines,if_neg none,if_neg many,ih]
    simp [content_cons,blank_nil]

/-- After a line that was kept, two blank lines are left just where there were two that
    are not both empty. -/
theorem later_collapseLines (line : Text) (rest : List Text) :
    Later Gap (line :: collapseLines (if line = [] then 2 else 1) rest) ↔ Later Loose (line :: rest) := by
  induction rest generalizing line with
  | nil => exact iff_of_false (not_later_short (by simp)) (not_later_short (by simp))
  | cons next rest ih =>
    cases rest with
    | nil =>
      rw [collapseLines,later_cons,later_cons]
      have none : ¬ Content [] := by simp [Content]
      simp [none,not_later_short]
    | cons third rest =>
      rw [later_cons]
      by_cases filled : next = []
      · subst filled
        have after := ih []
        rw [if_pos rfl] at after
        by_cases empty : line = []
        · -- the break between two empty lines is dropped
          subst empty
          have same : ¬ Loose [] [] := fun loose => loose.2.elim (fun some => some rfl) (fun some => some rfl)
          rw [if_pos rfl,collapseLines,if_neg (by simp),if_neg (by omega),after]
          simp [same]
        · have loose : Loose line [] ↔ Gap line [] := by simp [Loose,empty]
          rw [if_neg empty,collapseLines,if_neg (by simp),if_pos (by omega),later_cons,after,content_collapseLines,loose]
      · have after := ih next
        have loose : Loose line next ↔ Gap line next := by simp [Loose,filled]
        rw [if_neg filled] at after
        rw [collapseLines,if_pos filled,later_cons,after,content_collapseLines,loose]

/-- Cutting runs of breaks leaves two blank lines between content just where there were two
    that are not both empty. -/
theorem between_collapseLines (kept : Nat) (lines : List Text) : Between Gap (collapseLines kept lines) ↔ Between Loose lines := by
  induction kept,lines using collapseLines.induct with
  | case1 => exact iff_of_false (not_between_short (by simp)) (not_between_short (by simp))
  | case2 => exact iff_of_false (not_between_short (by simp)) (not_between_short (by simp))
  | case3 kept line next rest some ih =>
    rw [collapseLines,if_pos some]
    by_cases blank : Blank line
    · rw [between_blank blank,between_blank blank,ih]
    · have after := later_collapseLines line (next :: rest)
      rw [if_neg some,later_content (fun _ gap => blank gap.1),later_content fun _ loose => blank loose.1.1] at after
      rw [between_content blank,between_content blank,after]
  | case4 kept line next rest none few ih =>
    obtain rfl : line = [] := not_not.mp none
    rw [collapseLines,if_neg none,if_pos few,between_blank blank_nil,between_blank blank_nil,ih]
  | case5 kept line next rest none many ih =>
    obtain rfl : line = [] := not_not.mp none
    rw [collapseLines,if_neg none,if_neg many,between_blank blank_nil,ih]

/-! ### Steps of the cleaning, by lines -/

theorem blank_iff {line other : Text} (same : ∀ c, isSpace c = false → (c ∈ line ↔ c ∈ other)) : Blank line ↔ Blank other := by
  have solid : ∀ text : Text, Blank text ↔ ∀ c, isSpace c = false → c ∉ text := by
    intro text
    constructor
    · intro blank c solid member
      rw [blank c member] at solid
      cases solid
    · intro none c member
      by_contra solid
      exact none c (by simpa using solid) member
  rw [solid,solid]
  exact forall₂_congr fun c solid => not_congr (same c solid)

theorem mem_collapseBlanks {c : Nat} (solid : c ≠ 32 ∧ c ≠ 9) (skipping : Bool) (text : Text) : c ∈ collapseBlanks skipping text ↔ c ∈ text := by
  induction text generalizing skipping with
  | nil => rfl
  | cons d rest ih =>
    by_cases blank : d = 32 ∨ d = 9
    · have other : c ≠ d := by
        rintro rfl
        exact blank.elim solid.1 solid.2
      cases skipping <;> simp [collapseBlanks,blank,ih,other,solid.1]
    · simp [collapseBlanks,blank,ih]

theorem collapseBlanks_eq_nil (line : Text) : collapseBlanks false line = [] ↔ line = [] := by
  cases line with
  | nil => simp [collapseBlanks]
  | cons c rest => by_cases blank : c = 32 ∨ c = 9 <;> simp [collapseBlanks,blank]

theorem collapseBlanks_line (skipping : Bool) (line rest : Text) :
    collapseBlanks skipping (line ++ 10 :: rest) = collapseBlanks skipping line ++ 10 :: collapseBlanks false rest := by
  induction line generalizing skipping with
  | nil => simp [collapseBlanks]
  | cons c others ih =>
    by_cases blank : c = 32 ∨ c = 9
    · cases skipping <;> simp [collapseBlanks,blank,ih]
    · simp [collapseBlanks,blank,ih]

theorem collapseBlanks_intercalate {lines : List Text} (some : lines ≠ []) :
    collapseBlanks false ([10].intercalate lines) = [10].intercalate (lines.map (collapseBlanks false)) := by
  induction lines with
  | nil => exact (some rfl).elim
  | cons line rest ih =>
    cases rest with
    | nil => simp
    | cons next rest =>
      rw [List.intercalate_cons_cons,List.append_assoc,List.singleton_append,collapseBlanks_line,ih (by simp)]
      simp

theorem lines_collapseBlanks (text : Text) : (collapseBlanks false text).splitOn 10 = (text.splitOn 10).map (collapseBlanks false) := by
  have whole := collapseBlanks_intercalate (List.splitOn_ne_nil 10 text)
  rw [List.intercalate_splitOn] at whole
  rw [whole,List.splitOn_intercalate]
  · intro line member
    obtain ⟨written,listed,rfl⟩ := List.mem_map.mp member
    rw [mem_collapseBlanks (by decide)]
    exact not_mem_splitOn text written listed
  · simp

theorem mem_collapseLines {kept : Nat} {lines : List Text} {line : Text} (member : line ∈ collapseLines kept lines) : line ∈ lines := by
  induction kept,lines using collapseLines.induct with
  | case1 | case2 => exact member
  | case3 kept first next rest some ih =>
    rw [collapseLines,if_pos some] at member
    rcases List.mem_cons.mp member with here | later
    · exact List.mem_cons.mpr (.inl here)
    · exact List.mem_cons_of_mem _ (ih later)
  | case4 kept first next rest none few ih =>
    rw [collapseLines,if_neg none,if_pos few] at member
    rcases List.mem_cons.mp member with here | later
    · exact List.mem_cons.mpr (.inl (here.trans (not_not.mp none).symm))
    · exact List.mem_cons_of_mem _ (ih later)
  | case5 kept first next rest none many ih =>
    rw [collapseLines,if_neg none,if_neg many] at member
    exact List.mem_cons_of_mem _ (ih member)

theorem lines_collapseBreaks (text : Text) : (collapseBreaks 0 text).splitOn 10 = collapseLines 0 (text.splitOn 10) := by
  have whole := collapseBreaks_intercalate 0 (text.splitOn 10) (not_mem_splitOn text)
  rw [List.intercalate_splitOn] at whole
  rw [whole,List.splitOn_intercalate]
  · exact fun line member => not_mem_splitOn text line (mem_collapseLines member)
  · exact collapseLines_ne_nil 0 (List.splitOn_ne_nil 10 text)

/-! ### What is left of the breaks -/

/-- A trimmed text begins and ends with something that is not blank. -/
theorem strip_ends {text front back : Text} (split : strip text = front ++ back) :
    (front ≠ [] → ¬ Blank front) ∧ (back ≠ [] → ¬ Blank back) := by
  constructor
  · intro some blank
    obtain ⟨c,rest,rfl⟩ := List.exists_cons_of_ne_nil some
    obtain ⟨more,start⟩ : strip text <+: text.dropWhile isSpace := List.rdropWhile_prefix isSpace _
    have solid := List.head?_dropWhile_not isSpace text
    rw [← start,split] at solid
    have spaced : isSpace c = true := blank c (by simp)
    simp [spaced] at solid
  · intro some blank
    obtain ⟨rest,c,rfl⟩ := (List.eq_nil_or_concat back).resolve_left some
    have fixed : (strip text).rdropWhile isSpace = strip text := List.rdropWhile_idempotent _ _
    rw [split,List.concat_eq_append,← List.append_assoc,List.rdropWhile_concat_pos _ _ _ (blank c (by simp))] at fixed
    have shorter := (List.rdropWhile_prefix isSpace (front ++ rest)).length_le
    rw [fixed] at shorter
    simp at shorter

/-- Trimming leaves what stands between things that are not blank. -/
theorem strip_around {front back : Text} (first : ¬ Blank front) (last : ¬ Blank back) (middle : Text) :
    strip (front ++ middle ++ back) = front.dropWhile isSpace ++ middle ++ back.rdropWhile isSpace := by
  have early : front.dropWhile isSpace ≠ [] := fun none => first (List.dropWhile_eq_nil_iff.mp none)
  have late : back.rdropWhile isSpace ≠ [] := fun none => last (List.rdropWhile_eq_nil_iff.mp none)
  rw [strip,List.append_assoc,List.dropWhile_append,if_neg (by simpa using early),← List.append_assoc,rdropWhile_append,if_neg late]

theorem intercalate_append {before after : List Text} (early : before ≠ []) (late : after ≠ []) :
    [10].intercalate (before ++ after) = [10].intercalate before ++ 10 :: [10].intercalate after := by
  induction before with
  | nil => exact (early rfl).elim
  | cons line rest ih =>
    by_cases last : rest = []
    · subst last
      simp [List.intercalate_cons_of_ne_nil late]
    · rw [List.cons_append,List.intercalate_cons_of_ne_nil (by simp [last]),ih last,List.intercalate_cons_of_ne_nil last]
      simp

theorem mem_intercalate {c : Nat} (other : c ≠ 10) (lines : List Text) : c ∈ [10].intercalate lines ↔ ∃ line ∈ lines, c ∈ line := by
  induction lines with
  | nil => simp
  | cons line rest ih =>
    by_cases last : rest = []
    · simp [last]
    · simp [List.intercalate_cons_of_ne_nil last,ih,other]

theorem not_blank {text : Text} : ¬ Blank text ↔ ∃ c ∈ text, isSpace c = false := by simp [Blank]

theorem content_intercalate (lines : List Text) : Content lines ↔ ¬ Blank ([10].intercalate lines) := by
  have held : ∀ c, isSpace c = false → (c ∈ [10].intercalate lines ↔ ∃ line ∈ lines, c ∈ line) := by
    intro c solid
    refine mem_intercalate ?_ lines
    rintro rfl
    cases solid
  rw [not_blank]
  constructor
  · rintro ⟨line,member,filled⟩
    obtain ⟨c,inside,solid⟩ := not_blank.mp filled
    exact ⟨c,(held c solid).mpr ⟨line,member,inside⟩,solid⟩
  · rintro ⟨c,inside,solid⟩
    obtain ⟨line,member,listed⟩ := (held c solid).mp inside
    exact ⟨line,member,not_blank.mpr ⟨c,listed,solid⟩⟩

theorem content_lines (text : Text) : Content (text.splitOn 10) ↔ ¬ Blank text := by
  rw [content_intercalate,List.intercalate_splitOn]

theorem Content.ne_nil {lines : List Text} (content : Content lines) : lines ≠ [] := by
  obtain ⟨line,member,_⟩ := content
  exact List.ne_nil_of_mem member

/-- Three breaks in a row in a trimmed text stand between two of its lines with content. -/
theorem breaks_strip (text : Text) : [10,10,10] <:+: strip text ↔ Between (fun first second => first = [] ∧ second = []) (text.splitOn 10) := by
  constructor
  · rintro ⟨front,back,split⟩
    obtain ⟨before,after,_,_,whole⟩ := strip_within text
    have begins : ¬ Blank front := by
      have start := (@strip_ends text (front ++ [10]) ([10,10] ++ back) (by rw [← split]; simp)).1 (by simp)
      intro blank
      exact start fun c member => (List.mem_append.mp member).elim (blank c) fun last => by rw [List.mem_singleton.mp last]; rfl
    have ends : ¬ Blank back := by
      have final := (@strip_ends text (front ++ [10,10]) ([10] ++ back) (by rw [← split]; simp)).2 (by simp)
      intro blank
      exact final fun c member => (List.mem_append.mp member).elim (fun first => by rw [List.mem_singleton.mp first]; rfl) (blank c)
    refine ⟨(before ++ front).splitOn 10,[],[],(back ++ after).splitOn 10,?_,⟨rfl,rfl⟩,?_,?_⟩
    · have shape : text = (before ++ front) ++ 10 :: ([] ++ 10 :: ([] ++ 10 :: (back ++ after))) := by
        rw [← whole,← split]
        simp
      conv_lhs => rw [shape]
      rw [List.splitOn_append_cons_self,List.splitOn_append_cons_self,List.splitOn_append_cons_self]
      rfl
    · rw [content_lines]
      exact fun blank => begins fun c member => blank c (List.mem_append_right _ member)
    · rw [content_lines]
      exact fun blank => ends fun c member => blank c (List.mem_append_left _ member)
  · rintro ⟨before,first,second,after,lines,⟨rfl,rfl⟩,early,late⟩
    have whole : [10].intercalate (text.splitOn 10) = text := List.intercalate_splitOn 10
    have parts : text = [10].intercalate before ++ [10,10,10] ++ [10].intercalate after := by
      rw [← whole,lines,intercalate_append early.ne_nil (by simp),List.intercalate_cons_cons,List.intercalate_cons_of_ne_nil late.ne_nil]
      simp
    conv_rhs => rw [parts]
    rw [strip_around ((content_intercalate before).mp early) ((content_intercalate after).mp late)]
    exact ⟨_,_,rfl⟩

theorem blank_rdropWhile (line : Text) : Blank (line.rdropWhile isSpace) ↔ Blank line := by
  refine blank_iff fun c solid => ⟨fun member => (List.rdropWhile_prefix isSpace line).subset member,fun member => ?_⟩
  rw [← List.rdropWhile_append_rtakeWhile (p := isSpace) (l := line)] at member
  rcases List.mem_append.mp member with kept | off
  · exact kept
  · rw [List.mem_rtakeWhile_imp off] at solid
    cases solid

/-- The lines of a text are trimmed one by one. -/
theorem lines_trimmed (text : Text) :
    (joined [10] ((text.splitOn 10).map fun line => line.rdropWhile isSpace)).splitOn 10 = (text.splitOn 10).map fun line => line.rdropWhile isSpace := by
  rw [joined_eq_intercalate,List.splitOn_intercalate]
  · intro line member
    obtain ⟨written,listed,rfl⟩ := List.mem_map.mp member
    exact fun inside => not_mem_splitOn text written listed ((List.rdropWhile_prefix isSpace written).subset inside)
  · simp

/-- A cleaned text has three breaks in a row just where its input, with line feeds for all
    breaks, has two blank lines between content that are not both empty. -/
theorem breaks_cleanText (text : Text) : [10,10,10] <:+: cleanText text ↔ Between Loose ((unixBreaks text).splitOn 10) := by
  have written : ∀ line, Blank (collapseBlanks false line) ↔ Blank line := by
    intro line
    refine blank_iff fun c solid => mem_collapseBlanks ?_ false line
    constructor <;> rintro rfl <;> cases solid
  rw [cleanText,breaks_strip,lines_trimmed,between_map blank_rdropWhile,lines_collapseBreaks]
  have gaps : ∀ first second : Text, first.rdropWhile isSpace = [] ∧ second.rdropWhile isSpace = [] ↔ Gap first second :=
    fun first second => and_congr List.rdropWhile_eq_nil_iff List.rdropWhile_eq_nil_iff
  rw [between_congr gaps,between_collapseLines,lines_collapseBlanks,between_map written]
  refine between_congr fun first second => ?_
  simp only [Loose,Gap,written,ne_eq,collapseBlanks_eq_nil]

/-! ### What always holds -/

/-- The lines before a cleaned text is trimmed as a whole. -/
theorem cleanText_lines (text : Text) : ∃ lines : List Text, cleanText text = strip ([10].intercalate lines) ∧ lines ≠ [] ∧
    ∀ line ∈ lines, ∃ written ∈ (unixBreaks text).splitOn 10, line = (collapseBlanks false written).rdropWhile isSpace := by
  refine ⟨((collapseBreaks 0 (collapseBlanks false (unixBreaks text))).splitOn 10).map fun line => line.rdropWhile isSpace,?_,by simp,?_⟩
  · rw [cleanText,joined_eq_intercalate]
  · intro line member
    obtain ⟨kept,listed,rfl⟩ := List.mem_map.mp member
    rw [lines_collapseBreaks] at listed
    have before := mem_collapseLines listed
    rw [lines_collapseBlanks] at before
    obtain ⟨written,first,rfl⟩ := List.mem_map.mp before
    exact ⟨written,first,rfl⟩

theorem not_mem_unixBreaks (text : Text) : 13 ∉ unixBreaks text := by
  induction text using unixBreaks.induct with
  | case1 => simp [unixBreaks]
  | case2 rest ih => simp [unixBreaks,ih]
  | case3 rest _ ih => simp_all [unixBreaks]
  | case4 c rest _ other ih => simp_all [unixBreaks,eq_comm]

/-- No tab is left, and no two blanks follow one another. -/
theorem apart_collapseBlanks (skipping : Bool) (text : Text) : 9 ∉ collapseBlanks skipping text ∧
    (skipping = true → (collapseBlanks skipping text).head? ≠ some 32) ∧ (collapseBlanks skipping text).IsChain fun c d => ¬ (c = 32 ∧ d = 32) := by
  induction text generalizing skipping with
  | nil => simp [collapseBlanks]
  | cons c rest ih =>
    obtain ⟨untabbed,start,apart⟩ := ih true
    obtain ⟨untabbed',_,apart'⟩ := ih false
    by_cases blank : c = 32 ∨ c = 9
    · cases skipping with
      | true =>
        simp only [collapseBlanks,if_pos blank,if_true]
        exact ⟨untabbed,fun _ => start rfl,apart⟩
      | false =>
        simp only [collapseBlanks,if_pos blank,Bool.false_eq_true,if_false]
        refine ⟨by simp [untabbed],by simp,List.isChain_cons.mpr ⟨?_,apart⟩⟩
        intro d first both
        exact start rfl (both.2 ▸ first)
    · obtain ⟨solid,visible⟩ := not_or.mp blank
      simp only [collapseBlanks,if_neg blank]
      refine ⟨?_,by simp [solid],List.isChain_cons.mpr ⟨fun d _ both => solid both.1,apart'⟩⟩
      simp [untabbed',Ne.symm visible]

/-- No carriage return and no tab is left. -/
theorem not_mem_cleanText (text : Text) : 13 ∉ cleanText text ∧ 9 ∉ cleanText text := by
  obtain ⟨lines,whole,_,made⟩ := cleanText_lines text
  have held : ∀ c, c ≠ 10 → c ∈ cleanText text → ∃ written ∈ (unixBreaks text).splitOn 10, c ∈ collapseBlanks false written := by
    intro c other member
    rw [whole] at member
    obtain ⟨line,listed,inside⟩ := (mem_intercalate other lines).mp ((strip_sublist _).subset member)
    obtain ⟨written,first,rfl⟩ := made line listed
    exact ⟨written,first,(List.rdropWhile_prefix isSpace _).subset inside⟩
  constructor
  · intro member
    obtain ⟨written,first,inside⟩ := held 13 (by decide) member
    have before := (mem_intercalate (by decide) _).mpr ⟨written,first,(mem_collapseBlanks (by decide) false written).mp inside⟩
    rw [List.intercalate_splitOn] at before
    exact not_mem_unixBreaks text before
  · intro member
    obtain ⟨written,_,inside⟩ := held 9 (by decide) member
    exact (apart_collapseBlanks false written).1 inside

theorem strip_isInfix (text : Text) : strip text <:+: text := by
  obtain ⟨before,after,_,_,whole⟩ := strip_within text
  exact ⟨before,after,whole⟩

theorem apart_cleanText (text : Text) : ¬ [32,32] <:+: cleanText text := by
  intro inside
  obtain ⟨lines,whole,_,made⟩ := cleanText_lines text
  rw [whole,← joined_eq_intercalate] at inside
  obtain ⟨line,listed,within⟩ := infix_of_joined (by simp) (by simp) (inside.trans (strip_isInfix _))
  obtain ⟨written,_,rfl⟩ := made line listed
  obtain ⟨front,back,same⟩ := within.trans (List.rdropWhile_prefix isSpace _).isInfix
  have chain := (apart_collapseBlanks false written).2.2
  rw [← same] at chain
  have pair := chain.left_of_append.right_of_append
  simp at pair

/-- A line in its place: a break follows it, or nothing. -/
theorem place_of_line {lines : List Text} {line : Text} (member : line ∈ lines) :
    ∃ front back, [10].intercalate lines = front ++ line ++ back ∧ (back = [] ∨ ∃ more, back = 10 :: more) := by
  induction lines with
  | nil => cases member
  | cons first rest ih =>
    by_cases last : rest = []
    · subst last
      rw [List.mem_singleton.mp member]
      exact ⟨[],[],by simp,.inl rfl⟩
    · rw [List.intercalate_cons_of_ne_nil last]
      rcases List.mem_cons.mp member with rfl | later
      · exact ⟨[],10 :: [10].intercalate rest,by simp,.inr ⟨_,rfl⟩⟩
      · obtain ⟨front,back,whole,ends⟩ := ih later
        exact ⟨first ++ [10] ++ front,back,by rw [whole]; simp,ends⟩

/-- What stands before a break ends a line. -/
theorem line_before_break {c : Nat} (other : c ≠ 10) {lines : List Text} (free : ∀ line ∈ lines, 10 ∉ line) {front back : Text}
    (whole : [10].intercalate lines = front ++ c :: 10 :: back) : ∃ line ∈ lines, ∃ start, line = start ++ [c] := by
  induction lines generalizing front with
  | nil => simp at whole
  | cons first rest ih =>
    have clear := free first (by simp)
    by_cases last : rest = []
    · subst last
      rw [List.intercalate_singleton] at whole
      exact absurd (whole ▸ by simp) clear
    · rw [List.intercalate_cons_of_ne_nil last,List.append_assoc] at whole
      rcases List.append_eq_append_iff.mp whole with ⟨more,split,tail⟩ | ⟨more,split,tail⟩
      · cases more with
        | nil => exact absurd (List.cons.inj tail).1.symm other
        | cons d more =>
          obtain ⟨_,tail⟩ := List.cons.inj tail
          obtain ⟨line,listed,ends⟩ := ih (fun line member => free line (List.mem_cons_of_mem _ member)) tail
          exact ⟨line,List.mem_cons_of_mem _ listed,ends⟩
      · cases more with
        | nil => exact absurd (List.cons.inj tail).1 other
        | cons d more =>
          obtain ⟨rfl,after⟩ := List.cons.inj tail
          cases more with
          | nil => exact ⟨first,by simp,front,split⟩
          | cons e more =>
            obtain ⟨rfl,_⟩ := List.cons.inj after
            exact absurd (split ▸ by simp) clear

/-- Every line of a cleaned text is trimmed at its end. -/
theorem ends_cleanText (text : Text) : ∀ line ∈ (cleanText text).splitOn 10, line.rdropWhile isSpace = line := by
  intro line member
  rcases List.eq_nil_or_concat line with rfl | ⟨start,c,rfl⟩
  · rfl
  · rw [List.concat_eq_append] at member ⊢
    refine List.rdropWhile_concat_neg _ _ _ fun spaced => ?_
    have other : c ≠ 10 := by
      rintro rfl
      exact not_mem_splitOn (cleanText text) _ member (by simp)
    have blank : Blank [c] := by simpa [Blank] using spaced
    obtain ⟨front,back,whole,ends⟩ := place_of_line member
    rw [List.intercalate_splitOn] at whole
    obtain ⟨lines,same,_,made⟩ := cleanText_lines text
    rcases ends with rfl | ⟨more,rfl⟩
    · exact (@strip_ends _ (front ++ start) [c] (by rw [← same,whole]; simp)).2 (by simp) blank
    · obtain ⟨before,after,_,_,parts⟩ := strip_within ([10].intercalate lines)
      rw [← same,whole] at parts
      have free : ∀ line ∈ lines, 10 ∉ line := by
        intro other listed inside
        obtain ⟨written,first,rfl⟩ := made other listed
        have kept := (List.rdropWhile_prefix isSpace _).subset inside
        exact not_mem_splitOn _ written first ((mem_collapseBlanks (by decide) false written).mp kept)
      have place : [10].intercalate lines = (before ++ front ++ start) ++ c :: 10 :: (more ++ after) := by
        rw [← parts]
        simp
      obtain ⟨last,listed,begin_,ends⟩ := line_before_break other free place
      obtain ⟨written,_,trimmed⟩ := made last listed
      have fixed : last.rdropWhile isSpace = last := by rw [trimmed,List.rdropWhile_idempotent]
      rw [ends,List.rdropWhile_concat_pos _ _ _ spaced] at fixed
      have shorter := (List.rdropWhile_prefix isSpace begin_).length_le
      rw [fixed] at shorter
      simp at shorter

/-! ### Cleaning again -/

theorem unixBreaks_of_clean {text : Text} (clean : 13 ∉ text) : unixBreaks text = text := by
  induction text using unixBreaks.induct <;> simp_all [unixBreaks]

theorem collapseBlanks_of_apart {text : Text} (skipping : Bool) (untabbed : 9 ∉ text) (start : skipping = true → text.head? ≠ some 32)
    (apart : text.IsChain fun c d => ¬ (c = 32 ∧ d = 32)) : collapseBlanks skipping text = text := by
  induction text generalizing skipping with
  | nil => rfl
  | cons c rest ih =>
    obtain ⟨tab,later⟩ := not_or.mp fun either => untabbed (List.mem_cons.mpr either)
    obtain ⟨follows,chain⟩ := List.isChain_cons.mp apart
    by_cases blank : c = 32
    · subst blank
      have fresh : skipping = false := by
        by_contra on
        exact start (by simpa using on) rfl
      have next := ih true later (fun _ first => follows 32 first ⟨rfl,rfl⟩) chain
      simp [collapseBlanks,fresh,next]
    · have next := ih false later (by simp) chain
      simp [collapseBlanks,blank,Ne.symm tab,next]

theorem collapseBreaks_of_few (kept : Nat) {text : Text} (most : kept ≤ 2) (few : ¬ [10,10,10] <:+: List.replicate kept 10 ++ text) :
    collapseBreaks kept text = text := by
  induction text generalizing kept with
  | nil => rfl
  | cons c rest ih =>
    by_cases break_ : c = 10
    · subst break_
      by_cases room : kept < 2
      · have next : List.replicate (kept + 1) 10 ++ rest = List.replicate kept 10 ++ 10 :: rest := by simp [List.replicate_succ']
        rw [collapseBreaks,if_pos rfl,if_pos room,ih (kept + 1) (by omega) (next ▸ few)]
      · obtain rfl : kept = 2 := by omega
        exact (few ⟨[],rest,rfl⟩).elim
    · have next := ih 0 (by omega) fun inside => few (inside.trans ⟨List.replicate kept 10 ++ [c],[],by simp⟩)
      rw [collapseBreaks,if_neg break_,next]

theorem strip_strip (text : Text) : strip (strip text) = strip text := by
  by_cases empty : strip text = []
  · rw [empty]
    rfl
  · obtain ⟨c,rest,shape⟩ := List.exists_cons_of_ne_nil empty
    have solid := (@strip_ends text [c] rest shape).1 (by simp)
    have kept : (strip text).dropWhile isSpace = strip text := by
      rw [shape,List.dropWhile_cons_of_neg]
      simpa [Blank] using solid
    rw [strip,kept]
    exact List.rdropWhile_idempotent _ _

/-- Without three breaks in a row, cleaning leaves a cleaned text alone. -/
theorem cleanText_again {text : Text} (few : ¬ [10,10,10] <:+: cleanText text) : cleanText (cleanText text) = cleanText text := by
  obtain ⟨returns,untabbed⟩ := not_mem_cleanText text
  have chain : (cleanText text).IsChain fun c d => ¬ (c = 32 ∧ d = 32) := by
    rw [List.isChain_iff_forall_rel_of_append_cons_cons]
    rintro c d front back whole ⟨rfl,rfl⟩
    exact apart_cleanText text ⟨front,back,by rw [whole]; simp⟩
  have trimmed : ((cleanText text).splitOn 10).map (fun line => line.rdropWhile isSpace) = (cleanText text).splitOn 10 :=
    List.map_congr_left (ends_cleanText text) |>.trans (List.map_id _)
  have fixed : strip (cleanText text) = cleanText text := by
    rw [cleanText]
    exact strip_strip _
  have broken : collapseBreaks 0 (cleanText text) = cleanText text := collapseBreaks_of_few 0 (by omega) few
  conv_lhs => rw [cleanText]
  rw [unixBreaks_of_clean returns,collapseBlanks_of_apart false untabbed (by simp) chain,broken,trimmed,joined_eq_intercalate,
    List.intercalate_splitOn,fixed]

/-- A text that cleaning leaves alone has no three breaks in a row. -/
theorem few_of_again {text : Text} (again : cleanText (cleanText text) = cleanText text) : ¬ [10,10,10] <:+: cleanText text := by
  rw [← again,breaks_cleanText,unixBreaks_of_clean (not_mem_cleanText text).1]
  rintro ⟨before,first,second,after,lines,⟨⟨blank,blank'⟩,some⟩,_⟩
  have ends := ends_cleanText text
  rw [lines] at ends
  have none := List.rdropWhile_eq_nil_iff.mpr blank
  have none' := List.rdropWhile_eq_nil_iff.mpr blank'
  rw [ends first (by simp)] at none
  rw [ends second (by simp)] at none'
  exact some.elim (fun filled => filled none) fun filled => filled none'

/-- A cleaned text is left alone just when it has no three breaks in a row. -/
theorem cleanText_again_iff (text : Text) : cleanText (cleanText text) = cleanText text ↔ ¬ [10,10,10] <:+: cleanText text :=
  ⟨few_of_again,cleanText_again⟩

/-- What a text owes its readers once it is cleaned. -/
structure Cleans (text : Text) : Prop where
  again : cleanText (cleanText text) = cleanText text
  ends : ∀ line ∈ (cleanText text).splitOn 10, ∀ c ∈ line.getLast?, isSpace c = false
  blanks : ∀ c d : Nat, (c = 32 ∨ c = 9) → (d = 32 ∨ d = 9) → ¬ [c,d] <:+: cleanText text
  returns : 13 ∉ cleanText text
  breaks : ¬ [10,10,10] <:+: cleanText text
  digest : ∀ sha256 : Text → Text, sha256 (cleanText (cleanText text)) = sha256 (cleanText text)
  sections : splitSections (cleanText (cleanText text)) = splitSections (cleanText text)

/-- A text is cleaned for good just when, with line feeds for all its breaks, it has no two
    blank lines between content that are not both empty. -/
theorem cleans_iff (text : Text) : Cleans text ↔ ¬ Between Loose ((unixBreaks text).splitOn 10) := by
  rw [← breaks_cleanText]
  refine ⟨Cleans.breaks,fun few => ?_⟩
  have again := (cleanText_again_iff text).mpr few
  refine ⟨again,?_,?_,(not_mem_cleanText text).1,few,fun sha256 => by rw [again],by rw [again]⟩
  · intro line member c last
    obtain ⟨start,rfl⟩ := List.getLast?_eq_some_iff.mp last
    have fixed := ends_cleanText text _ member
    by_contra spaced
    rw [List.rdropWhile_concat_pos _ _ _ (by simpa using spaced)] at fixed
    have shorter := (List.rdropWhile_prefix isSpace start).length_le
    rw [fixed] at shorter
    simp at shorter
  · intro c d first second inside
    have untabbed := (not_mem_cleanText text).2
    have blank : c = 32 := first.resolve_right fun tab => untabbed (inside.subset (by simp [tab]))
    have blank' : d = 32 := second.resolve_right fun tab => untabbed (inside.subset (by simp [tab]))
    rw [blank,blank'] at inside
    exact apart_cleanText text inside

/-- Two paragraphs with two lines of one blank each between them keep three breaks. -/
theorem blank_lines_kept : ¬ ∀ text : Text, Cleans text := by
  intro law
  have kept : cleanText (lit "a\n \n \nb") = lit "a\n\n\nb" := by decide +kernel
  refine (law (lit "a\n \n \nb")).breaks ?_
  rw [kept]
  exact ⟨lit "a",lit "b",by decide⟩

end SocAnalyst.CleanTexts
