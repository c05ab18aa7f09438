import SocAnalyst.Builtins

/-!
# The outline of a Markdown document

What of a document's structure shows in its single lines: how many lines there are, the
cell separators of each, and whether it opens a block.
-/
namespace SocAnalyst.Markdown
open SocAnalyst.Builtins

/-! ### Lines and cells -/

/-- A line feed or a carriage return. -/
def isLineEnd (c : Nat) : Bool := c == 10 || c == 13

def lines (document : Text) : List Text := document.splitOnP isLineEnd

/-- The pipes that no backslash escapes, right after a backslash that escapes or not. -/
def separatorsFrom : Bool → Text → Nat
  | _, [] => 0
  | true, _ :: rest => separatorsFrom false rest
  | false, c :: rest => (if c = 124 then 1 else 0) + separatorsFrom (c == 92) rest

/-- The cell separators of a line. -/
def separators (line : Text) : Nat := separatorsFrom false line

/-! ### Block markers -/

/-- A blank or the end of the line. -/
def blankNext : Text → Bool
  | [] => true
  | c :: _ => c == 32 || c == 9

def isDigit (c : Nat) : Bool := 48 ≤ c && c ≤ 57

/-- One to six number signs and a blank. -/
def opensHeading (line : Text) : Bool :=
  1 ≤ (line.takeWhile (· == 35)).length && (line.takeWhile (· == 35)).length ≤ 6 && blankNext (line.dropWhile (· == 35))

def opensQuote : Text → Bool
  | [] => false
  | c :: _ => c == 62

/-- A hyphen, a plus sign or an asterisk and a blank. -/
def opensBullet : Text → Bool
  | [] => false
  | c :: rest => (c == 45 || c == 43 || c == 42) && blankNext rest

/-- A point or a parenthesis and a blank. -/
def delimited : Text → Bool
  | [] => false
  | c :: rest => (c == 46 || c == 41) && blankNext rest

/-- One to nine digits, a delimiter and a blank. -/
def opensNumber (line : Text) : Bool :=
  1 ≤ (line.takeWhile isDigit).length && (line.takeWhile isDigit).length ≤ 9 && delimited (line.dropWhile isDigit)

/-- Three backticks or more with none after them, or three tildes or more. -/
def opensFence (line : Text) : Bool :=
  (3 ≤ (line.takeWhile (· == 96)).length && !(line.dropWhile (· == 96)).contains 96) || 3 ≤ (line.takeWhile (· == 126)).length

def opensMarker (line : Text) : Bool := opensHeading line || opensQuote line || opensBullet line || opensNumber line || opensFence line

/-- Whether a line, indented by three blanks at most, opens a heading, a block quote, a list
    item or a code fence. -/
def opensBlock (line : Text) : Bool := (line.takeWhile (· == 32)).length ≤ 3 && opensMarker (line.dropWhile (· == 32))

/-! ### Outlines -/

def lineOutline (line : Text) : Nat × Bool := (separators line,opensBlock line)

/-- The cell separators of every line in order, and whether it opens a block. -/
def outline (document : Text) : List (Nat × Bool) := (lines document).map lineOutline

theorem outline_append (first second : Text) : outline (first ++ 10 :: second) = outline first ++ outline second := by
  rw [outline,lines,List.splitOnP_append_cons first second (by decide),List.map_append]
  rfl

/-- A text without line ends is one line. -/
theorem outline_line {line : Text} (whole : ∀ c ∈ line, isLineEnd c = false) : outline line = [lineOutline line] := by
  rw [outline,lines,List.splitOnP_eq_singleton whole]
  rfl

theorem outline_ended (line : Text) : outline (line ++ [10]) = outline line ++ [(0,false)] := outline_append line []

theorem outline_joined {texts : List Text} (some : texts ≠ []) : outline (joined [10] texts) = texts.flatMap outline := by
  induction texts with
  | nil => exact absurd rfl some
  | cons first rest ih =>
    by_cases none : rest = []
    · subst none
      exact (List.append_nil _).symm
    · rw [joined_cons [10] first none,List.append_assoc,List.singleton_append,outline_append,ih none,List.flatMap_cons]

/-- A text that ends a line gives its lines to the outline, and nothing to the next line. -/
theorem outline_opening {opening : Text} (ended : opening.getLast? = some 10) (rest : Text) :
    outline (opening ++ rest) = (outline opening).dropLast ++ outline rest := by
  obtain ⟨before,rfl⟩ := List.getLast?_eq_some_iff.mp ended
  rw [List.append_assoc,List.singleton_append,outline_append,outline_ended,List.dropLast_concat]

/-- Digits, a point and a blank open a list item if the digits are at most nine. -/
theorem opensBlock_numbered {digits : Text} (all : ∀ d ∈ digits, isDigit d = true) (rest : Text) :
    opensBlock (digits ++ 46 :: 32 :: rest) = (decide (1 ≤ digits.length) && decide (digits.length ≤ 9)) := by
  have number : opensNumber (digits ++ 46 :: 32 :: rest) = (decide (1 ≤ digits.length) && decide (digits.length ≤ 9)) := by
    rw [opensNumber,List.takeWhile_append_of_pos all,List.dropWhile_append_of_pos all]
    simp [isDigit,delimited,blankNext]
  rw [← number]
  cases digits with
  | nil => simp [opensBlock,opensMarker,opensHeading,opensQuote,opensBullet,opensFence]
  | cons d others =>
    have digit := all d (List.mem_cons_self ..)
    have marks : ∀ c ∈ [32,35,62,45,43,42,96,126], isDigit c = false := by decide
    have other : ∀ c ∈ [32,35,62,45,43,42,96,126], d ≠ c := by
      rintro c listed rfl
      rw [marks d listed] at digit
      cases digit
    simp only [List.forall_mem_cons] at other
    obtain ⟨blank,sign,quote,hyphen,plus,asterisk,backtick,tilde,_⟩ := other
    simp [opensBlock,opensMarker,opensHeading,opensQuote,opensBullet,opensFence,blank,sign,beq_false_of_ne quote,
      beq_false_of_ne hyphen,beq_false_of_ne plus,beq_false_of_ne asterisk,backtick,tilde]

/-! ### Cells -/

/-- No line ends and no pipes. -/
def Plain (text : Text) : Prop := ∀ c ∈ text, c ≠ 10 ∧ c ≠ 13 ∧ c ≠ 124

instance (text : Text) : Decidable (Plain text) := inferInstanceAs (Decidable (∀ c ∈ text, c ≠ 10 ∧ c ≠ 13 ∧ c ≠ 124))

theorem Plain.append {first second : Text} (left : Plain first) (right : Plain second) : Plain (first ++ second) :=
  List.forall_mem_append.mpr ⟨left,right⟩

theorem Plain.joined {separator : Text} {texts : List Text} (between : Plain separator) (each : ∀ text ∈ texts, Plain text) :
    Plain (joined separator texts) := by
  intro c member
  rcases mem_joined member with inside | ⟨text,listed,inside⟩
  · exact between c inside
  · exact each text listed c inside

theorem Plain.whole {text : Text} (plain : Plain text) : ∀ c ∈ text, isLineEnd c = false := by
  intro c member
  obtain ⟨feed,carriage,_⟩ := plain c member
  simp [isLineEnd,feed,carriage]

theorem separators_plain {text : Text} (plain : Plain text) (escaped : Bool) : separatorsFrom escaped text = 0 := by
  induction text generalizing escaped with
  | nil => cases escaped <;> rfl
  | cons c rest ih =>
    obtain ⟨here,later⟩ := List.forall_mem_cons.mp plain
    cases escaped with
    | true => exact ih later false
    | false => rw [separatorsFrom,if_neg here.2.2,ih later,Nat.add_zero]

/-- A blank after a text without pipes is the end of what the text may escape. -/
theorem separators_blank {text : Text} (plain : Plain text) (escaped : Bool) (rest : Text) :
    separatorsFrom escaped (text ++ 32 :: rest) = separatorsFrom false rest := by
  induction text generalizing escaped with
  | nil => cases escaped <;> simp [separatorsFrom]
  | cons c more ih =>
    obtain ⟨here,later⟩ := List.forall_mem_cons.mp plain
    cases escaped with
    | true => exact ih later false
    | false => rw [List.cons_append,separatorsFrom,if_neg here.2.2,ih later,Nat.zero_add]

theorem outline_plain {line : Text} (plain : Plain line) : outline line = [(0,opensBlock line)] := by
  rw [outline_line plain.whole,lineOutline,separators,separators_plain plain]

/-- A row of a table. -/
def tableRow (cells : List Text) : Text := lit "| " ++ joined (lit " | ") cells ++ lit " |"

theorem separators_cells {cells : List Text} (some : cells ≠ []) (plain : ∀ cell ∈ cells, Plain cell) (escaped : Bool) :
    separatorsFrom escaped (joined (lit " | ") cells ++ lit " |") = cells.length := by
  induction cells generalizing escaped with
  | nil => exact absurd rfl some
  | cons first rest ih =>
    obtain ⟨here,later⟩ := List.forall_mem_cons.mp plain
    by_cases none : rest = []
    · subst none
      exact separators_blank here escaped [124]
    · rw [joined_cons _ first none,List.append_assoc,List.append_assoc]
      calc separatorsFrom escaped (first ++ (32 :: 124 :: 32 :: (joined (lit " | ") rest ++ lit " |")))
          = separatorsFrom false (124 :: 32 :: (joined (lit " | ") rest ++ lit " |")) := separators_blank here escaped _
        _ = 1 + separatorsFrom false (joined (lit " | ") rest ++ lit " |") := by simp [separatorsFrom]
        _ = (first :: rest).length := by rw [ih none later,List.length_cons,Nat.add_comm]

/-- A row has a separator on both sides of every cell, and opens no block. -/
theorem outline_tableRow {cells : List Text} (some : cells ≠ []) (plain : ∀ cell ∈ cells, Plain cell) :
    outline (tableRow cells) = [(cells.length + 1,false)] := by
  have whole : ∀ c ∈ tableRow cells, isLineEnd c = false := by
    intro c member
    rw [tableRow,List.append_assoc,List.mem_append,List.mem_append] at member
    have blanks : ∀ edge ∈ [lit "| ",lit " | ",lit " |"], ∀ c ∈ edge, isLineEnd c = false := by decide
    rcases member with start | inside | last
    · exact blanks _ (by simp) c start
    · rcases mem_joined inside with between | ⟨cell,listed,within⟩
      · exact blanks _ (by simp) c between
      · exact (plain cell listed).whole c within
    · exact blanks _ (by simp) c last
  have count : separators (tableRow cells) = cells.length + 1 := by
    calc separatorsFrom false (124 :: 32 :: (joined (lit " | ") cells ++ lit " |"))
        = 1 + separatorsFrom false (joined (lit " | ") cells ++ lit " |") := by simp [separatorsFrom]
      _ = cells.length + 1 := by rw [separators_cells some plain,Nat.add_comm]
  rw [outline_line whole,lineOutline,count]
  rfl

end SocAnalyst.Markdown
