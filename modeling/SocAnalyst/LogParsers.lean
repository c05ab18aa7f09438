import SocAnalyst.Calendar
import SocAnalyst.LogAnalysis
import SocAnalyst.Scanners

/-!
# What the log parsers share

The helpers of `tools/parsers.py`: the timestamps that records carry
(`parseTimestamp`), the pieces their patterns are made of, and the record that
every parser builds.
-/
namespace SocAnalyst.LogParsers
open SocAnalyst.Builtins SocAnalyst.Times SocAnalyst.Calendar SocAnalyst.Scanners SocAnalyst.Values SocAnalyst.Logs
open SocAnalyst.LogAnalysis (ParsedRecord)

/-- What the parsers use of the interpreter's clock and calendar, and their readings of prose. -/
structure Helpers where
  /-- `datetime.fromisoformat`, or nothing where it raises `ValueError`. -/
  fromIsoformat : Text → Option DateTime
  /-- An ISO date begins with the digits of its year. -/
  dated : ∀ text : Text, (fromIsoformat text).isSome = true → ∃ c, text.head? = some c ∧ 48 ≤ c ∧ c ≤ 57
  /-- `datetime.now(UTC).year`. -/
  currentYear : Nat
  /-- `_actor_from_message`. -/
  actorFromMessage : Text → Option Text
  /-- `_outcome_from`. -/
  outcomeFrom : Text → Option Text → Option Text
  /-- `classify_event_type`. -/
  classifyEventType : Text → List (Text × Value) → EventType

/-- Helpers that recognize nothing. -/
def plainHelpers : Helpers where
  fromIsoformat _ := none
  dated _ := nofun
  currentYear := 2026
  actorFromMessage _ := none
  outcomeFrom _ explicit := explicit
  classifyEventType _ _ := .OTHER

/-! ### Pieces of the patterns -/

/-- `\S`. -/
def isSolid (c : Nat) : Bool := !isSpace c

/-- `\d`. -/
def isDecimal [Interpreter] (c : Nat) : Bool := (decimal c).isSome

/-- `[A-Z]`. -/
def isUpper (c : Nat) : Bool := 65 ≤ c && c ≤ 90

/-- `[a-z]`. -/
def isLower (c : Nat) : Bool := 97 ≤ c && c ≤ 122

/-- `$`: at most a line feed is left. -/
def finish : Scanner Nat Unit := fun text => if text = [] ∨ text = [10] then some ((),[]) else none

/-- `.*$`. -/
def restOfLine : Scanner Nat Text := do
  let line ← run (· ≠ 10) 0 none
  finish
  return line

/-- A run of solid characters and the blanks behind it. -/
def word : Scanner Nat Text := do
  let piece ← run isSolid 1 none
  let _ ← run isSpace 1 none
  return piece

/-! ### Timestamps -/

/-- The groups of the RFC 3164 timestamp. -/
structure SyslogTime where
  month : Text
  day : Text
  hour : Text
  minute : Text
  second : Text
  deriving DecidableEq

/-- `[A-Z][a-z]{2}\s+\d{1,2}\s+\d{2}:\d{2}:\d{2}`. -/
def syslogTime [Interpreter] : Scanner Nat SyslogTime := do
  let initial ← run isUpper 1 (some 1)
  let others ← run isLower 2 (some 2)
  let _ ← run isSpace 1 none
  let day ← run isDecimal 1 (some 2)
  let _ ← run isSpace 1 none
  let hour ← run isDecimal 2 (some 2)
  mark 58
  let minute ← run isDecimal 2 (some 2)
  mark 58
  let second ← run isDecimal 2 (some 2)
  return ⟨initial ++ others,day,hour,minute,second⟩

/-- `_SYSLOG_MONTHS`, in order. -/
def syslogMonths : List Text :=
  [lit "Jan",lit "Feb",lit "Mar",lit "Apr",lit "May",lit "Jun",lit "Jul",lit "Aug",lit "Sep",lit "Oct",lit "Nov",lit "Dec"]

/-- `_SYSLOG_MONTHS.get(name)`. -/
def syslogMonth (name : Text) : Option Nat := (syslogMonths.findIdx? fun month => month = name).map (· + 1)

/-- `parsed if parsed.tzinfo else parsed.replace(tzinfo=UTC)`. -/
def withZone (t : DateTime) : DateTime := { t with offset := some (t.offset.getD 0) }

section
variable [Interpreter] (helpers : Helpers)

/-- Parse the timestamp shapes log sources actually emit, from a string. -/
def parseTimestamp (value : Text) (referenceYear : Option Nat) : Except PyError (Option DateTime) :=
  let text := strip value
  if text = [] then .ok none
  else match helpers.fromIsoformat (replaceAll (lit "Z") (lit "+00:00") text) with
    | some parsed => .ok (some (withZone parsed))
    | none =>
      match (syslogTime >>= fun groups => finish >>= fun _ => pure groups) text with
      | none => .ok none
      | some (groups,_) =>
        match syslogMonth groups.month with
        | none => .ok none
        | some month => do
          let time ← utcTime ((referenceYear.filter (· ≠ 0)).getD helpers.currentYear) month (← intOf groups.day) (← intOf groups.hour)
            (← intOf groups.minute) (← intOf groups.second)
          return some time

end

/-! ### Reading to the end of the line -/

theorem finish_reads : finish [] = some ((),[]) := rfl

theorem restOfLine_reads {line : Text} (oneLine : 10 ∉ line) : restOfLine line = some (line,[]) := by
  have whole : run (fun c : Nat => decide (c ≠ 10)) 0 none (line ++ []) = some (line,[]) :=
    run_reads (fun c member => decide_eq_true fun same => oneLine (same ▸ member)) (Nat.zero_le _) nofun (Or.inr nofun)
  rw [List.append_nil] at whole
  rw [restOfLine,bind_reads whole,bind_reads finish_reads]
  rfl

/-- A line feed inside the rest keeps the pattern from matching. -/
theorem restOfLine_refuses {line : Text} (broken : 10 ∈ line) (solid : ∀ c ∈ line.getLast?, isSpace c = false) : restOfLine line = none := by
  obtain ⟨before,after,rfl,absent⟩ := List.eq_append_cons_of_mem broken
  have first : run (fun c : Nat => decide (c ≠ 10)) 0 none (before ++ 10 :: after) = some (before,10 :: after) :=
    run_reads (fun c member => decide_eq_true fun same => absent (same ▸ member)) (Nat.zero_le _) nofun
      (Or.inr fun c head => by obtain rfl := Option.some.inj head; rfl)
  have more : ¬ (10 :: after = [] ∨ 10 :: after = [10]) := by
    rintro (none | last)
    · cases none
    · obtain rfl := (List.cons.inj last).2
      exact absurd (solid 10 (by simp)) (by decide)
  rw [restOfLine,bind_reads first,bind_refuses (if_neg more)]

/-! ### Trimming -/

/-- What is trimmed behind a text that ends solidly stands behind it. -/
theorem rdropWhile_after {front : Text} (last : ∃ c ∈ front.getLast?, isSpace c = false) (tail : Text) :
    (front ++ tail).rdropWhile isSpace = front ++ tail.rdropWhile isSpace := by
  obtain ⟨c,final,solid⟩ := last
  obtain ⟨before,rfl⟩ := List.getLast?_eq_some_iff.mp final
  rw [List.rdropWhile,List.rdropWhile,List.reverse_append,List.dropWhile_append]
  split
  · rename_i blank
    rw [List.isEmpty_iff.mp blank,List.reverse_append,List.reverse_singleton,List.singleton_append,
      List.dropWhile_cons_of_neg (by rw [solid]; decide)]
    simp
  · rw [List.reverse_append,List.reverse_reverse]

theorem strip_solid {front : Text} (first : ∃ c ∈ front.head?, isSpace c = false) (last : ∃ c ∈ front.getLast?, isSpace c = false)
    (tail : Text) : strip (front ++ tail) = front ++ tail.rdropWhile isSpace := by
  obtain ⟨c,initial,solid⟩ := first
  obtain ⟨rest,rfl⟩ := List.head?_eq_some_iff.mp initial
  rw [strip,List.cons_append,List.dropWhile_cons_of_neg (by rw [solid]; decide),← List.cons_append,rdropWhile_after last]

/-- A text without blanks around it, after a blank. -/
theorem strip_behind {text : Text} (trimmed : strip text = text) : strip ((32 :: text).rdropWhile isSpace) = text := by
  have whole : text.rdropWhile isSpace = text := by
    rw [← trimmed]
    exact List.rdropWhile_idempotent _ _
  by_cases empty : text = []
  · subst empty
    rfl
  · have final : ¬ isSpace (text.getLast empty) = true := List.rdropWhile_eq_self_iff.mp whole empty
    have behind := @rdropWhile_after (32 :: text)
      ⟨text.getLast empty,by rw [List.getLast?_cons,List.getLast?_eq_some_getLast empty]; rfl,by simpa using final⟩ []
    rw [List.append_nil,List.rdropWhile_nil,List.append_nil] at behind
    rw [behind,strip,List.dropWhile_cons_of_pos (by decide)]
    exact trimmed

theorem solid_last {text : Text} : ∀ c ∈ (text.rdropWhile isSpace).getLast?, isSpace c = false := by
  intro c final
  by_cases empty : text.rdropWhile isSpace = []
  · rw [empty] at final
    cases final
  · rw [List.getLast?_eq_some_getLast empty] at final
    obtain rfl := Option.some.inj final
    simpa using List.rdropWhile_last_not _ _ empty

/-! ### Words and digits -/

/-- A text without blanks. -/
def Word (text : Text) : Prop := text ≠ [] ∧ ∀ c ∈ text, isSpace c = false

/-- So many digits at least and so many at most. -/
def Digits (least most : Nat) (text : Text) : Prop := (∀ c ∈ text, 48 ≤ c ∧ c ≤ 57) ∧ least ≤ text.length ∧ text.length ≤ most

theorem Word.first {text : Text} (word : Word text) (more : Text) : ∀ c ∈ (text ++ more).head?, isSpace c = false := by
  intro c head
  obtain ⟨d,rest,rfl⟩ := List.exists_cons_of_ne_nil word.1
  obtain rfl := Option.some.inj head
  exact word.2 d (List.mem_cons_self ..)

theorem blank_reads {next : Text} (solid : ∀ c ∈ next.head?, isSpace c = false) : run isSpace 1 none (32 :: next) = some ([32],next) :=
  @run_reads _ isSpace 1 none [32] next (by decide) le_rfl nofun (Or.inr solid)

theorem word_reads {text next : Text} (plain : Word text) (solid : ∀ c ∈ next.head?, isSpace c = false) :
    word (text ++ 32 :: next) = some (text,next) := by
  have piece : run isSolid 1 none (text ++ 32 :: next) = some (text,32 :: next) :=
    run_reads (fun c member => by rw [isSolid,plain.2 c member]; rfl) (List.length_pos_iff.mpr plain.1) nofun
      (Or.inr fun c head => by obtain rfl := Option.some.inj head; rfl)
  rw [word,bind_reads piece,bind_reads (blank_reads solid)]
  rfl

section
variable [Interpreter]

/-- No ASCII character but a digit is a decimal digit. -/
theorem undecimal {d : Nat} {rest : Text} (other : d < 128 ∧ asciiDigit d = none) : ∀ c ∈ (d :: rest).head?, isDecimal c = false := by
  intro c head
  obtain rfl := Option.some.inj head
  rw [isDecimal,Interpreter.decimal_ascii d other.1,other.2]
  rfl

theorem isDecimal_digit {c : Nat} (digit : 48 ≤ c ∧ c ≤ 57) : isDecimal c = true := by
  rw [isDecimal,Interpreter.decimal_ascii c (by omega),asciiDigit,if_pos digit]
  rfl

theorem digits_read {least most : Nat} {text next : Text} (digits : Digits least most text)
    (stops : most = text.length ∨ ∀ c ∈ next.head?, isDecimal c = false) :
    run isDecimal least (some most) (text ++ next) = some (text,next) := by
  exact run_reads (fun c member => isDecimal_digit (digits.1 c member)) digits.2.1 (fun m same => Option.some.inj same ▸ digits.2.2)
    (stops.imp_left (congrArg some))

theorem intOf_digits {least most : Nat} {text : Text} (digits : Digits least most text) (few : most ≤ maxStrDigits) :
    intOf text = .ok (digitsValue text) := if_neg (by have short := digits.2.2; omega)

/-- The RFC 3164 timestamp has blanks in it. -/
theorem syslogTime_refuses {text : Text} (solid : ∀ c ∈ text, isSpace c = false) : syslogTime text = none := by
  rw [syslogTime]
  cases initial : run isUpper 1 (some 1) text with
  | none => exact bind_refuses initial
  | some found =>
    obtain ⟨capital,rest⟩ := found
    obtain ⟨rfl,_,_⟩ := run_splits initial
    rw [bind_reads initial]
    cases others : run isLower 2 (some 2) rest with
    | none => exact bind_refuses others
    | some found =>
      obtain ⟨letters,rest⟩ := found
      obtain ⟨rfl,_,_⟩ := run_splits others
      rw [bind_reads others]
      exact bind_refuses (run_refuses Nat.one_pos fun c head => solid c (by simp [List.mem_of_mem_head? head]))

/-- A word is read as a timestamp or as none, but never raises. -/
theorem parseTimestamp_word (helpers : Helpers) {text : Text} (word : Word text) (year : Option Nat) :
    ∃ time, parseTimestamp helpers text year = .ok time := by
  have refused := syslogTime_refuses fun c member => word.2 c ((strip_sublist text).subset member)
  rw [parseTimestamp]
  by_cases empty : strip text = []
  · exact ⟨none,if_pos empty⟩
  · rw [if_neg empty,bind_refuses refused]
    cases helpers.fromIsoformat (replaceAll (lit "Z") (lit "+00:00") (strip text)) with
    | none => exact ⟨none,rfl⟩
    | some parsed => exact ⟨some (withZone parsed),rfl⟩

end

/-- A parser is as sure of a record with a time as it is, and half sure of one without. -/
theorem sure_or_half (dated : Bool) {high : ℚ} (top : 0 ≤ high ∧ high ≤ 1) : 0 ≤ (if dated then high else 1/2) ∧ (if dated then high else 1/2) ≤ 1 := by
  split
  · exact top
  · norm_num

/-! ### Escapes -/

/-- A text with a backslash before each of some characters. -/
def escapedBy (marks : List Nat) (text : Text) : Text := text.flatMap fun c => if c ∈ marks then [92,c] else [c]

theorem escapedBy_cons (marks : List Nat) (c : Nat) (rest : Text) :
    escapedBy marks (c :: rest) = (if c ∈ marks then [92,c] else [c]) ++ escapedBy marks rest := List.flatMap_cons

theorem count_escapedBy {marks : List Nat} {c : Nat} (other : c ≠ 92) (text : Text) : (escapedBy marks text).count c = text.count c := by
  induction text with
  | nil => rfl
  | cons d rest ih =>
    rw [escapedBy_cons,List.count_append,ih]
    by_cases marked : d ∈ marks
    · simp [marked,List.count_cons,other.symm,Nat.add_comm]
    · simp [marked,List.count_cons,Nat.add_comm]

theorem absent_escapedBy {marks : List Nat} {c : Nat} (other : c ≠ 92) {text : Text} (absent : c ∉ text) : c ∉ escapedBy marks text :=
  List.count_eq_zero.mp ((count_escapedBy other text).trans (List.count_eq_zero.mpr absent))

theorem length_escapedBy (marks : List Nat) (text : Text) :
    (escapedBy marks text).length = text.length + text.countP (· ∈ marks) := by
  induction text with
  | nil => rfl
  | cons d rest ih =>
    rw [escapedBy_cons,List.length_append,ih,List.countP_cons]
    by_cases marked : d ∈ marks
    · simp [marked]
      omega
    · simp [marked]
      omega

/-- A text is its own escape when it has nothing to escape. -/
theorem escapedBy_eq_iff {marks : List Nat} {text : Text} : escapedBy marks text = text ↔ ∀ c ∈ text, c ∉ marks := by
  constructor
  · intro same c member marked
    have length := length_escapedBy marks text
    rw [same] at length
    have some : 0 < text.countP (· ∈ marks) := List.countP_pos_iff.mpr ⟨c,member,decide_eq_true marked⟩
    omega
  · intro plain
    induction text with
    | nil => rfl
    | cons d rest ih =>
      rw [escapedBy_cons,if_neg (plain d (List.mem_cons_self ..)),ih fun c member => plain c (List.mem_cons_of_mem _ member)]
      rfl

theorem getLast?_escapedBy (marks : List Nat) (text : Text) : (escapedBy marks text).getLast? = text.getLast? := by
  cases text using List.reverseRecOn with
  | nil => rfl
  | append_singleton front c =>
    rw [escapedBy,List.flatMap_append,List.flatMap_singleton]
    by_cases marked : c ∈ marks
    · simp [marked]
    · simp [marked]

theorem mem_escapedBy {marks : List Nat} {text : Text} {c : Nat} (member : c ∈ escapedBy marks text) : c = 92 ∨ c ∈ text := by
  by_cases backslash : c = 92
  · exact Or.inl backslash
  · by_contra neither
    exact absent_escapedBy backslash (fun inside => neither (Or.inr inside)) member

end SocAnalyst.LogParsers
