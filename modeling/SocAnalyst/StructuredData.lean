import SocAnalyst.Brackets
import SocAnalyst.LogParsers

/-!
# Structured data of syslog records

`SyslogRfc5424Parser` of `tools/parsers.py` and the elements of RFC 5424 that it
takes off the front of a message (`splitStructuredData`). The splitter counts
brackets, so it finds the end of the structured data where the brackets of the
whole are balanced and those of no beginning are (`separated_iff_balanced`): two
elements one after the other are not, and neither is a single bracket in a value.
-/
namespace SocAnalyst.StructuredData
open SocAnalyst.Builtins SocAnalyst.Times SocAnalyst.Scanners SocAnalyst.Values SocAnalyst.Logs SocAnalyst.LogParsers SocAnalyst.Brackets
open SocAnalyst.LogAnalysis (ParsedRecord)

/-! ### The parser -/

/-- Separate structured data from the human-readable message. -/
def splitStructuredData (rest : Text) : Option Text × Text :=
  if (lit "-").isPrefixOf rest then (none,strip (rest.drop 1))
  else if !(lit "[").isPrefixOf rest then (none,rest)
  else (closing 91 93 0 rest).elim (none,rest) fun found => (some found.1,strip found.2)

/-- The groups of the record's pattern. -/
structure Groups where
  pri : Text
  version : Text
  ts : Text
  host : Text
  app : Text
  procid : Text
  msgid : Text
  rest : Text

section
variable [Interpreter]

/-- `_PATTERN`. -/
def pattern : Scanner Nat Groups := do
  mark 60
  let pri ← run isDecimal 1 (some 3)
  mark 62
  let version ← run isDecimal 1 (some 1)
  let _ ← run isSpace 1 none
  let ts ← word
  let host ← word
  let app ← word
  let procid ← word
  let msgid ← word
  let rest ← restOfLine
  return ⟨pri,version,ts,host,app,procid,msgid,rest⟩

/-- RFC 5424 uses `-` for an absent field. -/
def noneIfNil (value : Text) : Option Text := if value = lit "-" then none else some value

/-- A string or `None`. -/
def optionalText (value : Option Text) : Value := value.elim .null .str

/-- `SyslogRfc5424Parser.parse`. -/
def parse (helpers : Helpers) (content : Text) (_referenceTime : Option DateTime) : Except PyError (Option ParsedRecord) :=
  match pattern (strip content) with
  | none => .ok none
  | some (groups,_) => do
    let rest := strip groups.rest
    let (structured,message) := splitStructuredData rest
    let eventTime ← parseTimestamp helpers groups.ts none
    let app := noneIfNil groups.app
    let fields := [(lit "priority",.int (← intOf groups.pri)),(lit "version",.str groups.version),(lit "app_name",optionalText app),
      (lit "proc_id",optionalText (noneIfNil groups.procid)),(lit "msg_id",optionalText (noneIfNil groups.msgid))]
    return some {
      logFormat := .SYSLOG_RFC5424
      eventTime
      message
      host := noneIfNil groups.host
      actor := helpers.actorFromMessage message
      action := app
      outcome := helpers.outcomeFrom message none
      eventType := helpers.classifyEventType message []
      fields := fields ++ if truthy structured then [(lit "structured_data",optionalText structured)] else []
      confidence := if eventTime.isSome then 1 else 1/2
      sure := sure_or_half eventTime.isSome ⟨zero_le_one,le_rfl⟩ }

end

/-! ### The elements -/

/-- A name of structured data: printable ASCII without `=`, `]` and the quote. -/
def SdName (name : Text) : Prop := name ≠ [] ∧ name.length ≤ 32 ∧ ∀ c ∈ name, 33 ≤ c ∧ c ≤ 126 ∧ c ≠ 61 ∧ c ≠ 93 ∧ c ≠ 34

/-- A parameter and its value, which may have any characters. -/
structure Param where
  name : Text
  value : Text
  named : SdName name

/-- An element: its id and its parameters. -/
structure Element where
  id : Text
  params : List Param
  named : SdName id

/-- A value as it is written, with a backslash before a quote, a backslash and `]`. -/
def escaped (value : Text) : Text := escapedBy [34,92,93] value

def Param.text (param : Param) : Text := 32 :: param.name ++ [61,34] ++ escaped param.value ++ [34]

def Element.text (element : Element) : Text := 91 :: element.id ++ element.params.flatMap Param.text ++ [93]

def structuredData (elements : List Element) : Text := elements.flatMap Element.text

/-- The header of a record. -/
structure Header where
  pri : Text
  version : Text
  timestamp : Text
  hostname : Text
  appName : Text
  procId : Text
  msgId : Text
  priority : Digits 1 3 pri
  versioned : Digits 1 1 version
  words : ∀ text ∈ [timestamp,hostname,appName,procId,msgId], Word text

def Header.text (header : Header) : Text :=
  60 :: header.pri ++ 62 :: header.version ++ 32 :: header.timestamp ++ 32 :: header.hostname ++ 32 :: header.appName ++
    32 :: header.procId ++ 32 :: header.msgId ++ [32]

/-- The record has the structured data and the message that were sent. -/
def Separated (record : ParsedRecord) (elements : List Element) (message : Text) : Prop :=
  record.message = message ∧ lookup record.fields (lit "structured_data") = some (.str (structuredData elements))

/-! ### The splitter -/

theorem structured_starts {elements : List Element} (some : elements ≠ []) : ∃ rest, structuredData elements = 91 :: rest := by
  obtain ⟨element,more,rfl⟩ := List.exists_cons_of_ne_nil some
  exact ⟨_,rfl⟩

theorem structured_ends {elements : List Element} (some : elements ≠ []) : (structuredData elements).getLast? = Option.some 93 := by
  rw [← List.dropLast_append_getLast some,structuredData,List.flatMap_append,List.flatMap_singleton,Element.text,← List.append_assoc,
    List.getLast?_concat]

/-- The splitter stops where the brackets are balanced. -/
theorem split_iff {elements : List Element} (some : elements ≠ []) {tail message : Text} (trimmed : strip tail = message) :
    splitStructuredData (structuredData elements ++ tail) = (Option.some (structuredData elements),message) ↔
      Balanced 91 93 (structuredData elements) := by
  obtain ⟨rest,starts⟩ := structured_starts some
  have dash : (lit "-").isPrefixOf (91 :: rest ++ tail) = false := rfl
  have bracket : (!(lit "[").isPrefixOf (91 :: rest ++ tail)) = false := rfl
  have loop : closing 91 93 0 (91 :: rest ++ tail) = (closing 91 93 1 (rest ++ tail)).map fun found => (91 :: found.1,found.2) := by
    rw [List.cons_append,closing,if_pos rfl]
    rfl
  rw [starts,splitStructuredData,dash,bracket,if_neg Bool.false_ne_true,if_neg Bool.false_ne_true,loop,balanced_cons (by decide)]
  constructor
  · cases result : closing 91 93 1 (rest ++ tail) with
    | none => simp
    | some found =>
      intro same
      obtain ⟨front,back⟩ := found
      obtain ⟨split,shut⟩ := (closing_iff (by decide) Int.one_pos).mp result
      rw [Option.map_some,Option.elim_some,Prod.mk.injEq,Option.some_inj,List.cons_inj_right] at same
      exact same.1 ▸ shut
  · intro shut
    rw [(closing_iff (by decide) Int.one_pos).mpr ⟨rfl,shut⟩,Option.map_some,Option.elim_some,trimmed]

/-! ### The record -/

section
variable [Interpreter]

theorem pattern_reads (header : Header) {line : Text} (solid : ∀ c ∈ line.head?, isSpace c = false) :
    pattern (header.text ++ line) = (restOfLine >>= fun rest => pure (⟨header.pri,header.version,header.timestamp,header.hostname,
      header.appName,header.procId,header.msgId,rest⟩ : Groups)) line := by
  obtain ⟨timestamp,hostname,appName,procId,msgId⟩ : Word header.timestamp ∧ Word header.hostname ∧ Word header.appName ∧
      Word header.procId ∧ Word header.msgId := by simpa using header.words
  have text : header.text ++ line = 60 :: (header.pri ++ 62 :: (header.version ++ 32 :: (header.timestamp ++ 32 :: (header.hostname ++
      32 :: (header.appName ++ 32 :: (header.procId ++ 32 :: (header.msgId ++ 32 :: line))))))) := by
    simp [Header.text]
  rw [pattern,text,bind_reads (mark_reads 60 _),
    bind_reads (digits_read header.priority (Or.inr (undecimal (by decide)))),bind_reads (mark_reads 62 _),
    bind_reads (digits_read header.versioned (Or.inr (undecimal (by decide)))),bind_reads (blank_reads (timestamp.first _)),
    bind_reads (word_reads timestamp (hostname.first _)),bind_reads (word_reads hostname (appName.first _)),
    bind_reads (word_reads appName (procId.first _)),bind_reads (word_reads procId (msgId.first _)),
    bind_reads (word_reads msgId solid)]

/-- What the record's pattern finds in a rendered record. -/
theorem pattern_found {header : Header} {elements : List Element} {message : Text} (some : elements ≠ []) :
    pattern (strip (header.text ++ (structuredData elements ++ 32 :: message))) =
      (restOfLine >>= fun rest => pure (⟨header.pri,header.version,header.timestamp,header.hostname,header.appName,header.procId,
        header.msgId,rest⟩ : Groups)) (structuredData elements ++ (32 :: message).rdropWhile isSpace) := by
  obtain ⟨rest,starts⟩ := structured_starts some
  have outer : strip (header.text ++ (structuredData elements ++ 32 :: message)) =
      header.text ++ (structuredData elements ++ (32 :: message).rdropWhile isSpace) := by
    rw [← List.append_assoc,strip_solid ⟨60,rfl,rfl⟩ ⟨93,by rw [List.getLast?_append,structured_ends some]; rfl,rfl⟩,List.append_assoc]
  rw [outer,pattern_reads header]
  rw [starts]
  rintro c head
  obtain rfl := Option.some.inj head
  rfl

omit [Interpreter] in
/-- What is left for the splitter has no blanks around it. -/
theorem strip_rest {elements : List Element} {message : Text} (some : elements ≠ []) :
    strip (structuredData elements ++ (32 :: message).rdropWhile isSpace) = structuredData elements ++ (32 :: message).rdropWhile isSpace := by
  obtain ⟨rest,starts⟩ := structured_starts some
  rw [strip_solid ⟨91,by rw [starts]; rfl,rfl⟩ ⟨93,structured_ends some,rfl⟩,List.rdropWhile_idempotent]

/-- A record on one line is parsed. -/
theorem parse_returns {elements : List Element} {message : Text} (some : elements ≠ [])
    (oneLine : 10 ∉ structuredData elements ++ (32 :: message).rdropWhile isSpace) (helpers : Helpers) (header : Header)
    (reference : Option DateTime) :
    ∃ record, parse helpers (header.text ++ (structuredData elements ++ 32 :: message)) reference = .ok (Option.some record) := by
  have timestamp : Word header.timestamp := header.words _ (List.mem_cons_self ..)
  obtain ⟨time,read⟩ := parseTimestamp_word helpers timestamp none
  have priority := intOf_digits header.priority (by decide)
  rw [parse,pattern_found some,bind_reads (restOfLine_reads oneLine)]
  exact ⟨_,bind_ok.mpr ⟨time,read,bind_ok.mpr ⟨_,priority,rfl⟩⟩⟩

/-- A record over several lines is left to the other parsers. -/
theorem parse_refuses {elements : List Element} {message : Text} (some : elements ≠ [])
    (broken : 10 ∈ structuredData elements ++ (32 :: message).rdropWhile isSpace) (helpers : Helpers) (header : Header)
    (reference : Option DateTime) : parse helpers (header.text ++ (structuredData elements ++ 32 :: message)) reference = .ok none := by
  have final := @solid_last (structuredData elements ++ 32 :: message)
  rw [rdropWhile_after ⟨93,structured_ends some,rfl⟩] at final
  rw [parse,pattern_found some,bind_refuses (restOfLine_refuses broken final)]

/-- What a parsed record shows of its structured data and its message is what the splitter makes of them. -/
theorem parse_splits {helpers : Helpers} {header : Header} {elements : List Element} {message : Text} {reference : Option DateTime}
    {record : ParsedRecord} (some : elements ≠ [])
    (parsed : parse helpers (header.text ++ (structuredData elements ++ 32 :: message)) reference = .ok (Option.some record)) :
    Separated record elements message ↔
      splitStructuredData (structuredData elements ++ (32 :: message).rdropWhile isSpace) = (Option.some (structuredData elements),message) := by
  have oneLine : 10 ∉ structuredData elements ++ (32 :: message).rdropWhile isSpace := by
    intro broken
    rw [parse_refuses some broken] at parsed
    cases parsed
  rw [parse,pattern_found some,bind_reads (restOfLine_reads oneLine)] at parsed
  simp only [pure_reads,strip_rest some] at parsed
  generalize splitStructuredData (structuredData elements ++ (32 :: message).rdropWhile isSpace) = split at parsed ⊢
  obtain ⟨eventTime,_,parsed⟩ := bind_ok.mp parsed
  obtain ⟨priority,_,parsed⟩ := bind_ok.mp parsed
  obtain rfl := Option.some.inj (Except.ok.inj parsed)
  obtain ⟨structured,text⟩ := split
  rw [Separated,Prod.mk.injEq,and_comm]
  refine and_congr_left fun _ => ?_
  have skipped : ∀ (a b c d e : Value) (more : List (Text × Value)), lookup ([(lit "priority",a),(lit "version",b),(lit "app_name",c),
      (lit "proc_id",d),(lit "msg_id",e)] ++ more) (lit "structured_data") = lookup more (lit "structured_data") := fun _ _ _ _ _ _ => rfl
  rw [skipped]
  cases structured with
  | none => exact iff_of_false (by simp [lookup]) (by simp)
  | some structured =>
    by_cases empty : structured = []
    · obtain ⟨rest,starts⟩ := structured_starts some
      subst empty
      exact iff_of_false (by simp [lookup]) (by simp [starts])
    · rw [if_pos ((truthy_some structured).mpr empty)]
      have held : lookup [(lit "structured_data",optionalText (Option.some structured))] (lit "structured_data") =
          Option.some (.str structured) := rfl
      rw [held,Option.some_inj,Option.some_inj,Value.str.injEq]

/-- The splitter and the parser take structured data and message apart exactly where the
    brackets of the structured data, those in names and values too, are balanced. -/
theorem separated_iff_balanced {elements : List Element} {message : Text} (some : elements ≠ []) (trimmed : strip message = message) :
    (splitStructuredData (structuredData elements ++ 32 :: message) = (Option.some (structuredData elements),message) ↔
      Balanced 91 93 (structuredData elements)) ∧
    ∀ (helpers : Helpers) (header : Header) (reference : Option DateTime),
      (∀ record, parse helpers (header.text ++ (structuredData elements ++ 32 :: message)) reference = .ok (Option.some record) →
        (Separated record elements message ↔ Balanced 91 93 (structuredData elements))) ∧
      (10 ∉ structuredData elements ++ 32 :: message →
        ∃ record, parse helpers (header.text ++ (structuredData elements ++ 32 :: message)) reference = .ok (Option.some record)) := by
  have behind : strip (32 :: message) = message := by rw [strip,List.dropWhile_cons_of_pos (by decide)]; exact trimmed
  refine ⟨split_iff some behind,fun helpers header reference => ⟨fun record parsed => ?_,fun oneLine => ?_⟩⟩
  · exact (parse_splits some parsed).trans (split_iff some (strip_behind trimmed))
  · refine parse_returns some (fun broken => oneLine ?_) helpers header reference
    rcases List.mem_append.mp broken with inside | behind
    · exact List.mem_append_left _ inside
    · exact List.mem_append_right _ ((List.rdropWhile_prefix isSpace _).subset behind)

end

/-! ### Elements without brackets -/

/-- No bracket but those around the element. -/
def Element.Plain (element : Element) : Prop :=
  91 ∉ element.id ∧ ∀ param ∈ element.params, 91 ∉ param.name ∧ 91 ∉ param.value ∧ 93 ∉ param.value

theorem Element.plain_text {element : Element} (plain : element.Plain) :
    ∃ inner, element.text = 91 :: inner ++ [93] ∧ 91 ∉ inner ∧ 93 ∉ inner := by
  have free : ∀ param ∈ element.params, 91 ∉ param.text ∧ 93 ∉ param.text := by
    intro param member
    obtain ⟨name,opening,closed⟩ := plain.2 param member
    have left := @absent_escapedBy [34,92,93] 91 (by decide) _ opening
    have right := @absent_escapedBy [34,92,93] 93 (by decide) _ closed
    have named : 93 ∉ param.name := fun inside => (param.named.2.2 93 inside).2.2.2.1 rfl
    simp [Param.text,escaped,left,right,name,named]
  refine ⟨element.id ++ element.params.flatMap Param.text,by simp [Element.text],?_,?_⟩
  · intro member
    rcases List.mem_append.mp member with id | param
    · exact plain.1 id
    · obtain ⟨param,listed,inside⟩ := List.mem_flatMap.mp param
      exact (free param listed).1 inside
  · intro member
    rcases List.mem_append.mp member with id | param
    · exact (element.named.2.2 93 id).2.2.2.1 rfl
    · obtain ⟨param,listed,inside⟩ := List.mem_flatMap.mp param
      exact (free param listed).2 inside

/-- Without brackets in names and values a single element is balanced and several are not. -/
theorem plain_balanced_iff {elements : List Element} (some : elements ≠ []) (plain : ∀ element ∈ elements, element.Plain) :
    Balanced 91 93 (structuredData elements) ↔ elements.length = 1 := by
  obtain ⟨element,more,rfl⟩ := List.exists_cons_of_ne_nil some
  obtain ⟨inner,text,opening,closed⟩ := Element.plain_text (plain element (List.mem_cons_self ..))
  have flat : ∀ part : Text, part <+: inner → level 91 93 part = 0 := by
    intro part within
    have noOpening := List.count_eq_zero.mpr fun member => opening (within.subset member)
    have noClosing := List.count_eq_zero.mpr fun member => closed (within.subset member)
    simp [level,noOpening,noClosing]
  have zero : level 91 93 element.text = 0 := by
    rw [text,level_append,level_cons,flat inner List.prefix_rfl]
    decide
  constructor
  · intro balanced
    by_contra several
    obtain ⟨second,others,rfl⟩ : ∃ second others, more = second :: others :=
      List.exists_cons_of_ne_nil fun alone => several (by rw [alone]; rfl)
    have proper : element.text.length < (structuredData (element :: second :: others)).length := by
      simp only [structuredData,List.flatMap_cons,List.length_append,Element.text,List.length_cons,List.length_nil]
      omega
    have first := balanced.2 _ proper (by rw [text]; simp)
    rw [structuredData,List.flatMap_cons,List.take_left,zero] at first
    exact absurd first (by decide)
  · intro alone
    obtain rfl : more = [] := List.eq_nil_of_length_eq_zero (by simpa using alone)
    rw [structuredData,List.flatMap_singleton]
    refine ⟨zero,fun k short positive => ?_⟩
    cases k with
    | zero => cases positive
    | succ k =>
      rw [text] at short ⊢
      rw [List.cons_append,List.take_succ_cons,List.take_append_of_le_length (by simp at short; omega),level_cons,
        flat _ (List.take_prefix k inner)]
      decide

/-! ### Two elements, and brackets in a value -/

theorem origin_named : SdName (lit "origin") := ⟨by decide,by decide,by decide⟩
theorem meta_named : SdName (lit "meta") := ⟨by decide,by decide,by decide⟩
theorem ip_named : SdName (lit "ip") := ⟨by decide,by decide,by decide⟩

/-- `[origin ip="[::1\]"]`. -/
def origin : Element := ⟨lit "origin",[⟨lit "ip",lit "[::1]",ip_named⟩],origin_named⟩

/-- `[meta]`. -/
def bareMeta : Element := ⟨lit "meta",[],meta_named⟩

theorem origin_separated :
    splitStructuredData (structuredData [origin] ++ 32 :: lit "link up") = (some (structuredData [origin]),lit "link up") :=
  ((@separated_iff_balanced ascii [origin] (lit "link up") (by decide) (by decide)).1).mpr (by decide)

/-- Of two elements the second one ends up in the message. -/
theorem second_element_misplaced :
    splitStructuredData (structuredData [origin,bareMeta] ++ 32 :: lit "link up") =
      (some (structuredData [origin]),structuredData [bareMeta] ++ 32 :: lit "link up") ∧
    ¬ ∀ (elements : List Element) (message : Text), elements ≠ [] → strip message = message →
      splitStructuredData (structuredData elements ++ 32 :: message) = (some (structuredData elements),message) := by
  refine ⟨by decide,fun always => ?_⟩
  have both := always [origin,bareMeta] (lit "link up") nofun (by decide)
  exact absurd both (by decide)

end SocAnalyst.StructuredData
