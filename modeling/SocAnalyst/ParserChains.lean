import SocAnalyst.Cef
import SocAnalyst.CleanTexts
import SocAnalyst.Extraction
import SocAnalyst.NvdRecords
import SocAnalyst.StructuredData
import SocAnalyst.SyslogYears

/-!
# The chain of log parsers

The parsers of `tools/parsers.py` that read JSON and loose pairs, the timestamps that a
record may carry in any type, and `parse_record`: the declared parser first, then all of
them in order. A parser raises on some texts, and what is tried before it decides whether
it gets to see them.
-/
namespace SocAnalyst.ParserChains
open SocAnalyst.Builtins SocAnalyst.Doubles SocAnalyst.Times SocAnalyst.Calendar SocAnalyst.Scanners SocAnalyst.Values SocAnalyst.Logs
open SocAnalyst.Dicts SocAnalyst.LogParsers SocAnalyst.Raising
open SocAnalyst.AlertTemplates (WordTable)
open SocAnalyst.CleanTexts (strip_strip)
open SocAnalyst.Cef (Alphabet isWord timeKeys hostKeys actorKeys normalizeKey parseKeyValues)
open SocAnalyst.LogAnalysis (ParsedRecord RawLogRecord)
open SocAnalyst.NvdRecords (floatOfInt)
open SocAnalyst.Patterns (Pattern)

/-- An interpreter that prints floats and knows word characters. -/
class Tables extends Alphabet, Printer

/-- The ASCII interpreter. -/
@[reducible] def asciiTables : Tables := { asciiPrinter, Cef.asciiAlphabet with }

/-- One table of word characters for all patterns. -/
instance wordTable [Tables] : WordTable := ⟨isWord,Alphabet.isWord_ascii⟩

/-- The helpers of the parsers, with the reading of JSON. -/
structure Decoders extends Helpers where
  /-- `json.loads`, or nothing where it raises `JSONDecodeError`. An integer that is too
      long and nesting that is too deep raise other errors. -/
  loads : Text → Except PyError (Option Value)

/-! ### Timestamps of any type -/

/-- The clock of 1970-01-01. -/
def epoch : Int := 719162 * dayMicros

/-- `math.modf`, the whole part. -/
def truncated (q : ℚ) : Int := if 0 ≤ q then ⌊q⌋ else ⌈q⌉

/-- The microseconds since the epoch: the whole seconds, and their fraction rounded. -/
def microsOf (seconds : ℚ) : Int :=
  truncated seconds * 1000000 + roundHalfEven (times (seconds - truncated seconds) 1000000)

/-- The clock after so many seconds. -/
def clockOf (seconds : ℚ) : Int := epoch + microsOf seconds

/-- The calendar has the moment. -/
def InCalendar : PyFloat → Prop
  | .finite seconds => 0 ≤ clockOf seconds.value ∧ clockOf seconds.value < maxDays * dayMicros
  | .negativeZero => True
  | .infinite _ | .nan => False

instance (seconds : PyFloat) : Decidable (InCalendar seconds) := by
  cases seconds <;> unfold InCalendar <;> infer_instance

theorem epoch_in_range : 0 ≤ epoch ∧ epoch < maxDays * dayMicros := by decide

/-- `datetime.fromtimestamp(seconds, tz=UTC)`. What it raises depends on how far out the
    seconds are. -/
def fromTimestamp : PyFloat → Except PyError DateTime
  | .finite seconds =>
    let whole := truncated seconds.value
    if known : InCalendar (.finite seconds) then .ok ⟨clockOf seconds.value,some 0,known⟩
    else if 2^63 ≤ |whole| then .error .OverflowError
    -- the year of the C library has 32 bits
    else if whole < -67768040609740800 ∨ 67768036191676799 < whole then .error .OSError
    else .error .ValueError
  | .negativeZero => .ok ⟨epoch,some 0,epoch_in_range⟩
  | .infinite _ => .error .OverflowError
  | .nan => .error .ValueError

/-- `value > 100_000_000_000`. -/
def inMilliseconds : PyFloat → Bool
  | .finite value => 100000000000 < value.value
  | .infinite negative => !negative
  | .negativeZero | .nan => false

/-- `value / 1000.0`. -/
def thousandth : PyFloat → PyFloat
  | .finite value => rounded (value.value / 1000)
  | other => other

section
variable [Interpreter] (helpers : Helpers)

/-- Parse the timestamp shapes log sources actually emit. -/
def parseTimestamp (value : Value) (referenceYear : Option Nat) : Except PyError (Option DateTime) :=
  match value with
  | .bool flag => do return some (← fromTimestamp (← floatOfInt (if flag then 1 else 0)))
  | .int n => do
    let seconds ← floatOfInt n
    return some (← fromTimestamp (if 100000000000 < n then thousandth seconds else seconds))
  | .float x => do return some (← fromTimestamp (if inMilliseconds x then thousandth x else x))
  | .str text => LogParsers.parseTimestamp helpers text referenceYear
  | .null | .list _ | .dict _ => .ok none

end

/-! ### Fields under any of their names -/

def actionKeys : List Text := [lit "action",lit "event",lit "event_type",lit "activity",lit "operation",lit "task"]
def outcomeKeys : List Text := [lit "outcome",lit "result",lit "status",lit "success"]
def messageKeys : List Text := [lit "message",lit "msg",lit "description",lit "text",lit "event_data",lit "detail"]

/-- `value not in (None, "")`. -/
def present : Value → Bool
  | .null | .str [] => false
  | _ => true

/-- `str(value or fallback)`. -/
def textOr [Printer] (value : Option Value) (fallback : Text) : Text :=
  match value.filter Value.truthy with
  | some value => value.toText
  | none => fallback

section
variable [Tables]

/-- The first present, non-empty value among keys, spelled any way. -/
def first (payload : List (Text × Value)) (keys : List Text) : Option Value :=
  let folded := payload.foldl (fun folded entry => folded.set (normalizeKey entry.1) entry.2) (Dict.empty : Dict Text Value)
  keys.findSome? fun key => (folded.get? (normalizeKey key)).filter present

def optionalStr (value : Option Value) : Option Text := Cef.optionalStr (value.map Value.toText)

/-! ### The parsers -/

/-- Recognizes and parses one log format. -/
structure LogParser where
  logFormat : LogFormat
  canParse : Text → Except PyError Bool
  parse : Text → Option DateTime → Except PyError (Option ParsedRecord)

/-- The text stands between braces. -/
def braced (text : Text) : Bool := text.head? = some 123 && text.getLast? = some 125

variable (decoders : Decoders)

/-- The time of a record, if a field holds one. -/
def timeOf (value : Option Value) : Except PyError (Option DateTime) :=
  value.elim (.ok none) fun value => parseTimestamp decoders.toHelpers value none

omit [Tables] in
theorem sure_or_two_fifths (dated : Bool) : (0 : ℚ) ≤ (if dated then 4/5 else 2/5) ∧ (if dated then 4/5 else 2/5 : ℚ) ≤ 1 := by
  split <;> norm_num

omit [Tables] in
theorem sure_of (time : Option DateTime) : (0 : ℚ) ≤ (if time.isSome then 1 else 1/2) ∧ (if time.isSome then 1 else 1/2 : ℚ) ≤ 1 :=
  sure_or_half time.isSome ⟨zero_le_one,le_rfl⟩

/-- `JsonLogParser.parse`. -/
def jsonRecord (content : Text) (_referenceTime : Option DateTime) : Except PyError (Option ParsedRecord) := do
  match ← decoders.loads content with
  | some (.dict payload) =>
    let message := textOr (first payload messageKeys) content
    let eventTime ← timeOf decoders (first payload timeKeys)
    return some {
      logFormat := .JSON
      eventTime
      message
      host := optionalStr (first payload hostKeys)
      actor := optionalStr (first payload actorKeys)
      action := optionalStr (first payload actionKeys)
      outcome := decoders.outcomeFrom message ((first payload outcomeKeys).map Value.toText)
      eventType := decoders.classifyEventType (message ++ lit " " ++ textOr (first payload actionKeys) []) payload
      fields := payload
      confidence := if eventTime.isSome then 1 else 1/2
      sure := sure_of eventTime }
  | _ => return none

/-- Structured JSON records. -/
def jsonLogParser : LogParser where
  logFormat := .JSON
  canParse content := .ok (braced (strip content))
  parse := jsonRecord decoders

/-- The envelope of a Windows event. -/
def enveloped (payload : List (Text × Value)) : Bool :=
  let lowered := payload.map fun entry => lower entry.1
  lowered.contains (lit "eventid") && [lit "channel",lit "provider",lit "providername"].any lowered.contains

/-- `WindowsEventParser.parse`. -/
def windowsRecord (content : Text) (_referenceTime : Option DateTime) : Except PyError (Option ParsedRecord) := do
  match ← decoders.loads content with
  | some (.dict payload) =>
    let message := textOr (first payload messageKeys) []
    let eventTime ← timeOf decoders (first payload timeKeys)
    return some {
      logFormat := .WINDOWS_EVENT
      eventTime
      message := if message = [] then lit "Windows event " ++ textOr (first payload [lit "event_id",lit "eventid"]) (lit "?") else message
      host := optionalStr (first payload hostKeys)
      actor := optionalStr (first payload actorKeys)
      action := optionalStr (first payload (lit "task" :: lit "opcode" :: actionKeys))
      outcome := decoders.outcomeFrom message ((first payload outcomeKeys).map Value.toText)
      eventType := decoders.classifyEventType message payload
      fields := payload
      confidence := if eventTime.isSome then 1 else 1/2
      sure := sure_of eventTime }
  | _ => return none

/-- Windows Event Log records exported as JSON. -/
def windowsEventParser : LogParser where
  logFormat := .WINDOWS_EVENT
  canParse content :=
    let text := strip content
    if !braced text then .ok false
    else do
      match ← decoders.loads text with
      | some (.dict payload) => return enveloped payload
      | _ => return false
  parse := windowsRecord decoders

def syslogRfc5424Parser : LogParser where
  logFormat := .SYSLOG_RFC5424
  canParse content := .ok (StructuredData.pattern (strip content)).isSome
  parse := StructuredData.parse decoders.toHelpers

def syslogRfc3164Parser : LogParser where
  logFormat := .SYSLOG_RFC3164
  canParse content := .ok (SyslogYears.pattern (strip content)).isSome
  parse := SyslogYears.parse decoders.toHelpers

def cefParser : LogParser where
  logFormat := .CEF
  canParse content := .ok (Cef.cefStart (strip content)).isSome
  parse := Cef.parse decoders.toHelpers

/-- `\b[\w.\-]+=`. -/
def pairMark : Pattern Nat := .seq Extraction.edge (.seq (Extraction.oneOrMore Extraction.inName) (Extraction.character 61))

/-- `KeyValueParser.parse`. -/
def keyValueRecord (content : Text) (_referenceTime : Option DateTime) : Except PyError (Option ParsedRecord) :=
  let fields := parseKeyValues content
  if fields.entries = [] then .ok none
  else do
    let message := (Cef.first fields.entries messageKeys).getD (strip content)
    let eventTime ← timeOf decoders ((Cef.first fields.entries timeKeys).map .str)
    let values := fields.entries.map fun entry => (entry.1,Value.str entry.2)
    return some {
      logFormat := .KEY_VALUE
      eventTime
      message
      host := Cef.optionalStr (Cef.first fields.entries hostKeys)
      actor := Cef.optionalStr (Cef.first fields.entries actorKeys)
      action := Cef.optionalStr (Cef.first fields.entries actionKeys)
      outcome := decoders.outcomeFrom content (Cef.first fields.entries outcomeKeys)
      eventType := decoders.classifyEventType content values
      fields := values
      confidence := if eventTime.isSome then 4/5 else 2/5
      sure := sure_or_two_fifths eventTime.isSome }

/-- Loose `key=value` lines. A couple of pairs is required. -/
def keyValueParser : LogParser where
  logFormat := .KEY_VALUE
  canParse content := .ok (2 ≤ (Patterns.findAll pairMark.whole content).length)
  parse := keyValueRecord decoders

/-- Ordered most specific first. -/
def defaultParsers : List LogParser :=
  [windowsEventParser decoders,jsonLogParser decoders,syslogRfc5424Parser decoders,syslogRfc3164Parser decoders,cefParser decoders,
    keyValueParser decoders]

end

/-! ### The chain -/

/-- Parse with the first parser that recognizes the text and makes something of it. -/
def sniff (content : Text) (referenceTime : Option DateTime) : List LogParser → Except PyError (Option ParsedRecord)
  | [] => .ok none
  | parser :: rest => do
    if ← parser.canParse content then
      match ← parser.parse content referenceTime with
      | some parsed => return some parsed
      | none => sniff content referenceTime rest
    else sniff content referenceTime rest

/-- The parser of the declared format. -/
def declared (parsers : List LogParser) (record : RawLogRecord) : Option LogParser :=
  record.declaredFormat.bind fun format => parsers.find? fun parser => parser.logFormat = format

/-- Parse a record with the declared parser, or with the first that recognizes it. -/
def parseRecord (parsers : List LogParser) (record : RawLogRecord) : Except PyError (Option ParsedRecord) :=
  let content := strip record.content
  if content = [] then .ok none
  else match declared parsers record with
    | none => sniff content record.receivedAt parsers
    | some parser => do
      match ← parser.parse content record.receivedAt with
      | some parsed => return some parsed
      | none => sniff content record.receivedAt parsers

@[simp] theorem returns_pure {ε α : Type} (a : α) : Returns (pure a : Except ε α) := ⟨a,rfl⟩

@[simp] theorem returns_fmap {ε α β : Type} (step : Except ε α) (g : α → β) : Returns (g <$> step) ↔ Returns step := returns_map step g

/-! ### Times that no calendar has -/

/-- The seconds of an integer are a moment of the calendar. -/
def Dates (n : Int) : Prop := ∃ seconds, floatOfInt n = .ok seconds ∧ InCalendar (if 100000000000 < n then thousandth seconds else seconds)

section
variable [Interpreter] (helpers : Helpers) (referenceYear : Option Nat)

/-- The groups of an RFC 3164 timestamp that stands alone. -/
def stampOf (text : Text) : Option SyslogTime :=
  ((syslogTime >>= fun groups => finish >>= fun _ => pure groups) text).map (·.1)

/-- An RFC 3164 timestamp of a known month names a moment of the year. -/
def Stamped (text : Text) : Prop :=
  ∀ stamp, stampOf text = some stamp → ∀ month, syslogMonth stamp.month = some month →
    ValidTime ((referenceYear.filter (· ≠ 0)).getD helpers.currentYear) month (digitsValue stamp.day) (digitsValue stamp.hour)
      (digitsValue stamp.minute) (digitsValue stamp.second)

/-- The value is the time of a moment, or not a time. -/
def Datable : Value → Prop
  | .bool flag => Dates (if flag then 1 else 0)
  | .int n => Dates n
  | .float x => InCalendar (if inMilliseconds x then thousandth x else x)
  | .str text => helpers.fromIsoformat (replaceAll (lit "Z") (lit "+00:00") (strip text)) = none → Stamped helpers referenceYear (strip text)
  | .null | .list _ | .dict _ => True

omit [Interpreter] in
theorem returns_fromTimestamp (seconds : PyFloat) : Returns (fromTimestamp seconds) ↔ InCalendar seconds := by
  cases seconds with
  | finite seconds =>
    rw [fromTimestamp]
    split_ifs with known
    · simp [known]
    all_goals simpa using known
  | negativeZero => simp [fromTimestamp,InCalendar]
  | infinite negative => simp [fromTimestamp,InCalendar]
  | nan => simp [fromTimestamp,InCalendar]

/-- The numbers of a timestamp have two digits at most. -/
theorem syslogTime_short {text rest : Text} {groups : SyslogTime} (read : syslogTime text = some (groups,rest)) :
    groups.day.length ≤ 2 ∧ groups.hour.length ≤ 2 ∧ groups.minute.length ≤ 2 ∧ groups.second.length ≤ 2 := by
  obtain ⟨_,_,_,read⟩ := bind_found read
  obtain ⟨_,_,_,read⟩ := bind_found read
  obtain ⟨_,_,_,read⟩ := bind_found read
  obtain ⟨day,_,days,read⟩ := bind_found read
  obtain ⟨_,_,_,read⟩ := bind_found read
  obtain ⟨hour,_,hours,read⟩ := bind_found read
  obtain ⟨_,_,_,read⟩ := bind_found read
  obtain ⟨minute,_,minutes,read⟩ := bind_found read
  obtain ⟨_,_,_,read⟩ := bind_found read
  obtain ⟨second,_,seconds,read⟩ := bind_found read
  cases read
  exact ⟨(run_found days).2.2.1,(run_found hours).2.2.1,(run_found minutes).2.2.1,(run_found seconds).2.2.1⟩

omit [Interpreter] in
theorem utcTime_returns (year month day hour minute second : Nat) :
    Returns (utcTime year month day hour minute second) ↔ ValidTime year month day hour minute second := by
  rw [utcTime]
  split_ifs with valid <;> simp [valid]

theorem intOf_few {digits : Text} (few : digits.length ≤ maxStrDigits) : intOf digits = .ok (digitsValue digits) :=
  if_neg (Nat.not_lt.mpr few)

theorem returns_textTime (text : Text) :
    Returns (LogParsers.parseTimestamp helpers text referenceYear) ↔ Datable helpers referenceYear (.str text) := by
  rw [LogParsers.parseTimestamp,Datable]
  by_cases blank : strip text = []
  · have none : stampOf ([] : Text) = none := rfl
    simp [blank,Stamped,none]
  · rw [if_neg blank]
    cases helpers.fromIsoformat (replaceAll (lit "Z") (lit "+00:00") (strip text)) with
    | some parsed => simp
    | none =>
      simp only [true_imp_iff,Stamped,stampOf]
      cases read : (syslogTime >>= fun groups => finish >>= fun _ => pure groups) (strip text) with
      | none => simp
      | some found =>
        obtain ⟨groups,rest⟩ := found
        obtain ⟨stamp,after,written,read⟩ := bind_found read
        obtain ⟨_,_,_,read⟩ := bind_found read
        cases read
        obtain ⟨day,hour,minute,second⟩ := syslogTime_short written
        have short : ∀ {digits : Text}, digits.length ≤ 2 → intOf digits = .ok (digitsValue digits) :=
          fun two => intOf_few (two.trans (by decide))
        cases named : syslogMonth groups.month with
        | none => simp [named]
        | some month =>
          simp only [named,short day,short hour,short minute,short second,returns_bind,Except.ok.injEq,exists_eq_left',Option.map_some,
            Option.some.injEq,forall_eq',← utcTime_returns]
          simp only [returns_pure,and_true]
          rfl

/-- A timestamp of any type is read but for moments that the calendar does not have. -/
theorem returns_parseTimestamp (value : Value) :
    Returns (parseTimestamp helpers value referenceYear) ↔ Datable helpers referenceYear value := by
  cases value with
  | null | list _ | dict _ => simp [parseTimestamp,Datable]
  | bool flag =>
    have small : ¬ (100000000000 : Int) < if flag then 1 else 0 := by cases flag <;> decide
    simp only [parseTimestamp,Datable,Dates,small,if_false,returns_bind,← returns_fromTimestamp]
    simp only [returns_pure,and_true]
    rfl
  | int n =>
    simp only [parseTimestamp,Datable,Dates,returns_bind,← returns_fromTimestamp]
    simp only [returns_pure,and_true]
    rfl
  | float x =>
    simp only [parseTimestamp,Datable,returns_bind,returns_pure,and_true,← returns_fromTimestamp]
    rfl
  | str text => exact returns_textTime helpers referenceYear text

end

/-! ### The texts on which a parser raises -/

section
variable [Tables] (decoders : Decoders)

/-- The fields of a CEF record. -/
def cefFields (content : Text) : Option (Dict Text Text) :=
  if (Cef.cefStart (strip content)).isNone then none
  else match Cef.splitAtMost 124 7 (strip content) with
    | [_,vendor,product,version,signature,name,severity,extension] =>
      some (Cef.fieldsOf vendor product version signature name severity extension)
    | _ => none

/-- A field that should hold the time of a record holds none that a calendar has. -/
def Misdated (value : Option Value) : Prop := ∃ time, value = some time ∧ ¬ Datable decoders.toHelpers none time

/-- The parser of a format raises on the text. -/
def Stumbles (content : Text) (referenceTime : Option DateTime) : LogFormat → Prop
  | .JSON | .WINDOWS_EVENT => ¬ Returns (decoders.loads content) ∨
      ∃ payload, decoders.loads content = .ok (some (.dict payload)) ∧ Misdated decoders (first payload timeKeys)
  | .SYSLOG_RFC3164 => ∃ groups rest, SyslogYears.pattern (strip content) = some (groups,rest) ∧
      (¬ Datable decoders.toHelpers (referenceTime.map readingYear) (.str groups.ts) ∨ ∃ pid, groups.pid = some pid ∧ maxStrDigits < pid.length)
  | .CEF => ∃ fields, cefFields content = some fields ∧ Misdated decoders ((Cef.first fields.entries (lit "rt" :: timeKeys)).map .str)
  | .KEY_VALUE => Misdated decoders ((Cef.first (parseKeyValues content).entries timeKeys).map .str)
  | .SYSLOG_RFC5424 | .UNKNOWN => False

theorem returns_timeOf (value : Option Value) : Returns (timeOf decoders value) ↔ ¬ Misdated decoders value := by
  cases value with
  | none => simp [timeOf,Misdated]
  | some value =>
    rw [timeOf,Option.elim_some,returns_parseTimestamp]
    simp [Misdated]

/-- A record that is made of a payload and its time. -/
theorem returns_payload {make : List (Text × Value) → Option DateTime → ParsedRecord} (content : Text) :
    Returns (do
      match ← decoders.loads content with
      | some (.dict payload) => return some (make payload (← timeOf decoders (first payload timeKeys)))
      | _ => return none) ↔ ¬ Stumbles decoders content none .JSON := by
  rw [Stumbles,returns_bind]
  cases loaded : decoders.loads content with
  | error e => simp
  | ok value =>
    match value with
    | some (.dict payload) => simp [← returns_timeOf]
    | none | some .null | some (.bool _) | some (.int _) | some (.float _) | some (.str _) | some (.list _) => simp

theorem returns_json (content : Text) (referenceTime : Option DateTime) :
    Returns (jsonRecord decoders content referenceTime) ↔ ¬ Stumbles decoders content referenceTime .JSON :=
  returns_payload decoders content

theorem returns_windows (content : Text) (referenceTime : Option DateTime) :
    Returns (windowsRecord decoders content referenceTime) ↔ ¬ Stumbles decoders content referenceTime .WINDOWS_EVENT :=
  returns_payload decoders content

theorem first_nil (keys : List Text) : Cef.first [] keys = none := by
  simp only [Cef.first,List.foldl_nil,List.findSome?_eq_none_iff]
  intro key _
  rfl

theorem returns_keyValue (content : Text) (referenceTime : Option DateTime) :
    Returns (keyValueRecord decoders content referenceTime) ↔ ¬ Stumbles decoders content referenceTime .KEY_VALUE := by
  rw [keyValueRecord,Stumbles,← returns_timeOf]
  by_cases none : (parseKeyValues content).entries = []
  · simp [none,first_nil,timeOf]
  · simp [none]

theorem returns_cef (content : Text) (referenceTime : Option DateTime) :
    Returns (Cef.parse decoders.toHelpers content referenceTime) ↔ ¬ Stumbles decoders content referenceTime .CEF := by
  rw [Cef.parse,Stumbles,cefFields]
  by_cases other : (Cef.cefStart (strip content)).isNone
  · simp [other]
  · simp only [other]
    have same : ∀ time : Option Text, (time.elim (.ok none) fun value => LogParsers.parseTimestamp decoders.toHelpers value none) =
        timeOf decoders (time.map .str) := by
      intro time
      cases time <;> rfl
    -- a header of another length is refused on both sides
    generalize Cef.splitAtMost 124 7 (strip content) = parts
    rcases parts with _ | ⟨_,_ | ⟨vendor,_ | ⟨product,_ | ⟨version,_ | ⟨signature,_ | ⟨name,_ | ⟨severity,_ | ⟨extension,_ | ⟨_,_⟩⟩⟩⟩⟩⟩⟩⟩⟩
    all_goals simp [same,returns_timeOf]

omit [Tables] in
theorem word_found {text rest piece : Text} (read : word text = some (piece,rest)) : Word piece := by
  obtain ⟨_,_,found,read⟩ := bind_found read
  obtain ⟨_,_,_,read⟩ := bind_found read
  cases read
  obtain ⟨_,some,solid⟩ := run_splits found
  exact ⟨List.length_pos_iff.mp some,fun c member => by simpa [isSolid] using solid c member⟩

/-- An RFC 5424 timestamp is a word, and its priority has three digits at most. -/
theorem returns_rfc5424 (content : Text) (referenceTime : Option DateTime) :
    Returns (StructuredData.parse decoders.toHelpers content referenceTime) := by
  rw [StructuredData.parse]
  cases found : StructuredData.pattern (strip content) with
  | none => simp
  | some read =>
    obtain ⟨groups,rest⟩ := read
    obtain ⟨_,_,_,found⟩ := bind_found found
    obtain ⟨pri,_,priority,found⟩ := bind_found found
    obtain ⟨_,_,_,found⟩ := bind_found found
    obtain ⟨_,_,_,found⟩ := bind_found found
    obtain ⟨_,_,_,found⟩ := bind_found found
    obtain ⟨ts,_,stamp,found⟩ := bind_found found
    obtain ⟨_,_,_,found⟩ := bind_found found
    obtain ⟨_,_,_,found⟩ := bind_found found
    obtain ⟨_,_,_,found⟩ := bind_found found
    obtain ⟨_,_,_,found⟩ := bind_found found
    obtain ⟨_,_,_,found⟩ := bind_found found
    cases found
    obtain ⟨time,dated⟩ := parseTimestamp_word decoders.toHelpers (word_found stamp) none
    simp [dated,intOf_few ((run_found priority).2.2.1.trans (by decide)),returns_bind]

omit [Tables] in
theorem optionally_found {σ α : Type} {scanner : Scanner σ α} {text rest : List σ} {found : Option α}
    (read : optionally scanner text = some (found,rest)) : ∀ a ∈ found, scanner text = some (a,rest) := by
  rintro a rfl
  unfold optionally at read
  cases tried : scanner text with
  | none => rw [tried] at read; cases read
  | some passed => rw [tried] at read; cases read; rfl

theorem returns_numberField (name : Text) (digits : Option Text) :
    Returns (SyslogYears.numberField name digits) ↔ ∀ piece ∈ digits, piece.length ≤ maxStrDigits := by
  cases digits with
  | none => simp [SyslogYears.numberField]
  | some piece =>
    rw [SyslogYears.numberField,Option.elim_some,returns_map,intOf]
    split_ifs with long <;> simp <;> omega

theorem returns_rfc3164 (content : Text) (referenceTime : Option DateTime) :
    Returns (SyslogYears.parse decoders.toHelpers content referenceTime) ↔ ¬ Stumbles decoders content referenceTime .SYSLOG_RFC3164 := by
  rw [SyslogYears.parse,Stumbles]
  cases found : SyslogYears.pattern (strip content) with
  | none => simp
  | some read =>
    obtain ⟨groups,rest⟩ := read
    have priority : Returns (SyslogYears.numberField (lit "priority") groups.pri) := by
      obtain ⟨pri,_,optional,found⟩ := bind_found found
      obtain ⟨_,_,_,found⟩ := bind_found found
      obtain ⟨_,_,_,found⟩ := bind_found found
      obtain ⟨_,_,_,found⟩ := bind_found found
      obtain ⟨_,_,_,found⟩ := bind_found found
      obtain ⟨_,_,_,found⟩ := bind_found found
      obtain ⟨_,_,_,found⟩ := bind_found found
      obtain ⟨_,_,_,found⟩ := bind_found found
      obtain ⟨_,_,_,found⟩ := bind_found found
      cases found
      rw [returns_numberField]
      intro digits some
      obtain ⟨_,_,_,enclosed⟩ := bind_found (optionally_found optional digits some)
      obtain ⟨_,_,few,enclosed⟩ := bind_found enclosed
      obtain ⟨_,_,_,enclosed⟩ := bind_found enclosed
      cases enclosed
      exact (run_found few).2.2.1.trans (by decide)
    obtain ⟨field,numbered⟩ := priority
    have pid := returns_numberField (lit "pid") groups.pid
    simp only [numbered,bind_pure_comp,returns_bind,Except.ok.injEq,returns_fmap,pid,Option.mem_def,exists_and_right,↓existsAndEq,
      true_and,Option.some.injEq,Prod.mk.injEq,← returns_textTime,and_true,exists_eq_left',not_or,not_not,not_exists,not_and,not_lt,
      and_congr_left_iff]
    exact fun _ => Iff.rfl

/-- A parser returns on the texts on which its format does not stumble. -/
theorem returns_parse {parser : LogParser} (listed : parser ∈ defaultParsers decoders) (content : Text) (referenceTime : Option DateTime) :
    Returns (parser.parse content referenceTime) ↔ ¬ Stumbles decoders content referenceTime parser.logFormat := by
  simp only [defaultParsers,List.mem_cons,List.not_mem_nil,or_false] at listed
  rcases listed with rfl | rfl | rfl | rfl | rfl | rfl
  · exact returns_windows decoders content referenceTime
  · exact returns_json decoders content referenceTime
  · exact iff_of_true (returns_rfc5424 decoders content referenceTime) id
  · exact returns_rfc3164 decoders content referenceTime
  · exact returns_cef decoders content referenceTime
  · exact returns_keyValue decoders content referenceTime

/-- Whoever cannot say whether it recognizes a text cannot parse it either. -/
theorem returns_canParse {parser : LogParser} (listed : parser ∈ defaultParsers decoders) {content : Text} (trimmed : strip content = content)
    {referenceTime : Option DateTime} (parses : Returns (parser.parse content referenceTime)) : Returns (parser.canParse content) := by
  simp only [defaultParsers,List.mem_cons,List.not_mem_nil,or_false] at listed
  rcases listed with rfl | rfl | rfl | rfl | rfl | rfl
  · have loads : Returns (decoders.loads content) := by
      by_contra raises
      exact (returns_windows decoders content referenceTime).mp parses (.inl raises)
    obtain ⟨value,loaded⟩ := loads
    simp only [windowsEventParser,trimmed,loaded]
    split_ifs
    · exact returns_ok _
    · simp only [returns_bind,Except.ok.injEq,exists_eq_left']
      split <;> exact returns_pure _
  all_goals exact returns_ok _

end

/-! ### Which parsers are tried -/

/-- The parser does not recognize the text, or makes nothing of it. -/
def LogParser.Skips (parser : LogParser) (content : Text) (referenceTime : Option DateTime) : Prop :=
  parser.canParse content = .ok false ∨ parser.parse content referenceTime = .ok none

/-- The parser does not say no to a text, and all before it skip it. -/
inductive Asked (content : Text) (referenceTime : Option DateTime) : List LogParser → LogParser → Prop where
  | here {parser : LogParser} (rest : List LogParser) (recognized : parser.canParse content ≠ .ok false) :
      Asked content referenceTime (parser :: rest) parser
  | later {first parser : LogParser} {rest : List LogParser} (skips : first.Skips content referenceTime)
      (asked : Asked content referenceTime rest parser) : Asked content referenceTime (first :: rest) parser

theorem Asked.mem {content : Text} {referenceTime : Option DateTime} {parsers : List LogParser} {parser : LogParser}
    (asked : Asked content referenceTime parsers parser) : parser ∈ parsers := by
  induction asked with
  | here => exact List.mem_cons_self
  | later _ _ ih => exact List.mem_cons_of_mem _ ih

/-- The chain returns when all the parsers do that it asks. -/
theorem returns_sniff {content : Text} {referenceTime : Option DateTime} {parsers : List LogParser}
    (decides : ∀ parser ∈ parsers, Returns (parser.parse content referenceTime) → Returns (parser.canParse content)) :
    Returns (sniff content referenceTime parsers) ↔
      ∀ parser, Asked content referenceTime parsers parser → Returns (parser.parse content referenceTime) := by
  induction parsers with
  | nil => exact iff_of_true (returns_ok none) nofun
  | cons first rest ih =>
    have later := ih fun parser listed => decides parser (List.mem_cons_of_mem _ listed)
    have passes : (first.canParse content ≠ .ok false → Returns (first.parse content referenceTime)) → first.Skips content referenceTime →
        ((∀ parser, Asked content referenceTime (first :: rest) parser → Returns (parser.parse content referenceTime)) ↔
          Returns (sniff content referenceTime rest)) := by
      intro returns skips
      rw [later]
      constructor
      · exact fun all parser asked => all parser (.later skips asked)
      · intro all parser asked
        cases asked with
        | here _ recognized => exact returns recognized
        | later _ asked => exact all parser asked
    rw [sniff,returns_bind]
    cases can : first.canParse content with
    | error e =>
      refine iff_of_false (by simp) fun all => ?_
      have decided := decides first List.mem_cons_self (all first (.here rest (by rw [can]; nofun)))
      simp [can] at decided
    | ok recognized =>
      cases recognized with
      | false =>
        rw [passes (fun recognized => absurd can recognized) (.inl can)]
        simp
      | true =>
        have asked : Asked content referenceTime (first :: rest) first := .here rest (by rw [can]; nofun)
        cases made : first.parse content referenceTime with
        | error e =>
          refine iff_of_false (by simp [returns_bind]) fun all => ?_
          have returned := all first asked
          simp [made] at returned
        | ok found =>
          cases found with
          | none =>
            rw [passes (fun _ => ⟨none,made⟩) (.inr made)]
            simp [returns_bind]
          | some parsed =>
            refine iff_of_true (by simp [returns_bind]) fun parser asked => ?_
            cases asked with
            | here => exact ⟨_,made⟩
            | later skips =>
              rcases skips with no | none
              · rw [can] at no
                cases no
              · rw [made] at none
                cases none

/-- A record's text is given to the parser: to the declared one first, and where that makes
    nothing of it to those that the chain asks. -/
inductive Tried (parsers : List LogParser) (record : RawLogRecord) : LogParser → Prop where
  | declared {parser : LogParser} (first : declared parsers record = some parser) : Tried parsers record parser
  | asked {parser : LogParser} (nothing : ∀ first ∈ declared parsers record, first.parse (strip record.content) record.receivedAt = .ok none)
      (next : Asked (strip record.content) record.receivedAt parsers parser) : Tried parsers record parser

theorem declared_mem {parsers : List LogParser} {record : RawLogRecord} {parser : LogParser} (first : declared parsers record = some parser) :
    parser ∈ parsers := by
  obtain ⟨format,_,found⟩ := Option.bind_eq_some_iff.mp first
  exact List.mem_of_find?_eq_some found

theorem Tried.mem {parsers : List LogParser} {record : RawLogRecord} {parser : LogParser} (tried : Tried parsers record parser) :
    parser ∈ parsers := by
  cases tried with
  | declared first => exact declared_mem first
  | asked _ next => exact next.mem

section
variable [Tables] (decoders : Decoders)

/-- No parser stumbles that the record's text is given to. -/
def Harmless (record : RawLogRecord) : Prop :=
  strip record.content ≠ [] → ∀ parser, Tried (defaultParsers decoders) record parser →
    ¬ Stumbles decoders (strip record.content) record.receivedAt parser.logFormat

theorem returns_parseRecord (record : RawLogRecord) :
    Returns (parseRecord (defaultParsers decoders) record) ↔ Harmless decoders record := by
  have sniffed := @returns_sniff (strip record.content) record.receivedAt (defaultParsers decoders) fun parser listed parses =>
    returns_canParse decoders listed (strip_strip _) parses
  have harmless : Harmless decoders record ↔ (strip record.content ≠ [] → ∀ parser, Tried (defaultParsers decoders) record parser →
      Returns (parser.parse (strip record.content) record.receivedAt)) :=
    imp_congr_right fun _ => forall_congr' fun parser => forall_congr' fun tried => (returns_parse decoders tried.mem _ _).symm
  rw [harmless,parseRecord]
  by_cases blank : strip record.content = []
  · simp [blank]
  · simp only [blank,if_false,ne_eq,not_false_iff,true_imp_iff]
    cases first : declared (defaultParsers decoders) record with
    | none =>
      rw [sniffed]
      constructor
      · intro all parser tried
        cases tried with
        | declared here =>
          rw [first] at here
          cases here
        | asked _ next => exact all parser next
      · intro all parser asked
        exact all parser (.asked (by rw [first]; nofun) asked)
    | some parser =>
      rw [returns_bind]
      constructor
      · rintro ⟨found,parsed,later⟩ other tried
        cases tried with
        | declared here =>
          rw [first] at here
          cases here
          exact ⟨found,parsed⟩
        | asked nothing next =>
          have none := nothing parser first
          rw [none] at parsed
          cases parsed
          exact sniffed.mp later other next
      · intro all
        obtain ⟨found,parsed⟩ := all parser (.declared first)
        refine ⟨found,parsed,?_⟩
        cases found with
        | some _ => exact returns_ok _
        | none =>
          refine sniffed.mpr fun other asked => all other (.asked (fun known same => ?_) asked)
          rw [first] at same
          cases same
          exact parsed

end

end SocAnalyst.ParserChains
