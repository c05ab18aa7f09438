import SocAnalyst.LogParsers

/-!
# The year of a syslog record

`SyslogRfc3164Parser` of `tools/parsers.py`. RFC 3164 omits the year, and the
parser takes it from the ingestion time. A record is dated as it was written
exactly where it is ingested in the calendar year it is from
(`dated_iff_same_year`); the last records of a year, ingested after New Year, are
dated a year too late.
-/
namespace SocAnalyst.SyslogYears
open SocAnalyst.Builtins SocAnalyst.Times SocAnalyst.Calendar SocAnalyst.Scanners SocAnalyst.Values SocAnalyst.Logs SocAnalyst.LogParsers
open SocAnalyst.LogAnalysis (ParsedRecord)

/-! ### The parser -/

/-- `[^:\[\s]`. -/
def isTagChar (c : Nat) : Bool := c ≠ 58 && c ≠ 91 && !isSpace c

/-- The groups of the record's pattern. -/
structure Groups where
  pri : Option Text
  ts : Text
  host : Text
  tag : Text
  pid : Option Text
  msg : Text

section
variable [Interpreter]

/-- Digits between two brackets. -/
def bracketed (opens closes : Nat) (most : Option Nat) : Scanner Nat Text := do
  mark opens
  let digits ← run isDecimal 1 most
  mark closes
  return digits

/-- `_PATTERN`. -/
def pattern : Scanner Nat Groups := do
  let pri ← optionally (bracketed 60 62 (some 3))
  let ts ← captured syslogTime
  let _ ← run isSpace 1 none
  let host ← word
  let tag ← run isTagChar 1 none
  let pid ← optionally (bracketed 91 93 none)
  mark 58
  let _ ← run isSpace 0 none
  let msg ← restOfLine
  return ⟨pri,ts,host,tag,pid,msg⟩

/-- A field for a group of digits that matched. -/
def numberField (name : Text) (digits : Option Text) : Except PyError (List (Text × Value)) :=
  digits.elim (.ok []) fun digits => (intOf digits).map fun n : Nat => [(name,Value.int n)]

/-- `SyslogRfc3164Parser.parse`. -/
def parse (helpers : Helpers) (content : Text) (referenceTime : Option DateTime) : Except PyError (Option ParsedRecord) :=
  match pattern (strip content) with
  | none => .ok none
  | some (groups,_) => do
    let message := groups.msg
    let eventTime ← parseTimestamp helpers groups.ts (referenceTime.map readingYear)
    let priority ← numberField (lit "priority") groups.pri
    let pid ← numberField (lit "pid") groups.pid
    return some {
      logFormat := .SYSLOG_RFC3164
      eventTime
      message
      host := some groups.host
      actor := helpers.actorFromMessage message
      action := some groups.tag
      outcome := helpers.outcomeFrom message none
      eventType := helpers.classifyEventType message []
      fields := (lit "tag",.str groups.tag) :: priority ++ pid
      confidence := if eventTime.isSome then 9/10 else 1/2
      sure := sure_or_half eventTime.isSome (by norm_num) }

end

/-! ### The records -/

/-- The English abbreviation of a month. -/
def monthName (month : Nat) : Text := syslogMonths.getD (month - 1) []

/-- A number, with blanks in front of it up to a width of two. -/
def blankPadded (n : Nat) : Text := List.replicate (2 - (lit (toString n)).length) 32 ++ lit (toString n)

/-- The RFC 3164 rendering of a reading: month, day and time. -/
def stamp (t : DateTime) : Text :=
  monthName (monthOf (readingDay t)).1 ++ 32 :: blankPadded (monthOf (readingDay t)).2 ++ 32 :: padded 2 (daySeconds t / 3600) ++
    58 :: padded 2 (daySeconds t / 60 % 60) ++ 58 :: padded 2 (daySeconds t % 60)

/-- What a record says besides its time. A packet has 1024 octets at most, so its numbers
    are no longer. -/
structure Packet where
  pri : Option Text
  host : Text
  tag : Text
  pid : Option Text
  message : Text
  priority : ∀ digits ∈ pri, Digits 1 3 digits
  hosted : Word host
  tagged : tag ≠ [] ∧ ∀ c ∈ tag, isTagChar c = true
  numbered : ∀ digits ∈ pid, Digits 1 1024 digits
  oneLine : 10 ∉ message

/-- A text between two brackets, if there is one. -/
def enclosed (opens closes : Nat) (digits : Option Text) : Text := digits.elim [] fun digits => opens :: digits ++ [closes]

/-- The record of a packet sent at a time. -/
def Packet.text (packet : Packet) (t : DateTime) : Text :=
  enclosed 60 62 packet.pri ++ stamp t ++ 32 :: packet.host ++ 32 :: packet.tag ++ enclosed 91 93 packet.pid ++ 58 :: 32 :: packet.message

/-- The record of the time `t`, ingested at `r`, is given a time. -/
def Dated [Interpreter] (helpers : Helpers) (packet : Packet) (t r time : DateTime) : Prop :=
  ∃ record, parse helpers (packet.text t) (some r) = .ok (some record) ∧ record.eventTime = some time

/-! ### Reading the time -/

/-- An abbreviation is a capital and two small letters, and names its month. -/
theorem monthName_spec {month : Nat} (first : 1 ≤ month) (last : month ≤ 12) :
    (monthName month).length = 3 ∧ (∀ c ∈ (monthName month).take 1, isUpper c = true) ∧
      (∀ c ∈ (monthName month).drop 1, isLower c = true) ∧ syslogMonth (monthName month) = some month := by
  have known : ∀ month ∈ List.range' 1 12, (monthName month).length = 3 ∧ (∀ c ∈ (monthName month).take 1, isUpper c = true) ∧
      (∀ c ∈ (monthName month).drop 1, isLower c = true) ∧ syslogMonth (monthName month) = some month := by decide
  exact known month (List.mem_range'_1.mpr ⟨first,by omega⟩)

theorem month_day (t : DateTime) : 1 ≤ (monthOf (readingDay t)).1 ∧ (monthOf (readingDay t)).1 ≤ 12 ∧ 1 ≤ (monthOf (readingDay t)).2 ∧
    (monthOf (readingDay t)).2 < 100 := by
  obtain ⟨valid,_⟩ := dayNumber_date (readingDay t)
  exact ⟨valid.2.1,valid.2.2.1,valid.2.2.2.1,(monthOf_lt _).2⟩

theorem number_digits {n : Nat} (small : n < 100) : Digits 1 2 (lit (toString n)) := by
  have unpadded : padded 0 n = lit (toString n) := by rw [padded,Nat.zero_sub]; rfl
  have chars : (lit (toString n)).length = (Nat.toDigits 10 n).length := by
    rw [lit,Nat.toString_eq_repr,Nat.toList_repr,List.length_map]
  refine ⟨fun c => digits_number,?_,?_⟩
  · rw [chars]
    exact Nat.length_toDigits_pos
  · rw [chars]
    exact (Nat.length_toDigits_le_iff (by norm_num) (by norm_num)).mpr small

theorem solid_digit {c : Nat} (digit : 48 ≤ c ∧ c ≤ 57) : isSpace c = false := by
  simp only [isSpace,Bool.or_eq_false_iff,Bool.and_eq_false_iff,decide_eq_false_iff_not,beq_eq_false_iff_ne]
  omega

theorem first_digit {least most : Nat} {digits : Text} (written : Digits least most digits) (some : 1 ≤ least) (rest : Text) :
    ∀ c ∈ (digits ++ rest).head?, isSpace c = false := by
  intro c head
  obtain ⟨d,more,rfl⟩ := List.exists_cons_of_ne_nil (List.length_pos_iff.mp (Nat.lt_of_lt_of_le some written.2.1))
  obtain rfl := Option.some.inj head
  exact solid_digit (written.1 d (List.mem_cons_self ..))

theorem padded_digits {n : Nat} (small : n < 100) : Digits 2 2 (padded 2 n) := by
  have sized : (padded 2 n).length = 2 := length_padded (by norm_num) small
  exact ⟨fun c => digits_padded,sized.ge,sized.le⟩

/-- A stamp begins with a capital. -/
theorem stamp_head (t : DateTime) : ∃ c rest, stamp t = c :: rest ∧ isUpper c = true := by
  obtain ⟨firstMonth,lastMonth,_,_⟩ := month_day t
  obtain ⟨sized,capital,_,_⟩ := monthName_spec firstMonth lastMonth
  obtain ⟨c,more,name⟩ := List.exists_cons_of_ne_nil (List.length_pos_iff.mp (Nat.lt_of_lt_of_eq (Nat.succ_pos 2) sized.symm))
  exact ⟨c,_,by rw [stamp,name]; rfl,capital c (by rw [name]; exact List.mem_cons_self ..)⟩

/-- A stamp ends in a digit. -/
theorem stamp_last (t : DateTime) : ∃ c ∈ (stamp t).getLast?, isSpace c = false := by
  have second := padded_digits (n := daySeconds t % 60) (by omega)
  have some : padded 2 (daySeconds t % 60) ≠ [] := List.length_pos_iff.mp (Nat.lt_of_lt_of_le Nat.two_pos second.2.1)
  refine ⟨(padded 2 (daySeconds t % 60)).getLast some,?_,solid_digit (second.1 _ (List.getLast_mem some))⟩
  rw [stamp,List.getLast?_append,List.getLast?_cons,List.getLast?_eq_some_getLast some]
  simp

theorem solid_upper {c : Nat} (capital : isUpper c = true) : isSpace c = false := by
  simp only [isUpper,Bool.and_eq_true,decide_eq_true_eq] at capital
  simp only [isSpace,Bool.or_eq_false_iff,Bool.and_eq_false_iff,decide_eq_false_iff_not,beq_eq_false_iff_ne]
  omega

theorem strip_stamp (t : DateTime) : strip (stamp t) = stamp t := by
  obtain ⟨c,rest,starts,capital⟩ := stamp_head t
  have whole := strip_solid ⟨c,by rw [starts]; rfl,solid_upper capital⟩ (stamp_last t) []
  rwa [List.rdropWhile_nil,List.append_nil] at whole

/-- A stamp is no ISO date. -/
theorem stamp_not_iso (helpers : Helpers) (t : DateTime) : helpers.fromIsoformat (replaceAll (lit "Z") (lit "+00:00") (stamp t)) = none := by
  obtain ⟨c,rest,starts,capital⟩ := stamp_head t
  simp only [isUpper,Bool.and_eq_true,decide_eq_true_eq] at capital
  rw [← Option.not_isSome_iff_eq_none]
  intro read
  obtain ⟨d,head,digit⟩ := helpers.dated _ read
  rw [starts,replaceAll,replaceFrom] at head
  split at head
  · obtain rfl := Option.some.inj head
    exact absurd digit.1 (by decide)
  · obtain rfl := Option.some.inj head
    omega

section
variable [Interpreter]

theorem digitsValue_spelled {digits : Text} (ascii : ∀ c ∈ digits, 48 ≤ c ∧ c ≤ 57) : digitsValue digits = spelled digits := by
  rw [digitsValue,spelled]
  refine List.foldl_ext _ _ _ fun n c member => ?_
  have digit := ascii c member
  rw [Interpreter.decimal_ascii c (by omega),asciiDigit,if_pos digit,Option.getD_some]

theorem intOf_padded {n : Nat} (small : n < 100) : intOf (padded 2 n) = .ok n := by
  rw [intOf_digits (padded_digits small) (by decide),digitsValue_spelled fun c => digits_padded,spelled_padded]

theorem intOf_number {n : Nat} (small : n < 100) : intOf (lit (toString n)) = .ok n := by
  have unpadded : lit (toString n) = padded 0 n := by rw [padded,Nat.zero_sub]; rfl
  rw [intOf_digits (number_digits small) (by decide),digitsValue_spelled fun c => digits_number,unpadded,spelled_padded]

theorem syslogTime_stamp (t : DateTime) (rest : Text) :
    syslogTime (stamp t ++ rest) = some (⟨monthName (monthOf (readingDay t)).1,lit (toString (monthOf (readingDay t)).2),
      padded 2 (daySeconds t / 3600),padded 2 (daySeconds t / 60 % 60),padded 2 (daySeconds t % 60)⟩,rest) := by
  obtain ⟨firstMonth,lastMonth,_,small⟩ := month_day t
  obtain ⟨sized,capital,letters,_⟩ := monthName_spec firstMonth lastMonth
  have short := daySeconds_lt t
  have hour := padded_digits (n := daySeconds t / 3600) (by omega)
  have minute := padded_digits (n := daySeconds t / 60 % 60) (by omega)
  have second := padded_digits (n := daySeconds t % 60) (by omega)
  have day := number_digits small
  rw [stamp]
  generalize monthName (monthOf (readingDay t)).1 = name at *
  rw [blankPadded]
  generalize lit (toString (monthOf (readingDay t)).2) = digits at *
  have text : name ++ 32 :: (List.replicate (2 - digits.length) 32 ++ digits) ++ 32 :: padded 2 (daySeconds t / 3600) ++
      58 :: padded 2 (daySeconds t / 60 % 60) ++ 58 :: padded 2 (daySeconds t % 60) ++ rest =
    name.take 1 ++ (name.drop 1 ++ (List.replicate (2 - digits.length + 1) 32 ++ (digits ++ 32 :: (padded 2 (daySeconds t / 3600) ++
      58 :: (padded 2 (daySeconds t / 60 % 60) ++ 58 :: (padded 2 (daySeconds t % 60) ++ rest)))))) := by
    rw [← List.append_assoc (name.take 1),List.take_append_drop,List.replicate_succ]
    simp
  have initial : ∀ rest, run isUpper 1 (some 1) (name.take 1 ++ rest) = some (name.take 1,rest) := fun rest =>
    run_reads capital (by rw [List.length_take]; omega) (fun m same => by obtain rfl := Option.some.inj same; rw [List.length_take]; omega)
      (Or.inl (by rw [List.length_take,sized]; rfl))
  have others : ∀ rest, run isLower 2 (some 2) (name.drop 1 ++ rest) = some (name.drop 1,rest) := fun rest =>
    run_reads letters (by rw [List.length_drop]; omega) (fun m same => by obtain rfl := Option.some.inj same; rw [List.length_drop]; omega)
      (Or.inl (by rw [List.length_drop,sized]))
  have blanks : ∀ rest, run isSpace 1 none (List.replicate (2 - digits.length + 1) 32 ++ (digits ++ rest)) =
      some (List.replicate (2 - digits.length + 1) 32,digits ++ rest) := fun rest =>
    run_reads (fun d member => by rw [List.eq_of_mem_replicate member]; rfl) (by rw [List.length_replicate]; omega) nofun
      (Or.inr (first_digit day le_rfl rest))
  rw [text,syslogTime,bind_reads (initial _),bind_reads (others _),bind_reads (blanks _),
    bind_reads (digits_read day (Or.inr (undecimal (by decide)))),bind_reads (blank_reads (first_digit hour (by norm_num) _)),
    bind_reads (digits_read hour (Or.inl (le_antisymm hour.2.1 hour.2.2))),bind_reads (mark_reads 58 _),
    bind_reads (digits_read minute (Or.inl (le_antisymm minute.2.1 minute.2.2))),bind_reads (mark_reads 58 _),
    bind_reads (digits_read second (Or.inl (le_antisymm second.2.1 second.2.2)))]
  rw [pure_reads,List.take_append_drop]

/-- A stamp is read as the reading of its parts in the year given. -/
theorem parseTimestamp_stamp (helpers : Helpers) (t : DateTime) {year : Nat} (positive : 1 ≤ year) :
    parseTimestamp helpers (stamp t) (some year) = (utcTime year (monthOf (readingDay t)).1 (monthOf (readingDay t)).2
      (daySeconds t / 3600) (daySeconds t / 60 % 60) (daySeconds t % 60)).map some := by
  obtain ⟨firstMonth,lastMonth,_,small⟩ := month_day t
  obtain ⟨c,rest,starts,_⟩ := stamp_head t
  have named := (monthName_spec firstMonth lastMonth).2.2.2
  have short := daySeconds_lt t
  have whole := syslogTime_stamp t []
  rw [List.append_nil] at whole
  have given : ((some year).filter (· ≠ 0)).getD helpers.currentYear = year := by
    rw [Option.filter_some,if_pos (by simpa using Nat.ne_of_gt positive),Option.getD_some]
  rw [parseTimestamp,strip_stamp,if_neg (by rw [starts]; exact List.cons_ne_nil _ _),stamp_not_iso,bind_reads whole,bind_reads finish_reads]
  simp only [pure_reads,named,given]
  rw [intOf_number small,intOf_padded (n := daySeconds t / 3600) (by omega),intOf_padded (n := daySeconds t / 60 % 60) (by omega),
    intOf_padded (n := daySeconds t % 60) (by omega)]
  rfl

/-! ### Reading the record -/

theorem enclosed_reads {opens closes : Nat} {most : Option Nat} {digits : Option Text} {rest : Text}
    (inside : ∀ text ∈ digits, run isDecimal 1 most (text ++ closes :: rest) = some (text,closes :: rest)) (other : rest.head? ≠ some opens) :
    optionally (bracketed opens closes most) (enclosed opens closes digits ++ rest) = some (digits,rest) := by
  cases digits with
  | none => exact optionally_skips (bind_refuses (mark_refuses other))
  | some text =>
    refine optionally_reads ?_
    have text_eq : enclosed opens closes (some text) ++ rest = opens :: (text ++ closes :: rest) := by simp [enclosed]
    rw [text_eq,bracketed,bind_reads (mark_reads opens _),bind_reads (inside text rfl),bind_reads (mark_reads closes _)]
    rfl

omit [Interpreter] in
theorem Packet.strip_text (packet : Packet) (t : DateTime) :
    strip (packet.text t) = enclosed 60 62 packet.pri ++ (stamp t ++ 32 :: (packet.host ++ 32 :: (packet.tag ++
      (enclosed 91 93 packet.pid ++ 58 :: (32 :: packet.message).rdropWhile isSpace)))) := by
  have first : ∃ c ∈ (enclosed 60 62 packet.pri ++ stamp t ++ 32 :: packet.host ++ 32 :: packet.tag ++ enclosed 91 93 packet.pid ++
      [58]).head?, isSpace c = false := by
    obtain ⟨c,rest,starts,capital⟩ := stamp_head t
    cases packet.pri with
    | none => exact ⟨c,by rw [starts]; rfl,solid_upper capital⟩
    | some digits => exact ⟨60,rfl,rfl⟩
  have last : ∃ c ∈ (enclosed 60 62 packet.pri ++ stamp t ++ 32 :: packet.host ++ 32 :: packet.tag ++ enclosed 91 93 packet.pid ++
      [58]).getLast?, isSpace c = false := ⟨58,List.getLast?_concat,rfl⟩
  have split : packet.text t = enclosed 60 62 packet.pri ++ stamp t ++ 32 :: packet.host ++ 32 :: packet.tag ++
      enclosed 91 93 packet.pid ++ [58] ++ 32 :: packet.message := by simp [Packet.text]
  rw [split,strip_solid first last]
  simp

theorem pattern_packet (packet : Packet) (t : DateTime) :
    ∃ msg, pattern (strip (packet.text t)) = some (⟨packet.pri,stamp t,packet.host,packet.tag,packet.pid,msg⟩,[]) := by
  obtain ⟨c,rest,starts,capital⟩ := stamp_head t
  have stampFirst : ∀ more, (stamp t ++ more).head? ≠ some 60 := by
    intro more same
    rw [starts] at same
    obtain rfl := Option.some.inj same
    exact absurd capital (by decide)
  obtain ⟨e,letters,tag⟩ := List.exists_cons_of_ne_nil packet.tagged.1
  have tagFirst : ∀ more, ∀ c ∈ (packet.tag ++ more).head?, isSpace c = false := by
    intro more c head
    rw [tag] at head
    obtain rfl := Option.some.inj head
    have plain := packet.tagged.2 e (tag ▸ List.mem_cons_self ..)
    simp only [isTagChar,Bool.and_eq_true,Bool.not_eq_true'] at plain
    exact plain.2
  have priority : ∀ more, optionally (bracketed 60 62 (some 3)) (enclosed 60 62 packet.pri ++ (stamp t ++ more)) =
      some (packet.pri,stamp t ++ more) := fun more =>
    enclosed_reads (fun digits given => digits_read (packet.priority digits given) (Or.inr (undecimal (by decide)))) (stampFirst more)
  have number : ∀ more, optionally (bracketed 91 93 none) (enclosed 91 93 packet.pid ++ 58 :: more) = some (packet.pid,58 :: more) := fun more =>
    enclosed_reads (fun digits given => run_reads (fun c member => isDecimal_digit ((packet.numbered digits given).1 c member))
      (packet.numbered digits given).2.1 nofun (Or.inr (undecimal (by decide)))) nofun
  have tagEnds : ∀ more, run isTagChar 1 none (packet.tag ++ (enclosed 91 93 packet.pid ++ 58 :: more)) =
      some (packet.tag,enclosed 91 93 packet.pid ++ 58 :: more) := fun more =>
    run_reads packet.tagged.2 (List.length_pos_iff.mpr packet.tagged.1) nofun (Or.inr fun c head => by
      cases given : packet.pid with
      | none =>
        rw [given] at head
        obtain rfl := Option.some.inj head
        rfl
      | some digits =>
        rw [given] at head
        obtain rfl := Option.some.inj head
        rfl)
  have line : 10 ∉ ((32 :: packet.message).rdropWhile isSpace).dropWhile isSpace := by
    intro inside
    have within := (List.rdropWhile_prefix isSpace _).subset ((List.dropWhile_sublist isSpace).subset inside)
    exact packet.oneLine ((List.mem_cons.mp within).resolve_left (by decide))
  rw [packet.strip_text,pattern,bind_reads (priority _),bind_reads (captured_reads (syslogTime_stamp t _)),
    bind_reads (blank_reads (packet.hosted.first _)),bind_reads (word_reads packet.hosted (tagFirst _)),bind_reads (tagEnds _),
    bind_reads (number _),bind_reads (mark_reads 58 _),bind_reads (run_any isSpace _),bind_reads (restOfLine_reads line)]
  exact ⟨_,rfl⟩

/-- A record is dated by its parts in the year of its ingestion. -/
theorem dated_iff (helpers : Helpers) (packet : Packet) (t r time : DateTime) :
    Dated helpers packet t r time ↔ utcTime (readingYear r) (monthOf (readingDay t)).1 (monthOf (readingDay t)).2 (daySeconds t / 3600)
      (daySeconds t / 60 % 60) (daySeconds t % 60) = .ok time := by
  obtain ⟨msg,found⟩ := pattern_packet packet t
  have read := parseTimestamp_stamp helpers t (readingYear_pos r)
  constructor
  · rintro ⟨record,parsed,dated⟩
    rw [parse,found] at parsed
    obtain ⟨eventTime,timed,parsed⟩ := bind_ok.mp parsed
    obtain ⟨priority,_,parsed⟩ := bind_ok.mp parsed
    obtain ⟨pid,_,parsed⟩ := bind_ok.mp parsed
    obtain rfl := Option.some.inj (Except.ok.inj parsed)
    rw [Option.map_some,read,map_ok] at timed
    obtain ⟨built,reading,rfl⟩ := timed
    rwa [Option.some.inj dated] at reading
  · intro built
    rw [built] at read
    have priority : ∃ fields, numberField (lit "priority") packet.pri = .ok fields := by
      cases given : packet.pri with
      | none => exact ⟨[],rfl⟩
      | some digits => exact ⟨_,map_ok.mpr ⟨_,intOf_digits (packet.priority digits given) (by decide),rfl⟩⟩
    have pid : ∃ fields, numberField (lit "pid") packet.pid = .ok fields := by
      cases given : packet.pid with
      | none => exact ⟨[],rfl⟩
      | some digits => exact ⟨_,map_ok.mpr ⟨_,intOf_digits (packet.numbered digits given) (by decide),rfl⟩⟩
    obtain ⟨priorityFields,priority⟩ := priority
    obtain ⟨pidFields,pid⟩ := pid
    rw [Dated,parse,found]
    exact ⟨_,bind_ok.mpr ⟨some time,read,bind_ok.mpr ⟨_,priority,bind_ok.mpr ⟨_,pid,rfl⟩⟩⟩,rfl⟩

/-- A record of a UTC second is dated as it was written exactly where it is ingested in the
    calendar year it is from. -/
theorem dated_iff_same_year (helpers : Helpers) (packet : Packet) {t : DateTime} (utc : t.offset = some 0) (whole : t.clock % 1000000 = 0)
    (r : DateTime) : Dated helpers packet t r t ↔ readingYear r = readingYear t := by
  rw [dated_iff]
  constructor
  · intro built
    exact (utcTime_year built).symm
  · intro same
    rw [same]
    exact utcTime_parts utc whole

omit [Interpreter] in
/-- In the 180 days from a leap day on it stays the year of the leap day. -/
theorem leap_day_same_year {t r : DateTime} (leapDay : monthOf (readingDay t) = (2,29)) (after : t.clock ≤ r.clock)
    (soon : r.clock < t.clock + 180 * dayMicros) : readingYear r = readingYear t := by
  obtain ⟨valid,named⟩ := dayNumber_date (readingDay t)
  have year : (yearDay (readingDay t)).1 = readingYear t := rfl
  rw [leapDay,year] at valid named
  have start : readingDay t = yearStart (readingYear t) + 59 := by rw [← named]; rfl
  have length : dayMicros.toNat = 86400000000 := rfl
  rw [dayMicros] at soon
  have span : readingDay t ≤ readingDay r ∧ readingDay r ≤ readingDay t + 180 := by
    rw [readingDay,readingDay,length]
    have low := t.in_range.1
    omega
  have long : 365 ≤ yearLength (readingYear t) := by unfold yearLength; split <;> omega
  have later : readingDay r = yearStart (readingYear t) + (readingDay r - readingDay t + 59) := by omega
  have within := yearDay_start valid.1 (show readingDay r - readingDay t + 59 < yearLength (readingYear t) by omega)
  rw [← later] at within
  rw [readingYear,within]

/-- The records of 29 February are dated in their leap year. -/
theorem leap_day_dated (helpers : Helpers) (packet : Packet) {t r : DateTime} (utc : t.offset = some 0) (whole : t.clock % 1000000 = 0)
    (leapDay : monthOf (readingDay t) = (2,29)) (ingested : r.offset = some 0) (after : t.instant ≤ r.instant)
    (soon : r.instant < t.instant + 180 * dayMicros) : Dated helpers packet t r t := by
  simp only [DateTime.instant,utc,ingested,Option.getD_some,Int.sub_zero] at after soon
  rw [dated_iff,leap_day_same_year leapDay after soon]
  exact utcTime_parts utc whole

end

/-! ### New Year -/

theorem sshd_word : Word (lit "gateway") := ⟨by decide,by decide⟩
theorem sshd_tag : lit "sshd" ≠ [] ∧ ∀ c ∈ lit "sshd", isTagChar c = true := ⟨by decide,by decide⟩
theorem sshd_priority : ∀ digits ∈ some (lit "38"), Digits 1 3 digits := by
  intro digits given
  obtain rfl := Option.some.inj given
  exact ⟨by decide,by decide,by decide⟩
theorem sshd_pid : ∀ digits ∈ some (lit "812"), Digits 1 1024 digits := by
  intro digits given
  obtain rfl := Option.some.inj given
  exact ⟨by decide,by decide,by decide⟩
theorem sshd_message : 10 ∉ lit "Connection closed" := by decide

/-- What is said in `<38>Dec 31 23:59:59 gateway sshd[812]: Connection closed`. -/
def closedConnection : Packet :=
  ⟨some (lit "38"),lit "gateway",lit "sshd",some (lit "812"),lit "Connection closed",sshd_priority,sshd_word,sshd_tag,sshd_pid,sshd_message⟩

theorem last_second_valid : ValidTime 2025 12 31 23 59 59 := by decide
theorem new_year_valid : ValidTime 2026 1 1 0 0 5 := by decide
theorem next_year_valid : ValidTime 2026 12 31 23 59 59 := by decide

/-- The last second of 2025. -/
def lastSecond : DateTime := ⟨clockAt 2025 12 31 23 59 59,some 0,clockAt_in_range last_second_valid⟩
/-- Six seconds later. -/
def newYear : DateTime := ⟨clockAt 2026 1 1 0 0 5,some 0,clockAt_in_range new_year_valid⟩
/-- The last second of 2026. -/
def nextYear : DateTime := ⟨clockAt 2026 12 31 23 59 59,some 0,clockAt_in_range next_year_valid⟩

theorem lastSecond_parts : readingYear lastSecond = 2025 ∧ monthOf (readingDay lastSecond) = (12,31) ∧ daySeconds lastSecond = 86399 := by decide +kernel

theorem newYear_year : readingYear newYear = 2026 := by decide +kernel

section
attribute [local instance] ascii

/-- A record ingested in the second it was written in. -/
theorem last_second_dated : Dated plainHelpers closedConnection lastSecond lastSecond lastSecond :=
  (dated_iff_same_year plainHelpers closedConnection (by decide) (by decide +kernel) lastSecond).mpr rfl

/-- The same record, ingested six seconds later, is dated a year after it was written. -/
theorem new_year_misdated :
    Dated plainHelpers closedConnection lastSecond newYear nextYear ∧
    ¬ ∀ (helpers : Helpers) (packet : Packet) (t r : DateTime), t.offset = some 0 → t.clock % 1000000 = 0 → r.aware = true →
      t.instant ≤ r.instant → r.instant < t.instant + 180 * dayMicros → Dated helpers packet t r t := by
  obtain ⟨_,months,seconds⟩ := lastSecond_parts
  have misdated : Dated plainHelpers closedConnection lastSecond newYear nextYear := by
    rw [dated_iff,newYear_year,months,seconds]
    exact dif_pos next_year_valid
  refine ⟨misdated,fun always => ?_⟩
  have dated := always plainHelpers closedConnection lastSecond newYear (by decide) (by decide +kernel) (by decide) (by decide +kernel)
    (by decide +kernel)
  rw [dated_iff,newYear_year,months,seconds] at dated
  have year := utcTime_year dated
  rw [lastSecond_parts.1] at year
  exact absurd year (by decide)

end

end SocAnalyst.SyslogYears
