import Mathlib.Algebra.Order.BigOperators.Group.List
import SocAnalyst.Groups
import SocAnalyst.LogParsers

/-!
# CEF records

`CefParser` of `tools/parsers.py` and the records that the rules of CEF render. The
parser undoes no escape and ends a value at the first blank, so it reads a record
back exactly where nothing was escaped and no value has blanks or outer quotes
(`readBack_iff_plain`). That it does so nowhere else is counted out: every match
of `key=value` pays with an equals sign, and a rendered record has just enough of
them for its own fields.
-/
namespace SocAnalyst.Cef
open SocAnalyst.Builtins SocAnalyst.Times SocAnalyst.Calendar SocAnalyst.Dicts SocAnalyst.Groups SocAnalyst.Scanners SocAnalyst.Values
open SocAnalyst.Logs SocAnalyst.LogParsers
open SocAnalyst.LogAnalysis (ParsedRecord orElse)

/-- An interpreter with its table of word characters, which is fixed on ASCII. -/
class Alphabet extends Interpreter where
  /-- `\w`. -/
  isWord : Nat → Bool
  isWord_ascii : ∀ c < 128, isWord c = (48 ≤ c && c ≤ 57 || 65 ≤ c && c ≤ 90 || c == 95 || 97 ≤ c && c ≤ 122)

export Alphabet (isWord)

/-- The ASCII interpreter. -/
@[reducible] def asciiAlphabet : Alphabet :=
  { ascii with
    isWord := fun c => 48 ≤ c && c ≤ 57 || 65 ≤ c && c ≤ 90 || c == 95 || 97 ≤ c && c ≤ 122
    isWord_ascii := fun _ _ => rfl }

/-! ### Keys and values -/

/-- The quotes that `strip` takes off a value. -/
def isQuote (c : Nat) : Bool := c == 34 || c == 39

/-- A text between two quotes. -/
def quoted (quote : Nat) : Scanner Nat Text := do
  mark quote
  let inner ← run (· ≠ quote) 0 none
  mark quote
  return quote :: inner ++ [quote]

/-- `"[^"]*"|'[^']*'|[^\s]*`. -/
def pairValue : Scanner Nat Text := quoted 34 <|> (quoted 39 <|> run isSolid 0 none)

/-- `value.strip("\"'")`. -/
def stripQuotes (value : Text) : Text := (value.dropWhile isQuote).rdropWhile isQuote

section
variable [Alphabet]

/-- `[\w.\-]`. -/
def isKeyChar (c : Nat) : Bool := isWord c || c == 46 || c == 45

/-- `([\w.\-]+)=("[^"]*"|'[^']*'|[^\s]*)`. -/
def pair : Scanner Nat (Text × Text) := do
  let key ← run isKeyChar 1 none
  mark 61
  let value ← pairValue
  return (key,value)

/-- The keys and values that are found, in order. -/
def entriesOf (text : Text) : List (Text × Text) := (findAll pair text).map fun found => (lower found.1,stripQuotes found.2)

/-- Parse `key=value` pairs, honoring quoted values. -/
def parseKeyValues (text : Text) : Dict Text Text := (entriesOf text).foldl (fun fields entry => fields.set entry.1 entry.2) .empty

/-! ### The parser -/

/-- Fold a field name to a comparable form. -/
def normalizeKey (key : Text) : Text := (lower key).filter fun c => isLower c || (48 ≤ c && c ≤ 57)

/-- The first present, non-empty value among keys, spelled any way. -/
def first (payload : List (Text × Text)) (keys : List Text) : Option Text :=
  let folded := payload.foldl (fun folded entry => folded.set (normalizeKey entry.1) entry.2) (Dict.empty : Dict Text Text)
  keys.findSome? fun key => (folded.get? (normalizeKey key)).filter (· ≠ [])

/-- `^CEF:\d+\|`. -/
def cefStart : Scanner Nat Unit := do
  literal (lit "CEF:")
  let _ ← run isDecimal 1 none
  mark 124

end

/-- `_optional_str`. -/
def optionalStr (value : Option Text) : Option Text := (value.map strip).filter (· ≠ [])

/-- `text.split(mark, most)`. -/
def splitAtMost (mark : Nat) : Nat → Text → List Text
  | 0,text => [text]
  | most + 1,text =>
    if mark ∈ text then text.takeWhile (· ≠ mark) :: splitAtMost mark most ((text.dropWhile (· ≠ mark)).drop 1) else [text]

def timeKeys : List Text := [lit "timestamp",lit "time",lit "@timestamp",lit "event_time",lit "time_created",lit "date"]

def hostKeys : List Text :=
  [lit "host",lit "hostname",lit "computer",lit "computer_name",lit "device",lit "src_host",lit "machine"]

def actorKeys : List Text :=
  [lit "user",lit "username",lit "account",lit "actor",lit "subject_user_name",lit "target_user_name"]

/-- The names the parser gives the header fields. -/
def headerNames : List Text :=
  [lit "vendor",lit "product",lit "device_version",lit "signature_id",lit "name",lit "cef_severity"]

theorem headerNames_nodup : headerNames.Nodup := by decide

/-- The header fields. -/
def headerFields (vendor product version signature name severity : Text) : Dict Text Text where
  entries := headerNames.zip [vendor,product,version,signature,name,severity]
  distinct := headerNames_nodup

section
variable [Alphabet]

/-- All fields of a record: those of the header, and the extension's over them. -/
def fieldsOf (vendor product version signature name severity extension : Text) : Dict Text Text :=
  update (headerFields vendor product version signature name severity) (parseKeyValues extension)

/-- `CefParser.parse`. -/
def parse (helpers : Helpers) (content : Text) (_referenceTime : Option DateTime) : Except PyError (Option ParsedRecord) :=
  let text := strip content
  if (cefStart text).isNone then .ok none
  else match splitAtMost 124 7 text with
    | [_,vendor,product,version,signature,name,severity,extension] => do
      let fields := fieldsOf vendor product version signature name severity extension
      let message := orElse (fields.get? (lit "msg")) name
      let time := first fields.entries (lit "rt" :: timeKeys)
      let text := name ++ lit " " ++ message
      let values := fields.entries.map fun entry => (entry.1,Value.str entry.2)
      let eventTime ← time.elim (.ok none) fun value => parseTimestamp helpers value none
      return some {
        logFormat := .CEF
        eventTime
        message
        host := optionalStr (first fields.entries (lit "dvchost" :: lit "dhost" :: lit "shost" :: hostKeys))
        actor := optionalStr (first fields.entries (lit "duser" :: lit "suser" :: actorKeys))
        action := some name
        outcome := helpers.outcomeFrom text (fields.get? (lit "outcome"))
        eventType := helpers.classifyEventType text values
        fields := values
        confidence := if time.isSome then 1 else 1/2
        sure := sure_or_half time.isSome ⟨zero_le_one,le_rfl⟩ }
    | _ => .ok none

/-! ### The records -/

/-- The seven header values. The first, the version of CEF, is a number. -/
structure Header where
  cefVersion : Text
  vendor : Text
  product : Text
  deviceVersion : Text
  signatureId : Text
  name : Text
  severity : Text
  numbered : cefVersion ≠ [] ∧ ∀ c ∈ cefVersion, 48 ≤ c ∧ c ≤ 57

/-- The header values that the parser keeps. -/
def Header.values (header : Header) : List Text :=
  [header.vendor,header.product,header.deviceVersion,header.signatureId,header.name,header.severity]

/-- An extension pair: a lower-case key of word characters that is no header field's name, and
    a value that is not empty and has no blanks around it. -/
structure Pair where
  key : Text
  value : Text
  worded : key ≠ [] ∧ ∀ c ∈ key, isWord c = true
  lowered : lower key = key
  other : key ∉ headerNames
  valued : value ≠ [] ∧ strip value = value

omit [Alphabet] in
/-- A header value as it is written. -/
def escapedHeader (value : Text) : Text := escapedBy [92,124] value

/-- An extension value as it is written. -/
def escapedValue (value : Text) : Text := escapedBy [92,61] value

def Pair.text (pair : Pair) : Text := pair.key ++ 61 :: escapedValue pair.value

/-- The extension: the pairs, a blank between any two. -/
def extension (pairs : List Pair) : Text := joined (lit " ") (pairs.map Pair.text)

/-- Values with a pipe behind each. -/
def piped (values : List Text) (rest : Text) : Text := values.foldr (fun value tail => value ++ 124 :: tail) rest

/-- The record of a header and pairs. -/
def recordText (header : Header) (pairs : List Pair) : Text :=
  piped ((lit "CEF:" ++ header.cefVersion) :: header.values.map escapedHeader) (extension pairs)

/-- A parsed record has the header fields, every key's value, and `msg` as its message. -/
def Faithful (record : ParsedRecord) (header : Header) (pairs : List Pair) : Prop :=
  (∀ field ∈ headerNames.zip header.values, lookup record.fields field.1 = some (.str field.2)) ∧
  ∀ pair ∈ pairs, lookup record.fields pair.key = some (.str pair.value) ∧ (pair.key = lit "msg" → record.message = pair.value)

/-- The record is parsed, and faithfully. -/
def ReadBack (helpers : Helpers) (reference : Option DateTime) (header : Header) (pairs : List Pair) : Prop :=
  ∃ record, parse helpers (recordText header pairs) reference = .ok (some record) ∧ Faithful record header pairs

/-- A header value with nothing to escape. -/
def PlainHeader (value : Text) : Prop := 92 ∉ value ∧ 124 ∉ value

/-- An extension value without blanks, without anything to escape, and without quotes at its ends. -/
def PlainValue (value : Text) : Prop :=
  (∀ c ∈ value, isSpace c = false) ∧ 92 ∉ value ∧ 61 ∉ value ∧ (∀ c ∈ value.head?, isQuote c = false) ∧ ∀ c ∈ value.getLast?, isQuote c = false

end

/-! ### One value -/

theorem head_dropWhile {p : Nat → Bool} {text : Text} : ∀ c ∈ (text.dropWhile p).head?, p c = false := by
  intro c head
  have outside := List.head?_dropWhile_not p text
  rw [Option.mem_def.mp head] at outside
  exact outside

theorem last_rdropWhile {p : Nat → Bool} {text : Text} : ∀ c ∈ (text.rdropWhile p).getLast?, p c = false := by
  intro c last
  rw [List.rdropWhile,List.getLast?_reverse] at last
  exact head_dropWhile c last

/-- No quotes are left at the ends. -/
theorem stripQuotes_ends (text : Text) :
    (∀ c ∈ (stripQuotes text).head?, isQuote c = false) ∧ ∀ c ∈ (stripQuotes text).getLast?, isQuote c = false := by
  refine ⟨fun c head => ?_,last_rdropWhile⟩
  obtain ⟨rest,split⟩ := List.rdropWhile_prefix isQuote (text.dropWhile isQuote)
  refine @head_dropWhile isQuote text c ?_
  rw [← split,List.head?_append,← stripQuotes,Option.mem_def.mp head]
  rfl

/-- Without quotes at the ends nothing is taken off. -/
theorem stripQuotes_self {text : Text} (head : ∀ c ∈ text.head?, isQuote c = false) (last : ∀ c ∈ text.getLast?, isQuote c = false) :
    stripQuotes text = text := by
  have front : text.dropWhile isQuote = text := by
    cases text with
    | nil => rfl
    | cons c rest => exact List.dropWhile_cons_of_neg (by rw [head c rfl]; decide)
  rw [stripQuotes,front,List.rdropWhile_eq_self_iff]
  intro some
  rw [last _ (List.getLast?_eq_some_getLast some)]
  decide

theorem stripQuotes_sublist (text : Text) : (stripQuotes text).Sublist text :=
  (List.rdropWhile_prefix isQuote _).sublist.trans (List.dropWhile_sublist isQuote)

theorem quoted_refuses {quote : Nat} {text : Text} (other : ∀ c ∈ text.head?, c ≠ quote) : quoted quote text = none :=
  bind_refuses (mark_refuses fun head => other quote head rfl)

/-- Where no quote stands, a value goes up to the next blank. -/
theorem pairValue_unquoted {text : Text} (head : ∀ c ∈ text.head?, isQuote c = false) :
    pairValue text = some (text.takeWhile isSolid,text.dropWhile isSolid) := by
  have other : ∀ quote, isQuote quote = true → quoted quote text = none := fun quote known =>
    quoted_refuses fun c first same => by rw [same] at first; rw [head quote first] at known; cases known
  rw [pairValue,second_reads (other 34 rfl),second_reads (other 39 rfl),run_any]

theorem quoted_splits {quote : Nat} {text value left : Text} (read : quoted quote text = some (value,left)) : text = value ++ left := by
  obtain ⟨_,_,opening,read⟩ := bind_found read
  obtain ⟨inner,_,body,read⟩ := bind_found read
  obtain ⟨_,_,closed,read⟩ := bind_found read
  obtain ⟨rfl,rfl⟩ := Prod.mk.inj (Option.some.inj read)
  rw [mark_splits opening,(run_splits body).1,mark_splits closed]
  simp

/-- A value is always found, and is what the text begins with. -/
theorem pairValue_splits (text : Text) : ∃ value left, pairValue text = some (value,left) ∧ text = value ++ left := by
  cases double : quoted 34 text with
  | some found => exact ⟨found.1,found.2,first_reads double,quoted_splits double⟩
  | none =>
    cases single : quoted 39 text with
    | some found => exact ⟨found.1,found.2,(second_reads double).trans (first_reads single),quoted_splits single⟩
    | none =>
      refine ⟨text.takeWhile isSolid,text.dropWhile isSolid,?_,List.takeWhile_append_dropWhile.symm⟩
      rw [pairValue,second_reads double,second_reads single,run_any]

/-- A value that is read back has no blanks, no escapes and no outer quotes, and is all that is read. -/
theorem plain_of_read {value tail found left : Text} (some : value ≠ []) (blank : ∀ c ∈ tail.head?, isSpace c = true)
    (read : pairValue (escapedValue value ++ tail) = Option.some (found,left)) (same : stripQuotes found = value) :
    PlainValue value ∧ left = tail := by
  have ends := stripQuotes_ends found
  rw [same] at ends
  have head : ∀ c ∈ (escapedValue value ++ tail).head?, isQuote c = false := by
    obtain ⟨c,rest,rfl⟩ := List.exists_cons_of_ne_nil some
    intro d first
    rw [escapedValue,escapedBy_cons] at first
    split at first
    · obtain rfl := Option.some.inj first
      rfl
    · obtain rfl := Option.some.inj first
      exact ends.1 c rfl
  rw [pairValue_unquoted head] at read
  obtain ⟨rfl,rfl⟩ := Prod.mk.inj (Option.some.inj read)
  have solid : ∀ c ∈ value, isSpace c = false := by
    intro c member
    have inside := (stripQuotes_sublist _).subset (same.symm ▸ member)
    simpa [isSolid] using List.mem_takeWhile_imp inside
  have allSolid : ∀ c ∈ escapedValue value, isSolid c = true := by
    intro c member
    rcases mem_escapedBy member with rfl | inside
    · rfl
    · rw [isSolid,solid c inside]
      rfl
  have stops : tail.takeWhile isSolid = [] ∧ tail.dropWhile isSolid = tail := by
    cases tail with
    | nil => exact ⟨rfl,rfl⟩
    | cons c rest =>
      have gap : ¬ isSolid c = true := by rw [isSolid,blank c rfl]; decide
      exact ⟨List.takeWhile_cons_of_neg gap,List.dropWhile_cons_of_neg gap⟩
  rw [List.takeWhile_append_of_pos allSolid,stops.1,List.append_nil] at same
  rw [List.dropWhile_append_of_pos allSolid,stops.2]
  have whole : stripQuotes (escapedValue value) = escapedValue value := by
    refine stripQuotes_self (fun c first => head c ?_) fun c last => ends.2 c ((getLast?_escapedBy _ _).symm.trans last)
    rw [List.head?_append,Option.mem_def.mp first]
    rfl
  have plain := escapedBy_eq_iff.mp (whole.symm.trans same)
  exact ⟨⟨solid,fun member => plain 92 member (by decide),fun member => plain 61 member (by decide),ends.1,ends.2⟩,rfl⟩

theorem read_of_plain {value tail : Text} (some : value ≠ []) (plain : PlainValue value) (blank : ∀ c ∈ tail.head?, isSpace c = true) :
    pairValue (escapedValue value ++ tail) = Option.some (value,tail) ∧ stripQuotes value = value := by
  obtain ⟨solid,backslash,equals,head,last⟩ := plain
  have whole : escapedValue value = value := escapedBy_eq_iff.mpr fun c member marked => by
    rcases List.mem_cons.mp marked with rfl | marked
    · exact backslash member
    · exact equals (List.mem_singleton.mp marked ▸ member)
  have front : ∀ c ∈ (value ++ tail).head?, isQuote c = false := by
    intro c first
    obtain ⟨d,rest,rfl⟩ := List.exists_cons_of_ne_nil some
    exact head c first
  have allSolid : ∀ c ∈ value, isSolid c = true := fun c member => by rw [isSolid,solid c member]; rfl
  refine ⟨?_,stripQuotes_self head last⟩
  rw [whole,pairValue_unquoted front,List.takeWhile_append_of_pos allSolid,List.dropWhile_append_of_pos allSolid]
  cases tail with
  | nil => simp
  | cons c rest =>
    have gap : ¬ isSolid c = true := by rw [isSolid,blank c rfl]; decide
    rw [List.takeWhile_cons_of_neg gap,List.dropWhile_cons_of_neg gap,List.append_nil]

/-! ### The extension -/

section
variable [Alphabet]

theorem keyChar_ascii {c : Nat} (small : c < 128) :
    isKeyChar c = ((48 ≤ c && c ≤ 57 || 65 ≤ c && c ≤ 90 || c == 95 || 97 ≤ c && c ≤ 122) || c == 46 || c == 45) := by
  rw [isKeyChar,Alphabet.isWord_ascii c small]

/-- What one match pays with: the equals signs of its value and its own. -/
theorem pair_paid (text : Text) (found : Text × Text) (rest : Text) (read : pair text = some (found,rest)) :
    ∃ piece, piece ≠ [] ∧ text = piece ++ rest ∧ (stripQuotes found.2).count 61 + 1 ≤ piece.count 61 := by
  obtain ⟨key,_,word,read⟩ := bind_found read
  obtain ⟨_,_,equals,read⟩ := bind_found read
  obtain ⟨value,left,taken,read⟩ := bind_found read
  obtain ⟨rfl,rfl⟩ := Prod.mk.inj (Option.some.inj read)
  obtain ⟨_,_,again,split⟩ := pairValue_splits _
  obtain ⟨rfl,rfl⟩ := Prod.mk.inj (Option.some.inj (taken.symm.trans again))
  refine ⟨key ++ 61 :: value,by simp,?_,?_⟩
  · rw [(run_splits word).1,mark_splits equals,split]
    simp
  · have fewer := (stripQuotes_sublist value).count_le 61
    rw [List.count_append,List.count_cons_self]
    dsimp only
    omega

/-- The entries found in a text cost no more equals signs than it has. -/
theorem entries_cost (text : Text) : ((entriesOf text).map fun entry => entry.2.count 61 + 1).sum ≤ text.count 61 := by
  rw [entriesOf,List.map_map]
  exact @findAll_cost Nat (Text × Text) _ pair 61 (fun found => (stripQuotes found.2).count 61 + 1) pair_paid text

theorem entries_blank (rest : Text) : entriesOf (32 :: rest) = entriesOf rest := by
  have refused : pair (32 :: rest) = none := bind_refuses (run_refuses Nat.one_pos fun c head => by
    obtain rfl := Option.some.inj head
    rw [keyChar_ascii (by decide)]
    rfl)
  rw [entriesOf,entriesOf,findAll_skips refused]

/-- A pair at the start of a text is found, with whatever is read as its value. -/
theorem entries_pair (entry : Pair) (text : Text) : ∃ value left, pairValue text = some (value,left) ∧
    entriesOf (entry.key ++ 61 :: text) = (entry.key,stripQuotes value) :: entriesOf left := by
  obtain ⟨value,left,taken,split⟩ := pairValue_splits text
  have word : run isKeyChar 1 none (entry.key ++ 61 :: text) = some (entry.key,61 :: text) :=
    run_reads (fun c member => by rw [isKeyChar,entry.worded.2 c member]; rfl) (List.length_pos_iff.mpr entry.worded.1) nofun
      (Or.inr fun c head => by
        obtain rfl := Option.some.inj head
        rw [keyChar_ascii (by decide)]
        rfl)
  have read : pair ((entry.key ++ 61 :: value) ++ left) = some ((entry.key,value),left) := by
    rw [List.append_assoc,List.cons_append,← split,pair,bind_reads word,bind_reads (mark_reads 61 _),bind_reads taken]
    rfl
  refine ⟨value,left,taken,?_⟩
  have all := findAll_reads (by simp) read
  rw [List.append_assoc,List.cons_append,← split] at all
  rw [entriesOf,all,List.map_cons,entry.lowered]
  rfl

theorem extension_cons (entry : Pair) (rest : List Pair) : ∃ tail, extension (entry :: rest) = entry.key ++ 61 :: (escapedValue entry.value ++ tail) ∧
    (∀ c ∈ tail.head?, isSpace c = true) ∧ entriesOf tail = entriesOf (extension rest) := by
  cases rest with
  | nil => exact ⟨[],by simp [extension,joined,Pair.text],nofun,rfl⟩
  | cons next more =>
    refine ⟨32 :: extension (next :: more),?_,?_,entries_blank _⟩
    · rw [extension,List.map_cons,joined_cons _ _ (by simp),Pair.text]
      simp [extension,lit]
    · rintro c head
      obtain rfl := Option.some.inj head
      rfl

/-- The key and the value of a pair. -/
def Pair.entry (pair : Pair) : Text × Text := (pair.key,pair.value)

theorem entry_unique {pairs : List Pair} (distinct : (pairs.map Pair.key).Nodup) {first second : Text × Text} (left : first ∈ pairs.map Pair.entry)
    (right : second ∈ pairs.map Pair.entry) (same : first.1 = second.1) : first = second := by
  obtain ⟨p,inLeft,rfl⟩ := List.mem_map.mp left
  obtain ⟨q,inRight,rfl⟩ := List.mem_map.mp right
  rw [List.inj_on_of_nodup_map distinct inLeft inRight same]

/-- Plain values are found, each under its key and nothing else. -/
theorem entries_of_plain {pairs : List Pair} (plain : ∀ pair ∈ pairs, PlainValue pair.value) :
    entriesOf (extension pairs) = pairs.map Pair.entry := by
  induction pairs with
  | nil => rfl
  | cons entry rest ih =>
    obtain ⟨tail,text,blank,after⟩ := extension_cons entry rest
    obtain ⟨value,left,taken,found⟩ := entries_pair entry (escapedValue entry.value ++ tail)
    obtain ⟨whole,kept⟩ := read_of_plain entry.valued.1 (plain entry (List.mem_cons_self ..)) blank
    obtain ⟨rfl,rfl⟩ := Prod.mk.inj (Option.some.inj (taken.symm.trans whole))
    rw [text,found,kept,after,ih fun pair member => plain pair (List.mem_cons_of_mem _ member)]
    rfl

/-- If the pairs are all that is found, their values are plain. -/
theorem plain_of_entries {pairs : List Pair} (distinct : (pairs.map Pair.key).Nodup)
    (found : (entriesOf (extension pairs)).Perm (pairs.map Pair.entry)) : ∀ pair ∈ pairs, PlainValue pair.value := by
  induction pairs with
  | nil => nofun
  | cons entry rest ih =>
    obtain ⟨tail,text,blank,after⟩ := extension_cons entry rest
    obtain ⟨value,left,taken,start⟩ := entries_pair entry (escapedValue entry.value ++ tail)
    rw [text,start] at found
    have same : (entry.key,stripQuotes value) = entry.entry :=
      entry_unique distinct (found.subset (List.mem_cons_self ..)) (List.mem_map_of_mem (List.mem_cons_self ..)) rfl
    obtain ⟨plain,rfl⟩ := plain_of_read entry.valued.1 blank taken (Prod.mk.inj same).2
    rw [same,after] at found
    exact List.forall_mem_cons.mpr ⟨plain,ih (List.nodup_cons.mp distinct).2 (List.perm_cons _ |>.mp found)⟩

theorem count_extension (pairs : List Pair) : (extension pairs).count 61 = ((pairs.map Pair.entry).map fun entry => entry.2.count 61 + 1).sum := by
  have blank : (lit " ").count 61 = 0 := rfl
  rw [extension,count_joined,blank,Nat.mul_zero,Nat.add_zero]
  induction pairs with
  | nil => rfl
  | cons entry rest ih =>
    have plain : entry.key.count 61 = 0 := List.count_eq_zero.mpr fun member => by
      have word := entry.worded.2 61 member
      rw [Alphabet.isWord_ascii 61 (by decide)] at word
      cases word
    have value : (escapedValue entry.value).count 61 = entry.value.count 61 := count_escapedBy (by decide) _
    simp only [List.map_cons,List.flatten_cons,List.count_append,List.sum_cons,ih,Pair.text,plain,List.count_cons_self,value,Pair.entry]
    omega

theorem extension_last {pairs : List Pair} : ∀ c ∈ (extension pairs).getLast?, isSpace c = false := by
  induction pairs with
  | nil => nofun
  | cons entry rest ih =>
    intro c last
    rw [extension,List.map_cons] at last
    cases rest with
    | nil =>
      have solid := @last_rdropWhile isSpace (entry.value.dropWhile isSpace)
      rw [← strip,entry.valued.2] at solid
      obtain ⟨d,final⟩ : ∃ d, entry.value.getLast? = some d := ⟨_,List.getLast?_eq_some_getLast entry.valued.1⟩
      rw [List.map_nil,joined,Pair.text,List.getLast?_append,List.getLast?_cons,escapedValue,getLast?_escapedBy,final] at last
      obtain rfl := Option.some.inj last
      exact solid d final
    | cons next more =>
      rw [joined_cons _ _ (by simp),List.getLast?_append,← extension] at last
      cases final : (extension (next :: more)).getLast? with
      | some d =>
        rw [final] at last
        obtain rfl := Option.some.inj last
        exact ih d final
      | none =>
        have empty := List.getLast?_eq_none_iff.mp final
        obtain ⟨tail,text,_,_⟩ := extension_cons next more
        rw [text] at empty
        simp at empty

end

/-! ### The header -/

theorem mem_split {mark : Nat} {text : Text} (member : mark ∈ text) : ∃ before after, mark ∉ before ∧ text = before ++ mark :: after ∧
    text.takeWhile (· ≠ mark) = before ∧ (text.dropWhile (· ≠ mark)).drop 1 = after := by
  obtain ⟨before,after,rfl,absent⟩ := List.eq_append_cons_of_mem member
  have clear : ∀ c ∈ before, decide (c ≠ mark) = true := fun c inside => decide_eq_true fun same => absent (same ▸ inside)
  refine ⟨before,after,absent,rfl,?_,?_⟩
  · rw [List.takeWhile_append_of_pos clear,List.takeWhile_cons_of_neg (by simp),List.append_nil]
  · rw [List.dropWhile_append_of_pos clear,List.dropWhile_cons_of_neg (by simp)]
    rfl

/-- As many pieces as there may be are what stands before, between and after pipes. -/
theorem split_piped {most : Nat} {text : Text} {parts : List Text} (split : splitAtMost 124 most text = parts) (all : parts.length = most + 1) :
    ∃ pieces rest, parts = pieces ++ [rest] ∧ (∀ piece ∈ pieces, 124 ∉ piece) ∧ text = piped pieces rest := by
  induction most generalizing text parts with
  | zero => exact ⟨[],text,split.symm,nofun,rfl⟩
  | succ most ih =>
    rw [splitAtMost] at split
    by_cases member : 124 ∈ text
    · obtain ⟨before,after,absent,rfl,front,back⟩ := mem_split member
      rw [if_pos member,front,back] at split
      subst split
      obtain ⟨pieces,rest,later,free,joins⟩ := ih rfl (by simpa using all)
      exact ⟨before :: pieces,rest,by rw [later]; rfl,List.forall_mem_cons.mpr ⟨absent,free⟩,by rw [piped,List.foldr_cons,joins]; rfl⟩
    · rw [if_neg member] at split
      rw [← split] at all
      simp at all

theorem split_of_piped {pieces : List Text} (free : ∀ piece ∈ pieces, 124 ∉ piece) (rest : Text) :
    splitAtMost 124 pieces.length (piped pieces rest) = pieces ++ [rest] := by
  induction pieces with
  | nil => rfl
  | cons piece more ih =>
    obtain ⟨absent,others⟩ := List.forall_mem_cons.mp free
    have member : 124 ∈ piped (piece :: more) rest := List.mem_append_right _ (List.mem_cons_self ..)
    obtain ⟨before,after,clear,text,front,back⟩ := mem_split member
    obtain ⟨rfl,rfl⟩ := split_at absent clear text
    rw [List.length_cons,splitAtMost,if_pos member,front,back,← piped,ih others]
    rfl

theorem count_piped (values : List Text) (rest : Text) :
    (piped values rest).count 61 = (values.map (List.count 61)).sum + rest.count 61 := by
  induction values with
  | nil => simp [piped]
  | cons value more ih =>
    rw [piped,List.foldr_cons,← piped,List.count_append,List.count_cons,ih]
    simp [Nat.add_assoc]

/-- Values that are their own pieces have nothing to escape. -/
theorem plain_of_piped {values : List Text} {found rest : Text} (free : ∀ value ∈ values, 124 ∉ value)
    (same : piped (values.map escapedHeader) rest = piped values found) : (∀ value ∈ values, PlainHeader value) ∧ rest = found := by
  induction values with
  | nil => exact ⟨nofun,same⟩
  | cons value more ih =>
    obtain ⟨absent,others⟩ := List.forall_mem_cons.mp free
    obtain ⟨written,later⟩ := split_at (absent_escapedBy (by decide) absent) absent same
    obtain ⟨plain,last⟩ := ih others later
    have unescaped := escapedBy_eq_iff.mp written
    exact ⟨List.forall_mem_cons.mpr ⟨⟨fun member => unescaped 92 member (by decide),absent⟩,plain⟩,last⟩

/-! ### Counting equals signs -/

/-- A part that costs as much as the whole is the whole. -/
theorem whole_of_cost {α : Type} {cost : α → Nat} (positive : ∀ x, 0 < cost x) {part whole : List α} (within : part.Sublist whole)
    (enough : (whole.map cost).sum ≤ (part.map cost).sum) : part = whole := by
  induction within with
  | slnil => rfl
  | cons x within _ =>
    have fewer := (within.map cost).sum_le_sum fun _ _ => Nat.zero_le _
    have some := positive x
    rw [List.map_cons,List.sum_cons] at enough
    omega
  | cons_cons x within ih =>
    rw [List.map_cons,List.map_cons,List.sum_cons,List.sum_cons] at enough
    rw [ih (by omega)]

section
variable [Alphabet]

/-- Entries with distinct keys that a text is found to have cost no more than it has. -/
theorem stored_within {text : Text} {entries : List (Text × Text)} (distinct : (entries.map Prod.fst).Nodup)
    (stored : ∀ entry ∈ entries, (parseKeyValues text).get? entry.1 = some entry.2) : entries.Subperm (entriesOf text) :=
  List.Nodup.subperm distinct.of_map fun entry member => mem_of_get?_assigned (stored entry member)

theorem stored_cost {text : Text} {entries : List (Text × Text)} (distinct : (entries.map Prod.fst).Nodup)
    (stored : ∀ entry ∈ entries, (parseKeyValues text).get? entry.1 = some entry.2) :
    (entries.map fun entry => entry.2.count 61 + 1).sum ≤ text.count 61 := by
  obtain ⟨part,same,within⟩ := stored_within distinct stored
  calc (entries.map fun entry => entry.2.count 61 + 1).sum = (part.map fun entry => entry.2.count 61 + 1).sum := ((same.map _).sum_eq).symm
    _ ≤ ((entriesOf text).map fun entry => entry.2.count 61 + 1).sum := (within.map _).sum_le_sum fun _ _ => Nat.zero_le _
    _ ≤ text.count 61 := entries_cost text

/-- A header field as it was written, between two pipes, and as the parser has it: its name, its
    value and the piece of the record in its place. -/
structure Field where
  name : Text
  value : Text
  piece : Text

/-- The fields that the extension is found to name, too. -/
def overridden (text : Text) (fields : List Field) : List Field := fields.filter fun field => ((parseKeyValues text).get? field.name).isSome

theorem fields_cost {text : Text} {fields : List Field} (settled : ∀ field ∈ fields, (parseKeyValues text).get? field.name = some field.value ∨
      ((parseKeyValues text).get? field.name = none ∧ field.value = field.piece)) :
    (fields.map fun field => field.value.count 61).sum + (overridden text fields).length ≤
      (fields.map fun field => field.piece.count 61).sum + ((overridden text fields).map fun field => field.value.count 61 + 1).sum := by
  induction fields with
  | nil => exact Nat.le_refl 0
  | cons field rest ih =>
    obtain ⟨here,others⟩ := List.forall_mem_cons.mp settled
    have later := ih others
    rcases here with named | ⟨absent,same⟩
    · have kept : overridden text (field :: rest) = field :: overridden text rest := List.filter_cons_of_pos (by rw [named]; rfl)
      simp only [kept,List.map_cons,List.sum_cons,List.length_cons]
      omega
    · have dropped : overridden text (field :: rest) = overridden text rest := List.filter_cons_of_neg (by rw [absent]; decide)
      simp only [dropped,List.map_cons,List.sum_cons,same]
      omega

/-- A record whose fields and pairs are all as written has plain ones only. -/
theorem plain_of_stored {fields : List Field} {pairs : List Pair} {text : Text} (names : (fields.map Field.name).Sublist headerNames)
    (free : ∀ field ∈ fields, 124 ∉ field.piece) (distinct : (pairs.map Pair.key).Nodup)
    (joins : piped (fields.map fun field => escapedHeader field.value) (extension pairs) = piped (fields.map Field.piece) text)
    (settled : ∀ field ∈ fields, (parseKeyValues text).get? field.name = some field.value ∨
      ((parseKeyValues text).get? field.name = none ∧ field.value = field.piece))
    (found : ∀ pair ∈ pairs, (parseKeyValues text).get? pair.key = some pair.value) :
    (∀ field ∈ fields, PlainHeader field.value) ∧ ∀ pair ∈ pairs, PlainValue pair.value := by
  have counted := congrArg (List.count 61) joins
  rw [count_piped,count_piped,count_extension] at counted
  have written : (fields.map fun field => (escapedHeader field.value).count 61) = fields.map fun field => field.value.count 61 :=
    List.map_congr_left fun field _ => count_escapedBy (by decide) _
  have needed := fields_cost settled
  have pairNames : (pairs.map Pair.entry).map Prod.fst = pairs.map Pair.key := by
    rw [List.map_map]
    rfl
  have fieldNames : ((overridden text fields).map fun field => (field.name,field.value)).map Prod.fst = (overridden text fields).map Field.name := by
    rw [List.map_map]
    rfl
  have listed : ((overridden text fields).map Field.name).Sublist headerNames := (List.filter_sublist.map _).trans names
  have apart : (((overridden text fields).map fun field => (field.name,field.value)) ++ pairs.map Pair.entry).map Prod.fst |>.Nodup := by
    rw [List.map_append,pairNames,fieldNames,List.nodup_append]
    refine ⟨headerNames_nodup.sublist listed,distinct,fun name inHeader key inPairs same => ?_⟩
    obtain ⟨pair,_,rfl⟩ := List.mem_map.mp inPairs
    exact pair.other (same ▸ listed.subset inHeader)
  have stored : ∀ entry ∈ ((overridden text fields).map fun field => (field.name,field.value)) ++ pairs.map Pair.entry,
      (parseKeyValues text).get? entry.1 = some entry.2 := by
    intro entry member
    rcases List.mem_append.mp member with named | paired
    · obtain ⟨field,kept,rfl⟩ := List.mem_map.mp named
      obtain ⟨member,known⟩ := List.mem_filter.mp kept
      rcases settled field member with here | ⟨absent,_⟩
      · exact here
      · rw [absent] at known
        cases known
    · obtain ⟨pair,listed,rfl⟩ := List.mem_map.mp paired
      exact found pair listed
  have spent := stored_cost apart stored
  rw [List.map_append,List.sum_append] at spent
  simp only [List.map_map,Function.comp_def,written] at counted spent
  have named : overridden text fields = [] := by
    refine List.eq_nil_of_length_eq_zero ?_
    omega
  have own : ∀ field ∈ fields, field.value = field.piece := by
    intro field member
    rcases settled field member with here | ⟨_,same⟩
    · have kept : field ∈ overridden text fields := List.mem_filter.mpr ⟨member,by rw [here]; rfl⟩
      rw [named] at kept
      cases kept
    · exact same
  have values : fields.map Field.piece = fields.map Field.value := List.map_congr_left fun field member => (own field member).symm
  have escapes : (fields.map fun field => escapedHeader field.value) = (fields.map Field.value).map escapedHeader := by
    rw [List.map_map]
    rfl
  rw [values,escapes] at joins
  have clear : ∀ value ∈ fields.map Field.value, 124 ∉ value := by
    intro value member
    obtain ⟨field,listed,rfl⟩ := List.mem_map.mp member
    rw [own field listed]
    exact free field listed
  obtain ⟨plain,rfl⟩ := plain_of_piped clear joins
  refine ⟨fun field member => plain _ (List.mem_map_of_mem member),plain_of_entries distinct ?_⟩
  have keys : ((pairs.map Pair.entry).map Prod.fst).Nodup := pairNames ▸ distinct
  have paired : ∀ entry ∈ pairs.map Pair.entry, (parseKeyValues (extension pairs)).get? entry.1 = some entry.2 := fun entry member =>
    stored entry (List.mem_append_right _ member)
  obtain ⟨part,same,within⟩ := stored_within keys paired
  have whole : part = entriesOf (extension pairs) := by
    refine @whole_of_cost _ (fun entry => entry.2.count 61 + 1) (fun _ => Nat.succ_pos _) _ _ within ?_
    rw [(same.map _).sum_eq,← count_extension]
    exact entries_cost _
  exact whole ▸ same

/-! ### The whole record -/

omit [Alphabet] in
theorem piped_last {values : List Text} {rest : Text} (some : values ≠ []) (solid : ∀ c ∈ rest.getLast?, isSpace c = false) :
    ∃ c ∈ (piped values rest).getLast?, isSpace c = false := by
  induction values with
  | nil => exact absurd rfl some
  | cons value more ih =>
    have behind : ∃ c ∈ (124 :: piped more rest).getLast?, isSpace c = false := by
      by_cases last : more = []
      · subst last
        rw [List.getLast?_cons]
        cases final : rest.getLast? with
        | none => exact ⟨124,by simp [piped,final],rfl⟩
        | some c => exact ⟨c,by simp [piped,final],solid c final⟩
      · obtain ⟨c,final,known⟩ := ih last
        exact ⟨c,by rw [List.getLast?_cons,Option.mem_def.mp final]; rfl,known⟩
    obtain ⟨c,final,known⟩ := behind
    exact ⟨c,by rw [piped,List.foldr_cons,← piped,List.getLast?_append,Option.mem_def.mp final]; rfl,known⟩

theorem strip_record (header : Header) (pairs : List Pair) : strip (recordText header pairs) = recordText header pairs := by
  have whole := @strip_solid (recordText header pairs) ⟨67,rfl,rfl⟩ (piped_last (by simp) extension_last) []
  rwa [List.rdropWhile_nil,List.append_nil] at whole

theorem cefStart_record (header : Header) (pairs : List Pair) : ∃ rest, cefStart (recordText header pairs) = some ((),rest) := by
  obtain ⟨some,digits⟩ := header.numbered
  have text : recordText header pairs = lit "CEF:" ++ (header.cefVersion ++ 124 :: piped (header.values.map escapedHeader) (extension pairs)) := by
    rw [recordText,piped,List.foldr_cons,← piped,List.append_assoc]
  have start : literal (lit "CEF:") (recordText header pairs) =
      Option.some ((),header.cefVersion ++ 124 :: piped (header.values.map escapedHeader) (extension pairs)) := by
    rw [text,literal,if_pos (List.isPrefixOf_iff_prefix.mpr (List.prefix_append _ _)),List.drop_left]
  have number : run isDecimal 1 none (header.cefVersion ++ 124 :: piped (header.values.map escapedHeader) (extension pairs)) =
      Option.some (header.cefVersion,124 :: piped (header.values.map escapedHeader) (extension pairs)) :=
    run_reads (fun c member => isDecimal_digit (digits c member)) (List.length_pos_iff.mpr some) nofun (Or.inr (undecimal (by decide)))
  exact ⟨_,by rw [cefStart,bind_reads start,bind_reads number,mark_reads]⟩

omit [Alphabet] in
theorem version_free (header : Header) : 124 ∉ lit "CEF:" ++ header.cefVersion := by
  intro member
  rcases List.mem_append.mp member with letter | digit
  · exact absurd letter (by decide)
  · have small := header.numbered.2 124 digit
    omega

omit [Alphabet] in
theorem lookup_strings (fields : Dict Text Text) (key : Text) :
    lookup (fields.entries.map fun entry => (entry.1,Value.str entry.2)) key = (fields.get? key).map Value.str := by
  rw [lookup,Dict.get?,List.find?_map,Option.map_map,Option.map_map]
  rfl

/-- The fields of a record whose pieces are known. -/
def Header.fields (header : Header) (vendor product version signature name severity : Text) : List Field :=
  [⟨lit "vendor",header.vendor,vendor⟩,⟨lit "product",header.product,product⟩,⟨lit "device_version",header.deviceVersion,version⟩,
    ⟨lit "signature_id",header.signatureId,signature⟩,⟨lit "name",header.name,name⟩,⟨lit "cef_severity",header.severity,severity⟩]

/-- Where the fields of the pieces are the header's and the pairs', all are plain. -/
theorem settled_plain {header : Header} {pairs : List Pair} {vendor product version signature name severity text : Text}
    (distinct : (pairs.map Pair.key).Nodup) (free : ∀ piece ∈ [vendor,product,version,signature,name,severity], 124 ∉ piece)
    (joins : piped (header.values.map escapedHeader) (extension pairs) = piped [vendor,product,version,signature,name,severity] text)
    (headed : ∀ field ∈ headerNames.zip header.values,
      (fieldsOf vendor product version signature name severity text).get? field.1 = some field.2)
    (paired : ∀ pair ∈ pairs, (fieldsOf vendor product version signature name severity text).get? pair.key = some pair.value) :
    (∀ value ∈ header.values, PlainHeader value) ∧ ∀ pair ∈ pairs, PlainValue pair.value := by
  have pieces : ∀ field ∈ header.fields vendor product version signature name severity,
      (headerFields vendor product version signature name severity).get? field.name = some field.piece := fun field member =>
    (Dict.get?_eq_some _ _ _).mpr (List.mem_map_of_mem (f := fun field : Field => (field.name,field.piece)) member)
  have settled : ∀ field ∈ header.fields vendor product version signature name severity,
      (parseKeyValues text).get? field.name = some field.value ∨
        ((parseKeyValues text).get? field.name = none ∧ field.value = field.piece) := by
    intro field member
    have whole := headed (field.name,field.value) (List.mem_map_of_mem (f := fun field : Field => (field.name,field.value)) member)
    rw [fieldsOf,get?_update] at whole
    cases named : (parseKeyValues text).get? field.name with
    | some value =>
      rw [named] at whole
      exact Or.inl whole
    | none =>
      rw [named,Option.none_or,pieces field member] at whole
      exact Or.inr ⟨rfl,(Option.some.inj whole).symm⟩
  have found : ∀ pair ∈ pairs, (parseKeyValues text).get? pair.key = some pair.value := by
    intro pair member
    have whole := paired pair member
    have absent : (headerFields vendor product version signature name severity).get? pair.key = none := by
      rw [Dict.get?,Option.map_eq_none_iff,List.find?_eq_none]
      intro entry listed named
      have key : entry.1 = pair.key := by simpa using named
      exact pair.other (key ▸ (List.of_mem_zip listed).1)
    rwa [fieldsOf,get?_update,absent,Option.or_none] at whole
  have unpiped : ∀ field ∈ header.fields vendor product version signature name severity, 124 ∉ field.piece := fun field member =>
    free _ (List.mem_map_of_mem (f := Field.piece) member)
  have names : ((header.fields vendor product version signature name severity).map Field.name).Sublist headerNames := List.Sublist.refl headerNames
  obtain ⟨plain,values⟩ := plain_of_stored names unpiped distinct joins settled found
  exact ⟨fun value member => by
    obtain ⟨field,listed,rfl⟩ := List.mem_map.mp (show value ∈ (header.fields vendor product version signature name severity).map Field.value from member)
    exact plain field listed,values⟩

/-- A record that is read back has only plain values. -/
theorem plain_of_readBack {helpers : Helpers} {reference : Option DateTime} {header : Header} {pairs : List Pair}
    (distinct : (pairs.map Pair.key).Nodup) (readBack : ReadBack helpers reference header pairs) :
    (∀ value ∈ header.values, PlainHeader value) ∧ ∀ pair ∈ pairs, PlainValue pair.value := by
  obtain ⟨record,parsed,headed,paired⟩ := readBack
  obtain ⟨rest,start⟩ := cefStart_record header pairs
  rw [parse,strip_record,start] at parsed
  split at parsed
  · cases parsed
  · split at parsed
    · rename_i before vendor product version signature name severity text split
      obtain ⟨pieces,last,parts,free,joins⟩ := split_piped split rfl
      obtain ⟨rfl,same⟩ := List.append_inj' (show [before,vendor,product,version,signature,name,severity] ++ [text] = pieces ++ [last] from parts) rfl
      obtain rfl := (List.cons.inj same).1
      obtain ⟨eventTime,_,parsed⟩ := bind_ok.mp parsed
      obtain rfl := Option.some.inj (Except.ok.inj parsed)
      obtain ⟨clear,others⟩ := List.forall_mem_cons.mp free
      have behind := (split_at (version_free header) clear joins).2
      refine settled_plain distinct others behind (fun field member => ?_) fun pair member => ?_
      · exact Option.map_injective (fun _ _ => Value.str.inj) ((lookup_strings _ _).symm.trans (headed field member))
      · exact Option.map_injective (fun _ _ => Value.str.inj) ((lookup_strings _ _).symm.trans (paired pair member).1)
    · cases parsed

theorem normalizeKey_ascii {key : Text} (small : ∀ c ∈ key, c < 128) :
    normalizeKey key = (key.map asciiLower).filter fun c => isLower c || (48 ≤ c && c ≤ 57) := by
  rw [normalizeKey,Interpreter.lower_ascii key small]

/-- No header field is taken for a time. -/
theorem header_timeless {name key : Text} (header : name ∈ headerNames) (time : key ∈ lit "rt" :: timeKeys) : normalizeKey name ≠ normalizeKey key := by
  have ascii : (∀ name ∈ headerNames, ∀ c ∈ name, c < 128) ∧ ∀ key ∈ lit "rt" :: timeKeys, ∀ c ∈ key, c < 128 := by decide
  have apart : ∀ name ∈ headerNames, ∀ key ∈ lit "rt" :: timeKeys, ((name.map asciiLower).filter fun c => isLower c || (48 ≤ c && c ≤ 57)) ≠
      (key.map asciiLower).filter fun c => isLower c || (48 ≤ c && c ≤ 57) := by decide
  rw [normalizeKey_ascii (ascii.1 name header),normalizeKey_ascii (ascii.2 key time)]
  exact apart name header key time

theorem first_mem {payload : List (Text × Text)} {keys : List Text} {value : Text} (found : first payload keys = some value) :
    ∃ key ∈ keys, ∃ entry ∈ payload, normalizeKey entry.1 = normalizeKey key ∧ entry.2 = value := by
  obtain ⟨key,listed,known⟩ := List.exists_of_findSome?_eq_some found
  obtain ⟨folded,_⟩ := Option.filter_eq_some_iff.mp known
  have fold : payload.foldl (fun folded entry => folded.set (normalizeKey entry.1) entry.2) (Dict.empty : Dict Text Text) =
      (payload.map fun entry => (normalizeKey entry.1,entry.2)).foldl (fun kept item => kept.set item.1 item.2) Dict.empty := by
    rw [List.foldl_map]
  rw [fold] at folded
  obtain ⟨entry,member,same⟩ := List.mem_map.mp (mem_of_get?_assigned folded)
  exact ⟨key,listed,entry,member,congrArg Prod.fst same,congrArg Prod.snd same⟩

/-- A record of plain values is read back. -/
theorem readBack_of_plain (helpers : Helpers) (reference : Option DateTime) {header : Header} {pairs : List Pair}
    (distinct : (pairs.map Pair.key).Nodup) (headed : ∀ value ∈ header.values, PlainHeader value)
    (plain : ∀ pair ∈ pairs, PlainValue pair.value) : ReadBack helpers reference header pairs := by
  obtain ⟨rest,start⟩ := cefStart_record header pairs
  have unescaped : header.values.map escapedHeader = header.values := by
    refine (List.map_congr_left fun value member => ?_).trans (List.map_id _)
    refine escapedBy_eq_iff.mpr fun c inside marked => ?_
    rcases List.mem_cons.mp marked with rfl | marked
    · exact (headed value member).1 inside
    · exact (headed value member).2 (List.mem_singleton.mp marked ▸ inside)
  have free : ∀ piece ∈ (lit "CEF:" ++ header.cefVersion) :: header.values, 124 ∉ piece :=
    List.forall_mem_cons.mpr ⟨version_free header,fun value member => (headed value member).2⟩
  have split : splitAtMost 124 7 (recordText header pairs) = [lit "CEF:" ++ header.cefVersion,header.vendor,header.product,
      header.deviceVersion,header.signatureId,header.name,header.severity,extension pairs] := by
    rw [recordText,unescaped]
    exact split_of_piped free _
  have entries := entries_of_plain plain
  have keys : ((pairs.map Pair.entry).map Prod.fst).Nodup := by
    rw [List.map_map]
    exact distinct
  have stored : ∀ pair ∈ pairs, (parseKeyValues (extension pairs)).get? pair.key = some pair.value := by
    intro pair member
    rw [parseKeyValues,entries]
    exact get?_assigned_mem keys (List.mem_map_of_mem member)
  have only : ∀ key value, (parseKeyValues (extension pairs)).get? key = some value → ∃ pair ∈ pairs, (pair.key,pair.value) = (key,value) := by
    intro key value found
    have inside := mem_of_get?_assigned found
    rw [entries] at inside
    obtain ⟨pair,member,same⟩ := List.mem_map.mp inside
    exact ⟨pair,member,same⟩
  have pairFields : ∀ pair ∈ pairs, (fieldsOf header.vendor header.product header.deviceVersion header.signatureId header.name header.severity
      (extension pairs)).get? pair.key = some pair.value := by
    intro pair member
    rw [fieldsOf,get?_update,stored pair member]
    rfl
  have headFields : ∀ field ∈ headerNames.zip header.values, (fieldsOf header.vendor header.product header.deviceVersion header.signatureId
      header.name header.severity (extension pairs)).get? field.1 = some field.2 := by
    intro field member
    have unnamed : (parseKeyValues (extension pairs)).get? field.1 = none := by
      rw [Option.eq_none_iff_forall_ne_some]
      intro value found
      obtain ⟨pair,_,same⟩ := only _ _ found
      exact pair.other ((Prod.mk.inj same).1 ▸ (List.of_mem_zip member).1)
    rw [fieldsOf,get?_update,unnamed,Option.none_or]
    exact (Dict.get?_eq_some _ _ _).mpr member
  have timed : ∃ eventTime, ((first (fieldsOf header.vendor header.product header.deviceVersion header.signatureId header.name header.severity
      (extension pairs)).entries (lit "rt" :: timeKeys)).elim (.ok none) fun value => parseTimestamp helpers value none) = .ok eventTime := by
    cases found : first (fieldsOf header.vendor header.product header.deviceVersion header.signatureId header.name header.severity
      (extension pairs)).entries (lit "rt" :: timeKeys) with
    | none => exact ⟨none,rfl⟩
    | some value =>
      obtain ⟨key,time,entry,listed,same,rfl⟩ := first_mem found
      have kept := (Dict.get?_eq_some _ entry.1 entry.2).mpr listed
      rw [fieldsOf,get?_update,Option.or_eq_some_iff] at kept
      rcases kept with named | ⟨_,headed⟩
      · obtain ⟨pair,member,equal⟩ := only _ _ named
        exact parseTimestamp_word helpers ((Prod.mk.inj equal).2 ▸ ⟨pair.valued.1,(plain pair member).1⟩) none
      · have name := (List.of_mem_zip ((Dict.get?_eq_some _ _ _).mp headed)).1
        exact absurd same (header_timeless name time)
  obtain ⟨eventTime,timed⟩ := timed
  rw [ReadBack,parse,strip_record,start,if_neg (by simp),split]
  refine ⟨_,bind_ok.mpr ⟨eventTime,timed,rfl⟩,fun field member => ?_,fun pair member => ⟨?_,fun message => ?_⟩⟩
  · rw [lookup_strings,headFields field member]
    rfl
  · rw [lookup_strings,pairFields pair member]
    rfl
  · have text := pairFields pair member
    rw [message] at text
    dsimp only
    rw [text,orElse,if_pos ((truthy_some _).mpr pair.valued.1)]
    rfl

/-- The parser reads a rendered record back exactly where no header value has a backslash or a
    pipe, and no extension value blanks, a backslash, an equals sign or a quote at an end. -/
theorem readBack_iff_plain (helpers : Helpers) (reference : Option DateTime) (header : Header) {pairs : List Pair}
    (distinct : (pairs.map Pair.key).Nodup) : ReadBack helpers reference header pairs ↔
      (∀ value ∈ header.values, PlainHeader value) ∧ ∀ pair ∈ pairs, PlainValue pair.value :=
  ⟨plain_of_readBack distinct,fun plain => readBack_of_plain helpers reference distinct plain.1 plain.2⟩

end

/-! ### A failed login -/

theorem gate_numbered : lit "0" ≠ [] ∧ ∀ c ∈ lit "0", 48 ≤ c ∧ c ≤ 57 := ⟨by decide,by decide⟩

/-- `CEF:0|Acme|Gate|1.0|100|Login|5|`. -/
def gateHeader : Header := ⟨lit "0",lit "Acme",lit "Gate",lit "1.0",lit "100",lit "Login",lit "5",gate_numbered⟩

section
attribute [local instance] asciiAlphabet

theorem msg_worded : lit "msg" ≠ [] ∧ ∀ c ∈ lit "msg", isWord c = true := ⟨by decide,by decide⟩
theorem msg_lowered : lower (lit "msg") = lit "msg" := by decide
theorem msg_other : lit "msg" ∉ headerNames := by decide
theorem denied_valued : lit "denied" ≠ [] ∧ strip (lit "denied") = lit "denied" := ⟨by decide,by decide⟩
theorem failed_valued : lit "Failed password" ≠ [] ∧ strip (lit "Failed password") = lit "Failed password" := ⟨by decide,by decide⟩

/-- `msg=denied`. -/
def denied : Pair := ⟨lit "msg",lit "denied",msg_worded,msg_lowered,msg_other,denied_valued⟩

/-- `msg=Failed password`. -/
def failed : Pair := ⟨lit "msg",lit "Failed password",msg_worded,msg_lowered,msg_other,failed_valued⟩

/-- `src=10.0.0.5 suser=o'brien msg=denied`. -/
def refusedLogin : List Pair :=
  [⟨lit "src",lit "10.0.0.5",⟨by decide,by decide⟩,by decide,by decide,⟨by decide,by decide⟩⟩,
    ⟨lit "suser",lit "o'brien",⟨by decide,by decide⟩,by decide,by decide,⟨by decide,by decide⟩⟩,denied]

theorem refusedLogin_readBack : ReadBack plainHelpers none gateHeader refusedLogin := by
  have distinct : (refusedLogin.map Pair.key).Nodup := by decide
  refine (readBack_iff_plain plainHelpers none gateHeader distinct).mpr ⟨?_,?_⟩
  · unfold PlainHeader
    decide
  · unfold PlainValue
    decide

/-- A message of two words loses the second. -/
theorem message_cut :
    (∃ record, parse plainHelpers (recordText gateHeader [failed]) none = .ok (some record) ∧ record.message = lit "Failed") ∧
    ¬ ∀ (helpers : Helpers) (reference : Option DateTime) (header : Header) (pairs : List Pair), (pairs.map Pair.key).Nodup →
      ReadBack helpers reference header pairs := by
  refine ⟨⟨_,rfl,by decide⟩,fun always => ?_⟩
  have once : ([failed].map Pair.key).Nodup := List.nodup_singleton _
  have plain := (plain_of_readBack once (always plainHelpers none gateHeader [failed] once)).2 failed (List.mem_singleton_self _)
  exact absurd (plain.1 32 (by decide)) (by decide)

end

end SocAnalyst.Cef
