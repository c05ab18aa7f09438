import SocAnalyst.AlertTemplates
import SocAnalyst.Iocs
import SocAnalyst.Patterns

/-!
# Extracting entities

`tools/extraction.py`: the patterns of the identifiers in log text, and what they find.
-/
namespace SocAnalyst.Extraction
open SocAnalyst.Builtins SocAnalyst.Dicts SocAnalyst.Logs SocAnalyst.IpAddresses SocAnalyst.Patterns
open SocAnalyst.AlertTemplates (WordTable word sameLetter)

/-! ### The patterns -/

/-- A text in any letter case. -/
def spelled (text : Text) : Pattern Nat := text.foldr (fun letter rest => .seq (.symbol (sameLetter letter)) rest) .nothing

def oneOf (texts : List Text) : Pattern Nat := (texts.dropLast.map spelled).foldr .alt (spelled (texts.getLastD []))

def oneOrMore (p : Nat → Bool) : Pattern Nat := .repeated (.symbol p) 1 none

def character (c : Nat) : Pattern Nat := .symbol (· == c)

/-- `[A-F0-9]` in any letter case. -/
def isHex (c : Nat) : Bool := (48 ≤ c && c ≤ 57) || (65 ≤ c && c ≤ 70) || (97 ≤ c && c ≤ 102)

/-- `[a-z]` in any letter case, with the four letters outside of ASCII that fold into it. -/
def isLetter (c : Nat) : Bool :=
  (65 ≤ c && c ≤ 90) || (97 ≤ c && c ≤ 122) || c == 0x130 || c == 0x131 || c == 0x17F || c == 0x212A

/-- `[a-z0-9]` in any letter case. -/
def isAlnum (c : Nat) : Bool := isLetter c || (48 ≤ c && c ≤ 57)

/-- What a URL goes on with. -/
def inUrl (c : Nat) : Bool := !(isSpace c || (lit "\"'<>\\").contains c)

/-- What a Windows path has between its backslashes. -/
def inPath (c : Nat) : Bool := !(isSpace c || (lit "\\\"'<>|").contains c)

section
variable [Interpreter] [WordTable]

/-- `\d`. -/
def isDigit (c : Nat) : Bool := (decimal c).isSome

/-- `[\w.\-]`. -/
def inName (c : Nat) : Bool := word c || c == 46 || c == 45

/-- `\b`. -/
def edge : Pattern Nat := .boundary word

omit [Interpreter] in
/-- `_URL`. -/
def url : Pattern Nat :=
  .seq edge (.seq (spelled (lit "http")) (.seq (.repeated (spelled (lit "s")) 0 (some 1)) (.seq (spelled (lit "://")) (oneOrMore inUrl))))

/-- `_IPV4`. -/
def ipv4 : Pattern Nat :=
  .seq edge (.seq (.repeated (.seq (.repeated (.symbol isDigit) 1 (some 3)) (character 46)) 3 (some 3))
    (.seq (.repeated (.symbol isDigit) 1 (some 3)) edge))

omit [Interpreter] in
/-- `_IPV6`. -/
def ipv6 : Pattern Nat :=
  .seq edge (.seq (.repeated (.seq (.repeated (.symbol isHex) 1 (some 4)) (character 58)) 2 (some 7))
    (.seq (.repeated (.symbol isHex) 1 (some 4)) edge))

omit [Interpreter] in
/-- `_HASH`. -/
def hash : Pattern Nat :=
  let digits (count : Nat) : Pattern Nat := .seq edge (.seq (.repeated (.symbol isHex) count (some count)) edge)
  .alt (digits 32) (.alt (digits 40) (digits 64))

/-- A backslash, written once or twice. -/
def backslash : Pattern Nat := .seq (character 92) (.repeated (character 92) 0 (some 1))

omit [Interpreter] in
/-- `_WINDOWS_PATH`. -/
def windowsPath : Pattern Nat :=
  .seq edge (.seq (.symbol isLetter) (.seq (character 58) (.seq backslash
    (.seq (.repeated (.seq (oneOrMore inPath) backslash) 0 none) (oneOrMore inPath)))))

/-- What stands before a path of `_UNIX_PATH`. -/
def unixLead : Pattern Nat := .alt .start (.symbol isSpace)

omit [Interpreter] in
/-- The path that `_UNIX_PATH` captures. -/
def unixPath : Pattern Nat :=
  .seq (character 47) (.seq (.repeated (.seq (oneOrMore inName) (character 47)) 0 none) (oneOrMore inName))

/-- `_DOMAIN`. -/
def domain : Pattern Nat :=
  let label : Pattern Nat := .seq (.symbol isAlnum)
    (.repeated (.seq (.repeated (.symbol fun c => isAlnum c || c == 45) 0 (some 61)) (.symbol isAlnum)) 0 (some 1))
  .seq edge (.seq (.unless (.seq (oneOrMore isDigit) (.seq (character 46) (oneOrMore isDigit))))
    (.seq (.repeated (.seq label (character 46)) 1 none) (.seq (.repeated (.symbol isLetter) 2 (some 24)) edge)))

omit [Interpreter] in
/-- `_PROCESS`. -/
def process : Pattern Nat :=
  .seq edge (.seq (oneOrMore inName) (.seq (character 46)
    (.seq (oneOf [lit "exe",lit "dll",lit "ps1",lit "sh",lit "bat",lit "cmd",lit "py",lit "jar"]) edge)))

/-! ### Extraction -/

/-- Domains that appear in log prose without being indicators of anything. -/
def domainNoise : List Text := [lit "localhost.localdomain"]

def isRoutableIp (value : Text) : Bool := (ipAddress value).isSome

/-- `.strip()` and then `.strip` of the signs that end a sentence. -/
def trimmed (value : Text) : Text :=
  let around (c : Nat) : Bool := (lit ".,;:)]\x7d\"'").contains c
  ((strip value).dropWhile around).rdropWhile around

/-- An entity of a value, unless nothing is left of it. -/
def entityOf (type : EntityType) (value : Text) : Option Entity :=
  if trimmed value = [] then none else some ⟨type,trimmed value⟩

/-- The entities of already-known values. -/
def structured (extra : List (EntityType × Option Text)) : List Entity :=
  extra.filterMap fun known => known.2.bind (entityOf known.1)

omit [Interpreter] in
def urlsOf (text : Text) : List Entity := (findAll url.whole text).filterMap (entityOf .URL)

omit [Interpreter] in
/-- The text without its URLs. -/
def remainderOf (text : Text) : Text := substitute url.whole (lit " ") text

omit [Interpreter] in
def windowsPathsOf (remainder : Text) : List Entity := (findAll windowsPath.whole remainder).filterMap (entityOf .FILE_PATH)

omit [Interpreter] in
def unixPathsOf (remainder : Text) : List Entity := (findAll (unixLead.after unixPath) remainder).filterMap (entityOf .FILE_PATH)

def addressesOf (remainder : Text) : List Entity :=
  ((findAll ipv4.whole remainder).filter isRoutableIp ++ (findAll ipv6.whole remainder).filter isRoutableIp).filterMap
    (entityOf .IP_ADDRESS)

omit [Interpreter] in
def hashesOf (remainder : Text) : List Entity := (findAll hash.whole remainder).filterMap (entityOf .FILE_HASH)

omit [Interpreter] in
def processesOf (remainder : Text) : List Entity := (findAll process.whole remainder).filterMap (entityOf .PROCESS)

/-- The domains, without addresses and file names. -/
def domainsOf (remainder : Text) : List Entity :=
  (findAll domain.whole remainder).filterMap fun found =>
    if lower found ∈ domainNoise ∨ isRoutableIp found ∨ process.fullmatch found then none else entityOf .DOMAIN (lower found)

/-- What the extraction finds, in order. -/
def found (text : Text) (extra : List (EntityType × Option Text)) : List Entity :=
  let remainder := remainderOf text
  structured extra ++ urlsOf text ++ addressesOf remainder ++ hashesOf remainder ++ processesOf remainder ++
    windowsPathsOf remainder ++ unixPathsOf remainder ++ domainsOf remainder

omit [WordTable] in
/-- Drop repeats, keeping first-seen order. -/
def deduplicate (entities : List Entity) : List Entity := keepFirst (fun entity => (entity.type,lower entity.value)) entities

/-- Extract entities from log text, plus any already-known structured values. -/
def extractEntities (text : Text) (extra : List (EntityType × Option Text) := []) : List Entity := deduplicate (found text extra)

end
end SocAnalyst.Extraction
