import Mathlib.Data.List.DropRight
import SocAnalyst.Notifications

/-!
# Alert templates

`tools/notifications.py`: how an alert is written for Slack and for email, and what is
done to its untrusted text on the way.
-/
namespace SocAnalyst.AlertTemplates
open SocAnalyst.Builtins SocAnalyst.Risk SocAnalyst.Notifications

/-- The word characters of ASCII. -/
def asciiWord (c : Nat) : Bool := (48 ≤ c && c ≤ 57) || (65 ≤ c && c ≤ 90) || c == 95 || (97 ≤ c && c ≤ 122)

/-- The code points that `\w` matches, by the interpreter's table beyond ASCII. -/
class WordTable where
  word : Nat → Bool
  word_ascii : ∀ c < 128, word c = asciiWord c

export WordTable (word)

/-- A table of the ASCII words only. -/
@[reducible] def asciiWords : WordTable := ⟨asciiWord,fun _ _ => rfl⟩

def priorityValue : TriagePriority → Text
  | .LOW => lit "low"
  | .MEDIUM => lit "medium"
  | .HIGH => lit "high"
  | .URGENT => lit "urgent"

def severityValue : Severity → Text
  | .INFO => lit "info"
  | .LOW => lit "low"
  | .MEDIUM => lit "medium"
  | .HIGH => lit "high"
  | .CRITICAL => lit "critical"

/-- `str.upper` of an ASCII text. -/
def upper (text : Text) : Text := text.map fun c => if 97 ≤ c ∧ c ≤ 122 then c - 32 else c

/-! ### Escaping -/

def maxSubject : Nat := 160
def maxLine : Nat := 400

/-- What `_CONTROL` matches. -/
def isControl (c : Nat) : Bool := c ≤ 8 || c == 11 || c == 12 || (14 ≤ c && c ≤ 31) || c == 127

/-- `_CONTROL.sub("", text)`. -/
def dropControl (text : Text) : Text := text.filter fun c => !isControl c

/-- `_SLACK_ESCAPES`. -/
def slackEscapes : List (Text × Text) := [(lit "&",lit "&amp;"),(lit "<",lit "&lt;"),(lit ">",lit "&gt;")]

def truncate (text : Text) (limit : Nat) : Text := if text.length ≤ limit then text else upTo text (limit - 1 : Int) ++ lit "…"

/-- Make untrusted text safe to place in a Slack message. -/
def escapeSlack (value : Text) (limit : Nat := maxLine) : Text :=
  truncate (slackEscapes.foldl (fun text escape => replaceAll escape.1 escape.2 text) (strip (dropControl value))) limit

/-- What `_HEADER_BREAKERS` matches, one or more at a time. -/
def isBreaker (c : Nat) : Bool := c == 13 || c == 10 || c == 9

/-- `_HEADER_BREAKERS.sub(" ", text)`, from inside a match or not. -/
def joinBreaks : Bool → Text → Text
  | _, [] => []
  | inside, c :: rest =>
    if isBreaker c then (if inside then joinBreaks true rest else 32 :: joinBreaks true rest) else c :: joinBreaks false rest

/-- Make untrusted text safe to place in a plain-text message body. -/
def escapePlain (value : Text) (limit : Nat := maxLine) : Text := truncate (strip (joinBreaks false (dropControl value))) limit

/-- Make untrusted text safe to place in an email header. -/
def escapeHeader (value : Text) (limit : Nat := maxSubject) : Text := escapePlain value limit

/-- What `_SLACK_ESCAPES` make of one character. -/
def slackEscape (c : Nat) : Text := if c = 38 then lit "&amp;" else if c = 60 then lit "&lt;" else if c = 62 then lit "&gt;" else [c]

theorem replaceAll_single (old : Nat) (new text : Text) :
    replaceAll [old] new text = text.flatMap fun c => if c = old then new else [c] := by
  unfold replaceAll
  induction text with
  | nil => rfl
  | cons c rest ih =>
    rw [List.flatMap_cons,← ih,replaceFrom]
    by_cases same : c = old
    · simp [same]
    · have other : ¬ old = c := fun equal => same equal.symm
      simp [same,other]

/-- The three replacements in turn escape each character once. -/
theorem slackEscapes_eq (text : Text) :
    slackEscapes.foldl (fun text escape => replaceAll escape.1 escape.2 text) text = text.flatMap slackEscape := by
  change replaceAll [62] (lit "&gt;") (replaceAll [60] (lit "&lt;") (replaceAll [38] (lit "&amp;") text)) = _
  rw [replaceAll_single,replaceAll_single,replaceAll_single,List.flatMap_assoc,List.flatMap_assoc]
  refine List.flatMap_congr fun c _ => ?_
  unfold slackEscape
  split_ifs with amp less more
  · rfl
  · subst less; rfl
  · subst more; rfl
  · simp [less,more]

theorem escapeSlack_eq (value : Text) (limit : Nat) :
    escapeSlack value limit = truncate ((strip (dropControl value)).flatMap slackEscape) limit := by
  rw [escapeSlack,slackEscapes_eq]

theorem truncate_eq (text : Text) {limit : Nat} (positive : 0 < limit) :
    truncate text limit = if text.length ≤ limit then text else text.take (limit - 1) ++ [8230] := by
  have cut : ¬ ((limit : Int) - 1 < 0) := by omega
  have stop : ((limit : Int) - 1).toNat = limit - 1 := by omega
  rw [truncate,upTo,if_neg cut,stop]
  rfl

/-! ### Defanging -/

/-- Whether a code point matches one of a pattern whatever its case. -/
def sameLetter (letter c : Nat) : Bool := c == letter || (97 ≤ letter && letter ≤ 122 && c + 32 == letter) || (letter == 115 && c == 0x17F)

/-- Whether a text opens with a pattern, whatever the case. -/
def opensWith : Text → Text → Bool
  | [], _ => true
  | _ :: _, [] => false
  | letter :: letters, c :: rest => sameLetter letter c && opensWith letters rest

def schemes : List Text := [lit "https",lit "http",lit "ftp"]

/-- The length of the scheme that `_URL_SCHEME` matches at the start of a text. -/
def schemeAt (text : Text) : Option Nat := (schemes.find? fun scheme => opensWith (scheme ++ lit "://") text).map List.length

section
variable [WordTable]

/-- `_URL_SCHEME.sub`, from the code points still to be skipped, right after a word
    character or not. -/
def defangFrom : Nat → Bool → Text → Text
  | _, _, [] => []
  | skipped + 1, _, c :: rest => defangFrom skipped (word c) rest
  | 0, afterWord, c :: rest =>
    match if afterWord then none else schemeAt (c :: rest) with
    | some length => (c :: rest).take length ++ lit "[://]" ++ defangFrom (length + 2) (word c) rest
    | none => c :: defangFrom 0 (word c) rest

/-- Render a URL inert so a mail client will not turn it into a link. -/
def defang (value : Text) : Text := defangFrom 0 false value

/-! ### The messages -/

def slackFacts (alert : AlertRequest) : Text :=
  let parts := [
    (alert.severity.map fun severity => lit "severity " ++ escapeSlack (severityValue severity)).getD [],
    if truthy alert.verdict then lit "verdict " ++ escapeSlack (alert.verdict.getD []) 40 else [],
    lit "investigation " ++ escapeSlack alert.investigationId 64]
  joined (lit " · ") (parts.filter fun part => part ≠ [])

/-- The lines of a Slack message, before the empty ones are left out. -/
def slackLines (alert : AlertRequest) : List Text :=
  [lit "*" ++ escapeSlack (upper (priorityValue alert.priority)) ++ lit "* — " ++ escapeSlack alert.title 200,
    slackFacts alert,
    escapeSlack (defang alert.summary) 800] ++
  (alert.highlights.map fun item => lit "• " ++ escapeSlack (defang item)) ++
  (if truthy alert.consoleUrl then [lit "Investigation: " ++ escapeSlack (alert.consoleUrl.getD []) 300] else []) ++
  [lit "This alert was approved by an analyst. No remediation has been performed."]

/-- A short, scannable Slack message. -/
def renderSlack (alert : AlertRequest) : RenderedMessage where
  body := joined [10] ((slackLines alert).filter fun line => line ≠ [])

def severityText (alert : AlertRequest) : Text := (alert.severity.map severityValue).getD (lit "unrated")

def emailLines (alert : AlertRequest) : List Text :=
  [escapePlain (defang alert.summary) 1200,
    [],
    lit "Priority:      " ++ priorityValue alert.priority,
    lit "Severity:      " ++ severityText alert] ++
  (if truthy alert.verdict then [lit "Verdict:       " ++ escapePlain (alert.verdict.getD []) 40] else []) ++
  [lit "Investigation: " ++ escapePlain alert.investigationId 64] ++
  (if alert.highlights ≠ [] then
    [[],lit "Highlights:"] ++ alert.highlights.map fun item => lit "  - " ++ escapePlain (defang item)
  else []) ++
  (if truthy alert.consoleUrl then [[],lit "Open the investigation: " ++ escapePlain (alert.consoleUrl.getD []) 300] else []) ++
  [[],
    lit "This alert was dispatched because an analyst approved the investigation.",
    lit "No remediation has been performed; recommendations await action by a person."]

/-- A plain-text email. -/
def renderEmail (alert : AlertRequest) : RenderedMessage where
  subject := escapeHeader (lit "[SOC " ++ upper (priorityValue alert.priority) ++ lit "/" ++ severityText alert ++ lit "] " ++ alert.title)
  body := joined [10] (emailLines alert)

/-- Render an alert for one channel. -/
def render (alert : AlertRequest) (channel : NotificationChannel) : RenderedMessage :=
  if channel = .SLACK then renderSlack alert else renderEmail alert

end

end SocAnalyst.AlertTemplates
