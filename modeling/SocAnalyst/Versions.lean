import Mathlib.Data.List.Lex
import Mathlib.Data.Prod.Lex
import SocAnalyst.Builtins

/-!
# Versions and product names

`parse_version` and `product_match_score` of `tools/versions.py`. A version string
is split at its separators and read token by token; a token the reader does not
know ends the reading with no version, and a numeral that `int` refuses ends it
with an exception. `Overlong` names the strings of the second kind.
-/
namespace SocAnalyst.Versions
open SocAnalyst.Builtins

/-- Trailing qualifiers that name a release rather than modify it. -/
def releaseWords : List Text := [lit "release", lit "final", lit "ga", lit "stable"]

/-- Words that mark a build as pre-release, by increasing maturity. -/
def prereleaseRank (word : Text) : Option Nat :=
  if word = lit "dev" then some 0
  else if word ∈ [lit "alpha", lit "a"] then some 1
  else if word ∈ [lit "beta", lit "b"] then some 2
  else if word ∈ [lit "milestone", lit "m"] then some 3
  else if word ∈ [lit "rc", lit "cr", lit "preview", lit "pre"] then some 4
  else none

/-- The characters of `[.\-_+~]`. -/
def isSeparator (c : Nat) : Bool := c ∈ lit ".-_+~"
/-- The characters of `[a-z]`. -/
def isLowerLetter (c : Nat) : Bool := 97 ≤ c && c ≤ 122

/-- A final line break is invisible to the `$` that ends a pattern. -/
def dropFinalNewline (token : Text) : Text := if token.getLast? = some 10 then token.dropLast else token

/-- The key a version is compared by: the numeric backbone, then 1 for a final
    release and 0 for a pre-release, then the pre-release parts. -/
abbrev SortKey := List Nat ×ₗ Nat ×ₗ List Nat

/-- A comparable version. Its spelling is kept for provenance and never compared. -/
structure Version where
  sortKey : SortKey
  text : Text
  deriving DecidableEq

instance : LE Version := ⟨fun v w => v.sortKey ≤ w.sortKey⟩
instance : LT Version := ⟨fun v w => v.sortKey < w.sortKey⟩
instance (v w : Version) : Decidable (v ≤ w) := inferInstanceAs (Decidable (v.sortKey ≤ w.sortKey))
instance (v w : Version) : Decidable (v < w) := inferInstanceAs (Decidable (v.sortKey < w.sortKey))

theorem Version.le_def (v w : Version) : v ≤ w ↔ v.sortKey ≤ w.sortKey := Iff.rfl
theorem Version.lt_def (v w : Version) : v < w ↔ v.sortKey < w.sortKey := Iff.rfl

/-- What the loop over the tokens has collected. -/
structure Scan where
  release : List Nat
  prerelease : List Nat
  seenPrerelease : Bool
  deriving DecidableEq

/-- A number belongs to the pre-release once one was seen. -/
def Scan.push (scan : Scan) (n : Nat) : Scan :=
  if scan.seenPrerelease then { scan with prerelease := scan.prerelease ++ [n] }
  else { scan with release := scan.release ++ [n] }

section
variable [Interpreter]

/-- The characters of `\d`. -/
def isDigit (c : Nat) : Bool := (decimal c).isSome
/-- The digits of a token matched by `^\d+$`. -/
def numeric (token : Text) : Option Text :=
  let body := dropFinalNewline token
  if body ≠ [] ∧ body.all isDigit then some body else none

/-- The two groups of a token matched by `^([a-z]+)(\d*)$`. -/
def alphanum (token : Text) : Option (Text × Text) :=
  let body := dropFinalNewline token
  let word := body.takeWhile isLowerLetter
  let digits := body.dropWhile isLowerLetter
  if word ≠ [] ∧ digits.all isDigit then some (word,digits) else none

/-- One turn of the loop; `none` is the return of no version. -/
def readToken (scan : Scan) (token : Text) : Except PyError (Option Scan) :=
  if token = [] then .ok (some scan)
  else match numeric token with
    | some digits => (intOf digits).map fun n => some (scan.push n)
    | none =>
      if token ∈ releaseWords then .ok (some scan)
      else match alphanum token with
        | none => .ok none
        | some (word,digits) =>
          match prereleaseRank word with
          | none => .ok none
          | some rank =>
            let marked : Scan := { scan with seenPrerelease := true, prerelease := scan.prerelease ++ [rank] }
            if digits = [] then .ok (some marked)
            else (intOf digits).map fun n => some { marked with prerelease := marked.prerelease ++ [n] }

/-- The loop over the tokens. -/
def readTokens : Scan → List Text → Except PyError (Option Scan)
  | scan, [] => .ok (some scan)
  | scan, token :: rest =>
    match readToken scan token with
    | .error e => .error e
    | .ok none => .ok none
    | .ok (some next) => readTokens next rest

/-- A leading `v` before a digit is dropped. -/
def stripLeadingV : Text → Text
  | c :: d :: rest => if (c = 118 ∨ c = 86) ∧ isDigit d then d :: rest else c :: d :: rest
  | text => text

/-- The text of a version without surrounding blanks and leading `v`. -/
def cleaned (text : Text) : Text := stripLeadingV (strip text)
/-- The tokens between separators. -/
def tokens (text : Text) : List Text := (lower (cleaned text)).splitOnP isSeparator

/-- Parse a version string, or return `none` if it cannot be read. -/
def parseVersion : Option Text → Except PyError (Option Version)
  | none => .ok none
  | some text =>
    if text = [] ∨ cleaned text = [] then .ok none
    else match readTokens ⟨[],[],false⟩ (tokens text) with
      | .error e => .error e
      | .ok none => .ok none
      | .ok (some scan) =>
        if scan.release = [] then .ok none
        else .ok (some ⟨toLex (scan.release,toLex (if scan.seenPrerelease then 0 else 1,scan.prerelease)),text⟩)

/-- The version a text names, when it parses. -/
def Parses (text : Option Text) (v : Version) : Prop := parseVersion text = .ok (some v)

theorem parses_unique {text : Option Text} {v w : Version} (first : Parses text v) (second : Parses text w) : v = w := by
  have same : Except.ok (some v) = (Except.ok (some w) : Except PyError (Option Version)) := first.symm.trans second
  simpa using same

/-! ### Which strings make the parser raise -/

/-- The digits of a token that are given to `int`. -/
def numeral (token : Text) : Text :=
  match numeric token with
  | some digits => digits
  | none =>
    if token ∈ releaseWords then []
    else match alphanum token with
      | none => []
      | some (word,digits) => if (prereleaseRank word).isSome then digits else []

/-- A token that does not end the reading. -/
def readable (token : Text) : Bool :=
  token = [] || (numeric token).isSome || token ∈ releaseWords ||
    match alphanum token with
    | none => false
    | some (word,_) => (prereleaseRank word).isSome

/-- A numeral of more digits than `int` reads stands before any token that ends
    the reading. -/
def Overlong (text : Text) : Prop :=
  ∃ token ∈ (tokens text).takeWhile readable, maxStrDigits < (numeral token).length

instance (text : Text) : Decidable (Overlong text) := by unfold Overlong; infer_instance

theorem numeric_nil : numeric [] = none := by simp [numeric,dropFinalNewline]
theorem alphanum_nil : alphanum [] = none := by simp [alphanum,dropFinalNewline]

theorem readToken_error (scan : Scan) (token : Text) (e : PyError) :
    readToken scan token = .error e ↔ e = .ValueError ∧ maxStrDigits < (numeral token).length := by
  by_cases empty : token = []
  · subst empty
    simp [readToken,numeral,numeric_nil,alphanum_nil]
  · unfold readToken numeral
    cases numeric token with
    | some digits =>
      by_cases long : maxStrDigits < digits.length
      · simp [empty,intOf,long,Except.map,eq_comm]
      · simp [empty,intOf,long,Except.map]
    | none =>
      by_cases word : token ∈ releaseWords
      · simp [empty,word]
      · cases alphanum token with
        | none => simp [empty,word]
        | some groups =>
          obtain ⟨letters,digits⟩ := groups
          cases rank : prereleaseRank letters with
          | none => simp [empty,word,rank]
          | some n =>
            by_cases none : digits = []
            · simp [empty,word,rank,none]
            · by_cases long : maxStrDigits < digits.length
              · simp [empty,word,rank,none,intOf,long,Except.map,eq_comm]
              · simp [empty,word,rank,none,intOf,long,Except.map]

theorem readToken_none (scan : Scan) (token : Text) :
    readToken scan token = .ok none ↔ readable token = false := by
  by_cases empty : token = []
  · subst empty; simp [readToken,readable]
  · unfold readToken readable
    cases numeric token with
    | some digits =>
      by_cases long : maxStrDigits < digits.length
      · simp [empty,intOf,long,Except.map]
      · simp [empty,intOf,long,Except.map]
    | none =>
      by_cases word : token ∈ releaseWords
      · simp [empty,word]
      · cases alphanum token with
        | none => simp [empty,word]
        | some groups =>
          obtain ⟨letters,digits⟩ := groups
          cases rank : prereleaseRank letters with
          | none => simp [empty,word,rank]
          | some n =>
            by_cases none : digits = []
            · simp [empty,word,rank,none]
            · by_cases long : maxStrDigits < digits.length
              · simp [empty,word,rank,none,intOf,long,Except.map]
              · simp [empty,word,rank,none,intOf,long,Except.map]

/-- The loop raises exactly when an overlong numeral is reached. -/
theorem readTokens_error (scan : Scan) (words : List Text) (e : PyError) :
    readTokens scan words = .error e ↔
      e = .ValueError ∧ ∃ token ∈ words.takeWhile readable, maxStrDigits < (numeral token).length := by
  induction words generalizing scan with
  | nil => simp [readTokens]
  | cons token rest ih =>
    have raises := readToken_error scan token
    have stops := readToken_none scan token
    unfold readTokens
    cases outcome : readToken scan token with
    | error e' =>
      obtain ⟨kind,long⟩ := (raises e').mp outcome
      have known : readable token = true := by
        by_contra unknown
        rw [stops.mpr (by simpa using unknown)] at outcome
        cases outcome
      subst kind
      simp [known,long,eq_comm]
    | ok next =>
      have short : ¬ maxStrDigits < (numeral token).length := by
        intro long
        rw [(raises .ValueError).mpr ⟨rfl,long⟩] at outcome
        cases outcome
      cases next with
      | none => simp [stops.mp outcome]
      | some next =>
        have known : readable token = true := by
          by_contra unknown
          rw [stops.mpr (by simpa using unknown)] at outcome
          cases outcome
        simp [known,short,ih next]

theorem not_overlong_blank {text : Text} (blank : cleaned text = []) : ¬ Overlong text := by
  have single : tokens text = [[]] := by
    simp [tokens,blank,Interpreter.lower_ascii]
  simp [Overlong,single,readable,numeral,numeric_nil,alphanum_nil]

/-- `parse_version` raises exactly on overlong strings. -/
theorem parseVersion_error (text : Text) (e : PyError) :
    parseVersion (some text) = .error e ↔ e = .ValueError ∧ Overlong text := by
  by_cases blank : cleaned text = []
  · simp [parseVersion,blank,not_overlong_blank blank]
  · simp only [parseVersion,Overlong]
    have nonempty : text ≠ [] := by
      rintro rfl
      exact blank rfl
    have loop := readTokens_error ⟨[],[],false⟩ (tokens text) e
    simp only [blank,nonempty,or_self,if_false]
    rw [← loop]
    cases readTokens ⟨[],[],false⟩ (tokens text) with
    | error e' => simp
    | ok next =>
      cases next with
      | none => simp
      | some scan => by_cases bare : scan.release = [] <;> simp [bare]

/-- A run of ASCII digits that `int` refuses. -/
theorem overlong_digits {text : Text} (digits : ∀ c ∈ text, 48 ≤ c ∧ c ≤ 57) (long : maxStrDigits < text.length) :
    Overlong text := by
  obtain ⟨c,rest,rfl⟩ := List.exists_cons_of_ne_nil (show text ≠ [] by rintro rfl; simp at long)
  have solid : ∀ d ∈ c :: rest, isSpace d = false := by
    intro d member
    have bounds := digits d member
    simp only [isSpace,Bool.or_eq_false_iff,Bool.and_eq_false_iff,beq_eq_false_iff_ne,decide_eq_false_iff_not]
    omega
  have bare : strip (c :: rest) = c :: rest := by
    have front : (c :: rest).dropWhile isSpace = c :: rest := by simp [solid c (by simp)]
    rw [strip,front,List.rdropWhile_eq_self_iff]
    exact fun _ => by simpa using solid _ (List.getLast_mem _)
  have clean : cleaned (c :: rest) = c :: rest := by
    have bounds := digits c (by simp)
    rw [cleaned,bare]
    cases rest with
    | nil => rfl
    | cons d rest => simp only [stripLeadingV,ite_eq_right_iff]; omega
  have small : lower (c :: rest) = c :: rest := by
    have fixed : ∀ d ∈ c :: rest, asciiLower d = id d := by
      intro d member
      have := digits d member
      rw [asciiLower,if_neg (by omega),id]
    rw [Interpreter.lower_ascii _ fun d member => by have := digits d member; omega,List.map_congr_left fixed,List.map_id]
  have whole : tokens (c :: rest) = [c :: rest] := by
    have joined : ∀ d ∈ c :: rest, isSeparator d = false := by
      intro d member
      have := digits d member
      simp [isSeparator,lit]
      omega
    rw [tokens,clean,small]
    exact List.splitOnP_eq_singleton joined
  have read : numeric (c :: rest) = some (c :: rest) := by
    have noBreak : dropFinalNewline (c :: rest) = c :: rest := by
      rw [dropFinalNewline,if_neg]
      intro last
      have := digits 10 (List.mem_of_getLast? last)
      omega
    have all : (c :: rest).all isDigit = true := by
      rw [List.all_eq_true]
      intro d member
      have bounds := digits d member
      rw [isDigit,Interpreter.decimal_ascii d (by omega),asciiDigit,if_pos bounds]
      rfl
    simp only [numeric,noBreak,all,and_true]
    simp
  refine ⟨c :: rest,?_,?_⟩
  · simp [whole,readable,read]
  · simpa [numeral,read] using long

/-! ### Product names -/

/-- Tokens that appear in product names without distinguishing anything. -/
def genericTokens : List Text :=
  [lit "apache", lit "client", lit "community", lit "corp", lit "corporation", lit "edition", lit "enterprise",
    lit "foundation", lit "framework", lit "free", lit "gnu", lit "google", lit "hat", lit "inc", lit "library",
    lit "microsoft", lit "open", lit "oracle", lit "project", lit "red", lit "redhat", lit "server", lit "software",
    lit "source", lit "standard", lit "the"]

/-- A shared token shorter than this is too generic to carry a match on its own. -/
def minTokenLength : Nat := 3
/-- The score of an exact name match. -/
def exactMatchScore : Nat := 100

/-- The characters of `[a-z0-9]`; everything else is noise in a product name. -/
def isNameCharacter (c : Nat) : Bool := isLowerLetter c || (48 ≤ c && c ≤ 57)

/-- Reduce a product name to a comparable form. -/
def normalizeProduct (name : Text) : Text := (lower name).filter isNameCharacter

/-- The words in a product name that actually identify the product. -/
def distinctiveTokens (name : Text) : List Text :=
  (((lower name).splitOnP fun c => !isNameCharacter c).filter fun token => token ≠ [] ∧ token ∉ genericTokens).dedup

/-- How well two product names match; zero when they do not. -/
def productMatchScore (installed affected : Text) : Nat :=
  let left := normalizeProduct installed
  let right := normalizeProduct affected
  if left = [] ∨ right = [] then 0
  else if left = right then exactMatchScore
  else
    let shared := (distinctiveTokens installed).filter fun token =>
      token ∈ distinctiveTokens affected ∧ minTokenLength ≤ token.length
    if shared ≠ [] then shared.length
    else if min left.length right.length < 4 then 0
    else if left <:+: right ∨ right <:+: left then 1
    else 0

/-- Whether an inventory entry names the product an advisory affects. -/
def productsMatch (installed affected : Text) : Bool := productMatchScore installed affected > 0

end
end SocAnalyst.Versions
