import SocAnalyst.AlertLinks
import SocAnalyst.Assessments
import SocAnalyst.Detections
import SocAnalyst.GraphState
import SocAnalyst.Scanners

/-!
# Exploit mappings

`find_cve_ids` and `_map_to_observed` of `agents/cve_research/researcher.py`: when a CVE is
tied to what was observed. The first reads an identifier as a whole word; the second looks
for its characters anywhere, and so finds an identifier inside a longer one.
-/
namespace SocAnalyst.ExploitMappings
open SocAnalyst.Builtins SocAnalyst.Values SocAnalyst.Scanners SocAnalyst.Versions SocAnalyst.AlertTemplates SocAnalyst.AlertLinks
open SocAnalyst.Applicability SocAnalyst.Assessments
open SocAnalyst.Graph (Mapping get)
open SocAnalyst.Detections (unique mem_unique)

/-- An interpreter with its table of word characters. A digit is one of them. -/
class Reader extends Printer, WordTable where
  digit_word : ∀ c, isDigit c = true → word c = true

/-- The ASCII interpreter. -/
@[reducible] def asciiReader : Reader :=
  { asciiPrinter, asciiWords with
    digit_word := fun c digit => by
      change (asciiDigit c).isSome = true at digit
      change asciiWord c = true
      unfold asciiDigit at digit
      split_ifs at digit with figure
      · simp [asciiWord,figure]
      · cases digit }

section
variable [Reader]

/-! ### Reading identifiers -/

/-- The letters of a pattern, whatever the case. -/
def letters (pattern : Text) : Scanner Nat Unit := fun text =>
  if opensWith pattern text then some ((),text.drop pattern.length) else none

/-- The `\b` after a word character. -/
def boundary : Scanner Nat Unit := fun text => if text.head?.any word then none else some ((),text)

/-- `_CVE_ID` after its first boundary. Where the digits end at a boundary no digit follows
    them, so the pattern never goes back. -/
def cveIdParts : Scanner Nat Unit := do
  letters (lit "cve-")
  let _ ← run isDigit 4 (some 4)
  mark 45
  let _ ← run isDigit 4 (some 7)
  boundary

def cveIdAt : Scanner Nat Text := captured cveIdParts

/-- `_CVE_ID.findall`, from the code points still to be skipped, right after a word
    character or not. -/
def cveIdsFrom : Nat → Bool → Text → List Text
  | _,_,[] => []
  | skipped + 1,_,c :: rest => cveIdsFrom skipped (word c) rest
  | 0,afterWord,c :: rest =>
    match if afterWord then none else cveIdAt (c :: rest) with
    | none => cveIdsFrom 0 (word c) rest
    | some (token,left) => token :: cveIdsFrom (rest.length - left.length) (word c) rest

/-- Collect CVE identifiers named in free text, deduplicated and uppercased. What is found
    has letters of ASCII only, and digits, which have no case. -/
def findCveIds (text : Text) : List Text := unique ((cveIdsFrom 0 false text).map upper)

/-- The text of an identifier. -/
structure IsCveId (token : Text) : Prop where
  spelled : ∃ letters year number, token = letters ++ year ++ 45 :: number ∧ letters.length = 4 ∧
    opensWith (lit "cve-") letters = true ∧ (year.length = 4 ∧ ∀ c ∈ year, isDigit c = true) ∧
    (4 ≤ number.length ∧ number.length ≤ 7 ∧ ∀ c ∈ number, isDigit c = true)

/-- Whether a word reaches the end of a text, which stands after a word character or not. -/
def endsInWord (afterWord : Bool) (text : Text) : Bool := (text.getLast?.map word).getD afterWord

/-- An identifier stands in the text as a word of its own. -/
def StandsAfter (afterWord : Bool) (token text : Text) : Prop :=
  ∃ before after, text = before ++ (token ++ after) ∧ IsCveId token ∧ endsInWord afterWord before = false ∧ after.head?.any word = false

/-! ### What is read -/

omit [Reader] in
theorem letters_found {pattern text rest : Text} {u : Unit} (read : letters pattern text = some (u,rest)) :
    ∃ piece, text = piece ++ rest ∧ piece.length = pattern.length ∧ opensWith pattern piece = true := by
  unfold letters at read
  split at read
  · rename_i opens
    have long := opensWith_length opens
    have size : (text.take pattern.length).length = pattern.length := List.length_take_of_le long
    cases read
    refine ⟨text.take pattern.length,(List.take_append_drop ..).symm,size,?_⟩
    rw [← List.take_append_drop pattern.length text,opensWith_append size.ge] at opens
    exact opens
  · cases read

omit [Reader] in
theorem letters_reads {pattern piece : Text} (rest : Text) (size : piece.length = pattern.length)
    (opens : opensWith pattern piece = true) : letters pattern (piece ++ rest) = some ((),rest) := by
  rw [letters,opensWith_append size.ge,if_pos opens,← size,List.drop_left]

theorem cveIdParts_found {text rest : Text} {u : Unit} (read : cveIdParts text = some (u,rest)) :
    ∃ token, text = token ++ rest ∧ IsCveId token ∧ rest.head?.any word = false := by
  obtain ⟨_,_,first,read⟩ := bind_found read
  obtain ⟨year,_,second,read⟩ := bind_found read
  obtain ⟨_,_,third,read⟩ := bind_found read
  obtain ⟨number,left,fourth,last⟩ := bind_found read
  obtain ⟨piece,rfl,size,opens⟩ := letters_found first
  obtain ⟨rfl,fourDigits,noMore,years⟩ := run_found second
  obtain rfl := mark_splits third
  obtain ⟨rfl,least,most,numbers⟩ := run_found fourth
  unfold boundary at last
  split at last
  · cases last
  · rename_i free
    cases last
    refine ⟨piece ++ year ++ 45 :: number,by simp,⟨piece,year,number,rfl,size,opens,⟨by omega,years⟩,least,most,numbers⟩,by simpa using free⟩

theorem cveIdParts_reads {token rest : Text} (identifier : IsCveId token) (free : rest.head?.any word = false) :
    cveIdParts (token ++ rest) = some ((),rest) := by
  obtain ⟨piece,year,number,rfl,size,opens,⟨four,years⟩,least,most,numbers⟩ := identifier.spelled
  have ends : ∀ c ∈ rest.head?, isDigit c = false := by
    intro c first
    by_contra digit
    have worded := Reader.digit_word c (by simpa using digit)
    rw [Option.mem_def.mp first,Option.any_some,worded] at free
    cases free
  have split : piece ++ year ++ 45 :: number ++ rest = piece ++ (year ++ (45 :: (number ++ rest))) := by simp
  have second : run isDigit 4 (some 4) (year ++ 45 :: (number ++ rest)) = some (year,45 :: (number ++ rest)) :=
    run_reads years four.ge (fun m same => by cases same; exact four.le) (.inl (by rw [four]))
  have fourth : run isDigit 4 (some 7) (number ++ rest) = some (number,rest) :=
    run_reads numbers least (fun m same => by cases same; exact most) (.inr ends)
  rw [split,cveIdParts,bind_reads (letters_reads _ size opens),bind_reads second,bind_reads (mark_reads ..),bind_reads fourth,boundary,
    if_neg (by simp [free])]

/-- An identifier is read up to the end of a word. -/
theorem cveIdAt_eq (text token rest : Text) :
    cveIdAt text = some (token,rest) ↔ text = token ++ rest ∧ IsCveId token ∧ rest.head?.any word = false := by
  unfold cveIdAt
  constructor
  · intro read
    obtain ⟨⟨u,left⟩,found,same⟩ := Option.map_eq_some_iff.mp read
    obtain ⟨piece,rfl,identifier,free⟩ := cveIdParts_found found
    simp only [List.length_append,Nat.add_sub_cancel,List.take_left,Prod.mk.injEq] at same
    obtain ⟨rfl,rfl⟩ := same
    exact ⟨rfl,identifier,free⟩
  · rintro ⟨rfl,identifier,free⟩
    exact captured_reads (cveIdParts_reads identifier free)

/-! ### What is found -/

theorem isDigit_letter {c : Nat} (digit : isDigit c = true) : sameLetter 99 c = false := by
  by_contra same
  have letter : c = 99 ∨ c = 67 := by
    rcases sameLetter_cases (by simpa using same) with same | ⟨_,_,same⟩ | ⟨same,_⟩ <;> omega
  rcases letter with rfl | rfl <;> simp [isDigit,Interpreter.decimal_ascii,asciiDigit] at digit

/-- The letter that begins an identifier stands nowhere else in it. -/
theorem IsCveId.begins {token : Text} (identifier : IsCveId token) :
    ∃ c more, token = c :: more ∧ sameLetter 99 c = true ∧ ∀ d ∈ more, sameLetter 99 d = false := by
  obtain ⟨piece,year,number,rfl,size,opens,⟨_,years⟩,_,_,numbers⟩ := identifier.spelled
  obtain ⟨a,b,c,d,rfl⟩ : ∃ a b c d, piece = [a,b,c,d] := by
    match piece,size with
    | [a,b,c,d],_ => exact ⟨a,b,c,d,rfl⟩
  change opensWith [99,118,101,45] [a,b,c,d] = true at opens
  simp only [opensWith,Bool.and_eq_true,and_true] at opens
  have others : ∀ letter ∈ [118,101,45], ∀ x, sameLetter letter x = true → sameLetter 99 x = false := by
    intro letter listed x same
    simp only [List.mem_cons,List.not_mem_nil,or_false] at listed
    simp only [sameLetter,Bool.or_eq_true,Bool.and_eq_true,beq_iff_eq,decide_eq_true_eq] at same
    simp only [sameLetter,Bool.or_eq_false_iff,beq_eq_false_iff_ne,ne_eq,Bool.and_eq_false_iff,decide_eq_false_iff_not]
    omega
  refine ⟨a,b :: c :: d :: (year ++ 45 :: number),by simp,opens.1,?_⟩
  intro x member
  simp only [List.mem_cons,List.mem_append] at member
  rcases member with rfl | rfl | rfl | inYear | rfl | inNumber
  · exact others 118 (by simp) _ opens.2.1
  · exact others 101 (by simp) _ opens.2.2.1
  · exact others 45 (by simp) _ opens.2.2.2
  · exact isDigit_letter (years x inYear)
  · decide
  · exact isDigit_letter (numbers x inNumber)

theorem endsInWord_cons (afterWord : Bool) (c : Nat) (rest : Text) : endsInWord afterWord (c :: rest) = endsInWord (word c) rest := by
  cases rest with
  | nil => rfl
  | cons d more =>
    unfold endsInWord
    rw [List.getLast?_cons_cons]
    cases last : (d :: more).getLast? with
    | none => simp at last
    | some x => rfl

theorem standsAfter_cons (afterWord : Bool) (token : Text) (c : Nat) (rest : Text) : StandsAfter afterWord token (c :: rest) ↔
    (afterWord = false ∧ ∃ after, cveIdAt (c :: rest) = some (token,after)) ∨ StandsAfter (word c) token rest := by
  constructor
  · rintro ⟨before,after,whole,identifier,free,ends⟩
    cases before with
    | nil => exact .inl ⟨free,after,(cveIdAt_eq ..).mpr ⟨whole,identifier,ends⟩⟩
    | cons d more =>
      obtain ⟨rfl,rfl⟩ := List.cons.inj whole
      rw [endsInWord_cons] at free
      exact .inr ⟨more,after,rfl,identifier,free,ends⟩
  · rintro (⟨rfl,after,read⟩ | ⟨before,after,rfl,identifier,free,ends⟩)
    · obtain ⟨whole,identifier,ends⟩ := (cveIdAt_eq ..).mp read
      exact ⟨[],after,whole,identifier,rfl,ends⟩
    · exact ⟨c :: before,after,rfl,identifier,by rw [endsInWord_cons]; exact free,ends⟩

/-- The scan finds the identifiers that are words of their own. None begins inside another,
    so that what a match goes over hides none. -/
theorem mem_cveIdsFrom (token text : Text) : ∀ skipped afterWord, (∀ c ∈ text.take skipped, sameLetter 99 c = false) →
    (token ∈ cveIdsFrom skipped afterWord text ↔ StandsAfter afterWord token text) := by
  induction text with
  | nil =>
    intro skipped afterWord _
    have nothing : ¬ StandsAfter afterWord token [] := by
      rintro ⟨before,after,whole,identifier,_⟩
      obtain ⟨c,more,rfl,_⟩ := identifier.begins
      simp at whole
    cases skipped <;> simpa [cveIdsFrom] using nothing
  | cons c rest ih =>
    intro skipped afterWord quiet
    rw [standsAfter_cons]
    cases skipped with
    | succ skipped =>
      have first : ¬ ∃ after, cveIdAt (c :: rest) = some (token,after) := by
        rintro ⟨after,read⟩
        obtain ⟨whole,identifier,_⟩ := (cveIdAt_eq ..).mp read
        obtain ⟨d,more,rfl,same,_⟩ := identifier.begins
        obtain ⟨rfl,_⟩ := List.cons.inj whole
        have other := quiet c (by simp)
        rw [other] at same
        cases same
      rw [cveIdsFrom,ih skipped (word c) fun d member => quiet d (by simp [member])]
      simp [first]
    | zero =>
      have later := ih 0 (word c) (by simp)
      cases afterWord with
      | true => simpa [cveIdsFrom] using later
      | false =>
        cases read : cveIdAt (c :: rest) with
        | none => simpa [cveIdsFrom,read] using later
        | some found =>
          obtain ⟨here,left⟩ := found
          obtain ⟨whole,identifier,_⟩ := (cveIdAt_eq ..).mp read
          obtain ⟨d,more,rfl,_,others⟩ := identifier.begins
          rw [List.cons_append] at whole
          obtain ⟨rfl,rfl⟩ := List.cons.inj whole
          have skips : (more ++ left).length - left.length = more.length := by rw [List.length_append,Nat.add_sub_cancel]
          have beyond := ih more.length (word c) (by rw [List.take_left]; exact others)
          simp only [cveIdsFrom,Bool.false_eq_true,if_false,read,skips,List.mem_cons,beyond,true_and,Option.some.injEq,Prod.mk.injEq,
            exists_eq_right',@eq_comm _ token]

/-- An identifier is read from a text exactly when it is a word of its own. -/
theorem mem_findCveIds (cveId text : Text) : cveId ∈ findCveIds text ↔ ∃ token, upper token = cveId ∧ StandsAfter false token text := by
  unfold findCveIds
  rw [mem_unique,List.mem_map]
  constructor
  · rintro ⟨token,found,same⟩
    exact ⟨token,same,(mem_cveIdsFrom token text 0 false (by simp)).mp found⟩
  · rintro ⟨token,same,stands⟩
    exact ⟨token,(mem_cveIdsFrom token text 0 false (by simp)).mpr stands,same⟩

/-! ### The mapping -/

/-- The order in which the interpreter visits the members of a set. -/
structure SetOrder where
  visit : List Text → List Text
  perm : ∀ members, (visit members).Perm members

/-- The parts of the threat assessment CVE research actually reads. -/
structure ThreatContext where
  techniqueIds : List Text
  signalRuleIds : List Text
  eventIds : List Text
  terms : List Text

/-- Read a list of mappings out of serialized state, tolerating anything else. -/
def asDicts : Value → List Mapping
  | .list items => items.filterMap fun
    | .dict entries => some entries
    | _ => none
  | _ => []

/-- `[str(item.get(key)) for item in items if item.get(key)]`. -/
def fieldTexts (key : Text) (items : List Mapping) : List Text :=
  items.filterMap fun item => if (get item key).truthy then some (get item key).toText else none

/-- What an assessment says, which may be none. -/
def assessed (payload : Option Mapping) (key : Text) : List Mapping := asDicts (get (payload.getD []) key)

def indicatorValues (payload : Option Mapping) : List Text := fieldTexts (lit "value") (assessed payload (lit "iocs"))

def signalDetails (payload : Option Mapping) : List Text :=
  (assessed payload (lit "signals")).map fun signal => ((lookup signal (lit "detail")).getD (.str [])).toText

/-- The strings among what a loop over the event ids of each signal visits. -/
def signalEventIds (payload : Option Mapping) : Except PyError (List Text) := do
  let visited ← mapRaising (fun signal => ((lookup signal (lit "event_ids")).getD (.list [])).iterate) (assessed payload (lit "signals"))
  return visited.flatten.filterMap fun
    | .str text => some text
    | _ => none

/-- Read the assessment defensively: it arrives as serialized state. -/
def fromPayload (order : SetOrder) (payload : Option Mapping) : Except PyError ThreatContext := do
  let eventIds ← signalEventIds payload
  let terms := ((indicatorValues payload).map lower ++ (signalDetails payload).map lower).dedup
  return {
    techniqueIds := fieldTexts (lit "technique_id") (assessed payload (lit "attack_techniques"))
    signalRuleIds := fieldTexts (lit "rule_id") (assessed payload (lit "signals"))
    eventIds := eventIds
    terms := order.visit (terms.filter (· ≠ [])) }

/-- Whether the identifier occurs in the terms, run together with blanks. -/
def named (record : CveRecord) (context : ThreatContext) : Bool := lower record.cveId <:+: joined (lit " ") context.terms

def productSeen (record : CveRecord) (context : ThreatContext) : Bool :=
  record.affected.any fun affected => context.terms.any fun term => 4 ≤ term.length && productsMatch affected.product term

/-- Link a CVE to observed activity only where something actually connects. -/
def mapToObserved (record : CveRecord) (context : ThreatContext) : ExploitMapping :=
  if !(named record context || productSeen record context) then {}
  else {
    techniqueIds := context.techniqueIds
    signalRuleIds := context.signalRuleIds
    eventIds := context.eventIds
    rationale := if named record context then record.cveId ++ lit " is named in the observed evidence"
      else lit "an affected product appears in the observed indicators" }

/-! ### What ties a CVE to the evidence -/

/-- The indicator values and the signal details. -/
def observedTexts (payload : Option Mapping) : List Text := indicatorValues payload ++ signalDetails payload

/-- Some indicator value or signal detail has the identifier as a whole token. -/
def Named (record : CveRecord) (payload : Option Mapping) : Prop :=
  ∃ text ∈ observedTexts payload, upper record.cveId ∈ findCveIds text

/-- An affected product matches an observed term. -/
def ProductSeen (record : CveRecord) (payload : Option Mapping) : Prop :=
  ∃ affected ∈ record.affected, ∃ text ∈ observedTexts payload, productsMatch affected.product (lower text) = true

/-- What a mapping owes the evidence: it says that the CVE is named only where it is, it is
    empty where nothing connects, and what names a CVE ties nothing to one whose
    identifier its own begins with. -/
structure Grounded (record : CveRecord) (payload : Option Mapping) (mapping : ExploitMapping) : Prop where
  named : mapping.rationale = record.cveId ++ lit " is named in the observed evidence" → Named record payload
  connected : mapping.isEmpty = false → Named record payload ∨ ProductSeen record payload
  apart : ∀ text ∈ observedTexts payload, ∀ other ∈ findCveIds text, upper record.cveId <+: other →
    ¬ Named record payload → ¬ ProductSeen record payload → mapping.isEmpty = true

/-- The evidence has the characters of the identifier, but wherever it has an identifier in
    them a word runs on before it or after it. -/
structure RunsOn (record : CveRecord) (payload : Option Mapping) (terms : List Text) : Prop where
  mentioned : lower record.cveId <:+: joined (lit " ") terms
  within : ∀ text ∈ observedTexts payload, ∀ before token after, text = before ++ (token ++ after) → IsCveId token →
    upper token = upper record.cveId → endsInWord false before = true ∨ after.head?.any word = true

theorem named_iff (record : CveRecord) (payload : Option Mapping) : Named record payload ↔
    ∃ text ∈ observedTexts payload, ∃ token, upper token = upper record.cveId ∧ StandsAfter false token text := by
  simp only [Named,mem_findCveIds]

theorem fromPayload_terms {order : SetOrder} {payload : Option Mapping} {context : ThreatContext}
    (read : fromPayload order payload = .ok context) (term : Text) :
    term ∈ context.terms ↔ term ≠ [] ∧ ∃ text ∈ observedTexts payload, lower text = term := by
  unfold fromPayload at read
  cases events : signalEventIds payload with
  | error e => rw [events] at read; cases read
  | ok ids =>
    rw [events] at read
    cases read
    rw [(order.perm _).mem_iff,List.mem_filter,List.mem_dedup,← List.map_append,List.mem_map,decide_eq_true_eq,and_comm]
    rfl

theorem productSeen_observed {order : SetOrder} {payload : Option Mapping} {context : ThreatContext}
    (read : fromPayload order payload = .ok context) {record : CveRecord} (seen : productSeen record context = true) :
    ProductSeen record payload := by
  obtain ⟨affected,listed,some⟩ := List.any_eq_true.mp seen
  obtain ⟨term,member,matched⟩ := List.any_eq_true.mp some
  obtain ⟨_,text,observed,rfl⟩ := (fromPayload_terms read term).mp member
  exact ⟨affected,listed,text,observed,((Bool.and_eq_true ..).mp matched).2⟩

theorem mapToObserved_rationale (record : CveRecord) (context : ThreatContext) :
    (mapToObserved record context).rationale = record.cveId ++ lit " is named in the observed evidence" ↔ named record context = true := by
  unfold mapToObserved
  cases named record context with
  | true => simp
  | false =>
    cases productSeen record context with
    | false => simp [lit]
    | true =>
      have different : ∀ cveId : Text, lit "an affected product appears in the observed indicators" ≠ cveId ++ lit " is named in the observed evidence" := by
        intro cveId same
        have ends := congrArg List.getLast? same
        have final : (lit " is named in the observed evidence").getLast? = some 101 := by decide
        rw [List.getLast?_append,final,Option.some_or] at ends
        revert ends
        decide
      simp [different]

theorem mapToObserved_connected {record : CveRecord} {context : ThreatContext} (some : (mapToObserved record context).isEmpty = false) :
    named record context = true ∨ productSeen record context = true := by
  unfold mapToObserved at some
  split at some
  · cases some
  · rename_i connected
    simpa only [Bool.not_eq_true',Bool.not_eq_false,Bool.or_eq_true] using connected

/-- The mapping is grounded exactly where no identifier of the evidence runs on from that of
    the record. -/
theorem grounded_iff {order : SetOrder} {payload : Option Mapping} {context : ThreatContext}
    (read : fromPayload order payload = .ok context) (record : CveRecord) :
    Grounded record payload (mapToObserved record context) ↔ ¬ RunsOn record payload context.terms := by
  constructor
  · intro grounded runsOn
    have said := grounded.named ((mapToObserved_rationale record context).mpr (decide_eq_true runsOn.mentioned))
    obtain ⟨text,observed,token,same,before,after,whole,identifier,free,ends⟩ := (named_iff record payload).mp said
    rcases runsOn.within text observed before token after whole identifier same with worded | worded
    · rw [worded] at free
      cases free
    · rw [worded] at ends
      cases ends
  · intro apart
    have standing : named record context = true → Named record payload := by
      intro mentioned
      by_contra unnamed
      refine apart ⟨of_decide_eq_true mentioned,fun text observed before token after whole identifier same => ?_⟩
      by_contra outside
      obtain ⟨free,ends⟩ := not_or.mp outside
      exact unnamed ((named_iff record payload).mpr ⟨text,observed,token,same,before,after,whole,identifier,
        by simpa using free,by simpa using ends⟩)
    have connected : (mapToObserved record context).isEmpty = false → Named record payload ∨ ProductSeen record payload :=
      fun some => (mapToObserved_connected some).imp standing (productSeen_observed read)
    refine ⟨fun said => standing ((mapToObserved_rationale record context).mp said),connected,?_⟩
    intro _ _ _ _ _ unnamed unseen
    by_contra some
    exact (connected (by simpa using some)).elim unnamed unseen

/-! ### Where the identifier is mentioned -/

end

/-! ### One identifier inside another -/

/-- The order of the list. -/
def inListOrder : SetOrder := ⟨id,fun _ => .rfl⟩

/-- An assessment with one signal. -/
def signalling (detail : Text) : Mapping :=
  [(lit "signals",.list [.dict [(lit "rule_id",.str (lit "exploit-attempt")),(lit "detail",.str detail)]])]

def recordOf (cveId : Text) : CveRecord := ⟨cveId,none,[],[],[]⟩

/-- What names one CVE is said to name the one whose identifier is cut out of its own. -/
theorem shorter_named : let _ := asciiReader
    ¬ ∀ (order : SetOrder) (payload : Option Mapping) (context : ThreatContext) (record : CveRecord),
      fromPayload order payload = .ok context → Grounded record payload (mapToObserved record context) := by
  intro _ grounded
  have context : ∃ context, fromPayload inListOrder (some (signalling (lit "probe for CVE-2021-44228"))) = .ok context ∧
      context.terms = [lit "probe for cve-2021-44228"] := ⟨_,rfl,by decide⟩
  obtain ⟨context,read,terms⟩ := context
  have said := (grounded _ _ _ (recordOf (lit "CVE-2021-4422")) read).named
    ((mapToObserved_rationale _ _).mpr (by simp only [named,terms]; decide))
  obtain ⟨text,observed,found⟩ := said
  revert text
  decide

/-- Where the identifier is a whole word, the mapping is grounded. -/
theorem whole_grounded : let _ := asciiReader
    ∃ context, fromPayload inListOrder (some (signalling (lit "probe for CVE-2021-44228"))) = .ok context ∧
      Grounded (recordOf (lit "CVE-2021-44228")) (some (signalling (lit "probe for CVE-2021-44228")))
        (mapToObserved (recordOf (lit "CVE-2021-44228")) context) := by
  intro _
  refine ⟨_,rfl,(grounded_iff rfl _).mpr fun runsOn => ?_⟩
  have outcome := runsOn.within (lit "probe for CVE-2021-44228") (by decide) (lit "probe for ") (lit "CVE-2021-44228") [] rfl
    ⟨lit "CVE-",lit "2021",lit "44228",rfl,rfl,by decide,by decide,by decide⟩ rfl
  revert outcome
  decide

end SocAnalyst.ExploitMappings
