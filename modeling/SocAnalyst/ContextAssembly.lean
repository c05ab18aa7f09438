import SocAnalyst.ContextBundles
import SocAnalyst.RecallIndex
import SocAnalyst.WorkingMemories

/-!
# Assembling a context

`MemoryService.materialize_context` of `memory/service.py`: every tier is read, a tier that
fails is named and the turn goes on with what is there, trimmed to its budget.
-/
namespace SocAnalyst.ContextAssembly
open SocAnalyst.Builtins SocAnalyst.Values SocAnalyst.Evictions SocAnalyst.Summaries SocAnalyst.ContextBundles SocAnalyst.RecallIndex
open SocAnalyst.WorkingMemories (WorkingMemory)

/-- The six memory tiers. -/
inductive MemoryTier where
  | WORKING
  | SESSION
  | CONVERSATION
  | LONG_TERM
  | KNOWLEDGE
  | INVESTIGATION_HISTORY
  deriving DecidableEq, Repr

/-- What the tiers answer in one call; a reading of the recall index is numbered among them. -/
structure Tiers where
  readAll : Except PyError (List MemoryEntry)
  recentTurns : Except PyError (List ConversationTurn)
  isAvailable : Except PyError Bool
  search : Text → Except PyError (List KnowledgeChunk)
  findRelated : Nat → MemoryIndexKind → Text → Except PyError (List RelatedInvestigation)

structure ContextRequest where
  query : Option Text := none
  working : Option WorkingMemory := none
  related : List (MemoryIndexKind × List Text) := []
  tokenBudget : Option Int := none

structure AssembledBundle extends ContextBundle where
  relatedInvestigations : List RelatedInvestigation
  degradedTiers : List MemoryTier

/-- Read one tier, recording degradation instead of propagating a failure. -/
def readTier {α : Type} (tier : MemoryTier) (degraded : List MemoryTier) : Except PyError (List α) → List α × List MemoryTier
  | .ok items => (items,degraded)
  | .error _ => ([],if tier ∈ degraded then degraded else degraded ++ [tier])

/-- The values of a request, each with its kind and its place among the readings. -/
def ContextRequest.asked (request : ContextRequest) : List ((MemoryIndexKind × Text) × Nat) :=
  (request.related.flatMap fun item => item.2.map fun value => (item.1,value)).zipIdx

/-- `token_budget or self._working_token_budget`. -/
def ContextRequest.budget (request : ContextRequest) (workingTokenBudget : Int) : Int :=
  match request.tokenBudget with
  | some budget => if budget = 0 then workingTokenBudget else budget
  | none => workingTokenBudget

/-- A query that is not empty. -/
def ContextRequest.Asks (request : ContextRequest) (query : Text) : Prop := request.query = some query ∧ query ≠ []

section
variable (tiers : Tiers) (request : ContextRequest)

/-- The knowledge of a query. -/
def readKnowledge (degraded : List MemoryTier) : Except PyError (List KnowledgeChunk × List MemoryTier) :=
  match request.query with
  | none | some [] => .ok ([],degraded)
  | some query => tiers.isAvailable.map fun available =>
    if available then readTier .KNOWLEDGE degraded (tiers.search query) else ([],degraded ++ [.KNOWLEDGE])

/-- One reading of the recall index. -/
def extendRelated (state : List RelatedInvestigation × List MemoryTier) (outcome : Except PyError (List RelatedInvestigation)) :
    List RelatedInvestigation × List MemoryTier :=
  let read := readTier .INVESTIGATION_HISTORY state.2 outcome
  (state.1 ++ read.1,read.2)

/-- The loop over the values of the recall index. -/
def readRelated (degraded : List MemoryTier) : List RelatedInvestigation × List MemoryTier :=
  request.asked.foldl (fun state item => extendRelated state (tiers.findRelated item.2 item.1.1 item.1.2)) ([],degraded)

/-- Assemble the context for one agent turn. -/
def materializeContext [Printer] (summarizer : Summarizer) (workingTokenBudget : Int) : Except PyError AssembledBundle :=
  let session := readTier .SESSION [] tiers.readAll
  let conversation := readTier .CONVERSATION session.2 tiers.recentTurns
  (readKnowledge tiers request conversation.2).map fun knowledge =>
    let related := readRelated tiers request knowledge.2
    let bundle : ContextBundle := {
      working := (request.working.map fun memory => memory.entries.values.map fun entry => { toMemoryEntry := entry }).getD []
      session := session.1
      conversation := conversation.1
      knowledge := knowledge.1
      summaries := (request.working.map (·.summaries)).getD [] }
    { toContextBundle := fitToBudget summarizer bundle (request.budget workingTokenBudget)
      relatedInvestigations := related.1
      degradedTiers := related.2 }

/-! ### What failed -/

def Fails {α : Type} (outcome : Except PyError α) : Prop := ∃ e, outcome = .error e

/-- What was read, or nothing. -/
def orNothing {α : Type} : Except PyError (List α) → List α
  | .ok items => items
  | .error _ => []

/-- A tier could not be read. -/
def Unreadable : MemoryTier → Prop
  | .SESSION => Fails tiers.readAll
  | .CONVERSATION => Fails tiers.recentTurns
  | .KNOWLEDGE => ∃ query, request.Asks query ∧
      (tiers.isAvailable = .ok false ∨ tiers.isAvailable = .ok true ∧ Fails (tiers.search query))
  | .INVESTIGATION_HISTORY => ∃ item ∈ request.asked, Fails (tiers.findRelated item.2 item.1.1 item.1.2)
  | .WORKING | .LONG_TERM => False

variable {tiers request} {degraded : List MemoryTier}

theorem readTier_items {α : Type} (tier : MemoryTier) (outcome : Except PyError (List α)) :
    (readTier tier degraded outcome).1 = orNothing outcome := by
  cases outcome <;> rfl

theorem mem_readTier {α : Type} {tier other : MemoryTier} {outcome : Except PyError (List α)} :
    other ∈ (readTier tier degraded outcome).2 ↔ other ∈ degraded ∨ other = tier ∧ Fails outcome := by
  cases outcome with
  | ok items => simp [readTier,Fails]
  | error e =>
    rw [readTier]
    split_ifs with there
    · exact ⟨.inl,fun known => known.elim id fun own => own.1 ▸ there⟩
    · simp [Fails]

theorem nodup_snoc {tier : MemoryTier} (once : degraded.Nodup) (new : tier ∉ degraded) : (degraded ++ [tier]).Nodup :=
  List.nodup_append.mpr ⟨once,List.nodup_singleton _,fun _ member _ single equal => new (List.mem_singleton.mp single ▸ equal ▸ member)⟩

theorem readTier_nodup {α : Type} {tier : MemoryTier} {outcome : Except PyError (List α)} (once : degraded.Nodup) :
    (readTier tier degraded outcome).2.Nodup := by
  cases outcome with
  | ok items => exact once
  | error e =>
    rw [readTier]
    split_ifs with there
    · exact once
    · exact nodup_snoc once there

theorem mem_extendRelated {state : List RelatedInvestigation × List MemoryTier} {outcome : Except PyError (List RelatedInvestigation)}
    {other : MemoryTier} : other ∈ (extendRelated state outcome).2 ↔ other ∈ state.2 ∨ other = .INVESTIGATION_HISTORY ∧ Fails outcome :=
  mem_readTier

/-- The loop collects what the readings give and names the index when one of them fails. -/
theorem readRelated_eq (once : degraded.Nodup) :
    (readRelated tiers request degraded).1 = (request.asked.flatMap fun item => orNothing (tiers.findRelated item.2 item.1.1 item.1.2)) ∧
    (readRelated tiers request degraded).2.Nodup ∧
    ∀ other, other ∈ (readRelated tiers request degraded).2 ↔ other ∈ degraded ∨ other = .INVESTIGATION_HISTORY ∧
      ∃ item ∈ request.asked, Fails (tiers.findRelated item.2 item.1.1 item.1.2) := by
  unfold readRelated
  induction request.asked using List.reverseRecOn with
  | nil => simpa using once
  | append_singleton items item ih =>
    obtain ⟨found,nodup,named⟩ := ih
    rw [List.foldl_append]
    refine ⟨?_,readTier_nodup nodup,fun other => ?_⟩
    · rw [List.flatMap_append,← found,List.foldl_cons,List.foldl_nil,extendRelated,readTier_items]
      simp
    · rw [List.foldl_cons,List.foldl_nil,mem_extendRelated,named]
      simp only [List.mem_append,List.mem_singleton]
      constructor
      · rintro ((before | ⟨own,item',listed,failed⟩) | ⟨own,failed⟩)
        · exact .inl before
        · exact .inr ⟨own,item',.inl listed,failed⟩
        · exact .inr ⟨own,item,.inr rfl,failed⟩
      · rintro (before | ⟨own,item',listed | rfl,failed⟩)
        · exact .inl (.inl before)
        · exact .inl (.inr ⟨own,item',listed,failed⟩)
        · exact .inr ⟨own,failed⟩

theorem readKnowledge_asked {query : Text} (asks : request.Asks query) : readKnowledge tiers request degraded =
    tiers.isAvailable.map fun available =>
      if available then readTier .KNOWLEDGE degraded (tiers.search query) else ([],degraded ++ [.KNOWLEDGE]) := by
  obtain ⟨named,some⟩ := asks
  rw [readKnowledge,named]
  cases query with
  | nil => exact absurd rfl some
  | cons => rfl

theorem readKnowledge_silent (silent : ∀ query, ¬ request.Asks query) : readKnowledge tiers request degraded = .ok ([],degraded) := by
  rw [readKnowledge]
  cases named : request.query with
  | none => rfl
  | some query =>
    cases query with
    | nil => rfl
    | cons c rest => exact absurd ⟨named,List.cons_ne_nil _ _⟩ (silent (c :: rest))

/-- What a query reads of the knowledge. -/
def KnowledgeRead (tiers : Tiers) (request : ContextRequest) (knowledge : List KnowledgeChunk) : Prop :=
  (∀ query, request.Asks query → tiers.isAvailable = .ok true → knowledge = orNothing (tiers.search query)) ∧
    ((∀ query, ¬ request.Asks query) ∨ tiers.isAvailable = .ok false → knowledge = [])

theorem readKnowledge_eq {knowledge : List KnowledgeChunk} {named : List MemoryTier} (once : degraded.Nodup)
    (new : .KNOWLEDGE ∉ degraded) (read : readKnowledge tiers request degraded = .ok (knowledge,named)) :
    KnowledgeRead tiers request knowledge ∧ named.Nodup ∧
      ∀ other, other ∈ named ↔ other ∈ degraded ∨ other = .KNOWLEDGE ∧ Unreadable tiers request .KNOWLEDGE := by
  by_cases asked : ∃ query, request.Asks query
  · obtain ⟨query,asks⟩ := asked
    have only : ∀ other, request.Asks other → other = query := fun other asks' =>
      Option.some.inj (asks'.1.symm.trans asks.1)
    rw [readKnowledge_asked asks] at read
    cases answers : tiers.isAvailable with
    | error e => rw [answers] at read; cases read
    | ok available =>
      rw [answers] at read
      cases available with
      | true =>
        have took : readTier .KNOWLEDGE degraded (tiers.search query) = (knowledge,named) := Except.ok.inj read
        have items : (readTier .KNOWLEDGE degraded (tiers.search query)).1 = knowledge := congrArg Prod.fst took
        have names : (readTier .KNOWLEDGE degraded (tiers.search query)).2 = named := congrArg Prod.snd took
        rw [← items,← names]
        refine ⟨⟨fun other asks' _ => ?_,fun none => ?_⟩,readTier_nodup once,fun other => ?_⟩
        · rw [only other asks',readTier_items]
        · rcases none with silent | absent
          · exact absurd asks (silent query)
          · rw [answers] at absent
            cases absent
        · rw [mem_readTier]
          refine or_congr_right (and_congr_right fun _ => ?_)
          constructor
          · exact fun failed => ⟨query,asks,.inr ⟨answers,failed⟩⟩
          · rintro ⟨other,asks',absent | ⟨_,failed⟩⟩
            · rw [answers] at absent
              cases absent
            · exact only other asks' ▸ failed
      | false =>
        have took : (([],degraded ++ [.KNOWLEDGE]) : List KnowledgeChunk × List MemoryTier) = (knowledge,named) := Except.ok.inj read
        obtain ⟨rfl,rfl⟩ := Prod.mk.inj took.symm
        refine ⟨⟨fun other asks' present => ?_,fun _ => rfl⟩,nodup_snoc once new,fun other => ?_⟩
        · rw [answers] at present
          cases present
        · rw [List.mem_append,List.mem_singleton]
          exact or_congr_right ⟨fun own => ⟨own,query,asks,.inl answers⟩,And.left⟩
  · have silent : ∀ query, ¬ request.Asks query := fun query asks => asked ⟨query,asks⟩
    rw [readKnowledge_silent silent] at read
    obtain ⟨rfl,rfl⟩ := Prod.mk.inj (Except.ok.inj read)
    refine ⟨⟨fun query asks => absurd asks (silent query),fun _ => rfl⟩,once,fun other => ?_⟩
    constructor
    · exact .inl
    · rintro (known | ⟨_,query,asks,_⟩)
      · exact known
      · exact absurd asks (silent query)

/-- The part of a turn's session entries that is given: the latest, as far as they fit, with a note on
    the others. -/
structure Trimmed [Printer] (entries : List MemoryEntry) (summaries : List Text) (budget : Int) (bundle : ContextBundle)
    (dropped : List MemoryEntry) (noted : List Text) : Prop where
  split : dropped ++ bundle.session = entries
  summaries : bundle.summaries = summaries ++ noted
  named : ∀ old ∈ dropped, ∃ summary ∈ noted, Names summary old.key
  plain : dropped = [] → noted = []
  /-- But for the note, the bundle is within the budget. -/
  fits : bundle.session = [] ∨ (totalTokens bundle : Int) ≤ budget + textTokens noted
  /-- The entries dropped had no room. -/
  needed : ∀ front back, dropped = front ++ back → back ≠ [] → budget + textTokens noted < (totalTokens bundle + tierTokens back : Int)

/-- What a turn is given: all that the tiers answer, the session entries as far as they fit, and the
    name of each tier that does not answer. -/
structure Assembled [Printer] (tiers : Tiers) (request : ContextRequest) (workingTokenBudget : Int) (bundle : AssembledBundle) :
    Prop where
  working : bundle.working = (request.working.map fun memory => memory.entries.values.map fun entry => { toMemoryEntry := entry }).getD []
  conversation : bundle.conversation = orNothing tiers.recentTurns
  knowledge : KnowledgeRead tiers request bundle.knowledge
  related : bundle.relatedInvestigations = request.asked.flatMap fun item => orNothing (tiers.findRelated item.2 item.1.1 item.1.2)
  session : ∃ dropped noted, Trimmed (orNothing tiers.readAll) ((request.working.map (·.summaries)).getD [])
    (request.budget workingTokenBudget) bundle.toContextBundle dropped noted
  counted : bundle.estimatedTokens = totalTokens bundle.toContextBundle
  once : bundle.degradedTiers.Nodup
  degraded : ∀ tier, tier ∈ bundle.degradedTiers ↔ Unreadable tiers request tier

theorem fitToBudget_trimmed [Printer] (summarizer : Summarizer) {bundle : ContextBundle} {entries : List MemoryEntry}
    {summaries : List Text} (budget : Int) (own : bundle.session = entries) (theirs : bundle.summaries = summaries) :
    ∃ dropped noted, Trimmed entries summaries budget (fitToBudget summarizer bundle budget) dropped noted := by
  subst own theirs
  obtain ⟨gone,kept,cut⟩ : ∃ gone kept, Cut (TooMuch bundle budget) bundle.session gone kept := ⟨_,_,popWhile_cut _ _⟩
  obtain ⟨session,summaries,total⟩ := fitToBudget_cut summarizer cut
  refine ⟨gone,if gone = [] then [] else [noteOf summarizer gone],session ▸ cut.split,summaries,?_,?_,?_,?_⟩
  · intro old member
    rw [if_neg (List.ne_nil_of_mem member)]
    exact ⟨_,List.mem_singleton_self _,(summarizer.lossless _ old.toMemoryEntry (List.mem_map_of_mem member)).2⟩
  · exact fun none => if_pos none
  · rw [session,total]
    rcases cut.enough with none | enough
    · exact .inl none
    · by_cases none : kept = []
      · exact .inl none
      · have within := not_and.mp enough none
        push_cast
        omega
  · intro front back gone_eq some
    have much := (cut.needed front back gone_eq some).2
    rw [total]
    simp only [tierTokens,entryTokens,List.map_append,List.sum_append] at much ⊢
    push_cast at much ⊢
    omega

theorem conversation_after_session : ∀ other, other ∈ (readTier .CONVERSATION (readTier .SESSION [] tiers.readAll).2 tiers.recentTurns).2 ↔
    other = .SESSION ∧ Fails tiers.readAll ∨ other = .CONVERSATION ∧ Fails tiers.recentTurns := by
  intro other
  simp only [mem_readTier,List.not_mem_nil,false_or]

/-- A turn is given a context unless the knowledge it asks does not even say whether it is available. -/
theorem context_assembled [Printer] (summarizer : Summarizer) (workingTokenBudget : Int) (tiers : Tiers) (request : ContextRequest) :
    match materializeContext tiers request summarizer workingTokenBudget with
    | .ok bundle => Assembled tiers request workingTokenBudget bundle
    | .error e => (∃ query, request.Asks query) ∧ tiers.isAvailable = .error e := by
  have once : (readTier .CONVERSATION (readTier .SESSION [] tiers.readAll).2 tiers.recentTurns).2.Nodup :=
    readTier_nodup (readTier_nodup List.nodup_nil)
  have before := @conversation_after_session tiers
  have new : .KNOWLEDGE ∉ (readTier .CONVERSATION (readTier .SESSION [] tiers.readAll).2 tiers.recentTurns).2 := by
    rw [before]
    rintro (own | own) <;> cases own.1
  unfold materializeContext
  cases read : readKnowledge tiers request (readTier .CONVERSATION (readTier .SESSION [] tiers.readAll).2 tiers.recentTurns).2 with
  | error e =>
    simp only [read,Except.map]
    by_cases asked : ∃ query, request.Asks query
    · obtain ⟨query,asks⟩ := asked
      rw [readKnowledge_asked asks] at read
      refine ⟨⟨query,asks⟩,?_⟩
      cases answers : tiers.isAvailable with
      | ok available => rw [answers] at read; cases read
      | error e' => rw [answers] at read; cases read; rfl
    · rw [readKnowledge_silent fun query asks => asked ⟨query,asks⟩] at read
      cases read
  | ok pair =>
    obtain ⟨knowledge,named⟩ := pair
    obtain ⟨known,nodup,names⟩ := readKnowledge_eq once new read
    obtain ⟨related,nodup',names'⟩ := @readRelated_eq tiers request _ nodup
    simp only [read,Except.map]
    refine ⟨rfl,readTier_items _ _,known,related,?_,fitToBudget_estimate _ _ _,nodup',fun tier => ?_⟩
    · exact fitToBudget_trimmed summarizer _ (readTier_items _ _) rfl
    · show tier ∈ (readRelated tiers request named).2 ↔ _
      rw [names',names,before]
      cases tier <;> simp [Unreadable]

end
end SocAnalyst.ContextAssembly
