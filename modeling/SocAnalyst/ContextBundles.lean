import SocAnalyst.Evictions
import SocAnalyst.Summaries

/-!
# Context bundles

`MemoryService._fit_to_budget` of `memory/service.py`: what an agent turn is given is trimmed
to its token budget from the front of the session entries.
-/
namespace SocAnalyst.ContextBundles
open SocAnalyst.Builtins SocAnalyst.Times SocAnalyst.Values SocAnalyst.Evictions SocAnalyst.Summaries

/-- A memory value with the time it was created, when its store sets one. -/
structure MemoryEntry extends MemoryTiers.MemoryEntry where
  createdAt : Option DateTime := none

structure ConversationTurn where
  authorType : Text
  content : Text

/-- A chunk of reference knowledge. -/
structure KnowledgeChunk where
  chunkId : Text
  content : Text
  source : Text

/-- What an agent turn is given. -/
structure ContextBundle where
  working : List MemoryEntry := []
  session : List MemoryEntry := []
  conversation : List ConversationTurn := []
  knowledge : List KnowledgeChunk := []
  summaries : List Text := []
  estimatedTokens : Nat := 0

/-- The entry was created before the other one. -/
def CreatedBefore (entry other : MemoryEntry) : Prop :=
  ∃ s t, entry.createdAt = some s ∧ other.createdAt = some t ∧ s.lt t = .ok true

section
variable [Printer] (summarizer : Summarizer)

/-- The estimated cost of entries of a tier. -/
def tierTokens (entries : List MemoryEntry) : Nat := entryTokens (entries.map MemoryEntry.toMemoryEntry)

/-- What is not trimmed. -/
def fixedTokens (bundle : ContextBundle) : Nat :=
  textTokens (bundle.conversation.map (·.content)) + textTokens (bundle.knowledge.map (·.content)) + tierTokens bundle.working +
    textTokens bundle.summaries

/-- All tiers and all summaries. -/
def totalTokens (bundle : ContextBundle) : Nat := fixedTokens bundle + tierTokens bundle.session

/-- Session entries that are too much beside the rest of a bundle. -/
def TooMuch (bundle : ContextBundle) (budget : Int) (retained : List MemoryEntry) : Prop :=
  retained ≠ [] ∧ budget < fixedTokens bundle + tierTokens retained

instance (bundle : ContextBundle) (budget : Int) : DecidablePred (TooMuch bundle budget) := fun retained =>
  match retained with
  | [] => isFalse fun much => much.1 rfl
  | _ :: _ => decidable_of_iff _ ⟨fun much => ⟨List.cons_ne_nil _ _,much⟩,And.right⟩

/-- `summarize` of trimmed entries. -/
def noteOf (trimmed : List MemoryEntry) : Text := summarizer.summarize (trimmed.map MemoryEntry.toMemoryEntry)

/-- Trim session entries from the front until the bundle fits its token budget. -/
def fitToBudget (bundle : ContextBundle) (budget : Int) : ContextBundle :=
  let loop := popWhile (TooMuch bundle budget) bundle.session
  let trimmed := loop.1
  let retained := loop.2
  let summaries := bundle.summaries ++ (if trimmed = [] ∨ noteOf summarizer trimmed = [] then [] else [noteOf summarizer trimmed])
  { bundle with
    session := retained
    summaries
    estimatedTokens := fixedTokens bundle + tierTokens retained + textTokens (summaries.drop bundle.summaries.length) }

/-- The estimate of a trimmed bundle counts everything in it. -/
theorem fitToBudget_estimate (bundle : ContextBundle) (budget : Int) :
    (fitToBudget summarizer bundle budget).estimatedTokens = totalTokens (fitToBudget summarizer bundle budget) := by
  simp only [fitToBudget,totalTokens,fixedTokens,textTokens_append,List.drop_left]
  omega

/-- A trimmed bundle, by the split of the session entries. -/
theorem fitToBudget_cut {bundle : ContextBundle} {budget : Int} {gone kept : List MemoryEntry}
    (cut : Cut (TooMuch bundle budget) bundle.session gone kept) :
    (fitToBudget summarizer bundle budget).session = kept ∧
      (fitToBudget summarizer bundle budget).summaries = bundle.summaries ++ (if gone = [] then [] else [noteOf summarizer gone]) ∧
      totalTokens (fitToBudget summarizer bundle budget) =
        fixedTokens bundle + tierTokens kept + textTokens (if gone = [] then [] else [noteOf summarizer gone]) := by
  have loop := (popWhile_eq_iff _ _ _ _).mpr cut
  have noted : (if gone = [] ∨ noteOf summarizer gone = [] then ([] : List Text) else [noteOf summarizer gone]) =
      if gone = [] then [] else [noteOf summarizer gone] := by
    by_cases none : gone = []
    · simp [none]
    · obtain ⟨entry,more,rfl⟩ := List.exists_cons_of_ne_nil none
      have some : noteOf summarizer (entry :: more) ≠ [] := (summarizer.lossless _ entry.toMemoryEntry (by simp)).1
      simp [some]
  rw [← fitToBudget_estimate]
  simp only [fitToBudget,loop,noted,List.drop_left,and_self]

/-! ### What trimming promises -/

/-- What a trimmed bundle should be. -/
structure Fitted (bundle : ContextBundle) (budget : Int) (fitted : ContextBundle) : Prop where
  affordable : (totalTokens fitted : Int) ≤ budget ∨ fitted.session = []
  ordered : fitted.session.Sublist bundle.session
  /-- Whatever is dropped is no younger than what is retained, and named. -/
  dropped : ∃ dropped, (dropped ++ fitted.session).Perm bundle.session ∧
    (∀ old ∈ dropped, ∀ entry ∈ fitted.session, ¬ CreatedBefore entry old) ∧
    ∀ old ∈ dropped, ∃ summary ∈ fitted.summaries, Names summary old.key

/-- Where the listed order serves: of the entries that have to go, in that order, none is
    younger than one that can stay, and their summary fits, unless none can stay. -/
def Serves (bundle : ContextBundle) (budget : Int) : Prop :=
  ∀ gone kept, Cut (TooMuch bundle budget) bundle.session gone kept →
    (gone = [] ∨ kept = [] ∨ (fixedTokens bundle + tierTokens kept + textTokens [noteOf summarizer gone] : Int) ≤ budget) ∧
      ∀ old ∈ gone, ∀ entry ∈ kept, ¬ CreatedBefore entry old

theorem fitted_iff_serves (bundle : ContextBundle) (budget : Int) :
    Fitted bundle budget (fitToBudget summarizer bundle budget) ↔ Serves summarizer bundle budget := by
  obtain ⟨gone,kept,cut⟩ : ∃ gone kept, Cut (TooMuch bundle budget) bundle.session gone kept := ⟨_,_,popWhile_cut _ _⟩
  obtain ⟨session,summaries,total⟩ := fitToBudget_cut summarizer cut
  constructor
  · intro fitted gone' kept' cut'
    obtain ⟨rfl,rfl⟩ := cut.unique cut'
    refine ⟨?_,?_⟩
    · by_cases none : gone = []
      · exact .inl none
      · have affordable := fitted.affordable
        rw [total,session,if_neg none] at affordable
        exact .inr (affordable.symm.imp_right fun within => by exact_mod_cast within)
    · obtain ⟨dropped,same,aged,_⟩ := fitted.dropped
      rw [session] at same aged
      rw [← cut.split] at same
      have those := (List.perm_append_right_iff kept).mp same
      exact fun old member => aged old (those.mem_iff.mpr member)
  · intro serves
    obtain ⟨room,aged⟩ := serves gone kept cut
    refine ⟨?_,?_,gone,?_,?_,?_⟩
    · rw [total,session]
      by_cases none : gone = []
      · rcases cut.enough with empty | enough
        · exact .inr empty
        · by_cases empty : kept = []
          · exact .inr empty
          · have within := not_and.mp enough empty
            refine .inl ?_
            simp only [none,if_true,textTokens,List.map_nil,List.sum_nil]
            omega
      · rcases room with gone_none | empty | fits
        · exact (none gone_none).elim
        · exact .inr empty
        · refine .inl ?_
          rw [if_neg none]
          exact_mod_cast fits
    · rw [session,← cut.split]
      exact List.sublist_append_right gone kept
    · rw [session,cut.split]
    · rw [session]
      exact aged
    · intro old member
      refine ⟨noteOf summarizer gone,?_,(summarizer.lossless _ old.toMemoryEntry (List.mem_map_of_mem member)).2⟩
      rw [summaries,if_neg (List.ne_nil_of_mem member)]
      simp

end

/-! ### Entries listed by key -/

private theorem first_midnight_in_range : (0 : Int) ≤ 0 ∧ (0 : Int) < maxDays * dayMicros := by decide
private theorem second_midnight_in_range : 0 ≤ dayMicros ∧ dayMicros < maxDays * dayMicros := by decide

def firstDay : DateTime := ⟨0,some 0,first_midnight_in_range⟩
def secondDay : DateTime := ⟨dayMicros,some 0,second_midnight_in_range⟩

/-- The younger entry comes first by its key. -/
def keyedSession : ContextBundle where
  session := [{ key := lit "alerts",value := [],source := lit "node",createdAt := secondDay },
    { key := lit "triage",value := [],source := lit "node",createdAt := firstDay }]

theorem younger_dropped_first :
    ¬ @Fitted asciiPrinter keyedSession 3 (@fitToBudget asciiPrinter referenceSummarizer keyedSession 3) := by
  let printer := asciiPrinter
  intro fitted
  obtain ⟨dropped,same,aged,_⟩ := fitted.dropped
  have first : keyedSession.session.head (by decide) ∈ dropped := by
    have those := (List.perm_append_right_iff (keyedSession.session.drop 1)).mp (same.trans (.refl (keyedSession.session.take 1 ++ _)))
    exact those.mem_iff.mpr (List.mem_singleton.mpr rfl)
  exact aged _ first (keyedSession.session.getLast (by decide)) (List.mem_singleton.mpr rfl) ⟨firstDay,secondDay,rfl,rfl,rfl⟩

end SocAnalyst.ContextBundles
