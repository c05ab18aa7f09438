import SocAnalyst.GraphNodes
import SocAnalyst.MemoryTiers
import SocAnalyst.Ranking

/-!
# Summaries of evicted memory

`memory/summarization.py`: what memory costs, and the note that stands for evicted entries.
-/
namespace SocAnalyst.Summaries
open SocAnalyst.Builtins SocAnalyst.Values SocAnalyst.MemoryTiers
open SocAnalyst.Ranking (estimateTokens)
open SocAnalyst.Graph (number)

/-- Estimate the token cost of a memory entry, including its key and value. -/
def estimateEntryTokens [Printer] (entry : MemoryEntry) : Nat :=
  estimateTokens (entry.key ++ lit ":" ++ (Value.dict entry.value).repr)

/-- What ends a name: anything ASCII but a letter, a digit and an underscore. -/
def isSeparator (c : Nat) : Bool :=
  c < 128 && !((65 ≤ c && c ≤ 90) || (97 ≤ c && c ≤ 122) || (48 ≤ c && c ≤ 57) || c == 95)

/-- A text names a key when the key stands in it by itself, between separators or at an end. -/
def Names (summary key : Text) : Prop :=
  ∃ before after, summary = before ++ key ++ after ∧ (∀ c ∈ before.getLast?, isSeparator c = true) ∧
    ∀ c ∈ after.head?, isSeparator c = true

/-- A summarizer: its note is never empty and drops no key. -/
structure Summarizer where
  summarize : List MemoryEntry → Text
  lossless : ∀ entries, ∀ entry ∈ entries, summarize entries ≠ [] ∧ Names (summarize entries) entry.key

/-- `ReferenceSummarizer.summarize`. -/
def referenceNote (entries : List MemoryEntry) : Text :=
  if entries = [] then [] else
    lit "[summarized " ++ number entries.length ++ lit " entr" ++ lit (if entries.length = 1 then "y" else "ies") ++
      lit "; full values retained in durable session memory] " ++
      joined (lit ", ") (entries.map fun entry => entry.key ++ lit "@" ++ entry.source)

/-- The note that lists every evicted key with its source. -/
def referenceSummarizer : Summarizer where
  summarize := referenceNote
  lossless := by
    intro entries entry member
    have some : entries ≠ [] := List.ne_nil_of_mem member
    rw [referenceNote,if_neg some]
    refine ⟨?_,?_⟩
    · simp [lit]
    · have listed : entry.key ++ lit "@" ++ entry.source ∈ entries.map fun entry => entry.key ++ lit "@" ++ entry.source :=
        List.mem_map_of_mem member
      obtain ⟨before,after,whole,follows,_⟩ := split_joined (lit ", ") listed
      have blank : ∀ text ends : Text, ends.getLast? = Option.some 32 → ∀ c ∈ (text ++ ends).getLast?, isSeparator c = true := by
        intro text ends last c found
        rw [List.getLast?_append,last,Option.some_or] at found
        obtain rfl := Option.some.inj found
        rfl
      refine ⟨lit "[summarized " ++ number entries.length ++ lit " entr" ++ lit (if entries.length = 1 then "y" else "ies") ++
        lit "; full values retained in durable session memory] " ++ before,lit "@" ++ entry.source ++ after,
        by rw [whole]; simp only [List.append_assoc],?_,?_⟩
      · rcases follows with rfl | ⟨earlier,rfl⟩
        · rw [List.append_nil]
          exact blank _ (lit "; full values retained in durable session memory] ") rfl
        · rw [← List.append_assoc]
          exact blank _ (lit ", ") rfl
      · rintro c ⟨⟩
        rfl

/-- The estimated cost of texts. -/
def textTokens (texts : List Text) : Nat := (texts.map estimateTokens).sum

/-- The estimated cost of entries. -/
def entryTokens [Printer] (entries : List MemoryEntry) : Nat := (entries.map estimateEntryTokens).sum

@[simp] theorem textTokens_append (texts more : List Text) : textTokens (texts ++ more) = textTokens texts + textTokens more := by
  simp [textTokens]

end SocAnalyst.Summaries
