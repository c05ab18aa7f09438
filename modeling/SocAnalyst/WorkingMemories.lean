import SocAnalyst.Evictions
import SocAnalyst.Summaries

/-!
# Working memory

`WorkingMemory` of `memory/working.py`: the scratchpad of one turn, which evicts its oldest
entries into a summary whenever it holds too much.
-/
namespace SocAnalyst.WorkingMemories
open SocAnalyst.Builtins SocAnalyst.Dicts SocAnalyst.Values SocAnalyst.MemoryTiers SocAnalyst.Evictions SocAnalyst.Summaries

/-- The bounds of a scratchpad, which leave room for an entry. -/
structure Limits where
  tokenBudget : Int
  maxEntries : Nat
  room : 1 ≤ maxEntries

/-- What the scratchpad counted. -/
structure MemoryStats where
  hits : Nat := 0
  misses : Nat := 0
  evictions : Nat := 0
  recoveries : Nat := 0

/-- The entries under their own keys, oldest first, and the summaries of those evicted. -/
structure WorkingMemory where
  entries : Dict Text MemoryEntry
  summaries : List Text
  stats : MemoryStats
  keyed : ∀ item ∈ entries.entries, item.2.key = item.1

namespace WorkingMemory

def empty : WorkingMemory := ⟨.empty,[],{},fun _ member => nomatch member⟩

/-- `self._entries[entry.key] = entry`. -/
def put (memory : WorkingMemory) (entry : MemoryEntry) : WorkingMemory where
  entries := memory.entries.set entry.key entry
  summaries := memory.summaries
  stats := memory.stats
  keyed := by
    rintro ⟨key,value⟩ member
    rw [← Dict.get?_eq_some,Dict.get?_set] at member
    split_ifs at member with same
    · cases member
      exact same.symm
    · exact memory.keyed (key,value) ((Dict.get?_eq_some _ _ _).mp member)

/-- The entries of a scratchpad without those a loop pops. -/
def popOldestWhile (must : List (Text × MemoryEntry) → Prop) [DecidablePred must] (memory : WorkingMemory) :
    List MemoryEntry × WorkingMemory :=
  have whole : (popWhile must memory.entries.entries).2 <:+ memory.entries.entries :=
    ⟨_,(popWhile_cut must memory.entries.entries).split⟩
  ((popWhile must memory.entries.entries).1.map Prod.snd,{
    entries := ⟨(popWhile must memory.entries.entries).2,memory.entries.distinct.sublist (whole.sublist.map _)⟩
    summaries := memory.summaries
    stats := memory.stats
    keyed := fun item member => memory.keyed item (whole.subset member) })

/-- Read an entry, recording a hit or miss. -/
def read (memory : WorkingMemory) (key : Text) : Option MemoryEntry × WorkingMemory :=
  match memory.entries.get? key with
  | none => (none,{ memory with stats := { memory.stats with misses := memory.stats.misses + 1 } })
  | some entry => (some entry,{ memory with stats := { memory.stats with hits := memory.stats.hits + 1 } })

section
variable [Printer] (limits : Limits) (summarizer : Summarizer)

/-- Current estimated token cost of everything retained. -/
def estimatedTokens (memory : WorkingMemory) : Nat := entryTokens memory.entries.values + textTokens memory.summaries

/-- Evict oldest-first until the entry cap and the token budget are satisfied. -/
def enforceBudget (memory : WorkingMemory) : WorkingMemory :=
  let overCap := memory.popOldestWhile fun entries => limits.maxEntries < entries.length
  let overBudget := overCap.2.popOldestWhile fun entries =>
    limits.tokenBudget < entryTokens (entries.map Prod.snd) + textTokens memory.summaries ∧ 1 < entries.length
  let evicted := overCap.1 ++ overBudget.1
  if evicted = [] then overBudget.2
  else { overBudget.2 with
    summaries := memory.summaries ++ (if summarizer.summarize evicted = [] then [] else [summarizer.summarize evicted])
    stats := { memory.stats with evictions := memory.stats.evictions + evicted.length } }

/-- Write an entry, then enforce the budget. -/
def write (memory : WorkingMemory) (key : Text) (value : List (Text × Value)) (source : Text) : MemoryEntry × WorkingMemory :=
  let entry : MemoryEntry := { key,value,source }
  (entry,(memory.put entry).enforceBudget limits summarizer)

/-- Rebuild the scratchpad from session memory. -/
def load (memory : WorkingMemory) (entries : List MemoryEntry) : WorkingMemory :=
  let filled := entries.foldl put memory
  { filled with stats := { filled.stats with recoveries := filled.stats.recoveries + 1 } : WorkingMemory }.enforceBudget limits summarizer

end

@[simp] theorem read_entry (memory : WorkingMemory) (key : Text) : (memory.read key).1 = memory.entries.get? key := by
  unfold read
  cases memory.entries.get? key <;> rfl

end WorkingMemory

/-! ### What an eviction leaves -/

section
variable [Printer] (limits : Limits) (summarizer : Summarizer)

/-- Entries that are too many, or too many tokens beside the summaries. One entry is never
    too many. -/
def Crowded (summaries : List Text) (entries : List (Text × MemoryEntry)) : Prop :=
  limits.maxEntries < entries.length ∨
    limits.tokenBudget < entryTokens (entries.map Prod.snd) + textTokens summaries ∧ 1 < entries.length

instance (summaries : List Text) : DecidablePred (Crowded limits summaries) := fun _ => inferInstanceAs (Decidable (_ ∨ _))

/-- The scratchpad after an eviction, by the split of its entries. -/
theorem enforceBudget_cut (memory : WorkingMemory) {gone kept : List (Text × MemoryEntry)}
    (cut : Cut (Crowded limits memory.summaries) memory.entries.entries gone kept) :
    (memory.enforceBudget limits summarizer).entries.entries = kept ∧
      (memory.enforceBudget limits summarizer).summaries =
        if gone = [] then memory.summaries else memory.summaries ++ [summarizer.summarize (gone.map Prod.snd)] := by
  have steady : ∀ (item : Text × MemoryEntry) (rest : List (Text × MemoryEntry)),
      ¬ limits.maxEntries < (item :: rest).length → ¬ limits.maxEntries < rest.length := by
    intro item rest
    simp only [List.length_cons]
    omega
  have loops := (popWhile_popWhile _ (fun entries => limits.tokenBudget < entryTokens (entries.map Prod.snd) + textTokens memory.summaries ∧
    1 < entries.length) steady memory.entries.entries).symm.trans ((popWhile_eq_iff _ _ _ _).mpr cut)
  obtain ⟨front,rest⟩ := Prod.mk.inj loops
  have evicted := congrArg (List.map Prod.snd) front
  rw [List.map_append] at evicted
  unfold WorkingMemory.enforceBudget
  simp only [WorkingMemory.popOldestWhile,evicted,rest,List.map_eq_nil_iff]
  by_cases none : gone = []
  · simp only [none,if_true,and_self]
  · obtain ⟨item,more,rfl⟩ := List.exists_cons_of_ne_nil none
    have some : summarizer.summarize ((item :: more).map Prod.snd) ≠ [] := (summarizer.lossless _ item.2 (by simp)).1
    simp only [none,if_false,some,and_self]

end

/-! ### Calls on a scratchpad -/

inductive Call where
  | write (key : Text) (value : List (Text × Value)) (source : Text)
  | load (entries : List MemoryEntry)

/-- The entries a call writes, in order. -/
def Call.writes : Call → List MemoryEntry
  | .write key value source => [{ key,value,source }]
  | .load entries => entries

/-- A scratchpad with every entry ever written to it. -/
structure Turn where
  memory : WorkingMemory
  written : List MemoryEntry

def Turn.fresh : Turn := ⟨.empty,[]⟩

/-- The scratchpad of a call before anything is evicted. -/
def Turn.filled (turn : Turn) (call : Call) : WorkingMemory := call.writes.foldl WorkingMemory.put turn.memory

theorem summaries_foldl_put (memory : WorkingMemory) (entries : List MemoryEntry) :
    (entries.foldl WorkingMemory.put memory).summaries = memory.summaries := by
  induction entries generalizing memory with
  | nil => rfl
  | cons entry rest ih => exact ih (memory.put entry)

theorem keys_foldl_put (memory : WorkingMemory) (entries : List MemoryEntry) (key : Text) :
    key ∈ (entries.foldl WorkingMemory.put memory).entries.keys ↔ key ∈ memory.entries.keys ∨ key ∈ entries.map (·.key) := by
  induction entries generalizing memory with
  | nil => simp
  | cons entry rest ih =>
    have stored : key ∈ (memory.put entry).entries.keys ↔ key ∈ memory.entries.keys ∨ key = entry.key := by
      rw [← Dict.get?_isSome,← Dict.get?_isSome]
      simp only [WorkingMemory.put,Dict.get?_set]
      by_cases same : key = entry.key <;> simp [same]
    rw [List.foldl_cons,ih,stored,List.map_cons,List.mem_cons,or_assoc]

/-- Every entry written is still held or named in a summary. -/
def Named (turn : Turn) : Prop :=
  ∀ entry ∈ turn.written, entry.key ∈ turn.memory.entries.keys ∨ ∃ summary ∈ turn.memory.summaries, Names summary entry.key

section
variable [Printer] (limits : Limits) (summarizer : Summarizer)

def Turn.after (turn : Turn) (call : Call) : Turn where
  memory := match call with
    | .write key value source => (turn.memory.write limits summarizer key value source).2
    | .load entries => turn.memory.load limits summarizer entries
  written := turn.written ++ call.writes

/-- What the scratchpad promises after a call. -/
structure Sound (turn : Turn) : Prop where
  capped : turn.memory.entries.entries.length ≤ limits.maxEntries
  affordable : (turn.memory.estimatedTokens : Int) ≤ limits.tokenBudget ∨ turn.memory.entries.entries.length ≤ 1
  readable : ∀ last, turn.written.getLast? = some last → (turn.memory.read last.key).1 = some last
  named : Named turn

/-- A call that leaves room for its own summary and does not push out what was written last. -/
structure Allows (turn : Turn) (call : Call) : Prop where
  /-- Nothing has to go, at most one entry can stay, or the summary of what goes fits beside
      what stays. -/
  spare : ∀ gone kept, Cut (Crowded limits turn.memory.summaries) (turn.filled call).entries.entries gone kept →
    gone = [] ∨ kept.length ≤ 1 ∨
      (entryTokens (kept.map Prod.snd) + textTokens (turn.memory.summaries ++ [summarizer.summarize (gone.map Prod.snd)]) : Int) ≤
        limits.tokenBudget
  /-- What was written last is among some newest entries that are not too many. -/
  recent : ∀ last, (turn.written ++ call.writes).getLast? = some last → ∃ older newer,
    older ++ newer = (turn.filled call).entries.entries ∧ (last.key,last) ∈ newer ∧ ¬ Crowded limits turn.memory.summaries newer

/-- The scratchpad after a call, by the split of what it held before the eviction. -/
theorem after_cut (turn : Turn) (call : Call) {gone kept : List (Text × MemoryEntry)}
    (cut : Cut (Crowded limits turn.memory.summaries) (turn.filled call).entries.entries gone kept) :
    (turn.after limits summarizer call).memory.entries.entries = kept ∧
      (turn.after limits summarizer call).memory.summaries =
        if gone = [] then turn.memory.summaries else turn.memory.summaries ++ [summarizer.summarize (gone.map Prod.snd)] := by
  have kept_summaries : (turn.filled call).summaries = turn.memory.summaries := summaries_foldl_put _ _
  rw [← kept_summaries] at cut ⊢
  cases call with
  | write key value source => exact enforceBudget_cut limits summarizer _ cut
  | load entries =>
    exact enforceBudget_cut limits summarizer
      { turn.filled (.load entries) with stats := { (turn.filled (.load entries)).stats with
        recoveries := (turn.filled (.load entries)).stats.recoveries + 1 } : WorkingMemory } cut

variable {limits summarizer}

theorem cut_capped {summaries : List Text} {entries gone kept : List (Text × MemoryEntry)}
    (cut : Cut (Crowded limits summaries) entries gone kept) : kept.length ≤ limits.maxEntries ∧
      ((entryTokens (kept.map Prod.snd) + textTokens summaries : Int) ≤ limits.tokenBudget ∨ kept.length ≤ 1) := by
  rcases cut.enough with rfl | enough
  · exact ⟨Nat.zero_le _,.inr (Nat.zero_le _)⟩
  · simp only [Crowded,not_or,not_and_or,not_lt] at enough
    exact enough

theorem named_after {turn : Turn} (named : Named turn) (call : Call) : Named (turn.after limits summarizer call) := by
  obtain ⟨gone,kept,cut⟩ : ∃ gone kept, Cut (Crowded limits turn.memory.summaries) (turn.filled call).entries.entries gone kept :=
    ⟨_,_,popWhile_cut _ _⟩
  obtain ⟨entries,summaries⟩ := after_cut limits summarizer turn call cut
  have older : ∀ summary ∈ turn.memory.summaries, summary ∈ (turn.after limits summarizer call).memory.summaries := by
    intro summary member
    rw [summaries]
    split_ifs
    · exact member
    · exact List.mem_append_left _ member
  have held : ∀ key ∈ (turn.filled call).entries.keys, key ∈ (turn.after limits summarizer call).memory.entries.keys ∨
      ∃ summary ∈ (turn.after limits summarizer call).memory.summaries, Names summary key := by
    intro key member
    obtain ⟨item,stored,rfl⟩ := List.mem_map.mp member
    have own := (turn.filled call).keyed item stored
    rw [← cut.split] at stored
    rcases List.mem_append.mp stored with left | stays
    · refine .inr ⟨summarizer.summarize (gone.map Prod.snd),?_,?_⟩
      · rw [summaries,if_neg (List.ne_nil_of_mem left)]
        simp
      · exact own ▸ (summarizer.lossless _ item.2 (List.mem_map_of_mem left)).2
    · refine .inl ?_
      rw [Dict.keys,entries]
      exact List.mem_map_of_mem stays
  intro entry member
  rcases List.mem_append.mp member with earlier | now
  · rcases named entry earlier with present | ⟨summary,listed,names⟩
    · exact held _ ((keys_foldl_put _ _ _).mpr (.inl present))
    · exact .inr ⟨summary,older summary listed,names⟩
  · exact held _ ((keys_foldl_put _ _ _).mpr (.inr (List.mem_map_of_mem now)))

theorem sound_after_iff {turn : Turn} (named : Named turn) (call : Call) :
    Sound limits (turn.after limits summarizer call) ↔ Allows limits summarizer turn call := by
  obtain ⟨gone,kept,cut⟩ : ∃ gone kept, Cut (Crowded limits turn.memory.summaries) (turn.filled call).entries.entries gone kept :=
    ⟨_,_,popWhile_cut _ _⟩
  obtain ⟨entries,summaries⟩ := after_cut limits summarizer turn call cut
  have found : ∀ last : MemoryEntry, ((turn.after limits summarizer call).memory.read last.key).1 = some last ↔ (last.key,last) ∈ kept := by
    intro last
    rw [WorkingMemory.read_entry,Dict.get?_eq_some,entries]
  have cost : (turn.after limits summarizer call).memory.estimatedTokens = entryTokens (kept.map Prod.snd) +
      textTokens (if gone = [] then turn.memory.summaries else turn.memory.summaries ++ [summarizer.summarize (gone.map Prod.snd)]) := by
    rw [WorkingMemory.estimatedTokens,Dict.values,entries,summaries]
  constructor
  · intro sound
    refine ⟨?_,?_⟩
    · intro gone' kept' cut'
      obtain ⟨rfl,rfl⟩ := cut.unique cut'
      by_cases none : gone = []
      · exact .inl none
      · have affordable := sound.affordable
        rw [cost,if_neg none,entries] at affordable
        exact .inr affordable.symm
    · intro last final
      refine ⟨gone,kept,cut.split,(found last).mp (sound.readable last final),?_⟩
      rcases cut.enough with rfl | enough
      · cases (found last).mp (sound.readable last final)
      · exact enough
  · intro allows
    refine ⟨?_,?_,?_,named_after named call⟩
    · rw [entries]
      exact (cut_capped cut).1
    · rw [cost,entries]
      rcases allows.spare gone kept cut with none | few | fits
      · rw [if_pos none]
        exact (cut_capped cut).2
      · exact .inr few
      · by_cases none : gone = []
        · rw [if_pos none]
          exact (cut_capped cut).2
        · rw [if_neg none]
          exact .inl fits
    · intro last final
      obtain ⟨older,newer,split,member,little⟩ := allows.recent last final
      obtain ⟨more,rfl⟩ := cut.keeps split little
      exact (found last).mpr (List.mem_append_right _ member)

/-! ### Whole turns -/

variable (limits summarizer) in
/-- Something that holds of every call of a turn and the state it is made in. -/
def Throughout (P : Turn → Call → Prop) : Turn → List Call → Prop
  | _, [] => True
  | turn, call :: rest => P turn call ∧ Throughout P (turn.after limits summarizer call) rest

theorem throughout_congr {P Q : Turn → Call → Prop} (same : ∀ turn, Named turn → ∀ call, P turn call ↔ Q turn call) {turn : Turn}
    (named : Named turn) (calls : List Call) : Throughout limits summarizer P turn calls ↔ Throughout limits summarizer Q turn calls := by
  induction calls generalizing turn with
  | nil => rfl
  | cons call rest ih => exact and_congr (same turn named call) (ih (named_after named call))

variable (limits summarizer) in
theorem sound_iff_allowed (calls : List Call) :
    Throughout limits summarizer (fun turn call => Sound limits (turn.after limits summarizer call)) .fresh calls ↔
      Throughout limits summarizer (Allows limits summarizer) .fresh calls :=
  throughout_congr (fun _ named call => sound_after_iff named call) (by simp [Named,Turn.fresh]) calls

end

/-! ### A summary that does not fit -/

/-- Room for two tokens. -/
def tightLimits : Limits := ⟨2,100,by decide⟩

/-- Three entries of one token each: the first goes, and its summary costs more than the budget. -/
theorem summary_over_budget : let _ := asciiPrinter; ¬ Throughout tightLimits referenceSummarizer
    (fun turn call => Sound tightLimits (turn.after tightLimits referenceSummarizer call)) .fresh
    [.write (lit "a") [] (lit "node"),.write (lit "b") [] (lit "node"),.write (lit "c") [] (lit "node")] := by
  intro printer sound
  have affordable := sound.2.2.1.affordable
  revert affordable
  decide

end SocAnalyst.WorkingMemories
