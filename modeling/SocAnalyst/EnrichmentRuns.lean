import SocAnalyst.Enrichment

/-!
# What an enrichment changes

The loop of `enrich_indicators` updates the whole list by index and counts as it goes.
Each indicator ends up with its own verdict or as it was, and the status says what
became of all the lookups.
-/
namespace SocAnalyst.EnrichmentRuns
open SocAnalyst.Builtins SocAnalyst.Iocs SocAnalyst.Enrichment

variable {provider : ReputationProvider} {iocs : List IocIndicator} {limit : Int}

/-- The verdict of one lookup, if it succeeded. -/
def answer (provider : ReputationProvider) (turn : Nat) (ioc : IocIndicator) : Option ReputationVerdict :=
  (provider.lookup turn ioc).toOption.bind (·.ok)

/-- What a lookup that failed or was served from the cache adds to the notes. -/
def noteOf (ioc : IocIndicator) (result : ReputationResult) : List Text :=
  result.ok.elim
    [lit "lookup failed for " ++ ioc.defanged ++ lit ": " ++ (result.failure.map (·.reason)).getD (lit "unknown")]
    fun verdict => if verdict.stale then [ioc.defanged ++ lit " served from stale cache"] else []

/-- The notes of one lookup. -/
def turnNotes (provider : ReputationProvider) (turn : Nat) (ioc : IocIndicator) : List Text :=
  (provider.lookup turn ioc).toOption.elim [] (noteOf ioc)

theorem answered_enriched (s : Enriching) (index : Nat) (ioc : IocIndicator) (result : ReputationResult) :
    (s.answered index ioc result).enriched = result.ok.elim s.enriched fun verdict => s.enriched.set index (attach ioc verdict) := by
  unfold Enriching.answered
  cases result.ok <;> rfl

theorem answered_succeeded (s : Enriching) (index : Nat) (ioc : IocIndicator) (result : ReputationResult) :
    (s.answered index ioc result).succeeded = s.succeeded + if result.ok.isSome then 1 else 0 := by
  unfold Enriching.answered
  cases result.ok <;> rfl

theorem answered_notes (s : Enriching) (index : Nat) (ioc : IocIndicator) (result : ReputationResult) :
    (s.answered index ioc result).notes = s.notes ++ noteOf ioc result := by
  unfold Enriching.answered noteOf
  cases result.ok <;> rfl

/-- The lookups of some indices, the first one in the given turn: which succeeded. -/
def successes (provider : ReputationProvider) (iocs : List IocIndicator) (start : Nat) (rest : List Nat) : List (Nat × Nat) :=
  (rest.zipIdx start).filter fun entry => ((iocs[entry.1]?).bind (answer provider entry.2)).isSome

def allNotes (provider : ReputationProvider) (iocs : List IocIndicator) (start : Nat) (rest : List Nat) : List Text :=
  (rest.zipIdx start).flatMap fun entry => (iocs[entry.1]?).elim [] (turnNotes provider entry.2)

/-- A loop that nothing interrupts. -/
structure Finished (provider : ReputationProvider) (iocs : List IocIndicator) (s final : Enriching) (rest : List Nat) : Prop where
  calm : final.raised = none
  others : ∀ index, index ∉ rest → final.enriched[index]? = s.enriched[index]?
  own : ∀ index turn, (index,turn) ∈ rest.zipIdx s.asked.length → ∀ ioc, iocs[index]? = some ioc →
    final.enriched[index]? = some ((answer provider turn ioc).elim ioc (attach ioc))
  counted : final.succeeded = s.succeeded + (successes provider iocs s.asked.length rest).length
  noted : final.notes = s.notes ++ allNotes provider iocs s.asked.length rest

/-- The loop is interrupted by a lookup that raises, or every index gets its own answer. -/
theorem enrichFrom_run {rest : List Nat} {s : Enriching} (calm : s.raised = none) (distinct : rest.Nodup)
    (inside : ∀ index ∈ rest, ∃ ioc, iocs[index]? = some ioc) (fresh : ∀ index ∈ rest, s.enriched[index]? = iocs[index]?) :
    (∃ e, (enrichFrom provider s rest).raised = some e ∧
      ∃ index turn, (index,turn) ∈ rest.zipIdx s.asked.length ∧ ∃ ioc, iocs[index]? = some ioc ∧ provider.lookup turn ioc = .error e) ∨
    Finished provider iocs s (enrichFrom provider s rest) rest := by
  induction rest generalizing s with
  | nil => exact .inr ⟨calm,fun _ _ => rfl,by simp,by simp [enrichFrom,successes],by simp [enrichFrom,allNotes]⟩
  | cons index rest ih =>
    obtain ⟨ioc,placed⟩ := inside index (by simp)
    have stored : s.enriched[index]? = some ioc := (fresh index (by simp)).trans placed
    obtain ⟨unlisted,distinct⟩ := List.nodup_cons.mp distinct
    rw [enrichFrom,stored]
    cases reply : provider.lookup s.asked.length ioc with
    | error e => exact .inl ⟨e,by simp [reply],index,s.asked.length,by simp,ioc,placed,reply⟩
    | ok result =>
      have given : answer provider s.asked.length ioc = result.ok := by simp [answer,reply,Except.toOption]
      have untouched : ∀ place, place ≠ index → (s.answered index ioc result).enriched[place]? = s.enriched[place]? := by
        intro place other
        rw [answered_enriched]
        cases result.ok with
        | none => rfl
        | some verdict => exact List.getElem?_set_ne (Ne.symm other)
      have asked : (s.answered index ioc result).asked.length = s.asked.length + 1 := by
        rw [Enriching.answered_asked,List.length_append,List.length_singleton]
      have again := ih (s := s.answered index ioc result) (by rw [Enriching.answered_raised,calm]) distinct
        (fun place listed => inside place (by simp [listed]))
        fun place listed => (untouched place fun same => unlisted (same ▸ listed)).trans (fresh place (by simp [listed]))
      rw [asked] at again
      simp only [reply]
      rcases again with ⟨e,raised,place,turn,listed,cause⟩ | finished
      · exact .inl ⟨e,raised,place,turn,by rw [List.zipIdx_cons]; exact List.mem_cons_of_mem _ listed,cause⟩
      · refine .inr ⟨finished.calm,fun place absent => ?_,?_,?_,?_⟩
        · rw [List.mem_cons,not_or] at absent
          rw [finished.others place absent.2,untouched place absent.1]
        · intro place turn listed other found
          rw [List.zipIdx_cons,List.mem_cons,Prod.mk.injEq] at listed
          rcases listed with ⟨rfl,rfl⟩ | later
          · rw [placed] at found
            cases found
            rw [finished.others _ unlisted,answered_enriched,given]
            cases result.ok with
            | none => exact stored
            | some verdict =>
              have bound := (List.getElem?_eq_some_iff.mp stored).1
              simp [bound]
          · have own := finished.own place turn
            rw [asked] at own
            exact own later other found
        · rw [finished.counted,answered_succeeded,asked,successes,successes,List.zipIdx_cons,List.filter_cons]
          simp only [placed,Option.bind_some,given]
          split_ifs with succeeded
          · rw [List.length_cons]
            omega
          · omega
        · rw [finished.noted,answered_notes,asked,allNotes,allNotes,List.zipIdx_cons,List.flatMap_cons]
          simp [placed,turnNotes,reply,Except.toOption]

/-! ### The result -/

/-- The indicator that is looked up in a turn, within the budget. -/
def Budgeted (iocs : List IocIndicator) (limit : Int) (index turn : Nat) : Prop := (upTo (eligibleIndices iocs) limit)[turn]? = some index

/-- Every indicator with its own verdict or as it was, and a status and notes that say so. -/
structure Faithful (provider : ReputationProvider) (iocs : List IocIndicator) (limit : Int)
    (enriched : List IocIndicator) (status : EnrichmentStatus) (notes : List Text) : Prop where
  size : enriched.length = iocs.length
  others : ∀ index, (∀ turn, ¬ Budgeted iocs limit index turn) → enriched[index]? = iocs[index]?
  own : ∀ index turn ioc, Budgeted iocs limit index turn → iocs[index]? = some ioc →
    eligible ioc = true ∧ enriched[index]? = some ((answer provider turn ioc).elim ioc (attach ioc))
  complete : status = .COMPLETE ↔ ∀ index ioc, iocs[index]? = some ioc → eligible ioc = true →
    ∃ turn verdict, Budgeted iocs limit index turn ∧ answer provider turn ioc = some verdict ∧ verdict.stale = false
  unavailable : (∃ ioc ∈ iocs, eligible ioc = true) → (status = .UNAVAILABLE ↔
    ∀ index turn ioc, Budgeted iocs limit index turn → iocs[index]? = some ioc → answer provider turn ioc = none)
  noted : ∀ index turn ioc, Budgeted iocs limit index turn → iocs[index]? = some ioc → ∀ result, provider.lookup turn ioc = .ok result →
    noteOf ioc result ⊆ notes
  overrun : ∀ note ∈ overBudget (onwards (eligibleIndices iocs) limit) limit, note ∈ notes

theorem eligibleIndices_nodup (iocs : List IocIndicator) : (eligibleIndices iocs).Nodup := by
  have places : (eligibleIndices iocs).Sublist (iocs.zipIdx.map Prod.snd) := by
    rw [eligibleIndices]
    generalize iocs.zipIdx = entries
    induction entries with
    | nil => simp
    | cons entry rest ih =>
      rw [List.filterMap_cons,List.map_cons]
      by_cases allowed : eligible entry.1 = true
      · simpa [allowed] using ih
      · simpa [allowed] using ih.cons entry.2
  refine List.Nodup.sublist places ?_
  rw [List.zipIdx_map_snd]
  exact List.nodup_range'

/-- The budget splits what is eligible. -/
theorem upTo_onwards (items : List Nat) (stop : Int) : upTo items stop ++ onwards items stop = items := by
  unfold upTo onwards
  exact List.take_append_drop _ items

theorem mem_turns {rest : List Nat} {index turn : Nat} : (index,turn) ∈ rest.zipIdx 0 ↔ rest[turn]? = some index := by
  rw [List.mk_mem_zipIdx_iff_getElem?]

theorem budgeted_of_mem {index : Nat} (listed : index ∈ upTo (eligibleIndices iocs) limit) : ∃ turn, Budgeted iocs limit index turn :=
  List.getElem?_of_mem listed

theorem Budgeted.mem {index turn : Nat} (budgeted : Budgeted iocs limit index turn) : index ∈ upTo (eligibleIndices iocs) limit :=
  List.mem_of_getElem? budgeted

theorem Budgeted.placed {index turn : Nat} (budgeted : Budgeted iocs limit index turn) :
    ∃ ioc, iocs[index]? = some ioc ∧ eligible ioc = true :=
  mem_eligibleIndices.mp (List.mem_of_mem_take budgeted.mem)

theorem budgeted_nodup : (upTo (eligibleIndices iocs) limit).Nodup := (eligibleIndices_nodup iocs).sublist (List.take_sublist _ _)

/-- An indicator has one turn. -/
theorem Budgeted.once {index turn other : Nat} (first : Budgeted iocs limit index turn) (second : Budgeted iocs limit index other) :
    turn = other :=
  (List.getElem?_inj (List.getElem?_eq_some_iff.mp first).1 budgeted_nodup).mp (Eq.trans first (Eq.symm second))

theorem successes_nil : successes provider iocs 0 (upTo (eligibleIndices iocs) limit) = [] ↔
    ∀ index turn ioc, Budgeted iocs limit index turn → iocs[index]? = some ioc → answer provider turn ioc = none := by
  simp only [successes,List.filter_eq_nil_iff,Prod.forall,mem_turns]
  constructor
  · intro none index turn ioc budgeted placed
    have failed := none index turn budgeted
    rw [placed,Option.bind_some,Option.not_isSome_iff_eq_none] at failed
    exact failed
  · intro none index turn budgeted
    obtain ⟨ioc,placed,_⟩ := Budgeted.placed budgeted
    rw [placed,Option.bind_some,none index turn ioc budgeted placed]
    decide

theorem successes_all : ¬ (successes provider iocs 0 (upTo (eligibleIndices iocs) limit)).length < (upTo (eligibleIndices iocs) limit).length ↔
    ∀ index turn ioc, Budgeted iocs limit index turn → iocs[index]? = some ioc → ∃ verdict, answer provider turn ioc = some verdict := by
  have most : (successes provider iocs 0 (upTo (eligibleIndices iocs) limit)).length ≤ (upTo (eligibleIndices iocs) limit).length := by
    have bound := List.length_filter_le (fun entry : Nat × Nat => ((iocs[entry.1]?).bind (answer provider entry.2)).isSome)
      ((upTo (eligibleIndices iocs) limit).zipIdx 0)
    rwa [List.length_zipIdx] at bound
  have all : (successes provider iocs 0 (upTo (eligibleIndices iocs) limit)).length = (upTo (eligibleIndices iocs) limit).length ↔
      ∀ entry ∈ (upTo (eligibleIndices iocs) limit).zipIdx 0, ((iocs[entry.1]?).bind (answer provider entry.2)).isSome = true := by
    rw [← List.length_filter_eq_length_iff,List.length_zipIdx]
    rfl
  have exact_count : ¬ (successes provider iocs 0 (upTo (eligibleIndices iocs) limit)).length < (upTo (eligibleIndices iocs) limit).length ↔
      (successes provider iocs 0 (upTo (eligibleIndices iocs) limit)).length = (upTo (eligibleIndices iocs) limit).length := by omega
  rw [exact_count,all]
  simp only [Prod.forall,mem_turns]
  constructor
  · intro each index turn ioc budgeted placed
    have given := each index turn budgeted
    rw [placed,Option.bind_some] at given
    exact Option.isSome_iff_exists.mp given
  · intro each index turn budgeted
    obtain ⟨ioc,placed,_⟩ := Budgeted.placed budgeted
    rw [placed,Option.bind_some]
    exact Option.isSome_iff_exists.mpr (each index turn ioc budgeted placed)

theorem mem_allNotes {note : Text} : note ∈ allNotes provider iocs 0 (upTo (eligibleIndices iocs) limit) ↔
    ∃ index turn ioc result, Budgeted iocs limit index turn ∧ iocs[index]? = some ioc ∧ provider.lookup turn ioc = .ok result ∧
      note ∈ noteOf ioc result := by
  simp only [allNotes,List.mem_flatMap,Prod.exists,mem_turns]
  constructor
  · rintro ⟨index,turn,budgeted,noted⟩
    obtain ⟨ioc,placed,_⟩ := Budgeted.placed budgeted
    rw [placed,Option.elim_some,turnNotes] at noted
    cases reply : provider.lookup turn ioc with
    | error e =>
      rw [reply] at noted
      cases noted
    | ok result =>
      rw [reply] at noted
      exact ⟨index,turn,ioc,result,budgeted,placed,reply,noted⟩
  · rintro ⟨index,turn,ioc,result,budgeted,placed,reply,noted⟩
    refine ⟨index,turn,budgeted,?_⟩
    rw [placed,Option.elim_some,turnNotes,reply]
    exact noted

theorem occursIn_end (before piece after : Text) : occursIn piece (before ++ (piece ++ after)) = true := by
  simp only [occursIn,List.any_eq_true,List.mem_tails,List.isPrefixOf_iff_prefix]
  exact ⟨piece ++ after,List.suffix_append _ _,List.prefix_append _ _⟩

/-- When nothing was deferred and every lookup succeeded, a note about a stale answer is
    there exactly when an answer was stale. -/
theorem stale_noted (all : ∀ index turn ioc, Budgeted iocs limit index turn → iocs[index]? = some ioc →
      ∃ verdict, answer provider turn ioc = some verdict) :
    (allNotes provider iocs 0 (upTo (eligibleIndices iocs) limit)).any (occursIn (lit "stale")) = true ↔
      ∃ index turn ioc verdict, Budgeted iocs limit index turn ∧ iocs[index]? = some ioc ∧ answer provider turn ioc = some verdict ∧
        verdict.stale = true := by
  simp only [List.any_eq_true,mem_allNotes]
  constructor
  · rintro ⟨note,⟨index,turn,ioc,result,budgeted,placed,reply,noted⟩,_⟩
    obtain ⟨verdict,given⟩ := all index turn ioc budgeted placed
    refine ⟨index,turn,ioc,verdict,budgeted,placed,given,?_⟩
    simp only [answer,reply,Except.toOption,Option.bind_some] at given
    rw [noteOf,given,Option.elim_some] at noted
    by_cases stale : verdict.stale = true
    · exact stale
    · rw [if_neg stale] at noted
      cases noted
  · rintro ⟨index,turn,ioc,verdict,budgeted,placed,given,stale⟩
    have reply : ∃ result, provider.lookup turn ioc = .ok result ∧ result.ok = some verdict := by
      unfold answer at given
      cases answered : provider.lookup turn ioc with
      | error e =>
        rw [answered] at given
        cases given
      | ok result =>
        rw [answered] at given
        exact ⟨result,rfl,given⟩
    obtain ⟨result,replied,vouched⟩ := reply
    refine ⟨ioc.defanged ++ lit " served from stale cache",⟨index,turn,ioc,result,budgeted,placed,replied,?_⟩,?_⟩
    · simp [noteOf,vouched,stale]
    · have split : ioc.defanged ++ lit " served from stale cache" = (ioc.defanged ++ lit " served from ") ++ (lit "stale" ++ lit " cache") := by
        rw [List.append_assoc]
        rfl
      rw [split]
      exact occursIn_end _ _ _

theorem overBudget_nil (deferred : List Nat) : deferred = [] → overBudget deferred limit = [] := fun none => if_pos none

/-- Over a run that nothing interrupted, the counters and the notes tell how it went. -/
theorem statusOf_faithful {final : Enriching} (finished : Finished provider iocs (begun iocs limit) final (upTo (eligibleIndices iocs) limit))
    (length : final.enriched.length = iocs.length) (some_eligible : eligibleIndices iocs ≠ []) :
    Faithful provider iocs limit final.enriched
      (statusOf final (upTo (eligibleIndices iocs) limit) (onwards (eligibleIndices iocs) limit)) final.notes := by
  have counted : final.succeeded = (successes provider iocs 0 (upTo (eligibleIndices iocs) limit)).length := by
    rw [finished.counted]
    exact Nat.zero_add _
  have noted : final.notes = overBudget (onwards (eligibleIndices iocs) limit) limit ++
      allNotes provider iocs 0 (upTo (eligibleIndices iocs) limit) := finished.noted
  have idle : final.succeeded = 0 ↔ ∀ index turn ioc, Budgeted iocs limit index turn → iocs[index]? = some ioc →
      answer provider turn ioc = none := by
    rw [counted,List.length_eq_zero_iff,successes_nil]
  refine ⟨length,fun index absent => ?_,fun index turn ioc budgeted placed => ?_,?_,fun _ => ?_,?_,?_⟩
  · exact finished.others index fun listed => (budgeted_of_mem listed).elim absent
  · obtain ⟨other,found,allowed⟩ := budgeted.placed
    rw [placed,Option.some_inj] at found
    exact ⟨found ▸ allowed,finished.own index turn (mem_turns.mpr budgeted) ioc placed⟩
  · constructor
    · intro complete index ioc placed allowed
      unfold statusOf at complete
      split_ifs at complete with none short
      rw [not_or,not_or,not_not,counted,successes_all] at short
      obtain ⟨all,undeferred,fresh⟩ := short
      have whole := upTo_onwards (eligibleIndices iocs) limit
      rw [undeferred,List.append_nil] at whole
      obtain ⟨turn,budgeted⟩ := @budgeted_of_mem iocs limit index (by rw [whole]; exact mem_eligibleIndices.mpr ⟨ioc,placed,allowed⟩)
      obtain ⟨verdict,given⟩ := all index turn ioc budgeted placed
      refine ⟨turn,verdict,budgeted,given,?_⟩
      rw [noted,overBudget_nil _ undeferred,List.nil_append,stale_noted all] at fresh
      by_contra stale
      exact fresh ⟨index,turn,ioc,verdict,budgeted,placed,given,by simpa using stale⟩
    · intro each
      have all : ∀ index turn ioc, Budgeted iocs limit index turn → iocs[index]? = some ioc →
          ∃ verdict, answer provider turn ioc = some verdict ∧ verdict.stale = false := by
        intro index turn ioc budgeted placed
        obtain ⟨other,found,allowed⟩ := budgeted.placed
        rw [placed,Option.some_inj] at found
        obtain ⟨again,verdict,same,given,fresh⟩ := each index ioc placed (found ▸ allowed)
        rw [← same.once budgeted]
        exact ⟨verdict,given,fresh⟩
      have succeeded : ∀ index turn ioc, Budgeted iocs limit index turn → iocs[index]? = some ioc →
          ∃ verdict, answer provider turn ioc = some verdict := fun index turn ioc budgeted placed =>
        (all index turn ioc budgeted placed).imp fun _ => And.left
      have reached : ∀ index ∈ eligibleIndices iocs, index ∈ upTo (eligibleIndices iocs) limit := by
        intro index listed
        obtain ⟨ioc,placed,allowed⟩ := mem_eligibleIndices.mp listed
        obtain ⟨turn,_,budgeted,_⟩ := each index ioc placed allowed
        exact budgeted.mem
      have undeferred : onwards (eligibleIndices iocs) limit = [] := by
        have distinct := eligibleIndices_nodup iocs
        rw [← upTo_onwards (eligibleIndices iocs) limit,List.nodup_append] at distinct
        refine List.eq_nil_iff_forall_not_mem.mpr fun index deferred => ?_
        exact distinct.2.2 index (reached index (List.mem_of_mem_drop deferred)) index deferred rfl
      have busy : final.succeeded ≠ 0 := by
        obtain ⟨index,listed⟩ := List.exists_mem_of_ne_nil _ some_eligible
        obtain ⟨turn,budgeted⟩ := budgeted_of_mem (reached index listed)
        obtain ⟨ioc,placed,_⟩ := budgeted.placed
        obtain ⟨verdict,given⟩ := succeeded index turn ioc budgeted placed
        intro none
        rw [idle.mp none index turn ioc budgeted placed] at given
        cases given
      unfold statusOf
      rw [if_neg busy,if_neg]
      rw [not_or,not_or,not_not,counted,successes_all,noted,overBudget_nil _ undeferred,List.nil_append,stale_noted succeeded]
      refine ⟨succeeded,undeferred,?_⟩
      rintro ⟨index,turn,ioc,verdict,budgeted,placed,given,stale⟩
      obtain ⟨other,again,fresh⟩ := all index turn ioc budgeted placed
      rw [given,Option.some_inj] at again
      rw [again,fresh] at stale
      cases stale
  · rw [← idle]
    unfold statusOf
    split_ifs with none <;> simp [none]
  · intro index turn ioc budgeted placed result reply note listed
    rw [noted]
    exact List.mem_append_right _ (mem_allNotes.mpr ⟨index,turn,ioc,result,budgeted,placed,reply,listed⟩)
  · intro note listed
    rw [noted]
    exact List.mem_append_left _ listed

theorem enrichFrom_length (rest : List Nat) (s : Enriching) : (enrichFrom provider s rest).enriched.length = s.enriched.length := by
  induction rest generalizing s with
  | nil => rfl
  | cons index rest ih =>
    rw [enrichFrom]
    cases s.enriched[index]? with
    | none => rfl
    | some ioc =>
      cases reply : provider.lookup s.asked.length ioc with
      | error e => simp only [reply]
      | ok result =>
        simp only [reply]
        rw [ih,answered_enriched]
        cases result.ok <;> simp

end SocAnalyst.EnrichmentRuns
