import Mathlib.Data.List.Induction
import Mathlib.Data.List.Infix

/-!
# Generations

Rows that carry the version they were written under. A generation is written under the
highest version so far plus one, and is known by the version on its rows alone: an empty
one leaves no trace.
-/
namespace SocAnalyst.Generations

/-- A generation's rows name their owner and their version. -/
structure Versioned (κ ι ρ : Type) where
  owner : ρ → κ
  version : ρ → Nat
  make : κ → Nat → ι → ρ
  owner_make : ∀ k v item, owner (make k v item) = k
  version_make : ∀ k v item, version (make k v item) = v

variable {κ ι ρ : Type} [DecidableEq κ]

namespace Versioned
variable (schema : Versioned κ ι ρ) (table : List ρ) (k : κ)

def owned : List ρ := table.filter fun row => schema.owner row = k

/-- `func.max(version) or 0`. -/
def latestVersion : Nat := ((schema.owned table k).map schema.version).foldl max 0

def generation (v : Nat) : List ρ := table.filter fun row => schema.owner row = k ∧ schema.version row = v

def current : List ρ := if schema.latestVersion table k = 0 then [] else schema.generation table k (schema.latestVersion table k)

/-- The rows of a new generation. -/
def written (items : List ι) : List ρ := items.map (schema.make k (schema.latestVersion table k + 1))

end Versioned

/-- A table, with every generation written to it and the version it was written under. -/
structure History (ρ : Type) where
  table : List ρ
  allotted : List (Nat × List ρ) := []

/-- The rows of the newest generation, none before the first. -/
def History.newest (history : History ρ) : List ρ := (history.allotted.getLast?.map (·.2)).getD []

def History.record (schema : Versioned κ ι ρ) (k : κ) (history : History ρ) (items : List ι) : History ρ where
  table := history.table ++ schema.written history.table k items
  allotted := history.allotted ++ [(schema.latestVersion history.table k + 1,schema.written history.table k items)]

/-- One generation after the other. -/
def History.recordAll (schema : Versioned κ ι ρ) (k : κ) (history : History ρ) (generations : List (List ι)) : History ρ :=
  generations.foldl (History.record schema k) history

/-- The current rows are those of the newest generation, and every generation is read back
    by its version. -/
structure Kept (schema : Versioned κ ι ρ) (k : κ) (history : History ρ) : Prop where
  newest : (schema.current history.table k).Perm history.newest
  readable : ∀ generation ∈ history.allotted, (schema.generation history.table k generation.1).Perm generation.2

/-- All are empty, or none is. -/
def Uniform (generations : List (List ι)) : Prop := (∀ items ∈ generations, items = []) ∨ ∀ items ∈ generations, items ≠ []

/-! ### One generation -/

private theorem foldl_max_le (versions : List Nat) (start n : Nat) :
    versions.foldl max start ≤ n ↔ start ≤ n ∧ ∀ v ∈ versions, v ≤ n := by
  induction versions generalizing start with
  | nil => simp
  | cons v rest ih =>
    rw [List.foldl_cons,ih,Nat.max_le,List.forall_mem_cons,and_assoc]

omit [DecidableEq κ] in
/-- To add rows unless there are none is to add them. -/
theorem append_unless_empty (table rows : List ρ) [Decidable (rows = [])] :
    (if rows = [] then table else table ++ rows) = table ++ rows := by
  by_cases none : rows = []
  · rw [if_pos none,none,List.append_nil]
  · rw [if_neg none]

section
variable {schema : Versioned κ ι ρ} {table : List ρ} {k : κ} {items : List ι}

/-- The newest generation, in whatever order it is read, is the current one. -/
theorem Versioned.ordered_perm {ordered : Nat → List ρ} (reads : ∀ v, (ordered v).Perm (schema.generation table k v)) :
    (if schema.latestVersion table k = 0 then [] else ordered (schema.latestVersion table k)).Perm (schema.current table k) := by
  rw [Versioned.current]
  by_cases none : schema.latestVersion table k = 0
  · rw [if_pos none,if_pos none]
  · rw [if_neg none,if_neg none]
    exact reads _

theorem mem_owned {row : ρ} : row ∈ schema.owned table k ↔ row ∈ table ∧ schema.owner row = k := by
  simp [Versioned.owned]

theorem latestVersion_le {n : Nat} : schema.latestVersion table k ≤ n ↔ ∀ row ∈ schema.owned table k, schema.version row ≤ n := by
  rw [Versioned.latestVersion,foldl_max_le]
  simp

theorem version_le {row : ρ} (member : row ∈ table) (owner : schema.owner row = k) :
    schema.version row ≤ schema.latestVersion table k :=
  latestVersion_le.mp le_rfl row (mem_owned.mpr ⟨member,owner⟩)

theorem mem_written {row : ρ} (member : row ∈ schema.written table k items) :
    schema.owner row = k ∧ schema.version row = schema.latestVersion table k + 1 := by
  obtain ⟨item,_,rfl⟩ := List.mem_map.mp member
  exact ⟨schema.owner_make ..,schema.version_make ..⟩

theorem owned_written : schema.owned (table ++ schema.written table k items) k = schema.owned table k ++ schema.written table k items := by
  have own : schema.owned (schema.written table k items) k = schema.written table k items := by
    rw [Versioned.owned,List.filter_eq_self]
    exact fun row member => by simp [(mem_written member).1]
  rw [Versioned.owned,List.filter_append]
  exact congrArg _ own

theorem latestVersion_written (some : items ≠ []) :
    schema.latestVersion (table ++ schema.written table k items) k = schema.latestVersion table k + 1 := by
  apply le_antisymm
  · rw [latestVersion_le,owned_written]
    intro row member
    rcases List.mem_append.mp member with old | new
    · exact Nat.le_succ_of_le (latestVersion_le.mp le_rfl row old)
    · exact (mem_written new).2.le
  · obtain ⟨item,rest,rfl⟩ := List.exists_cons_of_ne_nil some
    have first : schema.make k (schema.latestVersion table k + 1) item ∈ schema.written table k (item :: rest) := by
      simp [Versioned.written]
    have bound := version_le (List.mem_append_right table first) (mem_written first).1
    rwa [(mem_written first).2] at bound

/-- A version is read back as it was before a generation was written under a later one. -/
theorem generation_old {v : Nat} (old : v ≤ schema.latestVersion table k) :
    schema.generation (table ++ schema.written table k items) k v = schema.generation table k v := by
  have none : schema.generation (schema.written table k items) k v = [] := by
    rw [Versioned.generation,List.filter_eq_nil_iff]
    intro row member
    have later := (mem_written member).2
    simp only [decide_eq_true_eq,not_and]
    omega
  rw [Versioned.generation,List.filter_append]
  exact (congrArg _ none).trans (List.append_nil _)

theorem generation_new :
    schema.generation (table ++ schema.written table k items) k (schema.latestVersion table k + 1) = schema.written table k items := by
  have before : schema.generation table k (schema.latestVersion table k + 1) = [] := by
    rw [Versioned.generation,List.filter_eq_nil_iff]
    intro row member
    simp only [decide_eq_true_eq,not_and]
    intro owner
    have bound := version_le member owner
    omega
  have whole : schema.generation (schema.written table k items) k (schema.latestVersion table k + 1) = schema.written table k items := by
    rw [Versioned.generation,List.filter_eq_self]
    exact fun row member => by simp [mem_written member]
  rw [Versioned.generation,List.filter_append]
  exact (congrArg₂ (· ++ ·) before whole).trans (List.nil_append _)

theorem current_written (some : items ≠ []) :
    schema.current (table ++ schema.written table k items) k = schema.written table k items := by
  rw [Versioned.current,latestVersion_written some,if_neg (Nat.succ_ne_zero _),generation_new]

theorem written_nil : schema.written table k [] = [] := rfl

end

/-! ### Runs -/

section
variable {schema : Versioned κ ι ρ} {k : κ} {history : History ρ} {items : List ι}

theorem newest_record : (history.record schema k items).newest = schema.written history.table k items := by
  simp [History.newest,History.record]

/-- Every generation so far has a version of its own. -/
def Below (schema : Versioned κ ι ρ) (k : κ) (history : History ρ) : Prop :=
  ∀ generation ∈ history.allotted, generation.1 ≤ schema.latestVersion history.table k

theorem Kept.record (kept : Kept schema k history) (below : Below schema k history) (some : items ≠ []) :
    Kept schema k (history.record schema k items) ∧ Below schema k (history.record schema k items) := by
  refine ⟨⟨?_,?_⟩,?_⟩
  · rw [newest_record]
    exact .of_eq (current_written some)
  · intro generation member
    rcases List.mem_append.mp member with old | new
    · exact (List.Perm.of_eq (generation_old (below generation old))).trans (kept.readable generation old)
    · rw [List.mem_singleton.mp new]
      exact .of_eq generation_new
  · intro generation member
    rw [History.record,latestVersion_written some]
    rcases List.mem_append.mp member with old | new
    · exact Nat.le_succ_of_le (below generation old)
    · rw [List.mem_singleton.mp new]

/-- Nothing was ever written. -/
structure Blank (schema : Versioned κ ι ρ) (k : κ) (history : History ρ) : Prop where
  owned : schema.owned history.table k = []
  allotted : ∀ generation ∈ history.allotted, generation = (1,[])

theorem Blank.latestVersion (blank : Blank schema k history) : schema.latestVersion history.table k = 0 := by
  rw [Versioned.latestVersion,blank.owned]
  rfl

theorem Blank.generation (blank : Blank schema k history) (v : Nat) : schema.generation history.table k v = [] := by
  rw [Versioned.generation,List.filter_eq_nil_iff]
  intro row member
  simp only [decide_eq_true_eq,not_and]
  intro owner
  have owned : row ∈ schema.owned history.table k := mem_owned.mpr ⟨member,owner⟩
  rw [blank.owned] at owned
  exact absurd owned List.not_mem_nil

theorem Blank.record (blank : Blank schema k history) : Blank schema k (history.record schema k []) := by
  refine ⟨?_,?_⟩
  · rw [History.record,owned_written,blank.owned]
    rfl
  · intro generation member
    rcases List.mem_append.mp member with old | new
    · exact blank.allotted generation old
    · rw [List.mem_singleton.mp new,blank.latestVersion,written_nil]

theorem Blank.newest (blank : Blank schema k history) : history.newest = [] := by
  rw [History.newest]
  cases last : history.allotted.getLast? with
  | none => rfl
  | some generation =>
    rw [blank.allotted generation (List.mem_of_getLast? last)]
    rfl

theorem Blank.kept (blank : Blank schema k history) : Kept schema k history where
  newest := by
    rw [Versioned.current,if_pos blank.latestVersion,blank.newest]
  readable := by
    intro generation member
    rw [blank.allotted generation member]
    exact .of_eq (blank.generation 1)

theorem recordAll_concat (generations : List (List ι)) :
    history.recordAll schema k (generations ++ [items]) = (history.recordAll schema k generations).record schema k items := by
  rw [History.recordAll,List.foldl_concat]
  rfl

end

section
variable {schema : Versioned κ ι ρ} {k : κ} {table : List ρ}

theorem blank_start (fresh : schema.owned table k = []) : Blank schema k ⟨table,[]⟩ :=
  ⟨fresh,fun _ none => absurd none List.not_mem_nil⟩

theorem blank_recordAll (fresh : schema.owned table k = []) {generations : List (List ι)} (empty : ∀ items ∈ generations, items = []) :
    Blank schema k (History.recordAll schema k ⟨table,[]⟩ generations) := by
  induction generations using List.reverseRecOn with
  | nil => exact blank_start fresh
  | append_singleton before items ih =>
    rw [recordAll_concat,empty items (by simp)]
    exact (ih fun items member => empty items (List.mem_append_left _ member)).record

theorem kept_recordAll (fresh : schema.owned table k = []) {generations : List (List ι)} (some : ∀ items ∈ generations, items ≠ []) :
    Kept schema k (History.recordAll schema k ⟨table,[]⟩ generations) ∧
      Below schema k (History.recordAll schema k ⟨table,[]⟩ generations) := by
  induction generations using List.reverseRecOn with
  | nil => exact ⟨(blank_start fresh).kept,fun _ none => absurd none List.not_mem_nil⟩
  | append_singleton before items ih =>
    obtain ⟨kept,below⟩ := ih fun items member => some items (List.mem_append_left _ member)
    rw [recordAll_concat]
    exact kept.record below (some items (by simp))

theorem newest_ne_nil {generations : List (List ι)} (ran : generations ≠ []) (some : ∀ items ∈ generations, items ≠ []) :
    (History.recordAll schema k ⟨table,[]⟩ generations).newest ≠ [] := by
  obtain ⟨before,items,rfl⟩ := List.eq_nil_or_concat' generations |>.resolve_left ran
  rw [recordAll_concat,newest_record,Versioned.written]
  simpa using some items (by simp)

theorem allotted_ne_nil {generations : List (List ι)} (ran : generations ≠ []) :
    (History.recordAll schema k ⟨table,[]⟩ generations).allotted ≠ [] := by
  obtain ⟨before,items,rfl⟩ := List.eq_nil_or_concat' generations |>.resolve_left ran
  rw [recordAll_concat,History.record]
  simp

/-- Empty generations stand under the version that the first with rows is written under. -/
theorem empty_after_empty (fresh : schema.owned table k = []) {before : List (List ι)} (ran : before ≠ [])
    (empty : ∀ items ∈ before, items = [])
    (last : Kept schema k ((History.recordAll schema k ⟨table,[]⟩ before).record schema k items)) : items = [] := by
  have blank := blank_recordAll fresh empty
  have numbered : (History.recordAll schema k ⟨table,[]⟩ before).allotted ≠ [] := allotted_ne_nil ran
  obtain ⟨generation,rest,shape⟩ := List.exists_cons_of_ne_nil numbered
  have member : generation ∈ (History.recordAll schema k ⟨table,[]⟩ before).allotted := by
    rw [shape]
    exact List.mem_cons_self
  have back := last.readable generation (List.mem_append_left _ member)
  have new : schema.generation ((History.recordAll schema k ⟨table,[]⟩ before).table ++
      schema.written (History.recordAll schema k ⟨table,[]⟩ before).table k items) k (0 + 1) =
      schema.written (History.recordAll schema k ⟨table,[]⟩ before).table k items := by
    rw [← blank.latestVersion]
    exact generation_new
  rw [blank.allotted generation member] at back
  have written : schema.written (History.recordAll schema k ⟨table,[]⟩ before).table k items = [] := new.symm.trans back.eq_nil
  simpa [Versioned.written] using written

/-- An empty generation would leave the one before it current. -/
theorem filled_after_filled {before : List (List ι)} (ran : before ≠ []) (some : ∀ items ∈ before, items ≠ [])
    (kept : Kept schema k (History.recordAll schema k ⟨table,[]⟩ before))
    (last : Kept schema k ((History.recordAll schema k ⟨table,[]⟩ before).record schema k items)) : items ≠ [] := by
  rintro rfl
  have same : (schema.current (History.recordAll schema k ⟨table,[]⟩ before).table k).Perm [] := by
    have after := last.newest
    rwa [newest_record,History.record,written_nil,List.append_nil] at after
  exact newest_ne_nil ran some (kept.newest.symm.trans same).eq_nil

/-- Every generation is kept throughout a run just when all of them are empty or none is. -/
theorem kept_iff (fresh : schema.owned table k = []) (generations : List (List ι)) :
    (∀ done, done <+: generations → Kept schema k (History.recordAll schema k ⟨table,[]⟩ done)) ↔ Uniform generations := by
  constructor
  · induction generations using List.reverseRecOn with
    | nil => exact fun _ => .inl (by simp)
    | append_singleton before items ih =>
      intro always
      have first := ih fun done part => always done (part.trans (List.prefix_append _ _))
      have last := always _ (List.prefix_refl _)
      rw [recordAll_concat] at last
      by_cases ran : before = []
      · subst ran
        by_cases none : items = []
        · exact .inl (by simp [none])
        · exact .inr (by simp [none])
      obtain empty | some := first
      · left
        simpa [empty_after_empty fresh ran empty last,or_imp,forall_and] using empty
      · right
        have nonempty := filled_after_filled ran some (always before (List.prefix_append _ _)) last
        simpa [or_imp,forall_and] using ⟨some,nonempty⟩
  · rintro (empty | some) done part
    · exact (blank_recordAll fresh fun items member => empty items (part.subset member)).kept
    · exact (kept_recordAll fresh fun items member => some items (part.subset member)).1

theorem uniform_of_single {generations : List (List ι)} (single : generations.length ≤ 1) : Uniform generations := by
  match generations with
  | [] => exact .inl (by simp)
  | [items] =>
    by_cases none : items = []
    · exact .inl (by simp [none])
    · exact .inr (by simp [none])
  | _ :: _ :: _ => simp at single

theorem owned_single (fresh : schema.owned table k = []) (items : List ι) :
    schema.owned (History.recordAll schema k ⟨table,[]⟩ [items]).table k = (History.recordAll schema k ⟨table,[]⟩ [items]).newest := by
  rw [← List.nil_append [items],recordAll_concat,newest_record,History.record,owned_written]
  exact (congrArg (· ++ _) fresh).trans (List.nil_append _)

/-- All the rows there are are those of the newest generation just when at most one
    generation was written, or none that had any. -/
theorem kept_alone_iff (fresh : schema.owned table k = []) (generations : List (List ι)) :
    (∀ done, done <+: generations → Kept schema k (History.recordAll schema k ⟨table,[]⟩ done) ∧
      (schema.owned (History.recordAll schema k ⟨table,[]⟩ done).table k).length =
        (History.recordAll schema k ⟨table,[]⟩ done).newest.length) ↔
    (∀ items ∈ generations, items = []) ∨ generations.length ≤ 1 := by
  constructor
  · intro always
    obtain empty | some := (kept_iff fresh generations).mp fun done part => (always done part).1
    · exact .inl empty
    · match generations with
      | [] => exact .inr (by simp)
      | [_] => exact .inr (by simp)
      | first :: second :: rest =>
        have counted := (always [first,second] ⟨rest,rfl⟩).2
        rw [show [first,second] = [first] ++ [second] from rfl,recordAll_concat,newest_record,History.record,owned_written,
          List.length_append,owned_single fresh,← List.nil_append [first],recordAll_concat,newest_record] at counted
        have none : first = [] := by
          rw [← List.length_eq_zero_iff]
          simpa [Versioned.written] using counted
        exact absurd none (some first (by simp))
  · rintro (empty | single) done part
    · have blank := blank_recordAll fresh fun items member => empty items (part.subset member)
      refine ⟨blank.kept,?_⟩
      rw [blank.owned,blank.newest]
    · have short : done.length ≤ 1 := part.length_le.trans single
      refine ⟨(kept_iff fresh done).mpr (uniform_of_single short) done (List.prefix_refl _),?_⟩
      match done with
      | [] =>
        exact (congrArg List.length fresh).trans (congrArg List.length (blank_start fresh).newest.symm)
      | [items] => rw [owned_single fresh]
      | _ :: _ :: _ => simp at short

end
end SocAnalyst.Generations
