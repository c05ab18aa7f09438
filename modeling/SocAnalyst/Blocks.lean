import Mathlib.Data.List.Chain
import Mathlib.Data.List.Infix

/-!
# Blocks

A list that arrives in pieces, cut into blocks wherever a mark stands twice in a row. What
follows the last cut waits for the next piece.
-/
namespace SocAnalyst.Blocks

variable {α : Type*}

/-- An element that belongs to the first block, or to what waits when there is none. -/
def push (x : α) : List (List α) × List α → List (List α) × List α
  | ([],tail) => ([],x :: tail)
  | (block :: more,tail) => ((x :: block) :: more,tail)

/-- A block in which the mark never stands twice in a row, nor at its end. -/
def Solid (mark : α) (block : List α) : Prop := List.IsChain (fun x y => ¬ (x = mark ∧ y = mark)) (block ++ [mark])

/-- The blocks, each ended by two marks. -/
def ended (mark : α) (blocks : List (List α)) : List α := blocks.flatMap (· ++ [mark,mark])

section
variable [DecidableEq α]

/-- The completed blocks, and the rest. -/
def cut (mark : α) : List α → List (List α) × List α
  | [] => ([],[])
  | [x] => ([],[x])
  | x :: y :: rest =>
    if x = mark ∧ y = mark then ([] :: (cut mark rest).1,(cut mark rest).2) else push x (cut mark (y :: rest))

-- its equations stand before the lemmas that rewrite with them
attribute [local simp] cut

variable {mark : α}

/-- Before the first block nothing is taken. -/
theorem cut_waiting {xs : List α} (none : (cut mark xs).1 = []) : (cut mark xs).2 = xs := by
  induction xs using cut.induct mark with
  | case1 => rfl
  | case2 x => rfl
  | case3 x y rest twice ih =>
    rw [cut,if_pos twice] at none
    cases none
  | case4 x y rest once ih =>
    rw [cut,if_neg once] at none ⊢
    cases shape : cut mark (y :: rest) with
    | mk blocks tail =>
      rw [shape] at none ih
      cases blocks with
      | nil => exact congrArg (x :: ·) (ih rfl)
      | cons block more => cases none

/-- Cutting goes on from what waits. -/
theorem cut_append (xs ys : List α) :
    cut mark (xs ++ ys) = ((cut mark xs).1 ++ (cut mark ((cut mark xs).2 ++ ys)).1,(cut mark ((cut mark xs).2 ++ ys)).2) := by
  by_cases none : (cut mark xs).1 = []
  · rw [none,cut_waiting none,List.nil_append]
  induction xs using cut.induct mark with
  | case1 => exact absurd rfl none
  | case2 x => exact absurd rfl none
  | case3 x y rest twice ih =>
    rw [List.cons_append,List.cons_append,cut,if_pos twice,cut,if_pos twice]
    by_cases last : (cut mark rest).1 = []
    · rw [last,cut_waiting last]
      rfl
    · rw [ih last]
      rfl
  | case4 x y rest once ih =>
    rw [cut,if_neg once] at none ⊢
    rw [List.cons_append,List.cons_append,cut,if_neg once,← List.cons_append]
    cases shape : cut mark (y :: rest) with
    | mk blocks tail =>
      rw [shape] at none ih
      cases blocks with
      | nil => exact absurd rfl none
      | cons block more =>
        rw [ih (List.cons_ne_nil _ _)]
        rfl

/-- A solid block is cut off at the two marks after it. -/
theorem cut_block {block : List α} (solid : Solid mark block) (rest : List α) :
    cut mark (block ++ mark :: mark :: rest) = (block :: (cut mark rest).1,(cut mark rest).2) := by
  induction block with
  | nil => rw [List.nil_append,cut,if_pos ⟨rfl,rfl⟩]
  | cons x block ih =>
    have inner : Solid mark block := List.IsChain.tail solid
    cases block with
    | nil =>
      have apart : ¬ (x = mark ∧ mark = mark) := (List.isChain_cons_cons.mp solid).1
      rw [List.cons_append,List.nil_append,cut,if_neg apart]
      rw [List.nil_append] at ih
      rw [ih inner]
      rfl
    | cons y block =>
      have apart : ¬ (x = mark ∧ y = mark) := (List.isChain_cons_cons.mp solid).1
      rw [List.cons_append,List.cons_append,cut,if_neg apart,← List.cons_append,ih inner]
      rfl

/-- Up to its second mark nothing of a solid block is cut off. -/
theorem cut_partial {xs : List α} (chain : List.IsChain (fun x y => ¬ (x = mark ∧ y = mark)) xs) : (cut mark xs).1 = [] := by
  induction xs using cut.induct mark with
  | case1 => rfl
  | case2 x => rfl
  | case3 x y rest twice ih => exact absurd twice (List.isChain_cons_cons.mp chain).1
  | case4 x y rest once ih =>
    rw [cut,if_neg once]
    have waits := ih chain.tail
    cases shape : cut mark (y :: rest) with
    | mk blocks tail =>
      rw [shape] at waits
      cases waits
      rfl

/-- Of solid blocks in transit, exactly those are cut off that have arrived with both marks. -/
theorem cut_prefix {blocks : List (List α)} (solid : ∀ block ∈ blocks, Solid mark block) {received : List α}
    (part : received <+: ended mark blocks) :
    ∃ before after, blocks = before ++ after ∧ (cut mark received).1 = before ∧ ended mark before <+: received ∧
      ∀ next ∈ after.head?, ¬ ended mark (before ++ [next]) <+: received := by
  induction blocks generalizing received with
  | nil =>
    rw [List.prefix_nil.mp part]
    exact ⟨[],[],rfl,rfl,List.prefix_refl _,by simp⟩
  | cons block blocks ih =>
    have whole : ended mark (block :: blocks) = block ++ [mark,mark] ++ ended mark blocks := rfl
    rw [whole] at part
    by_cases arrived : block ++ [mark,mark] <+: received
    · obtain ⟨later,rfl⟩ := arrived
      have rest : later <+: ended mark blocks := (List.prefix_append_right_inj _).mp part
      obtain ⟨before,after,rfl,cutoff,held,waiting⟩ := ih (fun other member => solid other (List.mem_cons_of_mem _ member)) rest
      refine ⟨block :: before,after,rfl,?_,?_,?_⟩
      · rw [List.append_assoc]
        show (cut mark (block ++ mark :: mark :: later)).1 = _
        rw [cut_block (solid block List.mem_cons_self),cutoff]
      · exact (List.prefix_append_right_inj _).mpr held
      · intro next first more
        exact waiting next first ((List.prefix_append_right_inj _).mp more)
    · refine ⟨[],block :: blocks,rfl,?_,List.nil_prefix,?_⟩
      · apply cut_partial
        have short : received <+: block ++ [mark] := by
          have inside : received <+: block ++ [mark] ++ [mark] := by
            rw [List.append_assoc]
            exact (List.prefix_or_prefix_of_prefix part (List.prefix_append _ _)).resolve_right arrived
          obtain whole | short := List.prefix_concat_iff.mp inside
          · exact absurd (by rw [whole,List.append_assoc]; exact List.prefix_refl _) arrived
          · exact short
        obtain ⟨rest,split⟩ := short
        have chain : List.IsChain (fun x y => ¬ (x = mark ∧ y = mark)) (received ++ rest) := split ▸ solid block List.mem_cons_self
        exact chain.left_of_append
      · intro next first
        rw [← Option.mem_some_iff.mp first]
        simpa [ended] using arrived

end

/-! ### Lines -/

section
variable {mark : α}

/-- A line without the mark is followed by it as the first. -/
theorem chain_line {line : List α} (free : mark ∉ line) : List.IsChain (fun x y => ¬ (x = mark ∧ y = mark)) (line ++ [mark]) := by
  induction line with
  | nil => exact List.isChain_singleton _
  | cons x line ih =>
    have rest := ih fun member => free (List.mem_cons_of_mem _ member)
    have apart : x ≠ mark := fun same => free (same ▸ List.mem_cons_self)
    cases line with
    | nil => exact List.isChain_cons_cons.mpr ⟨fun both => apart both.1,rest⟩
    | cons y line => exact List.isChain_cons_cons.mpr ⟨fun both => apart both.1,rest⟩

/-- Lines with something on them make a solid block. -/
theorem solid_intercalate {lines : List (List α)} (free : ∀ line ∈ lines, line ≠ [] ∧ mark ∉ line) :
    Solid mark ([mark].intercalate lines) := by
  induction lines with
  | nil => exact chain_line List.not_mem_nil
  | cons line lines ih =>
    have rest := ih fun other member => free other (List.mem_cons_of_mem _ member)
    cases lines with
    | nil =>
      rw [List.intercalate_singleton]
      exact chain_line (free line List.mem_cons_self).2
    | cons next lines =>
      rw [List.intercalate_cons_cons,Solid,List.append_assoc]
      refine List.IsChain.append (chain_line (free line List.mem_cons_self).2) rest ?_
      obtain ⟨some,clear⟩ := free next (List.mem_cons_of_mem _ List.mem_cons_self)
      obtain ⟨head,tail,rfl⟩ := List.exists_cons_of_ne_nil some
      intro last _ first begins
      rw [List.intercalate_cons_cons_left] at begins
      have same : head = first := by simpa using begins
      exact fun both => clear (both.2 ▸ same ▸ List.mem_cons_self)

theorem not_mem_splitOn [BEq α] [LawfulBEq α] (xs : List α) : ∀ line ∈ xs.splitOn mark, mark ∉ line := by
  induction xs with
  | nil =>
    intro line member
    rw [List.splitOn_nil] at member
    rw [List.mem_singleton.mp member]
    exact List.not_mem_nil
  | cons x xs ih =>
    intro line member
    rw [List.splitOn_cons_eq_if_modifyHead] at member
    split_ifs at member with same
    · rcases List.mem_cons.mp member with rfl | later
      · exact List.not_mem_nil
      · exact ih line later
    · cases shape : xs.splitOn mark with
      | nil => exact absurd shape (List.splitOn_ne_nil _ _)
      | cons first rest =>
        rw [shape] at member ih
        rcases List.mem_cons.mp member with rfl | later
        · intro inside
          rcases List.mem_cons.mp inside with rfl | inner
          · exact same (beq_self_eq_true _)
          · exact ih first List.mem_cons_self inner
        · exact ih line (List.mem_cons_of_mem _ later)

end
end SocAnalyst.Blocks
