import Mathlib.Data.List.Dedup
import Mathlib.Data.List.DropRight
import Mathlib.Data.List.Lattice

/-!
# The most recent items

The distinct items of a sequence in the order in which each occurs last, and the window
of the most recent of them. A bounded store that keeps what was used last holds such a
window, whatever the sequence of its uses.
-/
namespace SocAnalyst.Recency

section
variable {α : Type*}

/-- The last items of a list that follow another are its own last items. -/
theorem rtake_append {front back : List α} {size : Nat} (long : size ≤ back.length) : (front ++ back).rtake size = back.rtake size := by
  have skipped : (front ++ back).length - size = front.length + (back.length - size) := by
    rw [List.length_append]
    omega
  rw [List.rtake,List.rtake,skipped,List.drop_length_add_append]

theorem rtake_of_short {items : List α} {size : Nat} (short : items.length ≤ size) : items.rtake size = items := by
  have none : items.length - size = 0 := by omega
  rw [List.rtake,none,List.drop_zero]

end

variable {α : Type*} [DecidableEq α]

theorem takeWhile_stops {front : List α} {item : α} (absent : item ∉ front) (rest : List α) :
    (front ++ item :: rest).takeWhile (· ≠ item) = front := by
  rw [List.takeWhile_append_of_pos]
  · simp
  · intro other listed
    have differs : other ≠ item := fun same => absent (same ▸ listed)
    simp [differs]

/-- What follows the last occurrence of an item. -/
theorem split_at_last {items : List α} {item : α} (occurs : item ∈ items) :
    ∃ before, items = before ++ item :: items.rtakeWhile (· ≠ item) := by
  obtain ⟨after,before,whole,absent⟩ := List.eq_append_cons_of_mem (List.mem_reverse.mpr occurs)
  refine ⟨before.reverse,?_⟩
  rw [List.rtakeWhile,whole,takeWhile_stops absent]
  have back := congrArg List.reverse whole
  simpa using back

/-- What comes before a list in which an item occurs does not matter. -/
theorem rtakeWhile_append {items : List α} {item : α} (before : List α) (occurs : item ∈ items) :
    (before ++ items).rtakeWhile (· ≠ item) = items.rtakeWhile (· ≠ item) := by
  obtain ⟨after,rest,whole,absent⟩ := List.eq_append_cons_of_mem (List.mem_reverse.mpr occurs)
  rw [List.rtakeWhile,List.rtakeWhile,List.reverse_append,whole,List.append_assoc,List.cons_append,takeWhile_stops absent,
    takeWhile_stops absent]

theorem dedup_snoc (items : List α) (item : α) : (items ++ [item]).dedup = items.dedup.filter (· ≠ item) ++ [item] := by
  induction items with
  | nil => rfl
  | cons first rest ih =>
    by_cases same : first = item
    · subst same
      have listed : first ∈ rest ++ [first] := by simp
      rw [List.cons_append,List.dedup_cons_of_mem listed,ih]
      by_cases again : first ∈ rest
      · rw [List.dedup_cons_of_mem again]
      · rw [List.dedup_cons_of_notMem again]
        simp
    · by_cases again : first ∈ rest
      · have listed : first ∈ rest ++ [item] := List.mem_append_left _ again
        rw [List.cons_append,List.dedup_cons_of_mem listed,List.dedup_cons_of_mem again,ih]
      · have fresh : first ∉ rest ++ [item] := by simp [again,same]
        rw [List.cons_append,List.dedup_cons_of_notMem fresh,List.dedup_cons_of_notMem again,ih]
        simp [same]

/-- The `size` items that occurred most recently, the oldest first. -/
def window (size : Nat) (items : List α) : List α := items.dedup.rtake size

@[simp] theorem window_nil (size : Nat) : window size ([] : List α) = [] := by simp [window]

theorem length_window (size : Nat) (items : List α) : (window size items).length ≤ size := by
  rw [window,List.rtake,List.length_drop]
  omega

theorem nodup_window (size : Nat) (items : List α) : (window size items).Nodup :=
  (List.nodup_dedup items).sublist (List.drop_sublist _ _)

theorem length_without {items : List α} (once : items.Nodup) (item : α) :
    items.length ≤ (items.filter (· ≠ item)).length + 1 ∧ (item ∈ items → (items.filter (· ≠ item)).length + 1 = items.length) := by
  have erased : items.filter (· ≠ item) = items.erase item := by
    rw [once.erase_eq_filter]
    congr 1
    funext other
    by_cases same : other = item <;> simp [same]
  rw [erased]
  by_cases listed : item ∈ items
  · have shorter := List.length_erase_of_mem listed
    have some := List.length_pos_of_mem listed
    omega
  · rw [List.erase_of_not_mem listed]
    exact ⟨by omega,fun member => (listed member).elim⟩

/-- An item that occurs again moves to the end of the window. -/
theorem window_snoc (size : Nat) (items : List α) (item : α) :
    window size (items ++ [item]) = ((window size items).filter (· ≠ item) ++ [item]).rtake size := by
  rw [window,dedup_snoc]
  by_cases short : items.dedup.length ≤ size
  · rw [window,rtake_of_short short]
  · have split : items.dedup = items.dedup.take (items.dedup.length - size) ++ window size items :=
      (List.take_append_drop _ _).symm
    have full : (window size items).length = size := by
      rw [window,List.rtake,List.length_drop]
      omega
    have most := (length_without (nodup_window size items) item).1
    have long : size ≤ ((window size items).filter (· ≠ item) ++ [item]).length := by
      rw [List.length_append,List.length_singleton]
      omega
    have parts := congrArg (List.filter (· ≠ item)) split
    rw [List.filter_append] at parts
    rw [parts,List.append_assoc]
    exact rtake_append long

/-- An item of the window that occurs again pushes no other out. -/
theorem window_again {size : Nat} {items : List α} {item : α} (listed : item ∈ window size items) :
    window size (items ++ [item]) = (window size items).filter (· ≠ item) ++ [item] := by
  have same := (length_without (nodup_window size items) item).2 listed
  have short := length_window size items
  rw [window_snoc,rtake_of_short]
  rw [List.length_append,List.length_singleton]
  omega

/-- An item stays in the window while fewer than `size` distinct others occur after it. -/
theorem mem_window {size : Nat} {items : List α} {item : α} (occurs : item ∈ items)
    (few : (items.rtakeWhile (· ≠ item)).dedup.length < size) : item ∈ window size items := by
  obtain ⟨before,whole⟩ := split_at_last occurs
  have absent : item ∉ items.rtakeWhile (· ≠ item) := fun member => by simpa using List.mem_rtakeWhile_imp member
  have ordered : items.dedup = before ∪ (item :: (items.rtakeWhile (· ≠ item)).dedup) := by
    rw [whole,List.dedup_append,List.dedup_cons_of_notMem absent,← whole]
  obtain ⟨front,suffix⟩ := List.suffix_union_right before (item :: (items.rtakeWhile (· ≠ item)).dedup)
  have early : (front ++ item :: (items.rtakeWhile (· ≠ item)).dedup).length - size ≤ front.length := by
    rw [List.length_append,List.length_cons]
    omega
  rw [window,ordered,← suffix,List.rtake,List.drop_append_of_le_length early]
  simp

end SocAnalyst.Recency
