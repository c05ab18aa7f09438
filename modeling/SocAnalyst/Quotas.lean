import Mathlib.Algebra.BigOperators.Group.Finset.Piecewise
import Mathlib.Algebra.Order.BigOperators.Group.Finset
import Mathlib.Data.List.Basic

/-!
# Quotas

Items come one after the other, and an item is granted when fewer than a quota of those
before it have its key.
-/
namespace SocAnalyst.Quotas

variable {ι κ : Type*} [DecidableEq κ] (key : ι → κ) (most : Nat)

/-- How many items have a key. -/
def spent (seen : List ι) (k : κ) : Nat := seen.countP fun item => key item = k

theorem spent_append (seen items : List ι) (k : κ) : spent key (seen ++ items) k = spent key seen k + spent key items k :=
  List.countP_append

theorem spent_single (item : ι) (k : κ) : spent key [item] k = if key item = k then 1 else 0 := by
  simp [spent,List.countP_singleton]

/-- The items that are granted after some others were seen. -/
def granted : List ι → List ι → List ι
  | _,[] => []
  | seen,item :: rest =>
    if spent key seen (key item) < most then item :: granted (seen ++ [item]) rest else granted (seen ++ [item]) rest

/-- Of the items with a key the first are granted, as many as the quota leaves. -/
theorem filter_granted (k : κ) (seen items : List ι) :
    (granted key most seen items).filter (fun item => key item = k) =
      (items.filter fun item => key item = k).take (most - spent key seen k) := by
  induction items generalizing seen with
  | nil => simp [granted]
  | cons item rest ih =>
    by_cases same : key item = k
    · have counted : spent key (seen ++ [item]) k = spent key seen k + 1 := by
        rw [spent_append,spent_single,if_pos same]
      rw [granted,same,List.filter_cons_of_pos (by simpa using same)]
      split_ifs with left
      · obtain ⟨n,short⟩ := Nat.exists_eq_add_of_lt left
        rw [List.filter_cons_of_pos (by simpa using same),ih,counted,show most - spent key seen k = (n + 1) by omega,List.take_succ_cons,
          show most - (spent key seen k + 1) = n by omega]
      · rw [ih,counted,show most - spent key seen k = 0 by omega,show most - (spent key seen k + 1) = 0 by omega]
        simp
    · have counted : spent key (seen ++ [item]) k = spent key seen k := by
        rw [spent_append,spent_single,if_neg same,Nat.add_zero]
      rw [granted,List.filter_cons_of_neg (by simpa using same)]
      split_ifs
      · rw [List.filter_cons_of_neg (by simpa using same),ih,counted]
      · rw [ih,counted]

theorem spent_granted (k : κ) (seen items : List ι) :
    spent key (granted key most seen items) k = min (most - spent key seen k) (spent key items k) := by
  have first := congrArg List.length (filter_granted key most k seen items)
  rwa [List.length_take,← List.countP_eq_length_filter,← List.countP_eq_length_filter] at first

/-- What is granted to some keys does not depend on the items with other keys. -/
theorem granted_alone {mine : ι → Bool} (keyed : ∀ x y, key x = key y → mine x = mine y) (seen items : List ι) :
    (granted key most seen items).filter mine = granted key most (seen.filter mine) (items.filter mine) := by
  have kept : ∀ (seen : List ι) (item : ι), mine item = true → spent key (seen.filter mine) (key item) = spent key seen (key item) := by
    intro seen item own
    rw [spent,spent,List.countP_filter]
    refine List.countP_congr fun other _ => ?_
    by_cases same : key other = key item
    · simp [same,keyed _ _ same,own]
    · simp [same]
  induction items generalizing seen with
  | nil => simp [granted]
  | cons item rest ih =>
    by_cases own : mine item = true
    · have with_it : (seen ++ [item]).filter mine = seen.filter mine ++ [item] := by simp [own]
      rw [List.filter_cons_of_pos own,granted,granted,kept seen item own,← with_it]
      split_ifs
      · rw [List.filter_cons_of_pos own,ih]
      · exact ih _
    · have without : (seen ++ [item]).filter mine = seen.filter mine := by simp [own]
      rw [List.filter_cons_of_neg own,granted,← without]
      split_ifs
      · rw [List.filter_cons_of_neg own,ih]
      · exact ih _

/-- Items under few keys are granted few times. -/
theorem countP_granted_le {p : ι → Bool} (keys : Finset κ) (within : ∀ item, p item = true → key item ∈ keys) (items : List ι) :
    (granted key most [] items).countP p ≤ keys.card * most := by
  have split : ∀ xs : List ι, xs.countP p ≤ ∑ k ∈ keys, spent key xs k := by
    intro xs
    induction xs with
    | nil => simp [spent]
    | cons x rest ih =>
      have each : ∀ k, spent key (x :: rest) k = (if key x = k then 1 else 0) + spent key rest k := by
        intro k
        rw [← List.singleton_append,spent_append,spent_single]
      simp only [each,Finset.sum_add_distrib,Finset.sum_ite_eq,List.countP_cons]
      split_ifs with chosen listed
      · omega
      · exact absurd (within x chosen) listed
      · omega
      · omega
  have each : ∀ k ∈ keys, spent key (granted key most [] items) k ≤ most := by
    intro k _
    rw [spent_granted]
    exact (Nat.min_le_left _ _).trans (Nat.sub_le _ _)
  exact (split _).trans (by simpa using Finset.sum_le_card_nsmul _ _ _ each)

end SocAnalyst.Quotas
