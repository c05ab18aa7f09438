import Mathlib.Data.List.Induction
import Mathlib.Data.List.Nodup
import Mathlib.Data.List.Sort

/-!
# Dictionaries in insertion order

A finite map that remembers the order its keys were first set in. Setting a key
again replaces its value in place.
-/
namespace SocAnalyst.Dicts

variable {κ α : Type*} [DecidableEq κ]

/-- Set a key among entries. -/
def assign (key : κ) (value : α) : List (κ × α) → List (κ × α)
  | [] => [(key,value)]
  | entry :: rest => if entry.1 = key then (key,value) :: rest else entry :: assign key value rest

theorem keys_assign (key : κ) (value : α) (entries : List (κ × α)) :
    (assign key value entries).map Prod.fst =
      if key ∈ entries.map Prod.fst then entries.map Prod.fst else entries.map Prod.fst ++ [key] := by
  induction entries with
  | nil => rfl
  | cons entry rest ih =>
    by_cases same : entry.1 = key
    · simp [assign,same]
    · have other : key ≠ entry.1 := fun equal => same equal.symm
      simp only [assign,same,if_false,List.map_cons,ih,List.mem_cons,other,false_or]
      split_ifs <;> rfl

theorem assign_fresh {key : κ} {value : α} {entries : List (κ × α)} (fresh : key ∉ entries.map Prod.fst) :
    assign key value entries = entries ++ [(key,value)] := by
  induction entries with
  | nil => rfl
  | cons entry rest ih =>
    have other : ¬ entry.1 = key := fun same => fresh (by simp [same])
    have later : key ∉ rest.map Prod.fst := fun listed => fresh (by simp only [List.map_cons,List.mem_cons,listed,or_true])
    simp [assign,other,ih later]

/-- A dictionary: entries under pairwise distinct keys, oldest first. -/
structure Dict (κ α : Type*) where
  entries : List (κ × α)
  distinct : (entries.map Prod.fst).Nodup

namespace Dict

/-- The dictionary without entries. -/
def empty : Dict κ α := ⟨[],List.nodup_nil⟩

def keys (dict : Dict κ α) : List κ := dict.entries.map Prod.fst
def values (dict : Dict κ α) : List α := dict.entries.map Prod.snd

def get? (dict : Dict κ α) (key : κ) : Option α := (dict.entries.find? fun entry => entry.1 = key).map Prod.snd

/-- Set a key: in place when it is there, else at the end. -/
def set (dict : Dict κ α) (key : κ) (value : α) : Dict κ α where
  entries := assign key value dict.entries
  distinct := by
    have nodup := dict.distinct
    rw [keys_assign]
    split_ifs with known
    · exact nodup
    · exact List.nodup_append.mpr ⟨nodup,List.nodup_singleton key,by
        intro a member b single
        rw [List.mem_singleton] at single
        exact fun equal => known (single ▸ equal ▸ member)⟩

@[simp] theorem get?_empty (key : κ) : (empty : Dict κ α).get? key = none := rfl

theorem find?_assign (key other : κ) (value : α) (entries : List (κ × α)) :
    ((assign key value entries).find? fun entry => entry.1 = other).map Prod.snd =
      if other = key then some value else (entries.find? fun entry => entry.1 = other).map Prod.snd := by
  induction entries with
  | nil =>
    by_cases same : other = key
    · simp [assign,same]
    · have miss : ¬ key = other := fun equal => same equal.symm
      simp [assign,same,miss]
  | cons entry rest ih =>
    by_cases hit : entry.1 = key
    · by_cases same : other = key
      · simp [assign,hit,same]
      · have miss : ¬ key = other := fun equal => same equal.symm
        have skipped : ¬ entry.1 = other := fun equal => miss (hit ▸ equal)
        simp [assign,hit,same,miss]
    · simp only [assign,hit,if_false]
      by_cases here : entry.1 = other
      · have same : ¬ other = key := fun equal => hit (here.trans equal)
        simp [here,same]
      · simpa [here] using ih

theorem get?_set (dict : Dict κ α) (key other : κ) (value : α) :
    (dict.set key value).get? other = if other = key then some value else dict.get? other :=
  find?_assign key other value dict.entries

@[simp] theorem get?_set_self (dict : Dict κ α) (key : κ) (value : α) : (dict.set key value).get? key = some value := by
  simp [get?_set]

/-- An entry is stored exactly when its key is looked up to it. -/
theorem get?_eq_some (dict : Dict κ α) (key : κ) (value : α) :
    dict.get? key = some value ↔ (key,value) ∈ dict.entries := by
  obtain ⟨entries,distinct⟩ := dict
  simp only [get?]
  induction entries with
  | nil => simp
  | cons entry rest ih =>
    obtain ⟨k,v⟩ := entry
    simp only [List.map_cons,List.nodup_cons] at distinct
    by_cases same : k = key
    · subst same
      have fresh : (k,value) ∉ rest := fun member => distinct.1 (List.mem_map.mpr ⟨_,member,rfl⟩)
      simp [fresh,eq_comm]
    · have other : ¬ key = k := fun equal => same equal.symm
      simpa [same,other] using ih distinct.2

theorem mem_values (dict : Dict κ α) (value : α) : value ∈ dict.values ↔ ∃ key, dict.get? key = some value := by
  simp only [values,List.mem_map,get?_eq_some]
  constructor
  · rintro ⟨⟨key,_⟩,member,rfl⟩
    exact ⟨key,member⟩
  · rintro ⟨key,member⟩
    exact ⟨_,member,rfl⟩

theorem get?_isSome (dict : Dict κ α) (key : κ) : (dict.get? key).isSome = true ↔ key ∈ dict.keys := by
  simp [get?,keys]

/-- Every value replaced, under its own key. -/
def mapValues (dict : Dict κ α) (f : α → α) : Dict κ α where
  entries := dict.entries.map fun entry => (entry.1,f entry.2)
  distinct := by
    rw [List.map_map]
    exact dict.distinct

theorem get?_mapValues (dict : Dict κ α) (f : α → α) (key : κ) : (dict.mapValues f).get? key = (dict.get? key).map f := by
  obtain ⟨entries,distinct⟩ := dict
  simp only [get?,mapValues]
  clear distinct
  induction entries with
  | nil => rfl
  | cons entry rest ih => by_cases here : entry.1 = key <;> simp_all

/-- The dictionary without a key. -/
def erase (dict : Dict κ α) (key : κ) : Dict κ α where
  entries := dict.entries.filter fun entry => entry.1 ≠ key
  distinct := dict.distinct.sublist (List.filter_sublist.map _)

theorem get?_erase (dict : Dict κ α) (key other : κ) : (dict.erase key).get? other = if other = key then none else dict.get? other := by
  simp only [get?,erase,List.find?_filter]
  split_ifs with same
  · subst same
    simp
  · congr 2
    funext entry
    by_cases here : entry.1 = other
    · simp [here,same]
    · simp [here]

/-- The dictionary with one key's entry at the end. -/
def moveToEnd (dict : Dict κ α) (key : κ) : Dict κ α where
  entries := dict.entries.filter (fun entry => entry.1 ≠ key) ++ dict.entries.filter (fun entry => entry.1 = key)
  distinct := by
    have same : (dict.entries.filter (fun entry => entry.1 ≠ key) ++ dict.entries.filter (fun entry => entry.1 = key)).Perm dict.entries :=
      (List.perm_append_comm).trans (by simpa using List.filter_append_perm (fun entry => decide (entry.1 = key)) dict.entries)
    exact (same.map Prod.fst).nodup_iff.mpr dict.distinct

theorem mem_moveToEnd (dict : Dict κ α) (key : κ) (entry : κ × α) : entry ∈ (dict.moveToEnd key).entries ↔ entry ∈ dict.entries := by
  by_cases same : entry.1 = key <;> simp [moveToEnd,same]

@[simp] theorem get?_moveToEnd (dict : Dict κ α) (key other : κ) : (dict.moveToEnd key).get? other = dict.get? other := by
  ext value
  rw [get?_eq_some,get?_eq_some,mem_moveToEnd]

/-- A key that is there becomes the newest, the others keep their order. -/
theorem keys_moveToEnd (dict : Dict κ α) {key : κ} (listed : key ∈ dict.keys) :
    (dict.moveToEnd key).keys = dict.keys.filter (· ≠ key) ++ [key] := by
  have alone : dict.keys.filter (· = key) = [key] := by
    have once : List.count key dict.keys = 1 := List.count_eq_one_of_mem dict.distinct listed
    rw [List.filter_eq,once,List.replicate_one]
  have rest : (dict.moveToEnd key).keys = dict.keys.filter (· ≠ key) ++ dict.keys.filter (· = key) := by
    simp only [keys,moveToEnd,List.map_append,List.filter_map]
    rfl
  rw [rest,alone]

theorem keys_set (dict : Dict κ α) (key : κ) (value : α) : (dict.set key value).keys = if key ∈ dict.keys then dict.keys else dict.keys ++ [key] :=
  keys_assign key value dict.entries

/-- A key set anew is the newest. -/
theorem keys_set_moveToEnd (dict : Dict κ α) (key : κ) (value : α) :
    ((dict.set key value).moveToEnd key).keys = dict.keys.filter (· ≠ key) ++ [key] := by
  have listed : key ∈ (dict.set key value).keys := by
    rw [keys_set]
    split_ifs with known
    · exact known
    · simp
  rw [keys_moveToEnd _ listed,keys_set]
  split_ifs <;> simp

/-- The dictionary without its oldest entries. -/
def dropOldest (dict : Dict κ α) (count : Nat) : Dict κ α where
  entries := dict.entries.drop count
  distinct := by
    rw [List.map_drop]
    exact dict.distinct.sublist (List.drop_sublist _ _)

theorem get?_dropOldest {dict : Dict κ α} {count : Nat} {key : κ} {value : α} (kept : (dict.dropOldest count).get? key = some value) :
    dict.get? key = some value := by
  rw [get?_eq_some] at kept ⊢
  exact List.mem_of_mem_drop kept

/-- Items stored under distinct new keys are added at the end. -/
theorem entries_collect {β : Type*} (key : β → κ) (value : β → α) {items : List β} (dict : Dict κ α)
    (fresh : (dict.keys ++ items.map key).Nodup) :
    (items.foldl (fun dict item => dict.set (key item) (value item)) dict).entries =
      dict.entries ++ items.map fun item => (key item,value item) := by
  induction items generalizing dict with
  | nil => simp
  | cons item rest ih =>
    have absent : key item ∉ dict.keys := by
      intro known
      exact (List.nodup_append.mp fresh).2.2 _ known _ (by simp) rfl
    have added : (dict.set (key item) (value item)).entries = dict.entries ++ [(key item,value item)] := assign_fresh absent
    have keys : (dict.set (key item) (value item)).keys = dict.keys ++ [key item] := by
      rw [keys,added,List.map_append]
      rfl
    have later : ((dict.set (key item) (value item)).keys ++ rest.map key).Nodup := by
      rw [keys,List.append_assoc]
      exact fresh
    rw [List.foldl_cons,ih _ later,added,List.append_assoc]
    rfl

end Dict

/-! ### Sorting by a key -/

/-- `sorted(xs, key=...)`: stable, by the order of the keys. -/
def sortedBy {β : Type*} [LE β] [DecidableLE β] (key : α → β) (xs : List α) : List α :=
  xs.insertionSort fun x y => key x ≤ key y

omit [DecidableEq κ] in
@[simp] theorem mem_sortedBy {β : Type*} [LE β] [DecidableLE β] (key : α → β) (xs : List α) (x : α) :
    x ∈ sortedBy key xs ↔ x ∈ xs := (List.perm_insertionSort _ xs).mem_iff

theorem pairwise_sortedBy {β : Type*} [LinearOrder β] (key : α → β) (xs : List α) :
    (sortedBy key xs).Pairwise fun x y => key x ≤ key y := by
  have total : Std.Total fun x y : α => key x ≤ key y := ⟨fun x y => le_total (key x) (key y)⟩
  have trans : IsTrans α fun x y => key x ≤ key y := ⟨fun x y z => le_trans⟩
  exact List.pairwise_insertionSort _ xs

theorem strict_sortedBy {β : Type*} [LinearOrder β] {key : α → β} {xs : List α} (once : (xs.map key).Nodup) :
    (sortedBy key xs).Pairwise fun x y => key x < key y := by
  have distinct : ((sortedBy key xs).map key).Nodup := ((List.perm_insertionSort _ xs).map key).nodup_iff.mpr once
  rw [List.Nodup,List.pairwise_map] at distinct
  exact ((pairwise_sortedBy key xs).and distinct).imp fun both => lt_of_le_of_ne both.1 both.2

/-- Lists in the strict order of their keys are equal when they have the same members. -/
theorem strict_unique {β : Type*} [PartialOrder β] {key : α → β} {xs ys : List α}
    (first : xs.Pairwise fun x y => key x < key y) (second : ys.Pairwise fun x y => key x < key y)
    (same : ∀ x, x ∈ xs ↔ x ∈ ys) : xs = ys := by
  have once : ∀ {zs : List α}, (zs.Pairwise fun x y => key x < key y) → zs.Nodup :=
    fun sorted => sorted.imp fun below equal => (equal ▸ below).false
  exact List.Perm.eq_of_pairwise (fun x y _ _ below above => ((below.trans above).false).elim) first second
    ((List.perm_ext_iff_of_nodup (once first) (once second)).mpr same)

/-! ### One item for each key -/

/-- The first item with each key, in order. -/
def keepFirst (key : α → κ) (items : List α) : List α :=
  items.foldl (fun kept item => if key item ∈ kept.map key then kept else kept ++ [item]) []

/-- What is found by its key is found among the first items. -/
theorem find?_keepFirst (key : α → κ) (items : List α) {p : α → Bool} (keyed : ∀ x y, key x = key y → p x = p y) :
    (keepFirst key items).find? p = items.find? p := by
  have from_kept : ∀ kept : List α,
      (items.foldl (fun kept item => if key item ∈ kept.map key then kept else kept ++ [item]) kept).find? p = (kept ++ items).find? p := by
    induction items with
    | nil => simp
    | cons item items ih =>
      intro kept
      rw [List.foldl_cons,ih]
      split_ifs with known
      · obtain ⟨other,listed,same⟩ := List.mem_map.mp known
        rw [List.find?_append,List.find?_append,List.find?_cons]
        cases found : kept.find? p with
        | some first => rfl
        | none =>
          have missed : p item = false := by
            rw [← keyed other item same]
            simpa using List.find?_eq_none.mp found other listed
          rw [missed]
      · rw [List.append_assoc,List.singleton_append]
  exact from_kept []

end SocAnalyst.Dicts
