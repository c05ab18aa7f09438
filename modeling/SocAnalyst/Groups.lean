import SocAnalyst.Dicts

/-!
# Dictionaries built from a list

What the loops that fill a dictionary item by item leave under each key: the first
item, the last one, or all of them in order. And what a cut keeps of a sorted list.
-/
namespace SocAnalyst.Groups
open SocAnalyst.Dicts

variable {κ α β : Type*} [DecidableEq κ]

/-! ### One value for each key -/

/-- `setdefault` for each item keeps the first with a key. -/
theorem get?_setdefault (name : α → κ) (items : List α) (dict : Dict κ α) (key : κ) :
    (items.foldl (fun kept item => if (kept.get? (name item)).isSome then kept else kept.set (name item) item) dict).get? key =
      (dict.get? key).or (items.find? fun item => name item = key) := by
  induction items generalizing dict with
  | nil => simp
  | cons item rest ih =>
    rw [List.foldl_cons,ih]
    by_cases known : (dict.get? (name item)).isSome
    · rw [if_pos known]
      by_cases here : name item = key
      · obtain ⟨value,found⟩ := Option.isSome_iff_exists.mp known
        rw [here] at found
        simp [found]
      · simp [here]
    · rw [if_neg known,Dict.get?_set]
      by_cases here : name item = key
      · subst here
        have absent : dict.get? (name item) = none := by simpa using known
        simp [absent]
      · have other : ¬ key = name item := fun same => here same.symm
        simp [here,other]

/-- Setting for each item keeps the last with a key. -/
theorem get?_assigned (name : β → κ) (value : β → α) (items : List β) (dict : Dict κ α) (key : κ) :
    (items.foldl (fun kept item => kept.set (name item) (value item)) dict).get? key =
      ((items.reverse.find? fun item => name item = key).map value).or (dict.get? key) := by
  induction items generalizing dict with
  | nil => simp
  | cons item rest ih =>
    rw [List.foldl_cons,ih,List.reverse_cons,List.find?_append,Dict.get?_set]
    cases later : rest.reverse.find? fun item => name item = key with
    | some found => simp
    | none =>
      by_cases here : name item = key
      · simp [here]
      · have other : ¬ key = name item := fun same => here same.symm
        simp [here,other]

/-- What is stored was set. -/
theorem mem_of_get?_assigned {items : List (κ × α)} {key : κ} {value : α}
    (found : (items.foldl (fun kept item => kept.set item.1 item.2) (Dict.empty : Dict κ α)).get? key = some value) : (key,value) ∈ items := by
  rw [get?_assigned,Dict.get?_empty,Option.or_none,Option.map_eq_some_iff] at found
  obtain ⟨item,last,rfl⟩ := found
  obtain rfl : item.1 = key := by simpa using List.find?_some last
  exact List.mem_reverse.mp (List.mem_of_find?_eq_some last)

/-- Under distinct keys everything that is set is stored. -/
theorem get?_assigned_mem {items : List (κ × α)} (distinct : (items.map Prod.fst).Nodup) {key : κ} {value : α} (member : (key,value) ∈ items) :
    (items.foldl (fun kept item => kept.set item.1 item.2) (Dict.empty : Dict κ α)).get? key = some value := by
  rw [get?_assigned,Dict.get?_empty,Option.or_none,Option.map_eq_some_iff]
  cases last : items.reverse.find? fun item => item.1 = key with
  | none =>
    have missed := List.find?_eq_none.mp last (key,value) (List.mem_reverse.mpr member)
    simp at missed
  | some item =>
    have here : item.1 = key := by simpa using List.find?_some last
    have inside := List.mem_reverse.mp (List.mem_of_find?_eq_some last)
    exact ⟨item,rfl,by rw [List.inj_on_of_nodup_map distinct inside member here]⟩

/-- `dict.update(other)`. -/
def update (dict other : Dict κ α) : Dict κ α := other.entries.foldl (fun kept item => kept.set item.1 item.2) dict

theorem get?_update (dict other : Dict κ α) (key : κ) : (update dict other).get? key = (other.get? key).or (dict.get? key) := by
  rw [update,get?_assigned]
  cases last : other.entries.reverse.find? fun item => item.1 = key with
  | none =>
    have absent : other.get? key = none := by
      rw [Dict.get?,Option.map_eq_none_iff,List.find?_eq_none]
      exact fun item member => List.find?_eq_none.mp last item (List.mem_reverse.mpr member)
    rw [absent]
    rfl
  | some item =>
    obtain rfl : item.1 = key := by simpa using List.find?_some last
    have stored := (Dict.get?_eq_some other item.1 item.2).mpr (List.mem_reverse.mp (List.mem_of_find?_eq_some last))
    rw [stored]
    rfl

/-! ### All values for each key -/

/-- `setdefault(key, []).append(value)` for each pair. -/
def grouped (pairs : List (κ × α)) : Dict κ (List α) :=
  pairs.foldl (fun groups pair => groups.set pair.1 ((groups.get? pair.1).getD [] ++ [pair.2])) .empty

/-- The values paired with a key, in order. -/
def valuesAt (pairs : List (κ × α)) (key : κ) : List α := (pairs.filter fun pair => pair.1 = key).map Prod.snd

@[simp] theorem mem_valuesAt {pairs : List (κ × α)} {key : κ} {value : α} : value ∈ valuesAt pairs key ↔ (key,value) ∈ pairs := by
  simp [valuesAt]

theorem valuesAt_append (first second : List (κ × α)) (key : κ) :
    valuesAt (first ++ second) key = valuesAt first key ++ valuesAt second key := by simp [valuesAt]

theorem valuesAt_perm {first second : List (κ × α)} (same : first.Perm second) (key : κ) :
    (valuesAt first key).Perm (valuesAt second key) := (same.filter _).map _

private theorem get?_grouped_from (pairs : List (κ × α)) (groups : Dict κ (List α)) (key : κ) :
    (pairs.foldl (fun groups pair => groups.set pair.1 ((groups.get? pair.1).getD [] ++ [pair.2])) groups).get? key =
      if valuesAt pairs key = [] then groups.get? key else some ((groups.get? key).getD [] ++ valuesAt pairs key) := by
  induction pairs generalizing groups with
  | nil => simp [valuesAt]
  | cons pair rest ih =>
    rw [List.foldl_cons,ih,Dict.get?_set]
    by_cases here : pair.1 = key
    · have started : valuesAt (pair :: rest) key = pair.2 :: valuesAt rest key := by simp [valuesAt,here]
      rw [started,if_neg (List.cons_ne_nil _ _),if_pos here.symm]
      by_cases alone : valuesAt rest key = []
      · simp [alone,here]
      · simp [alone,here]
    · have skipped : valuesAt (pair :: rest) key = valuesAt rest key := by simp [valuesAt,here]
      have other : ¬ key = pair.1 := fun same => here same.symm
      rw [skipped,if_neg other]

/-- A key's group holds its values, and there is one when there are any. -/
theorem get?_grouped (pairs : List (κ × α)) (key : κ) :
    (grouped pairs).get? key = if valuesAt pairs key = [] then none else some (valuesAt pairs key) := by
  rw [grouped,get?_grouped_from]
  simp

theorem mem_grouped {pairs : List (κ × α)} {key : κ} {values : List α} :
    (key,values) ∈ (grouped pairs).entries ↔ values = valuesAt pairs key ∧ values ≠ [] := by
  rw [← Dict.get?_eq_some,get?_grouped]
  by_cases alone : valuesAt pairs key = []
  · rw [if_pos alone,alone]
    simp
  · rw [if_neg alone]
    constructor
    · rintro ⟨rfl⟩
      exact ⟨rfl,alone⟩
    · rintro ⟨rfl,_⟩
      rfl

/-! ### Sorting and cutting -/

/-- What is kept of a sorted list comes before what is left out. -/
theorem before_dropped {order : α → α → Prop} {sorted : List α} (ordered : sorted.Pairwise order) (limit : Nat) {x y : α}
    (kept : x ∈ sorted.take limit) (left : y ∈ sorted.drop limit) : order x y := by
  rw [← List.take_append_drop limit sorted,List.pairwise_append] at ordered
  exact ordered.2.2 x kept y left

theorem perm_sortedBy [LE β] [DecidableLE β] (key : α → β) (items : List α) : (sortedBy key items).Perm items :=
  List.perm_insertionSort _ items

end SocAnalyst.Groups
