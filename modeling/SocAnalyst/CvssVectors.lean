import Mathlib.Data.List.Perm.Subperm
import Mathlib.Data.Set.List
import SocAnalyst.Cvss

/-!
# Which CVSS vectors are understood

The vectors that `parse_vector`, `base_score` and `interpret` of `tools/cvss.py` accept,
judged by the grammar of a base vector: each base metric once, and no other metric.
-/
namespace SocAnalyst.CvssVectors
open SocAnalyst.Builtins SocAnalyst.Dicts SocAnalyst.Values SocAnalyst.Cvss

/-- `metric:value`. -/
def pairText (pair : Metric × Text) : Text := pair.1.key ++ 58 :: pair.2

/-- A value that the specification defines for the metric. -/
def Defined (metric : Metric) (value : Text) : Prop := ∃ long, (value,long) ∈ names metric

/-- The grammar of a base vector: its pairs are of the base metrics, each once. -/
def WellFormed (text : Text) : Prop :=
  ∃ opening ∈ [lit "CVSS:3.0/",lit "CVSS:3.1/"], ∃ pairs : List (Metric × Text),
    text = opening ++ joined [47] (pairs.map pairText) ∧ (∀ pair ∈ pairs, Defined pair.1 pair.2) ∧
      ∀ metric, (pairs.map Prod.fst).count metric = 1

/-! ### The second reading -/

/-- The text of a pair before its colon. -/
def keyOf (pair : Text) : Text := pair.takeWhile (· ≠ 58)
/-- The text of a pair after its colon. -/
def valueOf (pair : Text) : Text := (pair.dropWhile (· ≠ 58)).drop 1

/-- `part.split(":", 1)`. -/
def splitOnce (part : Text) : List Text := if 58 ∈ part then [keyOf part,valueOf part] else [part]

/-- An item of the sequence that `dict` is given, which has to be a pair. -/
def setItem (raw : Dict Text Text) : List Text → Except PyError (Dict Text Text)
  | [key,value] => .ok (raw.set key value)
  | _ => .error .ValueError

/-- `dict` of a sequence of pairs. -/
def dictOf (items : List (List Text)) : Except PyError (Dict Text Text) := items.foldlM setItem Dict.empty

/-- The field of a parsed vector for a metric. -/
def fieldOf (parsed : CvssMetrics) : Metric → Option Text
  | .AV => parsed.attackVector
  | .AC => parsed.attackComplexity
  | .PR => parsed.privilegesRequired
  | .UI => parsed.userInteraction
  | .S => parsed.scope
  | .C => parsed.confidentiality
  | .I => parsed.integrity
  | .A => parsed.availability

/-- The values that scoring reads, and the fields that interpreting sets, are those of the
    parsed metrics. -/
def ReadAlike [Printer] (vector : Text) : Prop :=
  ∀ pairs metrics, vectorPairs (strip vector) = some pairs → parseVector vector = some metrics →
    ∃ raw, dictOf (pairs.map splitOnce) = .ok raw ∧
      (∀ metric, (raw.get? metric.key).bind (entryOf (names metric)) = some (named metrics metric)) ∧
      (∀ score, baseScore vector = some score → score.value = scoreOf raw ((raw.get? Metric.S.key).getD [])) ∧
      ∀ reported parsed, interpret vector reported = some parsed → ∀ metric, fieldOf parsed metric = some (named metrics metric)

/-- What the three functions owe a text: each accepts it exactly when, trimmed, it is a
    base vector, and they read one value for each metric. -/
structure Understood [Printer] (vector : Text) : Prop where
  parsed : (parseVector vector).isSome = true ↔ WellFormed (strip vector)
  scored : (baseScore vector).isSome = true ↔ WellFormed (strip vector)
  interpreted : ∀ reported, (interpret vector reported).isSome = true ↔ WellFormed (strip vector)
  alike : ReadAlike vector

/-- The value of the last pair with the key. -/
def lastUnder (pairs : List Text) (key : Text) : Option Text := (pairs.reverse.find? fun pair => keyOf pair = key).map valueOf

/-- The last pair of every base metric has a defined value. -/
def Complete (pairs : List Text) : Prop := ∀ metric : Metric, ∃ value, lastUnder pairs metric.key = some value ∧ Defined metric value

/-- A text of more pairs than there are base metrics, in which the last pair of each base
    metric has a defined value. -/
def Crowded (text : Text) : Prop :=
  ∃ pairs, vectorPairs text = some pairs ∧ Complete pairs ∧ requiredMetrics.length < pairs.length

/-! ### The dictionary of the pairs -/

theorem rawMetrics_concat (pairs : List Text) (pair : Text) :
    rawMetrics (pairs ++ [pair]) = (rawMetrics pairs).set (keyOf pair) (valueOf pair) := by
  simp [rawMetrics,keyOf,valueOf]

/-- Under a key stands the value of its last pair. -/
theorem rawMetrics_get (pairs : List Text) (key : Text) : (rawMetrics pairs).get? key = lastUnder pairs key := by
  induction pairs using List.reverseRecOn with
  | nil => rfl
  | append_singleton pairs last ih =>
    rw [rawMetrics_concat,Dict.get?_set]
    by_cases here : key = keyOf last
    · simp [lastUnder,here]
    · have other : ¬ keyOf last = key := fun same => here same.symm
      simp [lastUnder,here,other,ih]

theorem entryOf_isSome {α : Type} (table : List (Text × α)) (key : Text) :
    (entryOf table key).isSome = true ↔ ∃ value, (key,value) ∈ table := by
  simp [entryOf]

theorem metricName_isSome (pairs : List Text) (metric : Metric) :
    (metricName (rawMetrics pairs) metric).isSome = true ↔ ∃ value, lastUnder pairs metric.key = some value ∧ Defined metric value := by
  simp only [metricName,Option.isSome_bind,Option.any_eq_true,rawMetrics_get,entryOf_isSome,Defined]

/-- A text is parsed when it is made of pairs that are complete. -/
theorem parseVector_isSome (vector : Text) :
    (parseVector vector).isSome = true ↔ ∃ pairs, vectorPairs (strip vector) = some pairs ∧ Complete pairs := by
  constructor
  · intro read
    obtain ⟨metrics,parsed⟩ := Option.isSome_iff_exists.mp read
    obtain ⟨pairs,matched,all⟩ := parseVector_metric parsed
    exact ⟨pairs,matched,fun metric => (metricName_isSome pairs metric).mp (by simp [all metric])⟩
  · rintro ⟨pairs,matched,complete⟩
    have found : ∀ metric, ∃ name, metricName (rawMetrics pairs) metric = some name := fun metric =>
      Option.isSome_iff_exists.mp ((metricName_isSome pairs metric).mpr (complete metric))
    choose name found using found
    simp [parseVector,matched,requiredMetrics,found]

/-! ### The grammar -/

theorem keyOf_pair (metric : Metric) (value : Text) : keyOf (metric.key ++ 58 :: value) = metric.key := by
  cases metric <;> simp [keyOf,Metric.key,lit]

theorem valueOf_pair (metric : Metric) (value : Text) : valueOf (metric.key ++ 58 :: value) = value := by
  cases metric <;> simp [valueOf,Metric.key,lit]

theorem key_injective : Function.Injective Metric.key := by
  intro first second same
  cases first <;> cases second <;> first | rfl | exact absurd same (by decide)

/-- A pair with a defined value is matched by the pattern. -/
theorem isPair_defined {metric : Metric} {value : Text} (defined : Defined metric value) : isPair (metric.key ++ 58 :: value) = true := by
  have each : ∀ entry ∈ names metric, isPair (metric.key ++ 58 :: entry.1) = true := by cases metric <;> decide
  obtain ⟨long,listed⟩ := defined
  exact each _ listed

/-- A pair is its key and its value. -/
theorem pair_split {pair : Text} (matched : isPair pair = true) : pair = keyOf pair ++ 58 :: valueOf pair := by
  unfold isPair at matched
  split at matched
  · rename_i a v
    have letter : a ≠ 58 := by rintro rfl; simp [isUpper] at matched
    simp [keyOf,valueOf,letter]
  · rename_i a b v
    have letters : a ≠ 58 ∧ b ≠ 58 := by
      constructor <;> rintro rfl <;> simp [isUpper] at matched
    simp [keyOf,valueOf,letters]
  · cases matched

theorem slash_free {pair : Text} (matched : isPair pair = true) : 47 ∉ pair := by
  unfold isPair at matched
  split at matched
  · simp [isUpper] at matched
    simp
    omega
  · simp [isUpper] at matched
    simp
    omega
  · cases matched

/-- The pattern matches what is made of an opening and of pairs. -/
theorem vectorPairs_eq (text : Text) (pairs : List Text) : vectorPairs text = some pairs ↔
    ∃ opening ∈ [lit "CVSS:3.0/",lit "CVSS:3.1/"], text = opening ++ joined [47] pairs ∧ pairs ≠ [] ∧ ∀ pair ∈ pairs, isPair pair = true := by
  unfold vectorPairs
  constructor
  · intro matched
    split at matched
    · rename_i opened
      dsimp only at matched
      split at matched
      · rename_i all
        cases matched
        refine ⟨text.take 9,by simpa using opened,?_,List.splitOn_ne_nil 47 _,by simpa using all⟩
        have rest : joined [47] ((text.drop 9).splitOn 47) = text.drop 9 := by
          rw [joined_eq_intercalate,List.intercalate_splitOn]
        calc
          text = text.take 9 ++ text.drop 9 := (List.take_append_drop 9 text).symm
          _ = text.take 9 ++ joined [47] ((text.drop 9).splitOn 47) := by rw [rest]
      · cases matched
    · cases matched
  · rintro ⟨opening,known,rfl,some,all⟩
    have size : opening.length = 9 := by
      simp at known
      rcases known with rfl | rfl <;> rfl
    have read : (joined [47] pairs).splitOn 47 = pairs := by
      rw [joined_eq_intercalate]
      exact List.splitOn_intercalate 47 (fun pair member => slash_free (all pair member)) some
    have front : (opening ++ joined [47] pairs).take 9 = opening := List.take_left' size
    have back : (opening ++ joined [47] pairs).drop 9 = joined [47] pairs := List.drop_left' size
    have opened : opening = lit "CVSS:3.0/" ∨ opening = lit "CVSS:3.1/" := by simpa using known
    have cut : (joined [47] pairs).splitOnP (· = 47) = pairs := read
    rw [front,back,if_pos opened,cut]
    simpa using all

/-- Complete pairs hold one for each base metric, so there are eight at least. -/
theorem complete_subperm {pairs : List Text} (matched : ∀ pair ∈ pairs, isPair pair = true) (complete : Complete pairs) :
    ∃ value : Metric → Text, (∀ metric, Defined metric (value metric)) ∧
      List.Subperm (requiredMetrics.map fun metric => metric.key ++ 58 :: value metric) pairs := by
  choose value last defined using complete
  refine ⟨value,defined,List.subperm_of_subset ?_ ?_⟩
  · apply List.Nodup.of_map keyOf
    simp only [List.map_map,Function.comp_def,keyOf_pair]
    decide
  · intro text member
    obtain ⟨metric,_,rfl⟩ := List.mem_map.mp member
    obtain ⟨pair,found,read⟩ := Option.map_eq_some_iff.mp (last metric)
    have listed : pair ∈ pairs := List.mem_reverse.mp (List.mem_of_find?_eq_some found)
    have keyed : keyOf pair = metric.key := by simpa using List.find?_some found
    rw [← keyed,← read,← pair_split (matched pair listed)]
    exact listed

theorem count_requiredMetrics (metric : Metric) : requiredMetrics.count metric = 1 := by cases metric <;> decide

/-- The pairs of a base vector are complete. -/
theorem complete_of_defined {pairs : List (Metric × Text)} (defined : ∀ pair ∈ pairs, Defined pair.1 pair.2)
    (once : ∀ metric, (pairs.map Prod.fst).count metric = 1) : Complete (pairs.map pairText) := by
  intro metric
  have some : metric ∈ pairs.map Prod.fst := List.count_pos_iff.mp (by rw [once]; exact Nat.one_pos)
  obtain ⟨⟨same,value⟩,member,rfl⟩ := List.mem_map.mp some
  have listed : pairText (same,value) ∈ (pairs.map pairText).reverse := List.mem_reverse.mpr (List.mem_map_of_mem member)
  have present : ((pairs.map pairText).reverse.find? fun pair => keyOf pair = same.key).isSome = true :=
    List.find?_isSome.mpr ⟨_,listed,decide_eq_true (keyOf_pair same value)⟩
  obtain ⟨pair,found⟩ := Option.isSome_iff_exists.mp present
  obtain ⟨⟨other,read⟩,listed,rfl⟩ := List.mem_map.mp (List.mem_reverse.mp (List.mem_of_find?_eq_some found))
  have keyed := List.find?_some found
  simp only [pairText,keyOf_pair,decide_eq_true_eq] at keyed
  cases key_injective keyed
  refine ⟨read,?_,defined _ listed⟩
  rw [lastUnder,found,Option.map_some,pairText,valueOf_pair]

/-- A base vector is a matched text with complete pairs, as many as there are metrics. -/
theorem wellFormed_iff (text : Text) : WellFormed text ↔
    ∃ pairs, vectorPairs text = some pairs ∧ Complete pairs ∧ pairs.length = requiredMetrics.length := by
  constructor
  · rintro ⟨opening,known,pairs,rfl,defined,once⟩
    have each : (pairs.map Prod.fst).Perm requiredMetrics :=
      List.perm_iff_count.mpr fun metric => by rw [once,count_requiredMetrics]
    have size : pairs.length = requiredMetrics.length := by simpa using each.length_eq
    have some : pairs.map pairText ≠ [] := by
      rw [Ne,List.map_eq_nil_iff]
      rintro rfl
      simp [requiredMetrics] at size
    have all : ∀ pair ∈ pairs.map pairText, isPair pair = true := by
      intro pair member
      obtain ⟨given,listed,rfl⟩ := List.mem_map.mp member
      exact isPair_defined (defined given listed)
    exact ⟨_,(vectorPairs_eq _ _).mpr ⟨opening,known,rfl,some,all⟩,complete_of_defined defined once,by simpa using size⟩
  · rintro ⟨pairs,matched,complete,size⟩
    obtain ⟨opening,known,rfl,_,all⟩ := (vectorPairs_eq text pairs).mp matched
    obtain ⟨value,defined,within⟩ := complete_subperm all complete
    have every := within.perm_of_length_le (by simp [size])
    -- every pair is the one that its metric needs
    have image : ∀ pair ∈ pairs, pair ∈ Set.range fun metric : Metric => pairText (metric,value metric) := by
      intro pair member
      obtain ⟨metric,_,rfl⟩ := List.mem_map.mp (every.mem_iff.mpr member)
      exact ⟨metric,rfl⟩
    obtain ⟨metrics,rfl⟩ : pairs ∈ Set.range (List.map fun metric : Metric => pairText (metric,value metric)) := by
      rw [Set.range_list_map]
      exact image
    have injective : Function.Injective fun metric : Metric => pairText (metric,value metric) := by
      intro first second same
      have keys := congrArg keyOf same
      simp only [pairText,keyOf_pair] at keys
      exact key_injective keys
    have once := (List.map_perm_map_iff injective).mp every
    refine ⟨opening,known,metrics.map fun metric => (metric,value metric),by simp [Function.comp_def],?_,?_⟩
    · intro pair member
      obtain ⟨metric,_,rfl⟩ := List.mem_map.mp member
      exact defined metric
    · intro metric
      rw [List.map_map,show (Prod.fst ∘ fun metric : Metric => (metric,value metric)) = id from rfl,List.map_id,
        ← List.perm_iff_count.mp once metric,count_requiredMetrics]

/-! ### What is understood -/

/-- A pair that the pattern matches has one colon to be split at. -/
theorem dictOf_pairs {pairs : List Text} (all : ∀ pair ∈ pairs, isPair pair = true) :
    dictOf (pairs.map splitOnce) = .ok (rawMetrics pairs) := by
  have colon : ∀ pair ∈ pairs, splitOnce pair = [keyOf pair,valueOf pair] := by
    intro pair member
    have inside : 58 ∈ pair := by
      rw [pair_split (all pair member)]
      simp
    rw [splitOnce,if_pos inside]
  have read : ∀ raw : Dict Text Text, (pairs.map splitOnce).foldlM setItem raw =
      .ok (pairs.foldl (fun raw pair => raw.set (keyOf pair) (valueOf pair)) raw) := by
    clear all
    induction pairs with
    | nil => exact fun raw => rfl
    | cons pair rest ih =>
      intro raw
      rw [List.map_cons,List.foldlM_cons,colon pair (by simp)]
      exact ih (fun other member => colon other (List.mem_cons_of_mem _ member)) _
  exact read Dict.empty

section
variable [Printer]

/-- Scoring and interpreting read the metrics that parsing reads. -/
theorem read_alike (vector : Text) : ReadAlike vector := by
  intro pairs metrics matched parsed
  obtain ⟨_,_,_,_,all⟩ := (vectorPairs_eq _ _).mp matched
  obtain ⟨others,again,read⟩ := parseVector_metric parsed
  have same : others = pairs := Option.some.inj (again.symm.trans matched)
  subst same
  refine ⟨rawMetrics others,dictOf_pairs all,read,?_,?_⟩
  · intro score scored
    simp only [baseScore,matched,parsed,Option.bind_some] at scored
    split at scored
    · cases scored
      rfl
    · cases scored
  · intro reported described told metric
    unfold interpret at told
    obtain ⟨score,scored⟩ := baseScore_parsed parsed
    rw [parsed,scored] at told
    cases told
    cases metric <;> rfl

omit [Printer] in
theorem baseScore_isSome (vector : Text) : (baseScore vector).isSome = (parseVector vector).isSome := by
  cases parsed : parseVector vector with
  | none => simp [baseScore,parsed]
  | some metrics =>
    obtain ⟨score,scored⟩ := baseScore_parsed parsed
    simp [scored]

/-- A text of too many pairs is parsed. -/
theorem not_understood {vector : Text} (crowded : Crowded (strip vector)) : ¬ Understood vector := by
  obtain ⟨pairs,matched,complete,more⟩ := crowded
  intro understood
  have accepted := understood.parsed.mp ((parseVector_isSome vector).mpr ⟨pairs,matched,complete⟩)
  obtain ⟨others,again,_,size⟩ := (wellFormed_iff _).mp accepted
  have same : others = pairs := Option.some.inj (again.symm.trans matched)
  subst same
  omega

/-- The three functions understand a text exactly when it is not one of too many pairs. -/
theorem understood_iff (vector : Text) : Understood vector ↔ ¬ Crowded (strip vector) := by
  constructor
  · exact fun understood crowded => not_understood crowded understood
  · intro few
    have accepted : (parseVector vector).isSome = true ↔ WellFormed (strip vector) := by
      rw [parseVector_isSome,wellFormed_iff]
      constructor
      · rintro ⟨pairs,matched,complete⟩
        obtain ⟨_,_,_,_,all⟩ := (vectorPairs_eq _ _).mp matched
        obtain ⟨value,_,within⟩ := complete_subperm all complete
        have least : requiredMetrics.length ≤ pairs.length := by simpa using within.length_le
        have most : ¬ requiredMetrics.length < pairs.length := fun more => few ⟨pairs,matched,complete,more⟩
        exact ⟨pairs,matched,complete,by omega⟩
      · rintro ⟨pairs,matched,complete,_⟩
        exact ⟨pairs,matched,complete⟩
    refine ⟨accepted,?_,?_,read_alike vector⟩
    · rw [baseScore_isSome]
      exact accepted
    · intro reported
      rw [interpret_isSome]
      exact accepted

end

/-- A vector that names the attack vector twice, for the network and for local access. -/
def contradictory : Text := lit "CVSS:3.1/AV:N/AV:L/AC:L/PR:N/UI:N/S:U/C:H/I:H/A:H"

def contradictoryPairs : List Text :=
  [lit "AV:N",lit "AV:L",lit "AC:L",lit "PR:N",lit "UI:N",lit "S:U",lit "C:H",lit "I:H",lit "A:H"]

/-- A contradictory vector is parsed, and so scored. -/
theorem contradictory_understood : let _ := asciiPrinter; ¬ ∀ vector : Text, Understood vector := by
  intro _ understood
  have complete : Complete contradictoryPairs := by
    intro metric
    apply (metricName_isSome contradictoryPairs metric).mp
    cases metric <;> decide +kernel
  have crowded : Crowded (strip contradictory) := ⟨contradictoryPairs,by decide +kernel,complete,by decide⟩
  exact not_understood crowded (understood contradictory)

end SocAnalyst.CvssVectors
