import SocAnalyst.Groups
import SocAnalyst.Techniques

/-!
# Corroboration of techniques

What `map_techniques` of `tools/attack.py` makes of the signals, and what its confidence
counts: every contribution, where a rule that fires again contributes again.
-/
namespace SocAnalyst.Corroboration
open SocAnalyst.Builtins SocAnalyst.Doubles SocAnalyst.Dicts SocAnalyst.Groups SocAnalyst.Detections SocAnalyst.Techniques
open SocAnalyst.AlertTemplates (upper)
open SocAnalyst.Risk (roundTo roundTo_mono roundTo_natCast roundFloat roundFloat_mono)

/-! ### The signals of a technique -/

/-- A catalogued technique. -/
def Catalogued (techniqueId : Text) : Prop := ∃ technique ∈ catalogue, technique.techniqueId = techniqueId

/-- A signal names a technique, up to letter case. -/
def Names (signal : DetectionSignal) (techniqueId : Text) : Prop := ∃ named ∈ signal.techniqueIds, upper named = techniqueId

instance (signal : DetectionSignal) (techniqueId : Text) : Decidable (Names signal techniqueId) :=
  inferInstanceAs (Decidable (∃ named ∈ signal.techniqueIds, upper named = techniqueId))

/-- The pairs the loop groups: each known technique a signal names, with the signal. -/
def pairs (signals : List DetectionSignal) : List (Text × DetectionSignal) :=
  signals.flatMap fun signal => (signal.techniqueIds.filterMap knownTechnique).map fun technique => (technique.techniqueId,signal)

/-- The signals that contribute to a technique, once for each time they name it. -/
def contributions (signals : List DetectionSignal) (techniqueId : Text) : List DetectionSignal := valuesAt (pairs signals) techniqueId

theorem grouped_eq (signals : List DetectionSignal) : Techniques.grouped signals = Groups.grouped (pairs signals) := rfl

theorem catalogue_distinct : (catalogue.map (·.techniqueId)).Nodup := by decide +kernel

theorem find_catalogue {techniqueId : Text} {technique : TechniqueDefinition} :
    catalogue.find? (fun technique => technique.techniqueId = techniqueId) = some technique ↔
      technique ∈ catalogue ∧ technique.techniqueId = techniqueId := by
  constructor
  · intro found
    exact ⟨List.mem_of_find?_eq_some found,by simpa using List.find?_some found⟩
  · rintro ⟨member,named⟩
    cases found : catalogue.find? fun technique => technique.techniqueId = techniqueId with
    | none => exact absurd (List.find?_eq_none.mp found technique member) (by simp [named])
    | some other =>
      have same : other.techniqueId = techniqueId := by simpa using List.find?_some found
      rw [List.inj_on_of_nodup_map catalogue_distinct (List.mem_of_find?_eq_some found) member (same.trans named.symm)]

theorem knownTechnique_eq {named : Text} {technique : TechniqueDefinition} :
    knownTechnique named = some technique ↔ technique ∈ catalogue ∧ technique.techniqueId = upper named := find_catalogue

theorem mem_pairs {signals : List DetectionSignal} {techniqueId : Text} {signal : DetectionSignal} :
    (techniqueId,signal) ∈ pairs signals ↔ signal ∈ signals ∧ Catalogued techniqueId ∧ Names signal techniqueId := by
  simp only [pairs,List.mem_flatMap,List.mem_map,List.mem_filterMap,Prod.mk.injEq,knownTechnique_eq]
  constructor
  · rintro ⟨other,member,technique,⟨named,listed,known,spelled⟩,rfl,rfl⟩
    exact ⟨member,⟨technique,known,rfl⟩,named,listed,spelled.symm⟩
  · rintro ⟨member,⟨technique,known,rfl⟩,named,listed,spelled⟩
    exact ⟨signal,member,technique,⟨named,listed,known,spelled.symm⟩,rfl,rfl⟩

theorem mem_contributions {signals : List DetectionSignal} {techniqueId : Text} {signal : DetectionSignal} :
    signal ∈ contributions signals techniqueId ↔ signal ∈ signals ∧ Catalogued techniqueId ∧ Names signal techniqueId := by
  rw [contributions,mem_valuesAt,mem_pairs]

theorem contributions_append (first second : List DetectionSignal) (techniqueId : Text) :
    contributions (first ++ second) techniqueId = contributions first techniqueId ++ contributions second techniqueId := by
  rw [contributions,pairs,List.flatMap_append]
  exact valuesAt_append _ _ _

/-- The mappings are those of the catalogued techniques that something contributes to. -/
theorem mem_mapTechniques {signals : List DetectionSignal} {found : TechniqueMapping} :
    found ∈ mapTechniques signals ↔ ∃ technique ∈ catalogue, contributions signals technique.techniqueId ≠ [] ∧
      found = mapping technique (contributions signals technique.techniqueId) := by
  simp only [mapTechniques,grouped_eq,List.mem_filterMap,mem_sortedBy,Prod.exists,mem_grouped,Option.map_eq_some_iff,find_catalogue]
  constructor
  · rintro ⟨techniqueId,_,⟨rfl,some⟩,technique,⟨known,rfl⟩,rfl⟩
    exact ⟨technique,known,some,rfl⟩
  · rintro ⟨technique,known,some,rfl⟩
    exact ⟨technique.techniqueId,_,⟨rfl,some⟩,technique,⟨known,rfl⟩,rfl⟩

/-- Each technique is mapped once. -/
theorem mapped_once (signals : List DetectionSignal) : ((mapTechniques signals).map (·.techniqueId)).Nodup := by
  have sorted : ((sortedBy Prod.fst (Techniques.grouped signals).entries).map Prod.fst).Nodup :=
    ((perm_sortedBy Prod.fst _).map _).nodup_iff.mpr (Techniques.grouped signals).distinct
  refine sorted.sublist ?_
  rw [mapTechniques]
  generalize sortedBy Prod.fst (Techniques.grouped signals).entries = groups
  induction groups with
  | nil => simp
  | cons group rest ih =>
    rw [List.filterMap_cons,List.map_cons]
    cases found : catalogue.find? fun technique => technique.techniqueId = group.1 with
    | none => simpa [found] using ih.cons group.1
    | some technique =>
      have same : (mapping technique group.2).techniqueId = group.1 := (find_catalogue.mp found).2
      simp only [Option.map_some,List.map_cons,same]
      exact ih.cons_cons group.1

/-! ### The confidence -/

/-- The most a confidence reaches. -/
def cap : ℚ := nearest (95/100)

/-- What the strongest contribution gives by itself. -/
def strength (weights : List ℚ) : ℚ := plus (nearest (40/100)) (dividedBy (weights.foldr max 0) 20)

/-- What the confidence is before it is capped and rounded, from the weights of the contributions. -/
def support (weights : List ℚ) : ℚ := plus (strength weights) (times (nearest (12/100)) (weights.length - 1))

-- on paper this is the edge of the cap, and the floats fall short of it
example : support [nearest (8599/1000),nearest (8599/1000)] < 94995/100000 := by decide +kernel

/-- The weights of the contributions to a technique. -/
def weightsOf (signals : List DetectionSignal) (techniqueId : Text) : List ℚ := (contributions signals techniqueId).map (·.weight)

theorem confidence_support (contributing : List DetectionSignal) :
    confidence contributing = roundFloat 4 (min cap (support (contributing.map (·.weight)))) := by
  simp only [confidence,support,strength,cap,List.length_map]

theorem strongest_le {weights : List ℚ} {q : ℚ} : weights.foldr max 0 ≤ q ↔ 0 ≤ q ∧ ∀ w ∈ weights, w ≤ q := by
  induction weights with
  | nil => simp
  | cons w rest ih =>
    rw [List.foldr_cons,max_le_iff,ih,List.forall_mem_cons]
    tauto

theorem strongest_mono {fewer more : List ℚ} (sub : fewer ⊆ more) : fewer.foldr max 0 ≤ more.foldr max 0 := by
  have bounds := strongest_le.mp (le_refl (more.foldr max 0))
  exact strongest_le.mpr ⟨bounds.1,fun w member => bounds.2 w (sub member)⟩

theorem strength_mono {fewer more : List ℚ} (sub : fewer ⊆ more) : strength fewer ≤ strength more := by
  have strongest := strongest_mono sub
  have shares : dividedBy (fewer.foldr max 0) 20 ≤ dividedBy (more.foldr max 0) 20 :=
    nearest_mono (div_le_div_of_nonneg_right strongest (by norm_num))
  exact nearest_mono (by linarith)

theorem strength_nonneg (weights : List ℚ) : 0 ≤ strength weights := by
  have strongest : 0 ≤ weights.foldr max 0 := (strongest_le.mp le_rfl).1
  have base : (0 : ℚ) ≤ nearest (40/100) := nearest_nonneg (by norm_num)
  have share : 0 ≤ dividedBy (weights.foldr max 0) 20 := nearest_nonneg (by positivity)
  exact nearest_nonneg (by linarith)

theorem support_mono {fewer more : List ℚ} (sub : fewer.Sublist more) : support fewer ≤ support more := by
  have strength := strength_mono sub.subset
  have count : (fewer.length : ℚ) ≤ more.length := by exact_mod_cast sub.length_le
  have corroboration : times (nearest (12/100)) (fewer.length - 1) ≤ times (nearest (12/100)) (more.length - 1) :=
    times_mono (nearest_nonneg (by norm_num)) (by linarith)
  exact nearest_mono (by linarith)

/-- Below certainty, one contribution more adds a tenth at least. -/
theorem support_step {fewer more : List ℚ} (sub : fewer ⊆ more) (some : fewer ≠ []) (longer : fewer.length + 1 ≤ more.length)
    (uncertain : support fewer < 1) : support fewer + 1/10 ≤ support more := by
  have one : IsDouble 1 := by simpa using isDouble_intCast (n := 1) (by norm_num)
  have unit : 119/1000 ≤ nearest (12/100) ∧ nearest (12/100) ≤ 121/1000 := by decide +kernel
  have low : (1 : ℚ) ≤ fewer.length := by exact_mod_cast List.length_pos_iff.mpr some
  have high : (fewer.length : ℚ) ≤ more.length - 1 := by
    have cast : ((fewer.length + 1 : ℕ) : ℚ) ≤ more.length := by exact_mod_cast longer
    push_cast at cast
    linarith
  -- what is rounded to less than one is less than one, so every error made is that of a number below two
  have base := strength_nonneg fewer
  have total : strength fewer + times (nearest (12/100)) (fewer.length - 1) < 1 := lt_of_nearest_lt one uncertain
  have product : nearest (12/100) * (fewer.length - 1) < 1 := lt_of_nearest_lt one (show times _ _ < 1 by linarith)
  have nonneg : 0 ≤ nearest (12/100) * (fewer.length - 1) := mul_nonneg (by linarith) (by linarith)
  have bonus : 0 ≤ times (nearest (12/100)) (fewer.length - 1) := nearest_nonneg nonneg
  have first := abs_le.mp (abs_nearest_sub_lt (q := nearest (12/100) * (fewer.length - 1)) (by rw [abs_of_nonneg nonneg]; linarith))
  have next : nearest (12/100) * fewer.length = nearest (12/100) * (fewer.length - 1) + nearest (12/100) := by ring
  have second := abs_le.mp (abs_nearest_sub_lt (q := nearest (12/100) * fewer.length)
    (by rw [next,abs_of_nonneg (by linarith)]; linarith))
  have gained : times (nearest (12/100)) (fewer.length - 1) + 11/100 ≤ times (nearest (12/100)) fewer.length ∧
      times (nearest (12/100)) fewer.length ≤ times (nearest (12/100)) (fewer.length - 1) + 1/8 := by
    simp only [times] at *
    constructor <;> linarith
  have third := abs_le.mp (abs_nearest_sub_lt (q := strength fewer + times (nearest (12/100)) (fewer.length - 1))
    (by rw [abs_of_nonneg (by linarith)]; linarith))
  have fourth := abs_le.mp (abs_nearest_sub_lt (q := strength fewer + times (nearest (12/100)) fewer.length)
    (by rw [abs_of_nonneg (by linarith)]; linarith))
  have corroboration : times (nearest (12/100)) fewer.length ≤ times (nearest (12/100)) (more.length - 1) :=
    times_mono (by linarith) high
  calc support fewer + 1/10 ≤ nearest (strength fewer + times (nearest (12/100)) fewer.length) := by
        simp only [support,plus]
        linarith
    _ ≤ support more := nearest_mono (by linarith [strength_mono sub])

theorem cap_rounds : roundFloat 4 cap = cap := by decide +kernel

theorem confidence_le (contributing : List DetectionSignal) : confidence contributing ≤ 95/100 := by
  have bound : cap ≤ 95/100 := by decide +kernel
  rw [confidence_support]
  exact ((roundFloat_mono 4 (min_le_left _ _)).trans_eq cap_rounds).trans bound

/-- Scores that are some way apart stay apart when they are rounded. -/
theorem rounds_apart {less more : ℚ} (nonneg : 0 ≤ less) (small : more ≤ 1) (step : less + 1/1000 ≤ more) :
    roundFloat 4 less < roundFloat 4 more := by
  have scale : (10 : ℚ)^4 = 10000 := by norm_num
  have lower := abs_le.mp (abs_roundHalfEven_sub_le (less * 10^4))
  have upper := abs_le.mp (abs_roundHalfEven_sub_le (more * 10^4))
  have apart : roundTo 4 less + 1/2000 ≤ roundTo 4 more := by
    simp only [roundTo,scale] at *
    linarith
  have bounds : 0 ≤ roundTo 4 less ∧ roundTo 4 more ≤ 1 := by
    have zero := roundTo_mono 4 nonneg
    have one := roundTo_mono 4 small
    have whole := roundTo_natCast 4 0
    have whole' := roundTo_natCast 4 1
    push_cast at whole whole'
    constructor <;> linarith
  have first := abs_le.mp (abs_nearest_sub_lt (q := roundTo 4 less) (by rw [abs_of_nonneg bounds.1]; linarith))
  have second := abs_le.mp (abs_nearest_sub_lt (q := roundTo 4 more) (by rw [abs_of_nonneg (by linarith)]; linarith))
  simp only [roundFloat]
  linarith

/-- What is short of the cap is rounded to the place below it at most. -/
theorem short_of_cap {q : ℚ} (short : q < 94995/100000) : roundFloat 4 q < cap := by
  have scale : (10 : ℚ)^4 = 10000 := by norm_num
  have whole : roundHalfEven (q * 10^4) ≤ 9499 := by
    have above := roundHalfEven_le_add_half (q * 10^4)
    have bound : (roundHalfEven (q * 10^4) : ℚ) < (9500 : ℤ) := by
      rw [scale] at above ⊢
      push_cast
      linarith
    have strict : roundHalfEven (q * 10^4) < 9500 := by exact_mod_cast bound
    omega
  have place : roundTo 4 q ≤ 9499/10^4 := by
    apply div_le_div_of_nonneg_right _ (by norm_num)
    exact_mod_cast whole
  have below : nearest (9499/10^4) < cap := by decide +kernel
  exact (nearest_mono place).trans_lt below

/-- A tenth more of support shows unless the confidence was at the cap by then. -/
theorem capped_iff {less more : ℚ} (nonneg : 0 ≤ less) (step : less < 1 → less + 1/10 ≤ more) :
    roundFloat 4 (min cap more) ≤ roundFloat 4 (min cap less) ↔ 94995/100000 ≤ less := by
  have near : 94999/100000 ≤ cap ∧ cap ≤ 95/100 := by decide +kernel
  constructor
  · intro kept
    by_contra low
    rw [not_le] at low
    have uncapped : min cap less = less := min_eq_right (by linarith)
    rw [uncapped] at kept
    by_cases full : cap ≤ more
    · rw [min_eq_left full,cap_rounds] at kept
      have short : roundFloat 4 less < cap := short_of_cap low
      linarith
    · rw [not_le] at full
      rw [min_eq_right full.le] at kept
      have apart := rounds_apart nonneg (show more ≤ 1 by linarith) (show less + 1/1000 ≤ more by linarith [step (by linarith)])
      linarith
  · intro high
    have edge : roundFloat 4 (94995/100000) = cap := by decide +kernel
    calc roundFloat 4 (min cap more) ≤ roundFloat 4 cap := roundFloat_mono 4 (min_le_left _ _)
      _ = roundFloat 4 (94995/100000) := by rw [cap_rounds,edge]
      _ ≤ roundFloat 4 (min cap less) := roundFloat_mono 4 (le_min (by linarith) high)

/-! ### Repeats -/

/-- `more` is `fewer` with one further firing of a rule that contributes to the technique at
    the same weight, or with one further mention of it by a signal that names it. -/
inductive Repeats (techniqueId : Text) : List DetectionSignal → List DetectionSignal → Prop
  | firing (before after : List DetectionSignal) (again other : DetectionSignal) (there : other ∈ before ++ after)
      (rule : other.ruleId = again.ruleId) (weight : other.weight = again.weight) (named : Names other techniqueId)
      (also : Names again techniqueId) : Repeats techniqueId (before ++ after) (before ++ again :: after)
  | naming (before after : List DetectionSignal) (signal : DetectionSignal) (first second : List Text) (again : Text)
      (spelled : upper again = techniqueId) (named : ∃ other ∈ first ++ second, upper other = techniqueId) :
      Repeats techniqueId (before ++ { signal with techniqueIds := first ++ second } :: after)
        (before ++ { signal with techniqueIds := first ++ again :: second } :: after)

/-- A signal contributes once for each time it names the technique. -/
theorem contributions_single {techniqueId : Text} (known : Catalogued techniqueId) (signal : DetectionSignal) :
    contributions [signal] techniqueId = List.replicate (signal.techniqueIds.countP fun named => upper named = techniqueId) signal := by
  have single : pairs [signal] = (signal.techniqueIds.filterMap knownTechnique).map fun technique => (technique.techniqueId,signal) := by
    simp [pairs]
  rw [contributions,single]
  generalize signal.techniqueIds = names
  induction names with
  | nil => rfl
  | cons named rest ih =>
    cases found : knownTechnique named with
    | none =>
      have other : ¬ upper named = techniqueId := by
        rintro rfl
        obtain ⟨technique,member,spelled⟩ := known
        rw [knownTechnique_eq.mpr ⟨member,spelled⟩] at found
        cases found
      rw [List.filterMap_cons_none found,ih,List.countP_cons_of_neg (by simpa using other)]
    | some technique =>
      have spelled := (knownTechnique_eq.mp found).2
      rw [List.filterMap_cons_some found]
      by_cases same : upper named = techniqueId
      · have counted : (named :: rest).countP (fun named => upper named = techniqueId) =
            rest.countP (fun named => upper named = techniqueId) + 1 := List.countP_cons_of_pos (by simpa using same)
        rw [counted,List.replicate_succ,← ih]
        simp [valuesAt,spelled,same]
      · rw [List.countP_cons_of_neg (by simpa using same),← ih]
        simp [valuesAt,spelled,same]

theorem weightsOf_split (before after : List DetectionSignal) (signal : DetectionSignal) {techniqueId : Text}
    (known : Catalogued techniqueId) : weightsOf (before ++ signal :: after) techniqueId = weightsOf before techniqueId ++
      (List.replicate (signal.techniqueIds.countP fun named => upper named = techniqueId) signal.weight ++ weightsOf after techniqueId) := by
  have cons : before ++ signal :: after = before ++ ([signal] ++ after) := rfl
  rw [weightsOf,cons,contributions_append,contributions_append,contributions_single known]
  simp [weightsOf]

theorem counted_pos {signal : DetectionSignal} {techniqueId : Text} (named : Names signal techniqueId) :
    0 < signal.techniqueIds.countP fun named => upper named = techniqueId := by
  obtain ⟨name,listed,spelled⟩ := named
  exact List.countP_pos_iff.mpr ⟨name,listed,by simpa using spelled⟩

/-- A repeat adds contributions of a weight that is there already. -/
theorem Repeats.weights {techniqueId : Text} {fewer more : List DetectionSignal} (repeats : Repeats techniqueId fewer more)
    (known : Catalogued techniqueId) : ∃ w ∈ weightsOf fewer techniqueId, ∃ count, 0 < count ∧
      (weightsOf more techniqueId).Perm (List.replicate count w ++ weightsOf fewer techniqueId) := by
  cases repeats with
  | firing before after again other there rule weight named also =>
    refine ⟨again.weight,?_,_,counted_pos also,?_⟩
    · rw [← weight]
      exact List.mem_map_of_mem (mem_contributions.mpr ⟨there,known,named⟩)
    · have joined : weightsOf (before ++ after) techniqueId = weightsOf before techniqueId ++ weightsOf after techniqueId := by
        rw [weightsOf,contributions_append,List.map_append]
        rfl
      rw [weightsOf_split before after again known,joined,← List.append_assoc,← List.append_assoc]
      exact List.perm_append_comm.append_right _
  | naming before after signal first second again spelled named =>
    have some : 0 < (first ++ second).countP fun named => upper named = techniqueId := by
      obtain ⟨name,listed,same⟩ := named
      exact List.countP_pos_iff.mpr ⟨name,listed,by simpa using same⟩
    have more : (first ++ again :: second).countP (fun named => upper named = techniqueId) =
        (first ++ second).countP (fun named => upper named = techniqueId) + 1 := by
      rw [List.countP_append,List.countP_cons_of_pos (by simpa using spelled),List.countP_append]
      rfl
    rw [weightsOf_split before after _ known,weightsOf_split before after _ known]
    refine ⟨signal.weight,?_,1,Nat.one_pos,?_⟩
    · exact List.mem_append_right _ (List.mem_append_left _ (List.mem_replicate.mpr ⟨some.ne',rfl⟩))
    · dsimp only
      rw [more,List.replicate_succ,List.replicate_one,List.singleton_append,List.cons_append]
      exact List.perm_middle

theorem support_nonneg {weights : List ℚ} (some : weights ≠ []) : 0 ≤ support weights := by
  have counted : (1 : ℚ) ≤ weights.length := by exact_mod_cast List.length_pos_iff.mpr some
  have bonus : 0 ≤ times (nearest (12/100)) (weights.length - 1) :=
    nearest_nonneg (mul_nonneg (nearest_nonneg (by norm_num)) (by linarith))
  exact nearest_nonneg (by linarith [strength_nonneg weights])

/-- A repeat is not seen exactly when the confidence was at the cap without it. -/
theorem Repeats.unseen_iff {techniqueId : Text} {fewer more : List DetectionSignal} (repeats : Repeats techniqueId fewer more)
    (known : Catalogued techniqueId) :
    roundFloat 4 (min cap (support (weightsOf more techniqueId))) ≤ roundFloat 4 (min cap (support (weightsOf fewer techniqueId))) ↔
      94995/100000 ≤ support (weightsOf fewer techniqueId) := by
  obtain ⟨w,there,count,some,same⟩ := repeats.weights known
  have contributed : weightsOf fewer techniqueId ≠ [] := List.ne_nil_of_mem there
  have kept : weightsOf fewer techniqueId ⊆ weightsOf more techniqueId := fun v member => same.symm.subset (List.mem_append_right _ member)
  have longer : (weightsOf fewer techniqueId).length + 1 ≤ (weightsOf more techniqueId).length := by
    rw [same.length_eq,List.length_append,List.length_replicate]
    omega
  exact capped_iff (support_nonneg contributed) (support_step kept contributed longer)

/-- What is left without the repeat of any technique has the support of the cap by itself. -/
def Saturated (signals : List DetectionSignal) : Prop :=
  ∀ techniqueId fewer, Catalogued techniqueId → Repeats techniqueId fewer signals → 94995/100000 ≤ support (weightsOf fewer techniqueId)

/-- What the mappings of some signals ought to be. -/
structure Corroborated (signals : List DetectionSignal) : Prop where
  once : ((mapTechniques signals).map (·.techniqueId)).Nodup
  named : ∀ techniqueId, techniqueId ∈ (mapTechniques signals).map (·.techniqueId) ↔
    Catalogued techniqueId ∧ ∃ signal ∈ signals, Names signal techniqueId
  events : ∀ found ∈ mapTechniques signals, found.eventIds.Nodup ∧
    ∀ eventId, eventId ∈ found.eventIds ↔ ∃ signal ∈ signals, Names signal found.techniqueId ∧ eventId ∈ signal.eventIds
  capped : ∀ found ∈ mapTechniques signals, found.confidence ≤ 95/100
  rising : ∀ before signal after, signals = before ++ after → ∀ found ∈ mapTechniques signals,
    ∀ risen ∈ mapTechniques (before ++ signal :: after), risen.techniqueId = found.techniqueId → found.confidence ≤ risen.confidence
  independent : ∀ techniqueId fewer, Repeats techniqueId fewer signals → ∀ found ∈ mapTechniques signals,
    ∀ without ∈ mapTechniques fewer, found.techniqueId = techniqueId → without.techniqueId = techniqueId →
      found.confidence ≤ without.confidence

theorem mapped_confidence {signals : List DetectionSignal} {found : TechniqueMapping} (member : found ∈ mapTechniques signals) :
    Catalogued found.techniqueId ∧ found.confidence = roundFloat 4 (min cap (support (weightsOf signals found.techniqueId))) ∧
      contributions signals found.techniqueId ≠ [] := by
  obtain ⟨technique,known,some,rfl⟩ := mem_mapTechniques.mp member
  exact ⟨⟨technique,known,rfl⟩,confidence_support _,some⟩

theorem mapped_of_contributions {signals : List DetectionSignal} {techniqueId : Text} (known : Catalogued techniqueId)
    (some : contributions signals techniqueId ≠ []) : ∃ found ∈ mapTechniques signals, found.techniqueId = techniqueId := by
  obtain ⟨technique,member,rfl⟩ := known
  exact ⟨_,mem_mapTechniques.mpr ⟨technique,member,some,rfl⟩,rfl⟩

theorem contributions_ne_nil {signals : List DetectionSignal} {techniqueId : Text} : contributions signals techniqueId ≠ [] ↔
    Catalogued techniqueId ∧ ∃ signal ∈ signals, Names signal techniqueId := by
  constructor
  · intro some
    obtain ⟨signal,member⟩ := List.exists_mem_of_ne_nil _ some
    obtain ⟨listed,known,named⟩ := mem_contributions.mp member
    exact ⟨known,signal,listed,named⟩
  · rintro ⟨known,signal,listed,named⟩
    exact List.ne_nil_of_mem (mem_contributions.mpr ⟨listed,known,named⟩)

/-- The mappings are corroborated as documented exactly when every repeat comes on top of a
    confidence at the cap. -/
theorem corroborated_iff_saturated (signals : List DetectionSignal) : Corroborated signals ↔ Saturated signals := by
  constructor
  · intro sound techniqueId fewer known repeats
    have left : contributions fewer techniqueId ≠ [] := by
      obtain ⟨w,there,_⟩ := repeats.weights known
      rintro none
      rw [weightsOf,none] at there
      cases there
    have right : contributions signals techniqueId ≠ [] := by
      obtain ⟨w,_,count,some,same⟩ := repeats.weights known
      rintro none
      have size := same.length_eq
      rw [weightsOf,none,List.length_append,List.length_replicate,List.map_nil,List.length_nil] at size
      omega
    obtain ⟨without,listed,named⟩ := mapped_of_contributions known left
    obtain ⟨found,member,also⟩ := mapped_of_contributions known right
    have kept := sound.independent techniqueId fewer repeats found member without listed also named
    rw [(mapped_confidence member).2.1,(mapped_confidence listed).2.1,also,named] at kept
    exact (repeats.unseen_iff known).mp kept
  · intro saturated
    refine ⟨mapped_once signals,fun techniqueId => ?_,fun found member => ?_,fun found member => ?_,?_,?_⟩
    · rw [← contributions_ne_nil]
      constructor
      · intro listed
        obtain ⟨found,member,rfl⟩ := List.mem_map.mp listed
        exact (mapped_confidence member).2.2
      · intro some
        obtain ⟨found,member,named⟩ := mapped_of_contributions (contributions_ne_nil.mp some).1 some
        exact List.mem_map.mpr ⟨found,member,named⟩
    · obtain ⟨technique,known,_,rfl⟩ := mem_mapTechniques.mp member
      refine ⟨unique_nodup _,fun eventId => ?_⟩
      simp only [mapping,mem_unique,List.mem_flatMap,mem_contributions]
      constructor
      · rintro ⟨signal,⟨listed,_,named⟩,inside⟩
        exact ⟨signal,listed,named,inside⟩
      · rintro ⟨signal,listed,named,inside⟩
        exact ⟨signal,⟨listed,⟨technique,known,rfl⟩,named⟩,inside⟩
    · obtain ⟨technique,_,_,rfl⟩ := mem_mapTechniques.mp member
      exact confidence_le _
    · rintro before signal after rfl found member risen listed same
      rw [(mapped_confidence member).2.1,(mapped_confidence listed).2.1,same]
      have known := (mapped_confidence member).1
      refine roundFloat_mono 4 (min_le_min le_rfl (support_mono ?_))
      rw [weightsOf_split before after signal known,weightsOf,contributions_append,List.map_append]
      exact (List.sublist_append_right _ _).append_left _
    · rintro techniqueId fewer repeats found member without listed rfl named
      have known := (mapped_confidence member).1
      rw [(mapped_confidence member).2.1,(mapped_confidence listed).2.1,named]
      exact (repeats.unseen_iff known).mpr (saturated found.techniqueId fewer known repeats)

theorem guessing_bounded : (0 : ℚ) ≤ 11/2 ∧ (11/2 : ℚ) ≤ 10 := by norm_num

/-- The brute-force rule fired for one principal. -/
def guessing (eventIds : List Text) : DetectionSignal where
  ruleId := lit "brute_force_authentication"
  name := lit "Repeated authentication failures"
  description := []
  weight := 11/2
  eventIds := eventIds
  techniqueIds := [lit "T1110"]
  bounded := guessing_bounded

/-- Two firings of one rule count as two behaviors. -/
theorem second_firing_raises : ¬ Corroborated [guessing [lit "evt-1"],guessing [lit "evt-2"]] := by
  intro sound
  have named : ∀ eventIds, Names (guessing eventIds) (lit "T1110") := fun _ => ⟨lit "T1110",List.mem_singleton_self _,rfl⟩
  have weight : ∀ eventIds, (guessing eventIds).weight = 11/2 := fun _ => rfl
  have rule : ∀ first second, (guessing first).ruleId = (guessing second).ruleId := fun _ _ => rfl
  have repeats : Repeats (lit "T1110") [guessing [lit "evt-1"]] [guessing [lit "evt-1"],guessing [lit "evt-2"]] :=
    .firing [guessing [lit "evt-1"]] [] (guessing [lit "evt-2"]) (guessing [lit "evt-1"]) (List.mem_singleton_self _)
      (rule _ _) ((weight _).trans (weight _).symm) (named _) (named _)
  have known : Catalogued (lit "T1110") := by
    refine ⟨⟨lit "T1110",lit "Brute Force",[lit "Credential Access"]⟩,?_,rfl⟩
    exact List.mem_of_getElem? (i := 13) rfl
  obtain ⟨found,member,first⟩ := mapped_of_contributions known
    (contributions_ne_nil.mpr ⟨known,guessing [lit "evt-1"],List.mem_cons_self,named _⟩ :
      contributions [guessing [lit "evt-1"],guessing [lit "evt-2"]] _ ≠ [])
  obtain ⟨without,listed,second⟩ := mapped_of_contributions known
    (contributions_ne_nil.mpr ⟨known,guessing [lit "evt-1"],List.mem_cons_self,named _⟩ :
      contributions [guessing [lit "evt-1"]] _ ≠ [])
  have kept := sound.independent _ _ repeats found member without listed first second
  have once : [lit "T1110"].countP (fun named => upper named = lit "T1110") = 1 := by decide +kernel
  have single : ∀ eventIds, contributions [guessing eventIds] (lit "T1110") = [guessing eventIds] := by
    intro eventIds
    have ids : (guessing eventIds).techniqueIds = [lit "T1110"] := rfl
    rw [contributions_single known,ids,once,List.replicate_one]
  have both : weightsOf [guessing [lit "evt-1"],guessing [lit "evt-2"]] (lit "T1110") = [11/2,11/2] := by
    have parts : [guessing [lit "evt-1"],guessing [lit "evt-2"]] = [guessing [lit "evt-1"]] ++ [guessing [lit "evt-2"]] := rfl
    rw [weightsOf,parts,contributions_append,single,single]
    simp only [List.map_cons,List.map_nil,weight,List.cons_append,List.nil_append]
  have one : weightsOf [guessing [lit "evt-1"]] (lit "T1110") = [11/2] := by
    simp only [weightsOf,single,List.map_cons,List.map_nil,weight]
  rw [(mapped_confidence member).2.1,(mapped_confidence listed).2.1,first,second,both,one] at kept
  revert kept
  decide +kernel

end SocAnalyst.Corroboration
