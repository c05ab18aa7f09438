import Mathlib.Data.List.Dedup
import SocAnalyst.Versions

/-!
# Matching product names

When `product_match_score` of `tools/versions.py` is positive: the tiers of matching,
and the containment that sees through the separators of a name.
-/
namespace SocAnalyst.ProductNames
open SocAnalyst.Builtins SocAnalyst.Versions

section
variable [Interpreter]

/-- The words of a name, generic ones included. -/
def nameWords (name : Text) : List Text := ((lower name).splitOnP fun c => !isNameCharacter c).filter (· ≠ [])

/-- The name has a character that separates words. -/
def Separated (name : Text) : Prop := ∃ c ∈ lower name, isNameCharacter c = false

instance (name : Text) : Decidable (Separated name) := inferInstanceAs (Decidable (∃ c ∈ lower name, _))

/-- A word that distinguishes both names, long enough to carry a match. -/
def SharesWord (installed affected : Text) : Prop :=
  ∃ token ∈ distinctiveTokens installed, token ∈ distinctiveTokens affected ∧ minTokenLength ≤ token.length

instance (installed affected : Text) : Decidable (SharesWord installed affected) := inferInstanceAs (Decidable (∃ token ∈ _, _))

/-- One name contains the other, both without their separators. -/
def Contains (installed affected : Text) : Prop :=
  normalizeProduct installed <:+: normalizeProduct affected ∨ normalizeProduct affected <:+: normalizeProduct installed

instance (installed affected : Text) : Decidable (Contains installed affected) := inferInstanceAs (Decidable (_ ∨ _))

/-- The names share words, all of them generic. -/
def GenericOnly (installed affected : Text) : Prop :=
  (∃ word ∈ nameWords installed, word ∈ nameWords affected) ∧
    ∀ word ∈ nameWords installed, word ∈ nameWords affected → word ∈ genericTokens

/-- What a match score owes two names: it is the same both ways, it is positive only on
    equality, on a word that distinguishes both, or on containment where no name has a
    separator, and different names that share generic words only do not match. -/
structure Fair (installed affected : Text) : Prop where
  symmetric : productMatchScore installed affected = productMatchScore affected installed
  founded : 0 < productMatchScore installed affected → normalizeProduct installed = normalizeProduct affected ∨
    SharesWord installed affected ∨ (¬ Separated installed ∧ ¬ Separated affected ∧ Contains installed affected)
  distinguishing : normalizeProduct installed ≠ normalizeProduct affected → GenericOnly installed affected →
    productMatchScore installed affected = 0

/-- Different names of four characters or more, with no distinguishing word in common,
    one inside the other once the separators that they have are dropped. -/
structure SeenThrough (installed affected : Text) : Prop where
  different : normalizeProduct installed ≠ normalizeProduct affected
  unrelated : ¬ SharesWord installed affected
  long : 4 ≤ (normalizeProduct installed).length ∧ 4 ≤ (normalizeProduct affected).length
  contained : Contains installed affected
  separated : Separated installed ∨ Separated affected

/-! ### The tiers -/

/-- The words that count as shared. -/
def sharedTokens (installed affected : Text) : List Text :=
  (distinctiveTokens installed).filter fun token => token ∈ distinctiveTokens affected ∧ minTokenLength ≤ token.length

theorem sharedTokens_ne_nil (installed affected : Text) : sharedTokens installed affected ≠ [] ↔ SharesWord installed affected := by
  constructor
  · intro some
    obtain ⟨token,member⟩ := List.exists_mem_of_ne_nil _ some
    have shared := List.mem_filter.mp member
    exact ⟨token,shared.1,of_decide_eq_true shared.2⟩
  · rintro ⟨token,left,right⟩
    exact List.ne_nil_of_mem (List.mem_filter.mpr ⟨left,decide_eq_true right⟩)

/-- As many words are shared whichever name comes first. -/
theorem length_sharedTokens (installed affected : Text) :
    (sharedTokens installed affected).length = (sharedTokens affected installed).length := by
  have once : ∀ name other, (sharedTokens name other).Nodup := fun name other => (List.nodup_dedup _).filter _
  apply List.Perm.length_eq
  apply (List.perm_ext_iff_of_nodup (once _ _) (once _ _)).mpr
  intro token
  simp only [sharedTokens,List.mem_filter,decide_eq_true_eq]
  tauto

theorem Contains.comm (installed affected : Text) : Contains installed affected ↔ Contains affected installed := or_comm

/-- The score, tier by tier. -/
theorem productMatchScore_eq (installed affected : Text) : productMatchScore installed affected =
    if normalizeProduct installed = [] ∨ normalizeProduct affected = [] then 0
    else if normalizeProduct installed = normalizeProduct affected then exactMatchScore
    else if SharesWord installed affected then (sharedTokens installed affected).length
    else if min (normalizeProduct installed).length (normalizeProduct affected).length < 4 then 0
    else if Contains installed affected then 1 else 0 := by
  simp only [← sharedTokens_ne_nil]
  rfl

theorem productMatchScore_comm (installed affected : Text) :
    productMatchScore installed affected = productMatchScore affected installed := by
  have words : SharesWord installed affected ↔ SharesWord affected installed := by
    rw [← sharedTokens_ne_nil,← sharedTokens_ne_nil,← List.length_pos_iff,← List.length_pos_iff,length_sharedTokens]
  have empty : (normalizeProduct installed = [] ∨ normalizeProduct affected = []) ↔
      (normalizeProduct affected = [] ∨ normalizeProduct installed = []) := or_comm
  have same : normalizeProduct installed = normalizeProduct affected ↔ normalizeProduct affected = normalizeProduct installed := eq_comm
  rw [productMatchScore_eq,productMatchScore_eq]
  simp only [words,empty,same,Contains.comm installed affected,length_sharedTokens installed affected,
    min_comm (normalizeProduct installed).length]

/-- A score is positive on equality, on a shared word, or on containment. -/
theorem productMatchScore_pos (installed affected : Text) : 0 < productMatchScore installed affected ↔
    normalizeProduct installed ≠ [] ∧ normalizeProduct affected ≠ [] ∧
      (normalizeProduct installed = normalizeProduct affected ∨ SharesWord installed affected ∨
        (4 ≤ (normalizeProduct installed).length ∧ 4 ≤ (normalizeProduct affected).length ∧ Contains installed affected)) := by
  rw [productMatchScore_eq]
  by_cases empty : normalizeProduct installed = [] ∨ normalizeProduct affected = []
  · rw [if_pos empty]
    simp only [lt_irrefl,false_iff]
    rintro ⟨left,right,_⟩
    exact empty.elim left right
  · obtain ⟨left,right⟩ := not_or.mp empty
    rw [if_neg empty]
    by_cases same : normalizeProduct installed = normalizeProduct affected
    · simp [same,right,exactMatchScore]
    · by_cases word : SharesWord installed affected
      · have some := List.length_pos_iff.mpr ((sharedTokens_ne_nil installed affected).mpr word)
        simp [left,right,same,word,some]
      · by_cases short : min (normalizeProduct installed).length (normalizeProduct affected).length < 4
        · simp [left,right,same,word,short]
          omega
        · by_cases inside : Contains installed affected
          · simp [left,right,same,word,short,inside]
            omega
          · simp [left,right,same,word,short,inside]

/-! ### What is matched unfairly -/

/-- A name without separators is one word. -/
theorem nameWords_single {name : Text} (single : ¬ Separated name) : ∀ word ∈ nameWords name, word = normalizeProduct name := by
  have whole : ∀ c ∈ lower name, isNameCharacter c = true := by
    intro c member
    by_contra noise
    exact single ⟨c,member,by simpa using noise⟩
  have kept : normalizeProduct name = lower name := List.filter_eq_self.mpr whole
  have cut : (lower name).splitOnP (fun c => !isNameCharacter c) = [lower name] :=
    List.splitOnP_eq_singleton fun c member => by simp [whole c member]
  intro word member
  rw [nameWords,cut] at member
  rw [kept]
  simpa using (List.mem_filter.mp member).1

theorem mem_distinctiveTokens (name token : Text) : token ∈ distinctiveTokens name ↔ token ∈ nameWords name ∧ token ∉ genericTokens := by
  simp only [distinctiveTokens,nameWords,List.mem_dedup,List.mem_filter,decide_eq_true_eq,and_assoc]

theorem GenericOnly.unrelated {installed affected : Text} (generic : GenericOnly installed affected) : ¬ SharesWord installed affected := by
  rintro ⟨token,left,right,_⟩
  have first := (mem_distinctiveTokens installed token).mp left
  have second := (mem_distinctiveTokens affected token).mp right
  exact first.2 (generic.2 token first.1 second.1)

/-- A name seen through its separators is matched unfairly. -/
theorem SeenThrough.unfair {installed affected : Text} (seen : SeenThrough installed affected) : ¬ Fair installed affected := by
  intro fair
  have some : normalizeProduct installed ≠ [] ∧ normalizeProduct affected ≠ [] := by
    have long := seen.long
    constructor <;> intro none <;> simp [none] at long
  have positive := (productMatchScore_pos installed affected).mpr ⟨some.1,some.2,.inr (.inr ⟨seen.long.1,seen.long.2,seen.contained⟩)⟩
  rcases fair.founded positive with same | word | ⟨left,right,_⟩
  · exact seen.different same
  · exact seen.unrelated word
  · exact seen.separated.elim left right

/-- The score is fair exactly where containment does not see through a separator. -/
theorem fair_iff (installed affected : Text) : Fair installed affected ↔ ¬ SeenThrough installed affected := by
  constructor
  · exact fun fair seen => seen.unfair fair
  · intro unseen
    have founded : 0 < productMatchScore installed affected → normalizeProduct installed = normalizeProduct affected ∨
        SharesWord installed affected ∨ (¬ Separated installed ∧ ¬ Separated affected ∧ Contains installed affected) := by
      intro positive
      obtain ⟨_,_,same | word | ⟨left,right,inside⟩⟩ := (productMatchScore_pos installed affected).mp positive
      · exact .inl same
      · exact .inr (.inl word)
      · by_cases same : normalizeProduct installed = normalizeProduct affected
        · exact .inl same
        · by_cases word : SharesWord installed affected
          · exact .inr (.inl word)
          · have whole : ¬ (Separated installed ∨ Separated affected) := fun separated =>
              unseen ⟨same,word,⟨left,right⟩,inside,separated⟩
            exact .inr (.inr ⟨fun cut => whole (.inl cut),fun cut => whole (.inr cut),inside⟩)
    refine ⟨productMatchScore_comm installed affected,founded,fun different generic => ?_⟩
    by_contra positive
    rcases founded (Nat.pos_of_ne_zero positive) with same | word | ⟨left,right,_⟩
    · exact different same
    · exact generic.unrelated word
    · -- two single words in common are the whole names
      obtain ⟨word,first,second⟩ := generic.1
      exact different ((nameWords_single left word first).symm.trans (nameWords_single right word second))

end

/-- A bare vendor name matches a product of the vendor. -/
theorem vendor_matches_product :
    let _ := ascii
    ¬ ∀ installed affected : Text, Fair installed affected := by
  intro _ fair
  have seen : SeenThrough (lit "Apache") (lit "Apache Tomcat") :=
    ⟨by decide,by decide +kernel,by decide,by decide,by decide⟩
  exact seen.unfair (fair _ _)

end SocAnalyst.ProductNames
