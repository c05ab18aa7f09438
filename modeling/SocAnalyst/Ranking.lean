import SocAnalyst.Citations

/-!
# Fusion and ranking

`rag/ranking.py` over exact rationals. The half-life is positive, as the settings require.
-/
namespace SocAnalyst.Ranking
open SocAnalyst.Builtins SocAnalyst.Times SocAnalyst.Dicts SocAnalyst.Assessments SocAnalyst.Knowledge SocAnalyst.VectorStores

/-- How candidates are ranked: `math.pow(0.5, x)`, the half-life, and the instant ages
    are taken at. -/
structure Freshness where
  power : ℚ → ℚ
  halfLifeDays : ℚ
  now : Int

def denseWeight : ℚ := 45 / 100
def keywordWeight : ℚ := 55 / 100
def freshnessFloor : ℚ := 1 / 2

/-- Ranking multiplier for a source trust tier. -/
def trustWeight : SourceTrustTier → ℚ
  | .AUTHORITATIVE => 1
  | .VENDOR => 9 / 10
  | .COMMUNITY => 75 / 100
  | .INTERNAL => 85 / 100

/-- Exponential decay by age; one for undated or future-dated sources. -/
def freshnessWeight (freshness : Freshness) : Option DateTime → ℚ
  | none => 1
  | some publishedAt =>
    let ageDays : ℚ := (freshness.now - publishedAt.instant : Int) / dayMicros
    if ageDays ≤ 0 then 1 else freshness.power (ageDays / freshness.halfLifeDays)

def fuseDense (merged : Dict Text RetrievedChunk) (item : KnowledgeChunkRecord × ℚ) : Dict Text RetrievedChunk :=
  merged.set item.1.chunkId { chunk := item.1, denseScore := item.2, matchedBy := [.dense] }

def fuseKeyword (merged : Dict Text RetrievedChunk) (item : KnowledgeChunkRecord × ℚ) : Dict Text RetrievedChunk :=
  merged.set item.1.chunkId (match merged.get? item.1.chunkId with
    | none => { chunk := item.1, keywordScore := item.2, matchedBy := [.keyword] }
    | some existing => { existing with keywordScore := item.2, matchedBy := existing.matchedBy ++ [.keyword] })

/-- Merge both retrieval paths, deduplicating on chunk id. -/
def fuse (dense keyword : Found) : List RetrievedChunk :=
  (keyword.foldl fuseKeyword (dense.foldl fuseDense .empty)).values

/-- Scale scores to between zero and one. -/
def normalize : List ℚ → List ℚ
  | [] => []
  | first :: rest =>
    let highest := rest.foldl max first
    if highest ≤ 0 then (first :: rest).map fun _ => 0 else (first :: rest).map (· / highest)

/-- A candidate with its score, from its normalized scores. -/
def scored (freshness : Freshness) (item : RetrievedChunk) (dense keyword : ℚ) : RetrievedChunk :=
  let fresh := freshnessWeight freshness item.chunk.metadata.publishedAt
  let trust := trustWeight item.chunk.metadata.trustTier
  { item with
    freshnessWeight := fresh
    trustWeight := trust
    score := (denseWeight * dense + keywordWeight * keyword) * (freshnessFloor + (1 - freshnessFloor) * fresh) * trust }

/-- Score and order candidates by relevance, freshness, and trust. -/
def rank (freshness : Freshness) (candidates : List RetrievedChunk) : List RetrievedChunk :=
  let normalized := (normalize (candidates.map (·.denseScore))).zip (normalize (candidates.map (·.keywordScore)))
  sortedBy (fun item => (toLex (-item.score,item.chunk.chunkId) : ℚ ×ₗ Text))
    ((candidates.zip normalized).map fun entry => scored freshness entry.1 entry.2.1 entry.2.2)

/-! ### The token budget -/

/-- `_CHARS_PER_TOKEN` of `memory/summarization.py`. -/
def charsPerToken : Nat := 4

/-- Estimate the token cost of a text. -/
def estimateTokens (text : Text) : Nat := if text = [] then 0 else max 1 ((text.length + charsPerToken - 1) / charsPerToken)

/-- The loop of `take_within_budget`: whether something is selected, and the tokens used. -/
def takeFrom (tokenBudget : Int) : Bool → Nat → List RetrievedChunk → List RetrievedChunk
  | _, _, [] => []
  | selected, used, item :: rest =>
    let cost := estimateTokens item.chunk.content
    if selected ∧ tokenBudget < used + cost then [] else item :: takeFrom tokenBudget true (used + cost) rest

/-- Take the best chunks that fit both the top-k cap and the token budget. -/
def takeWithinBudget (ranked : List RetrievedChunk) (topK tokenBudget : Int) : List RetrievedChunk :=
  takeFrom tokenBudget false 0 (upTo ranked topK)

/-! ### Where a limit cuts the ranking -/

/-- Where `items[:stop]` ends. -/
def cutAt {α : Type} (items : List α) (stop : Int) : Nat := if stop < 0 then (items.length + stop).toNat else stop.toNat

theorem upTo_eq {α : Type} (items : List α) (stop : Int) : upTo items stop = items.take (cutAt items stop) := rfl

/-- The token cost of chunks. -/
def tokens : List RetrievedChunk → Nat
  | [] => 0
  | item :: rest => estimateTokens item.chunk.content + tokens rest

@[simp] theorem tokens_nil : tokens [] = 0 := rfl

@[simp] theorem tokens_cons (item : RetrievedChunk) (rest : List RetrievedChunk) :
    tokens (item :: rest) = estimateTokens item.chunk.content + tokens rest := rfl

/-- A limit cuts what the budget selects of all. -/
theorem takeFrom_take (tokenBudget : Int) (selected : Bool) (used n : Nat) (items : List RetrievedChunk) :
    takeFrom tokenBudget selected used (items.take n) = (takeFrom tokenBudget selected used items).take n := by
  induction items generalizing selected used n with
  | nil => simp [takeFrom]
  | cons item rest ih =>
    cases n with
    | zero => rfl
    | succ n =>
      simp only [List.take_succ_cons,takeFrom]
      split_ifs
      · rfl
      · rw [ih,List.take_succ_cons]

/-- More than `n` items are selected just when there are more and their cost stays within
    the budget, the first being free. -/
theorem lt_length_takeFrom {tokenBudget : Int} {selected : Bool} {used n : Nat} {items : List RetrievedChunk} :
    n < (takeFrom tokenBudget selected used items).length ↔
      n < items.length ∧ (selected = true ∨ 0 < n → used + tokens (items.take (n + 1)) ≤ tokenBudget) := by
  induction items generalizing selected used n with
  | nil => simp [takeFrom]
  | cons item rest ih =>
    rw [takeFrom]
    cases n with
    | zero =>
      split_ifs with stop
      · simp only [List.length_nil,lt_irrefl,false_iff]
        rintro ⟨_,within⟩
        have cost := within (.inl stop.1)
        simp at cost
        omega
      · simp only [List.length_cons,Nat.zero_lt_succ,true_and,true_iff]
        rintro (chosen | more)
        · have room : ¬ tokenBudget < used + estimateTokens item.chunk.content := fun late => stop ⟨chosen,late⟩
          simp
          omega
        · omega
    | succ n =>
      have costs : tokens ((item :: rest).take (n + 1 + 1)) = estimateTokens item.chunk.content + tokens (rest.take (n + 1)) := by simp
      rw [costs]
      split_ifs with stop
      · simp only [List.length_nil,Nat.not_lt_zero,false_iff]
        rintro ⟨_,within⟩
        have cost := within (.inr (Nat.succ_pos n))
        omega
      · rw [List.length_cons,Nat.add_lt_add_iff_right,ih,List.length_cons,Nat.add_lt_add_iff_right]
        refine and_congr_right fun _ => ?_
        simp only [true_or,forall_const,Nat.succ_pos,or_true]
        omega

/-- The limit leaves out a chunk that the budget would take. -/
def Withholds (tokenBudget : Int) (ranked : List RetrievedChunk) (n : Nat) : Prop :=
  n < ranked.length ∧ (0 < n → tokens (ranked.take (n + 1)) ≤ tokenBudget)

/-- Two limits cut the ranking at the same place, or the shorter cut leaves out nothing
    that the budget would take. -/
def CutAlike (tokenBudget : Int) (ranked : List RetrievedChunk) (n m : Nat) : Prop := n = m ∨ ¬ Withholds tokenBudget ranked (min n m)

theorem takeWithinBudget_eq_iff (ranked : List RetrievedChunk) (tokenBudget topK other : Int) :
    takeWithinBudget ranked topK tokenBudget = takeWithinBudget ranked other tokenBudget ↔
      CutAlike tokenBudget ranked (cutAt ranked topK) (cutAt ranked other) := by
  have selects : ∀ n, Withholds tokenBudget ranked n ↔ n < (takeFrom tokenBudget false 0 ranked).length := by
    intro n
    rw [lt_length_takeFrom]
    simp [Withholds]
  unfold takeWithinBudget CutAlike
  rw [upTo_eq,upTo_eq,takeFrom_take,takeFrom_take,List.take_eq_take_iff,selects]
  omega

end SocAnalyst.Ranking
