import Mathlib.Data.List.Perm.Basic
import SocAnalyst.BoundedRanking
import SocAnalyst.VectorStores

/-!
# Keyword search in both stores

When the keyword search of PostgreSQL answers what the in-process one does on the same
active chunks, whatever rows its limit leaves.
-/
namespace SocAnalyst.KeywordSearches
open SocAnalyst.Builtins SocAnalyst.Dicts SocAnalyst.Knowledge SocAnalyst.VectorStores SocAnalyst.BoundedRanking

/-- The order of search results: the higher score first, then by chunk id. -/
def rank (found : KnowledgeChunkRecord × ℚ) : ℚ ×ₗ Text := toLex (-found.2,found.1.chunkId)

/-- Whether a result has a score. -/
def Scores (found : KnowledgeChunkRecord × ℚ) : Prop := 0 < found.2

instance : DecidablePred Scores := fun found => inferInstanceAs (Decidable (0 < found.2))

theorem best_eq (limit : Nat) (scored : Found) : best limit scored = ranked rank Scores limit scored := rfl

theorem rank_first (x y : KnowledgeChunkRecord × ℚ) (scores : Scores x) (none : ¬ Scores y) : rank x < rank y := by
  refine Prod.Lex.toLex_lt_toLex.mpr (.inl ?_)
  have low : y.2 ≤ 0 := not_lt.mp none
  exact neg_lt_neg (low.trans_lt scores)

/-- Whether a record passes every filter. -/
def passes (filters : RetrievalFilters) (record : KnowledgeChunkRecord) : Bool :=
  match matchesFilters record filters with
  | .ok matched => matched
  | .error _ => false

/-- No filter raises on a record. -/
def Comparable (filters : RetrievalFilters) (records : List KnowledgeChunkRecord) : Prop :=
  ∀ record ∈ records, ∃ matched, matchesFilters record filters = .ok matched

/-- A record that a search keeps passes the filters. -/
theorem keeps_matches {filters : RetrievalFilters} {score : Except PyError ℚ} {record : KnowledgeChunkRecord} {item : KnowledgeChunkRecord × ℚ}
    (returned : (do if ← matchesFilters record filters then return some (record,← score) else return none :
      Except PyError (Option (KnowledgeChunkRecord × ℚ))) = .ok (some item)) :
    item.1 = record ∧ matchesFilters record filters = .ok true := by
  obtain ⟨matched,filtered,rest⟩ := bind_ok.mp returned
  cases matched with
  | false => cases rest
  | true =>
    obtain ⟨value,_,same⟩ := bind_ok.mp rest
    cases same
    exact ⟨rfl,filtered⟩

theorem scoreMatching_matches {score : EmbeddedChunk → Except PyError ℚ} {filters : RetrievalFilters} {chunks : List EmbeddedChunk}
    {found : Found} (run : scoreMatching score filters chunks = .ok found) : ∀ item ∈ found, matchesFilters item.1 filters = .ok true := by
  obtain ⟨kept,looped,rfl⟩ := map_ok.mp run
  intro item member
  obtain ⟨chunk,_,returned⟩ := (mapRaising_mem looped _).mp (List.reduceOption_mem_iff.mp member)
  obtain ⟨same,matched⟩ := keeps_matches returned
  rw [same]
  exact matched

/-- Scoring the matching chunks returns just when no filter raises. -/
theorem scoreMatching_ok {score : EmbeddedChunk → ℚ} {filters : RetrievalFilters} {chunks : List EmbeddedChunk} {found : Found} :
    scoreMatching (fun chunk => .ok (score chunk)) filters chunks = .ok found ↔
      Comparable filters (chunks.map (·.toKnowledgeChunkRecord)) ∧
        (chunks.filter fun chunk => passes filters chunk.toKnowledgeChunkRecord).map (fun chunk =>
          (chunk.toKnowledgeChunkRecord,score chunk)) = found := by
  induction chunks generalizing found with
  | nil => simp [scoreMatching,mapRaising,Comparable,Except.map]
  | cons chunk rest ih =>
    have step : scoreMatching (fun chunk => .ok (score chunk)) filters (chunk :: rest) =
        (matchesFilters chunk.toKnowledgeChunkRecord filters).bind fun matched =>
          (scoreMatching (fun chunk => .ok (score chunk)) filters rest).map fun others =>
            if matched then (chunk.toKnowledgeChunkRecord,score chunk) :: others else others := by
      unfold scoreMatching
      rw [mapRaising]
      rcases matchesFilters chunk.toKnowledgeChunkRecord filters with e | matched
      · rfl
      · cases matched
        all_goals
          simp only [bind,Except.bind,pure,Except.pure]
          generalize mapRaising _ rest = later
          cases later <;> simp [Except.map,List.reduceOption_cons_of_some,List.reduceOption_cons_of_none]
    rw [step]
    cases matched : matchesFilters chunk.toKnowledgeChunkRecord filters with
    | error e =>
      refine iff_of_false (by rintro ⟨⟩) fun both => ?_
      obtain ⟨value,returned⟩ := both.1 _ (List.mem_cons_self ..)
      rw [matched] at returned
      cases returned
    | ok value =>
      dsimp only [Except.bind]
      have comparable : Comparable filters ((chunk :: rest).map (·.toKnowledgeChunkRecord)) ↔
          Comparable filters (rest.map (·.toKnowledgeChunkRecord)) := by
        simp [Comparable,matched]
      have passed : passes filters chunk.toKnowledgeChunkRecord = value := by simp [passes,matched]
      rw [comparable,List.filter_cons,passed]
      simp only [map_ok,ih]
      cases value <;> simp

/-! ### What the searches may answer -/

section
variable [Interpreter]

/-- A record with its keyword score. -/
def scored (query : Text) (record : KnowledgeChunkRecord) : KnowledgeChunkRecord × ℚ := (record,keywordOverlapScore query record)

/-- The active chunks that pass the filters, scored. -/
def matching (store : InMemoryVectorStore) (query : Text) (filters : RetrievalFilters) : Found :=
  ((store.searchable.map (·.toKnowledgeChunkRecord)).filter (passes filters)).map (scored query)

/-- The rows that the keyword query selects, scored. -/
def candidates (store : PgVectorStore) (query : Text) (filters : RetrievalFilters) : Found :=
  ((store.keywordCandidates query filters).map (·.toKnowledgeChunkRecord)).map (scored query)

theorem keywordSearch_ok {store : InMemoryVectorStore} {query : Text} {filters : RetrievalFilters} {limit : Nat} {found : Found} :
    store.keywordSearch query filters limit = .ok found ↔
      Comparable filters (store.searchable.map (·.toKnowledgeChunkRecord)) ∧
        ranked rank Scores limit (matching store query filters) = found := by
  have same : matching store query filters =
      (store.searchable.filter fun chunk => passes filters chunk.toKnowledgeChunkRecord).map fun chunk =>
        (chunk.toKnowledgeChunkRecord,keywordOverlapScore query chunk.toKnowledgeChunkRecord) := by
    simp [matching,scored,List.filter_map,Function.comp_def]
  rw [InMemoryVectorStore.keywordSearch,map_ok,same]
  simp only [scoreMatching_ok,best_eq]
  constructor
  · rintro ⟨_,⟨comparable,rfl⟩,rfl⟩
    exact ⟨comparable,rfl⟩
  · rintro ⟨comparable,rfl⟩
    exact ⟨_,⟨comparable,rfl⟩,rfl⟩

/-- A keyword search of PostgreSQL ranks the first of its candidates in any order. -/
theorem keywordAnswer_iff {store : PgVectorStore} {query : Text} {filters : RetrievalFilters} {limit : Nat} {answer : Found} :
    PgVectorStore.KeywordAnswer store query filters limit answer ↔
      ∃ rows : Found, rows.Perm (candidates store query filters) ∧ ranked rank Scores limit (rows.take limit) = answer := by
  have taken : ∀ rows : List KnowledgeChunk, (rows.take limit).map (fun row => (row.toKnowledgeChunkRecord,
      keywordOverlapScore query row.toKnowledgeChunkRecord)) = ((rows.map (·.toKnowledgeChunkRecord)).map (scored query)).take limit := by
    intro rows
    simp [scored,List.map_take,Function.comp_def]
  constructor
  · rintro ⟨rows,order,rfl⟩
    exact ⟨_,(order.map _).map _,by rw [← taken]; rfl⟩
  · rintro ⟨items,order,rfl⟩
    let made : KnowledgeChunkRecord × ℚ → KnowledgeChunk → Prop := fun item row => item = scored query row.toKnowledgeChunkRecord
    have pairs : List.Forall₂ made (candidates store query filters) (store.keywordCandidates query filters) := by
      simp only [candidates,List.forall₂_map_left_iff]
      exact List.forall₂_same.mpr fun _ _ => rfl
    obtain ⟨rows,named,permuted⟩ := List.perm_comp_forall₂ order pairs
    refine ⟨rows,permuted,?_⟩
    have same : items = (rows.map (·.toKnowledgeChunkRecord)).map (scored query) := by
      refine List.forall₂_eq_eq_eq ▸ ?_
      simpa only [List.forall₂_map_right_iff] using named
    rw [taken,← same]
    rfl

/-- The stores hold the same active chunks. -/
def SameActive (pg : PgVectorStore) (memory : InMemoryVectorStore) : Prop :=
  (pg.searchable.map (·.toKnowledgeChunkRecord)).Perm (memory.searchable.map (·.toKnowledgeChunkRecord))

/-- The keyword searches answer alike, and every chunk that a search of either store
    returns passes the filters. -/
structure SearchesAgree (pg : PgVectorStore) (memory : InMemoryVectorStore) (query : Text) (filters : RetrievalFilters) (limit : Nat) :
    Prop where
  keyword : ∃ found, memory.keywordSearch query filters limit = .ok found ∧
    ∀ answer, PgVectorStore.KeywordAnswer pg query filters limit answer → answer = found
  keywordInMemory : ∀ found, memory.keywordSearch query filters limit = .ok found → ∀ item ∈ found, matchesFilters item.1 filters = .ok true
  keywordPg : ∀ answer, PgVectorStore.KeywordAnswer pg query filters limit answer → ∀ item ∈ answer, matchesFilters item.1 filters = .ok true
  denseInMemory : ∀ similarity embedding found, memory.denseSearch similarity embedding filters limit = .ok found →
    ∀ item ∈ found, matchesFilters item.1 filters = .ok true
  densePg : ∀ distance embedding found, PgVectorStore.DenseAnswer distance pg embedding filters limit (.ok found) →
    ∀ item ∈ found, matchesFilters item.1 filters = .ok true

/-- No filter raises on an active chunk, and the candidates of PostgreSQL stand for the
    matching chunks: nothing is asked for, or nothing scores, or they fit the limit, tie
    nothing that scores, and miss no chunk that belongs among the best. -/
structure CandidatesServe (pg : PgVectorStore) (memory : InMemoryVectorStore) (query : Text) (filters : RetrievalFilters) (limit : Nat) :
    Prop where
  comparable : Comparable filters (memory.searchable.map (·.toKnowledgeChunkRecord))
  stand : limit = 0 ∨
    ((∀ item ∈ candidates pg query filters, ¬ Scores item) ∧ ∀ item ∈ matching memory query filters, ¬ Scores item) ∨
    ((candidates pg query filters).length ≤ limit ∧ Untied rank Scores (candidates pg query filters) ∧
      Covers rank Scores limit (matching memory query filters) (candidates pg query filters))

theorem scored_injective (query : Text) : Function.Injective (scored query) := fun _ _ same => congrArg Prod.fst same

omit [Interpreter] in
/-- No two rows hold the same record. -/
theorem records_distinct (pg : PgVectorStore) {rows : List KnowledgeChunk} (sub : rows.Sublist pg.chunks) :
    (rows.map (·.toKnowledgeChunkRecord)).Nodup := by
  have keys : (rows.map KnowledgeChunk.key).Nodup := pg.chunkKeys.sublist (sub.map _)
  have through : rows.map KnowledgeChunk.key = (rows.map (·.toKnowledgeChunkRecord)).map fun record => (record.chunkId,record.indexVersion) := by
    rw [List.map_map]
    rfl
  rw [through] at keys
  exact keys.of_map _

theorem candidates_distinct (pg : PgVectorStore) (query : Text) (filters : RetrievalFilters) : (candidates pg query filters).Nodup :=
  (records_distinct pg (((List.filter_sublist).trans List.filter_sublist).trans List.filter_sublist)).map (scored_injective query)

theorem matching_distinct {pg : PgVectorStore} {memory : InMemoryVectorStore} (active : SameActive pg memory) (query : Text)
    (filters : RetrievalFilters) : (matching memory query filters).Nodup :=
  ((active.nodup_iff.mp (records_distinct pg List.filter_sublist)).filter _).map (scored_injective query)

omit [Interpreter] in
theorem denseAnswer_matches {distance : List ℚ → List ℚ → ℚ} {pg : PgVectorStore} {embedding : List ℚ} {filters : RetrievalFilters}
    {limit : Nat} {found : Found} (answered : PgVectorStore.DenseAnswer distance pg embedding filters limit (.ok found)) :
    ∀ item ∈ found, matchesFilters item.1 filters = .ok true := by
  obtain ⟨rows,_,_,answer⟩ := answered
  obtain ⟨kept,run,rfl⟩ := map_ok.mp answer.symm
  intro item member
  obtain ⟨row,_,returned⟩ := (mapRaising_mem run _).mp (List.reduceOption_mem_iff.mp (List.mem_filter.mp member).1)
  obtain ⟨same,matched⟩ := @keeps_matches filters (.ok (1 - distance row.embedding embedding)) _ _ returned
  rw [same]
  exact matched

theorem keywordSearch_matches {memory : InMemoryVectorStore} {query : Text} {filters : RetrievalFilters} {limit : Nat} {found : Found}
    (search : memory.keywordSearch query filters limit = .ok found) : ∀ item ∈ found, matchesFilters item.1 filters = .ok true := by
  obtain ⟨all,run,rfl⟩ := map_ok.mp search
  exact fun item member => scoreMatching_matches run item (mem_best member)

/-- The searches of the stores agree just when the candidates of PostgreSQL stand for the
    matching chunks. -/
theorem searches_agree_iff {pg : PgVectorStore} {memory : InMemoryVectorStore} (active : SameActive pg memory) (query : Text)
    (filters : RetrievalFilters) (limit : Nat) :
    SearchesAgree pg memory query filters limit ↔ CandidatesServe pg memory query filters limit := by
  have orders := ranked_agree limit rank_first (matching_distinct active query filters) (candidates_distinct pg query filters)
  have same : (∃ found, memory.keywordSearch query filters limit = .ok found ∧
      ∀ answer, PgVectorStore.KeywordAnswer pg query filters limit answer → answer = found) ↔
      CandidatesServe pg memory query filters limit := by
    constructor
    · rintro ⟨found,search,agrees⟩
      obtain ⟨comparable,rfl⟩ := keywordSearch_ok.mp search
      exact ⟨comparable,orders.mp fun rows order => agrees _ (keywordAnswer_iff.mpr ⟨rows,order,rfl⟩)⟩
    · rintro ⟨comparable,stand⟩
      refine ⟨_,keywordSearch_ok.mpr ⟨comparable,rfl⟩,fun answer answered => ?_⟩
      obtain ⟨rows,order,rfl⟩ := keywordAnswer_iff.mp answered
      exact orders.mpr stand rows order
  constructor
  · exact fun agree => same.mp agree.keyword
  · intro serve
    obtain ⟨found,search,agrees⟩ := same.mpr serve
    refine ⟨⟨found,search,agrees⟩,fun _ => keywordSearch_matches,fun answer answered => ?_,fun _ _ _ run => ?_,
      fun _ _ _ => denseAnswer_matches⟩
    · rw [agrees answer answered]
      exact keywordSearch_matches search
    · obtain ⟨all,scoring,rfl⟩ := map_ok.mp run
      exact fun item member => scoreMatching_matches scoring item (mem_best member)

end

/-- An advisory that names no product. -/
def advisory : EmbeddedChunk where
  chunkId := lit "adv-1#0"
  documentId := lit "adv-1"
  content := lit "log4shell"
  metadata := { sourceKind := .ADVISORY,sourceId := lit "adv",sourceName := lit "Advisories",trustTier := .VENDOR }
  indexVersion := some (lit "adv-1")
  embedding := [1]

theorem advisory_keys : ([{ advisory with createdAt := 0 }].map KnowledgeChunk.key).Nodup := List.nodup_singleton _

theorem no_version_keys : (([] : List KnowledgeIndexVersion).map KnowledgeIndexVersion.key).Nodup := List.nodup_nil

def advisoryPg : PgVectorStore := ⟨[{ advisory with createdAt := 0 }],[],advisory_keys,no_version_keys⟩

def advisoryInMemory : InMemoryVectorStore where
  chunks := [advisory]
  active := Dict.empty.set (lit "adv") (lit "adv-1")

/-- The part of the advisory that tells of the patch. -/
def patchAdvisory : EmbeddedChunk := { advisory with chunkId := lit "adv-1#1",content := lit "the log4shell patch" }

/-- A runbook for the same incident. -/
def patchRunbook : EmbeddedChunk :=
  { patchAdvisory with
    chunkId := lit "run-1#0"
    metadata := { sourceKind := .INTERNAL_RUNBOOK,sourceId := lit "adv",sourceName := lit "Runbooks",trustTier := .INTERNAL } }

theorem patch_keys : ([{ advisory with createdAt := 0 },{ patchAdvisory with createdAt := 1 },
    { patchRunbook with createdAt := 2 }].map KnowledgeChunk.key).Nodup := by decide

def patchPg : PgVectorStore :=
  ⟨[{ advisory with createdAt := 0 },{ patchAdvisory with createdAt := 1 },{ patchRunbook with createdAt := 2 }],[],patch_keys,no_version_keys⟩

def patchInMemory : InMemoryVectorStore where
  chunks := [patchAdvisory,advisory,patchRunbook]
  active := Dict.empty.set (lit "adv") (lit "adv-1")

/-- Of three chunks both searches find the two that the filter passes, the better match first. -/
theorem searches_agree_patch :
    (∃ found, @InMemoryVectorStore.keywordSearch ascii patchInMemory (lit "log4shell patch") { sourceKinds := [.ADVISORY] } 5 = .ok found ∧
      found.map (fun item => (item.1.chunkId,item.2)) = [(lit "adv-1#1",1),(lit "adv-1#0",1 / 2)]) ∧
    @SearchesAgree ascii patchPg patchInMemory (lit "log4shell patch") { sourceKinds := [.ADVISORY] } 5 := by
  let := ascii
  have active : SameActive patchPg patchInMemory := .swap ..
  have selected : @candidates ascii patchPg (lit "log4shell patch") { sourceKinds := [.ADVISORY] } =
      [scored (lit "log4shell patch") advisory.toKnowledgeChunkRecord,scored (lit "log4shell patch") patchAdvisory.toKnowledgeChunkRecord] := rfl
  have all : @matching ascii patchInMemory (lit "log4shell patch") { sourceKinds := [.ADVISORY] } =
      [scored (lit "log4shell patch") patchAdvisory.toKnowledgeChunkRecord,scored (lit "log4shell patch") advisory.toKnowledgeChunkRecord] := rfl
  have apart : rank (scored (lit "log4shell patch") advisory.toKnowledgeChunkRecord) ≠
      rank (scored (lit "log4shell patch") patchAdvisory.toKnowledgeChunkRecord) := by
    intro same
    have ids : advisory.chunkId = patchAdvisory.chunkId := congrArg (fun key => (ofLex key).2) same
    exact absurd ids (by decide)
  have comparable : Comparable { sourceKinds := [.ADVISORY] } (patchInMemory.searchable.map (·.toKnowledgeChunkRecord)) := by
    intro record _
    by_cases kind : record.metadata.sourceKind = .ADVISORY <;> simp [matchesFilters,publishedSince,Except.map,kind]
  refine ⟨?_,(@searches_agree_iff ascii patchPg patchInMemory active (lit "log4shell patch") { sourceKinds := [.ADVISORY] } 5).mpr
    ⟨comparable,.inr (.inr ?_)⟩⟩
  · refine ⟨_,(@keywordSearch_ok ascii ..).mpr ⟨comparable,rfl⟩,?_⟩
    rw [all]
    decide +kernel
  · rw [selected,all]
    refine ⟨by decide,?_,fun x member _ => (List.Perm.swap ..).mem_iff.mp member,fun x member _ => .inl ((List.Perm.swap ..).mem_iff.mp member)⟩
    intro x first y second _ _ same
    simp only [List.mem_cons,List.not_mem_nil,or_false] at first second
    rcases first with rfl | rfl
    · rcases second with rfl | rfl
      · rfl
      · exact absurd same apart
    · rcases second with rfl | rfl
      · exact absurd same.symm apart
      · rfl

theorem advisory_candidates : @candidates ascii advisoryPg (lit "log4shell") { products := [lit "log4j"] } =
    [@scored ascii (lit "log4shell") advisory.toKnowledgeChunkRecord] := rfl

/-- PostgreSQL returns the advisory to a query for another product. -/
theorem product_filter_ignored : ¬ @SearchesAgree ascii advisoryPg advisoryInMemory (lit "log4shell") { products := [lit "log4j"] } 5 := by
  let := ascii
  intro agree
  have found := agree.keywordPg _ ((@keywordAnswer_iff ascii ..).mpr ⟨_,.refl _,rfl⟩) (@scored ascii (lit "log4shell") advisory.toKnowledgeChunkRecord) (by
    rw [advisory_candidates]
    exact (mem_ranked_all (by decide)).mpr ⟨List.mem_singleton_self _,by decide +kernel⟩)
  cases found

end SocAnalyst.KeywordSearches
