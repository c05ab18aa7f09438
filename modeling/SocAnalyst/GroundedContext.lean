import SocAnalyst.CachedAnswers
import SocAnalyst.KeywordSearches

/-!
# Grounded context

What an answer that `RagService.retrieve` computes over the in-process store consists of:
two searches fused by chunk id, ranked, cut to the limit and the budget, and cited.
-/
namespace SocAnalyst.GroundedContext
open SocAnalyst.Builtins SocAnalyst.Times SocAnalyst.Dicts SocAnalyst.Knowledge SocAnalyst.VectorStores SocAnalyst.IndexSwaps
open SocAnalyst.KeywordSearches (scoreMatching_matches keywordSearch_matches)
open SocAnalyst.Ingestion SocAnalyst.Citations SocAnalyst.Ranking SocAnalyst.Retrieval SocAnalyst.CachedAnswers SocAnalyst.Runs

/-! ### Corpora -/

/-- A call that changes the corpus. -/
inductive Change where
  | addChunks (chunks : List EmbeddedChunk) (indexVersion : Text)
  | activateVersion (sourceId indexVersion : Text)

def Change.on (store : InMemoryVectorStore) : Change → InMemoryVectorStore
  | .addChunks chunks indexVersion => store.addChunks chunks indexVersion
  | .activateVersion sourceId indexVersion => (store.activateVersion sourceId indexVersion).1

/-- The in-process store after some changes of an empty corpus. -/
def held (changes : List Change) : InMemoryVectorStore := changes.foldl Change.on .empty

theorem held_versioned (changes : List Change) : ∀ chunk ∈ (held changes).chunks, chunk.indexVersion ≠ none := by
  have keeps : ∀ store : InMemoryVectorStore, (∀ chunk ∈ store.chunks, chunk.indexVersion ≠ none) →
      ∀ chunk ∈ (changes.foldl Change.on store).chunks, chunk.indexVersion ≠ none := by
    induction changes with
    | nil => exact fun _ versioned => versioned
    | cons change rest ih =>
      intro store versioned
      refine ih (change.on store) ?_
      cases change with
      | addChunks chunks indexVersion =>
        intro chunk stored
        rcases List.mem_append.mp stored with old | new
        · exact versioned chunk old
        · obtain ⟨_,_,rfl⟩ := List.mem_map.mp new
          simp
      | activateVersion sourceId indexVersion => exact versioned
  exact keeps .empty (fun _ none => absurd none List.not_mem_nil)

/-! ### Fusion -/

/-- Under each id the dictionary has a chunk of the id, of a kind. -/
def Fused (P : KnowledgeChunkRecord → Prop) (merged : Dict Text RetrievedChunk) : Prop :=
  ∀ key item, merged.get? key = some item → item.chunk.chunkId = key ∧ P item.chunk

variable {P : KnowledgeChunkRecord → Prop}

theorem Fused.set {merged : Dict Text RetrievedChunk} (fused : Fused P merged) {item : RetrievedChunk} (good : P item.chunk) :
    Fused P (merged.set item.chunk.chunkId item) := by
  intro key other found
  rw [Dict.get?_set] at found
  split_ifs at found with same
  · cases found
    exact ⟨same.symm,good⟩
  · exact fused key other found

theorem Fused.dense {merged : Dict Text RetrievedChunk} (fused : Fused P merged) {dense : Found} (good : ∀ item ∈ dense, P item.1) :
    Fused P (dense.foldl fuseDense merged) := by
  induction dense generalizing merged with
  | nil => exact fused
  | cons first rest ih =>
    obtain ⟨here,later⟩ := List.forall_mem_cons.mp good
    have added := @Fused.set P merged fused { chunk := first.1, denseScore := first.2, matchedBy := [.dense] } here
    exact ih added later

theorem Fused.keyword {merged : Dict Text RetrievedChunk} (fused : Fused P merged) {keyword : Found} (good : ∀ item ∈ keyword, P item.1) :
    Fused P (keyword.foldl fuseKeyword merged) := by
  induction keyword generalizing merged with
  | nil => exact fused
  | cons first rest ih =>
    obtain ⟨here,later⟩ := List.forall_mem_cons.mp good
    refine ih ?_ later
    unfold fuseKeyword
    cases known : merged.get? first.1.chunkId with
    | none => exact @Fused.set P merged fused { chunk := first.1, keywordScore := first.2, matchedBy := [.keyword] } here
    | some existing =>
      obtain ⟨same,kept⟩ := fused _ _ known
      have again := @Fused.set P merged fused { existing with keywordScore := first.2, matchedBy := existing.matchedBy ++ [.keyword] } kept
      rw [← same]
      exact again

theorem fuse_fused {dense keyword : Found} (searched : ∀ item ∈ dense ++ keyword, P item.1) :
    ((fuse dense keyword).map (·.chunk.chunkId)).Nodup ∧ ∀ item ∈ fuse dense keyword, P item.chunk := by
  have start : Fused P .empty := fun _ _ found => by cases found
  have fused := (start.dense fun item member => searched item (List.mem_append_left _ member)).keyword
    fun item member => searched item (List.mem_append_right _ member)
  generalize made : keyword.foldl fuseKeyword (dense.foldl fuseDense .empty) = merged at fused
  have each : ∀ entry ∈ merged.entries, entry.2.chunk.chunkId = entry.1 ∧ P entry.2.chunk :=
    fun entry member => fused entry.1 entry.2 ((Dict.get?_eq_some ..).mpr member)
  have ids : merged.values.map (·.chunk.chunkId) = merged.keys := by
    rw [Dict.values,Dict.keys,List.map_map]
    exact List.map_congr_left fun entry member => (each entry member).1
  unfold fuse
  rw [made,ids]
  refine ⟨merged.distinct,fun item member => ?_⟩
  obtain ⟨entry,stored,rfl⟩ := List.mem_map.mp member
  exact (each entry stored).2

/-! ### Ranking -/

theorem length_normalize (scores : List ℚ) : (Ranking.normalize scores).length = scores.length := by
  cases scores with
  | nil => rfl
  | cons first rest =>
    unfold Ranking.normalize
    dsimp only
    split_ifs
    · simp
    · simp

/-- Ranking rescores the candidates and puts them in order. -/
theorem rank_chunks (freshness : Freshness) (candidates : List RetrievedChunk) :
    ((rank freshness candidates).map (·.chunk)).Perm (candidates.map (·.chunk)) := by
  unfold rank
  refine ((List.perm_insertionSort _ _).map _).trans ?_
  have long : candidates.length ≤ ((Ranking.normalize (candidates.map (·.denseScore))).zip (Ranking.normalize (candidates.map (·.keywordScore)))).length := by
    simp [length_normalize]
  have scored : ∀ entry : RetrievedChunk × ℚ × ℚ, (scored freshness entry.1 entry.2.1 entry.2.2).chunk = entry.1.chunk := fun _ => rfl
  rw [List.map_map]
  have firsts := congrArg (List.map (·.chunk)) (List.map_fst_zip long)
  rw [List.map_map] at firsts
  rw [← firsts]
  exact .of_eq (List.map_congr_left fun entry _ => scored entry)

/-- A chunk comes before another: it scores more, or as much with the smaller id. -/
def Before (item other : RetrievedChunk) : Prop :=
  other.score < item.score ∨ (item.score = other.score ∧ item.chunk.chunkId < other.chunk.chunkId)

theorem rank_ordered {freshness : Freshness} {candidates : List RetrievedChunk} (once : (candidates.map (·.chunk.chunkId)).Nodup) :
    (rank freshness candidates).Pairwise Before := by
  have ids : ((rank freshness candidates).map (·.chunk.chunkId)).Nodup := by
    have same := (rank_chunks freshness candidates).map (·.chunkId)
    rw [List.map_map,List.map_map] at same
    exact same.nodup_iff.mpr once
  rw [List.Nodup,List.pairwise_map] at ids
  have sorted : (rank freshness candidates).Pairwise fun item other : RetrievedChunk =>
      (toLex (-item.score,item.chunk.chunkId) : ℚ ×ₗ Text) ≤ toLex (-other.score,other.chunk.chunkId) := pairwise_sortedBy _ _
  refine (sorted.and ids).imp ?_
  rintro item other ⟨below,apart⟩
  rcases Prod.Lex.toLex_le_toLex.mp below with more | ⟨equal,smaller⟩
  · exact .inl (neg_lt_neg_iff.mp more)
  · exact .inr ⟨neg_inj.mp equal,lt_of_le_of_ne smaller apart⟩

/-! ### The cut -/

theorem takeFrom_front (tokenBudget : Int) (selected : Bool) (used : Nat) (items : List RetrievedChunk) :
    takeFrom tokenBudget selected used items <+: items := by
  induction items generalizing selected used with
  | nil => exact List.nil_prefix
  | cons item rest ih =>
    rw [takeFrom]
    split_ifs
    · exact List.nil_prefix
    · exact List.cons_prefix_cons.mpr ⟨rfl,ih _ _⟩

theorem takeWithinBudget_front (ranked : List RetrievedChunk) (topK tokenBudget : Int) :
    takeWithinBudget ranked topK tokenBudget <+: ranked :=
  (takeFrom_front ..).trans (List.take_prefix _ _)

theorem takeWithinBudget_few (ranked : List RetrievedChunk) {topK : Int} (positive : 0 < topK) (tokenBudget : Int) :
    ((takeWithinBudget ranked topK tokenBudget).length : Int) ≤ topK := by
  have short := (takeFrom_front tokenBudget false 0 (upTo ranked topK)).length_le
  have cut : (upTo ranked topK).length ≤ topK.toNat := by
    rw [upTo_eq,cutAt,if_neg (by omega)]
    exact List.length_take_le ..
  unfold takeWithinBudget
  omega

/-- Past the first chunk, the tokens taken stay within the budget. -/
theorem takeWithinBudget_within (ranked : List RetrievedChunk) (topK tokenBudget : Int) :
    (takeWithinBudget ranked topK tokenBudget).length ≤ 1 ∨ (tokens (takeWithinBudget ranked topK tokenBudget) : Int) ≤ tokenBudget := by
  unfold takeWithinBudget
  generalize upTo ranked topK = items
  generalize made : takeFrom tokenBudget false 0 items = taken
  by_cases several : taken.length ≤ 1
  · exact .inl several
  · have last : taken.length - 1 < (takeFrom tokenBudget false 0 items).length := by rw [made]; omega
    have within := (lt_length_takeFrom.mp last).2 (.inr (by omega))
    have front : taken = items.take (taken.length - 1 + 1) := by
      rw [show taken.length - 1 + 1 = taken.length by omega]
      exact List.prefix_iff_eq_take.mp (made ▸ takeFrom_front ..)
    rw [← front] at within
    omega

/-! ### Citations -/

/-- A chunk as the loop over chunks tells it apart: by its id, or else its source. -/
def citedAs (item : RetrievedChunk) : Text := citationKey (bindCitation item.chunk)

theorem citedAs_eq (item : RetrievedChunk) :
    citedAs item = if item.chunk.chunkId = [] then item.chunk.metadata.sourceId else item.chunk.chunkId := rfl

theorem bindCitationsFrom_sublist (seen : List Text) (chunks : List RetrievedChunk) :
    (bindCitationsFrom seen chunks).Sublist (chunks.map fun item => bindCitation item.chunk) := by
  induction chunks generalizing seen with
  | nil => exact .refl _
  | cons item rest ih =>
    rw [bindCitationsFrom]
    split_ifs
    · exact (ih seen).cons _
    · exact (ih _).cons_cons _

theorem bindCitationsFrom_all {seen : List Text} {chunks : List RetrievedChunk} :
    bindCitationsFrom seen chunks = chunks.map (fun item => bindCitation item.chunk) ↔
      (chunks.map citedAs).Nodup ∧ ∀ item ∈ chunks, citedAs item ∉ seen := by
  induction chunks generalizing seen with
  | nil => simp [bindCitationsFrom]
  | cons item rest ih =>
    rw [bindCitationsFrom]
    split_ifs with known
    · refine iff_of_false (fun equal => ?_) fun both => both.2 item (List.mem_cons_self ..) known
      have short := (bindCitationsFrom_sublist seen rest).length_le
      rw [equal] at short
      simp only [List.length_map,List.length_cons] at short
      omega
    · rw [List.map_cons,List.cons_inj_right,ih,List.map_cons,List.nodup_cons,List.forall_mem_cons]
      have unseen : (∀ other ∈ rest, citedAs other ∉ citedAs item :: seen) ↔
          citedAs item ∉ rest.map citedAs ∧ ∀ other ∈ rest, citedAs other ∉ seen := by
        simp only [List.mem_cons,not_or,List.mem_map,not_exists,not_and,forall_and]
      have fresh : citedAs item ∉ seen := known
      rw [show citationKey (bindCitation item.chunk) = citedAs item from rfl,unseen]
      tauto

/-- No chunk without an id comes from a source that has the id of another. -/
def Citable (chunks : List RetrievedChunk) : Prop :=
  ∀ item ∈ chunks, ∀ other ∈ chunks, item.chunk.chunkId = [] → other.chunk.chunkId ≠ [] →
    item.chunk.metadata.sourceId ≠ other.chunk.chunkId

theorem bindCitations_all_iff {chunks : List RetrievedChunk} (once : (chunks.map (·.chunk.chunkId)).Nodup) :
    bindCitations chunks = chunks.map (fun item => bindCitation item.chunk) ↔ Citable chunks := by
  have members : ∀ item ∈ chunks, ∀ other ∈ chunks, item.chunk.chunkId = other.chunk.chunkId → item = other :=
    fun item first other second => List.inj_on_of_nodup_map once first second
  unfold bindCitations
  rw [bindCitationsFrom_all]
  simp only [List.not_mem_nil,not_false_eq_true,implies_true,and_true]
  constructor
  · intro apart item first other second nameless named same
    have equal : item = other := List.inj_on_of_nodup_map apart first second (by
      rw [citedAs_eq,citedAs_eq,if_pos nameless,if_neg named,same])
    exact named (equal ▸ nameless)
  · intro citable
    refine List.Nodup.map_on (fun item first other second same => ?_) (once.of_map _)
    rw [citedAs_eq,citedAs_eq] at same
    split_ifs at same with nameless also also
    · exact members item first other second (nameless.trans also.symm)
    · exact absurd same (citable item first other second nameless also)
    · exact absurd same.symm (citable other second item first also nameless)
    · exact members item first other second same

/-! ### One retrieval -/

theorem get_flagged {cache : RetrievalCache} {key : Text} {now : Int} {served : RetrievalResult} (found : cache.get key now = some served) :
    served.cached = true := by
  unfold RetrievalCache.get at found
  split at found
  · cases found
  · split_ifs at found
    cases found
    rfl

theorem getStale_flagged {cache : RetrievalCache} {key : Text} {served : RetrievalResult} (found : cache.getStale key = some served) :
    served.cached = true := by
  obtain ⟨_,_,rfl⟩ := Option.map_eq_some_iff.mp found
  rfl

section
variable [Interpreter] {service : RagService}

/-- What is returned uncached was computed, or is empty because a search failed. -/
theorem retrieve_uncached {corpus : Corpus} {cache : RetrievalCache} {clock : Clock} {request : Request} {result : RetrievalResult}
    (returned : (service.retrieve cache corpus.calls clock request).2 = .ok result) (uncached : result.cached = false) :
    (∃ ranked, service.hybridRetrieve corpus.calls clock.ranking request = .ok ranked ∧
        result = service.resultOf request (corpusVersion corpus.active service.registry) ranked) ∨
      ∃ e, service.hybridRetrieve corpus.calls clock.ranking request = .error e ∧
        result = { query := request.query, indexVersion := corpusVersion corpus.active service.registry, stale := true } := by
  have course : Course service ⟨corpus.active,cache,[]⟩ corpus.calls clock request _ := retrieve_course (Views.calls corpus).active
  revert course returned
  generalize service.retrieve cache corpus.calls clock request = outcome
  intro returned course
  cases course with
  | unread e _ => cases returned
  | unkeyed e _ => cases returned
  | endless key ranked e _ _ _ _ => cases returned
  | hit key served _ _ fresh =>
    cases returned
    rw [get_flagged fresh] at uncached
    cases uncached
  | degraded key e _ _ _ failed =>
    cases returned
    refine .inr ⟨e,failed,?_⟩
    cases kept : cache.getStale key with
    | none => rfl
    | some stale =>
      rw [kept,Option.getD_some,getStale_flagged kept] at uncached
      cases uncached
  | computed key ranked _ _ _ _ searched _ =>
    cases returned
    exact .inl ⟨ranked,searched,rfl⟩

/-- Unless the request cannot be digested or its answer would expire after the last time
    there is, a retrieval from the in-process store returns. -/
theorem retrieve_returns {corpus : Corpus} {cache : RetrievalCache} {clock : Clock} {request : Request}
    (encodable : Encodable (digested service corpus request))
    (expires : cache.enabled = true → cache.expiry clock.storing < maxDays * dayMicros) :
    ∃ result, (service.retrieve cache corpus.calls clock request).2 = .ok result := by
  have course : Course service ⟨corpus.active,cache,[]⟩ corpus.calls clock request _ := retrieve_course (Views.calls corpus).active
  revert course
  generalize service.retrieve cache corpus.calls clock request = outcome
  intro course
  cases course with
  | unread e unreadable => exact absurd (fun _ sourceId _ => ⟨corpus.active sourceId,rfl⟩) unreadable
  | unkeyed e unkeyed =>
    have keyed : liveKey service ⟨corpus.active,cache,[]⟩ request = .ok (service.sha256 (digested service corpus request)) := if_pos encodable
    rw [keyed] at unkeyed
    cases unkeyed
  | hit key cached _ _ _ => exact ⟨cached,rfl⟩
  | degraded key e _ _ _ _ => exact ⟨_,rfl⟩
  | computed key ranked _ _ _ _ _ _ => exact ⟨_,rfl⟩
  | endless key ranked e _ _ _ failed =>
    unfold RetrievalCache.set at failed
    split_ifs at failed with off late
    have on : cache.enabled = true := by simpa using off
    exact absurd late (not_le.mpr (expires on))

/-- The full ranking of the candidates of a request; a search that fails ranks nothing. -/
def ranking (service : RagService) (corpus : Corpus) (now : Int) (request : Request) : List RetrievedChunk :=
  match service.hybridRetrieve corpus.calls now request with
  | .ok ranked => ranked
  | .error _ => []

/-- A chunk of the store, of the version of its source that is active, that passes the filters. -/
structure Eligible (store : InMemoryVectorStore) (filters : RetrievalFilters) (record : KnowledgeChunkRecord) : Prop where
  stored : ∃ chunk ∈ store.chunks, record = chunk.toKnowledgeChunkRecord
  active : ∃ version, store.activeVersion record.metadata.sourceId = some version ∧ record.indexVersion = some version
  filtered : matchesFilters record filters = .ok true

/-- What a result owes the request it answers from the in-process store. -/
structure Grounded (service : RagService) (similarity : List ℚ → List ℚ → Except PyError ℚ) (store : InMemoryVectorStore) (now : Int)
    (request : Request) (result : RetrievalResult) : Prop where
  distinct : (result.chunks.map (·.chunk.chunkId)).Nodup
  eligible : ∀ item ∈ result.chunks, Eligible store request.filters item.chunk
  ordered : result.chunks.Pairwise Before
  few : (result.chunks.length : Int) ≤ limitOf service request
  within : result.chunks.length = 1 ∨ (tokens result.chunks : Int) ≤ service.tokenBudget
  best : result.chunks <+: ranking service (ofMemory similarity store) now request
  estimated : result.estimatedTokens = tokens result.chunks

/-- One citation for each chunk, in the same order. -/
def CitesEach (result : RetrievalResult) : Prop := result.citations = result.chunks.map fun item => bindCitation item.chunk

theorem searches_eligible {similarity : List ℚ → List ℚ → Except PyError ℚ} {store : InMemoryVectorStore}
    (versioned : ∀ chunk ∈ store.chunks, chunk.indexVersion ≠ none) {vector : List ℚ} {query : Text} {filters : RetrievalFilters}
    {limit : Nat} {dense keyword : Found} (found : store.denseSearch similarity vector filters limit = .ok dense)
    (matched : store.keywordSearch query filters limit = .ok keyword) : ∀ item ∈ dense ++ keyword, Eligible store filters item.1 := by
  intro item member
  have visible : ∃ chunk ∈ store.searchable, item.1 = chunk.toKnowledgeChunkRecord :=
    (List.mem_append.mp member).elim (InMemoryVectorStore.denseSearch_mem found) (InMemoryVectorStore.keywordSearch_mem matched)
  have passed : matchesFilters item.1 filters = .ok true := by
    rcases List.mem_append.mp member with here | here
    · obtain ⟨scored,run,rfl⟩ := map_ok.mp found
      exact scoreMatching_matches run item (mem_best here)
    · exact keywordSearch_matches matched item here
  obtain ⟨chunk,searchable,same⟩ := visible
  obtain ⟨version,live,named⟩ := searchable_live versioned searchable
  exact ⟨⟨chunk,(List.mem_filter.mp searchable).1,same⟩,⟨version,by simpa [same] using live,by rw [same,named]⟩,passed⟩

/-- The candidates are ranked without repetition. -/
theorem hybridRetrieve_ranks {similarity : List ℚ → List ℚ → Except PyError ℚ} {store : InMemoryVectorStore}
    (versioned : ∀ chunk ∈ store.chunks, chunk.indexVersion ≠ none) {now : Int} {request : Request} {ranked : List RetrievedChunk}
    (searched : service.hybridRetrieve (ofMemory similarity store).calls now request = .ok ranked) :
    (ranked.map (·.chunk.chunkId)).Nodup ∧ (∀ item ∈ ranked, Eligible store request.filters item.chunk) ∧ ranked.Pairwise Before := by
  obtain ⟨vector,_,rest⟩ := bind_ok.mp searched
  obtain ⟨dense,found,rest⟩ := bind_ok.mp rest
  obtain ⟨keyword,matched,done⟩ := bind_ok.mp rest
  obtain ⟨once,eligible⟩ := fuse_fused (searches_eligible versioned found matched)
  cases done
  have same := rank_chunks ⟨service.power,service.halfLifeDays,now⟩ (fuse dense keyword)
  refine ⟨?_,fun item member => ?_,rank_ordered once⟩
  · have ids := same.map (·.chunkId)
    rw [List.map_map,List.map_map] at ids
    exact ids.nodup_iff.mpr once
  · obtain ⟨candidate,listed,chunk⟩ := List.mem_map.mp (same.mem_iff.mp (List.mem_map_of_mem member))
    exact chunk ▸ eligible candidate listed

omit [Interpreter] in
theorem tokens_sum (chunks : List RetrievedChunk) (total : Nat) :
    chunks.foldl (fun total item => total + estimateTokens item.chunk.content) total = total + tokens chunks := by
  induction chunks generalizing total with
  | nil => rfl
  | cons item rest ih =>
    rw [List.foldl_cons,ih,tokens_cons]
    omega

theorem uncached_grounded {similarity : List ℚ → List ℚ → Except PyError ℚ} {store : InMemoryVectorStore}
    (versioned : ∀ chunk ∈ store.chunks, chunk.indexVersion ≠ none) {cache : RetrievalCache} {clock : Clock} {request : Request}
    (limit : 0 < limitOf service request) (budget : 0 < service.tokenBudget) {result : RetrievalResult}
    (returned : (service.retrieve cache (ofMemory similarity store).calls clock request).2 = .ok result) (uncached : result.cached = false) :
    Grounded service similarity store clock.ranking request result ∧ (CitesEach result ↔ Citable result.chunks) := by
  rcases retrieve_uncached returned uncached with ⟨ranked,searched,rfl⟩ | ⟨e,_,rfl⟩
  · obtain ⟨once,eligible,ordered⟩ := hybridRetrieve_ranks versioned searched
    have front := takeWithinBudget_front ranked (limitOf service request) service.tokenBudget
    have distinct := once.sublist (front.sublist.map (·.chunk.chunkId))
    have whole : ranking service (ofMemory similarity store) clock.ranking request = ranked := by rw [ranking,searched]
    refine ⟨⟨distinct,fun item member => eligible item (front.subset member),ordered.sublist front.sublist,
      takeWithinBudget_few ranked limit _,?_,by rw [whole]; exact front,?_⟩,bindCitations_all_iff distinct⟩
    · rcases takeWithinBudget_within ranked (limitOf service request) service.tokenBudget with alone | within
      · rcases Nat.le_one_iff_eq_zero_or_eq_one.mp alone with none | one
        · refine .inr ?_
          rw [resultOf_chunks,List.length_eq_zero_iff.mp none,tokens_nil]
          exact budget.le
        · exact .inl one
      · exact .inr within
    · exact (tokens_sum _ 0).trans (Nat.zero_add _)
  · refine ⟨⟨List.nodup_nil,fun _ none => absurd none List.not_mem_nil,.nil,limit.le,.inr budget.le,List.nil_prefix,rfl⟩,?_⟩
    exact iff_of_true rfl fun _ none => absurd none List.not_mem_nil

/-- Over every in-process corpus, a retrieval with a positive limit and budget returns if
    its request can be digested and its answer expires at a time there is; what it returns
    uncached is grounded, and cites each chunk just when its chunks can be told apart. -/
theorem context_grounded (similarity : List ℚ → List ℚ → Except PyError ℚ) (changes : List Change) (cache : RetrievalCache) (clock : Clock)
    (request : Request) (limit : 0 < limitOf service request) (budget : 0 < service.tokenBudget) :
    (Encodable (digested service (ofMemory similarity (held changes)) request) →
      (cache.enabled = true → cache.expiry clock.storing < maxDays * dayMicros) →
      ∃ result, (service.retrieve cache (ofMemory similarity (held changes)).calls clock request).2 = .ok result) ∧
    ∀ result, (service.retrieve cache (ofMemory similarity (held changes)).calls clock request).2 = .ok result → result.cached = false →
      Grounded service similarity (held changes) clock.ranking request result ∧ (CitesEach result ↔ Citable result.chunks) :=
  ⟨retrieve_returns,fun _ => uncached_grounded (held_versioned changes) limit budget⟩

/-! ### Ingested corpora -/

/-- Where every chunk of the store has an id, the chunks of an answer can be told apart. -/
theorem Grounded.citable {similarity : List ℚ → List ℚ → Except PyError ℚ} {store : InMemoryVectorStore} {now : Int} {request : Request}
    {result : RetrievalResult} (grounded : Grounded service similarity store now request result)
    (named : ∀ chunk ∈ store.chunks, chunk.chunkId ≠ []) : Citable result.chunks := by
  intro item member _ _ nameless
  obtain ⟨chunk,stored,same⟩ := (grounded.eligible item member).stored
  rw [same] at nameless
  exact absurd nameless (named chunk stored)

/-- Chunks that ingestion stores have an id and a version. -/
theorem ingested_named {pipeline : IngestionPipeline} {history : List Ingestion} {store : InMemoryVectorStore}
    (run : Run (IngestsInMemory pipeline) .empty history store) : ∀ chunk ∈ store.chunks, chunk.chunkId ≠ [] ∧ chunk.indexVersion ≠ none := by
  intro chunk member
  have listed : chunk.toKnowledgeChunkRecord ∈ history.flatMap (brought pipeline) := by
    have there : chunk.toKnowledgeChunkRecord ∈ store.chunks.map (·.toKnowledgeChunkRecord) := List.mem_map_of_mem member
    rw [inMemory_history pipeline run] at there
    simpa [InMemoryVectorStore.empty] using there
  obtain ⟨_,_,inside⟩ := List.mem_flatMap.mp listed
  obtain ⟨record,cut,same⟩ := List.mem_map.mp inside
  have named := chunkId_ne_nil pipeline cut
  rw [← same]
  exact ⟨named,Option.some_ne_none _⟩

/-- Over a corpus that ingestion filled, every chunk of an uncached answer is cited. -/
theorem ingested_cited {pipeline : IngestionPipeline} {history : List Ingestion} {store : InMemoryVectorStore}
    (run : Run (IngestsInMemory pipeline) .empty history store) {similarity : List ℚ → List ℚ → Except PyError ℚ} {cache : RetrievalCache}
    {clock : Clock} {request : Request} (limit : 0 < limitOf service request) (budget : 0 < service.tokenBudget) {result : RetrievalResult}
    (returned : (service.retrieve cache (ofMemory similarity store).calls clock request).2 = .ok result) (uncached : result.cached = false) :
    CitesEach result := by
  have filled := ingested_named run
  obtain ⟨grounded,cites⟩ := uncached_grounded (fun chunk member => (filled chunk member).2) limit budget returned uncached
  exact cites.mpr (grounded.citable fun chunk member => (filled chunk member).1)

end

/-! ### Two advisories, one of them without an id -/

/-- A corpus of two advisories. -/
def written (chunkId : Text) : List Change :=
  [.addChunks [advisory chunkId,advisory (lit "nvd")] (lit "nvd-1"),.activateVersion (lit "nvd") (lit "nvd-1")]

/-- What is answered about a query by a service that caches for some seconds. -/
def answerAbout (query chunkId : Text) (ttlSeconds : Int) : Except PyError RetrievalResult :=
  (@RagService.retrieve ascii sampleService ⟨ttlSeconds,.empty⟩ (@ofMemory ascii (fun _ _ => .ok 1) (held (written chunkId))).calls
    ⟨reading,reading,reading⟩ (asking query 2)).2

def answered (chunkId : Text) : Except PyError RetrievalResult := answerAbout (lit "log4j") chunkId 0

/-- How many chunks an answer has, and how many citations. -/
def counted : Except PyError RetrievalResult → Nat × Nat
  | .ok result => (result.chunks.length,result.citations.length)
  | .error _ => (0,0)

theorem two_advisories_grounded : ∃ result, answered (lit "adv-1#0") = .ok result ∧ counted (.ok result) = (2,2) ∧
    @Grounded ascii sampleService (fun _ _ => .ok 1) (held (written (lit "adv-1#0"))) reading (asking (lit "log4j") 2) result ∧
    CitesEach result := by
  have both : counted (answered (lit "adv-1#0")) = (2,2) := by decide +kernel
  have named : ∀ chunk ∈ (held (written (lit "adv-1#0"))).chunks, chunk.chunkId ≠ [] := by decide
  obtain ⟨grounded,cites⟩ := (@context_grounded ascii sampleService (fun _ _ => .ok 1) (written (lit "adv-1#0")) ⟨0,.empty⟩
    ⟨reading,reading,reading⟩ (asking (lit "log4j") 2) (by decide) (by decide)).2 _ rfl rfl
  exact ⟨_,rfl,both,grounded,cites.mpr (@Grounded.citable ascii _ _ _ _ _ _ grounded named)⟩

/-- Half of a surrogate pair cannot be digested, and no date is ten thousand years from the
    clock reading. -/
theorem unanswered : answerAbout [0xD800] (lit "adv-1#0") 0 = .error .UnicodeEncodeError ∧
    answerAbout (lit "log4j") (lit "adv-1#0") (10000 * 366 * 86400) = .error .OverflowError := ⟨rfl,rfl⟩

/-- Of a chunk without an id and one with the id of its source, one is not cited. -/
theorem nameless_uncited : 0 < @limitOf sampleService (asking (lit "log4j") 2) ∧ 0 < sampleService.tokenBudget ∧
    ∃ result, answered [] = .ok result ∧ result.cached = false ∧ result.chunks.length = 2 ∧ result.citations.length = 1 ∧ ¬ CitesEach result := by
  have both : counted (answered []) = (2,1) := by decide +kernel
  have chunks := congrArg Prod.fst both
  have citations := congrArg Prod.snd both
  refine ⟨by decide,by decide,_,rfl,rfl,chunks,citations,fun cites => ?_⟩
  have same := congrArg List.length cites
  rw [List.length_map] at same
  exact absurd (citations.symm.trans (same.trans chunks)) (by decide)

end SocAnalyst.GroundedContext
