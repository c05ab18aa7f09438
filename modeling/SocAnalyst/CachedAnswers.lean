import SocAnalyst.Retrieval

/-!
# Answers from the cache

Retrievals over a corpus that does not change, at one clock reading. What a cached answer
owes its caller is the answer that the service gives without a cache.
-/
namespace SocAnalyst.CachedAnswers
open SocAnalyst.Builtins SocAnalyst.Dicts SocAnalyst.Knowledge SocAnalyst.VectorStores SocAnalyst.Ingestion
open SocAnalyst.Citations SocAnalyst.Ranking SocAnalyst.Retrieval SocAnalyst.Runs

/-! ### Tokens of a trimmed text -/

theorem space_not_part {c : Nat} (space : isSpace c = true) : tokenPart c = false := by
  simp only [isSpace,Bool.or_eq_true,Bool.and_eq_true,decide_eq_true_eq,beq_iff_eq] at space
  simp only [tokenPart,tokenStart,Bool.or_eq_false_iff,Bool.and_eq_false_iff,decide_eq_false_iff_not,beq_eq_false_iff_ne]
  omega

theorem space_not_start {c : Nat} (space : isSpace c = true) : tokenStart c = false := by
  have part := space_not_part space
  simp only [tokenPart,Bool.or_eq_false_iff] at part
  exact part.1.1.1

theorem tokensFrom_before {before : Text} (blank : ∀ c ∈ before, isSpace c = true) (text : Text) :
    tokensFrom [] (before ++ text) = tokensFrom [] text := by
  induction before with
  | nil => rfl
  | cons c rest ih =>
    obtain ⟨space,spaces⟩ := List.forall_mem_cons.mp blank
    rw [List.cons_append,tokensFrom,space_not_start space]
    exact ih spaces

theorem tokensFrom_after {after : Text} (blank : ∀ c ∈ after, isSpace c = true) (current text : Text) :
    tokensFrom current (text ++ after) = tokensFrom current text := by
  induction text generalizing current with
  | nil =>
    have none : tokensFrom [] after = [] := by simpa [tokensFrom] using tokensFrom_before blank []
    cases current with
    | nil => simpa [tokensFrom] using none
    | cons first more =>
      cases after with
      | nil => rfl
      | cons c rest =>
        obtain ⟨space,spaces⟩ := List.forall_mem_cons.mp blank
        have last : tokensFrom [] rest = [] := by simpa [tokensFrom] using tokensFrom_before spaces []
        simp [tokensFrom,space_not_part space,last]
  | cons c rest ih =>
    cases current with
    | nil => simp only [List.cons_append,tokensFrom,ih]
    | cons first more => simp only [List.cons_append,tokensFrom,ih]

section
variable [Interpreter]

/-- Lowercasing leaves the blanks around a text as they are. -/
def KeepsBlanks : Prop := ∀ before text after : Text, (∀ c ∈ before, isSpace c = true) → (∀ c ∈ after, isSpace c = true) →
  lower (before ++ text ++ after) = before ++ lower text ++ after

theorem tokenize_strip (keeps : KeepsBlanks) (text : Text) : tokenize text = tokensFrom [] (lower (strip text)) := by
  obtain ⟨before,after,left,right,whole⟩ := strip_within text
  have lowered := keeps before (strip text) after left right
  rw [whole] at lowered
  rw [tokenize,lowered,tokensFrom_after right,tokensFrom_before left]

end

/-! ### The corpus -/

/-- The store of a corpus that does not change: what it answers. -/
structure Corpus where
  active : Text → Option Text
  dense : List ℚ → RetrievalFilters → Nat → Except PyError Found
  keyword : Text → RetrievalFilters → Nat → Except PyError Found

/-- The corpus as a store of which no call fails to reach it. -/
def Corpus.calls (corpus : Corpus) : StoreCalls where
  activeVersion _ sourceId := .ok (corpus.active sourceId)
  denseSearch := corpus.dense
  keywordSearch := corpus.keyword

/-- Whatever a call of the store returns, the corpus holds. -/
structure Views (corpus : Corpus) (store : StoreCalls) : Prop where
  active : Agrees corpus.active store
  dense : ∀ vector filters limit found, store.denseSearch vector filters limit = .ok found → corpus.dense vector filters limit = .ok found
  keyword : ∀ query filters limit found, store.keywordSearch query filters limit = .ok found → corpus.keyword query filters limit = .ok found

theorem Views.calls (corpus : Corpus) : Views corpus corpus.calls :=
  ⟨fun _ _ _ returned => (Except.ok.inj returned).symm,fun _ _ _ _ => id,fun _ _ _ _ => id⟩

section
variable [Interpreter]

/-- The in-process store as a corpus. -/
def ofMemory (similarity : List ℚ → List ℚ → Except PyError ℚ) (memory : InMemoryVectorStore) : Corpus where
  active := memory.activeVersion
  dense := memory.denseSearch similarity
  keyword := memory.keywordSearch

/-- PostgreSQL as a corpus, if every statement meets its rows in the order they are stored. -/
def ofPostgres (distance : List ℚ → List ℚ → ℚ) (pg : PgVectorStore) : Corpus where
  active sourceId := (pg.activeVersion sourceId).toOption.getD none
  dense embedding filters limit := (mapRaising (fun row : KnowledgeChunk => do
    if ← matchesFilters row.toKnowledgeChunkRecord filters then
      return some (row.toKnowledgeChunkRecord,1 - distance row.embedding embedding)
    else return none) ((sortedBy (fun row => distance row.embedding embedding) (pg.baseQuery filters)).take limit)).map
      fun found => found.reduceOption.filter fun item => 0 < item.2
  keyword query filters limit := .ok (best limit (((pg.keywordCandidates query filters).take limit).map fun row =>
    (row.toKnowledgeChunkRecord,keywordOverlapScore query row.toKnowledgeChunkRecord)))

theorem ofPostgres_dense (distance : List ℚ → List ℚ → ℚ) (pg : PgVectorStore) (embedding : List ℚ) (filters : RetrievalFilters) (limit : Nat) :
    PgVectorStore.DenseAnswer distance pg embedding filters limit ((ofPostgres distance pg).dense embedding filters limit) :=
  ⟨_,List.perm_insertionSort _ _,pairwise_sortedBy _ _,rfl⟩

theorem ofPostgres_keyword (distance : List ℚ → List ℚ → ℚ) (pg : PgVectorStore) (query : Text) (filters : RetrievalFilters) (limit : Nat) :
    ∃ answer, (ofPostgres distance pg).keyword query filters limit = .ok answer ∧ PgVectorStore.KeywordAnswer pg query filters limit answer :=
  ⟨_,rfl,_,.refl _,rfl⟩

/-! ### Requests -/

/-- The same query up to surrounding blanks and letter case, under the same filters. -/
def Alike (request same : Request) : Prop := lower (strip request.query) = lower (strip same.query) ∧ request.filters = same.filters

/-- What the key of a request digests. -/
def digested (service : RagService) (corpus : Corpus) (request : Request) : Text :=
  lower (strip request.query) ++ service.dumpJson request.filters ++ (corpusVersion corpus.active service.registry).getD []

/-- No two of the digested texts collide, and the JSON that ends a text is that of one set of
    filters. -/
structure Distinguishes (service : RagService) (corpus : Corpus) (requests : List Request) : Prop where
  digests : ∀ r ∈ requests, ∀ s ∈ requests, service.sha256 (digested service corpus r) = service.sha256 (digested service corpus s) →
    digested service corpus r = digested service corpus s
  decodes : ∀ r ∈ requests, ∀ s ∈ requests, ∀ front other : Text,
    front ++ service.dumpJson r.filters = other ++ service.dumpJson s.filters → r.filters = s.filters

end

/-! ### Retrievals at one clock reading -/

section
variable [Interpreter] (service : RagService) (corpus : Corpus) (now : Int)

def keyOf (request : Request) : Except PyError Text :=
  service.cacheKey request.query request.filters (corpusVersion corpus.active service.registry)

/-- The limit in force for a request. -/
def limitOf (request : Request) : Int := if request.topK.getD 0 = 0 then service.topK else request.topK.getD 0

/-- The cache, and the requests whose answers were computed, the latest first. -/
structure World where
  cache : RetrievalCache
  filled : List Request

def World.start (ttlSeconds : Int) : World := ⟨⟨ttlSeconds,.empty⟩,[]⟩

/-- Whether an answer was computed rather than served from the cache or left empty. -/
def isComputed : Except PyError RetrievalResult → Bool
  | .ok result => !result.cached && !result.stale
  | .error _ => false

/-- A retrieval, some calls of which may fail to reach the corpus. -/
inductive Step : World → Request → World → Prop where
  | retrieve {w : World} {store : StoreCalls} {request : Request} : Views corpus store →
      Step w request ⟨(service.retrieve w.cache store ⟨now,now,now⟩ request).1,
        if isComputed (service.retrieve w.cache store ⟨now,now,now⟩ request).2 then request :: w.filled else w.filled⟩

/-- An answer has the chunks and citations that the service, its cache switched off,
    gives to the same request. -/
def Transparent (request : Request) (answer : RetrievalResult) : Prop :=
  ∀ same : Request, Alike same request → same.topK = request.topK →
    ∃ fresh, (service.retrieve ⟨0,.empty⟩ corpus.calls ⟨now,now,now⟩ same).2 = .ok fresh ∧
      answer.chunks = fresh.chunks ∧ answer.citations = fresh.citations

/-- What the service takes of its ranking for a request: nothing when a search fails. -/
def selected (request : Request) : List RetrievedChunk :=
  match service.hybridRetrieve corpus.calls now request with
  | .ok ranked => takeWithinBudget ranked (limitOf service request) service.tokenBudget
  | .error _ => []

/-- The limit of an earlier call cuts the ranking made for it as the limit of the request
    does. -/
def CutsAlike (earlier request : Request) : Prop :=
  ∀ ranked, service.hybridRetrieve corpus.calls now earlier = .ok ranked →
    CutAlike service.tokenBudget ranked (cutAt ranked (limitOf service earlier)) (cutAt ranked (limitOf service request))

/-- Under one limit every spelling of the query selects what the spelling of the earlier call
    does. -/
def SpelledAlike (earlier request : Request) : Prop :=
  ∀ same : Request, Alike same request → same.topK = request.topK →
    selected service corpus now same = selected service corpus now { earlier with topK := request.topK }

/-- The earlier call that asked the same is as good as the request. -/
def Stands (filled : List Request) (request : Request) : Prop :=
  ∀ earlier ∈ filled, Alike earlier request →
    CutsAlike service corpus now earlier request ∧ SpelledAlike service corpus now earlier request

/-- An entry holds the answer computed to a request, the only one computed under its key. -/
structure Holds (w : World) (key : Text) (entry : Entry) (request : Request) (ranked : List RetrievedChunk) : Prop where
  fresh : now < entry.expiresAt
  filled : request ∈ w.filled
  keyed : keyOf service corpus request = .ok key
  only : ∀ other ∈ w.filled, keyOf service corpus other = .ok key → other = request
  searched : service.hybridRetrieve corpus.calls now request = .ok ranked
  result : entry.result = service.resultOf request (corpusVersion corpus.active service.registry) ranked

/-- A cache switched on holds what was computed; one switched off holds nothing. -/
structure Kept (w : World) : Prop where
  held : ∀ key entry, w.cache.entries.get? key = some entry → ∃ request ranked, Holds service corpus now w key entry request ranked
  stored : w.cache.enabled = true → ∀ request ∈ w.filled, ∀ key, keyOf service corpus request = .ok key → w.cache.entries.get? key ≠ none
  off : w.cache.enabled = false → ∀ key, w.cache.entries.get? key = none

variable {service corpus now}

omit [Interpreter] in
/-- What a search that reaches the corpus ranks, the corpus ranks. -/
theorem Views.ranks {store : StoreCalls} (views : Views corpus store) {request : Request} {ranked : List RetrievedChunk}
    (searched : service.hybridRetrieve store now request = .ok ranked) : service.hybridRetrieve corpus.calls now request = .ok ranked := by
  obtain ⟨vector,embedded,rest⟩ := bind_ok.mp searched
  obtain ⟨dense,found,rest⟩ := bind_ok.mp rest
  obtain ⟨keyword,matched,done⟩ := bind_ok.mp rest
  refine bind_ok.mpr ⟨vector,embedded,bind_ok.mpr ⟨dense,views.dense _ _ _ _ found,bind_ok.mpr ⟨keyword,?_,done⟩⟩⟩
  exact views.keyword _ _ _ _ matched

theorem Kept.start (ttlSeconds : Int) : Kept service corpus now (.start ttlSeconds) :=
  ⟨fun _ _ found => (by cases found),fun _ _ listed => absurd listed List.not_mem_nil,fun _ _ => rfl⟩

/-- At the clock reading at which an entry was stored it is fresh. -/
theorem Kept.get {w : World} (kept : Kept service corpus now w) (key : Text) :
    w.cache.get key now = (w.cache.entries.get? key).map fun entry => { entry.result with cached := true } := by
  unfold RetrievalCache.get
  cases found : w.cache.entries.get? key with
  | none => rfl
  | some entry =>
    obtain ⟨_,_,holds⟩ := kept.held key entry found
    have fresh := holds.fresh
    simp only [Option.map_some,if_neg (not_le.mpr fresh)]

theorem Kept.absent {w : World} (kept : Kept service corpus now w) {key : Text} (missed : w.cache.get key now = none) :
    w.cache.entries.get? key = none := by
  rw [kept.get] at missed
  exact Option.map_eq_none_iff.mp missed

theorem Kept.getStale {w : World} (kept : Kept service corpus now w) {key : Text} (missed : w.cache.get key now = none) :
    w.cache.getStale key = none := by
  rw [RetrievalCache.getStale,kept.absent missed]
  rfl

/-- What is served fresh is an entry, flagged. -/
theorem Kept.served {w : World} (kept : Kept service corpus now w) {key : Text} {cached : RetrievalResult}
    (fresh : w.cache.get key now = some cached) :
    ∃ entry, w.cache.entries.get? key = some entry ∧ cached = { entry.result with cached := true } := by
  rw [kept.get] at fresh
  obtain ⟨entry,found,rfl⟩ := Option.map_eq_some_iff.mp fresh
  exact ⟨entry,found,rfl⟩

omit [Interpreter] in
theorem expiry_after {cache : RetrievalCache} (on : cache.enabled = true) : now < cache.expiry now := by
  have positive : 0 < cache.ttlSeconds := by simpa [RetrievalCache.enabled] using on
  unfold RetrievalCache.expiry
  omega

/-- A computed answer is kept under its key, if the cache is on. -/
theorem Kept.store {w : World} (kept : Kept service corpus now w) {request : Request} {key : Text} {ranked : List RetrievedChunk}
    {cache : RetrievalCache} (keyed : keyOf service corpus request = .ok key) (missed : w.cache.get key now = none)
    (searched : service.hybridRetrieve corpus.calls now request = .ok ranked)
    (stored : w.cache.set key (service.resultOf request (corpusVersion corpus.active service.registry) ranked) now = .ok cache) :
    Kept service corpus now ⟨cache,request :: w.filled⟩ := by
  obtain ⟨ttl,on,off⟩ := set_ok stored
  have same : cache.enabled = w.cache.enabled := by simp [RetrievalCache.enabled,ttl]
  have absent := kept.absent missed
  cases enabled : w.cache.enabled with
  | false =>
    rw [off enabled]
    refine ⟨fun other entry found => ?_,fun yes => absurd yes (by simp [enabled]),fun _ => kept.off enabled⟩
    rw [kept.off enabled other] at found
    cases found
  | true =>
    obtain ⟨_,entries⟩ := on enabled
    -- Before, nothing was computed under the key.
    have first : ∀ other ∈ w.filled, keyOf service corpus other ≠ .ok key := fun other listed known =>
      kept.stored enabled other listed key known absent
    refine ⟨fun other entry found => ?_,fun _ other listed known into => ?_,fun no => by simp [same,enabled] at no⟩
    · rw [entries,Dict.get?_set] at found
      split_ifs at found with here
      · cases found
        refine ⟨request,ranked,expiry_after enabled,List.mem_cons_self ..,here ▸ keyed,?_,searched,rfl⟩
        intro another listed known
        rcases List.mem_cons.mp listed with rfl | earlier
        · rfl
        · exact absurd (here ▸ known) (first another earlier)
      · obtain ⟨filler,ranking,holds⟩ := kept.held other entry found
        refine ⟨filler,ranking,holds.fresh,List.mem_cons_of_mem _ holds.filled,holds.keyed,?_,holds.searched,holds.result⟩
        intro another listed known
        rcases List.mem_cons.mp listed with rfl | earlier
        · rw [keyed] at known
          exact absurd (Except.ok.inj known).symm here
        · exact holds.only another earlier known
    · rw [entries,Dict.get?_set]
      split_ifs with here
      · simp
      · rcases List.mem_cons.mp listed with rfl | earlier
        · rw [keyed] at into
          exact absurd (Except.ok.inj into).symm here
        · exact kept.stored enabled other earlier known into

/-- Every retrieval leaves the cache holding what was computed. -/
theorem Kept.step {w next : World} {request : Request} (kept : Kept service corpus now w) (step : Step service corpus now w request next) :
    Kept service corpus now next := by
  cases step with
  | @retrieve store _ views =>
    have course : Course service ⟨corpus.active,w.cache,[]⟩ store ⟨now,now,now⟩ request _ := retrieve_course views.active
    revert course
    generalize service.retrieve w.cache store ⟨now,now,now⟩ request = outcome
    intro course
    cases course with
    | unread e _ => exact kept
    | unkeyed e _ => exact kept
    | endless key ranked e _ _ _ _ => exact kept
    | hit key cached _ _ fresh =>
      obtain ⟨_,_,rfl⟩ := kept.served fresh
      exact kept
    | degraded key e _ _ missed _ =>
      have absent : (Retrieval.World.cache ⟨corpus.active,w.cache,[]⟩).getStale key = none := kept.getStale missed
      rw [absent]
      exact kept
    | computed key ranked cache _ keyed missed searched stored => exact kept.store keyed missed (views.ranks searched) stored

theorem run_kept {ttlSeconds : Int} {requests : List Request} {w : World}
    (run : Run (Step service corpus now) (.start ttlSeconds) requests w) : Kept service corpus now w ∧ ∀ request ∈ w.filled, request ∈ requests := by
  have keeps : ∀ s label t, Kept service corpus now s → Step service corpus now s label t → Kept service corpus now t :=
    fun _ _ _ => Kept.step
  refine ⟨run.invariant keeps (.start ttlSeconds),?_⟩
  have recorded : ∀ done s label t, (∀ request ∈ s.filled, request ∈ done) → Step service corpus now s label t →
      ∀ request ∈ t.filled, request ∈ done ++ [label] := by
    rintro done s label _ earlier ⟨_⟩ request listed
    dsimp only at listed
    split_ifs at listed
    · rcases List.mem_cons.mp listed with rfl | before
      · simp
      · exact List.mem_append_left _ (earlier request before)
    · exact List.mem_append_left _ (earlier request listed)
  exact run.accumulates (P := fun done s => ∀ request ∈ s.filled, request ∈ done) recorded [] (fun _ listed => absurd listed List.not_mem_nil)

/-! ### What a cached answer is -/

omit [Interpreter] in
theorem resultOf_chunks (service : RagService) (request : Request) (version : Option Text) (ranked : List RetrievedChunk) :
    (service.resultOf request version ranked).chunks = takeWithinBudget ranked (limitOf service request) service.tokenBudget := rfl

omit [Interpreter] in
theorem resultOf_citations (service : RagService) (request : Request) (version : Option Text) (ranked : List RetrievedChunk) :
    (service.resultOf request version ranked).citations = bindCitations (service.resultOf request version ranked).chunks := rfl

theorem keyOf_ok {request : Request} {key : Text} (keyed : keyOf service corpus request = .ok key) :
    key = service.sha256 (digested service corpus request) ∧ Encodable (digested service corpus request) := by
  unfold keyOf RagService.cacheKey at keyed
  dsimp only at keyed
  split_ifs at keyed with encodable
  exact ⟨(Except.ok.inj keyed).symm,encodable⟩

theorem keyOf_alike {request same : Request} (alike : Alike same request) : keyOf service corpus same = keyOf service corpus request := by
  unfold keyOf RagService.cacheKey
  rw [alike.1,alike.2]

/-- Requests under one key ask the same. -/
theorem Distinguishes.alike {requests : List Request} (telling : Distinguishes service corpus requests) {r s : Request} {key : Text}
    (first : r ∈ requests) (second : s ∈ requests) (keyed : keyOf service corpus r = .ok key) (other : keyOf service corpus s = .ok key) :
    Alike r s := by
  have digests := telling.digests r first s second ((keyOf_ok keyed).1.symm.trans (keyOf_ok other).1)
  have fronts : lower (strip r.query) ++ service.dumpJson r.filters = lower (strip s.query) ++ service.dumpJson s.filters :=
    List.append_cancel_right digests
  have filters := telling.decodes r first s second _ _ fronts
  rw [filters] at fronts
  exact ⟨List.append_cancel_right fronts,filters⟩

/-- Requests that ask the same are ranked the same, where their queries are embedded and found
    the same. -/
theorem hybrid_alike {request same : Request} (alike : Alike same request) (embeds : service.embed same.query = service.embed request.query)
    (reads : corpus.keyword same.query = corpus.keyword request.query) :
    service.hybridRetrieve corpus.calls now same = service.hybridRetrieve corpus.calls now request := by
  unfold RagService.hybridRetrieve
  rw [embeds,alike.2,show corpus.calls.keywordSearch same.query = corpus.calls.keywordSearch request.query from reads]

/-- The spelling of a query is of no account then. -/
theorem spelledAlike_of_searches {earlier request : Request} (alike : Alike earlier request)
    (searches : ∀ same : Request, Alike same earlier →
      service.embed same.query = service.embed earlier.query ∧ corpus.keyword same.query = corpus.keyword earlier.query) :
    SpelledAlike service corpus now earlier request := by
  intro same likely limit
  have echo : Alike same { earlier with topK := request.topK } := ⟨likely.1.trans alike.1.symm,likely.2.trans alike.2.symm⟩
  obtain ⟨embeds,reads⟩ := searches same echo
  rw [selected,selected,hybrid_alike echo embeds reads]
  simp only [limitOf,limit]

theorem tokenize_alike (keeps : KeepsBlanks) {request same : Request} (alike : Alike same request) :
    tokenize same.query = tokenize request.query := by
  rw [tokenize_strip keeps same.query,tokenize_strip keeps request.query,alike.1]

/-- Nor is it where the embedding and the keyword search read the tokens of a query only. -/
theorem spelledAlike_of_tokens (keeps : KeepsBlanks)
    (embeds : ∀ query same : Text, tokenize query = tokenize same → service.embed query = service.embed same)
    (reads : ∀ query same : Text, tokenize query = tokenize same → corpus.keyword query = corpus.keyword same)
    {earlier request : Request} (alike : Alike earlier request) : SpelledAlike service corpus now earlier request :=
  spelledAlike_of_searches alike fun _ likely =>
    ⟨embeds _ _ (tokenize_alike keeps likely),reads _ _ (tokenize_alike keeps likely)⟩

/-- The keyword search of the in-process store reads the tokens of a query only. -/
theorem ofMemory_reads (similarity : List ℚ → List ℚ → Except PyError ℚ) (memory : InMemoryVectorStore) (query same : Text)
    (equal : tokenize query = tokenize same) : (ofMemory similarity memory).keyword query = (ofMemory similarity memory).keyword same := by
  funext filters limit
  simp only [ofMemory,InMemoryVectorStore.keywordSearch,keywordOverlapScore,equal]

/-- That of PostgreSQL also looks for the query, as it is spelled, in the titles. -/
theorem ofPostgres_reads (distance : List ℚ → List ℚ → ℚ) (pg : PgVectorStore) (query same : Text) (equal : tokenize query = tokenize same)
    (titles : ∀ row ∈ pg.searchable, ∀ title, row.title = some title →
      PgVectorStore.like (lower (lit "%" ++ query ++ lit "%")) (lower title) =
        PgVectorStore.like (lower (lit "%" ++ same ++ lit "%")) (lower title)) :
    (ofPostgres distance pg).keyword query = (ofPostgres distance pg).keyword same := by
  have candidates (filters : RetrievalFilters) : pg.keywordCandidates query filters = pg.keywordCandidates same filters := by
    refine List.filter_congr fun row listed => ?_
    have found : row.title.any (fun title => PgVectorStore.like (lower (lit "%" ++ query ++ lit "%")) (lower title)) =
        row.title.any fun title => PgVectorStore.like (lower (lit "%" ++ same ++ lit "%")) (lower title) := by
      cases named : row.title with
      | none => rfl
      | some title => exact titles row (List.mem_filter.mp listed).1 title named
    simp only [equal,found]
  funext filters limit
  simp only [ofPostgres,candidates,keywordOverlapScore,equal]

/-- So there the spelling is of no account where every title has all of the spellings or none. -/
theorem spelledAlike_of_titles (keeps : KeepsBlanks)
    (embeds : ∀ query same : Text, tokenize query = tokenize same → service.embed query = service.embed same)
    (distance : List ℚ → List ℚ → ℚ) (pg : PgVectorStore) {earlier request : Request} (alike : Alike earlier request)
    (titles : ∀ same : Request, Alike same earlier → ∀ row ∈ pg.searchable, ∀ title, row.title = some title →
      PgVectorStore.like (lower (lit "%" ++ same.query ++ lit "%")) (lower title) =
        PgVectorStore.like (lower (lit "%" ++ earlier.query ++ lit "%")) (lower title)) :
    SpelledAlike service (ofPostgres distance pg) now earlier request :=
  spelledAlike_of_searches alike fun same likely =>
    have equal := tokenize_alike keeps likely
    ⟨embeds _ _ equal,ofPostgres_reads distance pg same.query earlier.query equal (titles same likely)⟩

/-- Without a cache the answer is what is selected, cited. -/
theorem uncached {request : Request} {key : Text} (keyed : keyOf service corpus request = .ok key) :
    ∃ fresh, (service.retrieve ⟨0,.empty⟩ corpus.calls ⟨now,now,now⟩ request).2 = .ok fresh ∧
      fresh.chunks = selected service corpus now request ∧ fresh.citations = bindCitations (selected service corpus now request) := by
  have readable : ReadableFrom corpus.active corpus.calls.activeVersion 0 service.registry := fun _ sourceId _ => ⟨corpus.active sourceId,rfl⟩
  have parts := (versionParts_ok (Views.calls corpus).active 0 service.registry _).mpr ⟨readable,rfl⟩
  have version : currentVersion corpus.calls.activeVersion service.registry = .ok (corpusVersion corpus.active service.registry) := by
    rw [currentVersion,parts]
    rfl
  have known : service.cacheKey request.query request.filters (corpusVersion corpus.active service.registry) = .ok key := keyed
  have missed : RetrievalCache.get ⟨0,.empty⟩ key now = none := rfl
  have expired : RetrievalCache.getStale ⟨0,.empty⟩ key = none := rfl
  unfold selected
  cases searched : service.hybridRetrieve corpus.calls now request with
  | error e =>
    simp only [RagService.retrieve,version,known,missed,searched,expired]
    exact ⟨_,rfl,rfl,rfl⟩
  | ok ranked =>
    simp only [RagService.retrieve,version,known,missed,searched]
    exact ⟨_,rfl,resultOf_chunks _ _ _ _,resultOf_citations _ _ _ _⟩

/-- What the cache serves was computed to the one request under its key. -/
theorem Kept.hit {w : World} (kept : Kept service corpus now w) {store : StoreCalls} (views : Views corpus store) {request : Request}
    {cached : RetrievalResult} (answered : (service.retrieve w.cache store ⟨now,now,now⟩ request).2 = .ok cached) (flagged : cached.cached = true) :
    ∃ key entry filler ranked, keyOf service corpus request = .ok key ∧ Holds service corpus now w key entry filler ranked ∧
      cached = { entry.result with cached := true } := by
  have course : Course service ⟨corpus.active,w.cache,[]⟩ store ⟨now,now,now⟩ request _ := retrieve_course views.active
  revert course answered
  generalize service.retrieve w.cache store ⟨now,now,now⟩ request = outcome
  intro answered course
  cases course with
  | unread e _ => cases answered
  | unkeyed e _ => cases answered
  | endless key ranked e _ _ _ _ => cases answered
  | hit key served _ keyed fresh =>
    cases answered
    obtain ⟨entry,found,same⟩ := kept.served fresh
    obtain ⟨filler,ranked,holds⟩ := kept.held key entry found
    exact ⟨key,entry,filler,ranked,keyed,holds,same⟩
  | degraded key e _ _ missed _ =>
    have absent : (Retrieval.World.cache ⟨corpus.active,w.cache,[]⟩).getStale key = none := kept.getStale missed
    rw [absent] at answered
    cases answered
    cases flagged
  | computed key ranked cache _ _ _ _ _ =>
    cases answered
    cases flagged

end

/-! ### Two advisories on one product -/

def advisory (chunkId : Text) : EmbeddedChunk where
  chunkId := chunkId
  documentId := lit "adv-1"
  content := lit "log4j"
  metadata := { sourceKind := .ADVISORY,sourceId := lit "nvd",sourceName := lit "NVD",trustTier := .VENDOR }
  indexVersion := some (lit "nvd-1")
  embedding := [1]

/-- The corpus of the in-process store with two advisories, every pair of embeddings alike. -/
def advisories : Corpus :=
  @ofMemory ascii (fun _ _ => .ok 1) ⟨[advisory (lit "adv-1#0"),advisory (lit "adv-1#1")],Dict.empty.set (lit "nvd") (lit "nvd-1")⟩

def asking (query : Text) (topK : Int) : Request := { query := query,topK := some topK }

/-- A clock reading in 2021. -/
def reading : Int := 738000 * 86400000000

def answerTo (corpus : Corpus) (cache : RetrievalCache) (request : Request) : RetrievalCache × Except PyError RetrievalResult :=
  @RagService.retrieve ascii sampleService cache corpus.calls ⟨reading,reading,reading⟩ request

/-- How many passages an answer has. -/
def passages : Except PyError RetrievalResult → Nat
  | .ok result => result.chunks.length
  | .error _ => 0

theorem first_run (corpus : Corpus) (topK : Int)
    (computed : isComputed (answerTo corpus ⟨900,.empty⟩ (asking (lit "log4j") topK)).2 = true) :
    Run (@Step ascii sampleService corpus reading) (.start 900) [asking (lit "log4j") topK]
      ⟨(answerTo corpus ⟨900,.empty⟩ (asking (lit "log4j") topK)).1,[asking (lit "log4j") topK]⟩ := by
  have step := @Step.retrieve ascii sampleService corpus reading (.start 900) _ (asking (lit "log4j") topK) (Views.calls corpus)
  unfold answerTo at computed ⊢
  simp only [World.start,computed,if_true] at step
  exact .go step (.stop _)

theorem ascii_keeps : @KeepsBlanks ascii := by
  have blank : ∀ spaces : Text, (∀ c ∈ spaces, isSpace c = true) → spaces.map asciiLower = spaces := by
    intro spaces all
    refine (List.map_congr_left fun c listed => ?_).trans (List.map_id spaces)
    have space := all c listed
    simp only [isSpace,Bool.or_eq_true,Bool.and_eq_true,decide_eq_true_eq,beq_iff_eq] at space
    rw [asciiLower,if_neg (by omega)]
    rfl
  intro before text after left right
  change (before ++ text ++ after).map asciiLower = before ++ text.map asciiLower ++ after
  rw [List.map_append,List.map_append,blank before left,blank after right]

theorem sample_distinguishes {requests : List Request}
    (same : ∀ r ∈ requests, @lower ascii (strip r.query) = lit "log4j" ∧ r.filters = {}) :
    @Distinguishes ascii sampleService advisories requests := by
  let := ascii
  refine ⟨fun r first s second _ => ?_,fun r first s second _ _ _ => (same r first).2.trans (same s second).2.symm⟩
  simp only [digested,(same r first).1,(same s second).1]
  rfl

theorem passages_counted {corpus : Corpus} {request : Request} {fresh : RetrievalResult}
    (computed : (@RagService.retrieve ascii sampleService ⟨0,.empty⟩ corpus.calls ⟨reading,reading,reading⟩ request).2 = .ok fresh) :
    fresh.chunks.length = passages (answerTo corpus ⟨0,.empty⟩ request).2 := by
  rw [answerTo,computed]
  rfl

/-- An advisory that names the product in its title only. -/
def titled : EmbeddedChunk := { advisory (lit "adv-2#0") with title := some (lit "Apache log4j"),content := lit "code execution" }

theorem titled_keys : ([{ titled with createdAt := 0 }].map KnowledgeChunk.key).Nodup := List.nodup_singleton _

theorem titled_versions : ([⟨lit "nvd",lit "nvd-1",lit "hashing",1,.ACTIVE,1,1,some 0,none⟩].map KnowledgeIndexVersion.key).Nodup :=
  List.nodup_singleton _

/-- It is stored in PostgreSQL, and no embedding is near it. -/
def titledCorpus : Corpus := @ofPostgres ascii (fun _ _ => 1) ⟨_,_,titled_keys,titled_versions⟩

/-- The pattern made of the query finds the title; made of the query with blanks around it, it
    does not, and the cache serves what the first query found. -/
theorem blanks_served_alike : ∃ w cached, Run (@Step ascii sampleService titledCorpus reading) (.start 900) [asking (lit "log4j") 1] w ∧
    (answerTo titledCorpus w.cache (asking (lit " log4j ") 1)).2 = .ok cached ∧ cached.cached = true ∧ cached.chunks.length = 1 ∧
    ¬ @Transparent ascii sampleService titledCorpus reading (asking (lit " log4j ") 1) cached := by
  have served : passages (answerTo titledCorpus (answerTo titledCorpus ⟨900,.empty⟩ (asking (lit "log4j") 1)).1
    (asking (lit " log4j ") 1)).2 = 1 := by decide +kernel
  have owed : passages (answerTo titledCorpus ⟨0,.empty⟩ (asking (lit " log4j ") 1)).2 = 0 := by decide +kernel
  refine ⟨_,_,first_run titledCorpus 1 rfl,rfl,rfl,served,fun transparent => ?_⟩
  obtain ⟨fresh,computed,same,_⟩ := transparent (asking (lit " log4j ") 1) ⟨rfl,rfl⟩ rfl
  have fewer := (passages_counted computed).trans owed
  rw [← same] at fewer
  exact absurd (fewer.symm.trans served) (by decide)

end SocAnalyst.CachedAnswers
