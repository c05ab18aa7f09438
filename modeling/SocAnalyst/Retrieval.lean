import SocAnalyst.Ranking

/-!
# Retrieval

`RagService.retrieve` of `rag/service.py` with the cache of `rag/cache.py`, over a store
of which any call may raise. Clock readings are microseconds since the start of year 1.
-/
namespace SocAnalyst.Retrieval
open SocAnalyst.Builtins SocAnalyst.Times SocAnalyst.Dicts SocAnalyst.Knowledge SocAnalyst.VectorStores SocAnalyst.Ingestion
open SocAnalyst.Citations SocAnalyst.Ranking SocAnalyst.Runs

/-! ### The cache -/

structure Entry where
  result : RetrievalResult
  expiresAt : Int

/-- In-process TTL cache for retrieval results. -/
structure RetrievalCache where
  ttlSeconds : Int
  entries : Dict Text Entry

namespace RetrievalCache

def enabled (cache : RetrievalCache) : Bool := 0 < cache.ttlSeconds

/-- A fresh cached result, unless absent or expired. -/
def get (cache : RetrievalCache) (key : Text) (now : Int) : Option RetrievalResult :=
  match cache.entries.get? key with
  | none => none
  | some entry => if entry.expiresAt ≤ now then none else some { entry.result with cached := true }

/-- A cached result regardless of age, flagged as stale. -/
def getStale (cache : RetrievalCache) (key : Text) : Option RetrievalResult :=
  (cache.entries.get? key).map fun entry => { entry.result with cached := true, stale := true }

/-- The time an entry stored now expires. -/
def expiry (cache : RetrievalCache) (now : Int) : Int := now + cache.ttlSeconds * 1000000

/-- Cache a result if caching is enabled; its expiry has to be a time. -/
def set (cache : RetrievalCache) (key : Text) (result : RetrievalResult) (now : Int) : Except PyError RetrievalCache :=
  if ¬ cache.enabled then .ok cache
  else if maxDays * dayMicros ≤ cache.expiry now then .error .OverflowError
  else .ok { cache with entries := cache.entries.set key ⟨{ result with cached := false, stale := false },cache.expiry now⟩ }

/-- Drop every cached result. -/
def clear (cache : RetrievalCache) : RetrievalCache := { cache with entries := .empty }

end RetrievalCache

/-! ### The service -/

/-- How the store answers the calls of one retrieval: the reads of active versions by
    their number, and the two searches. -/
structure StoreCalls where
  activeVersion : Nat → Text → Except PyError (Option Text)
  denseSearch : List ℚ → RetrievalFilters → Nat → Except PyError Found
  keywordSearch : Text → RetrievalFilters → Nat → Except PyError Found

/-- The composed service: the registered sources, its settings, and the embedding, the
    digest, the JSON of filters and the decay it uses. -/
structure RagService where
  registry : List Text
  topK : Int
  tokenBudget : Int
  candidates : Nat
  embed : Text → Except PyError (List ℚ)
  sha256 : Text → Text
  dumpJson : RetrievalFilters → Text
  power : ℚ → ℚ
  halfLifeDays : ℚ

/-- One call of `retrieve`. -/
structure Request where
  query : Text
  filters : RetrievalFilters := {}
  topK : Option Int := none

/-- The clock as a retrieval reads it: to look an entry up, to rank, and to store one. -/
structure Clock where
  lookup : Int
  ranking : Int
  storing : Int

/-- The comprehension of `_current_version`, from the given call on. -/
def versionParts (calls : Nat → Text → Except PyError (Option Text)) : Nat → List Text → Except PyError (List Text)
  | _, [] => .ok []
  | n, sourceId :: rest =>
    match calls n sourceId with
    | .error e => .error e
    | .ok version =>
      if truthy version then
        match calls (n + 1) sourceId with
        | .error e => .error e
        | .ok again => (versionParts calls (n + 2) rest).map ((sourceId ++ lit "=" ++ again.getD (lit "None")) :: ·)
      else versionParts calls (n + 1) rest

def composed (parts : List Text) : Option Text := if parts = [] then none else some (joined (lit "|") parts)

/-- A composite of every source's active version, pinning the whole corpus. -/
def currentVersion (calls : Nat → Text → Except PyError (Option Text)) (registry : List Text) : Except PyError (Option Text) :=
  (versionParts calls 0 registry).map composed

namespace RagService
variable [Interpreter] (service : RagService)

/-- Stable key over the query, its filters, and the corpus version. -/
def cacheKey (query : Text) (filters : RetrievalFilters) (indexVersion : Option Text) : Except PyError Text :=
  let digested := lower (strip query) ++ service.dumpJson filters ++ indexVersion.getD []
  if Encodable digested then .ok (service.sha256 digested) else .error .UnicodeEncodeError

/-- `HybridRetriever.retrieve`. -/
def hybridRetrieve (store : StoreCalls) (ranking : Int) (request : Request) : Except PyError (List RetrievedChunk) := do
  let vector ← service.embed request.query
  let dense ← store.denseSearch vector request.filters service.candidates
  let keyword ← store.keywordSearch request.query request.filters service.candidates
  return rank ⟨service.power,service.halfLifeDays,ranking⟩ (fuse dense keyword)

/-- The result of a retrieval from its ranked candidates. -/
def resultOf (request : Request) (version : Option Text) (ranked : List RetrievedChunk) : RetrievalResult :=
  let limit := request.topK.getD 0
  let selected := takeWithinBudget ranked (if limit = 0 then service.topK else limit) service.tokenBudget
  { query := request.query
    chunks := selected
    citations := bindCitations selected
    indexVersion := version
    estimatedTokens := selected.foldl (fun total item => total + estimateTokens item.chunk.content) 0 }

/-- Retrieve grounded, cited context for a query. -/
def retrieve (cache : RetrievalCache) (store : StoreCalls) (clock : Clock) (request : Request) :
    RetrievalCache × Except PyError RetrievalResult :=
  match currentVersion store.activeVersion service.registry with
  | .error e => (cache,.error e)
  | .ok version =>
    match service.cacheKey request.query request.filters version with
    | .error e => (cache,.error e)
    | .ok key =>
      match cache.get key clock.lookup with
      | some cached => (cache,.ok cached)
      | none =>
        match service.hybridRetrieve store clock.ranking request with
        | .error _ =>
          match cache.getStale key with
          | some stale => (cache,.ok stale)
          | none => (cache,.ok { query := request.query, indexVersion := version, stale := true })
        | .ok ranked =>
          let result := service.resultOf request version ranked
          match cache.set key result clock.storing with
          | .error e => (cache,.error e)
          | .ok cache => (cache,.ok result)

end RagService

/-! ### Reading the corpus version -/

/-- The reads of active versions in order: a second one where the first finds a version. -/
def reads (active : Text → Option Text) (registry : List Text) : List Text :=
  registry.flatMap fun sourceId => if truthy (active sourceId) then [sourceId,sourceId] else [sourceId]

/-- What the corpus is pinned to. -/
def corpusParts (active : Text → Option Text) (registry : List Text) : List Text :=
  (registry.filter fun sourceId => truthy (active sourceId)).map fun sourceId =>
    sourceId ++ lit "=" ++ (active sourceId).getD (lit "None")

def corpusVersion (active : Text → Option Text) (registry : List Text) : Option Text := composed (corpusParts active registry)

/-- A store whose reads, where they return, return the active versions. -/
def Agrees (active : Text → Option Text) (store : StoreCalls) : Prop :=
  ∀ n sourceId version, store.activeVersion n sourceId = .ok version → version = active sourceId

/-- Every read of an active version returns, from the given call on. -/
def ReadableFrom (active : Text → Option Text) (calls : Nat → Text → Except PyError (Option Text)) (start : Nat) (registry : List Text) : Prop :=
  ∀ n sourceId, (reads active registry)[n]? = some sourceId → ∃ version, calls (start + n) sourceId = .ok version

theorem readableFrom_cons {active : Text → Option Text} {calls : Nat → Text → Except PyError (Option Text)} {start : Nat}
    {sourceId : Text} {rest : List Text} : ReadableFrom active calls start (sourceId :: rest) ↔
      (∃ version, calls start sourceId = .ok version) ∧
      if truthy (active sourceId) then (∃ version, calls (start + 1) sourceId = .ok version) ∧ ReadableFrom active calls (start + 2) rest
      else ReadableFrom active calls (start + 1) rest := by
  unfold ReadableFrom reads
  rw [List.flatMap_cons]
  by_cases live : truthy (active sourceId) = true
  · rw [if_pos live,if_pos live]
    constructor
    · intro all
      refine ⟨all 0 sourceId rfl,all 1 sourceId rfl,?_⟩
      intro n other later
      have next := all (n + 2) other later
      rwa [show start + (n + 2) = start + 2 + n by omega] at next
    · rintro ⟨first,second,later⟩ n other found
      match n with
      | 0 => cases found; exact first
      | 1 => cases found; exact second
      | n + 2 =>
        have next := later n other found
        rwa [show start + 2 + n = start + (n + 2) by omega] at next
  · rw [if_neg live,if_neg live]
    constructor
    · intro all
      refine ⟨all 0 sourceId rfl,?_⟩
      intro n other later
      have next := all (n + 1) other later
      rwa [show start + (n + 1) = start + 1 + n by omega] at next
    · rintro ⟨first,later⟩ n other found
      match n with
      | 0 => cases found; exact first
      | n + 1 =>
        have next := later n other found
        rwa [show start + 1 + n = start + (n + 1) by omega] at next

/-- The comprehension returns exactly when every read it makes does. -/
theorem versionParts_ok {active : Text → Option Text} {calls : Nat → Text → Except PyError (Option Text)}
    (agrees : ∀ n sourceId version, calls n sourceId = .ok version → version = active sourceId) (start : Nat) (registry parts : List Text) :
    versionParts calls start registry = .ok parts ↔ ReadableFrom active calls start registry ∧ parts = corpusParts active registry := by
  induction registry generalizing start parts with
  | nil =>
    constructor
    · intro done
      cases done
      exact ⟨fun n sourceId found => by simp [reads] at found,rfl⟩
    · rintro ⟨_,rfl⟩
      rfl
  | cons sourceId rest ih =>
    rw [readableFrom_cons]
    unfold versionParts
    cases first : calls start sourceId with
    | error e => simp
    | ok version =>
      rw [agrees _ _ _ first]
      by_cases live : truthy (active sourceId) = true
      · simp only [live,if_true]
        cases second : calls (start + 1) sourceId with
        | error e => simp
        | ok again =>
          rw [agrees _ _ _ second]
          simp only [map_ok,ih]
          constructor
          · rintro ⟨_,⟨readable,rfl⟩,rfl⟩
            exact ⟨⟨⟨_,rfl⟩,⟨_,rfl⟩,readable⟩,by simp [corpusParts,live]⟩
          · rintro ⟨⟨_,_,readable⟩,rfl⟩
            exact ⟨_,⟨readable,rfl⟩,by simp [corpusParts,live]⟩
      · simp only [live,Bool.false_eq_true,if_false,ih]
        constructor
        · rintro ⟨readable,rfl⟩
          exact ⟨⟨⟨_,rfl⟩,readable⟩,by simp [corpusParts,live]⟩
        · rintro ⟨⟨_,readable⟩,rfl⟩
          exact ⟨readable,by simp [corpusParts,live]⟩

/-! ### Retrievals in sequence -/

/-- The corpus as it is live, the cache, and what was computed, under its key, since the
    corpus last changed, the latest first. -/
structure World where
  active : Text → Option Text
  cache : RetrievalCache
  answers : List (Text × RetrievalResult)

/-- A retrieval with what the store and the clock answer it, or a corpus change, after
    which the service drops its cache. -/
inductive Event where
  | retrieve (store : StoreCalls) (clock : Clock) (request : Request)
  | change (active : Text → Option Text)

section
variable [Interpreter] (service : RagService)

/-- The key of a request over the live corpus. -/
def liveKey (world : World) (request : Request) : Except PyError Text :=
  service.cacheKey request.query request.filters (corpusVersion world.active service.registry)

/-- The computed answers after a retrieval: with its result, if it computed one to cache. -/
def remember (world : World) (request : Request) : Except PyError RetrievalResult → List (Text × RetrievalResult)
  | .error _ => world.answers
  | .ok result =>
    match liveKey service world request with
    | .error _ => world.answers
    | .ok key =>
      if world.cache.enabled ∧ result.cached = false ∧ result.stale = false then (key,result) :: world.answers else world.answers

inductive Step : World → Event → World → Prop where
  | retrieve {world : World} {store : StoreCalls} {clock : Clock} {request : Request} : Agrees world.active store →
      Step world (.retrieve store clock request)
        ⟨world.active,(service.retrieve world.cache store clock request).1,
          remember service world request (service.retrieve world.cache store clock request).2⟩
  | change {world : World} {active : Text → Option Text} : Step world (.change active) ⟨active,world.cache.clear,[]⟩

/-- The service before any retrieval. -/
def World.start (active : Text → Option Text) (ttlSeconds : Int) : World := ⟨active,⟨ttlSeconds,.empty⟩,[]⟩

def World.lastAnswer (world : World) (key : Text) : Option RetrievalResult :=
  (world.answers.find? fun answer => answer.1 = key).map (·.2)

/-- A search of the store raises, after what comes before it returned. -/
def SearchFails (store : StoreCalls) (request : Request) : Prop :=
  ∃ vector, service.embed request.query = .ok vector ∧
    ((∃ e, store.denseSearch vector request.filters service.candidates = .error e) ∨
      ∃ dense e, store.denseSearch vector request.filters service.candidates = .ok dense ∧
        store.keywordSearch request.query request.filters service.candidates = .error e)

/-- Every read of an active version returns. -/
def Readable (world : World) (store : StoreCalls) : Prop := ReadableFrom world.active store.activeVersion 0 service.registry

/-- The cache has no fresh answer for the request. -/
def Missed (world : World) (clock : Clock) (request : Request) : Prop :=
  ∃ key, liveKey service world request = .ok key ∧ world.cache.get key clock.lookup = none

/-- A call of the store that the retrieval makes raises. -/
def StoreFails (world : World) (store : StoreCalls) (clock : Clock) (request : Request) : Prop :=
  ¬ Readable service world store ∨ (Missed service world clock request ∧ SearchFails service store request)

/-- The last answer to the same request since the corpus changed, flagged stale, or else
    an empty result, flagged stale. -/
def World.fallback (world : World) (request : Request) (key : Text) : RetrievalResult :=
  match world.lastAnswer key with
  | some answer => { answer with cached := true, stale := true }
  | none => { query := request.query, indexVersion := corpusVersion world.active service.registry, stale := true }

/-- A result computed from a store that answered every call. -/
def Computed (key : Text) (result : RetrievalResult) : Prop :=
  ∃ (active : Text → Option Text) (store : StoreCalls) (clock : Clock) (request : Request) (ranked : List RetrievedChunk),
    ReadableFrom active store.activeVersion 0 service.registry ∧ ¬ SearchFails service store request ∧
    service.cacheKey request.query request.filters (corpusVersion active service.registry) = .ok key ∧
    service.hybridRetrieve store clock.ranking request = .ok ranked ∧
    result = service.resultOf request (corpusVersion active service.registry) ranked

/-- What a retrieval owes its caller: it returns; when the store fails, the last answer
    flagged stale; and what is not flagged stale was computed without a failure. -/
def Honoured (world : World) (store : StoreCalls) (clock : Clock) (request : Request) (outcome : Except PyError RetrievalResult) : Prop :=
  ∃ result, outcome = .ok result ∧
    (StoreFails service world store clock request →
      ∃ key, liveKey service world request = .ok key ∧ result = world.fallback service request key) ∧
    (result.stale = false → ¬ StoreFails service world store clock request ∧
      ∃ key computed, liveKey service world request = .ok key ∧ Computed service key computed ∧
        (result = computed ∨ ((key,computed) ∈ world.answers ∧ result = { computed with cached := true })))

/-- Every read of an active version returns, the request can be encoded for its key, and
    an answer to be cached expires at a time there is. -/
structure Answerable (world : World) (store : StoreCalls) (clock : Clock) (request : Request) : Prop where
  readable : Readable service world store
  encodable : Encodable (lower (strip request.query) ++ service.dumpJson request.filters ++
    (corpusVersion world.active service.registry).getD [])
  expires : Missed service world clock request → ∀ ranked, service.hybridRetrieve store clock.ranking request = .ok ranked →
    world.cache.enabled = true → world.cache.expiry clock.storing < maxDays * dayMicros

/-- The cache holds the last answer of each key, and every answer was computed. -/
structure Faithful (world : World) : Prop where
  entries : ∀ key, (world.cache.entries.get? key).map (·.result) = world.lastAnswer key
  computed : ∀ answer ∈ world.answers, Computed service answer.1 answer.2

theorem Computed.plain {key : Text} {result : RetrievalResult} (computed : Computed service key result) :
    result.cached = false ∧ result.stale = false := by
  obtain ⟨_,_,_,_,_,_,_,_,_,rfl⟩ := computed
  exact ⟨rfl,rfl⟩

theorem Faithful.start (active : Text → Option Text) (ttlSeconds : Int) : Faithful service (.start active ttlSeconds) :=
  ⟨fun _ => rfl,fun _ listed => absurd listed List.not_mem_nil⟩

theorem Faithful.change {world : World} (active : Text → Option Text) : Faithful service ⟨active,world.cache.clear,[]⟩ :=
  ⟨fun _ => rfl,fun _ listed => absurd listed List.not_mem_nil⟩

/-- The courses a retrieval takes. -/
inductive Course (world : World) (store : StoreCalls) (clock : Clock) (request : Request) :
    RetrievalCache × Except PyError RetrievalResult → Prop where
  | unread (e : PyError) : ¬ Readable service world store → Course world store clock request (world.cache,.error e)
  | unkeyed (e : PyError) : liveKey service world request = .error e → Course world store clock request (world.cache,.error e)
  | hit (key : Text) (cached : RetrievalResult) : Readable service world store → liveKey service world request = .ok key →
      world.cache.get key clock.lookup = some cached → Course world store clock request (world.cache,.ok cached)
  | degraded (key : Text) (e : PyError) : Readable service world store → liveKey service world request = .ok key →
      world.cache.get key clock.lookup = none → service.hybridRetrieve store clock.ranking request = .error e →
      Course world store clock request (world.cache,.ok ((world.cache.getStale key).getD
        { query := request.query, indexVersion := corpusVersion world.active service.registry, stale := true }))
  | computed (key : Text) (ranked : List RetrievedChunk) (cache : RetrievalCache) : Readable service world store →
      liveKey service world request = .ok key → world.cache.get key clock.lookup = none →
      service.hybridRetrieve store clock.ranking request = .ok ranked →
      world.cache.set key (service.resultOf request (corpusVersion world.active service.registry) ranked) clock.storing = .ok cache →
      Course world store clock request (cache,.ok (service.resultOf request (corpusVersion world.active service.registry) ranked))
  | endless (key : Text) (ranked : List RetrievedChunk) (e : PyError) : liveKey service world request = .ok key →
      world.cache.get key clock.lookup = none → service.hybridRetrieve store clock.ranking request = .ok ranked →
      world.cache.set key (service.resultOf request (corpusVersion world.active service.registry) ranked) clock.storing = .error e →
      Course world store clock request (world.cache,.error e)

variable {service} {world : World} {store : StoreCalls} {clock : Clock} {request : Request}

theorem retrieve_course (agrees : Agrees world.active store) :
    Course service world store clock request (service.retrieve world.cache store clock request) := by
  unfold RagService.retrieve
  cases read : currentVersion store.activeVersion service.registry with
  | error e =>
    refine .unread e fun readable => ?_
    have parts := (versionParts_ok agrees 0 service.registry _).mpr ⟨readable,rfl⟩
    simp [currentVersion,parts,Except.map] at read
  | ok version =>
    obtain ⟨parts,returned,rfl⟩ := map_ok.mp read
    obtain ⟨readable,rfl⟩ := (versionParts_ok agrees 0 service.registry _).mp returned
    dsimp only
    cases keyed : service.cacheKey request.query request.filters (composed (corpusParts world.active service.registry)) with
    | error e => exact .unkeyed e keyed
    | ok key =>
      dsimp only
      cases fresh : world.cache.get key clock.lookup with
      | some cached => exact .hit key cached readable keyed fresh
      | none =>
        dsimp only
        cases searched : service.hybridRetrieve store clock.ranking request with
        | error e =>
          have course := Course.degraded key e readable keyed fresh searched
          cases stale : world.cache.getStale key <;> rw [stale] at course <;> exact course
        | ok ranked =>
          dsimp only
          cases stored : world.cache.set key (service.resultOf request (composed (corpusParts world.active service.registry)) ranked)
            clock.storing with
          | error e => exact .endless key ranked e keyed fresh searched stored
          | ok cache => exact .computed key ranked cache readable keyed fresh searched stored

theorem liveKey_encodable {key : Text} (keyed : liveKey service world request = .ok key) :
    Encodable (lower (strip request.query) ++ service.dumpJson request.filters ++
      (corpusVersion world.active service.registry).getD []) := by
  unfold liveKey RagService.cacheKey at keyed
  dsimp only at keyed
  split_ifs at keyed with encodable
  exact encodable

theorem liveKey_error {e : PyError} (keyed : liveKey service world request = .error e) :
    ¬ Encodable (lower (strip request.query) ++ service.dumpJson request.filters ++
      (corpusVersion world.active service.registry).getD []) := by
  unfold liveKey RagService.cacheKey at keyed
  dsimp only at keyed
  split_ifs at keyed with encodable
  exact encodable

omit [Interpreter] in
theorem set_ok {cache next : RetrievalCache} {key : Text} {result : RetrievalResult} {now : Int} (stored : cache.set key result now = .ok next) :
    next.ttlSeconds = cache.ttlSeconds ∧ (cache.enabled = true → cache.expiry now < maxDays * dayMicros ∧
      next.entries = cache.entries.set key ⟨{ result with cached := false, stale := false },cache.expiry now⟩) ∧
      (cache.enabled = false → next = cache) := by
  unfold RetrievalCache.set at stored
  by_cases on : cache.enabled = true
  · by_cases late : maxDays * dayMicros ≤ cache.expiry now
    · simp [on,late] at stored
    · simp only [on,late,not_true_eq_false,if_false] at stored
      cases stored
      exact ⟨rfl,fun _ => ⟨by omega,rfl⟩,fun off => by simp [on] at off⟩
  · simp only [on] at stored
    cases stored
    exact ⟨rfl,fun yes => absurd yes on,fun _ => rfl⟩

omit [Interpreter] in
theorem set_error {cache : RetrievalCache} {key : Text} {result : RetrievalResult} {now : Int} {e : PyError}
    (refused : cache.set key result now = .error e) : cache.enabled = true ∧ ¬ cache.expiry now < maxDays * dayMicros := by
  unfold RetrievalCache.set at refused
  by_cases on : cache.enabled = true
  · by_cases late : maxDays * dayMicros ≤ cache.expiry now
    · exact ⟨on,by omega⟩
    · simp [on,late] at refused
  · simp [on] at refused

omit [Interpreter] in
theorem hybrid_not_fails {ranking : Int} {ranked : List RetrievedChunk} (searched : service.hybridRetrieve store ranking request = .ok ranked) :
    ¬ SearchFails service store request := by
  obtain ⟨vector,embedded,rest⟩ := bind_ok.mp searched
  obtain ⟨dense,found,rest⟩ := bind_ok.mp rest
  obtain ⟨keyword,matched,_⟩ := bind_ok.mp rest
  rintro ⟨other,same,⟨e,failed⟩ | ⟨again,e,before,failed⟩⟩
  · rw [embedded] at same
    cases same
    rw [found] at failed
    cases failed
  · rw [matched] at failed
    cases failed

theorem computed_result {key : Text} {ranked : List RetrievedChunk} (readable : Readable service world store)
    (keyed : liveKey service world request = .ok key) (searched : service.hybridRetrieve store clock.ranking request = .ok ranked) :
    Computed service key (service.resultOf request (corpusVersion world.active service.registry) ranked) :=
  ⟨world.active,store,clock,request,ranked,readable,hybrid_not_fails searched,keyed,searched,rfl⟩

/-- A fresh entry is the last answer of its key. -/
theorem Faithful.get {key : Text} {now : Int} {cached : RetrievalResult} (faithful : Faithful service world)
    (fresh : world.cache.get key now = some cached) :
    ∃ answer, (key,answer) ∈ world.answers ∧ cached = { answer with cached := true } := by
  unfold RetrievalCache.get at fresh
  cases found : world.cache.entries.get? key with
  | none => simp [found] at fresh
  | some entry =>
    have last := faithful.entries key
    rw [found,Option.map_some] at last
    obtain ⟨⟨other,answer⟩,first,same⟩ := Option.map_eq_some_iff.mp last.symm
    have named : other = key := by simpa using List.find?_some first
    simp only [found] at fresh
    split_ifs at fresh
    cases fresh
    cases same
    exact ⟨_,named ▸ List.mem_of_find?_eq_some first,rfl⟩

/-- What is served stale is the last answer of the key. -/
theorem Faithful.getStale (faithful : Faithful service world) (request : Request) (key : Text) : (world.cache.getStale key).getD
    { query := request.query, indexVersion := corpusVersion world.active service.registry, stale := true } =
      world.fallback service request key := by
  unfold RetrievalCache.getStale World.fallback
  rw [← faithful.entries key]
  cases world.cache.entries.get? key <;> rfl

theorem Faithful.retrieve (faithful : Faithful service world) (agrees : Agrees world.active store) (clock : Clock) (request : Request) :
    Faithful service ⟨world.active,(service.retrieve world.cache store clock request).1,
      remember service world request (service.retrieve world.cache store clock request).2⟩ := by
  have unchanged : ∀ result : RetrievalResult, (result.cached = true ∨ result.stale = true) →
      remember service world request (.ok result) = world.answers := by
    intro result flagged
    unfold remember
    cases liveKey service world request with
    | error e => rfl
    | ok key =>
      dsimp only
      rw [if_neg]
      rintro ⟨_,fresh,current⟩
      rcases flagged with flagged | flagged
      · rw [fresh] at flagged
        cases flagged
      · rw [current] at flagged
        cases flagged
  have course : Course service world store clock request _ := retrieve_course agrees
  generalize service.retrieve world.cache store clock request = outcome at course ⊢
  cases course with
  | unread e _ => exact ⟨faithful.entries,faithful.computed⟩
  | unkeyed e _ => exact ⟨faithful.entries,faithful.computed⟩
  | endless key ranked e _ _ _ _ => exact ⟨faithful.entries,faithful.computed⟩
  | hit key cached _ _ fresh =>
    obtain ⟨answer,_,rfl⟩ := faithful.get fresh
    rw [unchanged _ (.inl rfl)]
    exact ⟨faithful.entries,faithful.computed⟩
  | degraded key e _ _ _ _ =>
    have flagged : ((world.cache.getStale key).getD
        { query := request.query, indexVersion := corpusVersion world.active service.registry, stale := true }).stale = true := by
      unfold RetrievalCache.getStale
      cases world.cache.entries.get? key <;> rfl
    rw [unchanged _ (.inr flagged)]
    exact ⟨faithful.entries,faithful.computed⟩
  | computed key ranked cache readable keyed _ searched stored =>
    have computed := computed_result readable keyed searched
    obtain ⟨plain,current⟩ := computed.plain
    obtain ⟨_,on,off⟩ := set_ok stored
    simp only [remember,keyed,plain,current,and_self,and_true]
    by_cases enabled : world.cache.enabled = true
    · obtain ⟨_,entries⟩ := on enabled
      rw [if_pos enabled]
      refine ⟨?_,List.forall_mem_cons.mpr ⟨computed,faithful.computed⟩⟩
      intro other
      simp only [entries,Dict.get?_set,World.lastAnswer,List.find?_cons]
      by_cases same : other = key
      · rw [same]
        simp [RagService.resultOf]
      · have different : ¬ key = other := fun equal => same equal.symm
        simpa [same,different,World.lastAnswer] using faithful.entries other
    · rw [if_neg enabled,off (by simpa using enabled)]
      exact ⟨faithful.entries,faithful.computed⟩

theorem Faithful.step {next : World} {event : Event} (faithful : Faithful service world) (step : Step service world event next) :
    Faithful service next := by
  cases step with
  | retrieve agrees => exact faithful.retrieve agrees _ _
  | change => exact Faithful.change service _

/-- A retrieval is honoured exactly when the request can be answered. -/
theorem Faithful.honoured_iff (faithful : Faithful service world) (agrees : Agrees world.active store) (clock : Clock) (request : Request) :
    Honoured service world store clock request (service.retrieve world.cache store clock request).2 ↔
      Answerable service world store clock request := by
  have course : Course service world store clock request _ := retrieve_course agrees
  generalize service.retrieve world.cache store clock request = outcome at course ⊢
  cases course with
  | unread e unread =>
    refine ⟨?_,fun answerable => absurd answerable.readable unread⟩
    rintro ⟨_,returned,_⟩
    cases returned
  | unkeyed e keyed =>
    refine ⟨?_,fun answerable => absurd answerable.encodable (liveKey_error keyed)⟩
    rintro ⟨_,returned,_⟩
    cases returned
  | endless key ranked e keyed missed searched refused =>
    obtain ⟨enabled,late⟩ := set_error refused
    refine ⟨?_,fun answerable => absurd (answerable.expires ⟨key,keyed,missed⟩ ranked searched enabled) late⟩
    rintro ⟨_,returned,_⟩
    cases returned
  | hit key cached readable keyed fresh =>
    have found : ¬ Missed service world clock request := by
      rintro ⟨other,same,missed⟩
      rw [keyed] at same
      cases same
      rw [fresh] at missed
      cases missed
    have served : ¬ StoreFails service world store clock request := by
      rintro (unread | ⟨missed,_⟩)
      · exact unread readable
      · exact found missed
    obtain ⟨answer,listed,same⟩ := faithful.get fresh
    refine ⟨fun _ => ⟨readable,liveKey_encodable keyed,fun missed => absurd missed found⟩,fun _ => ?_⟩
    exact ⟨cached,rfl,fun fails => absurd fails served,
      fun _ => ⟨served,key,answer,keyed,faithful.computed _ listed,.inr ⟨listed,same⟩⟩⟩
  | degraded key e readable keyed missed failed =>
    refine ⟨fun _ => ⟨readable,liveKey_encodable keyed,fun _ ranked searched => ?_⟩,fun _ => ?_⟩
    · rw [failed] at searched
      cases searched
    · refine ⟨_,rfl,fun _ => ⟨key,keyed,faithful.getStale request key⟩,fun current => ?_⟩
      rw [faithful.getStale request key,World.fallback] at current
      cases last : world.lastAnswer key <;> simp [last] at current
  | computed key ranked cache readable keyed missed searched stored =>
    have served : ¬ StoreFails service world store clock request := by
      rintro (unread | ⟨_,fails⟩)
      · exact unread readable
      · exact hybrid_not_fails searched fails
    refine ⟨fun _ => ⟨readable,liveKey_encodable keyed,fun _ _ _ enabled => ((set_ok stored).2.1 enabled).1⟩,fun _ => ?_⟩
    exact ⟨_,rfl,fun fails => absurd fails served,
      fun _ => ⟨served,key,_,keyed,computed_result readable keyed searched,.inl rfl⟩⟩

end

/-- After every sequence of retrievals and corpus changes, whatever failed in it, a
    retrieval is honoured exactly when its reads of active versions return, its key can be
    encoded, and what it caches can expire. -/
theorem retrieve_honoured_iff_answerable [Interpreter] (service : RagService) (active : Text → Option Text) (ttlSeconds : Int)
    (events : List Event) (world : World) (run : Run (Step service) (.start active ttlSeconds) events world) (store : StoreCalls)
    (agrees : Agrees world.active store) (clock : Clock) (request : Request) :
    Honoured service world store clock request (service.retrieve world.cache store clock request).2 ↔
      Answerable service world store clock request := by
  have keeps : ∀ s event t, Faithful service s → Step service s event t → Faithful service t := fun _ _ _ => Faithful.step
  exact (run.invariant keeps (.start service active ttlSeconds)).honoured_iff agrees clock request

def sampleService : RagService where
  registry := [lit "nvd"]
  topK := 5
  tokenBudget := 4000
  candidates := 50
  embed _ := .ok [1]
  sha256 _ := lit "d6ae4b2dc8f377e7184793e2138e67ae973acda60a2c07cb5fe6eb7c3192415e"
  dumpJson _ := lit "\x7b\"source_kinds\":[],\"cve_ids\":[],\"technique_ids\":[],\"products\":[]\x7d"
  power _ := 1
  halfLifeDays := 180

def sampleActive (sourceId : Text) : Option Text := if sourceId = lit "nvd" then some (lit "nvd-1") else none

/-- A store of which the reads, or the searches, may be down. -/
def sampleStore (reads searches : Bool) : StoreCalls where
  activeVersion _ sourceId := if reads then .ok (sampleActive sourceId) else .error .ValueError
  denseSearch _ _ _ := if searches then .ok [] else .error .ValueError
  keywordSearch _ _ _ := .ok []

theorem sample_agrees (reads searches : Bool) : Agrees sampleActive (sampleStore reads searches) := by
  intro n sourceId version returned
  cases reads <;> cases returned
  rfl

def sampleClock (day : Int) : Clock := ⟨day * dayMicros,day * dayMicros,day * dayMicros⟩

theorem sample_run : ∃ world, Run (@Step ascii sampleService) (.start sampleActive 900)
    [.retrieve (sampleStore true true) (sampleClock 738000) { query := lit "log4j" }] world ∧ world.active = sampleActive ∧
    world.answers.length = 1 ∧ world.cache.ttlSeconds = 900 :=
  ⟨_,.go (@Step.retrieve ascii _ _ _ _ _ (sample_agrees true true)) (.stop _),rfl,rfl,rfl⟩

/-- With its searches down the service still answers. -/
theorem search_outage_honoured : ∃ world, Run (@Step ascii sampleService) (.start sampleActive 900)
    [.retrieve (sampleStore true true) (sampleClock 738000) { query := lit "log4j" }] world ∧
    @Honoured ascii sampleService world (sampleStore true false) (sampleClock 738001) { query := lit "log4j" }
      (@RagService.retrieve ascii sampleService world.cache (sampleStore true false) (sampleClock 738001) { query := lit "log4j" }).2 := by
  obtain ⟨world,run,active,_,_⟩ := sample_run
  refine ⟨world,run,(@retrieve_honoured_iff_answerable ascii sampleService sampleActive 900 _ world run _ ?_ _ _).mpr
    (@Answerable.mk ascii _ _ _ _ _ ?_ ?_ ?_)⟩
  · rw [active]
    exact sample_agrees true false
  · intro n sourceId _
    exact ⟨sampleActive sourceId,rfl⟩
  · rw [active]
    decide
  · intro _ ranked searched
    cases searched

/-- With its reads of versions down the service raises, whatever it has cached. -/
theorem version_outage_raises : ∃ world, Run (@Step ascii sampleService) (.start sampleActive 900)
    [.retrieve (sampleStore true true) (sampleClock 738000) { query := lit "log4j" }] world ∧ world.answers.length = 1 ∧
    Agrees world.active (sampleStore false false) ∧
    (@RagService.retrieve ascii sampleService world.cache (sampleStore false false) (sampleClock 738001) { query := lit "log4j" }).2 =
      .error .ValueError ∧
    ¬ @Honoured ascii sampleService world (sampleStore false false) (sampleClock 738001) { query := lit "log4j" }
      (@RagService.retrieve ascii sampleService world.cache (sampleStore false false) (sampleClock 738001) { query := lit "log4j" }).2 := by
  obtain ⟨world,run,active,answered,_⟩ := sample_run
  refine ⟨world,run,answered,?_,rfl,?_⟩
  · rw [active]
    exact sample_agrees false false
  · rintro ⟨_,returned,_⟩
    cases returned

end SocAnalyst.Retrieval
