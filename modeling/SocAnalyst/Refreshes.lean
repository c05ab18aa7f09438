import SocAnalyst.IndexSwaps
import SocAnalyst.Isolation

/-!
# Refreshing every source

`IngestionPipeline.refresh_all` of `rag/ingestion.py`, over both stores, with sources whose
fetch fails and, for PostgreSQL, statements that fail: when the failure of one source is
kept from the others.
-/
namespace SocAnalyst.Refreshes
open SocAnalyst.Builtins SocAnalyst.Dicts SocAnalyst.Knowledge SocAnalyst.VectorStores SocAnalyst.Ingestion SocAnalyst.IndexSwaps
open SocAnalyst.Isolation

/-! ### What a refresh promises -/

section
variable {σ α : Type} (job : Text → σ → σ × Except IngestError IngestionReport)

/-- The source is ingested when it is ingested alone. -/
def Ingests (store : σ) (sourceId : Text) : Prop := ∃ report, (job sourceId store).2 = .ok report ∧ report.failed = false

/-- What the reports of a refresh say, and the store after it: one report a source, failed
    just when the source alone is not ingested; a failed source is served as before, any
    other is as if it had been ingested alone. -/
structure Isolated (active : σ → Text → α) (agree : Text → σ → σ → Prop) (registry : List Text) (store final : σ)
    (reports : List IngestionReport) : Prop where
  each : reports.map (·.sourceId) = registry
  failed : ∀ report ∈ reports, report.failed = true ↔ ¬ Ingests job store report.sourceId
  serving : ∀ report ∈ reports, report.failed = true → active final report.sourceId = active store report.sourceId
  alone : ∀ report ∈ reports, report.failed = false →
    (job report.sourceId store).2 = .ok report ∧ agree report.sourceId (job report.sourceId store).1 final

/-- What each ingestion does to its own source. -/
structure Reporting (active : σ → Text → α) (agree : Text → σ → σ → Prop) : Prop where
  named : ∀ {sourceId : Text} {store : σ} {report : IngestionReport}, (job sourceId store).2 = .ok report → report.sourceId = sourceId
  kept : ∀ {sourceId : Text} {store : σ} {report : IngestionReport}, (job sourceId store).2 = .ok report → report.failed = true →
    (job sourceId store).1 = store
  active : ∀ {sourceId : Text} {s t : σ}, agree sourceId s t → active s sourceId = active t sourceId

variable {job}

/-- A refresh keeps its promise just when no source raises. -/
theorem isolated_iff {active : σ → Text → α} {agree : Text → σ → σ → Prop} (independent : Independent agree job)
    (reporting : Reporting job active agree) {registry : List Text} (distinct : registry.Nodup) (store : σ) :
    (∃ final reports, runAll job registry store = (final,.ok reports) ∧ Isolated job active agree registry store final reports) ↔
      ∀ sourceId ∈ registry, ∃ report, (job sourceId store).2 = .ok report := by
  rw [← runAll_returns independent distinct store]
  constructor
  · rintro ⟨final,reports,ran,_⟩
    exact ⟨final,reports,ran⟩
  · rintro ⟨final,reports,ran⟩
    obtain ⟨paired,ended,_⟩ := runAll_ok independent distinct ran
    have own : ∀ report ∈ reports, report.sourceId ∈ registry ∧ (job report.sourceId store).2 = .ok report := by
      intro report member
      obtain ⟨position,inside,rfl⟩ := List.getElem_of_mem member
      have bound : position < registry.length := paired.length_eq ▸ inside
      have returned := paired.get bound inside
      simp only [List.get_eq_getElem] at returned
      rw [reporting.named returned]
      exact ⟨List.getElem_mem bound,returned⟩
    refine ⟨final,reports,ran,?_,fun report member => ?_,fun report member failed => ?_,fun report member _ => ?_⟩
    · refine List.forall₂_eq_eq_eq ▸ (List.forall₂_map_left_iff.mpr (paired.imp fun sourceId report returned => ?_).flip)
      exact (reporting.named returned)
    · obtain ⟨_,returned⟩ := own report member
      constructor
      · rintro failed ⟨other,again,succeeded⟩
        cases returned.symm.trans again
        rw [failed] at succeeded
        cases succeeded
      · intro fails
        by_contra succeeded
        exact fails ⟨report,returned,by simpa using succeeded⟩
    · obtain ⟨listed,returned⟩ := own report member
      have after := reporting.active (ended _ listed)
      rw [reporting.kept returned failed] at after
      exact after.symm
    · obtain ⟨listed,returned⟩ := own report member
      exact ⟨returned,ended _ listed⟩

end

section
variable [Interpreter] (pipeline : IngestionPipeline) (fetch : Text → Except Text (List SourceDocument))

/-! ### The in-process store -/

/-- `refresh_all` into the in-process store. -/
def refreshAllInMemory (store : InMemoryVectorStore) : InMemoryVectorStore × Except IngestError (List IngestionReport) :=
  runAll (fun sourceId => pipeline.ingestInMemory sourceId (fetch sourceId)) pipeline.registry store

/-- The stores hold the same of a source. -/
structure SameInMemory (sourceId : Text) (s t : InMemoryVectorStore) : Prop where
  active : s.activeVersion sourceId = t.activeVersion sourceId
  chunks : s.chunks.filter (fun chunk => chunk.metadata.sourceId = sourceId) = t.chunks.filter fun chunk => chunk.metadata.sourceId = sourceId

omit [Interpreter] in
theorem sameInMemory_equivalence (sourceId : Text) : Equivalence (SameInMemory sourceId) where
  refl _ := ⟨rfl,rfl⟩
  symm same := ⟨same.active.symm,same.chunks.symm⟩
  trans first second := ⟨first.active.trans second.active,first.chunks.trans second.chunks⟩

/-- Whatever the store holds, an ingestion in memory raises, reports a failed fetch, or adds
    the chunks of its source and flips it. -/
theorem ingestInMemory_cases (sourceId : Text) :
    (∃ e, ∀ store, pipeline.ingestInMemory sourceId (fetch sourceId) store = (store,.error e)) ∨
      (∃ message, ∀ store, pipeline.ingestInMemory sourceId (fetch sourceId) store =
        (store,.ok (IngestionPipeline.fetchFailed sourceId (store.activeVersion sourceId) message))) ∨
      ∃ documents prepared, (∀ chunk ∈ prepared.chunks, chunk.metadata.sourceId = sourceId) ∧
        ∀ store, pipeline.ingestInMemory sourceId (fetch sourceId) store =
          (((store.addChunks prepared.chunks prepared.version).activateVersion sourceId prepared.version).1,
            .ok (IngestionPipeline.report sourceId documents prepared
              ((store.addChunks prepared.chunks prepared.version).activateVersion sourceId prepared.version).2)) := by
  unfold IngestionPipeline.ingestInMemory
  by_cases registered : sourceId ∈ pipeline.registry
  · simp only [not_not.mpr registered,↓reduceIte]
    cases fetch sourceId with
    | error message => exact .inr (.inl ⟨message,fun _ => rfl⟩)
    | ok documents =>
      cases done : pipeline.prepare sourceId documents with
      | error e => exact .inl ⟨e,fun _ => by simp only [done]⟩
      | ok prepared => exact .inr (.inr ⟨documents,prepared,pipeline.prepare_own done,fun _ => by simp only [done]⟩)
  · exact .inl ⟨_,fun _ => by rw [if_pos registered]⟩

omit [Interpreter] in
theorem frame_inMemory {chunks : List EmbeddedChunk} {version sourceId other : Text} (store : InMemoryVectorStore)
    (own : ∀ chunk ∈ chunks, chunk.metadata.sourceId = sourceId) (apart : other ≠ sourceId) :
    SameInMemory other store ((store.addChunks chunks version).activateVersion sourceId version).1 := by
  have foreign : (chunks.map fun chunk => { chunk with indexVersion := some version }).filter
      (fun chunk => chunk.metadata.sourceId = other) = [] := by
    refine List.filter_eq_nil_iff.mpr fun chunk new => ?_
    obtain ⟨plain,inside,rfl⟩ := List.mem_map.mp new
    simpa [own plain inside] using apart.symm
  refine ⟨?_,?_⟩
  · simp [InMemoryVectorStore.activeVersion,InMemoryVectorStore.activateVersion,InMemoryVectorStore.addChunks,Dict.get?_set,apart]
  · simp [InMemoryVectorStore.activateVersion,InMemoryVectorStore.addChunks,foreign]

omit [Interpreter] in
/-- Adding chunks and flipping comes to the same for stores that hold the same of the source. -/
theorem flip_inMemory {chunks : List EmbeddedChunk} {version sourceId : Text} {s t : InMemoryVectorStore} (same : SameInMemory sourceId s t) :
    SameInMemory sourceId ((s.addChunks chunks version).activateVersion sourceId version).1
        ((t.addChunks chunks version).activateVersion sourceId version).1 ∧
      ((s.addChunks chunks version).activateVersion sourceId version).2 = ((t.addChunks chunks version).activateVersion sourceId version).2 := by
  have chunksSame : (s.addChunks chunks version).chunks.filter (fun chunk => chunk.metadata.sourceId = sourceId) =
      (t.addChunks chunks version).chunks.filter fun chunk => chunk.metadata.sourceId = sourceId := by
    simp only [InMemoryVectorStore.addChunks,List.filter_append,same.chunks]
  have counted : ∀ (store : InMemoryVectorStore) (previous : Text),
      (store.chunks.filter fun chunk => chunk.metadata.sourceId = sourceId ∧ chunk.indexVersion = some previous) =
        (store.chunks.filter fun chunk => chunk.metadata.sourceId = sourceId).filter fun chunk => chunk.indexVersion = some previous := by
    intro store previous
    rw [List.filter_filter]
    exact List.filter_congr fun chunk _ => by simp [Bool.and_comm]
  have active : s.active.get? sourceId = t.active.get? sourceId := same.active
  refine ⟨⟨?_,chunksSame⟩,?_⟩
  · simp [InMemoryVectorStore.activeVersion,InMemoryVectorStore.activateVersion]
  · simp only [InMemoryVectorStore.activateVersion,counted,chunksSame]
    simp only [InMemoryVectorStore.addChunks,active]

theorem independent_inMemory : Independent SameInMemory fun sourceId => pipeline.ingestInMemory sourceId (fetch sourceId) where
  same := sameInMemory_equivalence
  frame := by
    intro sourceId other store apart
    rcases ingestInMemory_cases pipeline fetch sourceId with ⟨e,raised⟩ | ⟨message,failed⟩ | ⟨documents,prepared,own,done⟩
    · rw [raised]
      exact (sameInMemory_equivalence other).refl store
    · rw [failed]
      exact (sameInMemory_equivalence other).refl store
    · rw [done]
      exact frame_inMemory store own apart
  result := by
    intro sourceId s t same
    rcases ingestInMemory_cases pipeline fetch sourceId with ⟨e,raised⟩ | ⟨message,failed⟩ | ⟨documents,prepared,own,done⟩
    · simp only [raised]
    · simp only [failed,same.active]
    · simp only [done,(flip_inMemory same).2]
  state := by
    intro sourceId s t same
    rcases ingestInMemory_cases pipeline fetch sourceId with ⟨e,raised⟩ | ⟨message,failed⟩ | ⟨documents,prepared,own,done⟩
    · simpa only [raised] using same
    · simpa only [failed] using same
    · simpa only [done] using (flip_inMemory same).1

theorem reporting_inMemory :
    Reporting (fun sourceId => pipeline.ingestInMemory sourceId (fetch sourceId)) InMemoryVectorStore.activeVersion SameInMemory where
  named := by
    intro sourceId store report returned
    rcases ingestInMemory_cases pipeline fetch sourceId with ⟨e,raised⟩ | ⟨message,failed⟩ | ⟨documents,prepared,own,done⟩
    · simp [raised] at returned
    · simp only [failed] at returned
      cases returned
      rfl
    · simp only [done] at returned
      cases returned
      rfl
  kept := by
    intro sourceId store report returned unfinished
    rcases ingestInMemory_cases pipeline fetch sourceId with ⟨e,raised⟩ | ⟨message,failed⟩ | ⟨documents,prepared,own,done⟩
    · simp only [raised]
    · simp only [failed]
    · simp only [done] at returned
      cases returned
      cases unfinished
  active same := same.active

/-- The in-process store: a refresh keeps its promise just when every source that is
    fetched brings documents that can be ingested. -/
theorem refreshInMemory_isolated (distinct : pipeline.registry.Nodup) (store : InMemoryVectorStore) :
    (∃ final reports, refreshAllInMemory pipeline fetch store = (final,.ok reports) ∧
        Isolated (fun sourceId => pipeline.ingestInMemory sourceId (fetch sourceId)) InMemoryVectorStore.activeVersion SameInMemory
          pipeline.registry store final reports) ↔
      ∀ sourceId ∈ pipeline.registry, ∀ documents, fetch sourceId = .ok documents → pipeline.Ingestible sourceId documents := by
  rw [refreshAllInMemory,isolated_iff (independent_inMemory pipeline fetch) (reporting_inMemory pipeline fetch) distinct]
  refine forall_congr' fun sourceId => imp_congr_right fun registered => ?_
  unfold IngestionPipeline.ingestInMemory
  rw [if_neg (not_not.mpr registered)]
  cases fetch sourceId with
  | error message => simp
  | ok documents =>
    simp only [Except.ok.injEq,forall_eq',← pipeline.prepare_returns]
    cases pipeline.prepare sourceId documents with
    | error e => simp
    | ok prepared => simp [registered]

end

/-! ### PostgreSQL -/

/-- The statements of an ingestion that the database may refuse for reasons of its own. -/
inductive Statement where
  | activeVersion
  | recordVersion
  | addChunks
  | activateVersion

/-- The outcome of a statement that may meet a fault. -/
def attempt {α : Type} (fault : Option IngestError) (outcome : Except StoreError α) : Except IngestError α :=
  match fault with
  | some e => .error e
  | none => outcome.mapError .store

section
variable [Interpreter] (pipeline : IngestionPipeline) (clock : Text → Int) (fetch : Text → Except Text (List SourceDocument))
  (faults : Text → Statement → Option IngestError)

/-- The report of a source that could not be fetched, with the version that stays active. -/
def unfetchedPg (sourceId message : Text) (store : PgVectorStore) : PgVectorStore × Except IngestError IngestionReport :=
  match attempt (faults sourceId .activeVersion) (store.activeVersion sourceId) with
  | .error e => (store,.error e)
  | .ok active => (store,.ok (IngestionPipeline.fetchFailed sourceId active message))

/-- Register, store and activate what was prepared of a snapshot. -/
def publishPg (sourceId : Text) (documents : List SourceDocument) (prepared : IngestionPipeline.Prepared) (store : PgVectorStore) :
    PgVectorStore × Except IngestError IngestionReport :=
  match attempt (faults sourceId .recordVersion) (store.recordVersion (pipeline.versionRow sourceId prepared)) with
  | .error e => (store,.error e)
  | .ok registered =>
    match attempt (faults sourceId .addChunks) (registered.addChunks (clock sourceId) prepared.chunks prepared.version) with
    | .error e => (registered,.error e)
    | .ok built =>
      match faults sourceId .activateVersion with
      | some e => (built,.error e)
      | none => (built.activateVersion (clock sourceId) sourceId prepared.version,
          .ok (IngestionPipeline.report sourceId documents prepared (built.retirements sourceId prepared.version)))

/-- `ingest_source` into PostgreSQL, where statements may meet faults. -/
def ingestPgFaulty (sourceId : Text) (store : PgVectorStore) : PgVectorStore × Except IngestError IngestionReport :=
  if sourceId ∉ pipeline.registry then (store,.error (IngestionPipeline.untrusted sourceId))
  else match fetch sourceId with
    | .error message => unfetchedPg faults sourceId message store
    | .ok documents =>
      match pipeline.prepare sourceId documents with
      | .error e => (store,.error e)
      | .ok prepared => publishPg pipeline clock faults sourceId documents prepared store

/-- Without faults it is the ingestion. -/
theorem ingestPgFaulty_none (sourceId : Text) (store : PgVectorStore) :
    ingestPgFaulty pipeline clock fetch (fun _ _ => none) sourceId store = pipeline.ingestPg (clock sourceId) sourceId (fetch sourceId) store := by
  unfold ingestPgFaulty IngestionPipeline.ingestPg
  split_ifs
  · cases fetch sourceId with
    | error message => cases active : store.activeVersion sourceId <;> simp only [unfetchedPg,attempt,active,Except.mapError]
    | ok documents =>
      cases done : pipeline.prepare sourceId documents with
      | error e => simp only [done]
      | ok prepared =>
        cases recorded : store.recordVersion (pipeline.versionRow sourceId prepared) with
        | error e => simp only [done,publishPg,attempt,recorded,Except.mapError]
        | ok registered =>
          cases added : registered.addChunks (clock sourceId) prepared.chunks prepared.version with
          | error e => simp only [done,publishPg,attempt,recorded,added,Except.mapError]
          | ok built => simp only [done,publishPg,attempt,recorded,added,Except.mapError]
  · rfl

/-- `refresh_all` into PostgreSQL. -/
def refreshAllPg (store : PgVectorStore) : PgVectorStore × Except IngestError (List IngestionReport) :=
  runAll (ingestPgFaulty pipeline clock fetch faults) pipeline.registry store

end

/-- The name of a version: the source, and sixteen digits. -/
def Named (sourceId version : Text) : Prop := ∃ digest : Text, digest.length = 16 ∧ version = sourceId ++ lit "-" ++ digest

/-- No two sources have a version of one name. -/
theorem named_unique {sourceId other version : Text} (first : Named sourceId version) (second : Named other version) : sourceId = other := by
  obtain ⟨digest,length,rfl⟩ := first
  obtain ⟨digits,lengths,same⟩ := second
  have front := (List.append_inj' same (length.trans lengths.symm)).1
  exact (List.append_inj' front rfl).1

/-- The tables hold the same of a source, its own version names included. -/
structure SamePg (sourceId : Text) (s t : PgVectorStore) : Prop where
  versions : s.versions.filter (fun row => row.sourceId = sourceId) = t.versions.filter fun row => row.sourceId = sourceId
  chunks : s.chunks.filter (fun row => row.metadata.sourceId = sourceId) = t.chunks.filter fun row => row.metadata.sourceId = sourceId
  keys : ∀ chunkId version, Named sourceId version →
    ((chunkId,some version) ∈ s.chunks.map KnowledgeChunk.key ↔ (chunkId,some version) ∈ t.chunks.map KnowledgeChunk.key)

theorem samePg_equivalence (sourceId : Text) : Equivalence (SamePg sourceId) where
  refl _ := ⟨rfl,rfl,fun _ _ _ => Iff.rfl⟩
  symm same := ⟨same.versions.symm,same.chunks.symm,fun chunkId version named => (same.keys chunkId version named).symm⟩
  trans first second := ⟨first.versions.trans second.versions,first.chunks.trans second.chunks,
    fun chunkId version named => (first.keys chunkId version named).trans (second.keys chunkId version named)⟩

theorem attempt_ok {α : Type} {fault : Option IngestError} {outcome : Except StoreError α} {value : α} :
    attempt fault outcome = .ok value ↔ fault = none ∧ outcome = .ok value := by
  cases fault <;> cases outcome <;> simp [attempt,Except.mapError]

/-- Two outcomes raise the same, or return related values. -/
inductive Alike {ε α β : Type} (related : α → β → Prop) : Except ε α → Except ε β → Prop where
  | ok {a : α} {b : β} (both : related a b) : Alike related (.ok a) (.ok b)
  | error (e : ε) : Alike related (.error e) (.error e)

theorem Alike.attempt {α β : Type} {related : α → β → Prop} {x : Except StoreError α} {y : Except StoreError β} (alike : Alike related x y)
    (fault : Option IngestError) : Alike related (attempt fault x) (Refreshes.attempt fault y) := by
  cases fault with
  | some e => exact .error e
  | none =>
    cases alike with
    | ok both => exact .ok both
    | error e => exact .error _

/-! ### Statements on tables that hold the same of a source -/

theorem recordVersion_alike {sourceId : Text} {s t : PgVectorStore} (same : SamePg sourceId s t) {row : KnowledgeIndexVersion}
    (own : row.sourceId = sourceId) : Alike (SamePg sourceId) (s.recordVersion row) (t.recordVersion row) := by
  have known : ∀ store : PgVectorStore, (∀ other ∈ store.versions, other.key ≠ row.key) ↔
      ∀ other ∈ store.versions.filter (fun row => row.sourceId = sourceId), other.key ≠ row.key := by
    intro store
    simp only [List.mem_filter,decide_eq_true_eq]
    refine ⟨fun fresh other member => fresh other member.1,fun fresh other member equal => fresh other ⟨member,?_⟩ equal⟩
    exact (congrArg Prod.fst equal).trans own
  cases first : s.recordVersion row with
  | ok next =>
    obtain ⟨later,second⟩ := (recordVersion_returns t row).mpr ((known t).mpr (same.versions ▸ (known s).mp (recordVersion_ok first).2.2))
    rw [second]
    obtain ⟨chunks,versions,_⟩ := recordVersion_ok first
    obtain ⟨others,rows,_⟩ := recordVersion_ok second
    refine .ok ⟨?_,?_,?_⟩
    · rw [versions,rows,List.filter_append,List.filter_append,same.versions]
    · rw [chunks,others]
      exact same.chunks
    · rw [chunks,others]
      exact same.keys
  | error e =>
    have raised : ∀ store : PgVectorStore, (¬ ∃ next, store.recordVersion row = .ok next) → store.recordVersion row = .error .IntegrityError := by
      intro store none
      unfold PgVectorStore.recordVersion at none ⊢
      split_ifs with fresh
      · exact absurd ⟨_,dif_pos fresh⟩ none
      · rfl
    have fails : ¬ ∃ next, t.recordVersion row = .ok next := by
      intro returns
      have fresh := (known s).mpr (same.versions ▸ (known t).mp ((recordVersion_returns t row).mp returns))
      obtain ⟨next,returned⟩ := (recordVersion_returns s row).mpr fresh
      cases first.symm.trans returned
    rw [← first,raised s (by rw [first]; rintro ⟨_,⟨⟩⟩),raised t fails]
    exact .error _

theorem addChunks_alike {sourceId version : Text} (named : Named sourceId version) {s t : PgVectorStore} (same : SamePg sourceId s t)
    (now : Int) (chunks : List EmbeddedChunk) :
    Alike (SamePg sourceId) (s.addChunks now chunks version) (t.addChunks now chunks version) := by
  have agreed : ((s.chunks ++ chunks.map (PgVectorStore.toRow now version)).map KnowledgeChunk.key).Nodup ↔
      ((t.chunks ++ chunks.map (PgVectorStore.toRow now version)).map KnowledgeChunk.key).Nodup := by
    simp only [List.map_append,List.nodup_append,s.chunkKeys,t.chunkKeys,true_and]
    refine and_congr_right fun _ => ?_
    have disjoint : ∀ store : PgVectorStore, (∀ a ∈ store.chunks.map KnowledgeChunk.key,
        ∀ b ∈ (chunks.map (PgVectorStore.toRow now version)).map KnowledgeChunk.key, a ≠ b) ↔
        ∀ chunk ∈ chunks, (chunk.chunkId,some version) ∉ store.chunks.map KnowledgeChunk.key := by
      intro store
      constructor
      · intro apart chunk member stored
        exact apart _ stored _ (List.mem_map_of_mem (List.mem_map_of_mem member)) rfl
      · intro fresh a stored b listed equal
        obtain ⟨row,cut,rfl⟩ := List.mem_map.mp listed
        obtain ⟨chunk,member,rfl⟩ := List.mem_map.mp cut
        subst equal
        exact fresh chunk member stored
    rw [disjoint s,disjoint t]
    exact forall_congr' fun chunk => imp_congr_right fun _ => not_congr (same.keys chunk.chunkId version named)
  unfold PgVectorStore.addChunks
  by_cases fresh : ((s.chunks ++ chunks.map (PgVectorStore.toRow now version)).map KnowledgeChunk.key).Nodup
  · rw [dif_pos fresh,dif_pos (agreed.mp fresh)]
    refine .ok ⟨same.versions,?_,fun chunkId other title => ?_⟩
    · simp only [List.filter_append,same.chunks]
    · simp only [List.map_append,List.mem_append,same.keys chunkId other title]
  · rw [dif_neg fresh,dif_neg (agreed.not.mp fresh)]
    exact .error _

theorem superseded_same {sourceId : Text} {s t : PgVectorStore} (same : SamePg sourceId s t) (version : Text) :
    s.superseded sourceId version = t.superseded sourceId version := by
  have own : ∀ store : PgVectorStore, (store.versions.filter fun row => row.sourceId = sourceId ∧ row.status = .ACTIVE ∧ row.version ≠ version) =
      (store.versions.filter fun row => row.sourceId = sourceId).filter fun row => row.status = .ACTIVE ∧ row.version ≠ version := by
    intro store
    rw [List.filter_filter]
    exact List.filter_congr fun row _ => by simp [Bool.and_comm]
  rw [PgVectorStore.superseded,PgVectorStore.superseded,own s,own t,same.versions]

theorem activateVersion_same {sourceId : Text} {s t : PgVectorStore} (same : SamePg sourceId s t) (now : Int) (version : Text) :
    SamePg sourceId (s.activateVersion now sourceId version) (t.activateVersion now sourceId version) ∧
      s.retirements sourceId version = t.retirements sourceId version := by
  have previous := superseded_same same version
  refine ⟨⟨?_,?_,?_⟩,?_⟩
  · have kept : (fun row : KnowledgeIndexVersion => decide (row.sourceId = sourceId)) ∘ PgVectorStore.flip now sourceId version =
        fun row => decide (row.sourceId = sourceId) := by
      funext row
      have same := congrArg Prod.fst (PgVectorStore.key_flip now sourceId version row)
      simp only [KnowledgeIndexVersion.key] at same
      simp [same]
    simp only [PgVectorStore.activateVersion,List.filter_map,kept,same.versions]
  · have kept : ∀ before : List Text, (fun row : KnowledgeChunk => decide (row.metadata.sourceId = sourceId)) ∘
        PgVectorStore.retire now sourceId before = fun row => decide (row.metadata.sourceId = sourceId) := by
      intro before
      funext row
      simp
    simp only [PgVectorStore.activateVersion,List.filter_map,kept,same.chunks,previous]
  · intro chunkId other title
    simpa [PgVectorStore.activateVersion,Function.comp_def] using same.keys chunkId other title
  · have own : ∀ (store : PgVectorStore) (before : List Text), (store.chunks.filter fun row => PgVectorStore.Retires sourceId before row) =
        (store.chunks.filter fun row => row.metadata.sourceId = sourceId).filter fun row => PgVectorStore.Retires sourceId before row := by
      intro store before
      rw [List.filter_filter]
      refine List.filter_congr fun row _ => ?_
      by_cases here : row.metadata.sourceId = sourceId <;> simp [PgVectorStore.Retires,here]
    rw [PgVectorStore.retirements,PgVectorStore.retirements,own,own,same.chunks,previous]

theorem activeVersion_same {sourceId : Text} {s t : PgVectorStore} (same : SamePg sourceId s t) :
    s.activeVersion sourceId = t.activeVersion sourceId := by
  have own : ∀ store : PgVectorStore, (store.versions.filter fun row => row.sourceId = sourceId ∧ row.status = .ACTIVE) =
      (store.versions.filter fun row => row.sourceId = sourceId).filter fun row => row.status = .ACTIVE := by
    intro store
    rw [List.filter_filter]
    exact List.filter_congr fun row _ => by simp [Bool.and_comm]
  rw [PgVectorStore.activeVersion,PgVectorStore.activeVersion,own,own,same.versions]

/-! ### Statements and the other sources -/

theorem recordVersion_frame {sourceId other : Text} {s next : PgVectorStore} {row : KnowledgeIndexVersion} (own : row.sourceId = sourceId)
    (apart : other ≠ sourceId) (recorded : s.recordVersion row = .ok next) : SamePg other s next := by
  obtain ⟨chunks,versions,_⟩ := recordVersion_ok recorded
  have foreign : row.sourceId ≠ other := own.symm ▸ apart.symm
  refine ⟨?_,by rw [chunks],fun _ _ _ => by rw [chunks]⟩
  simp [versions,foreign]

theorem addChunks_frame {sourceId other version : Text} (named : Named sourceId version) (apart : other ≠ sourceId) {now : Int}
    {chunks : List EmbeddedChunk} (own : ∀ chunk ∈ chunks, chunk.metadata.sourceId = sourceId) {s next : PgVectorStore}
    (added : s.addChunks now chunks version = .ok next) : SamePg other s next := by
  obtain ⟨rows,versions⟩ := addChunks_ok added
  refine ⟨by rw [versions],?_,fun chunkId title theirs => ?_⟩
  · have none : (chunks.map (PgVectorStore.toRow now version)).filter (fun row => row.metadata.sourceId = other) = [] := by
      refine List.filter_eq_nil_iff.mpr fun row cut => ?_
      obtain ⟨chunk,member,rfl⟩ := List.mem_map.mp cut
      simpa [PgVectorStore.toRow,own chunk member] using apart.symm
    rw [rows,List.filter_append,none,List.append_nil]
  · have foreign : (chunkId,some title) ∉ (chunks.map (PgVectorStore.toRow now version)).map KnowledgeChunk.key := by
      intro listed
      obtain ⟨row,cut,equal⟩ := List.mem_map.mp listed
      obtain ⟨chunk,_,rfl⟩ := List.mem_map.mp cut
      have titled : version = title := Option.some.inj (congrArg Prod.snd equal)
      exact apart (named_unique theirs (titled ▸ named))
    rw [rows,List.map_append,List.mem_append,or_iff_left foreign]

theorem activateVersion_frame {sourceId other : Text} (apart : other ≠ sourceId) (now : Int) (version : Text) (s : PgVectorStore) :
    SamePg other s (s.activateVersion now sourceId version) := by
  refine ⟨?_,?_,fun chunkId title _ => ?_⟩
  · have kept : (fun row : KnowledgeIndexVersion => decide (row.sourceId = other)) ∘ PgVectorStore.flip now sourceId version =
        fun row => decide (row.sourceId = other) := by
      funext row
      have same := congrArg Prod.fst (PgVectorStore.key_flip now sourceId version row)
      simp only [KnowledgeIndexVersion.key] at same
      simp [same]
    have still : ∀ row ∈ s.versions.filter (fun row => row.sourceId = other), PgVectorStore.flip now sourceId version row = id row := by
      intro row member
      have own : row.sourceId = other := by simpa using (List.mem_filter.mp member).2
      exact if_neg (own ▸ apart)
    simp only [PgVectorStore.activateVersion,List.filter_map,kept]
    exact ((List.map_congr_left still).trans (List.map_id _)).symm
  · have kept : ∀ before : List Text, (fun row : KnowledgeChunk => decide (row.metadata.sourceId = other)) ∘
        PgVectorStore.retire now sourceId before = fun row => decide (row.metadata.sourceId = other) := by
      intro before
      funext row
      simp
    have still : ∀ row ∈ s.chunks.filter (fun row => row.metadata.sourceId = other),
        PgVectorStore.retire now sourceId (s.superseded sourceId version) row = id row := by
      intro row member
      have own : row.metadata.sourceId = other := by simpa using (List.mem_filter.mp member).2
      exact if_neg fun retires => apart (own.symm.trans retires.1)
    simp only [PgVectorStore.activateVersion,List.filter_map,kept]
    exact ((List.map_congr_left still).trans (List.map_id _)).symm
  · simp [PgVectorStore.activateVersion,Function.comp_def]

/-! ### Ingestions into PostgreSQL -/

section
variable [Interpreter] {pipeline : IngestionPipeline} (clock : Text → Int) (fetch : Text → Except Text (List SourceDocument))
  (faults : Text → Statement → Option IngestError)

omit [Interpreter] in
theorem versionOf_named (digits : ∀ text, 16 ≤ (pipeline.sha256 text).length) (sourceId : Text) (documents : List SourceDocument) :
    Named sourceId (pipeline.versionOf sourceId documents) :=
  ⟨_,List.length_take_of_le (digits _),rfl⟩

omit [Interpreter] in
/-- Publishing comes to the same on tables that hold the same of the source. -/
theorem publishPg_same {sourceId : Text} {documents : List SourceDocument} {prepared : IngestionPipeline.Prepared}
    (named : Named sourceId prepared.version) {s t : PgVectorStore} (same : SamePg sourceId s t) :
    (publishPg pipeline clock faults sourceId documents prepared s).2 = (publishPg pipeline clock faults sourceId documents prepared t).2 ∧
      SamePg sourceId (publishPg pipeline clock faults sourceId documents prepared s).1
        (publishPg pipeline clock faults sourceId documents prepared t).1 := by
  have row : (pipeline.versionRow sourceId prepared).sourceId = sourceId := rfl
  unfold publishPg
  have recorded := (recordVersion_alike same row).attempt (faults sourceId .recordVersion)
  generalize attempt (faults sourceId .recordVersion) (s.recordVersion _) = first at recorded ⊢
  generalize attempt (faults sourceId .recordVersion) (t.recordVersion _) = second at recorded ⊢
  cases recorded with
  | error e => exact ⟨rfl,same⟩
  | @ok registered twin agreed =>
    dsimp only
    have added := (addChunks_alike named agreed (clock sourceId) prepared.chunks).attempt (faults sourceId .addChunks)
    generalize attempt (faults sourceId .addChunks) (registered.addChunks _ _ _) = first at added ⊢
    generalize attempt (faults sourceId .addChunks) (twin.addChunks _ _ _) = second at added ⊢
    cases added with
    | error e => exact ⟨rfl,agreed⟩
    | @ok built other alike =>
      dsimp only
      obtain ⟨served,retired⟩ := activateVersion_same alike (clock sourceId) prepared.version
      cases faults sourceId .activateVersion with
      | some e => exact ⟨rfl,alike⟩
      | none => exact ⟨by rw [retired],served⟩

omit [Interpreter] in
theorem publishPg_frame {sourceId other : Text} {documents : List SourceDocument} {prepared : IngestionPipeline.Prepared}
    (named : Named sourceId prepared.version) (own : ∀ chunk ∈ prepared.chunks, chunk.metadata.sourceId = sourceId)
    (apart : other ≠ sourceId) (s : PgVectorStore) : SamePg other s (publishPg pipeline clock faults sourceId documents prepared s).1 := by
  have steady := (samePg_equivalence other).refl
  have trans : ∀ {a b c : PgVectorStore}, SamePg other a b → SamePg other b c → SamePg other a c := (samePg_equivalence other).trans
  unfold publishPg
  cases recorded : attempt (faults sourceId .recordVersion) (s.recordVersion (pipeline.versionRow sourceId prepared)) with
  | error e => exact steady s
  | ok registered =>
    have owned : (pipeline.versionRow sourceId prepared).sourceId = sourceId := rfl
    have first := recordVersion_frame owned apart (attempt_ok.mp recorded).2
    dsimp only
    cases added : attempt (faults sourceId .addChunks) (registered.addChunks (clock sourceId) prepared.chunks prepared.version) with
    | error e => exact first
    | ok built =>
      have second := trans first (addChunks_frame named apart own (attempt_ok.mp added).2)
      dsimp only
      cases faults sourceId .activateVersion with
      | some e => exact second
      | none => exact trans second (activateVersion_frame apart (clock sourceId) prepared.version built)

omit [Interpreter] in
theorem publishPg_report {sourceId : Text} {documents : List SourceDocument} {prepared : IngestionPipeline.Prepared} {s : PgVectorStore}
    {report : IngestionReport} (returned : (publishPg pipeline clock faults sourceId documents prepared s).2 = .ok report) :
    report.sourceId = sourceId ∧ report.failed = false := by
  unfold publishPg at returned
  cases recorded : attempt (faults sourceId .recordVersion) (s.recordVersion (pipeline.versionRow sourceId prepared)) with
  | error e => simp [recorded] at returned
  | ok registered =>
    simp only [recorded] at returned
    cases added : attempt (faults sourceId .addChunks) (registered.addChunks (clock sourceId) prepared.chunks prepared.version) with
    | error e => simp [added] at returned
    | ok built =>
      simp only [added] at returned
      cases fault : faults sourceId .activateVersion with
      | some e => simp [fault] at returned
      | none =>
        simp only [fault] at returned
        cases returned
        exact ⟨rfl,rfl⟩

/-- Whatever the tables hold, an ingestion raises, reports a failed fetch, or publishes what
    it prepared of its source. -/
theorem ingestPgFaulty_cases (digits : ∀ text, 16 ≤ (pipeline.sha256 text).length) (sourceId : Text) :
    (∃ e, ∀ store, ingestPgFaulty pipeline clock fetch faults sourceId store = (store,.error e)) ∨
      (∃ message, ∀ store, ingestPgFaulty pipeline clock fetch faults sourceId store = unfetchedPg faults sourceId message store) ∨
      ∃ documents prepared, (∀ chunk ∈ prepared.chunks, chunk.metadata.sourceId = sourceId) ∧ Named sourceId prepared.version ∧
        ∀ store, ingestPgFaulty pipeline clock fetch faults sourceId store =
          publishPg pipeline clock faults sourceId documents prepared store := by
  unfold ingestPgFaulty
  by_cases registered : sourceId ∈ pipeline.registry
  · simp only [not_not.mpr registered,↓reduceIte]
    cases fetch sourceId with
    | error message => exact .inr (.inl ⟨message,fun _ => rfl⟩)
    | ok documents =>
      cases done : pipeline.prepare sourceId documents with
      | error e => exact .inl ⟨e,fun _ => by simp only [done]⟩
      | ok prepared =>
        have named : Named sourceId prepared.version := (pipeline.prepare_amounts done).1 ▸ versionOf_named digits sourceId documents
        exact .inr (.inr ⟨documents,prepared,pipeline.prepare_own done,named,fun _ => by simp only [done]⟩)
  · exact .inl ⟨_,fun _ => by rw [if_pos registered]⟩

omit [Interpreter] in
theorem unfetchedPg_store (sourceId message : Text) (s : PgVectorStore) : (unfetchedPg faults sourceId message s).1 = s := by
  unfold unfetchedPg
  cases attempt (faults sourceId .activeVersion) (s.activeVersion sourceId) <;> rfl

theorem independent_pg (digits : ∀ text, 16 ≤ (pipeline.sha256 text).length) :
    Independent SamePg (ingestPgFaulty pipeline clock fetch faults) where
  same := samePg_equivalence
  frame := by
    intro sourceId other s apart
    rcases ingestPgFaulty_cases clock fetch faults digits sourceId with ⟨e,raised⟩ | ⟨message,failed⟩ | ⟨documents,prepared,own,named,done⟩
    · rw [raised]
      exact (samePg_equivalence other).refl s
    · rw [failed,unfetchedPg_store]
      exact (samePg_equivalence other).refl s
    · rw [done]
      exact publishPg_frame clock faults named own apart s
  result := by
    intro sourceId s t same
    rcases ingestPgFaulty_cases clock fetch faults digits sourceId with ⟨e,raised⟩ | ⟨message,failed⟩ | ⟨documents,prepared,own,named,done⟩
    · simp only [raised]
    · rw [failed,failed,unfetchedPg,unfetchedPg,activeVersion_same same]
      cases attempt (faults sourceId .activeVersion) (t.activeVersion sourceId) <;> rfl
    · rw [done,done]
      exact (publishPg_same clock faults named same).1
  state := by
    intro sourceId s t same
    rcases ingestPgFaulty_cases clock fetch faults digits sourceId with ⟨e,raised⟩ | ⟨message,failed⟩ | ⟨documents,prepared,own,named,done⟩
    · simpa only [raised] using same
    · rw [failed,failed,unfetchedPg_store,unfetchedPg_store]
      exact same
    · rw [done,done]
      exact (publishPg_same clock faults named same).2

theorem reporting_pg (digits : ∀ text, 16 ≤ (pipeline.sha256 text).length) :
    Reporting (ingestPgFaulty pipeline clock fetch faults) PgVectorStore.activeVersion SamePg where
  named := by
    intro sourceId store report returned
    rcases ingestPgFaulty_cases clock fetch faults digits sourceId with ⟨e,raised⟩ | ⟨message,failed⟩ | ⟨documents,prepared,own,named,done⟩
    · simp [raised] at returned
    · rw [failed,unfetchedPg] at returned
      cases active : attempt (faults sourceId .activeVersion) (store.activeVersion sourceId) with
      | error e => simp [active] at returned
      | ok version =>
        simp only [active] at returned
        cases returned
        rfl
    · rw [done] at returned
      exact (publishPg_report clock faults returned).1
  kept := by
    intro sourceId store report returned unfinished
    rcases ingestPgFaulty_cases clock fetch faults digits sourceId with ⟨e,raised⟩ | ⟨message,failed⟩ | ⟨documents,prepared,own,named,done⟩
    · simp only [raised]
    · rw [failed,unfetchedPg_store]
    · rw [done] at returned
      rw [(publishPg_report clock faults returned).2] at unfinished
      cases unfinished
  active same := activeVersion_same same

/-! ### When a source is ingested -/

omit [Interpreter] in
theorem addChunks_accepts (store : PgVectorStore) (now : Int) (chunks : List EmbeddedChunk) (version : Text) :
    (∃ next, store.addChunks now chunks version = .ok next) ↔
      (chunks.map (·.chunkId)).Nodup ∧ ∀ chunkId ∈ chunks.map (·.chunkId), (chunkId,some version) ∉ store.chunks.map KnowledgeChunk.key := by
  have keys : (chunks.map (PgVectorStore.toRow now version)).map KnowledgeChunk.key =
      (chunks.map (·.chunkId)).map fun chunkId => (chunkId,some version) := by
    simp [Function.comp_def,KnowledgeChunk.key,PgVectorStore.toRow]
  have injective : Function.Injective fun chunkId : Text => (chunkId,some version) := fun _ _ same => congrArg Prod.fst same
  have fresh : ((store.chunks ++ chunks.map (PgVectorStore.toRow now version)).map KnowledgeChunk.key).Nodup ↔
      (chunks.map (·.chunkId)).Nodup ∧ ∀ chunkId ∈ chunks.map (·.chunkId), (chunkId,some version) ∉ store.chunks.map KnowledgeChunk.key := by
    rw [List.map_append,keys,List.nodup_append,List.nodup_map_iff injective]
    constructor
    · rintro ⟨_,distinct,apart⟩
      exact ⟨distinct,fun chunkId member stored => apart _ stored _ (List.mem_map_of_mem member) rfl⟩
    · rintro ⟨distinct,unused⟩
      refine ⟨store.chunkKeys,distinct,fun a stored b listed equal => ?_⟩
      obtain ⟨chunkId,member,rfl⟩ := List.mem_map.mp listed
      subst equal
      exact unused chunkId member stored
  rw [← fresh]
  unfold PgVectorStore.addChunks
  split_ifs with nodup
  · exact iff_of_true ⟨_,rfl⟩ nodup
  · exact iff_of_false (by rintro ⟨_,⟨⟩⟩) nodup

/-- A snapshot that PostgreSQL takes: it can be ingested, its version is new for its source,
    none of its chunks is stored under that version, and no statement meets a fault. -/
structure Publishable (pipeline : IngestionPipeline) (faults : Text → Statement → Option IngestError) (store : PgVectorStore) (sourceId : Text)
    (documents : List SourceDocument) : Prop where
  ingestible : pipeline.Ingestible sourceId documents
  newVersion : ∀ row ∈ store.versions, row.key ≠ (sourceId,pipeline.versionOf sourceId documents)
  distinct : ((pipeline.records documents).map (·.chunkId)).Nodup
  newChunks : ∀ chunkId ∈ (pipeline.records documents).map (·.chunkId),
    (chunkId,some (pipeline.versionOf sourceId documents)) ∉ store.chunks.map KnowledgeChunk.key
  faultless : faults sourceId .recordVersion = none ∧ faults sourceId .addChunks = none ∧ faults sourceId .activateVersion = none

theorem publishPg_returns {sourceId : Text} {documents : List SourceDocument} {prepared : IngestionPipeline.Prepared}
    (registered : sourceId ∈ pipeline.registry) (done : pipeline.prepare sourceId documents = .ok prepared) (store : PgVectorStore) :
    (∃ report, (publishPg pipeline clock faults sourceId documents prepared store).2 = .ok report) ↔
      Publishable pipeline faults store sourceId documents := by
  obtain ⟨version,records⟩ := pipeline.prepare_amounts done
  have ids : prepared.chunks.map (·.chunkId) = (pipeline.records documents).map (·.chunkId) := by
    rw [← records,List.map_map]
    rfl
  have key : (pipeline.versionRow sourceId prepared).key = (sourceId,pipeline.versionOf sourceId documents) := by rw [← version]; rfl
  constructor
  · rintro ⟨report,returned⟩
    unfold publishPg at returned
    cases recorded : attempt (faults sourceId .recordVersion) (store.recordVersion (pipeline.versionRow sourceId prepared)) with
    | error e => simp [recorded] at returned
    | ok next =>
      simp only [recorded] at returned
      cases added : attempt (faults sourceId .addChunks) (next.addChunks (clock sourceId) prepared.chunks prepared.version) with
      | error e => simp [added] at returned
      | ok built =>
        simp only [added] at returned
        obtain ⟨recordFault,recording⟩ := attempt_ok.mp recorded
        obtain ⟨addFault,adding⟩ := attempt_ok.mp added
        obtain ⟨chunks,_,fresh⟩ := recordVersion_ok recording
        have accepted := (addChunks_accepts next (clock sourceId) prepared.chunks prepared.version).mp ⟨built,adding⟩
        rw [ids,version,chunks] at accepted
        cases fault : faults sourceId .activateVersion with
        | some e => simp [fault] at returned
        | none =>
          exact ⟨pipeline.prepare_returns.mp ⟨registered,prepared,done⟩,fun row member => key ▸ fresh row member,accepted.1,accepted.2,
            recordFault,addFault,fault⟩
  · rintro ⟨_,newVersion,distinct,newChunks,recordFault,addFault,activateFault⟩
    obtain ⟨next,recorded⟩ := (recordVersion_returns store (pipeline.versionRow sourceId prepared)).mpr (key ▸ newVersion)
    obtain ⟨chunks,_,_⟩ := recordVersion_ok recorded
    obtain ⟨built,added⟩ := (addChunks_accepts next (clock sourceId) prepared.chunks prepared.version).mpr
      ⟨ids ▸ distinct,by rw [ids,version,chunks]; exact newChunks⟩
    unfold publishPg
    rw [attempt_ok.mpr ⟨recordFault,recorded⟩]
    dsimp only
    rw [attempt_ok.mpr ⟨addFault,added⟩,activateFault]
    exact ⟨_,rfl⟩

/-- PostgreSQL answers for a source: of one that is not fetched the active version can be
    read, and any other brings a snapshot that is taken. -/
structure Answers (pipeline : IngestionPipeline) (fetch : Text → Except Text (List SourceDocument))
    (faults : Text → Statement → Option IngestError) (store : PgVectorStore) (sourceId : Text) : Prop where
  readable : ∀ message, fetch sourceId = .error message →
    faults sourceId .activeVersion = none ∧ ∃ active, store.activeVersion sourceId = .ok active
  publishable : ∀ documents, fetch sourceId = .ok documents → Publishable pipeline faults store sourceId documents

theorem ingestPgFaulty_returns {sourceId : Text} (registered : sourceId ∈ pipeline.registry) (store : PgVectorStore) :
    (∃ report, (ingestPgFaulty pipeline clock fetch faults sourceId store).2 = .ok report) ↔
      Answers pipeline fetch faults store sourceId := by
  unfold ingestPgFaulty
  rw [if_neg (not_not.mpr registered)]
  cases fetched : fetch sourceId with
  | error message =>
    have read : (∃ report, (unfetchedPg faults sourceId message store).2 = .ok report) ↔
        faults sourceId .activeVersion = none ∧ ∃ active, store.activeVersion sourceId = .ok active := by
      unfold unfetchedPg
      cases active : attempt (faults sourceId .activeVersion) (store.activeVersion sourceId) with
      | ok version =>
        obtain ⟨faultless,found⟩ := attempt_ok.mp active
        exact iff_of_true ⟨_,rfl⟩ ⟨faultless,version,found⟩
      | error e =>
        refine iff_of_false (by rintro ⟨_,⟨⟩⟩) ?_
        rintro ⟨faultless,version,found⟩
        rw [attempt_ok.mpr ⟨faultless,found⟩] at active
        cases active
    refine read.trans ⟨fun readable => ⟨fun _ _ => readable,fun documents same => ?_⟩,fun answers => answers.readable message fetched⟩
    rw [fetched] at same
    cases same
  | ok documents =>
    have published : (∃ report, (ingestPgFaulty pipeline clock fetch faults sourceId store).2 = .ok report) ↔
        Publishable pipeline faults store sourceId documents := by
      unfold ingestPgFaulty
      rw [if_neg (not_not.mpr registered),fetched]
      dsimp only
      cases done : pipeline.prepare sourceId documents with
      | error e =>
        refine iff_of_false (by rintro ⟨_,⟨⟩⟩) fun takes => ?_
        obtain ⟨_,prepared,prepares⟩ := pipeline.prepare_returns.mpr takes.ingestible
        cases done.symm.trans prepares
      | ok prepared => exact publishPg_returns clock faults registered done store
    unfold ingestPgFaulty at published
    rw [if_neg (not_not.mpr registered),fetched] at published
    refine published.trans ⟨fun takes => ⟨fun message same => ?_,fun others same => ?_⟩,fun answers => answers.publishable documents fetched⟩
    · rw [fetched] at same
      cases same
    · rw [fetched] at same
      cases same
      exact takes

/-- A refresh reports every source and keeps the failure of one from the others just when
    no source raises once it is fetched, in memory and in PostgreSQL. -/
theorem refresh_isolated (digits : ∀ text, 16 ≤ (pipeline.sha256 text).length) (distinct : pipeline.registry.Nodup) :
    (∀ store : InMemoryVectorStore,
      (∃ final reports, refreshAllInMemory pipeline fetch store = (final,.ok reports) ∧
        Isolated (fun sourceId => pipeline.ingestInMemory sourceId (fetch sourceId)) InMemoryVectorStore.activeVersion SameInMemory
          pipeline.registry store final reports) ↔
        ∀ sourceId ∈ pipeline.registry, ∀ documents, fetch sourceId = .ok documents → pipeline.Ingestible sourceId documents) ∧
    ∀ store : PgVectorStore,
      (∃ final reports, refreshAllPg pipeline clock fetch faults store = (final,.ok reports) ∧
        Isolated (ingestPgFaulty pipeline clock fetch faults) PgVectorStore.activeVersion SamePg pipeline.registry store final reports) ↔
        ∀ sourceId ∈ pipeline.registry, Answers pipeline fetch faults store sourceId := by
  refine ⟨refreshInMemory_isolated pipeline fetch distinct,fun store => ?_⟩
  rw [refreshAllPg,isolated_iff (independent_pg clock fetch faults digits) (reporting_pg clock fetch faults digits) distinct]
  exact forall_congr' fun sourceId => imp_congr_right fun registered => ingestPgFaulty_returns clock fetch faults registered store

end

/-- Two sources; the digest is the one of the empty snapshot. -/
def twoSources : IngestionPipeline where
  registry := [lit "nvd",lit "internal_runbooks"]
  model := lit "m"
  dimensions := 1
  embed _ := .ok [1]
  passages document := [(document.content,none)]
  sha256 _ := lit "62c66a7a5dd70c3146618063c344e531e6d4b59e379808443ce962b3abd63c5a"

/-- The feed is unreachable, and the runbooks are empty. -/
def feedDown (sourceId : Text) : Except Text (List SourceDocument) := if sourceId = lit "nvd" then .error (lit "timeout") else .ok []

/-- A refresh past an unreachable feed keeps its promise. -/
theorem refresh_isolated_feedDown : ∃ final reports, @refreshAllInMemory ascii twoSources feedDown .empty = (final,.ok reports) ∧
    Isolated (fun sourceId => @IngestionPipeline.ingestInMemory ascii twoSources sourceId (feedDown sourceId))
      InMemoryVectorStore.activeVersion SameInMemory twoSources.registry .empty final reports := by
  have digits : 16 ≤ (lit "62c66a7a5dd70c3146618063c344e531e6d4b59e379808443ce962b3abd63c5a").length := by decide
  refine ((@refresh_isolated ascii twoSources (fun _ => 0) feedDown (fun _ _ => none) (fun _ => digits) (by decide)).1 .empty).mpr ?_
  intro sourceId registered documents fetched
  unfold feedDown at fetched
  split_ifs at fetched
  cases fetched
  exact ⟨registered,by simp,by decide,by simp [IngestionPipeline.records,IngestionPipeline.unique,IngestionPipeline.uniqueFrom]⟩

/-- The feed hands out a document of another source. -/
def feedConfused (sourceId : Text) : Except Text (List SourceDocument) :=
  if sourceId = lit "nvd" then .ok [{
    documentId := lit "rb-1"
    title := lit "Containment"
    content := lit "Isolate the host."
    metadata := { sourceKind := .INTERNAL_RUNBOOK,sourceId := lit "internal_runbooks",sourceName := lit "Runbooks",trustTier := .INTERNAL } }]
  else .ok []

/-- The document of one source ends the refresh of all. -/
theorem confused_feed_ends_refresh :
    ¬ ∃ final reports, @refreshAllInMemory ascii twoSources feedConfused .empty = (final,.ok reports) ∧
      Isolated (fun sourceId => @IngestionPipeline.ingestInMemory ascii twoSources sourceId (feedConfused sourceId))
        InMemoryVectorStore.activeVersion SameInMemory twoSources.registry .empty final reports := by
  rintro ⟨final,reports,ran,_⟩
  have raised : ∃ e, (@refreshAllInMemory ascii twoSources feedConfused .empty).2 = .error e := ⟨_,rfl⟩
  obtain ⟨e,raised⟩ := raised
  rw [ran] at raised
  cases raised

end SocAnalyst.Refreshes
