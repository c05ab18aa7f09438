import SocAnalyst.GraphNodes
import SocAnalyst.Ingestion
import SocAnalyst.Values

/-!
# Directories of documents

`FilesystemFetcher` of `rag/sources.py`: the documents of a source are the JSON files of its
directory. What a file makes of the whole source, up to the index it is ingested into.
-/
namespace SocAnalyst.SourceDirectories
open SocAnalyst.Builtins SocAnalyst.Times SocAnalyst.Values SocAnalyst.Dicts SocAnalyst.Assessments SocAnalyst.Knowledge SocAnalyst.VectorStores
open SocAnalyst.Ingestion
open SocAnalyst.Graph (getFrom)

/-- An allow-listed knowledge source. -/
structure SourceDefinition where
  sourceId : Text
  name : Text
  kind : KnowledgeSourceKind
  trustTier : SourceTrustTier

/-- What reading a file gives; text that is no UTF-8 is not an `OSError`. -/
inductive FileContent where
  | unreadable
  | undecodable
  | text (content : Text)

/-- A file that `*.json` matches. -/
structure JsonFile where
  name : Text
  content : FileContent

/-- The readers of a payload. -/
structure Readers where
  /-- `json.loads`, or nothing where it raises `JSONDecodeError`. -/
  loads : Text → Except PyError (Option Value)
  /-- What the contract makes of an optional date. -/
  date : Value → Except PyError (Option DateTime)

/-- `Path.stem`. -/
def JsonFile.stem (file : JsonFile) : Text := if file.name = lit ".json" then file.name else file.name.dropLast.dropLast.dropLast.dropLast.dropLast

section
variable [Printer] (readers : Readers) (definition : SourceDefinition)

/-- `str(value) if value is not None else None`. -/
def optionalStr : Value → Option Text
  | .null => none
  | value => some value.toText

/-- `[str(item) for item in payload.get("products") or []]`. -/
def productsOf (value : Value) : Except PyError (List Text) :=
  if value.truthy = false then .ok []
  else match value with
    | .list items => .ok (items.map Value.toText)
    | .str text => .ok (text.map fun c => [c])
    | .dict entries => .ok (entries.map Prod.fst)
    | _ => .error .TypeError

/-- `payload.get(key) or fallback`, as a text. -/
def textOr (entries : List (Text × Value)) (key fallback : Text) : Text :=
  match lookup entries key with
  | some value => if value.truthy then value.toText else fallback
  | none => fallback

/-- `payload.get(key)`. -/
def field (entries : List (Text × Value)) (key : String) : Value := (lookup entries (lit key)).getD .null

/-- The metadata a payload gives. -/
def metadataOf (entries : List (Text × Value)) : Except PyError ChunkMetadata := do
  let products ← productsOf (field entries "products")
  let publishedAt ← readers.date (field entries "published_at")
  let updatedAt ← readers.date (field entries "updated_at")
  return {
    sourceKind := definition.kind
    sourceId := definition.sourceId
    sourceName := definition.name
    trustTier := definition.trustTier
    sourceVersion := optionalStr (field entries "source_version")
    publishedAt, updatedAt
    cveId := optionalStr (field entries "cve_id")
    cweId := optionalStr (field entries "cwe_id")
    techniqueId := optionalStr (field entries "technique_id")
    products
    url := optionalStr (field entries "url") }

/-- `_build`: the document of a payload, or nothing without a content. -/
def build (fallbackId : Text) (payload : Value) : Except PyError (Option SourceDocument) :=
  match payload with
  | .dict entries =>
    let content := strip ((lookup entries (lit "content")).getD (.str [])).toText
    if content = [] then .ok none
    else (metadataOf readers definition entries).map fun metadata => some {
      documentId := textOr entries (lit "document_id") fallbackId
      title := textOr entries (lit "title") fallbackId
      content, metadata }
  | _ => .error .AttributeError

/-- One file of the loop; a file that cannot be read, or is no JSON, is skipped. -/
def readFile (file : JsonFile) : Except PyError (Option SourceDocument) :=
  match file.content with
  | .unreadable => .ok none
  | .undecodable => .error .ValueError
  | .text content =>
    match readers.loads content with
    | .error e => .error e
    | .ok none => .ok none
    | .ok (some payload) => build readers definition file.stem payload

/-- The documents of a source's directory, by the names of the files; none without a directory. -/
def fetch (directory : Option (List JsonFile)) : Except PyError (List SourceDocument) :=
  match directory with
  | none => .ok []
  | some files => (mapRaising (readFile readers definition) (sortedBy JsonFile.name files)).map (·.filterMap id)

/-! ### Files that end the source -/

/-- A value the comprehension can go through. -/
def Iterable (value : Value) : Prop :=
  value.truthy = false ∨ (∃ items, value = .list items) ∨ (∃ text, value = .str text) ∨ ∃ entries, value = .dict entries

/-- An object whose content is blank, or whose products and dates can be read. -/
def Buildable (payload : Value) : Prop :=
  ∃ entries, payload = .dict entries ∧ (strip ((lookup entries (lit "content")).getD (.str [])).toText = [] ∨
    Iterable (field entries "products") ∧
    (∃ date, readers.date (field entries "published_at") = .ok date) ∧
    ∃ date, readers.date (field entries "updated_at") = .ok date)

/-- What the loop does not skip and cannot use: bytes that are no UTF-8, a text whose reading raises
    another error, and a payload no document can be built of. -/
def Breaks (file : JsonFile) : Prop :=
  file.content = .undecodable ∨ ∃ content, file.content = .text content ∧
    ((∃ e, readers.loads content = .error e) ∨ ∃ payload, readers.loads content = .ok (some payload) ∧ ¬ Buildable readers payload)

variable {readers definition}

theorem productsOf_returns {value : Value} : (∃ products, productsOf value = .ok products) ↔ Iterable value := by
  unfold productsOf Iterable
  split_ifs with falsy
  · simp [falsy]
  · cases value <;> simp [falsy]

theorem metadataOf_returns {entries : List (Text × Value)} : (∃ metadata, metadataOf readers definition entries = .ok metadata) ↔
    Iterable (field entries "products") ∧
    (∃ date, readers.date (field entries "published_at") = .ok date) ∧
    ∃ date, readers.date (field entries "updated_at") = .ok date := by
  rw [← productsOf_returns]
  unfold metadataOf
  cases productsOf (field entries "products") with
  | error e => simp [bind,Except.bind]
  | ok products =>
    cases readers.date (field entries "published_at") with
    | error e => simp [bind,Except.bind]
    | ok publishedAt =>
      cases readers.date (field entries "updated_at") with
      | error e => simp [bind,Except.bind]
      | ok updatedAt => simp [bind,Except.bind,pure,Except.pure]

theorem build_returns {fallbackId : Text} {payload : Value} :
    (∃ document, build readers definition fallbackId payload = .ok document) ↔ Buildable readers payload := by
  cases payload with
  | dict entries =>
    simp only [build,Buildable,Value.dict.injEq,exists_eq_left']
    split_ifs with blank
    · simp [blank]
    · rw [← @metadataOf_returns _ readers definition]
      simp only [blank,false_or]
      cases metadataOf readers definition entries with
      | error e => simp [Except.map]
      | ok metadata => simp [Except.map]
  | _ => simp [build,Buildable]

theorem readFile_returns {file : JsonFile} : (∃ document, readFile readers definition file = .ok document) ↔ ¬ Breaks readers file := by
  unfold readFile Breaks
  cases shape : file.content with
  | unreadable => simp
  | undecodable => simp
  | text content =>
    cases loaded : readers.loads content with
    | error e => simp [loaded]
    | ok payload =>
      cases payload with
      | none => simp [loaded]
      | some payload => simp [loaded,build_returns]

/-- A directory is read exactly when none of its files breaks it. -/
theorem fetch_returns {files : List JsonFile} :
    (∃ documents, fetch readers definition (some files) = .ok documents) ↔ ∀ file ∈ files, ¬ Breaks readers file := by
  have each := @mapRaising_returns _ _ _ (readFile readers definition) (sortedBy JsonFile.name files)
  simp only [readFile_returns,mem_sortedBy] at each
  rw [← each,fetch]
  cases mapRaising (readFile readers definition) (sortedBy JsonFile.name files) with
  | error e => simp [Except.map]
  | ok found => simp [Except.map]

/-! ### What is ingested -/

/-- A document of the source, with a content. -/
structure Own (definition : SourceDefinition) (document : SourceDocument) : Prop where
  sourceId : document.metadata.sourceId = definition.sourceId
  sourceKind : document.metadata.sourceKind = definition.kind
  trustTier : document.metadata.trustTier = definition.trustTier
  content : document.content ≠ []

theorem metadataOf_own {entries : List (Text × Value)} {metadata : ChunkMetadata} (made : metadataOf readers definition entries = .ok metadata) :
    metadata.sourceId = definition.sourceId ∧ metadata.sourceKind = definition.kind ∧ metadata.trustTier = definition.trustTier := by
  unfold metadataOf at made
  cases products : productsOf (field entries "products") with
  | error e => simp [products,bind,Except.bind] at made
  | ok products =>
    cases published : readers.date (field entries "published_at") with
    | error e => simp [*,bind,Except.bind] at made
    | ok publishedAt =>
      cases updated : readers.date (field entries "updated_at") with
      | error e => simp [*,bind,Except.bind] at made
      | ok updatedAt =>
        simp only [*,bind,Except.bind,pure,Except.pure,Except.ok.injEq] at made
        subst made
        exact ⟨rfl,rfl,rfl⟩

theorem build_own {fallbackId : Text} {payload : Value} {document : SourceDocument}
    (built : build readers definition fallbackId payload = .ok (some document)) : Own definition document := by
  unfold build at built
  split at built
  · dsimp only at built
    split_ifs at built with blank
    · cases built
    · obtain ⟨metadata,made,same⟩ := map_ok.mp built
      cases same
      obtain ⟨sourceId,kind,tier⟩ := metadataOf_own made
      exact ⟨sourceId,kind,tier,blank⟩
  · cases built

theorem readFile_own {file : JsonFile} {document : SourceDocument} (read : readFile readers definition file = .ok (some document)) :
    Own definition document := by
  unfold readFile at read
  split at read
  · cases read
  · cases read
  · split at read
    · cases read
    · cases read
    · exact build_own read

/-- The documents of a directory that is read are those of its files. -/
theorem mem_fetch {files : List JsonFile} {documents : List SourceDocument} (ran : fetch readers definition (some files) = .ok documents)
    {document : SourceDocument} : document ∈ documents ↔ ∃ file ∈ files, readFile readers definition file = .ok (some document) := by
  unfold fetch at ran
  obtain ⟨found,read,rfl⟩ := map_ok.mp ran
  rw [List.mem_filterMap]
  simp only [id,exists_eq_right,mapRaising_mem read,mem_sortedBy]

variable (pipeline : IngestionPipeline)

/-- Deduplication refuses no document of its own source. -/
theorem deduplicateFrom_own {sourceId : Text} {documents : List SourceDocument} (own : ∀ document ∈ documents, document.metadata.sourceId = sourceId)
    {seen : List Text} {e : IngestError} (refused : pipeline.deduplicateFrom sourceId documents seen = .error e) :
    e = .raised .UnicodeEncodeError := by
  induction documents generalizing seen with
  | nil => cases refused
  | cons document rest ih =>
    have first := own document List.mem_cons_self
    have later : ∀ other ∈ rest, other.metadata.sourceId = sourceId := fun other member => own other (List.mem_cons_of_mem _ member)
    unfold IngestionPipeline.deduplicateFrom at refused
    split_ifs at refused with foreign encodable
    · exact absurd first foreign
    · dsimp only at refused
      split_ifs at refused
      · cases outcome : pipeline.deduplicateFrom sourceId rest seen with
        | ok found => rw [outcome] at refused; cases refused
        | error e' => rw [outcome] at refused; cases refused; exact ih later outcome
      · cases outcome : pipeline.deduplicateFrom sourceId rest (pipeline.sha256 (cleanText document.content) :: seen) with
        | ok found => rw [outcome] at refused; cases refused
        | error e' => rw [outcome] at refused; cases refused; exact ih later outcome
    · cases refused
      rfl

/-- Documents of their own source are refused by no more than an encoding or an embedding. -/
theorem prepare_raises {sourceId : Text} {documents : List SourceDocument} (own : ∀ document ∈ documents, document.metadata.sourceId = sourceId)
    {e : IngestError} (refused : pipeline.prepare sourceId documents = .error e) : ∃ error, e = .raised error := by
  unfold IngestionPipeline.prepare at refused
  split at refused
  · next outcome =>
    cases refused
    exact ⟨_,deduplicateFrom_own pipeline own outcome⟩
  · split at refused
    · cases refused
      exact ⟨_,rfl⟩
    · split at refused
      · cases refused
        exact ⟨_,rfl⟩
      · cases refused

/-- What ingesting a directory comes to. A broken file leaves the index as it was; otherwise the
    documents of all files are ingested, none as foreign. -/
theorem directory_ingested (message : PyError → Text) (files : List JsonFile) (store : InMemoryVectorStore) :
    let ingested := pipeline.ingestInMemory definition.sourceId ((fetch readers definition (some files)).mapError message) store
    match ingested.2 with
    | .ok report =>
      if report.failed = true then
        (∃ file ∈ files, Breaks readers file) ∧ ingested.1 = store ∧ report.indexVersion = (store.activeVersion definition.sourceId).getD []
      else
        (∀ file ∈ files, ¬ Breaks readers file) ∧ ingested.1.activeVersion definition.sourceId = some report.indexVersion ∧
          ∃ documents prepared, pipeline.prepare definition.sourceId documents = .ok prepared ∧
            ingested.1.chunks = (store.addChunks prepared.chunks report.indexVersion).chunks ∧
            ∀ document, document ∈ documents ↔ ∃ file ∈ files, readFile readers definition file = .ok (some document)
    | .error e =>
      ingested.1 = store ∧ (definition.sourceId ∉ pipeline.registry ∨
        (∀ file ∈ files, ¬ Breaks readers file) ∧ ∃ error, e = .raised error) := by
  unfold IngestionPipeline.ingestInMemory
  by_cases registered : definition.sourceId ∈ pipeline.registry
  · simp only [not_not.mpr registered,if_false]
    cases ran : fetch readers definition (some files) with
    | error e =>
      have broken : ∃ file ∈ files, Breaks readers file := by
        by_contra fine
        push Not at fine
        obtain ⟨documents,read⟩ := fetch_returns.mpr fine
        rw [read] at ran
        cases ran
      exact ⟨broken,rfl,rfl⟩
    | ok documents =>
      have fine := fetch_returns.mp ⟨documents,ran⟩
      have own : ∀ document ∈ documents, document.metadata.sourceId = definition.sourceId := by
        intro document member
        obtain ⟨file,_,read⟩ := (mem_fetch ran).mp member
        exact (readFile_own read).sourceId
      cases done : pipeline.prepare definition.sourceId documents with
      | error e =>
        simp only [Except.mapError,done]
        exact ⟨trivial,.inr ⟨fine,prepare_raises pipeline own done⟩⟩
      | ok prepared =>
        simp only [Except.mapError,done]
        exact ⟨fine,Dict.get?_set_self _ _ _,documents,prepared,done,rfl,fun document => mem_fetch ran⟩
  · simp only [registered,not_false_eq_true,if_true]
    exact ⟨trivial,.inl trivial⟩

end
end SocAnalyst.SourceDirectories
