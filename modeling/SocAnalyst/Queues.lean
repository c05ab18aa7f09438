import SocAnalyst.Pages
import SocAnalyst.RecordedFindings

/-!
# The dashboard queue

`list_investigations` of `api/routes/investigations.py` and `services/investigations.py`, and
what the service writes to the rows it lists. An analyst reads the queue page by page while
cases are opened and runs proceed.
-/
namespace SocAnalyst.Queues
open SocAnalyst.Builtins SocAnalyst.Times SocAnalyst.Dicts SocAnalyst.Runs SocAnalyst.Risk SocAnalyst.RecordedPlans SocAnalyst.RecordedFindings
open SocAnalyst.Recommender SocAnalyst.Pages
open SocAnalyst.Graph (InvestigationStatus)

/-- What initiated an investigation. -/
inductive TriggerSource where
  | ANALYST
  | ALERT
  | SCHEDULED
  deriving DecidableEq, Repr

def TriggerSource.value : TriggerSource → Text
  | .ANALYST => lit "analyst"
  | .ALERT => lit "alert"
  | .SCHEDULED => lit "scheduled"

/-- A row of the `investigations` table. -/
structure InvestigationRow extends Investigation where
  triggerSource : TriggerSource
  ownerId : Option Text
  title : Option Text
  summary : Option Text := none
  createdAt : DateTime
  closedAt : Option DateTime := none
  deletedAt : Option DateTime := none

/-! ### What is written -/

/-- Open an investigation: the row that is inserted. -/
def createInvestigation (id : Text) (now : DateTime) (title : Option Text) (triggerSource : TriggerSource) (actorId : Option Text) :
    InvestigationRow where
  id
  status := .OPEN
  severity := none
  pipeline := Dict.empty
  updatedAt := now
  triggerSource
  ownerId := actorId
  title := some (match title with
    | none | some [] => replaceAll (lit "_") (lit " ") triggerSource.value ++ lit "-triggered case"
    | some title => title)
  createdAt := now

/-- What the service writes to a row. -/
inductive RowWrite where
  | markStatus (status : InvestigationStatus)
  | setHeadline (severity : Option Severity) (summary : Text)
  | recordStage (stage : Text) (entry : StageEntry)

/-- Whether a column changes; a stage entry carries the time it was made. -/
def RowWrite.Changes (row : InvestigationRow) : RowWrite → Prop
  | .markStatus status => status ≠ row.status ∨ status = .CLOSED ∧ row.closedAt.isNone
  | .setHeadline severity summary => severity.or row.severity ≠ row.severity ∨ summary ≠ [] ∧ some summary ≠ row.summary
  | .recordStage _ _ => True

instance (row : InvestigationRow) : DecidablePred (RowWrite.Changes row)
  | .markStatus _ => inferInstanceAs (Decidable (_ ∨ _))
  | .setHeadline _ _ => inferInstanceAs (Decidable (_ ∨ _))
  | .recordStage _ _ => inferInstanceAs (Decidable True)

/-- The columns that the service sets. -/
def RowWrite.columns (now : DateTime) (row : InvestigationRow) : RowWrite → InvestigationRow
  | .markStatus status =>
    { row with
      status
      closedAt := if status = .CLOSED ∧ row.closedAt.isNone then some now else row.closedAt }
  | .setHeadline severity summary =>
    { row with
      severity := severity.or row.severity
      summary := if summary = [] then row.summary else some summary }
  | .recordStage stage entry => { row with pipeline := row.pipeline.set stage entry }

/-- A row that changes is stamped. -/
def RowWrite.apply (now : DateTime) (row : InvestigationRow) (write : RowWrite) : InvestigationRow :=
  { write.columns now row with updatedAt := if write.Changes row then now else row.updatedAt }

/-- One transaction on the table. -/
inductive Writes (rows : List InvestigationRow) : List InvestigationRow → Prop where
  | create {id : Text} (new : ∀ row ∈ rows, row.id ≠ id) (now : DateTime) (title : Option Text) (triggerSource : TriggerSource)
    (actorId : Option Text) : Writes rows (rows ++ [createInvestigation id now title triggerSource actorId])
  | update (id : Text) (now : DateTime) (write : RowWrite) :
    Writes rows (rows.map fun row => if row.id = id then write.apply now row else row)

/-! ### What is listed -/

/-- The filters of the queue; `mine` gives the owner. -/
structure QueueFilter where
  status : Option InvestigationStatus := none
  severity : Option Severity := none
  ownerId : Option Text := none

def QueueFilter.wanted (filter : QueueFilter) (row : InvestigationRow) : Bool :=
  row.deletedAt.isNone && filter.status.all (row.status = ·) && filter.severity.all (row.severity = some ·) &&
    filter.ownerId.all (row.ownerId = some ·)

/-- What `ORDER BY created_at, id` compares. -/
def rowKey (row : InvestigationRow) : Int ×ₗ Text := toLex (row.createdAt.instant,row.id)

def queue (filter : QueueFilter) : Listing InvestigationRow (Int ×ₗ Text) where
  key := rowKey
  wanted := filter.wanted

/-- A row in the dashboard queue. -/
structure InvestigationSummary where
  id : Text
  title : Option Text
  status : InvestigationStatus
  severity : Option Severity
  triggerSource : TriggerSource
  verdict : Option Verdict
  triagePriority : Option TriagePriority
  confidence : Option ℚ
  pendingApprovals : Nat
  createdAt : DateTime
  updatedAt : DateTime
  closedAt : Option DateTime

structure InvestigationPage where
  items : List InvestigationSummary
  total : Nat
  limit : Nat
  offset : Nat

/-- Build one dashboard queue row. -/
def summaryOf (database : Database) (row : InvestigationRow) : InvestigationSummary :=
  let assessment := currentAssessment database row.id
  { id := row.id
    title := row.title
    status := row.status
    severity := row.severity
    triggerSource := row.triggerSource
    verdict := assessment.map (·.verdict)
    triagePriority := assessment.map (·.triagePriority)
    confidence := assessment.map (·.confidence)
    pendingApprovals := (pendingApproval database.recommendations row.id).length
    createdAt := row.createdAt
    updatedAt := row.updatedAt
    closedAt := row.closedAt }

structure PageSettings where
  investigationPageSize : Nat
  investigationPageSizeMax : Nat

/-- `min(limit or default, max)`. -/
def PageSettings.size (settings : PageSettings) (limit : Option Nat) : Nat :=
  min (match limit with
    | none | some 0 => settings.investigationPageSize
    | some limit => limit) settings.investigationPageSizeMax

/-- The answer with a page of rows; each summary is read in its own state of the database. -/
def investigationPage (seen : Text → Database) (limit offset : Nat) (page : Page InvestigationRow) : InvestigationPage where
  items := page.items.map fun row => summaryOf (seen row.id) row
  total := page.total
  limit
  offset

/-- A reader's answers. -/
def answers (seen : Nat → Text → Database) (size : Nat) (reading : Reading InvestigationRow) : List InvestigationPage :=
  reading.pages.mapIdx fun n page => investigationPage (seen n) size (n * size) page

/-- A write that moves no case out of the filter. -/
def Stays (filter : QueueFilter) (rows next : List InvestigationRow) : Prop :=
  ∀ row ∈ rows, filter.wanted row = true → ∃ row' ∈ next, rowKey row' = rowKey row ∧ filter.wanted row' = true

/-- Any writes; under a status or a severity those that move no case out of it. -/
def Moves (filter : QueueFilter) (rows next : List InvestigationRow) : Prop :=
  Writes rows next ∧ (filter.status = none ∧ filter.severity = none ∨ Stays filter rows next)

/-! ### Writes and the filter -/

variable {filter : QueueFilter} {rows next : List InvestigationRow}

@[simp] theorem rowKey_apply (now : DateTime) (row : InvestigationRow) (write : RowWrite) : rowKey (write.apply now row) = rowKey row := by
  cases write <;> rfl

@[simp] theorem id_apply (now : DateTime) (row : InvestigationRow) (write : RowWrite) : (write.apply now row).id = row.id := by
  cases write <;> rfl

@[simp] theorem deletedAt_apply (now : DateTime) (row : InvestigationRow) (write : RowWrite) :
    (write.apply now row).deletedAt = row.deletedAt := by
  cases write <;> rfl

@[simp] theorem ownerId_apply (now : DateTime) (row : InvestigationRow) (write : RowWrite) :
    (write.apply now row).ownerId = row.ownerId := by
  cases write <;> rfl

theorem wanted_apply (status : filter.status = none) (severity : filter.severity = none) (now : DateTime) (row : InvestigationRow)
    (write : RowWrite) : filter.wanted (write.apply now row) = filter.wanted row := by
  simp [QueueFilter.wanted,status,severity]

/-- Without a status and a severity no write moves a case out. -/
theorem stays_plain (status : filter.status = none) (severity : filter.severity = none) (written : Writes rows next) :
    Stays filter rows next := by
  intro row member wanted
  cases written with
  | create => exact ⟨row,List.mem_append_left _ member,rfl,wanted⟩
  | update id now write =>
    refine ⟨_,List.mem_map_of_mem member,?_,?_⟩
    · split_ifs
      · rw [rowKey_apply]
      · rfl
    · split_ifs
      · rw [wanted_apply status severity,wanted]
      · exact wanted

theorem moves_stays (moved : Moves filter rows next) : Stays filter rows next :=
  moved.2.elim (fun plain => stays_plain plain.1 plain.2 moved.1) id

theorem keys_written (written : Writes rows next) (once : (rows.map rowKey).Nodup) : (next.map rowKey).Nodup := by
  cases written with
  | create new now title triggerSource actorId =>
    rw [List.map_append,List.map_singleton]
    refine List.nodup_append.mpr ⟨once,List.nodup_singleton _,?_⟩
    rintro key member _ single rfl
    obtain ⟨row,listed,same⟩ := List.mem_map.mp member
    have equal : rowKey row = rowKey _ := same.trans (List.mem_singleton.mp single)
    exact new row listed (congrArg (fun key => (ofLex key).2) equal)
  | update id now write =>
    have same : (rows.map fun row => if row.id = id then write.apply now row else row).map rowKey = rows.map rowKey := by
      rw [List.map_map]
      refine List.map_congr_left fun row _ => ?_
      show rowKey (if row.id = id then write.apply now row else row) = rowKey row
      split_ifs
      · rw [rowKey_apply]
      · rfl
    rw [same]
    exact once

/-- No write removes a case or gives it to another owner. -/
theorem owners_written (written : Writes rows next) :
    rows.map (fun row => (row.id,row.ownerId)) ⊆ next.map fun row => (row.id,row.ownerId) := by
  cases written with
  | create => exact List.map_subset _ (List.subset_append_left ..)
  | update id now write =>
    have same : (rows.map fun row => if row.id = id then write.apply now row else row).map (fun row => (row.id,row.ownerId)) =
        rows.map fun row => (row.id,row.ownerId) := by
      rw [List.map_map]
      refine List.map_congr_left fun row _ => ?_
      by_cases here : row.id = id <;> simp [here]
    rw [same]
    exact List.Subset.refl _

theorem moves_lasting (filter : QueueFilter) : Lasting (queue filter) (Moves filter) where
  distinct _ _ moved once := keys_written moved.1 once
  lasts rows next moved key listed := by
    obtain ⟨row,member,wanted,rfl⟩ := mem_keys.mp listed
    obtain ⟨row',there,same,wanted'⟩ := moves_stays moved row member wanted
    exact mem_keys.mpr ⟨row',there,wanted',same⟩

/-! ### Reading the queue -/

/-- What a reader of the queue is answered. -/
structure Walked (filter : QueueFilter) (start last : List InvestigationRow) (responses : List InvestigationPage) : Prop where
  /-- By the time a page is not full, every case listed at the start was shown. -/
  complete : ∀ response ∈ responses, response.items.length < response.limit → ∀ row ∈ start, filter.wanted row = true →
    ∃ shown ∈ responses, ∃ item ∈ shown.items, item.id = row.id
  /-- Newest first, and none twice on a page. -/
  ordered : ∀ response ∈ responses, response.items.Pairwise fun newer older =>
    (toLex (older.createdAt.instant,older.id) : Int ×ₗ Text) < toLex (newer.createdAt.instant,newer.id)
  bounded : ∀ response ∈ responses, response.items.length ≤ response.limit
  filtered : ∀ response ∈ responses, ∀ item ∈ response.items, filter.status.all (item.status = ·) = true ∧
    filter.severity.all (item.severity = some ·) = true
  /-- What is shown is a case of the table, of the owner that was asked for. -/
  owned : ∀ response ∈ responses, ∀ item ∈ response.items, ∃ row ∈ last, row.id = item.id ∧
    filter.ownerId.all (row.ownerId = some ·) = true
  /-- No case of the start is missing in a total. -/
  counted : ∀ response ∈ responses, start.countP filter.wanted ≤ response.total

variable {start after : Reading InvestigationRow} {seen : Nat → Text → Database} {size : Nat} {actions : List Action}

theorem mem_answers {response : InvestigationPage} : response ∈ answers seen size after ↔
    ∃ n, ∃ short : n < after.pages.length, investigationPage (seen n) size (n * size) after.pages[n] = response := by
  rw [answers,List.mem_mapIdx]

theorem covers_walked (covers : Covers (queue filter) size start after)
    (owners : ∀ page ∈ after.pages, page.items.map (fun row => (row.id,row.ownerId)) ⊆ after.rows.map fun row => (row.id,row.ownerId)) :
    Walked filter start.rows after.rows (answers seen size after) := by
  have paged : ∀ response ∈ answers seen size after, ∃ n, ∃ page ∈ after.pages, investigationPage (seen n) size (n * size) page = response := by
    intro response member
    obtain ⟨n,short,rfl⟩ := mem_answers.mp member
    exact ⟨n,_,List.getElem_mem short,rfl⟩
  refine ⟨fun response member few row listed wanted => ?_,fun response member => ?_,fun response member => ?_,
    fun response member item shown => ?_,fun response member item shown => ?_,fun response member => ?_⟩
  · obtain ⟨n,page,got,rfl⟩ := paged response member
    rw [investigationPage,List.length_map] at few
    have seen' := covers.short page got few (rowKey row) (mem_keys.mpr ⟨row,listed,wanted,rfl⟩)
    obtain ⟨page',got',key⟩ := List.mem_flatMap.mp seen'
    obtain ⟨row',on,same⟩ := List.mem_map.mp key
    obtain ⟨k,short,rfl⟩ := List.getElem_of_mem got'
    refine ⟨_,mem_answers.mpr ⟨k,short,rfl⟩,_,List.mem_map_of_mem on,?_⟩
    exact congrArg (fun key => (ofLex key).2) same
  · obtain ⟨n,page,got,rfl⟩ := paged response member
    have sorted := (covers.pages page got).1
    rw [List.pairwise_map] at sorted
    exact List.pairwise_map.mpr sorted
  · obtain ⟨n,page,got,rfl⟩ := paged response member
    rw [investigationPage,List.length_map]
    exact (covers.pages page got).2.1
  · obtain ⟨n,page,got,rfl⟩ := paged response member
    obtain ⟨row,on,rfl⟩ := List.mem_map.mp shown
    have wanted := (covers.pages page got).2.2.1 row on
    simp only [queue,QueueFilter.wanted,Bool.and_eq_true] at wanted
    exact ⟨wanted.1.1.2,wanted.1.2⟩
  · obtain ⟨n,page,got,rfl⟩ := paged response member
    obtain ⟨row,on,rfl⟩ := List.mem_map.mp shown
    have wanted := (covers.pages page got).2.2.1 row on
    simp only [queue,QueueFilter.wanted,Bool.and_eq_true] at wanted
    obtain ⟨row',there,same⟩ := List.mem_map.mp (owners page got (List.mem_map_of_mem on))
    obtain ⟨id,owner⟩ := Prod.mk.inj same
    exact ⟨row',there,id,owner ▸ wanted.2⟩
  · obtain ⟨n,page,got,rfl⟩ := paged response member
    have total := (covers.pages page got).2.2.2
    rw [length_keys,Listing.listed,← List.countP_eq_length_filter] at total
    exact total

theorem ids_answers : ((answers seen size after).flatMap fun response => response.items.map (·.id)) =
    (after.pages.flatMap (·.items)).map fun row => row.id := by
  have each : ((answers seen size after).map fun response => response.items.map (·.id)) =
      after.pages.map fun page => page.items.map fun row => row.id := by
    refine List.ext_getElem (by simp [answers]) fun n short short' => ?_
    simp [answers,investigationPage,summaryOf]
  rw [List.flatMap_def,each,List.map_flatMap,List.flatMap_def]

/-- What a reader is answered while nobody writes: the cases in order, and their number. -/
structure Undisturbed (filter : QueueFilter) (start : List InvestigationRow) (size : Nat) (responses : List InvestigationPage) : Prop where
  ids : (responses.flatMap fun response => response.items.map (·.id)) =
    (((queue filter).newestFirst start).take (responses.length * size)).map fun row => row.id
  totals : ∀ response ∈ responses, response.total = start.countP filter.wanted

theorem reads_undisturbed (reads : Reads (queue filter) size start after) : Undisturbed filter start.rows size (answers seen size after) := by
  refine ⟨?_,fun response member => ?_⟩
  · rw [ids_answers,reads.items,answers,List.length_mapIdx]
  · obtain ⟨n,short,rfl⟩ := mem_answers.mp member
    rw [List.countP_eq_length_filter]
    exact reads.totals _ (List.getElem_mem short)

/-- However cases are opened and their runs proceed while the queue is read. -/
theorem queue_walked (settings : PageSettings) (limit : Option Nat) (seen : Nat → Text → Database)
    (primary : (start.rows.map fun row => row.id).Nodup) (fresh : start.pages = []) (idle : start.counted = none)
    (run : Run (Step (queue filter) (settings.size limit) (Moves filter)) start actions after) :
    Walked filter start.rows after.rows (answers seen (settings.size limit) after) ∧
      (.write ∉ actions → Undisturbed filter start.rows (settings.size limit) (answers seen (settings.size limit) after)) := by
  have distinct : (start.rows.map rowKey).Nodup := by
    refine List.Nodup.of_map (fun key => (ofLex key).2) ?_
    rw [List.map_map]
    exact primary
  have owners := shown_last (fun _ _ moved => owners_written moved.1) fresh run
  refine ⟨covers_walked (covers_run (moves_lasting filter) distinct fresh idle run) owners,fun quiet => ?_⟩
  exact reads_undisturbed (reads_run fresh idle (run_unwritten run quiet))

/-! ### A case opened between two pages -/

private theorem noon_in_range : (0 : Int) ≤ 43200000000 ∧ (43200000000 : Int) < maxDays * dayMicros := by decide

/-- The same noon for every case. -/
def noon : DateTime := ⟨43200000000,some 0,noon_in_range⟩

def openCase (id : Text) : InvestigationRow := createInvestigation id noon none .ANALYST none

/-- The newer case pushes the last one of the first page onto the second. -/
theorem pushed_case_walked :
    let settings : PageSettings := ⟨2,2⟩
    ∃ after, Run (Step (queue {}) (settings.size none) (Moves {})) ⟨[openCase (lit "a"),openCase (lit "b")],none,[]⟩
        [.count,.list,.write,.count,.list] after ∧
      (answers (fun _ _ => {}) 2 after).map (·.items.map (·.id)) = [[lit "b",lit "a"],[lit "a"]] ∧
      Walked {} [openCase (lit "a"),openCase (lit "b")] after.rows (answers (fun _ _ => {}) 2 after) := by
  intro settings
  have opened : Moves {} [openCase (lit "a"),openCase (lit "b")] [openCase (lit "a"),openCase (lit "b"),openCase (lit "c")] :=
    ⟨.create (by decide) noon none .ANALYST none,.inl ⟨rfl,rfl⟩⟩
  have run : Run (Step (queue {}) (settings.size none) (Moves {})) ⟨[openCase (lit "a"),openCase (lit "b")],none,[]⟩
      [.count,.list,.write,.count,.list] _ :=
    .go (.count rfl) (.go (.list rfl) (.go (.write opened) (.go (.count rfl) (.go (.list rfl) (.stop _)))))
  exact ⟨_,run,by decide,(queue_walked settings none (fun _ _ => {}) (by decide) rfl rfl run).1⟩

end SocAnalyst.Queues
