import Mathlib.Logic.Function.Basic
import SocAnalyst.Builtins
import SocAnalyst.Runs

/-!
# Sessions and refresh tokens

`backend/auth/sessions.py`: `start_session`, `rotate` and `revoke` as the store operations
in which concurrent calls interleave. Each operation is atomic, a loaded record is a copy,
and a stored row may lapse at any time.
-/
namespace SocAnalyst.AuthSessions
open SocAnalyst.Builtins SocAnalyst.Runs

/-- A server-side session. Times are instants. -/
structure SessionRecord where
  sessionId : Text
  userId : Text
  createdAt : Int
  expiresAt : Int

/-- A stored refresh token, by hash. -/
structure RefreshRecord where
  tokenHash : Text
  sessionId : Text
  userId : Text
  expiresAt : Int
  used : Bool := false

/-- The rows a `SessionStore` keeps of sessions and of refresh tokens. -/
structure SessionStore where
  sessions : Text → Option SessionRecord
  refreshes : Text → Option RefreshRecord

namespace SessionStore

def empty : SessionStore := ⟨fun _ => none,fun _ => none⟩

def saveSession (store : SessionStore) (record : SessionRecord) : SessionStore :=
  { store with sessions := Function.update store.sessions record.sessionId (some record) }

def loadSession (store : SessionStore) (sessionId : Text) : Option SessionRecord := store.sessions sessionId

def deleteSession (store : SessionStore) (sessionId : Text) : SessionStore :=
  { store with sessions := Function.update store.sessions sessionId none }

def saveRefresh (store : SessionStore) (record : RefreshRecord) : SessionStore :=
  { store with refreshes := Function.update store.refreshes record.tokenHash (some record) }

def loadRefresh (store : SessionStore) (tokenHash : Text) : Option RefreshRecord := store.refreshes tokenHash

def deleteRefreshesForSession (store : SessionStore) (sessionId : Text) : SessionStore :=
  { store with refreshes := fun tokenHash => (store.refreshes tokenHash).filter (·.sessionId ≠ sessionId) }

/-- A row whose time to live is over. -/
def lapseSession (store : SessionStore) (sessionId : Text) : SessionStore :=
  { store with sessions := Function.update store.sessions sessionId none }

def lapseRefresh (store : SessionStore) (tokenHash : Text) : SessionStore :=
  { store with refreshes := Function.update store.refreshes tokenHash none }

end SessionStore

/-- A call of `rotate`: its token, the time it read, and what had happened to the session
    and the token when it started. -/
structure Rotate where
  token : Text
  now : Int
  /-- The sessions whose deletion had been executed. -/
  deleted : List Text
  /-- Whether the token had been marked as used. -/
  replayed : Bool

/-- A `rotate` that returned, with the session and the new token. -/
structure Rotated extends Rotate where
  session : SessionRecord
  issued : Text

/-- Where a caller is between two store operations. -/
inductive Phase where
  | idle
  | opening (session : SessionRecord)
  | checking (call : Rotate) (record : RefreshRecord)
  | marking (call : Rotate) (record : RefreshRecord) (session : SessionRecord)
  | issuing (call : Rotate) (session : SessionRecord)
  | reusing (call : Rotate) (sessionId : Text)
  | purging (call : Option Rotate) (sessionId : Text)

/-- What has been executed so far. -/
structure History where
  /-- The sessions that were saved. -/
  opened : List SessionRecord
  /-- The tokens that were saved, each with its session. -/
  issued : List (Text × Text)
  /-- The sessions that were deleted. -/
  deleted : List Text
  /-- The hashes of the tokens that were marked as used. -/
  marked : List Text

structure World where
  store : SessionStore
  phases : Nat → Phase
  history : History
  returned : List Rotated
  refused : List Rotate

inductive Move where
  | start (caller : Nat) (sessionId userId : Text) (now : Int)
  | issue (caller : Nat) (token : Text)
  | rotate (caller : Nat) (token : Text) (now : Int)
  | check (caller : Nat)
  | mark (caller : Nat)
  | reuse (caller : Nat)
  | revoke (caller : Nat) (sessionId : Text)
  | purge (caller : Nat)
  | lapseSession (sessionId : Text)
  | lapseRefresh (tokenHash : Text)

namespace World

def fresh : World := ⟨.empty,fun _ => .idle,⟨[],[],[],[]⟩,[],[]⟩

def put (w : World) (caller : Nat) (phase : Phase) : World := { w with phases := Function.update w.phases caller phase }

/-- An exception leaves the call. -/
def refuse (w : World) (call : Rotate) : World := { w with refused := call :: w.refused }

def answer (w : World) (done : Rotated) : World := { w with returned := done :: w.returned }

/-- A new session is saved. -/
def opens (w : World) (session : SessionRecord) : World :=
  { w with
    store := w.store.saveSession session
    history := { w.history with opened := session :: w.history.opened } }

/-- A loaded record is saved as used. -/
def marks (w : World) (record : RefreshRecord) : World :=
  { w with
    store := w.store.saveRefresh { record with used := true }
    history := { w.history with marked := record.tokenHash :: w.history.marked } }

def deletes (w : World) (sessionId : Text) : World :=
  { w with
    store := w.store.deleteSession sessionId
    history := { w.history with deleted := sessionId :: w.history.deleted } }

/-- The tokens of a session are deleted, which ends a call that found its token used. -/
def purges (w : World) (call : Option Rotate) (sessionId : Text) : World :=
  { w with
    store := w.store.deleteRefreshesForSession sessionId
    refused := call.toList ++ w.refused }

end World

section
variable (hash : Text → Text) (refreshTtl : Int)

/-- A call of `rotate` as it starts. -/
def World.presenting (w : World) (token : Text) (now : Int) : Rotate :=
  ⟨token,now,w.history.deleted,decide (hash token ∈ w.history.marked)⟩

/-- `_issue_refresh`. -/
def World.issues (w : World) (session : SessionRecord) (token : Text) : World :=
  { w with
    store := w.store.saveRefresh ⟨hash token,session.sessionId,session.userId,session.expiresAt,false⟩
    history := { w.history with issued := (token,session.sessionId) :: w.history.issued } }

/-- One store operation of a caller. New ids and tokens are ones that nobody named before,
    and their hashes do not collide. -/
inductive Step : World → Move → World → Prop where
  | start {w : World} {caller : Nat} (free : w.phases caller = .idle) (sessionId userId : Text) (now : Int)
      (new : ∀ session ∈ w.history.opened, session.sessionId ≠ sessionId) (unnamed : sessionId ∉ w.history.deleted) :
      Step w (.start caller sessionId userId now) ((w.opens ⟨sessionId,userId,now,now + refreshTtl⟩).put caller (.opening ⟨sessionId,userId,now,now + refreshTtl⟩))
  | first {w : World} {caller : Nat} {session : SessionRecord} (here : w.phases caller = .opening session) (token : Text)
      (new : ∀ pair ∈ w.history.issued, hash pair.1 ≠ hash token) :
      Step w (.issue caller token) ((w.issues hash session token).put caller .idle)
  | invalid {w : World} {caller : Nat} (free : w.phases caller = .idle) (token : Text) (now : Int)
      (unfit : ∀ record, w.store.loadRefresh (hash token) = some record → record.expiresAt ≤ now) :
      Step w (.rotate caller token now) ((w.refuse (w.presenting hash token now)).put caller .idle)
  | replay {w : World} {caller : Nat} (free : w.phases caller = .idle) {token : Text} {now : Int} {record : RefreshRecord}
      (loaded : w.store.loadRefresh (hash token) = some record) (live : now < record.expiresAt) (used : record.used = true) :
      Step w (.rotate caller token now) (w.put caller (.reusing (w.presenting hash token now) record.sessionId))
  | load {w : World} {caller : Nat} (free : w.phases caller = .idle) {token : Text} {now : Int} {record : RefreshRecord}
      (loaded : w.store.loadRefresh (hash token) = some record) (live : now < record.expiresAt) (unused : record.used = false) :
      Step w (.rotate caller token now) (w.put caller (.checking (w.presenting hash token now) record))
  | expired {w : World} {caller : Nat} {call : Rotate} {record : RefreshRecord} (here : w.phases caller = .checking call record)
      (unfit : ∀ session, w.store.loadSession record.sessionId = some session → session.expiresAt ≤ call.now) :
      Step w (.check caller) ((w.refuse call).put caller .idle)
  | check {w : World} {caller : Nat} {call : Rotate} {record : RefreshRecord} {session : SessionRecord}
      (here : w.phases caller = .checking call record) (loaded : w.store.loadSession record.sessionId = some session)
      (live : call.now < session.expiresAt) : Step w (.check caller) (w.put caller (.marking call record session))
  | mark {w : World} {caller : Nat} {call : Rotate} {record : RefreshRecord} {session : SessionRecord}
      (here : w.phases caller = .marking call record session) :
      Step w (.mark caller) ((w.marks record).put caller (.issuing call session))
  | issue {w : World} {caller : Nat} {call : Rotate} {session : SessionRecord} (here : w.phases caller = .issuing call session)
      (token : Text) (new : ∀ pair ∈ w.history.issued, hash pair.1 ≠ hash token) :
      Step w (.issue caller token) (((w.issues hash session token).answer ⟨call,session,token⟩).put caller .idle)
  | reuse {w : World} {caller : Nat} {call : Rotate} {sessionId : Text} (here : w.phases caller = .reusing call sessionId) :
      Step w (.reuse caller) ((w.deletes sessionId).put caller (.purging (some call) sessionId))
  | revoke {w : World} {caller : Nat} (free : w.phases caller = .idle) (sessionId : Text) :
      Step w (.revoke caller sessionId) ((w.deletes sessionId).put caller (.purging none sessionId))
  | purge {w : World} {caller : Nat} {call : Option Rotate} {sessionId : Text} (here : w.phases caller = .purging call sessionId) :
      Step w (.purge caller) ((w.purges call sessionId).put caller .idle)
  | lapseSession (w : World) (sessionId : Text) :
      Step w (.lapseSession sessionId) { w with store := w.store.lapseSession sessionId }
  | lapseRefresh (w : World) (tokenHash : Text) :
      Step w (.lapseRefresh tokenHash) { w with store := w.store.lapseRefresh tokenHash }

/-! ### What the tables and the calls rest on -/

variable {hash refreshTtl}

/-- A token with this hash was issued for the session. -/
def History.IssuedFor (hash : Text → Text) (history : History) (tokenHash sessionId : Text) : Prop :=
  ∃ token, hash token = tokenHash ∧ (token,sessionId) ∈ history.issued

/-- A call got past its checks: the token is of the session, which was not deleted when
    the call started and expires after the time it read. -/
structure Accepted (hash : Text → Text) (history : History) (call : Rotate) (session : SessionRecord) : Prop where
  issued : history.IssuedFor hash (hash call.token) session.sessionId
  opened : session ∈ history.opened
  kept : session.sessionId ∉ call.deleted
  early : call.now < session.expiresAt

/-- What a caller's phase rests on. -/
def Phase.Holds (hash : Text → Text) (history : History) : Phase → Prop
  | .idle => True
  | .opening session => session ∈ history.opened
  | .checking call record => record.tokenHash = hash call.token ∧ history.IssuedFor hash (hash call.token) record.sessionId ∧
      call.deleted ⊆ history.deleted
  | .marking call record session => record.tokenHash = hash call.token ∧ record.sessionId = session.sessionId ∧
      Accepted hash history call session
  | .issuing call session => Accepted hash history call session
  | .reusing call sessionId => history.IssuedFor hash (hash call.token) sessionId
  | .purging call sessionId => sessionId ∈ history.deleted ∧
      ∀ rotate, call = some rotate → history.IssuedFor hash (hash rotate.token) sessionId

/-- The stored rows against what was executed. -/
structure Tables (hash : Text → Text) (w : World) : Prop where
  /-- A stored session was opened and not deleted. -/
  sessions : ∀ sessionId session, w.store.sessions sessionId = some session →
    session ∈ w.history.opened ∧ session.sessionId = sessionId ∧ sessionId ∉ w.history.deleted
  refreshes : ∀ tokenHash record, w.store.refreshes tokenHash = some record →
    record.tokenHash = tokenHash ∧ w.history.IssuedFor hash tokenHash record.sessionId
  once : ∀ session ∈ w.history.opened, ∀ other ∈ w.history.opened, session.sessionId = other.sessionId → session = other
  tokens : ∀ pair ∈ w.history.issued, ∀ other ∈ w.history.issued, hash pair.1 = hash other.1 → pair = other
  opened : ∀ pair ∈ w.history.issued, ∃ session ∈ w.history.opened, session.sessionId = pair.2
  returned : ∀ done ∈ w.returned, Accepted hash w.history done.toRotate done.session ∧
    (done.issued,done.session.sessionId) ∈ w.history.issued

structure Sound (hash : Text → Text) (w : World) : Prop extends Tables hash w where
  phases : ∀ caller, (w.phases caller).Holds hash w.history

/-- What was executed stays executed. -/
structure History.Grows (history later : History) : Prop where
  opened : history.opened ⊆ later.opened
  issued : history.issued ⊆ later.issued
  deleted : history.deleted ⊆ later.deleted

theorem History.Grows.refl (history : History) : history.Grows history := ⟨fun _ => id,fun _ => id,fun _ => id⟩

theorem History.IssuedFor.mono {history later : History} (grows : history.Grows later) {tokenHash sessionId : Text}
    (issued : history.IssuedFor hash tokenHash sessionId) : later.IssuedFor hash tokenHash sessionId := by
  obtain ⟨token,same,member⟩ := issued
  exact ⟨token,same,grows.issued member⟩

theorem Accepted.mono {history later : History} (grows : history.Grows later) {call : Rotate} {session : SessionRecord}
    (accepted : Accepted hash history call session) : Accepted hash later call session :=
  ⟨accepted.issued.mono grows,grows.opened accepted.opened,accepted.kept,accepted.early⟩

theorem Phase.Holds.mono {history later : History} (grows : history.Grows later) {phase : Phase} (holds : phase.Holds hash history) :
    phase.Holds hash later := by
  cases phase with
  | idle => trivial
  | opening session => exact grows.opened holds
  | checking call record => exact ⟨holds.1,holds.2.1.mono grows,List.Subset.trans holds.2.2 grows.deleted⟩
  | marking call record session => exact ⟨holds.1,holds.2.1,holds.2.2.mono grows⟩
  | issuing call session => exact Accepted.mono grows holds
  | reusing call sessionId => exact History.IssuedFor.mono grows holds
  | purging call sessionId => exact ⟨grows.deleted holds.1,fun rotate same => (holds.2 rotate same).mono grows⟩

theorem Sound.within {w : World} (sound : Sound hash w) {caller : Nat} {phase : Phase} (here : w.phases caller = phase) :
    phase.Holds hash w.history := here ▸ sound.phases caller

/-- One caller moves on while the tables change under all. -/
theorem Sound.put {w : World} (sound : Sound hash w) (next : World) (same : next.phases = w.phases) (grows : w.history.Grows next.history)
    (tables : Tables hash next) (caller : Nat) (phase : Phase) (own : phase.Holds hash next.history) :
    Sound hash (next.put caller phase) := by
  refine ⟨⟨tables.sessions,tables.refreshes,tables.once,tables.tokens,tables.opened,tables.returned⟩,fun other => ?_⟩
  by_cases here : other = caller
  · subst here
    simpa [World.put] using own
  · simpa [World.put,here,same] using (sound.phases other).mono grows

theorem History.issuedFor_unique {w : World} (tables : Tables hash w) {tokenHash sessionId other : Text}
    (first : w.history.IssuedFor hash tokenHash sessionId) (second : w.history.IssuedFor hash tokenHash other) : sessionId = other := by
  obtain ⟨token,same,member⟩ := first
  obtain ⟨twin,equal,listed⟩ := second
  have pairs := tables.tokens _ member _ listed (same.trans equal.symm)
  exact congrArg Prod.snd pairs

/-! ### What the operations keep of the tables -/

theorem Tables.grown {w : World} (tables : Tables hash w) {later : History} (grows : w.history.Grows later) :
    ∀ done ∈ w.returned, Accepted hash later done.toRotate done.session ∧ (done.issued,done.session.sessionId) ∈ later.issued :=
  fun done member => ⟨(tables.returned done member).1.mono grows,grows.issued (tables.returned done member).2⟩

theorem grows_opens (w : World) (session : SessionRecord) : w.history.Grows (w.opens session).history :=
  ⟨List.subset_cons_self _ _,fun _ => id,fun _ => id⟩

variable (hash) in
theorem grows_issues (w : World) (session : SessionRecord) (token : Text) : w.history.Grows (w.issues hash session token).history :=
  ⟨fun _ => id,List.subset_cons_self _ _,fun _ => id⟩

theorem grows_marks (w : World) (record : RefreshRecord) : w.history.Grows (w.marks record).history := ⟨fun _ => id,fun _ => id,fun _ => id⟩

theorem grows_deletes (w : World) (sessionId : Text) : w.history.Grows (w.deletes sessionId).history :=
  ⟨fun _ => id,fun _ => id,List.subset_cons_self _ _⟩

theorem Tables.opens {w : World} (tables : Tables hash w) {session : SessionRecord}
    (new : ∀ known ∈ w.history.opened, known.sessionId ≠ session.sessionId) (unnamed : session.sessionId ∉ w.history.deleted) :
    Tables hash (w.opens session) := by
  have grows := grows_opens w session
  refine ⟨?_,fun tokenHash record stored => ?_,?_,tables.tokens,fun pair member => ?_,tables.grown grows⟩
  · intro sessionId found stored
    by_cases same : sessionId = session.sessionId
    · subst same
      simp only [World.opens,SessionStore.saveSession,Function.update_self,Option.some.injEq] at stored
      subst stored
      exact ⟨List.mem_cons_self ..,rfl,unnamed⟩
    · simp only [World.opens,SessionStore.saveSession,Function.update_of_ne same] at stored
      obtain ⟨known,own,kept⟩ := tables.sessions sessionId found stored
      exact ⟨grows.opened known,own,kept⟩
  · obtain ⟨own,issued⟩ := tables.refreshes tokenHash record stored
    exact ⟨own,issued.mono grows⟩
  · intro first member second listed same
    rcases List.mem_cons.mp member with rfl | earlier
    · rcases List.mem_cons.mp listed with rfl | known
      · rfl
      · exact absurd same.symm (new second known)
    · rcases List.mem_cons.mp listed with rfl | known
      · exact absurd same (new first earlier)
      · exact tables.once first earlier second known same
  · obtain ⟨known,listed,own⟩ := tables.opened pair member
    exact ⟨known,grows.opened listed,own⟩

theorem Tables.issues {w : World} (tables : Tables hash w) {session : SessionRecord} (known : session ∈ w.history.opened)
    {token : Text} (new : ∀ pair ∈ w.history.issued, hash pair.1 ≠ hash token) : Tables hash (w.issues hash session token) := by
  have grows := grows_issues hash w session token
  refine ⟨tables.sessions,fun tokenHash record stored => ?_,tables.once,?_,?_,tables.grown grows⟩
  · by_cases same : tokenHash = hash token
    · subst same
      simp only [World.issues,SessionStore.saveRefresh,Function.update_self,Option.some.injEq] at stored
      subst stored
      exact ⟨rfl,token,rfl,List.mem_cons_self ..⟩
    · simp only [World.issues,SessionStore.saveRefresh,Function.update_of_ne same] at stored
      obtain ⟨own,issued⟩ := tables.refreshes tokenHash record stored
      exact ⟨own,issued.mono grows⟩
  · intro first member second listed same
    rcases List.mem_cons.mp member with rfl | earlier
    · rcases List.mem_cons.mp listed with rfl | later
      · rfl
      · exact absurd same.symm (new second later)
    · rcases List.mem_cons.mp listed with rfl | later
      · exact absurd same (new first earlier)
      · exact tables.tokens first earlier second later same
  · intro pair member
    rcases List.mem_cons.mp member with rfl | earlier
    · exact ⟨session,known,rfl⟩
    · exact tables.opened pair earlier

theorem Tables.marks {w : World} (tables : Tables hash w) {record : RefreshRecord}
    (issued : w.history.IssuedFor hash record.tokenHash record.sessionId) : Tables hash (w.marks record) := by
  have grows := grows_marks w record
  refine ⟨tables.sessions,fun tokenHash found stored => ?_,tables.once,tables.tokens,tables.opened,tables.grown grows⟩
  by_cases same : tokenHash = record.tokenHash
  · subst same
    simp only [World.marks,SessionStore.saveRefresh,Function.update_self,Option.some.injEq] at stored
    subst stored
    exact ⟨rfl,issued.mono grows⟩
  · simp only [World.marks,SessionStore.saveRefresh,Function.update_of_ne same] at stored
    obtain ⟨own,known⟩ := tables.refreshes tokenHash found stored
    exact ⟨own,known.mono grows⟩

theorem sessions_delete {store : SessionStore} {sessionId other : Text} {session : SessionRecord}
    (stored : (store.deleteSession sessionId).sessions other = some session) :
    other ≠ sessionId ∧ store.sessions other = some session := by
  by_cases same : other = sessionId
  · simp [SessionStore.deleteSession,same] at stored
  · exact ⟨same,by simpa [SessionStore.deleteSession,same] using stored⟩

theorem refreshes_lapse {store : SessionStore} {tokenHash other : Text} {record : RefreshRecord}
    (stored : (store.lapseRefresh tokenHash).refreshes other = some record) :
    other ≠ tokenHash ∧ store.refreshes other = some record := by
  by_cases same : other = tokenHash
  · simp [SessionStore.lapseRefresh,same] at stored
  · exact ⟨same,by simpa [SessionStore.lapseRefresh,same] using stored⟩

theorem refreshes_purge {store : SessionStore} {sessionId tokenHash : Text} {record : RefreshRecord} :
    (store.deleteRefreshesForSession sessionId).refreshes tokenHash = some record ↔
      store.refreshes tokenHash = some record ∧ record.sessionId ≠ sessionId := by
  simp [SessionStore.deleteRefreshesForSession,Option.filter_eq_some_iff]

theorem Tables.deletes {w : World} (tables : Tables hash w) (sessionId : Text) : Tables hash (w.deletes sessionId) := by
  have grows := grows_deletes w sessionId
  refine ⟨fun other session stored => ?_,fun tokenHash record stored => ?_,tables.once,tables.tokens,tables.opened,tables.grown grows⟩
  · obtain ⟨apart,found⟩ := sessions_delete stored
    obtain ⟨known,own,kept⟩ := tables.sessions other session found
    refine ⟨known,own,fun gone => ?_⟩
    rcases List.mem_cons.mp gone with same | earlier
    · exact apart same
    · exact kept earlier
  · obtain ⟨own,known⟩ := tables.refreshes tokenHash record stored
    exact ⟨own,known.mono grows⟩

/-- Rows may be lost. -/
theorem Tables.lose {w next : World} (tables : Tables hash w) (history : next.history = w.history) (returned : next.returned = w.returned)
    (sessions : ∀ sessionId session, next.store.sessions sessionId = some session → w.store.sessions sessionId = some session)
    (refreshes : ∀ tokenHash record, next.store.refreshes tokenHash = some record → w.store.refreshes tokenHash = some record) :
    Tables hash next := by
  refine ⟨?_,?_,?_,?_,?_,?_⟩
  · rw [history]
    exact fun sessionId session stored => tables.sessions sessionId session (sessions sessionId session stored)
  · rw [history]
    exact fun tokenHash record stored => tables.refreshes tokenHash record (refreshes tokenHash record stored)
  · rw [history]
    exact tables.once
  · rw [history]
    exact tables.tokens
  · rw [history]
    exact tables.opened
  · rw [history,returned]
    exact tables.returned

theorem Tables.answer {w : World} (tables : Tables hash w) {done : Rotated}
    (accepted : Accepted hash w.history done.toRotate done.session) (issued : (done.issued,done.session.sessionId) ∈ w.history.issued) :
    Tables hash (w.answer done) :=
  ⟨tables.sessions,tables.refreshes,tables.once,tables.tokens,tables.opened,
    List.forall_mem_cons.mpr ⟨⟨accepted,issued⟩,tables.returned⟩⟩

theorem Tables.refuse {w : World} (tables : Tables hash w) (call : Rotate) : Tables hash (w.refuse call) :=
  tables.lose rfl rfl (fun _ _ => id) fun _ _ => id

/-! ### What every step keeps -/

theorem Sound.step {w next : World} {move : Move} (sound : Sound hash w) (step : Step hash refreshTtl w move next) :
    Sound hash next := by
  have steady := History.Grows.refl w.history
  have tables := sound.toTables
  cases step with
  | @start caller free sessionId userId now new unnamed =>
    exact sound.put (w.opens ⟨sessionId,userId,now,now + refreshTtl⟩) rfl (grows_opens w _) (tables.opens new unnamed) caller _ (List.mem_cons_self ..)
  | @first caller session here token new =>
    exact sound.put (w.issues hash session token) rfl (grows_issues hash w session token) (tables.issues (sound.within here) new) caller .idle trivial
  | @invalid caller free token now => exact sound.put (w.refuse (w.presenting hash token now)) rfl steady (tables.refuse _) caller .idle trivial
  | @replay caller free token now record loaded =>
    exact sound.put w rfl steady tables caller (.reusing _ _) (tables.refreshes _ record loaded).2
  | @load caller free token now record loaded =>
    obtain ⟨own,issued⟩ := tables.refreshes _ record loaded
    exact sound.put w rfl steady tables caller (.checking _ _) ⟨own,issued,fun _ => id⟩
  | @expired caller call => exact sound.put (w.refuse call) rfl steady (tables.refuse _) caller .idle trivial
  | @check caller call record session here loaded live =>
    obtain ⟨own,issued,earlier⟩ := sound.within here
    obtain ⟨known,same,kept⟩ := tables.sessions record.sessionId session loaded
    have accepted : Accepted hash w.history call session :=
      ⟨same.symm ▸ issued,known,fun gone => kept (same ▸ earlier gone),live⟩
    exact sound.put w rfl steady tables caller (.marking _ _ _) ⟨own,same.symm,accepted⟩
  | @mark caller call record session here =>
    obtain ⟨own,same,accepted⟩ := sound.within here
    have issued : w.history.IssuedFor hash record.tokenHash record.sessionId := by
      rw [own,same]
      exact accepted.issued
    exact sound.put (w.marks record) rfl (grows_marks w record) (tables.marks issued) caller (.issuing _ _) (accepted.mono (grows_marks w record))
  | @issue caller call session here token new =>
    have accepted : Accepted hash w.history call session := sound.within here
    have grows := grows_issues hash w session token
    have saved := tables.issues accepted.opened new
    have answered : Tables hash ((w.issues hash session token).answer ⟨call,session,token⟩) :=
      saved.answer (accepted.mono grows) (List.mem_cons_self ..)
    exact sound.put ((w.issues hash session token).answer ⟨call,session,token⟩) rfl grows answered caller .idle trivial
  | @reuse caller call sessionId here =>
    have issued : w.history.IssuedFor hash (hash call.token) sessionId := sound.within here
    have grows := grows_deletes w sessionId
    refine sound.put (w.deletes sessionId) rfl grows (tables.deletes sessionId) caller (.purging (some call) sessionId) ⟨List.mem_cons_self ..,?_⟩
    rintro rotate ⟨rfl⟩
    exact issued.mono grows
  | @revoke caller free sessionId =>
    exact sound.put (w.deletes sessionId) rfl (grows_deletes w sessionId) (tables.deletes sessionId) caller (.purging none sessionId)
      ⟨List.mem_cons_self ..,fun rotate same => by cases same⟩
  | @purge caller call sessionId here =>
    have fewer : Tables hash (w.purges call sessionId) :=
      tables.lose rfl rfl (fun _ _ => id) fun _ _ stored => (refreshes_purge.mp stored).1
    exact sound.put (w.purges call sessionId) rfl steady fewer caller .idle trivial
  | lapseSession sessionId =>
    exact ⟨tables.lose rfl rfl (fun _ _ stored => (sessions_delete stored).2) fun _ _ => id,sound.phases⟩
  | lapseRefresh tokenHash =>
    exact ⟨tables.lose rfl rfl (fun _ _ => id) fun _ _ stored => (refreshes_lapse stored).2,sound.phases⟩

theorem sound_fresh : Sound hash World.fresh :=
  ⟨⟨by simp [World.fresh,SessionStore.empty],by simp [World.fresh,SessionStore.empty],by simp [World.fresh],by simp [World.fresh],
    by simp [World.fresh],by simp [World.fresh]⟩,fun _ => trivial⟩

/-- A token that was issued for a session is accepted only by calls that started before the
    session was deleted and read a time before it expires, and what such a call issues is
    a token of the same session. -/
theorem revocation_final {moves : List Move} {w : World} (run : Run (Step hash refreshTtl) World.fresh moves w) :
    ∀ done ∈ w.returned, ∀ session ∈ w.history.opened, (done.token,session.sessionId) ∈ w.history.issued →
      session.sessionId ∉ done.deleted ∧ done.now < session.expiresAt ∧ (done.issued,session.sessionId) ∈ w.history.issued := by
  have sound : Sound hash w := run.invariant (fun _ _ _ sound step => sound.step step) sound_fresh
  intro done member session known first
  obtain ⟨accepted,issued⟩ := sound.returned done member
  have same := History.issuedFor_unique sound.toTables accepted.issued ⟨done.token,rfl,first⟩
  have own := sound.once _ accepted.opened _ known same
  rw [← own]
  exact ⟨accepted.kept,accepted.early,issued⟩

end

/-- A session is started, its token rotated and the session revoked; the new token is then
    presented before and after the session's tokens are deleted. -/
def rotatedThenRevoked : List Move :=
  [.start 0 (lit "s") (lit "ana") 0,.issue 0 (lit "first"),.rotate 0 (lit "first") 5,.check 0,.mark 0,.issue 0 (lit "second"),
    .revoke 0 (lit "s"),.rotate 1 (lit "second") 7,.purge 0,.check 1,.rotate 1 (lit "second") 8]

theorem rotatedThenRevoked_run : ∃ w, Run (Step id 60) World.fresh rotatedThenRevoked w ∧ w.returned.map (·.token) = [lit "first"] ∧
    w.refused.map (fun call => (call.token,call.now)) = [(lit "second",8),(lit "second",7)] := by
  refine ⟨_,.go (.start rfl _ _ _ ?_ ?_) (.go (.first rfl _ ?_) (.go (.load rfl rfl ?_ rfl) (.go (.check rfl rfl ?_) (.go (.mark rfl)
    (.go (.issue rfl _ ?_) (.go (.revoke rfl _) (.go (.load rfl rfl ?_ rfl) (.go (.purge rfl) (.go (.expired rfl ?gone)
      (.go (.invalid rfl _ _ ?purged) (.stop _))))))))))),rfl,rfl⟩
  -- the session is gone when the new token's session is loaded, and then the token itself
  case gone => rintro session ⟨⟩
  case purged => rintro record ⟨⟩
  all_goals decide

theorem revocation_final_run : ∃ w, Run (Step id 60) World.fresh rotatedThenRevoked w ∧ w.returned.map (·.token) = [lit "first"] ∧
    w.refused.map (fun call => (call.token,call.now)) = [(lit "second",8),(lit "second",7)] ∧
    ∀ done ∈ w.returned, ∀ session ∈ w.history.opened, (done.token,session.sessionId) ∈ w.history.issued →
      session.sessionId ∉ done.deleted ∧ done.now < session.expiresAt ∧ (done.issued,session.sessionId) ∈ w.history.issued := by
  obtain ⟨w,run,returned,refused⟩ := rotatedThenRevoked_run
  exact ⟨w,run,returned,refused,revocation_final run⟩

end SocAnalyst.AuthSessions
