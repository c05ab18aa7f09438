import Mathlib.Data.List.Nodup
import SocAnalyst.AuthSessions

/-!
# Rotating a token once

When concurrent presentations of a refresh token lead to at most one new token, and every
later one revokes the session.
-/
namespace SocAnalyst.TokenRotation
open SocAnalyst.Builtins SocAnalyst.Runs SocAnalyst.AuthSessions

variable {hash : Text → Text} {refreshTtl : Int}

/-- The hash of the token that a call has found unused and not yet exchanged. -/
def owned (hash : Text → Text) : Phase → Option Text
  | .checking call _ => some (hash call.token)
  | .marking call _ _ => some (hash call.token)
  | .issuing call _ => some (hash call.token)
  | _ => none

/-- Whether a call has loaded the token and not yet marked it. -/
def Unmarked (hash : Text → Text) (tokenHash : Text) : Phase → Prop
  | .checking call _ => hash call.token = tokenHash
  | .marking call _ _ => hash call.token = tokenHash
  | _ => False

/-- A token is loaded unused only while no other call is between loading and marking it. A
    marked one is presented before it expires, and its row does not lapse before that of
    its session. -/
def Apart (hash : Text → Text) (w : World) : Move → Prop
  | .rotate _ token now => ∀ record, w.store.loadRefresh (hash token) = some record →
      (record.used = false → now < record.expiresAt → ∀ caller, ¬ Unmarked hash (hash token) (w.phases caller)) ∧
      (hash token ∈ w.history.marked → now < record.expiresAt)
  | .lapseRefresh tokenHash => tokenHash ∈ w.history.marked → ∀ record, w.store.refreshes tokenHash = some record →
      w.store.sessions record.sessionId = none
  | _ => True

/-- The hashes of the tokens that calls returned for. -/
def exchanged (hash : Text → Text) (w : World) : List Text := w.returned.map fun done => hash done.token

/-- What the exchange of a token rests on in a caller's phase. -/
def Fits (hash : Text → Text) (marked done : List Text) : Phase → Prop
  | .checking call _ => hash call.token ∉ marked ∧ hash call.token ∉ done ∧ call.replayed = false
  | .marking call _ _ => hash call.token ∉ marked ∧ hash call.token ∉ done
  | .issuing call _ => hash call.token ∈ marked ∧ hash call.token ∉ done
  | .reusing call _ => call.replayed = true → hash call.token ∈ marked
  | .purging call _ => ∀ rotate, call = some rotate → rotate.replayed = true → hash rotate.token ∈ marked
  | _ => True

/-- The session of a token is not stored. -/
def Over (hash : Text → Text) (w : World) (tokenHash : Text) : Prop :=
  ∀ sessionId, w.history.IssuedFor hash tokenHash sessionId → w.store.sessions sessionId = none

/-- The rows and results of the tokens that were marked as used. -/
structure Ledger (hash : Text → Text) (w : World) : Prop where
  used : ∀ tokenHash ∈ w.history.marked, ∀ record, w.store.refreshes tokenHash = some record → record.used = true
  gone : ∀ tokenHash ∈ w.history.marked, w.store.refreshes tokenHash = none → Over hash w tokenHash
  issued : ∀ tokenHash ∈ w.history.marked, ∃ sessionId, w.history.IssuedFor hash tokenHash sessionId
  spent : exchanged hash w ⊆ w.history.marked
  once : (exchanged hash w).Nodup
  refused : ∀ call ∈ w.refused, call.replayed = true → hash call.token ∈ w.history.marked ∧ Over hash w (hash call.token)

structure Single (hash : Text → Text) (w : World) : Prop extends Ledger hash w where
  fits : ∀ caller, Fits hash w.history.marked (exchanged hash w) (w.phases caller)
  /-- No two calls own one token. -/
  alone : ∀ caller other tokenHash, owned hash (w.phases caller) = some tokenHash → owned hash (w.phases other) = some tokenHash →
    caller = other

theorem Fits.congr {marked later done all : List Text} {phase : Phase} (fits : Fits hash marked done phase) (grows : marked ⊆ later)
    (same : ∀ tokenHash, owned hash phase = some tokenHash → (tokenHash ∈ later → tokenHash ∈ marked) ∧ (tokenHash ∈ all → tokenHash ∈ done)) :
    Fits hash later all phase := by
  cases phase with
  | checking call record =>
    obtain ⟨marks,ends⟩ := same (hash call.token) rfl
    exact ⟨fun known => fits.1 (marks known),fun known => fits.2.1 (ends known),fits.2.2⟩
  | marking call record session =>
    obtain ⟨marks,ends⟩ := same (hash call.token) rfl
    exact ⟨fun known => fits.1 (marks known),fun known => fits.2 (ends known)⟩
  | issuing call session => exact ⟨grows fits.1,fun known => fits.2 ((same (hash call.token) rfl).2 known)⟩
  | reusing call sessionId => exact fun replayed => grows (fits replayed)
  | purging call sessionId => exact fun rotate named replayed => grows (fits rotate named replayed)
  | idle => trivial
  | opening session => trivial

/-- A call that has not the token loaded and unmarked does not own it while it is unmarked. -/
theorem Fits.not_owned {marked done : List Text} {phase : Phase} {tokenHash : Text} (fits : Fits hash marked done phase)
    (unmarked : tokenHash ∉ marked) (nobody : ¬ Unmarked hash tokenHash phase) : owned hash phase ≠ some tokenHash := by
  intro owns
  cases phase with
  | checking call record => exact nobody (Option.some.inj owns)
  | marking call record session => exact nobody (Option.some.inj owns)
  | issuing call session =>
    have same : hash call.token = tokenHash := Option.some.inj owns
    exact unmarked (same ▸ fits.1)
  | idle => cases owns
  | opening session => cases owns
  | reusing call sessionId => cases owns
  | purging call sessionId => cases owns

theorem Single.within {w : World} (single : Single hash w) {caller : Nat} {phase : Phase} (here : w.phases caller = phase) :
    Fits hash w.history.marked (exchanged hash w) phase := here ▸ single.fits caller

/-- One caller moves on, and what others own is neither marked nor exchanged meanwhile. -/
theorem Single.put {w next : World} (single : Single hash w) (ledger : Ledger hash next) (same : next.phases = w.phases)
    (grows : w.history.marked ⊆ next.history.marked) (caller : Nat) (phase : Phase)
    (own : Fits hash next.history.marked (exchanged hash next) phase)
    (others : ∀ other, other ≠ caller → ∀ tokenHash, owned hash (w.phases other) = some tokenHash →
      owned hash phase ≠ some tokenHash ∧ (tokenHash ∈ next.history.marked → tokenHash ∈ w.history.marked) ∧
        (tokenHash ∈ exchanged hash next → tokenHash ∈ exchanged hash w)) : Single hash (next.put caller phase) := by
  have phases : ∀ other, (next.put caller phase).phases other = if other = caller then phase else w.phases other := by
    intro other
    by_cases here : other = caller
    · simp [World.put,here]
    · simp [World.put,here,same]
  refine ⟨⟨ledger.used,ledger.gone,ledger.issued,ledger.spent,ledger.once,ledger.refused⟩,fun other => ?_,?_⟩
  · rw [phases]
    split_ifs with here
    · exact own
    · exact (single.fits other).congr grows fun tokenHash holds => (others other here tokenHash holds).2
  · intro first second tokenHash holds shares
    rw [phases] at holds shares
    split_ifs at holds shares with here there there
    · exact here.trans there.symm
    · exact absurd holds (others second there tokenHash shares).1
    · exact absurd shares (others first here tokenHash holds).1
    · exact single.alone first second tokenHash holds shares

/-- A caller moves on to own nothing, or what it owned, while nothing is marked or exchanged. -/
theorem Single.rest {w next : World} (single : Single hash w) (ledger : Ledger hash next) (same : next.phases = w.phases)
    (marked : next.history.marked = w.history.marked) (returned : next.returned = w.returned) (caller : Nat) (phase : Phase)
    (own : Fits hash w.history.marked (exchanged hash w) phase)
    (fewer : ∀ tokenHash, owned hash phase = some tokenHash → owned hash (w.phases caller) = some tokenHash) :
    Single hash (next.put caller phase) := by
  have ends : exchanged hash next = exchanged hash w := by rw [exchanged,exchanged,returned]
  refine single.put ledger same (by rw [marked]; exact fun _ => id) caller phase (by rw [marked,ends]; exact own) ?_
  intro other apart tokenHash holds
  rw [marked,ends]
  exact ⟨fun shares => apart (single.alone other caller tokenHash holds (fewer tokenHash shares)),id,id⟩

/-! ### What the operations keep of the ledger -/

theorem Over.mono {w next : World} {tokenHash : Text} (ended : Over hash w tokenHash)
    (issued : ∀ sessionId, next.history.IssuedFor hash tokenHash sessionId → w.history.IssuedFor hash tokenHash sessionId)
    (fewer : ∀ sessionId, w.history.IssuedFor hash tokenHash sessionId → w.store.sessions sessionId = none →
      next.store.sessions sessionId = none) : Over hash next tokenHash :=
  fun sessionId known => fewer sessionId (issued sessionId known) (ended sessionId (issued sessionId known))

/-- A token of a session that is not stored is over. -/
theorem over_of {w : World} (sound : Sound hash w) {tokenHash sessionId : Text} (issued : w.history.IssuedFor hash tokenHash sessionId)
    (none : w.store.sessions sessionId = none) : Over hash w tokenHash := by
  intro other known
  rw [← History.issuedFor_unique sound.toTables issued known]
  exact none

theorem deleted_none {w : World} (sound : Sound hash w) {sessionId : Text} (gone : sessionId ∈ w.history.deleted) :
    w.store.sessions sessionId = none := by
  cases stored : w.store.sessions sessionId with
  | none => rfl
  | some session => exact absurd gone (sound.sessions sessionId session stored).2.2

theorem Ledger.opens {w : World} (ledger : Ledger hash w) (sound : Sound hash w) {session : SessionRecord}
    (new : ∀ known ∈ w.history.opened, known.sessionId ≠ session.sessionId) : Ledger hash (w.opens session) := by
  have ended : ∀ tokenHash, Over hash w tokenHash → Over hash (w.opens session) tokenHash := by
    intro tokenHash before
    refine before.mono (fun _ => id) fun sessionId issued none => ?_
    obtain ⟨token,_,member⟩ := issued
    obtain ⟨known,listed,named⟩ := sound.opened _ member
    have apart : sessionId ≠ session.sessionId := fun same => new known listed (named.trans same)
    simpa [World.opens,SessionStore.saveSession,apart] using none
  exact ⟨ledger.used,fun tokenHash marked none => ended tokenHash (ledger.gone tokenHash marked none),ledger.issued,ledger.spent,
    ledger.once,fun call member replayed =>
      ⟨(ledger.refused call member replayed).1,ended _ (ledger.refused call member replayed).2⟩⟩

theorem Ledger.issues {w : World} (ledger : Ledger hash w) {session : SessionRecord} {token : Text}
    (new : ∀ pair ∈ w.history.issued, hash pair.1 ≠ hash token) : Ledger hash (w.issues hash session token) := by
  have apart : ∀ tokenHash ∈ w.history.marked, tokenHash ≠ hash token := by
    intro tokenHash marked same
    obtain ⟨sessionId,known,equal,member⟩ := ledger.issued tokenHash marked
    exact new _ member (equal.trans same)
  have row : ∀ tokenHash ∈ w.history.marked, (w.issues hash session token).store.refreshes tokenHash = w.store.refreshes tokenHash := by
    intro tokenHash marked
    simp [World.issues,SessionStore.saveRefresh,apart tokenHash marked]
  have ended : ∀ tokenHash ∈ w.history.marked, Over hash w tokenHash → Over hash (w.issues hash session token) tokenHash := by
    intro tokenHash marked before
    refine before.mono (fun sessionId issued => ?_) fun _ _ => id
    obtain ⟨named,same,member⟩ := issued
    rcases List.mem_cons.mp member with equal | earlier
    · cases equal
      exact absurd same.symm (apart tokenHash marked)
    · exact ⟨named,same,earlier⟩
  refine ⟨fun tokenHash marked record stored => ?_,fun tokenHash marked none => ?_,fun tokenHash marked => ?_,ledger.spent,ledger.once,
    fun call member replayed => ?_⟩
  · exact ledger.used tokenHash marked record ((row tokenHash marked).symm.trans stored)
  · exact ended tokenHash marked (ledger.gone tokenHash marked ((row tokenHash marked).symm.trans none))
  · obtain ⟨sessionId,issued⟩ := ledger.issued tokenHash marked
    exact ⟨sessionId,issued.mono (grows_issues _ w session token)⟩
  · obtain ⟨marked,before⟩ := ledger.refused call member replayed
    exact ⟨marked,ended _ marked before⟩

theorem Ledger.marks {w : World} (ledger : Ledger hash w) {record : RefreshRecord}
    (issued : w.history.IssuedFor hash record.tokenHash record.sessionId) : Ledger hash (w.marks record) := by
  refine ⟨fun tokenHash marked found stored => ?_,fun tokenHash marked none => ?_,fun tokenHash marked => ?_,
    List.Subset.trans ledger.spent (List.subset_cons_self _ _),ledger.once,fun call member replayed => ?_⟩
  · by_cases same : tokenHash = record.tokenHash
    · subst same
      simp only [World.marks,SessionStore.saveRefresh,Function.update_self,Option.some.injEq] at stored
      subst stored
      rfl
    · simp only [World.marks,SessionStore.saveRefresh,Function.update_of_ne same] at stored
      exact ledger.used tokenHash ((List.mem_cons.mp marked).resolve_left same) found stored
  · by_cases same : tokenHash = record.tokenHash
    · simp [World.marks,SessionStore.saveRefresh,same] at none
    · simp only [World.marks,SessionStore.saveRefresh,Function.update_of_ne same] at none
      exact ledger.gone tokenHash ((List.mem_cons.mp marked).resolve_left same) none
  · rcases List.mem_cons.mp marked with rfl | earlier
    · exact ⟨record.sessionId,issued⟩
    · exact ledger.issued tokenHash earlier
  · obtain ⟨marked,ended⟩ := ledger.refused call member replayed
    exact ⟨List.mem_cons_of_mem _ marked,ended⟩

theorem Ledger.answer {w : World} (ledger : Ledger hash w) {done : Rotated} (marked : hash done.token ∈ w.history.marked)
    (new : hash done.token ∉ exchanged hash w) : Ledger hash (w.answer done) :=
  ⟨ledger.used,ledger.gone,ledger.issued,List.cons_subset.mpr ⟨marked,ledger.spent⟩,List.nodup_cons.mpr ⟨new,ledger.once⟩,ledger.refused⟩

theorem Ledger.refuse {w : World} (ledger : Ledger hash w) {call : Rotate}
    (ended : call.replayed = true → hash call.token ∈ w.history.marked ∧ Over hash w (hash call.token)) : Ledger hash (w.refuse call) :=
  ⟨ledger.used,ledger.gone,ledger.issued,ledger.spent,ledger.once,List.forall_mem_cons.mpr ⟨ended,ledger.refused⟩⟩

/-- Sessions may be lost. -/
theorem Ledger.lose {w next : World} (ledger : Ledger hash w) (refreshes : next.store.refreshes = w.store.refreshes)
    (marked : next.history.marked = w.history.marked) (issued : next.history.issued = w.history.issued)
    (returned : next.returned = w.returned) (refused : next.refused = w.refused)
    (fewer : ∀ sessionId, w.store.sessions sessionId = none → next.store.sessions sessionId = none) : Ledger hash next := by
  have same : ∀ tokenHash sessionId, next.history.IssuedFor hash tokenHash sessionId ↔ w.history.IssuedFor hash tokenHash sessionId := by
    simp [History.IssuedFor,issued]
  have ended : ∀ tokenHash, Over hash w tokenHash → Over hash next tokenHash :=
    fun tokenHash before => before.mono (fun sessionId => (same tokenHash sessionId).mp) fun sessionId _ => fewer sessionId
  have ends : exchanged hash next = exchanged hash w := by rw [exchanged,exchanged,returned]
  refine ⟨?_,?_,?_,?_,?_,?_⟩
  · rw [marked,refreshes]
    exact ledger.used
  · rw [marked,refreshes]
    exact fun tokenHash known none => ended tokenHash (ledger.gone tokenHash known none)
  · rw [marked]
    intro tokenHash known
    obtain ⟨sessionId,listed⟩ := ledger.issued tokenHash known
    exact ⟨sessionId,(same tokenHash sessionId).mpr listed⟩
  · rw [ends,marked]
    exact ledger.spent
  · rw [ends]
    exact ledger.once
  · rw [refused,marked]
    exact fun call member replayed => ⟨(ledger.refused call member replayed).1,ended _ (ledger.refused call member replayed).2⟩

/-- A row that is lost is one whose session is not stored. -/
theorem Ledger.drop {w : World} (ledger : Ledger hash w) (sound : Sound hash w) {refreshes : Text → Option RefreshRecord}
    (kept : ∀ tokenHash record, refreshes tokenHash = some record → w.store.refreshes tokenHash = some record)
    (lost : ∀ tokenHash ∈ w.history.marked, ∀ record, w.store.refreshes tokenHash = some record → refreshes tokenHash = none →
      w.store.sessions record.sessionId = none) :
    Ledger hash { w with store := { w.store with refreshes := refreshes } } := by
  refine ⟨fun tokenHash marked record stored => ledger.used tokenHash marked record (kept tokenHash record stored),?_,
    ledger.issued,ledger.spent,ledger.once,ledger.refused⟩
  intro tokenHash marked none
  cases stored : w.store.refreshes tokenHash with
  | none => exact ledger.gone tokenHash marked stored
  | some record => exact over_of sound (sound.refreshes tokenHash record stored).2 (lost tokenHash marked record stored none)

theorem Ledger.deletes {w : World} (ledger : Ledger hash w) (sessionId : Text) : Ledger hash (w.deletes sessionId) := by
  refine ledger.lose rfl rfl rfl rfl rfl fun other none => ?_
  by_cases same : other = sessionId
  · simp [World.deletes,SessionStore.deleteSession,same]
  · simpa [World.deletes,SessionStore.deleteSession,same] using none

theorem Ledger.lapses {w : World} (ledger : Ledger hash w) (sessionId : Text) :
    Ledger hash { w with store := w.store.lapseSession sessionId } := by
  refine ledger.lose rfl rfl rfl rfl rfl fun other none => ?_
  by_cases same : other = sessionId
  · simp [SessionStore.lapseSession,same]
  · simpa [SessionStore.lapseSession,same] using none

/-- The rows of a deleted session go, and the call that reused a token of it is refused. -/
theorem Ledger.purges {w : World} (ledger : Ledger hash w) (sound : Sound hash w) {call : Option Rotate} {sessionId : Text}
    (none : w.store.sessions sessionId = none) (ended : ∀ rotate, call = some rotate → rotate.replayed = true →
      hash rotate.token ∈ w.history.marked ∧ Over hash w (hash rotate.token)) : Ledger hash (w.purges call sessionId) := by
  have dropped : Ledger hash { w with store := w.store.deleteRefreshesForSession sessionId } := by
    refine ledger.drop sound (fun _ _ stored => (refreshes_purge.mp stored).1) fun tokenHash _ record stored removed => ?_
    have own : record.sessionId = sessionId := by
      by_contra other
      have kept := refreshes_purge.mpr ⟨stored,other⟩
      cases removed.symm.trans kept
    rw [own]
    exact none
  refine ⟨dropped.used,dropped.gone,dropped.issued,dropped.spent,dropped.once,fun rotate member replayed => ?_⟩
  rcases List.mem_append.mp member with new | earlier
  · exact ended rotate (by simpa using new) replayed
  · exact dropped.refused rotate earlier replayed

/-! ### One exchange a token -/

theorem Single.step {w next : World} {move : Move} (sound : Sound hash w) (single : Single hash w) (apart : Apart hash w move)
    (step : Step hash refreshTtl w move next) : Single hash next := by
  have ledger := single.toLedger
  cases step with
  | @start caller free sessionId userId now new unnamed =>
    have opened : Ledger hash (w.opens ⟨sessionId,userId,now,now + refreshTtl⟩) := ledger.opens sound new
    exact single.rest opened rfl rfl rfl caller (.opening _) trivial fun _ owns => by cases owns
  | @first caller session here token new =>
    exact single.rest (ledger.issues new) rfl rfl rfl caller .idle trivial fun _ owns => by cases owns
  | @invalid caller free token now unfit =>
    have refused : Ledger hash (w.refuse (w.presenting hash token now)) := by
      refine ledger.refuse fun replayed => ?_
      have marked : hash token ∈ w.history.marked := of_decide_eq_true replayed
      refine ⟨marked,ledger.gone _ marked ?_⟩
      cases stored : w.store.refreshes (hash token) with
      | none => exact stored
      | some record =>
        have late := unfit record stored
        have live := (apart record stored).2 marked
        omega
    exact single.rest refused rfl rfl rfl caller .idle trivial fun _ owns => by cases owns
  | @replay caller free token now record loaded live used =>
    exact single.rest ledger rfl rfl rfl caller (.reusing _ _) of_decide_eq_true fun _ owns => by cases owns
  | @load caller free token now record loaded live unused =>
    have unmarked : hash token ∉ w.history.marked := by
      intro marked
      rw [ledger.used _ marked record loaded] at unused
      cases unused
    have fits : Fits hash w.history.marked (exchanged hash w) (.checking (w.presenting hash token now) record) :=
      ⟨unmarked,fun done => unmarked (ledger.spent done),decide_eq_false unmarked⟩
    refine single.put ledger rfl (fun _ => id) caller _ fits fun other _ tokenHash holds => ⟨fun shares => ?_,id,id⟩
    have same : hash token = tokenHash := Option.some.inj shares
    exact (single.fits other).not_owned unmarked ((apart record loaded).1 unused live other) (same ▸ holds)
  | @expired caller call record here unfit =>
    have fits := single.within here
    have refused : Ledger hash (w.refuse call) := ledger.refuse fun replayed => by simp [fits.2.2] at replayed
    exact single.rest refused rfl rfl rfl caller .idle trivial fun _ owns => by cases owns
  | @check caller call record session here loaded live =>
    have fits := single.within here
    refine single.rest ledger rfl rfl rfl caller (.marking call record session) ⟨fits.1,fits.2.1⟩ fun tokenHash owns => ?_
    rw [here]
    exact owns
  | @mark caller call record session here =>
    obtain ⟨own,same,accepted⟩ := sound.within here
    have fits := single.within here
    have issued : w.history.IssuedFor hash record.tokenHash record.sessionId := by
      rw [own,same]
      exact accepted.issued
    have mine : Fits hash (w.marks record).history.marked (exchanged hash (w.marks record)) (.issuing call session) :=
      ⟨by rw [← own]; exact List.mem_cons_self ..,fits.2⟩
    refine single.put (ledger.marks issued) rfl (List.subset_cons_self _ _) caller _ mine fun other away tokenHash holds => ?_
    have different : tokenHash ≠ hash call.token := by
      rintro rfl
      exact away (single.alone other caller _ holds (by rw [here]; rfl))
    refine ⟨fun shares => different (Option.some.inj shares).symm,fun marked => ?_,id⟩
    exact (List.mem_cons.mp marked).resolve_left (own ▸ different)
  | @issue caller call session here token new =>
    have fits := single.within here
    have saved : Ledger hash (w.issues hash session token) := ledger.issues new
    have answered : Ledger hash ((w.issues hash session token).answer ⟨call,session,token⟩) := saved.answer fits.1 fits.2
    refine single.put answered rfl (fun _ => id) caller .idle trivial fun other away tokenHash holds => ⟨(by rintro ⟨⟩),id,?_⟩
    intro done
    refine (List.mem_cons.mp done).resolve_left ?_
    rintro rfl
    exact away (single.alone other caller _ holds (by rw [here]; rfl))
  | @reuse caller call sessionId here =>
    have fits := single.within here
    refine single.rest (ledger.deletes sessionId) rfl rfl rfl caller (.purging (some call) sessionId) ?_ fun _ owns => by cases owns
    rintro rotate ⟨rfl⟩
    exact fits
  | @revoke caller free sessionId =>
    exact single.rest (ledger.deletes sessionId) rfl rfl rfl caller (.purging none sessionId) (fun _ same => by cases same)
      fun _ owns => by cases owns
  | @purge caller call sessionId here =>
    obtain ⟨deleted,issued⟩ := sound.within here
    have none := deleted_none sound deleted
    have purged : Ledger hash (w.purges call sessionId) := ledger.purges sound none fun rotate named replayed =>
      ⟨single.within here rotate named replayed,over_of sound (issued rotate named) none⟩
    exact single.rest purged rfl rfl rfl caller .idle trivial fun _ owns => by cases owns
  | lapseSession sessionId =>
    exact ⟨ledger.lapses sessionId,single.fits,single.alone⟩
  | lapseRefresh tokenHash =>
    have dropped : Ledger hash { w with store := w.store.lapseRefresh tokenHash } := by
      refine ledger.drop sound (fun _ _ stored => (refreshes_lapse stored).2) fun other marked record stored removed => ?_
      by_cases same : other = tokenHash
      · exact apart (same ▸ marked) record (same ▸ stored)
      · simp only [Function.update_of_ne same] at removed
        simp [removed] at stored
    exact ⟨dropped,single.fits,single.alone⟩

theorem single_fresh : Single hash World.fresh := by
  refine ⟨⟨?_,?_,?_,?_,?_,?_⟩,fun _ => trivial,fun _ _ _ owns => by cases owns⟩
  all_goals simp [World.fresh,exchanged]

/-- While no call loads a token that another has loaded and not yet marked, no two calls
    return for one token, and a call that presented a token after it was marked leaves its
    session deleted. -/
theorem rotates_once {moves : List Move} {w : World} (run : Run (Guarded (Apart hash) (Step hash refreshTtl)) World.fresh moves w) :
    (w.returned.map (·.token)).Nodup ∧
      ∀ call ∈ w.refused, call.replayed = true → ∀ sessionId, (call.token,sessionId) ∈ w.history.issued → w.store.sessions sessionId = none := by
  have keeps : ∀ s move t, Sound hash s ∧ Single hash s → Guarded (Apart hash) (Step hash refreshTtl) s move t → Sound hash t ∧ Single hash t :=
    fun _ _ _ before step => ⟨before.1.step step.2,before.2.step before.1 step.1 step.2⟩
  obtain ⟨_,single⟩ := run.invariant keeps ⟨sound_fresh,single_fresh⟩
  refine ⟨List.Nodup.of_map hash (by simpa [exchanged,Function.comp_def] using single.once),fun call member replayed sessionId issued => ?_⟩
  exact (single.refused call member replayed).2 sessionId ⟨call.token,rfl,issued⟩

/-- A token is rotated, presented again, and its session revoked by that. -/
def rotatedThenReplayed : List Move :=
  [.start 0 (lit "s") (lit "ana") 0,.issue 0 (lit "first"),.rotate 0 (lit "first") 5,.check 0,.mark 0,.issue 0 (lit "second"),
    .rotate 1 (lit "first") 9,.reuse 1,.purge 1]

theorem rotatedThenReplayed_run : ∃ w, Run (Guarded (Apart id) (Step id 60)) World.fresh rotatedThenReplayed w ∧
    w.returned.map (·.token) = [lit "first"] ∧ w.refused.map (·.replayed) = [true] := by
  refine ⟨_,.go ⟨trivial,.start rfl _ _ _ ?_ ?_⟩ (.go ⟨trivial,.first rfl _ ?_⟩ (.go ⟨fun record _ => ⟨fun _ _ => ?idle,?_⟩,.load rfl rfl ?_ rfl⟩
    (.go ⟨trivial,.check rfl rfl ?_⟩ (.go ⟨trivial,.mark rfl⟩ (.go ⟨trivial,.issue rfl _ ?_⟩ (.go ⟨?used,.replay rfl rfl ?_ rfl⟩
    (.go ⟨trivial,.reuse rfl⟩ (.go ⟨trivial,.purge rfl⟩ (.stop _))))))))),rfl,rfl⟩
  case idle =>
    intro caller
    by_cases here : caller = 0 <;> simp [World.put,World.issues,World.opens,World.fresh,Unmarked,here]
  case used =>
    rintro record ⟨rfl⟩
    exact ⟨(by rintro ⟨⟩),fun _ => by decide⟩
  all_goals first | decide | (intro marked; cases marked)

theorem rotates_once_run : ∃ w, Run (Guarded (Apart id) (Step id 60)) World.fresh rotatedThenReplayed w ∧
    w.returned.map (·.token) = [lit "first"] ∧ w.refused.map (·.replayed) = [true] ∧ (w.returned.map (·.token)).Nodup ∧
    ∀ call ∈ w.refused, call.replayed = true → ∀ sessionId, (call.token,sessionId) ∈ w.history.issued → w.store.sessions sessionId = none := by
  obtain ⟨w,run,returned,refused⟩ := rotatedThenReplayed_run
  exact ⟨w,run,returned,refused,rotates_once run⟩

/-- Two calls load the token before either has marked it. -/
def presentedTwice : List Move :=
  [.start 0 (lit "s") (lit "ana") 0,.issue 0 (lit "first"),.rotate 1 (lit "first") 5,.rotate 2 (lit "first") 5,.check 1,.check 2,
    .mark 1,.mark 2,.issue 1 (lit "second"),.issue 2 (lit "third")]

theorem presentedTwice_run : ∃ w, Run (Step id 60) World.fresh presentedTwice w ∧ ¬ (w.returned.map (·.token)).Nodup := by
  refine ⟨_,.go (.start rfl _ _ _ ?_ ?_) (.go (.first rfl _ ?_) (.go (.load rfl rfl ?_ rfl) (.go (.load rfl rfl ?_ rfl)
    (.go (.check rfl rfl ?_) (.go (.check rfl rfl ?_) (.go (.mark rfl) (.go (.mark rfl) (.go (.issue rfl _ ?_) (.go (.issue rfl _ ?_)
    (.stop _)))))))))),?_⟩
  all_goals decide

end SocAnalyst.TokenRotation
