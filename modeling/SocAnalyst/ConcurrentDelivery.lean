import Mathlib.Data.List.Count
import Mathlib.Logic.Function.Basic
import SocAnalyst.Failover

/-!
# Concurrent deliveries

Calls of `dispatch_alert` and `retry_delivery` for one approval, each in its own READ
COMMITTED transaction, as the steps in which they interleave. A row is named by its
dedupe key; a session keeps the objects it loaded, and the rows it wrote stay locked
and unseen by others until it commits.
-/
namespace SocAnalyst.ConcurrentDelivery
open SocAnalyst.Builtins SocAnalyst.Times SocAnalyst.Runs SocAnalyst.Notifications SocAnalyst.Dispatch
open SocAnalyst.Failover (urgentAlert)

/-- What the calls share: the alert, the adapters and the attempts on a target. -/
structure Service where
  alert : AlertRequest
  hasAdapter : NotificationChannel → Bool
  maxAttempts : Nat

/-- Whose delivery a session is at: a target of a dispatch, with the targets and tiers
    still to come, or the row of a retry. -/
inductive Task where
  | dispatch (target : AlertTarget) (rest : List (List AlertTarget)) (progress : Progress)
  | retry

inductive Phase where
  | looking (key : Text) (task : Task)
  | missing (target : AlertTarget) (rest : List (List AlertTarget)) (progress : Progress)
  | sending (key : Text) (row : Notification) (attempts : Nat) (result : SendResult) (task : Task)
  | updating (key : Text) (row : Notification) (attempts : Nat) (result : SendResult) (task : Task)
  | collecting
  | burying
  | closing
  /-- An exception is on its way out of the transaction. -/
  | failing
  | ended

structure Session where
  objects : Text → Option Notification := fun _ => none
  writes : Text → Option Notification := fun _ => none
  phase : Phase

/-- A message handed to an adapter for a key, and whether it was delivered. -/
structure Message where
  key : Text
  delivered : Bool

structure World where
  /-- The committed rows. -/
  rows : Text → Option Notification
  sessions : Nat → Session
  messages : List Message

namespace World

def put (w : World) (c : Nat) (s : Session) : World := { w with sessions := Function.update w.sessions c s }

/-- The row a session sees under a key. -/
def visible (w : World) (c : Nat) (key : Text) : Option Notification := ((w.sessions c).writes key).or (w.rows key)

/-- The object a session gets for a row it sees: the one it has, else a new one. -/
def load (w : World) (c : Nat) (key : Text) : Option Notification :=
  (w.visible c key).map fun row => ((w.sessions c).objects key).getD row

/-- No other session has written the row. -/
def Free (w : World) (c : Nat) (key : Text) : Prop := ∀ other, other ≠ c → (w.sessions other).writes key = none

def commit (w : World) (c : Nat) : World where
  rows key := ((w.sessions c).writes key).or (w.rows key)
  sessions := Function.update w.sessions c { phase := .ended }
  messages := w.messages

end World

/-- An `UPDATE` of the columns that changed. -/
def overlay (before after current : Notification) : Notification :=
  { current with
    status := if after.status = before.status then current.status else after.status
    deliveryAttempts := if after.deliveryAttempts = before.deliveryAttempts then current.deliveryAttempts else after.deliveryAttempts
    failureReason := if after.failureReason = before.failureReason then current.failureReason else after.failureReason
    sentAt := if after.sentAt = before.sentAt then current.sentAt else after.sentAt }

/-- Whether there is a column to update. -/
def Changed (before after : Notification) : Prop :=
  after.status ≠ before.status ∨ after.deliveryAttempts ≠ before.deliveryAttempts ∨ after.failureReason ≠ before.failureReason ∨
    after.sentAt ≠ before.sentAt

instance (before after : Notification) : Decidable (Changed before after) := inferInstanceAs (Decidable (_ ∨ _ ∨ _ ∨ _))

/-- Flush one changed object of a session. -/
def World.flush (w : World) (c : Nat) (key : Text) (before after : Notification) : Session :=
  let s := w.sessions c
  { s with
    objects := Function.update s.objects key (some after)
    writes :=
      if Changed before after then Function.update s.writes key ((w.visible c key).map (overlay before after)) else s.writes }

section
variable [Interpreter] (sha256 : Text → Text) (service : Service)

/-- Where the loops over tiers and targets go next. -/
def proceed : List (List AlertTarget) → Progress → Phase
  | [],progress => if progress.outcomes ≠ [] ∧ progress.deliveredAnywhere = false then .collecting else .closing
  | [] :: rest,progress => if progress.deliveredAnywhere then .closing else proceed rest progress
  | (target :: tier) :: rest,progress =>
    .looking (targetKey sha256 service.alert target) (.dispatch target (tier :: rest) progress)

omit [Interpreter] in
/-- A row that is not there is inserted by a dispatch; a retry has nothing to retry. -/
def absent : Task → Phase
  | .dispatch target rest progress => .missing target rest progress
  | .retry => .failing

/-- An alert that was already sent is passed over by a dispatch and refused to a retry. -/
def alreadySent : Task → Phase
  | .dispatch target rest progress => proceed sha256 service rest { progress with deduplicated := progress.deduplicated ++ [target] }
  | .retry => .failing

omit [Interpreter] in
def channelOf (row : Notification) : Task → NotificationChannel
  | .dispatch target _ _ => target.channel
  | .retry => row.channel

omit [Interpreter] in
def unconfigured (channel : NotificationChannel) : SendResult := ⟨false,channel.value ++ lit " has no adapter configured",true⟩

omit [Interpreter] in
/-- The start of the attempts on a row that is not sent. -/
def attempting (key : Text) (row : Notification) (task : Task) : Phase :=
  if service.hasAdapter (channelOf row task) = true ∧ 0 < service.maxAttempts then
    .sending key row 0 (unconfigured (channelOf row task)) task
  else .updating key row 0 (unconfigured (channelOf row task)) task

/-- A session that found a row. -/
def Session.found (s : Session) (key : Text) (row : Notification) (task : Task) : Session :=
  { s with
    objects := Function.update s.objects key (some row)
    phase := if row.status = .SENT then alreadySent sha256 service task else attempting service key row task }

omit [Interpreter] in
/-- The row a dispatch inserts for a target. -/
def pending (target : AlertTarget) : Notification :=
  ⟨service.alert.investigationId,service.alert.approvalId,target.channel,target.recipient,service.alert.priority,.PENDING,0,none,none⟩

def Session.inserted (s : Session) (target : AlertTarget) (rest : List (List AlertTarget)) (progress : Progress) : Session where
  objects := Function.update s.objects (targetKey sha256 service.alert target) (some (pending service target))
  writes := Function.update s.writes (targetKey sha256 service.alert target) (some (pending service target))
  phase := attempting service (targetKey sha256 service.alert target) (pending service target) (.dispatch target rest progress)

omit [Interpreter] in
/-- Where an adapter's answer leads: out of the attempts, or to the next one. -/
def replied (key : Text) (row : Notification) (attempts : Nat) (task : Task) : Except PyError SendResult → Phase
  | .error _ => .failing
  | .ok result =>
    if result.delivered || result.refused || attempts + 1 = service.maxAttempts then .updating key row (attempts + 1) result task
    else .sending key row (attempts + 1) result task

omit [Interpreter] in
/-- The row after the attempts. -/
def updated (row : Notification) (attempts : Nat) (result : SendResult) (now : DateTime) (task : Task) : Notification :=
  let counted := { row with deliveryAttempts := row.deliveryAttempts + attempts }
  if result.delivered then { counted with status := .SENT, sentAt := some now, failureReason := none }
  else
    { counted with
      status := match task with
        | .dispatch _ _ _ => .FAILED
        | .retry => if row.status = .DEAD_LETTER then .DEAD_LETTER else .FAILED
      failureReason := some (result.detail.take 500) }

/-- Where a delivery leads: on to the next target, or to the end of a retry. -/
def delivered (attempts : Nat) (result : SendResult) : Task → Phase
  | .dispatch target rest progress => proceed sha256 service rest { progress with
      outcomes := progress.outcomes ++ [⟨target.channel,target.recipient,result.delivered,attempts,result.detail,result.refused⟩]
      deliveredAnywhere := progress.deliveredAnywhere || result.delivered }
  | .retry => .closing

omit [Interpreter] in
/-- The objects of a session that has listed the rows of the approval. -/
def World.collected (w : World) (c : Nat) (key : Text) : Option Notification :=
  if (w.visible c key).any (·.approvalId = service.alert.approvalId) then w.load c key else (w.sessions c).objects key

omit [Interpreter] in
/-- Whether a loaded object is given up when nobody was reached. -/
def lost (object : Notification) : Bool := object.approvalId = service.alert.approvalId && object.status = .FAILED

omit [Interpreter] in
/-- Give up the failed rows of the approval. -/
def World.buried (w : World) (c : Nat) : Session where
  objects key := ((w.sessions c).objects key).map fun object => if lost service object then { object with status := .DEAD_LETTER } else object
  writes key :=
    if ((w.sessions c).objects key).any (lost service) then
      (w.visible c key).map fun current => { current with status := .DEAD_LETTER }
    else (w.sessions c).writes key
  phase := .closing

omit [Interpreter] in
/-- What an adapter reports of a message. -/
def reported : Except PyError SendResult → Bool
  | .ok result => result.delivered
  | .error _ => false

inductive Action where
  | lookup
  | insert
  | conflict
  | send (reply : Except PyError SendResult)
  | update (now : DateTime)
  | collect
  | bury
  | commit
  | rollback

/-- One step of one session. An insert waits for, and is refused by, a row under the
    same key; an update waits for whoever wrote the row. -/
inductive Step : World → Nat × Action → World → Prop where
  | missed {w : World} {c : Nat} {key : Text} {task : Task} (phase : (w.sessions c).phase = .looking key task) (none : w.load c key = none) :
      Step w (c,.lookup) (w.put c { w.sessions c with phase := absent task })
  | found {w : World} {c : Nat} {key : Text} {task : Task} {row : Notification} (phase : (w.sessions c).phase = .looking key task)
      (some : w.load c key = some row) : Step w (c,.lookup) (w.put c ((w.sessions c).found sha256 service key row task))
  | insert {w : World} {c : Nat} {target : AlertTarget} {rest : List (List AlertTarget)} {progress : Progress}
      (phase : (w.sessions c).phase = .missing target rest progress) (fresh : w.rows (targetKey sha256 service.alert target) = none)
      (unwritten : ∀ other, (w.sessions other).writes (targetKey sha256 service.alert target) = none) :
      Step w (c,.insert) (w.put c ((w.sessions c).inserted sha256 service target rest progress))
  | conflict {w : World} {c : Nat} {target : AlertTarget} {rest : List (List AlertTarget)} {progress : Progress}
      (phase : (w.sessions c).phase = .missing target rest progress) (taken : w.rows (targetKey sha256 service.alert target) ≠ none) :
      Step w (c,.conflict) (w.put c { w.sessions c with phase := .failing })
  | send {w : World} {c : Nat} {key : Text} {row : Notification} {attempts : Nat} {result : SendResult} {task : Task}
      (phase : (w.sessions c).phase = .sending key row attempts result task) (reply : Except PyError SendResult) :
      Step w (c,.send reply)
        { w.put c { w.sessions c with phase := replied service key row attempts task reply } with
          messages := w.messages ++ [⟨key,reported reply⟩] }
  | update {w : World} {c : Nat} {key : Text} {row : Notification} {attempts : Nat} {result : SendResult} {task : Task}
      (phase : (w.sessions c).phase = .updating key row attempts result task) (now : DateTime)
      (free : Changed row (updated row attempts result now task) → w.Free c key) :
      Step w (c,.update now)
        (w.put c { w.flush c key row (updated row attempts result now task) with phase := delivered sha256 service attempts result task })
  | collect {w : World} {c : Nat} (phase : (w.sessions c).phase = .collecting) :
      Step w (c,.collect) (w.put c { w.sessions c with objects := w.collected service c, phase := .burying })
  | bury {w : World} {c : Nat} (phase : (w.sessions c).phase = .burying)
      (free : ∀ key, ((w.sessions c).objects key).any (lost service) = true → w.Free c key) :
      Step w (c,.bury) (w.put c (w.buried service c))
  | commit {w : World} {c : Nat} (phase : (w.sessions c).phase = .closing) : Step w (c,.commit) (w.commit c)
  | rollback {w : World} {c : Nat} (opened : (w.sessions c).phase ≠ .ended) : Step w (c,.rollback) (w.put c { phase := .ended })

end

/-! ### Who holds a row -/

def Sent (row : Option Notification) : Prop := ∃ found, row = some found ∧ found.status = .SENT
def Unsent (row : Option Notification) : Prop := ∃ found, row = some found ∧ found.status ≠ .SENT

/-- The session wrote the row, or loaded it as not sent. -/
def Session.Holds (s : Session) (key : Text) : Prop := s.writes key ≠ none ∨ Unsent (s.objects key)

/-- The session delivered a message for the key, and wrote so or is about to. -/
def Session.Delivered (s : Session) (key : Text) : Prop :=
  (Sent (s.objects key) ∧ s.writes key ≠ none) ∨
    ∃ row attempts result task, s.phase = .updating key row attempts result task ∧ result.delivered = true

/-- The row a session is sending for, or about to update. -/
def Phase.work : Phase → Option (Text × Notification)
  | .sending key row _ _ _ | .updating key row _ _ _ => some (key,row)
  | _ => none

/-- Messages delivered for a key, the one a sent row tells of included. -/
def received (start : Option Notification) (messages : List Message) (key : Text) : Nat :=
  messages.countP (fun message => message.key = key && message.delivered) + if start.any (·.status = .SENT) then 1 else 0

/-- The shape of the reachable worlds. -/
structure Inv (start : Text → Option Notification) (w : World) : Prop where
  exclusive : ∀ c other key, (w.sessions c).Holds key → (w.sessions other).Holds key → other = c
  backed : ∀ c key, (w.sessions c).objects key ≠ none → w.visible c key ≠ none
  unsent : ∀ c key, Unsent ((w.sessions c).objects key) → ¬ Sent (w.rows key)
  written : ∀ c key row, (w.sessions c).writes key = some row →
    ∃ object, (w.sessions c).objects key = some object ∧ (row.status = .SENT ↔ object.status = .SENT)
  working : ∀ c key row, (w.sessions c).phase.work = some (key,row) → (w.sessions c).objects key = some row ∧ row.status ≠ .SENT
  once : ∀ key, received (start key) w.messages key ≤ 1
  known : ∀ key, received (start key) w.messages key = 1 → Sent (w.rows key) ∨ ∃ c, (w.sessions c).Delivered key

/-- A flush writes the changed columns over the row that is seen. -/
theorem flush_writes {w : World} {c : Nat} {key : Text} {before after current : Notification} (seen : w.visible c key = some current) :
    (w.flush c key before after).writes key =
      if Changed before after then some (overlay before after current) else (w.sessions c).writes key := by
  unfold World.flush
  by_cases changed : Changed before after
  · simp [changed,seen]
  · simp [changed]

theorem flush_elsewhere {w : World} {c : Nat} {key other : Text} {before after : Notification} (apart : other ≠ key) :
    (w.flush c key before after).objects other = (w.sessions c).objects other ∧
      (w.flush c key before after).writes other = (w.sessions c).writes other := by
  unfold World.flush
  by_cases changed : Changed before after <;> simp [changed,apart]

section
variable {start : Text → Option Notification} {w : World} {c : Nat} {s : Session}

@[simp] theorem put_self (w : World) (c : Nat) (s : Session) : (w.put c s).sessions c = s := Function.update_self _ _ _

theorem put_other {other : Nat} (apart : other ≠ c) : (w.put c s).sessions other = w.sessions other := Function.update_of_ne apart _ _

@[simp] theorem put_rows (w : World) (c : Nat) (s : Session) : (w.put c s).rows = w.rows := rfl
@[simp] theorem put_messages (w : World) (c : Nat) (s : Session) : (w.put c s).messages = w.messages := rfl

theorem Session.Delivered.holds {key : Text} (delivered : s.Delivered key)
    (working : ∀ key row, s.phase.work = some (key,row) → s.objects key = some row ∧ row.status ≠ .SENT) : s.Holds key := by
  rcases delivered with ⟨_,written⟩ | ⟨row,attempts,result,task,phase,_⟩
  · exact .inl written
  · exact .inr ⟨row,working key row (by rw [phase]; rfl)⟩

/-- What one session must keep for the world to keep its shape. -/
structure Local (w : World) (c : Nat) (s : Session) : Prop where
  holds : ∀ key, s.Holds key → (w.sessions c).Holds key ∨ ∀ other, other ≠ c → ¬ (w.sessions other).Holds key
  backed : ∀ key, s.objects key ≠ none → (s.writes key).or (w.rows key) ≠ none
  unsent : ∀ key, Unsent (s.objects key) → ¬ Sent (w.rows key)
  written : ∀ key row, s.writes key = some row → ∃ object, s.objects key = some object ∧ (row.status = .SENT ↔ object.status = .SENT)
  working : ∀ key row, s.phase.work = some (key,row) → s.objects key = some row ∧ row.status ≠ .SENT

theorem Inv.put (inv : Inv start w) (kept : Local w c s)
    (delivered : ∀ key, (w.sessions c).Delivered key → s.Delivered key) : Inv start (w.put c s) := by
  refine ⟨?_,?_,?_,?_,?_,inv.once,?_⟩
  · intro one two key first second
    by_cases here : one = c
    · by_cases there : two = c
      · rw [here,there]
      · rw [here,put_self] at first
        rw [put_other there] at second
        rcases kept.holds key first with before | alone
        · exact here ▸ inv.exclusive c two key before second
        · exact absurd second (alone two there)
    · rw [put_other here] at first
      by_cases there : two = c
      · rw [there,put_self] at second
        rcases kept.holds key second with before | alone
        · exact there ▸ inv.exclusive one c key first before
        · exact absurd first (alone one here)
      · rw [put_other there] at second
        exact inv.exclusive one two key first second
  · intro other key
    unfold World.visible
    by_cases here : other = c
    · rw [here,put_self]
      exact kept.backed key
    · rw [put_other here]
      exact inv.backed other key
  · intro other key
    by_cases here : other = c
    · rw [here,put_self]
      exact kept.unsent key
    · rw [put_other here]
      exact inv.unsent other key
  · intro other key row
    by_cases here : other = c
    · rw [here,put_self]
      exact kept.written key row
    · rw [put_other here]
      exact inv.written other key row
  · intro other key row
    by_cases here : other = c
    · rw [here,put_self]
      exact kept.working key row
    · rw [put_other here]
      exact inv.working other key row
  · intro key one
    rcases inv.known key one with sent | ⟨other,did⟩
    · exact .inl sent
    · by_cases here : other = c
      · exact .inr ⟨c,by rw [put_self]; exact delivered key (here ▸ did)⟩
      · exact .inr ⟨other,by rw [put_other here]; exact did⟩

theorem Inv.self (inv : Inv start w) (c : Nat) : Local w c (w.sessions c) :=
  ⟨fun _ holds => .inl holds,inv.backed c,inv.unsent c,inv.written c,inv.working c⟩

/-- A session whose objects and writes stay may go to any phase in which it is not at
    work. -/
theorem Local.idle {phase : Phase} (kept : Local w c s) (idle : phase.work = none) : Local w c { s with phase := phase } :=
  ⟨kept.holds,kept.backed,kept.unsent,kept.written,by simp [idle]⟩

/-- What was delivered before stays so when the phase was none of an update. -/
theorem Session.Delivered.stays {phase : Phase} {key : Text} (delivered : s.Delivered key)
    (other : ∀ row attempts result task, s.phase ≠ .updating key row attempts result task) :
    ({ s with phase := phase } : Session).Delivered key := by
  rcases delivered with written | ⟨row,attempts,result,task,at_update,_⟩
  · exact .inl written
  · exact absurd at_update (other row attempts result task)

/-- Nothing was delivered for a row that a session is sending for. -/
theorem Inv.undelivered (inv : Inv start w) {key : Text} {row : Notification} {attempts : Nat} {result : SendResult} {task : Task}
    (phase : (w.sessions c).phase = .sending key row attempts result task) : received (start key) w.messages key = 0 := by
  obtain ⟨object,unsent⟩ := inv.working c key row (by rw [phase]; rfl)
  by_contra some
  have bound := inv.once key
  rcases inv.known key (by omega) with sent | ⟨other,delivered⟩
  · exact inv.unsent c key ⟨row,object,unsent⟩ sent
  · have same : other = c := inv.exclusive c other key (.inr ⟨row,object,unsent⟩) (delivered.holds (inv.working other))
    rw [same] at delivered
    rcases delivered with ⟨⟨found,at_key,sent⟩,_⟩ | ⟨_,_,_,_,at_update,_⟩
    · rw [object] at at_key
      cases at_key
      exact unsent sent
    · rw [phase] at at_update
      cases at_update

theorem Inv.log (inv : Inv start w) (message : Message)
    (first : message.delivered = true → received (start message.key) w.messages message.key = 0 ∧ ∃ c, (w.sessions c).Delivered message.key) :
    Inv start { w with messages := w.messages ++ [message] } := by
  have count : ∀ key, received (start key) (w.messages ++ [message]) key =
      received (start key) w.messages key + if message.key = key ∧ message.delivered = true then 1 else 0 := by
    intro key
    unfold received
    rw [List.countP_append,List.countP_singleton]
    simp only [Bool.and_eq_true,decide_eq_true_eq]
    omega
  refine { inv with once := fun key => ?_, known := fun key one => ?_ }
  · change received (start key) (w.messages ++ [message]) key ≤ 1
    rw [count]
    by_cases here : message.key = key ∧ message.delivered = true
    · rw [if_pos here,← here.1,(first here.2).1]
    · rw [if_neg here]
      exact inv.once key
  · change received (start key) (w.messages ++ [message]) key = 1 at one
    rw [count] at one
    by_cases here : message.key = key ∧ message.delivered = true
    · exact .inr (here.1 ▸ (first here.2).2)
    · rw [if_neg here] at one
      exact inv.known key one

/-- A session that gets objects of rows it had none of, each unsent one from a row
    nobody else holds. -/
theorem Inv.loaded (inv : Inv start w) {objects : Text → Option Notification} {phase : Phase}
    (news : ∀ key, objects key = (w.sessions c).objects key ∨ (w.sessions c).objects key = none ∧ (w.sessions c).writes key = none ∧
      objects key = w.rows key ∧ (Unsent (w.rows key) → ∀ other, other ≠ c → ¬ (w.sessions other).Holds key))
    (working : ∀ key row, phase.work = some (key,row) → objects key = some row ∧ row.status ≠ .SENT)
    (other : ∀ row attempts key result task, (w.sessions c).phase ≠ .updating key row attempts result task) :
    Inv start (w.put c { w.sessions c with objects := objects, phase := phase }) := by
  refine inv.put ⟨fun key held => ?_,fun key known => ?_,fun key missed => ?_,fun key row wrote => ?_,working⟩ fun key delivered => ?_
  · rcases held with wrote | missed
    · exact .inl (.inl wrote)
    · rcases news key with same | ⟨_,_,fresh,alone⟩
      · exact .inl (.inr (same ▸ missed))
      · exact .inr (alone (fresh ▸ missed))
  · rcases news key with same | ⟨_,unwritten,fresh,_⟩
    · exact inv.backed c key (same ▸ known)
    · change ((w.sessions c).writes key).or (w.rows key) ≠ none
      rw [unwritten,Option.none_or,← fresh]
      exact known
  · rcases news key with same | ⟨_,_,fresh,_⟩
    · exact inv.unsent c key (same ▸ missed)
    · rintro ⟨sent,stored,status⟩
      obtain ⟨row,here,unsent⟩ := missed
      change objects key = some row at here
      rw [fresh,stored] at here
      cases here
      exact unsent status
  · obtain ⟨object,here,status⟩ := inv.written c key row wrote
    rcases news key with same | ⟨absent,_⟩
    · exact ⟨object,same.trans here,status⟩
    · rw [absent] at here
      cases here
  · rcases delivered with ⟨sent,wrote⟩ | ⟨row,attempts,result,task,at_update,_⟩
    · rcases news key with same | ⟨_,unwritten,_⟩
      · exact .inl ⟨by rw [← same] at sent; exact sent,wrote⟩
      · exact absurd unwritten wrote
    · exact absurd at_update (other row attempts key result task)

/-- What a session gets for a row it sees: its own object, or a committed row. -/
theorem Inv.load_cases (inv : Inv start w) {key : Text} {row : Notification} (loaded : w.load c key = some row) :
    (w.sessions c).objects key = some row ∨
      (w.sessions c).objects key = none ∧ (w.sessions c).writes key = none ∧ w.rows key = some row := by
  unfold World.load World.visible at loaded
  cases object : (w.sessions c).objects key with
  | some own =>
    rw [object] at loaded
    obtain ⟨_,_,same⟩ := Option.map_eq_some_iff.mp loaded
    exact .inl (congrArg some same)
  | none =>
    have unwritten : (w.sessions c).writes key = none := by
      cases wrote : (w.sessions c).writes key with
      | none => rfl
      | some written =>
        obtain ⟨_,here,_⟩ := inv.written c key written wrote
        rw [object] at here
        cases here
    rw [object,unwritten] at loaded
    exact .inr ⟨rfl,unwritten,by simpa using loaded⟩

end

/-! ### Every step keeps the shape -/

section
variable [Interpreter] (sha256 : Text → Text) (service : Service)

@[simp] theorem proceed_work (tiers : List (List AlertTarget)) (progress : Progress) : (proceed sha256 service tiers progress).work = none := by
  induction tiers with
  | nil =>
    unfold proceed
    split_ifs <;> rfl
  | cons tier rest ih =>
    cases tier with
    | nil =>
      unfold proceed
      split_ifs
      · rfl
      · exact ih
    | cons target tier => rfl

omit [Interpreter] in
@[simp] theorem absent_work (task : Task) : (absent task).work = none := by cases task <;> rfl

@[simp] theorem alreadySent_work (task : Task) : (alreadySent sha256 service task).work = none := by
  cases task with
  | dispatch target rest progress => exact proceed_work _ _ _ _
  | retry => rfl

@[simp] theorem delivered_work (attempts : Nat) (result : SendResult) (task : Task) :
    (delivered sha256 service attempts result task).work = none := by
  cases task with
  | dispatch target rest progress => exact proceed_work _ _ _ _
  | retry => rfl

omit [Interpreter] in
@[simp] theorem attempting_work (key : Text) (row : Notification) (task : Task) : (attempting service key row task).work = some (key,row) := by
  unfold attempting
  split_ifs <;> rfl

omit [Interpreter] in
theorem updated_sent {row : Notification} {attempts : Nat} {result : SendResult} {now : DateTime} {task : Task} :
    (updated row attempts result now task).status = .SENT ↔ result.delivered = true := by
  unfold updated
  by_cases arrived : result.delivered = true
  · simp [arrived]
  · cases task with
    | dispatch target rest progress => simp [arrived]
    | retry =>
      simp only [arrived,Bool.false_eq_true,if_false,iff_false]
      split_ifs <;> simp

omit [Interpreter] in
theorem overlay_sent {before after current : Notification} (unsent : before.status ≠ .SENT) (missed : current.status ≠ .SENT) :
    (overlay before after current).status = .SENT ↔ after.status = .SENT := by
  unfold overlay
  by_cases same : after.status = before.status
  · simp [same,unsent,missed]
  · simp [same]

omit [Interpreter] in
/-- What the calls must be given: a row is looked up unsent only while no other
    session holds it, and a session that delivered a message does not roll back. -/
def Separate (w : World) (step : Nat × Action) : Prop :=
  match step.2 with
  | .lookup => ∀ key task, (w.sessions step.1).phase = .looking key task → Unsent (w.rows key) →
      ∀ other, other ≠ step.1 → ¬ (w.sessions other).Holds key
  | .collect => ∀ key, Unsent (w.rows key) → (w.rows key).any (·.approvalId = service.alert.approvalId) = true →
      ∀ other, other ≠ step.1 → ¬ (w.sessions other).Holds key
  | .rollback => ∀ key, ¬ (w.sessions step.1).Delivered key
  | _ => True

variable {sha256 service} {start : Text → Option Notification} {w : World} {c : Nat}

theorem Inv.found (inv : Inv start w) {key : Text} {task : Task} {row : Notification} (phase : (w.sessions c).phase = .looking key task)
    (loaded : w.load c key = some row) (separate : Separate service w (c,.lookup)) :
    Inv start (w.put c ((w.sessions c).found sha256 service key row task)) := by
  refine inv.loaded (fun sought => ?_) (fun sought other => ?_) fun _ _ _ _ _ => by rw [phase]; simp
  · by_cases here : sought = key
    · subst here
      rw [Function.update_self]
      rcases inv.load_cases loaded with own | ⟨absent,unwritten,stored⟩
      · exact .inl own.symm
      · exact .inr ⟨absent,unwritten,stored.symm,separate sought task phase⟩
    · exact .inl (Function.update_of_ne here _ _)
  · intro work
    by_cases sent : row.status = .SENT
    · rw [if_pos sent,alreadySent_work] at work
      cases work
    · rw [if_neg sent,attempting_work] at work
      cases work
      exact ⟨Function.update_self _ _ _,sent⟩

omit [Interpreter] in
theorem Inv.collect (inv : Inv start w) (phase : (w.sessions c).phase = .collecting) (separate : Separate service w (c,.collect)) :
    Inv start (w.put c { w.sessions c with objects := w.collected service c, phase := .burying }) := by
  refine inv.loaded (fun key => ?_) (by simp [Phase.work]) fun _ _ _ _ _ => by rw [phase]; simp
  unfold World.collected
  by_cases listed : (w.visible c key).any (·.approvalId = service.alert.approvalId) = true
  · rw [if_pos listed]
    cases loaded : w.load c key with
    | none =>
      unfold World.load at loaded
      rw [Option.map_eq_none_iff] at loaded
      rw [loaded] at listed
      cases listed
    | some row =>
      rcases inv.load_cases loaded with own | ⟨absent,unwritten,stored⟩
      · exact .inl own.symm
      · refine .inr ⟨absent,unwritten,stored.symm,fun missed => separate key missed ?_⟩
        unfold World.visible at listed
        rwa [unwritten,Option.none_or] at listed
  · rw [if_neg listed]
    exact .inl rfl

theorem inserted_self (s : Session) (target : AlertTarget) (rest : List (List AlertTarget)) (progress : Progress) :
    (s.inserted sha256 service target rest progress).objects (targetKey sha256 service.alert target) = some (pending service target) ∧
      (s.inserted sha256 service target rest progress).writes (targetKey sha256 service.alert target) = some (pending service target) :=
  ⟨Function.update_self _ _ _,Function.update_self _ _ _⟩

theorem inserted_other {s : Session} {target : AlertTarget} {rest : List (List AlertTarget)} {progress : Progress} {key : Text}
    (apart : key ≠ targetKey sha256 service.alert target) :
    (s.inserted sha256 service target rest progress).objects key = s.objects key ∧
      (s.inserted sha256 service target rest progress).writes key = s.writes key :=
  ⟨Function.update_of_ne apart _ _,Function.update_of_ne apart _ _⟩

theorem Inv.insert (inv : Inv start w) {target : AlertTarget} {rest : List (List AlertTarget)} {progress : Progress}
    (phase : (w.sessions c).phase = .missing target rest progress) (fresh : w.rows (targetKey sha256 service.alert target) = none)
    (unwritten : ∀ other, (w.sessions other).writes (targetKey sha256 service.alert target) = none) :
    Inv start (w.put c ((w.sessions c).inserted sha256 service target rest progress)) := by
  obtain ⟨object,write⟩ := @inserted_self _ sha256 service (w.sessions c) target rest progress
  refine inv.put ⟨fun key held => ?_,fun key known => ?_,fun key missed => ?_,fun key row wrote => ?_,fun key row work => ?_⟩ fun key did => ?_
  · by_cases here : key = targetKey sha256 service.alert target
    · subst here
      refine .inr fun other apart holds => ?_
      rcases holds with wrote | ⟨row,loaded,_⟩
      · exact wrote (unwritten other)
      · refine inv.backed other _ (by rw [loaded]; simp) ?_
        unfold World.visible
        rw [unwritten,fresh,Option.none_or]
    · obtain ⟨objects,writes⟩ := @inserted_other _ sha256 service (w.sessions c) target rest progress key here
      unfold Session.Holds at held
      rw [objects,writes] at held
      exact .inl held
  · by_cases here : key = targetKey sha256 service.alert target
    · subst here
      rw [write]
      simp
    · obtain ⟨objects,writes⟩ := @inserted_other _ sha256 service (w.sessions c) target rest progress key here
      rw [objects] at known
      rw [writes]
      exact inv.backed c key known
  · by_cases here : key = targetKey sha256 service.alert target
    · subst here
      rw [fresh]
      rintro ⟨_,stored,_⟩
      cases stored
    · rw [(inserted_other here).1] at missed
      exact inv.unsent c key missed
  · by_cases here : key = targetKey sha256 service.alert target
    · subst here
      rw [write] at wrote
      cases wrote
      exact ⟨_,object,Iff.rfl⟩
    · obtain ⟨objects,writes⟩ := @inserted_other _ sha256 service (w.sessions c) target rest progress key here
      rw [writes] at wrote
      rw [objects]
      exact inv.written c key row wrote
  · simp only [Session.inserted,attempting_work,Option.some.injEq,Prod.mk.injEq] at work
    obtain ⟨rfl,rfl⟩ := work
    exact ⟨object,by simp [pending]⟩
  · rcases did with ⟨sent,wrote⟩ | ⟨_,_,_,_,at_update,_⟩
    · have apart : key ≠ targetKey sha256 service.alert target := fun same => wrote (same ▸ unwritten c)
      obtain ⟨objects,writes⟩ := @inserted_other _ sha256 service (w.sessions c) target rest progress key apart
      exact .inl ⟨by rwa [objects],by rwa [writes]⟩
    · rw [phase] at at_update
      cases at_update

omit [Interpreter] in
theorem Inv.send (inv : Inv start w) {key : Text} {row : Notification} {attempts : Nat} {result : SendResult} {task : Task}
    (phase : (w.sessions c).phase = .sending key row attempts result task) (reply : Except PyError SendResult) :
    Inv start { w.put c { w.sessions c with phase := replied service key row attempts task reply } with
      messages := w.messages ++ [⟨key,reported reply⟩] } := by
  have work : (w.sessions c).phase.work = some (key,row) := by rw [phase]; rfl
  have moved : Inv start (w.put c { w.sessions c with phase := replied service key row attempts task reply }) := by
    refine inv.put { inv.self c with working := fun other found next => ?_ } fun sought did => ?_
    · refine inv.working c other found (work.trans ?_)
      unfold replied at next
      cases reply with
      | error e => cases next
      | ok answer =>
        simp only at next
        split_ifs at next <;> exact next
    · exact did.stays fun _ _ _ _ at_update => by rw [phase] at at_update; cases at_update
  refine moved.log ⟨key,reported reply⟩ fun arrived => ⟨inv.undelivered phase,c,.inr ?_⟩
  cases reply with
  | error e => cases arrived
  | ok answer =>
    refine ⟨row,attempts + 1,answer,task,?_,arrived⟩
    have reached : answer.delivered = true := arrived
    rw [put_self]
    simp [replied,reached]

omit [Interpreter] in
/-- What a session sees of a row that it holds unsent is unsent. -/
theorem Inv.current_unsent (inv : Inv start w) {key : Text} {row current : Notification}
    (object : (w.sessions c).objects key = some row) (missed : row.status ≠ .SENT) (seen : w.visible c key = some current) :
    current.status ≠ .SENT := by
  unfold World.visible at seen
  cases wrote : (w.sessions c).writes key with
  | none =>
    rw [wrote,Option.none_or] at seen
    exact fun sent => inv.unsent c key ⟨row,object,missed⟩ ⟨current,seen,sent⟩
  | some written =>
    obtain ⟨own,here,status⟩ := inv.written c key written wrote
    rw [object] at here
    rw [wrote,Option.some_or] at seen
    cases here
    cases seen
    exact fun sent => missed (status.mp sent)

/-- The update of a row that its session holds unsent. -/
theorem Inv.update (inv : Inv start w) {key : Text} {row : Notification} {attempts : Nat} {result : SendResult} {task : Task}
    (phase : (w.sessions c).phase = .updating key row attempts result task) (now : DateTime) :
    Inv start (w.put c { w.flush c key row (updated row attempts result now task) with phase := delivered sha256 service attempts result task }) := by
  obtain ⟨object,missed⟩ := inv.working c key row (by rw [phase]; rfl)
  have holds : (w.sessions c).Holds key := .inr ⟨row,object,missed⟩
  obtain ⟨current,seen⟩ : ∃ current, w.visible c key = some current :=
    Option.ne_none_iff_exists'.mp (inv.backed c key (by rw [object]; simp))
  have unsent := inv.current_unsent object missed seen
  set after := updated row attempts result now task with afterDef
  set flushed := w.flush c key row after with flushedDef
  have objects : flushed.objects key = some after := Function.update_self _ _ _
  have writes : flushed.writes key = if Changed row after then some (overlay row after current) else (w.sessions c).writes key :=
    flush_writes seen
  have elsewhere : ∀ other, other ≠ key → flushed.objects other = (w.sessions c).objects other ∧ flushed.writes other = (w.sessions c).writes other :=
    fun other apart => flush_elsewhere apart
  refine inv.put ⟨fun sought held => ?_,fun sought known => ?_,fun sought lacking => ?_,fun sought stored wrote => ?_,by simp⟩ fun sought did => ?_
  · by_cases here : sought = key
    · exact .inl (here ▸ holds)
    · unfold Session.Holds at held
      simp only [elsewhere sought here] at held
      exact .inl held
  · by_cases here : sought = key
    · subst here
      simp only [writes]
      by_cases changed : Changed row after
      · simp [changed]
      · simp only [changed,if_false]
        exact inv.backed c sought (by rw [object]; simp)
    · simp only [elsewhere sought here] at known ⊢
      exact inv.backed c sought known
  · by_cases here : sought = key
    · exact here ▸ inv.unsent c key ⟨row,object,missed⟩
    · simp only [elsewhere sought here] at lacking
      exact inv.unsent c sought lacking
  · by_cases here : sought = key
    · subst here
      refine ⟨after,objects,?_⟩
      simp only [writes] at wrote
      by_cases changed : Changed row after
      · rw [if_pos changed] at wrote
        cases wrote
        exact overlay_sent missed unsent
      · rw [if_neg changed] at wrote
        obtain ⟨own,at_key,status⟩ := inv.written c sought stored wrote
        rw [object] at at_key
        cases at_key
        have same : after.status = row.status := by
          by_contra differs
          exact changed (.inl differs)
        rw [status,same]
    · simp only [elsewhere sought here] at wrote ⊢
      exact inv.written c sought stored wrote
  · rcases did with ⟨⟨found,at_key,sent⟩,wrote⟩ | ⟨other,tries,reply,own,at_update,arrived⟩
    · have apart : sought ≠ key := by
        rintro rfl
        rw [object] at at_key
        cases at_key
        exact missed sent
      refine .inl ?_
      simp only [elsewhere sought apart]
      exact ⟨⟨found,at_key,sent⟩,wrote⟩
    · rw [phase] at at_update
      cases at_update
      have sent : after.status = .SENT := updated_sent.mpr arrived
      have changed : Changed row after := .inl (by rw [sent]; exact missed.symm)
      refine .inl ⟨⟨after,objects,sent⟩,?_⟩
      simp only [writes,changed,if_true]
      simp

omit [Interpreter] in
theorem Inv.bury (inv : Inv start w) (phase : (w.sessions c).phase = .burying) : Inv start (w.put c (w.buried service c)) := by
  have kept : ∀ key, ((w.sessions c).objects key).any (lost service) = false →
      (w.buried service c).objects key = (w.sessions c).objects key ∧ (w.buried service c).writes key = (w.sessions c).writes key := by
    intro key found
    unfold World.buried
    cases object : (w.sessions c).objects key with
    | none => simp [object]
    | some row =>
      rw [object] at found
      have remains : lost service row = false := by simpa using found
      simp [object,remains]
  have given_up : ∀ key, ((w.sessions c).objects key).any (lost service) = true →
      Unsent ((w.sessions c).objects key) ∧ ∃ row current, (w.buried service c).objects key = some row ∧ row.status = .DEAD_LETTER ∧
        (w.buried service c).writes key = some current ∧ current.status = .DEAD_LETTER := by
    intro key found
    cases object : (w.sessions c).objects key with
    | none => rw [object] at found; cases found
    | some row =>
      rw [object] at found
      have gone : lost service row = true := by simpa using found
      have failed : row.status = .FAILED := by
        simp only [lost,Bool.and_eq_true,decide_eq_true_eq] at gone
        exact gone.2
      obtain ⟨current,seen⟩ := Option.ne_none_iff_exists'.mp (inv.backed c key (by rw [object]; simp))
      refine ⟨⟨row,rfl,by rw [failed]; simp⟩,{ row with status := .DEAD_LETTER },{ current with status := .DEAD_LETTER },?_,rfl,?_,rfl⟩
      · unfold World.buried
        simp [object,gone]
      · unfold World.buried
        simp [object,gone,seen]
  refine inv.put ⟨fun key held => ?_,fun key known => ?_,fun key missed => ?_,fun key row wrote => ?_,fun key row work => ?_⟩ fun key did => ?_
  · cases found : ((w.sessions c).objects key).any (lost service) with
    | true => exact .inl (.inr (given_up key found).1)
    | false =>
      unfold Session.Holds at held
      rw [(kept key found).1,(kept key found).2] at held
      exact .inl held
  · cases found : ((w.sessions c).objects key).any (lost service) with
    | true =>
      obtain ⟨_,_,current,_,_,wrote,_⟩ := given_up key found
      rw [wrote]
      simp
    | false =>
      rw [(kept key found).1] at known
      rw [(kept key found).2]
      exact inv.backed c key known
  · cases found : ((w.sessions c).objects key).any (lost service) with
    | true => exact inv.unsent c key (given_up key found).1
    | false =>
      rw [(kept key found).1] at missed
      exact inv.unsent c key missed
  · cases found : ((w.sessions c).objects key).any (lost service) with
    | true =>
      obtain ⟨_,object,current,stored,lettered,written,dead⟩ := given_up key found
      rw [written] at wrote
      cases wrote
      exact ⟨object,stored,by simp [lettered,dead]⟩
    | false =>
      rw [(kept key found).2] at wrote
      rw [(kept key found).1]
      exact inv.written c key row wrote
  · cases work
  · rcases did with ⟨⟨row,object,sent⟩,wrote⟩ | ⟨_,_,_,_,at_update,_⟩
    · have found : ((w.sessions c).objects key).any (lost service) = false := by
        simp [object,lost,sent]
      refine .inl ⟨⟨row,(kept key found).1.trans object,sent⟩,?_⟩
      rwa [(kept key found).2]
    · rw [phase] at at_update
      cases at_update

omit [Interpreter] in
theorem Inv.commit (inv : Inv start w) (phase : (w.sessions c).phase = .closing) : Inv start (w.commit c) := by
  have ended : (w.commit c).sessions c = { phase := .ended } := Function.update_self _ _ _
  have others : ∀ other, other ≠ c → (w.commit c).sessions other = w.sessions other := fun _ apart => Function.update_of_ne apart _ _
  have silent : ∀ key, ¬ ((w.commit c).sessions c).Holds key := by
    rw [ended]
    rintro key (wrote | ⟨_,object,_⟩)
    · exact wrote rfl
    · cases object
  have sent_stays : ∀ key, Sent (w.rows key) → Sent ((w.commit c).rows key) := by
    rintro key sent
    cases wrote : (w.sessions c).writes key with
    | none => simpa [World.commit,wrote] using sent
    | some row =>
      obtain ⟨object,here,status⟩ := inv.written c key row wrote
      refine ⟨row,by simp [World.commit,wrote],status.mpr ?_⟩
      by_contra missed
      exact inv.unsent c key ⟨object,here,missed⟩ sent
  refine ⟨fun one two key first second => ?_,fun other key known => ?_,fun other key missed sent => ?_,fun other key row wrote => ?_,
    fun other key row work => ?_,inv.once,fun key one => ?_⟩
  · have here : one ≠ c := fun same => silent key (same ▸ first)
    have there : two ≠ c := fun same => silent key (same ▸ second)
    rw [others one here] at first
    rw [others two there] at second
    exact inv.exclusive one two key first second
  · by_cases here : other = c
    · rw [here,ended] at known
      exact absurd rfl known
    · rw [others other here] at known
      have seen := inv.backed other key known
      unfold World.visible at seen ⊢
      rw [others other here]
      unfold World.commit
      cases own : (w.sessions other).writes key <;> cases wrote : (w.sessions c).writes key <;> simp_all
  · by_cases here : other = c
    · rw [here,ended] at missed
      obtain ⟨_,object,_⟩ := missed
      cases object
    · rw [others other here] at missed
      cases wrote : (w.sessions c).writes key with
      | none => exact inv.unsent other key missed (by simpa [World.commit,wrote] using sent)
      | some row => exact here (inv.exclusive c other key (.inl (by rw [wrote]; simp)) (.inr missed))
  · by_cases here : other = c
    · rw [here,ended] at wrote
      cases wrote
    · rw [others other here] at wrote ⊢
      exact inv.written other key row wrote
  · by_cases here : other = c
    · rw [here,ended] at work
      cases work
    · rw [others other here] at work ⊢
      exact inv.working other key row work
  · rcases inv.known key one with sent | ⟨other,did⟩
    · exact .inl (sent_stays key sent)
    · by_cases here : other = c
      · subst here
        rcases did with ⟨⟨object,stored,sent⟩,wrote⟩ | ⟨_,_,_,_,at_update,_⟩
        · obtain ⟨row,written⟩ := Option.ne_none_iff_exists'.mp wrote
          obtain ⟨own,at_key,status⟩ := inv.written other key row written
          rw [stored] at at_key
          cases at_key
          exact .inl ⟨row,by simp [World.commit,written],status.mpr sent⟩
        · rw [phase] at at_update
          cases at_update
      · exact .inr ⟨other,by rw [others other here]; exact did⟩

variable (sha256 service)

/-- Each step keeps the shape, as long as sessions stay separate. -/
theorem Inv.step {next : World} {label : Nat × Action} (inv : Inv start w)
    (step : Guarded (Separate service) (Step sha256 service) w label next) : Inv start next := by
  obtain ⟨separate,step⟩ := step
  cases step with
  | missed phase none =>
    exact inv.put ((inv.self _).idle (absent_work _)) fun _ did => did.stays fun _ _ _ _ at_update => by rw [phase] at at_update; cases at_update
  | found phase some => exact inv.found phase some separate
  | insert phase fresh unwritten => exact inv.insert phase fresh unwritten
  | conflict phase taken =>
    exact inv.put ((inv.self _).idle rfl) fun _ did => did.stays fun _ _ _ _ at_update => by rw [phase] at at_update; cases at_update
  | send phase reply => exact inv.send phase reply
  | update phase now free => exact inv.update phase now
  | collect phase => exact inv.collect phase separate
  | bury phase free => exact inv.bury phase
  | commit phase => exact inv.commit phase
  | @rollback c opened =>
    have silent : ∀ key, ¬ ({ phase := .ended } : Session).Holds key := by
      rintro key (wrote | ⟨_,object,_⟩)
      · exact wrote rfl
      · cases object
    refine inv.put ⟨fun key held => absurd held (silent key),fun _ known => absurd rfl known,fun key missed => ?_,
      fun _ _ wrote => (by cases wrote),fun _ _ work => (by cases work)⟩ fun key did => absurd did (separate key)
    exact absurd (.inr missed) (silent key)

/-- How a session begins: a dispatch at its first target, or a retry of a row. -/
inductive Begins : Session → Prop where
  | dispatch (tiers : List (List AlertTarget)) : Begins { phase := proceed sha256 service tiers {} }
  | retry (key : Text) : Begins { phase := .looking key .retry }
  | never : Begins { phase := .ended }

/-- A world in which nothing was sent yet and every session is about to begin. -/
structure Fresh (w : World) : Prop where
  begins : ∀ c, Begins sha256 service (w.sessions c)
  silent : w.messages = []

variable {sha256 service}

theorem Begins.empty {s : Session} (begins : Begins sha256 service s) :
    s.objects = (fun _ => none) ∧ s.writes = (fun _ => none) ∧ s.phase.work = none := by
  cases begins with
  | dispatch tiers => exact ⟨rfl,rfl,proceed_work _ _ _ _⟩
  | retry key => exact ⟨rfl,rfl,rfl⟩
  | never => exact ⟨rfl,rfl,rfl⟩

theorem Fresh.inv (fresh : Fresh sha256 service w) : Inv w.rows w := by
  have empty : ∀ c, (w.sessions c).objects = (fun _ => none) ∧ (w.sessions c).writes = (fun _ => none) ∧ (w.sessions c).phase.work = none :=
    fun c => (fresh.begins c).empty
  have silent : ∀ c key, ¬ (w.sessions c).Holds key := by
    intro c key holds
    unfold Session.Holds at holds
    rw [(empty c).1,(empty c).2.1] at holds
    rcases holds with wrote | ⟨_,object,_⟩
    · exact wrote rfl
    · cases object
  have count : ∀ key, received (w.rows key) w.messages key = if (w.rows key).any (·.status = .SENT) then 1 else 0 := by
    intro key
    simp [received,fresh.silent]
  refine ⟨fun c _ key holds => absurd holds (silent c key),fun c key known => absurd (by rw [(empty c).1]) known,
    fun c key missed => absurd (.inr missed) (silent c key),fun c key row wrote => ?_,fun c key row work => ?_,fun key => ?_,fun key one => ?_⟩
  · rw [(empty c).2.1] at wrote
    cases wrote
  · rw [(empty c).2.2] at work
    cases work
  · rw [count]
    split_ifs <;> omega
  · rw [count] at one
    split_ifs at one with sent
    obtain ⟨row,stored,status⟩ := Option.any_eq_true _ _ |>.mp sent
    exact .inl ⟨row,stored,by simpa using status⟩

/-- In every run whose sessions stay separate, each key gets at most one delivered
    message, the one of a row sent before included. -/
theorem separate_run_delivers_once {first last : World} {labels : List (Nat × Action)} (fresh : Fresh sha256 service first)
    (run : Run (Guarded (Separate service) (Step sha256 service)) first labels last) (key : Text) :
    received (first.rows key) last.messages key ≤ 1 := by
  have keeps : ∀ w label next, Inv first.rows w → Guarded (Separate service) (Step sha256 service) w label next → Inv first.rows next :=
    fun _ _ _ inv step => inv.step sha256 service step
  exact (run.invariant keeps fresh.inv).once key

end
/-! ### A dispatch and a retry of one failed row -/

def paging : Service where
  alert := urgentAlert
  hasAdapter := fun _ => true
  maxAttempts := 3

def slackTarget : AlertTarget := ⟨.SLACK,lit "slack-webhook",by decide⟩

def slackKey : Text := @targetKey ascii id urgentAlert slackTarget

/-- One delivery failed; a dispatch of the approval and a retry of the row are about to begin. -/
def failedBefore : World where
  rows key := if key = slackKey then some { pending paging slackTarget with status := .FAILED, deliveryAttempts := 3 } else none
  sessions c :=
    if c = 0 then { phase := @proceed ascii id paging [[slackTarget]] {} }
    else if c = 1 then { phase := .looking slackKey .retry } else { phase := .ended }
  messages := []

theorem failedBefore_fresh : @Fresh ascii id paging failedBefore := by
  refine @Fresh.mk ascii id paging _ (fun c => ?_) rfl
  by_cases first : c = 0
  · subst first
    exact @Begins.dispatch ascii id paging [[slackTarget]]
  · by_cases second : c = 1
    · subst second
      exact @Begins.retry ascii id paging slackKey
    · have absent : failedBefore.sessions c = { phase := .ended } := by simp [failedBefore,first,second]
      rw [absent]
      exact @Begins.never ascii id paging

/-- The answer of an adapter that delivered. -/
def accepted : Except PyError SendResult := .ok { delivered := true }

theorem recordedAt_in_range : (0 : Int) ≤ 0 ∧ (0 : Int) < maxDays * dayMicros := by decide

/-- When the retry's delivery is recorded. -/
def recordedAt : DateTime := ⟨0,none,recordedAt_in_range⟩

/-- The dispatch begins after the retry committed: it finds the row sent and sends nothing. -/
theorem later_dispatch_delivers_once :
    ∃ last, @Run _ _ (Guarded (Separate paging) (@Step ascii id paging)) failedBefore
        [(1,.lookup),(1,.send accepted),(1,.update recordedAt),(1,.commit),(0,.lookup),(0,.commit)] last ∧
      (last.sessions 0).phase = .ended ∧ (last.sessions 1).phase = .ended ∧ Sent (last.rows slackKey) ∧
      last.messages = [⟨slackKey,true⟩] ∧ received (failedBefore.rows slackKey) last.messages slackKey ≤ 1 := by
  have begun : ∀ other, (failedBefore.sessions other).objects = (fun _ => none) ∧ (failedBefore.sessions other).writes = fun _ => none := by
    intro other
    obtain ⟨objects,writes,_⟩ := @Begins.empty ascii id paging _ (@Fresh.begins ascii id paging _ failedBefore_fresh other)
    exact ⟨objects,writes⟩
  have separate : Separate paging failedBefore (1,.lookup) := by
    intro key task _ _ other _ holds
    unfold Session.Holds at holds
    rw [(begun other).1,(begun other).2] at holds
    rcases holds with wrote | ⟨_,object,_⟩
    · exact wrote rfl
    · cases object
  obtain ⟨last,run,dispatched,retried,sent,once⟩ : ∃ last, Run (Guarded (Separate paging) (@Step ascii id paging)) failedBefore
      [(1,.lookup),(1,.send accepted),(1,.update recordedAt),(1,.commit),(0,.lookup),(0,.commit)] last ∧
      (last.sessions 0).phase = .ended ∧ (last.sessions 1).phase = .ended ∧ Sent (last.rows slackKey) ∧
      last.messages = [⟨slackKey,true⟩] := by
    refine ⟨_,.go ⟨separate,@Step.found ascii id paging _ _ _ _ _ rfl rfl⟩ (.go ⟨trivial,@Step.send ascii id paging _ _ _ _ _ _ _ rfl accepted⟩
      (.go ⟨trivial,@Step.update ascii id paging _ _ _ _ _ _ _ rfl recordedAt ?_⟩ (.go ⟨trivial,@Step.commit ascii id paging _ _ rfl⟩
        (.go ⟨?_,@Step.found ascii id paging _ _ _ _ _ rfl rfl⟩ (.go ⟨trivial,@Step.commit ascii id paging _ _ rfl⟩ (.stop _)))))),
      rfl,rfl,⟨_,rfl,rfl⟩,rfl⟩
    -- nobody else wrote the row that the retry updates
    · intro _ other elsewhere
      show (Function.update (Function.update failedBefore.sessions 1 _) 1 _ other).writes slackKey = none
      rw [Function.update_of_ne elsewhere,Function.update_of_ne elsewhere,(begun other).2]
    -- the dispatch looks up a row that is already sent
    · rintro key task here ⟨row,stored,unsent⟩
      obtain rfl : slackKey = key := (Phase.looking.inj here).1
      exact absurd (by cases stored; rfl) unsent
  exact ⟨last,run,dispatched,retried,sent,once,@separate_run_delivers_once ascii id paging _ _ _ failedBefore_fresh run slackKey⟩

/-- Both look the failed row up before either sends. -/
theorem overlapping_retries_deliver_twice :
    ∃ last, @Run _ _ (@Step ascii id paging) failedBefore [(0,.lookup),(1,.lookup),(0,.send accepted),(1,.send accepted)] last ∧
      received (failedBefore.rows slackKey) last.messages slackKey = 2 :=
  ⟨_,.go (@Step.found ascii id paging _ _ _ _ _ rfl rfl) (.go (@Step.found ascii id paging _ _ _ _ _ rfl rfl)
    (.go (@Step.send ascii id paging _ _ _ _ _ _ _ rfl accepted) (.go (@Step.send ascii id paging _ _ _ _ _ _ _ rfl accepted) (.stop _)))),rfl⟩

end SocAnalyst.ConcurrentDelivery
