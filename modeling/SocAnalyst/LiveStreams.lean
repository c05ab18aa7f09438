import Mathlib.Data.List.Induction
import SocAnalyst.EventStreams
import SocAnalyst.Values

/-!
# The live event stream

`investigation_events` of `api/stream.py`: the loop that polls one investigation and
writes its snapshots as they change, until one of its exits.
-/
namespace SocAnalyst.LiveStreams
open SocAnalyst.Builtins SocAnalyst.Values SocAnalyst.EventStreams

/-- `json.loads`; nothing for a text that is no JSON. -/
class JsonReader where
  loads : Text → Option Value
  loads_nil : loads [] = none

export JsonReader (loads)

structure StreamSettings where
  streamPollSeconds : ℚ
  streamHeartbeatSeconds : ℚ
  streamMaxSeconds : ℚ
  polls : 0 < streamPollSeconds
  heartbeats : 0 < streamHeartbeatSeconds
  lives : 0 < streamMaxSeconds

/-- The variables of the loop. -/
structure Producer where
  revision : Nat := 0
  previous : Text := []
  elapsed : ℚ := 0
  idle : ℚ := 0

/-- One turn's reading of the world: the serialized snapshot, none when the investigation
    is gone, and whether the client has left. -/
structure Poll where
  payload : Option Text
  disconnected : Bool

/-- Why the loop returned. -/
inductive Exit where
  | gone
  | settled
  | left
  | lifetime
  deriving DecidableEq, Repr

theorem snapshot_oneLine : 10 ∉ lit "snapshot" := by decide
theorem end_oneLine : 10 ∉ lit "end" := by decide

def snapshotFrame (payload : Text) (revision : Nat) : Frame := .event ⟨lit "snapshot",payload,some revision,snapshot_oneLine⟩

/-- The last frame, with the reason as JSON. -/
def endFrame (reason : Text) : Frame := .event ⟨lit "end",lit "\x7b\"reason\": \"" ++ reason ++ lit "\"\x7d",none,end_oneLine⟩

section
variable [Printer] [JsonReader]

/-- Whether the payload's status is terminal. -/
def isTerminal (payload : Text) : Bool :=
  match loads payload with
  | some (.dict entries) => ((lookup entries (lit "status")).getD (.str [])).toText ∈ [lit "closed",lit "archived"]
  | _ => false

variable (settings : StreamSettings)

omit [Printer] [JsonReader] in
/-- The end of a turn: leave, or wait for the next poll. -/
def Producer.wait (producer : Producer) (frames : List Frame) (disconnected : Bool) : List Frame × Option Exit × Producer :=
  if disconnected then (frames,some .left,producer)
  else if settings.streamMaxSeconds ≤ producer.elapsed then
    (frames ++ [endFrame (lit "connection lifetime reached")],some .lifetime,producer)
  else (frames,none,{ producer with
    elapsed := producer.elapsed + settings.streamPollSeconds, idle := producer.idle + settings.streamPollSeconds })

/-- One turn of the loop. -/
def Producer.turn (producer : Producer) (poll : Poll) : List Frame × Option Exit × Producer :=
  match poll.payload with
  | none => ([endFrame (lit "investigation no longer available")],some .gone,producer)
  | some payload =>
    if payload ≠ producer.previous then
      let producer := { producer with revision := producer.revision + 1, previous := payload, idle := 0 }
      if isTerminal payload then
        ([snapshotFrame payload producer.revision,endFrame (lit "investigation closed")],some .settled,producer)
      else producer.wait settings [snapshotFrame payload producer.revision] poll.disconnected
    else if settings.streamHeartbeatSeconds ≤ producer.idle then
      ({ producer with idle := 0 } : Producer).wait settings [.keepAlive] poll.disconnected
    else producer.wait settings [] poll.disconnected

/-- The loop: what is written over some polls, and the exit that one of them led to. -/
def Producer.run (producer : Producer) : List Poll → List Frame × Option Exit
  | [] => ([],none)
  | poll :: rest =>
    match producer.turn settings poll with
    | (frames,some exit,_) => (frames,some exit)
    | (frames,none,next) => (frames ++ (next.run rest).1,(next.run rest).2)

/-- The stream of one connection. -/
def investigationEvents (polls : List Poll) : List Frame × Option Exit := ({} : Producer).run settings polls

/-! ### Exits -/

/-- The poll sees the investigation, not terminal, and the client is there. -/
def Poll.Open (poll : Poll) : Prop := (∃ payload, poll.payload = some payload ∧ isTerminal payload = false) ∧ poll.disconnected = false

/-- The investigation is gone or its state terminal. -/
def Poll.Final (poll : Poll) : Prop := ∀ payload, poll.payload = some payload → isTerminal payload = true

theorem not_open_final {poll : Poll} (seen : poll.Open) : ¬ poll.Final := by
  obtain ⟨⟨payload,found,going⟩,_⟩ := seen
  intro final
  rw [final payload found] at going
  cases going

/-- The loop has not seen a terminal state. -/
def Producer.Going (producer : Producer) : Prop := isTerminal producer.previous = false

variable {settings}

omit [Printer] [JsonReader] in
/-- None of the frames is an `end` event. -/
def Quiet (frames : List Frame) : Prop := ∀ frame ∈ frames, ∀ event ∈ frame.received, event.event ≠ lit "end"

omit [Printer] [JsonReader] in
theorem quiet_snapshot (payload : Text) (revision : Nat) : Quiet [snapshotFrame payload revision] := by
  intro frame member event received
  rw [List.mem_singleton.mp member] at received
  rw [← Option.mem_some_iff.mp received]
  show lit "snapshot" ≠ lit "end"
  decide

omit [Printer] [JsonReader] in
theorem quiet_keepAlive : Quiet [.keepAlive] := by
  intro frame member event received
  rw [List.mem_singleton.mp member] at received
  cases received

omit [Printer] [JsonReader] in
theorem quiet_nil : Quiet [] := fun _ member => absurd member List.not_mem_nil

omit [Printer] [JsonReader] in
theorem Quiet.append {first second : List Frame} (left : Quiet first) (right : Quiet second) : Quiet (first ++ second) := by
  intro frame member
  rcases List.mem_append.mp member with early | late
  · exact left frame early
  · exact right frame late

/-- What one turn can do. -/
inductive Turn (settings : StreamSettings) (producer : Producer) (poll : Poll) : List Frame × Option Exit × Producer → Prop where
  | goesOn (frames : List Frame) (next : Producer) (quiet : Quiet frames) (seen : poll.Open)
      (young : producer.elapsed < settings.streamMaxSeconds)
      (later : next.elapsed = producer.elapsed + settings.streamPollSeconds) (going : next.Going) :
      Turn settings producer poll (frames,none,next)
  | leaves (frames : List Frame) (next : Producer) (quiet : Quiet frames) (disconnected : poll.disconnected = true) :
      Turn settings producer poll (frames,some .left,next)
  | finishes (frames : List Frame) (reason : Text) (exit : Exit) (next : Producer) (quiet : Quiet frames)
      (stopped : exit = .gone ∨ exit = .settled) (final : poll.Final) :
      Turn settings producer poll (frames ++ [endFrame reason],some exit,next)
  | expires (frames : List Frame) (reason : Text) (next : Producer) (quiet : Quiet frames) (seen : poll.Open)
      (old : settings.streamMaxSeconds ≤ producer.elapsed) :
      Turn settings producer poll (frames ++ [endFrame reason],some .lifetime,next)

/-- The end of a turn that saw an open case. -/
theorem wait_turn {producer waiting : Producer} {poll : Poll} {frames : List Frame} (same : waiting.elapsed = producer.elapsed)
    (going : waiting.Going) (quiet : Quiet frames) (seen : ∃ payload, poll.payload = some payload ∧ isTerminal payload = false) :
    Turn settings producer poll (waiting.wait settings frames poll.disconnected) := by
  rw [Producer.wait,same]
  by_cases there : poll.disconnected = true
  · rw [if_pos there]
    exact .leaves _ _ quiet there
  · have here : poll.disconnected = false := by simpa using there
    rw [if_neg there]
    by_cases old : settings.streamMaxSeconds ≤ producer.elapsed
    · rw [if_pos old]
      exact .expires _ _ _ quiet ⟨seen,here⟩ old
    · rw [if_neg old]
      exact .goesOn _ _ quiet ⟨seen,here⟩ (not_le.mp old) rfl going

theorem turn_cases {producer : Producer} (going : producer.Going) (poll : Poll) : Turn settings producer poll (producer.turn settings poll) := by
  rw [Producer.turn]
  cases found : poll.payload with
  | none =>
    have final : poll.Final := fun payload seen => absurd (found.symm.trans seen) (by simp)
    exact .finishes [] _ .gone _ quiet_nil (.inl rfl) final
  | some payload =>
    by_cases fresh : payload ≠ producer.previous
    · simp only [if_pos fresh]
      by_cases terminal : isTerminal payload = true
      · rw [if_pos terminal]
        have final : poll.Final := by
          intro other seen
          rw [← Option.some_inj.mp (found.symm.trans seen)]
          exact terminal
        exact .finishes [_] _ .settled _ (quiet_snapshot _ _) (.inr rfl) final
      · rw [if_neg terminal]
        have open_case : isTerminal payload = false := by simpa using terminal
        exact wait_turn rfl open_case (quiet_snapshot _ _) ⟨payload,found,open_case⟩
    · have same : payload = producer.previous := not_not.mp fresh
      simp only [if_neg fresh]
      have open_case : isTerminal payload = false := by
        rw [same]
        exact going
      by_cases idle : settings.streamHeartbeatSeconds ≤ producer.idle
      · rw [if_pos idle]
        exact wait_turn rfl going quiet_keepAlive ⟨payload,found,open_case⟩
      · rw [if_neg idle]
        exact wait_turn rfl going quiet_nil ⟨payload,found,open_case⟩

variable (settings)

/-- No poll is made after the exit. -/
def Producer.Makes (producer : Producer) : List Poll → Prop
  | [] => True
  | poll :: rest =>
    match producer.turn settings poll with
    | (_,some _,_) => rest = []
    | (_,none,next) => next.Makes rest

/-- The connection lasts through its polls, and the case is open in all of them, when its
    lifetime is over. -/
def Outlives (elapsed : ℚ) (polls : List Poll) : Prop :=
  polls ≠ [] ∧ (∀ poll ∈ polls, poll.Open) ∧
    settings.streamMaxSeconds ≤ elapsed + ((polls.length : ℚ) - 1) * settings.streamPollSeconds

/-- What a connection can come to. -/
inductive Course (elapsed : ℚ) (polls : List Poll) : List Frame × Option Exit → Prop where
  | runs (frames : List Frame) (quiet : Quiet frames) (young : ¬ Outlives settings elapsed polls) : Course elapsed polls (frames,none)
  | leaves (frames : List Frame) (quiet : Quiet frames) (young : ¬ Outlives settings elapsed polls) :
      Course elapsed polls (frames,some .left)
  | finishes (frames : List Frame) (reason : Text) (exit : Exit) (quiet : Quiet frames) (stopped : exit = .gone ∨ exit = .settled)
      (final : ∃ last ∈ polls.getLast?, last.Final) : Course elapsed polls (frames ++ [endFrame reason],some exit)
  | expires (frames : List Frame) (reason : Text) (quiet : Quiet frames) (outlived : Outlives settings elapsed polls) :
      Course elapsed polls (frames ++ [endFrame reason],some .lifetime)

variable {settings}

/-- A turn that goes on moves the clock by one poll. -/
theorem outlives_cons {elapsed : ℚ} {poll : Poll} {rest : List Poll} (seen : poll.Open) (young : elapsed < settings.streamMaxSeconds) :
    Outlives settings elapsed (poll :: rest) ↔ Outlives settings (elapsed + settings.streamPollSeconds) rest := by
  cases rest with
  | nil =>
    constructor
    · rintro ⟨_,_,old⟩
      simp only [List.length_singleton,Nat.cast_one,sub_self,zero_mul,add_zero] at old
      exact absurd old (not_le.mpr young)
    · exact fun outlived => absurd rfl outlived.1
  | cons next rest =>
    have clock : elapsed + (((poll :: next :: rest).length : ℚ) - 1) * settings.streamPollSeconds =
        elapsed + settings.streamPollSeconds + (((next :: rest).length : ℚ) - 1) * settings.streamPollSeconds := by
      simp only [List.length_cons,Nat.cast_add,Nat.cast_one]
      ring
    rw [Outlives,Outlives,clock,List.forall_mem_cons]
    constructor
    · exact fun ⟨_,⟨_,all⟩,old⟩ => ⟨List.cons_ne_nil _ _,all,old⟩
    · exact fun ⟨_,all,old⟩ => ⟨List.cons_ne_nil _ _,⟨seen,all⟩,old⟩

theorem run_course (polls : List Poll) {producer : Producer} (going : producer.Going) (makes : producer.Makes settings polls) :
    Course settings producer.elapsed polls (producer.run settings polls) := by
  induction polls generalizing producer with
  | nil => exact .runs [] quiet_nil fun outlived => outlived.1 rfl
  | cons poll rest ih =>
    have turn : Turn settings producer poll (producer.turn settings poll) := turn_cases going poll
    rw [Producer.Makes] at makes
    rw [Producer.run]
    generalize producer.turn settings poll = outcome at turn makes
    cases turn with
    | leaves frames next quiet disconnected =>
      have away : ¬ poll.Open := by
        intro seen
        rw [seen.2] at disconnected
        cases disconnected
      exact .leaves _ quiet fun outlived => away (outlived.2.1 poll List.mem_cons_self)
    | finishes frames reason exit next quiet stopped final =>
      rw [show rest = [] from makes]
      exact .finishes _ _ _ quiet stopped ⟨poll,rfl,final⟩
    | expires frames reason next quiet seen old =>
      rw [show rest = [] from makes]
      refine .expires _ _ quiet ⟨List.cons_ne_nil _ _,by simpa using seen,?_⟩
      simpa using old
    | goesOn frames next quiet seen young later going =>
      have course := ih going makes
      rw [later] at course
      have outlives : Outlives settings producer.elapsed (poll :: rest) ↔
          Outlives settings (producer.elapsed + settings.streamPollSeconds) rest := outlives_cons seen young
      show Course settings producer.elapsed (poll :: rest) (frames ++ (next.run settings rest).1,(next.run settings rest).2)
      generalize next.run settings rest = written at course ⊢
      cases course with
      | runs more quiet' young' => exact .runs _ (quiet.append quiet') fun outlived => young' (outlives.mp outlived)
      | leaves more quiet' young' => exact .leaves _ (quiet.append quiet') fun outlived => young' (outlives.mp outlived)
      | finishes more reason exit quiet' stopped final =>
        rw [← List.append_assoc]
        refine .finishes _ _ _ (quiet.append quiet') stopped ?_
        obtain ⟨last,found,final⟩ := final
        exact ⟨last,List.mem_getLast?_cons found,final⟩
      | expires more reason quiet' outlived =>
        rw [← List.append_assoc]
        exact .expires _ _ (quiet.append quiet') (outlives.mpr outlived)

end
end SocAnalyst.LiveStreams
