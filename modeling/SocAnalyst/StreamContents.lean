import Mathlib.Data.List.Destutter
import SocAnalyst.LiveStreams

/-!
# What a live stream shows

The frames written while the client stays connected, turn by turn: each change of the
snapshot once, under the next id, up to the state that ends the stream.
-/
namespace SocAnalyst.StreamContents
open SocAnalyst.Builtins SocAnalyst.Values SocAnalyst.EventStreams SocAnalyst.LiveStreams

/-! ### Changes of a sequence -/

section
variable {α : Type*} [DecidableEq α]

/-- The items that differ from the one before, the first from a given one. -/
def changes (previous : α) : List α → List α
  | [] => []
  | item :: rest => if item = previous then changes previous rest else item :: changes item rest

theorem destutter_changes (previous : α) (items : List α) : items.destutter' (· ≠ ·) previous = previous :: changes previous items := by
  induction items generalizing previous with
  | nil => rfl
  | cons item rest ih =>
    by_cases same : item = previous
    · subst same
      rw [List.destutter'_cons_neg _ (by simp),ih,changes,if_pos rfl]
    · rw [List.destutter'_cons_pos _ (Ne.symm same),ih,changes,if_neg same]

theorem changes_of_fresh {previous : α} {items : List α} (fresh : ∀ item ∈ items, item ≠ previous) :
    changes previous items = items.destutter (· ≠ ·) := by
  cases items with
  | nil => rfl
  | cons item rest => rw [changes,if_neg (fresh item (by simp)),List.destutter_cons',destutter_changes]

end

/-! ### The turns of a stream -/

def isKeepAlive : Frame → Bool
  | .keepAlive => true
  | .event _ => false

/-- The frame that an exit writes. -/
def ending : Exit → List Frame
  | .gone => [endFrame (lit "investigation no longer available")]
  | .settled => [endFrame (lit "investigation closed")]
  | .left => []
  | .lifetime => [endFrame (lit "connection lifetime reached")]

section
variable [Printer] [JsonReader] (settings : StreamSettings)

/-- The polls made, each with the frames written after it. -/
def turns (producer : Producer) : List Poll → List (Poll × List Frame)
  | [] => []
  | poll :: rest =>
    match producer.turn settings poll with
    | (frames,some _,_) => [(poll,frames)]
    | (frames,none,next) => (poll,frames) :: turns next rest

/-- The payloads up to and including the first terminal one, or up to the first absent one. -/
def shown : List Poll → List Text
  | [] => []
  | poll :: rest =>
    match poll.payload with
    | none => []
    | some payload => if isTerminal payload then [payload] else payload :: shown rest

attribute [local simp] turns shown

variable {settings}

theorem shown_absent {poll : Poll} (absent : poll.payload = none) (rest : List Poll) : shown (poll :: rest) = [] := by
  simp [absent]

theorem shown_terminal {poll : Poll} {payload : Text} (found : poll.payload = some payload) (terminal : isTerminal payload = true)
    (rest : List Poll) : shown (poll :: rest) = [payload] := by simp [found,terminal]

theorem shown_going {poll : Poll} {payload : Text} (found : poll.payload = some payload) (going : isTerminal payload = false)
    (rest : List Poll) : shown (poll :: rest) = payload :: shown rest := by simp [found,going]

theorem mem_shown {polls : List Poll} {payload : Text} (member : payload ∈ shown polls) : ∃ poll ∈ polls, poll.payload = some payload := by
  induction polls with
  | nil => simp at member
  | cons poll rest ih =>
    cases found : poll.payload with
    | none => simp [found] at member
    | some first =>
      cases going : isTerminal first with
      | true =>
        rw [shown_terminal found going,List.mem_singleton] at member
        exact ⟨poll,by simp,member ▸ found⟩
      | false =>
        rw [shown_going found going] at member
        rcases List.mem_cons.mp member with rfl | later
        · exact ⟨poll,by simp,found⟩
        · obtain ⟨other,listed,same⟩ := ih later
          exact ⟨other,List.mem_cons_of_mem _ listed,same⟩

theorem turns_goOn {producer next : Producer} {poll : Poll} {frames : List Frame} (turn : producer.turn settings poll = (frames,none,next))
    (rest : List Poll) : turns settings producer (poll :: rest) = (poll,frames) :: turns settings next rest := by rw [turns,turn]

theorem turns_stop {producer next : Producer} {poll : Poll} {frames : List Frame} {exit : Exit}
    (turn : producer.turn settings poll = (frames,some exit,next)) (rest : List Poll) :
    turns settings producer (poll :: rest) = [(poll,frames)] := by rw [turns,turn]

/-- What is written over some polls is what their turns write. -/
theorem run_frames (polls : List Poll) (producer : Producer) :
    (producer.run settings polls).1 = (turns settings producer polls).flatMap Prod.snd := by
  induction polls generalizing producer with
  | nil => rfl
  | cons poll rest ih =>
    rw [Producer.run,turns]
    cases producer.turn settings poll with
    | mk frames outcome =>
      obtain ⟨exit,next⟩ := outcome
      cases exit with
      | none => simp [ih next]
      | some exit => simp

/-- The polls made are the first ones. -/
theorem turns_polls (polls : List Poll) (producer : Producer) :
    (turns settings producer polls).map Prod.fst = polls.take (turns settings producer polls).length := by
  induction polls generalizing producer with
  | nil => rfl
  | cons poll rest ih =>
    rw [turns]
    cases producer.turn settings poll with
    | mk frames outcome =>
      obtain ⟨exit,next⟩ := outcome
      cases exit with
      | none => simp [ih next]
      | some exit => simp

/-! ### One turn with the client there -/

/-- The end of such a turn: the lifetime is over, or the next poll is waited for. -/
inductive Waits (settings : StreamSettings) (producer next : Producer) : Option Exit → Prop where
  | expires (old : settings.streamMaxSeconds ≤ producer.elapsed) : Waits settings producer next (some .lifetime)
  | goesOn (young : producer.elapsed < settings.streamMaxSeconds) (later : next.elapsed = producer.elapsed + settings.streamPollSeconds) :
      Waits settings producer next none

/-- What a turn can do while the client is there. -/
inductive Shows (settings : StreamSettings) (producer : Producer) (poll : Poll) : List Frame × Option Exit × Producer → Prop where
  | gone (absent : poll.payload = none) (next : Producer) : Shows settings producer poll (ending .gone,some .gone,next)
  | settled (payload : Text) (found : poll.payload = some payload) (fresh : payload ≠ producer.previous) (terminal : isTerminal payload = true)
      (next : Producer) : Shows settings producer poll (snapshotFrame payload (producer.revision + 1) :: ending .settled,some .settled,next)
  | changed (payload : Text) (found : poll.payload = some payload) (fresh : payload ≠ producer.previous) (going : isTerminal payload = false)
      (exit : Option Exit) (next : Producer) (numbered : next.revision = producer.revision + 1) (kept : next.previous = payload)
      (waits : Waits settings producer next exit) :
      Shows settings producer poll (snapshotFrame payload (producer.revision + 1) :: exit.toList.flatMap ending,exit,next)
  | unchanged (found : poll.payload = some producer.previous) (beats : List Frame) (silent : ∀ frame ∈ beats, isKeepAlive frame = true)
      (exit : Option Exit) (next : Producer) (numbered : next.revision = producer.revision) (kept : next.previous = producer.previous)
      (waits : Waits settings producer next exit) : Shows settings producer poll (beats ++ exit.toList.flatMap ending,exit,next)

omit [Printer] [JsonReader] in
/-- Waiting with the client there. -/
theorem wait_cases (settings : StreamSettings) (waiting : Producer) (frames : List Frame) : ∃ exit next, waiting.wait settings frames false = (frames ++ exit.toList.flatMap ending,exit,next) ∧
    next.revision = waiting.revision ∧ next.previous = waiting.previous ∧ Waits settings waiting next exit := by
  by_cases old : settings.streamMaxSeconds ≤ waiting.elapsed
  · exact ⟨some .lifetime,waiting,by simp [Producer.wait,old,ending],rfl,rfl,.expires old⟩
  · let next := { waiting with elapsed := waiting.elapsed + settings.streamPollSeconds, idle := waiting.idle + settings.streamPollSeconds }
    exact ⟨none,next,by simp [Producer.wait,old,next],rfl,rfl,.goesOn (not_le.mp old) rfl⟩

theorem turn_shows (producer : Producer) {poll : Poll} (there : poll.disconnected = false) :
    Shows settings producer poll (producer.turn settings poll) := by
  rw [Producer.turn,there]
  cases found : poll.payload with
  | none => exact .gone found _
  | some payload =>
    by_cases fresh : payload ≠ producer.previous
    · simp only [if_pos fresh]
      cases terminal : isTerminal payload with
      | true => exact .settled payload found fresh terminal _
      | false =>
        obtain ⟨exit,next,written,numbered,kept,waits⟩ := wait_cases settings
          { producer with revision := producer.revision + 1, previous := payload, idle := 0 } [snapshotFrame payload (producer.revision + 1)]
        rw [if_neg (by simp),written]
        exact .changed payload found fresh terminal exit next numbered kept (by cases waits <;> constructor <;> assumption)
    · have same : payload = producer.previous := not_not.mp fresh
      simp only [if_neg fresh]
      split_ifs with idle
      · obtain ⟨exit,next,written,numbered,kept,waits⟩ := wait_cases settings { producer with idle := 0 } [.keepAlive]
        rw [written]
        exact .unchanged (same ▸ found) _ (by simp [isKeepAlive]) exit next numbered kept (by cases waits <;> constructor <;> assumption)
      · obtain ⟨exit,next,written,numbered,kept,waits⟩ := wait_cases settings producer []
        rw [written]
        exact .unchanged (same ▸ found) _ (by simp) exit next numbered kept waits

/-! ### The whole stream -/

/-- The snapshot frames of some payloads, with ids counted from a revision on. -/
def numbered (revision : Nat) (payloads : List Text) : List Frame :=
  (payloads.zipIdx (revision + 1)).map fun entry => snapshotFrame entry.1 entry.2

omit [Printer] [JsonReader] in
theorem numbered_cons (revision : Nat) (payload : Text) (payloads : List Text) :
    numbered revision (payload :: payloads) = snapshotFrame payload (revision + 1) :: numbered (revision + 1) payloads := rfl

omit [Printer] [JsonReader] in
/-- None of the frames of an exit is a keep-alive. -/
theorem loud_ending (exit : Option Exit) : (exit.toList.flatMap ending).filter (!isKeepAlive ·) = exit.toList.flatMap ending := by
  cases exit with
  | none => rfl
  | some exit => cases exit <;> rfl

/-- Without the keep-alives, the frames are the changes of what is shown, then the ending. -/
theorem loud_frames (polls : List Poll) {producer : Producer} (going : producer.Going) (there : ∀ poll ∈ polls, poll.disconnected = false) :
    ((turns settings producer polls).flatMap Prod.snd).filter (!isKeepAlive ·) =
      numbered producer.revision (changes producer.previous (shown ((turns settings producer polls).map Prod.fst))) ++
        (producer.run settings polls).2.toList.flatMap ending := by
  induction polls generalizing producer with
  | nil => rfl
  | cons poll rest ih =>
    obtain ⟨here,later⟩ := List.forall_mem_cons.mp there
    have turn : Shows settings producer poll (producer.turn settings poll) := turn_shows producer here
    rw [turns,Producer.run]
    generalize producer.turn settings poll = outcome at turn
    cases turn with
    | gone absent next => simp [shown_absent absent,changes,numbered,ending,endFrame,isKeepAlive]
    | settled payload found fresh terminal next =>
      simp [shown_terminal found terminal,changes,fresh,numbered,ending,endFrame,snapshotFrame,isKeepAlive]
    | changed payload found fresh going' exit next numbered' kept waits =>
      cases waits with
      | expires old => simp [shown_going found going',changes,fresh,numbered,ending,endFrame,snapshotFrame,isKeepAlive]
      | goesOn young clock =>
        have tail := @ih next (by rw [Producer.Going,kept]; exact going') later
        rw [kept,numbered'] at tail
        simp only [List.flatMap_cons,List.filter_append,List.map_cons,shown_going found going',changes,if_neg fresh,numbered_cons,tail]
        rfl
    | unchanged found beats silent exit next numbered' kept waits =>
      have quiet : beats.filter (!isKeepAlive ·) = [] := by
        rw [List.filter_eq_nil_iff]
        intro frame member
        simp [silent frame member]
      cases waits with
      | expires old =>
        have none : changes producer.previous (shown [poll]) = [] := by
          rw [shown_going found going]
          simp [changes]
        simp only [List.map_cons,List.map_nil,none,List.flatMap_singleton,List.filter_append,quiet,loud_ending]
        rfl
      | goesOn young clock =>
        have tail := @ih next (by rw [Producer.Going,kept]; exact going) later
        rw [kept,numbered'] at tail
        simp only [List.flatMap_cons,List.filter_append,List.map_cons,shown_going found going,changes,if_true,tail,quiet,Option.toList_none,
          List.flatMap_nil,List.append_nil,List.nil_append]

/-- What a turn may write, after some turns of a producer and before others. -/
structure Fits (previous : Option Text) (poll : Poll) (frames : List Frame) (later : List (Poll × List Frame)) : Prop where
  beats : ∀ frame ∈ frames, isKeepAlive frame = true → poll.payload = previous
  final : poll.Final → later = [] ∧ ∃ id reason, frames = poll.payload.toList.map (snapshotFrame · id) ++ [endFrame reason]

theorem fits_ending {previous : Option Text} {poll : Poll} (content : List Frame) {exit : Option Exit} {later : List (Poll × List Frame)}
    (going : ¬ poll.Final) (beats : ∀ frame ∈ content, isKeepAlive frame = true → poll.payload = previous) :
    Fits previous poll (content ++ exit.toList.flatMap ending) later := by
  refine ⟨?_,fun final => (going final).elim⟩
  intro frame member beat
  rcases List.mem_append.mp member with inside | last
  · exact beats frame inside beat
  · rw [← loud_ending exit] at last
    simp [beat] at last

theorem not_final {poll : Poll} {payload : Text} (found : poll.payload = some payload) (going : isTerminal payload = false) : ¬ poll.Final := by
  intro final
  rw [final payload found] at going
  cases going

/-- The first turn of a producer fits what it remembers; the producer after it remembers its poll. -/
theorem turn_fits {producer : Producer} (going : producer.Going) {poll : Poll} (there : poll.disconnected = false) {frames : List Frame}
    {exit : Option Exit} {next : Producer} (turn : producer.turn settings poll = (frames,exit,next)) (later : List (Poll × List Frame))
    (ends : exit ≠ none → later = []) :
    Fits (some producer.previous) poll frames later ∧ (exit = none → poll.payload = some next.previous ∧ next.Going) := by
  have shows : Shows settings producer poll (producer.turn settings poll) := turn_shows producer there
  rw [turn] at shows
  cases shows with
  | gone absent => exact ⟨⟨by simp [ending,endFrame,isKeepAlive],fun _ => ⟨ends (by simp),0,_,by rw [absent]; rfl⟩⟩,by simp⟩
  | settled payload found fresh terminal =>
    refine ⟨⟨by simp [ending,endFrame,snapshotFrame,isKeepAlive],fun _ => ⟨ends (by simp),producer.revision + 1,_,by rw [found]; rfl⟩⟩,by simp⟩
  | changed payload found fresh going' _ _ numbered' kept waits =>
    refine ⟨fits_ending [_] (not_final found going') (by simp [snapshotFrame,isKeepAlive]),fun _ => ⟨kept ▸ found,?_⟩⟩
    rw [Producer.Going,kept]
    exact going'
  | unchanged found beats silent _ _ numbered' kept waits =>
    refine ⟨fits_ending beats (not_final found going) fun _ _ _ => found,fun _ => ⟨kept ▸ found,?_⟩⟩
    rw [Producer.Going,kept]
    exact going

/-- Every turn fits the poll before it. -/
theorem turns_fit (polls : List Poll) {producer : Producer} (going : producer.Going) (there : ∀ poll ∈ polls, poll.disconnected = false)
    {before later : List (Poll × List Frame)} {poll : Poll} {frames : List Frame}
    (made : turns settings producer polls = before ++ (poll,frames) :: later) :
    Fits ((before.getLast?.map fun turn => turn.1.payload).getD (some producer.previous)) poll frames later := by
  induction polls generalizing producer before with
  | nil => simp at made
  | cons first rest ih =>
    obtain ⟨here,others⟩ := List.forall_mem_cons.mp there
    cases outcome : producer.turn settings first with
    | mk written outcome' =>
      obtain ⟨exit,next⟩ := outcome'
      cases exit with
      | none =>
        rw [turns_goOn outcome] at made
        cases before with
        | nil =>
          cases made
          exact (turn_fits going here outcome _ (by simp)).1
        | cons front before =>
          obtain ⟨rfl,more⟩ := List.cons.inj made
          obtain ⟨remembered,still⟩ := (turn_fits going here outcome [] (by simp)).2 rfl
          have fits := ih still others more
          cases before with
          | nil => simpa [remembered] using fits
          | cons second before =>
            rw [List.getLast?_cons_cons]
            cases last : (second :: before).getLast? with
            | none => simp at last
            | some turn => simpa [last] using fits
      | some exit =>
        rw [turns_stop outcome] at made
        cases before with
        | nil =>
          cases made
          exact (turn_fits going here outcome _ (by simp)).1
        | cons front before => simp at made

/-! ### How long it lasts -/

/-- A turn that goes on found the lifetime not over. -/
theorem turn_clock {producer next : Producer} {poll : Poll} {frames : List Frame} (there : poll.disconnected = false)
    (turn : producer.turn settings poll = (frames,none,next)) :
    producer.elapsed < settings.streamMaxSeconds ∧ next.elapsed = producer.elapsed + settings.streamPollSeconds := by
  have shows : Shows settings producer poll (producer.turn settings poll) := turn_shows producer there
  rw [turn] at shows
  cases shows with
  | changed _ _ _ _ _ _ _ _ waits =>
    cases waits with
    | goesOn young later => exact ⟨young,later⟩
  | unchanged _ _ _ _ _ _ _ waits =>
    cases waits with
    | goesOn young later => exact ⟨young,later⟩

/-- The turns made from a state on, by what is left of the lifetime. -/
theorem turns_bound (polls : List Poll) {producer : Producer} (there : ∀ poll ∈ polls, poll.disconnected = false)
    (lasts : producer.elapsed < settings.streamMaxSeconds + settings.streamPollSeconds) :
    ((turns settings producer polls).length : ℚ) * settings.streamPollSeconds <
      settings.streamMaxSeconds - producer.elapsed + 2 * settings.streamPollSeconds := by
  have positive := settings.polls
  induction polls generalizing producer with
  | nil =>
    simp only [turns,List.length_nil,Nat.cast_zero,zero_mul]
    linarith
  | cons poll rest ih =>
    obtain ⟨here,later⟩ := List.forall_mem_cons.mp there
    cases outcome : producer.turn settings poll with
    | mk frames outcome' =>
      obtain ⟨exit,next⟩ := outcome'
      cases exit with
      | none =>
        obtain ⟨young,clock⟩ := turn_clock here outcome
        have more := @ih next later (by rw [clock]; linarith)
        rw [turns_goOn outcome,List.length_cons,Nat.cast_add,Nat.cast_one,add_mul,one_mul]
        rw [clock] at more
        linarith
      | some exit =>
        rw [turns_stop outcome,List.length_singleton,Nat.cast_one,one_mul]
        linarith

/-- Without an exit every poll is made. -/
theorem turns_all (polls : List Poll) {producer : Producer} (unended : (producer.run settings polls).2 = none) :
    (turns settings producer polls).length = polls.length := by
  induction polls generalizing producer with
  | nil => rfl
  | cons poll rest ih =>
    cases outcome : producer.turn settings poll with
    | mk frames outcome' =>
      obtain ⟨exit,next⟩ := outcome'
      rw [Producer.run,outcome] at unended
      cases exit with
      | none => rw [turns_goOn outcome,List.length_cons,List.length_cons,ih unended]
      | some exit => cases unended

/-- While the client stays, the frames written are the changes of the snapshot up to a
    terminal or absent one, under the ids from one on, and the ending; keep-alives come
    between unchanged polls, a final poll is the last, and the polls are bounded. -/
theorem connected_stream (settings : StreamSettings) (polls : List Poll) (there : ∀ poll ∈ polls, poll.disconnected = false) (present : ∀ poll ∈ polls, poll.payload ≠ some []) :
    ((investigationEvents settings polls).1.filter (!isKeepAlive ·) =
        numbered 0 ((shown (polls.take (turns settings {} polls).length)).destutter (· ≠ ·)) ++
          (investigationEvents settings polls).2.toList.flatMap ending) ∧
      (investigationEvents settings polls).1 = (turns settings {} polls).flatMap Prod.snd ∧
      (∀ before poll frames later, turns settings {} polls = before ++ (poll,frames) :: later →
        ((∃ frame ∈ frames, isKeepAlive frame = true) → ∃ last ∈ before.getLast?, last.1.payload = poll.payload) ∧
          (poll.Final → later = [] ∧ ∃ id reason, frames = poll.payload.toList.map (snapshotFrame · id) ++ [endFrame reason])) ∧
      ((turns settings {} polls).length : ℚ) ≤ settings.streamMaxSeconds / settings.streamPollSeconds + 2 ∧
      (settings.streamMaxSeconds / settings.streamPollSeconds + 2 ≤ polls.length → (investigationEvents settings polls).2 ≠ none) := by
  have going : ({} : Producer).Going := by
    rw [Producer.Going,isTerminal,JsonReader.loads_nil]
  have begins : ({} : Producer).elapsed < settings.streamMaxSeconds + settings.streamPollSeconds := add_pos settings.lives settings.polls
  have bound : ((turns settings {} polls).length : ℚ) * settings.streamPollSeconds <
      settings.streamMaxSeconds - 0 + 2 * settings.streamPollSeconds := turns_bound polls there begins
  have made : ((turns settings {} polls).length : ℚ) < settings.streamMaxSeconds / settings.streamPollSeconds + 2 := by
    have whole : settings.streamMaxSeconds / settings.streamPollSeconds * settings.streamPollSeconds = settings.streamMaxSeconds :=
      div_mul_cancel₀ _ settings.polls.ne'
    refine lt_of_mul_lt_mul_right ?_ settings.polls.le
    rw [add_mul,whole]
    simpa using bound
  refine ⟨?_,run_frames polls {},?_,made.le,?_⟩
  · have fresh : ∀ payload ∈ shown (polls.take (turns settings {} polls).length), payload ≠ [] := by
      intro payload member
      obtain ⟨poll,listed,found⟩ := mem_shown member
      rintro rfl
      exact present poll (List.mem_of_mem_take listed) found
    rw [investigationEvents,run_frames,loud_frames polls going there,turns_polls,changes_of_fresh fresh]
  · intro before poll frames later split
    have fits := turns_fit polls going there split
    refine ⟨?_,fits.final⟩
    rintro ⟨frame,member,beat⟩
    have same := fits.beats frame member beat
    cases last : before.getLast? with
    | none =>
      have first : poll ∈ (turns settings {} polls).map Prod.fst := List.mem_map.mpr ⟨(poll,frames),by rw [split]; simp,rfl⟩
      rw [turns_polls] at first
      rw [last] at same
      exact (present poll (List.mem_of_mem_take first) same).elim
    | some turn =>
      rw [last] at same
      exact ⟨turn,rfl,same.symm⟩
  · intro enough unended
    rw [turns_all polls unended] at made
    exact absurd enough (not_le.mpr made)

end

/-- The snapshots of a case before and after it is closed. -/
def openCase : Text := lit "\x7b\"status\": \"in_progress\"\x7d"
def closedCase : Text := lit "\x7b\"status\": \"closed\"\x7d"

/-- A reader that knows these snapshots only. -/
@[reducible] def knowsCase : JsonReader where
  loads text :=
    if text = openCase then some (.dict [(lit "status",.str (lit "in_progress"))])
    else if text = closedCase then some (.dict [(lit "status",.str (lit "closed"))])
    else none
  loads_nil := by decide

/-- A poll a second for at most a minute. -/
def minuteSettings : StreamSettings := ⟨1,15,60,by norm_num,by norm_num,by norm_num⟩

/-- A case polled twice while it is open and once after it was closed. -/
theorem closing_stream :
    let _ := asciiPrinter
    let _ := knowsCase
    (investigationEvents minuteSettings [⟨some openCase,false⟩,⟨some openCase,false⟩,⟨some closedCase,false⟩]).1.filter (!isKeepAlive ·) =
      numbered 0 [openCase,closedCase] ++ ending .settled := by
  intro _ _
  have stream := (connected_stream minuteSettings [⟨some openCase,false⟩,⟨some openCase,false⟩,⟨some closedCase,false⟩]
    (by decide) (by decide)).1
  have made : (turns minuteSettings {} [⟨some openCase,false⟩,⟨some openCase,false⟩,⟨some closedCase,false⟩]).length = 3 := by decide +kernel
  have closed : (investigationEvents minuteSettings [⟨some openCase,false⟩,⟨some openCase,false⟩,⟨some closedCase,false⟩]).2 = some .settled := by
    decide +kernel
  have changed : (shown [⟨some openCase,false⟩,⟨some openCase,false⟩,⟨some closedCase,false⟩]).destutter (· ≠ ·) = [openCase,closedCase] := by
    decide +kernel
  rw [made,closed] at stream
  exact stream.trans (congrArg (numbered 0 · ++ ending .settled) changed)

end SocAnalyst.StreamContents
