import SocAnalyst.LiveStreams

/-!
# Subscribing to the live stream

The hook `useInvestigationStream` of the browser, over the connections that the producer
serves. Whatever event named `end` closes a connection, the hook takes the case as settled.
-/
namespace SocAnalyst.StreamSubscriptions
open SocAnalyst.Builtins SocAnalyst.Values SocAnalyst.EventStreams SocAnalyst.LiveStreams

inductive StreamStatus where
  | connecting
  | live
  | reconnecting
  | ended
  | failed
  deriving DecidableEq, Repr

section
variable [Printer] [JsonReader] (settings : StreamSettings)

/-- A connection: the polls made for it, the chunks of its body that arrived, and the text
    that was lost when it broke. -/
structure Connection where
  polls : List Poll
  chunks : List Text
  lost : Text
  made : ({} : Producer).Makes settings polls
  body : chunks.flatten ++ lost = wire (investigationEvents settings polls).1

/-- What comes of one round of the hook's loop. -/
inductive Reply where
  /-- The request failed or was refused. -/
  | refused
  | connected (connection : Connection settings)

/-- One round of the loop, and whether the hook was unmounted in its course. -/
structure Attempt where
  reply : Reply settings
  aborted : Bool := false

end

/-- The state of the hook. It reconnects for as long as it is running. -/
structure Hook (σ : Type) where
  attempt : Nat := 0
  status : StreamStatus := .connecting
  snapshot : Option σ := none
  stale : Bool := false
  running : Bool := true

section
variable {σ : Type} (parse : Text → Option σ)

/-- `onEvent`: a snapshot that can be read is shown. -/
def Hook.onEvent (hook : Hook σ) (event : StreamEvent) : Hook σ :=
  if event.event ≠ lit "snapshot" then hook
  else match parse event.data with
    | some snapshot => { hook with snapshot := some snapshot, stale := false }
    | none => hook

/-- What follows a round: the stream ended, or it is tried again until the attempts run out. -/
def Hook.conclude (maxAttempts : Nat) (aborted finished : Bool) (hook : Hook σ) : Hook σ :=
  if aborted then { hook with running := false }
  else if finished then { hook with status := .ended, running := false }
  else if maxAttempts < hook.attempt + 1 then
    { hook with stale := true, attempt := hook.attempt + 1, status := .failed, running := false }
  else { hook with stale := true, attempt := hook.attempt + 1, status := .reconnecting }

variable [Printer] [JsonReader] {settings : StreamSettings} (maxAttempts : Nat)

/-- One round of the loop. -/
def Hook.round (hook : Hook σ) (attempt : Attempt settings) : Hook σ :=
  if hook.running = false then hook
  else
    let opened := { hook with status := if hook.attempt = 0 then .connecting else .reconnecting }
    match attempt.reply with
    | .refused => opened.conclude maxAttempts attempt.aborted false
    | .connected connection =>
      let consumer := Consumer.readAll {} connection.chunks
      let live := { opened with attempt := 0, status := .live, stale := false }
      (consumer.dispatched.foldl (Hook.onEvent parse) live).conclude maxAttempts attempt.aborted consumer.final

def Hook.rounds (hook : Hook σ) (attempts : List (Attempt settings)) : Hook σ := attempts.foldl (Hook.round parse maxAttempts) hook

/-- The last state that was polled for the connection is terminal, or the investigation is
    gone. -/
def Attempt.Settled (attempt : Attempt settings) : Prop :=
  ∃ connection, attempt.reply = .connected connection ∧ ∃ last ∈ connection.polls.getLast?, last.Final

/-- The hook reports the end of a settled case only, and otherwise goes on or reports the
    failure. -/
structure Honest (attempt : Attempt settings) (after : Hook σ) : Prop where
  ended : after.status = .ended → attempt.Settled
  otherwise : ¬ attempt.Settled → attempt.aborted = false →
    (after.running = true ∧ after.status = .reconnecting) ∨ (after.running = false ∧ after.status = .failed)

/-- A connection that outlives its bound while the case is open loses its last frame, or
    the hook is gone by then. -/
def Attempt.Timely (attempt : Attempt settings) : Prop :=
  ∀ connection, attempt.reply = .connected connection → Outlives settings 0 connection.polls →
    attempt.aborted = true ∨ connection.lost ≠ []

/-- Every round of a running hook is honest. -/
def HonestThroughout (attempts : List (Attempt settings)) : Prop :=
  ∀ before attempt, before ++ [attempt] <+: attempts → (Hook.rounds parse maxAttempts {} before).running = true →
    Honest attempt (Hook.rounds parse maxAttempts {} (before ++ [attempt]))

end

/-! ### The name of the last frame -/

theorem readAll_final (chunks : List Text) :
    (Consumer.readAll {} chunks).final = (Consumer.readAll {} chunks).dispatched.any fun event => event.event = lit "end" := by
  induction chunks using List.reverseRecOn with
  | nil => rfl
  | append_singleton before chunk ih =>
    have step : Consumer.readAll {} (before ++ [chunk]) = (Consumer.readAll {} before).read chunk := List.foldl_concat ..
    rw [step]
    simp only [Consumer.read,List.any_append,← ih]

theorem quiet_any {frames : List Frame} (quiet : Quiet frames) :
    ((frames.filterMap Frame.received).any fun event => event.event = lit "end") = false := by
  rw [List.any_eq_false]
  intro event member
  obtain ⟨frame,written,received⟩ := List.mem_filterMap.mp member
  simpa using quiet frame written event received

section
variable {frames : List Frame} {chunks : List Text} {lost : Text}

/-- The consumer sees no `end` where none is written. -/
theorem final_quiet (quiet : Quiet frames) (body : chunks.flatten ++ lost = wire frames) :
    (Consumer.readAll {} chunks).final = false := by
  obtain ⟨before,after,rfl,_,_,dispatched⟩ := dispatched_arrived ⟨lost,body⟩
  rw [readAll_final,dispatched]
  exact quiet_any fun frame member => quiet frame (List.mem_append_left _ member)

/-- The frame that ends the stream is seen unless some of the text is lost. -/
theorem final_end {reason : Text} (quiet : Quiet frames) (body : chunks.flatten ++ lost = wire (frames ++ [endFrame reason])) :
    (Consumer.readAll {} chunks).final = true ↔ lost = [] := by
  obtain ⟨before,after,split,arrived,waiting,dispatched⟩ := dispatched_arrived ⟨lost,body⟩
  rw [readAll_final,dispatched]
  rcases List.eq_nil_or_concat' after with rfl | ⟨rest,last,rfl⟩
  · rw [List.append_nil] at split
    subst split
    constructor
    · intro _
      have whole : (chunks.flatten ++ lost).length ≤ chunks.flatten.length := by
        rw [body]
        exact arrived.length_le
      rw [List.length_append] at whole
      exact List.length_eq_zero_iff.mp (by omega)
    · intro _
      rw [List.any_eq_true]
      refine ⟨⟨lit "end",_,none⟩,List.mem_filterMap.mpr ⟨endFrame reason,by simp,rfl⟩,by simp⟩
  · constructor
    · intro seen
      have early : frames = before ++ rest := by
        rw [← List.append_assoc] at split
        exact (List.append_inj' split rfl).1
      rw [quiet_any fun frame member => quiet frame (early ▸ List.mem_append_left _ member)] at seen
      cases seen
    · intro none
      rw [none,List.append_nil] at body
      rw [body,split] at waiting
      have nothing := none_waiting waiting
      simp at nothing

end

/-! ### Rounds -/

section
variable {σ : Type} {parse : Text → Option σ} {hook : Hook σ} {maxAttempts : Nat}

theorem onEvent_frame (event : StreamEvent) :
    (hook.onEvent parse event).status = hook.status ∧ (hook.onEvent parse event).running = hook.running := by
  rw [Hook.onEvent]
  split
  · exact ⟨rfl,rfl⟩
  · split
    · exact ⟨rfl,rfl⟩
    · exact ⟨rfl,rfl⟩

theorem onEvents_frame (events : List StreamEvent) :
    (events.foldl (Hook.onEvent parse) hook).status = hook.status ∧
      (events.foldl (Hook.onEvent parse) hook).running = hook.running := by
  induction events generalizing hook with
  | nil => exact ⟨rfl,rfl⟩
  | cons event rest ih =>
    rw [List.foldl_cons,ih.1,ih.2]
    exact onEvent_frame event

theorem conclude_ended {aborted finished : Bool} (unended : hook.status ≠ .ended) :
    (hook.conclude maxAttempts aborted finished).status = .ended ↔ aborted = false ∧ finished = true := by
  rw [Hook.conclude]
  cases aborted with
  | true => simpa using unended
  | false =>
    cases finished with
    | true => simp
    | false =>
      simp only [Bool.false_eq_true,if_false]
      split
      · simp
      · simp

theorem conclude_unfinished (running : hook.running = true) :
    ((hook.conclude maxAttempts false false).running = true ∧ (hook.conclude maxAttempts false false).status = .reconnecting) ∨
      ((hook.conclude maxAttempts false false).running = false ∧ (hook.conclude maxAttempts false false).status = .failed) := by
  rw [Hook.conclude]
  simp only [Bool.false_eq_true,if_false]
  split
  · exact .inr ⟨rfl,rfl⟩
  · exact .inl ⟨running,rfl⟩

variable [Printer] [JsonReader] {settings : StreamSettings} {attempt : Attempt settings}

/-- A round that sees no final frame goes on or fails. -/
theorem conclude_honest {finished : Bool} (running : hook.running = true) (unended : hook.status ≠ .ended)
    (unseen : finished = false ∨ attempt.aborted = true ∨ attempt.Settled) :
    Honest attempt (hook.conclude maxAttempts attempt.aborted finished) := by
  constructor
  · intro ended
    obtain ⟨mounted,seen⟩ := (conclude_ended unended).mp ended
    rw [mounted,seen] at unseen
    simpa using unseen
  · intro unsettled mounted
    have quiet : finished = false := by
      rw [mounted] at unseen
      simpa [unsettled] using unseen
    rw [mounted,quiet]
    exact conclude_unfinished running

theorem last_open {connection : Connection settings} (outlived : Outlives settings 0 connection.polls) :
    ¬ ∃ last ∈ connection.polls.getLast?, last.Final := by
  rintro ⟨last,found,final⟩
  exact not_open_final (outlived.2.1 last (List.mem_of_getLast? found)) final

/-- What the hook makes of a connection is honest unless its lifetime ran out on an open
    case and the last frame arrived. -/
theorem honest_connection_iff (connection : Connection settings) (aborted : Bool) (running : hook.running = true)
    (unended : hook.status ≠ .ended) :
    Honest ⟨.connected connection,aborted⟩ (hook.conclude maxAttempts aborted (Consumer.readAll {} connection.chunks).final) ↔
      (⟨.connected connection,aborted⟩ : Attempt settings).Timely := by
  have going : ({} : Producer).Going := by
    rw [Producer.Going]
    simp only [isTerminal,JsonReader.loads_nil]
  have course := run_course connection.polls going connection.made
  have body : connection.chunks.flatten ++ connection.lost = wire (({} : Producer).run settings connection.polls).1 := connection.body
  have timely_of_young : ¬ Outlives settings 0 connection.polls → (⟨.connected connection,aborted⟩ : Attempt settings).Timely := by
    rintro young _ ⟨⟩ outlived
    exact absurd outlived young
  generalize ({} : Producer).run settings connection.polls = written at course body
  cases course with
  | runs frames quiet young =>
    exact iff_of_true (conclude_honest running unended (.inl (final_quiet quiet body))) (timely_of_young young)
  | leaves frames quiet young =>
    exact iff_of_true (conclude_honest running unended (.inl (final_quiet quiet body))) (timely_of_young young)
  | finishes frames reason exit quiet stopped final =>
    have settled : (⟨.connected connection,aborted⟩ : Attempt settings).Settled := ⟨connection,rfl,final⟩
    exact iff_of_true (conclude_honest running unended (.inr (.inr settled)))
      (timely_of_young fun outlived => last_open outlived final)
  | expires frames reason quiet outlived =>
    have seen := final_end quiet body
    constructor
    · rintro honest _ ⟨⟩ _
      by_contra lively
      rw [not_or,not_not,Bool.not_eq_true] at lively
      have ended : (hook.conclude maxAttempts aborted (Consumer.readAll {} connection.chunks).final).status = .ended :=
        (conclude_ended unended).mpr ⟨lively.1,seen.mpr lively.2⟩
      obtain ⟨_,⟨⟩,final⟩ := honest.ended ended
      exact last_open outlived final
    · intro timely
      refine conclude_honest running unended ?_
      rcases timely connection rfl outlived with gone | partly
      · exact .inr (.inl gone)
      · exact .inl (Bool.eq_false_iff.mpr fun final => partly (seen.mp final))

/-- A round of a running hook is honest just when the connection is timely. -/
theorem honest_round_iff (running : hook.running = true) : Honest attempt (hook.round parse maxAttempts attempt) ↔ attempt.Timely := by
  have started : ¬ hook.running = false := by simp [running]
  obtain ⟨reply,aborted⟩ := attempt
  rw [Hook.round,if_neg started]
  cases reply with
  | refused =>
    refine iff_of_true (conclude_honest running ?_ (.inl rfl)) fun _ refused => nomatch refused
    show (if hook.attempt = 0 then StreamStatus.connecting else .reconnecting) ≠ .ended
    split
    · decide
    · decide
  | connected connection =>
    apply honest_connection_iff connection aborted
    · exact (onEvents_frame _).2.trans running
    · rw [(onEvents_frame _).1]
      show StreamStatus.live ≠ .ended
      decide

variable (parse maxAttempts) in
/-- The hook ends on settled cases only, and otherwise reconnects or reports the failure,
    exactly when no connection of it outlives its bound on an open case. -/
theorem honestThroughout_iff (attempts : List (Attempt settings)) :
    HonestThroughout parse maxAttempts attempts ↔
      ∀ (before : List (Attempt settings)) (attempt : Attempt settings), before ++ [attempt] <+: attempts →
        (Hook.rounds parse maxAttempts {} before).running = true → attempt.Timely := by
  have step : ∀ (before : List (Attempt settings)) (attempt : Attempt settings), (Hook.rounds parse maxAttempts {} before).running = true →
      (Honest attempt (Hook.rounds parse maxAttempts {} (before ++ [attempt])) ↔ attempt.Timely) := by
    intro before attempt running
    have last : Hook.rounds parse maxAttempts {} (before ++ [attempt]) =
        (Hook.rounds parse maxAttempts {} before).round parse maxAttempts attempt := List.foldl_concat ..
    rw [last]
    exact honest_round_iff running
  exact forall₄_congr fun before attempt _ running => step before attempt running

end

/-! ### A connection that outlives its bound -/

/-- The snapshot of an open case. -/
def openPayload : Text := lit "\x7b\"status\": \"in_progress\"\x7d"

theorem nothing_open : (if ([] : Text) = openPayload then some (Value.dict [(lit "status",.str (lit "in_progress"))]) else none) = none :=
  if_neg (by decide)

/-- A reader that knows this snapshot only. -/
@[reducible] def knowsOpen : JsonReader where
  loads text := if text = openPayload then some (.dict [(lit "status",.str (lit "in_progress"))]) else none
  loads_nil := nothing_open

theorem one_second : (0 : ℚ) < 1 := zero_lt_one
theorem fifteen_seconds : (0 : ℚ) < 15 := by norm_num

/-- A poll a second, and a second for each connection. -/
def briefSettings : StreamSettings := ⟨1,15,1,one_second,fifteen_seconds,one_second⟩

/-- The case is open. -/
def openPoll : Poll := ⟨some openPayload,false⟩

theorem openPoll_open : let _ := asciiPrinter; let _ := knowsOpen; openPoll.Open := by
  intro _ _
  exact ⟨⟨openPayload,rfl,by decide +kernel⟩,rfl⟩

theorem two_polls_made : let _ := asciiPrinter; let _ := knowsOpen; ({} : Producer).Makes briefSettings [openPoll,openPoll] := by
  intro _ _
  have going : isTerminal openPayload = false := by decide +kernel
  have young : ¬ (1 : ℚ) ≤ 0 := by norm_num
  have fresh : openPayload ≠ [] := by decide
  simp [Producer.Makes,Producer.turn,Producer.wait,openPoll,briefSettings,going,young,fresh]

/-- Everything that was written over two polls arrives. -/
def expired : let _ := asciiPrinter; let _ := knowsOpen; Connection briefSettings :=
  let _ := asciiPrinter
  let _ := knowsOpen
  { polls := [openPoll,openPoll], chunks := [wire (investigationEvents briefSettings [openPoll,openPoll]).1], lost := []
    made := two_polls_made, body := (List.append_nil _).trans (List.append_nil _) }

theorem expired_outlives : let _ := asciiPrinter; let _ := knowsOpen; Outlives briefSettings 0 [openPoll,openPoll] := by
  intro _ _
  refine ⟨List.cons_ne_nil _ _,?_,?_⟩
  · simpa using openPoll_open
  · simp [briefSettings]
    norm_num

/-- After the lifetime of a connection ran out the hook reports the end of an open case. -/
theorem open_case_ended :
    let _ := asciiPrinter
    let _ := knowsOpen
    ¬ ∀ (settings : StreamSettings) (parse : Text → Option Text) (maxAttempts : Nat) (attempts : List (Attempt settings)),
      HonestThroughout parse maxAttempts attempts := by
  intro _ _ law
  let attempt : Attempt briefSettings := ⟨.connected expired,false⟩
  have honest : Honest attempt (({} : Hook Text).round some 6 attempt) := law briefSettings some 6 [attempt] [] attempt (List.prefix_refl _) rfl
  have timely : attempt.Timely := (honest_round_iff rfl).mp honest
  rcases timely expired rfl expired_outlives with gone | partly
  · cases gone
  · exact partly rfl

end SocAnalyst.StreamSubscriptions
