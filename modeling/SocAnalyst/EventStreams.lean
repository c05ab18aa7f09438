import SocAnalyst.Blocks
import SocAnalyst.Builtins

/-!
# Server-sent events

`format_event` of `api/stream.py`, which writes the frames of the event stream, and
`realtime/stream.ts`, which reads them back from whatever chunks the network delivers.
-/
namespace SocAnalyst.EventStreams
open SocAnalyst.Builtins SocAnalyst.Blocks

/-! ### Writing -/

/-- Render one frame. -/
def formatEvent (event data : Text) (eventId : Option Int) : Text :=
  let lines := [lit "event: " ++ event] ++ (eventId.map fun id => lit "id: " ++ lit (toString id)).toList ++
    (data.splitOn 10).map fun line => lit "data: " ++ line
  joined [10] lines ++ [10,10]

/-- The comment frame sent on an idle connection. -/
def keepAlive : Text := lit ": keep-alive\n\n"

/-! ### Reading -/

structure StreamEvent where
  event : Text
  data : Text
  id : Option Text
  deriving DecidableEq

/-- What the loop over the lines of a frame has read. -/
structure Reading where
  event : Text := lit "message"
  id : Option Text := none
  data : List Text := []

/-- The value of a field; one blank after the colon belongs to the framing. -/
def fieldValue (line : Text) : Text :=
  let rawValue := (line.dropWhile (· ≠ 58)).drop 1
  if rawValue.head? = some 32 then rawValue.drop 1 else rawValue

/-- One turn of the loop. -/
def Reading.readLine (reading : Reading) (line : Text) : Reading :=
  if line = [] ∨ line.head? = some 58 then reading
  else
    let field := line.takeWhile (· ≠ 58)
    let value := fieldValue line
    if field = lit "event" then { reading with event := value }
    else if field = lit "data" then { reading with data := reading.data ++ [value] }
    else if field = lit "id" then { reading with id := some value }
    else reading

/-- Parse a completed frame; nothing for a frame without data. -/
def parseFrame (block : Text) : Option StreamEvent :=
  let reading := (block.splitOn 10).foldl Reading.readLine {}
  if reading.data = [] then none else some ⟨reading.event,joined [10] reading.data,reading.id⟩

/-- Split a buffer into completed frames plus whatever remains unterminated. -/
def drainFrames (buffer : Text) : List StreamEvent × Text := ((cut 10 buffer).1.filterMap parseFrame,(cut 10 buffer).2)

/-- The state of `consumeStream`. -/
structure Consumer where
  buffer : Text := []
  final : Bool := false
  /-- The events handed to `onEvent`, in order. -/
  dispatched : List StreamEvent := []

/-- One chunk of the body. -/
def Consumer.read (consumer : Consumer) (chunk : Text) : Consumer :=
  let (events,rest) := drainFrames (consumer.buffer ++ chunk)
  { buffer := rest
    final := consumer.final || events.any fun event => event.event = lit "end"
    dispatched := consumer.dispatched ++ events }

def Consumer.readAll (consumer : Consumer) (chunks : List Text) : Consumer := chunks.foldl Consumer.read consumer

/-! ### What is sent -/

/-- An event as the server sends it; its name is one line. -/
structure SentEvent where
  name : Text
  data : Text
  id : Option Int
  oneLine : 10 ∉ name

inductive Frame where
  | event (sent : SentEvent)
  | keepAlive

def Frame.text : Frame → Text
  | .event sent => formatEvent sent.name sent.data sent.id
  | .keepAlive => EventStreams.keepAlive

/-- The event a client should see, none for a keep-alive. -/
def Frame.received : Frame → Option StreamEvent
  | .event sent => some ⟨sent.name,sent.data,sent.id.map fun id => lit (toString id)⟩
  | .keepAlive => none

/-- Frames one after the other. -/
def wire (frames : List Frame) : Text := frames.flatMap Frame.text

/-- After any number of chunks the events dispatched are those of the frames that have
    arrived whole, and in the end those of all of them. -/
structure Delivers (frames : List Frame) (chunks : List Text) : Prop where
  arrived : ∀ received, received <+: chunks → ∃ before after, frames = before ++ after ∧
    wire before <+: received.flatten ∧ (∀ next ∈ after.head?, ¬ wire (before ++ [next]) <+: received.flatten) ∧
    (Consumer.readAll {} received).dispatched = before.filterMap Frame.received
  complete : (Consumer.readAll {} chunks).dispatched = frames.filterMap Frame.received

/-! ### Lines of a frame -/

theorem number_oneLine (id : Int) : 10 ∉ lit (toString id) := by
  have digits : ∀ n : Nat, 10 ∉ lit (toString n) := by
    intro n member
    have := digits_number member
    omega
  cases id with
  | ofNat n => exact digits n
  | negSucc n =>
    have shape : lit (toString (Int.negSucc n)) = lit "-" ++ lit (toString (n + 1)) := by
      rw [lit,lit,lit,← List.map_append,← String.toList_append]
      rfl
    rw [shape,List.mem_append,not_or]
    exact ⟨by decide,digits _⟩

/-- The line of a field. -/
def fieldLine (field value : Text) : Text := field ++ lit ": " ++ value

theorem fieldLine_free {field value : Text} (name : 10 ∉ field) (oneLine : 10 ∉ value) :
    fieldLine field value ≠ [] ∧ 10 ∉ fieldLine field value := by
  refine ⟨by simp [fieldLine,lit],?_⟩
  rw [fieldLine,List.mem_append,List.mem_append,not_or,not_or]
  exact ⟨⟨name,by decide⟩,oneLine⟩

/-- The lines that a sent event is written in. -/
def SentEvent.lines (sent : SentEvent) : List Text :=
  [fieldLine (lit "event") sent.name] ++ (sent.id.map fun id => fieldLine (lit "id") (lit (toString id))).toList ++
    (sent.data.splitOn 10).map (fieldLine (lit "data"))

theorem SentEvent.lines_free (sent : SentEvent) : ∀ line ∈ sent.lines, line ≠ [] ∧ 10 ∉ line := by
  intro line member
  rw [SentEvent.lines,List.mem_append,List.mem_append] at member
  rcases member with (first | second) | third
  · rw [List.mem_singleton.mp first]
    exact fieldLine_free (by decide) sent.oneLine
  · obtain ⟨id,_,rfl⟩ := Option.map_eq_some_iff.mp (Option.mem_toList.mp second)
    exact fieldLine_free (by decide) (number_oneLine id)
  · obtain ⟨value,inside,rfl⟩ := List.mem_map.mp third
    exact fieldLine_free (by decide) (not_mem_splitOn _ value inside)

/-- A frame without the blank line that ends it. -/
def Frame.block : Frame → Text
  | .event sent => joined [10] sent.lines
  | .keepAlive => lit ": keep-alive"

theorem Frame.text_eq (frame : Frame) : frame.text = frame.block ++ [10,10] := by
  cases frame with
  | event sent =>
    have lines : sent.lines = [lit "event: " ++ sent.name] ++ (sent.id.map fun id => lit "id: " ++ lit (toString id)).toList ++
        (sent.data.splitOn 10).map fun line => lit "data: " ++ line := rfl
    rw [Frame.text,Frame.block,formatEvent,lines]
  | keepAlive => rfl

theorem Frame.solid (frame : Frame) : Solid 10 frame.block := by
  cases frame with
  | event sent =>
    rw [Frame.block,joined_eq_intercalate]
    exact solid_intercalate sent.lines_free
  | keepAlive => exact chain_line (by decide)

theorem wire_eq (frames : List Frame) : wire frames = ended 10 (frames.map Frame.block) := by
  rw [wire,ended,List.flatMap_map]
  exact List.flatMap_congr fun frame _ => frame.text_eq

theorem wire_append (first second : List Frame) : wire (first ++ second) = wire first ++ wire second := List.flatMap_append

/-! ### Reading the lines back -/

/-- A field that the parser knows. -/
def Field (field : Text) : Prop := field ≠ [] ∧ 58 ∉ field

theorem fieldLine_parts {field : Text} (known : Field field) (value : Text) :
    (fieldLine field value).takeWhile (· ≠ 58) = field ∧ fieldValue (fieldLine field value) = value := by
  have clear : ∀ c ∈ field, decide (c ≠ 58) = true := by
    intro c member
    exact decide_eq_true fun same => known.2 (same ▸ member)
  have shape : fieldLine field value = field ++ 58 :: 32 :: value := by simp [fieldLine,lit]
  have front : (field ++ 58 :: 32 :: value).takeWhile (· ≠ 58) = field := by
    rw [List.takeWhile_append_of_pos clear]
    simp
  have back : (field ++ 58 :: 32 :: value).dropWhile (· ≠ 58) = 58 :: 32 :: value := by
    rw [List.dropWhile_append_of_pos clear]
    simp
  rw [shape,fieldValue,back]
  exact ⟨front,rfl⟩

theorem readLine_field {field : Text} (known : Field field) (reading : Reading) (value : Text) :
    reading.readLine (fieldLine field value) =
      if field = lit "event" then { reading with event := value }
      else if field = lit "data" then { reading with data := reading.data ++ [value] }
      else if field = lit "id" then { reading with id := some value }
      else reading := by
  have read : ¬ (fieldLine field value = [] ∨ (fieldLine field value).head? = some 58) := by
    obtain ⟨some,clear⟩ := known
    obtain ⟨c,rest,rfl⟩ := List.exists_cons_of_ne_nil some
    rintro (none | colon)
    · cases none
    · have same : c = 58 := by simpa [fieldLine] using colon
      exact clear (same ▸ List.mem_cons_self)
  obtain ⟨name,held⟩ := fieldLine_parts known value
  rw [Reading.readLine,if_neg read]
  simp only [name,held]

theorem readLines_data (reading : Reading) (values : List Text) :
    (values.map (fieldLine (lit "data"))).foldl Reading.readLine reading = { reading with data := reading.data ++ values } := by
  have known : Field (lit "data") := ⟨by decide,by decide⟩
  induction values generalizing reading with
  | nil => simp
  | cons value rest ih =>
    rw [List.map_cons,List.foldl_cons,readLine_field known,if_neg (by decide),if_pos rfl,ih,List.append_assoc]
    rfl

theorem readLines_sent (sent : SentEvent) :
    sent.lines.foldl Reading.readLine {} = ⟨sent.name,sent.id.map fun id => lit (toString id),sent.data.splitOn 10⟩ := by
  have event : Field (lit "event") := ⟨by decide,by decide⟩
  have id : Field (lit "id") := ⟨by decide,by decide⟩
  rw [SentEvent.lines,List.foldl_append,List.foldl_append,readLines_data,List.foldl_cons,List.foldl_nil,readLine_field event,
    if_pos rfl]
  cases sent.id with
  | none => rfl
  | some number =>
    simp only [Option.map_some,Option.toList_some,List.foldl_cons,List.foldl_nil]
    rw [readLine_field id,if_neg (by decide),if_neg (by decide),if_pos rfl]
    rfl

/-- A frame is read as it was sent. -/
theorem parseFrame_block (frame : Frame) : parseFrame frame.block = frame.received := by
  cases frame with
  | event sent =>
    have lines : (joined [10] sent.lines).splitOn 10 = sent.lines := by
      rw [joined_eq_intercalate]
      exact List.splitOn_intercalate 10 (fun line member => (sent.lines_free line member).2) (by simp [SentEvent.lines])
    have some : sent.data.splitOn 10 ≠ [] := List.splitOn_ne_nil _ _
    rw [Frame.block,parseFrame,lines,readLines_sent,if_neg some,joined_eq_intercalate,List.intercalate_splitOn]
    rfl
  | keepAlive => decide +kernel

/-! ### Chunks -/

/-- The consumer has dispatched the blocks completed so far, and holds the rest. -/
theorem readAll_cut (chunks : List Text) :
    (Consumer.readAll {} chunks).dispatched = (cut 10 chunks.flatten).1.filterMap parseFrame ∧
      (Consumer.readAll {} chunks).buffer = (cut 10 chunks.flatten).2 := by
  induction chunks using List.reverseRecOn with
  | nil => exact ⟨rfl,rfl⟩
  | append_singleton before chunk ih =>
    obtain ⟨dispatched,buffer⟩ := ih
    have step : Consumer.readAll {} (before ++ [chunk]) = (Consumer.readAll {} before).read chunk := List.foldl_concat ..
    rw [step,List.flatten_concat,cut_append,List.filterMap_append]
    simp only [Consumer.read,drainFrames,dispatched,buffer,and_self]

theorem received_blocks (frames : List Frame) : (frames.map Frame.block).filterMap parseFrame = frames.filterMap Frame.received := by
  rw [List.filterMap_map]
  exact List.filterMap_congr fun frame _ => parseFrame_block frame

theorem dispatched_arrived {frames : List Frame} {received : List Text} (part : received.flatten <+: wire frames) :
    ∃ before after, frames = before ++ after ∧ wire before <+: received.flatten ∧
      (∀ next ∈ after.head?, ¬ wire (before ++ [next]) <+: received.flatten) ∧
      (Consumer.readAll {} received).dispatched = before.filterMap Frame.received := by
  rw [wire_eq] at part
  have solid : ∀ block ∈ frames.map Frame.block, Solid 10 block := by
    intro block member
    obtain ⟨frame,_,rfl⟩ := List.mem_map.mp member
    exact frame.solid
  obtain ⟨front,back,split,completed,arrived,waiting⟩ := cut_prefix solid part
  obtain ⟨before,after,rfl,rfl,rfl⟩ := List.map_eq_append_iff.mp split
  refine ⟨before,after,rfl,?_,?_,?_⟩
  · rw [wire_eq]
    exact arrived
  · intro next first more
    rw [wire_eq,List.map_append] at more
    exact waiting next.block (by rw [List.head?_map,first]; rfl) more
  · rw [(readAll_cut received).1,completed,received_blocks]

/-- When everything has arrived, nothing waits. -/
theorem none_waiting {before after : List Frame}
    (waiting : ∀ next ∈ after.head?, ¬ wire (before ++ [next]) <+: wire (before ++ after)) : after = [] := by
  cases after with
  | nil => rfl
  | cons next rest =>
    refine absurd ?_ (waiting next rfl)
    have split : before ++ next :: rest = (before ++ [next]) ++ rest := List.append_cons ..
    rw [split,wire_append _ rest]
    exact List.prefix_append _ _

/-- Whatever way the text is cut into chunks, the events are dispatched unchanged and in
    order, each once its blank line has arrived. -/
theorem chunks_delivered (frames : List Frame) (chunks : List Text) (sent : chunks.flatten = wire frames) : Delivers frames chunks where
  arrived received part := by
    obtain ⟨later,rfl⟩ := part
    rw [List.flatten_append] at sent
    exact dispatched_arrived ⟨later.flatten,sent⟩
  complete := by
    have whole : chunks.flatten <+: wire frames := by rw [sent]
    obtain ⟨before,after,rfl,_,waiting,dispatched⟩ := dispatched_arrived whole
    rw [sent] at waiting
    rw [dispatched,none_waiting waiting,List.append_nil]

theorem snapshot_oneLine : 10 ∉ lit "snapshot" := by decide

/-- A snapshot of two lines, cut in the middle of the blank line between the frames. -/
theorem snapshot_delivered :
    Delivers [.event ⟨lit "snapshot",lit "a\n :b",some 1,snapshot_oneLine⟩,.keepAlive]
      [lit "event: snapshot\nid: 1\ndata: a\ndata:  :b\n",lit "\n: keep-alive\n\n"] :=
  chunks_delivered _ _ (by decide +kernel)

end SocAnalyst.EventStreams
