import SocAnalyst.GraphService
import Mathlib.Data.Finset.Insert
import Mathlib.Data.Fintype.EquivFin

/-!
# Checkpoint histories

The threads of `graph/runtime.py`: every node leaves a checkpoint, `resume` goes on from
the newest one and `rollback` from any that was retained. Calls take their nodes one by
one and may stop anywhere, so the calls on one investigation interleave.
-/
namespace SocAnalyst.Graph.History
open SocAnalyst.Builtins SocAnalyst.Values SocAnalyst.Dicts SocAnalyst.Risk SocAnalyst.Decisions SocAnalyst.Runs

/-- A retained checkpoint. -/
structure Saved where
  checkpointId : Text
  checkpoint : Checkpoint

/-- A reference to one checkpoint in an investigation's history. -/
structure CheckpointRef where
  checkpointId : Text
  nextNodes : List Node
  pending : Bool

/-- A call that drives the graph, and the decision it has at hand. -/
structure Flight where
  investigationId : Text
  checkpoint : Checkpoint
  decision : Option Mapping

structure World where
  /-- The checkpoints of an investigation, newest first. -/
  threads : Text → List Saved
  /-- The decisions that were accepted for an investigation. -/
  given : Text → List Mapping
  flights : Nat → Option Flight

namespace World

def fresh : World := ⟨fun _ => [],fun _ => [],fun _ => none⟩

def fly (w : World) (caller : Nat) (flight : Option Flight) : World := { w with flights := Function.update w.flights caller flight }

def save (w : World) (investigationId : Text) (saved : Saved) : World :=
  { w with threads := Function.update w.threads investigationId (saved :: w.threads investigationId) }

def accept (w : World) (investigationId : Text) (decision : Mapping) : World :=
  { w with given := Function.update w.given investigationId (decision :: w.given investigationId) }

/-- Return the investigation's checkpoint history, newest first. -/
def history (w : World) (investigationId : Text) : List CheckpointRef :=
  (w.threads investigationId).map fun saved => ⟨saved.checkpointId,saved.checkpoint.next.toList,saved.checkpoint.next.isSome⟩

end World

inductive Move where
  | start (caller : Nat) (investigationId checkpointId : Text)
  | resume (caller : Nat) (investigationId : Text) (decision : GivenDecision)
  | rollback (caller : Nat) (investigationId checkpointId : Text)
  | node (caller : Nat) (checkpointId : Text)
  | stop (caller : Nat)

section
variable [Printer] (agents : Agents)

/-- The seed of an investigation. -/
def Seeds (investigationId : Text) (values : GraphState) : Prop :=
  ∃ triggerSource configSnapshot createdAt evidence assets,
    newState investigationId triggerSource configSnapshot createdAt evidence assets = .ok values

/-- One step of a caller. An investigation is started once, and its oldest checkpoint is the
    seed: the checkpoint of the input before it is left out. A rollback may find the decision
    that was given at its checkpoint. -/
inductive Step : World → Move → World → Prop where
  | start {w : World} {caller : Nat} {investigationId : Text} {values : GraphState} (free : w.flights caller = none)
      (first : w.threads investigationId = []) (seeded : Seeds investigationId values) (checkpointId : Text) :
      Step w (.start caller investigationId checkpointId)
        ((w.save investigationId ⟨checkpointId,values,some .INGEST_SEED⟩).fly caller (some ⟨investigationId,⟨values,some .INGEST_SEED⟩,none⟩))
  | resume {w : World} {caller : Nat} {investigationId : Text} {given : GivenDecision} {decision : Mapping} {newest : Saved}
      (free : w.flights caller = none) (last : (w.threads investigationId).head? = some newest) (waits : newest.checkpoint.next ≠ none)
      (accepted : coerceDecision given = .ok decision) :
      Step w (.resume caller investigationId given)
        ((w.accept investigationId decision).fly caller (some ⟨investigationId,newest.checkpoint,some decision⟩))
  | rollback {w : World} {caller : Nat} {investigationId : Text} {saved : Saved} (free : w.flights caller = none)
      (known : saved ∈ w.threads investigationId) (decision : Option Mapping) (formerly : ∀ data ∈ decision, data ∈ w.given investigationId) :
      Step w (.rollback caller investigationId saved.checkpointId) (w.fly caller (some ⟨investigationId,saved.checkpoint,decision⟩))
  | node {w : World} {caller : Nat} {flight : Flight} {node : Node} {update : Update} {next : Checkpoint} {checkpointId : Text}
      (flies : w.flights caller = some flight) (waiting : flight.checkpoint.next = some node)
      (ran : advance agents node flight.decision flight.checkpoint.values = .ok (update,next))
      (new : ∀ saved ∈ w.threads flight.investigationId, saved.checkpointId ≠ checkpointId) :
      Step w (.node caller checkpointId)
        ((w.save flight.investigationId ⟨checkpointId,next⟩).fly caller (some ⟨flight.investigationId,next,none⟩))
  | stop (w : World) (caller : Nat) : Step w (.stop caller) (w.fly caller none)

variable {agents}

/-! ### What a checkpoint rests on -/

/-- A node takes no decision but the one at hand. -/
theorem advance_takes {here next : Checkpoint} {node : Node} {decision : Option Mapping} {update : Update} (waiting : here.next = some node)
    (ran : advance agents node decision here.values = .ok (update,next))
    (accepted : ∀ data ∈ decision, ∃ given, coerceDecision given = .ok data) :
    ∃ pass, Graph.Step agents here pass next ∧ ∀ data ∈ pass.decision, data ∈ decision := by
  by_cases gate : node = .HUMAN_GATE
  · subst gate
    obtain ⟨executed,_⟩ := advance_ok.mp ran
    have consumed := (humanGate_writes executed).conversation
    rw [if_pos rfl] at consumed
    obtain ⟨data,rfl,_⟩ := consumed
    exact ⟨⟨.HUMAN_GATE,some data⟩,⟨waiting,⟨update,ran⟩,rfl,accepted data rfl⟩,fun _ => id⟩
  · refine ⟨⟨node,none⟩,⟨waiting,⟨update,?_⟩,gate⟩,by simp⟩
    rw [← ran]
    unfold advance
    rw [execute_elsewhere gate decision]

/-- A checkpoint lies on a path from the oldest one of its thread, the seed, and every
    decision on the path was given for its investigation. -/
def World.Reaches (agents : Agents) (w : World) (investigationId : Text) (passes : List Pass) (here : Checkpoint) : Prop :=
  ∃ values oldest, (w.threads investigationId).getLast? = some oldest ∧ oldest.checkpoint = ⟨values,some .INGEST_SEED⟩ ∧
    Seeds investigationId values ∧ Run (Graph.Step agents) oldest.checkpoint passes here ∧
    ∀ pass ∈ passes, ∀ decision ∈ pass.decision, decision ∈ w.given investigationId

/-- Checkpoints and decisions are only added, and no seed is put under those there are. -/
structure World.Grows (w next : World) : Prop where
  threads : ∀ investigationId, w.threads investigationId <:+ next.threads investigationId
  given : ∀ investigationId, w.given investigationId ⊆ next.given investigationId

omit [Printer] in
theorem World.Grows.refl (w : World) : w.Grows w := ⟨fun _ => List.suffix_rfl,fun _ _ => id⟩

omit [Printer] in
theorem World.Grows.trans {w next later : World} (first : w.Grows next) (second : next.Grows later) : w.Grows later :=
  ⟨fun investigationId => (first.threads investigationId).trans (second.threads investigationId),
    fun investigationId => List.Subset.trans (first.given investigationId) (second.given investigationId)⟩

theorem World.Reaches.mono {w next : World} (grows : w.Grows next) {investigationId : Text} {passes : List Pass} {here : Checkpoint}
    (reaches : w.Reaches agents investigationId passes here) : next.Reaches agents investigationId passes here := by
  obtain ⟨values,oldest,last,seed,seeded,run,decided⟩ := reaches
  refine ⟨values,oldest,?_,seed,seeded,run,fun pass listed data taken => grows.given _ (decided pass listed data taken)⟩
  obtain ⟨front,same⟩ := grows.threads investigationId
  rw [← same,List.getLast?_append,last]
  rfl

structure Sound (agents : Agents) (w : World) : Prop where
  threads : ∀ investigationId, ∀ saved ∈ w.threads investigationId, ∃ passes, w.Reaches agents investigationId passes saved.checkpoint
  flights : ∀ caller flight, w.flights caller = some flight →
    (∃ passes, w.Reaches agents flight.investigationId passes flight.checkpoint) ∧
      ∀ data ∈ flight.decision, data ∈ w.given flight.investigationId
  given : ∀ investigationId, ∀ data ∈ w.given investigationId, ∃ given, coerceDecision given = .ok data
  once : ∀ investigationId, ((w.threads investigationId).map (·.checkpointId)).Nodup

omit [Printer] in
theorem World.Grows.fly {w next : World} (grows : w.Grows next) (caller : Nat) (flight : Option Flight) : w.Grows (next.fly caller flight) :=
  ⟨grows.threads,grows.given⟩

omit [Printer] in
theorem grows_save (w : World) (investigationId : Text) (saved : Saved) : w.Grows (w.save investigationId saved) := by
  refine ⟨fun other => ?_,fun _ _ => id⟩
  by_cases same : other = investigationId
  · subst same
    simp [World.save]
  · simp [World.save,same]

omit [Printer] in
theorem grows_accept (w : World) (investigationId : Text) (decision : Mapping) : w.Grows (w.accept investigationId decision) := by
  refine ⟨fun _ => List.suffix_rfl,fun other => ?_⟩
  by_cases same : other = investigationId
  · subst same
    simp [World.accept]
  · simp [World.accept,same]

section
variable {w : World} (sound : Sound agents w)
include sound

/-- A caller takes off from what its investigation reached. -/
theorem Sound.fly (caller : Nat) (flight : Flight) {passes : List Pass} (reaches : w.Reaches agents flight.investigationId passes flight.checkpoint)
    (known : ∀ data ∈ flight.decision, data ∈ w.given flight.investigationId) : Sound agents (w.fly caller (some flight)) := by
  refine ⟨sound.threads,fun other held flies => ?_,sound.given,sound.once⟩
  by_cases same : other = caller
  · subst same
    obtain rfl : flight = held := by simpa [World.fly] using flies
    exact ⟨⟨passes,reaches⟩,known⟩
  · exact sound.flights other held (by simpa [World.fly,same] using flies)

theorem Sound.land (caller : Nat) : Sound agents (w.fly caller none) := by
  refine ⟨sound.threads,fun other held flies => ?_,sound.given,sound.once⟩
  by_cases same : other = caller
  · simp [World.fly,same] at flies
  · exact sound.flights other held (by simpa [World.fly,same] using flies)

/-- A checkpoint is retained. -/
theorem Sound.save {investigationId : Text} {saved : Saved} {passes : List Pass}
    (reaches : (w.save investigationId saved).Reaches agents investigationId passes saved.checkpoint)
    (new : ∀ other ∈ w.threads investigationId, other.checkpointId ≠ saved.checkpointId) : Sound agents (w.save investigationId saved) := by
  have grows := grows_save w investigationId saved
  refine ⟨fun other kept listed => ?_,fun caller flight flies => ?_,sound.given,fun other => ?_⟩
  · by_cases same : other = investigationId
    · subst same
      rcases List.mem_cons.mp (by simpa [World.save] using listed) with rfl | earlier
      · exact ⟨passes,reaches⟩
      · obtain ⟨path,old⟩ := sound.threads other kept earlier
        exact ⟨path,old.mono grows⟩
    · obtain ⟨path,old⟩ := sound.threads other kept (by simpa [World.save,same] using listed)
      exact ⟨path,old.mono grows⟩
  · obtain ⟨⟨path,old⟩,known⟩ := sound.flights caller flight flies
    exact ⟨⟨path,old.mono grows⟩,known⟩
  · by_cases same : other = investigationId
    · subst same
      simpa [World.save,sound.once] using new
    · simpa [World.save,same] using sound.once other

theorem Sound.accept {given : GivenDecision} {decision : Mapping} (accepted : coerceDecision given = .ok decision) (investigationId : Text) :
    Sound agents (w.accept investigationId decision) := by
  have grows := grows_accept w investigationId decision
  refine ⟨fun other kept listed => ?_,fun caller flight flies => ?_,fun other data listed => ?_,sound.once⟩
  · obtain ⟨path,old⟩ := sound.threads other kept listed
    exact ⟨path,old.mono grows⟩
  · obtain ⟨⟨path,old⟩,known⟩ := sound.flights caller flight flies
    exact ⟨⟨path,old.mono grows⟩,fun data held => grows.given _ (known data held)⟩
  · by_cases same : other = investigationId
    · subst same
      rcases List.mem_cons.mp (by simpa [World.accept] using listed) with rfl | earlier
      · exact ⟨given,accepted⟩
      · exact sound.given other data earlier
    · exact sound.given other data (by simpa [World.accept,same] using listed)

theorem Sound.step {next : World} {move : Move} (step : Step agents w move next) : Sound agents next := by
  cases step with
  | @start caller investigationId values free first seeded checkpointId =>
    have rooted : (w.save investigationId ⟨checkpointId,values,some .INGEST_SEED⟩).Reaches agents investigationId []
        ⟨values,some .INGEST_SEED⟩ :=
      ⟨values,⟨checkpointId,values,some .INGEST_SEED⟩,by simp [World.save,first],rfl,seeded,.stop _,by simp⟩
    exact (sound.save rooted (by simp [first])).fly caller ⟨investigationId,⟨values,some .INGEST_SEED⟩,none⟩ rooted (by simp)
  | @resume caller investigationId given decision newest free last waits accepted =>
    obtain ⟨passes,reaches⟩ := sound.threads investigationId newest (List.mem_of_mem_head? last)
    exact (sound.accept accepted investigationId).fly caller ⟨investigationId,newest.checkpoint,some decision⟩
      (reaches.mono (grows_accept w investigationId decision)) (by simp [World.accept])
  | @rollback caller investigationId saved free known decision formerly =>
    obtain ⟨passes,reaches⟩ := sound.threads investigationId saved known
    exact sound.fly caller ⟨investigationId,saved.checkpoint,decision⟩ reaches formerly
  | @node caller flight node update next checkpointId flies waiting ran new =>
    obtain ⟨⟨passes,reaches⟩,known⟩ := sound.flights caller flight flies
    obtain ⟨pass,step,taken⟩ := advance_takes waiting ran fun data held => sound.given _ data (known data held)
    have onward : (w.save flight.investigationId ⟨checkpointId,next⟩).Reaches agents flight.investigationId (passes ++ [pass]) next := by
      obtain ⟨values,oldest,last,seed,seeded,run,decided⟩ := reaches.mono (grows_save w flight.investigationId ⟨checkpointId,next⟩)
      refine ⟨values,oldest,last,seed,seeded,run.snoc step,fun other listed data held => ?_⟩
      rcases List.mem_append.mp listed with earlier | new
      · exact decided other earlier data held
      · obtain rfl := List.mem_singleton.mp new
        exact known data (taken data held)
    exact (sound.save onward new).fly caller ⟨flight.investigationId,next,none⟩ onward (by simp)
  | stop caller => exact sound.land caller

end

theorem sound_fresh : Sound agents World.fresh := ⟨by simp [World.fresh],by simp [World.fresh],by simp [World.fresh],by simp [World.fresh]⟩

theorem Step.grows {w next : World} {move : Move} (step : Step agents w move next) : w.Grows next := by
  cases step with
  | @start caller investigationId values free first seeded checkpointId => exact (grows_save w investigationId _).fly caller _
  | @resume caller investigationId given decision newest free last waits accepted => exact (grows_accept w investigationId decision).fly caller _
  | rollback => exact (World.Grows.refl w).fly _ _
  | @node caller flight node update next checkpointId flies waiting ran new => exact (grows_save w flight.investigationId _).fly caller _
  | stop => exact (World.Grows.refl w).fly _ _

/-- Whatever calls start, resume, roll back and break off, in any order, every checkpoint is
    retained under an id of its own and was reached from its investigation's seed along the
    declared edges, by decisions that were given for that investigation, so nobody was
    notified on the way but right after an approving one. -/
theorem rollback_retains {moves more : List Move} {w later : World} (run : Run (Step agents) World.fresh moves w)
    (after : Run (Step agents) w more later) (investigationId : Text) :
    w.threads investigationId <:+ later.threads investigationId ∧ ((later.history investigationId).map (·.checkpointId)).Nodup ∧
    ∀ saved ∈ later.threads investigationId, ∃ passes, later.Reaches agents investigationId passes saved.checkpoint ∧
      Investigated agents passes saved.checkpoint := by
  have sound : Sound agents later := (run.append after).invariant (fun _ _ _ sound step => sound.step step) sound_fresh
  have grows := after.relates World.Grows.refl (fun _ _ _ => World.Grows.trans) fun _ _ _ => Step.grows
  refine ⟨grows.threads investigationId,?_,fun saved listed => ?_⟩
  · rw [World.history,List.map_map]
    exact sound.once investigationId
  · obtain ⟨passes,reaches⟩ := sound.threads investigationId saved listed
    refine ⟨passes,reaches,?_⟩
    obtain ⟨values,oldest,_,seed,⟨_,_,_,_,_,seeded⟩,run,_⟩ := reaches
    have tracked : Tracked ([] ++ passes) saved.checkpoint := run_tracked (Tracked.seeded seeded) (seed ▸ run)
    exact tracked.investigated

/-- A call that is left alone takes the nodes that `stream` takes, and retains a checkpoint
    of each. -/
theorem call_streams {w : World} {caller : Nat} {flight : Flight} (flies : w.flights caller = some flight) :
    ∃ moves next decision, Run (Step agents) w moves next ∧
      next.flights caller = some ⟨flight.investigationId,(stream agents flight.decision flight.checkpoint).2.1,decision⟩ ∧
      (next.threads flight.investigationId).length =
        (w.threads flight.investigationId).length + (stream agents flight.decision flight.checkpoint).1.length := by
  obtain ⟨investigationId,here,decision⟩ := flight
  simp only
  revert w
  fun_induction stream agents decision here with
  | case1 decision here ended => exact fun {w} flies => ⟨[],w,decision,.stop w,flies,rfl⟩
  | case2 decision here node waiting payload paused => exact fun {w} flies => ⟨[],w,decision,.stop w,flies,rfl⟩
  | case3 decision here node waiting e raised => exact fun {w} flies => ⟨[],w,decision,.stop w,flies,rfl⟩
  | case4 decision here node waiting update next ran chunks =>
    rename_i ih
    intro w flies
    obtain ⟨checkpointId,new⟩ := Infinite.exists_notMem_finset ((w.threads investigationId).map (·.checkpointId)).toFinset
    have unused : ∀ saved ∈ w.threads investigationId, saved.checkpointId ≠ checkpointId := by
      simpa using new
    have step : Step agents w (.node caller checkpointId) _ := .node flies waiting ran unused
    obtain ⟨moves,final,left,run,lands,counted⟩ := @ih ((w.save investigationId ⟨checkpointId,next⟩).fly caller (some ⟨investigationId,next,none⟩))
      (by simp [World.fly])
    refine ⟨_,final,left,.go step run,lands,?_⟩
    rw [counted]
    simp [World.save,World.fly,chunks]
    omega

end

/-- A benign investigation runs to the gate and is approved; then it is rolled back to the gate. -/
def approvedThenRolledBack : List Move :=
  [.start 0 (lit "inv") (lit "c0"),.node 0 (lit "c1"),.node 0 (lit "c2"),.node 0 (lit "c3"),.node 0 (lit "c4"),.node 0 (lit "c5"),
    .node 0 (lit "c6"),.stop 0,.resume 1 (lit "inv") (.text (lit "approve")),.node 1 (lit "c7"),.node 1 (lit "c8"),.stop 1,
    .rollback 2 (lit "inv") (lit "c6")]

theorem approvedThenRolledBack_run : let _ := asciiPrinter
    ∃ w, Run (Step quietAgents) World.fresh approvedThenRolledBack w ∧
    ∃ later, Run (Step quietAgents) w [.node 2 (lit "c9"),.node 2 (lit "c10")] later ∧
      (later.threads (lit "inv")).map (·.checkpointId) = [lit "c10",lit "c9",lit "c8",lit "c7",lit "c6",lit "c5",lit "c4",lit "c3",
        lit "c2",lit "c1",lit "c0"] := by
  intro _
  let values := (newState (lit "inv") (lit "manual") [] [] [] []).toOption.get rfl
  have seeded : Seeds (lit "inv") values := ⟨lit "manual",[],[],[],[],rfl⟩
  refine Run.reaches (.start rfl rfl seeded _) ?_
  refine Run.reaches (.node rfl rfl rfl (by decide)) (Run.reaches (.node rfl rfl rfl (by decide)) (Run.reaches (.node rfl rfl rfl (by decide)) ?_))
  refine Run.reaches (.node rfl rfl rfl (by decide)) (Run.reaches (.node rfl rfl rfl (by decide)) (Run.reaches (.node rfl rfl rfl (by decide)) ?_))
  refine Run.reaches (.stop _ _) ?_
  refine Run.reaches (.resume rfl rfl (by decide) rfl) ?_
  refine Run.reaches (.node rfl rfl rfl (by decide)) (Run.reaches (.node rfl rfl rfl (by decide)) (Run.reaches (.stop _ _) ?_))
  -- the rollback finds the decision that was given at the gate
  refine Run.reaches (@Step.rollback _ _ _ _ _ ⟨lit "c6",_,_⟩ rfl (.tail _ (.tail _ (.head _))) (some [(lit "decision",.str (lit "approve"))]) ?_)
    ⟨_,.stop _,?_⟩
  · rintro _ ⟨⟩
    exact .head _
  · exact Run.reaches (.node rfl rfl rfl (by decide)) (Run.reaches (.node rfl rfl rfl (by decide)) ⟨_,.stop _,rfl⟩)

theorem rollback_retains_run : let _ := asciiPrinter
    ∃ w later, Run (Step quietAgents) World.fresh approvedThenRolledBack w ∧
      Run (Step quietAgents) w [.node 2 (lit "c9"),.node 2 (lit "c10")] later ∧
      (later.threads (lit "inv")).map (·.checkpointId) = [lit "c10",lit "c9",lit "c8",lit "c7",lit "c6",lit "c5",lit "c4",lit "c3",
        lit "c2",lit "c1",lit "c0"] ∧
      w.threads (lit "inv") <:+ later.threads (lit "inv") ∧
      ∀ saved ∈ later.threads (lit "inv"), ∃ passes, later.Reaches quietAgents (lit "inv") passes saved.checkpoint ∧
        Investigated quietAgents passes saved.checkpoint := by
  intro _
  obtain ⟨w,run,later,after,listed⟩ := approvedThenRolledBack_run
  obtain ⟨kept,-,reached⟩ := rollback_retains run after (lit "inv")
  exact ⟨w,later,run,after,listed,kept,reached⟩

end SocAnalyst.Graph.History
