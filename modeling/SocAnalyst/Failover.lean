import SocAnalyst.Dispatch

/-!
# Failover across runs

Which targets a run of dispatches for one approval pages, and when an alert is given up.
-/
namespace SocAnalyst.Failover
open SocAnalyst.Builtins SocAnalyst.Times SocAnalyst.Dicts SocAnalyst.Risk SocAnalyst.Runs SocAnalyst.Decisions
open SocAnalyst.Notifications SocAnalyst.Dispatch

/-! ### A fixed configuration -/

/-- Slack first, then one analyst by email. -/
def slackThenEmail : Settings where
  notificationChannelOrder := [.SLACK,.EMAIL]
  emailRecipients := [lit "soc@example.org"]
  once := by decide
  deliverable := by decide
  addressed := by decide
  attempts := by decide

def urgentAlert : AlertRequest where
  investigationId := lit "inv"
  approvalId := lit "dec"
  title := lit "Incident"
  summary := lit "Confirmed compromise"
  priority := .URGENT
  titled := by decide
  informative := by decide
  short := by decide

/-- A dispatch whose adapters answer every message alike. -/
def answering (delivered : Bool) : Dispatching where
  alert := urgentAlert
  hasAdapter := fun _ => true
  reply := fun _ => .ok { delivered := delivered }
  now := fun _ => ⟨0,some 0,by decide⟩

def plainly (alert : AlertRequest) (_ : NotificationChannel) : RenderedMessage := { body := alert.summary }

/-- The alert is approved and nothing was sent yet. -/
def approvedWorld : World where
  decisions := fun _ => some { id := lit "dec", conversationId := lit "conv", userId := lit "user", decision := .APPROVE }
  conversations := fun _ => some ⟨lit "conv",lit "inv"⟩
  notifications := .empty
  audit := []
  sends := []

section
variable [Interpreter] (sha256 : Text → Text) (render : AlertRequest → NotificationChannel → RenderedMessage)
  (settings : Settings)

/-! ### One dispatch -/

/-- After a message that arrived, every later one goes to the same tier. -/
def StaysInTier (plan : List (List AlertTarget)) (made : List Sending) : Prop :=
  made.Pairwise fun earlier later => earlier.arrived = true → SameTier plan earlier.target later.target

omit [Interpreter] in
theorem StaysInTier.mono {plan more : List (List AlertTarget)} {made : List Sending} (stays : StaysInTier plan made)
    (within : ∀ tier ∈ plan, tier ∈ more) : StaysInTier more made := by
  refine List.Pairwise.imp ?_ stays
  intro earlier later same arrived
  obtain ⟨tier,member,both⟩ := same arrived
  exact ⟨tier,within tier member,both⟩

theorem deliverTier_made {given : Dispatching} (returning : Returning given) (tier : List AlertTarget) (world : World)
    (progress : Progress) :
    ∃ next made after, deliverTier sha256 render settings given tier world progress = (next,.ok after) ∧
      Made sha256 given tier world next made ∧
      (after.deliveredAnywhere = true ↔ progress.deliveredAnywhere = true ∨ ∃ sending ∈ made, sending.arrived = true) ∧
      (after.outcomes ≠ [] ↔ progress.outcomes ≠ [] ∨ ∃ target ∈ tier, ¬ Reached world (targetKey sha256 given.alert target)) ∧
      ∀ target ∈ tier, given.hasAdapter target.channel = true →
        Reached next (targetKey sha256 given.alert target) ∨ ∃ sending ∈ made, sending.target = target := by
  induction tier generalizing world progress with
  | nil => exact ⟨world,[],progress,rfl,Made.nothing _ _ _,by simp,by simp,by simp⟩
  | cons target rest ih =>
    obtain ⟨middle,made,outcome,delivery,first,skipped,delivered,some⟩ := deliver_made sha256 render settings
      returning target world
    unfold deliverTier
    simp only [delivery]
    cases outcome with
    | none =>
      obtain ⟨next,more,after,run,second,anywhere,attempted,tried⟩ := ih middle
        { progress with deduplicated := progress.deduplicated ++ [target] }
      have already : Reached world (targetKey sha256 given.alert target) := skipped.mp rfl
      have silent : ¬ ∃ sending ∈ made, sending.arrived = true := by rw [← delivered]; simp
      have same : ∀ other, Reached middle (targetKey sha256 given.alert other) ↔ Reached world (targetKey sha256 given.alert other) := by
        intro other
        rw [first.reached,or_iff_left]
        exact fun ⟨sending,member,arrived,_⟩ => silent ⟨sending,member,arrived⟩
      refine ⟨next,made ++ more,after,run,(first.widen (by simp)).trans (second.widen (by simp +contextual)),?_,?_,?_⟩
      · simp only [anywhere,List.mem_append,or_and_right,exists_or,silent,false_or]
      · simp only [attempted,same,List.exists_mem_cons_iff,already,not_true,false_or]
      · intro other member adapter
        rcases List.mem_cons.mp member with rfl | member
        · exact .inl (second.stays (first.stays already))
        · refine (tried other member adapter).imp id ?_
          exact fun ⟨sending,follows,here⟩ => ⟨sending,List.mem_append_right _ follows,here⟩
    | some sent =>
      obtain ⟨next,more,after,run,second,anywhere,attempted,tried⟩ := ih middle
        { progress with outcomes := progress.outcomes ++ [sent], deliveredAnywhere := progress.deliveredAnywhere || sent.delivered }
      have unreached : ¬ Reached world (targetKey sha256 given.alert target) := fun already => by simpa using skipped.mpr already
      refine ⟨next,made ++ more,after,run,(first.widen (by simp)).trans (second.widen (by simp +contextual)),?_,?_,?_⟩
      · simp only [Option.some.injEq,exists_eq_left'] at delivered
        simp only [anywhere,List.mem_append,or_and_right,exists_or,Bool.or_eq_true,delivered,or_assoc]
      · simp only [attempted,List.exists_mem_cons_iff,unreached,not_false_iff,true_or,or_true,iff_true]
        exact .inl (by simp)
      · intro other member adapter
        rcases List.mem_cons.mp member with rfl | member
        · obtain ⟨sending,here⟩ := List.exists_mem_of_ne_nil made (some adapter (by simp))
          exact .inr ⟨sending,List.mem_append_left _ here,List.mem_singleton.mp (first.aimed sending here)⟩
        · refine (tried other member adapter).imp id ?_
          exact fun ⟨sending,follows,here⟩ => ⟨sending,List.mem_append_right _ follows,here⟩

/-- The loop over the tiers stays in the first tier in which a message arrives. -/
theorem deliverTiers_made {given : Dispatching} (returning : Returning given) (plan : List (List AlertTarget)) (world : World)
    (progress : Progress) :
    ∃ next made after, deliverTiers sha256 render settings given plan world progress = (next,.ok after) ∧
      Made sha256 given plan.flatten world next made ∧ StaysInTier plan made ∧
      (progress.deliveredAnywhere = true → made = []) ∧
      (after.deliveredAnywhere = true ↔ progress.deliveredAnywhere = true ∨ ∃ sending ∈ made, sending.arrived = true) ∧
      (after.deliveredAnywhere = false →
        (after.outcomes ≠ [] ↔ progress.outcomes ≠ [] ∨
          ∃ target ∈ plan.flatten, ¬ Reached world (targetKey sha256 given.alert target)) ∧
        ∀ target ∈ plan.flatten, given.hasAdapter target.channel = true →
          Reached next (targetKey sha256 given.alert target) ∨ ∃ sending ∈ made, sending.target = target) := by
  induction plan generalizing world progress with
  | nil => exact ⟨world,[],progress,rfl,Made.nothing _ _ _,.nil,fun _ => rfl,by simp,by simp⟩
  | cons tier rest ih =>
    unfold deliverTiers
    split_ifs with anywhere
    · exact ⟨world,[],progress,rfl,Made.nothing _ _ _,.nil,fun _ => rfl,by simp,by simp [anywhere]⟩
    · obtain ⟨middle,made,between,tierRun,first,reached,attempted,tried⟩ := deliverTier_made sha256 render settings
        returning tier world progress
      obtain ⟨next,more,after,run,second,stays,stopped,atEnd,others⟩ := ih middle between
      have later : ∀ target ∈ rest.flatten, target ∈ (tier :: rest).flatten := by
        intro target member
        rw [List.flatten_cons]
        exact List.mem_append_right _ member
      simp only [tierRun]
      refine ⟨next,made ++ more,after,run,(first.widen (by simp +contextual)).trans (second.widen later),?_,
        fun yes => absurd yes anywhere,by simp only [atEnd,reached,List.mem_append,or_and_right,exists_or,or_assoc],?_⟩
      · refine List.pairwise_append.mpr ⟨?_,stays.mono (by simp +contextual),?_⟩
        · refine List.pairwise_of_forall_mem_list ?_
          exact fun earlier here later there _ => ⟨tier,by simp,first.aimed earlier here,first.aimed later there⟩
        · intro earlier here later there arrived
          rw [stopped (reached.mpr (.inr ⟨earlier,here,arrived⟩))] at there
          cases there
      · -- nothing arrived, so the first tier left everyone as it found them
        intro nowhere
        obtain ⟨some,rests⟩ := others nowhere
        have silent : ∀ sending ∈ made, ¬ sending.arrived = true := by
          intro sending member arrived
          rw [atEnd.mpr (.inl (reached.mpr (.inr ⟨sending,member,arrived⟩)))] at nowhere
          cases nowhere
        have same : ∀ other, Reached middle (targetKey sha256 given.alert other) ↔
            Reached world (targetKey sha256 given.alert other) := by
          intro other
          rw [first.reached,or_iff_left]
          exact fun ⟨sending,member,arrived,_⟩ => silent sending member arrived
        refine ⟨?_,?_⟩
        · simp only [some,attempted,same,List.flatten_cons,List.mem_append,or_and_right,exists_or,or_assoc]
        · intro target member adapter
          rw [List.flatten_cons,List.mem_append] at member
          rcases member with member | member
          · refine (tried target member adapter).imp second.stays ?_
            exact fun ⟨sending,here,aim⟩ => ⟨sending,List.mem_append_left _ here,aim⟩
          · refine (rests target member adapter).imp id ?_
            exact fun ⟨sending,here,aim⟩ => ⟨sending,List.mem_append_right _ here,aim⟩

omit [Interpreter] in
/-- Giving up changes nobody's delivery. -/
theorem reached_deadLetter (given : Dispatching) (outcomes : List DeliveryOutcome) (world : World) (key : Text) :
    Reached (deadLetter given outcomes world) key ↔ Reached world key := by
  unfold Reached deadLetter
  simp only [Dict.get?_mapValues]
  cases stored : world.notifications.get? key with
  | none => simp
  | some row =>
    simp only [Option.map_some,Option.some.injEq,exists_eq_left']
    split_ifs with failed <;> simp [failed]

/-- The tiers of the configured targets. -/
def plan (settings : Settings) : List (List AlertTarget) :=
  match resolveTargets settings with
  | .ok targets => failoverPlan targets
  | .error _ => []

omit [Interpreter] in
/-- The alert is approved and clears the alerting floor. -/
def Attempts (world : World) (given : Dispatching) : Prop :=
  (∃ decision, verifyApproval world given.alert.investigationId given.alert.approvalId = .ok decision) ∧
    isWorthAlerting given.alert.priority settings.notificationMinPriority = true

/-- A dispatch changes nothing, or makes its attempts and then gives up exactly when
    some target was not reached before and no message arrived. -/
theorem dispatchAlert_cases {given : Dispatching} (returning : Returning given) (world : World) :
    ∃ next result, dispatchAlert sha256 render settings given world = (next,result) ∧
      ((next = world ∧ (∀ returned, result = .ok returned → returned.deadLettered = false) ∧
          (Attempts settings world given → plan settings = [])) ∨
        Attempts settings world given ∧ ∃ tried made returned, result = .ok returned ∧ Made sha256 given (plan settings).flatten world tried made ∧
          StaysInTier (plan settings) made ∧
          next = (if returned.deadLettered then deadLetter given returned.outcomes tried else tried) ∧
          (returned.deadLettered = true ↔ (∀ sending ∈ made, sending.arrived = false) ∧
            ∃ target ∈ (plan settings).flatten, ¬ Reached world (targetKey sha256 given.alert target)) ∧
          ((∀ sending ∈ made, sending.arrived = false) → ∀ target ∈ (plan settings).flatten,
            given.hasAdapter target.channel = true → Reached world (targetKey sha256 given.alert target) ∨
              ∃ sending ∈ made, sending.target = target)) := by
  unfold dispatchAlert
  cases approval : verifyApproval world given.alert.investigationId given.alert.approvalId with
  | error e =>
    refine ⟨world,.error e,rfl,.inl ⟨rfl,by simp,?_⟩⟩
    rintro ⟨⟨decision,approved⟩,_⟩
    rw [approval] at approved
    cases approved
  | ok decision =>
    simp only
    split_ifs with quiet
    · refine ⟨world,_,rfl,.inl ⟨rfl,by simp,?_⟩⟩
      rintro ⟨_,worth⟩
      simp [worth] at quiet
    · cases resolved : resolveTargets settings with
      | error e => exact ⟨world,_,rfl,.inl ⟨rfl,by simp,fun _ => by simp only [plan,resolved]⟩⟩
      | ok targets =>
        have planned : plan settings = failoverPlan targets := by simp only [plan,resolved]
        cases targets with
        | nil => exact ⟨world,_,rfl,.inl ⟨rfl,by simp,fun _ => planned⟩⟩
        | cons target targets =>
          obtain ⟨tried,made,after,run,sent,stays,_,anywhere,nowhere⟩ := deliverTiers_made sha256 render
            settings returning (failoverPlan (target :: targets)) world {}
          have effective : Attempts settings world given := ⟨⟨decision,approval⟩,by simpa using quiet⟩
          have silent : after.deliveredAnywhere = false ↔ ∀ sending ∈ made, sending.arrived = false := by
            rw [← Bool.not_eq_true,anywhere]
            simp
          have attempts : (∀ sending ∈ made, sending.arrived = false) → ∀ target ∈ (plan settings).flatten,
              given.hasAdapter target.channel = true → Reached world (targetKey sha256 given.alert target) ∨
                ∃ sending ∈ made, sending.target = target := by
            intro unanswered other configured adapter
            rw [planned] at configured
            refine ((nowhere (silent.mpr unanswered)).2 other configured adapter).imp ?_ id
            rw [sent.reached]
            rintro (already | ⟨sending,member,arrived,_⟩)
            · exact already
            · rw [unanswered sending member] at arrived
              cases arrived
          simp only [run]
          rw [planned] at attempts ⊢
          split_ifs with lost
          · refine ⟨_,_,rfl,.inr ⟨effective,tried,made,_,rfl,sent,stays,rfl,?_,attempts⟩⟩
            simpa [← silent,lost.2] using (nowhere lost.2).1.mp lost.1
          · refine ⟨_,_,rfl,.inr ⟨effective,tried,made,_,rfl,sent,stays,rfl,?_,attempts⟩⟩
            simp only [Bool.false_eq_true,false_iff,not_and]
            intro unanswered missed
            exact lost ⟨(nowhere (silent.mpr unanswered)).1.mpr (.inr missed),silent.mpr unanswered⟩

/-! ### Runs for one approval -/

/-- One dispatch of the alert an approval authorizes, with adapters that answer. -/
def Dispatches (investigationId approvalId : Text) (world : World) (given : Dispatching) (next : World) : Prop :=
  given.alert.investigationId = investigationId ∧ given.alert.approvalId = approvalId ∧ Returning given ∧
    (dispatchAlert sha256 render settings given world).1 = next

/-- The key of the approval's delivery to a target. -/
def approvalKey (investigationId approvalId : Text) (target : AlertTarget) : Text :=
  dedupeKey sha256 investigationId approvalId target.channel target.recipient

omit [Interpreter] in
/-- Nobody in another tier than a paged target has the alert. -/
structure OneTier (key : AlertTarget → Text) (tiers : List (List AlertTarget)) (world : World) (made : List Sending) : Prop where
  earlier : ∀ sending ∈ made, ∀ other ∈ tiers.flatten, Reached world (key other) → SameTier tiers other sending.target
  stays : StaysInTier tiers made

/-- When a configured target is reached, a dispatch that attempts finds every target of
    the other tiers that has an adapter reached too. -/
def Settled (world : World) (given : Dispatching) : Prop :=
  Attempts settings world given → ∀ target ∈ (plan settings).flatten, Reached world (targetKey sha256 given.alert target) →
    ∀ other ∈ (plan settings).flatten, given.hasAdapter other.channel = true → ¬ SameTier (plan settings) target other →
      Reached world (targetKey sha256 given.alert other)

variable {sha256 render settings}

/-- What one dispatch sends, giving up or not. -/
theorem dispatches_paged {investigationId approvalId : Text} {world next : World} {given : Dispatching}
    (step : Dispatches sha256 render settings investigationId approvalId world given next) :
    ∃ made, Paged (approvalKey sha256 investigationId approvalId) (plan settings).flatten world next made ∧
      StaysInTier (plan settings) made ∧ (∀ sending ∈ made, given.hasAdapter sending.target.channel = true ∧
        Attempts settings world given ∧ ∃ n result, given.reply n = .ok result ∧ sending.result = some result) ∧
      (Attempts settings world given → (∀ sending ∈ made, sending.arrived = false) → ∀ target ∈ (plan settings).flatten,
        given.hasAdapter target.channel = true →
          Reached world (approvalKey sha256 investigationId approvalId target) ∨ ∃ sending ∈ made, sending.target = target) := by
  obtain ⟨rfl,rfl,returning,rfl⟩ := step
  obtain ⟨next,result,dispatched,⟨same,_,idle⟩ | ⟨attempts,tried,made,returned,_,sent,stays,ending,_,all⟩⟩ :=
    dispatchAlert_cases sha256 render settings returning world
  · rw [dispatched,same]
    exact ⟨[],Paged.nothing _ _ _,.nil,by simp,fun attempts => by simp [idle attempts]⟩
  · refine ⟨made,?_,stays,fun sending member => ⟨sent.equipped sending member,attempts,sent.answered sending member⟩,fun _ => all⟩
    rw [dispatched,ending]
    split_ifs
    · exact { sent.toPaged with
        log := sent.log
        reached := fun sought => (reached_deadLetter given _ tried sought).trans (sent.reached sought) }
    · exact sent.toPaged

/-- No run sends a target the alert again after it arrived there. -/
theorem run_paged {investigationId approvalId : Text} {start finish : World} {labels : List Dispatching}
    (run : Run (Dispatches sha256 render settings investigationId approvalId) start labels finish) :
    ∃ made, Paged (approvalKey sha256 investigationId approvalId) (plan settings).flatten start finish made := by
  refine run.relates (R := fun world next => ∃ made, Paged (approvalKey sha256 investigationId approvalId)
    (plan settings).flatten world next made) (fun world => ⟨[],Paged.nothing _ _ world⟩) ?_ ?_
  · rintro world middle next ⟨made,first⟩ ⟨further,second⟩
    exact ⟨made ++ further,first.trans second⟩
  · rintro world given next step
    obtain ⟨made,sent,_⟩ := dispatches_paged step
    exact ⟨made,sent⟩

omit [Interpreter] in
/-- Two stretches of messages that page one tier each page one tier together: who the
    first reached is reached when the second starts. -/
theorem OneTier.append {key : AlertTarget → Text} {tiers : List (List AlertTarget)} {world middle : World}
    {made further : List Sending} (sent : Paged key tiers.flatten world middle made) (first : OneTier key tiers world made)
    (second : OneTier key tiers middle further) : OneTier key tiers world (made ++ further) := by
  refine ⟨?_,List.pairwise_append.mpr ⟨first.stays,second.stays,?_⟩⟩
  · intro sending member other configured reached
    rcases List.mem_append.mp member with member | member
    · exact first.earlier sending member other configured reached
    · exact second.earlier sending member other configured (sent.stays reached)
  · intro before here after there arrived
    exact second.earlier after there before.target (sent.aimed before here) ((sent.reached _).mpr (.inr ⟨before,here,arrived,rfl⟩))

/-- A dispatch from a settled world pages one tier. -/
theorem settled_oneTier {investigationId approvalId : Text} {world next : World} {given : Dispatching}
    (settled : Settled sha256 settings world given)
    (step : Dispatches sha256 render settings investigationId approvalId world given next) :
    ∃ made, Paged (approvalKey sha256 investigationId approvalId) (plan settings).flatten world next made ∧
      OneTier (approvalKey sha256 investigationId approvalId) (plan settings) world made := by
  obtain ⟨made,sent,stays,equipped,_⟩ := dispatches_paged step
  obtain ⟨rfl,rfl,_,_⟩ := step
  refine ⟨made,sent,?_,stays⟩
  intro sending member other configured reached
  by_contra apart
  obtain ⟨adapter,attempts,_⟩ := equipped sending member
  exact sent.fresh sending member (settled attempts other configured reached sending.target (sent.aimed sending member)
    adapter apart)

/-- The dispatch whose every message is answered as not delivered. -/
def unanswered (given : Dispatching) : Dispatching := { given with reply := fun _ => .ok { delivered := false } }

/-- A dispatch of failing messages from a world that is not settled pages a second tier. -/
theorem unsettled_pages_another_tier {investigationId approvalId : Text} {world next : World} {given : Dispatching}
    (unsettled : ¬ Settled sha256 settings world given)
    (step : Dispatches sha256 render settings investigationId approvalId world (unanswered given) next) :
    ∃ made, Paged (approvalKey sha256 investigationId approvalId) (plan settings).flatten world next made ∧
      ¬ OneTier (approvalKey sha256 investigationId approvalId) (plan settings) world made := by
  obtain ⟨made,sent,_,equipped,all⟩ := dispatches_paged step
  obtain ⟨rfl,rfl,_,_⟩ := step
  refine ⟨made,sent,?_⟩
  intro one
  refine unsettled ?_
  intro attempts target configured reached other elsewhere adapter apart
  have silent : ∀ sending ∈ made, sending.arrived = false := by
    intro sending member
    obtain ⟨_,_,n,result,answer,answered⟩ := equipped sending member
    cases answer
    simp [Sending.arrived,answered]
  rcases all attempts silent other elsewhere adapter with reached | ⟨sending,member,aim⟩
  · exact reached
  · exact absurd (aim ▸ one.earlier sending member target configured reached) apart

/-- In a run of dispatches for one approval, each from a settled world, no target is sent
    the alert again after it arrived there, and none outside the tier of a reached one. -/
theorem settled_run_pages_one_tier (investigationId approvalId : Text) {start finish : World} {labels : List Dispatching}
    (run : Run (Guarded (Settled sha256 settings) (Dispatches sha256 render settings investigationId approvalId)) start labels finish) :
    ∃ made, Paged (approvalKey sha256 investigationId approvalId) (plan settings).flatten start finish made ∧
      OneTier (approvalKey sha256 investigationId approvalId) (plan settings) start made := by
  refine run.relates (R := fun world next => ∃ made, Paged (approvalKey sha256 investigationId approvalId)
    (plan settings).flatten world next made ∧ OneTier (approvalKey sha256 investigationId approvalId) (plan settings) world made)
    (fun world => ⟨[],Paged.nothing _ _ world,by simp,.nil⟩) ?_ ?_
  · rintro world middle next ⟨made,first,one⟩ ⟨further,second,other⟩
    exact ⟨made ++ further,first.trans second,OneTier.append first one other⟩
  · rintro world given next ⟨settled,step⟩
    exact settled_oneTier settled step

end

private theorem answering_dispatches [Interpreter] (delivered : Bool) (world : World) :
    Dispatches id plainly slackThenEmail (lit "inv") (lit "dec") world (answering delivered)
      (dispatchAlert id plainly slackThenEmail (answering delivered) world).1 :=
  ⟨rfl,rfl,fun _ => ⟨_,rfl⟩,rfl⟩

/-- The run of a failed dispatch, one that reaches Slack, and one without an e-mail adapter. -/
def retriedDispatches : List Dispatching :=
  [answering false,answering true,{ answering true with hasAdapter := fun channel => channel = .SLACK }]

def afterDispatches [Interpreter] (labels : List Dispatching) : World :=
  labels.foldl (fun world given => (dispatchAlert id plainly slackThenEmail given world).1) approvedWorld

/-- How the delivery to a target stands after some dispatches. -/
def standing [Interpreter] (labels : List Dispatching) (target : AlertTarget) : Option NotificationStatus :=
  ((afterDispatches labels).notifications.get? (targetKey id urgentAlert target)).map (·.status)

private theorem standing_of_reached [Interpreter] (labels : List Dispatching) {target : AlertTarget}
    (reached : Reached (afterDispatches labels) (targetKey id urgentAlert target)) : standing labels target = some .SENT := by
  obtain ⟨row,stored,sent⟩ := reached
  rw [standing,stored,Option.map_some,sent]

/-- After a dispatch that was given up the next one reaches Slack, and the one after that
    sends nothing more. -/
theorem settled_run_pages_slack :
    let _ := ascii
    ∃ finish, Run (Guarded (Settled id slackThenEmail) (Dispatches id plainly slackThenEmail (lit "inv") (lit "dec")))
        approvedWorld retriedDispatches finish ∧
      finish.sends.map (·.arrived) = [false,false,false,false,false,false,true] ∧
      ∃ made, Paged (approvalKey id (lit "inv") (lit "dec")) (plan slackThenEmail).flatten approvedWorld finish made ∧
        OneTier (approvalKey id (lit "inv") (lit "dec")) (plan slackThenEmail) approvedWorld made := by
  intro _
  have failed : ∀ target ∈ (plan slackThenEmail).flatten, standing [answering false] target = some .DEAD_LETTER := by decide +kernel
  have onSlack : ∀ target ∈ (plan slackThenEmail).flatten, standing [answering false,answering true] target = some .SENT →
      target.channel = .SLACK := by decide +kernel
  have tier : ∀ target ∈ (plan slackThenEmail).flatten, ∀ other ∈ (plan slackThenEmail).flatten, target.channel = .SLACK →
      other.channel = .SLACK → SameTier (plan slackThenEmail) target other := by
    unfold SameTier
    decide
  have run : Run (Guarded (Settled id slackThenEmail) (Dispatches id plainly slackThenEmail (lit "inv") (lit "dec")))
      approvedWorld retriedDispatches (afterDispatches retriedDispatches) := by
    refine .go ⟨?_,answering_dispatches false approvedWorld⟩ (.go ⟨?_,answering_dispatches true _⟩
      (.go ⟨?_,rfl,rfl,fun _ => ⟨_,rfl⟩,rfl⟩ (.stop _)))
    · rintro _ target _ ⟨row,stored,_⟩
      cases stored
    · intro _ target configured reached
      have sent := standing_of_reached [answering false] reached
      rw [failed target configured] at sent
      cases sent
    · intro _ target configured reached other elsewhere adapter apart
      have slack := onSlack target configured (standing_of_reached [answering false,answering true] reached)
      exact absurd (tier target configured other elsewhere slack (by simpa using adapter)) apart
  exact ⟨_,run,by decide +kernel,settled_run_pages_one_tier (lit "inv") (lit "dec") run⟩

/-- Slack delivers the alert, and the next dispatch, which skips Slack as a duplicate,
    pages the analyst by email. -/
theorem delivered_alert_paged_on_fallback :
    let _ := ascii
    ∃ finish, Run (Dispatches id plainly slackThenEmail (lit "inv") (lit "dec")) approvedWorld
        [answering true,answering true] finish ∧
      ¬ ∃ made, Paged (approvalKey id (lit "inv") (lit "dec")) (plan slackThenEmail).flatten approvedWorld finish made ∧
        OneTier (approvalKey id (lit "inv") (lit "dec")) (plan slackThenEmail) approvedWorld made := by
  intro _
  refine ⟨_,.go (answering_dispatches true approvedWorld) (.go (answering_dispatches true _) (.stop _)),?_⟩
  rintro ⟨made,sent,one⟩
  have sends : ∃ slack email, made = [slack,email] ∧ slack.arrived = true ∧
      ¬ SameTier (plan slackThenEmail) slack.target email.target :=
    ⟨_,_,sent.log.symm,by decide,by unfold SameTier; decide⟩
  obtain ⟨slack,email,rfl,arrived,apart⟩ := sends
  exact apart ((List.pairwise_cons.mp one.stays).1 email (by simp) arrived)

/-! ### Giving up -/

section
variable [Interpreter] (sha256 : Text → Text) (render : AlertRequest → NotificationChannel → RenderedMessage)
  (settings : Settings)

omit [Interpreter] in
/-- No delivery row of the approval is sent. -/
def Unsent (approvalId : Text) (world : World) : Prop :=
  ∀ key row, world.notifications.get? key = some row → row.approvalId = approvalId → row.status ≠ .SENT

/-- A dispatch that attempts finds that nobody has the alert, or every configured target. -/
def AllOrNobody (world : World) (given : Dispatching) : Prop :=
  Attempts settings world given → Unsent given.alert.approvalId world ∨
    ∀ target ∈ (plan settings).flatten, Reached world (targetKey sha256 given.alert target)

/-- A dispatch that returns a dead letter, audits one or buries a row leaves no delivery
    of the approval that is sent. -/
def GivesUpOnlyUnsent (world : World) (given : Dispatching) (next : World) : Prop :=
  (∃ returned, (dispatchAlert sha256 render settings given world).2 = .ok returned ∧ returned.deadLettered = true) ∨
      next.audit ≠ world.audit ∨ (∃ key, Buried next key ∧ ¬ Buried world key) →
    Unsent given.alert.approvalId next

variable {sha256 render settings}

omit [Interpreter] in
/-- Giving up leaves a sent row as it is. -/
theorem sent_deadLetter (given : Dispatching) (outcomes : List DeliveryOutcome) {world : World} {key : Text} {row : Notification}
    (isSent : row.status = .SENT) :
    (deadLetter given outcomes world).notifications.get? key = some row ↔ world.notifications.get? key = some row := by
  simp only [deadLetter,Dict.get?_mapValues,Option.map_eq_some_iff]
  constructor
  · rintro ⟨old,before,kept⟩
    split_ifs at kept with failed
    · rw [← kept] at isSent
      cases isSent
    · rw [before,kept]
  · intro stored
    exact ⟨row,stored,by simp [isSent]⟩

theorem gives_up_only_unsent {world next : World} {given : Dispatching} {investigationId approvalId : Text}
    (guard : AllOrNobody sha256 settings world given)
    (step : Dispatches sha256 render settings investigationId approvalId world given next) :
    GivesUpOnlyUnsent sha256 render settings world given next := by
  obtain ⟨_,_,returning,rfl⟩ := step
  obtain ⟨next,result,dispatched,⟨same,alive,_⟩ | ⟨attempts,tried,made,returned,returns,sent,_,ending,gaveUp,_⟩⟩ :=
    dispatchAlert_cases sha256 render settings returning world
  · rw [dispatched,same]
    rintro (⟨returned,returns,dead⟩ | grew | ⟨key,buried,unburied⟩)
    · rw [dispatched] at returns
      rw [alive returned returns] at dead
      cases dead
    · exact absurd rfl grew
    · exact absurd buried unburied
  · rw [dispatched]
    by_cases dead : returned.deadLettered = true
    · obtain ⟨silent,target,configured,unreached⟩ := gaveUp.mp dead
      rw [if_pos dead] at ending
      intro _ key row stored owned isSent
      rcases guard attempts with unsent | all
      · rw [ending,sent_deadLetter given _ isSent] at stored
        rcases (sent.reached key).mp ⟨row,stored,isSent⟩ with reached | ⟨sending,member,arrived,_⟩
        · exact unsent key row (sent.kept key reached ▸ stored) owned isSent
        · rw [silent sending member] at arrived
          cases arrived
      · exact unreached (all target configured)
    · rw [if_neg dead] at ending
      rintro (⟨other,again,died⟩ | grew | ⟨key,buried,unburied⟩)
      · rw [dispatched,returns,Except.ok.injEq] at again
        exact absurd (again ▸ died) dead
      · exact absurd (ending ▸ sent.audit) grew
      · exact absurd (sent.buried key (ending ▸ buried)) unburied

/-- A dispatch of failing messages gives up an alert that some but not all have. -/
theorem partly_sent_given_up {world next : World} {given : Dispatching} {investigationId approvalId : Text}
    (partly : ¬ AllOrNobody sha256 settings world given)
    (step : Dispatches sha256 render settings investigationId approvalId world (unanswered given) next) :
    ¬ GivesUpOnlyUnsent sha256 render settings world (unanswered given) next := by
  obtain ⟨_,_,returning,rfl⟩ := step
  unfold AllOrNobody Unsent at partly
  push Not at partly
  obtain ⟨attempts,⟨key,row,stored,owned,isSent⟩,target,configured,unreached⟩ := partly
  obtain ⟨next,result,dispatched,⟨_,_,idle⟩ | ⟨_,tried,made,returned,returns,sent,_,ending,gaveUp,_⟩⟩ :=
    dispatchAlert_cases sha256 render settings returning world
  · rw [idle attempts] at configured
    cases configured
  · have silent : ∀ sending ∈ made, sending.arrived = false := by
      intro sending member
      obtain ⟨n,result,answer,answered⟩ := sent.answered sending member
      cases answer
      simp [Sending.arrived,answered]
    have dead : returned.deadLettered = true := gaveUp.mpr ⟨silent,target,configured,unreached⟩
    rw [if_pos dead] at ending
    intro lost
    refine lost (.inl ⟨returned,by rw [dispatched,returns],dead⟩) key row ?_ owned isSent
    rw [dispatched,ending,sent_deadLetter _ _ isSent,sent.kept key ⟨row,stored,isSent⟩]
    exact stored

/-- In a run of dispatches for one approval, each from a world where nobody or everyone
    configured has the alert, only an alert that reached nobody is given up. -/
theorem run_gives_up_only_unsent (investigationId approvalId : Text) {start finish : World} {labels : List Dispatching}
    (run : Run (Guarded (AllOrNobody sha256 settings) (Dispatches sha256 render settings investigationId approvalId)) start labels finish) :
    Run (fun world given next => Dispatches sha256 render settings investigationId approvalId world given next ∧
      GivesUpOnlyUnsent sha256 render settings world given next) start labels finish :=
  run.mono fun _ _ _ ⟨guard,step⟩ => ⟨step,gives_up_only_unsent guard step⟩

end

theorem run_gives_up_unanswered :
    let _ := ascii
    ∃ finish, Run (Guarded (AllOrNobody id slackThenEmail) (Dispatches id plainly slackThenEmail (lit "inv") (lit "dec")))
        approvedWorld [answering false] finish ∧
      Run (fun world given next => Dispatches id plainly slackThenEmail (lit "inv") (lit "dec") world given next ∧
        GivesUpOnlyUnsent id plainly slackThenEmail world given next) approvedWorld [answering false] finish := by
  intro _
  have run : Run (Guarded (AllOrNobody id slackThenEmail) (Dispatches id plainly slackThenEmail (lit "inv") (lit "dec")))
      approvedWorld [answering false] (dispatchAlert id plainly slackThenEmail (answering false) approvedWorld).1 := by
    refine .go ⟨fun _ => .inl ?_,answering_dispatches false approvedWorld⟩ (.stop _)
    rintro key row stored
    cases stored
  exact ⟨_,run,run_gives_up_only_unsent (lit "inv") (lit "dec") run⟩

/-- Slack delivers the alert, the email of the next dispatch fails, and the alert is given
    up although its Slack delivery is sent. -/
theorem delivered_alert_given_up :
    let _ := ascii
    ∃ finish, Run (Dispatches id plainly slackThenEmail (lit "inv") (lit "dec")) approvedWorld
        [answering true,answering false] finish ∧
      ¬ Run (fun world given next => Dispatches id plainly slackThenEmail (lit "inv") (lit "dec") world given next ∧
        GivesUpOnlyUnsent id plainly slackThenEmail world given next) approvedWorld [answering true,answering false] finish := by
  intro _
  refine ⟨_,.go (answering_dispatches true approvedWorld) (.go (answering_dispatches false _) (.stop _)),?_⟩
  intro run
  cases run with
  | go first rest =>
    obtain ⟨⟨_,_,_,rfl⟩,_⟩ := first
    cases rest with
    | go second rest =>
      obtain ⟨⟨_,_,_,rfl⟩,lost⟩ := second
      refine lost (.inl ⟨_,rfl,rfl⟩) (approvalKey id (lit "inv") (lit "dec") ⟨.SLACK,lit "slack-webhook",by decide⟩) _ rfl rfl ?_
      rfl

end SocAnalyst.Failover
