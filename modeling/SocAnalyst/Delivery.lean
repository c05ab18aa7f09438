import SocAnalyst.Failover

/-!
# Delivering an alert in its own transaction

`deliver_alert` of `backend/workers/notifications.py`: what of a dispatch is committed,
and what an exception out of an adapter takes with it.
-/
namespace SocAnalyst.Delivery
open SocAnalyst.Builtins SocAnalyst.Times SocAnalyst.Dicts SocAnalyst.Risk SocAnalyst.Decisions
open SocAnalyst.Notifications SocAnalyst.Dispatch SocAnalyst.Failover

/-- The database as it was, the messages as they went out. -/
def rollback (world next : World) : World := { world with sends := next.sends }

section
variable [Interpreter] (sha256 : Text → Text) (render : AlertRequest → NotificationChannel → RenderedMessage)
  (settings : Settings)

/-- Dispatch one alert in its own transaction; a payload that is not a valid alert is
    dropped. -/
def deliverAlert (payload : Except PyError Dispatching) (world : World) : World :=
  match payload with
  | .error _ => world
  | .ok given =>
    match dispatchAlert sha256 render settings given world with
    | (next,.ok _) => next
    | (next,.error _) => rollback world next

/-! ### What an exception cuts short -/

omit [Interpreter] in
/-- The same adapters, with an unexplained failure wherever one raises. -/
def calm (given : Dispatching) : Dispatching :=
  { given with reply := fun n => .ok ((given.reply n).toOption.getD { delivered := false }) }

omit [Interpreter] in
theorem calm_returning (given : Dispatching) : Returning (calm given) := fun _ => ⟨_,rfl⟩

omit [Interpreter] in
/-- The adapters answer every message from the `first` on and before the `last`. -/
def Answers (given : Dispatching) (first last : Nat) : Prop := ∀ n, first ≤ n → n < last → ∃ result, given.reply n = .ok result

omit [Interpreter] in
theorem Answers.trans {given : Dispatching} {first middle last : Nat} (front : Answers given first middle)
    (back : Answers given middle last) : Answers given first last := by
  intro n above below
  by_cases early : n < middle
  · exact front n above early
  · exact back n (by omega) below

omit [Interpreter] in
/-- A message that an adapter raised on, and what is sent in its place when none does. -/
def raisedOn (given : Dispatching) (target : AlertTarget) (message : RenderedMessage) (result : Option SendResult) : Sending :=
  ⟨given.alert.investigationId,given.alert.approvalId,target,message,result⟩

omit [Interpreter] in
/-- The messages end with one that an adapter raised on; the calm adapters send the
    same ones and go on from there. -/
def CutShort (given : Dispatching) (start : Nat) (sends calmed : List Sending) : Prop :=
  ∃ before target message, sends = before ++ [raisedOn given target message none] ∧ start ≤ before.length ∧
    (∃ e, given.reply before.length = .error e) ∧ before ++ [raisedOn given target message (some { delivered := false })] <+: calmed

omit [Interpreter] in
theorem CutShort.extend {given : Dispatching} {start later : Nat} {sends calmed further : List Sending}
    (cut : CutShort given later sends calmed) (after : start ≤ later) (goes_on : calmed <+: further) : CutShort given start sends further := by
  obtain ⟨before,target,message,log,bound,raised,same⟩ := cut
  exact ⟨before,target,message,log,by omega,raised,same.trans goes_on⟩

omit [Interpreter] in
/-- Either nothing is raised and the calm adapters make no difference, or the
    messages are cut short. -/
def Mirrors {σ α : Type} (log : σ → List Sending) (given : Dispatching) (start : Nat) (run calmed : σ × Except PyError α) : Prop :=
  (∃ x, run.2 = .ok x ∧ calmed = run ∧ start ≤ (log run.1).length ∧ Answers given start (log run.1).length) ∨
    ((∃ e, run.2 = .error e) ∧ CutShort given start (log run.1) (log calmed.1))

omit [Interpreter] in
theorem sendRepeatedly_mirrors (given : Dispatching) (target : AlertTarget) (message : RenderedMessage) (remaining attempts : Nat)
    (result : SendResult) (sends : List Sending) :
    Mirrors id given sends.length (sendRepeatedly given target message remaining attempts result sends)
      (sendRepeatedly (calm given) target message remaining attempts result sends) := by
  induction remaining generalizing attempts result sends with
  | zero => exact .inl ⟨_,rfl,rfl,le_rfl,fun n above below => absurd above (by simpa [sendRepeatedly] using below)⟩
  | succ remaining ih =>
    cases answer : given.reply sends.length with
    | error e =>
      have calmed : (calm given).reply sends.length = .ok { delivered := false } := by simp [calm,answer,Except.toOption]
      obtain ⟨made,tries,final,run,_⟩ := sendRepeatedly_sends (calm_returning given) target message remaining (attempts + 1)
        (show ({ delivered := false } : SendResult).delivered = false from rfl)
        (sends ++ [raisedOn given target message (some { delivered := false })])
      refine .inr ⟨⟨e,by simp [sendRepeatedly,answer]⟩,sends,target,message,by simp [sendRepeatedly,answer,raisedOn],le_rfl,⟨e,answer⟩,made,?_⟩
      rw [sendRepeatedly,calmed]
      exact (congrArg Prod.fst run).symm
    | ok reply =>
      have calmed : (calm given).reply sends.length = .ok reply := by simp [calm,answer,Except.toOption]
      have here : Answers given sends.length (sends.length + 1) := by
        intro n above below
        have same : n = sends.length := by omega
        exact ⟨reply,same ▸ answer⟩
      rw [sendRepeatedly,sendRepeatedly,answer,calmed]
      by_cases done : (reply.delivered || reply.refused) = true
      · simp only [done,if_true]
        exact .inl ⟨_,rfl,rfl,by simp,by simpa using here⟩
      · simp only [done,Bool.false_eq_true,if_false]
        rcases ih (attempts + 1) reply (sends ++ [⟨given.alert.investigationId,given.alert.approvalId,target,message,some reply⟩]) with
          ⟨x,returned,same,more,answers⟩ | ⟨raised,cut⟩
        · rw [List.length_append,List.length_singleton] at more answers
          exact .inl ⟨x,returned,same,by omega,here.trans answers⟩
        · exact .inr ⟨raised,cut.extend (by simp) List.prefix_rfl⟩

/-- The attempts of a delivery on its target. -/
def attemptsOn (given : Dispatching) (target : AlertTarget) (sends : List Sending) : List Sending × Except PyError (Nat × SendResult) :=
  if given.hasAdapter target.channel then
    sendRepeatedly given target (render given.alert target.channel) settings.notificationMaxAttempts 0
      ⟨false,target.channel.value ++ lit " has no adapter configured",true⟩ sends
  else (sends,.ok (0,⟨false,target.channel.value ++ lit " has no adapter configured",true⟩))

omit [Interpreter] in
theorem attemptsOn_mirrors (given : Dispatching) (target : AlertTarget) (sends : List Sending) :
    Mirrors id given sends.length (attemptsOn render settings given target sends) (attemptsOn render settings (calm given) target sends) := by
  have same : (calm given).hasAdapter = given.hasAdapter := rfl
  unfold attemptsOn
  rw [same]
  by_cases adapter : given.hasAdapter target.channel = true
  · rw [if_pos adapter,if_pos adapter]
    exact sendRepeatedly_mirrors given target _ _ _ _ _
  · rw [if_neg adapter,if_neg adapter]
    exact .inl ⟨_,rfl,rfl,le_rfl,fun n above below => absurd above (by simpa using below)⟩

/-- A delivery keeps the books on what came of its attempts, whichever adapters made
    them. -/
theorem attemptDelivery_books (given : Dispatching) (target : AlertTarget) (world : World) (row : Notification) :
    ∃ book : List Sending → Nat × SendResult → World × Option DeliveryOutcome, (∀ sends tried, (book sends tried).1.sends = sends) ∧
      ∀ reply sends, (∀ e, attemptsOn render settings { given with reply := reply } target world.sends = (sends,.error e) →
          attemptDelivery sha256 render settings { given with reply := reply } target world row = ({ world with sends := sends },.error e)) ∧
        ∀ tried, attemptsOn render settings { given with reply := reply } target world.sends = (sends,.ok tried) →
          attemptDelivery sha256 render settings { given with reply := reply } target world row =
            ((book sends tried).1,.ok (book sends tried).2) := by
  refine ⟨fun sends tried => ⟨{ world with
      sends := sends
      notifications := world.notifications.set (targetKey sha256 given.alert target)
        (if tried.2.delivered then
          { row with
            deliveryAttempts := row.deliveryAttempts + tried.1, status := .SENT, sentAt := some (given.now sends.length), failureReason := none }
        else
          { row with
            deliveryAttempts := row.deliveryAttempts + tried.1, status := .FAILED, failureReason := some (tried.2.detail.take 500) }) },
    some ⟨target.channel,target.recipient,tried.2.delivered,tried.1,tried.2.detail,tried.2.refused⟩⟩,fun _ _ => rfl,?_⟩
  intro reply sends
  refine ⟨fun e attempted => ?_,fun tried attempted => ?_⟩
  · unfold attemptsOn at attempted
    simp only [attemptDelivery,attempted]
  · unfold attemptsOn at attempted
    simp only [attemptDelivery,attempted]

theorem attemptDelivery_mirrors (given : Dispatching) (target : AlertTarget) (world : World) (row : Notification) :
    Mirrors World.sends given world.sends.length (attemptDelivery sha256 render settings given target world row)
      (attemptDelivery sha256 render settings (calm given) target world row) := by
  obtain ⟨book,log,books⟩ := attemptDelivery_books sha256 render settings given target world row
  obtain ⟨run,attempted⟩ : ∃ run, attemptsOn render settings given target world.sends = run := ⟨_,rfl⟩
  obtain ⟨calmRun,calmed⟩ : ∃ run, attemptsOn render settings (calm given) target world.sends = run := ⟨_,rfl⟩
  have mirrored := attemptsOn_mirrors render settings given target world.sends
  rw [attempted,calmed] at mirrored
  obtain ⟨sends,outcome⟩ := run
  rcases mirrored with ⟨tried,returned,same,more,answers⟩ | ⟨⟨e,raised⟩,cut⟩
  · cases returned
    subst same
    rw [(books given.reply sends).2 tried attempted,show attemptDelivery sha256 render settings (calm given) target world row = _ from
      (books (calm given).reply sends).2 tried calmed]
    refine .inl ⟨_,rfl,rfl,?_,?_⟩
    · rwa [log]
    · rwa [log]
  · cases raised
    rw [(books given.reply sends).1 e attempted]
    refine .inr ⟨⟨e,rfl⟩,?_⟩
    obtain ⟨calmSends,calmOutcome⟩ := calmRun
    cases calmOutcome with
    | error other =>
      rw [show attemptDelivery sha256 render settings (calm given) target world row = _ from (books (calm given).reply calmSends).1 other calmed]
      exact cut
    | ok tried =>
      rw [show attemptDelivery sha256 render settings (calm given) target world row = _ from (books (calm given).reply calmSends).2 tried calmed]
      exact cut.extend le_rfl (by rw [log]; exact List.prefix_rfl)

theorem deliver_mirrors (given : Dispatching) (target : AlertTarget) (world : World) :
    Mirrors World.sends given world.sends.length (deliver sha256 render settings given target world)
      (deliver sha256 render settings (calm given) target world) := by
  have key : targetKey sha256 (calm given).alert target = targetKey sha256 given.alert target := rfl
  unfold deliver
  simp only [key]
  cases stored : world.notifications.get? (targetKey sha256 given.alert target) with
  | none =>
    exact attemptDelivery_mirrors sha256 render settings given target { world with notifications := world.notifications.set _ _ } _
  | some row =>
    by_cases sent : row.status = .SENT
    · simp only [sent,if_true]
      exact .inl ⟨none,rfl,rfl,le_rfl,fun n above below => absurd above (by simpa using below)⟩
    · simp only [sent,if_false]
      exact attemptDelivery_mirrors sha256 render settings given target world row

omit [Interpreter] in
/-- A first step that mirrors, followed by steps that do. -/
theorem Mirrors.later {β : Type} {given : Dispatching} {start middle : Nat} {second calmed : World × Except PyError β}
    (more : start ≤ middle) (answers : Answers given start middle) (mirrors : Mirrors World.sends given middle second calmed) :
    Mirrors World.sends given start second calmed := by
  rcases mirrors with ⟨x,returned,same,further,rest⟩ | ⟨raised,cut⟩
  · exact .inl ⟨x,returned,same,more.trans further,answers.trans rest⟩
  · exact .inr ⟨raised,cut.extend more List.prefix_rfl⟩

theorem deliverTier_mirrors (given : Dispatching) (tier : List AlertTarget) (world : World) (progress : Progress) :
    Mirrors World.sends given world.sends.length (deliverTier sha256 render settings given tier world progress)
      (deliverTier sha256 render settings (calm given) tier world progress) := by
  induction tier generalizing world progress with
  | nil => exact .inl ⟨progress,rfl,rfl,le_rfl,fun n above below => absurd above (by simpa [deliverTier] using below)⟩
  | cons target rest ih =>
    unfold deliverTier
    rcases deliver_mirrors sha256 render settings given target world with ⟨outcome,returned,same,more,answers⟩ | ⟨⟨e,raised⟩,cut⟩
    · obtain ⟨⟨next,result⟩,delivery⟩ : ∃ run, deliver sha256 render settings given target world = run := ⟨_,rfl⟩
      rw [same]
      rw [delivery] at returned more answers ⊢
      cases returned
      cases outcome with
      | none => exact Mirrors.later more answers (ih next _)
      | some outcome => exact Mirrors.later more answers (ih next _)
    · obtain ⟨middle,made,outcome,calmed,_⟩ := deliver_made sha256 render settings (calm_returning given) target world
      obtain ⟨⟨next,result⟩,delivery⟩ : ∃ run, deliver sha256 render settings given target world = run := ⟨_,rfl⟩
      rw [calmed] at cut ⊢
      rw [delivery] at raised cut ⊢
      cases raised
      refine .inr ⟨⟨e,rfl⟩,?_⟩
      cases outcome with
      | none =>
        obtain ⟨final,further,after,run,sent,_⟩ := deliverTier_made sha256 render settings (calm_returning given) rest middle
          { progress with deduplicated := progress.deduplicated ++ [target] }
        simp only [run]
        exact cut.extend le_rfl ⟨further,sent.log.symm⟩
      | some outcome =>
        obtain ⟨final,further,after,run,sent,_⟩ := deliverTier_made sha256 render settings (calm_returning given) rest middle
          { progress with outcomes := progress.outcomes ++ [outcome], deliveredAnywhere := progress.deliveredAnywhere || outcome.delivered }
        simp only [run]
        exact cut.extend le_rfl ⟨further,sent.log.symm⟩

theorem deliverTiers_mirrors (given : Dispatching) (tiers : List (List AlertTarget)) (world : World) (progress : Progress) :
    Mirrors World.sends given world.sends.length (deliverTiers sha256 render settings given tiers world progress)
      (deliverTiers sha256 render settings (calm given) tiers world progress) := by
  induction tiers generalizing world progress with
  | nil => exact .inl ⟨progress,rfl,rfl,le_rfl,fun n above below => absurd above (by simpa [deliverTiers] using below)⟩
  | cons tier rest ih =>
    unfold deliverTiers
    by_cases anywhere : progress.deliveredAnywhere = true
    · rw [if_pos anywhere,if_pos anywhere]
      exact .inl ⟨progress,rfl,rfl,le_rfl,fun n above below => absurd above (by simpa using below)⟩
    rw [if_neg anywhere,if_neg anywhere]
    rcases deliverTier_mirrors sha256 render settings given tier world progress with ⟨between,returned,same,more,answers⟩ | ⟨⟨e,raised⟩,cut⟩
    · obtain ⟨⟨next,result⟩,delivery⟩ : ∃ run, deliverTier sha256 render settings given tier world progress = run := ⟨_,rfl⟩
      rw [same]
      rw [delivery] at returned more answers ⊢
      cases returned
      exact Mirrors.later more answers (ih next between)
    · obtain ⟨middle,made,between,calmed,_⟩ := deliverTier_made sha256 render settings (calm_returning given) tier world progress
      obtain ⟨⟨next,result⟩,delivery⟩ : ∃ run, deliverTier sha256 render settings given tier world progress = run := ⟨_,rfl⟩
      obtain ⟨final,further,after,run,sent,_⟩ := deliverTiers_made sha256 render settings (calm_returning given) rest middle between
      rw [calmed] at cut ⊢
      rw [delivery] at raised cut ⊢
      cases raised
      simp only [run]
      exact .inr ⟨⟨e,rfl⟩,cut.extend le_rfl ⟨further,sent.log.symm⟩⟩

/-! ### Rows of a dispatch that reaches nobody -/

omit [Interpreter] in
/-- The key has a delivery row that failed. -/
def Failed (world : World) (key : Text) : Prop := ∃ row, world.notifications.get? key = some row ∧ row.status = .FAILED

omit [Interpreter] in
/-- Between two worlds nobody is reached, and every target that was not has a row that
    failed. -/
structure Unanswered (key : AlertTarget → Text) (targets : List AlertTarget) (world next : World) : Prop where
  reached : ∀ sought, Reached next sought → Reached world sought
  kept : ∀ sought, Failed world sought → Failed next sought
  failed : ∀ target ∈ targets, Reached world (key target) ∨ Failed next (key target)

omit [Interpreter] in
theorem Unanswered.trans {key : AlertTarget → Text} {targets more : List AlertTarget} {world middle next : World}
    (first : Unanswered key targets world middle) (second : Unanswered key more middle next) : Unanswered key (targets ++ more) world next := by
  refine ⟨fun sought reached => first.reached sought (second.reached sought reached),
    fun sought failed => second.kept sought (first.kept sought failed),fun target member => ?_⟩
  rcases List.mem_append.mp member with member | member
  · exact (first.failed target member).imp id (second.kept _)
  · exact (second.failed target member).imp (first.reached _) id

theorem attemptDelivery_row {given : Dispatching} {target : AlertTarget} {world next : World} {row : Notification}
    {outcome : Option DeliveryOutcome} (run : attemptDelivery sha256 render settings given target world row = (next,.ok outcome)) :
    ∃ sent stored, outcome = some sent ∧ next.notifications.get? (targetKey sha256 given.alert target) = some stored ∧
      (sent.delivered = false → stored.status = .FAILED) ∧
      ∀ other, other ≠ targetKey sha256 given.alert target → next.notifications.get? other = world.notifications.get? other := by
  unfold attemptDelivery at run
  simp only at run
  split at run
  · cases run
  · cases run
    refine ⟨_,_,rfl,Dict.get?_set_self _ _ _,fun missed => ?_,fun other apart => ?_⟩
    · rw [if_neg (by simpa using missed)]
    · rw [Dict.get?_set,if_neg apart]

theorem deliver_unanswered {given : Dispatching} {target : AlertTarget} {world next : World} {outcome : Option DeliveryOutcome}
    (run : deliver sha256 render settings given target world = (next,.ok outcome))
    (missed : ∀ sent, outcome = some sent → sent.delivered = false) : Unanswered (targetKey sha256 given.alert) [target] world next := by
  have attempted : ∀ (start : World) row, attemptDelivery sha256 render settings given target start row = (next,.ok outcome) →
      (∀ other, other ≠ targetKey sha256 given.alert target → start.notifications.get? other = world.notifications.get? other) →
      Unanswered (targetKey sha256 given.alert) [target] world next := by
    intro start row attempt elsewhere
    obtain ⟨sent,stored,same,here,status,others⟩ := attemptDelivery_row sha256 render settings attempt
    have failed : Failed next (targetKey sha256 given.alert target) := ⟨stored,here,status (missed sent same)⟩
    refine ⟨fun sought reached => ?_,fun sought before => ?_,by simpa using .inr failed⟩
    · by_cases own : sought = targetKey sha256 given.alert target
      · obtain ⟨found,at_key,is_sent⟩ := reached
        rw [own,here] at at_key
        cases at_key
        rw [status (missed sent same)] at is_sent
        cases is_sent
      · obtain ⟨found,at_key,is_sent⟩ := reached
        exact ⟨found,by rw [← elsewhere sought own,← others sought own,at_key],is_sent⟩
    · by_cases own : sought = targetKey sha256 given.alert target
      · exact own ▸ failed
      · obtain ⟨found,at_key,has_failed⟩ := before
        exact ⟨found,by rw [others sought own,elsewhere sought own,at_key],has_failed⟩
  unfold deliver at run
  simp only at run
  split at run
  case h_1 row stored =>
    by_cases sent : row.status = .SENT
    · rw [if_pos sent] at run
      cases run
      exact ⟨fun _ reached => reached,fun _ failed => failed,by simpa using .inl ⟨row,stored,sent⟩⟩
    · rw [if_neg sent] at run
      exact attempted world row run fun _ _ => rfl
  case h_2 =>
    exact attempted _ _ run fun other apart => by rw [Dict.get?_set,if_neg apart]

theorem deliverTier_unanswered {given : Dispatching} {tier : List AlertTarget} {world next : World} {progress after : Progress}
    (run : deliverTier sha256 render settings given tier world progress = (next,.ok after)) (nowhere : after.deliveredAnywhere = false) :
    progress.deliveredAnywhere = false ∧ Unanswered (targetKey sha256 given.alert) tier world next := by
  induction tier generalizing world progress with
  | nil =>
    cases run
    exact ⟨nowhere,fun _ reached => reached,fun _ failed => failed,by simp⟩
  | cons target rest ih =>
    unfold deliverTier at run
    split at run
    · cases run
    · rename_i middle delivery
      obtain ⟨before,others⟩ := ih run
      have here := deliver_unanswered sha256 render settings delivery (by simp)
      exact ⟨before,here.trans others⟩
    · rename_i middle outcome delivery
      obtain ⟨before,others⟩ := ih run
      simp only [Bool.or_eq_false_iff] at before
      have here := deliver_unanswered sha256 render settings delivery (by
        intro sent same
        cases same
        exact before.2)
      exact ⟨before.1,here.trans others⟩

theorem deliverTiers_unanswered {given : Dispatching} {tiers : List (List AlertTarget)} {world next : World} {progress after : Progress}
    (run : deliverTiers sha256 render settings given tiers world progress = (next,.ok after)) (nowhere : after.deliveredAnywhere = false) :
    progress.deliveredAnywhere = false ∧ Unanswered (targetKey sha256 given.alert) tiers.flatten world next := by
  induction tiers generalizing world progress with
  | nil =>
    cases run
    exact ⟨nowhere,fun _ reached => reached,fun _ failed => failed,by simp⟩
  | cons tier rest ih =>
    unfold deliverTiers at run
    by_cases anywhere : progress.deliveredAnywhere = true
    · rw [if_pos anywhere] at run
      cases run
      rw [anywhere] at nowhere
      cases nowhere
    · rw [if_neg anywhere] at run
      split at run
      · cases run
      · rename_i middle between delivery
        obtain ⟨still,others⟩ := ih run
        obtain ⟨before,here⟩ := deliverTier_unanswered sha256 render settings delivery still
        exact ⟨before,here.trans others⟩

/-- Tier after tier, until someone is reached, every target with an adapter gets the
    alert or has it. -/
theorem deliverTiers_attempts {given : Dispatching} (returning : Returning given) {before after : List (List AlertTarget)} {tier : List AlertTarget}
    {world next : World} {progress done : Progress} {made : List Sending}
    (run : deliverTiers sha256 render settings given (before ++ tier :: after) world progress = (next,.ok done))
    (log : next.sends = world.sends ++ made) (nowhere : progress.deliveredAnywhere = false)
    (silent : ∀ sending ∈ made, sending.target ∈ before.flatten → sending.arrived = false) :
    ∀ target ∈ tier, given.hasAdapter target.channel = true →
      Reached next (targetKey sha256 given.alert target) ∨ ∃ sending ∈ made, sending.target = target := by
  induction before generalizing world progress made with
  | nil =>
    obtain ⟨middle,first,between,tierRun,sent,_,_,tried⟩ := deliverTier_made sha256 render settings returning tier world progress
    obtain ⟨last,second,final,rest,later,_⟩ := deliverTiers_made sha256 render settings returning after middle between
    simp only [List.nil_append,deliverTiers,nowhere,Bool.false_eq_true,if_false,tierRun,rest] at run
    cases run
    rw [later.log,sent.log,List.append_assoc] at log
    have same := List.append_cancel_left log
    intro target member adapter
    refine (tried target member adapter).imp later.stays ?_
    exact fun ⟨sending,here,aim⟩ => ⟨sending,same ▸ List.mem_append_left _ here,aim⟩
  | cons head before ih =>
    obtain ⟨middle,first,between,tierRun,sent,anywhere,_,_⟩ := deliverTier_made sha256 render settings returning head world progress
    obtain ⟨last,second,final,rest,later,_⟩ := deliverTiers_made sha256 render settings returning (before ++ tier :: after) middle between
    simp only [List.cons_append,deliverTiers,nowhere,Bool.false_eq_true,if_false,tierRun,rest] at run
    cases run
    rw [later.log,sent.log,List.append_assoc] at log
    have same := List.append_cancel_left log
    have still : between.deliveredAnywhere = false := by
      rw [← Bool.not_eq_true,anywhere,nowhere]
      rintro (never | ⟨sending,here,arrived⟩)
      · cases never
      · rw [silent sending (same ▸ List.mem_append_left _ here) (by simp [sent.aimed sending here])] at arrived
        cases arrived
    intro target member adapter
    refine (ih rest later.log still ?_ target member adapter).imp id ?_
    · intro sending follows within
      exact silent sending (same ▸ List.mem_append_right _ follows) (by simp only [List.flatten_cons,List.mem_append]; exact .inr within)
    · exact fun ⟨sending,follows,aim⟩ => ⟨sending,same ▸ List.mem_append_right _ follows,aim⟩

/-! ### What is committed -/

variable {render}

theorem deliverAlert_returned {given : Dispatching} {world next : World} {targets : List AlertTarget} {progress : Progress}
    (attempts : Attempts settings world given) (resolved : resolveTargets settings = .ok targets)
    (run : deliverTiers sha256 render settings given (failoverPlan targets) world {} = (next,.ok progress)) :
    deliverAlert sha256 render settings (.ok given) world =
      if progress.outcomes ≠ [] ∧ progress.deliveredAnywhere = false then deadLetter given progress.outcomes next else next := by
  obtain ⟨⟨decision,approved⟩,worth⟩ := attempts
  unfold deliverAlert dispatchAlert
  simp only [approved,worth,Bool.not_true,Bool.false_eq_true,if_false,resolved]
  cases targets with
  | nil =>
    cases run
    simp
  | cons target targets =>
    simp only [run]
    split_ifs <;> rfl

theorem deliverAlert_raised {given : Dispatching} {world next : World} {targets : List AlertTarget} {e : PyError}
    (attempts : Attempts settings world given) (resolved : resolveTargets settings = .ok targets)
    (run : deliverTiers sha256 render settings given (failoverPlan targets) world {} = (next,.error e)) :
    deliverAlert sha256 render settings (.ok given) world = rollback world next := by
  obtain ⟨⟨decision,approved⟩,worth⟩ := attempts
  unfold deliverAlert dispatchAlert
  simp only [approved,worth,Bool.not_true,Bool.false_eq_true,if_false,resolved]
  cases targets with
  | nil => cases run
  | cons target targets => simp only [run]

/-- The alert was given up on the record: the audit entry is there, and so are the dead
    letters of the targets that did not have it. -/
structure GivenUp (given : Dispatching) (targets : List AlertTarget) (world committed : World) : Prop where
  audited : ∃ entry : AuditEntry, committed.audit = world.audit ++ [entry] ∧ entry.action = lit "notification.dead_letter" ∧
    entry.entityId = some given.alert.investigationId
  buried : ∀ target ∈ targets, ¬ Reached world (targetKey sha256 given.alert target) →
    ∃ row, committed.notifications.get? (targetKey sha256 given.alert target) = some row ∧
      (row.approvalId = given.alert.approvalId → row.status = .DEAD_LETTER)

/-- The committed state accounts for the messages a dispatch sent. -/
structure Accounted (given : Dispatching) (tiers : List (List AlertTarget)) (world committed : World) (made : List Sending) : Prop where
  sent : ∀ sending ∈ made, sending.arrived = true → Reached committed (targetKey sha256 given.alert sending.target)
  attempted : ∀ before tier after, tiers = before ++ tier :: after →
    (∀ sending ∈ made, sending.target ∈ before.flatten → sending.arrived = false) →
    ∀ target ∈ tier, given.hasAdapter target.channel = true →
      Reached committed (targetKey sha256 given.alert target) ∨ ∃ sending ∈ made, sending.target = target
  givenUp : (∀ sending ∈ made, sending.arrived = false) →
    (∃ target ∈ tiers.flatten, ¬ Reached world (targetKey sha256 given.alert target)) →
    GivenUp sha256 given tiers.flatten world committed

variable {sha256 settings}

theorem returned_accounted {given : Dispatching} {world next : World} {tiers : List (List AlertTarget)} {progress : Progress}
    (run : deliverTiers sha256 render settings given tiers world {} = (next,.ok progress))
    (same : deliverTiers sha256 render settings (calm given) tiers world {} = (next,.ok progress)) :
    ∃ made, next.sends = world.sends ++ made ∧ Accounted sha256 given tiers world
      (if progress.outcomes ≠ [] ∧ progress.deliveredAnywhere = false then deadLetter given progress.outcomes next else next) made := by
  obtain ⟨final,made,after,calmed,sent,_,_,anywhere,nowhere⟩ := deliverTiers_made sha256 render settings (calm_returning given) tiers world {}
  rw [same] at calmed
  cases calmed
  have survives : ∀ key, Reached (if progress.outcomes ≠ [] ∧ progress.deliveredAnywhere = false then
      deadLetter given progress.outcomes next else next) key ↔ Reached next key := by
    intro key
    split_ifs
    · exact reached_deadLetter given _ _ _
    · exact Iff.rfl
  refine ⟨made,sent.log,?_,?_,?_⟩
  · intro sending member arrived
    exact (survives _).mpr ((sent.reached _).mpr (.inr ⟨sending,member,arrived,rfl⟩))
  · rintro before tier after rfl silent target member adapter
    refine (deliverTiers_attempts sha256 render settings (calm_returning given) same sent.log rfl silent target member adapter).imp ?_ id
    exact (survives _).mpr
  · intro silent missed
    have still : progress.deliveredAnywhere = false := by
      rw [← Bool.not_eq_true,anywhere]
      rintro (never | ⟨sending,member,arrived⟩)
      · cases never
      · rw [silent sending member] at arrived
        cases arrived
    have lost : progress.outcomes ≠ [] := (nowhere still).1.mpr (.inr missed)
    rw [if_pos ⟨lost,still⟩]
    refine ⟨⟨_,congrArg (· ++ _) sent.audit,rfl,rfl⟩,fun target member unreached => ?_⟩
    obtain ⟨_,unanswered⟩ := deliverTiers_unanswered sha256 render settings run still
    obtain ⟨row,stored,failed⟩ := (unanswered.failed target member).resolve_left unreached
    simp only [deadLetter,Dict.get?_mapValues,stored,Option.map_some,Option.some.injEq,exists_eq_left']
    intro own
    split_ifs at own ⊢ with buried
    · rfl
    · exact absurd ⟨own,failed⟩ buried

/-- Messages cut short are not accounted for: a delivered one has no row, and an alert
    that reached nobody is not given up. -/
theorem raised_unaccounted {given : Dispatching} {world next : World} {tiers : List (List AlertTarget)}
    (cut : CutShort given world.sends.length next.sends (deliverTiers sha256 render settings (calm given) tiers world {}).1.sends) :
    ∃ made, next.sends = world.sends ++ made ∧ ¬ Accounted sha256 given tiers world (rollback world next) made := by
  obtain ⟨final,made,after,calmed,sent,_⟩ := deliverTiers_made sha256 render settings (calm_returning given) tiers world {}
  rw [calmed] at cut
  obtain ⟨before,target,message,log,bound,_,goes_on⟩ := cut
  rw [sent.log] at goes_on
  obtain ⟨front,rfl⟩ : world.sends <+: before :=
    List.prefix_of_prefix_length_le (List.prefix_append _ _) ((List.prefix_append _ _).trans goes_on) bound
  rw [List.append_assoc] at log goes_on
  have within : front ++ [raisedOn given target message (some { delivered := false })] <+: made := (List.prefix_append_right_inj _).mp goes_on
  refine ⟨_,log,fun accounted => ?_⟩
  have earlier : ∀ sending ∈ front, sending ∈ made := fun sending member => within.subset (List.mem_append_left _ member)
  have aimed : raisedOn given target message (some { delivered := false }) ∈ made := within.subset (by simp)
  have silent : ∀ sending ∈ front ++ [raisedOn given target message none], sending.arrived = false := by
    intro sending member
    by_contra arrived
    have reached := accounted.sent sending member (by simpa using arrived)
    rcases List.mem_append.mp member with member | member
    · exact sent.fresh sending (earlier sending member) reached
    · rw [List.mem_singleton] at member
      exact arrived (member ▸ rfl)
  obtain ⟨⟨entry,recorded,_⟩,_⟩ := accounted.givenUp silent ⟨target,sent.aimed _ aimed,sent.fresh _ aimed⟩
  exact absurd (congrArg List.length recorded) (by simp [rollback])

end

/-- A dispatch whose first adapter cannot encode the message. -/
def unencodable : Dispatching := { answering false with reply := fun _ => .error .UnicodeEncodeError }

theorem slackWebhook_named : strip (lit "slack-webhook") ≠ [] := by decide

/-- The targets of the fixed configuration. -/
def slackAndAnalyst : List AlertTarget := [⟨.SLACK,lit "slack-webhook",slackWebhook_named⟩,⟨.EMAIL,lit "soc@example.org",by decide⟩]

theorem approved_attempts (given : Dispatching) (alert : given.alert = urgentAlert) : Attempts slackThenEmail approvedWorld given := by
  unfold Attempts
  rw [alert]
  exact ⟨⟨_,rfl⟩,rfl⟩

end SocAnalyst.Delivery
