import SocAnalyst.GraphRuns

/-!
# The declared graph

The edges as they are declared, without the state: which passes may follow which. What
holds on every path of this graph holds of every run of the service.
-/
namespace SocAnalyst.Graph
open SocAnalyst.Builtins SocAnalyst.Values SocAnalyst.Decisions SocAnalyst.Runs

/-- One node that completed, with the decision that a gate pass consumed. -/
structure Pass where
  node : Node
  decision : Option Mapping := none

/-- The edges that do not branch on a decision. -/
def declared : List (Node × Option Node) :=
  [(.INGEST_SEED,some .LOG_ANALYSIS),(.LOG_ANALYSIS,some .THREAT_DETECTION),(.THREAT_DETECTION,some .CVE_RESEARCH),
    (.THREAT_DETECTION,some .REPORT),(.CVE_RESEARCH,some .REPORT),(.REPORT,some .REMEDIATION),(.REMEDIATION,some .TRIAGE),
    (.TRIAGE,some .HUMAN_GATE),(.NOTIFY,some .CLOSE),(.CLOSE,none)]

/-- The arm of the gate that a recorded decision takes. -/
def arm (decision : Mapping) : Node := armOf (get decision (lit "decision"))

inductive Edge : Pass → Option Node → Prop where
  | plain {node : Node} {next : Option Node} : (node,next) ∈ declared → Edge ⟨node,none⟩ next
  | gate (decision : Mapping) : Edge ⟨.HUMAN_GATE,some decision⟩ (some (arm decision))

/-- One pass of the declared graph. -/
def Flow (here : Option Node) (pass : Pass) (next : Option Node) : Prop := here = some pass.node ∧ Edge pass next

/-- What a decision says. -/
def Decides (decision : Mapping) (type : DecisionType) : Prop := get decision (lit "decision") = .str type.value

theorem arm_cases (decision : Mapping) :
    (arm decision = .TRIAGE ∧ Decides decision .REDIRECT) ∨
      (arm decision = .NOTIFY ∧ Decides decision .APPROVE ∧ ¬ Decides decision .REDIRECT) ∨
      (arm decision = .CLOSE ∧ ¬ Decides decision .APPROVE ∧ ¬ Decides decision .REDIRECT) := by
  unfold arm Decides armOf
  cases value : get decision (lit "decision") with
  | str text =>
    by_cases redirect : text = DecisionType.REDIRECT.value
    · simp [redirect]
    · by_cases approve : text = DecisionType.APPROVE.value
      · simp [approve,show ¬ DecisionType.APPROVE.value = DecisionType.REDIRECT.value by decide]
      · simp [redirect,approve]
  | _ => simp

theorem arm_notify (decision : Mapping) : arm decision = .NOTIFY ↔ Decides decision .APPROVE := by
  rcases arm_cases decision with ⟨taken,redirect⟩ | ⟨taken,approve,_⟩ | ⟨taken,approve,_⟩
  · have other : ¬ Decides decision .APPROVE := by
      unfold Decides at *
      rw [redirect,Value.str.injEq]
      decide
    simp [taken,other]
  · simp [taken,approve]
  · simp [taken,approve]

/-! ### Every path -/

/-- The nodes that have been passed whenever a node is next. -/
def required : Option Node → List Node
  | some .REMEDIATION => [.REPORT]
  | some .TRIAGE => [.REPORT,.REMEDIATION]
  | some .HUMAN_GATE => [.REPORT,.REMEDIATION,.TRIAGE]
  | some .NOTIFY | some .CLOSE | none => [.REPORT,.REMEDIATION,.TRIAGE,.HUMAN_GATE]
  | _ => []

theorem required_edge {pass : Pass} {next : Option Node} (edge : Edge pass next) {node : Node} (needed : node ∈ required next) :
    node = pass.node ∨ node ∈ required (some pass.node) := by
  cases edge with
  | plain member =>
    have all : ∀ edge ∈ declared, ∀ node ∈ required edge.2, node = edge.1 ∨ node ∈ required (some edge.1) := by decide
    exact all _ member node needed
  | gate decision =>
    have all : ∀ taken ∈ [Node.TRIAGE,.NOTIFY,.CLOSE], ∀ node ∈ required (some taken),
        node = .HUMAN_GATE ∨ node ∈ required (some .HUMAN_GATE) := by decide
    refine all (arm decision) ?_ node needed
    rcases arm_cases decision with ⟨taken,_⟩ | ⟨taken,_⟩ | ⟨taken,_⟩ <;> simp [taken]

variable {passes : List Pass} {next : Option Node}

theorem required_passed (run : Run Flow (some .INGEST_SEED) passes next) {node : Node} (needed : node ∈ required next) :
    node ∈ passes.map (·.node) := by
  have all := run.accumulates (P := fun done here => ∀ node ∈ required here, node ∈ done.map (·.node)) ?_ [] (by simp [required])
  · exact all node needed
  · rintro done _ pass next earlier ⟨rfl,edge⟩ node needed
    rw [List.map_append,List.mem_append,List.map_singleton,List.mem_singleton]
    rcases required_edge edge needed with same | needed
    · exact .inr same
    · exact .inl (earlier node needed)

/-- A decision that was given last. -/
def lastDecision (passes : List Pass) : Option Mapping := (passes.filterMap (·.decision)).getLast?

/-- Whether the decision given last approves. -/
def approved (passes : List Pass) : Bool := ((lastDecision passes).map arm).any fun node => node = .NOTIFY

def notifications (passes : List Pass) : Nat := (passes.filter fun pass => pass.node = .NOTIFY).length

/-- Before the end nobody was notified; at the end one notification went out exactly
    when the last decision approved. -/
theorem notifications_counted (run : Run Flow (some .INGEST_SEED) passes next) :
    notifications passes = (if (next = some .CLOSE ∨ next = none) ∧ approved passes = true then 1 else 0) ∧
      (next = some .NOTIFY → approved passes = true) := by
  refine run.accumulates (P := fun done here =>
    notifications done = (if (here = some .CLOSE ∨ here = none) ∧ approved done = true then 1 else 0) ∧
      (here = some .NOTIFY → approved done = true)) ?_ [] (by simp [notifications])
  rintro done _ pass next ⟨counted,announced⟩ ⟨rfl,edge⟩
  cases edge with
  | @plain node next member =>
    have same : approved (done ++ [⟨node,none⟩]) = approved done := by simp [approved,lastDecision]
    have more : notifications (done ++ [⟨node,none⟩]) = notifications done + if node = .NOTIFY then 1 else 0 := by
      unfold notifications
      rw [List.filter_append,List.length_append]
      by_cases here : node = .NOTIFY <;> simp [here]
    rw [same,more,counted]
    simp only [declared,List.mem_cons,Prod.mk.injEq,List.not_mem_nil,or_false] at member
    rcases member with h | h | h | h | h | h | h | h | ⟨rfl,rfl⟩ | ⟨rfl,rfl⟩
    · simp [h]
    · simp [h]
    · simp [h]
    · simp [h]
    · simp [h]
    · simp [h]
    · simp [h]
    · simp [h]
    · simp [announced rfl]
    · simp
  | gate decision =>
    have last : approved (done ++ [⟨.HUMAN_GATE,some decision⟩]) = decide (arm decision = .NOTIFY) := by
      simp [approved,lastDecision]
    have more : notifications (done ++ [⟨.HUMAN_GATE,some decision⟩]) = 0 := by
      unfold notifications at *
      rw [List.filter_append,List.length_append,counted]
      simp
    rw [last,more]
    rcases arm_cases decision with ⟨taken,_⟩ | ⟨taken,_⟩ | ⟨taken,_⟩ <;> simp [taken]

/-- What may follow a pass into the notifying, the closing or the redirecting arm. -/
theorem after_close {after : List Pass} (run : Run Flow (some .CLOSE) after next) : after <+: [⟨.CLOSE,none⟩] := by
  cases run with
  | stop => exact List.nil_prefix
  | @go _ _ _ pass rest first later =>
    obtain ⟨here,edge⟩ := first
    cases edge with
    | plain member =>
      simp only [Option.some.injEq] at here
      subst here
      simp [declared] at member
      subst member
      cases later with
      | stop => exact List.prefix_rfl
      | go second _ => cases second.1
    | gate decision => cases here

theorem after_notify {after : List Pass} (run : Run Flow (some .NOTIFY) after next) :
    after <+: [⟨.NOTIFY,none⟩,⟨.CLOSE,none⟩] := by
  cases run with
  | stop => exact List.nil_prefix
  | @go _ _ _ pass rest first later =>
    obtain ⟨here,edge⟩ := first
    cases edge with
    | plain member =>
      simp only [Option.some.injEq] at here
      subst here
      simp [declared] at member
      subst member
      exact List.cons_prefix_cons.mpr ⟨rfl,after_close later⟩
    | gate decision => cases here

theorem after_triage {after : List Pass} (run : Run Flow (some .TRIAGE) after next) :
    after <+: [⟨.TRIAGE,none⟩] ∨ ∃ decision rest, after = ⟨.TRIAGE,none⟩ :: ⟨.HUMAN_GATE,some decision⟩ :: rest := by
  cases run with
  | stop => exact .inl List.nil_prefix
  | @go _ _ _ pass rest first later =>
    obtain ⟨here,edge⟩ := first
    cases edge with
    | gate decision => cases here
    | plain member =>
      simp only [Option.some.injEq] at here
      subst here
      simp [declared] at member
      subst member
      cases later with
      | stop => exact .inl List.prefix_rfl
      | @go _ _ _ second rest first later =>
        obtain ⟨here,edge⟩ := first
        cases edge with
        | gate decision => exact .inr ⟨decision,rest,rfl⟩
        | plain member =>
          simp only [Option.some.injEq] at here
          subst here
          simp [declared] at member

/-- What every path of the declared graph promises about the gate. -/
structure Gated (passes : List Pass) : Prop where
  notified : ∀ before pass after, passes = before ++ pass :: after → pass.node = .NOTIFY →
    ∃ earlier decision, before = earlier ++ [⟨.HUMAN_GATE,some decision⟩] ∧ Decides decision .APPROVE
  once : notifications passes ≤ 1
  closed : ∀ before pass after, passes = before ++ pass :: after → pass.node = .CLOSE → .HUMAN_GATE ∈ before.map (·.node)
  prepared : ∀ before pass after, passes = before ++ pass :: after → pass.node = .HUMAN_GATE →
    .REPORT ∈ before.map (·.node) ∧ .REMEDIATION ∈ before.map (·.node) ∧ .TRIAGE ∈ before.map (·.node)
  redirected : ∀ before decision after, passes = before ++ ⟨.HUMAN_GATE,some decision⟩ :: after → Decides decision .REDIRECT →
    after <+: [⟨.TRIAGE,none⟩] ∨ ∃ again rest, after = ⟨.TRIAGE,none⟩ :: ⟨.HUMAN_GATE,some again⟩ :: rest
  settled : ∀ before decision after, passes = before ++ ⟨.HUMAN_GATE,some decision⟩ :: after → ¬ Decides decision .REDIRECT →
    after <+: [⟨.CLOSE,none⟩] ∨ after <+: [⟨.NOTIFY,none⟩,⟨.CLOSE,none⟩]

theorem flow_gated (run : Run Flow (some .INGEST_SEED) passes next) : Gated passes := by
  have parted : ∀ before pass after, passes = before ++ pass :: after →
      Run Flow (some .INGEST_SEED) before (some pass.node) ∧ ∃ follows, Edge pass follows ∧ Run Flow follows after next := by
    rintro before pass after rfl
    obtain ⟨middle,front,back⟩ := run.split
    cases back with
    | go first later =>
      obtain ⟨rfl,edge⟩ := first
      exact ⟨front,_,edge,later⟩
  refine ⟨?_,?_,?_,?_,?_,?_⟩
  · intro before pass after split here
    obtain ⟨front,_⟩ := parted before pass after split
    rw [here] at front
    rcases front.last with ⟨_,start⟩ | ⟨earlier,last,middle,rfl,_,_,edge⟩
    · cases start
    · generalize aim : some Node.NOTIFY = target at edge
      cases edge with
      | plain member =>
        subst aim
        simp [declared] at member
      | gate decision =>
        rw [Option.some.injEq] at aim
        exact ⟨earlier,decision,rfl,(arm_notify decision).mp aim.symm⟩
  · rw [(notifications_counted run).1]
    split_ifs <;> omega
  · intro before pass after split here
    obtain ⟨front,_⟩ := parted before pass after split
    rw [here] at front
    exact required_passed front (by simp [required])
  · intro before pass after split here
    obtain ⟨front,_⟩ := parted before pass after split
    rw [here] at front
    exact ⟨required_passed front (by simp [required]),required_passed front (by simp [required]),
      required_passed front (by simp [required])⟩
  · intro before decision after split redirect
    obtain ⟨_,_,edge,later⟩ := parted before _ after split
    cases edge with
    | gate =>
      rcases arm_cases decision with ⟨taken,_⟩ | ⟨_,_,other⟩ | ⟨_,_,other⟩
      · exact after_triage (taken ▸ later)
      · exact absurd redirect other
      · exact absurd redirect other
  · intro before decision after split onward
    obtain ⟨_,_,edge,later⟩ := parted before _ after split
    cases edge with
    | gate =>
      rcases arm_cases decision with ⟨_,redirect⟩ | ⟨taken,_,_⟩ | ⟨taken,_,_⟩
      · exact absurd redirect onward
      · exact .inr (after_notify (taken ▸ later))
      · exact .inl (after_close (taken ▸ later))

end SocAnalyst.Graph
