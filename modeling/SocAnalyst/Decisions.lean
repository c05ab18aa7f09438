import SocAnalyst.Builtins

/-!
# Human decisions

The rows that record what a person decided at the approval gate, and in which
conversation.
-/
namespace SocAnalyst.Decisions
open SocAnalyst.Builtins

/-- Human-in-the-loop decision at an approval gate. -/
inductive DecisionType where
  | APPROVE
  | EDIT
  | REJECT
  | REDIRECT
  deriving DecidableEq, Repr

def DecisionType.value : DecisionType → Text
  | .APPROVE => lit "approve"
  | .EDIT => lit "edit"
  | .REJECT => lit "reject"
  | .REDIRECT => lit "redirect"

/-- A human/system dialogue thread attached to an investigation. -/
structure Conversation where
  id : Text
  investigationId : Text
  deriving DecidableEq

/-- A recorded human decision at an approval gate. -/
structure HumanDecision where
  id : Text
  conversationId : Text
  userId : Text
  decision : DecisionType
  target : Option Text := none
  rationale : Option Text := none
  deriving DecidableEq

/-- One entry of the audit log. -/
structure AuditEntry where
  action : Text
  entityType : Text
  entityId : Option Text := none
  actorId : Option Text := none
  beforeRef : Option Text := none
  afterRef : Option Text := none
  ipAddress : Option Text := none
  deriving DecidableEq

end SocAnalyst.Decisions
