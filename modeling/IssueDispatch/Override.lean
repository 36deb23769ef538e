import IssueDispatch.Directive

/-!
# Overrides

The directive in force for an issue, kept until it is cleared or expires.  An expired override
counts as none.
-/

namespace IssueDispatch

/-- A directive in force for an issue. -/
structure Override where
  issueId : String
  directive : Directive
  isActive : Bool := true
  expiresAt : Option Binary64 := none
deriving DecidableEq

namespace Override

/-- Whether the time of an override is over. -/
def isExpired (o : Override) (now : Binary64) : Bool :=
  match o.expiresAt with
  | none => false
  | some last => last < now

/-- Whether an active override carries a directive of a kind. -/
def orders (o : Override) (kind : DirectiveKind) : Bool := o.isActive && o.directive.kind == kind

/-- The priority that an active override gives. -/
def priority? (o : Override) : Option OverridePriority :=
  if o.orders .priority then o.directive.priority else none

/-- The override that a directive sets; it lasts for the given time, or until it is cleared. -/
def ofDirective (issueId : String) (directive : Directive) (lasting : Option Binary64)
    (now : Binary64) : Override :=
  { issueId, directive, expiresAt := lasting.map (now + ·) }

/-- The fields of an override. -/
def toFields (o : Override) : List (String × Value) := [
  ("issue_id", .str o.issueId),
  ("directive", .ofFields o.directive.toFields),
  ("is_active", .bool o.isActive),
  ("expires_at", .ofBinary64? o.expiresAt)]

end Override

end IssueDispatch
