import IssueDispatch.Store.Basic

/-!
# Stored overrides

The directives in force, at most one for an issue.
-/

namespace IssueDispatch

namespace Store

/-- The override kept for an issue, expired or not. -/
def getOverride (issueId : String) : Run Store (Option Override) :=
  reading [.overrides] fun s => s.overrides.find? fun o => o.issueId == issueId

/-- Keeps an override in place of any that its issue had. -/
def putOverride (o : Override) : Run Store Unit :=
  changing [.overrides] fun s =>
    ((), { s with
      overrides := (s.overrides.filter fun x => x.issueId != o.issueId) ++
        [{ o with expiresAt := o.expiresAt.bind kept }] })

/-- Removes the override of an issue. -/
def removeOverride (issueId : String) : Run Store Unit :=
  changing [.overrides] fun s =>
    ((), { s with overrides := s.overrides.filter fun o => o.issueId != issueId })

end Store

end IssueDispatch
