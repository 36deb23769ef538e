import IssueDispatch.Proofs.Standard
import Mathlib.Data.List.Basic

/-!
# What the key of an event identifies

A key is one text: the id of the issue, a colon, and what the event reports about the issue.  Ids of
comments and of sessions are free, they may hold colons or look like the report of another kind.
The key can be taken apart again all the same if no colon stands in the parts that have no marker of
their own, which are the ids of issues and the statuses.
-/

namespace IssueDispatch

/-- What an event says that happened to an issue, apart from the details that two reports of one
occurrence may differ in. -/
inductive Occurrence where
  | status (status : String)
  | comment (commentId : String)
  | completion (sessionId : String)
deriving DecidableEq

namespace Occurrence

/-- What stands in the key of an event after the id of its issue. -/
def suffix : Occurrence → String
  | status s => ":" ++ s
  | comment id => ":comment:" ++ id
  | completion id => ":session:" ++ id

/-- No colon stands in a status. -/
def IsPlain : Occurrence → Prop
  | status s => ':' ∉ s.toList
  | comment _ => True
  | completion _ => True

instance : DecidablePred IsPlain
  | status s => inferInstanceAs (Decidable (':' ∉ s.toList))
  | comment _ => isTrue trivial
  | completion _ => isTrue trivial

lemma toList_suffix (o : Occurrence) :
    o.suffix.toList = ':' ::
      match o with
      | status s => s.toList
      | comment id => "comment".toList ++ ':' :: id.toList
      | completion id => "session".toList ++ ':' :: id.toList := by
  cases o <;> simp [suffix]

/-- The suffix tells what is reported.  What is no status goes on with a colon of its marker, which
no plain status has. -/
lemma eq_of_suffix_eq {o o' : Occurrence} (ho : o.IsPlain) (ho' : o'.IsPlain)
    (h : o.suffix = o'.suffix) : o = o' := by
  have hlist := congrArg String.toList h
  rw [toList_suffix, toList_suffix, List.cons_inj_right] at hlist
  cases o <;> cases o'
  case status.status s s' => exact congrArg status (String.toList_inj.1 hlist)
  case comment.comment id id' =>
    exact congrArg comment (String.toList_inj.1 (by simpa using hlist))
  case completion.completion id id' =>
    exact congrArg completion (String.toList_inj.1 (by simpa using hlist))
  case status.comment s id => exact absurd (by simp [hlist]) ho
  case status.completion s id => exact absurd (by simp [hlist]) ho
  case comment.status id s => exact absurd (by simp [← hlist]) ho'
  case completion.status id s => exact absurd (by simp [← hlist]) ho'
  case comment.completion id id' => simp at hlist
  case completion.comment id id' => simp at hlist

end Occurrence

namespace Event

/-- What an event reports about its issue.  A snapshot of a poll reports the status it shows. -/
def occurrence (e : Event) : Occurrence :=
  match e.detail with
  | .statusChanged newStatus _ => .status newStatus
  | .commentAdded commentId .. => .comment commentId
  | .sessionCompleted sessionId _ => .completion sessionId
  | .pollSnapshot _ => .status e.issue.status

/-- No colon stands in the id of the issue, nor in the status if that is what is reported. -/
def IsPlain (e : Event) : Prop := ':' ∉ e.issueId.toList ∧ e.occurrence.IsPlain

instance : DecidablePred IsPlain := fun e =>
  inferInstanceAs (Decidable (':' ∉ e.issueId.toList ∧ e.occurrence.IsPlain))

variable {e e' : Event}

lemma key_eq_append (e : Event) : e.key = e.issueId ++ e.occurrence.suffix := by
  unfold key occurrence
  cases e.detail <;> simp [Occurrence.suffix, String.append_assoc]

/-- The id of the issue ends at the first colon of the key. -/
lemma takeWhile_toList_key (he : ':' ∉ e.issueId.toList) :
    e.key.toList.takeWhile (· ≠ ':') = e.issueId.toList := by
  have hfree : ∀ c ∈ e.issueId.toList, decide (c ≠ ':') = true := fun c hc =>
    decide_eq_true (ne_of_mem_of_not_mem hc he)
  rw [key_eq_append, String.toList_append, Occurrence.toList_suffix,
    List.takeWhile_append_of_pos hfree]
  simp

/-- The keys of two events are equal if and only if both report the same about the same issue. -/
theorem key_eq_key_iff (he : e.IsPlain) (he' : e'.IsPlain) :
    e.key = e'.key ↔ e.issueId = e'.issueId ∧ e.occurrence = e'.occurrence := by
  constructor
  · intro h
    have hissue : e.issueId = e'.issueId := String.toList_inj.1 <| by
      rw [← takeWhile_toList_key he.1, ← takeWhile_toList_key he'.1, h]
    refine ⟨hissue, Occurrence.eq_of_suffix_eq he.2 he'.2 ?_⟩
    refine (String.append_right_inj e.issueId).1 ?_
    rw [← key_eq_append, h, key_eq_append, hissue]
  · rintro ⟨hissue, hoccurrence⟩
    rw [key_eq_append, key_eq_append, hissue, hoccurrence]

/-- A comment whose id looks like the report of a session is told from that report, and a change to
the status that a poll shows is not told from the poll. -/
theorem key_lookalikes :
    let report (detail : EventDetail) : Event := { Event.found "a" with detail := detail }
    let comment := report (.commentAdded "session:s" none none none false)
    let completion := report (.sessionCompleted "s" "success")
    let change := report (.statusChanged "Backlog" none)
    comment.key ≠ completion.key ∧ change.key = (Event.found "a").key := by
  intro report comment completion change
  refine ⟨fun h => ?_, (key_eq_key_iff (by decide) (by decide)).2 (by decide)⟩
  have hsame : comment.occurrence = completion.occurrence :=
    ((key_eq_key_iff (by decide) (by decide)).1 h).2
  exact absurd hsame (by decide)

/-- A status with a colon can pass for a comment. -/
example :
    { Event.found "a" with detail := .statusChanged "comment:7" none }.key =
      { Event.found "a" with detail := .commentAdded "7" none none none false }.key := by
  decide

end Event

end IssueDispatch
