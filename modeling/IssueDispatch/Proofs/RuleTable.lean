import IssueDispatch.Proofs.Decision
import Mathlib.Data.List.Basic

/-!
# The rule table

The rules of `Issue.decide` are tried in order, and the first one that applies wins.  Here the same
decisions are listed action by action: `Issue.CallsFor` says of every action what an issue, the
settings and the facts must be like for it, without mention of any order, except that a status which
is the name of several stages stands for the first of them.

`Issue.decide_iff_callsFor` says that the list and the rules agree in both directions, and that the
only issues about which nothing can be decided are those in the icebox whose description has to be
searched for a header that is no text.
-/

namespace IssueDispatch

variable {issue : Issue} {settings : Settings} {ctx : Context} {action : Action}

lemma Value.names_iff {v : Value} {name : String} : v.names name = true ↔ v = .str name := by
  unfold names
  cases v <;> simp [str?]

lemma Value.names_eq_false_iff {v : Value} {name : String} :
    v.names name = false ↔ v ≠ .str name := by
  rw [← Bool.not_eq_true, names_iff, Ne]

/-! ## Descriptions -/

namespace IceboxSettings

variable {s : IceboxSettings} {description : Option String}

/-- A text is there and has the least length. -/
def IsLongEnough (s : IceboxSettings) (text : String) : Prop :=
  text ≠ "" ∧ s.minDescriptionLength ≤ text.length

/-- A description is long enough and contains one of the headers. -/
def IsResearched (s : IceboxSettings) (description : Option String) : Prop :=
  ∃ text, description = some text ∧ s.IsLongEnough text ∧
    ∃ header, .str header ∈ s.researchedHeaders ∧ header.toList <:+: text.toList

/-- A description is long enough, and the search for a header in it comes to one that is no text:
none of those before it occurs. -/
def IsUnreadable (s : IceboxSettings) (description : Option String) : Prop :=
  ∃ text, description = some text ∧ s.IsLongEnough text ∧
    ∃ before header after, s.researchedHeaders = before ++ header :: after ∧
      (∀ name, header ≠ .str name) ∧ ∀ name, .str name ∈ before → ¬ name.toList <:+: text.toList

/-- A label of the issue asks for research. -/
def IsRequested (s : IceboxSettings) (issue : Issue) : Prop :=
  ∃ label ∈ issue.labels, .str label ∈ s.requestLabels

/-- The issue has been in the icebox for the delay, as far as there is a clock reading. -/
def IsDue (s : IceboxSettings) (issue : Issue) (now? : Option Binary64) : Prop :=
  ∀ now ∈ now?, s.researchDelay ≤ now - issue.createdAt

lemma isResearchDue_iff {now? : Option Binary64} :
    s.isResearchDue issue now? = true ↔ s.IsDue issue now? := by
  unfold isResearchDue IsDue
  cases now? with
  | none => simp
  | some now =>
    simp only [Option.mem_def, Option.some.injEq, forall_eq']
    exact decide_eq_true_iff

lemma requestsOf_isEmpty_iff : (s.requestsOf issue).isEmpty = false ↔ s.IsRequested issue := by
  unfold requestsOf IsRequested
  rw [List.isEmpty_eq_false_iff]
  simp [Value.names_iff]

lemma anyHeader_of_occurs {text name : String} {rest : List Value}
    (h : name.toList <:+: text.toList) : anyHeader text (.str name :: rest) = .ok true :=
  if_pos (Text.hasInfix_iff.2 h)

lemma anyHeader_of_absent {text name : String} {rest : List Value}
    (h : ¬ name.toList <:+: text.toList) :
    anyHeader text (.str name :: rest) = anyHeader text rest :=
  if_neg fun hfound => h (Text.hasInfix_iff.1 hfound)

lemma exists_anyHeader_eq_error {text : String} {header : Value} {rest : List Value}
    (h : ∀ name, header ≠ .str name) : ∃ fault, anyHeader text (header :: rest) = .error fault := by
  cases header with
  | str name => exact absurd rfl (h name)
  | _ => exact ⟨_, rfl⟩

/-- The search for a header succeeds with what the headers say. -/
lemma eq_true_iff_of_anyHeader {text : String} {headers : List Value} {found : Bool}
    (h : anyHeader text headers = .ok found) :
    found = true ↔ ∃ header, .str header ∈ headers ∧ header.toList <:+: text.toList := by
  induction headers with
  | nil =>
    cases h
    simp
  | cons header rest ih =>
    by_cases htext : ∃ name, header = .str name
    · obtain ⟨name, rfl⟩ := htext
      by_cases hname : name.toList <:+: text.toList
      · rw [anyHeader_of_occurs hname] at h
        cases h
        exact ⟨fun _ => ⟨name, List.mem_cons_self, hname⟩, fun _ => rfl⟩
      · rw [anyHeader_of_absent hname] at h
        rw [ih h]
        constructor
        · rintro ⟨other, hmem, hother⟩
          exact ⟨other, List.mem_cons_of_mem _ hmem, hother⟩
        · rintro ⟨other, hmem, hother⟩
          rcases List.mem_cons.1 hmem with heq | hmem
          · cases heq
            exact absurd hother hname
          · exact ⟨other, hmem, hother⟩
    · obtain ⟨fault, herror⟩ : ∃ fault, anyHeader text (header :: rest) = .error fault :=
        exists_anyHeader_eq_error fun name h => htext ⟨name, h⟩
      rw [herror] at h
      cases h

/-- The search for a header fails exactly at one that is no text and comes before all that occur. -/
lemma exists_anyHeader_eq_error_iff {text : String} {headers : List Value} :
    (∃ fault, anyHeader text headers = .error fault) ↔
      ∃ before header after, headers = before ++ header :: after ∧
        (∀ name, header ≠ .str name) ∧
        ∀ name, .str name ∈ before → ¬ name.toList <:+: text.toList := by
  constructor
  · rintro ⟨fault, h⟩
    induction headers with
    | nil => cases h
    | cons header rest ih =>
      by_cases htext : ∃ name, header = .str name
      · obtain ⟨name, rfl⟩ := htext
        by_cases hname : name.toList <:+: text.toList
        · rw [anyHeader_of_occurs hname] at h
          cases h
        rw [anyHeader_of_absent hname] at h
        obtain ⟨before, other, after, rfl, hother, hbefore⟩ := ih h
        refine ⟨.str name :: before, other, after, rfl, hother, fun found hmem => ?_⟩
        rcases List.mem_cons.1 hmem with heq | hmem
        · cases heq
          exact hname
        · exact hbefore found hmem
      · exact ⟨[], header, rest, rfl, fun name h => htext ⟨name, h⟩, by simp⟩
  · rintro ⟨before, header, after, rfl, hheader, hbefore⟩
    induction before with
    | nil => exact exists_anyHeader_eq_error hheader
    | cons first before ih =>
      by_cases htext : ∃ name, first = .str name
      · obtain ⟨name, rfl⟩ := htext
        rw [List.cons_append, anyHeader_of_absent (hbefore name List.mem_cons_self)]
        exact ih fun name hmem => hbefore name (List.mem_cons_of_mem _ hmem)
      · exact exists_anyHeader_eq_error fun name h => htext ⟨name, h⟩

/-- What is found out about a description. -/
lemma isWellResearched_cases (s : IceboxSettings) (description : Option String) :
    (s.IsUnreadable description ∧ ∃ fault, s.isWellResearched description = .error fault) ∨
      (¬ s.IsUnreadable description ∧
        ∃ found, s.isWellResearched description = .ok found ∧
          (found = true ↔ s.IsResearched description)) := by
  cases description with
  | none =>
    refine .inr ⟨?_, false, rfl, by simp [IsResearched]⟩
    rintro ⟨text, h, -⟩
    cases h
  | some text =>
    by_cases hlong : s.IsLongEnough text
    · have hsearch : s.isWellResearched (some text) = anyHeader text s.researchedHeaders :=
        if_neg (by rintro (h | h); exacts [hlong.1 h, absurd hlong.2 (by omega)])
      have hunreadable : s.IsUnreadable (some text) ↔
          ∃ fault, anyHeader text s.researchedHeaders = .error fault := by
        rw [exists_anyHeader_eq_error_iff]
        simp [IsUnreadable, hlong]
      rw [hsearch, hunreadable]
      cases h : anyHeader text s.researchedHeaders with
      | error fault => exact .inl ⟨⟨fault, rfl⟩, fault, rfl⟩
      | ok found =>
        refine .inr ⟨by simp, found, rfl, ?_⟩
        rw [eq_true_iff_of_anyHeader h]
        simp [IsResearched, hlong]
    · have hshort : s.isWellResearched (some text) = .ok false := by
        refine if_pos ?_
        by_contra h
        rw [not_or, Int.not_lt] at h
        exact hlong h
      refine .inr ⟨?_, false, hshort, ?_⟩
      · rintro ⟨text, h, h', -⟩
        cases h
        exact hlong h'
      · simp [IsResearched, hlong]

/-- Whether research is needed is found out along with what a description is like. -/
lemma needsResearch_of_isWellResearched {found : Bool}
    (h : s.isWellResearched issue.description = .ok found) :
    s.needsResearch issue = .ok (!(s.requestsOf issue).isEmpty || !found) := by
  unfold needsResearch
  cases hrequests : (s.requestsOf issue).isEmpty <;> simp [h, Except.map]

end IceboxSettings

/-! ## Stages -/

/-- The stages in the order in which a status is compared with their names. -/
def Stage.inOrder : List Stage := [.icebox, .backlog, .finished, .delivered, .rejected]

namespace StatusMap

variable {s : StatusMap} {status : String} {stage : Stage}

/-- The name of a stage. -/
def nameOf (s : StatusMap) : Stage → Value
  | .icebox => s.icebox
  | .backlog => s.backlog
  | .finished => s.finished
  | .delivered => s.delivered
  | .rejected => s.rejected

/-- A stage is the first one whose name is the status. -/
def IsFirst (s : StatusMap) (status : String) (stage : Stage) : Prop :=
  s.nameOf stage = .str status ∧
    ∃ before after, Stage.inOrder = before ++ stage :: after ∧
      ∀ other ∈ before, s.nameOf other ≠ .str status

lemma stage?_eq_find? :
    s.stage? status = Stage.inOrder.find? fun stage => (s.nameOf stage).names status := by
  unfold stage? Stage.inOrder
  cases hicebox : s.icebox.names status <;> cases hbacklog : s.backlog.names status <;>
    cases hfinished : s.finished.names status <;> cases hdelivered : s.delivered.names status <;>
    cases hrejected : s.rejected.names status <;>
    simp [nameOf, List.find?, hicebox, hbacklog, hfinished, hdelivered, hrejected]

lemma stage?_eq_some_iff : s.stage? status = some stage ↔ s.IsFirst status stage := by
  rw [stage?_eq_find?, List.find?_eq_some_iff_append, IsFirst, Value.names_iff]
  simp [← Bool.not_eq_true, Value.names_iff]

lemma isTerminal_eq_false_iff : s.isTerminal status = false ↔ .str status ∉ s.terminal := by
  unfold isTerminal
  rw [← Bool.not_eq_true, List.any_eq_true]
  simp [Value.names_iff]

end StatusMap

/-! ## What an issue calls for -/

namespace Issue

/-- Nothing keeps an issue from being worked on. -/
structure IsFree (issue : Issue) (settings : Settings) (ctx : Context) : Prop where
  notHeld : ctx.isHeld = false
  idle : ctx.hasActiveSession = false
  cooledDown : ctx.isWithinCooldown = false
  notTerminal : .str issue.status ∉ settings.statuses.terminal
  notStarted : settings.statuses.started ≠ .str issue.status

/-- Nothing keeps an issue from being worked on, and this is its stage. -/
def IsFreeAt (issue : Issue) (settings : Settings) (ctx : Context) (stage : Stage) : Prop :=
  issue.IsFree settings ctx ∧ settings.statuses.IsFirst issue.status stage

/-- An issue in the icebox that neither has a parent nor is one. -/
def IsAloneInIcebox (issue : Issue) (settings : Settings) (ctx : Context) : Prop :=
  issue.IsFreeAt settings ctx .icebox ∧ ctx.isParentIssue = false ∧ issue.parentId = none

/-- The work on an issue was done, and it is up for a judgement. -/
def IsUpForJudgement (issue : Issue) (settings : Settings) (ctx : Context) : Prop :=
  issue.IsFreeAt settings ctx .rejected ∨
    issue.IsFreeAt settings ctx .finished ∧ settings.autoQa = true

/-- It takes a search in the description of the issue to decide about it, and the search fails. -/
def IsUndecidable (issue : Issue) (settings : Settings) (ctx : Context) : Prop :=
  issue.IsAloneInIcebox settings ctx ∧ settings.icebox.IsUnreadable issue.description

/-- What an issue, the settings and the facts must be like for an action. -/
def CallsFor (issue : Issue) (settings : Settings) (ctx : Context) : Action → Prop
  | .triggerDevelopment =>
    issue.IsFreeAt settings ctx .backlog ∧ issue.parentId = none ∧ settings.autoDevelopment = true
  | .triggerQa =>
    issue.IsFreeAt settings ctx .finished ∧ settings.autoQa = true ∧
      ctx.strategy ≠ some .decompose ∧ ctx.strategy ≠ some .escalateHuman
  | .triggerAcceptance =>
    issue.IsFreeAt settings ctx .delivered ∧ settings.autoAcceptance = true
  | .escalateHuman =>
    issue.IsUpForJudgement settings ctx ∧ ctx.strategy = some .escalateHuman
  | .decompose =>
    issue.IsUpForJudgement settings ctx ∧ ctx.strategy = some .decompose ∧
      ctx.awaitingResponse = false
  | .triggerRefinement =>
    issue.IsFreeAt settings ctx .rejected ∧ ctx.strategy ≠ some .decompose ∧
      ctx.strategy ≠ some .escalateHuman ∧ ctx.awaitingResponse = false
  | .triggerResearch =>
    issue.IsAloneInIcebox settings ctx ∧ ¬ settings.icebox.IsUnreadable issue.description ∧
      ctx.researchCompleted = false ∧ settings.autoResearch = true ∧
      (settings.icebox.IsRequested issue ∨ ¬ settings.icebox.IsResearched issue.description) ∧
      settings.icebox.IsDue issue ctx.now
  | .triggerBacklogCreation =>
    issue.IsAloneInIcebox settings ctx ∧ ¬ settings.icebox.IsUnreadable issue.description ∧
      ctx.backlogCreationCompleted = false ∧ settings.autoBacklogCreation = true ∧
      (ctx.researchCompleted = true ∨ settings.icebox.IsResearched issue.description ∧
        ¬ (settings.autoResearch = true ∧ settings.icebox.IsRequested issue))

lemma isFree_iff : issue.IsFree settings ctx ↔ guard? issue settings ctx = none := by
  rw [guard?_eq_none_iff, StatusMap.isTerminal_eq_false_iff, Value.names_eq_false_iff]
  constructor
  · rintro ⟨hheld, hidle, hcooled, hterminal, hstarted⟩
    exact ⟨hheld, hidle, hcooled, hterminal, hstarted⟩
  · rintro ⟨hheld, hidle, hcooled, hterminal, hstarted⟩
    exact ⟨hheld, hidle, hcooled, hterminal, hstarted⟩

lemma isFreeAt_iff {stage : Stage} :
    issue.IsFreeAt settings ctx stage ↔
      guard? issue settings ctx = none ∧
        settings.statuses.stage? issue.status = some stage := by
  rw [IsFreeAt, isFree_iff, StatusMap.stage?_eq_some_iff]

end Issue

/-! ## The rules one by one -/

namespace Decision

variable {d : Decision} {workType : WorkType}

@[simp] lemma action?_skip {reason : SkipReason} : (skip reason).action? = none := rfl

@[simp] lemma action?_dispatch {reason : DispatchReason} :
    (dispatch action workType reason).action? = some action :=
  rfl

@[simp] lemma action?_act {reason : DispatchReason} : (act action reason).action? = some action :=
  rfl

/-- Development that is made up of several issues is coordinated; all other work is of the kind that
belongs to the action. -/
def workTypeFor (ctx : Context) (action : Action) : WorkType :=
  if action = .triggerDevelopment ∧ ctx.isParentIssue = true then .coordination else action.workType

/-- A decision that hands out the right kind of work, if any. -/
def IsAptFor (ctx : Context) (d : Decision) : Prop := d.workType? = d.action?.map (workTypeFor ctx)

lemma isAptFor_skip (reason : SkipReason) : (skip reason).IsAptFor ctx := rfl

lemma isAptFor_act {reason : DispatchReason} (h : action ≠ .triggerDevelopment) :
    (act action reason).IsAptFor ctx := by
  unfold IsAptFor act
  simp [workType?, action?, workTypeFor, h]

lemma exists_eq_dispatch_iff (h : d.IsAptFor ctx) :
    (∃ reason, d = .dispatch action workType reason) ↔
      d.action? = some action ∧ workType = workTypeFor ctx action := by
  unfold IsAptFor at h
  cases d with
  | skip reason => simp
  | dispatch taken given reason =>
    have hgiven : given = workTypeFor ctx taken := Option.some.inj h
    simp only [dispatch.injEq, action?_dispatch, Option.some.injEq]
    constructor
    · rintro ⟨-, rfl, rfl, -⟩
      exact ⟨rfl, hgiven⟩
    · rintro ⟨rfl, rfl⟩
      exact ⟨reason, rfl, hgiven, rfl⟩

lemma exists_eq_skip_iff : (∃ reason, d = .skip reason) ↔ d.action? = none := by
  cases d <;> simp

end Decision

lemma action?_decideBacklog :
    (decideBacklog issue settings ctx).action? = some action ↔
      action = .triggerDevelopment ∧ issue.parentId = none ∧ settings.autoDevelopment = true := by
  unfold decideBacklog
  cases issue.parentId <;> cases settings.autoDevelopment <;> cases ctx.isParentIssue <;>
    simp [@eq_comm _ action]

lemma action?_decideFinished :
    (decideFinished settings ctx).action? = some action ↔
      settings.autoQa = true ∧
        (action = .escalateHuman ∧ ctx.strategy = some .escalateHuman ∨
          action = .decompose ∧ ctx.strategy = some .decompose ∧ ctx.awaitingResponse = false ∨
          action = .triggerQa ∧ ctx.strategy ≠ some .decompose ∧
            ctx.strategy ≠ some .escalateHuman) := by
  unfold decideFinished
  by_cases hhuman : ctx.strategy = some .escalateHuman
  · cases settings.autoQa <;> simp [hhuman, @eq_comm _ action]
  by_cases hdecompose : ctx.strategy = some .decompose
  · cases settings.autoQa <;> cases ctx.awaitingResponse <;>
      simp [hdecompose, @eq_comm _ action]
  · cases settings.autoQa <;>
      simp [hhuman, hdecompose, @eq_comm _ action]

lemma action?_decideDelivered :
    (decideDelivered settings).action? = some action ↔
      action = .triggerAcceptance ∧ settings.autoAcceptance = true := by
  unfold decideDelivered
  cases settings.autoAcceptance <;> simp [@eq_comm _ action]

lemma action?_decideRejected :
    (decideRejected ctx).action? = some action ↔
      action = .escalateHuman ∧ ctx.strategy = some .escalateHuman ∨
        action = .decompose ∧ ctx.strategy = some .decompose ∧ ctx.awaitingResponse = false ∨
        action = .triggerRefinement ∧ ctx.strategy ≠ some .decompose ∧
          ctx.strategy ≠ some .escalateHuman ∧ ctx.awaitingResponse = false := by
  unfold decideRejected
  by_cases hhuman : ctx.strategy = some .escalateHuman
  · simp [hhuman, @eq_comm _ action]
  by_cases hdecompose : ctx.strategy = some .decompose
  · cases ctx.awaitingResponse <;> simp [hdecompose, @eq_comm _ action]
  · cases ctx.awaitingResponse <;>
      simp [hhuman, hdecompose, @eq_comm _ action]

lemma action?_decideResearch :
    (decideResearch issue settings ctx).action? = some action ↔
      action = .triggerResearch ∧ settings.icebox.IsDue issue ctx.now := by
  unfold decideResearch
  rw [← IceboxSettings.isResearchDue_iff]
  cases settings.icebox.isResearchDue issue ctx.now <;>
    cases settings.icebox.requestsOf issue <;> simp [@eq_comm _ action]

lemma action?_decideBacklogCreation :
    (decideBacklogCreation settings ctx).action? = some action ↔
      action = .triggerBacklogCreation ∧ ctx.backlogCreationCompleted = false ∧
        settings.autoBacklogCreation = true := by
  unfold decideBacklogCreation
  cases ctx.backlogCreationCompleted <;> cases settings.autoBacklogCreation <;>
    cases ctx.researchCompleted <;> simp [@eq_comm _ action]

/-- What is done about an issue that is alone in the icebox, once its description is judged. -/
def decideAlone (issue : Issue) (settings : Settings) (ctx : Context) (found : Bool) : Decision :=
  if ctx.researchCompleted then decideBacklogCreation settings ctx
  else if settings.autoResearch && (!(settings.icebox.requestsOf issue).isEmpty || !found) then
    decideResearch issue settings ctx
  else if !found then .skip .researchDisabled
  else decideBacklogCreation settings ctx

lemma decideIcebox_of_not_alone (h : ¬ (ctx.isParentIssue = false ∧ issue.parentId = none)) :
    ∃ reason, decideIcebox issue settings ctx = .ok (.skip reason) := by
  unfold decideIcebox
  cases hparent : ctx.isParentIssue with
  | true => exact ⟨.parentInIcebox, rfl⟩
  | false =>
    cases hsub : issue.parentId with
    | none => exact absurd ⟨hparent, hsub⟩ h
    | some parent => exact ⟨.subIssueInIcebox, rfl⟩

lemma decideIcebox_of_alone (hparent : ctx.isParentIssue = false) (hsub : issue.parentId = none) :
    decideIcebox issue settings ctx =
      (settings.icebox.isWellResearched issue.description).map
        (decideAlone issue settings ctx) := by
  unfold decideIcebox
  rw [hparent, hsub]
  cases hjudged : settings.icebox.isWellResearched issue.description with
  | error fault => rfl
  | ok found =>
    simp only [bind, Except.bind, pure, Except.pure, Except.map,
      IceboxSettings.needsResearch_of_isWellResearched hjudged]
    unfold decideAlone
    cases ctx.researchCompleted <;> cases settings.autoResearch <;>
      cases (settings.icebox.requestsOf issue).isEmpty <;> cases found <;> rfl

lemma action?_decideAlone {found : Bool}
    (h : found = true ↔ settings.icebox.IsResearched issue.description) :
    (decideAlone issue settings ctx found).action? = some action ↔
      action = .triggerResearch ∧ ctx.researchCompleted = false ∧ settings.autoResearch = true ∧
          (settings.icebox.IsRequested issue ∨
            ¬ settings.icebox.IsResearched issue.description) ∧
          settings.icebox.IsDue issue ctx.now ∨
        action = .triggerBacklogCreation ∧ ctx.backlogCreationCompleted = false ∧
          settings.autoBacklogCreation = true ∧
          (ctx.researchCompleted = true ∨ settings.icebox.IsResearched issue.description ∧
            ¬ (settings.autoResearch = true ∧ settings.icebox.IsRequested issue)) := by
  unfold decideAlone
  rw [← IceboxSettings.requestsOf_isEmpty_iff, ← h]
  cases ctx.researchCompleted <;> cases settings.autoResearch <;>
    cases (settings.icebox.requestsOf issue).isEmpty <;> cases found <;>
    simp [action?_decideResearch, action?_decideBacklogCreation]

/-! ## All rules together -/

lemma isAptFor_decideAlone {found : Bool} :
    (decideAlone issue settings ctx found).IsAptFor ctx := by
  have hcreation : (decideBacklogCreation settings ctx).IsAptFor ctx := by
    unfold decideBacklogCreation
    split
    · exact Decision.isAptFor_skip _
    split
    · exact Decision.isAptFor_skip _
    split <;> exact Decision.isAptFor_act nofun
  unfold decideAlone
  split
  · exact hcreation
  split
  · unfold decideResearch
    split
    · exact Decision.isAptFor_skip _
    split <;> exact Decision.isAptFor_act nofun
  split
  · exact Decision.isAptFor_skip _
  · exact hcreation

lemma isAptFor_decideBacklog : (decideBacklog issue settings ctx).IsAptFor ctx := by
  unfold decideBacklog
  split
  · exact Decision.isAptFor_skip _
  split
  · exact Decision.isAptFor_skip _
  cases hparent : ctx.isParentIssue <;>
    simp [Decision.IsAptFor, Decision.workTypeFor, Decision.workType?, Decision.act,
      Action.workType, hparent]

lemma isAptFor_decideFinished : (decideFinished settings ctx).IsAptFor ctx := by
  unfold decideFinished
  split
  · exact Decision.isAptFor_skip _
  split
  · exact Decision.isAptFor_act nofun
  split
  · split
    · exact Decision.isAptFor_skip _
    · exact Decision.isAptFor_act nofun
  · exact Decision.isAptFor_act nofun

lemma isAptFor_decideDelivered : (decideDelivered settings).IsAptFor ctx := by
  unfold decideDelivered
  split
  · exact Decision.isAptFor_skip _
  · exact Decision.isAptFor_act nofun

lemma isAptFor_decideRejected : (decideRejected ctx).IsAptFor ctx := by
  unfold decideRejected
  split
  · exact Decision.isAptFor_act nofun
  split
  · exact Decision.isAptFor_skip _
  split <;> exact Decision.isAptFor_act nofun

namespace Issue

/-- What is decided about an issue is what it calls for, or nothing can be decided about it. -/
def IsSettledBy (issue : Issue) (settings : Settings) (ctx : Context)
    (decided : Except Fault Decision) : Prop :=
  (¬ issue.IsUndecidable settings ctx ∧ ∃ d : Decision, decided = .ok d ∧ d.IsAptFor ctx ∧
      ∀ action, d.action? = some action ↔ issue.CallsFor settings ctx action) ∨
    issue.IsUndecidable settings ctx ∧ (∃ fault, decided = .error fault) ∧
      ∀ action, ¬ issue.CallsFor settings ctx action

/-- An issue that is at no stage, or not free, calls for nothing. -/
lemma isSettledBy_skip {reason : SkipReason}
    (hfree : ∀ stage, ¬ issue.IsFreeAt settings ctx stage) :
    issue.IsSettledBy settings ctx (.ok (.skip reason)) := by
  refine .inl ⟨fun h => hfree .icebox h.1.1, _, rfl, Decision.isAptFor_skip _, fun action => ?_⟩
  cases action <;> simp [CallsFor, IsAloneInIcebox, IsUpForJudgement, hfree]

/-- The icebox is the only stage at which a decision may fail. -/
lemma isSettledBy_ok {stage : Stage} {d : Decision}
    (hfree : ∀ other, issue.IsFreeAt settings ctx other ↔ stage = other)
    (hstage : stage ≠ .icebox) (hapt : d.IsAptFor ctx)
    (h : ∀ action, d.action? = some action ↔ issue.CallsFor settings ctx action) :
    issue.IsSettledBy settings ctx (.ok d) :=
  .inl ⟨fun hfails => hstage ((hfree .icebox).1 hfails.1.1), d, rfl, hapt, h⟩

lemma isSettledBy_decideIcebox
    (hfree : ∀ stage, issue.IsFreeAt settings ctx stage ↔ .icebox = stage) :
    issue.IsSettledBy settings ctx (decideIcebox issue settings ctx) := by
  by_cases halone : ctx.isParentIssue = false ∧ issue.parentId = none
  · obtain ⟨hparent, hsub⟩ := halone
    rw [decideIcebox_of_alone hparent hsub]
    rcases settings.icebox.isWellResearched_cases issue.description with
      ⟨hunreadable, fault, h⟩ | ⟨hreadable, found, h, hfound⟩
    · rw [h]
      refine .inr ⟨⟨⟨(hfree _).2 rfl, hparent, hsub⟩, hunreadable⟩, ⟨fault, rfl⟩, fun action => ?_⟩
      cases action <;> simp [CallsFor, IsUpForJudgement, hfree, hunreadable]
    · rw [h]
      refine .inl ⟨fun hfails => hreadable hfails.2, _, rfl, isAptFor_decideAlone,
        fun action => ?_⟩
      rw [action?_decideAlone hfound]
      cases action <;>
        simp [CallsFor, IsAloneInIcebox, IsUpForJudgement, hfree, hparent, hsub, hreadable]
  · obtain ⟨reason, h⟩ : ∃ reason, decideIcebox issue settings ctx = .ok (.skip reason) :=
      decideIcebox_of_not_alone halone
    rw [h]
    refine .inl ⟨fun hfails => halone hfails.1.2, _, rfl, Decision.isAptFor_skip _,
      fun action => ?_⟩
    cases action <;> simp [CallsFor, IsAloneInIcebox, IsUpForJudgement, hfree, halone]

/-- Whatever the status of an issue, the decision about it is what it calls for. -/
lemma isSettledBy_decide (issue : Issue) (settings : Settings) (ctx : Context) :
    issue.IsSettledBy settings ctx (issue.decide settings ctx) := by
  unfold decide
  cases hguard : guard? issue settings ctx with
  | some reason =>
    refine isSettledBy_skip fun stage h => ?_
    rw [isFreeAt_iff, hguard] at h
    cases h.1
  | none =>
    have hfree (stage : Stage) : issue.IsFreeAt settings ctx stage ↔
        settings.statuses.stage? issue.status = some stage := by
      rw [isFreeAt_iff, hguard, eq_self, true_and]
    cases hstage : settings.statuses.stage? issue.status with
    | none => exact isSettledBy_skip fun stage h => by cases hstage.symm.trans ((hfree stage).1 h)
    | some stage =>
      replace hfree (other : Stage) : issue.IsFreeAt settings ctx other ↔ stage = other := by
        rw [hfree, hstage, Option.some.injEq]
      cases stage with
      | icebox => exact isSettledBy_decideIcebox hfree
      | backlog =>
        refine isSettledBy_ok hfree nofun isAptFor_decideBacklog fun action => ?_
        rw [action?_decideBacklog]
        cases action <;> simp [CallsFor, IsAloneInIcebox, IsUpForJudgement, hfree]
      | finished =>
        refine isSettledBy_ok hfree nofun isAptFor_decideFinished fun action => ?_
        rw [action?_decideFinished]
        cases action <;> simp [CallsFor, IsAloneInIcebox, IsUpForJudgement, hfree]
      | delivered =>
        refine isSettledBy_ok hfree nofun isAptFor_decideDelivered fun action => ?_
        rw [action?_decideDelivered]
        cases action <;> simp [CallsFor, IsAloneInIcebox, IsUpForJudgement, hfree]
      | rejected =>
        refine isSettledBy_ok hfree nofun isAptFor_decideRejected fun action => ?_
        rw [action?_decideRejected]
        cases action <;> simp [CallsFor, IsAloneInIcebox, IsUpForJudgement, hfree]

/-- Where all headers are texts, something is decided about every issue. -/
theorem exists_decide_eq_ok
    (h : ∀ header ∈ settings.icebox.researchedHeaders, ∃ name, header = .str name) :
    ∃ d, issue.decide settings ctx = .ok d := by
  rcases issue.isSettledBy_decide settings ctx with ⟨-, d, hd, -⟩ | ⟨⟨-, hunreadable⟩, -⟩
  · exact ⟨d, hd⟩
  · obtain ⟨text, -, -, before, header, after, hheaders, hother, -⟩ := hunreadable
    obtain ⟨name, hname⟩ := h header (by simp [hheaders])
    exact absurd hname (hother name)

/-- The decision about an issue is exactly what the table lists: it is to take an action, with the
kind of work that belongs to it, if and only if the issue calls for the action; it is to do nothing
if and only if the issue calls for no action; and it fails if and only if the description has to be
searched for a header that is no text. -/
theorem decide_iff_callsFor (issue : Issue) (settings : Settings) (ctx : Context) :
    (∀ action workType,
      (∃ reason, issue.decide settings ctx = .ok (.dispatch action workType reason)) ↔
        issue.CallsFor settings ctx action ∧ workType = Decision.workTypeFor ctx action) ∧
    ((∃ reason, issue.decide settings ctx = .ok (.skip reason)) ↔
      ¬ issue.IsUndecidable settings ctx ∧ ∀ action, ¬ issue.CallsFor settings ctx action) ∧
    ((∃ fault, issue.decide settings ctx = .error fault) ↔ issue.IsUndecidable settings ctx) := by
  rcases issue.isSettledBy_decide settings ctx with
    ⟨hdecidable, d, hd, hapt, hcalls⟩ | ⟨hundecidable, ⟨fault, hfault⟩, hcalls⟩
  · rw [hd]
    simp only [Except.ok.injEq, reduceCtorEq, exists_false, false_iff]
    refine ⟨fun action workType => ?_, ?_, hdecidable⟩
    · rw [Decision.exists_eq_dispatch_iff hapt, hcalls]
    · rw [Decision.exists_eq_skip_iff, Option.eq_none_iff_forall_ne_some]
      constructor
      · intro h
        exact ⟨hdecidable, fun action haction => h action ((hcalls action).2 haction)⟩
      · rintro ⟨-, h⟩ action haction
        exact h action ((hcalls action).1 haction)
  · rw [hfault]
    simp [hundecidable, hcalls]

end Issue

end IssueDispatch
