import IssueDispatch.Proofs.Overrides
import IssueDispatch.Proofs.Number.Rounding
import IssueDispatch.Proofs.RoundTrip

/-!
# Overrides over time

An override is removed when it is read after its time is over, but nobody can tell: as long as the
clock does not go back, every answer about an issue is read off the history of its overrides alone
(`OverrideShelf.reference`), in which nothing is ever removed.  This holds for overrides that are
kept in the process and for those in the store.

In the store a directive is kept as a JSON text without the fields that have no value.  A directive
comes back from its text as it was, but for the sign of a zero for its time, so a table of which
nothing stays between two calls but its texts gives the same answers.
-/

namespace IssueDispatch

variable {ω : Type}

/-- The sum of a finite number and one that is not NaN is not NaN. -/
lemma Binary64.isNaN_add {a b : Binary64} (ha : a.isFinite = true) (hb : b.isNaN = false) :
    (a + b).isNaN = false := by
  obtain ⟨u, hu, -, -⟩ := exists_units_of_isFinite ha
  have hfinite (hb : b.isFinite = true) : (a + b).isNaN = false := by
    obtain ⟨v, hv, -, -⟩ := exists_units_of_isFinite hb
    have hkey := key?_add hu hv
    cases hsum : a + b with
    | nan =>
      rw [hsum] at hkey
      cases hkey
    | infinity negative => rfl
    | negZero => rfl
    | finite x fits => rfl
  cases b with
  | nan => cases hb
  | infinity negative =>
    cases a with
    | nan => cases ha
    | infinity negative => cases ha
    | negZero => rfl
    | finite u fits => rfl
  | negZero => exact hfinite rfl
  | finite v fits => exact hfinite rfl

/-- What is over stays over. -/
lemma Override.isExpired_of_le {o : Override} {now later : Binary64} (hle : now ≤ later)
    (h : o.isExpired now = true) : o.isExpired later = true := by
  unfold isExpired at h ⊢
  cases hlast : o.expiresAt with
  | none =>
    rw [hlast] at h
    cases h
  | some last =>
    rw [hlast] at h
    exact decide_eq_true (Binary64.lt_of_lt_of_le (of_decide_eq_true h) hle)

namespace OverrideShelf

variable {shelf : OverrideShelf} {w : World ω} {issueId : String} {os : List Override}

/-! ## What calls do to the overrides that are kept -/

/-- The world with other overrides on a shelf. -/
def withKept (shelf : OverrideShelf) (os : List Override) (w : World ω) : World ω :=
  match shelf with
  | shared => { w with store := { w.store with overrides := os } }
  | inProcess => { w with overrides := os }

@[simp] lemma kept_withKept (shelf : OverrideShelf) (os : List Override) (w : World ω) :
    shelf.kept (shelf.withKept os w) = os := by
  cases shelf <;> rfl

@[simp] lemma withKept_kept (shelf : OverrideShelf) (w : World ω) :
    shelf.withKept (shelf.kept w) w = w := by
  cases shelf <;> rfl

@[simp] lemma withKept_clock (shelf : OverrideShelf) (os : List Override) (w : World ω) :
    (shelf.withKept os w).clock = w.clock := by
  cases shelf <;> rfl

lemma IsThere.withKept (h : shelf.IsThere w) (os : List Override) :
    shelf.IsThere (shelf.withKept os w) := by
  cases shelf with
  | inProcess => exact trivial
  | shared => exact h

/-- The overrides without the one of an issue. -/
def without (os : List Override) (issueId : String) : List Override :=
  os.filter fun o => o.issueId != issueId

/-- The overrides with one in place of the one that its issue had. -/
def replace (os : List Override) (o : Override) : List Override := without os o.issueId ++ [o]

/-- The overrides after the one of an issue has been read. -/
def lapse (os : List Override) (now : Binary64) (issueId : String) : List Override :=
  match os.find? fun o => o.issueId == issueId with
  | none => os
  | some o => if o.isExpired now then without os issueId else os

lemma clear_of_isThere (hthere : shelf.IsThere w) (issueId : String) :
    shelf.clear issueId w = (.ok (), shelf.withKept (without (shelf.kept w) issueId) w) := by
  cases shelf with
  | inProcess => rfl
  | shared => exact World.onStore_of_eq (Store.changing_of_has hthere _)

/-- Reading gives the override in force, and removes one that is over. -/
lemma get_of_isThere (hthere : shelf.IsThere w) (issueId : String) :
    shelf.get issueId w = (.ok (current (shelf.kept w) w.clock issueId),
      shelf.withKept (lapse (shelf.kept w) w.clock issueId) w) := by
  rw [get, Run.bind_of_ok (find_of_isThere hthere issueId)]
  unfold current lapse
  rcases hfind : (shelf.kept w).find? fun o => o.issueId == issueId with - | o
  · rw [hfind, withKept_kept]
    rfl
  · rw [hfind]
    dsimp only
    rw [Run.bind_of_ok (World.now_apply w), Option.filter_some]
    cases hover : o.isExpired w.clock with
    | true =>
      rw [if_pos rfl, Run.bind_of_ok (clear_of_isThere hthere issueId)]
      rfl
    | false =>
      rw [if_neg Bool.false_ne_true, if_neg Bool.false_ne_true, withKept_kept]
      rfl

/-- Setting an override whose time is a number puts it in place of the one that its issue had. -/
lemma set_of_isNaN (hthere : shelf.IsThere w) {d : Directive} {lasting : Option Binary64}
    (hclock : w.clock.isFinite = true) (hlasting : ∀ x ∈ lasting, x.isNaN = false) :
    shelf.set issueId d lasting w = (.ok (.ofDirective issueId d lasting w.clock),
      shelf.withKept (replace (shelf.kept w) (.ofDirective issueId d lasting w.clock)) w) := by
  cases shelf with
  | inProcess => rfl
  | shared =>
    let o := Override.ofDirective issueId d lasting w.clock
    have hkept : o.expiresAt.bind Store.kept = o.expiresAt := by
      cases lasting with
      | none => rfl
      | some x =>
        have hnumber : (w.clock + x).isNaN = false := Binary64.isNaN_add hclock (hlasting x rfl)
        change Store.kept (w.clock + x) = some (w.clock + x)
        rw [Store.kept, hnumber]
        rfl
    have hput : Store.putOverride o w.store = (.ok (), { w.store with
        overrides := replace w.store.overrides o }) := by
      refine (Store.changing_of_has hthere _).trans ?_
      rw [hkept]
      rfl
    rw [set, Run.bind_of_ok (World.now_apply w), put, Run.bind_of_ok (World.onStore_of_eq hput)]
    rfl

/-! ## Calls and histories -/

/-- What can be asked of a shelf. -/
inductive Call where
  | set (issueId : String) (d : Directive) (lasting : Option Binary64)
  | get (issueId : String)
  | clear (issueId : String)
  | isHeld (issueId : String)
  | priority (issueId : String)
  | hasDirective (issueId : String) (kind : DirectiveKind)
deriving DecidableEq

/-- What a shelf answers. -/
inductive Answer where
  | set (o : Override)
  | found (o? : Option Override)
  | done
  | flag (b : Bool)
  | priority (p? : Option OverridePriority)
deriving DecidableEq

/-- A call at a clock reading. -/
structure Turn where
  time : Binary64
  call : Call
deriving DecidableEq

namespace Call

/-- The time for which a directive is set is a number, if there is one. -/
def IsTimed : Call → Prop
  | set _ _ lasting => ∀ x ∈ lasting, x.isNaN = false
  | _ => True

/-- The answer to a call by what is in force for the issues. -/
def answer (now : Binary64) (inForce : String → Option Override) : Call → Answer
  | set issueId d lasting => .set (.ofDirective issueId d lasting now)
  | get issueId => .found (inForce issueId)
  | clear _ => .done
  | isHeld issueId => .flag ((inForce issueId).any (·.orders .hold))
  | priority issueId => .priority ((inForce issueId).bind Override.priority?)
  | hasDirective issueId kind => .flag ((inForce issueId).any (·.orders kind))

/-- What a call makes of the overrides that are kept. -/
def after (now : Binary64) (os : List Override) : Call → List Override
  | set issueId d lasting => replace os (.ofDirective issueId d lasting now)
  | clear issueId => without os issueId
  | get issueId | isHeld issueId | priority issueId | hasDirective issueId _ =>
    lapse os now issueId

end Call

/-- Performs a call. -/
def perform (shelf : OverrideShelf) : Call → Run (World ω) Answer
  | .set issueId d lasting => return .set (← shelf.set issueId d lasting)
  | .get issueId => return .found (← shelf.get issueId)
  | .clear issueId => do
    shelf.clear issueId
    return .done
  | .isHeld issueId => return .flag (← shelf.isHeld issueId)
  | .priority issueId => return .priority (← shelf.priority issueId)
  | .hasDirective issueId kind => return .flag (← shelf.hasDirective issueId kind)

/-- Performs a call at a clock reading. -/
def ask (shelf : OverrideShelf) (turn : Turn) : Run (World ω) Answer := do
  modify fun w => { w with clock := turn.time }
  shelf.perform turn.call

/-- Performs calls one after the other. -/
def answers (shelf : OverrideShelf) (turns : List Turn) : Run (World ω) (List Answer) :=
  turns.mapM shelf.ask

/-- The override of the last call that set one for an issue, unless it was cleared afterwards.  The
calls are those of the past, the last one first. -/
def lastSet (issueId : String) : List Turn → Option Override
  | [] => none
  | turn :: past =>
    match turn.call with
    | .set other d lasting =>
      if other = issueId then some (.ofDirective other d lasting turn.time)
      else lastSet issueId past
    | .clear other => if other = issueId then none else lastSet issueId past
    | _ => lastSet issueId past

/-- What the history puts in force: what was set last, as long as the clock is not past its time. -/
def due (past : List Turn) (now : Binary64) (issueId : String) : Option Override :=
  (lastSet issueId past).filter fun o => !o.isExpired now

/-- The answers that the history calls for, one call after the other. -/
def reference : List Turn → List Turn → List Answer
  | _, [] => []
  | past, turn :: turns =>
    turn.call.answer turn.time (due past turn.time) :: reference (turn :: past) turns

/-- A call is answered by what is in force, and changes what is kept. -/
lemma perform_of_isThere (hthere : shelf.IsThere w) (hclock : w.clock.isFinite = true)
    {call : Call} (hcall : call.IsTimed) :
    shelf.perform call w = (.ok (call.answer w.clock (current (shelf.kept w) w.clock)),
      shelf.withKept (call.after w.clock (shelf.kept w)) w) := by
  cases call with
  | set issueId d lasting => rw [perform, Run.bind_of_ok (set_of_isNaN hthere hclock hcall)]; rfl
  | get issueId => rw [perform, Run.bind_of_ok (get_of_isThere hthere issueId)]; rfl
  | clear issueId => rw [perform, Run.bind_of_ok (clear_of_isThere hthere issueId)]; rfl
  | isHeld issueId =>
    rw [perform, isHeld, hasDirective, bind_assoc, Run.bind_of_ok (get_of_isThere hthere issueId)]
    rfl
  | priority issueId =>
    rw [perform, OverrideShelf.priority, bind_assoc,
      Run.bind_of_ok (get_of_isThere hthere issueId)]
    rfl
  | hasDirective issueId kind =>
    rw [perform, hasDirective, bind_assoc, Run.bind_of_ok (get_of_isThere hthere issueId)]
    rfl

/-! ## What is kept of a history -/

section Kept

variable {now later : Binary64}

lemma current_without (os : List Override) (issueId other : String) :
    current (without os issueId) now other =
      if issueId = other then none else current os now other := by
  rw [current, without, find?_filter_key Override.issueId]
  split
  · rfl
  · rfl

lemma current_replace (os : List Override) (o : Override) (other : String) :
    current (replace os o) now other =
      if o.issueId = other then (some o).filter fun o => !o.isExpired now
      else current os now other := by
  rw [current, replace, without, find?_replaceKey Override.issueId]
  split
  · rfl
  · rfl

/-- Removing an override that is over makes no difference from then on. -/
lemma current_lapse (hle : now ≤ later) (os : List Override) (issueId other : String) :
    current (lapse os now issueId) later other = current os later other := by
  unfold lapse
  cases hfind : os.find? fun o => o.issueId == issueId with
  | none => rfl
  | some o =>
    dsimp only
    split
    · rename_i hover
      exact current_of_expired hfind (Override.isExpired_of_le hle hover) other
    · rfl

/-- What is kept puts in force what the history does, from some time on. -/
def Agrees (os : List Override) (past : List Turn) (now : Binary64) : Prop :=
  ∀ later, now ≤ later → ∀ issueId, current os later issueId = due past later issueId

lemma Agrees.of_le {past : List Turn} (h : Agrees os past now) (hle : now ≤ later) :
    Agrees os past later :=
  fun time htime => h time (Binary64.le_trans hle htime)

/-- A call keeps the agreement with the history, to which it then belongs. -/
lemma Agrees.after {past : List Turn} {turn : Turn} (h : Agrees os past now)
    (hle : now ≤ turn.time) :
    Agrees (turn.call.after turn.time os) (turn :: past) turn.time := by
  intro later hlater issueId
  have hbefore := h later (Binary64.le_trans hle hlater) issueId
  obtain ⟨time, call⟩ := turn
  unfold due at hbefore ⊢
  unfold lastSet
  cases call with
  | set other d lasting =>
    change current (replace os (.ofDirective other d lasting time)) later issueId = _
    rw [current_replace]
    dsimp only
    by_cases hissue : other = issueId
    · rw [if_pos hissue, if_pos (show (Override.ofDirective other d lasting time).issueId = issueId
        from hissue)]
    · rw [if_neg hissue, if_neg (show (Override.ofDirective other d lasting time).issueId ≠ issueId
        from hissue)]
      exact hbefore
  | clear other =>
    change current (without os other) later issueId = _
    rw [current_without]
    dsimp only
    by_cases hissue : other = issueId
    · rw [if_pos hissue, if_pos hissue]
      rfl
    · rw [if_neg hissue, if_neg hissue]
      exact hbefore
  | get other => exact (current_lapse hlater os other issueId).trans hbefore
  | isHeld other => exact (current_lapse hlater os other issueId).trans hbefore
  | priority other => exact (current_lapse hlater os other issueId).trans hbefore
  | hasDirective other kind => exact (current_lapse hlater os other issueId).trans hbefore

end Kept

/-! ## Runs -/

variable {past turns : List Turn}

/-- A call gives the answer that the history calls for, and its shelf stays where it is. -/
lemma ask_of_agrees (hthere : shelf.IsThere w) {turn : Turn} (hfinite : turn.time.isFinite = true)
    (htimed : turn.call.IsTimed) (h : Agrees (shelf.kept w) past turn.time) :
    ∃ w', shelf.ask turn w = (.ok (turn.call.answer turn.time (due past turn.time)), w') ∧
      shelf.IsThere w' ∧ shelf.kept w' = turn.call.after turn.time (shelf.kept w) := by
  have hkept : shelf.kept { w with clock := turn.time } = shelf.kept w := by cases shelf <;> rfl
  have hthere : shelf.IsThere { w with clock := turn.time } := by
    cases shelf with
    | inProcess => exact trivial
    | shared => exact hthere
  have hcurrent : current (shelf.kept w) turn.time = due past turn.time :=
    funext (h turn.time (Binary64.le_self hfinite))
  have hperform := perform_of_isThere hthere hfinite htimed
  rw [hkept, hcurrent] at hperform
  refine ⟨_, ?_, hthere.withKept _, kept_withKept _ _ _⟩
  rw [ask, Run.bind_of_ok (Run.modify_apply _ w)]
  exact hperform

/-- All answers are those that the history calls for. -/
lemma answers_eq_reference (hfinite : ∀ turn ∈ turns, turn.time.isFinite = true)
    (hordered : turns.Pairwise fun s t => s.time ≤ t.time)
    (htimed : ∀ turn ∈ turns, turn.call.IsTimed) (hthere : shelf.IsThere w)
    (h : ∀ turn ∈ turns, Agrees (shelf.kept w) past turn.time) :
    (shelf.answers turns w).1 = .ok (reference past turns) := by
  induction turns generalizing w past with
  | nil => rfl
  | cons turn turns ih =>
    obtain ⟨hturn, hrest⟩ := List.forall_mem_cons.1 hfinite
    obtain ⟨hbefore, hordered⟩ := List.pairwise_cons.1 hordered
    obtain ⟨hcall, htimed⟩ := List.forall_mem_cons.1 htimed
    obtain ⟨hagrees, -⟩ := List.forall_mem_cons.1 h
    obtain ⟨w', hask, hthere', hkept⟩ := ask_of_agrees hthere hturn hcall hagrees
    have hlater : ∀ t ∈ turns, Agrees (shelf.kept w') (turn :: past) t.time := by
      intro t ht
      rw [hkept]
      exact (hagrees.after (Binary64.le_self hturn)).of_le (hbefore t ht)
    exact Run.mapM_cons_of_ok hask (ih hrest hordered htimed hthere' hlater)

end OverrideShelf

/-! ## Directives as texts -/

namespace Directive

/-- A directive as the store keeps it: a JSON text without the fields that have no value. -/
def text (d : Directive) : String := Json.text (.ofFields (dropNulls d.toFields))

/-- Reads a directive from its text. -/
def ofText (s : String) : Except Fault Directive :=
  match Json.read? s with
  | some v => ofValue v
  | none => .error .unreadableJson

/-- A directive as it comes back: a zero for its time loses its sign. -/
def readBack (d : Directive) : Directive :=
  { d with timestamp := if d.timestamp.isZero then 0 else d.timestamp }

/-- The kind and the priority of a directive are those of their names. -/
structure IsTyped (d : Directive) : Prop where
  kind : DirectiveKind.ofName d.kind.name = d.kind
  priority : d.priority.map (fun p => OverridePriority.ofName p.name) = d.priority

variable {d : Directive}

lemma IsTyped.readBack (h : d.IsTyped) : d.readBack.IsTyped := ⟨h.kind, h.priority⟩

lemma readBack_readBack (d : Directive) : d.readBack.readBack = d.readBack := by
  unfold readBack
  cases hzero : d.timestamp.isZero with
  | true => rfl
  | false => simp [hzero]

/-- A JSON text can stand for any directive. -/
lemma isJson_dropNulls (d : Directive) : (Value.ofFields (dropNulls d.toFields)).IsJson := by
  refine .object _ ?_ fun field hfield => ?_
  · exact List.Nodup.sublist (List.Sublist.map _ List.filter_sublist)
      (show (d.toFields.map Prod.fst).Nodup by simp [toFields])
  · have hfield := (List.mem_filter.1 hfield).1
    simp only [toFields, List.mem_cons, List.not_mem_nil, or_false] at hfield
    rcases hfield with rfl | rfl | rfl | rfl | rfl | rfl
    · exact .str _
    · exact Value.isJson_ofText? _
    · exact Value.isJson_ofText? _
    · exact Value.isJson_ofText? _
    · exact Value.isJson_ofText? _
    · exact .float _

/-- What has been dropped is read as missing. -/
lemma canonicalFields_dropNulls (d : Directive) :
    canonicalFields (.ofFields (dropNulls d.toFields)) = .ok d.readBack.toFields := by
  have hread : canonicalFields (.ofFields (dropNulls d.toFields)) = (do
      let timestamp ← (Value.float d.timestamp).numberOrZero
      return [
        ("type", .str d.kind.name),
        ("priority", .ofText? (d.priority.map OverridePriority.name)),
        ("reason", .ofText? d.reason),
        ("comment_id", .ofText? d.commentId),
        ("user_id", .ofText? d.userId),
        ("timestamp", .float timestamp)]) := by
    obtain ⟨kind, priority, reason, commentId, userId, timestamp⟩ := d
    cases priority <;> cases reason <;> cases commentId <;> cases userId <;> rfl
  rw [hread, Value.numberOrZero_float, ok_bind]
  rfl

/-- A directive comes back from its text as it was, but for the sign of a zero. -/
lemma ofText_text (h : d.IsTyped) : ofText d.text = .ok d.readBack := by
  have hread : ofValue (.ofFields (dropNulls d.toFields)) = (do
      let _ ← canonicalFields (.ofFields (dropNulls d.toFields))
      let priority ← (Value.ofText? (d.priority.map OverridePriority.name)).asText?
      let reason ← (Value.ofText? d.reason).asText?
      let commentId ← (Value.ofText? d.commentId).asText?
      let userId ← (Value.ofText? d.userId).asText?
      return { d.readBack with
        kind := .ofName d.kind.name, priority := priority.map .ofName, reason, commentId,
        userId }) := by
    rw [ofValue, canonicalFields_dropNulls]
    rfl
  have hpriority : (d.priority.map OverridePriority.name).map OverridePriority.ofName =
      d.priority := by
    rw [Option.map_map]
    exact h.priority
  rw [ofText, text, Json.read?_text d.isJson_dropNulls]
  dsimp only
  rw [hread, canonicalFields_dropNulls, ok_bind]
  simp only [Value.asText?_ofText?, ok_bind, hpriority, h.kind]
  rfl

end Directive

namespace Override

/-- An override as it is read from its row, in which the directive is a text. -/
def reread (o : Override) : Except Fault Override := do
  return { o with directive := ← Directive.ofText o.directive.text }

/-- An override as it comes back. -/
def readBack (o : Override) : Override := { o with directive := o.directive.readBack }

variable {o : Override}

lemma reread_of_isTyped (h : o.directive.IsTyped) : o.reread = .ok o.readBack := by
  rw [reread, Directive.ofText_text h]
  rfl

@[simp] lemma readBack_issueId (o : Override) : o.readBack.issueId = o.issueId := rfl

@[simp] lemma isExpired_readBack (o : Override) (now : Binary64) :
    o.readBack.isExpired now = o.isExpired now := rfl

@[simp] lemma orders_readBack (o : Override) (kind : DirectiveKind) :
    o.readBack.orders kind = o.orders kind := rfl

@[simp] lemma priority?_readBack (o : Override) : o.readBack.priority? = o.priority? := rfl

@[simp] lemma readBack_readBack (o : Override) : o.readBack.readBack = o.readBack := by
  unfold readBack
  rw [Directive.readBack_readBack]

/-- Overrides of typed directives are all read from their rows. -/
lemma mapM_reread {os : List Override} (h : ∀ o ∈ os, o.directive.IsTyped) :
    os.mapM reread = .ok (os.map readBack) := by
  induction os with
  | nil => rfl
  | cons o os ih =>
    obtain ⟨ho, hos⟩ := List.forall_mem_cons.1 h
    rw [List.mapM_cons, reread_of_isTyped ho, ok_bind, ih hos]
    rfl

end Override

namespace OverrideShelf

variable {w : World ω} {os os' : List Override} {now : Binary64}

/-- An answer as it comes back: what is found has been read from its row. -/
def Answer.readBack : Answer → Answer
  | .found o? => .found (o?.map Override.readBack)
  | answer => answer

/-- Goes on with overrides of which nothing is left but their rows. -/
def throughRows : Run (World ω) Unit := do
  let os ← Run.ofExcept ((← MonadState.get).store.overrides.mapM Override.reread)
  modify (shared.withKept os)

/-- Performs calls one after the other on overrides of which nothing is left in between but their
rows. -/
def answersFromRows (turns : List Turn) : Run (World ω) (List Answer) :=
  turns.mapM fun turn => do
    throughRows
    shared.ask turn

lemma find?_readBack (os : List Override) (issueId : String) :
    ((os.map Override.readBack).find? fun o => o.issueId == issueId) =
      (os.find? fun o => o.issueId == issueId).map Override.readBack := by
  rw [List.find?_map]
  rfl

lemma current_readBack (os : List Override) (now : Binary64) (issueId : String) :
    current (os.map Override.readBack) now issueId =
      (current os now issueId).map Override.readBack := by
  unfold current
  rw [find?_readBack, Option.filter_map]
  rfl

lemma without_readBack (os : List Override) (issueId : String) :
    without (os.map Override.readBack) issueId = (without os issueId).map Override.readBack := by
  unfold without
  rw [List.filter_map]
  rfl

lemma lapse_readBack (os : List Override) (now : Binary64) (issueId : String) :
    lapse (os.map Override.readBack) now issueId =
      (lapse os now issueId).map Override.readBack := by
  unfold lapse
  rw [find?_readBack]
  cases os.find? fun o => o.issueId == issueId with
  | none => rfl
  | some o =>
    dsimp only [Option.map_some]
    rw [Override.isExpired_readBack, without_readBack]
    split <;> rfl

/-- The answer to a call is read back as what is kept is. -/
lemma answer_readBack (os : List Override) (call : Call) :
    call.answer now (current (os.map Override.readBack) now) =
      (call.answer now (current os now)).readBack := by
  have hany (issueId : String) (kind : DirectiveKind) :
      (current (os.map Override.readBack) now issueId).any (·.orders kind) =
        (current os now issueId).any (·.orders kind) := by
    rw [current_readBack, Option.any_map]
    rfl
  cases call with
  | set issueId d lasting => rfl
  | clear issueId => rfl
  | get issueId => exact congrArg Answer.found (current_readBack os now issueId)
  | isHeld issueId => exact congrArg Answer.flag (hany issueId .hold)
  | hasDirective issueId kind => exact congrArg Answer.flag (hany issueId kind)
  | priority issueId =>
    have hpriority : (current (os.map Override.readBack) now issueId).bind Override.priority? =
        (current os now issueId).bind Override.priority? := by
      rw [current_readBack, Option.bind_map]
      rfl
    exact congrArg Answer.priority hpriority

/-- A call makes the same of overrides as they are and as they come back. -/
lemma after_readBack (os : List Override) (call : Call) :
    (call.after now (os.map Override.readBack)).map Override.readBack =
      (call.after now os).map Override.readBack := by
  have htwice (os : List Override) :
      (os.map Override.readBack).map Override.readBack = os.map Override.readBack := by
    simp
  cases call with
  | set issueId d lasting =>
    simp only [Call.after, replace, List.map_append, without_readBack, htwice]
  | clear issueId => simp only [Call.after, without_readBack, htwice]
  | get issueId => simp only [Call.after, lapse_readBack, htwice]
  | isHeld issueId => simp only [Call.after, lapse_readBack, htwice]
  | priority issueId => simp only [Call.after, lapse_readBack, htwice]
  | hasDirective issueId kind => simp only [Call.after, lapse_readBack, htwice]

/-- The directive that a call sets, if any, is the one of its names. -/
def Call.IsTyped : Call → Prop
  | set _ d _ => d.IsTyped
  | _ => True

/-- Calls that set typed directives keep nothing else. -/
lemma isTyped_after {call : Call} (hcall : call.IsTyped)
    (h : ∀ o ∈ os, o.directive.IsTyped) : ∀ o ∈ call.after now os, o.directive.IsTyped := by
  have hwithout (issueId : String) : ∀ o ∈ without os issueId, o.directive.IsTyped :=
    fun o ho => h o (List.mem_filter.1 ho).1
  have hlapse (issueId : String) : ∀ o ∈ lapse os now issueId, o.directive.IsTyped := by
    unfold lapse
    split
    · exact h
    · split
      · exact hwithout issueId
      · exact h
  cases call with
  | set issueId d lasting =>
    intro o ho
    rcases List.mem_append.1 ho with ho | ho
    · exact hwithout _ o ho
    · rw [List.mem_singleton.1 ho]
      exact hcall
  | clear issueId => exact hwithout issueId
  | get issueId => exact hlapse issueId
  | isHeld issueId => exact hlapse issueId
  | priority issueId => exact hlapse issueId
  | hasDirective issueId kind => exact hlapse issueId

/-- A call on overrides that have been read from their rows gives the answer that the history calls
for, as it comes back. -/
lemma askFromRows_of_agrees (hthere : shared.IsThere w)
    (hkept : ∀ o ∈ w.store.overrides, o.directive.IsTyped)
    (hsame : w.store.overrides.map Override.readBack = os.map Override.readBack)
    {past : List Turn} {turn : Turn} (hfinite : turn.time.isFinite = true)
    (htimed : turn.call.IsTimed) (htyped : turn.call.IsTyped) (h : Agrees os past turn.time) :
    ∃ w', (throughRows >>= fun _ => shared.ask turn) w =
        (.ok (turn.call.answer turn.time (due past turn.time)).readBack, w') ∧
      shared.IsThere w' ∧ (∀ o ∈ w'.store.overrides, o.directive.IsTyped) ∧
      w'.store.overrides.map Override.readBack =
        (turn.call.after turn.time os).map Override.readBack := by
  let rows := os.map Override.readBack
  let v := shared.withKept rows { w with clock := turn.time }
  have hrows : ∀ o ∈ rows, o.directive.IsTyped := by
    intro o ho
    rw [show rows = w.store.overrides.map Override.readBack from hsame.symm] at ho
    obtain ⟨x, hx, rfl⟩ := List.mem_map.1 ho
    exact (hkept x hx).readBack
  have hthrough : throughRows w = (.ok (), shared.withKept rows w) := by
    rw [throughRows, Run.bind_of_ok (Run.get_apply w), Override.mapM_reread hkept, hsame]
    rfl
  have hcurrent : current os turn.time = due past turn.time :=
    funext (h turn.time (Binary64.le_self hfinite))
  have hv : shared.IsThere v := hthere
  have hanswer := perform_of_isThere hv hfinite htimed
  have hask : (throughRows >>= fun _ => shared.ask turn) w =
      (.ok (turn.call.answer turn.time (due past turn.time)).readBack,
        shared.withKept (turn.call.after turn.time rows) v) := by
    rw [Run.bind_of_ok hthrough, ask, Run.bind_of_ok (Run.modify_apply _ _), ← hcurrent,
      ← answer_readBack]
    exact hanswer
  exact ⟨_, hask, hv.withKept _, isTyped_after htyped hrows, after_readBack os turn.call⟩

/-- All answers from rows are those that the history calls for, as they come back. -/
lemma answersFromRows_eq_reference {past turns : List Turn}
    (hfinite : ∀ turn ∈ turns, turn.time.isFinite = true)
    (hordered : turns.Pairwise fun s t => s.time ≤ t.time)
    (htimed : ∀ turn ∈ turns, turn.call.IsTimed) (htyped : ∀ turn ∈ turns, turn.call.IsTyped)
    (hthere : shared.IsThere w) (hkept : ∀ o ∈ w.store.overrides, o.directive.IsTyped)
    (hsame : w.store.overrides.map Override.readBack = os.map Override.readBack)
    (h : ∀ turn ∈ turns, Agrees os past turn.time) :
    (answersFromRows turns w).1 = .ok ((reference past turns).map Answer.readBack) := by
  induction turns generalizing w past os with
  | nil => rfl
  | cons turn turns ih =>
    obtain ⟨hturn, hrest⟩ := List.forall_mem_cons.1 hfinite
    obtain ⟨hbefore, hordered⟩ := List.pairwise_cons.1 hordered
    obtain ⟨hcall, htimed⟩ := List.forall_mem_cons.1 htimed
    obtain ⟨hdirective, htyped⟩ := List.forall_mem_cons.1 htyped
    obtain ⟨hagrees, -⟩ := List.forall_mem_cons.1 h
    obtain ⟨w', hask, hthere', hkept', hsame'⟩ :=
      askFromRows_of_agrees hthere hkept hsame hturn hcall hdirective hagrees
    have hlater : ∀ t ∈ turns, Agrees (turn.call.after turn.time os) (turn :: past) t.time :=
      fun t ht => (hagrees.after (Binary64.le_self hturn)).of_le (hbefore t ht)
    exact Run.mapM_cons_of_ok hask (ih hrest hordered htimed htyped hthere' hkept' hsame' hlater)

/-- **The two shelves are indistinguishable, and overrides lapse exactly when their time is over.**
For calls about any issues at times that never go back, overrides that are kept in the process and
those in the store give the answers that the history of calls alone calls for: the directive that
was set last and not cleared since is reported as long as the clock is not past its time, and never
again from then on.  If nothing stays of the stored ones between two calls but rows in which the
directive is a text, the answers are the same but for the sign of a zero for the time of a directive
that is found. -/
theorem lapse_exactly {turns : List Turn}
    (hfinite : ∀ turn ∈ turns, turn.time.isFinite = true)
    (hordered : turns.Pairwise fun s t => s.time ≤ t.time)
    (htimed : ∀ turn ∈ turns, turn.call.IsTimed) (htyped : ∀ turn ∈ turns, turn.call.IsTyped)
    {w w' : World ω} (hempty : w.overrides = []) (hempty' : w'.store.overrides = [])
    (htable : w'.store.Has [.overrides]) :
    (inProcess.answers turns w).1 = .ok (reference [] turns) ∧
      (shared.answers turns w').1 = .ok (reference [] turns) ∧
      (answersFromRows turns w').1 = .ok ((reference [] turns).map Answer.readBack) := by
  have hstart (t : Binary64) : Agrees [] [] t := fun _ _ _ => rfl
  refine ⟨?_, ?_, ?_⟩
  · refine answers_eq_reference hfinite hordered htimed trivial fun turn _ => ?_
    rw [kept, hempty]
    exact hstart turn.time
  · refine answers_eq_reference hfinite hordered htimed htable fun turn _ => ?_
    rw [kept, hempty']
    exact hstart turn.time
  · have hkept : ∀ o ∈ w'.store.overrides, o.directive.IsTyped := by
      rw [hempty']
      intro o ho
      cases ho
    have hsame : w'.store.overrides.map Override.readBack = [].map Override.readBack := by
      rw [hempty']
    exact answersFromRows_eq_reference hfinite hordered htimed htyped htable hkept hsame
      fun turn _ => hstart turn.time

/-- A directive that lasts for ten seconds and one that stays until it is cleared. -/
def lapsing : List Turn := [
  ⟨0, .set "a" { kind := .hold, timestamp := .negZero } (some 10)⟩,
  ⟨5, .set "b" { kind := .priority, priority := some .high } none⟩,
  ⟨10, .get "a"⟩, ⟨11, .isHeld "a"⟩, ⟨11, .get "a"⟩, ⟨12, .priority "b"⟩, ⟨12, .clear "b"⟩,
  ⟨13, .hasDirective "b" .priority⟩]

/-- The first one is found at the end of its time and not a second later. -/
theorem lapse_exactly_lapsing :
    (inProcess.answers lapsing World.fresh).1 = .ok (reference [] lapsing) ∧
      (shared.answers lapsing World.fresh).1 = .ok (reference [] lapsing) ∧
      (answersFromRows lapsing World.fresh).1 =
        .ok ((reference [] lapsing).map Answer.readBack) ∧
      (reference [] lapsing).drop 2 = [
        .found (some (.ofDirective "a" { kind := .hold, timestamp := .negZero } (some 10) 0)),
        .flag false, .found none, .priority (some .high), .done, .flag false] := by
  have hfinite : ∀ turn ∈ lapsing, turn.time.isFinite = true := by decide +kernel
  have hordered : lapsing.Pairwise fun s t => s.time ≤ t.time := by decide +kernel
  have htimed : ∀ turn ∈ lapsing, turn.call.IsTimed := by
    have hnumber : (10 : Binary64).isNaN = false := by decide +kernel
    simp [lapsing, Call.IsTimed, hnumber]
  have htyped : ∀ turn ∈ lapsing, turn.call.IsTyped := by
    have hhold : Directive.IsTyped { kind := .hold, timestamp := .negZero } := ⟨rfl, rfl⟩
    have hpriority : Directive.IsTyped { kind := .priority, priority := some .high } := ⟨rfl, rfl⟩
    simp [lapsing, Call.IsTyped, hhold, hpriority]
  have hempty : World.fresh.overrides = [] := rfl
  have hempty' : World.fresh.store.overrides = [] := rfl
  obtain ⟨hhere, hstored, hrows⟩ := lapse_exactly hfinite hordered htimed htyped hempty hempty'
    (Store.has_of_missing rfl _)
  exact ⟨hhere, hstored, hrows, by decide +kernel⟩

end OverrideShelf

end IssueDispatch
