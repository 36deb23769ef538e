import IssueDispatch.Bus
import Mathlib.Tactic.Lemma

/-!
# Which payloads are decoded

Decoding an event is meant to end in two ways: with an event, or with a report that the payload is
malformed.  `Event.Breaks` describes the payloads on which it ends in neither.  A payload breaks it
by a tag, such as a list or an object, that cannot be looked up among the kinds, or by an issue
whose time of creation is a whole number beyond binary64.  `Event.isDecoded_iff` says that there are
no others.

The readings that make up the decoder fail in their own ways; `bind_eq_error_iff` takes a sequence
of them apart, and for each reading there is a lemma on whether a number out of range can come from
it.
-/

namespace IssueDispatch

/-- A sequence of two readings fails where the first one does, or else where the second one does. -/
lemma bind_eq_error_iff {α β : Type} {x : Except Fault α} {f : α → Except Fault β} {e : Fault} :
    x >>= f = .error e ↔ x = .error e ∨ ∃ a, x = .ok a ∧ f a = .error e := by
  cases x <;> simp [bind, Except.bind]

/-- A sequence of two readings succeeds where both do. -/
lemma bind_eq_ok_iff {α β : Type} {x : Except Fault α} {f : α → Except Fault β} {b : β} :
    x >>= f = .ok b ↔ ∃ a, x = .ok a ∧ f a = .ok b := by
  cases x <;> simp [bind, Except.bind]

@[simp] lemma ok_bind {α β : Type} (a : α) (f : α → Except Fault β) :
    (Except.ok a : Except Fault α) >>= f = f a := rfl

/-- A number was out of range. -/
def Fault.IsRange (e : Fault) : Prop := ∃ detail, e = .outOfRange detail

namespace Value

/-- A whole number to which the nearest binary64 number is infinite. -/
def IsTooLarge (v : Value) : Prop :=
  ∃ n negative, v = .int n ∧ Binary64.ofInt n = .infinity negative

/-- Members of a set can be read: what counts as false has none, and the members of anything else
can be keys. -/
def IsSetLike (v : Value) : Prop :=
  v.truthy = false ∨ ∃ items, v.members = .ok items ∧ ∀ x ∈ items, x.isKey = true

variable {v : Value} {fields : Fields} {name : String} {e : Fault}

lemma require_eq_ok_iff : require fields name = .ok v ↔ get? fields name = some v := by
  unfold require
  cases get? fields name <;> simp

lemma not_isRange_of_require (h : require fields name = .error e) : ¬ e.IsRange := by
  unfold require at h
  rintro ⟨detail, rfl⟩
  split at h <;> simp at h

lemma not_isRange_of_asObject (h : v.asObject = .error e) : ¬ e.IsRange := by
  unfold asObject at h
  rintro ⟨detail, rfl⟩
  split at h <;> simp at h

lemma eq_object_of_asObject (h : v.asObject = .ok fields) : v = .object fields := by
  unfold asObject at h
  split at h <;> cases h
  rfl

lemma not_isRange_of_members (h : v.members = .error e) : ¬ e.IsRange := by
  unfold members at h
  rintro ⟨detail, rfl⟩
  split at h <;> simp at h

/-- A member is noted if none of those that have been seen is equal to it. -/
def addDistinct (seen : List Value) (x : Value) : Except Fault (List Value) :=
  if !x.isKey then .error x.keyless
  else if seen.any x.keyEq then .ok seen
  else .ok (seen ++ [x])

lemma distinct_eq (items : List Value) : distinct items = items.foldlM addDistinct [] := rfl

lemma addDistinct_eq_error_iff {x : Value} {seen : List Value} :
    addDistinct seen x = .error e ↔ x.isKey = false ∧ e = x.keyless := by
  unfold addDistinct
  cases hx : x.isKey with
  | false => simp [eq_comm]
  | true => by_cases hknown : seen.any x.keyEq = true <;> simp [hknown]

/-- Distinct members are found if all of them can be keys. -/
lemma exists_distinct_of_forall {items : List Value} (h : ∀ x ∈ items, x.isKey = true) :
    ∃ members, distinct items = .ok members := by
  rw [distinct_eq]
  generalize ([] : List Value) = seen
  induction items generalizing seen with
  | nil => exact ⟨seen, rfl⟩
  | cons x items ih =>
    obtain ⟨hx, hitems⟩ := List.forall_mem_cons.1 h
    rw [List.foldlM_cons]
    rcases hadd : addDistinct seen x with e | seen'
    · simp [addDistinct_eq_error_iff, hx] at hadd
    · exact ih hitems seen'

lemma forall_isKey_of_distinct {items members : List Value} (h : distinct items = .ok members) :
    ∀ x ∈ items, x.isKey = true := by
  rw [distinct_eq] at h
  generalize ([] : List Value) = seen at h
  induction items generalizing seen with
  | nil => simp
  | cons x items ih =>
    rw [List.foldlM_cons] at h
    rcases hadd : addDistinct seen x with e | seen'
    · rw [hadd] at h
      cases h
    · rw [hadd] at h
      refine List.forall_mem_cons.2 ⟨?_, ih seen' h⟩
      cases hx : x.isKey with
      | true => rfl
      | false => cases (addDistinct_eq_error_iff.2 ⟨hx, rfl⟩).symm.trans hadd

lemma not_isRange_of_distinct {items : List Value} (h : distinct items = .error e) :
    ¬ e.IsRange := by
  rw [distinct_eq] at h
  generalize ([] : List Value) = seen at h
  induction items generalizing seen with
  | nil => cases h
  | cons x items ih =>
    rw [List.foldlM_cons] at h
    rcases bind_eq_error_iff.1 h with h | ⟨seen', -, h⟩
    · obtain ⟨-, rfl⟩ := addDistinct_eq_error_iff.1 h
      simp [Fault.IsRange, keyless]
    · exact ih seen' h

lemma exists_distinctMembers (h : v.IsSetLike) : ∃ items, v.distinctMembers = .ok items := by
  unfold distinctMembers
  by_cases htrue : v.truthy = true
  · rw [if_pos htrue]
    rcases h with hfalse | ⟨items, hitems, hall⟩
    · simp [htrue] at hfalse
    · rw [hitems, ok_bind]
      exact exists_distinct_of_forall hall
  · rw [if_neg htrue]
    exact ⟨[], rfl⟩

lemma isSetLike_of_distinctMembers {items : List Value} (h : v.distinctMembers = .ok items) :
    v.IsSetLike := by
  unfold distinctMembers at h
  by_cases htrue : v.truthy = true
  · rw [if_pos htrue] at h
    rcases hitems : v.members with e | items
    · rw [hitems] at h
      cases h
    · rw [hitems, ok_bind] at h
      exact Or.inr ⟨items, hitems, forall_isKey_of_distinct h⟩
  · exact Or.inl (by simpa using htrue)

lemma not_isRange_of_distinctMembers (h : v.distinctMembers = .error e) : ¬ e.IsRange := by
  unfold distinctMembers at h
  split at h
  · rcases bind_eq_error_iff.1 h with h | ⟨items, -, h⟩
    · exact not_isRange_of_members h
    · exact not_isRange_of_distinct h
  · cases h

/-- A whole number that is not too large is found. -/
lemma toBinary64_int_cases (n : Int) :
    (∃ negative, Binary64.ofInt n = .infinity negative) ∧
        (∃ detail, (Number.int n).toBinary64 = .error (.outOfRange detail)) ∨
      (¬ ∃ negative, Binary64.ofInt n = .infinity negative) ∧
        ∃ x, (Number.int n).toBinary64 = .ok x := by
  dsimp only [Number.toBinary64]
  generalize Binary64.ofInt n = x
  cases x with
  | infinity negative => exact Or.inl ⟨⟨negative, rfl⟩, _, rfl⟩
  | nan => exact Or.inr ⟨by simp, _, rfl⟩
  | negZero => exact Or.inr ⟨by simp, _, rfl⟩
  | finite units fits => exact Or.inr ⟨by simp, _, rfl⟩

lemma exists_toBinary64_bool (b : Bool) : ∃ x, (Value.bool b).toBinary64 = .ok x := by
  change ∃ x, (Number.int (if b then 1 else 0)).toBinary64 = .ok x
  have hfinite : (Binary64.ofInt (if b then 1 else 0)).isFinite = true := by
    cases b <;> decide +kernel
  rcases toBinary64_int_cases (if b then 1 else 0) with ⟨⟨negative, hinfinite⟩, -⟩ | ⟨-, hok⟩
  · rw [hinfinite] at hfinite
    cases hfinite
  · exact hok

/-- Any other value is refused, if at all, because of what it is. -/
lemma not_isRange_of_toBinary64 (hv : ∀ n, v ≠ .int n) (h : v.toBinary64 = .error e) :
    ¬ e.IsRange := by
  cases v with
  | int n => exact absurd rfl (hv n)
  | bool b =>
    obtain ⟨x, hx⟩ := exists_toBinary64_bool b
    cases hx.symm.trans h
  | str _ | bytes _ =>
    simp only [toBinary64] at h
    split at h <;> cases h
    simp [Fault.IsRange]
  | float x => cases h
  | null | date _ | moment _ _ | list _ | pair _ _ | set _ | object _ =>
    cases h
    simp [Fault.IsRange]

lemma truthy_of_isTooLarge (h : v.IsTooLarge) : v.truthy = true := by
  obtain ⟨n, negative, rfl, hn⟩ := h
  have hfinite : (Binary64.ofInt 0).isFinite = true := by decide +kernel
  have hne : n ≠ 0 := by
    rintro rfl
    rw [hn] at hfinite
    cases hfinite
  simpa [truthy] using hne

lemma exists_numberOrZero_eq_error (h : v.IsTooLarge) :
    ∃ detail, v.numberOrZero = .error (.outOfRange detail) := by
  rw [numberOrZero, if_pos (truthy_of_isTooLarge h)]
  obtain ⟨n, negative, rfl, hn⟩ := h
  rcases toBinary64_int_cases n with ⟨-, herror⟩ | ⟨hfinite, -⟩
  · exact herror
  · exact absurd ⟨negative, hn⟩ hfinite

lemma isTooLarge_of_numberOrZero (h : v.numberOrZero = .error e) (hrange : e.IsRange) :
    v.IsTooLarge := by
  unfold numberOrZero at h
  split at h
  · by_cases hint : ∃ n, v = .int n
    · obtain ⟨n, rfl⟩ := hint
      rcases toBinary64_int_cases n with ⟨⟨negative, hn⟩, -⟩ | ⟨-, x, hx⟩
      · exact ⟨n, negative, rfl, hn⟩
      · cases hx.symm.trans h
    · exact absurd hrange (not_isRange_of_toBinary64 (fun n hn => hint ⟨n, hn⟩) h)
  · cases h

end Value

/-! ## Issues -/

namespace Issue

/-- A snapshot that has its identifying fields and readable labels but was created at a time beyond
binary64. -/
def Overflows (v : Value) : Prop :=
  ∃ fields id identifier status, v = .object fields ∧
    Value.get? fields "id" = some id ∧
    Value.get? fields "identifier" = some identifier ∧
    Value.get? fields "status" = some status ∧
    (Value.getD fields "labels").IsSetLike ∧
    (Value.getD fields "created_at").IsTooLarge

lemma overflows_of_canonicalFields {v : Value} {e : Fault} (h : canonicalFields v = .error e)
    (hrange : e.IsRange) : Overflows v := by
  rw [canonicalFields, bind_eq_error_iff] at h
  rcases h with h | ⟨fields, hfields, h⟩
  · exact absurd hrange (Value.not_isRange_of_asObject h)
  rw [bind_eq_error_iff] at h
  rcases h with h | ⟨id, hid, h⟩
  · exact absurd hrange (Value.not_isRange_of_require h)
  rw [bind_eq_error_iff] at h
  rcases h with h | ⟨identifier, hidentifier, h⟩
  · exact absurd hrange (Value.not_isRange_of_require h)
  rw [bind_eq_error_iff] at h
  rcases h with h | ⟨status, hstatus, h⟩
  · exact absurd hrange (Value.not_isRange_of_require h)
  rw [bind_eq_error_iff] at h
  rcases h with h | ⟨labels, hlabels, h⟩
  · exact absurd hrange (Value.not_isRange_of_distinctMembers h)
  rw [bind_eq_error_iff] at h
  rcases h with h | ⟨createdAt, -, h⟩
  · exact ⟨fields, id, identifier, status, Value.eq_object_of_asObject hfields,
      Value.require_eq_ok_iff.1 hid, Value.require_eq_ok_iff.1 hidentifier,
      Value.require_eq_ok_iff.1 hstatus, Value.isSetLike_of_distinctMembers hlabels,
      Value.isTooLarge_of_numberOrZero h hrange⟩
  · cases h

lemma isRange_of_overflows {v : Value} (h : Overflows v) :
    ∃ detail, canonicalFields v = .error (.outOfRange detail) := by
  obtain ⟨fields, id, identifier, status, rfl, hid, hidentifier, hstatus, hset, hlarge⟩ := h
  obtain ⟨labels, hlabels⟩ := Value.exists_distinctMembers hset
  obtain ⟨detail, hnumber⟩ := Value.exists_numberOrZero_eq_error hlarge
  have hobject : (Value.object fields).asObject = .ok fields := rfl
  refine ⟨detail, ?_⟩
  rw [canonicalFields, hobject, ok_bind, Value.require_eq_ok_iff.2 hid, ok_bind,
    Value.require_eq_ok_iff.2 hidentifier, ok_bind, Value.require_eq_ok_iff.2 hstatus, ok_bind,
    hlabels, ok_bind, hnumber]
  rfl

end Issue

/-! ## Events -/

lemma EventKind.ofName?_eq_some_iff {name : String} {kind : EventKind} :
    EventKind.ofName? name = some kind ↔ name = kind.name := by
  constructor
  · intro h
    have hname := List.find?_some h
    exact (beq_iff_eq.1 hname).symm
  · rintro rfl
    cases kind <;> decide

namespace Event

/-- Neither an event nor a report of a malformed payload comes of it: its tag cannot be looked up,
or it is tagged as an event and its issue overflows. -/
def Breaks (payload : Value) : Prop :=
  ∃ fields, payload = .object fields ∧
    ((Value.getD fields "type").isKey = false ∨
      ∃ kind issue, Value.getD fields "type" = .str (EventKind.name kind) ∧
        Value.get? fields "issue" = some issue ∧ Issue.Overflows issue)

/-- An event or a report of a malformed payload. -/
def IsDecoded {α : Type} (r : Except Fault α) : Prop :=
  (∃ a, r = .ok a) ∨ ∃ cause, r = .error (.malformedEvent cause)

/-- A fault of a reading is reported as a malformed payload unless a number was out of range. -/
lemma malformed_cases (kind : EventKind) (e : Fault) :
    e.IsRange ∧ malformed kind e = e ∨
      ¬ e.IsRange ∧ ∃ cause, malformed kind e = .malformedEvent cause := by
  cases e with
  | outOfRange detail => exact Or.inl ⟨⟨detail, rfl⟩, rfl⟩
  | _ => exact Or.inr ⟨by simp [Fault.IsRange], _, rfl⟩

lemma IsDecoded.pure {α : Type} (a : α) : IsDecoded (pure a : Except Fault α) := Or.inl ⟨a, rfl⟩

/-- A sequence of readings decodes if the first one does and, if it gives a result, the second. -/
lemma IsDecoded.bind {α β : Type} {x : Except Fault α} {f : α → Except Fault β}
    (hx : IsDecoded x) (hf : ∀ a, x = .ok a → IsDecoded (f a)) : IsDecoded (x >>= f) := by
  rcases hx with ⟨a, rfl⟩ | ⟨cause, rfl⟩
  · exact hf a rfl
  · exact Or.inr ⟨cause, rfl⟩

/-- Reading within an event decodes if no number is out of range. -/
lemma isDecoded_mapError {α : Type} {x : Except Fault α} (kind : EventKind)
    (h : ∀ e, x = .error e → ¬ e.IsRange) : IsDecoded (x.mapError (malformed kind)) := by
  rcases x with e | a
  · rcases malformed_cases kind e with ⟨hrange, -⟩ | ⟨-, cause, hcause⟩
    · exact absurd hrange (h e rfl)
    · exact Or.inr ⟨cause, congrArg Except.error hcause⟩
  · exact Or.inl ⟨a, rfl⟩

lemma kindOf_of_eq_str {fields : Fields} {kind : EventKind}
    (h : Value.getD fields "type" = .str kind.name) : kindOf fields = .ok kind := by
  simp [kindOf, h, Value.isKey, Value.str?, EventKind.ofName?_eq_some_iff.2 rfl]

lemma kindOf_of_isKey_eq_false {fields : Fields}
    (h : (Value.getD fields "type").isKey = false) :
    ∃ detail, kindOf fields = .error (.wrongKind detail) := by
  simp [kindOf, h, Value.keyless]

/-- A tag names a kind, or it cannot be looked up, or it is reported. -/
lemma kindOf_cases (fields : Fields) :
    (∃ kind, Value.getD fields "type" = .str (EventKind.name kind) ∧ kindOf fields = .ok kind) ∨
      (Value.getD fields "type").isKey = false ∨
      ∃ cause, kindOf fields = .error (.malformedEvent cause) := by
  cases hkey : (Value.getD fields "type").isKey with
  | false => exact Or.inr (Or.inl rfl)
  | true =>
    rcases hkind : (Value.getD fields "type").str?.bind EventKind.ofName? with _ | kind
    · refine Or.inr (Or.inr ⟨.unknownType (Value.getD fields "type").literal, ?_⟩)
      simp [kindOf, hkey, hkind]
    · obtain ⟨name, hname, hof⟩ := Option.bind_eq_some_iff.1 hkind
      have htag : Value.getD fields "type" = .str kind.name := by
        rw [← EventKind.ofName?_eq_some_iff.1 hof]
        unfold Value.str? at hname
        split at hname <;> simp_all
      exact Or.inl ⟨kind, htag, kindOf_of_eq_str htag⟩

lemma isDecoded_checkFields (kind : EventKind) (fields : Fields) :
    IsDecoded (checkFields kind fields) := by
  unfold checkFields
  dsimp only
  split
  · split
    · exact Or.inr ⟨_, rfl⟩
    · exact Or.inr ⟨_, rfl⟩
  · split
    · exact Or.inl ⟨(), rfl⟩
    · exact Or.inr ⟨_, rfl⟩

/-- A payload that breaks decoding ends it with a fault that is no report of a malformed payload. -/
lemma exists_fault_of_breaks {payload : Value} (h : Breaks payload) (now : Binary64) :
    ∃ e, canonicalFields now payload = .error e ∧ Bus.isUndecodable e = false := by
  obtain ⟨fields, rfl, htag⟩ := h
  rw [canonicalFields]
  rcases htag with htag | ⟨kind, issue, htag, hissue, hlarge⟩
  · obtain ⟨detail, hkind⟩ := kindOf_of_isKey_eq_false htag
    refine ⟨.wrongKind detail, ?_, rfl⟩
    rw [hkind]
    rfl
  · obtain ⟨detail, hrange⟩ := Issue.isRange_of_overflows hlarge
    refine ⟨.outOfRange detail, ?_, rfl⟩
    rw [kindOf_of_eq_str htag, ok_bind, Value.require_eq_ok_iff.2 hissue]
    change (Issue.canonicalFields issue).mapError (malformed kind) >>= _ = _
    rw [hrange]
    rfl

/-- Any other payload ends it with an event or with a report. -/
lemma isDecoded_of_not_breaks {payload : Value} (h : ¬ Breaks payload) (now : Binary64) :
    IsDecoded (canonicalFields now payload) := by
  unfold canonicalFields
  split
  · rename_i fields
    rcases kindOf_cases fields with ⟨kind, hname, hkind⟩ | hkey | ⟨cause, hkind⟩
    · rw [hkind, ok_bind]
      refine (isDecoded_mapError kind fun e => Value.not_isRange_of_require).bind
        fun issue hissue => ?_
      have hgiven : Value.get? fields "issue" = some issue := by
        rcases hrequire : Value.require fields "issue" with e | value
        · rw [hrequire] at hissue
          cases hissue
        · rw [hrequire] at hissue
          cases hissue
          exact Value.require_eq_ok_iff.1 hrequire
      refine (isDecoded_mapError kind fun e he hrange => ?_).bind fun canonical _ => ?_
      · exact h ⟨fields, rfl, Or.inr ⟨kind, issue, hname, hgiven,
          Issue.overflows_of_canonicalFields he hrange⟩⟩
      refine IsDecoded.bind (isDecoded_checkFields kind fields) fun _ _ => ?_
      split
      · exact IsDecoded.pure _
      · refine IsDecoded.bind ?_ fun timestamp _ => IsDecoded.pure _
        rcases (isoReading now).map Value.str with e | reading
        · exact Or.inr ⟨.invalid kind.name, rfl⟩
        · exact Or.inl ⟨reading, rfl⟩
    · exact (h ⟨fields, rfl, Or.inl hkey⟩).elim
    · exact Or.inr ⟨cause, by rw [hkind]; rfl⟩
  · exact Or.inr ⟨.notObject, rfl⟩

/-- Decoding ends with an event or with a report exactly on the payloads that do not break it. -/
lemma isDecoded_iff (payload : Value) (now : Binary64) :
    IsDecoded (canonicalFields now payload) ↔ ¬ Breaks payload := by
  refine ⟨fun hdecoded hbreaks => ?_, fun h => isDecoded_of_not_breaks h now⟩
  obtain ⟨e, herror, he⟩ := exists_fault_of_breaks hbreaks now
  rcases hdecoded with ⟨event, hok⟩ | ⟨cause, hcause⟩
  · cases hok.symm.trans herror
  · cases hcause.symm.trans herror
    cases he

end Event

end IssueDispatch
