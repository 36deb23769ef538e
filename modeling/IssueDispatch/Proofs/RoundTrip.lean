import IssueDispatch.Proofs.Decoding
import IssueDispatch.Proofs.Json.Reading
import IssueDispatch.Proofs.Standard

/-!
# Events come back from their payloads

An event is written to a payload and the payload to a JSON text.  The payload is read back from the
text as it is.  It has all the fields of its kind, so nothing is filled in when the event is read.
Two fields of the issue are changed on the way: the labels are read as a set and sorted, which gives
back a list in increasing order, and a zero for the time of creation counts as false and is replaced
by the positive zero.  `Event.readBack` is the event after this change, and equal to the event
before it.
-/

namespace IssueDispatch

/-! ## Labels and numbers -/

namespace Value

/-- Texts that differ from each other and from what has been seen are all noted. -/
lemma foldlM_addDistinct_str (seen : List String) {names : List String}
    (h : (seen ++ names).Nodup) :
    (names.map Value.str).foldlM addDistinct (seen.map .str) = .ok ((seen ++ names).map .str) := by
  induction names generalizing seen with
  | nil =>
    rw [List.append_nil]
    rfl
  | cons name names ih =>
    have hnew : name ∉ seen := by
      intro hmem
      rw [List.nodup_append] at h
      exact h.2.2 name hmem name List.mem_cons_self rfl
    have hnone : ((seen.map Value.str).any (Value.str name).keyEq) = false := by
      rw [List.any_eq_false]
      rintro _ hx
      obtain ⟨other, hother, rfl⟩ := List.mem_map.1 hx
      simp only [keyEq, beq_iff_eq]
      rintro rfl
      exact hnew hother
    have hadd : addDistinct (seen.map .str) (.str name) = .ok ((seen ++ [name]).map .str) := by
      rw [addDistinct, hnone, List.map_append]
      rfl
    rw [List.append_cons] at h
    rw [List.map_cons, List.foldlM_cons, hadd, ok_bind, ih _ h, ← List.append_cons]

/-- A list of different texts is its own list of distinct members. -/
lemma distinctMembers_ofTexts {names : List String} (h : names.Nodup) :
    (ofTexts names).distinctMembers = .ok (names.map .str) := by
  cases names with
  | nil => rfl
  | cons name names => exact foldlM_addDistinct_str [] h

lemma mapM_asText (names : List String) : (names.map Value.str).mapM asText = .ok names := by
  induction names with
  | nil => rfl
  | cons name names ih =>
    rw [List.map_cons, List.mapM_cons, ih]
    rfl

lemma asText?_ofText? (text? : Option String) : (ofText? text?).asText? = .ok text? := by
  cases text? <;> rfl

/-- A decimal number is read as it is, but for the sign of a zero. -/
lemma numberOrZero_float (x : Binary64) :
    (Value.float x).numberOrZero = .ok (if x.isZero then 0 else x) := by
  rw [numberOrZero, truthy]
  cases x.isZero <;> rfl

end Value

/-- There are two zeros. -/
lemma Binary64.eq_of_isZero {x : Binary64} (h : x.isZero = true) : x = 0 ∨ x = .negZero := by
  have hkey : x.key? = some 0 := by simpa [isZero] using h
  cases x with
  | nan => cases hkey
  | infinity negative =>
    have hpos := limit_pos
    cases negative with
    | true =>
      have hplace := Option.some.inj hkey
      omega
    | false =>
      have hplace := Option.some.inj hkey
      omega
  | negZero => exact Or.inr rfl
  | finite u fits =>
    obtain rfl : u = 0 := Option.some.inj hkey
    have hzero : (0 : Binary64) = .finite 0 fits_zero := by decide +kernel
    exact Or.inl hzero.symm

/-- Whatever is a number is equal to itself. -/
lemma Binary64.eqv_self {x : Binary64} (h : x.isNaN = false) : x.eqv x = true := by
  cases x with
  | nan => cases h
  | infinity negative => cases negative <;> simp [eqv, key?]
  | negZero => simp [eqv, key?]
  | finite u fits => simp [eqv, key?]

lemma Value.isJson_ofText? (text? : Option String) : (ofText? text?).IsJson := by
  cases text? with
  | none => exact .null
  | some s => exact .str s

/-- Texts in increasing order are sorted already. -/
lemma Text.sorted_of_pairwise {names : List String} (h : names.Pairwise (· < ·)) :
    Text.sorted names = names :=
  List.mergeSort_of_pairwise (h.imp fun hlt => by simpa using String.lt_asymm hlt)

/-! ## Issues -/

namespace Issue

/-- The labels of an issue are a set: each occurs once, in increasing order. -/
def HasLabelSet (issue : Issue) : Prop := issue.labels.Pairwise (· < ·)

instance (issue : Issue) : Decidable issue.HasLabelSet :=
  inferInstanceAs (Decidable (issue.labels.Pairwise (· < ·)))

/-- An issue as it is read back: a zero for its time of creation loses its sign. -/
def readBack (issue : Issue) : Issue :=
  { issue with createdAt := if issue.createdAt.isZero then 0 else issue.createdAt }

/-- The fields of a snapshot, as a store or a tracker keeps them. -/
def fields (issue : Issue) : List (String × Value) := [
  ("id", .str issue.id),
  ("identifier", .str issue.identifier),
  ("title", .ofText? issue.title),
  ("status", .str issue.status),
  ("labels", .list (issue.labels.map .str)),
  ("created_at", .float issue.createdAt),
  ("description", .ofText? issue.description),
  ("parent_id", .ofText? issue.parentId),
  ("project", .ofText? issue.project)]

variable {issue : Issue}

/-- A JSON text can stand for any snapshot. -/
lemma isJson_toValue (issue : Issue) : issue.toValue.IsJson := by
  have hlabels : (Value.list (issue.labels.map .str)).IsJson := by
    refine .list _ fun label hlabel => ?_
    obtain ⟨name, -, rfl⟩ := List.mem_map.1 hlabel
    exact .str name
  refine .object issue.fields (by simp [fields]) fun field hfield => ?_
  simp only [fields, List.mem_cons, List.not_mem_nil, or_false] at hfield
  rcases hfield with rfl | rfl | rfl | rfl | rfl | rfl | rfl | rfl | rfl
  · exact .str _
  · exact .str _
  · exact Value.isJson_ofText? _
  · exact .str _
  · exact hlabels
  · exact .float _
  · exact Value.isJson_ofText? _
  · exact Value.isJson_ofText? _
  · exact Value.isJson_ofText? _

lemma HasLabelSet.nodup (h : issue.HasLabelSet) : issue.labels.Nodup :=
  h.imp fun {a b} (hlt : a < b) (heq : a = b) => String.lt_irrefl b (heq ▸ hlt)

/-- A snapshot that has been written is complete, and nothing but a zero changes. -/
lemma canonicalFields_toValue (h : issue.HasLabelSet) :
    canonicalFields issue.toValue = .ok issue.readBack.fields := by
  have hread : canonicalFields issue.toValue = (do
      let labels ← (Value.ofTexts issue.labels).distinctMembers
      let createdAt ← (Value.float issue.createdAt).numberOrZero
      return [
        ("id", .str issue.id),
        ("identifier", .str issue.identifier),
        ("title", .ofText? issue.title),
        ("status", .str issue.status),
        ("labels", .list labels),
        ("created_at", .float createdAt),
        ("description", .ofText? issue.description),
        ("parent_id", .ofText? issue.parentId),
        ("project", .ofText? issue.project)]) := rfl
  rw [hread, Value.distinctMembers_ofTexts h.nodup, ok_bind, Value.numberOrZero_float, ok_bind]
  rfl

lemma ofValue_toValue (h : issue.HasLabelSet) : ofValue issue.toValue = .ok issue.readBack := by
  have hread : ofValue issue.toValue = (do
      let _ ← canonicalFields issue.toValue
      let title ← (Value.ofText? issue.title).asText?
      let labels ← (issue.labels.map Value.str).mapM Value.asText
      let description ← (Value.ofText? issue.description).asText?
      let parentId ← (Value.ofText? issue.parentId).asText?
      let project ← (Value.ofText? issue.project).asText?
      return { issue.readBack with
        title, labels := Text.sorted labels, description, parentId, project }) := by
    rw [ofValue, canonicalFields_toValue h]
    rfl
  rw [hread, canonicalFields_toValue h, ok_bind]
  simp only [Value.asText?_ofText?, Value.mapM_asText, ok_bind, Text.sorted_of_pairwise h]
  rfl

lemma readBack_readBack (issue : Issue) : issue.readBack.readBack = issue.readBack := by
  unfold readBack
  cases hzero : issue.createdAt.isZero with
  | true => rfl
  | false => simp [hzero]

/-- Nothing but the sign of a zero is lost. -/
lemma createdAt_readBack_cases (issue : Issue) :
    issue.readBack.createdAt = issue.createdAt ∨
      issue.readBack.createdAt = 0 ∧ issue.createdAt = .negZero := by
  unfold readBack
  cases hzero : issue.createdAt.isZero with
  | false => exact Or.inl rfl
  | true =>
    rcases Binary64.eq_of_isZero hzero with h | h
    · exact Or.inl h.symm
    · exact Or.inr ⟨rfl, h⟩

end Issue

/-! ## Events -/

/-- A JSON text can stand for what an event reports.  The project of a poll is the only part of it
that may be of any shape. -/
def EventDetail.IsJson : EventDetail → Prop
  | .pollSnapshot project => project.IsJson
  | _ => True

namespace Event

/-- An event as it is read back. -/
def readBack (e : Event) : Event := { e with issue := e.issue.readBack }

/-- The fields of an event besides its tag. -/
def fields (e : Event) : List (String × Value) :=
  [("issue_id", .str e.issueId), ("issue", e.issue.toValue)] ++ detailFields e.detail ++
  [("source", .str e.source), ("timestamp", .ofText? e.timestamp)]

variable {e : Event}

/-- A payload that has been written is complete, and nothing but a zero changes. -/
lemma canonicalFields_toValue (h : e.issue.HasLabelSet) (now : Binary64) :
    canonicalFields now e.toValue = .ok (e.kind, e.readBack.fields) := by
  have hread : canonicalFields now e.toValue = (do
      let issue ← (Issue.canonicalFields e.issue.toValue).mapError (malformed e.kind)
      return (e.kind, [("issue_id", .str e.issueId), ("issue", .ofFields issue)] ++
        detailFields e.detail ++
        [("source", .str e.source), ("timestamp", .ofText? e.timestamp)])) := by
    obtain ⟨issueId, issue, detail, source, timestamp⟩ := e
    cases detail <;> rfl
  rw [hread, Issue.canonicalFields_toValue h]
  rfl

lemma ofFields_fields (h : e.issue.HasLabelSet) : ofFields e.kind e.fields = .ok e.readBack := by
  have hread : ofFields e.kind e.fields = (do
      let issue ← Issue.ofValue e.issue.toValue
      let detail ← readDetail e.kind (e.fields.map fun field => (.str field.1, field.2))
      let timestamp ← (Value.ofText? e.timestamp).asText?
      return { e with issue, detail, timestamp }) := by
    obtain ⟨issueId, issue, detail, source, timestamp⟩ := e
    cases detail <;> rfl
  have hdetail : readDetail e.kind (e.fields.map fun field => (.str field.1, field.2)) =
      .ok e.detail := by
    obtain ⟨issueId, issue, detail, source, timestamp⟩ := e
    cases detail with
    | statusChanged newStatus previousStatus => cases previousStatus <;> rfl
    | commentAdded commentId body userId userName isBot =>
      cases body <;> cases userId <;> cases userName <;> rfl
    | sessionCompleted sessionId outcome => rfl
    | pollSnapshot project => rfl
  rw [hread, Issue.ofValue_toValue h, ok_bind, hdetail, ok_bind, Value.asText?_ofText?]
  rfl

/-- An event is read back from its payload. -/
lemma ofValue_toValue (h : e.issue.HasLabelSet) (now : Binary64) :
    ofValue now e.toValue = .ok e.readBack := by
  have hback : e.readBack.issue.HasLabelSet := h
  rw [ofValue, canonicalFields_toValue h, ok_bind]
  refine (ofFields_fields hback).trans ?_
  rw [readBack, readBack, Issue.readBack_readBack]

lemma isJson_detailFields {detail : EventDetail} (h : detail.IsJson) :
    ∀ field ∈ detailFields detail, field.2.IsJson := by
  intro field hfield
  cases detail with
  | statusChanged newStatus previousStatus =>
    simp only [detailFields, List.mem_cons, List.not_mem_nil, or_false] at hfield
    rcases hfield with rfl | rfl
    · exact .str _
    · exact Value.isJson_ofText? _
  | commentAdded commentId body userId userName isBot =>
    simp only [detailFields, List.mem_cons, List.not_mem_nil, or_false] at hfield
    rcases hfield with rfl | rfl | rfl | rfl | rfl
    · exact .str _
    · exact Value.isJson_ofText? _
    · exact Value.isJson_ofText? _
    · exact Value.isJson_ofText? _
    · exact .bool _
  | sessionCompleted sessionId outcome =>
    simp only [detailFields, List.mem_cons, List.not_mem_nil, or_false] at hfield
    rcases hfield with rfl | rfl
    · exact .str _
    · exact .str _
  | pollSnapshot project =>
    simp only [detailFields, List.mem_cons, List.not_mem_nil, or_false] at hfield
    subst hfield
    exact h

/-- A JSON text can stand for the payload of an event. -/
lemma isJson_toValue (h : e.detail.IsJson) : e.toValue.IsJson := by
  refine .object _ ?_ fun field hfield => ?_
  · obtain ⟨issueId, issue, detail, source, timestamp⟩ := e
    cases detail <;> simp [detailFields]
  · simp only [List.mem_append, List.mem_cons, List.not_mem_nil, or_false] at hfield
    rcases hfield with ((rfl | rfl) | hfield) | rfl | rfl | rfl
    · exact .str _
    · exact e.issue.isJson_toValue
    · exact isJson_detailFields h field hfield
    · exact .str _
    · exact Value.isJson_ofText? _
    · exact .str _

/-- The payload of a poll has a JSON text if the project has one. -/
lemma refusal?_toValue_eq_none {project : Value} (hdetail : e.detail = .pollSnapshot project)
    (hproject : Json.refusal? project = none) : Json.refusal? e.toValue = none := by
  have hissue := Json.refusal?_eq_none_of_isJson e.issue.isJson_toValue
  have htimestamp := Json.refusal?_eq_none_of_isJson (Value.isJson_ofText? e.timestamp)
  rw [toValue, Json.refusal?_ofFields_eq_none_iff, hdetail]
  intro field hfield
  simp only [detailFields, List.mem_append, List.mem_cons, List.not_mem_nil, or_false] at hfield
  rcases hfield with ((rfl | rfl) | rfl) | rfl | rfl | rfl
  · rfl
  · exact hissue
  · exact hproject
  · rfl
  · exact htimestamp
  · rfl

/-- The same event about an issue that was created at another time. -/
def withCreatedAt (e : Event) (time : Binary64) : Event :=
  { e with issue := { e.issue with createdAt := time } }

/-- Equality of events: the times of creation are compared as numbers, so that both zeros are equal,
and everything else is the same. -/
def Equals (e e' : Event) : Prop :=
  e.withCreatedAt e'.issue.createdAt = e' ∧ e.issue.createdAt.eqv e'.issue.createdAt = true

/-- An event comes back from the JSON text that its payload has: it is equal to the one that was
written, of the same kind and with the same key, and written again it gives the same payload, up to
the sign of a zero for the time of creation of its issue. -/
theorem roundTrip (h : e.issue.HasLabelSet) (hdetail : e.detail.IsJson)
    (htime : e.issue.createdAt.isNaN = false) (now : Binary64) :
    Json.refusal? e.toValue = none ∧
      ∃ payload e' time, Json.read? (Json.text e.toValue) = some payload ∧
        ofValue now payload = .ok e' ∧ e'.Equals e ∧ e'.kind = e.kind ∧ e'.key = e.key ∧
        e'.toValue = (e.withCreatedAt time).toValue ∧
        (time = e.issue.createdAt ∨ time = 0 ∧ e.issue.createdAt = .negZero) := by
  refine ⟨Json.refusal?_eq_none_of_isJson (isJson_toValue hdetail), e.toValue, e.readBack,
    e.readBack.issue.createdAt, Json.read?_text (isJson_toValue hdetail), ofValue_toValue h now,
    ⟨rfl, ?_⟩, rfl, rfl, rfl,
    e.issue.createdAt_readBack_cases⟩
  change e.issue.readBack.createdAt.eqv e.issue.createdAt = true
  rcases e.issue.createdAt_readBack_cases with hsame | ⟨hzero, hneg⟩
  · rw [hsame]
    exact Binary64.eqv_self htime
  · rw [hzero, hneg]
    decide +kernel

/-- The snapshot of an issue with two labels that was created at the negative zero. -/
def coreSnapshot : Event where
  issueId := "a"
  issue := { Issue.inBacklog "a" with labels := ["bug", "ui"], createdAt := .negZero }
  detail := .pollSnapshot (.str "core")
  source := "poll"
  timestamp := some "2024-01-01T00:00:00+00:00"

theorem roundTrip_coreSnapshot :
    coreSnapshot.issue.HasLabelSet ∧ coreSnapshot.detail.IsJson ∧
      coreSnapshot.issue.createdAt.isNaN = false ∧
      Json.refusal? coreSnapshot.toValue = none ∧
      ∃ payload e' time, Json.read? (Json.text coreSnapshot.toValue) = some payload ∧
        ofValue 0 payload = .ok e' ∧ e'.Equals coreSnapshot ∧ e'.kind = coreSnapshot.kind ∧
        e'.key = coreSnapshot.key ∧ e'.toValue = (coreSnapshot.withCreatedAt time).toValue ∧
        (time = coreSnapshot.issue.createdAt ∨
          time = 0 ∧ coreSnapshot.issue.createdAt = .negZero) := by
  have hlabels : coreSnapshot.issue.HasLabelSet := by decide
  have hproject : coreSnapshot.detail.IsJson := .str "core"
  exact ⟨hlabels, hproject, rfl, roundTrip hlabels hproject rfl 0⟩

end Event

end IssueDispatch
