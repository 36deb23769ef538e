import IssueDispatch.Settings
import IssueDispatch.Proofs.Decoding
import Mathlib.Logic.Basic
import Mathlib.Tactic.Lemma
import Mathlib.Tactic.SplitIfs

/-!
# What the checks of raw settings find

Building settings is a sequence of checks, each on one value of the raw settings object or on its
keys.  A check finds the value as it should be, gives a reason to refuse the settings, or breaks on
the value (`Finding`).  `Settings.findings` lists what the checks find, in the order in which they
are made, and `Settings.outcome_build` says that the first finding that is anything but `met`
decides.

The findings are said of the values alone.  For each reading of a value there is a lemma
`outcome_…` that it ends as the finding says.
-/

namespace IssueDispatch

/-- A whole number is read as the nearest finite number, if there is one. -/
lemma Number.toBinary64_int_eq_ok {n : Int} {x : Binary64} (h : (Number.int n).toBinary64 = .ok x) :
    x = Binary64.ofInt n ∧ x.isFinite = true := by
  have hne : Binary64.ofInt n ≠ .nan := by
    unfold Binary64.ofInt Binary64.ofUnits Binary64.ofQuotient Binary64.signedZero
    dsimp only
    split_ifs <;> exact Binary64.noConfusion
  unfold Number.toBinary64 at h
  dsimp only at h
  generalize Binary64.ofInt n = y at hne h ⊢
  cases y with
  | nan => exact absurd rfl hne
  | infinity negative => cases h
  | negZero | finite units fits =>
    cases h
    exact ⟨rfl, rfl⟩

/-- What a check finds: a value as it should be, a reason to refuse the settings, or a value on
which the check itself breaks. -/
inductive Finding where
  | met
  | refused (cause : SettingsError)
  | broken
deriving DecidableEq

namespace Finding

variable {α β : Type} {f g : Finding} {findings : List Finding} {cause : SettingsError}

/-- A second check is made if the first one has nothing to find fault with. -/
def andThen : Finding → Finding → Finding
  | met, g => g
  | f, _ => f

/-- What several checks find, one after the other. -/
def first (findings : List Finding) : Finding := findings.foldr andThen met

lemma andThen_assoc (f g h : Finding) : (f.andThen g).andThen h = f.andThen (g.andThen h) := by
  cases f <;> rfl

@[simp] lemma met_andThen (g : Finding) : met.andThen g = g := rfl

@[simp] lemma refused_andThen (cause : SettingsError) (g : Finding) :
    (refused cause).andThen g = refused cause := rfl

lemma andThen_met (f : Finding) : f.andThen met = f := by
  cases f <;> rfl

lemma first_append (findings findings' : List Finding) :
    first (findings ++ findings') = (first findings).andThen (first findings') := by
  induction findings with
  | nil => rfl
  | cons f findings ih =>
    change f.andThen (first (findings ++ findings')) = (f.andThen (first findings)).andThen _
    rw [ih, andThen_assoc]

/-- All is as it should be if every check finds it so. -/
lemma first_eq_met_iff : first findings = met ↔ ∀ f ∈ findings, f = met := by
  induction findings with
  | nil => simp [first]
  | cons f findings ih =>
    rw [List.forall_mem_cons, ← ih]
    cases f with
    | met => exact (and_iff_right rfl).symm
    | refused cause => exact ⟨nofun, fun h => nomatch h.1⟩
    | broken => exact ⟨nofun, fun h => nomatch h.1⟩

/-- There is a reason to refuse if a check gives it and none before it finds anything. -/
lemma first_eq_refused_iff : first findings = refused cause ↔
    ∃ before after, findings = before ++ refused cause :: after ∧ ∀ f ∈ before, f = met := by
  constructor
  · intro h
    induction findings with
    | nil => cases h
    | cons f findings ih =>
      cases f with
      | met =>
        obtain ⟨before, after, rfl, hbefore⟩ := ih h
        exact ⟨met :: before, after, rfl, List.forall_mem_cons.2 ⟨rfl, hbefore⟩⟩
      | refused cause' =>
        cases h
        exact ⟨[], findings, rfl, nofun⟩
      | broken => cases h
  · rintro ⟨before, after, rfl, hbefore⟩
    rw [first_append, first_eq_met_iff.2 hbefore]
    rfl

/-- What a reading finds by how it ends. -/
def outcome : Except Fault α → Finding
  | .ok _ => met
  | .error (.settings cause _) => refused cause
  | .error _ => broken

lemma outcome_bind {x : Except Fault α} {k : α → Except Fault β} (hx : outcome x = f)
    (hk : ∀ a, x = .ok a → outcome (k a) = g) : outcome (x >>= k) = f.andThen g := by
  subst hx
  cases x with
  | ok a => exact hk a rfl
  | error e => cases e <;> rfl

lemma outcome_eq_met_iff {x : Except Fault α} : outcome x = met ↔ ∃ a, x = .ok a := by
  cases x with
  | ok a => simp [outcome]
  | error e => cases e <;> simp [outcome]

lemma outcome_eq_refused_iff {x : Except Fault α} :
    outcome x = refused cause ↔ ∃ path, x = .error (.settings cause path) := by
  cases x with
  | ok a => simp [outcome]
  | error e => cases e <;> simp [outcome]

/-! ## What there is to find in a value -/

/-- A number is called for that has nothing wrong with it. -/
def ofBound (wrong : Number → Bool) (cause : SettingsError) (v : Value) : Finding :=
  match v.number? with
  | some n => if wrong n then refused cause else met
  | none => broken

/-- A section may be left out, and is an object otherwise. -/
def ofSection : Value → Finding
  | .object _ => met
  | v => if v.truthy then broken else met

/-- Names are given one by one, or as a text that is the only one.  Bytes are as good as the list of
their numbers. -/
def ofNames : Value → Finding
  | .str _ | .bytes _ | .list _ | .pair .. | .set _ | .object _ => met
  | _ => broken

/-- Names of statuses are made into a set, so each of them has to be a key. -/
def ofStatuses : Value → Finding
  | .str _ | .bytes _ => met
  | .list items | .set items => if items.all Value.isKey then met else broken
  | .pair a b => if a.isKey && b.isKey then met else broken
  | .object fields => if fields.all fun field => field.1.isKey then met else broken
  | _ => broken

/-- The words for a time without end. -/
def isNever (s : String) : Bool := ["never", "inf", "infinity"].contains (Text.lowerAscii s)

/-- A time is a number that is not too large, a text or bytes that read as one, or without end. -/
def ofDuration : Value → Finding
  | .null | .bool _ | .float _ => met
  | .int n => if (Binary64.ofInt n).isFinite then met else broken
  | .str s =>
    if isNever s || (readBinary64? s).isSome then met
    else refused (.invalidDuration (Text.quote s))
  | .bytes b =>
    if ((Value.numeralOfBytes? b).bind readBinary64?).isSome then met
    else refused (.invalidDuration (Text.quoteBytes b))
  | v => refused (.invalidDuration v.literal)

/-- A whole number can be read from a finite number, or from a text or bytes that read as one. -/
def ofWhole : Value → Finding
  | .bool _ | .int _ => met
  | .float x => if x.isFinite then met else broken
  | .str s => if (readInt? s).isSome then met else broken
  | .bytes b => if ((Value.numeralOfBytes? b).bind readInt?).isSome then met else broken
  | _ => broken

end Finding

namespace Settings

open Finding

variable {data : Fields} {v : Value} {s : Settings}

lemma outcome_compareNumber {α : Type} {symbol : String} {holds : Number → Number → Bool}
    {bound : Number} {cause : SettingsError} {k : Bool → Except Fault α} {g : Finding}
    (hwrong : outcome (k true) = refused cause) (hk : outcome (k false) = g) :
    outcome (v.compareNumber symbol holds bound >>= k) =
      (ofBound (holds · bound) cause v).andThen g := by
  unfold Value.compareNumber ofBound
  cases v.number? with
  | none => rfl
  | some n =>
    rw [ok_bind]
    cases hn : holds n bound with
    | true => simpa only [hn, if_true, refused_andThen] using hwrong
    | false => simpa only [hn, Bool.false_eq_true, if_false, met_andThen] using hk

lemma outcome_checkPositive (fields : Fields) (name : String) :
    outcome (checkPositive fields name) =
      ofBound (·.le (.int 0)) (.notPositive name) (Value.getD fields name) :=
  (outcome_compareNumber rfl rfl).trans (andThen_met _)

lemma duration_str (s : String) : duration (.str s) =
    if isNever s then .ok (.infinity false)
    else
      match readBinary64? s with
      | some x => .ok x
      | none => .error (.settings (.invalidDuration (Text.quote s)) none) := by
  unfold duration isNever Value.toBinary64
  dsimp only
  cases readBinary64? s <;> rfl

lemma duration_bytes (b : List UInt8) : duration (.bytes b) =
    match (Value.numeralOfBytes? b).bind readBinary64? with
    | some x => .ok x
    | none => .error (.settings (.invalidDuration (Text.quoteBytes b)) none) := by
  simp only [duration, Value.toBinary64, Bool.false_eq_true, if_false]
  cases (Value.numeralOfBytes? b).bind readBinary64? <;> rfl

/-- A time that is no text is read as a number. -/
lemma duration_eq_ok {x : Binary64} (hv : v.toBinary64 = .ok x) (hnull : v ≠ .null)
    (htext : ∀ s, v ≠ .str s) : duration v = .ok x := by
  cases v with
  | null => exact absurd rfl hnull
  | str s => exact absurd rfl (htext s)
  | _ => simp only [duration, Bool.false_eq_true, if_false, hv]

lemma duration_eq_error {detail : String} (hv : v.toBinary64 = .error (.outOfRange detail)) :
    duration v = .error (.outOfRange detail) := by
  cases v with
  | null => cases hv
  | str s =>
    unfold Value.toBinary64 at hv
    cases hread : readBinary64? s <;> simp [hread] at hv
  | bytes b =>
    unfold Value.toBinary64 at hv
    cases hread : (Value.numeralOfBytes? b).bind readBinary64? <;> simp [hread] at hv
  | _ => simp only [duration, Bool.false_eq_true, if_false, hv]

lemma outcome_duration (v : Value) : outcome (duration v) = ofDuration v := by
  cases v with
  | null | float _ | date _ | moment _ _ | list _ | pair _ _ | set _ | object _ => rfl
  | bool b =>
    obtain ⟨x, hx⟩ := Value.exists_toBinary64_bool b
    rw [duration_eq_ok hx nofun nofun]
    rfl
  | int n =>
    simp only [ofDuration]
    rcases Value.toBinary64_int_cases n with ⟨⟨negative, hlarge⟩, detail, herror⟩ | ⟨-, x, hx⟩
    · rw [duration_eq_error (v := .int n) herror, hlarge]
      rfl
    · obtain ⟨rfl, hfinite⟩ := Number.toBinary64_int_eq_ok hx
      rw [duration_eq_ok (v := .int n) hx nofun nofun, if_pos hfinite]
      rfl
  | str s =>
    rw [duration_str]
    simp only [ofDuration]
    cases isNever s <;> cases readBinary64? s <;> rfl
  | bytes b =>
    rw [duration_bytes]
    simp only [ofDuration]
    cases (Value.numeralOfBytes? b).bind readBinary64? <;> rfl

lemma outcome_toInt (v : Value) : outcome v.toInt = ofWhole v := by
  cases v with
  | null | bool _ | int _ | date _ | moment _ _ | list _ | pair _ _ | set _ | object _ => rfl
  | str s =>
    simp only [Value.toInt, ofWhole]
    cases readInt? s <;> rfl
  | bytes b =>
    simp only [Value.toInt, ofWhole]
    cases (Value.numeralOfBytes? b).bind readInt? <;> rfl
  | float x => cases x <;> rfl

lemma outcome_names (v : Value) : outcome (textAsList v).members = ofNames v := by
  cases v <;> rfl

lemma outcome_distinct (items : List Value) :
    outcome (Value.distinct items) = if items.all Value.isKey then met else broken := by
  rw [Value.distinct_eq]
  generalize ([] : List Value) = seen
  induction items generalizing seen with
  | nil => rfl
  | cons x items ih =>
    have hadd : outcome (Value.addDistinct seen x) = if x.isKey then met else broken := by
      unfold Value.addDistinct
      cases x.isKey with
      | false => rfl
      | true => cases seen.any x.keyEq <;> rfl
    rw [List.foldlM_cons, outcome_bind hadd fun seen' _ => ih seen', List.all_cons]
    cases x.isKey <;> rfl

lemma outcome_statuses (v : Value) :
    outcome ((textAsList v).members >>= Value.distinct) = ofStatuses v := by
  cases v with
  | null | bool _ | int _ | float _ | str _ | date _ | moment _ _ => rfl
  | bytes b =>
    refine (outcome_distinct (b.map fun byte => .int byte.toNat)).trans (if_pos ?_)
    simp [Value.isKey]
  | list items | set items => exact outcome_distinct items
  | pair first second =>
    refine (outcome_distinct [first, second]).trans ?_
    rw [List.all_cons, List.all_cons, List.all_nil, Bool.and_true]
    rfl
  | object fields =>
    refine (outcome_distinct (fields.map (·.1))).trans ?_
    rw [List.all_map]
    rfl

/-! ## What there is to find in raw settings -/

/-- The keys of raw settings that no setting has. -/
def strayKeys (data : Fields) : List Value :=
  (data.map (·.1)).filter fun key =>
    !((Value.lookup? defaults key).isSome || sections.any fun name => key.names name)

/-- A setting that is in force: the one that is given, or else its default. -/
def setting (data : Fields) (name : String) : Value :=
  Value.getD (Value.merge defaults (data.filter fun field =>
    (Value.lookup? defaults field.1).isSome)) name

/-- The fields in force in a section: those that are given, laid over the defaults. -/
def sectionOver (data base : Fields) (name : String) : Fields :=
  match Value.getD data name with
  | .object extra => Value.merge base extra
  | _ => base

/-- What is in force in the section of the statuses. -/
def statusSetting (data : Fields) (name : String) : Value :=
  Value.getD (sectionOver data defaultStatuses "statuses") name

/-- What is in force in the section of the touchpoints. -/
def touchpointSetting (data : Fields) (name : String) : Value :=
  Value.getD (sectionOver data
    (defaultTouchpoints (setting data "human_response_timeout_seconds")) "touchpoints") name

/-- What is in force in the section of the icebox. -/
def iceboxSetting (data : Fields) (name : String) : Value :=
  Value.getD (sectionOver data defaultIcebox "top_of_funnel") name

/-- Keys that no setting has are a reason to refuse the settings, if they are texts. -/
def keyFinding (data : Fields) : Finding :=
  if (strayKeys data).isEmpty then met
  else if (strayKeys data).all fun key => key.str?.isSome then
    refused (.unknownKeys (Text.sorted ((strayKeys data).filterMap Value.str?)))
  else broken

/-- The projects have to be given as a list or a pair. -/
def projectFinding : Value → Finding
  | .list _ | .pair .. => met
  | _ => refused .projectsNotList

/-- What the check of an interval finds. -/
def intervalFinding (data : Fields) (name : String) : Finding :=
  ofBound (·.le (.int 0)) (.notPositive name) (setting data name)

/-- What the checks of the statuses find. -/
def statusFindings (data : Fields) : List Finding := [
  ofSection (Value.getD data "statuses"),
  ofStatuses (statusSetting data "terminal")]

/-- What the checks of the touchpoints find. -/
def touchpointFindings (data : Fields) : List Finding := [
  ofSection (Value.getD data "touchpoints"),
  ofDuration (touchpointSetting data "review_request_timeout_seconds"),
  ofDuration (touchpointSetting data "decomposition_proposal_timeout_seconds"),
  ofDuration (touchpointSetting data "escalation_alert_timeout_seconds")]

/-- What the checks of the icebox find. -/
def iceboxFindings (data : Fields) : List Finding := [
  ofSection (Value.getD data "top_of_funnel"),
  ofBound (·.lt (.int 0)) .negativeLength (iceboxSetting data "min_researched_description_length"),
  ofDuration (iceboxSetting data "icebox_research_delay_seconds"),
  ofWhole (iceboxSetting data "min_researched_description_length"),
  ofNames (iceboxSetting data "researched_headers"),
  ofNames (iceboxSetting data "research_request_labels")]

/-- What the checks of raw settings find, in the order in which they are made. -/
def findings (data : Fields) : List Finding :=
  [keyFinding data,
    projectFinding (setting data "projects"),
    ofBound (·.lt (.int 1)) .dispatchesBelowOne (setting data "max_concurrent_dispatches"),
    intervalFinding data "scan_interval_seconds",
    intervalFinding data "poll_interval_seconds",
    intervalFinding data "dedup_window_seconds"] ++
  statusFindings data ++ touchpointFindings data ++ iceboxFindings data ++
  [ofWhole (setting data "max_concurrent_dispatches"),
    ofDuration (setting data "human_response_timeout_seconds")]

lemma checkKeys_eq (data : Fields) : checkKeys data =
    if (strayKeys data).isEmpty then .ok ()
    else if ((strayKeys data).filterMap Value.str?).length = (strayKeys data).length then
      .error (.settings (.unknownKeys (Text.sorted ((strayKeys data).filterMap Value.str?))) none)
    else .error (.wrongKind "the name of a setting has to be a text") := rfl

lemma outcome_checkKeys (data : Fields) : outcome (checkKeys data) = keyFinding data := by
  rw [checkKeys_eq, keyFinding]
  split_ifs with hnone hlength htexts htexts
  · rfl
  · rfl
  · exact absurd (List.all_eq_true.2 (List.filterMap_length_eq_length.1 hlength)) htexts
  · exact absurd (List.filterMap_length_eq_length.2 (List.all_eq_true.1 htexts)) hlength
  · rfl

lemma outcome_readProjects (v : Value) : outcome (readProjects v) = projectFinding v := by
  cases v <;> rfl

/-- A section is laid over its defaults, unless it is something else than an object. -/
lemma sectionFields_cases (data base : Fields) (name : String) :
    ofSection (Value.getD data name) = met ∧
        sectionFields data base name = .ok (sectionOver data base name) ∨
      ofSection (Value.getD data name) = broken ∧
        ∃ detail, sectionFields data base name = .error (.wrongKind detail) := by
  unfold sectionFields sectionOver ofSection
  generalize Value.getD data name = given
  cases given with
  | object extra => cases extra <;> exact Or.inl ⟨rfl, rfl⟩
  | null => exact Or.inl ⟨rfl, rfl⟩
  | _ =>
    dsimp only
    generalize Value.truthy _ = counts
    cases counts with
    | false => exact Or.inl ⟨rfl, rfl⟩
    | true => exact Or.inr ⟨rfl, _, rfl⟩

lemma outcome_sectionFields (data base : Fields) (name : String) :
    outcome (sectionFields data base name) = ofSection (Value.getD data name) := by
  rcases sectionFields_cases data base name with ⟨hfound, hfields⟩ | ⟨hfound, detail, herror⟩
  · rw [hfound, hfields]
    rfl
  · rw [hfound, herror]
    rfl

/-- The fields of a section are those in force. -/
lemma eq_of_sectionFields {base fields : Fields} {name : String}
    (h : sectionFields data base name = .ok fields) : fields = sectionOver data base name := by
  rcases sectionFields_cases data base name with ⟨-, hfields⟩ | ⟨-, detail, herror⟩
  · exact Except.ok.inj (h.symm.trans hfields)
  · cases h.symm.trans herror

lemma outcome_buildStatuses (data : Fields) :
    outcome (buildStatuses data) = first (statusFindings data) := by
  refine outcome_bind (outcome_sectionFields data _ _) fun fields hfields => ?_
  obtain rfl := eq_of_sectionFields hfields
  dsimp only
  rw [← bind_assoc]
  exact outcome_bind (outcome_statuses (statusSetting data "terminal")) fun _ _ => rfl

lemma outcome_buildTouchpoints (data : Fields) :
    outcome (buildTouchpoints data (setting data "human_response_timeout_seconds")) =
      first (touchpointFindings data) := by
  refine outcome_bind (outcome_sectionFields data _ _) fun fields hfields => ?_
  obtain rfl := eq_of_sectionFields hfields
  refine outcome_bind (outcome_duration _) fun _ _ => ?_
  refine outcome_bind (outcome_duration _) fun _ _ => ?_
  exact outcome_bind (outcome_duration _) fun _ _ => rfl

lemma outcome_buildIcebox (data : Fields) :
    outcome (buildIcebox data) = first (iceboxFindings data) := by
  refine outcome_bind (outcome_sectionFields data _ _) fun fields hfields => ?_
  obtain rfl := eq_of_sectionFields hfields
  refine outcome_compareNumber rfl ?_
  refine outcome_bind (outcome_duration _) fun _ _ => ?_
  refine outcome_bind (outcome_toInt _) fun _ _ => ?_
  refine outcome_bind (outcome_names _) fun _ _ => ?_
  exact outcome_bind (outcome_names _) fun _ _ => rfl

lemma rawFields_object (data : Fields) : rawFields (.object data) = .ok data := by
  cases data <;> rfl

/-- The first check that finds anything decides how the building of settings ends. -/
lemma outcome_build (data : Fields) : outcome (build (.object data)) = first (findings data) := by
  rw [build, rawFields_object, ok_bind]
  unfold findings
  rw [first_append, first_append, first_append, first_append, ← outcome_buildStatuses,
    ← outcome_buildTouchpoints, ← outcome_buildIcebox]
  simp only [first, List.foldr_cons, List.foldr_nil, andThen_met, andThen_assoc]
  -- From here on each check that has been passed is dropped from the list.
  refine outcome_bind (outcome_checkKeys data) fun _ _ => ?_
  refine outcome_bind (outcome_readProjects _) fun _ _ => ?_
  refine outcome_compareNumber rfl ?_
  refine outcome_bind (outcome_checkPositive _ _) fun _ _ => ?_
  refine outcome_bind (outcome_checkPositive _ _) fun _ _ => ?_
  refine outcome_bind (outcome_checkPositive _ _) fun _ _ => ?_
  refine outcome_bind rfl fun _ _ => ?_
  refine outcome_bind rfl fun _ _ => ?_
  refine outcome_bind rfl fun _ _ => ?_
  refine outcome_bind (outcome_toInt _) fun _ _ => ?_
  exact (outcome_bind (g := met) (outcome_duration _) fun _ _ => rfl).trans (andThen_met _)

example : first (findings [(.str "poll_interval_seconds", .int (-5)), (.str "statuses", .int 1)]) =
    refused (.notPositive "poll_interval_seconds") := by
  decide +kernel

end Settings

end IssueDispatch
