import IssueDispatch.Proofs.Number.Rounding
import IssueDispatch.Proofs.Settings.Findings

/-!
# Checked settings

Raw settings are meant to be refused with a reason that names the setting at fault, or else to give
sound settings (`Settings.IsChecked`).  They do neither if a check breaks on a value before anything
has been refused, or if a time that is NaN passes all checks.  `Settings.isChecked_iff` says that
there is no third way.

A bound is compared as it is given and stored without its fraction, so that it has to be shown that
the fraction does not matter (`Settings.le_of_toInt`); NaN is neither below a bound nor above it.
-/

namespace IssueDispatch

namespace Number

/-- Zero and one stand at their units. -/
lemma key?_int {b : Int} (hb : 0 ≤ b) (hb' : b ≤ 1) :
    (Number.int b).key? = some (b * (Binary64.unitsPerOne : Int)) := by
  have hlimit : Binary64.unitsPerOne < Binary64.limit := by decide +kernel
  have hunits : 0 < Binary64.unitsPerOne := Binary64.unitsPerOne_pos
  unfold Number.key?
  generalize Binary64.unitsPerOne = units at hlimit hunits ⊢
  generalize Binary64.limit = limit at hlimit ⊢
  obtain rfl | rfl : b = 0 ∨ b = 1 := by omega
  all_goals
    dsimp only
    rw [if_neg (by omega), if_neg (by omega)]

/-- A decimal number is compared by its units. -/
lemma float_lt_int_iff {x : Binary64} {k b : Int} (hx : x.key? = some k) (hb : 0 ≤ b)
    (hb' : b ≤ 1) :
    (Number.float x).lt (.int b) = true ↔ k < b * Binary64.unitsPerOne := by
  have hkey : (Number.float x).key? = some k := hx
  simp only [Number.lt, hkey, key?_int hb hb', decide_eq_true_eq]

lemma float_le_zero_iff {x : Binary64} {k : Int} (hx : x.key? = some k) :
    (Number.float x).le (.int 0) = true ↔ k ≤ 0 := by
  have hkey : (Number.float x).key? = some k := hx
  simp only [Number.le, hkey, key?_int (Int.le_refl 0) Int.one_nonneg, Int.zero_mul,
    decide_eq_true_eq]

lemma zero_lt_float_iff {x : Binary64} {k : Int} (hx : x.key? = some k) :
    (Number.int 0).lt (.float x) = true ↔ 0 < k := by
  have hkey : (Number.float x).key? = some k := hx
  simp only [Number.lt, hkey, key?_int (Int.le_refl 0) Int.one_nonneg, Int.zero_mul,
    decide_eq_true_eq]

end Number

namespace Settings

open Finding

variable {data : Fields} {v : Value} {s : Settings}

/-- A value is a number above zero. -/
def IsPositive (v : Value) : Prop := ∃ n, v.number? = some n ∧ Number.lt (.int 0) n = true

/-- A value is NaN, or a text or bytes that read as NaN. -/
def IsNaN : Value → Prop
  | .float x => x.isNaN = true
  | .str s => isNever s = false ∧ ∃ x, readBinary64? s = some x ∧ x.isNaN = true
  | .bytes b => ∃ x, (Value.numeralOfBytes? b).bind readBinary64? = some x ∧ x.isNaN = true
  | _ => False

/-- Settings that can be worked with: bounds and intervals are positive, no length is negative, and
each time is a number or infinite. -/
structure IsSound (s : Settings) : Prop where
  cap : 1 ≤ s.maxConcurrentDispatches
  scanInterval : IsPositive s.scanInterval
  pollInterval : IsPositive s.pollInterval
  dedupWindow : IsPositive s.dedupWindow
  minDescriptionLength : 0 ≤ s.icebox.minDescriptionLength
  reviewRequest : s.touchpoints.reviewRequest.isNaN = false
  decompositionProposal : s.touchpoints.decompositionProposal.isNaN = false
  escalationAlert : s.touchpoints.escalationAlert.isNaN = false
  researchDelay : s.icebox.researchDelay.isNaN = false

/-- Raw settings are refused for a reason that names a setting, or else give sound settings. -/
def IsChecked (raw : Value) : Prop :=
  (∃ cause path, build raw = .error (.settings cause path)) ∨ ∃ s, build raw = .ok s ∧ s.IsSound

/-- The times in raw settings that have to be numbers. -/
def times (data : Fields) : List Value := [
  setting data "scan_interval_seconds",
  setting data "poll_interval_seconds",
  setting data "dedup_window_seconds",
  touchpointSetting data "review_request_timeout_seconds",
  touchpointSetting data "decomposition_proposal_timeout_seconds",
  touchpointSetting data "escalation_alert_timeout_seconds",
  iceboxSetting data "icebox_research_delay_seconds"]

/-- The checked members of settings are what is in force in raw settings, as it is read. -/
structure TakesOver (s : Settings) (data : Fields) : Prop where
  cap : (setting data "max_concurrent_dispatches").toInt = .ok s.maxConcurrentDispatches
  scanInterval : s.scanInterval = setting data "scan_interval_seconds"
  pollInterval : s.pollInterval = setting data "poll_interval_seconds"
  dedupWindow : s.dedupWindow = setting data "dedup_window_seconds"
  minDescriptionLength : (iceboxSetting data "min_researched_description_length").toInt =
    .ok s.icebox.minDescriptionLength
  reviewRequest : duration (touchpointSetting data "review_request_timeout_seconds") =
    .ok s.touchpoints.reviewRequest
  decompositionProposal :
    duration (touchpointSetting data "decomposition_proposal_timeout_seconds") =
      .ok s.touchpoints.decompositionProposal
  escalationAlert : duration (touchpointSetting data "escalation_alert_timeout_seconds") =
    .ok s.touchpoints.escalationAlert
  researchDelay : duration (iceboxSetting data "icebox_research_delay_seconds") =
    .ok s.icebox.researchDelay

lemma exists_of_buildTouchpoints {human : Value} {t : TouchpointSettings}
    (h : buildTouchpoints data human = .ok t) :
    ∃ fields, fields = sectionOver data (defaultTouchpoints human) "touchpoints" ∧
      duration (Value.getD fields "review_request_timeout_seconds") = .ok t.reviewRequest ∧
      duration (Value.getD fields "decomposition_proposal_timeout_seconds") =
        .ok t.decompositionProposal ∧
      duration (Value.getD fields "escalation_alert_timeout_seconds") = .ok t.escalationAlert := by
  obtain ⟨fields, hfields, h⟩ := bind_eq_ok_iff.1 h
  obtain ⟨reviewRequest, hreview, h⟩ := bind_eq_ok_iff.1 h
  obtain ⟨decompositionProposal, hproposal, h⟩ := bind_eq_ok_iff.1 h
  obtain ⟨escalationAlert, halert, h⟩ := bind_eq_ok_iff.1 h
  cases h
  exact ⟨fields, eq_of_sectionFields hfields, hreview, hproposal, halert⟩

lemma exists_of_buildIcebox {t : IceboxSettings} (h : buildIcebox data = .ok t) :
    ∃ fields, fields = sectionOver data defaultIcebox "top_of_funnel" ∧
      duration (Value.getD fields "icebox_research_delay_seconds") = .ok t.researchDelay ∧
      (Value.getD fields "min_researched_description_length").toInt =
        .ok t.minDescriptionLength := by
  obtain ⟨fields, hfields, h⟩ := bind_eq_ok_iff.1 h
  obtain ⟨negative, -, h⟩ := bind_eq_ok_iff.1 h
  cases negative with
  | true => cases h
  | false =>
    obtain ⟨delay, hdelay, h⟩ := bind_eq_ok_iff.1 h
    obtain ⟨minLength, hlength, h⟩ := bind_eq_ok_iff.1 h
    obtain ⟨headers, -, h⟩ := bind_eq_ok_iff.1 h
    obtain ⟨labels, -, h⟩ := bind_eq_ok_iff.1 h
    cases h
    exact ⟨fields, eq_of_sectionFields hfields, hdelay, hlength⟩

/-- Settings that are built are filled with what is in force. -/
lemma takesOver_of_build (h : build (.object data) = .ok s) : s.TakesOver data := by
  rw [build, rawFields_object, ok_bind] at h
  obtain ⟨_, -, h⟩ := bind_eq_ok_iff.1 h
  obtain ⟨projects, -, h⟩ := bind_eq_ok_iff.1 h
  obtain ⟨below, -, h⟩ := bind_eq_ok_iff.1 h
  cases below with
  | true => cases h
  | false =>
    obtain ⟨_, -, h⟩ := bind_eq_ok_iff.1 h
    obtain ⟨_, -, h⟩ := bind_eq_ok_iff.1 h
    obtain ⟨_, -, h⟩ := bind_eq_ok_iff.1 h
    obtain ⟨statuses, -, h⟩ := bind_eq_ok_iff.1 h
    obtain ⟨touchpoints, htouchpoints, h⟩ := bind_eq_ok_iff.1 h
    obtain ⟨icebox, hicebox, h⟩ := bind_eq_ok_iff.1 h
    obtain ⟨cap, hcap, h⟩ := bind_eq_ok_iff.1 h
    obtain ⟨humanResponse, -, h⟩ := bind_eq_ok_iff.1 h
    obtain ⟨_, rfl, hreview, hproposal, halert⟩ := exists_of_buildTouchpoints htouchpoints
    obtain ⟨_, rfl, hdelay, hlength⟩ := exists_of_buildIcebox hicebox
    cases h
    exact ⟨hcap, rfl, rfl, rfl, hlength, hreview, hproposal, halert, hdelay⟩

/-! ### Numbers that have passed a check -/

/-- A number that is not below zero or one is not so without its fraction either. -/
lemma le_of_toInt {n : Number} {b m : Int} (hb : 0 ≤ b) (hb' : b ≤ 1) (hn : v.number? = some n)
    (hlt : n.lt (.int b) = false) (hm : v.toInt = .ok m) : b ≤ m := by
  have hunits : (0 : Int) < Binary64.unitsPerOne := Int.natCast_pos.2 Binary64.unitsPerOne_pos
  have htrunc {x : Binary64} {u : Int} (hkey : x.key? = some u)
      (hlt : (Number.float x).lt (.int b) = false) : b ≤ u.tdiv Binary64.unitsPerOne := by
    rw [← Bool.not_eq_true, Number.float_lt_int_iff hkey hb hb', Int.not_lt] at hlt
    have hnonneg : 0 ≤ u := Int.le_trans (Int.mul_nonneg hb (Int.le_of_lt hunits)) hlt
    rw [Int.tdiv_eq_ediv_of_nonneg hnonneg]
    exact Int.le_ediv_of_mul_le hunits hlt
  cases v with
  | bool c =>
    cases hn
    cases hm
    simpa [Number.lt] using hlt
  | int k =>
    cases hn
    cases hm
    simpa [Number.lt] using hlt
  | float x =>
    cases hn
    cases x with
    | nan | infinity negative => cases hm
    | negZero =>
      cases hm
      exact htrunc rfl hlt
    | finite u fits =>
      cases hm
      exact htrunc rfl hlt
  | _ => cases hn

/-- A number that is not zero or below is above zero unless it is NaN. -/
lemma isPositive_iff {n : Number} (hn : v.number? = some n) (hle : n.le (.int 0) = false) :
    IsPositive v ↔ ¬ IsNaN v := by
  have hpositive : IsPositive v ↔ Number.lt (.int 0) n = true := by
    constructor
    · rintro ⟨n', hn', h⟩
      cases hn.symm.trans hn'
      exact h
    · exact fun h => ⟨n, hn, h⟩
  rw [hpositive]
  cases v with
  | bool c =>
    cases hn
    exact iff_of_true (by simpa [Number.le, Number.lt] using hle) not_false
  | int k =>
    cases hn
    exact iff_of_true (by simpa [Number.le, Number.lt] using hle) not_false
  | float x =>
    cases hn
    cases hnan : x.isNaN with
    | true =>
      -- NaN is not zero or below, and yet not above zero.
      cases x <;> cases hnan
      exact iff_of_false Bool.false_ne_true (not_not.2 rfl)
    | false =>
      obtain ⟨k, hkey⟩ := Binary64.exists_key_of_isNaN hnan
      rw [← Bool.not_eq_true, Number.float_le_zero_iff hkey, Int.not_le] at hle
      exact iff_of_true ((Number.zero_lt_float_iff hkey).2 hle) (by simp [IsNaN, hnan])
  | _ => cases hn

/-- A time is NaN if it is read from NaN or from a text for it. -/
lemma isNaN_duration_iff {x : Binary64} (h : duration v = .ok x) :
    x.isNaN = false ↔ ¬ IsNaN v := by
  cases v with
  | null =>
    cases h
    exact iff_of_true rfl not_false
  | float y =>
    cases h
    simp [IsNaN]
  | bool c =>
    obtain ⟨y, hy⟩ := Value.exists_toBinary64_bool c
    cases (duration_eq_ok hy nofun nofun).symm.trans h
    exact iff_of_true (Binary64.isNaN_of_isFinite (Number.toBinary64_int_eq_ok hy).2) not_false
  | int n =>
    rcases Value.toBinary64_int_cases n with ⟨-, detail, herror⟩ | ⟨-, y, hy⟩
    · cases (duration_eq_error (v := .int n) herror).symm.trans h
    · cases (duration_eq_ok (v := .int n) hy nofun nofun).symm.trans h
      exact iff_of_true (Binary64.isNaN_of_isFinite (Number.toBinary64_int_eq_ok hy).2) not_false
  | str s =>
    rw [duration_str] at h
    cases hnever : isNever s with
    | true =>
      rw [hnever] at h
      cases h
      exact iff_of_true rfl (by simp [IsNaN, hnever])
    | false =>
      rw [hnever] at h
      cases hread : readBinary64? s with
      | none => simp [hread] at h
      | some y =>
        simp only [hread, Bool.false_eq_true, if_false, Except.ok.injEq] at h
        subst h
        simp [IsNaN, hnever, hread]
  | bytes b =>
    rw [duration_bytes] at h
    cases hread : (Value.numeralOfBytes? b).bind readBinary64? with
    | none => simp [hread] at h
    | some y =>
      simp only [hread, Except.ok.injEq] at h
      subst h
      simp [IsNaN, hread]
  | _ => cases h

/-! ## Main result -/

/-- A value that passes the check of a bound is a number with nothing wrong with it. -/
lemma exists_of_ofBound {wrong : Number → Bool} {cause : SettingsError}
    (h : ofBound wrong cause v = met) : ∃ n, v.number? = some n ∧ wrong n = false := by
  unfold ofBound at h
  cases hn : v.number? with
  | none =>
    rw [hn] at h
    cases h
  | some n =>
    refine ⟨n, rfl, ?_⟩
    rw [hn] at h
    cases hwrong : wrong n with
    | false => rfl
    | true => simp [hwrong] at h

/-- Settings that are built are sound if no time in them is NaN. -/
lemma isSound_iff (h : build (.object data) = .ok s) :
    s.IsSound ↔ ∀ v ∈ times data, ¬ IsNaN v := by
  have hmet : ∀ f ∈ findings data, f = met := by
    rw [← first_eq_met_iff, ← outcome_build, outcome_eq_met_iff]
    exact ⟨s, h⟩
  have hnew := takesOver_of_build h
  have hcap : 1 ≤ s.maxConcurrentDispatches := by
    obtain ⟨n, hn, hlt⟩ := exists_of_ofBound (hmet (ofBound (·.lt (.int 1)) .dispatchesBelowOne
      (setting data "max_concurrent_dispatches")) (by simp [findings]))
    exact le_of_toInt Int.one_nonneg (Int.le_refl 1) hn hlt hnew.cap
  have hlength : 0 ≤ s.icebox.minDescriptionLength := by
    obtain ⟨n, hn, hlt⟩ := exists_of_ofBound (hmet (ofBound (·.lt (.int 0)) .negativeLength
      (iceboxSetting data "min_researched_description_length"))
      (by simp [findings, iceboxFindings]))
    exact le_of_toInt (Int.le_refl 0) Int.one_nonneg hn hlt hnew.minDescriptionLength
  have hinterval (name : String) (hmem : intervalFinding data name ∈ findings data) :
      IsPositive (setting data name) ↔ ¬ IsNaN (setting data name) := by
    obtain ⟨n, hn, hle⟩ := exists_of_ofBound (hmet _ hmem)
    exact isPositive_iff hn hle
  have hscan := hinterval "scan_interval_seconds" (by simp [findings])
  have hpoll := hinterval "poll_interval_seconds" (by simp [findings])
  have hdedup := hinterval "dedup_window_seconds" (by simp [findings])
  rw [← hnew.scanInterval] at hscan
  rw [← hnew.pollInterval] at hpoll
  rw [← hnew.dedupWindow] at hdedup
  simp only [times, List.forall_mem_cons, List.not_mem_nil, false_implies, implies_true, and_true,
    ← hnew.scanInterval, ← hnew.pollInterval, ← hnew.dedupWindow, ← hscan, ← hpoll, ← hdedup,
    ← isNaN_duration_iff hnew.reviewRequest, ← isNaN_duration_iff hnew.decompositionProposal,
    ← isNaN_duration_iff hnew.escalationAlert, ← isNaN_duration_iff hnew.researchDelay]
  constructor
  · intro hsound
    exact ⟨hsound.scanInterval, hsound.pollInterval, hsound.dedupWindow, hsound.reviewRequest,
      hsound.decompositionProposal, hsound.escalationAlert, hsound.researchDelay⟩
  · rintro ⟨hscan, hpoll, hdedup, hreview, hproposal, halert, hdelay⟩
    exact ⟨hcap, hscan, hpoll, hdedup, hlength, hreview, hproposal, halert, hdelay⟩

lemma not_isChecked_of_broken (h : first (findings data) = broken) :
    ¬ IsChecked (.object data) := by
  rw [← outcome_build] at h
  rintro (⟨cause, path, hbuild⟩ | ⟨s, hbuild, -⟩)
  all_goals
    rw [hbuild] at h
    cases h

lemma not_isChecked_of_isNaN (h : first (findings data) = met) (hv : v ∈ times data)
    (hnan : IsNaN v) : ¬ IsChecked (.object data) := by
  rw [← outcome_build] at h
  rintro (⟨cause, path, hbuild⟩ | ⟨s, hbuild, hsound⟩)
  · rw [hbuild] at h
    cases h
  · exact (isSound_iff hbuild).1 hsound v hv hnan

/-- **When raw settings are checked.**  Either the first thing that is found is a reason to refuse
them, or nothing is found and no time is NaN. -/
theorem isChecked_iff (data : Fields) :
    IsChecked (.object data) ↔
      (∃ before cause after, findings data = before ++ .refused cause :: after ∧
        ∀ f ∈ before, f = .met) ∨
      (∀ f ∈ findings data, f = .met) ∧ ∀ v ∈ times data, ¬ IsNaN v := by
  have hrefused : (∃ cause path, build (.object data) = .error (.settings cause path)) ↔
      ∃ before cause after, findings data = before ++ .refused cause :: after ∧
        ∀ f ∈ before, f = .met := by
    constructor
    · rintro ⟨cause, path, h⟩
      have hfirst : first (findings data) = refused cause := by
        rw [← outcome_build, outcome_eq_refused_iff]
        exact ⟨path, h⟩
      obtain ⟨before, after, hsplit, hbefore⟩ := first_eq_refused_iff.1 hfirst
      exact ⟨before, cause, after, hsplit, hbefore⟩
    · rintro ⟨before, cause, after, hsplit, hbefore⟩
      have hfirst := first_eq_refused_iff.2 ⟨before, after, hsplit, hbefore⟩
      rw [← outcome_build, outcome_eq_refused_iff] at hfirst
      obtain ⟨path, h⟩ := hfirst
      exact ⟨cause, path, h⟩
  rw [IsChecked, hrefused, ← first_eq_met_iff, ← outcome_build, outcome_eq_met_iff]
  refine or_congr_right ⟨?_, ?_⟩
  · rintro ⟨s, hs, hsound⟩
    exact ⟨⟨s, hs⟩, (isSound_iff hs).1 hsound⟩
  · rintro ⟨⟨s, hs⟩, htimes⟩
    exact ⟨s, hs, (isSound_iff hs).2 htimes⟩

/-- Three times raw settings that are neither refused nor sound: a bound that is given as a text, a
section that is no object, and an interval that is NaN. -/
theorem not_isChecked_misshapen :
    ¬ IsChecked (.object [(.str "max_concurrent_dispatches", .str "3")]) ∧
      ¬ IsChecked (.object [(.str "statuses", .str "Todo")]) ∧
      ¬ IsChecked (.object [(.str "scan_interval_seconds", .float .nan)]) := by
  refine ⟨not_isChecked_of_broken (by decide +kernel), not_isChecked_of_broken (by decide +kernel),
    not_isChecked_of_isNaN (by decide +kernel) (v := .float .nan) List.mem_cons_self rfl⟩

end Settings

end IssueDispatch
