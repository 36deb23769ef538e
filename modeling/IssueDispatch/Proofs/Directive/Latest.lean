import IssueDispatch.Directive
import IssueDispatch.Proofs.Number.Rounding
import Mathlib.Data.List.Induction
import Mathlib.Data.List.Pairwise

/-!
# The latest directive

Comments come in any order, and many of them give no directive.  `Directive.latest?` goes through
them once and keeps the directive in force so far.  What it is left with can be said without going
through them: the directive of a comment that none is later than, and if there are several such
comments, of the one that is listed first (`Directive.IsLatest`).

This is shown by adding one comment at the end of a list at a time.  As long as no two directives
have been given at the same time, the order of the comments does not matter.
-/

namespace IssueDispatch

namespace Directive

variable {comments comments' : List Comment} {c c' : Comment} {d d' : Directive}

/-- A comment gives a directive. -/
def Bears (c : Comment) : Prop := ∃ d, ofComment? c = some d

/-- A directive is given by a comment than which no comment with a directive is later, and those
with a directive that are listed before it are earlier. -/
def IsLatest (comments : List Comment) (d : Directive) : Prop :=
  ∃ before c after, comments = before ++ c :: after ∧ ofComment? c = some d ∧
    (∀ c' ∈ comments, Bears c' → c'.createdAt ≤ c.createdAt) ∧
    ∀ c' ∈ before, Bears c' → c'.createdAt < c.createdAt

lemma ofComment?_of_isBot (h : c.isBot = true) : ofComment? c = none := if_pos h

lemma not_bears_of_eq_none (h : ofComment? c = none) : ¬ Bears c := by
  rintro ⟨d, hd⟩
  cases h.symm.trans hd

/-- A directive carries the time of its comment. -/
lemma timestamp_of_ofComment? (h : ofComment? c = some d) : d.timestamp = c.createdAt := by
  unfold ofComment? at h
  split at h
  · cases h
  · split at h
    · cases h
    · obtain ⟨order, -, rfl⟩ := Option.map_eq_some_iff.1 h
      rfl

/-! ## One more comment -/

/-- More comments are gone through from where the others have led. -/
lemma latest?_append (comments comments' : List Comment) :
    latest? (comments ++ comments') =
      comments'.foldl (fun latest? c => later latest? (ofComment? c)) (latest? comments) :=
  List.foldl_append

/-- One more comment gives way to the directive in force so far, unless it is later. -/
lemma latest?_append_singleton (comments : List Comment) (c : Comment) :
    latest? (comments ++ [c]) = later (latest? comments) (ofComment? c) :=
  latest?_append comments [c]

/-- The directive in force stays so if the next comment gives none that is later. -/
lemma IsLatest.append_of_le (h : IsLatest comments d)
    (hc : ∀ d', ofComment? c = some d' → c.createdAt ≤ d.timestamp) :
    IsLatest (comments ++ [c]) d := by
  obtain ⟨before, c₀, after, rfl, hd, hmax, hfirst⟩ := h
  refine ⟨before, c₀, after ++ [c], by simp, hd, ?_, hfirst⟩
  intro c' hc' hbears
  rcases List.mem_append.1 hc' with hold | hnew
  · exact hmax c' hold hbears
  · obtain rfl := List.mem_singleton.1 hnew
    obtain ⟨d', hd'⟩ := hbears
    rw [← timestamp_of_ofComment? hd]
    exact hc d' hd'

/-- A directive that is later than all before it comes into force. -/
lemma isLatest_append_of_lt (hd : ofComment? c = some d) (hself : c.createdAt ≤ c.createdAt)
    (hold : ∀ c' ∈ comments, Bears c' → c'.createdAt < c.createdAt) :
    IsLatest (comments ++ [c]) d := by
  refine ⟨comments, c, [], rfl, hd, ?_, hold⟩
  intro c' hc' hbears
  rcases List.mem_append.1 hc' with hc' | hc'
  · exact Binary64.le_of_lt (hold c' hc' hbears)
  · obtain rfl := List.mem_singleton.1 hc'
    exact hself

/-- What has been found among comments: nothing if none of them gives a directive, and otherwise the
latest one. -/
lemma latest?_cases (htimes : ∀ c ∈ comments, c.createdAt.isNaN = false) :
    (latest? comments = none ∧ ∀ c ∈ comments, ofComment? c = none) ∨
      ∃ d, latest? comments = some d ∧ IsLatest comments d := by
  induction comments using List.reverseRecOn with
  | nil => exact Or.inl ⟨rfl, nofun⟩
  | append_singleton comments c ih =>
    obtain ⟨hbefore, hc⟩ := List.forall_mem_append.1 htimes
    obtain ⟨i, hi⟩ := Binary64.exists_key_of_isNaN (hc c (List.mem_singleton.2 rfl))
    have hself : c.createdAt ≤ c.createdAt := (Binary64.le_iff_of_key hi hi).2 (Int.le_refl i)
    rw [latest?_append_singleton]
    rcases hnext : ofComment? c with - | next
    · rcases ih hbefore with ⟨hlatest, hnone⟩ | ⟨d, hlatest, hd⟩
      · rw [hlatest]
        refine Or.inl ⟨rfl, List.forall_mem_append.2 ⟨hnone, ?_⟩⟩
        simpa using hnext
      · rw [hlatest]
        refine Or.inr ⟨d, rfl, hd.append_of_le fun d' hd' => ?_⟩
        cases hnext.symm.trans hd'
    · rcases ih hbefore with ⟨hlatest, hnone⟩ | ⟨d, hlatest, hd⟩
      · rw [hlatest]
        refine Or.inr ⟨next, rfl, isLatest_append_of_lt hnext hself fun c' hc' hbears => ?_⟩
        exact absurd hbears (not_bears_of_eq_none (hnone c' hc'))
      · have hd' := hd
        obtain ⟨before, c₀, after, rfl, hc₀, hmax, -⟩ := hd'
        obtain ⟨j, hj⟩ := Binary64.exists_key_of_isNaN (hbefore c₀ (by simp))
        rw [hlatest, later, timestamp_of_ofComment? hc₀, timestamp_of_ofComment? hnext]
        by_cases hlt : c₀.createdAt < c.createdAt
        · rw [if_pos hlt]
          refine Or.inr ⟨next, rfl, isLatest_append_of_lt hnext hself fun c' hc' hbears => ?_⟩
          obtain ⟨x, y, hx, hy, hxy⟩ := Binary64.le_iff.1 (hmax c' hc' hbears)
          rw [Binary64.lt_iff_of_key hy hi] at hlt
          exact (Binary64.lt_iff_of_key hx hi).2 (Int.lt_of_le_of_lt hxy hlt)
        · rw [if_neg hlt]
          refine Or.inr ⟨d, rfl, hd.append_of_le fun _ _ => ?_⟩
          rw [timestamp_of_ofComment? hc₀, Binary64.le_iff_of_key hi hj]
          rw [Binary64.lt_iff_of_key hj hi] at hlt
          exact Int.not_lt.1 hlt

/-- A comment with a directive is not listed before one that has the latest directive, unless it is
earlier than that one. -/
lemma not_mem_of_not_lt {before : List Comment}
    (hfirst : ∀ c' ∈ before, Bears c' → c'.createdAt < c.createdAt) (hbears : Bears c')
    (hle : c.createdAt ≤ c'.createdAt) : c' ∉ before := by
  intro hc'
  obtain ⟨i, j, hi, hj, hij⟩ := Binary64.lt_iff.1 (hfirst c' hc' hbears)
  rw [Binary64.le_iff_of_key hj hi] at hle
  omega

/-- There is one latest directive at most. -/
lemma IsLatest.unique (h : IsLatest comments d) (h' : IsLatest comments d') : d = d' := by
  obtain ⟨before, c, after, rfl, hd, hmax, hfirst⟩ := h
  obtain ⟨before', c', after', hsplit, hd', hmax', hfirst'⟩ := h'
  have hc : c.createdAt ≤ c'.createdAt := hmax' c (by simp) ⟨d, hd⟩
  have hc' : c'.createdAt ≤ c.createdAt := hmax c' (hsplit ▸ by simp) ⟨d', hd'⟩
  have hsame (hcc' : c = c') : d = d' := Option.some.inj (hd.symm.trans (hcc' ▸ hd'))
  rcases List.append_eq_append_iff.1 hsplit with ⟨between, hlist, hrest⟩ | ⟨between, hlist, hrest⟩
  · cases between with
    | nil => exact hsame (List.cons.inj hrest).1
    | cons a between =>
      refine absurd ?_ (not_mem_of_not_lt hfirst' ⟨d, hd⟩ hc')
      rw [hlist, (List.cons.inj hrest).1]
      simp
  · cases between with
    | nil => exact hsame (List.cons.inj hrest).1.symm
    | cons a between =>
      refine absurd ?_ (not_mem_of_not_lt hfirst ⟨d', hd'⟩ hc)
      rw [hlist, (List.cons.inj hrest).1]
      simp

/-! ## The order of the comments -/

lemma eqv_comm (a b : Binary64) : a.eqv b = b.eqv a := by
  unfold Binary64.eqv
  cases a.key? <;> cases b.key? <;> simp [eq_comm]

/-- Two comments do not both give a directive at one time. -/
def AreApart (c c' : Comment) : Prop :=
  Bears c → Bears c' → c.createdAt.eqv c'.createdAt = false

instance : Std.Symm AreApart where
  symm a b hab hb ha := by
    rw [eqv_comm]
    exact hab ha hb

/-- Whatever is neither earlier nor later is at the same time. -/
lemma eqv_of_le_of_le {a b : Binary64} (hab : a ≤ b) (hba : b ≤ a) : a.eqv b = true := by
  obtain ⟨i, j, hi, hj, hij⟩ := Binary64.le_iff.1 hab
  rw [Binary64.le_iff_of_key hj hi] at hba
  rw [Binary64.eqv, hi, hj]
  exact decide_eq_true (Int.le_antisymm hij hba)

/-- Where no two directives have been given at the same time, comments with directives at the same
time are one comment. -/
lemma eq_of_pairwise_areApart (h : comments.Pairwise AreApart) (hc : c ∈ comments)
    (hc' : c' ∈ comments) (hbears : Bears c) (hbears' : Bears c')
    (hle : c.createdAt ≤ c'.createdAt) (hle' : c'.createdAt ≤ c.createdAt) : c = c' := by
  by_contra hne
  have hapart := h.forall hc hc' hne hbears hbears'
  cases hapart.symm.trans (eqv_of_le_of_le hle hle')

/-- The latest directive does not depend on the order of the comments. -/
lemma latest?_of_perm (htimes : ∀ c ∈ comments, c.createdAt.isNaN = false)
    (hapart : comments.Pairwise AreApart) (hperm : comments'.Perm comments) :
    latest? comments' = latest? comments := by
  have htimes' : ∀ c ∈ comments', c.createdAt.isNaN = false := fun c hc =>
    htimes c (hperm.mem_iff.1 hc)
  rcases latest?_cases htimes with ⟨hlatest, hnone⟩ | ⟨d, hlatest, before, c, after, hsplit, hd,
    hmax, -⟩
  · rcases latest?_cases htimes' with ⟨hlatest', -⟩ | ⟨d', -, before', c', after', hsplit', hd', -⟩
    · rw [hlatest, hlatest']
    · cases (hnone c' (hperm.mem_iff.1 (by simp [hsplit']))).symm.trans hd'
  · have hc : c ∈ comments := by simp [hsplit]
    rcases latest?_cases htimes' with ⟨-, hnone'⟩ | ⟨d', hlatest', before', c', after', hsplit',
      hd', hmax', -⟩
    · cases (hnone' c (hperm.mem_iff.2 hc)).symm.trans hd
    · have hc' : c' ∈ comments := hperm.mem_iff.1 (by simp [hsplit'])
      obtain rfl := eq_of_pairwise_areApart hapart hc hc' ⟨d, hd⟩ ⟨d', hd'⟩
        (hmax' c (hperm.mem_iff.2 hc) ⟨d, hd⟩) (hmax c' hc' ⟨d', hd'⟩)
      rw [hlatest, hlatest', ← hd, ← hd']

/-- Comments without a directive are passed over. -/
lemma latest?_of_insert (before : List Comment) {extra : List Comment} (after : List Comment)
    (hextra : ∀ c ∈ extra, ofComment? c = none) :
    latest? (before ++ extra ++ after) = latest? (before ++ after) := by
  have hpass : latest? (before ++ extra) = latest? before := by
    induction extra using List.reverseRecOn with
    | nil => rw [List.append_nil]
    | append_singleton extra c ih =>
      obtain ⟨hextra, hc⟩ := List.forall_mem_append.1 hextra
      rw [← List.append_assoc, latest?_append_singleton, ih hextra,
        hc c (List.mem_singleton.2 rfl)]
      cases latest? before <;> rfl
  rw [latest?_append, hpass, ← latest?_append]

/-- **The directive in force is the latest one, in whatever order the comments come.**  Nothing is
found exactly if no comment gives a directive, and otherwise what is found is the latest directive,
the one listed first if there are several.  Comments that give no directive may be put in
anywhere. -/
theorem latest?_isLatest (comments : List Comment)
    (htimes : ∀ c ∈ comments, c.createdAt.isNaN = false) :
    (latest? comments = none ↔ ∀ c ∈ comments, ofComment? c = none) ∧
      (∀ d, latest? comments = some d ↔ IsLatest comments d) ∧
      (comments.Pairwise AreApart → ∀ comments' : List Comment, comments'.Perm comments →
        latest? comments' = latest? comments) ∧
      ∀ before extra after, comments = before ++ after →
        (∀ c ∈ extra, c.isBot = true ∨ ofComment? c = none) →
        latest? (before ++ extra ++ after) = latest? comments := by
  refine ⟨?_, fun d => ?_, fun hapart comments' => latest?_of_perm htimes hapart, ?_⟩
  · constructor
    · intro hlatest
      rcases latest?_cases htimes with ⟨-, hnone⟩ | ⟨d, hsome, -⟩
      · exact hnone
      · cases hlatest.symm.trans hsome
    · intro hnone
      rcases latest?_cases htimes with ⟨hlatest, -⟩ | ⟨d, -, before, c, after, rfl, hd, -⟩
      · exact hlatest
      · cases (hnone c (by simp)).symm.trans hd
  · rcases latest?_cases htimes with ⟨hlatest, hnone⟩ | ⟨d', hlatest, hd'⟩
    · rw [hlatest]
      refine ⟨nofun, ?_⟩
      rintro ⟨before, c, after, rfl, hd, -⟩
      cases (hnone c (by simp)).symm.trans hd
    · rw [hlatest]
      constructor
      · rintro heq
        exact Option.some.inj heq ▸ hd'
      · exact fun hd => congrArg some (hd'.unique hd)
  · rintro before extra after rfl hextra
    refine latest?_of_insert before after fun c hc => ?_
    exact (hextra c hc).elim ofComment?_of_isBot id

/-- Comments on one issue, two of them with directives given at the same time. -/
def conversation : List Comment := [
  { id := "c3", body := some "RESUME", createdAt := 300 },
  { id := "c1", body := some "HOLD", createdAt := 100 },
  { id := "c4", body := some "just chatting", createdAt := 400 },
  { id := "c2", body := some "PRIORITY: low", createdAt := 300 },
  { id := "c5", body := some "HOLD", isBot := true, createdAt := 500 }]

/-- Of the two latest directives the one that is listed first is in force. -/
theorem latest?_isLatest_conversation :
    (∀ c ∈ conversation, c.createdAt.isNaN = false) ∧
      IsLatest conversation { kind := .resume, commentId := some "c3", timestamp := 300 } := by
  have htimes : ∀ c ∈ conversation, c.createdAt.isNaN = false := by decide +kernel
  exact ⟨htimes, ((latest?_isLatest conversation htimes).2.1 _).1 (by decide +kernel)⟩

end Directive

end IssueDispatch
