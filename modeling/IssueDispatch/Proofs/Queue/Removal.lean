import IssueDispatch.Proofs.Store.Transactions
import IssueDispatch.Proofs.Text.Lines
import Mathlib.Data.List.Basic
import Mathlib.Data.String.Basic

/-!
# Removal by a part of an identifier

An operator names sessions by a part of their identifiers, and whatever belongs to them is removed
from the tables of work.  The part is read as a pattern, however (`Store.Reads`): a percent sign
stands for any characters, an underscore for any single one, and an ASCII letter for either of its
cases.  An identifier that contains the part is always hit, but others may be hit as well.

`Store.removeMatching_contains_iff` says when the removal is the one that was asked for: exactly if
no identifier in the tables reads like the part without containing it.  A part is safe in every
store exactly if it has neither letters nor wildcards.
-/

namespace IssueDispatch

namespace Text

/-- Dropping the repetitions of a sorted list makes it strictly increasing. -/
lemma pairwise_eraseDups {names : List String} (h : names.Pairwise (· ≤ ·)) :
    names.eraseDups.Pairwise (· < ·) := by
  induction hn : names.length using Nat.strong_induction_on generalizing names with
  | _ n ih =>
    cases names with
    | nil => exact .nil
    | cons a rest =>
      obtain ⟨hfirst, hrest⟩ := List.pairwise_cons.1 h
      have hshorter : (rest.filter fun b => !b == a).length < n := by
        have := List.length_filter_le (fun b => !b == a) rest
        rw [List.length_cons] at hn
        omega
      rw [List.eraseDups_cons, List.pairwise_cons]
      refine ⟨fun b hb => ?_, ih _ hshorter (hrest.filter _) rfl⟩
      obtain ⟨hmem, hne⟩ := List.mem_filter.1 (List.mem_eraseDups.1 hb)
      have hne : b ≠ a := by simpa using hne
      exact lt_of_le_of_ne (hfirst b hmem) hne.symm

lemma pairwise_sortedSet (names : List String) : (sortedSet names).Pairwise (· < ·) := by
  refine pairwise_eraseDups ?_
  have horder (a b : String) : (!decide (b < a)) = true ↔ a ≤ b := by
    rw [Bool.not_eq_true', decide_eq_false_iff_not]
    exact not_lt
  have hsorted : (sorted names).Pairwise fun a b => (!decide (b < a)) = true := by
    refine List.pairwise_mergeSort (fun a b c hab hbc => ?_) (fun a b => ?_) names
    · exact (horder a c).2 (((horder a b).1 hab).trans ((horder b c).1 hbc))
    · rw [Bool.or_eq_true, horder, horder]
      exact le_total a b
  exact hsorted.imp (horder _ _).1

lemma mem_sortedSet {names : List String} {name : String} :
    name ∈ sortedSet names ↔ name ∈ names := by
  rw [sortedSet, List.mem_eraseDups, sorted, List.mem_mergeSort]

lemma contains_iff {text part : String} :
    contains text part = true ↔ part.toList <:+: text.toList :=
  hasInfix_iff

end Text

namespace Store

/-! ## Patterns -/

/-- Characters read like a pattern. -/
inductive Reads : List Char → List Char → Prop
  | nil : Reads [] []
  | many {ps cs : List Char} (skipped : List Char) (rest : Reads ps cs) :
      Reads ('%' :: ps) (skipped ++ cs)
  | one {ps cs : List Char} (c : Char) (rest : Reads ps cs) : Reads ('_' :: ps) (c :: cs)
  | same {ps cs : List Char} {p c : Char} (case : p.toLower = c.toLower) (rest : Reads ps cs) :
      Reads (p :: ps) (c :: cs)

namespace Reads

variable {ps qs cs : List Char}

/-- Every text reads like itself. -/
protected lemma refl (cs : List Char) : Reads cs cs := by
  induction cs with
  | nil => exact .nil
  | cons c cs ih => exact .same rfl ih

lemma append {ds : List Char} (h : Reads ps cs) (h' : Reads qs ds) :
    Reads (ps ++ qs) (cs ++ ds) := by
  induction h with
  | nil => exact h'
  | many skipped _ ih =>
    rw [List.append_assoc]
    exact .many skipped ih
  | one c _ ih => exact .one c ih
  | same case _ ih => exact .same case ih

/-- What a percent sign skips is followed by what reads like the rest. -/
lemma exists_of_many (h : Reads ('%' :: ps) cs) :
    ∃ skipped rest, cs = skipped ++ rest ∧ Reads ps rest := by
  cases h with
  | many skipped rest => exact ⟨skipped, _, rfl, rest⟩
  | same case rest => exact ⟨[_], _, rfl, rest⟩

/-- What reads like two patterns falls into two parts. -/
lemma exists_of_append (h : Reads (ps ++ qs) cs) :
    ∃ ds es, cs = ds ++ es ∧ Reads ps ds ∧ Reads qs es := by
  induction ps generalizing cs with
  | nil => exact ⟨[], cs, rfl, .nil, h⟩
  | cons p ps ih =>
    rw [List.cons_append] at h
    cases h with
    | many skipped rest =>
      obtain ⟨ds, es, rfl, hds, hes⟩ := ih rest
      exact ⟨skipped ++ ds, es, (List.append_assoc _ _ _).symm, .many skipped hds, hes⟩
    | one c rest =>
      obtain ⟨ds, es, rfl, hds, hes⟩ := ih rest
      exact ⟨c :: ds, es, rfl, .one c hds, hes⟩
    | @same _ _ _ c case rest =>
      obtain ⟨ds, es, rfl, hds, hes⟩ := ih rest
      exact ⟨c :: ds, es, rfl, .same case hds, hes⟩

end Reads

/-- A pattern that begins with a percent sign goes on matching when more is put in front. -/
lemma matchesPattern_many {ps cs : List Char} (h : matchesPattern ps cs = true)
    (skipped : List Char) : matchesPattern ('%' :: ps) (skipped ++ cs) = true := by
  induction skipped with
  | nil =>
    cases cs with
    | nil => rwa [List.nil_append, matchesPattern]
    | cons c cs => rw [List.nil_append, matchesPattern, h, Bool.true_or]
  | cons c skipped ih => rw [List.cons_append, matchesPattern, ih, Bool.or_true]

lemma reads_of_matchesPattern {ps cs : List Char} (h : matchesPattern ps cs = true) :
    Reads ps cs := by
  fun_induction matchesPattern ps cs with
  | case1 cs =>
    rw [List.isEmpty_iff] at h
    exact h ▸ .nil
  | case2 ps ih => exact .many [] (ih h)
  | case3 ps c cs ih ih' =>
    rcases Bool.or_eq_true_iff.1 h with h | h
    · exact .many [] (ih h)
    · obtain ⟨skipped, rest, rfl, hrest⟩ := (ih' h).exists_of_many
      exact .many (c :: skipped) hrest
  | case4 ps c cs ih => exact .one c (ih h)
  | case5 p ps c cs _ _ ih =>
    rw [Bool.and_eq_true, beq_iff_eq] at h
    exact .same h.1 (ih h.2)
  | case6 => cases h

/-- A text matches a pattern exactly if it reads like it. -/
lemma matchesPattern_iff {ps cs : List Char} : matchesPattern ps cs = true ↔ Reads ps cs := by
  refine ⟨reads_of_matchesPattern, fun h => ?_⟩
  induction h with
  | nil => rw [matchesPattern, List.isEmpty_nil]
  | many skipped _ ih => exact matchesPattern_many ih skipped
  | one c _ ih => rwa [matchesPattern]
  | @same ps cs p c case _ ih =>
    by_cases hmany : p = '%'
    · exact hmany ▸ matchesPattern_many ih [c]
    · by_cases hone : p = '_'
      · subst hone
        rwa [matchesPattern]
      · rw [matchesPattern, case, ih]
        · simp
        · exact hmany
        · exact hone

/-! ## Parts of identifiers -/

/-- A text without null characters. -/
def IsNullFree (text : String) : Prop := '\x00' ∉ text.toList

instance (text : String) : Decidable (IsNullFree text) := inferInstanceAs (Decidable (_ ∉ _))

/-- A character that a pattern reads as itself and as nothing else. -/
def IsPlain (c : Char) : Prop := c ≠ '%' ∧ c ≠ '_' ∧ c ≠ '\x00' ∧ c.isAlpha = false

lemma visible_eq_self {cs : List Char} (h : '\x00' ∉ cs) : visible cs = cs := by
  rw [visible, List.takeWhile_eq_self_iff]
  rintro c hc
  exact bne_iff_ne.2 fun hnull => h (hnull ▸ hc)

lemma notMem_visible (cs : List Char) : '\x00' ∉ visible cs := fun h => by
  have := List.mem_takeWhile_imp h
  simp at this

lemma length_visible_lt {cs : List Char} (h : '\x00' ∈ cs) :
    (visible cs).length < cs.length := by
  have hbegins : visible cs <+: cs := List.takeWhile_prefix _
  refine lt_of_le_of_ne hbegins.length_le fun heq => notMem_visible cs ?_
  rwa [hbegins.eq_of_length heq]

/-- A null character cuts off what follows it. -/
lemma visible_append {cs : List Char} (h : '\x00' ∈ cs) (ds : List Char) :
    visible (cs ++ ds) = visible cs := by
  have hshorter : ¬ (cs.takeWhile (· != '\x00')).length = cs.length := (length_visible_lt h).ne
  rw [visible, List.takeWhile_append, if_neg hshorter, visible]

/-- A part reads like some piece of every identifier that it hits. -/
lemma matchesPart_iff {part id : String} (hpart : IsNullFree part) (hid : IsNullFree id) :
    matchesPart part id = true ↔ ∃ cs, cs <:+: id.toList ∧ Reads part.toList cs := by
  have hpattern : '\x00' ∉ ['%'] ++ part.toList ++ ['%'] := by
    simpa [IsNullFree] using hpart
  rw [matchesPart, visible_eq_self hpattern, visible_eq_self hid, matchesPattern_iff,
    List.append_assoc, List.singleton_append]
  constructor
  · intro h
    obtain ⟨before, rest, hbefore, hrest⟩ := h.exists_of_many
    obtain ⟨cs, after, rfl, hcs, -⟩ := hrest.exists_of_append
    exact ⟨cs, ⟨before, after, by rw [hbefore, List.append_assoc]⟩, hcs⟩
  · rintro ⟨cs, ⟨before, after, hid⟩, hcs⟩
    rw [← hid, List.append_assoc]
    refine .many before (hcs.append ?_)
    simpa using Reads.many after .nil

/-- What contains a part is hit by it. -/
lemma matchesPart_of_contains {part id : String} (hpart : IsNullFree part) (hid : IsNullFree id)
    (h : Text.contains id part = true) : matchesPart part id = true :=
  (matchesPart_iff hpart hid).2 ⟨part.toList, Text.contains_iff.1 h, .refl _⟩

/-- A list of plain characters reads like itself only. -/
lemma Reads.eq_of_plain {ps cs : List Char} (h : Reads ps cs) (hplain : ∀ p ∈ ps, IsPlain p) :
    cs = ps := by
  induction h with
  | nil => rfl
  | many => exact absurd rfl (hplain '%' (by simp)).1
  | one => exact absurd rfl (hplain '_' (by simp)).2.1
  | @same ps cs p c case _ ih =>
    rw [ih fun q hq => hplain q (List.mem_cons_of_mem p hq)]
    -- A letter reads like letters only, so neither of the two has another case.
    have hp : p.isAlpha = false := (hplain p (by simp)).2.2.2
    have hc : c.isAlpha = false := by
      rw [← Text.isAlpha_toLower, ← case, Text.isAlpha_toLower, hp]
    rw [Text.toLower_of_isAlpha_eq_false hp, Text.toLower_of_isAlpha_eq_false hc] at case
    rw [case]

/-- A character that reads like another one, if there is any besides the character itself. -/
def lookalike (c : Char) : Char :=
  if c = '%' ∨ c = '_' then '-' else if c.isUpper then c.toLower else c.toUpper

lemma lookalike_ne {c : Char} (h : ¬ IsPlain c) (hnull : c ≠ '\x00') : lookalike c ≠ c := by
  unfold lookalike
  split
  · rename_i hwild
    rcases hwild with rfl | rfl <;> decide
  · rename_i hwild
    obtain ⟨hmany, hone⟩ := not_or.1 hwild
    have halpha : c.isAlpha = true := by
      by_contra hno
      exact h ⟨hmany, hone, hnull, Bool.eq_false_iff.2 hno⟩
    rw [Text.isAlpha_iff_toNat] at halpha
    rw [ne_eq, ← Char.toNat_inj]
    split
    · rename_i hupper
      rw [Text.isUpper_iff_toNat] at hupper
      rw [Text.toNat_toLower, if_pos hupper]
      omega
    · rename_i hupper
      rw [Text.isUpper_iff_toNat] at hupper
      rw [Text.toNat_toUpper, if_pos (by omega)]
      omega

lemma lookalike_ne_null {c : Char} (h : c ≠ '\x00') : lookalike c ≠ '\x00' := by
  unfold lookalike
  split
  · decide
  · have null_of_case : c.toLower = '\x00' → c = '\x00' := (Text.toLower_eq_iff (by decide)).1
    split
    · exact fun hnull => h (null_of_case hnull)
    · intro hnull
      refine h (null_of_case ?_)
      rw [← Text.toLower_toUpper, hnull]
      decide

lemma reads_map_lookalike (cs : List Char) : Reads cs (cs.map lookalike) := by
  induction cs with
  | nil => exact .nil
  | cons c cs ih =>
    rw [List.map_cons]
    by_cases hmany : c = '%'
    · subst hmany
      exact .many [lookalike '%'] ih
    by_cases hone : c = '_'
    · subst hone
      exact .one _ ih
    refine .same ?_ ih
    rw [lookalike, if_neg (not_or.2 ⟨hmany, hone⟩)]
    split
    · exact (Text.toLower_toLower c).symm
    · exact (Text.toLower_toUpper c).symm

/-- A part with a character that is not plain hits some identifier that does not contain it. -/
lemma exists_hit_not_contains {part : String} (h : ¬ ∀ c ∈ part.toList, IsPlain c) :
    ∃ id, IsNullFree id ∧ matchesPart part id = true ∧ Text.contains id part = false := by
  by_cases hnull : '\x00' ∈ part.toList
  · -- A null character cuts the pattern off, which then hits what stands before it.
    refine ⟨String.ofList (visible part.toList), ?_, ?_, ?_⟩
    · rw [IsNullFree, String.toList_ofList]
      exact notMem_visible part.toList
    · have hcut : visible (['%'] ++ part.toList ++ ['%']) = '%' :: visible part.toList := by
        rw [visible_append (by simp [hnull])]
        rfl
      rw [matchesPart, hcut, String.toList_ofList, visible_eq_self (notMem_visible _),
        matchesPattern_iff]
      exact .many [] (.refl _)
    · rw [Bool.eq_false_iff, Ne, Text.contains_iff, String.toList_ofList]
      exact fun hinfix => (length_visible_lt hnull).not_ge hinfix.length_le
  · have hid : IsNullFree (String.ofList (part.toList.map lookalike)) := by
      rw [IsNullFree, String.toList_ofList, List.mem_map]
      rintro ⟨c, hc, hnullc⟩
      exact lookalike_ne_null (fun h => hnull (h ▸ hc)) hnullc
    refine ⟨_, hid, (matchesPart_iff hnull hid).2 ⟨_, List.infix_rfl, ?_⟩, ?_⟩
    · rw [String.toList_ofList]
      exact reads_map_lookalike part.toList
    · rw [Bool.eq_false_iff, Ne, Text.contains_iff, String.toList_ofList]
      intro hinfix
      have hsame := hinfix.eq_of_length (List.length_map lookalike).symm
      refine h fun c hc => by_contra fun hplain => ?_
      have hfixed : lookalike c = c :=
        List.map_inj_left.1 (hsame.symm.trans (List.map_id' _).symm) c hc
      exact lookalike_ne hplain (fun h => hnull (h ▸ hc)) hfixed

/-- A part of plain characters hits what contains it and nothing else. -/
lemma matchesPart_eq_contains {part id : String} (hplain : ∀ c ∈ part.toList, IsPlain c)
    (hid : IsNullFree id) : matchesPart part id = Text.contains id part := by
  have hpart : IsNullFree part := fun hnull => (hplain _ hnull).2.2.1 rfl
  refine Bool.eq_iff_iff.2 ⟨fun h => ?_, matchesPart_of_contains hpart hid⟩
  obtain ⟨cs, hcs, hreads⟩ := (matchesPart_iff hpart hid).1 h
  rw [Text.contains_iff, ← hreads.eq_of_plain hplain]
  exact hcs

/-! ## Removing -/

/-- The identifiers of the sessions that have a row in the tables of work. -/
def sessionIds (s : Store) : List String :=
  s.queue.map Work.sessionId ++ s.claims.map Claim.sessionId ++ s.sessions.map Session.sessionId

/-- Exactly the rows of the sessions that are hit have gone from the tables of work, and the
identifiers of these sessions are listed in increasing order. -/
structure Removes (s : Store) (hit : String → Bool) (ids : List String) (s' : Store) : Prop where
  rows : s' = { s with
    queue := s.queue.filter fun w => !hit w.sessionId
    claims := s.claims.filter fun c => !hit c.sessionId
    sessions := s.sessions.filter fun x => !hit x.sessionId }
  increasing : ids.Pairwise (· < ·)
  listed : ∀ id, id ∈ ids ↔ id ∈ s.sessionIds ∧ hit id = true

/-- A removal removes what belongs to the sessions whose identifiers contain the part. -/
def RemovesContaining (s : Store) (part : String) : Prop :=
  ∃ ids s', removeMatching part s = (.ok ids, s') ∧
    s.Removes (fun id => Text.contains id part) ids s'

variable {s : Store} {part : String}

lemma exists_removeMatching_eq (htables : s.Has workTables) (part : String) :
    ∃ ids s', removeMatching part s = (.ok ids, s') ∧ s.Removes (matchesPart part) ids s' := by
  have hs : s.Has [.workQueue, .workClaims, .sessions] := htables
  refine ⟨_, _, changing_of_has hs _, rfl, Text.pairwise_sortedSet _, fun id => ?_⟩
  rw [Text.mem_sortedSet, List.mem_filter, sessionIds]

/-- Only the identifiers in the tables matter for what is removed. -/
lemma Removes.congr {hit hit' : String → Bool} {ids : List String} {s' : Store}
    (h : s.Removes hit ids s') (hsame : ∀ id ∈ s.sessionIds, hit id = hit' id) :
    s.Removes hit' ids s' := by
  have hrow {ρ : Type} {rows : List ρ} {key : ρ → String}
      (hkey : ∀ row ∈ rows, key row ∈ s.sessionIds) :
      (rows.filter fun row => !hit (key row)) = rows.filter fun row => !hit' (key row) :=
    List.filter_congr fun row hrow => by rw [hsame _ (hkey row hrow)]
  refine ⟨?_, h.increasing, fun id => ?_⟩
  · have hqueue : ∀ w ∈ s.queue, w.sessionId ∈ s.sessionIds := fun w hw =>
      List.mem_append_left _ (List.mem_append_left _ (List.mem_map_of_mem hw))
    have hclaims : ∀ c ∈ s.claims, c.sessionId ∈ s.sessionIds := fun c hc =>
      List.mem_append_left _ (List.mem_append_right _ (List.mem_map_of_mem hc))
    have hsessions : ∀ x ∈ s.sessions, x.sessionId ∈ s.sessionIds := fun x hx =>
      List.mem_append_right _ (List.mem_map_of_mem hx)
    rw [h.rows, hrow hqueue, hrow hclaims, hrow hsessions]
  · rw [h.listed]
    exact and_congr_right fun hid => by rw [hsame id hid]

/-- What a removal removes tells which identifiers it hits. -/
lemma removesContaining_iff (htables : s.Has workTables) :
    s.RemovesContaining part ↔
      ∀ id ∈ s.sessionIds, matchesPart part id = Text.contains id part := by
  obtain ⟨ids, s', hrun, hremoves⟩ := exists_removeMatching_eq htables part
  constructor
  · rintro ⟨ids', s'', hrun', hcontaining⟩ id hid
    rw [hrun] at hrun'
    obtain ⟨hids, -⟩ := Prod.mk.inj hrun'
    obtain rfl := Except.ok.inj hids
    refine Bool.eq_iff_iff.2 ⟨fun h => ?_, fun h => ?_⟩
    · exact ((hcontaining.listed id).1 ((hremoves.listed id).2 ⟨hid, h⟩)).2
    · exact ((hremoves.listed id).1 ((hcontaining.listed id).2 ⟨hid, h⟩)).2
  · exact fun h => ⟨ids, s', hrun, hremoves.congr h⟩

/-- A removal removes what its pattern hits.  That is what belongs to the sessions whose identifiers
contain the part exactly if no identifier in the tables tells the two apart; and it is so in every
store exactly if the part has no wildcard, no letter and no null character. -/
theorem removeMatching_contains_iff (htables : s.Has workTables) (part : String) :
    (∃ ids s', removeMatching part s = (.ok ids, s') ∧ s.Removes (matchesPart part) ids s') ∧
      (s.RemovesContaining part ↔
        ∀ id ∈ s.sessionIds, matchesPart part id = Text.contains id part) ∧
      (∀ id, IsNullFree part → IsNullFree id →
        (matchesPart part id = true ↔ ∃ cs, cs <:+: id.toList ∧ Reads part.toList cs)) ∧
      ((∀ t : Store, t.Has workTables → (∀ id ∈ t.sessionIds, IsNullFree id) →
          t.RemovesContaining part) ↔
        ∀ c ∈ part.toList, IsPlain c) := by
  refine ⟨exists_removeMatching_eq htables part, removesContaining_iff htables,
    fun id => matchesPart_iff, fun h => ?_, fun hplain t htables hfree => ?_⟩
  · by_contra hplain
    obtain ⟨id, hid, hhit, hcontains⟩ := exists_hit_not_contains hplain
    -- A single marker of that identifier is removed and should not be.
    let t : Store := { claims := [⟨id, "", 0⟩] }
    have hmem : id ∈ t.sessionIds := List.mem_singleton_self id
    have honly : ∀ id' ∈ t.sessionIds, IsNullFree id' := fun id' hid' =>
      List.eq_of_mem_singleton hid' ▸ hid
    have ht := h t (has_of_missing rfl _) honly
    have := (removesContaining_iff (has_of_missing rfl _)).1 ht id hmem
    rw [hhit, hcontains] at this
    cases this
  · exact (removesContaining_iff htables).2 fun id hid =>
      matchesPart_eq_contains hplain (hfree id hid)

/-- Two sessions of which an operator may want to remove the first. -/
def lookalikes : Store :=
  { sessions := [
      { sessionId := "s_1", issueId := "a", createdAt := 0, updatedAt := 0 },
      { sessionId := "s21", issueId := "b", createdAt := 0, updatedAt := 0 }] }

/-- Digits alone remove what they are in; with an underscore the other session is hit as well. -/
theorem removeMatching_contains_iff_lookalikes :
    lookalikes.Has workTables ∧ lookalikes.RemovesContaining "21" ∧
      matchesPart "s_1" "s21" = true := by
  have htables : lookalikes.Has workTables := has_of_missing rfl _
  have hplain : ∀ c ∈ "21".toList, IsPlain c := by simp [IsPlain]
  refine ⟨htables, ?_, ?_⟩
  · exact (removeMatching_contains_iff htables "21").2.2.2.2 hplain _ htables (by decide)
  · have hreads : Reads "s_1".toList "s21".toList := .same rfl (.one '2' (.refl ['1']))
    exact ((removeMatching_contains_iff htables "s_1").2.2.1 "s21" (by decide) (by decide)).2
      ⟨_, List.infix_rfl, hreads⟩

/-- Asked for the first session, a removal takes both. -/
theorem not_removesContaining_lookalikes : ¬ lookalikes.RemovesContaining "s_1" := by
  rw [removesContaining_iff (has_of_missing rfl _)]
  intro h
  have hreads : Reads "s_1".toList "s21".toList := .same rfl (.one '2' (.refl ['1']))
  have hhit : matchesPart "s_1" "s21" = true :=
    (matchesPart_iff (by decide) (by decide)).2 ⟨_, List.infix_rfl, hreads⟩
  have hcontains : Text.contains "s21" "s_1" = false := by decide
  have hsame := h "s21" (by simp [lookalikes, sessionIds])
  rw [hhit, hcontains] at hsame
  cases hsame

end Store

end IssueDispatch
