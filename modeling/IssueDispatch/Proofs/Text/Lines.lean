import IssueDispatch.Text.Blank
import Mathlib.Data.List.Basic
import Mathlib.Data.List.TakeWhile
import Mathlib.Tactic.Lemma

/-!
# Letters, blanks and lines

A small letter and a capital one of ASCII differ in case only; every other character has no case,
and in particular no blank has one.

Trimming a text leaves the one trimmed text that has only blanks around it, so what is trimmed can
be read off any way of splitting the text into blanks, a trimmed part and blanks again
(`Text.trimChars_append`).

The first line of a text that shows anything is found by cutting the text into lines
(`Text.shownLine?`).  Every line end is blank, and so the same line is found by trimming the text
first and cutting off what follows the first line end then.
-/

namespace IssueDispatch

namespace Text

variable {before cs line gap after rest : List Char} {c d : Char}

/-! ## Letters -/

lemma isUpper_iff_toNat : c.isUpper = true ↔ 65 ≤ c.toNat ∧ c.toNat ≤ 90 :=
  decide_eq_true_iff.trans (and_congr UInt32.le_iff_toNat_le UInt32.le_iff_toNat_le)

lemma isLower_iff_toNat : c.isLower = true ↔ 97 ≤ c.toNat ∧ c.toNat ≤ 122 :=
  Bool.and_eq_true_iff.trans (and_congr (decide_eq_true_iff.trans UInt32.le_iff_toNat_le)
    (decide_eq_true_iff.trans UInt32.le_iff_toNat_le))

lemma isAlpha_iff_toNat :
    c.isAlpha = true ↔ 65 ≤ c.toNat ∧ c.toNat ≤ 90 ∨ 97 ≤ c.toNat ∧ c.toNat ≤ 122 :=
  Bool.or_eq_true_iff.trans (or_congr isUpper_iff_toNat isLower_iff_toNat)

lemma isAlpha_of_isBlank (h : isBlank c = true) : c.isAlpha = false := by
  rw [← Bool.not_eq_true, isAlpha_iff_toNat]
  simp only [isBlank, Bool.or_eq_true, Bool.and_eq_true, decide_eq_true_eq, beq_iff_eq] at h
  omega

/-- A capital moves up by 32 places, and every other character stays. -/
lemma toNat_toLower (c : Char) :
    c.toLower.toNat = if 65 ≤ c.toNat ∧ c.toNat ≤ 90 then c.toNat + 32 else c.toNat := by
  have hupper : (c.val ≥ 'A'.val ∧ c.val ≤ 'Z'.val) ↔ 65 ≤ c.toNat ∧ c.toNat ≤ 90 :=
    and_congr UInt32.le_iff_toNat_le UInt32.le_iff_toNat_le
  unfold Char.toLower
  split
  case isTrue h =>
    have hrange := hupper.1 h
    have hmoved : (c.val + 32).toNat = (c.toNat + 32) % 2 ^ 32 := UInt32.toNat_add c.val 32
    rw [if_pos hrange]
    exact hmoved.trans (Nat.mod_eq_of_lt (by omega))
  case isFalse h => rw [if_neg (mt hupper.2 h)]

/-- A small letter moves down by 32 places, and every other character stays. -/
lemma toNat_toUpper (c : Char) :
    c.toUpper.toNat = if 97 ≤ c.toNat ∧ c.toNat ≤ 122 then c.toNat - 32 else c.toNat := by
  have hlower : (c.val ≥ 'a'.val ∧ c.val ≤ 'z'.val) ↔ 97 ≤ c.toNat ∧ c.toNat ≤ 122 :=
    and_congr UInt32.le_iff_toNat_le UInt32.le_iff_toNat_le
  unfold Char.toUpper
  split
  case isTrue h =>
    have hrange := hlower.1 h
    have hmoved : (c.val + ('A'.val - 'a'.val)).toNat = (c.toNat + (2 ^ 32 - 32)) % 2 ^ 32 :=
      UInt32.toNat_add c.val _
    rw [if_pos hrange]
    refine hmoved.trans ?_
    omega
  case isFalse h => rw [if_neg (mt hlower.2 h)]

lemma toLower_of_isAlpha_eq_false (h : c.isAlpha = false) : c.toLower = c := by
  rw [← Bool.not_eq_true, isAlpha_iff_toNat] at h
  rw [← Char.toNat_inj, toNat_toLower, if_neg (by omega)]

/-- A letter stays a letter. -/
lemma isAlpha_toLower (c : Char) : c.toLower.isAlpha = c.isAlpha := by
  rw [Bool.eq_iff_iff, isAlpha_iff_toNat, isAlpha_iff_toNat, toNat_toLower]
  split <;> omega

lemma toLower_toLower (c : Char) : c.toLower.toLower = c.toLower := by
  have hsmall : ¬(65 ≤ c.toLower.toNat ∧ c.toLower.toNat ≤ 90) := by
    rw [toNat_toLower]
    split <;> omega
  rw [← Char.toNat_inj, toNat_toLower, if_neg hsmall]

lemma toLower_toUpper (c : Char) : c.toUpper.toLower = c.toLower := by
  rw [← Char.toNat_inj, toNat_toLower, toNat_toUpper, toNat_toLower]
  grind

/-- Only a letter is changed to or from another character. -/
lemma toLower_eq_iff (h : d.isAlpha = false) : c.toLower = d ↔ c = d := by
  constructor
  · rintro rfl
    rw [isAlpha_toLower] at h
    rw [toLower_of_isAlpha_eq_false h]
  · rintro rfl
    exact toLower_of_isAlpha_eq_false h

lemma isBlank_toLower (c : Char) : isBlank c.toLower = isBlank c := by
  rw [Bool.eq_iff_iff]
  constructor
  · intro h
    have halpha := isAlpha_of_isBlank h
    rw [isAlpha_toLower] at halpha
    rwa [toLower_of_isAlpha_eq_false halpha] at h
  · intro h
    rwa [toLower_of_isAlpha_eq_false (isAlpha_of_isBlank h)]

/-! ## Blanks -/

/-- A text shows nothing. -/
def IsBlank (cs : List Char) : Prop := ∀ c ∈ cs, isBlank c = true

/-- A text neither begins nor ends with a blank. -/
structure IsTrimmed (cs : List Char) : Prop where
  head : ∀ c ∈ cs.head?, isBlank c = false
  last : ∀ c ∈ cs.getLast?, isBlank c = false

lemma isBlank_nil : IsBlank [] := nofun

lemma IsBlank.append (h : IsBlank cs) (h' : IsBlank after) : IsBlank (cs ++ after) :=
  List.forall_mem_append.2 ⟨h, h'⟩

/-! ## Trimming -/

lemma dropWhile_of_head {p : Char → Bool} (h : ∀ c ∈ cs.head?, p c = false) :
    cs.dropWhile p = cs := by
  cases cs with
  | nil => rfl
  | cons c rest => exact List.dropWhile_cons_of_neg (by simp [h c rfl])

lemma isBlank_takeWhile (cs : List Char) : IsBlank (cs.takeWhile isBlank) := fun c hc =>
  List.all_eq_true.1 List.all_takeWhile c hc

/-- What is left of a text without its first blanks does not begin with one. -/
lemma isBlank_head_dropWhile (cs : List Char) :
    ∀ c ∈ (cs.dropWhile isBlank).head?, isBlank c = false := by
  intro c hc
  have hhead := List.head?_dropWhile_not isBlank cs
  rw [Option.mem_def.1 hc] at hhead
  exact hhead

lemma dropWhile_isBlank_append_cons (hgap : IsBlank gap) (hd : isBlank d = false)
    (rest : List Char) : (gap ++ d :: rest).dropWhile isBlank = d :: rest := by
  rw [List.dropWhile_append_of_pos hgap, List.dropWhile_cons_of_neg (by simp [hd])]

/-- If a text shows anything, it does so after some blanks. -/
lemma exists_of_dropWhile_isBlank (h : cs.dropWhile isBlank = d :: rest) :
    ∃ gap, IsBlank gap ∧ isBlank d = false ∧ cs = gap ++ d :: rest := by
  refine ⟨cs.takeWhile isBlank, isBlank_takeWhile cs, isBlank_head_dropWhile cs d ?_, ?_⟩
  · rw [h]
    rfl
  · rw [← h, List.takeWhile_append_dropWhile]

/-- A text is what it leaves without its last blanks, followed by these. -/
lemma exists_append_isBlank (cs : List Char) :
    ∃ shown gap, cs = shown ++ gap ∧ IsBlank gap ∧ ∀ c ∈ shown.getLast?, isBlank c = false := by
  refine ⟨(cs.reverse.dropWhile isBlank).reverse, (cs.reverse.takeWhile isBlank).reverse, ?_, ?_,
    ?_⟩
  · rw [← List.reverse_append, List.takeWhile_append_dropWhile, List.reverse_reverse]
  · intro c hc
    exact isBlank_takeWhile cs.reverse c (List.mem_reverse.1 hc)
  · rw [List.getLast?_reverse]
    exact isBlank_head_dropWhile cs.reverse

/-- Trimming drops the blanks around a trimmed text. -/
lemma trimChars_append (hbefore : IsBlank before) (h : IsTrimmed cs) (hafter : IsBlank after) :
    trimChars (before ++ cs ++ after) = cs := by
  have hback : ∀ c ∈ after.reverse, isBlank c = true := fun c hc => hafter c (List.mem_reverse.1 hc)
  have hlast : ∀ c ∈ cs.reverse.head?, isBlank c = false := by
    rw [List.head?_reverse]
    exact h.last
  rw [trimChars, List.append_assoc, List.dropWhile_append_of_pos hbefore]
  rcases hcs : cs with _ | ⟨c, rest⟩
  · rw [List.nil_append, List.dropWhile_eq_nil_iff.2 hafter]
    rfl
  · have hhead : ∀ c ∈ (cs ++ after).head?, isBlank c = false := by
      rw [hcs, List.cons_append, List.head?_cons, ← List.head?_cons (l := rest), ← hcs]
      exact h.head
    rw [← hcs, dropWhile_of_head hhead, List.reverse_append,
      List.dropWhile_append_of_pos hback, dropWhile_of_head hlast, List.reverse_reverse]

/-- A text is what it is trimmed to, with blanks around it. -/
lemma exists_trimChars (cs : List Char) :
    ∃ before after, IsBlank before ∧ IsTrimmed (trimChars cs) ∧ IsBlank after ∧
      cs = before ++ trimChars cs ++ after := by
  obtain ⟨shown, after, hsplit, hafter, hlast⟩ := exists_append_isBlank (cs.dropWhile isBlank)
  have hshown : IsTrimmed shown := by
    refine ⟨fun c hc => isBlank_head_dropWhile cs c ?_, hlast⟩
    rw [hsplit, List.head?_append, Option.mem_def.1 hc]
    rfl
  have hcs : cs = cs.takeWhile isBlank ++ shown ++ after := by
    rw [List.append_assoc, ← hsplit, List.takeWhile_append_dropWhile]
  have htrim : trimChars cs = shown := by
    rw [hcs, trimChars_append (isBlank_takeWhile cs) hshown hafter]
  exact ⟨_, after, isBlank_takeWhile cs, htrim ▸ hshown, hafter, htrim ▸ hcs⟩

lemma IsTrimmed.trimChars_eq (h : IsTrimmed cs) : trimChars cs = cs := by
  simpa using trimChars_append isBlank_nil h isBlank_nil

lemma isTrimmed_nil : IsTrimmed [] := ⟨nofun, nofun⟩

lemma trimChars_of_isBlank (h : IsBlank cs) : trimChars cs = [] := by
  simpa using trimChars_append h isTrimmed_nil isBlank_nil

/-- A trimmed text is empty or shows something. -/
lemma IsTrimmed.not_isBlank (h : IsTrimmed cs) (hne : cs ≠ []) : ¬ IsBlank cs := by
  obtain ⟨c, rest, rfl⟩ := List.exists_cons_of_ne_nil hne
  intro hblank
  cases (hblank c List.mem_cons_self).symm.trans (h.head c rfl)

lemma trimChars_eq_nil_iff : trimChars cs = [] ↔ IsBlank cs := by
  refine ⟨fun h => ?_, trimChars_of_isBlank⟩
  obtain ⟨before, after, hbefore, -, hafter, hcs⟩ := exists_trimChars cs
  rw [h, List.append_nil] at hcs
  exact hcs ▸ hbefore.append hafter

/-- Blanks around a text do not change what it is trimmed to. -/
lemma trimChars_append_right (cs : List Char) (h : IsBlank after) :
    trimChars (cs ++ after) = trimChars cs := by
  obtain ⟨front, back, hfront, htrimmed, hback, hcs⟩ := exists_trimChars cs
  rw [hcs, List.append_assoc, trimChars_append hfront htrimmed (hback.append h), ← hcs]

lemma trimChars_append_left (h : IsBlank before) (cs : List Char) :
    trimChars (before ++ cs) = trimChars cs := by
  obtain ⟨front, back, hfront, htrimmed, hback, hcs⟩ := exists_trimChars cs
  rw [hcs, ← List.append_assoc, ← List.append_assoc, trimChars_append (h.append hfront) htrimmed
    hback, ← hcs]

/-- Trimming drops the blanks before a text either way. -/
lemma trimChars_dropWhile (cs : List Char) : trimChars (cs.dropWhile isBlank) = trimChars cs := by
  rw [← trimChars_append_left (isBlank_takeWhile cs), List.takeWhile_append_dropWhile]

/-! ## The first line that shows anything -/

/-- The first line of a text that is not blank, without the blanks around it. -/
def shownLine? (cs : List Char) : Option (List Char) :=
  ((cs.splitOnP isLineEnd).find? fun line => line.any fun c => !isBlank c).map trimChars

/-- A text does not go on with the line before it: it is empty or begins with a line end. -/
def EndsLine (cs : List Char) : Prop := ∀ c ∈ cs.head?, isLineEnd c = true

lemma endsLine_nil : EndsLine [] := nofun

lemma not_isBlank_iff : ¬ IsBlank cs ↔ ∃ c ∈ cs, isBlank c = false := by
  simp [IsBlank]

/-- A line is shown without the blanks around it, and it does show something. -/
lemma shownLine?_spec (h : shownLine? cs = some line) : IsTrimmed line ∧ line ≠ [] := by
  obtain ⟨whole, hwhole, rfl⟩ := Option.map_eq_some_iff.1 h
  obtain ⟨-, -, -, htrimmed, -⟩ := exists_trimChars whole
  refine ⟨htrimmed, fun hnil => ?_⟩
  have hshown : ∃ c ∈ whole, isBlank c = false := by simpa using List.find?_some hwhole
  exact not_isBlank_iff.2 hshown (trimChars_eq_nil_iff.1 hnil)

/-- A blank before a text does not change the line it shows, whether it ends a line or not. -/
lemma shownLine?_cons (h : isBlank c = true) (cs : List Char) :
    shownLine? (c :: cs) = shownLine? cs := by
  unfold shownLine?
  rw [List.splitOnP_cons_eq_if_modifyHead]
  split
  · rfl
  · obtain ⟨line, lines, hlines⟩ := List.exists_cons_of_ne_nil (List.splitOnP_ne_nil isLineEnd cs)
    have hany : ((c :: line).any fun c => !isBlank c) = line.any fun c => !isBlank c := by
      rw [List.any_cons, h, Bool.not_true, Bool.false_or]
    rw [hlines, List.modifyHead_cons, List.find?_cons, List.find?_cons, hany]
    cases line.any fun c => !isBlank c with
    | false => rfl
    | true =>
      have hblank : IsBlank [c] := List.forall_mem_singleton.2 h
      exact congrArg some (trimChars_append_left hblank line)

lemma shownLine?_append (h : IsBlank before) (cs : List Char) :
    shownLine? (before ++ cs) = shownLine? cs := by
  induction before with
  | nil => rfl
  | cons c before ih =>
    obtain ⟨hc, hbefore⟩ := List.forall_mem_cons.1 h
    rw [List.cons_append, shownLine?_cons hc, ih hbefore]

lemma shownLine?_of_isBlank (h : IsBlank cs) : shownLine? cs = none := by
  rw [← List.append_nil cs, shownLine?_append h]
  rfl

/-- A text shows what it has before its first line end, if that is not blank. -/
lemma shownLine?_of_shown (hline : ∀ c ∈ line, isLineEnd c = false) (hshown : ¬ IsBlank line)
    (hafter : EndsLine after) :
    shownLine? (line ++ after) = some (trimChars line) := by
  have hany : (line.any fun c => !isBlank c) = true := by
    simpa using not_isBlank_iff.1 hshown
  have hfirst : ∃ lines, (line ++ after).splitOnP isLineEnd = line :: lines := by
    cases after with
    | nil => exact ⟨[], by rw [List.append_nil, List.splitOnP_eq_singleton hline]⟩
    | cons c after =>
      exact ⟨_, List.splitOnP_append_cons_of_forall_mem hline c (hafter c rfl) after⟩
  obtain ⟨lines, hlines⟩ := hfirst
  rw [shownLine?, hlines, List.find?_cons, hany]
  rfl

lemma isLineEnd_of_isBlank_eq_false (h : isBlank c = false) : isLineEnd c = false := by
  by_contra hend
  cases h.symm.trans (isBlank_of_isLineEnd (by simpa using hend))

lemma isLineEnd_of_mem_firstLine (h : c ∈ firstLine cs) : isLineEnd c = false := by
  simpa using List.mem_takeWhile_imp h

/-- A text goes on after its first line with a line end. -/
lemma exists_firstLine (cs : List Char) :
    ∃ after, cs = firstLine cs ++ after ∧ EndsLine after := by
  refine ⟨cs.dropWhile fun c => !isLineEnd c, List.takeWhile_append_dropWhile.symm, fun c hc => ?_⟩
  have hhead := List.head?_dropWhile_not (fun c => !isLineEnd c) cs
  rw [Option.mem_def.1 hc] at hhead
  simpa using hhead

/-- The line that a text shows does not depend on the blanks around it, nor on anything that comes
after it on other lines. -/
lemma shownLine?_of_split (hbefore : IsBlank before) (hline : ∀ c ∈ line, isLineEnd c = false)
    (hshown : ¬ IsBlank line) (hgap : IsBlank gap)
    (hafter : EndsLine after) :
    shownLine? (before ++ line ++ gap ++ after) = some (trimChars line) := by
  obtain ⟨more, hmore, hhead⟩ := exists_firstLine gap
  have hblank : IsBlank (firstLine gap) := fun c hc =>
    hgap c (hmore ▸ List.mem_append_left more hc)
  have hwhole : ∀ c ∈ line ++ firstLine gap, isLineEnd c = false :=
    List.forall_mem_append.2 ⟨hline, fun _ => isLineEnd_of_mem_firstLine⟩
  have hrest : EndsLine (more ++ after) := by
    cases more with
    | nil => exact hafter
    | cons d more => exact hhead
  have hshown' : ¬ IsBlank (line ++ firstLine gap) := fun h =>
    hshown (List.forall_mem_append.1 h).1
  rw [hmore, List.append_assoc, List.append_assoc, List.append_assoc, shownLine?_append hbefore,
    ← List.append_assoc, shownLine?_of_shown hwhole hshown' hrest,
    trimChars_append_right line hblank]

/-- A text shows a trimmed line as it is. -/
lemma IsTrimmed.shownLine?_eq (h : IsTrimmed line) (hne : line ≠ []) (hbefore : IsBlank before)
    (hline : ∀ c ∈ line, isLineEnd c = false) (hgap : IsBlank gap)
    (hafter : EndsLine after) :
    shownLine? (before ++ line ++ gap ++ after) = some line := by
  rw [shownLine?_of_split hbefore hline (h.not_isBlank hne) hgap hafter, h.trimChars_eq]

/-- The first line of a trimmed text shows what the first line does that shows anything. -/
lemma trimChars_firstLine_trimChars (cs : List Char) :
    trimChars (firstLine (trimChars cs)) = (shownLine? cs).getD [] := by
  obtain ⟨before, after, hbefore, htrimmed, hafter, hcs⟩ := exists_trimChars cs
  obtain ⟨rest, hrest, hhead⟩ := exists_firstLine (trimChars cs)
  have hline : ∀ c ∈ firstLine (trimChars cs), isLineEnd c = false := fun _ =>
    isLineEnd_of_mem_firstLine
  rcases hshape : trimChars cs with _ | ⟨c, more⟩
  · rw [hcs, hshape, shownLine?_of_isBlank]
    · rfl
    · exact (hbefore.append isBlank_nil).append hafter
  · have hc : isBlank c = false := htrimmed.head c (by rw [hshape]; rfl)
    have hmem : c ∈ firstLine (trimChars cs) := by
      simp [hshape, firstLine, isLineEnd_of_isBlank_eq_false hc]
    have hshown : ¬ IsBlank (firstLine (trimChars cs)) := not_isBlank_iff.2 ⟨c, hmem, hc⟩
    have hfound : shownLine? cs = some (trimChars (firstLine (trimChars cs))) := by
      -- What has been trimmed may belong to the first line, if the trimmed text has no other one.
      cases rest with
      | nil =>
        have hsplit : cs = before ++ firstLine (trimChars cs) ++ after ++ [] := by
          rw [List.append_nil] at hrest ⊢
          rw [← hrest, ← hcs]
        exact (congrArg shownLine? hsplit).trans
          (shownLine?_of_split hbefore hline hshown hafter endsLine_nil)
      | cons d rest =>
        have hsplit : cs = before ++ firstLine (trimChars cs) ++ [] ++ (d :: rest ++ after) := by
          rw [List.append_nil, List.append_assoc before, ← List.append_assoc (firstLine _),
            ← hrest, ← List.append_assoc, ← hcs]
        exact (congrArg shownLine? hsplit).trans
          (shownLine?_of_split hbefore hline hshown isBlank_nil hhead)
    rw [← hshape, hfound]
    rfl

end Text

end IssueDispatch
