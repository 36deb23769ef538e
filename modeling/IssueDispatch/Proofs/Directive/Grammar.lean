import IssueDispatch.Directive
import IssueDispatch.Proofs.Text.Lines
import Mathlib.Data.List.Basic

/-!
# The grammar of directives

What a line orders is given by the rules of `Directive.Orders`.  They say of a keyword that it is
spelt in any case, and nothing about how a line is read.  A line is read by trying six patterns
(`Directive.reads?`), each of which finds exactly the orders of its own kind, and no line has orders
of two kinds, as no keyword that begins a line is the beginning of another.  The order in which the
patterns are tried is therefore of no account.

A comment orders what the first line says that shows anything (`Text.shownLine?`).
-/

namespace IssueDispatch

namespace Directive

open Text (IsBlank isBlank shownLine? isBlank_toLower toLower_eq_iff)

/-- What a line can order: the kind, the priority and the reason. -/
abbrev Order := DirectiveKind × Option OverridePriority × Option String

variable {cs cs' line line' word gap text rest : List Char} {letter c dash : Char} {s : String}
  {o o' : Order} {kind kind' : DirectiveKind}

/-! ## Case -/

/-- The small letter that a character is a form of, and otherwise the character itself. -/
def foldCase (c : Char) : Char :=
  if c = '\u017F' then 's'
  else if c = '\u212A' then 'k'
  else if c = '\u0130' ∨ c = '\u0131' then 'i'
  else c.toLower

/-- A text is a word of small letters in any case. -/
def Spells (word : String) (cs : List Char) : Prop := cs.map foldCase = word.toList

/-- All characters of a word are in ASCII. -/
def IsPlain (word : String) : Prop := word.toList.all (fun c => c.toNat < 128) = true

lemma isFormOf_iff (h : letter.toNat < 128) : isFormOf letter c = true ↔ foldCase c = letter := by
  -- None of the four characters with a form of their own is a letter of ASCII.
  have hne {d : Char} (hd : 128 ≤ d.toNat) : letter ≠ d := by
    rintro rfl
    omega
  have hs' : letter ≠ '\u017F' := hne (by decide)
  have hk' : letter ≠ '\u212A' := hne (by decide)
  have hi' : letter ≠ '\u0130' ∧ letter ≠ '\u0131' := ⟨hne (by decide), hne (by decide)⟩
  simp only [isFormOf, Bool.or_eq_true, Bool.and_eq_true, beq_iff_eq, foldCase]
  split_ifs with hs hk hi
  · simp [hs, hs', eq_comm]
  · simp [hk, hk', eq_comm]
  · rcases hi with rfl | rfl <;> simp [hi', eq_comm]
  · simp [hs, hk, hi]

lemma foldCase_toLower (c : Char) : foldCase c.toLower = foldCase c := by
  have hs : c.toLower = '\u017F' ↔ c = '\u017F' := toLower_eq_iff rfl
  have hk : c.toLower = '\u212A' ↔ c = '\u212A' := toLower_eq_iff rfl
  have hi : c.toLower = '\u0130' ↔ c = '\u0130' := toLower_eq_iff rfl
  have hi' : c.toLower = '\u0131' ↔ c = '\u0131' := toLower_eq_iff rfl
  simp only [foldCase, hs, hk, hi, hi', Text.toLower_toLower]

/-- A blank is no form of a letter. -/
lemma foldCase_of_isBlank (h : isBlank c = true) : foldCase c = c := by
  have hne {d : Char} (hd : isBlank d = false) : c ≠ d := by
    rintro rfl
    cases h.symm.trans hd
  rw [foldCase, if_neg (hne rfl), if_neg (hne rfl), if_neg (not_or.2 ⟨hne rfl, hne rfl⟩),
    Text.toLower_of_isAlpha_eq_false (Text.isAlpha_of_isBlank h)]

lemma lowerForm_toLower (c : Char) : lowerForm c.toLower = lowerForm c := by
  have hi : c.toLower = '\u0130' ↔ c = '\u0130' := toLower_eq_iff rfl
  simp only [lowerForm, hi, Text.toLower_toLower]

lemma isDash_toLower (c : Char) : isDash c.toLower = isDash c := by
  have h1 : c.toLower = '-' ↔ c = '-' := toLower_eq_iff rfl
  have h2 : c.toLower = '\u2013' ↔ c = '\u2013' := toLower_eq_iff rfl
  have h3 : c.toLower = '\u2014' ↔ c = '\u2014' := toLower_eq_iff rfl
  simp only [isDash, h1, h2, h3]

lemma isBlank_of_isDash (h : isDash c = true) : isBlank c = false := by
  have hdash : c = '-' ∨ c = '\u2013' ∨ c = '\u2014' := of_decide_eq_true h
  rcases hdash with rfl | rfl | rfl <;> rfl

/-! ## Keywords -/

/-- A keyword is dropped from a line exactly if the line begins with it, in any case. -/
lemma dropKeyword?_eq_some_iff (h : IsPlain s) :
    dropKeyword? s.toList line = some rest ↔ ∃ word, Spells s word ∧ line = word ++ rest := by
  rw [IsPlain, List.all_eq_true] at h
  unfold Spells
  generalize s.toList = letters at h ⊢
  induction letters generalizing line with
  | nil => simp [dropKeyword?, eq_comm]
  | cons letter letters ih =>
    obtain ⟨hletter, hletters⟩ := List.forall_mem_cons.1 h
    have hletter : letter.toNat < 128 := of_decide_eq_true hletter
    cases line with
    | nil => simp [dropKeyword?]
    | cons c line =>
      rw [dropKeyword?]
      split_ifs with hform
      · rw [ih hletters]
        rw [isFormOf_iff hletter] at hform
        constructor
        · rintro ⟨word, hword, rfl⟩
          exact ⟨c :: word, by rw [List.map_cons, hform, hword], rfl⟩
        · rintro ⟨_ | ⟨c', word⟩, hword, hline⟩
          · cases hword
          · obtain ⟨rfl, rfl⟩ := List.cons.inj hline
            exact ⟨word, (List.cons.inj hword).2, rfl⟩
      · refine ⟨nofun, ?_⟩
        rintro ⟨_ | ⟨c', word⟩, hword, hline⟩
        · cases hword
        · obtain ⟨rfl, rfl⟩ := List.cons.inj hline
          exact absurd ((isFormOf_iff hletter).2 (List.cons.inj hword).1) hform

lemma dropKeyword?_append (h : IsPlain s) (hword : Spells s word) (rest : List Char) :
    dropKeyword? s.toList (word ++ rest) = some rest :=
  (dropKeyword?_eq_some_iff h).2 ⟨word, hword, rfl⟩

lemma isKeyword_iff (h : IsPlain s) : isKeyword s.toList line = true ↔ Spells s line := by
  rw [isKeyword, beq_iff_eq, dropKeyword?_eq_some_iff h]
  simp

/-! ## The rules -/

/-- What a line orders, pattern by pattern. -/
inductive Orders : List Char → Order → Prop
  | hold {word : List Char} (hword : Spells "hold" word) : Orders word (.hold, none, none)
  | holdFor {word gap text : List Char} {dash : Char} (hword : Spells "hold" word)
      (hgap : IsBlank gap) (hdash : isDash dash = true) (htext : ¬ IsBlank text) :
      Orders (word ++ gap ++ dash :: text)
        (.hold, none, some (String.ofList (Text.trimChars text)))
  | resume {word : List Char} (hword : Spells "resume" word) : Orders word (.resume, none, none)
  | skipQa {word gap tail : List Char} (hword : Spells "skip" word) (hsome : gap ≠ [])
      (hgap : ∀ c ∈ gap, isBlank c = true ∨ c = '-') (htail : Spells "qa" tail) :
      Orders (word ++ gap ++ tail) (.skipQa, none, none)
  | decompose {word : List Char} (hword : Spells "decompose" word) :
      Orders word (.decompose, none, none)
  | reassign {word : List Char} (hword : Spells "reassign" word) :
      Orders word (.reassign, none, none)
  | priority {word gap level : List Char} {name : String} (hword : Spells "priority:" word)
      (hgap : IsBlank gap) (hname : name ∈ ["high", "medium", "low"]) (hlevel : Spells name level) :
      Orders (word ++ gap ++ level)
        (.priority, some (.ofName (String.ofList (level.flatMap lowerForm))), none)

/-- What the pattern of one kind finds in a line. -/
def reads? : DirectiveKind → List Char → Option Order
  | .hold, line => (hold? line).map fun reason => (.hold, none, reason)
  | .resume, line => if isKeyword "resume".toList line then some (.resume, none, none) else none
  | .skipQa, line => if isSkipQa line then some (.skipQa, none, none) else none
  | .decompose, line =>
    if isKeyword "decompose".toList line then some (.decompose, none, none) else none
  | .reassign, line =>
    if isKeyword "reassign".toList line then some (.reassign, none, none) else none
  | .priority, line => (priority? line).map fun level => (.priority, some level, none)
  | .other _, _ => none

/-- The kinds in the order in which their patterns are tried. -/
def patterns : List DirectiveKind := [.hold, .resume, .skipQa, .decompose, .reassign, .priority]

/-- A line orders what the first pattern finds that finds anything. -/
lemma order?_eq_findSome? (line : List Char) :
    order? line = patterns.findSome? fun kind => reads? kind line := by
  simp only [patterns, List.findSome?, reads?]
  unfold order?
  cases hold? line <;> cases priority? line <;> (repeat' split) <;> simp_all

/-! ## What one pattern finds -/

/-- A line that goes on after its keyword, with a dash and a reason. -/
lemma hold?_append (hword : Spells "hold" word) (hgap : IsBlank gap)
    (hdash : isDash dash = true) (htext : ¬ IsBlank text) :
    hold? (word ++ gap ++ dash :: text) = some (some (String.ofList (Text.trimChars text))) := by
  have hdrop := dropKeyword?_append (by rfl) hword (gap ++ dash :: text)
  obtain ⟨d, more, hmore⟩ : ∃ d more, gap ++ dash :: text = d :: more :=
    List.exists_cons_of_ne_nil (by simp)
  obtain ⟨c, reason, hreason⟩ : ∃ c reason, text.dropWhile isBlank = c :: reason :=
    List.exists_cons_of_ne_nil fun hnil => htext (List.dropWhile_eq_nil_iff.1 hnil)
  rw [hold?, List.append_assoc, hdrop, ← Text.trimChars_dropWhile text]
  simp only [hmore]
  rw [← hmore, Text.dropWhile_isBlank_append_cons hgap (isBlank_of_isDash hdash)]
  simp only [hdash, if_true, hreason]

lemma hold?_eq_some_iff {reason : Option String} :
    hold? line = some reason ↔ Orders line (.hold, none, reason) := by
  constructor
  · intro h
    unfold hold? at h
    split at h
    · cases h
    · rename_i hdrop
      obtain ⟨word, hword, rfl⟩ := (dropKeyword?_eq_some_iff (by rfl)).1 hdrop
      cases h
      rw [List.append_nil]
      exact .hold hword
    · rename_i rest hdrop
      obtain ⟨word, hword, rfl⟩ := (dropKeyword?_eq_some_iff (by rfl)).1 hdrop
      split at h
      · rename_i dash text hrest
        obtain ⟨gap, hgap, -, rfl⟩ := Text.exists_of_dropWhile_isBlank hrest
        split_ifs at h with hdash
        split at h
        · cases h
        · rename_i hne
          cases h
          rw [Text.trimChars_dropWhile, ← List.append_assoc]
          exact .holdFor hword hgap hdash fun hblank => hne (List.dropWhile_eq_nil_iff.2 hblank)
      · cases h
  · intro h
    cases h with
    | hold hword =>
      have hdrop := dropKeyword?_append (by rfl) hword []
      rw [List.append_nil] at hdrop
      rw [hold?, hdrop]
    | holdFor hword hgap hdash htext => exact hold?_append hword hgap hdash htext

/-- No text that spells a word begins with a blank or a hyphen, unless the word does. -/
lemma head_of_spells (h : Spells s cs)
    (hs : ∀ letter ∈ s.toList.head?, isBlank letter = false ∧ letter ≠ '-') :
    ∀ c ∈ cs.head?, isBlank c = false ∧ c ≠ '-' := by
  intro c hc
  have hletter : foldCase c ∈ s.toList.head? := by
    rw [← h, List.head?_map, Option.mem_def.1 hc]
    rfl
  obtain ⟨hblank, hdash⟩ := hs _ hletter
  constructor
  · by_contra hc'
    rw [foldCase_of_isBlank (by simpa using hc')] at hblank
    exact hc' hblank
  · rintro rfl
    exact hdash rfl

lemma isSkipQa_iff : isSkipQa line = true ↔ Orders line (.skipQa, none, none) := by
  have hiff (c : Char) : (isBlank c || c == '-') = true ↔ isBlank c = true ∨ c = '-' := by simp
  constructor
  · intro h
    unfold isSkipQa at h
    split at h
    · cases h
    · rename_i rest hdrop
      obtain ⟨word, hword, rfl⟩ := (dropKeyword?_eq_some_iff (by rfl)).1 hdrop
      dsimp only at h
      split at h
      · rename_i c more
        obtain ⟨hc, htail⟩ := Bool.and_eq_true_iff.1 h
        rw [isKeyword_iff (by rfl)] at htail
        have hsome : (c :: more).takeWhile (fun c => isBlank c || c == '-') ≠ [] := by
          rw [List.takeWhile_cons, if_pos hc]
          exact List.cons_ne_nil _ _
        have hgap : ∀ d ∈ (c :: more).takeWhile (fun c => isBlank c || c == '-'),
            isBlank d = true ∨ d = '-' := fun d hd =>
          (hiff d).1 (List.mem_takeWhile_imp (p := fun c => isBlank c || c == '-') hd)
        have horders := Orders.skipQa hword hsome hgap htail
        rwa [List.append_assoc, List.takeWhile_append_dropWhile] at horders
      · cases h
  · intro h
    cases h with
    | @skipQa word gap tail hword hsome hgap htail =>
      have hdrop := dropKeyword?_append (by rfl) hword (gap ++ tail)
      have hgap' : ∀ c ∈ gap, (isBlank c || c == '-') = true := fun c hc => (hiff c).2 (hgap c hc)
      have hkeep : tail.dropWhile (fun c => isBlank c || c == '-') = tail := by
        refine Text.dropWhile_of_head fun c hc => ?_
        have hc' := head_of_spells htail (by simp [isBlank]) c hc
        simpa using hc'
      obtain ⟨c, more, rfl⟩ := List.exists_cons_of_ne_nil hsome
      rw [isSkipQa, List.append_assoc, hdrop]
      simp only [List.cons_append]
      rw [← List.cons_append, List.dropWhile_append_of_pos hgap', hkeep, hgap' c (by simp),
        Bool.true_and, isKeyword_iff (by rfl)]
      exact htail

lemma priority?_eq_some_iff {p : OverridePriority} :
    priority? line = some p ↔ Orders line (.priority, some p, none) := by
  have hlevel (level : List Char) : (isKeyword "high".toList level ||
      isKeyword "medium".toList level || isKeyword "low".toList level) = true ↔
        ∃ name ∈ ["high", "medium", "low"], Spells name level := by
    rw [Bool.or_eq_true, Bool.or_eq_true, isKeyword_iff (by rfl), isKeyword_iff (by rfl),
      isKeyword_iff (by rfl)]
    simp [or_assoc]
  constructor
  · intro h
    unfold priority? at h
    split at h
    · cases h
    · rename_i rest hdrop
      obtain ⟨word, hword, rfl⟩ := (dropKeyword?_eq_some_iff (by rfl)).1 hdrop
      dsimp only at h
      split_ifs at h with hname
      obtain ⟨name, hmem, hname⟩ := (hlevel _).1 hname
      cases h
      have horders := Orders.priority hword (Text.isBlank_takeWhile rest) hmem hname
      rwa [List.append_assoc, List.takeWhile_append_dropWhile] at horders
  · intro h
    cases h with
    | @priority word gap level name hword hgap hname hname' =>
      have hdrop := dropKeyword?_append (by rfl) hword (gap ++ level)
      have hkeep : level.dropWhile isBlank = level := by
        refine Text.dropWhile_of_head fun c hc => ?_
        refine (head_of_spells hname' ?_ c hc).1
        simp only [List.mem_cons, List.not_mem_nil, or_false] at hname
        rcases hname with rfl | rfl | rfl <;> simp [isBlank]
      rw [priority?, List.append_assoc, hdrop]
      simp only
      rw [List.dropWhile_append_of_pos hgap, hkeep, if_pos ((hlevel level).2 ⟨name, hname, hname'⟩)]

/-- A pattern finds exactly the orders of its own kind. -/
lemma reads?_eq_some_iff : reads? kind line = some o ↔ Orders line o ∧ o.1 = kind := by
  constructor
  · intro h
    cases kind with
    | hold =>
      obtain ⟨reason, hreason, rfl⟩ := Option.map_eq_some_iff.1 h
      exact ⟨hold?_eq_some_iff.1 hreason, rfl⟩
    | priority =>
      obtain ⟨level, hlevel, rfl⟩ := Option.map_eq_some_iff.1 h
      exact ⟨priority?_eq_some_iff.1 hlevel, rfl⟩
    | skipQa =>
      obtain ⟨hskip, ho⟩ := Option.ite_none_right_eq_some.1 h
      cases ho
      exact ⟨isSkipQa_iff.1 hskip, rfl⟩
    | resume =>
      obtain ⟨hword, ho⟩ := Option.ite_none_right_eq_some.1 h
      cases ho
      exact ⟨.resume ((isKeyword_iff (by rfl)).1 hword), rfl⟩
    | decompose =>
      obtain ⟨hword, ho⟩ := Option.ite_none_right_eq_some.1 h
      cases ho
      exact ⟨.decompose ((isKeyword_iff (by rfl)).1 hword), rfl⟩
    | reassign =>
      obtain ⟨hword, ho⟩ := Option.ite_none_right_eq_some.1 h
      cases ho
      exact ⟨.reassign ((isKeyword_iff (by rfl)).1 hword), rfl⟩
    | other name => cases h
  · rintro ⟨h, rfl⟩
    have horders := h
    cases h with
    | hold | holdFor => exact Option.map_eq_some_iff.2 ⟨_, hold?_eq_some_iff.2 horders, rfl⟩
    | priority => exact Option.map_eq_some_iff.2 ⟨_, priority?_eq_some_iff.2 horders, rfl⟩
    | skipQa => exact if_pos (isSkipQa_iff.2 horders)
    | resume hword | decompose hword | reassign hword =>
      exact if_pos ((isKeyword_iff (by rfl)).2 hword)

/-! ## One pattern at most -/

/-- The word that begins a line with an order of a kind. -/
def heading : DirectiveKind → String
  | .hold => "hold"
  | .resume => "resume"
  | .skipQa => "skip"
  | .decompose => "decompose"
  | .reassign => "reassign"
  | .priority => "priority:"
  | .other name => name

lemma Orders.mem_patterns (h : Orders line o) : o.1 ∈ patterns := by
  cases h <;> simp [patterns]

/-- A line that orders anything begins with the word for it, in any case. -/
lemma Orders.heading_begins (h : Orders line o) :
    (heading o.1).toList <+: line.map foldCase := by
  cases h with
  | hold hword | resume hword | decompose hword | reassign hword =>
    rw [show _ = _ from hword]
    exact List.prefix_rfl
  | holdFor hword | skipQa hword | priority hword =>
    rw [List.append_assoc, List.map_append, show _ = _ from hword]
    exact List.prefix_append _ _

/-- No heading is the beginning of another. -/
lemma eq_of_heading_begins (h : kind ∈ patterns) (h' : kind' ∈ patterns)
    (hbegins : (heading kind).toList <+: (heading kind').toList) : kind = kind' := by
  simp only [patterns, List.mem_cons, List.not_mem_nil, or_false] at h h'
  rcases h with rfl | rfl | rfl | rfl | rfl | rfl <;>
    rcases h' with rfl | rfl | rfl | rfl | rfl | rfl <;> first | rfl | simp [heading] at hbegins

/-- All that a line orders is of one kind. -/
lemma Orders.kind_unique (h : Orders line o) (h' : Orders line o') : o.1 = o'.1 := by
  rcases List.prefix_or_prefix_of_prefix h.heading_begins h'.heading_begins with hbegins | hbegins
  · exact eq_of_heading_begins h.mem_patterns h'.mem_patterns hbegins
  · exact (eq_of_heading_begins h'.mem_patterns h.mem_patterns hbegins).symm

lemma Orders.unique (h : Orders line o) (h' : Orders line o') : o = o' := by
  have hread := reads?_eq_some_iff.2 ⟨h, rfl⟩
  have hread' := reads?_eq_some_iff.2 ⟨h', (h.kind_unique h').symm⟩
  exact Option.some.inj (hread.symm.trans hread')

/-- Whatever the order of the patterns, the first one that finds anything finds what the line
orders. -/
lemma findSome?_eq_some_iff {kinds : List DirectiveKind} (hkinds : patterns ⊆ kinds) :
    (kinds.findSome? fun kind => reads? kind line) = some o ↔ Orders line o := by
  constructor
  · intro h
    obtain ⟨kind, -, hread⟩ := List.exists_of_findSome?_eq_some h
    exact (reads?_eq_some_iff.1 hread).1
  · intro h
    have hread := reads?_eq_some_iff.2 ⟨h, rfl⟩
    have hsome : (kinds.findSome? fun kind => reads? kind line).isSome = true :=
      List.findSome?_isSome_iff.2 ⟨o.1, hkinds h.mem_patterns, by rw [hread]; rfl⟩
    obtain ⟨o', ho'⟩ := Option.isSome_iff_exists.1 hsome
    obtain ⟨kind, -, hread'⟩ := List.exists_of_findSome?_eq_some ho'
    rw [ho', h.unique (reads?_eq_some_iff.1 hread').1]

/-- A line is read as it is by the rules. -/
lemma order?_eq_some_iff : order? line = some o ↔ Orders line o := by
  rw [order?_eq_findSome?]
  exact findSome?_eq_some_iff (List.Subset.refl patterns)

/-! ## Lines in another case -/

lemma forall_mem_of_map_toLower {p : Char → Prop} (hp : ∀ c, p c.toLower ↔ p c)
    (h : cs'.map Char.toLower = cs.map Char.toLower) (hcs : ∀ c ∈ cs, p c) : ∀ c ∈ cs', p c := by
  intro c hc
  have hmem : c.toLower ∈ cs.map Char.toLower := h ▸ List.mem_map_of_mem hc
  obtain ⟨d, hd, heq⟩ := List.mem_map.1 hmem
  rw [← hp, ← heq, hp]
  exact hcs d hd

lemma isBlank_of_map_toLower (h : cs'.map Char.toLower = cs.map Char.toLower) (hcs : IsBlank cs) :
    IsBlank cs' :=
  forall_mem_of_map_toLower (fun c => by rw [isBlank_toLower]) h hcs

lemma spells_of_map_toLower (h : cs'.map Char.toLower = cs.map Char.toLower) (hcs : Spells s cs) :
    Spells s cs' := by
  have hfold (cs : List Char) : cs.map foldCase = (cs.map Char.toLower).map foldCase := by
    rw [List.map_map]
    exact List.map_congr_left fun c _ => (foldCase_toLower c).symm
  rw [Spells, hfold cs', h, ← hfold cs]
  exact hcs

lemma flatMap_lowerForm_of_map_toLower (h : cs'.map Char.toLower = cs.map Char.toLower) :
    cs'.flatMap lowerForm = cs.flatMap lowerForm := by
  have hlower (cs : List Char) :
      cs.flatMap lowerForm = (cs.map Char.toLower).flatMap lowerForm := by
    simp only [List.flatMap_map, lowerForm_toLower]
  rw [hlower cs', h, ← hlower cs]

/-- A line orders the same in any case of its ASCII letters, apart from the reason. -/
lemma Orders.exists_of_map_toLower (h : Orders line o)
    (hcase : line'.map Char.toLower = line.map Char.toLower) :
    ∃ reason, Orders line' (o.1, o.2.1, reason) := by
  cases h with
  | hold hword => exact ⟨none, .hold (spells_of_map_toLower hcase hword)⟩
  | resume hword => exact ⟨none, .resume (spells_of_map_toLower hcase hword)⟩
  | decompose hword => exact ⟨none, .decompose (spells_of_map_toLower hcase hword)⟩
  | reassign hword => exact ⟨none, .reassign (spells_of_map_toLower hcase hword)⟩
  | holdFor hword hgap hdash htext =>
    -- The other line falls into the same parts, as they are told apart whatever the case.
    rw [List.map_append, List.map_append, List.map_cons, List.map_eq_append_iff] at hcase
    obtain ⟨front, tail, rfl, hfront, htail⟩ := hcase
    obtain ⟨word', gap', rfl, hword', hgap'⟩ := List.map_eq_append_iff.1 hfront
    obtain ⟨dash', text', rfl, hdash', htext'⟩ := List.map_eq_cons_iff.1 htail
    refine ⟨_, .holdFor (spells_of_map_toLower hword' hword) (isBlank_of_map_toLower hgap' hgap)
      ?_ fun hblank => htext (isBlank_of_map_toLower htext'.symm hblank)⟩
    rw [← isDash_toLower, hdash', isDash_toLower, hdash]
  | skipQa hword hsome hgap htail =>
    rw [List.map_append, List.map_append, List.map_eq_append_iff] at hcase
    obtain ⟨front, tail', rfl, hfront, htail'⟩ := hcase
    obtain ⟨word', gap', rfl, hword', hgap'⟩ := List.map_eq_append_iff.1 hfront
    refine ⟨none, .skipQa (spells_of_map_toLower hword' hword) ?_ ?_
      (spells_of_map_toLower htail' htail)⟩
    · rintro rfl
      exact hsome (List.map_eq_nil_iff.1 hgap'.symm)
    · refine forall_mem_of_map_toLower (fun c => ?_) hgap' hgap
      rw [isBlank_toLower, toLower_eq_iff rfl]
  | priority hword hgap hname hlevel =>
    rw [List.map_append, List.map_append, List.map_eq_append_iff] at hcase
    obtain ⟨front, level', rfl, hfront, hlevel'⟩ := hcase
    obtain ⟨word', gap', rfl, hword', hgap'⟩ := List.map_eq_append_iff.1 hfront
    refine ⟨none, ?_⟩
    rw [← flatMap_lowerForm_of_map_toLower hlevel']
    exact .priority (spells_of_map_toLower hword' hword) (isBlank_of_map_toLower hgap' hgap) hname
      (spells_of_map_toLower hlevel' hlevel)

/-! ## Comments -/

/-- The line of a comment that is read: the first one that shows anything. -/
def readLine? (comment : Comment) : Option (List Char) :=
  shownLine? (comment.body.getD "").toList

/-- The directive that a comment gives by ordering something. -/
def given (comment : Comment) (o : Order) : Directive where
  kind := o.1
  priority := o.2.1
  reason := o.2.2
  commentId := some comment.id
  userId := comment.userId
  timestamp := comment.createdAt

variable {comment : Comment} {d : Directive}

/-- A comment of a human gives what the line orders that is read. -/
lemma ofComment?_eq_bind (h : comment.isBot = false) :
    ofComment? comment =
      (readLine? comment).bind fun line => (order? line).map (given comment) := by
  have hhead : headLine (comment.body.getD "") = (readLine? comment).getD [] :=
    Text.trimChars_firstLine_trimChars _
  rw [ofComment?, hhead, h]
  cases hline : readLine? comment with
  | none => rfl
  | some line =>
    obtain ⟨c, rest, rfl⟩ := List.exists_cons_of_ne_nil (Text.shownLine?_spec hline).2
    rfl

lemma ofComment?_withBody (h : comment.isBot = false) (body : String) :
    ofComment? { comment with body := some body } =
      (shownLine? body.toList).bind fun line => (order? line).map (given comment) := by
  rw [ofComment?_eq_bind (by exact h)]
  rfl

lemma ofComment?_eq_some_iff (h : comment.isBot = false) :
    ofComment? comment = some d ↔
      ∃ line o, readLine? comment = some line ∧ Orders line o ∧ d = given comment o := by
  rw [ofComment?_eq_bind h, Option.bind_eq_some_iff]
  constructor
  · rintro ⟨line, hline, hd⟩
    obtain ⟨o, ho, rfl⟩ := Option.map_eq_some_iff.1 hd
    exact ⟨line, o, hline, order?_eq_some_iff.1 ho, rfl⟩
  · rintro ⟨line, o, hline, ho, rfl⟩
    exact ⟨line, hline, Option.map_eq_some_iff.2 ⟨o, order?_eq_some_iff.2 ho, rfl⟩⟩

lemma ofComment?_eq_none_iff (h : comment.isBot = false) :
    ofComment? comment = none ↔
      ∀ line, readLine? comment = some line → ∀ o, ¬ Orders line o := by
  rw [Option.eq_none_iff_forall_not_mem]
  constructor
  · intro hnone line hline o ho
    exact hnone _ ((ofComment?_eq_some_iff h).2 ⟨line, o, hline, ho, rfl⟩)
  · intro hnone d hd
    obtain ⟨line, o, hline, ho, -⟩ := (ofComment?_eq_some_iff h).1 hd
    exact hnone line hline o ho

/-- The kind and the priority of what a comment gives. -/
def kindAndPriority? (comment : Comment) : Option (DirectiveKind × Option OverridePriority) :=
  (ofComment? comment).map fun d => (d.kind, d.priority)

/-- Two lines that differ in the case of ASCII letters give directives of one kind and priority. -/
lemma kindAndPriority?_of_map_toLower {comment' : Comment} (h : comment.isBot = false)
    (h' : comment'.isBot = false) (hline : readLine? comment = some line)
    (hline' : readLine? comment' = some line')
    (hcase : line'.map Char.toLower = line.map Char.toLower) :
    kindAndPriority? comment' = kindAndPriority? comment := by
  rw [kindAndPriority?, kindAndPriority?, ofComment?_eq_bind h, ofComment?_eq_bind h', hline,
    hline', Option.bind_some, Option.bind_some]
  cases ho : order? line with
  | some o =>
    obtain ⟨reason, ho'⟩ := (order?_eq_some_iff.1 ho).exists_of_map_toLower hcase
    rw [order?_eq_some_iff.2 ho']
    rfl
  | none =>
    cases ho' : order? line' with
    | none => rfl
    | some o' =>
      obtain ⟨reason, hreason⟩ := (order?_eq_some_iff.1 ho').exists_of_map_toLower hcase.symm
      cases ho.symm.trans (order?_eq_some_iff.2 hreason)

/-- A reason is what a line says after the first dash that follows the keyword. -/
lemma Orders.of_reason {reason : String} (h : Orders line o) (hreason : o.2.2 = some reason) :
    o.1 = .hold ∧ reason ≠ "" ∧ Text.trim reason = reason ∧
      ∃ word gap dash text, line = word ++ gap ++ dash :: text ∧ Spells "hold" word ∧
        (∀ c ∈ gap, isDash c = false) ∧ isDash dash = true ∧
        reason = String.ofList (Text.trimChars text) := by
  cases h with
  | @holdFor word gap text dash hword hgap hdash htext =>
    obtain rfl := Option.some.inj hreason
    obtain ⟨-, -, -, htrimmed, -⟩ := Text.exists_trimChars text
    refine ⟨rfl, ?_, ?_, word, gap, dash, text, rfl, hword, fun c hc => ?_, hdash, rfl⟩
    · intro hempty
      exact htext (Text.trimChars_eq_nil_iff.1 (by simpa using hempty))
    · rw [Text.trim, String.toList_ofList, htrimmed.trimChars_eq]
    · by_contra hc'
      cases (hgap c hc).symm.trans (isBlank_of_isDash (by simpa using hc'))
  | _ => cases hreason

/-- For any reason on one line there is a comment that gives a hold with it. -/
lemma exists_orders_hold (hdash : isDash dash = true) {reason : String}
    (hline : ∀ c ∈ reason.toList, Text.isLineEnd c = false) (hreason : ¬ IsBlank reason.toList) :
    ∃ line, shownLine? ("HOLD " ++ dash.toString ++ " " ++ reason).toList = some line ∧
      Orders line (.hold, none, some (Text.trim reason)) := by
  obtain ⟨before, after, hbefore, htrimmed, hafter, hsplit⟩ := Text.exists_trimChars reason.toList
  have hne : Text.trimChars reason.toList ≠ [] := mt Text.trimChars_eq_nil_iff.1 hreason
  rw [Text.trim]
  generalize Text.trimChars reason.toList = shown at htrimmed hsplit hne ⊢
  have hblank : IsBlank (' ' :: before) := List.forall_mem_cons.2 ⟨rfl, hbefore⟩
  have htext : Text.trimChars (' ' :: before ++ shown) = shown := by
    rw [Text.trimChars_append_left hblank, htrimmed.trimChars_eq]
  have hchars : ("HOLD " ++ dash.toString ++ " " ++ reason).toList =
      "HOLD ".toList ++ dash :: ' ' :: reason.toList := by simp
  have hends : ∀ c ∈ "HOLD ".toList ++ dash :: ' ' :: reason.toList, Text.isLineEnd c = false := by
    refine List.forall_mem_append.2 ⟨by simp [Text.isLineEnd], List.forall_mem_cons.2 ⟨?_, ?_⟩⟩
    · exact Text.isLineEnd_of_isBlank_eq_false (isBlank_of_isDash hdash)
    · exact List.forall_mem_cons.2 ⟨rfl, hline⟩
  have hwhole : "HOLD ".toList ++ dash :: ' ' :: reason.toList =
      [] ++ ("HOLD".toList ++ [' '] ++ dash :: (' ' :: before ++ shown)) ++ after ++ [] := by
    simp [hsplit]
  have hshown : Text.IsTrimmed ("HOLD".toList ++ [' '] ++ dash :: (' ' :: before ++ shown)) := by
    constructor
    · intro c hc
      obtain rfl : 'H' = c := by simpa using hc
      rfl
    · rw [← List.cons_append, ← List.append_assoc, List.getLast?_append_of_ne_nil _ hne]
      exact htrimmed.last
  refine ⟨"HOLD".toList ++ [' '] ++ dash :: (' ' :: before ++ shown), ?_, ?_⟩
  · rw [hchars, hwhole]
    refine hshown.shownLine?_eq (by simp) Text.isBlank_nil (fun c hc => hends c ?_) hafter
      Text.endsLine_nil
    rw [hwhole, List.nil_append, List.append_nil]
    exact List.mem_append_left after hc
  · have hword : Spells "hold" "HOLD".toList := by rfl
    have hgap : IsBlank [' '] := List.forall_mem_singleton.2 rfl
    have hshown' : ¬ IsBlank (' ' :: before ++ shown) := fun hblank' =>
      htrimmed.not_isBlank hne (List.forall_mem_append.1 hblank').2
    have horders := Orders.holdFor hword hgap hdash hshown'
    rwa [htext] at horders

/-- A comment gives a directive by the grammar: exactly what the line orders that is read, whatever
stands around that line and whatever the case of its ASCII letters, and whichever pattern is tried
first. -/
structure FollowsGrammar (comment : Comment) : Prop where
  gives : ∀ d, ofComment? comment = some d ↔
    ∃ line o, readLine? comment = some line ∧ Orders line o ∧ d = given comment o
  gives_none : ofComment? comment = none ↔
    ∀ line, readLine? comment = some line → ∀ o, ¬ Orders line o
  line_only : ∀ body : String, shownLine? body.toList = readLine? comment →
    ofComment? { comment with body := some body } = ofComment? comment
  surroundings : ∀ before line gap after : List Char, IsBlank before →
    (∀ c ∈ line, Text.isLineEnd c = false) → Text.IsTrimmed line → line ≠ [] → IsBlank gap →
    Text.EndsLine after →
    ofComment? { comment with body := some (String.ofList (before ++ line ++ gap ++ after)) } =
      ofComment? { comment with body := some (String.ofList line) }
  one_pattern : ∀ line kind kind', (reads? kind line).isSome = true →
    (reads? kind' line).isSome = true → kind = kind'
  any_order : ∀ kinds : List DirectiveKind, kinds.Perm patterns → ∀ line,
    (kinds.findSome? fun kind => reads? kind line) = order? line
  caseless : ∀ (body : String) (line line' : List Char), readLine? comment = some line →
    shownLine? body.toList = some line' → line'.map Char.toLower = line.map Char.toLower →
    kindAndPriority? { comment with body := some body } = kindAndPriority? comment
  reason : ∀ d reason, ofComment? comment = some d → d.reason = some reason →
    d.kind = .hold ∧ reason ≠ "" ∧ Text.trim reason = reason ∧
      ∃ word gap dash text, readLine? comment = some (word ++ gap ++ dash :: text) ∧
        Spells "hold" word ∧ (∀ c ∈ gap, isDash c = false) ∧ isDash dash = true ∧
        reason = String.ofList (Text.trimChars text)
  hold_of_reason : ∀ (dash : Char) (reason : String), isDash dash = true →
    (∀ c ∈ reason.toList, Text.isLineEnd c = false) → ¬ IsBlank reason.toList →
    ofComment? { comment with body := some ("HOLD " ++ dash.toString ++ " " ++ reason) } =
      some (given comment (.hold, none, some (Text.trim reason)))

/-- **The comments of humans follow the grammar of directives.** -/
theorem ofComment?_followsGrammar (comment : Comment) (h : comment.isBot = false) :
    FollowsGrammar comment where
  gives d := ofComment?_eq_some_iff h
  gives_none := ofComment?_eq_none_iff h
  line_only body hline := by
    rw [ofComment?_withBody h, ofComment?_eq_bind h, hline]
  surroundings before line gap after hbefore hline htrimmed hne hgap hafter := by
    have hbare := htrimmed.shownLine?_eq hne Text.isBlank_nil hline Text.isBlank_nil
      Text.endsLine_nil
    rw [List.nil_append, List.append_nil, List.append_nil] at hbare
    rw [ofComment?_withBody h, ofComment?_withBody h, String.toList_ofList, String.toList_ofList,
      htrimmed.shownLine?_eq hne hbefore hline hgap hafter, hbare]
  one_pattern line kind kind' hread hread' := by
    obtain ⟨o, ho⟩ := Option.isSome_iff_exists.1 hread
    obtain ⟨o', ho'⟩ := Option.isSome_iff_exists.1 hread'
    obtain ⟨horders, rfl⟩ := reads?_eq_some_iff.1 ho
    obtain ⟨horders', rfl⟩ := reads?_eq_some_iff.1 ho'
    exact horders.kind_unique horders'
  any_order kinds hkinds line := by
    refine Option.ext fun o => ?_
    rw [findSome?_eq_some_iff hkinds.symm.subset, order?_eq_some_iff]
  caseless body line line' hline hline' hcase := by
    refine kindAndPriority?_of_map_toLower h ?_ hline ?_ hcase
    · exact h
    · exact hline'
  reason d reason hd hreason := by
    obtain ⟨line, o, hline, ho, rfl⟩ := (ofComment?_eq_some_iff h).1 hd
    obtain ⟨hkind, hne, htrim, word, gap, dash, text, rfl, hrest⟩ := ho.of_reason hreason
    exact ⟨hkind, hne, htrim, word, gap, dash, text, hline, hrest⟩
  hold_of_reason dash reason hdash hline hreason := by
    obtain ⟨line, hread, horders⟩ := exists_orders_hold hdash hline hreason
    rw [ofComment?_withBody h, hread, Option.bind_some, order?_eq_some_iff.2 horders]
    rfl

/-- A request to pause, with a reason that has a dash itself. -/
def request : Comment where
  id := "c1"
  body := some " \n\tHold \u2014  wait for v2 - and\u2014 then some \r\nRESUME"
  userId := some "alice"

/-- The request orders a hold up to the end of its line, other dashes included. -/
theorem ofComment?_followsGrammar_request :
    request.isBot = false ∧
      ∃ line o, readLine? request = some line ∧ Orders line o ∧
        { kind := .hold, reason := some "wait for v2 - and\u2014 then some", commentId := some "c1",
          userId := some "alice" } = given request o :=
  ⟨rfl, ((ofComment?_followsGrammar request rfl).gives _).1 (by decide +kernel)⟩

end Directive

end IssueDispatch
