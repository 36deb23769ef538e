import IssueDispatch.Proofs.Json.Numeral

/-!
# Values come back from their JSON texts

`Json.read?_text` says that a value is read back from the text that is written for it.  The values
this holds of have texts that differ from each other as the names of fields, so that no field takes
the place of another one, and no whole number in them has more digits than are read.

What follows a value in a text is a comma, a closing bracket or nothing (`Ends`), and none of these
belongs to a numeral.  `Reads` says of one value that it is read from the front of any such text; it
is shown for every scalar, for lists whose items have it and for objects whose values have it.  The
fuel that a value needs is at most twice the length of its text, because each step into a part goes
with a bracket, a comma or the name of a field.
-/

namespace IssueDispatch

/-- Whether a JSON text can stand for a value: the whole numbers in it are not too long, and the
fields of an object have different texts as their names. -/
inductive Value.IsJson : Value → Prop
  | null : IsJson .null
  | bool (b : Bool) : IsJson (.bool b)
  | int (n : Int) (h : (Nat.toDigits 10 n.natAbs).length ≤ maxIntegerDigits) : IsJson (.int n)
  | float (x : Binary64) : IsJson (.float x)
  | str (s : String) : IsJson (.str s)
  | list (items : List Value) (h : ∀ x ∈ items, IsJson x) : IsJson (.list items)
  | object (fields : List (String × Value)) (hnames : (fields.map Prod.fst).Nodup)
      (h : ∀ field ∈ fields, IsJson field.2) : IsJson (.ofFields fields)

namespace Json

variable {c : Char} {cs rest : List Char} {fuel : Nat}

/-! ## Digits to base sixteen -/

lemma hexValue?_digitChar {d : Nat} (h : d < 16) : hexValue? d.digitChar = some d := by
  revert d
  decide

/-- One more digit. -/
lemma hexNumber?_append_digit {n d : Nat} (hcs : hexNumber? cs = some n) (hd : d < 16) :
    hexNumber? (cs ++ [d.digitChar]) = some (16 * n + d) := by
  rw [hexNumber?] at hcs
  rw [hexNumber?, List.foldlM_append, hcs]
  simp [hexValue?_digitChar hd]

lemma hexNumber?_toDigits (n : Nat) : hexNumber? (Nat.toDigits 16 n) = some n := by
  induction n using Nat.strong_induction_on with
  | _ n ih =>
    rw [Nat.toDigits_eq_if (by decide)]
    split
    case isTrue hn =>
      have hnone : hexNumber? [] = some 0 := rfl
      have hdigit := hexNumber?_append_digit hnone hn
      rwa [List.nil_append, Nat.mul_zero, Nat.zero_add] at hdigit
    case isFalse hn =>
      have hdigits := hexNumber?_append_digit (ih (n / 16) (by omega)) (Nat.mod_lt n (by decide))
      rwa [Nat.div_add_mod] at hdigits

lemma hexNumber?_replicate_append (k : Nat) (cs : List Char) :
    hexNumber? (List.replicate k '0' ++ cs) = hexNumber? cs := by
  induction k with
  | zero => rfl
  | succ k ih => exact ih

/-- A code of sixteen bits has four digits. -/
lemma exists_hexDigits {code : Nat} (h : code < 0x10000) :
    ∃ a b c d, Text.hexDigits 4 code = [a, b, c, d] ∧ hexNumber? [a, b, c, d] = some code := by
  have hlength : (Text.hexDigits 4 code).length = 4 := by
    have hshort : (Nat.toDigits 16 code).length ≤ 4 :=
      (Nat.length_toDigits_le_iff (by decide) (by decide)).2 h
    rw [Text.hexDigits, List.length_append, List.length_replicate]
    omega
  have hvalue : hexNumber? (Text.hexDigits 4 code) = some code :=
    (hexNumber?_replicate_append _ _).trans (hexNumber?_toDigits code)
  match hdigits : Text.hexDigits 4 code, hlength with
  | [a, b, c, d], _ => exact ⟨a, b, c, d, rfl, hdigits ▸ hvalue⟩

/-! ## Texts -/

/-- No character has the code of a surrogate. -/
lemma toNat_bounds (c : Char) :
    c.toNat < 0xD800 ∨ 0xE000 ≤ c.toNat ∧ c.toNat < 0x110000 := c.valid

/-- A character that stands for itself is read as it is. -/
lemma readText?_plain (hquote : c ≠ '"') (hslash : c ≠ '\\') (hcontrol : ¬c.toNat < 32)
    (fuel : Nat) (rest out : List Char) :
    readText? (fuel + 1) (c :: rest) out = readText? fuel rest (c :: out) := by
  rw [readText?.eq_def]
  split
  · rename_i h
    cases h
  · rename_i h _
    cases h
  · rename_i h _
    exact absurd (List.cons.inj h).1 hquote
  · rename_i h
    exact absurd (List.cons.inj h).1 hslash
  · rename_i h
    exact absurd (List.cons.inj h).1 hslash
  · rename_i hfuel h
    obtain ⟨rfl, rfl⟩ := List.cons.inj h
    obtain rfl := Nat.succ.inj hfuel
    rw [if_neg hcontrol]

/-- A code that is no half of a pair is read as its character. -/
lemma readText?_codeEscape (h : c.toNat < 0x10000) (fuel : Nat) (rest out : List Char) :
    readText? (fuel + 1) (codeEscape c.toNat ++ rest) out = readText? fuel rest (c :: out) := by
  obtain ⟨d₁, d₂, d₃, d₄, hdigits, hvalue⟩ := exists_hexDigits h
  have hbounds := toNat_bounds c
  have hsingle (low : Nat) : joinSurrogates? c.toNat low = none := by
    rw [joinSurrogates?, if_neg (by omega)]
  rw [codeEscape, hdigits]
  change readText? (fuel + 1) ('\\' :: 'u' :: d₁ :: d₂ :: d₃ :: d₄ :: rest) out = _
  rw [readText?, hvalue, Option.bind_eq_bind, Option.bind_some]
  extract_lets pair? char
  have hchar : char = c := by
    unfold char
    rw [if_neg (by omega), Char.ofNat_toNat]
  have hpair : pair? = none := by
    unfold pair?
    split
    · split
      · rw [hsingle]
        rfl
      · rfl
    · rfl
  rw [hpair, hchar]

/-- The two halves of a pair are read as its character. -/
lemma readText?_pair {high low : Nat} (hjoin : joinSurrogates? high low = some c.toNat)
    (fuel : Nat) (rest out : List Char) :
    readText? (fuel + 1) (codeEscape high ++ codeEscape low ++ rest) out =
      readText? fuel rest (c :: out) := by
  have hbounds : high < 0x10000 ∧ low < 0x10000 := by
    rw [joinSurrogates?] at hjoin
    split at hjoin
    · omega
    · cases hjoin
  obtain ⟨d₁, d₂, d₃, d₄, hdigits, hhigh⟩ := exists_hexDigits hbounds.1
  obtain ⟨e₁, e₂, e₃, e₄, hdigits', hlow⟩ := exists_hexDigits hbounds.2
  rw [codeEscape, codeEscape, hdigits, hdigits']
  change readText? (fuel + 1) ('\\' :: 'u' :: d₁ :: d₂ :: d₃ :: d₄ ::
    '\\' :: 'u' :: e₁ :: e₂ :: e₃ :: e₄ :: rest) out = _
  rw [readText?, hhigh, Option.bind_eq_bind, Option.bind_some]
  simp only [hlow, hjoin, Option.map_some, Char.ofNat_toNat]

/-- An escaped character is read as the character. -/
lemma readText?_escape (fuel : Nat) (c : Char) (rest out : List Char) :
    readText? (fuel + 1) (escape c ++ rest) out = readText? fuel rest (c :: out) := by
  unfold escape
  split
  case h_1 letter hletter =>
    unfold shortEscapeLetter? at hletter
    split at hletter <;> cases hletter <;> rfl
  case h_2 hlong =>
    have hquote : c ≠ '"' := fun h => by cases h ▸ hlong
    have hslash : c ≠ '\\' := fun h => by cases h ▸ hlong
    split
    case isTrue hascii => exact readText?_plain hquote hslash (by omega) fuel rest out
    split
    case isTrue hshort => exact readText?_codeEscape hshort fuel rest out
    case isFalse hwide =>
      refine readText?_pair ?_ fuel rest out
      have hbounds := toNat_bounds c
      rw [joinSurrogates?, if_pos (by omega)]
      exact congrArg some (by omega)

lemma readText?_flatMap (cs rest : List Char) (out : List Char) (h : cs.length < fuel) :
    readText? fuel (cs.flatMap escape ++ '"' :: rest) out =
      some (String.ofList (out.reverse ++ cs), rest) := by
  induction cs generalizing fuel out with
  | nil =>
    obtain ⟨fuel, rfl⟩ := Nat.exists_eq_succ_of_ne_zero (Nat.ne_of_gt h)
    rw [List.flatMap_nil, List.nil_append, List.append_nil]
    rfl
  | cons c cs ih =>
    obtain ⟨fuel, rfl⟩ := Nat.exists_eq_succ_of_ne_zero (Nat.ne_zero_of_lt h)
    rw [List.length_cons] at h
    rw [List.flatMap_cons, List.append_assoc, readText?_escape, ih (c :: out) (by omega),
      List.reverse_cons, List.append_assoc]
    rfl

lemma quoted_toList (s : String) : (quoted s).toList = '"' :: (s.toList.flatMap escape ++ ['"']) :=
  String.toList_ofList

lemma escape_ne_nil (c : Char) : escape c ≠ [] := by
  unfold escape
  split
  · exact List.cons_ne_nil _ _
  split
  · exact List.cons_ne_nil _ _
  split
  · exact List.cons_ne_nil _ _
  · exact List.append_ne_nil_of_left_ne_nil (List.cons_ne_nil _ _) _

lemma length_le_length_flatMap (cs : List Char) : cs.length ≤ (cs.flatMap escape).length := by
  induction cs with
  | nil => exact Nat.le_refl 0
  | cons c cs ih =>
    have hpos := List.length_pos_iff.2 (escape_ne_nil c)
    rw [List.flatMap_cons, List.length_append, List.length_cons]
    omega

/-- A text in quotation marks is read as the text. -/
lemma readText?_quoted (s : String) (rest : List Char) :
    ∃ inner, (quoted s).toList ++ rest = '"' :: inner ∧
      readText? (inner.length + 1) inner [] = some (s, rest) := by
  refine ⟨s.toList.flatMap escape ++ '"' :: rest, ?_, ?_⟩
  · rw [quoted_toList, List.cons_append, List.append_assoc]
    rfl
  · have hlength := length_le_length_flatMap s.toList
    rw [readText?_flatMap _ _ _ (by rw [List.length_append]; omega), List.reverse_nil,
      List.nil_append, String.ofList_toList]

/-! ## Numbers -/

variable {negative : Bool} {parts : Value × List Char}

/-- What is read as a number starts with a digit. -/
lemma exists_digit_of_readNumber? (h : readNumber? negative cs = some parts) :
    ∃ c tail, cs = c :: tail ∧ c.isDigit = true := by
  by_contra hnot
  have hnext : NoDigitNext cs := fun c hc => by
    obtain ⟨tail, rfl⟩ := List.head?_eq_some_iff.1 hc
    exact Bool.eq_false_iff.2 fun hdigit => hnot ⟨c, tail, rfl, hdigit⟩
  have hnone : takeWhole cs = ([], cs) := by
    have hdigits : takeAsciiDigits ([] ++ cs) = ([], cs) :=
      takeAsciiDigits_append areDigits_nil hnext
    rw [List.nil_append] at hdigits
    rw [takeWhole, hdigits]
  rw [readNumber?, hnone] at h
  cases h

lemma skipSpace_cons (h : isSpace c = false) : skipSpace (c :: rest) = c :: rest := by
  rw [skipSpace, List.dropWhile_cons, h]
  rfl

lemma isSpace_of_isDigit (h : c.isDigit = true) : isSpace c = false := by
  obtain ⟨hlow, hhigh⟩ := bounds_of_isDigit h
  rw [isSpace, decide_eq_false_iff_not]
  rintro (rfl | rfl | rfl | rfl) <;> exact absurd hlow (by decide)

/-- A number without a sign is read as such. -/
lemma readValue?_of_readNumber? (h : readNumber? false cs = some parts) :
    readValue? (fuel + 1) cs = some parts := by
  obtain ⟨c, tail, rfl, hdigit⟩ := exists_digit_of_readNumber? h
  rw [readValue?.eq_def]
  dsimp only
  rw [skipSpace_cons (isSpace_of_isDigit hdigit)]
  split
  -- The last pattern is the one without a character of its own.
  case h_12 => exact h
  case h_1 heq => cases heq
  all_goals
    rename_i heq
    obtain ⟨rfl, -⟩ := List.cons.inj heq
    cases hdigit

/-- A number with a minus sign is read as such. -/
lemma readValue?_minus (h : readNumber? true cs = some parts) :
    readValue? (fuel + 1) ('-' :: cs) = some parts := by
  obtain ⟨c, tail, rfl, hdigit⟩ := exists_digit_of_readNumber? h
  rw [readValue?.eq_def]
  dsimp only
  rw [skipSpace_cons (by decide)]
  split
  -- The last three patterns are a minus sign before the word for infinity, a minus sign before
  -- anything else, and no character of its own.
  case h_12 hminus => exact absurd rfl (hminus (c :: tail))
  case h_11 heq =>
    obtain ⟨-, rfl⟩ := List.cons.inj heq
    exact h
  case h_10 heq =>
    obtain ⟨rfl, -⟩ := List.cons.inj (List.cons.inj heq).2
    cases hdigit
  case h_1 heq => cases heq
  all_goals
    rename_i heq
    exact absurd (List.cons.inj heq).1 (by decide)

/-! ## Scalars -/

open Binary64

/-- What the text of a value starts with: no space, and not the end of a list. -/
def Starts (cs : List Char) : Prop := ∃ c tail, cs = c :: tail ∧ isSpace c = false ∧ c ≠ ']'

lemma starts_cons (hspace : isSpace c = false) (hc : c ≠ ']') (tail : List Char) :
    Starts (c :: tail) := ⟨c, tail, rfl, hspace, hc⟩

lemma starts_of_isDigit (h : c.isDigit = true) (tail : List Char) : Starts (c :: tail) :=
  starts_cons (isSpace_of_isDigit h) (fun hc => by cases hc.symm ▸ h) tail

/-- A value is read from its text, whatever the text is followed by. -/
structure Reads (v : Value) : Prop where
  starts : Starts (text v).toList
  reads : ∀ fuel rest, 2 * (text v).toList.length ≤ fuel → Ends rest →
    readValue? fuel ((text v).toList ++ rest) = some (v, rest)

/-- A value without parts needs no more fuel than one step. -/
lemma reads_of_succ {v : Value} (hstarts : Starts (text v).toList)
    (h : ∀ fuel rest, Ends rest →
      readValue? (fuel + 1) ((text v).toList ++ rest) = some (v, rest)) :
    Reads v := by
  refine ⟨hstarts, fun fuel rest hfuel hrest => ?_⟩
  obtain ⟨c, tail, htext, -⟩ := hstarts
  rw [htext, List.length_cons] at hfuel
  obtain ⟨fuel, rfl⟩ := Nat.exists_eq_succ_of_ne_zero (show fuel ≠ 0 by omega)
  exact h fuel rest hrest

lemma reads_null : Reads .null :=
  reads_of_succ (starts_cons (by decide) (by decide) _) fun _ _ _ => rfl

lemma reads_bool (b : Bool) : Reads (.bool b) := by
  cases b with
  | false => exact reads_of_succ (starts_cons (by decide) (by decide) _) fun _ _ _ => rfl
  | true => exact reads_of_succ (starts_cons (by decide) (by decide) _) fun _ _ _ => rfl

lemma isWhole_toDigits (n : Nat) : IsWhole (Nat.toDigits 10 n) := by
  by_cases hn : n = 0
  · subst hn
    exact isWhole_zero
  · have hdigits := isWhole_append (isSignificant_toDigits hn) 0
    rwa [List.replicate_zero, List.append_nil] at hdigits

lemma decimalInt_toList (n : Int) : (Text.decimalInt n).toList =
    (if n < 0 then ['-'] else []) ++ Nat.toDigits 10 n.natAbs := by
  have hchars : (Text.decimalDigits n.natAbs).toList = Nat.toDigits 10 n.natAbs :=
    String.toList_ofList
  rw [Text.decimalInt]
  split
  · rw [String.toList_append, hchars]
    rfl
  · rw [hchars, List.nil_append]

lemma reads_int {n : Int} (h : (Nat.toDigits 10 n.natAbs).length ≤ maxIntegerDigits) :
    Reads (.int n) := by
  have hwhole := isWhole_toDigits n.natAbs
  have hvalue : ofDigits (digitValues (Nat.toDigits 10 n.natAbs)) = n.natAbs := by
    rw [ofDigits_digitValues, Nat.ofDigitChars_ten_toDigits]
  refine reads_of_succ ?_ fun fuel rest hrest => ?_
  · rw [text, decimalInt_toList]
    obtain ⟨c, tail, hdigits⟩ := List.exists_cons_of_ne_nil hwhole.nonempty
    split
    · exact starts_cons (by decide) (by decide) _
    · rw [hdigits]
      exact starts_of_isDigit (hwhole.digits c (hdigits ▸ List.mem_cons_self)) tail
  · rw [text, decimalInt_toList]
    by_cases hneg : n < 0
    · rw [if_pos hneg]
      refine readValue?_minus ((readNumber?_int hwhole h hrest).trans ?_)
      rw [hvalue, if_pos rfl, show -(n.natAbs : Int) = n by omega]
    · rw [if_neg hneg]
      refine readValue?_of_readNumber? ((readNumber?_int hwhole h hrest).trans ?_)
      rw [hvalue, if_neg Bool.false_ne_true, show (n.natAbs : Int) = n by omega]

lemma text_finite {u : Int} (fits : Fits u) (hu : u ≠ 0) :
    (text (.float (.finite u fits))).toList =
      (if u < 0 then ['-'] else []) ++ (shortestLayout u.natAbs).toList := by
  change (shortest (.finite u fits)).toList = _
  rw [shortest, if_neg hu]
  change ((if u < 0 then "-" else "") ++ shortestLayout u.natAbs).toList = _
  rw [String.toList_append]
  split <;> rfl

/-- The two zeros. -/
lemma readNumber?_zero {negative : Bool} (hrest : Ends rest) :
    readNumber? negative ("0.0".toList ++ rest) = some (.float (signedZero negative), rest) := by
  have hzero := isWhole_zero
  have hfraction : takeFraction ('.' :: (['0'] ++ rest)) = (['0'], rest) :=
    takeFraction_append hzero.digits hzero.nonempty hrest.noDigitNext
  exact readNumber?_eq_float (takeWhole_append hzero (noDigitNext_cons (by decide))) hfraction
    (takeExponent_of_ends hrest) hzero.nonempty (Or.inl hzero.nonempty)

lemma reads_float (x : Binary64) : Reads (.float x) := by
  cases x with
  | nan => exact reads_of_succ (starts_cons (by decide) (by decide) _) fun _ _ _ => rfl
  | infinity negative =>
    cases negative with
    | false => exact reads_of_succ (starts_cons (by decide) (by decide) _) fun _ _ _ => rfl
    | true => exact reads_of_succ (starts_cons (by decide) (by decide) _) fun _ _ _ => rfl
  | negZero =>
    exact reads_of_succ (starts_cons (by decide) (by decide) _) fun _ _ hrest =>
      readValue?_minus (readNumber?_zero hrest)
  | finite u fits =>
    by_cases hu : u = 0
    · subst hu
      change Reads (.float zero)
      exact reads_of_succ (starts_cons (by decide) (by decide) _) fun _ _ hrest =>
        readValue?_of_readNumber? (readNumber?_zero hrest)
    · have hmagnitude : u.natAbs ≠ 0 := by omega
      have hread (rest : List Char) (hrest : Ends rest) :
          readNumber? (decide (u < 0)) ((shortestLayout u.natAbs).toList ++ rest) =
            some (.float (.finite u fits), rest) := by
        have hunits : (if decide (u < 0) = true then -(u.natAbs : Int) else u.natAbs) = u := by
          simp only [decide_eq_true_eq]
          split <;> omega
        refine (readNumber?_shortestLayout hmagnitude (hunits.symm ▸ fits) hrest).trans ?_
        simp only [hunits]
      refine reads_of_succ ?_ fun fuel rest hrest => ?_
      · obtain ⟨c, tail, hlayout, hc⟩ := exists_digit_of_readNumber? (hread [] (by simp [Ends]))
        rw [List.append_nil] at hlayout
        rw [text_finite fits hu, hlayout]
        split
        · exact starts_cons (by decide) (by decide) _
        · exact starts_of_isDigit hc tail
      · have hvalue := hread rest hrest
        rw [text_finite fits hu]
        by_cases hneg : u < 0
        · rw [decide_eq_true hneg] at hvalue
          rw [if_pos hneg]
          exact readValue?_minus hvalue
        · rw [decide_eq_false hneg] at hvalue
          rw [if_neg hneg]
          exact readValue?_of_readNumber? hvalue

lemma reads_str (s : String) : Reads (.str s) := by
  refine reads_of_succ ?_ fun fuel rest _ => ?_
  · rw [text, quoted_toList]
    exact starts_cons (by decide) (by decide) _
  · obtain ⟨inner, hquoted, hread⟩ := readText?_quoted s rest
    rw [text, hquoted]
    change (readText? (inner.length + 1) inner []).map _ = _
    rw [hread]
    rfl

/-! ## Lists -/

/-- The items of a list in its text. -/
def itemChars (items : List Value) : List Char :=
  [',', ' '].intercalate (items.map fun x => (text x).toList)

lemma itemChars_cons_cons (x y : Value) (items : List Value) :
    itemChars (x :: y :: items) = (text x).toList ++ ',' :: ' ' :: itemChars (y :: items) := by
  rw [itemChars, List.map_cons, List.map_cons, List.intercalate_cons_cons, List.append_assoc]
  rfl

lemma itemTexts_eq (items : List Value) : itemTexts items = items.map text := by
  induction items with
  | nil => rfl
  | cons x items ih => rw [itemTexts, ih, List.map_cons]

lemma text_list (items : List Value) :
    (text (.list items)).toList = '[' :: (itemChars items ++ [']']) := by
  rw [text, itemTexts_eq, String.toList_append, String.toList_append, String.toList_intercalate,
    List.map_map]
  rfl

lemma ends_cons (h : c = ',' ∨ c = ']' ∨ c = '\x7d') : Ends (c :: rest) := by
  rintro c' hc'
  obtain rfl := Option.some.inj hc'
  exact h

/-- A space before a value is skipped. -/
lemma readValue?_space (fuel : Nat) (cs : List Char) :
    readValue? fuel (' ' :: cs) = readValue? fuel cs := by
  cases fuel <;> rfl

lemma readItems?_space (fuel : Nat) (cs : List Char) (done : List Value) :
    readItems? fuel (' ' :: cs) done = readItems? fuel cs done := by
  cases fuel with
  | zero => rfl
  | succ fuel => rw [readItems?, readItems?, readValue?_space]

/-- The items of a list are read one after the other. -/
lemma readItems?_itemChars {items : List Value} (hne : items ≠ []) (h : ∀ x ∈ items, Reads x)
    (hfuel : 2 * (itemChars items).length < fuel) (done : List Value) (rest : List Char) :
    readItems? fuel (itemChars items ++ ']' :: rest) done =
      some (.list (done.reverse ++ items), rest) := by
  induction items generalizing fuel done with
  | nil => exact absurd rfl hne
  | cons x items ih =>
    obtain ⟨fuel, rfl⟩ := Nat.exists_eq_succ_of_ne_zero (Nat.ne_zero_of_lt hfuel)
    obtain ⟨hx, hitems⟩ := List.forall_mem_cons.1 h
    cases items with
    | nil =>
      have hone : itemChars [x] = (text x).toList := by
        simp [itemChars]
      rw [hone] at hfuel ⊢
      rw [readItems?, hx.reads fuel _ (by omega) (ends_cons (by decide)), Option.bind_eq_bind,
        Option.bind_some]
      change some (Value.list (x :: done).reverse, rest) = _
      rw [List.reverse_cons]
    | cons y items =>
      rw [itemChars_cons_cons, List.length_append, List.length_cons, List.length_cons] at hfuel
      rw [itemChars_cons_cons, List.append_assoc, List.cons_append, readItems?,
        hx.reads fuel _ (by omega) (ends_cons (by decide)), Option.bind_eq_bind, Option.bind_some]
      change readItems? fuel (' ' :: (itemChars (y :: items) ++ ']' :: rest)) (x :: done) = _
      rw [readItems?_space, ih (List.cons_ne_nil _ _) hitems (by omega), List.reverse_cons,
        List.append_assoc]
      rfl

/-- The text of several parts starts as that of the first one. -/
lemma exists_intercalate_eq (c : Char) (tail : List Char) (others : List (List Char)) :
    ∃ tail', [',', ' '].intercalate ((c :: tail) :: others) = c :: tail' := by
  cases others with
  | nil => exact ⟨tail, List.intercalate_singleton⟩
  | cons second others =>
    rw [List.intercalate_cons_cons, List.append_assoc, List.cons_append]
    exact ⟨_, rfl⟩

lemma readValue?_list {tail : List Char} (hspace : isSpace c = false) (hc : c ≠ ']') :
    readValue? (fuel + 1) ('[' :: c :: tail) = readItems? fuel (c :: tail) [] := by
  rw [readValue?.eq_def]
  dsimp only
  rw [skipSpace_cons (by decide)]
  split
  -- The third pattern is the opening bracket.
  case h_3 heq =>
    obtain ⟨-, rfl⟩ := List.cons.inj heq
    rw [skipSpace_cons hspace]
    split
    · rename_i heq
      exact absurd (List.cons.inj heq).1 hc
    · rfl
  case h_12 hlist _ _ _ _ _ _ _ _ => exact absurd rfl (hlist (c :: tail))
  case h_1 heq => cases heq
  all_goals
    rename_i heq
    exact absurd (List.cons.inj heq).1 (by decide)

lemma reads_list {items : List Value} (h : ∀ x ∈ items, Reads x) : Reads (.list items) := by
  refine ⟨?_, fun fuel rest hfuel hrest => ?_⟩
  · rw [text_list]
    exact starts_cons (by decide) (by decide) _
  · rw [text_list] at hfuel ⊢
    obtain ⟨fuel, rfl⟩ := Nat.exists_eq_succ_of_ne_zero (Nat.ne_zero_of_lt hfuel)
    cases items with
    | nil => rfl
    | cons x items =>
      obtain ⟨c, first, htext, hspace, hc⟩ := (h x List.mem_cons_self).starts
      obtain ⟨tail, hchars⟩ :=
        exists_intercalate_eq c first (items.map fun y => (text y).toList)
      rw [← htext] at hchars
      have hsame : itemChars (x :: items) = c :: tail := hchars
      rw [List.length_cons, List.length_append, List.length_singleton] at hfuel
      have hitems : readItems? fuel (itemChars (x :: items) ++ ']' :: rest) [] = _ :=
        readItems?_itemChars (List.cons_ne_nil x items) h (by omega) [] rest
      rw [hsame] at hitems ⊢
      rw [List.cons_append, List.append_assoc, List.cons_append, readValue?_list hspace hc]
      exact hitems

/-! ## Objects -/

/-- Named fields as the fields of an object. -/
def named (fields : List (String × Value)) : Fields :=
  fields.map fun field => (.str field.1, field.2)

lemma lookup?_named {fields : List (String × Value)} {name : String}
    (h : name ∉ fields.map Prod.fst) : Value.lookup? (named fields) (.str name) = none := by
  rw [Value.lookup?, Option.map_eq_none_iff, List.find?_eq_none]
  intro field hfield
  obtain ⟨source, hsource, rfl⟩ := List.mem_map.1 hfield
  intro hsame
  have hname : source.1 = name := beq_iff_eq.1 hsame
  exact h (hname ▸ List.mem_map_of_mem hsource)

/-- A field with a new name comes last. -/
lemma insert_named {fields : List (String × Value)} {name : String}
    (h : name ∉ fields.map Prod.fst) (v : Value) :
    Value.insert (named fields) (.str name) v = named (fields ++ [(name, v)]) := by
  rw [Value.insert, lookup?_named h, if_neg (by decide), named, named, List.map_append]
  rfl

/-- A field in the text of an object. -/
def fieldChars (field : String × Value) : List Char :=
  (quoted field.1).toList ++ ':' :: ' ' :: (text field.2).toList

/-- The fields of an object in its text. -/
def fieldsChars (fields : List (String × Value)) : List Char :=
  [',', ' '].intercalate (fields.map fieldChars)

lemma fieldsChars_cons_cons (field field' : String × Value) (fields : List (String × Value)) :
    fieldsChars (field :: field' :: fields) =
      fieldChars field ++ ',' :: ' ' :: fieldsChars (field' :: fields) := by
  rw [fieldsChars, List.map_cons, List.map_cons, List.intercalate_cons_cons, List.append_assoc]
  rfl

lemma fieldTexts_named (fields : List (String × Value)) :
    (fieldTexts (named fields)).map String.toList = fields.map fieldChars := by
  induction fields with
  | nil => rfl
  | cons field fields ih =>
    change (fieldTexts ((.str field.1, field.2) :: named fields)).map String.toList = _
    rw [fieldTexts, List.map_cons, List.map_cons, ih, String.toList_append, String.toList_append,
      List.append_assoc]
    rfl

lemma text_ofFields (fields : List (String × Value)) :
    (text (.ofFields fields)).toList = '\x7b' :: (fieldsChars fields ++ ['\x7d']) := by
  change (text (.object (named fields))).toList = _
  rw [text, String.toList_append, String.toList_append, String.toList_intercalate,
    fieldTexts_named]
  rfl

lemma readFields?_space (fuel : Nat) (cs : List Char) (done : Fields) :
    readFields? fuel (' ' :: cs) done = readFields? fuel cs done := by
  cases fuel <;> rfl

/-- A field is added to the fields before it, and what follows says whether it is the last one. -/
lemma readFields?_fieldChars {field : String × Value} (h : Reads field.2)
    (hfuel : 2 * (fieldChars field).length ≤ fuel) (done : Fields) (rest : List Char)
    (last : Bool) :
    readFields? (fuel + 1) (fieldChars field ++ (if last then '\x7d' else ',') :: rest) done =
      if last then some (.object (Value.insert done (.str field.1) field.2), rest)
      else readFields? fuel rest (Value.insert done (.str field.1) field.2) := by
  generalize hmark : (if last then '\x7d' else ',') = mark
  have hends : Ends (mark :: rest) := ends_cons (by cases last <;> simp [← hmark])
  obtain ⟨inner, hquoted, hname⟩ :=
    readText?_quoted field.1 (':' :: ' ' :: ((text field.2).toList ++ mark :: rest))
  rw [fieldChars, List.length_append, List.length_cons, List.length_cons] at hfuel
  have hvalue := h.reads fuel (mark :: rest) (by omega) hends
  rw [fieldChars, List.append_assoc, List.cons_append, List.cons_append, hquoted,
    readFields?.eq_def]
  dsimp only
  rw [skipSpace_cons (by decide)]
  change (readText? (inner.length + 1) inner []).bind _ = _
  rw [hname, Option.bind_some]
  change (readValue? fuel (' ' :: ((text field.2).toList ++ mark :: rest))).bind _ = _
  rw [readValue?_space, hvalue, Option.bind_some]
  subst hmark
  cases last <;> rfl

/-- The fields of an object are read one after the other. -/
lemma readFields?_fieldsChars {fields : List (String × Value)} (hne : fields ≠ [])
    (h : ∀ field ∈ fields, Reads field.2) (hfuel : 2 * (fieldsChars fields).length < fuel)
    (done : List (String × Value)) (hnames : ((done ++ fields).map Prod.fst).Nodup)
    (rest : List Char) :
    readFields? fuel (fieldsChars fields ++ '\x7d' :: rest) (named done) =
      some (.ofFields (done ++ fields), rest) := by
  induction fields generalizing fuel done with
  | nil => exact absurd rfl hne
  | cons field fields ih =>
    obtain ⟨fuel, rfl⟩ := Nat.exists_eq_succ_of_ne_zero (Nat.ne_zero_of_lt hfuel)
    obtain ⟨hfield, hfields⟩ := List.forall_mem_cons.1 h
    have hnew : field.1 ∉ done.map Prod.fst := by
      rw [List.map_append, List.map_cons, List.nodup_append] at hnames
      exact fun hmem => hnames.2.2 _ hmem _ List.mem_cons_self rfl
    cases fields with
    | nil =>
      have hone : fieldsChars [field] = fieldChars field := by
        simp [fieldsChars]
      rw [hone] at hfuel ⊢
      refine (readFields?_fieldChars hfield (by omega) (named done) rest true).trans ?_
      rw [if_pos rfl, insert_named hnew]
      rfl
    | cons field' fields =>
      rw [fieldsChars_cons_cons, List.length_append, List.length_cons, List.length_cons] at hfuel
      rw [fieldsChars_cons_cons, List.append_assoc, List.cons_append, List.cons_append]
      refine (readFields?_fieldChars hfield (by omega) (named done) _ false).trans ?_
      rw [if_neg Bool.false_ne_true, readFields?_space, insert_named hnew,
        ih (List.cons_ne_nil _ _) hfields (by omega) _ (by rwa [List.append_assoc]),
        List.append_assoc]
      rfl

lemma readValue?_object {tail : List Char} :
    readValue? (fuel + 1) ('\x7b' :: '"' :: tail) = readFields? fuel ('"' :: tail) [] := rfl

lemma reads_ofFields {fields : List (String × Value)} (hnames : (fields.map Prod.fst).Nodup)
    (h : ∀ field ∈ fields, Reads field.2) : Reads (.ofFields fields) := by
  refine ⟨?_, fun fuel rest hfuel hrest => ?_⟩
  · rw [text_ofFields]
    exact starts_cons (by decide) (by decide) _
  · rw [text_ofFields] at hfuel ⊢
    obtain ⟨fuel, rfl⟩ := Nat.exists_eq_succ_of_ne_zero (Nat.ne_zero_of_lt hfuel)
    cases fields with
    | nil => rfl
    | cons field fields =>
      obtain ⟨tail, hchars⟩ : ∃ tail, fieldsChars (field :: fields) = '"' :: tail := by
        rw [fieldsChars, List.map_cons, fieldChars, quoted_toList]
        exact exists_intercalate_eq _ _ _
      rw [List.length_cons, List.length_append, List.length_singleton] at hfuel
      have hfields : readFields? fuel (fieldsChars (field :: fields) ++ '\x7d' :: rest) [] = _ :=
        readFields?_fieldsChars (List.cons_ne_nil field fields) h (by omega) [] hnames rest
      rw [hchars] at hfields ⊢
      rw [List.cons_append, List.append_assoc, List.cons_append, readValue?_object]
      exact hfields

/-! ## Values -/

lemma reads_of_isJson {v : Value} (h : v.IsJson) : Reads v := by
  induction h with
  | null => exact reads_null
  | bool b => exact reads_bool b
  | int n hlength => exact reads_int hlength
  | float x => exact reads_float x
  | str s => exact reads_str s
  | list items _ ih => exact reads_list ih
  | object fields hnames _ ih => exact reads_ofFields hnames ih

/-- A value is read back from its JSON text. -/
theorem read?_text {v : Value} (h : v.IsJson) : read? (text v) = some v := by
  have hread := (reads_of_isJson h).reads (2 * (text v).toList.length + 2) [] (by omega)
    (by simp [Ends])
  rw [List.append_nil] at hread
  rw [read?, hread]
  rfl

/-! ## Values without a JSON text -/

lemma refusal?_list_eq_none_iff {items : List Value} :
    refusal? (.list items) = none ↔ ∀ x ∈ items, refusal? x = none := by
  rw [refusal?]
  induction items with
  | nil => simp [itemRefusal?]
  | cons x items ih => simp [itemRefusal?, ih]

lemma refusal?_ofFields_eq_none_iff {fields : List (String × Value)} :
    refusal? (.ofFields fields) = none ↔ ∀ field ∈ fields, refusal? field.2 = none := by
  rw [Value.ofFields, refusal?]
  induction fields with
  | nil => simp [fieldRefusal?]
  | cons field fields ih => simp [fieldRefusal?, keyRefusal?, foreignKind?, ih]

/-- A value for which a JSON text can stand has one. -/
lemma refusal?_eq_none_of_isJson {v : Value} (h : v.IsJson) : refusal? v = none := by
  induction h with
  | null | bool _ | int _ _ | float _ | str _ => rfl
  | list items _ ih => exact refusal?_list_eq_none_iff.2 ih
  | object fields _ _ ih => exact refusal?_ofFields_eq_none_iff.2 ih

end Json

end IssueDispatch
