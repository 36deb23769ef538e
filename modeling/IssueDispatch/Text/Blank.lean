/-!
# Blanks and lines

Blanks are the white space of Unicode together with the four information separators U+001C to
U+001F.  `trim` drops them at both ends of a text.  Lines are cut at every line boundary of
Unicode, a carriage return followed by a line feed counting as one boundary.
-/

namespace IssueDispatch.Text

/-- Whether a character is blank. -/
def isBlank (c : Char) : Bool :=
  let n := c.toNat
  (9 ≤ n && n ≤ 13) || (28 ≤ n && n ≤ 32) || n == 0x85 || n == 0xA0 || n == 0x1680 ||
    (0x2000 ≤ n && n ≤ 0x200A) || n == 0x2028 || n == 0x2029 || n == 0x202F || n == 0x205F ||
    n == 0x3000

/-- Drops the blanks at both ends. -/
def trimChars (cs : List Char) : List Char :=
  ((cs.dropWhile isBlank).reverse.dropWhile isBlank).reverse

/-- Drops the blanks at both ends of a text. -/
def trim (s : String) : String := String.ofList (trimChars s.toList)

/-- Whether a character ends a line. -/
def isLineEnd (c : Char) : Bool :=
  let n := c.toNat
  (10 ≤ n && n ≤ 13) || (28 ≤ n && n ≤ 30) || n == 0x85 || n == 0x2028 || n == 0x2029

/-- The characters before the first line boundary. -/
def firstLine (cs : List Char) : List Char := cs.takeWhile fun c => !isLineEnd c

/-- Every line end is blank, so a text without leading blanks has a first line to show. -/
theorem isBlank_of_isLineEnd {c : Char} (h : isLineEnd c = true) : isBlank c = true := by
  simp only [isLineEnd, isBlank, Bool.or_eq_true, Bool.and_eq_true, decide_eq_true_eq,
    beq_iff_eq] at h ⊢
  omega

/-- Changes ASCII capitals to small letters and leaves every other character alone. -/
def lowerAscii (s : String) : String := String.ofList (s.toList.map Char.toLower)

end IssueDispatch.Text
