/-!
# Blank characters

The characters with the Unicode `White_Space` property, and trimming them from both ends of a
text. Board names, layout names and size texts are all trimmed by this rule.

* `isBlank` : the `White_Space` table (25 code points);
* `trimBlank` : drop blanks at both ends of a character list; `trim` on `String`;
* `isBlank_of_isWhitespace` : every character core's `Char.isWhitespace` accepts is blank.
-/

namespace Heartbeat.Text

/-- A character is blank when it has the Unicode `White_Space` property: the five C0 controls
`\t` to `\r`, space, next line, no-break space, ogham space mark, the eleven spaces `U+2000` to
`U+200A`, the line and paragraph separators, the narrow no-break space, the medium mathematical
space and the ideographic space. -/
def isBlank (c : Char) : Bool :=
  let n := c.toNat
  (0x09 ≤ n && n ≤ 0x0D) || n == 0x20 || n == 0x85 || n == 0xA0 || n == 0x1680 ||
    (0x2000 ≤ n && n ≤ 0x200A) || n == 0x2028 || n == 0x2029 || n == 0x202F ||
    n == 0x205F || n == 0x3000

def trimBlank (cs : List Char) : List Char :=
  ((cs.dropWhile isBlank).reverse.dropWhile isBlank).reverse

def trim (s : String) : String :=
  String.ofList (trimBlank s.toList)

/-- A text is blank when nothing is left after trimming. -/
def IsBlankText (s : String) : Prop :=
  trimBlank s.toList = []

instance (s : String) : Decidable (IsBlankText s) :=
  inferInstanceAs (Decidable (trimBlank s.toList = []))

theorem isBlank_of_isWhitespace {c : Char} (h : c.isWhitespace = true) : isBlank c = true := by
  simp only [Char.isWhitespace, Bool.or_eq_true, decide_eq_true_eq] at h
  simp only [isBlank, Bool.or_eq_true, Bool.and_eq_true, decide_eq_true_eq, beq_iff_eq]
  rcases h with ((h | h) | h) | h <;> subst h <;> decide

end Heartbeat.Text
