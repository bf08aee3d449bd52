/-!
# Switches written as text

A switch is read from text by removing the blank characters around it and
comparing the rest, letter case aside, with the four words that mean "on".

Blank are the characters that Unicode gives the bidirectional class of white
space, of a paragraph or of a segment separator, together with its space
separators: the table in `isBlank`.  The zero-width space U+200B and the byte
order mark U+FEFF are not among them.
-/

namespace ConfigSpace.Text

/-- The blank characters. -/
def isBlank (c : Char) : Bool :=
  let n := c.toNat
  (0x09 ≤ n && n ≤ 0x0D) || (0x1C ≤ n && n ≤ 0x20) || n == 0x85 || n == 0xA0 || n == 0x1680 ||
    (0x2000 ≤ n && n ≤ 0x200A) || n == 0x2028 || n == 0x2029 || n == 0x202F || n == 0x205F ||
    n == 0x3000

/-- Every character that core calls white space is blank. -/
theorem isBlank_of_isWhitespace (c : Char) (h : c.isWhitespace) : isBlank c := by
  simp only [Char.isWhitespace, Bool.or_eq_true, decide_eq_true_eq] at h
  rcases h with ((rfl | rfl) | rfl) | rfl <;> decide

/-- The characters of `s` without the blank ones at either end. -/
def trim (s : List Char) : List Char :=
  ((s.dropWhile isBlank).reverse.dropWhile isBlank).reverse

/-- Whether a switch written as `s` is on.  The four words hold ASCII letters
only, and no character outside ASCII has one of those letters as its lower case,
so the ASCII case map decides the comparison. -/
def isOn (s : String) : Bool :=
  String.ofList ((trim s.toList).map Char.toLower) ∈ ["1", "true", "yes", "on"]

end ConfigSpace.Text
