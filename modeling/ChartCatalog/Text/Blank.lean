/-!
# Blank characters and trimming

Configuration values, URLs, digests and icon references are compared after their
surrounding blanks are cut away. Blank here is the Unicode `White_Space` property:
the ASCII tab, line feed, vertical tab, form feed, carriage return and space, the
next-line control, the no-break spaces and the typographic spaces of the General
Punctuation block, and the line, paragraph and ideographic separators.

A second, narrower class, `isAsciiBlank`, is the one used to decide whether a byte
string is empty in substance: space, tab, line feed, form feed and carriage return,
without the vertical tab.
-/

set_option autoImplicit false

namespace ChartCatalog.Text

/-- A character is blank when it has the Unicode `White_Space` property. -/
def isBlank (c : Char) : Bool :=
  let n := c.toNat
  (0x09 ≤ n && n ≤ 0x0D) || n == 0x20 || n == 0x85 || n == 0xA0 || n == 0x1680 ||
    (0x2000 ≤ n && n ≤ 0x200A) || n == 0x2028 || n == 0x2029 || n == 0x202F ||
    n == 0x205F || n == 0x3000

/-- A byte is an ASCII blank: space, tab, line feed, form feed or carriage return. -/
def isAsciiBlankByte (b : UInt8) : Bool :=
  b == 0x20 || b == 0x09 || b == 0x0A || b == 0x0C || b == 0x0D

/-- The characters left after dropping blanks at the front. -/
def dropBlanks (cs : List Char) : List Char := cs.dropWhile isBlank

/-- The characters left after dropping blanks at both ends. -/
def trimChars (cs : List Char) : List Char :=
  (dropBlanks (dropBlanks cs).reverse).reverse

/-- Cuts blanks from both ends of a text. -/
def trim (s : String) : String := String.ofList (trimChars s.toList)

/-- Cuts blanks from the end of a text only. -/
def trimEnd (s : String) : String := String.ofList (dropBlanks s.toList.reverse).reverse

/-- A text is blank when nothing is left once its blanks are cut. -/
def isBlankText (s : String) : Bool := s.toList.all isBlank

@[simp] theorem trimChars_nil : trimChars [] = [] := rfl

/-- Trimming leaves no blank at the front. -/
theorem dropBlanks_head (cs : List Char) (c : Char) (rest : List Char)
    (h : dropBlanks cs = c :: rest) : isBlank c = false := by
  have hne : cs.dropWhile isBlank ≠ [] := by
    unfold dropBlanks at h
    rw [h]
    simp
  have := @List.head_dropWhile_not _ isBlank cs hne
  unfold dropBlanks at h
  simpa [h] using this

end ChartCatalog.Text
