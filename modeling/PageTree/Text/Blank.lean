/-!
# Blanks

Two notions of white space.  `Text.isWhiteSpace` is the Unicode property of that
name; `Text.isBlank` also counts the four information separators of ASCII.  The
zero-width space and the byte-order mark belong to neither.

`Text.trim` drops blanks at both ends and keeps those inside; `Text.trimWhere`
does the same for any notion.
-/

namespace PageTree.Text

/-- The characters with the Unicode property of white space. -/
def isWhiteSpace (char : Char) : Bool :=
  let code := char.toNat
  (0x09 ≤ code && code ≤ 0x0d) || code == 0x20 ||
    code == 0x85 || code == 0xa0 || code == 0x1680 ||
    (0x2000 ≤ code && code ≤ 0x200a) || code == 0x2028 || code == 0x2029 ||
    code == 0x202f || code == 0x205f || code == 0x3000

/-- The separators of files, groups, records and units. -/
def isInformationSeparator (char : Char) : Bool :=
  0x1c ≤ char.toNat && char.toNat ≤ 0x1f

/-- White space around a text. -/
def isBlank (char : Char) : Bool :=
  isWhiteSpace char || isInformationSeparator char

/-- Drop the characters at the end that pass a test. -/
def trimEndWhere (drops : Char → Bool) (chars : List Char) : List Char :=
  (chars.reverse.dropWhile drops).reverse

/-- Drop the characters at both ends that pass a test. -/
def trimWhere (drops : Char → Bool) (chars : List Char) : List Char :=
  trimEndWhere drops (chars.dropWhile drops)

/-- Drop the blanks at the end. -/
def trimEnd (chars : List Char) : List Char :=
  trimEndWhere isBlank chars

/-- Drop the blanks at both ends. -/
def trim (chars : List Char) : List Char :=
  trimWhere isBlank chars

example : trim "\u00a0 a b\n\u3000".toList = "a b".toList := by decide
example : trim "\ufeff[]".toList = "\ufeff[]".toList := by decide
example : trimWhere isWhiteSpace "\x1c5 ".toList = "\x1c5".toList := by decide

end PageTree.Text
