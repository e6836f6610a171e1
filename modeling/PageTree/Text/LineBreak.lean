/-!
# Line breaks

Files end their lines as their system does it.  `Text.unifyBreaks` turns the line
breaks of all systems into line feeds, so that a reader needs to know only one.
-/

namespace PageTree.Text

/-- Line breaks of every system as line feeds: a carriage return counts as a
break, together with a line feed behind it. -/
def unifyBreaks : List Char → List Char
  | [] => []
  | '\r' :: '\n' :: rest => '\n' :: unifyBreaks rest
  | '\r' :: rest => '\n' :: unifyBreaks rest
  | char :: rest => char :: unifyBreaks rest

/-- What follows the line at the start of a text. -/
def nextLine (chars : List Char) : List Char :=
  (chars.dropWhile (· != '\n')).drop 1

theorem nextLine_length (chars : List Char) : (nextLine chars).length ≤ chars.length := by
  have bound := (List.dropWhile_suffix (l := chars) (· != '\n')).length_le
  simp only [nextLine, List.length_drop]
  omega

theorem nextLine_shorter {chars : List Char} (nonempty : chars ≠ []) :
    (nextLine chars).length < chars.length := by
  have bound := (List.dropWhile_suffix (l := chars) (· != '\n')).length_le
  have positive := List.length_pos_iff.2 nonempty
  simp only [nextLine, List.length_drop]
  omega

example : unifyBreaks "a\r\nb\rc".toList = "a\nb\nc".toList := by decide

end PageTree.Text
