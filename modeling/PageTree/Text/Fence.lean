import PageTree.Text.Blank

/-!
# Code fences

A document pasted from running text often stands in a fence: a line of three
backticks in front, perhaps with the word `json`, and three backticks behind.
`Text.unfence` takes the text between an opening fence at the very start and the
last fence; whatever follows the last fence is dropped with it.
-/

namespace PageTree.Text

/-- The mark that opens and closes a fence. -/
def fence : List Char := ['`', '`', '`']

/-- The opening mark with the name of the format. -/
def namedFence : List Char := fence ++ ['j', 's', 'o', 'n']

/-- What stands before the last fence, if there is a fence. -/
def beforeLastFence? : List Char → Option (List Char)
  | [] => none
  | char :: rest =>
      match beforeLastFence? rest with
      | some before => some (char :: before)
      | none => if fence.isPrefixOf (char :: rest) then some [] else none

/-- The text inside a surrounding fence, trimmed.  A text that does not open with
a fence, or whose last fence is part of the opening one, is returned as it is. -/
def unfence (chars : List Char) : List Char :=
  if fence.isPrefixOf chars then
    let opening := if namedFence.isPrefixOf chars then namedFence else fence
    match beforeLastFence? chars with
    | some before =>
        if before.length < opening.length then chars
        else trim (before.drop opening.length)
    | none => chars
  else chars

example : unfence "```json\n[1]\n``` as you see".toList = "[1]".toList := by decide
example : unfence "```json".toList = "```json".toList := by decide

end PageTree.Text
