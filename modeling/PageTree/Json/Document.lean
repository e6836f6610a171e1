import PageTree.Json.Assembly
import PageTree.Text.Blank
import PageTree.Text.Fence

/-!
# Reading documents

A document is a text that someone wrote or pasted, so it is read in three
attempts: as it stands without surrounding blanks, then without a surrounding
code fence, and last, where repairs are permitted, mended.  A document that is of
the strict format is therefore never changed by the later attempts.

How texts are mended is up to whoever reads: a `Mender` may be any function.
-/

namespace PageTree

/-- A way to mend texts that are not of the strict format: what a text is then read
as, unless it is beyond repair. -/
abbrev Mender := List Char → Option Value

/-- The mender that mends nothing. -/
def Mender.none : Mender := fun _ => Option.none

/-- Why a document cannot be read. -/
inductive DocumentError where
  /-- Nothing but blanks. -/
  | empty
  /-- Not a text of the format, and repairs are not permitted. -/
  | invalid
  /-- Not a text of the format, and beyond repair. -/
  | irreparable
  /-- More bytes than permitted. -/
  | oversized (name : String) (size : Nat) (limit : Int)
  deriving DecidableEq, Repr

/-- The wording of an error. -/
def DocumentError.message : DocumentError → String
  | empty => "Empty JSON document"
  | invalid => "Invalid JSON: not a JSON text"
  | irreparable => "JSON repair failed: not a JSON text"
  | oversized name size limit =>
      name ++ " size " ++ Numeral.text size ++ " bytes exceeds maximum " ++
        Numeral.text limit ++ " bytes"

namespace Document

open Json

/-- Read a document as a text of the strict format, fenced or not. -/
def readStrict? (text : List Char) : Option Value :=
  match read? text with
  | some value => some value
  | none => read? (Text.unfence text)

/-- Read a document; `repair` permits to mend it. -/
def read (mend : Mender) (text : String) (repair : Bool) : Except DocumentError Value :=
  let trimmed := Text.trim text.toList
  if trimmed.isEmpty then .error .empty
  else
    match readStrict? trimmed with
    | some value => .ok value
    | none =>
        if repair then
          match mend (Text.unfence trimmed) with
          | some value => .ok value
          | none => .error .irreparable
        else .error .invalid

/-- Refuse a text of more than `limit` bytes in UTF-8. -/
def checkSize (text : String) (limit : Int) (name : String) :
    Except DocumentError Unit :=
  if (text.utf8ByteSize : Int) > limit then
    .error (.oversized name text.utf8ByteSize limit)
  else .ok ()

example :
    Document.read .none "```json\n[1]\n``` done" false matches .ok (.array [.int 1]) := by
  decide +kernel

end Document

end PageTree
