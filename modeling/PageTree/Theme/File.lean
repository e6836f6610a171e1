import PageTree.Theme
import PageTree.Event
import PageTree.Json.Document
import PageTree.Text.LineBreak

/-!
# Theme files

A theme can stand in a JSON file.  The file is text in UTF-8 whose line breaks
may be those of any system, and it is read without repairs.  A theme from a file
extends the built-in one or replaces it.

An unreadable file is reported and refused, and so is data that is not a theme;
bytes that are not UTF-8 are an error of their own.
-/

namespace PageTree

/-- What stands at the path of a theme. -/
inductive ThemeFile where
  | missing
  | directory
  | regular (bytes : List UInt8)
  deriving DecidableEq, Repr

/-- Why a theme cannot be loaded. -/
inductive ThemeError where
  /-- The path names no file. -/
  | missing (path : String)
  /-- The path names a directory. -/
  | directory (path : String)
  /-- The file holds no document. -/
  | document (path : String) (reason : DocumentError)
  /-- The document is not a theme. -/
  | shape (reason : ThemeShapeError)
  /-- The file is not text in UTF-8. -/
  | notText
  deriving DecidableEq, Repr

namespace ThemeError

/-- What the system or the reader says of an unreadable file. -/
def cause? : ThemeError → Option (String × String)
  | missing path =>
      some (path, "[Errno 2] No such file or directory: " ++ Text.quoted path)
  | directory path => some (path, "[Errno 21] Is a directory: " ++ Text.quoted path)
  | document path reason => some (path, reason.message)
  | _ => none

/-- The wording of an error. -/
def message (reason : ThemeError) : String :=
  match reason.cause? with
  | some (path, cause) => "Cannot load style sheet " ++ path ++ ": " ++ cause
  | none =>
      match reason with
      | shape reason => reason.message
      | _ => "Style sheet is not text in UTF-8"

/-- Unreadable files are reported; refused data is not. -/
def events (reason : ThemeError) : List Event :=
  match reason.cause? with
  | some (path, cause) => [.themeLoadFailed path cause]
  | none => []

end ThemeError

namespace ThemeFile

/-- The text of bytes in UTF-8. -/
def decode? (bytes : List UInt8) : Option String :=
  (String.fromUTF8? ⟨bytes.toArray⟩).map fun text =>
    String.ofList (Text.unifyBreaks text.toList)

/-- The data in a theme file. -/
def read (path : String) : ThemeFile → Except ThemeError Value
  | missing => .error (.missing path)
  | directory => .error (.directory path)
  | regular bytes =>
      match decode? bytes with
      | none => .error .notText
      | some text =>
          match Document.read .none text false with
          | .ok value => .ok value
          | .error reason => .error (.document path reason)

/-- The theme in a file, without the built-in one. -/
def theme (path : String) (file : ThemeFile) : Except ThemeError Theme :=
  match file.read path with
  | .error reason => .error reason
  | .ok value =>
      match Theme.ofValue? value with
      | .ok theme => .ok theme
      | .error reason => .error (.shape reason)

/-- Load a theme, extending the built-in one if `extendStandard` holds, and say
what is reported. -/
def load (path : String) (file : ThemeFile) (extendStandard : Bool) :
    List Event × Except ThemeError Theme :=
  match file.theme path with
  | .error reason => (reason.events, .error reason)
  | .ok theme =>
      ([.themeLoaded path theme.length],
        .ok (if extendStandard then Theme.standard.extend theme else theme))

end ThemeFile

end PageTree
