import PageTree.Value
import PageTree.Text.Quoted

/-!
# Themes

A style is a record, and a theme is a table of named styles.  Styles are merged
field by field: the fields of the override replace those of the base as a whole,
and new fields follow the old ones.

The style of a component starts from the theme's record for its type.  The names
in `Theme.chrome` style parts of the page that the renderer adds itself, so a
component type of such a name starts from nothing.
-/

namespace PageTree

/-- The fields of `override` written over those of `base`. -/
def mergeStyle (base override : Record) : Record :=
  Table.update base override

/-- Named styles. -/
abbrev Theme := Table Record

/-- Why data is not a theme. -/
inductive ThemeShapeError where
  | notObject (kind : String)
  | badEntry (name : String)
  deriving DecidableEq, Repr

/-- The wording of an error. -/
def ThemeShapeError.message : ThemeShapeError → String
  | notObject kind => "Style sheet must be an object, got " ++ kind
  | badEntry name =>
      "Style sheet entry " ++ Text.quoted name ++ " must map a name to an object"

namespace Theme

/-- The names that style parts of the page and never a component type. -/
def chrome : List String :=
  ["page", "errorContainer", "errorText", "emptyContainer", "emptyText",
    "imagePlaceholder", "buttonText", "fallbackText"]

/-- The style of a name, empty for a name that the theme lacks. -/
def base (theme : Theme) (name : String) : Record :=
  (Table.get? theme name).getD []

/-- Merge a record into the style of its name. -/
def extendEntry (theme : Theme) (name : String) (record : Record) : Theme :=
  Table.insert theme name (mergeStyle (theme.base name) record)

/-- The theme with every record of `overrides` merged into the style of its
name. -/
def extend (theme : Theme) (overrides : Table Record) : Theme :=
  overrides.foldl (fun result entry => extendEntry result entry.1 entry.2) theme

/-- The style of a component from its type and its own style. -/
def resolve (theme : Theme) (componentType : String) (override : Record) : Record :=
  if componentType ∈ chrome then mergeStyle [] override
  else mergeStyle (theme.base componentType) override

/-- The records of a theme given as fields of an object. -/
def ofFields? : List (String × Value) → Except ThemeShapeError Theme
  | [] => .ok []
  | (name, .object record) :: rest =>
      match ofFields? rest with
      | .ok theme => .ok ((name, record) :: theme)
      | .error reason => .error reason
  | (name, _) :: _ => .error (.badEntry name)

/-- A theme from plain data: an object whose fields are all objects. -/
def ofValue? : Value → Except ThemeShapeError Theme
  | .object fields => ofFields? fields
  | other => .error (.notObject other.kindName)

/-- The built-in theme. -/
def standard : Theme :=
  [("page", [("flex", .int 1), ("backgroundColor", .string "#ffffff")]),
    ("errorContainer", centred),
    ("errorText", [("fontSize", .int 16), ("color", .string "#ff0000")]),
    ("emptyContainer", centred),
    ("emptyText", [("fontSize", .int 16), ("color", .string "#999999")]),
    ("container", [("padding", .int 16)]),
    ("text",
      [("fontSize", .int 16), ("color", .string "#333333"), ("marginBottom", .int 8)]),
    ("image",
      [("width", .string "100%"), ("height", .int 200), ("marginBottom", .int 16),
        ("borderRadius", .int 8)]),
    ("imagePlaceholder", [("backgroundColor", .string "#eeeeee")]),
    ("button",
      [("backgroundColor", .string "#007AFF"), ("padding", .int 16),
        ("borderRadius", .int 8), ("alignItems", .string "center"),
        ("marginBottom", .int 16)]),
    ("buttonText",
      [("color", .string "#ffffff"), ("fontSize", .int 16),
        ("fontWeight", .string "600")]),
    ("scrollview", [("flex", .int 1)]),
    ("fallbackText", [("fontSize", .int 14), ("color", .string "#999999")])]
where
  /-- Fill the page and centre what is inside. -/
  centred : Record :=
    [("flex", .int 1), ("justifyContent", .string "center"),
      ("alignItems", .string "center")]

@[simp] theorem extend_nil (theme : Theme) : theme.extend [] = theme := rfl

end Theme

end PageTree
