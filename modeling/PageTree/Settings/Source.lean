import PageTree.Settings
import PageTree.Settings.EnvFile

/-!
# Sources of settings

A setting is taken from the first of three sources that gives it: the arguments
of the program, the environment, and an environment file.  In the latter two a
setting's name follows `PAGE_`.  Names are compared without regard to case, and
unknown names are passed over.  Of arguments that name the same setting the first
one counts, and in the other sources the last one.  A name that the file states
without a value is not given by it, even if it has a value further up.

Settings read from the environment are kept until they are cleared; a failure to
read them is not kept.
-/

namespace PageTree

/-- Where settings come from. -/
structure SettingSources where
  arguments : Record := []
  environment : Table String := []
  /-- For each name in the file its value, or that it has none. -/
  file : Table (Option String) := []

namespace SettingSources

/-- Entries under their names in lower case. -/
def lowerCased {α : Type} (entries : Table α) : Table α :=
  entries.map fun (name, entry) => (name.map Char.toLower, entry)

/-- The first entry of a name, without regard to case. -/
def first? {α : Type} (entries : Table α) (name : String) : Option α :=
  Table.get? (lowerCased entries) name

/-- The last entry of a name, without regard to case. -/
def last? {α : Type} (entries : Table α) (name : String) : Option α :=
  Table.get? (lowerCased entries).reverse name

/-- The name of a setting in the environment, in lower case. -/
def environmentName (name : String) : String :=
  "page_" ++ name

/-- What the sources give for a setting. -/
def value? (sources : SettingSources) (name : String) : Option Value :=
  match first? sources.arguments name with
  | some value => some value
  | none =>
      match last? sources.environment (environmentName name) with
      | some text => some (.string text)
      | none => (last? sources.file (environmentName name)).join.map .string

/-- All that the sources give. -/
def values (sources : SettingSources) : Record :=
  Settings.names.filterMap fun name =>
    (sources.value? name).map fun value => (name, value)

/-- The settings that the sources give. -/
def settings? (sources : SettingSources) :
    Except (List (String × SettingFault)) Settings :=
  Settings.ofValues? sources.values

end SettingSources

/-- The environment with the settings that were read from it. -/
structure SettingsCache where
  environment : Table String := []
  kept : Option Settings := none

namespace SettingsCache

/-- Set a variable of the environment, or remove it. -/
def setVariable (environment : Table String) (name : String) :
    Option String → Table String
  | some text => Table.insert environment name text
  | none => Table.erase environment name

/-- Change the environment; kept settings stay. -/
def setEnvironment (cache : SettingsCache) (changes : Table (Option String)) :
    SettingsCache :=
  ⟨changes.foldl (fun result change => setVariable result change.1 change.2)
    cache.environment, cache.kept⟩

/-- Forget the kept settings. -/
def clear (cache : SettingsCache) : SettingsCache :=
  ⟨cache.environment, none⟩

/-- The kept settings, or else those of the environment, which are then kept. -/
def get (cache : SettingsCache) :
    SettingsCache × Except (List (String × SettingFault)) Settings :=
  match cache.kept with
  | some settings => (cache, .ok settings)
  | none =>
      match SettingSources.settings? ⟨[], cache.environment, []⟩ with
      | .ok settings => (⟨cache.environment, some settings⟩, .ok settings)
      | .error faults => (cache, .error faults)

end SettingsCache

end PageTree
