import PropertyGraph.Config.Basic
import PropertyGraph.Config.Setting
import PropertyGraph.Toml.Reader
import PropertyGraph.Toml.Writer
import PropertyGraph.Word

/-!
# Configurations in files

Every section and every setting may be left out and then has its standard value; unknown ones are
ignored. A configuration is written with all its sections, and with the settings that have a
value.

## Main definitions

- `Config.ofSetting?` — the configuration of a tree of settings
- `Config.ofJson?`, `Config.ofToml`, `Config.ofFile` — read a configuration
- `Config.toToml` — write a configuration
-/

namespace PropertyGraph

/-! ## Reading -/

/-- A field, or a standard value in its place. -/
def fieldOr {α : Type} (standard : α) (read : Setting → Option α) : Option Setting → Option α
  | some s => read s
  | none => some standard

/-- The settings of the graph. -/
def GraphSettings.ofSetting? (rules : SettingRules) (s : Setting) : Option GraphSettings := do
  match ← s.fields? rules ["name", "root_id"] with
  | [name, root] =>
    return {
      name := ← fieldOr defaultGraphName Setting.text? name
      root := ← fieldOr none (Setting.optional? Setting.text?) root }
  | _ => failure

/-- The settings of the search. -/
def MatchOptions.ofSetting? (rules : SettingRules) (s : Setting) : Option MatchOptions := do
  match ← s.fields? rules ["max_steps", "injective", "seed_unanchored"] with
  | [maxSteps, injective, seeding] =>
    return {
      maxSteps := ← fieldOr none (Setting.optional? Setting.word?) maxSteps
      injective := ← fieldOr false Setting.flag? injective
      seedUnanchored := ← fieldOr false Setting.flag? seeding }
  | _ => failure

/-- The settings of logging. -/
def LoggingSettings.ofSetting? (rules : SettingRules) (s : Setting) : Option LoggingSettings := do
  match ← s.fields? rules ["level", "format"] with
  | [level, format] =>
    return {
      level := ← fieldOr LoggingSettings.standard.level Setting.text? level
      format :=
        ← fieldOr LoggingSettings.standard.format (fun s => (s.choice? rules).bind LogFormat.ofText?) format }
  | _ => failure

/-- The configuration of a tree of settings. -/
def Config.ofSetting? (rules : SettingRules) (s : Setting) : Option Config := do
  match ← s.fields? rules ["graph", "matching", "logging"] with
  | [graph, matching, logging] =>
    return {
      graph := ← fieldOr .standard (GraphSettings.ofSetting? rules) graph
      matching := ← fieldOr .standard (MatchOptions.ofSetting? rules) matching
      logging := ← fieldOr .standard (LoggingSettings.ofSetting? rules) logging }
  | _ => failure

/-- The configuration of a JSON value. -/
def Config.ofJson? (j : Json) : Option Config := Config.ofSetting? Setting.jsonRules (Setting.ofJson j)

/-- The configuration of a settings file. -/
def Config.ofToml (text : String) : Except GraphError Config :=
  match (Toml.parse? text).bind fun root =>
    Config.ofSetting? Setting.tomlRules (.record (Setting.ofTomlEntries root)) with
  | some c => .ok c
  | none => .error (.config .malformed)

/-- The configuration of the file at a path, given what the file holds, if it exists. -/
def Config.ofFile (path : String) (content : Option String) : Except GraphError Config :=
  match content with
  | some text => Config.ofToml text
  | none => .error (.config (.unreadable path))

/-! ## Writing -/

/-- The text of a truth value. -/
def flagText (b : Bool) : String := if b then "true" else "false"

/-- A line that gives a setting a value. -/
def settingLine (key value : String) : String := key ++ " = " ++ value ++ "\n"

/-- The lines of the graph settings. -/
def GraphSettings.lines (s : GraphSettings) : String :=
  "[graph]\n" ++ settingLine "name" (Toml.quote s.name)
    ++ (s.root.map fun r => settingLine "root_id" (Toml.quote r)).getD ""

/-- The lines of the search settings. -/
def MatchOptions.lines (o : MatchOptions) : String :=
  "[matching]\n" ++ (o.maxSteps.map fun n => settingLine "max_steps" (toString n.toNat)).getD ""
    ++ settingLine "injective" (flagText o.injective)
    ++ settingLine "seed_unanchored" (flagText o.seedUnanchored)

/-- The lines of the logging settings. -/
def LoggingSettings.lines (s : LoggingSettings) : String :=
  "[logging]\n" ++ settingLine "level" (Toml.quote s.level)
    ++ settingLine "format" (Toml.quote s.format.text)

/-- The configuration as a settings file. A number of steps beyond 63 bits cannot be written. -/
def Config.toToml (c : Config) : Except GraphError String :=
  if c.matching.maxSteps.any (int64Bound ≤ ·.toNat) then .error (.config .unwritable)
  else .ok (c.graph.lines ++ "\n" ++ c.matching.lines ++ "\n" ++ c.logging.lines)

end PropertyGraph
