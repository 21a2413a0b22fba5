import PropertyGraph.Config.Directive
import PropertyGraph.Matching.Basic

/-!
# Configuration

What is configured: the graph, the search for embeddings, and logging.

## Main definitions

- `GraphSettings`, `LoggingSettings`, `Config` — the sections
- `Config.validate` — the first thing that makes a configuration unusable
- `LoggingSettings.checkFilter` — the same for the log filter
-/

namespace PropertyGraph

/-- The graph to start with. -/
structure GraphSettings where
  name : String
  root : Option String
deriving Repr, DecidableEq

/-- How log lines are written. -/
inductive LogFormat where
  | pretty
  | json
deriving Repr, DecidableEq

/-- What is logged, and how. -/
structure LoggingSettings where
  /-- Directives separated by commas. -/
  level : String
  format : LogFormat
deriving Repr, DecidableEq

/-- All settings. -/
structure Config where
  graph : GraphSettings
  matching : MatchOptions
  logging : LoggingSettings
deriving Repr, DecidableEq

/-- The settings of the graph that is given no name. -/
def GraphSettings.standard : GraphSettings := ⟨defaultGraphName, none⟩

/-- Readable lines from the level of information on. -/
def LoggingSettings.standard : LoggingSettings := ⟨"info", .pretty⟩

/-- The standard of every section. -/
def Config.standard : Config := ⟨.standard, .standard, .standard⟩

instance : Inhabited Config := ⟨.standard⟩

/-- The name of a format. -/
def LogFormat.text : LogFormat → String
  | .pretty => "pretty"
  | .json => "json"

/-- The format of a name. -/
def LogFormat.ofText? (s : String) : Option LogFormat :=
  if s = "pretty" then some .pretty else if s = "json" then some .json else none

/-- The graph to start with, without elements. -/
def Graph.ofSettings (s : GraphSettings) : Graph := Graph.new s.name s.root

namespace LoggingSettings

/-- The directives, as they are written. -/
def directives (s : LoggingSettings) : List (List Char) := (s.level.splitOn ",").map (·.toList)

/-- Every directive has a known level. -/
def validate (s : LoggingSettings) : Except GraphError Unit :=
  if s.directives.all Directive.hasKnownLevel then .ok () else .error (.config (.unknownLevel s.level))

/-- Every directive has a known level and can be part of a filter. -/
def checkFilter (s : LoggingSettings) : Except GraphError Unit := do
  s.validate
  if s.directives.all Directive.isFilter then .ok () else .error (.config .malformedFilter)

end LoggingSettings

/-- The first of these that does not hold: the graph has a name, its root is not empty, the search
may take a step, and all log levels are known. -/
def Config.validate (c : Config) : Except GraphError Unit :=
  if c.graph.name = "" then .error (.config .emptyName)
  else if c.graph.root = some "" then .error (.config .emptyRoot)
  else if c.matching.maxSteps = some 0 then .error (.config .noSteps)
  else c.logging.validate

end PropertyGraph
