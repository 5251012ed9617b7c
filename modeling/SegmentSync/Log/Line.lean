import SegmentSync.Json.Value
import SegmentSync.Session.Progress

/-!
# `SegmentSync.Log.Line` — lines of the log

A line has a level and may be written inside of a session, whose name and namespace it then carries.

## Contents
- **Lines.** `LogScope`, `LogLine`.
- **Forms.** `LogLine.plain` for readers, `LogLine.json` for programs; both without the time.
-/

namespace SegmentSync

/-! ## Lines -/

/-- The session inside of which a line is written. -/
structure LogScope where
  session : String
  space : String
  deriving DecidableEq, Repr

/-- A line of the log. -/
structure LogLine where
  level : Level
  scope : Option LogScope := none
  text : String
  deriving DecidableEq, Repr

/-! ## Forms -/

/-- The name of a level. -/
def Level.label : Level → String
  | .error => "ERROR"
  | .warn => "WARN"
  | .info => "INFO"
  | .debug => "DEBUG"
  | .trace => "TRACE"

/-- The scope before a line. -/
def LogScope.plain (scope : LogScope) : String :=
  "session\x7bname=" ++ scope.session ++ " namespace=" ++ scope.space ++ "\x7d: "

/-- The scope as an object. The name of the session comes before the name that every scope has. -/
def LogScope.json (scope : LogScope) : Json.Value :=
  .record [("name", .text scope.session), ("namespace", .text scope.space), ("name", .text "session")]

namespace LogLine

/-- The line for readers, with all levels equally wide. -/
def plain (line : LogLine) : String :=
  let label := line.level.label
  String.ofList (List.replicate (5 - label.length) ' ') ++ label ++ " " ++
    (line.scope.map LogScope.plain).getD "" ++ line.text

/-- The line for programs: its scope is both the innermost one and the only one. -/
def json (line : LogLine) : Json.Value :=
  .record ([("level", .text line.level.label), ("fields", .record [("message", .text line.text)])] ++
    (match line.scope with
      | some scope => [("span", scope.json), ("spans", .array [scope.json])]
      | none => []))

end LogLine

end SegmentSync
