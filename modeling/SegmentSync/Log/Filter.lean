import SegmentSync.Log.Line
import SegmentSync.Text.Blank

/-!
# `SegmentSync.Log.Filter` — which lines are written

A filter is a list of directives. A directive admits lines up to a level, either everywhere or from components
whose name begins in a certain way; the directive with the longest such beginning decides, and of two with
the same one the later.

## Contents
- **Directives.** `LogDirective`, with `LogDirective.read?` for `level`, `component` and `component=level`.
- **Filters.** `LogFilter`: `read?` takes directives between commas, `readLenient` leaves out what is none
  and says so. A filter without directives admits nothing by `read?`, and errors alone by `readLenient`.
- **Admission.** `LogFilter.admits`; a scope shows only where lines of its own level are admitted.
-/

namespace SegmentSync

/-! ## Directives -/

/-- Up to which level lines are admitted; none admits no line. -/
abbrev LogLimit := Option Level

/-- A limit for components whose name begins in a certain way. -/
structure LogDirective where
  component : String
  limit : LogLimit
  deriving DecidableEq, Repr

namespace LogDirective

/-- The names of limits, and their numbers. -/
def limits : List (String × LogLimit) :=
  [("off", none), ("error", some .error), ("warn", some .warn), ("info", some .info),
    ("debug", some .debug), ("trace", some .trace), ("0", none), ("1", some .error), ("2", some .warn),
    ("3", some .info), ("4", some .debug), ("5", some .trace)]

/-- Reads a limit in any case of letters. -/
def readLimit? (chars : List Char) : Option LogLimit :=
  limits.lookup (String.ofList (chars.map Char.toLower))

/-- A character of the names of components. -/
def isNameChar (c : Char) : Bool := c.isAlphanum || c = '_' || c = ':' || c = '-'

/-- The directive for all components whose name begins with `name`. -/
def ofComponent? (name : List Char) (limit : LogLimit) : Option LogDirective :=
  if name.isEmpty || !name.all isNameChar then none else some ⟨String.ofList name, limit⟩

/-- Reads a directive. Without a limit it admits everything. -/
def read? (chars : List Char) : Option LogDirective :=
  match readLimit? chars with
  | some limit => some ⟨"", limit⟩
  | none =>
    match Text.splitOnce '=' chars with
    | none => ofComponent? chars (some .trace)
    | some (name, []) => ofComponent? name (some .trace)
    | some (name, limit) => (readLimit? limit).bind (ofComponent? name)

end LogDirective

/-! ## Filters -/

/-- The directives for the lines of the log. -/
structure LogFilter where
  directives : List LogDirective
  deriving DecidableEq, Repr, Inhabited

namespace LogFilter

/-- The pieces of a text between its commas, without the empty ones. -/
def pieces (text : String) : List (List Char) :=
  ((text.splitOn ",").map String.toList).filter fun piece => !piece.isEmpty

/-- Reads directives between commas. -/
def read? (text : String) : Option LogFilter := do
  return ⟨← (pieces text).mapM LogDirective.read?⟩

/-- Reads directives between commas; what is no directive is left out, with a message about it. -/
def readLenient (text : String) : LogFilter × List String :=
  let directives := (pieces text).filterMap LogDirective.read?
  let ignored := (pieces text).filter fun piece => (LogDirective.read? piece).isNone
  (⟨if directives.isEmpty then [⟨"", some .error⟩] else directives⟩,
    ignored.map fun piece => "ignoring \u0060" ++ String.ofList piece ++ "\u0060: invalid filter directive")

/-! ## Admission -/

/-- The better of two directives for the same component. -/
def prefer (best : Option LogDirective) (directive : LogDirective) : Option LogDirective :=
  match best with
  | some found => if directive.component.length < found.component.length then best else some directive
  | none => some directive

/-- The limit for a component. -/
def limitOf (filter : LogFilter) (component : String) : LogLimit :=
  let matching := filter.directives.filter fun directive =>
    directive.component.toList.isPrefixOf component.toList
  (matching.foldl prefer none).bind LogDirective.limit

/-- The name of this program as a component. -/
def component : String := "zdb_sync"

/-- Lines of a level are written. -/
def admits (filter : LogFilter) (level : Level) : Bool :=
  (filter.limitOf component).any fun limit => level.rank ≤ limit.rank

/-- A line as it is written, if it is. The scope of a session has the level of a notice. -/
def apply (filter : LogFilter) (line : LogLine) : Option LogLine :=
  if filter.admits line.level then
    some { line with scope := if filter.admits .info then line.scope else none }
  else none

end LogFilter

end SegmentSync
