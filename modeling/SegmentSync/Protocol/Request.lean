import SegmentSync.Position
import SegmentSync.Text.Utf8

/-!
# `SegmentSync.Protocol.Request` — what is asked of a store

A request is a command and its arguments, which are byte strings of any content. The command stands for the
words that lead the request on the wire.
-/

namespace SegmentSync

/-- The commands of replication and login. -/
inductive Command where
  | nsInfo
  | nsSet
  | nsJump
  | dataExport
  | dataImport
  | dataRaw
  | set
  | del
  | authChallenge
  | authSecure
  | select
  deriving DecidableEq, Repr, Inhabited

namespace Command

/-- All commands. -/
def all : List Command :=
  [.nsInfo, .nsSet, .nsJump, .dataExport, .dataImport, .dataRaw, .set, .del, .authChallenge, .authSecure,
    .select]

/-- The words that lead the request on the wire. -/
def words : Command → List String
  | .nsInfo => ["NSINFO"]
  | .nsSet => ["NSSET"]
  | .nsJump => ["NSJUMP"]
  | .dataExport => ["DATA", "EXPORT"]
  | .dataImport => ["DATA", "IMPORT"]
  | .dataRaw => ["DATA", "RAW"]
  | .set => ["SET"]
  | .del => ["DEL"]
  | .authChallenge => ["AUTH", "SECURE", "CHALLENGE"]
  | .authSecure => ["AUTH", "SECURE"]
  | .select => ["SELECT"]

/-- The name of the command in messages: its words with spaces between them. -/
def name (command : Command) : String := " ".intercalate command.words

/-- The command with that name. -/
def ofName? (name : String) : Option Command := all.find? fun command => command.name = name

/-- The command makes sense on a logged-in connection only. -/
def requiresAuth : Command → Bool
  | .authChallenge | .authSecure | .select => false
  | _ => true

/-- Every command is in the list of all commands. -/
theorem mem_all (command : Command) : command ∈ all := by cases command <;> decide

end Command

/-- A command with its arguments. -/
structure Request where
  command : Command
  arguments : List Bytes
  deriving DecidableEq, Repr, Inhabited

namespace Request

/-- A cursor as two arguments: segment and offset in decimal notation. -/
def cursor (position : Position) : List Bytes :=
  [Utf8.encodeChars (Decimal.digits position.segment.toNat),
    Utf8.encodeChars (Decimal.digits position.offset.toNat)]

/-- Cursor and size of a namespace. -/
def nsInfo (space : String) : Request := ⟨.nsInfo, [Utf8.encode space]⟩

/-- Switches the advisory write-freeze of a namespace. -/
def nsFreeze (space : String) (enabled : Bool) : Request :=
  ⟨.nsSet, [Utf8.encode space, Utf8.encode "freeze", Utf8.encode (if enabled then "1" else "0")]⟩

/-- Starts the next segment. -/
def nsJump : Request := ⟨.nsJump, []⟩

/-- The entries from a cursor to the end of its segment. -/
def dataExport (start : Position) : Request := ⟨.dataExport, cursor start⟩

/-- Loads exported entries at a cursor. -/
def dataImport (at_ : Position) (blob : Bytes) : Request := ⟨.dataImport, cursor at_ ++ [blob]⟩

/-- The single entry at a cursor. -/
def dataRaw (at_ : Position) : Request := ⟨.dataRaw, cursor at_⟩

/-- Stores a value under a key. -/
def set (key value marker : Bytes) : Request := ⟨.set, [key, value, marker]⟩

/-- Deletes a key. -/
def del (key marker : Bytes) : Request := ⟨.del, [key, marker]⟩

/-- Asks for a login challenge. -/
def authChallenge : Request := ⟨.authChallenge, []⟩

/-- Answers a login challenge. -/
def authSecure (digest : String) : Request := ⟨.authSecure, [Utf8.encode digest]⟩

/-- Selects a namespace, with a password where there is one. -/
def select (space : String) (password : Option String) : Request :=
  ⟨.select, Utf8.encode space :: (password.map Utf8.encode).toList⟩

end Request

end SegmentSync
