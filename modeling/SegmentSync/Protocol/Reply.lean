import SegmentSync.Number.Binary64
import SegmentSync.Text.Utf8
import SegmentSync.Text.Quoted

/-!
# `SegmentSync.Protocol.Reply` — what a store answers

## Contents
- **Replies.** `Reply`: the values of the wire protocol, in both of its versions.
- **Error replies.** `ErrorLine`: an error reply is a line whose first word is a code; the well-known codes
  have names.
- **Descriptions.** `Reply.debugText`, and `Reply.summary`, which is cut to a readable length.
-/

namespace SegmentSync

/-! ## Error replies -/

/-- The line of an error reply. -/
structure ErrorLine where
  code : String
  detail : Option String
  deriving DecidableEq, Repr, Inhabited

namespace ErrorLine

/-- Cuts a line at its first space. -/
def ofChars (line : List Char) : ErrorLine :=
  match line.span (· ≠ ' ') with
  | (code, []) => ⟨String.ofList code, none⟩
  | (code, _ :: detail) => ⟨String.ofList code, some (String.ofList detail)⟩

/-- Cuts a line at its first space. -/
def ofText (line : String) : ErrorLine := ofChars line.toList

/-- The names of the well-known codes. -/
def knownNames : List (String × String) :=
  [("ERR", "ResponseError"), ("EXECABORT", "ExecAbortError"), ("LOADING", "BusyLoadingError"),
    ("NOSCRIPT", "NoScriptError"), ("MOVED", "Moved"), ("ASK", "Ask"), ("TRYAGAIN", "TryAgain"),
    ("CLUSTERDOWN", "ClusterDown"), ("CROSSSLOT", "CrossSlot"), ("MASTERDOWN", "MasterDown"),
    ("READONLY", "ReadOnly"), ("NOTBUSY", "NotBusy"), ("NOSUB", "NoSub")]

/-- The error line in words. -/
def message (line : ErrorLine) : String :=
  match knownNames.lookup line.code, line.detail with
  | some name, some detail => "An error was signalled by the server - " ++ name ++ ": " ++ detail
  | some name, none => "An error was signalled by the server- " ++ name
  | none, some detail => line.code ++ ": " ++ detail
  | none, none => line.code ++ ": Unknown extension error encountered"

/-- The error line between the marks that set it off in descriptions. -/
def debugText (line : ErrorLine) : String :=
  match line.detail with
  | some detail => "Server error: `" ++ line.code ++ ": " ++ detail ++ "`"
  | none => "Server error: `" ++ line.code ++ "`"

end ErrorLine

/-! ## Replies -/

/-- A reply of a store. -/
inductive Reply where
  | nil
  /-- The plain acknowledgement `OK` as it arrives on the wire. -/
  | okay
  | int (n : Int)
  | bulk (bytes : Bytes)
  | simple (text : String)
  | array (items : List Reply)
  | set (items : List Reply)
  | map (pairs : List (Reply × Reply))
  | attribute (data : Reply) (pairs : List (Reply × Reply))
  | double (x : Float)
  | boolean (b : Bool)
  | verbatim (format text : String)
  | bigNumber (n : Int)
  | error (line : ErrorLine)
  deriving Inhabited

namespace Reply

/-- A text cut short by three dots where it has more than `limit` characters. -/
def abridge (limit : Nat) (text : String) : String :=
  let chars := text.toList
  if limit < chars.length then String.ofList (chars.take limit ++ ['.', '.', '.']) else text

/-- Octets in words: as text where they are text. -/
def bytesText (bytes : Bytes) : String :=
  match Utf8.decode bytes with
  | .ok text => "bulk-string('" ++ Text.quoted text ++ "')"
  | .error _ => "binary-data(" ++ Text.octetList bytes ++ ")"

/-- The format of a verbatim text in words. -/
def formatText (format : String) : String :=
  if format = "txt" then "Text"
  else if format = "mkd" then "Markdown"
  else "Unknown(" ++ Text.quoted format ++ ")"

mutual

/-- The reply in words. -/
def debugText : Reply → String
  | .nil => "nil"
  | .okay => "ok"
  | .int n => "int(" ++ Decimal.signedText n ++ ")"
  | .bulk bytes => bytesText bytes
  | .simple text => "simple-string(" ++ Text.quoted text ++ ")"
  | .array items => "array(" ++ Text.bracketed (debugTexts items) ++ ")"
  | .set items => "set(" ++ Text.bracketed (debugTexts items) ++ ")"
  | .map pairs => "map(" ++ Text.bracketed (pairTexts pairs) ++ ")"
  | .attribute data _ => "attribute(" ++ debugText data ++ ")"
  | .double x => "double(" ++ Binary64.marked x ++ ")"
  | .boolean b => "boolean(" ++ (if b then "true" else "false") ++ ")"
  | .verbatim format text =>
    "verbatim-string(" ++ formatText format ++ "," ++ Text.quoted text ++ ")"
  | .bigNumber n => "big-number(" ++ Decimal.signedText n ++ ")"
  | .error line => line.debugText

/-- Each of some replies in words. -/
def debugTexts : List Reply → List String
  | [] => []
  | reply :: rest => debugText reply :: debugTexts rest

/-- Each of some pairs of replies in words. -/
def pairTexts : List (Reply × Reply) → List String
  | [] => []
  | (key, value) :: rest => ("(" ++ debugText key ++ ", " ++ debugText value ++ ")") :: pairTexts rest

end

/-- The reply in at most sixty-four characters. -/
def summary (reply : Reply) : String := abridge 64 reply.debugText

end Reply

end SegmentSync
