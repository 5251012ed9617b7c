import SegmentSync.Error
import SegmentSync.Wire.Frame

/-!
# `SegmentSync.Wire.Reply.Writer` — replies as bytes

Every reply begins with a mark that tells its kind. Texts of one line end with the line; octets stand behind
their number; collections stand behind the number of their members.
-/

namespace SegmentSync.Reply

open SegmentSync.Frame (lineEnd header part)

/-- A mark and a line. -/
def markedLine (mark : Char) (text : List Char) : Bytes :=
  Utf8.encodeChar mark ++ Utf8.encodeChars text ++ lineEnd

/-- The line of an error reply. -/
def errorChars (line : ErrorLine) : List Char :=
  match line.detail with
  | some detail => line.code.toList ++ ' ' :: detail.toList
  | none => line.code.toList

mutual

/-- The reply as bytes. -/
def encode : Reply → Bytes
  | .nil => markedLine '$' ['-', '1']
  | .okay => markedLine '+' ['O', 'K']
  | .int n => markedLine ':' (Decimal.signedText n).toList
  | .bulk bytes => part bytes
  | .simple text => markedLine '+' text.toList
  | .array items => header '*' items.length ++ encodeItems items
  | .set items => header '~' items.length ++ encodeItems items
  | .map pairs => header '%' pairs.length ++ encodePairs pairs
  | .attribute data pairs => header '|' pairs.length ++ encodePairs pairs ++ encode data
  | .double x => markedLine ',' (Binary64.plain x).toList
  | .boolean b => markedLine '#' [if b then 't' else 'f']
  | .verbatim format text =>
    let content := Utf8.encode (format ++ ":" ++ text)
    header '=' content.length ++ content ++ lineEnd
  | .bigNumber n => markedLine '(' (Decimal.signedText n).toList
  | .error line => markedLine '-' (errorChars line)

/-- Replies one after another. -/
def encodeItems : List Reply → Bytes
  | [] => []
  | item :: rest => encode item ++ encodeItems rest

/-- Pairs of replies one after another. -/
def encodePairs : List (Reply × Reply) → Bytes
  | [] => []
  | (key, value) :: rest => encode key ++ encode value ++ encodePairs rest

end

/-- The bytes by which a store answers; none where the connection fails. -/
def encodeOutcome : Except ProtocolError Reply → Option Bytes
  | .ok reply => some reply.encode
  | .error .eof => some (markedLine '-' ['E', 'O', 'F'])
  | .error (.server reason) => some (markedLine '-' ('E' :: 'R' :: 'R' :: ' ' :: reason.toList))
  | .error _ => none

end SegmentSync.Reply
