import SegmentSync.Configuration.Reader
import SegmentSync.Text.Utf8
import SegmentSync.Yaml.Reading

/-!
# `SegmentSync.Configuration.File` — configurations in files

A configuration file is a YAML document. What comes out of a file is a valid configuration or the reason why
there is none.
-/

namespace SegmentSync

/-- Why a file has no content. -/
inductive FileFault where
  | missing
  | directory
  /-- A failure in the words of the system. -/
  | stated (reason : String)
  deriving DecidableEq, Repr

/-- The fault in words. -/
def FileFault.message : FileFault → String
  | .missing => "No such file or directory (os error 2)"
  | .directory => "Is a directory (os error 21)"
  | .stated reason => reason

namespace Configuration

/-- A configuration from its text. -/
def ofText (text : String) : Except ConfigFault Configuration := do
  match Yaml.readAs? Configuration.reader text with
  | none => throw .malformed
  | some configuration =>
    configuration.validate
    return configuration

/-- A configuration from the content of the file with that path. -/
def ofFile (path : String) : Except FileFault Bytes → Except ConfigFault Configuration
  | .error fault => .error (.unreadable path fault.message)
  | .ok bytes =>
    match Utf8.decode bytes with
    | .error _ => .error (.unreadable path "stream did not contain valid UTF-8")
    | .ok text => ofText text

end Configuration

end SegmentSync
