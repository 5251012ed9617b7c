import SegmentSync.Error

/-!
# `SegmentSync.Service.Failure` — why the service ends without success

A failure says what could not be done and, where it is known, why.

## Contents
- **Failures.** `ServiceFailure`, and its `messages` from the outermost to the innermost.
- **Forms.** `ServiceFailure.line` for the log, `ServiceFailure.report` for the end of the program.
-/

namespace SegmentSync

/-! ## Failures -/

/-- What could not be done. -/
inductive ServiceFailure where
  /-- The configuration of a file. -/
  | notLoaded (path : String) (fault : ConfigFault)
  /-- The options of a session make no sense. -/
  | badOptions (session : String) (fault : ConfigFault)
  /-- A target could not be connected to, or refused the login. -/
  | notOpened (target : Target) (error : SyncError)
  /-- A look at a namespace. -/
  | notRead (space : String) (error : SyncError)
  /-- A session failed on its way. -/
  | aborted (error : SyncError)
  | sessionsFailed (count : Nat)
  deriving DecidableEq, Repr

namespace ServiceFailure

/-- What could not be done, and why. -/
def messages : ServiceFailure → List String
  | .notLoaded path fault => ["Failed to load " ++ path, (SyncError.config fault).message]
  | .badOptions session fault =>
    ["Invalid options for session " ++ session, (SyncError.config fault).message]
  | .notOpened target error => ["Failed to open " ++ target.text, error.message]
  | .notRead space error => ["Failed to read namespace " ++ space, error.message]
  | .aborted error => [error.message]
  | .sessionsFailed count => [Decimal.text count ++ " session(s) failed"]

/-! ## Forms -/

/-- The failure in one line. -/
def line (failure : ServiceFailure) : String := ": ".intercalate failure.messages

/-- A cause, each of its lines indented. -/
def indented (cause : String) : String :=
  "\n".intercalate ((cause.splitOn "\n").map fun line => "    " ++ line)

/-- The failure with its cause set off. -/
def report (failure : ServiceFailure) : String :=
  match failure.messages with
  | [] => "Error: "
  | [message] => "Error: " ++ message
  | message :: causes =>
    "Error: " ++ message ++ "\n\nCaused by:\n" ++ "\n".intercalate (causes.map indented)

end ServiceFailure

end SegmentSync
