import SegmentSync.Endpoint
import SegmentSync.Protocol.Answer

/-!
# `SegmentSync.Error` — what can go wrong

Failures are kept as causes; `message` gives their wording.

## Contents
- **Requests.** `ProtocolError`: the outcome of one request. The end of a segment is one of them; a failed
  connection is the only one that is `isTransient`, and is recovered by connecting again.
- **Replication.** `SyncError`: a failed request, a slave that does not do what it is told, cursors that
  cannot be, a refused login, a spent retry budget, a configuration that makes no sense. `SyncError.overflow` is
  none of these, but the end of a program that checks its arithmetic.
-/

namespace SegmentSync

/-! ## Requests -/

/-- The failure of a single request. -/
inductive ProtocolError where
  /-- The cursor stands at the end of its segment. -/
  | eof
  /-- The connection was refused, dropped, timed out, or is unusable otherwise. -/
  | transport (reason : String)
  /-- The store answered with an error. -/
  | server (reason : String)
  /-- The reply has another shape than the command gives it. -/
  | unexpectedReply (command : String) (mismatch : Mismatch)
  deriving DecidableEq, Repr

namespace ProtocolError

/-- The failure in words. -/
def message : ProtocolError → String
  | .eof => "EOF"
  | .transport reason => "Transport error: " ++ reason
  | .server reason => "Server error: " ++ reason
  | .unexpectedReply command mismatch =>
    "Unexpected reply to " ++ command ++ ": " ++ mismatch.message

/-- The end of a segment. -/
def isEof : ProtocolError → Bool
  | .eof => true
  | _ => false

/-- A failure that is recovered by connecting again. -/
def isTransient : ProtocolError → Bool
  | .transport _ => true
  | _ => false

/-- The failure that an error reply stands for: the code `EOF` is the end of a segment. -/
def ofErrorLine (line : ErrorLine) : ProtocolError :=
  if line.code = "EOF" then .eof else .server line.message

end ProtocolError

/-! ## Replication -/

/-- How a slave fails to take over a record. -/
inductive IntegrityFault where
  /-- The master handed out the record of another cursor. -/
  | misplaced (requested returned : Position)
  /-- The slave did not delete a key. -/
  | deletionRejected (key : String) (position : Position) (reason : String)
  /-- The slave did not store a key. -/
  | notAcknowledged (key : String) (position : Position) (reason : String)
  /-- The slave acknowledged another key. -/
  | wrongEcho (echo key : String) (position : Position)
  /-- A fault in the words of its finder. -/
  | stated (reason : String)
  deriving DecidableEq, Repr

/-- The fault in words. -/
def IntegrityFault.message : IntegrityFault → String
  | .misplaced requested returned =>
    "requested record at " ++ requested.text ++ ", master returned " ++ returned.text
  | .deletionRejected key position reason =>
    "slave rejected deletion of " ++ key ++ " at " ++ position.text ++ ": " ++ reason
  | .notAcknowledged key position reason =>
    "slave did not acknowledge " ++ key ++ " at " ++ position.text ++ ": " ++ reason
  | .wrongEcho echo key position =>
    "slave acknowledged " ++ echo ++ " instead of " ++ key ++ " at " ++ position.text
  | .stated reason => reason

/-- How cursors can be impossible. -/
inductive CursorFault where
  /-- The slave is ahead of the master. -/
  | aheadOfMaster
  /-- The slave is ahead of the baseline of a bulk copy. -/
  | aheadOfBaseline
  /-- The slave is behind where it has been before. -/
  | movedBackwards
  deriving DecidableEq, Repr

/-- The fault in words. -/
def CursorFault.message : CursorFault → String
  | .aheadOfMaster => "slave is ahead of master"
  | .aheadOfBaseline => "slave is ahead of the bulk baseline"
  | .movedBackwards => "slave position moved backwards"

/-- How a login can be missing. -/
inductive AuthFault where
  /-- The store refused the login. -/
  | refused (target : Target)
  /-- The connection is not logged in. -/
  | notLoggedIn (target : Target)
  /-- A command was held back because the connection is not logged in. -/
  | heldBack (command : Command) (target : Target)
  /-- A fault in the words of its finder. -/
  | stated (reason : String)
  deriving DecidableEq, Repr

/-- The fault in words. -/
def AuthFault.message : AuthFault → String
  | .refused target => target.text ++ " refused the login"
  | .notLoggedIn target => target.text ++ " is not authenticated"
  | .heldBack command target =>
    command.name ++ " refused: " ++ target.text ++ " is not authenticated"
  | .stated reason => reason

/-- What makes a configuration unusable. -/
inductive ConfigFault where
  | noSessions
  | emptyName
  | duplicateName (name : String)
  | noNamespace (session : String)
  /-- Both sides of a session have the address of the master. -/
  | selfReplication (session : String) (master : Endpoint)
  | zeroPollInterval
  | zeroRetryDelay
  /-- A multiplier outside of its bounds. -/
  | multiplierOutOfRange (field : String) (value : Float)
  /-- The two sides of a session replicate different namespaces. -/
  | namespaceMismatch (master slave : String)
  /-- The configuration file cannot be read. -/
  | unreadable (path reason : String)
  /-- The text is no configuration. -/
  | malformed
  /-- A fault in the words of its finder. -/
  | stated (reason : String)
  deriving DecidableEq, Repr

/-- The largest multiplier of a backoff. -/
def maxMultiplier : Float := 100

/-- The fault in words. -/
def ConfigFault.message : ConfigFault → String
  | .noSessions => "no sessions configured"
  | .emptyName => "session name cannot be empty"
  | .duplicateName name => "duplicate session name '" ++ name ++ "'"
  | .noNamespace session => "session '" ++ session ++ "' has no namespace"
  | .selfReplication session master =>
    "session '" ++ session ++ "' replicates " ++ master.text ++ " onto itself"
  | .zeroPollInterval => "poll.interval_ms must be > 0"
  | .zeroRetryDelay => "retry.initial_delay_ms must be > 0"
  | .multiplierOutOfRange field value =>
    field ++ " must be between 1 and " ++ Binary64.plain maxMultiplier ++ ", got " ++
      Binary64.plain value
  | .namespaceMismatch master slave =>
    "master namespace " ++ master ++ " differs from slave namespace " ++ slave
  | .unreadable path reason => "cannot read " ++ path ++ ": " ++ reason
  | .malformed => "invalid configuration"
  | .stated reason => reason

/-- The failure of a replication session. -/
inductive SyncError where
  | protocol (error : ProtocolError)
  | integrity (fault : IntegrityFault)
  | invariantViolation (master slave : Position) (fault : CursorFault)
  | auth (fault : AuthFault)
  | retriesExhausted (attempts : Nat) (last : ProtocolError)
  | config (fault : ConfigFault)
  /-- A number has outgrown its width. Nobody handles this: it stands for the abort of a program that is built with
      checks of its arithmetic, and what a session does after it, such as to log it, stands for nothing. -/
  | overflow
  deriving DecidableEq, Repr

namespace SyncError

/-- The segment numbers are used up. -/
@[match_pattern] abbrev segmentOverflow : SyncError := .overflow

/-- The failure in words. -/
def message : SyncError → String
  | .protocol error => error.message
  | .integrity fault => "Integrity error: " ++ fault.message
  | .invariantViolation master slave fault =>
    "Invariant violation: " ++ fault.message ++ " (master " ++ master.text ++ ", slave " ++
      slave.text ++ ")"
  | .auth fault => "Authentication failed: " ++ fault.message
  | .retriesExhausted attempts last =>
    "Giving up after " ++ Decimal.text attempts ++ " reconnect attempts: " ++ last.message
  | .config fault => "Invalid configuration: " ++ fault.message
  | .overflow => "attempt to add with overflow"

/-- The end of a segment. -/
def isEof : SyncError → Bool
  | .protocol error => error.isEof
  | _ => false

/-- A failure that is recovered by connecting again. -/
def isTransient : SyncError → Bool
  | .protocol error => error.isTransient
  | _ => false

end SyncError

/-- The answer to a command that a reply gives. -/
def Answer.ofReply (command : Command) (reply : Reply) : Except ProtocolError Answer :=
  (Answer.reader command reply).mapError (.unexpectedReply command.name)

end SegmentSync
