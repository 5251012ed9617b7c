import SegmentSync.Wire.Reply.Reader

/-!
# `SegmentSync.Wire.Channel` — one connection, from its opening to its loss

A channel is closed until it is opened. It is closed again when a request fails on it, so that no reply is ever
taken for the reply to another request; where bytes arrive that are no reply it is spent, and the next
request finds that out.
-/

namespace SegmentSync.Wire

/-- The state of a connection. -/
inductive Channel where
  | closed
  | opened
  /-- Open on this side alone. -/
  | spent
  deriving DecidableEq, Repr, Inhabited

namespace Channel

/-- The log line before a connection is opened. -/
def openingLine (endpoint : Endpoint) : String := "Connecting to " ++ endpoint.text

/-- The log line after a connection has been opened. -/
def openedLine (endpoint : Endpoint) : String := "Connected to " ++ endpoint.text

/-- The failure of a request without a connection. -/
def notConnected (endpoint : Endpoint) : ProtocolError := .transport ("not connected to " ++ endpoint.text)

/-- The failure of a request whose connection is lost. -/
def lost : ProtocolError := .transport "broken pipe"

/-- The failure of a request whose reply does not arrive in time. -/
def timedOut : ProtocolError := .transport "timed out"

/-- The failure of a request that is answered by something else than a reply. -/
def malformed : ProtocolError := .server "malformed reply"

/-- What a request comes to, and the channel after it. -/
def conclude : Except Interruption Reply → Except ProtocolError Reply × Channel
  | .ok reply => (reply.outcome, .opened)
  | .error .incomplete => (.error timedOut, .closed)
  | .error .malformed => (.error malformed, .spent)

end Channel

end SegmentSync.Wire
