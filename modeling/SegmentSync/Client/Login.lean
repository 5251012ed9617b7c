import SegmentSync.Client.Basic
import SegmentSync.Digest.Challenge

/-!
# `SegmentSync.Client.Login` — the login handshake

The store hands out a challenge, accepts a digest made from it and the password, and lets the client select
its namespace. The client counts as logged in only when all of this has worked.

## Contents
- **The handshake.** `authenticate` runs it and says whether the store accepted the login.
- **A usable client.** `establish` logs a client in as its target wants it: with a password by the handshake,
  without one by selecting the namespace alone. A refused login is a failure.
-/

namespace SegmentSync.Client

variable {ι : Type}

/-- Runs the handshake; whether the store accepts the login. -/
def authenticate (password : String) : Action (Client ι) ι Bool := do
  -- Whatever happens from here on, an earlier login does not count any more.
  setAuthenticated false
  match ← Action.attempt requestChallenge with
  | .error (.protocol (.server reason)) =>
    note .warn ("challenge refused: " ++ reason)
    return false
  | .error failure => throw failure
  | .ok challenge =>
    if !(← submitDigest (challengeDigest challenge password)) then
      note .warn "secure authentication rejected"
      return false
    let space := (← get).target.space
    if !(← selectNamespace space (some password)) then
      note .warn ("namespace " ++ space ++ " selection rejected")
      return false
    setAuthenticated true
    note .info ("authenticated on namespace " ++ space)
    return true

/-- Logs the client in as its target wants it. -/
def establish : Action (Client ι) ι Unit := do
  let target := (← get).target
  let accepted ← match target.password with
    | some password => authenticate password
    | none => do
      let selected ← selectNamespace target.space none
      setAuthenticated selected
      pure selected
  if !accepted then throw (.auth (.refused target))

/-- Opens the connection and logs in. -/
def connect : Action (Client ι) ι Unit := do
  reconnect
  establish

end SegmentSync.Client
