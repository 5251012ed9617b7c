import SegmentSync.Number.Decimal
import SegmentSync.Text.Blank
import SegmentSync.Text.Quoted

/-!
# `SegmentSync.Endpoint` — where a store can be reached

## Contents
- **Endpoints.** A host and a port, or the path of a socket. `Endpoint.read` accepts `host:port`,
  `[address]:port` and `unix:path`; `Endpoint.text` writes the same forms, with brackets around a host that
  holds a colon.
- **Addresses.** Two socket paths reach the same socket when their components agree (`sameAddress`): empty
  components and `.` beyond the start do not count.
- **Targets.** An endpoint together with the namespace, the password, and the label of the connection in
  messages.
-/

namespace SegmentSync

/-- The address of a store. -/
inductive Endpoint where
  | tcp (host : String) (port : UInt16)
  | socket (path : String)
  deriving DecidableEq, Repr, Inhabited

namespace Endpoint

/-! ## Reading and writing -/

/-- Why a text is no endpoint. -/
inductive Fault where
  | emptyPath
  | noPort (text : String)
  | emptyHost (text : String)
  | badPort (text : String) (fault : Decimal.Fault)
  deriving DecidableEq, Repr

/-- The fault in words. -/
def Fault.message : Fault → String
  | .emptyPath => "unix endpoint requires a socket path"
  | .noPort text => "invalid endpoint '" ++ text ++ "', expected host:port"
  | .emptyHost text => "invalid endpoint '" ++ text ++ "', empty host"
  | .badPort text fault => "invalid port in '" ++ text ++ "': " ++ fault.message

/-- The letters that announce a socket path. -/
def socketMark : List Char := ['u', 'n', 'i', 'x', ':']

/-- A host without the brackets around it: all opening ones at its start and closing ones at its end. -/
def unbracket (host : List Char) : List Char :=
  ((host.dropWhile (· = '[')).reverse.dropWhile (· = ']')).reverse

/-- Reads an endpoint from its characters. -/
def readChars (chars : List Char) : Except Fault Endpoint :=
  if socketMark.isPrefixOf chars then
    let path := chars.drop socketMark.length
    if path = [] then .error .emptyPath else .ok (.socket (String.ofList path))
  else
    match Text.splitOnceLast ':' chars with
    | none => .error (.noPort (String.ofList chars))
    | some (host, port) =>
      let host := unbracket host
      if host = [] then .error (.emptyHost (String.ofList chars))
      else
        match Decimal.readUInt16 port with
        | .error fault => .error (.badPort (String.ofList chars) fault)
        | .ok port => .ok (.tcp (String.ofList host) port)

/-- Reads an endpoint. -/
def read (text : String) : Except Fault Endpoint := readChars text.toList

/-- The characters of an endpoint. -/
def chars : Endpoint → List Char
  | .tcp host port =>
    let host := host.toList
    let host := if ':' ∈ host then '[' :: host ++ [']'] else host
    host ++ ':' :: Decimal.digits port.toNat
  | .socket path => socketMark ++ path.toList

/-- The endpoint as it is read. -/
def text (endpoint : Endpoint) : String := String.ofList endpoint.chars

/-- The endpoint with its parts named. -/
def debugText : Endpoint → String
  | .tcp host port =>
    "Tcp \x7b host: " ++ Text.quoted host ++ ", port: " ++ Decimal.text port.toNat ++ " \x7d"
  | .socket path => "Unix(" ++ Text.quotedPath path ++ ")"

/-! ## Addresses -/

/-- The pieces of a path between its slashes. -/
def pieces (path : List Char) : List (List Char) :=
  go [] path
where
  /-- `piece` is what has been read of the current piece. -/
  go (piece : List Char) : List Char → List (List Char)
    | [] => [piece]
    | c :: rest => if c = '/' then piece :: go [] rest else go (piece ++ [c]) rest

/-- The components of a path: whether it starts at the root, and its pieces without the empty ones and
    without `.`, which counts only at the start of a relative path. -/
def components (path : String) : Bool × List (List Char) :=
  let all := pieces path.toList
  let rooted := path.toList.head? = some '/'
  let leading := if !rooted && all.head? = some ['.'] then [['.']] else []
  (rooted, leading ++ all.filter fun piece => piece ≠ [] && piece ≠ ['.'])

/-- The endpoints have the same address. -/
def sameAddress : Endpoint → Endpoint → Bool
  | .tcp host port, .tcp host' port' => host = host' && port = port'
  | .socket path, .socket path' => components path = components path'
  | _, _ => false

end Endpoint

/-! ## Targets -/

/-- A store endpoint bound to one namespace. -/
structure Target where
  endpoint : Endpoint
  space : String
  password : Option String := none
  label : String
  deriving DecidableEq, Repr, Inhabited

namespace Target

/-- Label, endpoint and namespace. -/
def text (target : Target) : String :=
  target.label ++ " (" ++ target.endpoint.text ++ "/" ++ target.space ++ ")"

/-- A password in debug text: only whether there is one. -/
def maskedPassword : Option String → String
  | some _ => "Some(\"***\")"
  | none => "None"

/-- The target with its parts named and its password masked. -/
def debugText (target : Target) : String :=
  "Target \x7b endpoint: " ++ target.endpoint.debugText ++
    ", namespace: " ++ Text.quoted target.space ++
    ", password: " ++ maskedPassword target.password ++
    ", label: " ++ Text.quoted target.label ++ " \x7d"

end Target

end SegmentSync
