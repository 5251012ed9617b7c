import SegmentSync.Digest.Challenge
import SegmentSync.Store.Namespace

/-!
# `SegmentSync.Store.Basic` — a store in memory

A store has namespaces, may demand a login, and can be told to misbehave. Every client has a connection of its
own, which knows whether it is logged in and what it has selected.

## Contents
- **Stores.** `Store`, `Fault`, `Connection`.
- **Local writes.** What a regular client of the store does beside the replication: `set`, `delete`,
  `rollover`.
- **Readings.** Cursor, value of a key, segments.
- **Orders to misbehave.** `inject` queues a fault for the next command of a kind, `refuseReconnects` has the
  next connections refused.
-/

namespace SegmentSync

/-! ## Stores -/

/-- How a store misbehaves at a command. -/
inductive Fault where
  /-- The connection breaks before the command is executed. -/
  | disconnect
  /-- A set is executed, but another key is acknowledged. -/
  | wrongEcho (key : Bytes)
  /-- A set is executed, but not acknowledged. -/
  | nilEcho
  /-- The command is rejected. -/
  | reject (reason : String)
  deriving DecidableEq, Repr

/-- A store. -/
structure Store where
  /-- The password of the login; without one there is no login, and nothing is forbidden. -/
  admin : Option String := none
  namespaces : Table String Namespace := .empty
  /-- The commands received, the first one first. -/
  log : List Command := []
  /-- Faults to come, each at the next command of its kind. -/
  faults : List (Command × Fault) := []
  /-- Connections to be refused. -/
  refused : Nat := 0
  /-- Challenges handed out. -/
  challenges : UInt64 := 0
  /-- Markers used up. -/
  markers : UInt64 := 0

instance : Inhabited Store := ⟨{}⟩

/-- A client's connection to a store. -/
structure Connection where
  isOpen : Bool := true
  /-- The challenge that waits for its answer. -/
  challenge : Option String := none
  /-- The login has succeeded. -/
  admin : Bool := false
  /-- The selected namespace. -/
  selected : Option String := none
  deriving DecidableEq, Repr, Inhabited

namespace Store

/-- Creates a namespace, in place of one of that name. -/
def createNamespace (store : Store) (name : String) (password : Option String) : Store :=
  { store with namespaces := store.namespaces.insert name { password } }

/-- Changes a namespace, if there is one of that name. -/
def update (store : Store) (name : String) (change : Namespace → Namespace) : Store :=
  match store.namespaces.find? name with
  | none => store
  | some ns => { store with namespaces := store.namespaces.insert name (change ns) }

/-! ## Local writes -/

/-- Appends an entry under the next marker. -/
def write (store : Store) (name : String) (key : Bytes) (value : Option Bytes) : Store :=
  let marker := store.markers + 1
  { store with markers := marker }.update name fun ns => ns.append { key, value, marker }

/-- Sets a key. -/
def set (store : Store) (name : String) (key value : Bytes) : Store := store.write name key (some value)

/-- Deletes a key, whether it is set or not. -/
def delete (store : Store) (name : String) (key : Bytes) : Store := store.write name key none

/-- Starts a new segment. -/
def rollover (store : Store) (name : String) : Store := store.update name .jump

/-! ## Readings -/

/-- The end of a namespace's log; the start where there is no such namespace. -/
def position (store : Store) (name : String) : Position :=
  ((store.namespaces.find? name).map Namespace.position).getD .zero

/-- The size of a namespace. -/
def size (store : Store) (name : String) : UInt64 :=
  ((store.namespaces.find? name).map Namespace.size).getD 0

/-- The value of a key. -/
def get? (store : Store) (name : String) (key : Bytes) : Option Bytes :=
  (store.namespaces.find? name).bind fun ns => ns.keys.find? key

/-- A namespace is frozen. -/
def isFrozen (store : Store) (name : String) : Bool :=
  (store.namespaces.find? name).any Namespace.frozen

/-- The segments of a namespace. -/
def segments (store : Store) (name : String) : List (List Entry) :=
  ((store.namespaces.find? name).map Namespace.segments).getD []

/-! ## Orders to misbehave -/

/-- Queues a fault for the next command of a kind. -/
def inject (store : Store) (command : Command) (fault : Fault) : Store :=
  { store with faults := store.faults ++ [(command, fault)] }

/-- Has the next `count` connections refused. -/
def refuseReconnects (store : Store) (count : Nat) : Store := { store with refused := count }

/-- The first fault that waits for a command, and those that still wait without it. -/
def takeFault (command : Command) : List (Command × Fault) → Option Fault × List (Command × Fault)
  | [] => (none, [])
  | (command', fault) :: rest =>
    if command' = command then (some fault, rest)
    else
      let (found, rest) := takeFault command rest
      (found, (command', fault) :: rest)

end Store

end SegmentSync
