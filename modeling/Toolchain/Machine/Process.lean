import Toolchain.Environment.Variables
import Toolchain.Files.Tree

/-!
# Processes

A machine has files, a clock and the buffers that carry what processes print to whoever
reads it. A process sees the machine through its environment, its working directory and its
descriptors. Programs run one after the other, each to its end: what is printed into a pipe
is kept in a buffer until the reader runs.

## Buffers

A buffer holds either what was printed, the latest byte first, or what is still to be read.
`Process.write` appends to the first kind and `Machine.printed` reads it back in order;
`Machine.supply` makes one of the second kind and `Process.takeInput` empties it.
-/

namespace Toolchain

/-- Where a descriptor leads. -/
inductive Channel
  | buffer (id : Nat)
  | file (place : Place)
  | sink
  deriving DecidableEq, Repr

/-- What processes share. The clock counts milliseconds. -/
structure Machine where
  files : FileTree := {}
  cwd : Place := []
  clock : Nat := 0
  buffers : Array (List UInt8) := #[]
  deriving Inhabited

namespace Machine

/-- Makes a buffer with something to read. -/
def supply (m : Machine) (input : List UInt8) : Nat × Machine :=
  (m.buffers.size, { m with buffers := m.buffers.push input })

/-- Makes a buffer to print to. -/
def openBuffer (m : Machine) : Nat × Machine := m.supply []

/-- What was printed to a buffer, in order. -/
def printed (m : Machine) (id : Nat) : List UInt8 := ((m.buffers[id]?).getD []).reverse

/-- Turns what was printed to a buffer into something to read. -/
def turn (m : Machine) (id : Nat) : Machine :=
  { m with buffers := m.buffers.modify id List.reverse }

/-- Sets the clock forward. -/
def wait (m : Machine) (time : Nat) : Machine := { m with clock := m.clock + time }

end Machine

/-- A running program. -/
structure Process where
  machine : Machine
  env : Environment
  cwd : Place
  channels : List (Nat × Channel) := []
  deriving Inhabited

/-- How a program ends. -/
inductive Ending
  | exited (code : Nat)
  | killed (signal : Nat)
  /-- It does not end. -/
  | unending
  deriving DecidableEq, Repr

namespace Process

/-- The number by which a process knows itself. -/
def number : Nat := 4096

/-! ## Descriptors -/

/-- Where a descriptor leads; a closed one leads nowhere. -/
def channel (p : Process) (descriptor : Nat) : Channel :=
  ((p.channels.find? (·.1 = descriptor)).map Prod.snd).getD .sink

/-- Lets a descriptor lead somewhere else. -/
def withChannel (p : Process) (descriptor : Nat) (channel : Channel) : Process :=
  { p with channels := (descriptor, channel) :: p.channels.filter (·.1 ≠ descriptor) }

/-- Adds bytes to a file that is open. -/
def appendTo (t : FileTree) (place : Place) (bytes : List UInt8) : FileTree :=
  match t.node? place with
  | some (.file mode content) => t.put place (.file mode (content ++ bytes))
  | _ => t

/-- Writes bytes to a descriptor. -/
def write (p : Process) (descriptor : Nat) (bytes : List UInt8) : Process :=
  match p.channel descriptor with
  | .sink => p
  | .buffer id =>
    { p with machine :=
      { p.machine with buffers := p.machine.buffers.modify id (bytes.reverseAux ·) } }
  | .file place =>
    { p with machine := { p.machine with files := appendTo p.machine.files place bytes } }

/-- Prints a text. -/
def print (p : Process) (s : String) : Process := p.write 1 (Utf8.write s)

/-- Prints a line of a message. -/
def complain (p : Process) (s : String) : Process := p.write 2 (Utf8.write (s ++ "\n"))

/-- Takes everything that is still to be read. -/
def takeInput (p : Process) : List UInt8 × Process :=
  match p.channel 0 with
  | .buffer id =>
    ((p.machine.buffers[id]?).getD [],
      { p with machine := { p.machine with buffers := p.machine.buffers.modify id fun _ => [] } })
  | .file place =>
    match p.machine.files.node? place with
    | some (.file _ content) => (content, p)
    | _ => ([], p)
  | .sink => ([], p)

/-- Puts back what was taken but not used. -/
def returnInput (p : Process) (bytes : List UInt8) : Process :=
  match p.channel 0 with
  | .buffer id =>
    { p with machine := { p.machine with buffers := p.machine.buffers.modify id fun _ => bytes } }
  | _ => p

/-! ## Opening files -/

/-- Opens a file to be read on a descriptor. -/
def openInput (p : Process) (descriptor : Nat) (path : Path) : Except FileFault Process :=
  match p.machine.files.status p.cwd path with
  | .error e => .error e
  | .ok (_, .sink) => .ok (p.withChannel descriptor .sink)
  | .ok (_, .directory _) => .ok (p.withChannel descriptor .sink)
  | .ok _ =>
    match p.machine.files.readBytes p.cwd path with
    | .error e => .error e
    | .ok bytes =>
      let (id, machine) := p.machine.supply bytes
      .ok ({ p with machine }.withChannel descriptor (.buffer id))

/-- Opens a file to be written on a descriptor, emptied unless `keep`. -/
def openOutput (p : Process) (descriptor : Nat) (keep : Bool) (path : Path) :
    Except FileFault Process :=
  let old := if keep then (p.machine.files.readBytes p.cwd path).toOption.getD [] else []
  match p.machine.files.status p.cwd path with
  | .ok (_, .sink) => .ok (p.withChannel descriptor .sink)
  | _ =>
    match p.machine.files.writeBytes p.cwd path old with
    | .error e => .error e
    | .ok files =>
      match files.status p.cwd path with
      | .error e => .error e
      | .ok (place, _) =>
        .ok ({ p with machine := { p.machine with files } }.withChannel descriptor (.file place))

end Process

end Toolchain
