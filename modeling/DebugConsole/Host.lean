import DebugConsole.Error
import DebugConsole.Proxy.Address

/-!
# Hosts

What a program finds on the computer that it runs on: files, and sockets for
datagrams. The operations act on a state of their own, so that files may change and
datagrams may be under way between them.
-/

namespace DebugConsole

/-- A socket for datagrams: the port on which it receives, and where it sends to. -/
structure Socket where
  port : Nat
  peer : Address
  deriving DecidableEq, Repr

/-- What comes of waiting for a datagram. -/
inductive Arrival where
  | datagram (bytes : List UInt8)
  | timeout
  | failure (reason : String)

/-- What a program finds on its computer. -/
structure Host (World : Type) where
  /-- Where relative paths start. -/
  workingDirectory : Path
  /-- The content of a file. -/
  content : Path → StateM World (Except FileFault (List UInt8))
  /-- A new socket that sends to an address. -/
  connect : Address → StateM World (Except String Socket)
  /-- Sends a datagram. -/
  send : Socket → List UInt8 → StateM World (Except String Unit)
  /-- Waits for a datagram, for so many milliseconds at most. -/
  receive : Socket → Nat → StateM World Arrival

namespace Host

variable {World : Type}

/-- The bytes of a file. -/
def bytesOf (host : Host World) (path : Path) : StateM World (Except Error (List UInt8)) := do
  return (← host.content path).mapError (.fileRead path)

/-- The text of bytes that were read from a file. -/
def decode (path : Path) (bytes : List UInt8) : Except Error String :=
  match Utf8.text? bytes with
  | some text => .ok (String.ofList text)
  | none => .error (.fileRead path .notUtf8)

/-- The text of a file. -/
def textOf (host : Host World) (path : Path) : StateM World (Except Error String) := do
  return (← host.bytesOf path).bind (decode path)

end Host

end DebugConsole
