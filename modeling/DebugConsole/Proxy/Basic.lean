import DebugConsole.Breakpoints.Query
import DebugConsole.Host

/-!
# The debugger's proxy

A proxy runs inside the debugger and answers one datagram to each request. It
announces its address in a file once it is ready, so the file is read when a request
is made and there is no socket yet. A reply does not tell to which request it belongs.
A socket on which no reply has come is therefore given up: a late reply to it can not
be taken for the answer to a later request, which goes out from another port.
-/

namespace DebugConsole

/-- The way to a debugger's proxy. -/
structure Proxy where
  /-- The file in which the proxy announces its address. -/
  addressFile : Path
  /-- How long to wait for a reply, in milliseconds. -/
  timeout : Nat
  /-- The socket in use; every request made on it has been answered. -/
  socket : Option Socket

namespace Proxy

variable {World : Type}

/-- The way to a proxy that has not been asked anything yet. -/
def new (addressFile : Path) (timeout : Nat) : Proxy := ⟨addressFile, timeout, none⟩

/-- The address that a proxy announces in the text of a file. -/
def announced (text : String) : Except Error Address :=
  let trimmed := Text.trim text.toList
  match Address.ofText? trimmed with
  | some address => .ok address
  | none =>
    .error (.sideChannel
      s!"Invalid proxy address '{String.ofList trimmed}': invalid socket address syntax")

/-- Makes sure that there is a socket. There is none as long as the proxy has not
announced its address. -/
def connect (host : Host World) (proxy : Proxy) :
    StateM World (Except Error (Option Socket) × Proxy) :=
  match proxy.socket with
  | some socket => return (.ok (some socket), proxy)
  | none => do
    match ← host.content proxy.addressFile with
    | .error .missing => return (.ok none, proxy)
    | .error fault => return (.error (.fileRead proxy.addressFile fault), proxy)
    | .ok bytes =>
      match (Host.decode proxy.addressFile bytes).bind announced with
      | .error error => return (.error error, proxy)
      | .ok address =>
        match ← host.connect address with
        | .error reason => return (.error (.system reason), proxy)
        | .ok socket => return (.ok (some socket), { proxy with socket := some socket })

/-- Sends a request on a socket and waits for the reply. -/
def exchange (host : Host World) (proxy : Proxy) (socket : Socket) (line : String) :
    StateM World (Answer × Proxy) := do
  match ← host.send socket (Utf8.encode line.toList) with
  | .error reason => return (.failure (.system reason), proxy)
  | .ok () =>
    match ← host.receive socket proxy.timeout with
    | .datagram bytes => return (.text (String.ofList (Utf8.lossy bytes)), proxy)
    | .timeout => return (.silence, { proxy with socket := none })
    | .failure reason => return (.failure (.sideChannel reason), { proxy with socket := none })

/-- Makes a request. -/
def request (host : Host World) (proxy : Proxy) (line : String) :
    StateM World (Answer × Proxy) := do
  let (outcome, proxy) ← proxy.connect host
  match outcome with
  | .error error => return (.failure error, proxy)
  | .ok none => return (.silence, proxy)
  | .ok (some socket) => proxy.exchange host socket line

/-- The channel to a proxy; without a proxy there is no answer. -/
def channel (host : Host World) (line : String) : StateM (Option Proxy × World) Answer :=
  fun (proxy, world) =>
    match proxy with
    | none => (.silence, none, world)
    | some proxy =>
      let ((answer, proxy), world) := (proxy.request host line).run world
      (answer, some proxy, world)

end Proxy

end DebugConsole
