import DebugConsole.Host
import Mathlib.Data.List.Forall2

/-!
# Requests and replies under way

A `Network` knows every request that was sent, and what has become of the reply to it. The
other side replies to each request once at most, to the port from which it came. A reply may
come late, and may be lost. What happens to requests and replies of itself is
`Network.Drifts`; only a socket's owner reads a reply, and only one sent to its port.

`Networked` says of a host that its sockets are ends of such a network. The one thing asked
of its ports is that no reply is still to come to that of a new socket.
-/

namespace DebugConsole

/-- What has become of the reply to a request. -/
inductive Fate where
  /-- The request is under way, or being answered. -/
  | unanswered
  /-- The reply is under way, or waits to be read. -/
  | replied (reply : List UInt8)
  /-- The reply was read. -/
  | read (reply : List UInt8)
  /-- The request or the reply to it was lost, or there never will be one. -/
  | lost
  deriving DecidableEq

namespace Fate

/-- A reply may still come. -/
def Outstanding : Fate → Prop
  | .unanswered | .replied _ => True
  | .read _ | .lost => False

/-- What a fate may become without a reader. There is one reply at most. -/
inductive Leads : Fate → Fate → Prop where
  | stays (fate : Fate) : Leads fate fate
  | replied (reply : List UInt8) : Leads .unanswered (.replied reply)
  | lost {fate : Fate} (outstanding : fate.Outstanding) : Leads fate .lost

theorem Leads.trans {fate middle after : Fate} (first : Leads fate middle)
    (second : Leads middle after) : Leads fate after := by
  cases first with
  | stays => exact second
  | replied reply =>
    cases second with
    | stays => exact .replied reply
    | lost _ => exact .lost trivial
  | lost outstanding =>
    cases second with
    | stays => exact .lost outstanding
    | lost impossible => exact impossible.elim

theorem Leads.outstanding {fate after : Fate} (leads : Leads fate after)
    (outstanding : after.Outstanding) : fate.Outstanding := by
  cases leads with
  | stays => exact outstanding
  | replied _ => trivial
  | lost started => exact started

end Fate

/-- A request that was sent from a port, and what has become of the reply to it. -/
structure Errand where
  port : Nat
  request : List UInt8
  fate : Fate
  deriving DecidableEq

/-- What an errand may become without a reader. -/
structure Errand.Drifts (errand after : Errand) : Prop where
  port : after.port = errand.port
  request : after.request = errand.request
  leads : errand.fate.Leads after.fate

theorem Errand.Drifts.refl (errand : Errand) : errand.Drifts errand := ⟨rfl, rfl, .stays _⟩

theorem Errand.Drifts.trans {errand middle after : Errand} (first : errand.Drifts middle)
    (second : middle.Drifts after) : errand.Drifts after :=
  ⟨second.port.trans first.port, second.request.trans first.request,
    first.leads.trans second.leads⟩

/-- All requests that were sent, in their order. -/
structure Network where
  errands : List Errand
  deriving DecidableEq

namespace Network

/-- What may happen without a sender or a reader: of some outstanding requests, a reply is
sent, or it is lost. -/
def Drifts (network after : Network) : Prop :=
  List.Forall₂ Errand.Drifts network.errands after.errands

/-- No reply is still to come to a port. A reply that has not been sent yet is still to come
as well. -/
def Idle (network : Network) (port : Nat) : Prop :=
  ∀ errand ∈ network.errands, errand.port = port → ¬ errand.fate.Outstanding

/-- Sends a request from a port. -/
def post (network : Network) (port : Nat) (request : List UInt8) : Network :=
  ⟨network.errands ++ [⟨port, request, .unanswered⟩]⟩

/-- A request is sent from a port, while the network drifts. -/
def Sends (port : Nat) (request : List UInt8) (network after : Network) : Prop :=
  ∃ middle : Network, network.Drifts middle ∧ (middle.post port request).Drifts after

/-- A reply that was sent to a port is read, while the network drifts. -/
def Reads (port : Nat) (reply : List UInt8) (network after : Network) : Prop :=
  ∃ earlier later request,
    network.Drifts ⟨earlier ++ ⟨port, request, .replied reply⟩ :: later⟩ ∧
    Drifts ⟨earlier ++ ⟨port, request, .read reply⟩ :: later⟩ after

variable {network middle after : Network} {port : Nat}

theorem Drifts.refl (network : Network) : network.Drifts network :=
  List.forall₂_same.mpr fun errand _ => .refl errand

theorem Drifts.trans (first : network.Drifts middle) (second : middle.Drifts after) :
    network.Drifts after := by
  obtain ⟨errands⟩ := network
  obtain ⟨middles⟩ := middle
  obtain ⟨afters⟩ := after
  unfold Drifts at *
  dsimp only at *
  induction first generalizing afters with
  | nil => exact second
  | cons here _ inductionHypothesis =>
    obtain ⟨next, others, there, further, rfl⟩ := List.forall₂_cons_left_iff.mp second
    exact .cons (here.trans there) (inductionHypothesis others further)

/-- Every errand afterwards is what has become of an errand before. -/
theorem Drifts.exists_source (drifts : network.Drifts after) {errand : Errand}
    (member : errand ∈ after.errands) : ∃ source ∈ network.errands, source.Drifts errand := by
  obtain ⟨place, within, rfl⟩ := List.getElem_of_mem member
  obtain ⟨long, each⟩ := List.forall₂_iff_get.mp drifts
  exact ⟨network.errands[place], List.getElem_mem _, each place (long ▸ within) within⟩

/-- Nothing but what is sent becomes outstanding. -/
theorem Idle.drifts (idle : network.Idle port) (drifts : network.Drifts after) :
    after.Idle port := by
  intro errand member here outstanding
  obtain ⟨source, inside, drifted⟩ := drifts.exists_source member
  exact idle source inside (drifted.port ▸ here) (drifted.leads.outstanding outstanding)

theorem Idle.concat {front : List Errand} {last : Errand} (idle : Idle ⟨front⟩ port)
    (settled : ¬ last.fate.Outstanding) : Idle ⟨front ++ [last]⟩ port := by
  intro errand member here
  rcases List.mem_append.mp member with inside | final
  · exact idle errand inside here
  · exact List.mem_singleton.mp final ▸ settled

/-- The request sent last stays the last one. -/
theorem Drifts.exists_concat {front : List Errand} {last : Errand}
    (drifts : Drifts ⟨front ++ [last]⟩ after) :
    ∃ front' last', after = ⟨front' ++ [last']⟩ ∧ Drifts ⟨front⟩ ⟨front'⟩ ∧
      last.Drifts last' := by
  obtain ⟨afters⟩ := after
  unfold Drifts at *
  dsimp only at *
  induction front generalizing afters with
  | nil =>
    obtain ⟨last', _, here, nothing, rfl⟩ := List.forall₂_cons_left_iff.mp drifts
    obtain rfl := List.forall₂_nil_left_iff.mp nothing
    exact ⟨[], last', rfl, .nil, here⟩
  | cons first front inductionHypothesis =>
    obtain ⟨first', others, here, further, rfl⟩ := List.forall₂_cons_left_iff.mp drifts
    obtain ⟨front', last', same, drifted, there⟩ := inductionHypothesis others further
    rw [Network.mk.injEq] at same
    exact ⟨first' :: front', last', by rw [same, List.cons_append], .cons here drifted, there⟩

/-- A reply that is read in a network that is idle but for the errand sent last is the reply
to this errand. -/
theorem Drifts.reads_last {front earlier later : List Errand} {last : Errand}
    {request reply : List UInt8} (idle : Idle ⟨front⟩ port)
    (drifts : Drifts ⟨front ++ [last]⟩ ⟨earlier ++ ⟨port, request, .replied reply⟩ :: later⟩) :
    later = [] ∧ last.request = request ∧ Drifts ⟨front⟩ ⟨earlier⟩ := by
  obtain ⟨front', last', same, drifted, there⟩ := drifts.exists_concat
  rw [Network.mk.injEq] at same
  rcases List.eq_nil_or_concat later with rfl | ⟨others, final, rfl⟩
  · obtain ⟨rfl, one⟩ := List.append_inj' same rfl
    obtain rfl := List.singleton_inj.mp one
    exact ⟨rfl, there.request.symm, drifted⟩
  · -- The reply was sent to an earlier errand of this port, but none is outstanding.
    have inside : ⟨port, request, .replied reply⟩ ∈ front' := by
      rw [List.concat_eq_append, ← List.cons_append, ← List.append_assoc] at same
      have alike := (List.append_inj' same rfl).1
      exact alike ▸ List.mem_append_right _ List.mem_cons_self
    exact absurd trivial (idle.drifts drifted _ inside rfl)

/-- Where no reply was to come to a port before a request was sent from it, a reply that is
read on it is the one to this request. -/
theorem Idle.reads_own {request reply : List UInt8} (idle : network.Idle port)
    (sends : Sends port request network middle) (reads : Reads port reply middle after) :
    ∃ earlier, network.Drifts ⟨earlier⟩ ∧
      after = ⟨earlier ++ [⟨port, request, .read reply⟩]⟩ := by
  obtain ⟨before, drifts, posted⟩ := sends
  obtain ⟨earlier, later, request', replied, read⟩ := reads
  obtain ⟨rfl, rfl, drifted⟩ := (posted.trans replied).reads_last (idle.drifts drifts)
  obtain ⟨earlier', last, rfl, drifted', same⟩ := read.exists_concat
  obtain ⟨port', request', fate⟩ := last
  obtain ⟨rfl, rfl, leads⟩ := same
  cases leads with
  | stays => exact ⟨earlier', (drifts.trans drifted).trans drifted', rfl⟩
  | lost impossible => exact impossible.elim

end Network

/-- The sockets of a host are ends of a network. Whatever else happens on the host, nothing
is sent or read but by sending and receiving; what could not be sent is not sent; and no reply
is still to come to the port of a new socket. -/
structure Networked {World : Type} (host : Host World) where
  network : World → Network
  content : ∀ path world, (network world).Drifts (network (host.content path world).2)
  connect : ∀ address world, (network world).Drifts (network (host.connect address world).2)
  fresh : ∀ address world socket, (host.connect address world).1 = .ok socket →
    (network (host.connect address world).2).Idle socket.port
  send : ∀ socket request world, (host.send socket request world).1 = .ok () →
    Network.Sends socket.port request (network world) (network (host.send socket request world).2)
  unsent : ∀ socket request world reason, (host.send socket request world).1 = .error reason →
    (network world).Drifts (network (host.send socket request world).2)
  receive : ∀ socket timeout world reply, (host.receive socket timeout world).1 = .datagram reply →
    Network.Reads socket.port reply (network world) (network (host.receive socket timeout world).2)

end DebugConsole
