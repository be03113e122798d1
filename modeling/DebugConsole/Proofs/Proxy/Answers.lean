import DebugConsole.Proofs.Proxy.Network
import DebugConsole.Proxy.Basic

/-!
# Answers belong to their requests

A reply does not tell to which request it belongs, and it may come late. A proxy's socket is
idle between requests nevertheless: it was answered, or it was given up. So an answer with a
text is the reply to the very request that was made (`Proxy.request_answers`), after any
requests before it and whatever became of them.
-/

namespace DebugConsole

/-- What the answer to a request may be, where the request led from one network to another:
silence, a failure, or the text of the reply to the one request that was sent. -/
inductive Answer.Own (line : String) (network after : Network) : Answer → Prop where
  | silence : Own line network after .silence
  | failure (error : Error) : Own line network after (.failure error)
  | text {earlier : List Errand} {port : Nat} {reply : List UInt8}
      (drifts : network.Drifts ⟨earlier⟩)
      (read : after = ⟨earlier ++ [⟨port, Utf8.encode line.toList, .read reply⟩]⟩) :
      Own line network after (.text (String.ofList (Utf8.lossy reply)))

theorem Answer.Own.of_drifts {line : String} {network middle after : Network} {answer : Answer}
    (own : answer.Own line middle after) (drifts : network.Drifts middle) :
    answer.Own line network after := by
  cases own with
  | silence => exact .silence
  | failure error => exact .failure error
  | text drifts' read => exact .text (drifts.trans drifts') read

namespace Proxy

variable {World : Type} {host : Host World} (networked : Networked host)

/-- No reply is still to come to the socket in use, if there is one. -/
def Idle (proxy : Proxy) (world : World) : Prop :=
  ∀ socket ∈ proxy.socket, (networked.network world).Idle socket.port

variable {networked} {proxy : Proxy} {world : World}

theorem Idle.drifts {later : World} (idle : proxy.Idle networked world)
    (drifts : (networked.network world).Drifts (networked.network later)) :
    proxy.Idle networked later :=
  fun socket inUse => (idle socket inUse).drifts drifts

theorem idle_of_none (unused : proxy.socket = none) : proxy.Idle networked world := by
  intro socket inUse
  rw [unused] at inUse
  cases inUse

/-- Connecting leads to an idle socket, if to one at all. -/
theorem connect_idle (idle : proxy.Idle networked world)
    {outcome : Except Error (Option Socket)} {after : Proxy} {later : World}
    (ran : proxy.connect host world = ((outcome, after), later)) :
    (networked.network world).Drifts (networked.network later) ∧ after.Idle networked later ∧
      ∀ socket, outcome = .ok (some socket) → after.socket = some socket := by
  unfold connect at ran
  cases inUse : proxy.socket with
  | some socket =>
    simp only [inUse] at ran
    cases ran
    exact ⟨.refl _, idle, fun other same => by cases same; exact inUse⟩
  | none =>
    simp only [inUse, bind, StateT.bind] at ran
    have found := networked.content proxy.addressFile world
    -- Where no address is announced or nothing can be bound, there is no socket afterwards.
    have unconnected : proxy.Idle networked later := idle_of_none inUse
    rcases answered : host.content proxy.addressFile world with ⟨fault | bytes, world'⟩ <;>
      rw [answered] at found <;> simp only [answered] at ran
    · cases fault <;> cases ran
      all_goals exact ⟨found, unconnected, fun _ impossible => nomatch impossible⟩
    · rcases announces : (Host.decode proxy.addressFile bytes).bind announced
        with error | address <;> simp only [announces] at ran
      · cases ran
        exact ⟨found, unconnected, fun _ impossible => nomatch impossible⟩
      · have drifted := networked.connect address world'
        have fresh := networked.fresh address world'
        rcases connected : host.connect address world' with ⟨reason | socket, world''⟩ <;>
          rw [connected] at drifted fresh <;> simp only [StateT.bind, connected] at ran
        · cases ran
          exact ⟨found.trans drifted, unconnected, fun _ impossible => nomatch impossible⟩
        · cases ran
          refine ⟨found.trans drifted, fun used same => ?_, fun used same => ?_⟩
          · cases same
            exact fresh socket rfl
          · cases same
            rfl

/-- On an idle socket the reply to a request is the only one that can come. If it does not
come, the socket is given up. -/
theorem exchange_own {socket : Socket} (idle : proxy.Idle networked world)
    (inUse : proxy.socket = some socket) {line : String} {answer : Answer} {after : Proxy}
    {later : World} (ran : proxy.exchange host socket line world = ((answer, after), later)) :
    after.Idle networked later ∧
      answer.Own line (networked.network world) (networked.network later) := by
  have clear := idle socket inUse
  have unsent := networked.unsent socket (Utf8.encode line.toList) world
  have sends := networked.send socket (Utf8.encode line.toList) world
  simp only [exchange, bind, StateT.bind] at ran
  rcases sent : host.send socket (Utf8.encode line.toList) world with ⟨reason | ⟨⟩, world'⟩ <;>
    rw [sent] at unsent sends <;> simp only [sent] at ran
  · cases ran
    exact ⟨idle.drifts (unsent reason rfl), .failure _⟩
  · have reads := networked.receive socket proxy.timeout world'
    rcases arrived : host.receive socket proxy.timeout world' with ⟨reply | _ | reason, world''⟩ <;>
      rw [arrived] at reads <;> simp only [StateT.bind, arrived] at ran
    · cases ran
      obtain ⟨earlier, drifts, read⟩ := clear.reads_own (sends rfl) (reads reply rfl)
      -- The one reply that could come has been read, so the socket is idle again.
      refine ⟨fun used same => ?_, .text drifts read⟩
      obtain rfl : socket = used := Option.some.inj (inUse.symm.trans same)
      rw [read]
      exact (clear.drifts drifts).concat id
    · cases ran
      exact ⟨idle_of_none rfl, .silence⟩
    · cases ran
      exact ⟨idle_of_none rfl, .failure _⟩

/-- A request leaves the socket idle, and its answer belongs to it. -/
theorem request_own (idle : proxy.Idle networked world) {line : String} {answer : Answer}
    {after : Proxy} {later : World}
    (ran : proxy.request host line world = ((answer, after), later)) :
    after.Idle networked later ∧
      answer.Own line (networked.network world) (networked.network later) := by
  simp only [request, bind, StateT.bind] at ran
  rcases connects : proxy.connect host world with ⟨⟨error | _ | socket, connected⟩, world'⟩ <;>
    simp only [connects] at ran
  all_goals obtain ⟨drifts, idle', inUse⟩ := connect_idle idle connects
  · cases ran
    exact ⟨idle', .failure _⟩
  · cases ran
    exact ⟨idle', .silence⟩
  · obtain ⟨kept, own⟩ := exchange_own idle' (inUse socket rfl) ran
    exact ⟨kept, own.of_drifts drifts⟩

/-- What a proxy and its world may be like after any requests, one after the other. In
between, the world may change in any way but that a request is sent or a reply is read. -/
inductive Reached (networked : Networked host) (addressFile : Path) (timeout : Nat) :
    Proxy → World → Prop where
  | new (world : World) : Reached networked addressFile timeout (.new addressFile timeout) world
  | pause {proxy : Proxy} {world later : World}
      (reached : Reached networked addressFile timeout proxy world)
      (drifts : (networked.network world).Drifts (networked.network later)) :
      Reached networked addressFile timeout proxy later
  | request {proxy : Proxy} {world : World}
      (reached : Reached networked addressFile timeout proxy world) (line : String) :
      Reached networked addressFile timeout (proxy.request host line world).1.2
        (proxy.request host line world).2

theorem Reached.idle {addressFile : Path} {timeout : Nat}
    (reached : Reached networked addressFile timeout proxy world) :
    proxy.Idle networked world := by
  induction reached with
  | new world => exact idle_of_none rfl
  | pause _ drifts inductionHypothesis => exact inductionHypothesis.drifts drifts
  | request _ line inductionHypothesis => exact (request_own inductionHypothesis rfl).1

/-- A stale reply is never taken for a later answer. On a host whose sockets are ends of a
network, after any requests and anything that has become of them, no reply is still to come to
the socket in use; and whatever is requested then, the answer is silence, a failure, or the
text of the reply to this very request, which was sent once and is the one sent last. -/
theorem request_answers {addressFile : Path} {timeout : Nat}
    (reached : Reached networked addressFile timeout proxy world) (line : String) :
    let run := proxy.request host line world
    (∀ socket ∈ proxy.socket, (networked.network world).Idle socket.port) ∧
      run.1.1.Own line (networked.network world) (networked.network run.2) :=
  ⟨reached.idle, (request_own reached.idle rfl).2⟩

end Proxy

/-! ## A rehearsal -/

/-- A network, and what comes of each wait: the reply to the request sent last, or nothing. -/
structure Wire where
  network : Network
  replies : List (Option (List UInt8))

namespace Wire

/-- A port from which nothing was sent. -/
def unusedPort (wire : Wire) : Nat :=
  (wire.network.errands.map Errand.port).max?.getD 0 + 1

/-- Waits on a port. -/
def await (wire : Wire) (port : Nat) : Arrival × Wire :=
  match wire.network.errands.getLast?, wire.replies with
  | some ⟨from', request, .unanswered⟩, some reply :: later =>
    if from' = port then
      (.datagram reply,
        ⟨⟨wire.network.errands.dropLast ++ [⟨port, request, .read reply⟩]⟩, later⟩)
    else (.timeout, ⟨wire.network, later⟩)
  | _, replies => (.timeout, ⟨wire.network, replies.tail⟩)

/-- A host on a wire, whose proxy has announced its address. -/
def host : Host Wire where
  workingDirectory := ⟨"/"⟩
  content _ := return .ok (Utf8.encode "4000\n".toList)
  connect address := fun wire => (.ok ⟨wire.unusedPort, address⟩, wire)
  send socket request := fun wire =>
    (.ok (), { wire with network := wire.network.post socket.port request })
  receive socket _ := fun wire => wire.await socket.port

theorem unusedPort_idle (wire : Wire) : wire.network.Idle wire.unusedPort := by
  intro errand member here
  have le : errand.port ≤ (wire.network.errands.map Errand.port).max?.getD 0 :=
    List.le_max?_getD_of_mem (List.mem_map_of_mem member)
  rw [here, unusedPort] at le
  omega

theorem await_reads {wire : Wire} {port : Nat} {reply : List UInt8}
    (arrives : (wire.await port).1 = .datagram reply) :
    Network.Reads port reply wire.network (wire.await port).2.network := by
  obtain ⟨⟨errands⟩, replies⟩ := wire
  unfold await at arrives ⊢
  split at arrives
  · next from' request first later last _ =>
    split at arrives
    · next same =>
      subst same
      cases arrives
      obtain ⟨front, rfl⟩ := List.getLast?_eq_some_iff.mp last
      rw [if_pos rfl]
      refine ⟨front, [], request, ?_, ?_⟩
      · exact List.rel_append (Network.Drifts.refl ⟨front⟩)
          (.cons ⟨rfl, rfl, .replied reply⟩ .nil)
      · rw [List.dropLast_concat]
        exact .refl _
    · cases arrives
  · cases arrives

/-- The sockets of the host are ends of the wire. -/
def networked : Networked host where
  network := Wire.network
  content _ wire := .refl wire.network
  connect _ wire := .refl wire.network
  fresh _ wire _ same := by
    cases same
    exact wire.unusedPort_idle
  send _ _ wire _ := ⟨wire.network, .refl _, .refl _⟩
  unsent _ _ _ _ impossible := nomatch impossible
  receive _ _ _ _ arrives := await_reads arrives

end Wire

/-- The first request is not answered in time, and the reply to it is under way when the second
one is made. Both the second and the third are answered by their own replies, the third on the
socket of the second. -/
theorem Proxy.request_answers_behind_late_reply :
    let wire : Wire :=
      ⟨⟨[]⟩, [none, some (Utf8.encode "two".toList), some (Utf8.encode "three".toList)]⟩
    let first := (Proxy.new ⟨"/port"⟩ 50).request Wire.host "one" wire
    let late : Wire := ⟨⟨[⟨1, Utf8.encode "one".toList, .replied (Utf8.encode "late".toList)⟩]⟩,
      first.2.replies⟩
    let second := first.1.2.request Wire.host "two?" late
    let third := second.1.2.request Wire.host "three?" second.2
    first.1.1 = .silence ∧ second.1.1 = .text "two" ∧ third.1.1 = .text "three" ∧
      (∀ socket ∈ second.1.2.socket, second.2.network.Idle socket.port) ∧
      second.1.1.Own "two?" late.network second.2.network ∧
      third.1.1.Own "three?" second.2.network third.2.network := by
  intro wire first late second third
  have answers : first.1.1 = .silence ∧ second.1.1 = .text "two" ∧ third.1.1 = .text "three" := by
    decide +kernel
  have sent : first.2.network = ⟨[⟨1, Utf8.encode "one".toList, .unanswered⟩]⟩ := by
    decide +kernel
  have drifts : first.2.network.Drifts late.network := by
    rw [sent]
    exact .cons ⟨rfl, rfl, .replied _⟩ .nil
  have reached : Proxy.Reached Wire.networked ⟨"/port"⟩ 50 first.1.2 late :=
    .pause (.request (.new wire) "one") drifts
  obtain ⟨-, own⟩ := Proxy.request_answers reached "two?"
  obtain ⟨idle, own'⟩ := Proxy.request_answers (reached.request "two?") "three?"
  exact ⟨answers.1, answers.2.1, answers.2.2, idle, own, own'⟩

end DebugConsole
