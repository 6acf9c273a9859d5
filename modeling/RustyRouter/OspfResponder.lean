/-
# The OSPF responder (`rusty-router/src/main.rs`)

`main` answers the OSPF packets that reach its interface.  The poller wakes the
listener of the socket, whose tasks read the datagrams and hand them to `Nih`, which
puts them into a channel of 100, and `Ni::process` takes them out and answers each
that is not its own with a Hello to the group that it listens to itself.

The responder runs over the poller: each of its steps is a step of the poller or
leaves the poller alone (`poller_run`).  Nothing that arrives is lost or duplicated on
the way but what the full channel refuses (`ResponderInvariant`).  Its own packets
come back to it as the group's, and are not answered, so it sends at most one packet
for each that others sent (`sent_length_le`), and one for each once nothing is on its
way (`answered_at_rest`).
-/
import RustyRouter.Ipv4Send
import RustyRouter.PollerSteps
import RustyRouter.ConnectIpv4
import RustyRouter.ParserSafety

/-! ## Bounded channels -/

/-- A channel that holds at most `capacity` values. -/
structure Channel (α : Type) (capacity : ℕ) where
  queue : List α
  length_le : queue.length ≤ capacity

namespace Channel

variable {α : Type} {capacity : ℕ}

/-- An empty channel. -/
def new : Channel α capacity := ⟨[], Nat.zero_le _⟩

/-- Sending without waiting: a full channel does not take the value. -/
def trySend (channel : Channel α capacity) (a : α) : Option (Channel α capacity) :=
  if h : channel.queue.length < capacity then
    some ⟨channel.queue ++ [a], by rw [List.length_append]; exact h⟩
  else none

/-- Receiving: an empty channel has nothing yet. -/
def recv (channel : Channel α capacity) : Option (α × Channel α capacity) :=
  match channel with
  | ⟨[], _⟩ => none
  | ⟨a :: queue, h⟩ => some (a, ⟨queue, Nat.le_of_succ_le h⟩)

@[simp] theorem queue_new : (new : Channel α capacity).queue = [] := rfl

/-- What is sent is queued last. -/
theorem queue_of_trySend {channel channel' : Channel α capacity} {a : α}
    (h : channel.trySend a = some channel') : channel'.queue = channel.queue ++ [a] := by
  unfold trySend at h
  split_ifs at h
  cases h
  rfl

/-- What is received was queued first. -/
theorem queue_of_recv {channel channel' : Channel α capacity} {a : α}
    (h : channel.recv = some (a, channel')) : channel.queue = a :: channel'.queue := by
  obtain ⟨_ | ⟨b, queue⟩, hlength⟩ := channel
  · cases h
  · cases h
    rfl

/-- Nothing is received from an empty queue only. -/
theorem queue_of_recv_none {channel : Channel α capacity} (h : channel.recv = none) :
    channel.queue = [] := by
  obtain ⟨_ | ⟨b, queue⟩, hlength⟩ := channel
  · rfl
  · cases h

end Channel

namespace RustyRouter

open Checked LinuxInetPacketNetworkInterface

/-! ## One packet -/

/-- `"224.0.0.5"`. -/
def allSpfRouters : Ipv4Addr := ⟨0xE0000005⟩

/-- `OSPF_PROTOCOL_NUMBER`. -/
def OSPF_PROTOCOL_NUMBER : UInt8 := 89

/-- `Ni`, without its channel. -/
structure Ni where
  localAddress : Ipv4Addr
  connection : LinuxInetPacketNetworkInterface
  deriving DecidableEq

namespace Ni

/-- `Ni::new`. -/
def new (connect : String → Ipv4Addr → UInt8 → List Ipv4Addr → Except Error Unit)
    (order : HashMap.Shuffle (ℕ × InterfaceItem)) (db : InterfaceManagerDatabase)
    (interfaceName : String) (localAddress : Ipv4Addr) : Except Error Ni := do
  let connection ←
    LinuxRustyRouterPlatform.connectIpv4 (LinuxInetPacketNetworkInterface.new connect) order db
      interfaceName localAddress OSPF_PROTOCOL_NUMBER [allSpfRouters]
  return { localAddress, connection }

/-- The Hello that `process` answers with. -/
def response : OspfHelloPacketBuilder where
  routerId := ⟨0x02020202⟩
  areaId := ⟨0⟩
  networkMask := Ipv4Netmask.new 4294967292
  helloInterval := 10
  options := 2
  routerPriority := 5
  routerDeadInterval := 40
  designatedRouter := ⟨0xAC100A01⟩
  backupDesignatedRouter := ⟨0⟩
  neighbors := [⟨0x01010101⟩]

/-- `process` on a packet: the packet that its `send` makes, if it comes to that. -/
def process (endian : Endian) (random : UInt16) (ni : Ni) (packet : List UInt8) :
    Parse (Option (List UInt8)) := do
  let ip ← IpV4Header.tryFrom packet
  if ip.sourceAddress = ni.localAddress then return none
  else
    let response ← response.build endian
    let packet ← ni.connection.packet endian random allSpfRouters (← response.toResult)
    return some packet

/-- Whether a packet is an IPv4 packet of another router. -/
def foreign (ni : Ni) (packet : List UInt8) : Bool :=
  match IpV4Header.tryFrom packet with
  | .ok ip => ip.sourceAddress ≠ ni.localAddress
  | .error _ => false

/-- The Hello that `process` builds. -/
def hello : OspfHelloPacket := response.withChecksum 0x3F83

/-- The packet that it is sent in. -/
def reply (ni : Ni) : List UInt8 :=
  (ni.connection.header allSpfRouters 48).toVec ++ (hello.header.toVec ++ hello.body)

/-- The builder does not refuse the response of the source. -/
theorem build_response (endian : Endian) : response.build endian = .ok hello := by
  cases endian <;> decide +kernel

/-- The Hello is read back from its encoding. -/
theorem hello_roundTrips : hello.RoundTrips :=
  ⟨hello.header.toVec ++ hello.body, rfl, by decide +kernel⟩

/-- `process` answers the packets of other routers, all with the same packet. -/
theorem process_cases (endian : Endian) (random : UInt16) (ni : Ni) (packet : List UInt8) :
    (ni.foreign packet = true ∧ ni.process endian random packet = .ok (some ni.reply)) ∨
      (ni.foreign packet = false ∧
        (ni.process endian random packet = .ok none ∨
          ∃ e, ni.process endian random packet = fail e)) := by
  unfold foreign process
  have hanswers := IpV4Header.tryFrom_answers packet
  cases hread : IpV4Header.tryFrom packet with
  | error failure =>
    cases failure with
    | error e => exact Or.inr ⟨rfl, Or.inr ⟨e, rfl⟩⟩
    | panic =>
      obtain ⟨e, -, he⟩ := hanswers .panic hread
      cases he
  | ok ip =>
    rw [ok_bind]
    dsimp only
    by_cases hown : ip.sourceAddress = ni.localAddress
    · rw [if_pos hown]
      exact Or.inr ⟨by simp [hown], Or.inl rfl⟩
    · rw [if_neg hown, build_response, ok_bind]
      refine Or.inl ⟨by simp [hown], ?_⟩
      have hfits : (hello.header.toVec ++ hello.body).length ≤ 65515 := by decide
      rw [OspfHelloPacket.toResult, ok_bind, packet_of_le _ _ _ _ _ hfits]
      rfl

/-- The reply is read back as an OSPF packet of the responder with the Hello in it, whatever the
kernel fills in. -/
theorem reply_readFrom (ni : Ni) (identification headerChecksum : UInt16) :
    (∃ header, IpV4Header.tryFrom (fillIn identification headerChecksum ni.reply) = .ok header ∧
        header.sourceAddress = ni.connection.source ∧
        header.destinationAddress = allSpfRouters ∧ header.protocol = ni.connection.protocol) ∧
      hello.ReadFrom (fillIn identification headerChecksum ni.reply) := by
  have hread := tryFrom_fillIn ni.connection allSpfRouters 48 (hello.header.toVec ++ hello.body)
    identification headerChecksum
  refine ⟨⟨_, hread, rfl, rfl, rfl⟩, _, hread, ?_⟩
  obtain ⟨bytes, hbytes, hhello⟩ := hello_roundTrips
  cases hbytes
  rwa [← drop_fillIn ni.connection allSpfRouters 48 (hello.header.toVec ++ hello.body)
    identification headerChecksum] at hhello

/-- The connection that `new` makes is one of the local address. -/
theorem new_eq_ok {connect : String → Ipv4Addr → UInt8 → List Ipv4Addr → Except Error Unit}
    {order : HashMap.Shuffle (ℕ × InterfaceItem)} {db : InterfaceManagerDatabase}
    {interfaceName : String} {localAddress : Ipv4Addr} {ni : Ni}
    (h : new connect order db interfaceName localAddress = .ok ni) :
    ni = ⟨localAddress, ⟨localAddress, OSPF_PROTOCOL_NUMBER⟩⟩ := by
  rcases LinuxRustyRouterPlatform.connectsTo_cases order db interfaceName with
    ⟨-, hfails⟩ | ⟨item, -, -, hconnects⟩
  · rw [new, hfails] at h
    cases h
  · rw [new, hconnects] at h
    simp only [Except.bind, LinuxInetPacketNetworkInterface.new] at h
    cases hconnect : connect item.status.networkLinkStatus.device localAddress
      OSPF_PROTOCOL_NUMBER [allSpfRouters] with
    | error e =>
      rw [hconnect] at h
      cases h
    | ok _ =>
      rw [hconnect] at h
      cases h
      rfl

/-- A packet of the responder is not answered when it comes back. -/
theorem foreign_reply {ni : Ni} (h : ni.connection.source = ni.localAddress)
    (identification headerChecksum : UInt16) :
    ni.foreign (fillIn identification headerChecksum ni.reply) = false := by
  rw [foreign, reply, tryFrom_fillIn]
  simp [h, header, IpV4HeaderBuilder.new]

end Ni

/-! ## The responder over the poller -/

/-- The responder with the poller that wakes it, and what it has done so far. -/
structure ResponderState (Socket : Type) where
  poller : PollerState Socket (List UInt8)
  -- what the tasks of the listener have read and not yet handed over
  reading : List (List UInt8)
  receiver : Channel (List UInt8) 100
  -- what the full channel did not take
  refused : List (List UInt8)
  processed : List (List UInt8)
  -- the packets that the kernel took, and how many it did not
  sent : List (List UInt8)
  unsent : ℕ
  -- the packets that have not come back to the socket yet
  looping : List (List UInt8)

/-- A step of the poller, of a task of the listener, of `main` or of the kernel. -/
inductive ResponderStep (Socket : Type) : Type where
  | poller (step : PollerStep Socket (List UInt8))
  | onRecv (i : ℕ)
  | process (random : UInt16) (taken : Bool)
  | loopback (i : ℕ) (identification headerChecksum : UInt16)

namespace ResponderState

variable {Socket : Type} [DecidableEq Socket]

/-- Nothing is registered and nothing has arrived. -/
def new : ResponderState Socket := ⟨.new, [], .new, [], [], [], 0, []⟩

/-- A round of the loop of `LinuxInetPacketNetworkInterfacePollerListener::recv` on the socket of the
responder, by a task that is not about to hand a datagram over. -/
def recv (s : ResponderState Socket) (socket : Socket) : ResponderState Socket :=
  if s.reading.length < s.poller.receiving.count socket then
    { s with
      poller := s.poller.recv socket
      reading := s.reading ++ (s.poller.unread socket).head?.toList }
  else s

/-- `Nih::on_recv`, which drops what the channel does not take. -/
def onRecv (s : ResponderState Socket) (i : ℕ) : ResponderState Socket :=
  match s.reading[i]? with
  | none => s
  | some data =>
    match s.receiver.trySend data with
    | some receiver => { s with reading := s.reading.eraseIdx i, receiver }
    | none => { s with reading := s.reading.eraseIdx i, refused := s.refused ++ [data] }

/-- `Ni::process`; `taken` is whether the kernel takes the packet that it sends. -/
def process (endian : Endian) (ni : Ni) (s : ResponderState Socket) (random : UInt16)
    (taken : Bool) : ResponderState Socket :=
  match s.receiver.recv with
  | none => s
  | some (packet, receiver) =>
    let s := { s with receiver, processed := s.processed ++ [packet] }
    match ni.process endian random packet with
    | .ok (some packet) =>
      if taken then { s with sent := s.sent ++ [packet], looping := s.looping ++ [packet] }
      else { s with unsent := s.unsent + 1 }
    -- an error ends the call and is dropped; there is no panic
    | _ => s

/-- A packet that was sent to the group comes back to the socket. -/
def loopback (socket : Socket) (s : ResponderState Socket) (i : ℕ)
    (identification headerChecksum : UInt16) : ResponderState Socket :=
  match s.looping[i]? with
  | none => s
  | some packet =>
    { s with
      poller := s.poller.arrive socket (fillIn identification headerChecksum packet)
      looping := s.looping.eraseIdx i }

/-- The state after a step. -/
def apply (endian : Endian) (ni : Ni) (socket : Socket) (s : ResponderState Socket) :
    ResponderStep Socket → ResponderState Socket
  | .poller (.recv other) =>
    if other = socket then s.recv socket else { s with poller := s.poller.recv other }
  | .poller step => { s with poller := s.poller.apply step }
  | .onRecv i => s.onRecv i
  | .process random taken => s.process endian ni random taken
  | .loopback i identification headerChecksum =>
    s.loopback socket i identification headerChecksum

/-- The state after a run from the start. -/
def run (endian : Endian) (ni : Ni) (socket : Socket) (steps : List (ResponderStep Socket)) :
    ResponderState Socket :=
  steps.foldl (apply endian ni socket) new

end ResponderState

namespace ResponderStep

variable {Socket : Type} [DecidableEq Socket] (socket : Socket)

/-- The datagrams that others send to the socket in a step. -/
def arrival : ResponderStep Socket → List (List UInt8)
  | .poller step => step.arrival socket
  | _ => []

/-- The datagrams that others send to the socket in a run. -/
def arrivals (steps : List (ResponderStep Socket)) : List (List UInt8) :=
  steps.flatMap (arrival socket)

end ResponderStep

/-! ## What a step does -/

namespace ResponderState

variable {Socket : Type} [DecidableEq Socket]

/-- What a step can do. -/
inductive Moves (ni : Ni) (socket : Socket) (s : ResponderState Socket) :
    ResponderStep Socket → ResponderState Socket → Prop where
  | idle {step : ResponderStep Socket} (h : step.arrival socket = []) : Moves ni socket s step s
  | poller {step : PollerStep Socket (List UInt8)} (h : step ≠ .recv socket) :
      Moves ni socket s (.poller step) { s with poller := s.poller.apply step }
  | leaves (hreader : s.reading.length < s.poller.receiving.count socket)
      (hdry : s.poller.unread socket = []) :
      Moves ni socket s (.poller (.recv socket)) { s with
        poller := { s.poller with receiving := s.poller.receiving.erase socket } }
  | reads {data : List UInt8} {rest : List (List UInt8)}
      (hreader : s.reading.length < s.poller.receiving.count socket)
      (hunread : s.poller.unread socket = data :: rest) :
      Moves ni socket s (.poller (.recv socket)) { s with
        poller := { s.poller with unread := Function.update s.poller.unread socket rest }
        reading := s.reading ++ [data] }
  | handsOver {i : ℕ} {data : List UInt8} {receiver : Channel (List UInt8) 100}
      (hreading : s.reading[i]? = some data) (hsend : s.receiver.trySend data = some receiver) :
      Moves ni socket s (.onRecv i) { s with reading := s.reading.eraseIdx i, receiver }
  | refuses {i : ℕ} {data : List UInt8} (hreading : s.reading[i]? = some data) :
      Moves ni socket s (.onRecv i) { s with
        reading := s.reading.eraseIdx i
        refused := s.refused ++ [data] }
  | ignores {random : UInt16} {taken : Bool} {packet : List UInt8}
      {receiver : Channel (List UInt8) 100} (hrecv : s.receiver.recv = some (packet, receiver))
      (hforeign : ni.foreign packet = false) :
      Moves ni socket s (.process random taken) { s with
        receiver, processed := s.processed ++ [packet] }
  | sends {random : UInt16} {taken : Bool} {packet : List UInt8}
      {receiver : Channel (List UInt8) 100} (hrecv : s.receiver.recv = some (packet, receiver))
      (hforeign : ni.foreign packet = true) :
      Moves ni socket s (.process random taken) { s with
        receiver, processed := s.processed ++ [packet], sent := s.sent ++ [ni.reply],
        looping := s.looping ++ [ni.reply] }
  | fails {random : UInt16} {taken : Bool} {packet : List UInt8}
      {receiver : Channel (List UInt8) 100} (hrecv : s.receiver.recv = some (packet, receiver))
      (hforeign : ni.foreign packet = true) :
      Moves ni socket s (.process random taken) { s with
        receiver, processed := s.processed ++ [packet], unsent := s.unsent + 1 }
  | loops {i : ℕ} {identification headerChecksum : UInt16} {packet : List UInt8}
      (hlooping : s.looping[i]? = some packet) :
      Moves ni socket s (.loopback i identification headerChecksum) { s with
        poller := s.poller.arrive socket (fillIn identification headerChecksum packet)
        looping := s.looping.eraseIdx i }

/-- A round of a listener: nothing, a datagram read, or the task returns. -/
theorem moves_recv (ni : Ni) (socket : Socket) (s : ResponderState Socket) :
    Moves ni socket s (.poller (.recv socket)) (s.recv socket) := by
  unfold recv PollerState.recv
  split_ifs with hreader hmem hdry
  · have hnil := List.isEmpty_iff.mp hdry
    rw [hnil, List.head?_nil, Option.toList_none, List.append_nil]
    exact .leaves hreader hnil
  · cases hunread : s.poller.unread socket with
    | nil => exact absurd (by rw [hunread]; rfl) hdry
    | cons data rest => exact .reads hreader hunread
  · have hcount := List.count_eq_zero_of_not_mem hmem
    omega
  · exact .idle rfl

/-- What is read is handed to the channel, or refused by it. -/
theorem moves_onRecv (ni : Ni) (socket : Socket) (s : ResponderState Socket) (i : ℕ) :
    Moves ni socket s (.onRecv i) (s.onRecv i) := by
  unfold onRecv
  cases hreading : s.reading[i]? with
  | none => exact .idle rfl
  | some data =>
    dsimp only
    cases hsend : s.receiver.trySend data with
    | none => exact .refuses hreading
    | some receiver => exact .handsOver hreading hsend

/-- What is received is processed, and answered if it comes from elsewhere. -/
theorem moves_process (endian : Endian) (ni : Ni) (socket : Socket) (s : ResponderState Socket)
    (random : UInt16) (taken : Bool) :
    Moves ni socket s (.process random taken) (s.process endian ni random taken) := by
  unfold process
  cases hrecv : s.receiver.recv with
  | none => exact .idle rfl
  | some next =>
    obtain ⟨packet, receiver⟩ := next
    dsimp only
    rcases ni.process_cases endian random packet with
      ⟨hforeign, hreply⟩ | ⟨hforeign, hnone | ⟨e, hfail⟩⟩
    · rw [hreply]
      cases taken
      · exact .fails hrecv hforeign
      · exact .sends hrecv hforeign
    · rw [hnone]
      exact .ignores hrecv hforeign
    · rw [hfail]
      exact .ignores hrecv hforeign

/-- What a step does is one of these. -/
theorem moves_apply (endian : Endian) (ni : Ni) (socket : Socket) (s : ResponderState Socket)
    (step : ResponderStep Socket) : Moves ni socket s step (s.apply endian ni socket step) := by
  cases step with
  | poller step =>
    by_cases hrecv : step = .recv socket
    · rw [hrecv, apply, if_pos rfl]
      exact moves_recv ni socket s
    · have happly : s.apply endian ni socket (.poller step) =
          { s with poller := s.poller.apply step } := by
        cases step with
        | recv other => exact if_neg fun heq => hrecv (by rw [heq])
        | _ => rfl
      rw [happly]
      exact .poller hrecv
  | onRecv i => exact moves_onRecv ni socket s i
  | process random taken => exact moves_process endian ni socket s random taken
  | loopback i identification headerChecksum =>
    rw [apply, loopback]
    cases hlooping : s.looping[i]? with
    | none => exact .idle rfl
    | some packet => exact .loops hlooping

end ResponderState

/-! ## The invariant -/

namespace ResponderState

variable {Socket : Type} [DecidableEq Socket]

/-- The datagrams that reached the socket, wherever they are. -/
def held (s : ResponderState Socket) (socket : Socket) : List (List UInt8) :=
  s.processed ++ s.receiver.queue ++ s.refused ++ s.reading ++ s.poller.unread socket

omit [DecidableEq Socket] in
/-- Where the packets with some bytes are. -/
theorem count_held (s : ResponderState Socket) (socket : Socket) (a : List UInt8) :
    (s.held socket).count a = s.processed.count a + s.receiver.queue.count a + s.refused.count a +
      s.reading.count a + (s.poller.unread socket).count a := by
  simp only [held, List.count_append]

end ResponderState

open ResponderState

/-- What holds of the responder when `arrived` is what others sent to its socket: each datagram, and
each packet of its own that came back, is in one place; one packet is sent, or not taken by the
kernel, for each packet of another router that was processed. -/
structure ResponderInvariant {Socket : Type} [DecidableEq Socket] (ni : Ni) (socket : Socket)
    (arrived : List (List UInt8)) (s : ResponderState Socket) : Prop where
  readers : s.reading.length ≤ s.poller.receiving.count socket
  conserved : ∃ looped, (∀ packet ∈ looped, ni.foreign packet = false) ∧
    (s.held socket).Perm (arrived ++ looped)
  replies : s.sent.length + s.unsent = s.processed.countP ni.foreign
  sent : ∀ packet ∈ s.sent, packet = ni.reply
  looping : ∀ packet ∈ s.looping, packet = ni.reply

namespace ResponderInvariant

variable {Socket : Type} [DecidableEq Socket] {ni : Ni} {socket : Socket}
  {arrived : List (List UInt8)} {s s' : ResponderState Socket}

theorem new : ResponderInvariant ni socket [] (ResponderState.new : ResponderState Socket) where
  readers := Nat.zero_le _
  conserved := ⟨[], fun _ h => absurd h List.not_mem_nil, List.Perm.refl _⟩
  replies := rfl
  sent := fun _ h => absurd h List.not_mem_nil
  looping := fun _ h => absurd h List.not_mem_nil

/-- What is held only changes its place. -/
theorem conserved_of_count (h : ResponderInvariant ni socket arrived s)
    (hcount : ∀ a, (s'.held socket).count a = (s.held socket).count a) :
    ∃ looped, (∀ packet ∈ looped, ni.foreign packet = false) ∧
      (s'.held socket).Perm (arrived ++ [] ++ looped) := by
  obtain ⟨looped, hlooped, hperm⟩ := h.conserved
  refine ⟨looped, hlooped, ?_⟩
  rw [List.append_nil]
  exact (List.perm_iff_count.mpr hcount).trans hperm

/-- A packet of its own changes neither side of the balance. -/
theorem replies_ignored (h : ResponderInvariant ni socket arrived s) {packet : List UInt8}
    (hforeign : ni.foreign packet = false) :
    s.sent.length + s.unsent = (s.processed ++ [packet]).countP ni.foreign := by
  rw [h.replies, List.countP_append, List.countP_singleton, if_neg (by simp [hforeign]), add_zero]

/-- A packet from elsewhere adds one to both sides of the balance. -/
theorem replies_answered (h : ResponderInvariant ni socket arrived s) {packet : List UInt8}
    (hforeign : ni.foreign packet = true) :
    s.sent.length + s.unsent + 1 = (s.processed ++ [packet]).countP ni.foreign := by
  rw [h.replies, List.countP_append, List.countP_singleton, if_pos hforeign]

/-- A step keeps the invariant. -/
theorem moves (hsource : ni.connection.source = ni.localAddress)
    (h : ResponderInvariant ni socket arrived s) {step : ResponderStep Socket}
    (hmoves : Moves ni socket s step s') :
    ResponderInvariant ni socket (arrived ++ step.arrival socket) s' := by
  -- what is sent is the one reply
  have hadd := fun packet (hpacket : packet ∈ s.sent ++ [ni.reply]) =>
    (List.mem_append.mp hpacket).elim (h.sent packet) List.mem_singleton.mp
  have hloop := fun packet (hpacket : packet ∈ s.looping ++ [ni.reply]) =>
    (List.mem_append.mp hpacket).elim (h.looping packet) List.mem_singleton.mp
  -- each move takes a packet from one place to the next
  cases hmoves with
  | idle hnone =>
    rw [hnone, List.append_nil]
    exact h
  | @poller step hstep =>
    -- an arrival adds to both sides
    obtain ⟨looped, hlooped, hperm⟩ := h.conserved
    refine ⟨h.readers.trans (s.poller.count_receiving_apply hstep), ⟨looped, hlooped, ?_⟩,
      h.replies, h.sent, h.looping⟩
    refine List.perm_iff_count.mpr fun a => ?_
    have hcount := hperm.count_eq a
    rw [count_held, List.count_append] at hcount
    rw [count_held, s.poller.unread_apply hstep]
    simp only [ResponderStep.arrival, List.count_append]
    omega
  | leaves hreader hdry =>
    refine ⟨?_, h.conserved_of_count fun a => rfl, h.replies, h.sent, h.looping⟩
    show s.reading.length ≤ (s.poller.receiving.erase socket).count socket
    rw [List.count_erase_self]
    omega
  | @reads data rest hreader hunread =>
    refine ⟨?_, h.conserved_of_count fun a => ?_, h.replies, h.sent, h.looping⟩
    · show (s.reading ++ [data]).length ≤ s.poller.receiving.count socket
      rw [List.length_append]
      exact hreader
    · rw [count_held, count_held, hunread]
      simp only [Function.update_self, List.count_append, List.count_cons, List.count_nil]
      omega
  | @handsOver i data receiver hreading hsend =>
    have hperm := perm_cons_eraseIdx hreading
    refine ⟨?_, h.conserved_of_count fun a => ?_, h.replies, h.sent, h.looping⟩
    · exact (List.length_eraseIdx_le _ _).trans h.readers
    · have hcount := hperm.count_eq a
      rw [List.count_cons] at hcount
      rw [count_held, count_held, Channel.queue_of_trySend hsend]
      simp only [List.count_append, List.count_cons, List.count_nil]
      omega
  | @refuses i data hreading =>
    have hperm := perm_cons_eraseIdx hreading
    refine ⟨?_, h.conserved_of_count fun a => ?_, h.replies, h.sent, h.looping⟩
    · exact (List.length_eraseIdx_le _ _).trans h.readers
    · have hcount := hperm.count_eq a
      rw [List.count_cons] at hcount
      rw [count_held, count_held]
      simp only [List.count_append, List.count_cons, List.count_nil]
      omega
  | ignores hrecv hforeign =>
    refine ⟨h.readers, h.conserved_of_count fun a => ?_, h.replies_ignored hforeign, h.sent,
      h.looping⟩
    rw [count_held, count_held, Channel.queue_of_recv hrecv]
    simp only [List.count_append, List.count_cons, List.count_nil]
    omega
  | sends hrecv hforeign =>
    refine ⟨h.readers, h.conserved_of_count fun a => ?_, ?_, hadd, hloop⟩
    · rw [count_held, count_held, Channel.queue_of_recv hrecv]
      simp only [List.count_append, List.count_cons, List.count_nil]
      omega
    · show (s.sent ++ [ni.reply]).length + s.unsent = _
      rw [← h.replies_answered hforeign, List.length_append, List.length_singleton]
      omega
  | fails hrecv hforeign =>
    refine ⟨h.readers, h.conserved_of_count fun a => ?_, ?_, h.sent, h.looping⟩
    · rw [count_held, count_held, Channel.queue_of_recv hrecv]
      simp only [List.count_append, List.count_cons, List.count_nil]
      omega
    · show s.sent.length + (s.unsent + 1) = _
      rw [← h.replies_answered hforeign, add_assoc]
  | @loops i identification headerChecksum packet hlooping =>
    obtain ⟨looped, hlooped, hperm⟩ := h.conserved
    have hreply := h.looping packet (List.mem_of_getElem? hlooping)
    refine ⟨h.readers, ⟨looped ++ [fillIn identification headerChecksum packet], ?_, ?_⟩,
      h.replies, h.sent, fun packet hpacket => h.looping packet (List.mem_of_mem_eraseIdx hpacket)⟩
    · intro back hback
      rcases List.mem_append.mp hback with hback | hback
      · exact hlooped back hback
      · rw [List.mem_singleton.mp hback, hreply]
        exact Ni.foreign_reply hsource identification headerChecksum
    · refine List.perm_iff_count.mpr fun a => ?_
      have hcount := hperm.count_eq a
      rw [count_held, List.count_append] at hcount
      rw [count_held]
      simp only [PollerState.arrive, PollerState.notify, Function.update_self, ResponderStep.arrival,
        List.count_append, List.append_nil]
      omega

/-- The invariant holds throughout a run. -/
theorem run (endian : Endian) (hsource : ni.connection.source = ni.localAddress) (socket : Socket)
    (steps : List (ResponderStep Socket)) :
    ResponderInvariant ni socket (ResponderStep.arrivals socket steps)
      (ResponderState.run endian ni socket steps) := by
  induction steps using List.reverseRecOn with
  | nil => exact new
  | append_singleton steps step ih =>
    have hmoves := moves_apply endian ni socket (ResponderState.run endian ni socket steps) step
    have hstep := ih.moves hsource hmoves
    rw [ResponderStep.arrivals, List.flatMap_append, List.flatMap_singleton, ResponderState.run,
      List.foldl_append]
    exact hstep

/-- One packet is sent, or not taken by the kernel, or refused with what it would answer, or still
to be sent, for each packet of another router. -/
theorem countP_arrived (h : ResponderInvariant ni socket arrived s) :
    s.sent.length + s.unsent + (s.receiver.queue.countP ni.foreign + s.refused.countP ni.foreign +
      s.reading.countP ni.foreign + (s.poller.unread socket).countP ni.foreign) =
      arrived.countP ni.foreign := by
  obtain ⟨looped, hlooped, hperm⟩ := h.conserved
  have hcount := hperm.countP_eq ni.foreign
  have hnone : looped.countP ni.foreign = 0 :=
    List.countP_eq_zero.mpr fun packet hpacket => by simp [hlooped packet hpacket]
  rw [held, List.countP_append, List.countP_append, List.countP_append, List.countP_append,
    List.countP_append, hnone, ← h.replies] at hcount
  omega

end ResponderInvariant

/-! ## The poller below -/

namespace ResponderState

variable {Socket : Type} [DecidableEq Socket]

/-- The steps of the poller that a step of the responder is. -/
def pollerSteps (socket : Socket) (s : ResponderState Socket) :
    ResponderStep Socket → List (PollerStep Socket (List UInt8))
  | .poller (.recv other) =>
    if other = socket ∧ ¬ s.reading.length < s.poller.receiving.count socket then []
    else [.recv other]
  | .poller step => [step]
  | .onRecv _ => []
  | .process _ _ => []
  | .loopback i identification headerChecksum =>
    (s.looping[i]?).toList.map fun packet =>
      .arrive socket (fillIn identification headerChecksum packet)

/-- The steps of the poller in a run of the responder from a state. -/
def trace (endian : Endian) (ni : Ni) (socket : Socket) :
    ResponderState Socket → List (ResponderStep Socket) → List (PollerStep Socket (List UInt8))
  | _, [] => []
  | s, step :: steps =>
    s.pollerSteps socket step ++ trace endian ni socket (s.apply endian ni socket step) steps

/-- A step of the responder does with the poller what its trace says. -/
theorem poller_apply (endian : Endian) (ni : Ni) (socket : Socket) (s : ResponderState Socket)
    (step : ResponderStep Socket) :
    (s.apply endian ni socket step).poller =
      (s.pollerSteps socket step).foldl PollerState.apply s.poller := by
  cases step with
  | poller step =>
    cases step with
    | recv other =>
      simp only [apply, pollerSteps, recv]
      by_cases hother : other = socket
      · subst hother
        split_ifs <;> simp_all [PollerState.apply]
      · simp [hother, PollerState.apply]
    | _ => rfl
  | onRecv i =>
    simp only [apply, pollerSteps, onRecv]
    cases s.reading[i]? with
    | none => rfl
    | some data =>
      dsimp only
      cases s.receiver.trySend data <;> rfl
  | process random taken =>
    simp only [apply, pollerSteps, process]
    cases s.receiver.recv with
    | none => rfl
    | some next =>
      obtain ⟨packet, receiver⟩ := next
      dsimp only
      rcases ni.process endian random packet with e | _ | reply
      · rfl
      · rfl
      · cases taken <;> rfl
  | loopback i identification headerChecksum =>
    simp only [apply, pollerSteps, loopback]
    cases s.looping[i]? <;> rfl

/-- A run of the responder is a run of the poller, so what was shown of the poller holds here. -/
theorem poller_foldl (endian : Endian) (ni : Ni) (socket : Socket) (s : ResponderState Socket)
    (steps : List (ResponderStep Socket)) :
    (steps.foldl (apply endian ni socket) s).poller =
      (trace endian ni socket s steps).foldl PollerState.apply s.poller := by
  induction steps generalizing s with
  | nil => rfl
  | cons step steps ih =>
    rw [List.foldl_cons, ih, poller_apply, trace, List.foldl_append]

/-- The responder runs over the poller. -/
theorem poller_run (endian : Endian) (ni : Ni) (socket : Socket)
    (steps : List (ResponderStep Socket)) :
    (run endian ni socket steps).poller =
      PollerState.run (trace endian ni socket new steps) :=
  poller_foldl endian ni socket new steps

/-- Nothing is on its way to the responder. -/
structure AtRest (s : ResponderState Socket) (socket : Socket) : Prop where
  ready : s.poller.ready = []
  batches : s.poller.batches = []
  receiving : socket ∉ s.poller.receiving
  receiver : s.receiver.queue = []
  looping : s.looping = []

end ResponderState

/-! ## What is answered -/

section Answers

variable {Socket : Type} [DecidableEq Socket]
  {connect : String → Ipv4Addr → UInt8 → List Ipv4Addr → Except Error Unit}
  {order : HashMap.Shuffle (ℕ × InterfaceItem)} {db : InterfaceManagerDatabase}
  {interfaceName : String} {localAddress : Ipv4Addr} {ni : Ni}

/-- **The responder does not answer itself.**  In every run, whatever comes back to it of its own
packets, it sends at most one packet for each packet of another router that reached it.  All that it
sends is read back as an OSPF packet of its address to the group, with its Hello. -/
theorem Ni.sent_length_le (hni : Ni.new connect order db interfaceName localAddress = .ok ni)
    (endian : Endian) (socket : Socket) (steps : List (ResponderStep Socket)) :
    (run endian ni socket steps).sent.length ≤
        (ResponderStep.arrivals socket steps).countP ni.foreign ∧
      ∀ packet ∈ (run endian ni socket steps).sent, ∀ identification headerChecksum,
        (∃ header, IpV4Header.tryFrom (fillIn identification headerChecksum packet) = .ok header ∧
          header.sourceAddress = localAddress ∧ header.destinationAddress = allSpfRouters ∧
          header.protocol = OSPF_PROTOCOL_NUMBER) ∧
        Ni.hello.ReadFrom (fillIn identification headerChecksum packet) := by
  have hconnection := Ni.new_eq_ok hni
  have hsource : ni.connection.source = ni.localAddress := by rw [hconnection]
  have h := ResponderInvariant.run endian hsource socket steps
  refine ⟨by have hcount := h.countP_arrived; omega, ?_⟩
  intro packet hpacket identification headerChecksum
  rw [h.sent packet hpacket]
  have hread := ni.reply_readFrom identification headerChecksum
  rwa [hconnection] at hread ⊢

/-- **Every packet of another router is answered once.**  In a run in which no event is looked up
before its handler is inserted, and no handle is drawn that is in use, the socket of a ticket is
read: when nothing is on its way, the packets of other routers that reached it are those that were
answered, those whose answer the kernel did not take, and those that the full channel refused. -/
theorem Ni.answered_at_rest (hni : Ni.new connect order db interfaceName localAddress = .ok ni)
    (endian : Endian) (socket : Socket) {steps : List (ResponderStep Socket)}
    (hearly : PollerState.new.NeverEarly (trace endian ni socket ResponderState.new steps))
    {item : PollerItem Socket} (hitem : item ∈ (run endian ni socket steps).poller.tickets)
    (hsocket : item.socket = socket) (hrest : (run endian ni socket steps).AtRest socket) :
    (run endian ni socket steps).sent.length + (run endian ni socket steps).unsent +
        (run endian ni socket steps).refused.countP ni.foreign =
      (ResponderStep.arrivals socket steps).countP ni.foreign := by
  have hsource : ni.connection.source = ni.localAddress := by rw [Ni.new_eq_ok hni]
  have h := ResponderInvariant.run endian hsource socket steps
  have hcount := h.countP_arrived
  have hreaders := h.readers
  rw [List.count_eq_zero_of_not_mem hrest.receiving] at hreaders
  have hreading := List.eq_nil_of_length_eq_zero (Nat.le_zero.mp hreaders)
  -- data that nothing is going to read would be a lost wake-up
  have hunread : (run endian ni socket steps).poller.unread socket = [] := by
    by_contra hwaits
    have hinvariant := PollerInvariant.new.foldl_apply hearly
    have hpending := hinvariant.pending item
    have hpoller := poller_run endian ni socket steps
    rw [PollerState.run] at hpoller
    rw [← hpoller, hsocket] at hpending
    rcases hpending (List.mem_append_right _ hitem) hwaits with hready | ⟨batch, hbatch, -⟩ | hreads
    · rw [hsocket, hrest.ready] at hready
      cases hready
    · rw [hrest.batches] at hbatch
      cases hbatch
    · exact hrest.receiving (hsocket ▸ hreads)
  rw [hrest.receiver, hreading, hunread, List.countP_nil] at hcount
  omega

end Answers

/-! ## An exchange with one other router -/

/-- The database of a router whose interface `Inside` is up. -/
def insideDatabase : InterfaceManagerDatabase :=
  InterfaceManager.run unusedConfig
    [.poll (InterfaceManagerWorker.pollAt 0
      [InterfaceManagerWorker.newLinkMessage 2 "vlan.10" .up] [])]

/-- The responder of `main` on it. -/
def insideNi : Ni := ⟨⟨0xAC100A02⟩, ⟨⟨0xAC100A02⟩, OSPF_PROTOCOL_NUMBER⟩⟩

/-- The interface of the example is connected. -/
theorem new_inside : Ni.new (fun _ _ _ _ => .ok ()) (HashMap.Shuffle.id _) insideDatabase "Inside"
    ⟨0xAC100A02⟩ = .ok insideNi := by
  decide +kernel

/-- A packet of another router. -/
def peerPacket : List UInt8 :=
  (header ⟨⟨0xAC100A01⟩, OSPF_PROTOCOL_NUMBER⟩ allSpfRouters 0).toVec

/-- The packet arrives and is answered, and the answer comes back and is looked at. -/
def exchange : List (ResponderStep ℕ) :=
  [.poller (.register 3 7 false), .poller (.insert ⟨7, 3⟩), .poller (.arrive 3 peerPacket),
    .poller (.epollWait [3]), .poller (.lookup 0), .poller (.recv 3), .onRecv 0, .process 0 true,
    .loopback 0 5 6, .poller (.recv 3), .onRecv 0, .process 0 true, .poller (.recv 3),
    .poller (.epollWait [3]), .poller (.lookup 0)]

/-- In the exchange no more is sent than arrives. -/
theorem sent_length_le_exchange :
    (run .little insideNi 3 exchange).sent.length ≤
      (ResponderStep.arrivals 3 exchange).countP insideNi.foreign :=
  (Ni.sent_length_le new_inside .little 3 exchange).1

/-- The steps that the poller takes in the exchange. -/
theorem trace_exchange : trace .little insideNi 3 ResponderState.new exchange =
    [.register 3 7 false, .insert ⟨7, 3⟩, .arrive 3 peerPacket, .epollWait [3], .lookup 0, .recv 3,
      .arrive 3 (fillIn 5 6 insideNi.reply), .recv 3, .recv 3, .epollWait [3], .lookup 0] := rfl

theorem neverEarly_exchange :
    PollerState.new.NeverEarly (trace .little insideNi 3 ResponderState.new exchange) := by
  rw [trace_exchange]
  refine ⟨List.not_mem_nil, id, id, id, ?_, id, id, id, id, id, ?_, trivial⟩
  · rintro ⟨batch, -, item, hitem, -⟩
    exact absurd hitem List.not_mem_nil
  · rintro ⟨batch, -, item, hitem, -⟩
    exact absurd hitem List.not_mem_nil

theorem atRest_exchange : (run .little insideNi 3 exchange).AtRest 3 :=
  ⟨by decide +kernel, by decide +kernel, by decide +kernel, by decide +kernel, by decide +kernel⟩

/-- In the exchange the one packet of the peer is answered. -/
theorem answered_at_rest_exchange :
    (run .little insideNi 3 exchange).sent.length + (run .little insideNi 3 exchange).unsent +
        (run .little insideNi 3 exchange).refused.countP insideNi.foreign =
      (ResponderStep.arrivals 3 exchange).countP insideNi.foreign :=
  @Ni.answered_at_rest _ _ _ _ _ _ _ _ new_inside .little 3 exchange neverEarly_exchange ⟨7, 3⟩
    (by decide +kernel) rfl atRest_exchange

end RustyRouter
