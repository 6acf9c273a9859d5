/-
# Sending over IPv4 (`LinuxInetPacketNetworkInterface::send`)

`send` puts a header before the data and leaves its identification and checksum to
the kernel, by setting both to zero.  A packet that it makes is read back by
`IpV4Header::try_from` with the addresses, the protocol and the length it was made
with, before and after the kernel has filled the two fields in.

A Hello can be built with more neighbours than an IPv4 packet takes.  One that fits
reaches the receiver of the packet as it was, if it survives its own encoding
(`hello_carried_iff`).
-/
import RustyRouter.Ipv4RoundTrip
import RustyRouter.OspfHelloRoundTrip
import RustyRouter.NetlinkMessage

namespace RustyRouter

open Octets Checked

/-! ## Error texts -/

/-- The format `{:#06x}`. -/
def hexWord (n : UInt16) : String :=
  "0x" ++ String.ofList (List.leftpad 4 '0' (Nat.toDigits 16 n.toNat))

/-- `ProtocolError::to_string`. -/
def ProtocolError.toString : ProtocolError → String
  | invalidMinimumLength proto expected actual =>
    s!"[{proto}] Expecting data of at least {expected} bytes but only {actual} bytes are available"
  | invalidHeaderLength proto expected actual =>
    s!"[{proto}] Expecting header to be {expected} bytes but only {actual} bytes are available"
  | invalidLength proto expected actual =>
    s!"[{proto}] Expecting data to be {expected} bytes but {actual} bytes are available"
  | invalidBitBoundary proto length =>
    s!"[{proto}] Expecting data to be aligned with a word boundary but was {length} bytes long"
  | unsupportedFieldValue proto field value =>
    s!"[{proto}] The value '{value}' for field '{field}' is not supported"
  | conversionError label file line =>
    s!"[{label}] Failed to perform byte conversion {file}:{line}"
  | invalidChecksum proto expected actual =>
    s!"[{proto}] Checksum mismatch.  Expected: {hexWord expected}, Actual: {hexWord actual}"

/-- The conversion of a protocol error at a `?`. -/
def Parse.toExec {α : Type} : Parse α → Exec Error α
  | .ok a => .ok a
  | .error (.error e) => fail (.protocol e.toString)
  | .error .panic => .error .panic

/-! ## The packet -/

/-- `LinuxInetPacketNetworkInterface`, as far as `send` reads it. -/
structure LinuxInetPacketNetworkInterface where
  source : Ipv4Addr
  protocol : UInt8
  deriving DecidableEq

namespace LinuxInetPacketNetworkInterface

/-- `LinuxInetPacketNetworkInterface::new`: `connect` is what its calls to the kernel and to the
poller come to. -/
def new (connect : String → Ipv4Addr → UInt8 → List Ipv4Addr → Except Error Unit)
    (networkDevice : String) (source : Ipv4Addr) (protocol : UInt8)
    (multicastGroups : List Ipv4Addr) : Except Error LinuxInetPacketNetworkInterface := do
  connect networkDevice source protocol multicastGroups
  return ⟨source, protocol⟩

/-- The packet that `send` makes of some data. -/
def packet (endian : Endian) (random : UInt16) (interface : LinuxInetPacketNetworkInterface)
    (destination : Ipv4Addr) (data : List UInt8) : Parse (List UInt8) := do
  let builder := IpV4HeaderBuilder.new interface.source destination interface.protocol
  -- the kernel calculates these
  let builder := (builder.forceIdentification (some 0)).forceHeaderChecksum (some 0)
  let header ← builder.build endian random data.length
  return header.toVec ++ data

/-- `send`: `sendto` is what the kernel answers about a packet and its destination. -/
def send (sendto : List UInt8 → Ipv4Addr → Except String ℕ) (endian : Endian) (random : UInt16)
    (interface : LinuxInetPacketNetworkInterface) (destination : Ipv4Addr) (data : List UInt8) :
    Exec Error ℕ := do
  let packet ← (interface.packet endian random destination data).toExec
  match sendto packet destination with
  | .ok size => return size
  | .error e => fail (.system e)

/-- The header of a packet of `send`. -/
def header (interface : LinuxInetPacketNetworkInterface) (destination : Ipv4Addr) (size : ℕ) :
    IpV4Header :=
  { (IpV4HeaderBuilder.new interface.source destination interface.protocol).header with
    totalLength := UInt16.ofNat (20 + size)
    internetHeaderLength := 5 }

/-- What the kernel makes of a packet whose identification and checksum are left to it. -/
def fillIn (identification headerChecksum : UInt16) (packet : List UInt8) : List UInt8 :=
  packet.take 4 ++ beBytes 2 identification.toNat ++ (packet.take 10).drop 6 ++
    beBytes 2 headerChecksum.toNat ++ packet.drop 12

section Packet

variable (endian : Endian) (random : UInt16) (interface : LinuxInetPacketNetworkInterface)
  (destination : Ipv4Addr) (data : List UInt8)

/-- Data that fits is sent behind the header. -/
theorem packet_of_le (h : data.length ≤ 65515) :
    interface.packet endian random destination data = .ok ((interface.header destination data.length).toVec ++ data) := by
  have hlength : 20 + data.length % 2 ^ 16 = 20 + data.length := by omega
  rw [packet, IpV4HeaderBuilder.build, if_neg (by omega), hlength, checked_of_lt (by omega)]
  rfl

/-- Data that does not fit is not sent. -/
theorem packet_of_lt (h : 65515 < data.length) :
    interface.packet endian random destination data =
      fail (.invalidLength "IPv4 payload length without fragmentation" 65515 data.length) := by
  rw [packet, IpV4HeaderBuilder.build, if_pos (by omega)]
  rfl

/-- A packet is made exactly of data that fits. -/
theorem packet_eq_ok {bytes : List UInt8} :
    interface.packet endian random destination data = .ok bytes ↔
      data.length ≤ 65515 ∧ bytes = (interface.header destination data.length).toVec ++ data := by
  rcases le_or_gt data.length 65515 with h | h
  · rw [packet_of_le endian random interface destination data h, Except.ok.injEq]
    exact ⟨fun hbytes => ⟨h, hbytes.symm⟩, fun hbytes => hbytes.2.symm⟩
  · rw [packet_of_lt endian random interface destination data h]
    constructor
    · intro hfail
      cases hfail
    · rintro ⟨hfits, -⟩
      omega

end Packet

section Read

variable (interface : LinuxInetPacketNetworkInterface) (destination : Ipv4Addr) (size : ℕ)
  (data : List UInt8)

/-- The kernel fills the two fields in and leaves the others. -/
theorem fillIn_header (identification headerChecksum : UInt16) :
    fillIn identification headerChecksum ((interface.header destination size).toVec ++ data) =
      ({ interface.header destination size with identification, headerChecksum } : IpV4Header).toVec ++
        data :=
  rfl

/-- A packet that the kernel has filled in is read back with the fields it was made with. -/
theorem tryFrom_fillIn (identification headerChecksum : UInt16) :
    IpV4Header.tryFrom
        (fillIn identification headerChecksum ((interface.header destination size).toVec ++ data)) =
      .ok { interface.header destination size with identification, headerChecksum } := by
  rw [fillIn_header]
  exact IpV4Header.tryFrom_toVec
    { interface.header destination size with identification, headerChecksum } rfl rfl data

/-- The data stands behind the header, whatever the kernel fills in. -/
theorem drop_fillIn (identification headerChecksum : UInt16) :
    (fillIn identification headerChecksum ((interface.header destination size).toVec ++ data)).drop 20 =
      data := by
  rw [fillIn_header]
  exact List.drop_left' (IpV4Header.length_toVec _)

end Read

end LinuxInetPacketNetworkInterface

/-! ## A Hello in an IPv4 packet -/

namespace OspfHelloPacket

/-- A packet from which a receiver reads a Hello behind the IPv4 header that it reads first. -/
def ReadFrom (value : OspfHelloPacket) (packet : List UInt8) : Prop :=
  ∃ header, IpV4Header.tryFrom packet = .ok header ∧
    tryFrom (packet.drop (4 * header.internetHeaderLength.toNat)) = .ok value

end OspfHelloPacket

namespace LinuxInetPacketNetworkInterface

/-- The packet of a Hello: its encoding and then `send`. -/
def helloPacket (endian : Endian) (random : UInt16) (interface : LinuxInetPacketNetworkInterface)
    (destination : Ipv4Addr) (value : OspfHelloPacket) : Parse (List UInt8) := do
  interface.packet endian random destination (← value.toResult)

/-- **A Hello over IPv4.**  A built Hello is sent, and read back as it was by whoever receives the
packet that the kernel has filled in, if and only if it has at most 16367 neighbours and is read
back from its own encoding; the builder takes up to 16372. -/
theorem hello_carried_iff (endian : Endian) (random : UInt16)
    (interface : LinuxInetPacketNetworkInterface) (destination : Ipv4Addr)
    (identification headerChecksum : UInt16) {builder : OspfHelloPacketBuilder}
    {value : OspfHelloPacket} (h : builder.build endian = .ok value) :
    (∃ packet, interface.helloPacket endian random destination value = .ok packet ∧
        value.ReadFrom (fillIn identification headerChecksum packet)) ↔
      builder.neighbors.length ≤ 16367 ∧ value.RoundTrips := by
  obtain ⟨-, checksum, rfl, -⟩ := OspfHelloPacketBuilder.build_eq_ok h
  obtain ⟨value, hvalue⟩ : ∃ value, builder.withChecksum checksum = value := ⟨_, rfl⟩
  have hneighbors : value.neighbors.length = builder.neighbors.length := by
    rw [← hvalue]
    rfl
  have hlength : (value.header.toVec ++ value.body).length =
      44 + 4 * builder.neighbors.length := by
    rw [List.length_append, OspfHeader.length_toVec, OspfHelloPacket.length_body, hneighbors]
    omega
  rw [hvalue]
  constructor
  · rintro ⟨packet, hpacket, header, hheader, hread⟩
    obtain ⟨hfits, rfl⟩ := (packet_eq_ok endian random interface destination _).mp hpacket
    rw [tryFrom_fillIn] at hheader
    cases hheader
    refine ⟨by omega, value.header.toVec ++ value.body, rfl, ?_⟩
    rwa [← drop_fillIn interface destination _ (value.header.toVec ++ value.body) identification
      headerChecksum]
  · rintro ⟨hcount, bytes, hbytes, hread⟩
    cases hbytes
    refine ⟨_, packet_of_le endian random interface destination _ (by omega), _,
      tryFrom_fillIn interface destination _ _ identification headerChecksum, ?_⟩
    rwa [← drop_fillIn interface destination _ (value.header.toVec ++ value.body) identification
      headerChecksum] at hread

theorem hello_carried_iff_quiet :
    (∃ packet, helloPacket .little 7 ⟨⟨0x0A000001⟩, 89⟩ ⟨0xE0000005⟩
          ((OspfHelloPacketBuilder.quiet ⟨0x0A000001⟩).withChecksum 0xF29D) = .ok packet ∧
        ((OspfHelloPacketBuilder.quiet ⟨0x0A000001⟩).withChecksum 0xF29D).ReadFrom
          (fillIn 9 0x51A4 packet)) ↔
      (OspfHelloPacketBuilder.quiet ⟨0x0A000001⟩).neighbors.length ≤ 16367 ∧
        ((OspfHelloPacketBuilder.quiet ⟨0x0A000001⟩).withChecksum 0xF29D).RoundTrips :=
  hello_carried_iff .little 7 ⟨⟨0x0A000001⟩, 89⟩ ⟨0xE0000005⟩ 9 0x51A4 (by decide +kernel)

end LinuxInetPacketNetworkInterface

end RustyRouter
