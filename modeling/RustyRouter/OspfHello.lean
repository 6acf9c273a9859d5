/-
# The OSPFv2 Hello packet (`packet/hello.rs`)

The struct is read with the upstream side of its merge markers, the side whose
field types the builder, the parser and the encoder use.
-/
import RustyRouter.OspfHeader

namespace RustyRouter

open Octets Checked

/-- `file!()` in the Hello parser. -/
def helloFile : String := "rusty-router-proto-ospfv2/src/packet/hello.rs"

/-- `OspfHelloPacket`. -/
structure OspfHelloPacket where
  header : OspfHeader
  networkMask : Ipv4Netmask
  helloInterval : UInt16
  options : UInt8
  routerPriority : UInt8
  routerDeadInterval : UInt32
  designatedRouter : Ipv4Addr
  backupDesignatedRouter : Ipv4Addr
  neighbors : List Ipv4Addr
  deriving DecidableEq

/-- `OspfHelloPacketBuilder`. -/
structure OspfHelloPacketBuilder where
  routerId : Ipv4Addr
  areaId : Ipv4Addr
  networkMask : Ipv4Netmask
  helloInterval : UInt16
  options : UInt8
  routerPriority : UInt8
  routerDeadInterval : UInt32
  designatedRouter : Ipv4Addr
  backupDesignatedRouter : Ipv4Addr
  neighbors : List Ipv4Addr

namespace OspfHelloPacket

/-- The Hello fields that follow the header. -/
def body (value : OspfHelloPacket) : List UInt8 :=
  beBytes 4 value.networkMask.netmaskNumber.toNat ++ beBytes 2 value.helloInterval.toNat ++
    [value.options, value.routerPriority] ++ beBytes 4 value.routerDeadInterval.toNat ++
    value.designatedRouter.octets ++ value.backupDesignatedRouter.octets ++
    value.neighbors.flatMap Ipv4Addr.octets

/-- `Result::<Vec<u8>, ProtocolError>::from(&OspfHelloPacket)`. -/
def toResult (value : OspfHelloPacket) : Parse (List UInt8) :=
  .ok (value.header.toVec ++ value.body)

/-- `rounds` rounds of the neighbour loop, from offset `i` on. -/
def readNeighbors (data : List UInt8) : ℕ → ℕ → Parse (List Ipv4Addr)
  | 0, _ => .ok []
  | rounds + 1, i => do
    let neighbor ← fromBeBytesU32 PROTOCOL helloFile 179 (← slice data i (i + 4))
    let neighbors ← readNeighbors data rounds (i + 4)
    return ⟨neighbor⟩ :: neighbors

/-- The Hello fields, once the header is accepted. -/
def readFields (data : List UInt8) (header : OspfHeader) : Parse OspfHelloPacket := do
  let networkMask ← fromBeBytesU32 PROTOCOL helloFile 167 (← slice data 24 28)
  let helloInterval ← fromBeBytesU16 PROTOCOL helloFile 168 (← slice data 28 30)
  let options ← byteAt data 30
  let routerPriority ← byteAt data 31
  let routerDeadInterval ← fromBeBytesU32 PROTOCOL helloFile 171 (← slice data 32 36)
  let designatedRouter ← fromBeBytesU32 PROTOCOL helloFile 172 (← slice data 36 40)
  let backupDesignatedRouter ← fromBeBytesU32 PROTOCOL helloFile 173 (← slice data 40 44)
  -- `i` runs from 44 in steps of 4 while it is below the packet length
  let neighbors ← readNeighbors data ((header.packetLength.toNat - 44 + 3) / 4) 44
  return {
    header, networkMask := Ipv4Netmask.new networkMask, helloInterval, options,
    routerPriority, routerDeadInterval, designatedRouter := ⟨designatedRouter⟩,
    backupDesignatedRouter := ⟨backupDesignatedRouter⟩, neighbors }

/-- `OspfHelloPacket::try_from`. -/
def tryFrom (data : List UInt8) : Parse OspfHelloPacket := do
  let header ← OspfHeader.tryFrom data
  let length := header.packetLength
  if length < 44 then fail (.invalidMinimumLength PROTOCOL 44 length.toNat)
  else if length % 4 ≠ 0 then fail (.invalidBitBoundary PROTOCOL length.toNat)
  else if header.authenticationType ≠ .null then
    fail (.unsupportedFieldValue PROTOCOL "AuthType" header.authenticationType.toU16.toNat)
  else readFields data header

/-- The Hello fields are read if the header is accepted, unauthenticated and of a Hello's length. -/
theorem tryFrom_eq_readFields {data : List UInt8} {header : OspfHeader}
    (h : OspfHeader.tryFrom data = .ok header) (hauth : header.authenticationType = .null)
    (hmin : 44 ≤ header.packetLength.toNat) (haligned : header.packetLength.toNat % 4 = 0) :
    tryFrom data = readFields data header := by
  have hmin' : ¬ header.packetLength < 44 := by
    rw [UInt16.lt_iff_toNat_lt, not_lt]
    exact hmin
  rw [tryFrom, h, ok_bind]
  dsimp only
  rw [if_neg hmin', if_neg (not_mod_four_ne_zero.mpr haligned), if_neg (not_not.mpr hauth)]

/-! ## Reading the Hello fields -/

/-- The neighbour loop reads one address in each of its rounds. -/
theorem readNeighbors_eq (data : List UInt8) {rounds i : ℕ} (h : i + 4 * rounds ≤ data.length) :
    readNeighbors data rounds i =
      .ok ((List.range rounds).map fun n => ⟨u32At data (i + 4 * n)⟩) := by
  induction rounds generalizing i with
  | zero => rfl
  | succ rounds ih =>
    rw [readNeighbors, slice_u32At (by omega), ok_bind, fromBeBytesU32_beBytes, ok_bind,
      ih (by omega), ok_bind, List.range_succ_eq_map, List.map_cons, List.map_map]
    have hrest : (fun n => (⟨u32At data (i + 4 + 4 * n)⟩ : Ipv4Addr)) =
        (fun n => ⟨u32At data (i + 4 * n)⟩) ∘ Nat.succ := by
      funext n
      show (⟨u32At data (i + 4 + 4 * n)⟩ : Ipv4Addr) = ⟨u32At data (i + 4 * (n + 1))⟩
      rw [Nat.mul_succ, Nat.add_assoc, Nat.add_comm 4]
    rw [hrest]
    rfl

/-- The packet that a slice with an accepted header is decoded to. -/
def decoded (data : List UInt8) (header : OspfHeader) : OspfHelloPacket where
  header := header
  networkMask := Ipv4Netmask.new (u32At data 24)
  helloInterval := u16At data 28
  options := data.getD 30 0
  routerPriority := data.getD 31 0
  routerDeadInterval := u32At data 32
  designatedRouter := ⟨u32At data 36⟩
  backupDesignatedRouter := ⟨u32At data 40⟩
  neighbors := (List.range ((header.packetLength.toNat - 44) / 4)).map fun n =>
    ⟨u32At data (44 + 4 * n)⟩

/-- The Hello fields of a packet that has room for them are read. -/
theorem readFields_eq {data : List UInt8} {header : OspfHeader}
    (hmin : 44 ≤ header.packetLength.toNat) (hmax : header.packetLength.toNat ≤ data.length)
    (haligned : header.packetLength.toNat % 4 = 0) :
    readFields data header = .ok (decoded data header) := by
  have h24 : slice (ε := ProtocolError) data 24 28 = _ := slice_u32At (by omega)
  have h28 : slice (ε := ProtocolError) data 28 30 = _ := slice_u16At (by omega)
  have h32 : slice (ε := ProtocolError) data 32 36 = _ := slice_u32At (by omega)
  have h36 : slice (ε := ProtocolError) data 36 40 = _ := slice_u32At (by omega)
  have h40 : slice (ε := ProtocolError) data 40 44 = _ := slice_u32At (by omega)
  have hrounds : (header.packetLength.toNat - 44 + 3) / 4 =
      (header.packetLength.toNat - 44) / 4 := by omega
  rw [readFields, h24, ok_bind, fromBeBytesU32_beBytes, ok_bind, h28, ok_bind,
    fromBeBytesU16_beBytes, ok_bind, byteAt_getD (by omega) 0, ok_bind, byteAt_getD (by omega) 0,
    ok_bind, h32, ok_bind, fromBeBytesU32_beBytes, ok_bind, h36, ok_bind, fromBeBytesU32_beBytes,
    ok_bind, h40, ok_bind, fromBeBytesU32_beBytes, ok_bind, hrounds,
    readNeighbors_eq data (by omega), ok_bind]
  rfl

end OspfHelloPacket

/-! ## The builder -/

namespace OspfHelloPacketBuilder

/-- The packet length `build` computes in `u16`. -/
def packetLength (builder : OspfHelloPacketBuilder) : Parse ℕ := do
  let fixed ← checked 16 (OSPF_V2_HEADER_LENGTH.toNat + 20)
  let list ← checked 16 (4 * (builder.neighbors.length % 2 ^ 16))
  checked 16 (fixed + list)

/-- The packet `build` assembles around a header. -/
def packet (builder : OspfHelloPacketBuilder) (header : OspfHeader) : OspfHelloPacket where
  header := header
  networkMask := builder.networkMask
  helloInterval := builder.helloInterval
  options := builder.options
  routerPriority := builder.routerPriority
  routerDeadInterval := builder.routerDeadInterval
  designatedRouter := builder.designatedRouter
  backupDesignatedRouter := builder.backupDesignatedRouter
  neighbors := builder.neighbors

/-- `OspfHelloPacketBuilder::build`. -/
def build (endian : Endian) (builder : OspfHelloPacketBuilder) : Parse OspfHelloPacket :=
  if builder.neighbors.length > (65536 - OSPF_V2_HEADER_LENGTH.toNat - 20) / 4 - 1 then
    fail (.unsupportedFieldValue PROTOCOL "Neighbor List Length" builder.neighbors.length)
  else do
    let packetLength ← builder.packetLength
    let headerBuilder := OspfHeaderBuilder.new .hello (UInt16.ofNat packetLength)
      builder.routerId builder.areaId
    let bytes ← (builder.packet headerBuilder.build).toResult
    let checksum ← InternetChecksum.checksum endian bytes
    return builder.packet (headerBuilder.withChecksum checksum).build

end OspfHelloPacketBuilder

end RustyRouter
