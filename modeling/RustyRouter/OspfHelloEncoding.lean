/-
# What Hello packets encode to

An accepted packet is encoded to the bytes it was read from, up to the packet length,
with zeros for the authentication field, whatever follows it in the slice
(`toResult_of_tryFrom`).  The limit of the builder on the neighbours is where the packet
length leaves 16 bits, so no packet that it returns has a length that was wrapped
(`build_refuses_iff`).
-/
import RustyRouter.OspfHelloAcceptance
import RustyRouter.OspfHelloRoundTrip

namespace RustyRouter

open Octets Checked OnesComplement

namespace OspfHelloPacket

/-! ## Encoding an accepted packet -/

/-- A packet with zeros for its authentication field. -/
def withoutAuthentication (packet : List UInt8) : List UInt8 :=
  packet.take 16 ++ List.replicate 8 0 ++ packet.drop 24

/-- Without authentication, the header is encoded to its fields and zeros. -/
theorem toVec_of_reads {data : List UInt8} {header : OspfHeader}
    (h : OspfHeader.Reads data header) (hauth : header.authenticationType = .null) :
    header.toVec = data.take 16 ++ List.replicate 8 0 := by
  obtain ⟨authentication, -, hnew⟩ := h.authentication
  rw [hauth, OspfAuthenticationHeader.new, Except.ok.injEq] at hnew
  rw [OspfHeader.toVec_eq, h.fields, ← hnew]
  rfl

/-- The addresses that the neighbour loop reads are encoded to the bytes it read. -/
theorem flatMap_octets_eq {data : List UInt8} {n i : ℕ} (h : i + 4 * n ≤ data.length) :
    ((List.range n).map fun k => (⟨u32At data (i + 4 * k)⟩ : Ipv4Addr)).flatMap Ipv4Addr.octets =
      (data.take (i + 4 * n)).drop i := by
  induction n with
  | zero => rw [Nat.mul_zero, Nat.add_zero, List.drop_take, Nat.sub_self]; rfl
  | succ n ih =>
    have hlast : (⟨u32At data (i + 4 * n)⟩ : Ipv4Addr).octets =
        (data.take (i + 4 * n + 4)).drop (i + 4 * n) := beBytes_u32At (by omega)
    rw [List.range_succ, List.map_append, List.flatMap_append, ih (by omega), List.map_singleton,
      List.flatMap_singleton, hlast, Nat.mul_succ, ← Nat.add_assoc,
      ← drop_take_eq_append data (by omega) (by omega) (by omega)]

/-- The Hello fields are encoded to the bytes they were read from. -/
theorem body_decoded {data : List UInt8} {header : OspfHeader}
    (hmin : 44 ≤ header.packetLength.toNat) (hmax : header.packetLength.toNat ≤ data.length)
    (haligned : header.packetLength.toNat % 4 = 0) :
    (decoded data header).body = (data.take header.packetLength.toNat).drop 24 := by
  have hlength : 44 + 4 * ((header.packetLength.toNat - 44) / 4) = header.packetLength.toNat := by
    omega
  have hneighbors := @flatMap_octets_eq data ((header.packetLength.toNat - 44) / 4) 44
    (by omega)
  have hbytes : [data.getD 30 0, data.getD 31 0] = (data.take 32).drop 30 :=
    (drop_take_two (by omega)).symm
  have hmask : (decoded data header).networkMask.netmaskNumber = u32At data 24 := rfl
  rw [hlength] at hneighbors
  rw [body, hmask]
  dsimp only [decoded]
  rw [hneighbors, hbytes, Ipv4Addr.octets, Ipv4Addr.octets, beBytes_u32At (by omega),
    beBytes_u16At (by omega), beBytes_u32At (by omega), beBytes_u32At (by omega),
    beBytes_u32At (by omega)]
  rw [← drop_take_eq_append data (by omega) (by omega) (by omega),
    ← drop_take_eq_append data (by omega) (by omega) (by omega),
    ← drop_take_eq_append data (by omega) (by omega) (by omega),
    ← drop_take_eq_append data (by omega) (by omega) (by omega),
    ← drop_take_eq_append data (by omega) (by omega) (by omega),
    ← drop_take_eq_append data (by omega) hmin hmax]

/-- **Encoding an accepted packet** gives the bytes of the packet back, but for the authentication
field, which is encoded to zeros. -/
theorem toResult_of_tryFrom (data : List UInt8) (packet : OspfHelloPacket)
    (h : tryFrom data = .ok packet) :
    packet.toResult = .ok (withoutAuthentication (OspfHeader.packet data)) := by
  obtain ⟨header, hheader, hauth, hmin, rfl⟩ := tryFrom_eq_ok.mp h
  have haccepts := OspfHeader.tryFrom_eq_ok.mp hheader
  have htake : (data.take header.packetLength.toNat).take 16 = data.take 16 := by
    rw [List.take_take, Nat.min_eq_left (by omega)]
  rw [OspfHeader.packet, haccepts.toReads.u16At_packetLength, withoutAuthentication, htake,
    toResult, body_decoded hmin haccepts.length_le haccepts.aligned]
  show Except.ok (header.toVec ++ _) = _
  rw [toVec_of_reads haccepts.toReads hauth]

/-- A Hello with a neighbour, bytes in its authentication field and a byte behind it. -/
def greeting : List UInt8 :=
  [2, 1, 0, 48, 10, 0, 0, 1, 0, 0, 0, 0, 0xE8, 0x97, 0, 0, 1, 2, 3, 4, 5, 6, 7, 8,
    0xFF, 0xFF, 0xFF, 0, 0, 10, 2, 1, 0, 0, 0, 40, 0, 0, 0, 0, 0, 0, 0, 0, 10, 0, 0, 2, 0xFF]

/-- The packet that it is read as. -/
def greetingPacket : OspfHelloPacket :=
  { OspfHelloPacketBuilder.quiet ⟨0x0A000001⟩ with neighbors := [⟨0x0A000002⟩] }.withChecksum
    0xE897

theorem toResult_of_tryFrom_greeting :
    greetingPacket.toResult = .ok (withoutAuthentication (OspfHeader.packet greeting)) :=
  toResult_of_tryFrom greeting greetingPacket (by decide +kernel)

end OspfHelloPacket

/-! ## The length of a built packet -/

namespace OspfHelloPacketBuilder

/-- **The length limit.**  The builder refuses a field value exactly when the packet length would
exceed 16 bits, and in every packet that it returns the length is computed without a wrap, is
stored, and is the number of bytes that the packet encodes to. -/
theorem build_refuses_iff (endian : Endian) (builder : OspfHelloPacketBuilder) :
    ((∃ proto field value, builder.build endian =
        fail (.unsupportedFieldValue proto field value)) ↔
      65535 < 44 + 4 * builder.neighbors.length) ∧
    ∀ value, builder.build endian = .ok value →
      builder.packetLength = .ok (44 + 4 * builder.neighbors.length) ∧
        value.header.packetLength.toNat = 44 + 4 * builder.neighbors.length ∧
        ∃ bytes, value.toResult = .ok bytes ∧
          value.header.packetLength.toNat = bytes.length := by
  refine ⟨?_, ?_⟩
  · by_cases hcount : builder.neighbors.length ≤ 16372
    · rw [build_of_le endian hcount]
      refine iff_of_false ?_ (by omega)
      rintro ⟨proto, field, value, hrefused⟩
      revert hrefused
      refine bind_ne_failure (InternetChecksum.checksum_ne_error endian _ _) fun _ _ => ?_
      rintro ⟨⟩
    · rw [build_of_lt endian (not_le.mp hcount)]
      exact iff_of_true ⟨_, _, _, rfl⟩ (by omega)
  · intro value h
    obtain ⟨hcount, checksum, rfl, -⟩ := build_eq_ok h
    refine ⟨packetLength_eq hcount, toNat_packetLength hcount checksum, _, rfl, ?_⟩
    rw [toNat_packetLength hcount, List.length_append, OspfHeader.length_toVec,
      OspfHelloPacket.length_body]
    show _ = 24 + (20 + 4 * builder.neighbors.length)
    omega

end OspfHelloPacketBuilder

end RustyRouter
