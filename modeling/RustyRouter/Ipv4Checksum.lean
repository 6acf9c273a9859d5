/-
# The checksum of a built IPv4 header

The builder takes the checksum of a header whose checksum field is zero and stores it
there.  The words of the encoding grow by the checksum, so their one's-complement sum is
all ones; and twenty bytes are too few to overflow the accumulator.  So a header that is
built without a forced checksum verifies (`build_verifies`).
-/
import RustyRouter.PartialSum
import RustyRouter.Ipv4RoundTrip

namespace RustyRouter

open Octets Checked OnesComplement

namespace IpV4Header

/-- Storing a checksum in a header without one adds it to the words of the encoding. -/
theorem wordSum_toVec (header : IpV4Header) (headerChecksum : UInt16)
    (hzero : header.headerChecksum = 0) :
    wordSum { header with headerChecksum }.toVec =
      wordSum header.toVec + headerChecksum.toNat := by
  obtain ⟨front, hfront⟩ : ∃ front, front =
      [header.version.getValue <<< 4 ||| 20 / 4, header.typeOfService] ++
        beBytes 2 header.totalLength.toNat ++ beBytes 2 header.identification.toNat ++
        beBytes 2 header.flagsWithFragmentOffset.toNat ++ [header.timeToLive, header.protocol] :=
    ⟨_, rfl⟩
  obtain ⟨back, hback⟩ : ∃ back,
      back = header.sourceAddress.octets ++ header.destinationAddress.octets := ⟨_, rfl⟩
  have heven : Even front.length := by
    rw [hfront]
    exact ⟨5, rfl⟩
  have hsplit : ∀ checksum : UInt16, { header with headerChecksum := checksum }.toVec =
      front ++ (beBytes 2 checksum.toNat ++ back) := by
    intro checksum
    rw [hfront, hback, ← List.append_assoc, ← List.append_assoc]
    rfl
  have hheader : header.toVec = front ++ (beBytes 2 (0 : UInt16).toNat ++ back) := by
    rw [← hsplit, ← hzero]
  rw [hsplit, hheader, wordSum_append heven, wordSum_append heven, wordSum_beBytes_two_append,
    wordSum_beBytes_two_append, UInt16.toNat_zero]
  omega

/-- A header without a checksum gets the checksum of its encoding, and verifies with it. -/
theorem checksum_toVec (endian : Endian) (header : IpV4Header)
    (hzero : header.headerChecksum = 0) :
    ∃ headerChecksum, InternetChecksum.checksum endian header.toVec = .ok headerChecksum ∧
      InternetChecksum.checksum endian { header with headerChecksum }.toVec = .ok 0 := by
  have hsum : ∀ header : IpV4Header, InternetChecksum.checksum endian header.toVec =
      .ok (onesChecksum header.toVec) := by
    intro header
    have hlen := header.length_toVec
    exact InternetChecksum.checksum_of_lt endian (by omega)
      (InternetChecksum.partialSum_lt_of_length_le endian (by omega))
  refine ⟨_, hsum header, ?_⟩
  rw [hsum, onesChecksum_eq_zero (header.wordSum_toVec _ hzero)]

end IpV4Header

namespace IpV4HeaderBuilder

/-- Without a forced checksum, `build` refuses long payloads and stores the checksum of a header
without one otherwise. -/
theorem build_of_unforced (endian : Endian) (random : UInt16) {builder : IpV4HeaderBuilder}
    (hunforced : builder.headerChecksum = none) (payloadLength : ℕ) :
    builder.build endian random payloadLength =
      if payloadLength > 65515 then
        fail (.invalidLength "IPv4 payload length without fragmentation" 65515 payloadLength)
      else InternetChecksum.checksum endian (builder.unsummed random (20 + payloadLength)).toVec >>=
        fun headerChecksum =>
          .ok { builder.unsummed random (20 + payloadLength) with headerChecksum } := by
  unfold build
  by_cases hlarge : payloadLength > 65515
  · rw [if_pos hlarge, if_pos hlarge]
  · rw [if_neg hlarge, if_neg hlarge, Nat.mod_eq_of_lt (by omega), checked_of_lt (by omega),
      ok_bind]
    dsimp only
    rw [hunforced]
    rfl

/-- **Built headers verify.**  After any run of forcing calls that leaves no checksum forced, and
whatever the identification is, `build` does not overflow, and the checksum of the encoding of
the header that it returns is zero. -/
theorem build_verifies (endian : Endian) (random : UInt16)
    (sourceAddress destinationAddress : Ipv4Addr) (protocol : UInt8) (calls : List Force)
    (payloadLength : ℕ) {builder : IpV4HeaderBuilder}
    (hcalls : calls.foldlM Force.apply (new sourceAddress destinationAddress protocol) =
      .ok builder) (hunforced : builder.headerChecksum = none) :
    builder.build endian random payloadLength ≠ .error .panic ∧
      ∀ header, builder.build endian random payloadLength = .ok header →
        InternetChecksum.checksum endian header.toVec = .ok 0 := by
  obtain ⟨hheader, -⟩ := Force.foldlM_apply_eq_ok hcalls
  have hzero : (builder.unsummed random (20 + payloadLength)).headerChecksum = 0 :=
    congrArg IpV4Header.headerChecksum hheader
  obtain ⟨headerChecksum, hsum, hverifies⟩ := IpV4Header.checksum_toVec endian _ hzero
  rw [build_of_unforced endian random hunforced, hsum, ok_bind]
  split_ifs
  · refine ⟨by rintro ⟨⟩, ?_⟩
    rintro header ⟨⟩
  · refine ⟨by rintro ⟨⟩, ?_⟩
    rintro header ⟨⟩
    exact hverifies

/-- The header in front of a Hello without neighbours is built, and verifies. -/
theorem build_verifies_ospfHeader :
    ∃ header, (new ⟨0x0A000001⟩ ⟨0x0A000002⟩ 89).build .little 7 44 = .ok header ∧
      InternetChecksum.checksum .little header.toVec = .ok 0 :=
  ⟨_, rfl, (build_verifies .little 7 ⟨0x0A000001⟩ ⟨0x0A000002⟩ 89
    [.headerChecksum (some 1), .headerChecksum none] 44 rfl rfl).2 _ rfl⟩

end IpV4HeaderBuilder

end RustyRouter
