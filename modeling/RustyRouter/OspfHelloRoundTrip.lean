/-
# The Hello round trip

The sender stores the Internet checksum of the packet.  The receiver sums the same
words, since the bytes it skips are zero when the sender sums them
(`blank_toVec`), but folds the sum once only.  So a built packet is read back
exactly when the sum of its words folds to 16 bits in one step
(`build_roundTrips_iff`), and is refused with `InvalidChecksum` otherwise.
-/
import RustyRouter.OspfRead
import RustyRouter.OspfHello

namespace RustyRouter

open Octets Checked OnesComplement

namespace OspfHeader

/-! ## Parsing an encoded header -/

section Encoded

variable (header : OspfHeader) (body : List UInt8)

/-- The skipped bytes of an encoded packet are its checksum and its authentication field. -/
theorem blank_toVec (hnull : header.authenticationHeader = .null) :
    blank (header.toVec ++ body) = { header with checksum := 0 }.toVec ++ body := by
  have hzero : ∀ n, beBytes n 0 = List.replicate n 0 := by
    intro n
    induction n with
    | zero => rfl
    | succ n ih => simp [beBytes, ih, List.replicate_succ]
  have hfront : ([header.version.toU8, header.messageType.toU8] ++
      beBytes 2 header.packetLength.toNat ++ header.routerId.octets ++
      header.areaId.octets).length = 12 := by
    simp [Ipv4Addr.octets]
  rw [toVec, toVec, hnull, List.append_assoc, List.append_assoc, List.append_assoc,
    blank_append hfront (length_beBytes 2 _) (length_beBytes 2 _) (length_beBytes 8 _)]
  simp [OspfAuthenticationHeader.toU64, hzero]

/-- **Parsing an encoded header** of a packet of the stated length: every field is read back,
and the outcome is the receiver's verdict on the checksum. -/
theorem tryFrom_toVec (hauth : header.authenticationType = .null)
    (hnull : header.authenticationHeader = .null)
    (hlen : header.packetLength.toNat = 24 + body.length) (hword : 4 ∣ body.length) :
    tryFrom (header.toVec ++ body) =
      let expected := singleFold (wordSum (blank (header.toVec ++ body)))
      if header.checksum ≠ expected then fail (.invalidChecksum PROTOCOL expected header.checksum)
      else .ok header := by
  have hdata : (header.toVec ++ body).length = header.packetLength.toNat := by
    rw [List.length_append, length_toVec, hlen]
  have hreads : Reads (header.toVec ++ body) header := by
    refine header.reads_toVec body ?_
    rw [hauth, hnull]
    rfl
  have hexpected : expected header.authenticationType
      ((header.toVec ++ body).take header.packetLength.toNat) =
        singleFold (wordSum (blank (header.toVec ++ body))) := by
    rw [expected, hauth, if_neg (by decide), ← hdata, List.take_length]
  rw [hreads.tryFrom (by omega) hdata.ge (by omega), hexpected]

end Encoded

end OspfHeader

/-! ## Parsing an encoded Hello -/

namespace OspfHelloPacket

/-- The neighbour loop reads an encoded neighbour list back, in order. -/
theorem readNeighbors_append (before : List UInt8) (neighbors : List Ipv4Addr) :
    readNeighbors (before ++ neighbors.flatMap Ipv4Addr.octets) neighbors.length before.length
      = .ok neighbors := by
  induction neighbors generalizing before with
  | nil => rfl
  | cons neighbor neighbors ih =>
    have hoctets : neighbor.octets.length = 4 := length_beBytes 4 _
    have hslice : slice (ε := ProtocolError)
        (before ++ (neighbor :: neighbors).flatMap Ipv4Addr.octets)
        before.length (before.length + 4) = .ok neighbor.octets := by
      rw [slice_of_le (by omega) (by simp [hoctets]), List.flatMap_cons, List.take_length_add_append,
        List.drop_left, ← hoctets, List.take_left]
    have hrest := ih (before ++ neighbor.octets)
    rw [List.append_assoc, ← List.flatMap_cons, List.length_append, hoctets] at hrest
    rw [List.length_cons, readNeighbors, hslice, ok_bind, fromBeBytesU32_octets, ok_bind, hrest,
      ok_bind]
    rfl

theorem length_body (value : OspfHelloPacket) :
    value.body.length = 20 + 4 * value.neighbors.length := by
  have hlist : ∀ l : List Ipv4Addr, (l.flatMap Ipv4Addr.octets).length = 4 * l.length := by
    intro l
    induction l with
    | nil => rfl
    | cons a l ih => simp [ih, Ipv4Addr.octets]; ring
  simp [body, Ipv4Addr.octets, hlist]
  omega

/-- The Hello fields of an encoded packet of the stated length are read back. -/
theorem readFields_toVec (value : OspfHelloPacket)
    (hlen : value.header.packetLength.toNat = 44 + 4 * value.neighbors.length) :
    readFields (value.header.toVec ++ value.body) value.header = .ok value := by
  have hdata : (value.header.toVec ++ value.body).length = 44 + 4 * value.neighbors.length := by
    rw [List.length_append, OspfHeader.length_toVec, length_body]
    omega
  have hrounds : (value.header.packetLength.toNat - 44) / 4 = value.neighbors.length := by
    omega
  have hsplit : value.header.toVec ++ value.body =
      (value.header.toVec ++ (beBytes 4 value.networkMask.netmaskNumber.toNat ++
        beBytes 2 value.helloInterval.toNat ++ [value.options, value.routerPriority] ++
        beBytes 4 value.routerDeadInterval.toNat ++ value.designatedRouter.octets ++
        value.backupDesignatedRouter.octets)) ++ value.neighbors.flatMap Ipv4Addr.octets :=
    (List.append_assoc _ _ _).symm
  have hneighbors : readNeighbors (value.header.toVec ++ value.body) value.neighbors.length 44
      = .ok value.neighbors := by
    rw [hsplit]
    exact readNeighbors_append _ _
  rw [readNeighbors_eq _ (by omega), Except.ok.injEq] at hneighbors
  rw [readFields_eq (by omega) (by omega) (by omega), decoded, hrounds, hneighbors,
    @u32At_eq _ 24 value.networkMask.netmaskNumber rfl, @u16At_eq _ 28 value.helloInterval rfl,
    @u32At_eq _ 32 value.routerDeadInterval rfl, @u32At_eq _ 36 value.designatedRouter.number rfl,
    @u32At_eq _ 40 value.backupDesignatedRouter.number rfl, Ipv4Netmask.new_netmaskNumber]
  rfl

/-- **Parsing an encoded Hello** of the stated length: every field is read back, and the
outcome is the receiver's verdict on the checksum. -/
theorem tryFrom_toVec (value : OspfHelloPacket)
    (hauth : value.header.authenticationType = .null)
    (hnull : value.header.authenticationHeader = .null)
    (hlen : value.header.packetLength.toNat = 44 + 4 * value.neighbors.length) :
    tryFrom (value.header.toVec ++ value.body) =
      let expected := OspfHeader.singleFold
        (wordSum (OspfHeader.blank (value.header.toVec ++ value.body)))
      if value.header.checksum ≠ expected then
        fail (.invalidChecksum PROTOCOL expected value.header.checksum)
      else .ok value := by
  have hbody := length_body value
  have hheader := OspfHeader.tryFrom_toVec value.header value.body hauth hnull (by omega)
    ⟨5 + value.neighbors.length, by omega⟩
  dsimp only at hheader ⊢
  split_ifs at hheader ⊢ with hsum
  · rw [tryFrom, hheader]
    rfl
  · rw [tryFrom_eq_readFields hheader hauth (by omega) (by omega), readFields_toVec value hlen]

/-- A packet that is read back from its own encoding with every field unchanged. -/
def RoundTrips (value : OspfHelloPacket) : Prop :=
  ∃ bytes, value.toResult = .ok bytes ∧ tryFrom bytes = .ok value

end OspfHelloPacket

/-! ## The word sum of a built packet -/

theorem wordSum_beBytes_four_append (n : UInt32) (l : List UInt8) :
    wordSum (beBytes 4 n.toNat ++ l) = n.toNat / 65536 + n.toNat % 65536 + wordSum l := by
  have h := n.toNat_lt
  simp [beBytes, wordSum]
  omega

/-- The two 16-bit halves of an address, added. -/
def Ipv4Addr.halves (address : Ipv4Addr) : ℕ :=
  address.number.toNat / 65536 + address.number.toNat % 65536

theorem wordSum_octets_append (address : Ipv4Addr) (l : List UInt8) :
    wordSum (address.octets ++ l) = address.halves + wordSum l :=
  wordSum_beBytes_four_append address.number l

theorem wordSum_flatMap_octets (neighbors : List Ipv4Addr) :
    wordSum (neighbors.flatMap Ipv4Addr.octets) = (neighbors.map Ipv4Addr.halves).sum := by
  induction neighbors with
  | nil => rfl
  | cons neighbor neighbors ih =>
    rw [List.flatMap_cons, wordSum_octets_append, ih, List.map_cons, List.sum_cons]

namespace OspfHelloPacketBuilder

/-- The sum of the 16-bit words a builder's packet carries beside its checksum: the version and
type word, the packet length, and the builder's own fields. -/
def wordSum (builder : OspfHelloPacketBuilder) : ℕ :=
  0x0201 + (44 + 4 * builder.neighbors.length) + builder.routerId.halves +
    builder.areaId.halves + (⟨builder.networkMask.netmaskNumber⟩ : Ipv4Addr).halves +
    builder.helloInterval.toNat +
    (256 * builder.options.toNat + builder.routerPriority.toNat) +
    (⟨builder.routerDeadInterval⟩ : Ipv4Addr).halves + builder.designatedRouter.halves +
    builder.backupDesignatedRouter.halves + (builder.neighbors.map Ipv4Addr.halves).sum

/-- The packet with a given checksum; `build` takes the checksum of the one with zero. -/
def withChecksum (builder : OspfHelloPacketBuilder) (checksum : UInt16) : OspfHelloPacket :=
  builder.packet ((OspfHeaderBuilder.new .hello
    (UInt16.ofNat (44 + 4 * builder.neighbors.length))
    builder.routerId builder.areaId).withChecksum checksum).build

theorem toNat_packetLength {builder : OspfHelloPacketBuilder}
    (hcount : builder.neighbors.length ≤ 16372) (checksum : UInt16) :
    (builder.withChecksum checksum).header.packetLength.toNat
      = 44 + 4 * builder.neighbors.length := by
  show (UInt16.ofNat (44 + 4 * builder.neighbors.length)).toNat = _
  rw [UInt16.toNat_ofNat']
  omega

/-- The limit of `build` on the neighbours. -/
theorem neighborLimit_eq : (65536 - OSPF_V2_HEADER_LENGTH.toNat - 20) / 4 - 1 = 16372 := rfl

theorem build_of_lt (endian : Endian) {builder : OspfHelloPacketBuilder}
    (hmany : 16372 < builder.neighbors.length) : builder.build endian =
      fail (.unsupportedFieldValue PROTOCOL "Neighbor List Length" builder.neighbors.length) := by
  rw [build, neighborLimit_eq, if_pos hmany]

/-- The `u16` arithmetic of the packet length is exact below the limit. -/
theorem packetLength_eq {builder : OspfHelloPacketBuilder}
    (hcount : builder.neighbors.length ≤ 16372) :
    builder.packetLength = .ok (44 + 4 * builder.neighbors.length) := by
  have hfixed : OSPF_V2_HEADER_LENGTH.toNat + 20 = 44 := rfl
  rw [packetLength, hfixed, Nat.mod_eq_of_lt (by omega : builder.neighbors.length < 2 ^ 16),
    checked_of_lt (by norm_num), ok_bind, checked_of_lt (by omega), ok_bind,
    checked_of_lt (by omega)]

/-- Below the limit, `build` stores the checksum of the packet with checksum zero. -/
theorem build_of_le (endian : Endian) {builder : OspfHelloPacketBuilder}
    (hcount : builder.neighbors.length ≤ 16372) : builder.build endian =
      InternetChecksum.checksum endian ((builder.withChecksum 0).header.toVec ++
        (builder.withChecksum 0).body) >>= fun checksum => .ok (builder.withChecksum checksum) := by
  rw [build, neighborLimit_eq, if_neg (not_lt.mpr hcount), packetLength_eq hcount, ok_bind]
  rfl

/-- **What `build` returns**: a packet of at most 16372 neighbours, with the checksum of the packet
with checksum zero. -/
theorem build_eq_ok {endian : Endian} {builder : OspfHelloPacketBuilder}
    {value : OspfHelloPacket} (h : builder.build endian = .ok value) :
    builder.neighbors.length ≤ 16372 ∧
      ∃ checksum, value = builder.withChecksum checksum ∧
        InternetChecksum.checksum endian ((builder.withChecksum 0).header.toVec ++
          (builder.withChecksum 0).body) = .ok checksum := by
  by_cases hcount : builder.neighbors.length ≤ 16372
  · rw [build_of_le endian hcount] at h
    obtain ⟨checksum, hchecksum, h⟩ := bind_eq_ok.mp h
    cases h
    exact ⟨hcount, checksum, rfl, hchecksum⟩
  · rw [build_of_lt endian (not_le.mp hcount)] at h
    cases h

/-- The words of the packet `build` takes the checksum of. -/
theorem wordSum_withChecksum_zero {builder : OspfHelloPacketBuilder}
    (hcount : builder.neighbors.length ≤ 16372) :
    OnesComplement.wordSum ((builder.withChecksum 0).header.toVec ++
      (builder.withChecksum 0).body) = builder.wordSum := by
  have hlength := toNat_packetLength hcount 0
  -- the single bytes of the encoding make words in pairs
  have hpair : ∀ (a b : UInt8) (l : List UInt8),
      OnesComplement.wordSum ([a, b] ++ l)
        = 256 * a.toNat + b.toNat + OnesComplement.wordSum l := fun _ _ _ => rfl
  -- the authentication field adds nothing
  have hnull : ∀ l : List UInt8, OnesComplement.wordSum
      (beBytes 8 (OspfAuthenticationHeader.toU64 .null).toNat ++ l)
        = OnesComplement.wordSum l := by
    intro l
    rw [wordSum_append (by rw [length_beBytes]; decide),
      show OnesComplement.wordSum (beBytes 8 (OspfAuthenticationHeader.toU64 .null).toNat) = 0
        by decide, zero_add]
  simp only [OspfHeader.toVec, OspfHelloPacket.body, List.append_assoc, hpair,
    wordSum_beBytes_two_append, wordSum_octets_append]
  rw [hlength]
  simp only [withChecksum, packet, OspfHeaderBuilder.new, OspfHeaderBuilder.withChecksum,
    OspfHeaderBuilder.build, hnull, hpair, wordSum_beBytes_two_append,
    wordSum_beBytes_four_append, wordSum_octets_append, wordSum_flatMap_octets]
  rw [wordSum, Ipv4Addr.halves, Ipv4Addr.halves, Ipv4Addr.halves, Ipv4Addr.halves]
  simp [OspfVersion.toU8, OspfMessageType.toU8, OspfAuthenticationType.toU16, Ipv4Addr.halves]
  omega

/-- The word sum of a buildable packet has 32 bits. -/
theorem wordSum_lt {builder : OspfHelloPacketBuilder}
    (hcount : builder.neighbors.length ≤ 16372) : builder.wordSum < 2 ^ 32 := by
  have hle := wordSum_le ((builder.withChecksum 0).header.toVec ++ (builder.withChecksum 0).body)
  rw [wordSum_withChecksum_zero hcount, List.length_append, OspfHeader.length_toVec,
    OspfHelloPacket.length_body] at hle
  have hneighbors : (builder.withChecksum 0).neighbors.length = builder.neighbors.length := rfl
  rw [hneighbors] at hle
  omega

/-- A router without neighbours, on the backbone, with a given router id. -/
def quiet (routerId : Ipv4Addr) : OspfHelloPacketBuilder where
  routerId := routerId
  areaId := ⟨0⟩
  networkMask := Ipv4Netmask.new 0xFFFFFF00
  helloInterval := 10
  options := 2
  routerPriority := 1
  routerDeadInterval := 40
  designatedRouter := ⟨0⟩
  backupDesignatedRouter := ⟨0⟩
  neighbors := []

/-- **The Hello round trip.**  A built packet is read back from its encoding exactly when the
sum of its words fits 16 bits after its carry is added once. -/
theorem build_roundTrips_iff (endian : Endian) (builder : OspfHelloPacketBuilder)
    (value : OspfHelloPacket) (h : builder.build endian = .ok value) :
    value.RoundTrips ↔ builder.wordSum % 65536 + builder.wordSum / 65536 < 65536 := by
  obtain ⟨hcount, checksum, rfl, hchecksum⟩ := build_eq_ok h
  obtain ⟨v, hv, hcongr, rfl⟩ := InternetChecksum.checksum_eq_ok hchecksum
  rw [wordSum_withChecksum_zero hcount] at hcongr
  obtain ⟨sum, hsum⟩ : ∃ sum, builder.wordSum = sum := ⟨_, rfl⟩
  have hparse := OspfHelloPacket.tryFrom_toVec (builder.withChecksum (UInt16.ofNat (65535 - v)))
    rfl rfl (toNat_packetLength hcount _)
  have hblank : OspfHeader.blank
      ((builder.withChecksum (UInt16.ofNat (65535 - v))).header.toVec ++
        (builder.withChecksum (UInt16.ofNat (65535 - v))).body)
      = (builder.withChecksum 0).header.toVec ++ (builder.withChecksum 0).body :=
    OspfHeader.blank_toVec _ _ rfl
  rw [hblank, wordSum_withChecksum_zero hcount] at hparse
  -- the parser's verdict is a comparison of two complements of 16-bit numbers
  have hverdict : UInt16.ofNat (65535 - v) = OspfHeader.singleFold sum ↔
      (sum + sum / 65536) % 65536 = v := by
    rw [OspfHeader.singleFold, ← UInt16.toNat_inj, UInt16.toNat_ofNat', UInt16.toNat_ofNat']
    omega
  rw [hsum] at hcongr hparse ⊢
  have hlt := wordSum_lt hcount
  rw [hsum] at hlt
  have hstored : (builder.withChecksum (UInt16.ofNat (65535 - v))).header.checksum
      = UInt16.ofNat (65535 - v) := rfl
  rw [← foldOnce_eq_iff hlt hv hcongr, ← hverdict]
  dsimp only at hparse
  rw [hstored] at hparse
  constructor
  · rintro ⟨bytes, hbytes, hread⟩
    cases hbytes
    by_contra hne
    rw [hparse, if_pos hne] at hread
    cases hread
  · intro heq
    refine ⟨_, rfl, ?_⟩
    rw [hparse, if_neg (not_not.mpr heq)]

theorem quiet_roundTrips_iff :
    ((quiet ⟨0x0A000001⟩).withChecksum 0xF29D).RoundTrips ↔
      (quiet ⟨0x0A000001⟩).wordSum % 65536 + (quiet ⟨0x0A000001⟩).wordSum / 65536 < 65536 :=
  build_roundTrips_iff .little _ _ (by decide +kernel)

/-- The round trip of a router whose words carry twice over is refused: the sum is `0x2FFFE`. -/
theorem not_build_roundTrips :
    ¬ ∀ (endian : Endian) (builder : OspfHelloPacketBuilder) (value : OspfHelloPacket),
      builder.build endian = .ok value → value.RoundTrips := by
  intro h
  have hbuild : (quiet ⟨0xC0A83BF7⟩).build .little
      = .ok ((quiet ⟨0xC0A83BF7⟩).withChecksum 0xFFFE) := by
    decide +kernel
  obtain ⟨bytes, hbytes, hread⟩ := h _ _ _ hbuild
  cases hbytes
  revert hread
  decide +kernel

end OspfHelloPacketBuilder

end RustyRouter
