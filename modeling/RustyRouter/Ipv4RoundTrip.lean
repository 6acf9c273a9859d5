/-
# Decoding and encoding IPv4 headers

A slice with the version, the header length and the room that `IpV4Header::try_from`
asks for is decoded field by field (`tryFrom_eq_ok`).  The encoder does not scale the
fragment offset back, so a header of twenty bytes is encoded to the bytes it was read
from exactly if its offset is zero (`toVec_eq_take_iff`); and it writes a header
length of five, so a built header is read back exactly if no other length is forced
(`build_readBack_iff`).
-/
import RustyRouter.Ipv4Header

namespace RustyRouter

open Octets Checked

/-! ## Fields of less than a byte -/

/-- Masking the top `k` bits of a number and shifting them down divides the number. -/
theorem mask_shiftRight {n i k : ℕ} (h : n < 2 ^ (i + k)) :
    (n &&& (2 ^ k - 1) <<< i) >>> i = n / 2 ^ i := by
  rw [Nat.shiftRight_and_distrib, Nat.shiftLeft_shiftRight, Nat.and_two_pow_sub_one_eq_mod,
    Nat.shiftRight_eq_div_pow, Nat.mod_eq_of_lt]
  rw [pow_add] at h
  exact Nat.div_lt_of_lt_mul h

/-- The upper half of the first byte. -/
theorem toNat_versionBits (n : UInt8) : ((n &&& 0xF0) >>> 4).toNat = n.toNat / 16 := by
  rw [UInt8.toNat_shiftRight, UInt8.toNat_and]
  exact mask_shiftRight (k := 4) n.toNat_lt

/-- The upper three bits of the seventh byte. -/
theorem toNat_flagBits (n : UInt8) : ((n &&& 0xE0) >>> 5).toNat = n.toNat / 32 := by
  rw [UInt8.toNat_shiftRight, UInt8.toNat_and]
  exact mask_shiftRight (k := 3) n.toNat_lt

/-- The lower half of the first byte. -/
theorem toNat_lengthBits (n : UInt8) : (n &&& 0x0F).toNat = n.toNat % 16 := by
  rw [UInt8.toNat_and]
  exact Nat.and_two_pow_sub_one_eq_mod n.toNat 4

/-- The lower 13 bits of the fourth word. -/
theorem toNat_offsetBits (n : UInt16) : (n &&& 0x1FFF).toNat = n.toNat % 8192 := by
  rw [UInt16.toNat_and]
  exact Nat.and_two_pow_sub_one_eq_mod n.toNat 13

/-- Flags take three bits. -/
theorem Ipv4Flags.toNat_lt (flags : Ipv4Flags) : flags.toU8.toNat < 8 := by
  have hvalid := flags.valid
  have hdiv := mask_shiftRight (i := 3) (k := 5) flags.flags.toNat_lt
  rw [← UInt8.toNat_inj, UInt8.toNat_and] at hvalid
  have hzero : flags.flags.toNat &&& (2 ^ 5 - 1) <<< 3 = 0 := hvalid
  rw [hzero, Nat.zero_shiftRight] at hdiv
  show flags.flags.toNat < 8
  omega

/-- The parser masks the flags so that no other bit is left to refuse. -/
theorem flagBits_valid (n : UInt8) : (n &&& 0xE0) >>> 5 &&& 0xF8 = 0 := by
  have hlt : ((n &&& 0xE0) >>> 5).toNat < 8 := by
    have hn := n.toNat_lt
    rw [toNat_flagBits]
    omega
  obtain ⟨flags, hflags⟩ : ∃ flags, (n &&& 0xE0) >>> 5 = flags := ⟨_, rfl⟩
  rw [hflags] at hlt ⊢
  rw [← UInt8.toNat_inj, UInt8.toNat_and]
  show flags.toNat &&& 0xF8 = 0
  obtain ⟨bits, hbits⟩ : ∃ bits, flags.toNat = bits := ⟨_, rfl⟩
  rw [hbits] at hlt ⊢
  interval_cases bits <;> rfl

/-- The flags of a first byte of the flag word. -/
def Ipv4Flags.ofByte (n : UInt8) : Ipv4Flags := ⟨(n &&& 0xE0) >>> 5, flagBits_valid n⟩

/-- Every seventh byte has flags. -/
theorem Ipv4Flags.tryFrom_ofByte (n : UInt8) :
    tryFrom ((n &&& 0xE0) >>> 5) = .ok (ofByte n) :=
  dif_neg (not_not.mpr (flagBits_valid n))

namespace IpV4Header

/-! ## What is decoded -/

/-- A slice that the parser accepts. -/
structure WellFormed (data : List UInt8) : Prop where
  length_ge : 20 ≤ data.length
  version : (data.getD 0 0).toNat / 16 = 4
  headerLength_ge : 5 ≤ (data.getD 0 0).toNat % 16
  headerLength_le : (data.getD 0 0).toNat % 16 * 4 ≤ data.length

/-- The header that a slice is decoded to. -/
def decoded (data : List UInt8) : IpV4Header where
  version := .ipv4
  internetHeaderLength := data.getD 0 0 &&& 0x0F
  typeOfService := data.getD 1 0
  totalLength := u16At data 2
  identification := u16At data 4
  flags := .ofByte (data.getD 6 0)
  fragmentOffset := UInt16.ofNat ((u16At data 6 &&& 0x1FFF).toNat * 8)
  timeToLive := data.getD 8 0
  protocol := data.getD 9 0
  headerChecksum := u16At data 10
  sourceAddress := ⟨u32At data 12⟩
  destinationAddress := ⟨u32At data 16⟩

/-- Twenty bytes are read field by field. -/
theorem readFields_eq {data : List UInt8} (h : 20 ≤ data.length) :
    readFields data (data.getD 0 0 &&& 0x0F) = .ok (decoded data) := by
  have h2 : slice (ε := ProtocolError) data 2 4 = _ := slice_u16At (by omega)
  have h4 : slice (ε := ProtocolError) data 4 6 = _ := slice_u16At (by omega)
  have h6 : slice (ε := ProtocolError) data 6 8 = _ := slice_u16At (by omega)
  have h10 : slice (ε := ProtocolError) data 10 12 = _ := slice_u16At (by omega)
  have h12 : slice (ε := ProtocolError) data 12 16 = _ := slice_u32At (by omega)
  have h16 : slice (ε := ProtocolError) data 16 20 = _ := slice_u32At h
  have hoffset : (u16At data 6 &&& 0x1FFF).toNat * 8 < 2 ^ 16 := by
    rw [toNat_offsetBits]
    omega
  rw [readFields, byteAt_getD (by omega) 0, ok_bind, h2, ok_bind, fromBeBytesU16_beBytes, ok_bind,
    h4, ok_bind, fromBeBytesU16_beBytes, ok_bind, h6, ok_bind, fromBeBytesU16_beBytes, ok_bind,
    checked_of_lt hoffset, ok_bind, byteAt_getD (by omega) 0, ok_bind, byteAt_getD (by omega) 0,
    ok_bind, byteAt_getD (by omega) 0, ok_bind, h10, ok_bind, fromBeBytesU16_beBytes, ok_bind,
    h12, ok_bind, fromBeBytesU32_beBytes, ok_bind, h16, ok_bind, fromBeBytesU32_beBytes, ok_bind,
    Ipv4Flags.tryFrom_ofByte, ok_bind]
  rfl

/-- **What is accepted**, and as what header. -/
theorem tryFrom_eq_ok {data : List UInt8} {header : IpV4Header} :
    tryFrom data = .ok header ↔ WellFormed data ∧ header = decoded data := by
  have hversion : (data.getD 0 0 &&& 0xF0) >>> 4 = 4 ↔ (data.getD 0 0).toNat / 16 = 4 := by
    rw [← UInt8.toNat_inj, toNat_versionBits]
    rfl
  have hlength := toNat_lengthBits (data.getD 0 0)
  constructor
  · intro h
    -- each check that is passed is a part of being well formed
    unfold tryFrom at h
    split_ifs at h with hshort
    · cases h
    rw [byteAt_getD (by omega) 0, ok_bind] at h
    dsimp only at h
    split_ifs at h with hfour
    · cases h
    obtain ⟨headerLength, hheader, h⟩ := bind_eq_ok.mp h
    obtain ⟨-, rfl⟩ := checked_eq_ok.mp hheader
    split_ifs at h with hmin hmax
    · cases h
    · cases h
    rw [readFields_eq (by omega)] at h
    cases h
    refine ⟨⟨by omega, hversion.mp (not_not.mp hfour), by omega, by omega⟩, rfl⟩
  · rintro ⟨hwf, rfl⟩
    have hle := hwf.length_ge
    have hge := hwf.headerLength_ge
    have hfits := hwf.headerLength_le
    rw [tryFrom, if_neg (by omega), byteAt_getD (by omega) 0, ok_bind]
    dsimp only
    rw [if_neg (not_not.mpr (hversion.mpr hwf.version)), checked_of_lt (by omega), ok_bind,
      if_neg (by omega), if_neg (by omega), readFields_eq hle]

/-! ## Re-encoding a decoded header -/

/-- The encoder puts the flags above the offset. -/
theorem toNat_flagsWithFragmentOffset (header : IpV4Header) :
    header.flagsWithFragmentOffset.toNat =
      header.fragmentOffset.toNat ||| header.flags.toU8.toNat * 8192 := by
  have hlt := header.flags.toNat_lt
  rw [flagsWithFragmentOffset, UInt16.toNat_or, UInt16.toNat_shiftLeft, UInt8.toNat_toUInt16]
  show _ ||| header.flags.toU8.toNat <<< 13 % 65536 = _
  rw [Nat.shiftLeft_eq, Nat.mod_eq_of_lt (by omega)]

/-- Only the offset zero is the same in bytes and in units of eight. -/
theorem eq_zero_of_mul_eight_mod {n : ℕ} (h : n * 8 % 8192 = n) : n = 0 := by
  have hlt : n < 8192 := h ▸ Nat.mod_lt _ (by norm_num)
  omega

/-- The word of the flags and the offset is encoded as it was decoded if the offset is zero. -/
theorem flagsWithFragmentOffset_decoded {data : List UInt8} (h : 20 ≤ data.length) :
    (decoded data).flagsWithFragmentOffset = u16At data 6 ↔ (u16At data 6).toNat % 8192 = 0 := by
  have hword := @toNat_u16At data 6 (by omega)
  have hlt := (data.getD (6 + 1) 0).toNat_lt
  have hflags : (decoded data).flags.toU8.toNat = (u16At data 6).toNat / 8192 := by
    show ((data.getD 6 0 &&& 0xE0) >>> 5).toNat = _
    rw [toNat_flagBits, hword]
    omega
  -- the parser multiplies the offset by eight, the encoder does not divide it again
  have hoffset : (decoded data).fragmentOffset.toNat = (u16At data 6).toNat % 8192 * 8 := by
    show (UInt16.ofNat ((u16At data 6 &&& 0x1FFF).toNat * 8)).toNat = _
    rw [toNat_offsetBits, UInt16.toNat_ofNat_of_lt']
    show _ < 65536
    omega
  rw [← UInt16.toNat_inj, toNat_flagsWithFragmentOffset, hflags, hoffset]
  obtain ⟨word, hnumber⟩ : ∃ word, (u16At data 6).toNat = word := ⟨_, rfl⟩
  rw [hnumber]
  constructor
  · intro heq
    have hlow := congrArg (· % 2 ^ 13) heq
    rw [Nat.or_mod_two_pow, Nat.mul_mod_left, Nat.or_zero] at hlow
    exact eq_zero_of_mul_eight_mod hlow
  · intro hzero
    rw [hzero, Nat.zero_mul, Nat.zero_or]
    omega

/-- The first twenty bytes of a slice, field by field. -/
theorem take_twenty {data : List UInt8} (h : 20 ≤ data.length) :
    data.take 20 = ([data.getD 0 0, data.getD 1 0] ++ beBytes 2 (u16At data 2).toNat ++
      beBytes 2 (u16At data 4).toNat) ++ (beBytes 2 (u16At data 6).toNat ++
      ([data.getD 8 0, data.getD 9 0] ++ beBytes 2 (u16At data 10).toNat ++
      beBytes 4 (u32At data 12).toNat ++ beBytes 4 (u32At data 16).toNat)) := by
  have hfirst : [data.getD 0 0, data.getD 1 0] = data.take 2 := by
    rw [← drop_take_two (by omega), List.drop_zero]
  have hmiddle : [data.getD 8 0, data.getD 9 0] = (data.take 10).drop 8 :=
    (drop_take_two (by omega)).symm
  rw [hfirst, hmiddle, beBytes_u16At (by omega), beBytes_u16At (by omega), beBytes_u16At (by omega),
    beBytes_u16At (by omega), beBytes_u32At (by omega), beBytes_u32At h]
  conv_lhs => rw [take_eq_append_drop_take data (show 16 ≤ 20 by norm_num),
    take_eq_append_drop_take data (show 12 ≤ 16 by norm_num),
    take_eq_append_drop_take data (show 10 ≤ 12 by norm_num),
    take_eq_append_drop_take data (show 8 ≤ 10 by norm_num),
    take_eq_append_drop_take data (show 6 ≤ 8 by norm_num),
    take_eq_append_drop_take data (show 4 ≤ 6 by norm_num),
    take_eq_append_drop_take data (show 2 ≤ 4 by norm_num)]
  simp only [List.append_assoc]

/-- **When re-encoding is right.**  A decoded header of twenty bytes is encoded to the bytes it was
read from, if and only if the fragment offset in them is zero. -/
theorem toVec_eq_take_iff {data : List UInt8} {header : IpV4Header}
    (h : tryFrom data = .ok header) (hlength : header.internetHeaderLength = 5) :
    header.toVec = data.take 20 ↔ (u16At data 6).toNat % 8192 = 0 := by
  obtain ⟨hwf, rfl⟩ := tryFrom_eq_ok.mp h
  have hfirst : IpVersion.ipv4.getValue <<< 4 ||| 20 / 4 = data.getD 0 0 := by
    have hlow := congrArg UInt8.toNat hlength
    rw [show (decoded data).internetHeaderLength = data.getD 0 0 &&& 0x0F from rfl,
      toNat_lengthBits] at hlow
    have hhigh := hwf.version
    rw [← UInt8.toNat_inj]
    show 69 = _
    have hfive : (data.getD 0 0).toNat % 16 = 5 := hlow
    omega
  have hencoded : (decoded data).toVec =
      ([data.getD 0 0, data.getD 1 0] ++ beBytes 2 (u16At data 2).toNat ++
      beBytes 2 (u16At data 4).toNat) ++ (beBytes 2 (decoded data).flagsWithFragmentOffset.toNat ++
      ([data.getD 8 0, data.getD 9 0] ++ beBytes 2 (u16At data 10).toNat ++
      beBytes 4 (u32At data 12).toNat ++ beBytes 4 (u32At data 16).toNat)) := by
    rw [← hfirst, toVec]
    simp only [List.append_assoc]
    rfl
  rw [hencoded, take_twenty hwf.length_ge, List.append_right_inj, List.append_left_inj,
    beBytes_two_injective, flagsWithFragmentOffset_decoded hwf.length_ge]

/-- A first fragment. -/
def unfragmented : List UInt8 :=
  [0x45, 12, 34, 56, 78, 90, 0x40, 0, 127, 89, 0x88, 0x8f, 127, 0, 0, 1, 8, 9, 10, 11]

/-- A header without an offset is encoded as it was. -/
theorem toVec_eq_take_iff_unfragmented :
    (decoded unfragmented).toVec = unfragmented.take 20 ↔
      (u16At unfragmented 6).toNat % 8192 = 0 :=
  toVec_eq_take_iff (by decide +kernel) rfl

/-- The header of the parser's own test, which has an offset. -/
def fragment : List UInt8 :=
  [0x45, 12, 34, 56, 78, 90, 0xD1, 98, 127, 89, 0x88, 0x8f, 127, 0, 0, 1, 8, 9, 10, 11]

/-- A header with an offset is encoded with another. -/
theorem not_toVec_eq_take :
    ¬ ∀ (data : List UInt8) (header : IpV4Header), tryFrom data = .ok header →
      header.internetHeaderLength = 5 → header.toVec = data.take 20 := by
  intro h
  have hencoded := h fragment (decoded fragment) (by decide +kernel) rfl
  revert hencoded
  decide +kernel

/-! ## Reading a built header back -/

/-- An encoded header without an offset is decoded, with a header length of five. -/
theorem tryFrom_toVec (header : IpV4Header) (hversion : header.version = .ipv4)
    (hoffset : header.fragmentOffset = 0) (rest : List UInt8) :
    tryFrom (header.toVec ++ rest) = .ok { header with internetHeaderLength := 5 } := by
  have hlt := header.flags.toNat_lt
  have hword : header.flagsWithFragmentOffset.toNat = header.flags.toU8.toNat * 8192 := by
    rw [toNat_flagsWithFragmentOffset, hoffset, UInt16.toNat_zero, Nat.zero_or]
  -- the encoder writes header length five, whatever the header says
  have hfirst : (header.toVec ++ rest).getD 0 0 = 0x45 := by
    show header.version.getValue <<< 4 ||| 20 / 4 = 0x45
    rw [hversion]
    rfl
  have hlen : 20 ≤ (header.toVec ++ rest).length := by
    rw [List.length_append, length_toVec]
    exact Nat.le_add_right 20 _
  -- with the offset zero the flags have the word for themselves
  have hflags : Ipv4Flags.ofByte ((header.toVec ++ rest).getD 6 0) = header.flags := by
    apply Ipv4Flags.ext
    rw [← UInt8.toNat_inj]
    show ((UInt8.ofNat (header.flagsWithFragmentOffset.toNat / 256 ^ 1) &&& 0xE0) >>> 5).toNat =
      header.flags.toU8.toNat
    rw [toNat_flagBits, hword, UInt8.toNat_ofNat']
    omega
  have hread : u16At (header.toVec ++ rest) 6 = header.flagsWithFragmentOffset := u16At_eq rfl
  rw [tryFrom_eq_ok]
  refine ⟨⟨hlen, ?_, ?_, ?_⟩, ?_⟩
  · rw [hfirst]
    rfl
  · rw [hfirst]
    decide
  · rw [hfirst]
    exact hlen
  · rw [decoded, hfirst, hflags, hread, u16At_eq (n := header.totalLength) rfl,
      u16At_eq (n := header.identification) rfl, u16At_eq (n := header.headerChecksum) rfl,
      u32At_eq (n := header.sourceAddress.number) rfl,
      u32At_eq (n := header.destinationAddress.number) rfl, toNat_offsetBits, hword,
      Nat.mul_mod_left, Nat.zero_mul]
    obtain ⟨version, _, _, _, _, _, offset, _, _, _, _, _⟩ := header
    subst hversion hoffset
    rfl

end IpV4Header

namespace IpV4HeaderBuilder

/-- A call that forces a value of the header. -/
inductive Force : Type where
  | internetHeaderLength (internetHeaderLength : Option UInt8)
  | identification (identification : Option UInt16)
  | headerChecksum (headerChecksum : Option UInt16)

namespace Force

/-- The builder after a call. -/
def apply (builder : IpV4HeaderBuilder) : Force → Parse IpV4HeaderBuilder
  | .internetHeaderLength forced => builder.forceInternetHeaderLength forced
  | .identification forced => .ok (builder.forceIdentification forced)
  | .headerChecksum forced => .ok (builder.forceHeaderChecksum forced)

/-- The header length in force after a call. -/
def lengthAfter (length : Option UInt8) : Force → Option UInt8
  | .internetHeaderLength forced => forced
  | _ => length

/-- A call changes the forced values only, and the header length as it says. -/
theorem apply_eq_ok {builder builder' : IpV4HeaderBuilder} {call : Force}
    (h : call.apply builder = .ok builder') :
    builder'.header = builder.header ∧
      builder'.internetHeaderLength = call.lengthAfter builder.internetHeaderLength := by
  cases call with
  | internetHeaderLength forced =>
    cases forced with
    | none =>
      cases h
      exact ⟨rfl, rfl⟩
    | some length =>
      unfold apply forceInternetHeaderLength at h
      dsimp only at h
      split_ifs at h with hlarge
      · cases h
      · cases h
        exact ⟨rfl, rfl⟩
  | identification =>
    cases h
    exact ⟨rfl, rfl⟩
  | headerChecksum =>
    cases h
    exact ⟨rfl, rfl⟩

/-- The header and its length after a run of calls. -/
theorem foldlM_apply_eq_ok {calls : List Force} {builder builder' : IpV4HeaderBuilder}
    (h : calls.foldlM apply builder = .ok builder') :
    builder'.header = builder.header ∧
      builder'.internetHeaderLength = calls.foldl lengthAfter builder.internetHeaderLength := by
  induction calls generalizing builder with
  | nil =>
    cases h
    exact ⟨rfl, rfl⟩
  | cons call calls ih =>
    rw [List.foldlM_cons] at h
    obtain ⟨next, hnext, h⟩ := bind_eq_ok.mp h
    obtain ⟨hheader, hlength⟩ := apply_eq_ok hnext
    obtain ⟨hheader', hlength'⟩ := ih h
    exact ⟨hheader'.trans hheader, by rw [hlength', hlength, List.foldl_cons]⟩

end Force

/-- What `build` returns. -/
theorem build_eq_ok {endian : Endian} {random : UInt16} {builder : IpV4HeaderBuilder}
    {payloadLength : ℕ} {header : IpV4Header}
    (h : builder.build endian random payloadLength = .ok header) :
    ∃ totalLength headerChecksum,
      header = { builder.unsummed random totalLength with headerChecksum } := by
  unfold build at h
  split_ifs at h with hlarge
  · cases h
  obtain ⟨totalLength, -, h⟩ := bind_eq_ok.mp h
  dsimp only at h
  cases hchecksum : builder.headerChecksum with
  | some headerChecksum =>
    rw [hchecksum] at h
    cases h
    exact ⟨totalLength, headerChecksum, rfl⟩
  | none =>
    rw [hchecksum] at h
    obtain ⟨headerChecksum, -, h⟩ := bind_eq_ok.mp h
    cases h
    exact ⟨totalLength, headerChecksum, rfl⟩

/-- The header length that a run of calls leaves forced. -/
def forcedLength (calls : List Force) : Option UInt8 := calls.foldl Force.lengthAfter none

/-- **When a built header is read back.**  A header that is built after a run of forcing calls is
decoded from its encoding with every field as it was, if and only if the calls leave no header
length but five forced. -/
theorem build_readBack_iff (endian : Endian) (random : UInt16)
    (sourceAddress destinationAddress : Ipv4Addr) (protocol : UInt8) (calls : List Force)
    (payloadLength : ℕ) {builder : IpV4HeaderBuilder} {header : IpV4Header}
    (hcalls : calls.foldlM Force.apply (new sourceAddress destinationAddress protocol) =
      .ok builder) (h : builder.build endian random payloadLength = .ok header) :
    IpV4Header.tryFrom header.toVec = .ok header ↔
      forcedLength calls = none ∨ forcedLength calls = some 5 := by
  obtain ⟨hheader, hlength⟩ := Force.foldlM_apply_eq_ok hcalls
  obtain ⟨totalLength, headerChecksum, rfl⟩ := build_eq_ok h
  have hread := IpV4Header.tryFrom_toVec
    { builder.unsummed random totalLength with headerChecksum }
    (congrArg IpV4Header.version hheader) (congrArg IpV4Header.fragmentOffset hheader) []
  rw [List.append_nil] at hread
  have hforced : builder.internetHeaderLength = forcedLength calls := hlength
  have hfive : forcedLength calls = none ∨ forcedLength calls = some 5 ↔
      5 = (forcedLength calls).getD 5 := by
    cases forcedLength calls <;> simp [eq_comm]
  rw [hread, Except.ok.injEq, IpV4Header.mk.injEq, hfive, ← hforced]
  simp [unsummed]

/-- The header of an OSPF packet of 44 bytes. -/
def ospfHeader : IpV4Header :=
  { (new ⟨0x0A000001⟩ ⟨0x0A000002⟩ 89).unsummed 7 64 with headerChecksum := 0x265C }

/-- A header length that is forced and released again. -/
theorem build_readBack_iff_ospfHeader :
    IpV4Header.tryFrom ospfHeader.toVec = .ok ospfHeader ↔
      forcedLength [.internetHeaderLength (some 6), .internetHeaderLength none] = none ∨
        forcedLength [.internetHeaderLength (some 6), .internetHeaderLength none] = some 5 :=
  build_readBack_iff .little 7 ⟨0x0A000001⟩ ⟨0x0A000002⟩ 89
    [.internetHeaderLength (some 6), .internetHeaderLength none] 44 rfl (by decide +kernel)

/-- A header that is built with a header length of six is read back with one of five. -/
theorem not_build_readBack :
    ¬ ∀ (endian : Endian) (random : UInt16) (sourceAddress destinationAddress : Ipv4Addr)
      (protocol : UInt8) (calls : List Force) (payloadLength : ℕ) (builder : IpV4HeaderBuilder)
      (header : IpV4Header),
      calls.foldlM Force.apply (new sourceAddress destinationAddress protocol) = .ok builder →
      builder.build endian random payloadLength = .ok header →
      IpV4Header.tryFrom header.toVec = .ok header := by
  intro h
  have hread := h .little 7 ⟨0x0A000001⟩ ⟨0x0A000002⟩ 89
    [.internetHeaderLength (some 6), .headerChecksum (some 0)] 44
    { new ⟨0x0A000001⟩ ⟨0x0A000002⟩ 89 with
      internetHeaderLength := some 6, headerChecksum := some 0 }
    { ospfHeader with internetHeaderLength := 6, headerChecksum := 0 } rfl rfl
  revert hread
  decide +kernel

end IpV4HeaderBuilder

end RustyRouter
