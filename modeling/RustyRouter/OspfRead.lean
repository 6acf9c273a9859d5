/-
# What `OspfHeader::try_from` accepts

A header is read off a slice when the slice starts with the sixteen bytes that the
header encodes to, and its authentication header is made from the eight bytes that
follow (`Reads`).  A slice is accepted exactly when a header is read off it, the
packet length fits the slice and the checksum is the expected one
(`tryFrom_eq_ok`); otherwise the packet is refused with an error (`tryFrom_answers`).
-/
import RustyRouter.OspfChecksum

namespace RustyRouter

open Octets Checked OnesComplement

/-! ## The enumerations -/

/-- A version is read exactly from its own number. -/
theorem OspfVersion.tryFrom_eq_ok {n : UInt8} {version : OspfVersion} :
    tryFrom n = .ok version ↔ version.toU8 = n := by
  constructor
  · intro h
    unfold tryFrom at h
    split_ifs at h with hn
    · cases h
      exact hn.symm
    · cases h
  · rintro rfl
    exact tryFrom_toU8 version

/-- A message type is read exactly from its own number. -/
theorem OspfMessageType.tryFrom_eq_ok {n : UInt8} {messageType : OspfMessageType} :
    tryFrom n = .ok messageType ↔ messageType.toU8 = n := by
  constructor
  · intro h
    unfold tryFrom at h
    split_ifs at h <;> cases h <;> exact Eq.symm ‹_›
  · rintro rfl
    exact tryFrom_toU8 messageType

/-- An authentication type is read exactly from its own number. -/
theorem OspfAuthenticationType.tryFrom_eq_ok {n : UInt16}
    {authenticationType : OspfAuthenticationType} :
    tryFrom n = .ok authenticationType ↔ authenticationType.toU16 = n := by
  constructor
  · intro h
    unfold tryFrom at h
    split_ifs at h <;> cases h <;> exact Eq.symm ‹_›
  · rintro rfl
    exact tryFrom_toU16 authenticationType

/-- Reading a version does not panic. -/
theorem OspfVersion.tryFrom_answers (n : UInt8) : (tryFrom n).Answers := by
  unfold tryFrom
  split_ifs
  · exact failsOnly_ok _
  · exact failsOnly_fail trivial

/-- Reading a message type does not panic. -/
theorem OspfMessageType.tryFrom_answers (n : UInt8) : (tryFrom n).Answers := by
  unfold tryFrom
  split_ifs
  iterate 5 exact failsOnly_ok _
  exact failsOnly_fail trivial

/-- Reading an authentication type does not panic. -/
theorem OspfAuthenticationType.tryFrom_answers (n : UInt16) : (tryFrom n).Answers := by
  unfold tryFrom
  split_ifs
  iterate 3 exact failsOnly_ok _
  exact failsOnly_fail trivial

/-- The eight bytes of an authentication field are enough for each of its forms. -/
theorem OspfAuthenticationHeader.new_answers (authenticationType : OspfAuthenticationType)
    (header : FixedArray UInt8 8) : (new authenticationType header).Answers := by
  cases authenticationType with
  | null => exact failsOnly_ok _
  | simplePassword => exact failsOnly_ok _
  | cryptographicAuthentication =>
    have hlast : 8 ≤ header.toList.length := header.length_toList.ge
    refine (failsOnly_slice (by norm_num) hlast).bind fun sequence hsequence => ?_
    exact (fromBeBytesU32_answers _ _ _ (length_of_slice hsequence)).bind fun _ _ =>
      failsOnly_ok _

namespace OspfHeader

/-! ## Reading a header -/

/-- The bytes of an encoded header before its authentication field. -/
def fields (header : OspfHeader) : List UInt8 :=
  [header.version.toU8, header.messageType.toU8] ++ beBytes 2 header.packetLength.toNat ++
    header.routerId.octets ++ header.areaId.octets ++ beBytes 2 header.checksum.toNat ++
    beBytes 2 header.authenticationType.toU16.toNat

/-- The fields in front of the authentication field take 16 bytes. -/
@[simp] theorem length_fields (header : OspfHeader) : header.fields.length = 16 := by
  simp [fields, Ipv4Addr.octets]

/-- A header is encoded to its fields and its authentication field. -/
theorem toVec_eq (header : OspfHeader) :
    header.toVec = header.fields ++ beBytes 8 header.authenticationHeader.toU64.toNat := rfl

/-- A header that is read off a slice. -/
structure Reads (data : List UInt8) (header : OspfHeader) : Prop where
  fields : data.take 16 = header.fields
  authentication : ∃ authentication : FixedArray UInt8 8,
    (data.take 24).drop 16 = authentication.toList ∧
      OspfAuthenticationHeader.new header.authenticationType authentication =
        .ok header.authenticationHeader

/-- The checksum that the receiver expects of a packet. -/
def expected (authenticationType : OspfAuthenticationType) (packet : List UInt8) : UInt16 :=
  if authenticationType = .cryptographicAuthentication then 0
  else singleFold (wordSum (blank packet))

/-- On a packet of a length that the header can state, no addition of the checksum loop overflows.
-/
theorem expectedChecksum_eq_expected (authenticationType : OspfAuthenticationType)
    {packet : List UInt8} (h : packet.length ≤ 65535) :
    expectedChecksum authenticationType packet = .ok (expected authenticationType packet) := by
  by_cases hcrypto : authenticationType = .cryptographicAuthentication
  · rw [hcrypto]
    rfl
  · rw [expectedChecksum_eq hcrypto packet h, expected, if_neg hcrypto]

/-- A slice that is accepted as a packet with a header. -/
structure Accepts (data : List UInt8) (header : OspfHeader) : Prop extends Reads data header where
  length_ge : 24 ≤ header.packetLength.toNat
  length_le : header.packetLength.toNat ≤ data.length
  aligned : header.packetLength.toNat % 4 = 0
  checksum : header.checksum =
    expected header.authenticationType (data.take header.packetLength.toNat)

section Reading

variable {data : List UInt8} {header : OspfHeader}

/-- A stretch of the slice before its authentication field is a stretch of the encoded fields. -/
theorem Reads.drop_take (h : Reads data header) {first last : ℕ} (hlast : last ≤ 16) :
    (data.take last).drop first = (header.fields.take last).drop first := by
  rw [← h.fields, List.take_take, Nat.min_eq_left hlast]

/-- Data that a header is read from holds a whole header. -/
theorem Reads.length_ge (h : Reads data header) : 24 ≤ data.length := by
  obtain ⟨authentication, hauthentication, -⟩ := h.authentication
  have hlen := congrArg List.length hauthentication
  rw [authentication.length_toList, List.length_drop, List.length_take] at hlen
  omega

/-- A slice is read with whatever follows its first 24 bytes. -/
theorem Reads.congr {data' : List UInt8} (h : Reads data header)
    (htake : data'.take 24 = data.take 24) : Reads data' header := by
  refine ⟨?_, ?_⟩
  · rw [← h.fields, ← Nat.min_eq_left (show 16 ≤ 24 by norm_num), ← List.take_take, htake,
      List.take_take]
  · rw [htake]
    exact h.authentication

/-- A header is read off its encoding, whatever follows, if its authentication header is made from
the bytes that it encodes to. -/
theorem reads_toVec (header : OspfHeader) (rest : List UInt8)
    (hnew : OspfAuthenticationHeader.new header.authenticationType
      ⟨beBytes 8 header.authenticationHeader.toU64.toNat, length_beBytes 8 _⟩ =
        .ok header.authenticationHeader) : Reads (header.toVec ++ rest) header := by
  refine ⟨?_, _, ?_, hnew⟩
  · rw [toVec_eq, List.append_assoc, List.take_left' header.length_fields]
  · rw [List.take_left' header.length_toVec, toVec_eq, List.drop_left' header.length_fields]

/-- The parser cuts the same bytes out of the data as out of the encoded fields. -/
theorem Reads.slice (h : Reads data header) {first last : ℕ} (hfirst : first ≤ last)
    (hlast : last ≤ 16) :
    slice (ε := ProtocolError) data first last = .ok ((header.fields.take last).drop first) := by
  rw [slice_of_le hfirst (hlast.trans (le_trans (by norm_num) h.length_ge)), h.drop_take hlast]

/-- Up to the authentication field the data is the encoded fields. -/
theorem Reads.getElem? (h : Reads data header) {i : ℕ} (hi : i < 16) :
    data[i]? = header.fields[i]? := by
  rw [← h.fields, List.getElem?_take_of_lt hi]

/-- The first sixteen bytes of a slice, field by field. -/
theorem take_sixteen {first second : UInt8} (hfirst : data[0]? = some first)
    (hsecond : data[1]? = some second) :
    data.take 16 = [first, second] ++ (data.take 4).drop 2 ++ (data.take 8).drop 4 ++
      (data.take 12).drop 8 ++ (data.take 14).drop 12 ++ (data.take 16).drop 14 := by
  have htwo : data.take 2 = [first, second] := by
    rw [List.take_add_one, List.take_one, List.head?_eq_getElem?, hfirst, hsecond]
    rfl
  rw [← htwo, ← take_eq_append_drop_take data (show 2 ≤ 4 by norm_num),
    ← take_eq_append_drop_take data (show 4 ≤ 8 by norm_num),
    ← take_eq_append_drop_take data (show 8 ≤ 12 by norm_num),
    ← take_eq_append_drop_take data (show 12 ≤ 14 by norm_num),
    ← take_eq_append_drop_take data (show 14 ≤ 16 by norm_num)]

/-- What the field reader returns is read off the packet. -/
theorem reads_of_readFields {authenticationType : OspfAuthenticationType}
    {packetLength checksum : UInt16}
    (hlength : (data.take 4).drop 2 = beBytes 2 packetLength.toNat)
    (hchecksum : (data.take 14).drop 12 = beBytes 2 checksum.toNat)
    (htype : (data.take 16).drop 14 = beBytes 2 authenticationType.toU16.toNat)
    (h : readFields data authenticationType packetLength checksum = .ok header) :
    Reads data header ∧ header.packetLength = packetLength ∧ header.checksum = checksum ∧
      header.authenticationType = authenticationType := by
  unfold readFields at h
  obtain ⟨first, hfirst, h⟩ := bind_eq_ok.mp h
  obtain ⟨version, hversion, h⟩ := bind_eq_ok.mp h
  obtain ⟨second, hsecond, h⟩ := bind_eq_ok.mp h
  obtain ⟨messageType, hmessageType, h⟩ := bind_eq_ok.mp h
  obtain ⟨bytes4, hbytes4, h⟩ := bind_eq_ok.mp h
  obtain ⟨routerId, hrouterId, h⟩ := bind_eq_ok.mp h
  obtain ⟨bytes8, hbytes8, h⟩ := bind_eq_ok.mp h
  obtain ⟨areaId, hareaId, h⟩ := bind_eq_ok.mp h
  obtain ⟨bytes16, hbytes16, h⟩ := bind_eq_ok.mp h
  obtain ⟨authentication, hauthentication, h⟩ := bind_eq_ok.mp h
  obtain ⟨authenticationHeader, hheader, h⟩ := bind_eq_ok.mp h
  cases h
  rw [byteAt_eq_ok] at hfirst hsecond
  rw [OspfVersion.tryFrom_eq_ok] at hversion
  rw [OspfMessageType.tryFrom_eq_ok] at hmessageType
  rw [slice_eq_ok] at hbytes4 hbytes8 hbytes16
  rw [fromBeBytesU32_eq_ok] at hrouterId hareaId
  rw [toArray_eq_ok] at hauthentication
  refine ⟨⟨?_, authentication, ?_, hheader⟩, rfl, rfl, rfl⟩
  · rw [take_sixteen hfirst hsecond, ← hversion, ← hmessageType, hlength, ← hbytes4.2,
      ← hbytes8.2, hchecksum, htype, hrouterId, hareaId]
    rfl
  · rw [hauthentication, hbytes16.2]

/-- Reading the fields gives the header that they encode. -/
theorem Reads.readFields (h : Reads data header) :
    readFields data header.authenticationType header.packetLength header.checksum = .ok header := by
  obtain ⟨authentication, hbytes, hnew⟩ := h.authentication
  have h0 : data[0]? = some header.version.toU8 := h.getElem? (by norm_num)
  have h1 : data[1]? = some header.messageType.toU8 := h.getElem? (by norm_num)
  have h4 : Checked.slice (ε := ProtocolError) data 4 8 = .ok header.routerId.octets :=
    h.slice (by norm_num) (by norm_num)
  have h8 : Checked.slice (ε := ProtocolError) data 8 12 = .ok header.areaId.octets :=
    h.slice (by norm_num) (by norm_num)
  have h16 : Checked.slice (ε := ProtocolError) data 16 24 = .ok authentication.toList := by
    rw [slice_of_le (by norm_num) h.length_ge, hbytes]
  rw [OspfHeader.readFields, byteAt_of_getElem? h0, ok_bind, OspfVersion.tryFrom_toU8, ok_bind,
    byteAt_of_getElem? h1, ok_bind, OspfMessageType.tryFrom_toU8, ok_bind, h4, ok_bind,
    fromBeBytesU32_octets, ok_bind, h8, ok_bind, fromBeBytesU32_octets, ok_bind, h16, ok_bind,
    toArray_eq_ok.mpr rfl, ok_bind, hnew]
  rfl

/-- What is accepted passes every check of the parser. -/
theorem accepts_of_tryFrom (h : tryFrom data = .ok header) : Accepts data header := by
  unfold tryFrom at h
  split_ifs at h with hshort
  · cases h
  obtain ⟨bytes, hbytes, h⟩ := bind_eq_ok.mp h
  obtain ⟨packetLength, hlength, h⟩ := bind_eq_ok.mp h
  split_ifs at h with hmin hmax haligned
  · cases h
  · cases h
  · cases h
  obtain ⟨packet, hpacket, h⟩ := bind_eq_ok.mp h
  obtain ⟨bytes', hbytes', h⟩ := bind_eq_ok.mp h
  obtain ⟨number, hnumber, h⟩ := bind_eq_ok.mp h
  obtain ⟨authenticationType, htype, h⟩ := bind_eq_ok.mp h
  obtain ⟨expected', hexpected, h⟩ := bind_eq_ok.mp h
  obtain ⟨bytes'', hbytes'', h⟩ := bind_eq_ok.mp h
  obtain ⟨checksum, hchecksum, h⟩ := bind_eq_ok.mp h
  split_ifs at h with hsum
  · cases h
  -- every check was passed: what each says of the bytes, as numbers
  rw [UInt16.lt_iff_toNat_lt, not_lt] at hmin
  rw [not_lt] at hmax
  rw [not_mod_four_ne_zero] at haligned
  rw [slice_eq_ok] at hbytes hpacket hbytes' hbytes''
  rw [fromBeBytesU16_eq_ok] at hlength hnumber hchecksum
  rw [OspfAuthenticationType.tryFrom_eq_ok] at htype
  obtain ⟨⟨-, hle⟩, rfl⟩ := hpacket
  have hmin' : 24 ≤ packetLength.toNat := hmin
  have hlt := packetLength.toNat_lt
  -- the fields are cut out of the packet, which is in front what the slice is
  have hfront : ∀ n ≤ 24, (data.take packetLength.toNat).take n = data.take n := by
    intro n hn
    rw [List.take_take, Nat.min_eq_left (hn.trans hmin')]
  rw [List.drop_zero] at *
  rw [expectedChecksum_eq_expected authenticationType (by rw [List.length_take]; omega),
    Except.ok.injEq] at hexpected
  obtain ⟨hreads, hL, hc, ht⟩ := reads_of_readFields
    (by rw [hfront 4 (by norm_num), ← hlength, hbytes.2]) (by rw [← hchecksum, hbytes''.2])
    (by rw [htype, ← hnumber, hbytes'.2]) h
  refine ⟨hreads.congr (hfront 24 le_rfl).symm, ?_, ?_, ?_, ?_⟩
  · rw [hL]
    exact hmin'
  · rw [hL]
    exact hmax
  · rw [hL]
    exact haligned
  · rw [hc, ht, hL, hexpected]
    exact not_not.mp hsum

/-- A slice that a header is read off, of the stated length, is accepted or refused for its
checksum. -/
theorem Reads.tryFrom (h : Reads data header) (hmin : 24 ≤ header.packetLength.toNat)
    (hmax : header.packetLength.toNat ≤ data.length)
    (haligned : header.packetLength.toNat % 4 = 0) :
    tryFrom data =
      let expected := expected header.authenticationType (data.take header.packetLength.toNat)
      if header.checksum ≠ expected then fail (.invalidChecksum PROTOCOL expected header.checksum)
      else .ok header := by
  have hlt := header.packetLength.toNat_lt
  have hmin' : ¬ header.packetLength < 24 := by
    rw [UInt16.lt_iff_toNat_lt, not_lt]
    exact hmin
  have haligned' : ¬ header.packetLength % 4 ≠ 0 := not_mod_four_ne_zero.mpr haligned
  have hpacket : Reads (data.take header.packetLength.toNat) header := by
    refine h.congr ?_
    rw [List.take_take, Nat.min_eq_left hmin]
  -- each number that the parser cuts out is the one the header has
  have h2 : Checked.slice (ε := ProtocolError) data 2 4 =
      .ok (beBytes 2 header.packetLength.toNat) := h.slice (by norm_num) (by norm_num)
  have h12 : Checked.slice (ε := ProtocolError) (data.take header.packetLength.toNat) 12 14 =
      .ok (beBytes 2 header.checksum.toNat) := hpacket.slice (by norm_num) (by norm_num)
  have h14 : Checked.slice (ε := ProtocolError) (data.take header.packetLength.toNat) 14 16 =
      .ok (beBytes 2 header.authenticationType.toU16.toNat) :=
    hpacket.slice (by norm_num) (by norm_num)
  have hlen : (data.take header.packetLength.toNat).length ≤ 65535 := by
    rw [List.length_take]
    omega
  -- the loop does not overflow on a packet of this length
  have hexpected := expectedChecksum_eq_expected header.authenticationType hlen
  rw [OspfHeader.tryFrom, if_neg (not_lt.mpr h.length_ge), h2, ok_bind, fromBeBytesU16_beBytes,
    ok_bind, if_neg hmin', if_neg (not_lt.mpr hmax), if_neg haligned',
    slice_of_le (Nat.zero_le _) hmax, ok_bind, List.drop_zero, h14, ok_bind,
    fromBeBytesU16_beBytes, ok_bind, OspfAuthenticationType.tryFrom_toU16, ok_bind, hexpected,
    ok_bind, h12, ok_bind, fromBeBytesU16_beBytes, ok_bind, hpacket.readFields]

/-- What passes every check is accepted. -/
theorem Accepts.tryFrom (h : Accepts data header) : tryFrom data = .ok header := by
  rw [h.toReads.tryFrom h.length_ge h.length_le h.aligned]
  exact if_neg (not_not.mpr h.checksum)

/-- **What is accepted**, and as what header. -/
theorem tryFrom_eq_ok : tryFrom data = .ok header ↔ Accepts data header :=
  ⟨accepts_of_tryFrom, Accepts.tryFrom⟩

end Reading

/-! ## Refusing a slice -/

/-- Reading the fields of 24 bytes or more does not panic. -/
theorem readFields_answers {data : List UInt8} (h : 24 ≤ data.length)
    (authenticationType : OspfAuthenticationType) (packetLength checksum : UInt16) :
    (readFields data authenticationType packetLength checksum).Answers := by
  unfold readFields
  refine (failsOnly_byteAt (by omega)).bind fun first _ => ?_
  refine (OspfVersion.tryFrom_answers first).bind fun _ _ => ?_
  refine (failsOnly_byteAt (by omega)).bind fun second _ => ?_
  refine (OspfMessageType.tryFrom_answers second).bind fun _ _ => ?_
  refine (failsOnly_slice (by norm_num) (by omega)).bind fun bytes4 h4 => ?_
  refine (fromBeBytesU32_answers _ _ _ (length_of_slice h4)).bind fun _ _ => ?_
  refine (failsOnly_slice (by norm_num) (by omega)).bind fun bytes8 h8 => ?_
  refine (fromBeBytesU32_answers _ _ _ (length_of_slice h8)).bind fun _ _ => ?_
  refine (failsOnly_slice (by norm_num) h).bind fun bytes16 h16 => ?_
  refine (failsOnly_toArray _ (length_of_slice h16)).bind fun authentication _ => ?_
  exact (OspfAuthenticationHeader.new_answers _ authentication).bind fun _ _ => failsOnly_ok _

/-- The header parser returns a header or refuses the packet. -/
theorem tryFrom_answers (data : List UInt8) : (tryFrom data).Answers := by
  unfold tryFrom
  split_ifs with hshort
  · exact failsOnly_fail trivial
  refine (failsOnly_slice (by norm_num) (by omega)).bind fun bytes2 h2 => ?_
  refine (fromBeBytesU16_answers _ _ _ (length_of_slice h2)).bind fun packetLength _ => ?_
  split_ifs with hmin hmax haligned
  · exact failsOnly_fail trivial
  · exact failsOnly_fail trivial
  · exact failsOnly_fail trivial
  -- from here on the packet is long enough for every field
  rw [UInt16.lt_iff_toNat_lt, not_lt] at hmin
  have hmin' : 24 ≤ packetLength.toNat := hmin
  have hlt := packetLength.toNat_lt
  refine (failsOnly_slice (Nat.zero_le _) (not_lt.mp hmax)).bind fun packet hpacket => ?_
  have hlen : packet.length = packetLength.toNat := length_of_slice hpacket
  refine (failsOnly_slice (by norm_num) (by omega)).bind fun bytes14 h14 => ?_
  refine (fromBeBytesU16_answers _ _ _ (length_of_slice h14)).bind fun number _ => ?_
  refine (OspfAuthenticationType.tryFrom_answers number).bind fun authenticationType _ => ?_
  rw [expectedChecksum_eq_expected authenticationType (by omega), ok_bind]
  refine (failsOnly_slice (by norm_num) (by omega)).bind fun bytes12 h12 => ?_
  refine (fromBeBytesU16_answers _ _ _ (length_of_slice h12)).bind fun checksum _ => ?_
  split_ifs
  · exact failsOnly_fail trivial
  · exact readFields_answers (by omega) _ _ _

/-- A slice that is not accepted is refused. -/
theorem tryFrom_eq_fail {data : List UInt8} (h : ∀ header, ¬ Accepts data header) :
    ∃ e, tryFrom data = fail e := by
  obtain ⟨e, -, he⟩ := (tryFrom_answers data).eq_fail fun header heq =>
    h header (tryFrom_eq_ok.mp heq)
  exact ⟨e, he⟩

end OspfHeader

end RustyRouter
