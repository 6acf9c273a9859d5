/-
# Accepted packets

Which slices `OspfHeader::try_from` accepts, compared with those that carry the
Internet checksum (`accepts_iff`).  The receiver folds its sum once only, so the two
differ where the sum carries twice; a packet with one damaged word is refused all
the same (`damaged_refused`).  An accepted header is read back from its encoding,
whatever the authentication (`tryFrom_reencoded`).
-/
import RustyRouter.OspfRead

namespace RustyRouter

open Octets Checked OnesComplement

/-- The numbers from 1 to 5 are message types. -/
theorem OspfMessageType.exists_toU8 {n : UInt8} (h : 1 ≤ n ∧ n ≤ 5) :
    ∃ messageType : OspfMessageType, messageType.toU8 = n := by
  have hcases : n = 1 ∨ n = 2 ∨ n = 3 ∨ n = 4 ∨ n = 5 := by
    obtain ⟨hlow, hhigh⟩ := h
    rw [UInt8.le_iff_toNat_le] at hlow hhigh
    simp only [← UInt8.toNat_inj]
    simp at hlow hhigh ⊢
    omega
  rcases hcases with rfl | rfl | rfl | rfl | rfl
  · exact ⟨.hello, rfl⟩
  · exact ⟨.databaseDescription, rfl⟩
  · exact ⟨.linkStateRequest, rfl⟩
  · exact ⟨.linkStateUpdate, rfl⟩
  · exact ⟨.linkStateAcknoledgement, rfl⟩

/-- A message type is a number from 1 to 5. -/
theorem OspfMessageType.toU8_bounds (messageType : OspfMessageType) :
    1 ≤ messageType.toU8 ∧ messageType.toU8 ≤ 5 := by
  cases messageType <;> decide

/-- Message types have different numbers. -/
theorem OspfMessageType.toU8_injective : Function.Injective toU8 := by
  intro a b h
  cases a <;> cases b <;> first | rfl | cases h

/-- The numbers up to 2 are authentication types. -/
theorem OspfAuthenticationType.exists_toU16 {n : UInt16} (h : n ≤ 2) :
    ∃ authenticationType : OspfAuthenticationType, authenticationType.toU16 = n := by
  have hcases : n = 0 ∨ n = 1 ∨ n = 2 := by
    rw [UInt16.le_iff_toNat_le] at h
    simp only [← UInt16.toNat_inj]
    simp at h ⊢
    omega
  rcases hcases with rfl | rfl | rfl
  · exact ⟨.null, rfl⟩
  · exact ⟨.simplePassword, rfl⟩
  · exact ⟨.cryptographicAuthentication, rfl⟩

/-- An authentication type is a number up to 2. -/
theorem OspfAuthenticationType.toU16_le (authenticationType : OspfAuthenticationType) :
    authenticationType.toU16 ≤ 2 := by
  cases authenticationType <;> decide

/-- Cryptographic authentication is number 2. -/
theorem OspfAuthenticationType.toU16_eq_two {authenticationType : OspfAuthenticationType} :
    authenticationType.toU16 = 2 ↔ authenticationType = .cryptographicAuthentication := by
  cases authenticationType <;> decide

/-- Authentication types have different numbers. -/
theorem OspfAuthenticationType.toU16_injective : Function.Injective toU16 := by
  intro a b h
  cases a <;> cases b <;> first | rfl | cases h

/-- Any eight bytes make an authentication header. -/
theorem OspfAuthenticationHeader.exists_new (authenticationType : OspfAuthenticationType)
    (header : FixedArray UInt8 8) :
    ∃ authenticationHeader, new authenticationType header = .ok authenticationHeader := by
  cases authenticationType with
  | null => exact ⟨_, rfl⟩
  | simplePassword => exact ⟨_, rfl⟩
  | cryptographicAuthentication =>
    have hlen : ((header.toList.take 8).drop 4).length = 4 := by
      rw [List.length_drop, List.length_take, header.length_toList]
      rfl
    rw [new, slice_of_le (by norm_num) header.length_toList.ge, ok_bind,
      fromBeBytesU32_of_length hlen]
    exact ⟨_, rfl⟩

namespace OspfHeader

/-! ## Well-formed slices -/

/-- A slice whose lengths, version, message type and authentication type are those of a packet. -/
structure WellFormed (data : List UInt8) : Prop where
  length_ge : 24 ≤ data.length
  packetLength_ge : 24 ≤ (u16At data 2).toNat
  packetLength_le : (u16At data 2).toNat ≤ data.length
  aligned : (u16At data 2).toNat % 4 = 0
  version : data[0]? = some 2
  messageType : ∃ messageType, data[1]? = some messageType ∧ 1 ≤ messageType ∧ messageType ≤ 5
  authenticationType : u16At data 14 ≤ 2

/-- The packet of a slice: what follows its packet length is left out. -/
def packet (data : List UInt8) : List UInt8 := data.take (u16At data 2).toNat

/-- A slice whose checksum is the Internet checksum, or zero for cryptographic authentication. -/
def ChecksAs (checksum : List UInt8 → UInt16) (data : List UInt8) : Prop :=
  u16At data 12 = if u16At data 14 = 2 then 0 else checksum (covered (packet data))

section WellFormed

variable {data : List UInt8} {header : OspfHeader}

/-- The packet length is the number at offset 2. -/
theorem Reads.u16At_packetLength (h : Reads data header) : u16At data 2 = header.packetLength :=
  u16At_eq (h.drop_take (by norm_num))

/-- The checksum is the number at offset 12. -/
theorem Reads.u16At_checksum (h : Reads data header) : u16At data 12 = header.checksum :=
  u16At_eq (h.drop_take (by norm_num))

/-- The authentication type is the number at offset 14. -/
theorem Reads.u16At_authenticationType (h : Reads data header) :
    u16At data 14 = header.authenticationType.toU16 :=
  u16At_eq (h.drop_take (by norm_num))

/-- A header is read off a well-formed slice. -/
theorem WellFormed.exists_reads (h : WellFormed data) : ∃ header, Reads data header := by
  obtain ⟨n, hn, hbounds⟩ := h.messageType
  obtain ⟨messageType, rfl⟩ := OspfMessageType.exists_toU8 hbounds
  obtain ⟨authenticationType, htype⟩ :=
    OspfAuthenticationType.exists_toU16 h.authenticationType
  have hlen := h.length_ge
  have hauthentication : ((data.take 24).drop 16).length = 8 := @length_drop_take data 16 8 hlen
  obtain ⟨authenticationHeader, hnew⟩ :=
    OspfAuthenticationHeader.exists_new authenticationType ⟨_, hauthentication⟩
  refine ⟨⟨.v2, messageType, u16At data 2, ⟨u32At data 4⟩, ⟨u32At data 8⟩, u16At data 12,
    authenticationType, authenticationHeader⟩, ?_, ⟨_, hauthentication⟩, rfl, hnew⟩
  rw [take_sixteen h.version hn, ← beBytes_u16At (by omega), ← beBytes_u32At (by omega),
    ← beBytes_u32At (by omega), ← beBytes_u16At (by omega), ← beBytes_u16At (by omega), ← htype]
  rfl

/-- The packet is as much of the data as its header says. -/
theorem Reads.packet_eq (h : Reads data header) :
    packet data = data.take header.packetLength.toNat := by
  rw [OspfHeader.packet, h.u16At_packetLength]

/-- A slice that a header is read off is well-formed if its packet length is. -/
theorem Reads.wellFormed (h : Reads data header) (hmin : 24 ≤ header.packetLength.toNat)
    (hmax : header.packetLength.toNat ≤ data.length)
    (haligned : header.packetLength.toNat % 4 = 0) : WellFormed data where
  length_ge := h.length_ge
  packetLength_ge := h.u16At_packetLength ▸ hmin
  packetLength_le := h.u16At_packetLength ▸ hmax
  aligned := h.u16At_packetLength ▸ haligned
  version := h.getElem? (by norm_num)
  messageType := ⟨header.messageType.toU8, h.getElem? (by norm_num), header.messageType.toU8_bounds⟩
  authenticationType := h.u16At_authenticationType ▸ header.authenticationType.toU16_le

/-- The checksum is the expected one. -/
theorem Reads.checksum_iff (h : Reads data header) (hwf : WellFormed data) :
    header.checksum = expected header.authenticationType (data.take header.packetLength.toNat) ↔
      ChecksAs (fun l => singleFold (wordSum l)) data := by
  have hlen : 24 ≤ (packet data).length := by
    rw [packet, List.length_take]
    exact le_min hwf.packetLength_ge hwf.length_ge
  rw [ChecksAs, h.u16At_checksum, h.u16At_authenticationType, ← h.packet_eq, expected,
    wordSum_blank hlen]
  simp only [OspfAuthenticationType.toU16_eq_two]

/-- The slices that are accepted. -/
theorem exists_tryFrom_iff : (∃ header, tryFrom data = .ok header) ↔
    WellFormed data ∧ ChecksAs (fun l => singleFold (wordSum l)) data := by
  simp only [tryFrom_eq_ok]
  constructor
  · rintro ⟨header, h⟩
    have hwf := h.toReads.wellFormed h.length_ge h.length_le h.aligned
    exact ⟨hwf, (h.toReads.checksum_iff hwf).mp h.checksum⟩
  · rintro ⟨hwf, hchecks⟩
    obtain ⟨header, h⟩ := hwf.exists_reads
    refine ⟨header, h, ?_, ?_, ?_, (h.checksum_iff hwf).mpr hchecks⟩
    · exact h.u16At_packetLength ▸ hwf.packetLength_ge
    · exact h.u16At_packetLength ▸ hwf.packetLength_le
    · exact h.u16At_packetLength ▸ hwf.aligned

end WellFormed

/-- **When acceptance is right.**  A slice is accepted exactly if it is well-formed and carries the
Internet checksum, if and only if it is not a packet whose sum carries twice and whose checksum is
the Internet checksum or one more. -/
theorem accepts_iff (data : List UInt8) :
    ((∃ header, tryFrom data = .ok header) ↔ WellFormed data ∧ ChecksAs onesChecksum data) ↔
      (WellFormed data → u16At data 14 ≠ 2 → CarriesTwice (wordSum (covered (packet data))) →
        u16At data 12 ≠ onesChecksum (covered (packet data)) ∧
          u16At data 12 ≠ onesChecksum (covered (packet data)) + 1) := by
  rw [exists_tryFrom_iff]
  by_cases hwf : WellFormed data
  · have hlen : (covered (packet data)).length ≤ 65535 := by
      have hlt := (u16At data 2).toNat_lt
      simp only [covered, packet, List.length_append, List.length_take, List.length_drop]
      omega
    have hfold := singleFold_wordSum hlen
    have hone : ∀ n : UInt16, n ≠ n + 1 := by
      intro n
      rw [ne_eq, ← UInt16.toNat_inj, UInt16.toNat_add, UInt16.toNat_one]
      have hlt := n.toNat_lt
      omega
    simp only [hwf, true_and, true_implies, ChecksAs]
    by_cases hcrypto : u16At data 14 = 2
    · simp [hcrypto]
    · rw [if_neg hcrypto, if_neg hcrypto, hfold]
      by_cases hcarries : CarriesTwice (wordSum (covered (packet data)))
      · rw [if_pos hcarries]
        -- the two checksums differ, so that both tests agree where both fail
        constructor
        · intro hiff _ _
          refine ⟨fun heq => ?_, fun heq => ?_⟩
          · exact hone _ (heq.symm.trans (hiff.mpr heq))
          · exact hone _ ((hiff.mp heq).symm.trans heq)
        · intro hcondition
          obtain ⟨hnot, hnot'⟩ := hcondition hcrypto hcarries
          exact iff_of_false hnot' hnot
      · rw [if_neg hcarries, UInt16.add_zero]
        exact iff_of_true Iff.rfl fun _ h => absurd h hcarries
  · exact iff_of_true (iff_of_false (fun h => hwf h.1) fun h => hwf h.1) fun h => absurd h hwf

/-- A link state request whose words sum to `0x1FFFF`, with its Internet checksum. -/
def carryingRequest : List UInt8 :=
  [2, 3, 0, 24, 0xFF, 0xFF, 0xFD, 0xE5, 0, 0, 0, 0, 0xFF, 0xFE, 0, 0, 0, 0, 0, 0, 0, 0, 0, 0]

/-- A packet whose sum carries twice is well formed all the same. -/
theorem wellFormed_carryingRequest : WellFormed carryingRequest where
  length_ge := by decide
  packetLength_ge := by decide
  packetLength_le := by decide
  aligned := by decide
  version := rfl
  messageType := ⟨3, rfl, by decide⟩
  authenticationType := by decide

/-- A packet whose sum carries twice is refused with its Internet checksum. -/
theorem not_accepts :
    ¬ ∀ data : List UInt8, (∃ header, tryFrom data = .ok header) ↔
      WellFormed data ∧ ChecksAs onesChecksum data := by
  intro h
  have hchecks : u16At carryingRequest 12 =
      if u16At carryingRequest 14 = 2 then 0
      else onesChecksum (covered (packet carryingRequest)) := by decide
  obtain ⟨header, haccepted⟩ := (h carryingRequest).mpr ⟨wellFormed_carryingRequest, hchecks⟩
  have hrefused : tryFrom carryingRequest = fail (.invalidChecksum PROTOCOL 0xFFFF 0xFFFE) := by
    decide +kernel
  rw [hrefused] at haccepted
  cases haccepted

/-! ## Damaged packets -/

/-- A slice that differs from another, in its first `n` bytes, in the word at an even place. -/
structure Damaged (n i : ℕ) (data data' : List UInt8) : Prop where
  length_eq : data'.length = data.length
  even : Even i
  last_le : i + 2 ≤ n
  same : ∀ j < n, j ≠ i → j ≠ i + 1 → data'[j]? = data[j]?
  word_ne : u16At data' i ≠ u16At data i

section Damaged

variable {n i : ℕ} {data data' : List UInt8} (h : Damaged n i data data')
include h

/-- Another word is as it was. -/
theorem Damaged.u16At_eq {j : ℕ} (hj : Even j) (hne : j ≠ i) (hlast : j + 2 ≤ n) :
    u16At data' j = u16At data j := by
  obtain ⟨k, hk⟩ := h.even
  obtain ⟨m, hm⟩ := hj
  exact u16At_congr (h.same j (by omega) hne (by omega))
    (h.same (j + 1) (by omega) (by omega) (by omega))

/-- Damage leaves the other bytes of the packet. -/
theorem Damaged.take_same (j : ℕ) (hi : j ≠ i) (hi' : j ≠ i + 1) :
    (data'.take n)[j]? = (data.take n)[j]? := by
  rw [List.getElem?_take, List.getElem?_take]
  split_ifs with hj
  · exact h.same j hj hi hi'
  · rfl

/-- Damage leaves the length of the packet. -/
theorem Damaged.length_take : (data'.take n).length = (data.take n).length := by
  rw [List.length_take, List.length_take, h.length_eq]

/-- Damage to the checksum changes no word that is summed. -/
theorem Damaged.blank_eq (hi : i = 12) : blank (data'.take n) = blank (data.take n) := by
  refine blank_congr h.length_take fun j hj => h.take_same j ?_ ?_
  · rintro rfl
    rw [hi] at hj
    cases hj
  · rintro rfl
    rw [hi] at hj
    cases hj

/-- Damage to a word that is summed changes the sum as it changes the word. -/
theorem Damaged.wordSum_blank (hn : n ≤ data.length) (hskip : skipped i = false)
    (hskip' : skipped (i + 1) = false) :
    wordSum (blank (data.take n)) + (u16At data' i).toNat =
      wordSum (blank (data'.take n)) + (u16At data i).toNat := by
  have hlast := h.last_le
  have hlen : (data.take n).length = n := by
    rw [List.length_take, Nat.min_eq_left hn]
  have hlen' : (data'.take n).length = n := h.length_take.trans hlen
  -- the damaged word is not one that is skipped
  have hword : ∀ l : List UInt8, u16At (blank (l.take n)) i = u16At l i := by
    intro l
    refine u16At_congr ?_ ?_
    · rw [getElem?_blank hskip, List.getElem?_take_of_lt (by omega)]
    · rw [getElem?_blank hskip', List.getElem?_take_of_lt (by omega)]
  -- every other byte is summed as it was
  have hsame : ∀ j, j ≠ i → j ≠ i + 1 → (blank (data.take n))[j]? = (blank (data'.take n))[j]? := by
    intro j hi hi'
    cases hj : skipped j with
    | false => rw [getElem?_blank hj, getElem?_blank hj, h.take_same j hi hi']
    | true =>
      unfold blank
      rw [List.getElem?_mapIdx, List.getElem?_mapIdx, h.take_same j hi hi']
  have hreplace := wordSum_replace (by rw [length_blank, length_blank, h.length_take]) h.even
    (by rw [length_blank]; omega) hsame
  rw [wordSum_drop_take (by rw [length_blank]; omega),
    wordSum_drop_take (by rw [length_blank]; omega), hword, hword] at hreplace
  exact hreplace

end Damaged

/-- Sums that differ after one fold have different checksums. -/
theorem singleFold_ne {s s' : ℕ} (h : (s + s / 65536) % 65536 ≠ (s' + s' / 65536) % 65536) :
    singleFold s ≠ singleFold s' := by
  intro heq
  rw [singleFold, singleFold, ← UInt16.toNat_inj, UInt16.toNat_ofNat', UInt16.toNat_ofNat'] at heq
  omega

/-- **One damaged word is noticed.**  A slice that differs from an accepted packet without
cryptographic authentication in one word is refused, unless the word is the packet length, the
authentication type or in the authentication field, or the words are the two zeros of
one's-complement arithmetic. -/
theorem damaged_refused {data data' : List UInt8} {header : OspfHeader}
    (haccepted : tryFrom data = .ok header)
    (hauth : header.authenticationType ≠ .cryptographicAuthentication) {i : ℕ}
    (h : Damaged header.packetLength.toNat i data data') (hlength : i ≠ 2) (htype : i ≠ 14)
    (hfield : ¬ (16 ≤ i ∧ i < 24))
    (hzeros : ¬ (u16At data i = 0x0000 ∧ u16At data' i = 0xFFFF))
    (hzeros' : ¬ (u16At data i = 0xFFFF ∧ u16At data' i = 0x0000)) :
    ∃ e, tryFrom data' = fail e := by
  refine tryFrom_eq_fail fun header' haccepts' => ?_
  have haccepts := tryFrom_eq_ok.mp haccepted
  have hmin := haccepts.length_ge
  -- neither the length nor the type is the damaged word
  have hL : header'.packetLength = header.packetLength := by
    rw [← haccepts'.u16At_packetLength, ← haccepts.u16At_packetLength]
    exact h.u16At_eq (by decide) hlength.symm (by omega)
  have ht : header'.authenticationType = header.authenticationType := by
    have hword := h.u16At_eq (by decide : Even 14) htype.symm (by omega)
    rw [haccepts'.u16At_authenticationType, haccepts.u16At_authenticationType] at hword
    exact OspfAuthenticationType.toU16_injective hword
  have hsum := haccepts.checksum
  have hsum' := haccepts'.checksum
  rw [expected, if_neg hauth] at hsum
  rw [ht, hL, expected, if_neg hauth] at hsum'
  -- either the stored checksum is damaged, or one of the words it sums
  by_cases hi : i = 12
  · rw [h.blank_eq hi, ← hsum, ← haccepts'.u16At_checksum, ← haccepts.u16At_checksum, ← hi] at hsum'
    exact h.word_ne hsum'
  · obtain ⟨k, hk⟩ := h.even
    have hskip : skipped i = false := by
      simp [skipped]
      omega
    have hskip' : skipped (i + 1) = false := by
      simp [skipped]
      omega
    have hsums := h.wordSum_blank haccepts.length_le hskip hskip'
    have hchecksum : header'.checksum = header.checksum := by
      rw [← haccepts'.u16At_checksum, ← haccepts.u16At_checksum]
      exact h.u16At_eq (by decide) (Ne.symm hi) (by omega)
    rw [hchecksum, hsum] at hsum'
    have hlt := (u16At data i).toNat_lt
    have hlt' := (u16At data' i).toNat_lt
    have hne := h.word_ne
    simp only [ne_eq, ← UInt16.toNat_inj] at hne hzeros hzeros'
    refine singleFold_ne (foldOnce_ne hsums ?_ ?_ ?_ ?_ ?_) hsum'
    · omega
    · omega
    · exact Ne.symm hne
    · exact hzeros
    · exact hzeros'

/-- A link state request with the addresses zero. -/
def quietRequest : List UInt8 :=
  [2, 3, 0, 24, 0, 0, 0, 0, 0, 0, 0, 0, 0xFD, 0xE4, 0, 0, 0, 0, 0, 0, 0, 0, 0, 0]

/-- The header of `quietRequest`. -/
def quietHeader : OspfHeader where
  version := .v2
  messageType := .linkStateRequest
  packetLength := 24
  routerId := ⟨0⟩
  areaId := ⟨0⟩
  checksum := 0xFDE4
  authenticationType := .null
  authenticationHeader := .null

/-- A request of zeros with one address byte changed. -/
theorem damaged_refused_quietRequest : ∃ e, tryFrom (quietRequest.set 5 1) = fail e := by
  have haccepted : tryFrom quietRequest = .ok quietHeader := by decide +kernel
  have hdamaged : Damaged 24 4 quietRequest (quietRequest.set 5 1) :=
    ⟨rfl, by decide, by decide, by decide, by decide⟩
  exact damaged_refused haccepted (by decide) hdamaged (by decide) (by decide) (by decide)
    (by decide) (by decide)

end OspfHeader

/-! ## Re-encoded packets -/

/-- An authentication header is made again from the eight bytes it encodes to. -/
theorem OspfAuthenticationHeader.new_beBytes_toU64 {authenticationType : OspfAuthenticationType}
    {bytes : FixedArray UInt8 8} {header : OspfAuthenticationHeader}
    (h : new authenticationType bytes = .ok header) :
    new authenticationType ⟨beBytes 8 header.toU64.toNat, length_beBytes 8 _⟩ = .ok header := by
  -- eight bytes fit 64 bits
  have hencoded : ∀ l : List UInt8, l.length = 8 →
      beBytes 8 (UInt64.ofNat (beNat l)).toNat = l := by
    intro l hl
    have hlt := beNat_lt l
    rw [hl] at hlt
    rw [UInt64.toNat_ofNat_of_lt' hlt, beBytes_beNat hl]
  cases authenticationType with
  | null =>
    cases h
    rfl
  | simplePassword =>
    cases h
    simp only [new, toU64, hencoded _ bytes.length_toList]
  | cryptographicAuthentication =>
    obtain ⟨bytes4, -, h⟩ := bind_eq_ok.mp h
    obtain ⟨sequence, -, h⟩ := bind_eq_ok.mp h
    cases h
    simp only [toU64]
    -- the two bytes in front of the key are encoded as zeros
    have hlen : ([0, 0, bytes.get 2, bytes.get 3] ++ beBytes 4 sequence.toNat).length = 8 := by
      rw [List.length_append, length_beBytes]
      rfl
    simp only [hencoded _ hlen]
    have hslice : slice (ε := ProtocolError)
        ([0, 0, bytes.get 2, bytes.get 3] ++ beBytes 4 sequence.toNat) 4 8 =
          .ok (beBytes 4 sequence.toNat) := slice_of_le (by norm_num) hlen.ge
    rw [new, hslice, ok_bind, fromBeBytesU32_beBytes]
    rfl

namespace OspfHeader

section Reencoded

variable {data : List UInt8} {header : OspfHeader}

/-- A header is read off its encoding, whatever follows. -/
theorem Reads.reencoded (h : Reads data header) (rest : List UInt8) :
    Reads (header.toVec ++ rest) header := by
  obtain ⟨authentication, -, hnew⟩ := h.authentication
  exact header.reads_toVec rest (OspfAuthenticationHeader.new_beBytes_toU64 hnew)

/-- Re-encoding a header changes bytes that the receiver skips only. -/
theorem Reads.getElem?_reencoded (h : Reads data header) {i : ℕ} (hi : skipped i = false) :
    (header.toVec ++ data.drop 24)[i]? = data[i]? := by
  have hplace : i < 16 ∨ 24 ≤ i := by
    simp [skipped] at hi
    omega
  rcases hplace with hlt | hle
  · rw [(h.reencoded _).getElem? hlt, h.getElem? hlt]
  · rw [List.getElem?_append_right (by rw [length_toVec]; exact hle), length_toVec,
      List.getElem?_drop, Nat.add_sub_cancel' hle]

/-- **An accepted header is read back from its encoding**, with every field as it was. -/
theorem tryFrom_reencoded (h : tryFrom data = .ok header) :
    header.toVec.length = 24 ∧ tryFrom (header.toVec ++ data.drop 24) = .ok header := by
  have haccepts := tryFrom_eq_ok.mp h
  have hlen : (header.toVec ++ data.drop 24).length = data.length := by
    rw [List.length_append, length_toVec, List.length_drop,
      Nat.add_sub_cancel' haccepts.toReads.length_ge]
  refine ⟨header.length_toVec, tryFrom_eq_ok.mpr ?_⟩
  refine ⟨haccepts.toReads.reencoded _, haccepts.length_ge, ?_, haccepts.aligned, ?_⟩
  · rw [hlen]
    exact haccepts.length_le
  · have hblank : blank ((header.toVec ++ data.drop 24).take header.packetLength.toNat) =
        blank (data.take header.packetLength.toNat) := by
      refine blank_congr (by rw [List.length_take, List.length_take, hlen]) fun i hi => ?_
      rw [List.getElem?_take, List.getElem?_take, haccepts.toReads.getElem?_reencoded hi]
    rw [expected, hblank]
    exact haccepts.checksum

/-- A link state request with cryptographic authentication: key 7, a digest of four bytes behind the
packet, and bytes in front of the key that are not read. -/
def signedRequest : List UInt8 :=
  [2, 3, 0, 24, 10, 0, 0, 1, 0, 0, 0, 0, 0, 0, 0, 2, 9, 9, 7, 4, 0, 0, 0x12, 0x34,
    0xDE, 0xAD, 0xBE, 0xEF]

/-- The header of `signedRequest`. -/
def signedHeader : OspfHeader where
  version := .v2
  messageType := .linkStateRequest
  packetLength := 24
  routerId := ⟨0x0A000001⟩
  areaId := ⟨0⟩
  checksum := 0
  authenticationType := .cryptographicAuthentication
  authenticationHeader := .cryptographicAuthentication 7 4 0x1234

/-- The bytes in front of the key come back as zeros, and the header is read as it was. -/
theorem tryFrom_reencoded_signedRequest : signedHeader.toVec.length = 24 ∧
    tryFrom (signedHeader.toVec ++ signedRequest.drop 24) = .ok signedHeader :=
  tryFrom_reencoded (by decide +kernel)

end Reencoded

end OspfHeader

end RustyRouter
