/-
# The receiver's checksum of an OSPFv2 packet

The receiver sums the bytes of a packet one by one, each at its place in a 16-bit
word, and leaves out the checksum and the authentication field.  That is the word
sum of the packet with those bytes set to zero (`sumBytes_eq`).  It adds the carry
of the sum once only (`singleFold`).
-/
import RustyRouter.ChecksumClass
import RustyRouter.OspfHeader

namespace RustyRouter

open Octets Checked OnesComplement

theorem wordSum_drop_take {l : List UInt8} {i : ℕ} (h : i + 2 ≤ l.length) :
    wordSum ((l.take (i + 2)).drop i) = (u16At l i).toNat := by
  rw [← beBytes_u16At h, ← List.append_nil (beBytes 2 _), wordSum_beBytes_two_append]
  rfl

namespace OspfHeader

/-- The packet with the bytes the receiver skips set to zero. -/
def blank (data : List UInt8) : List UInt8 :=
  data.mapIdx fun i b => if skipped i then 0 else b

@[simp] theorem length_blank (data : List UInt8) : (blank data).length = data.length := by
  simp [blank]

/-- The receiver's loop computes the word sum of the blanked packet. -/
theorem sumBytes_eq {data : List UInt8} (h : data.length ≤ 65535) :
    sumBytes data = .ok (wordSum (blank data)) := by
  -- the loop sums the words of the bytes so far
  have hloop := foldlM_range_total (ε := ProtocolError) (b := 0) (n := data.length)
    (f := fun checksumAggregator i =>
      if skipped i then .ok checksumAggregator
      else do
        let byte ← byteAt data i
        checked 64 (checksumAggregator + byte.toNat <<< (8 * (1 - i % 2))))
    (P := fun i c => c = wordSum ((blank data).take i)) (by simp [wordSum]) ?_
  · obtain ⟨r, hr, rfl⟩ := hloop
    rw [sumBytes, hr, ← length_blank, List.take_length]
  · rintro i c hi rfl
    have hi' : i < (blank data).length := by rwa [length_blank]
    have hbyte : (blank data)[i] = if skipped i then 0 else data[i] := by
      simp [blank]
    have hstep : wordSum ((blank data).take (i + 1))
        = wordSum ((blank data).take i) + (blank data)[i].toNat * 256 ^ (1 - i % 2) := by
      rw [List.take_succ_eq_append_getElem hi', wordSum_concat, List.length_take,
        Nat.min_eq_left hi'.le]
    rw [hstep, hbyte]
    by_cases hskip : skipped i
    · exact ⟨_, if_pos hskip, by simp [hskip]⟩
    · refine ⟨_, ?_, rfl⟩
      -- 65535 bytes of at most 255 * 256 each stay far below 64 bits
      have hsum := wordSum_le ((blank data).take i)
      have hpow : 256 ^ (1 - i % 2) ≤ 256 ^ 1 := Nat.pow_le_pow_right (by norm_num) (by omega)
      have hb := (data[i]).toNat_lt
      have hprod : (data[i]).toNat * 256 ^ (1 - i % 2) ≤ 255 * 256 :=
        Nat.mul_le_mul (by omega) hpow
      rw [List.length_take, Nat.min_eq_left hi'.le] at hsum
      rw [if_neg hskip, byteAt_of_getElem? (List.getElem?_eq_getElem hi), ok_bind,
        Nat.shiftLeft_eq, pow_mul, show (2 : ℕ) ^ 8 = 256 by norm_num, if_neg hskip]
      apply checked_of_lt
      omega

/-- A stretch of bytes none of which is skipped is left as it is. -/
theorem mapIdx_kept {l : List UInt8} {k : ℕ} (h : ∀ i < l.length, skipped (i + k) = false) :
    (l.mapIdx fun i b => if skipped (i + k) then 0 else b) = l := by
  apply List.ext_getElem (by simp)
  intro i _ hi
  simp [h i hi]

/-- A stretch of bytes all of which are skipped becomes zero. -/
theorem mapIdx_skipped {l : List UInt8} {k : ℕ} (h : ∀ i < l.length, skipped (i + k) = true) :
    (l.mapIdx fun i b => if skipped (i + k) then 0 else b) = List.replicate l.length 0 := by
  apply List.ext_getElem (by simp)
  intro i hi _
  rw [List.length_mapIdx] at hi
  simp [h i hi]

/-- Blanking a packet whose parts are in their places. -/
theorem blank_append {front checksum kind authentication : List UInt8}
    (hfront : front.length = 12) (hchecksum : checksum.length = 2) (hkind : kind.length = 2)
    (hauthentication : authentication.length = 8) (body : List UInt8) :
    blank (front ++ (checksum ++ (kind ++ (authentication ++ body))))
      = front ++ (List.replicate 2 0 ++ (kind ++ (List.replicate 8 0 ++ body))) := by
  simp only [blank, List.mapIdx_append, hfront, hchecksum, hkind, hauthentication,
    Nat.add_assoc, Nat.reduceAdd]
  rw [mapIdx_skipped (k := 12), mapIdx_kept (k := 14), mapIdx_skipped (k := 16),
    mapIdx_kept (k := 24), hchecksum, hauthentication]
  · congr 1
    exact mapIdx_kept (k := 0) fun i hi => by simp [skipped]; omega
  · intro i hi
    simp [skipped]
  · intro i hi
    simp [skipped]
    omega
  · intro i hi
    simp [skipped]
    omega
  · intro i hi
    simp [skipped]
    omega

/-- The packet without the bytes that the receiver skips. -/
def covered (packet : List UInt8) : List UInt8 :=
  packet.take 12 ++ ((packet.take 16).drop 14 ++ packet.drop 24)

/-- Skipping bytes and reading them as zero is the same to the word sum. -/
theorem wordSum_blank {packet : List UInt8} (h : 24 ≤ packet.length) :
    wordSum (blank packet) = wordSum (covered packet) := by
  have hfront : (packet.take 12).length = 12 := by
    rw [List.length_take]
    omega
  have hchecksum : ((packet.take 14).drop 12).length = 2 := @length_drop_take packet 12 2 (by omega)
  have hkind : ((packet.take 16).drop 14).length = 2 := @length_drop_take packet 14 2 (by omega)
  have hauthentication : ((packet.take 24).drop 16).length = 8 := @length_drop_take packet 16 8 h
  -- the parts of a packet, of which each has an even length
  have hsplit : packet = packet.take 12 ++ ((packet.take 14).drop 12 ++ ((packet.take 16).drop 14 ++
      ((packet.take 24).drop 16 ++ packet.drop 24))) := by
    conv_lhs => rw [← List.take_append_drop 24 packet,
      take_eq_append_drop_take packet (show 16 ≤ 24 by norm_num),
      take_eq_append_drop_take packet (show 14 ≤ 16 by norm_num),
      take_eq_append_drop_take packet (show 12 ≤ 14 by norm_num)]
    simp only [List.append_assoc]
  have hzeros : ∀ n, wordSum (List.replicate (2 * n) 0) = 0 := by
    intro n
    rw [wordSum_eq_zero]
    intro b hb
    exact List.eq_of_mem_replicate hb
  conv_lhs => rw [hsplit, blank_append hfront hchecksum hkind hauthentication]
  rw [covered, wordSum_append (by rw [hfront]; decide), wordSum_append (by decide),
    wordSum_append (by rw [hkind]; decide), wordSum_append (by decide),
    wordSum_append (by rw [hfront]; decide), wordSum_append (by rw [hkind]; decide), hzeros 1,
    hzeros 4]
  omega

/-- Packets that differ in skipped bytes only are summed alike. -/
theorem blank_congr {packet packet' : List UInt8} (hlen : packet.length = packet'.length)
    (h : ∀ i, skipped i = false → packet[i]? = packet'[i]?) : blank packet = blank packet' := by
  unfold blank
  apply List.ext_getElem?
  intro i
  rw [List.getElem?_mapIdx, List.getElem?_mapIdx]
  cases hskip : skipped i with
  | false => rw [h i hskip]
  | true =>
    by_cases hi : i < packet.length
    · rw [List.getElem?_eq_getElem hi, List.getElem?_eq_getElem (hlen ▸ hi)]
      rfl
    · rw [List.getElem?_eq_none (not_lt.mp hi), List.getElem?_eq_none (hlen ▸ not_lt.mp hi)]

theorem getElem?_blank {packet : List UInt8} {i : ℕ} (h : skipped i = false) :
    (blank packet)[i]? = packet[i]? := by
  unfold blank
  rw [List.getElem?_mapIdx]
  simp [h]

/-- What the receiver expects of a sum `s`: its single fold, complemented. -/
def singleFold (s : ℕ) : UInt16 := UInt16.ofNat (65535 - (s + s / 65536) % 65536)

/-- The single fold gives the Internet checksum of a sum that does not carry twice, and one more of
a sum that does. -/
theorem singleFold_wordSum {l : List UInt8} (h : l.length ≤ 65535) :
    singleFold (wordSum l) = onesChecksum l + (if CarriesTwice (wordSum l) then 1 else 0) := by
  have hle := wordSum_le l
  have hsum := onesSum_le l
  have hfold := foldOnce_eq (by omega) hsum (onesSum_congr l)
  rw [singleFold, onesChecksum, ← UInt16.toNat_inj]
  split_ifs at hfold ⊢ with hcarries
  · rw [UInt16.toNat_add, UInt16.toNat_ofNat', UInt16.toNat_ofNat', UInt16.toNat_one]
    omega
  · rw [UInt16.add_zero, ← hfold]
    rfl

theorem expectedChecksum_eq {authenticationType : OspfAuthenticationType}
    (hauth : authenticationType ≠ .cryptographicAuthentication) (data : List UInt8)
    (h : data.length ≤ 65535) :
    expectedChecksum authenticationType data = .ok (singleFold (wordSum (blank data))) := by
  have hle := wordSum_le (blank data)
  rw [length_blank] at hle
  obtain ⟨s, hs⟩ : ∃ s, wordSum (blank data) = s := ⟨_, rfl⟩
  rw [hs] at hle
  have hfold : s + s >>> 16 < 2 ^ 64 := by
    rw [Nat.shiftRight_eq_div_pow]
    omega
  have hmask : ((s + s >>> 16) ^^^ 0x000000000000FFFF) &&& 0x000000000000FFFF
      = 65535 - (s + s / 65536) % 65536 := by
    have hlow : (s + s / 65536) % 2 ^ 16 < 2 ^ 16 := Nat.mod_lt _ (by norm_num)
    rw [show 0x000000000000FFFF = 2 ^ 16 - 1 by norm_num, Nat.and_two_pow_sub_one_eq_mod,
      Nat.xor_mod_two_pow, Nat.shiftRight_eq_div_pow]
    exact InternetChecksum.xor_ffff hlow
  rw [expectedChecksum, if_pos hauth, sumBytes_eq h, hs, ok_bind, checked_of_lt hfold, ok_bind]
  show Except.ok (UInt16.ofNat _) = Except.ok (singleFold s)
  rw [hmask, singleFold]

end OspfHeader

end RustyRouter
