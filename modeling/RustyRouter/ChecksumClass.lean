/-
# The Internet checksum is the one's-complement checksum

The two loops of `calculate_partial_result` are checked sums, of the complete 64-bit
words (`wordTotal`) and of the bytes after them (`trailing`).  Whatever the byte
order of the machine, an accumulator that it returns lies in the one's-complement
class of the data's word sum (`calculatePartialResult_congr`), and `calculate_final_result`
returns the complement of the 16-bit representative of that class
(`calculateFinalResult_eq`).  The one's-complement sum is that representative too,
so a checksum that does not overflow is the Internet checksum
(`checksum_eq_onesChecksum`).
-/
import RustyRouter.OnesComplement
import RustyRouter.ProtoCommon

namespace RustyRouter.InternetChecksum

open Octets Checked OnesComplement

/-! ## The loops -/

/-- The `i`-th 64-bit word of the data. -/
def word (data : List UInt8) (i : ℕ) : List UInt8 := (data.take (i * 8 + 8)).drop (i * 8)

/-- The sum of the complete 64-bit words of the data, each read as the machine reads it. -/
def wordTotal (endian : Endian) (data : List UInt8) : ℕ :=
  ((List.range (data.length / 8)).map fun i => nativeNumberFromBytes endian (word data i)).sum

/-- The bytes after the complete words, as a network-order word padded with zeros. -/
def trailing (data : List UInt8) : ℕ :=
  beNat (data.drop (8 * (data.length / 8)) ++ List.replicate (8 - data.length % 8) 0)

theorem length_word {data : List UInt8} {i : ℕ} (h : i < data.length / 8) :
    (word data i).length = 8 := by
  rw [word, length_drop_take (by omega)]

theorem sumWords_eq (endian : Endian) (data : List UInt8) :
    sumWords endian data = checked 128 (wordTotal endian data) := by
  have hrounds := foldlM_checked_add (ε := ProtocolError) (Nat.two_pow_pos 128)
    (fun i => nativeNumberFromBytes endian (word data i)) (data.length / 8)
  rw [Nat.zero_add] at hrounds
  rw [sumWords, wordTotal, ← hrounds]
  refine foldlM_range_congr fun i c hi => ?_
  have hslice : slice (ε := ProtocolError) data (i * 8) (i * 8 + 8) = .ok (word data i) :=
    slice_of_le (by omega) (by omega)
  rw [hslice, ok_bind, toArray_of_length (length_word hi), ok_bind]

/-- The trailing bytes, each shifted to its place. -/
theorem trailing_eq_sum (data : List UInt8) : trailing data =
    ((List.range (data.length % 8)).map fun i =>
      (data.getD (8 * (data.length / 8) + i) 0).toNat <<< (8 * (7 - i))).sum := by
  have hlen : (data.drop (8 * (data.length / 8))).length = data.length % 8 := by
    rw [List.length_drop]
    omega
  rw [trailing, beNat_append_replicate_zero, beNat_eq_sum, hlen, ← List.sum_map_mul_right]
  congr 1
  apply List.map_congr_left
  intro i hi
  have hi' : i < data.length % 8 := List.mem_range.mp hi
  have hbyte : (data.drop (8 * (data.length / 8))).getD i 0 =
      data.getD (8 * (data.length / 8) + i) 0 := by
    rw [List.getD_eq_getElem?_getD, List.getElem?_drop, ← List.getD_eq_getElem?_getD]
  have hplace : data.length % 8 - 1 - i + (8 - data.length % 8) = 7 - i := by omega
  rw [hbyte, mul_assoc, ← pow_add, hplace, Nat.shiftLeft_eq, pow_mul]
  norm_num

theorem addTrailing_eq {data : List UInt8} {acc : ℕ} (h : acc < 2 ^ 128) :
    addTrailing data acc = checked 128 (acc + trailing data) := by
  rw [trailing_eq_sum, ← foldlM_checked_add h, addTrailing]
  refine foldlM_range_congr fun i c hi => ?_
  rw [byteAt_getD (by omega) 0, ok_bind]

/-! ## The partial result -/

/-- The factor by which the native reading of a word is off the network reading. -/
def nativeScale : Endian → ℕ
  | .big => 1
  | .little => 256

theorem nativeNumberFromBytes_congr (endian : Endian) {bytes : List UInt8}
    (h : Even bytes.length) :
    Congr (nativeNumberFromBytes endian bytes) (nativeScale endian * wordSum bytes) := by
  cases endian with
  | big =>
    rw [nativeScale, one_mul]
    exact beNat_congr_wordSum h
  | little => exact leNat_congr_wordSum h

/-- The words up to an index lie in the class of the data they are read from. -/
theorem sum_word_congr (endian : Endian) (data : List UInt8) {n : ℕ} (h : n ≤ data.length / 8) :
    Congr ((List.range n).map fun i => nativeNumberFromBytes endian (word data i)).sum
      (nativeScale endian * wordSum (data.take (n * 8))) := by
  induction n with
  | zero =>
    rw [Nat.zero_mul, List.take_zero]
    rfl
  | succ n ih =>
    have heven : Even (data.take (n * 8)).length := by
      rw [List.length_take, Nat.min_eq_left (by omega)]
      exact ⟨n * 4, by ring⟩
    have hword : Even (word data n).length := by
      rw [length_word (by omega)]
      decide
    have hsplit : data.take ((n + 1) * 8) = data.take (n * 8) ++ word data n := by
      rw [Nat.succ_mul]
      exact take_eq_append_drop_take data (by omega)
    rw [List.range_succ, List.map_append, List.sum_append, List.map_singleton,
      List.sum_singleton, hsplit, wordSum_append heven, mul_add]
    exact (ih (by omega)).add (nativeNumberFromBytes_congr endian hword)

theorem wordTotal_congr (endian : Endian) (data : List UInt8) :
    Congr (wordTotal endian data)
      (nativeScale endian * wordSum (data.take (8 * (data.length / 8)))) := by
  have htotal := sum_word_congr endian data le_rfl
  rwa [Nat.mul_comm (data.length / 8) 8] at htotal

theorem trailing_congr (data : List UInt8) :
    Congr (trailing data) (wordSum (data.drop (8 * (data.length / 8)))) := by
  have heven : Even (data.drop (8 * (data.length / 8)) ++
      List.replicate (8 - data.length % 8) (0 : UInt8)).length := by
    rw [List.length_append, List.length_drop, List.length_replicate]
    exact ⟨4, by omega⟩
  have hcongr := beNat_congr_wordSum heven
  rwa [wordSum_append_replicate_zero] at hcongr

/-- **The partial result.**  On either build it lies in the class of the data's word sum. -/
theorem calculatePartialResult_congr {endian : Endian} {data : List UInt8} {r : ℕ}
    (hr : calculatePartialResult endian data = .ok r) :
    r < 2 ^ 128 ∧ Congr r (wordSum data) := by
  obtain ⟨words, hwords, hr⟩ := bind_eq_ok.mp hr
  rw [sumWords_eq, checked_eq_ok] at hwords
  obtain ⟨hlt, rfl⟩ := hwords
  have htotal := wordTotal_congr endian data
  have heven : Even (data.take (8 * (data.length / 8))).length := by
    rw [List.length_take, Nat.min_eq_left (by omega)]
    exact ⟨4 * (data.length / 8), by ring⟩
  have hsplit : wordSum data = wordSum (data.take (8 * (data.length / 8))) +
      wordSum (data.drop (8 * (data.length / 8))) := by
    rw [← wordSum_append heven, List.take_append_drop]
  -- the words in the byte order of the network, and their class
  have hnetwork : ∀ words, words < 2 ^ 128 → addTrailing data words = .ok r →
      Congr words (wordSum (data.take (8 * (data.length / 8)))) →
        r < 2 ^ 128 ∧ Congr r (wordSum data) := by
    intro words hwords hr hcongr
    rw [addTrailing_eq hwords, checked_eq_ok] at hr
    obtain ⟨hrlt, rfl⟩ := hr
    rw [hsplit]
    exact ⟨hrlt, hcongr.add (trailing_congr data)⟩
  cases endian with
  | big =>
    rw [nativeScale, one_mul] at htotal
    exact hnetwork _ hlt hr htotal
  | little =>
    have hswap := (@swapBytes_congr 16 _ (by decide) hlt).trans htotal.mul_256
    exact hnetwork _ (swapBytes_lt 16 _) hr (congr_of_mul_256 hswap)

/-! ## The final result -/

/-- A folding line at a multiple of 16 bits is `OnesComplement.fold`, and does not overflow. -/
theorem foldHalves_eq (bits : ℕ) {accumulator : ℕ} (hbits : 0 < bits) (hb : bits < 128)
    (hacc : accumulator < 2 ^ 128) :
    foldHalves (2 ^ bits - 1) bits accumulator = .ok (fold bits accumulator) := by
  rw [foldHalves, Nat.and_two_pow_sub_one_eq_mod, Nat.shiftRight_eq_div_pow]
  apply checked_of_lt
  have hmod : accumulator % 2 ^ bits < 2 ^ bits := Nat.mod_lt _ (Nat.two_pow_pos _)
  have hpow : 2 ^ bits ≤ 2 ^ 127 := Nat.pow_le_pow_right (by norm_num) (by omega)
  have htwo : 2 ^ 1 ≤ 2 ^ bits := Nat.pow_le_pow_right (by norm_num) hbits
  have hdiv : accumulator / 2 ^ bits ≤ accumulator / 2 ^ 1 :=
    Nat.div_le_div_left htwo (by norm_num)
  omega

/-- Two folding lines at a multiple of 16 bits bring an accumulator down to that width. -/
theorem foldHalves_twice {bits : ℕ} (m : ℕ) (hbits : bits = 16 * m) (hpos : 0 < bits)
    (hle : bits ≤ 64) {accumulator : ℕ} (h : accumulator < 2 ^ (2 * bits)) :
    ∃ u v, v < 2 ^ bits ∧ Congr v accumulator ∧
      foldHalves (2 ^ bits - 1) bits accumulator = .ok u ∧
      foldHalves (2 ^ bits - 1) bits u = .ok v := by
  have hlt : accumulator < 2 ^ 128 :=
    lt_of_lt_of_le h (Nat.pow_le_pow_right (by norm_num) (by omega))
  have hlt' : fold bits accumulator < 2 ^ 128 := lt_of_le_of_lt (fold_le bits accumulator) hlt
  refine ⟨fold bits accumulator, fold bits (fold bits accumulator), fold_fold_lt h, ?_,
    foldHalves_eq bits hpos (by omega) hlt, foldHalves_eq bits hpos (by omega) hlt'⟩
  rw [hbits]
  exact (fold_congr m _).trans (fold_congr m _)

/-- The complement of a 16-bit number. -/
theorem xor_ffff {v : ℕ} (hv : v < 2 ^ 16) : v ^^^ 0x0000FFFF = 65535 - v := by
  have h : 2 ^ 16 - (v + 1) = 65535 - v := by omega
  rw [← h]
  apply Nat.eq_of_testBit_eq
  intro i
  rw [Nat.testBit_xor, Nat.testBit_two_pow_sub_succ hv,
    show 0x0000FFFF = 2 ^ 16 - 1 by norm_num, Nat.testBit_two_pow_sub_one]
  by_cases hi : i < 16
  · simp [hi]
  · have hzero : v.testBit i = false := by
      apply Nat.testBit_lt_two_pow
      exact lt_of_lt_of_le hv (Nat.pow_le_pow_right (by norm_num) (by omega))
    simp [hi, hzero]

/-- The folding lines and the complement, before the cast to 16 bits. -/
def checksumAggregator (accumulator : ℕ) : Parse ℕ := do
  let checksumAggregator ← [64, 64, 32, 32, 16, 16].foldlM
    (fun checksumAggregator bits => foldHalves (2 ^ bits - 1) bits checksumAggregator) accumulator
  return checksumAggregator ^^^ 0x0000FFFF

theorem calculateFinalResult_eq_cast (accumulator : ℕ) :
    calculateFinalResult accumulator =
      checksumAggregator accumulator >>= fun checksumAggregator =>
        .ok (UInt16.ofNat checksumAggregator) := by
  simp only [checksumAggregator, List.foldlM_cons, List.foldlM_nil, bind_assoc, pure_bind]
  rfl

/-- **Six folds** always end in the 16-bit representative of the accumulator's class. -/
theorem checksumAggregator_eq {accumulator : ℕ} (h : accumulator < 2 ^ 128) :
    ∃ v, v ≤ 65535 ∧ Congr v accumulator ∧ checksumAggregator accumulator = .ok (65535 - v) := by
  obtain ⟨a, b, hb, hbcongr, h1, h2⟩ :=
    @foldHalves_twice 64 4 rfl (by norm_num) (by norm_num) _ h
  obtain ⟨c, d, hd, hdcongr, h3, h4⟩ :=
    @foldHalves_twice 32 2 rfl (by norm_num) (by norm_num) _ hb
  obtain ⟨e, v, hv, hvcongr, h5, h6⟩ :=
    @foldHalves_twice 16 1 rfl (by norm_num) (by norm_num) _ hd
  refine ⟨v, by omega, hvcongr.trans (hdcongr.trans hbcongr), ?_⟩
  rw [checksumAggregator, List.foldlM_cons, h1, ok_bind, List.foldlM_cons, h2, ok_bind,
    List.foldlM_cons, h3, ok_bind, List.foldlM_cons, h4, ok_bind, List.foldlM_cons, h5, ok_bind,
    List.foldlM_cons, h6, ok_bind, List.foldlM_nil, pure_bind, xor_ffff hv]
  rfl

/-- The final result is the complement of that representative. -/
theorem calculateFinalResult_eq {accumulator : ℕ} (h : accumulator < 2 ^ 128) :
    ∃ v, v ≤ 65535 ∧ Congr v accumulator ∧
      calculateFinalResult accumulator = .ok (UInt16.ofNat (65535 - v)) := by
  obtain ⟨v, hv, hcongr, haggregator⟩ := checksumAggregator_eq h
  refine ⟨v, hv, hcongr, ?_⟩
  rw [calculateFinalResult_eq_cast, haggregator, ok_bind]

/-- **The final result.**  No fold of a 128-bit accumulator overflows, the cast drops nothing, and
the result is the complement of the one 16-bit number that is congruent to the accumulator and zero
for an accumulator of zero only. -/
theorem calculateFinalResult_complement (accumulator : ℕ) (h : accumulator < 2 ^ 128) :
    ∃ v : UInt16, v.toNat ≡ accumulator [MOD 65535] ∧ (v = 0 ↔ accumulator = 0) ∧
      (∀ w : UInt16, w.toNat ≡ accumulator [MOD 65535] → (w = 0 ↔ accumulator = 0) → w = v) ∧
      checksumAggregator accumulator = .ok (~~~v).toNat ∧
      calculateFinalResult accumulator = .ok (~~~v) := by
  have hzero : ∀ w : UInt16, w.toNat = 0 ↔ w = 0 := fun w => by
    rw [← UInt16.toNat_inj, UInt16.toNat_zero]
  obtain ⟨n, hn, hcongr, haggregator⟩ := checksumAggregator_eq h
  obtain ⟨v, rfl⟩ : ∃ v : UInt16, v.toNat = n :=
    ⟨UInt16.ofNat n, UInt16.toNat_ofNat_of_lt' (Nat.lt_succ_of_le hn)⟩
  have hnot : 65535 - v.toNat = (~~~v).toNat := (UInt16.toNat_not v).symm
  rw [hnot] at haggregator
  refine ⟨v, hcongr.modEq, ?_, fun w hmod hw => ?_, haggregator, ?_⟩
  · rw [← hzero v, hcongr.zero_iff]
  · have hclass : Congr w.toNat accumulator := ⟨hmod, (hzero w).trans hw⟩
    have hle := Nat.le_of_lt_succ w.toNat_lt
    exact UInt16.toNat_inj.mp ((hclass.trans hcongr.symm).eq_of_le hle hn)
  · rw [calculateFinalResult_eq_cast, haggregator, ok_bind, UInt16.ofNat_toNat]

/-- All ones are a multiple of 65535. -/
theorem calculateFinalResult_complement_ones :
    ∃ v : UInt16, v.toNat ≡ 2 ^ 128 - 1 [MOD 65535] ∧ (v = 0 ↔ 2 ^ 128 - 1 = 0) ∧
      (∀ w : UInt16, w.toNat ≡ 2 ^ 128 - 1 [MOD 65535] → (w = 0 ↔ 2 ^ 128 - 1 = 0) → w = v) ∧
      checksumAggregator (2 ^ 128 - 1) = .ok (~~~v).toNat ∧
      calculateFinalResult (2 ^ 128 - 1) = .ok (~~~v) :=
  calculateFinalResult_complement (2 ^ 128 - 1) (by norm_num)

/-- The final result is the Internet checksum of the data in whose class the accumulator lies, and
of no other data's class. -/
theorem calculateFinalResult_eq_iff {accumulator : ℕ} (h : accumulator < 2 ^ 128)
    (data : List UInt8) :
    calculateFinalResult accumulator = .ok (onesChecksum data) ↔
      Congr accumulator (wordSum data) := by
  obtain ⟨v, hv, hcongr, hfinal⟩ := calculateFinalResult_eq h
  have hle := onesSum_le data
  have hsum := onesSum_congr data
  rw [hfinal, Except.ok.injEq, onesChecksum, ← UInt16.toNat_inj, UInt16.toNat_ofNat',
    UInt16.toNat_ofNat']
  constructor
  · intro heq
    have hv' : v = onesSum data := by omega
    rw [← hv'] at hsum
    exact hcongr.symm.trans hsum
  · intro hdata
    rw [(hcongr.trans (hdata.trans hsum.symm)).eq_of_le hv hle]

/-- **The checksum.**  A checksum that is returned is the complement of the 16-bit
representative of the data's word sum. -/
theorem checksum_eq_ok {endian : Endian} {data : List UInt8} {sum : UInt16}
    (h : checksum endian data = .ok sum) :
    ∃ v, v ≤ 65535 ∧ Congr v (wordSum data) ∧ sum = UInt16.ofNat (65535 - v) := by
  obtain ⟨acc, hacc, hfinal⟩ := bind_eq_ok.mp h
  obtain ⟨hlt, hcongr⟩ := calculatePartialResult_congr hacc
  obtain ⟨v, hv, hvcongr, heq⟩ := calculateFinalResult_eq hlt
  rw [heq, Except.ok.injEq] at hfinal
  exact ⟨v, hv, hvcongr.trans hcongr, hfinal.symm⟩

/-- No conversion in the checksum fails: it returns a value, or it panics. -/
theorem checksum_ne_error (endian : Endian) (data : List UInt8) (e : ProtocolError) :
    checksum endian data ≠ .error (.error e) := by
  have hpartial : calculatePartialResult endian data ≠ .error (.error e) := by
    refine bind_ne_failure ?_ fun words hwords => ?_
    · rw [sumWords_eq]
      exact checked_ne_error _ _ _
    · rw [sumWords_eq, checked_eq_ok] at hwords
      obtain ⟨hlt, rfl⟩ := hwords
      dsimp only
      rw [addTrailing_eq]
      · exact checked_ne_error _ _ _
      · split_ifs
        · exact swapBytes_lt 16 _
        · exact hlt
  refine bind_ne_failure hpartial fun acc hacc => ?_
  obtain ⟨v, -, -, hfinal⟩ := calculateFinalResult_eq (calculatePartialResult_congr hacc).1
  rw [hfinal]
  rintro ⟨⟩

/-- **The Internet checksum.**  On either build a checksum whose additions do not overflow is the
one's complement of the one's-complement sum of the data's words. -/
theorem checksum_eq_onesChecksum (endian : Endian) (data : List UInt8)
    (h : checksum endian data ≠ .error .panic) :
    checksum endian data = .ok (onesChecksum data) := by
  cases hsum : checksum endian data with
  | error failure =>
    cases failure with
    | error e => exact absurd hsum (checksum_ne_error endian data e)
    | panic => exact absurd hsum h
  | ok sum =>
    obtain ⟨acc, hacc, hfinal⟩ := bind_eq_ok.mp hsum
    obtain ⟨hlt, hcongr⟩ := calculatePartialResult_congr hacc
    rw [← hfinal]
    exact (calculateFinalResult_eq_iff hlt data).mpr hcongr

/-- A word and a trailing byte. -/
theorem checksum_eq_onesChecksum_nine :
    checksum .little [0x01, 0x03, 0x07, 0x0F, 0x11, 0x33, 0x77, 0xFF, 0x80] =
      .ok (onesChecksum [0x01, 0x03, 0x07, 0x0F, 0x11, 0x33, 0x77, 0xFF, 0x80]) :=
  checksum_eq_onesChecksum .little _ (by decide)

end RustyRouter.InternetChecksum
