/-
# Partial sums of the Internet checksum

`calculate_partial_result` is one sum: the complete 64-bit words of the data, added in
the byte order of the machine, swapped on a little-endian build, and the bytes that
follow them at their places in a network-order word (`partialSum`).  Its additions
overflow exactly when this sum leaves 128 bits (`calculatePartialResult_eq`).

The swap puts the low half of the word sum into the high half of the accumulator, so
on a little-endian build a few bytes can overflow it: the low half has to be all ones,
and the swapped carries have to run over with the trailing bytes
(`checksum_little_ne_panic_iff`).  Below 25 bytes there are too few words for both
(`partialSum_lt_of_length_le`).  Otherwise the swap changes a sum of words only by
what it takes of the carries (`partialSum_little_add_carriedAway`).
-/
import RustyRouter.ChecksumClass

namespace RustyRouter.InternetChecksum

open Octets Checked OnesComplement

/-! ## The partial sum -/

/-- The sum that `calculate_partial_result` computes. -/
def partialSum (endian : Endian) (data : List UInt8) : ℕ :=
  (if nativeNumberFromNetwork endian then swapBytes 16 (wordTotal endian data)
    else wordTotal endian data) + trailing data

theorem nativeNumberFromBytes_lt (endian : Endian) (bytes : List UInt8) :
    nativeNumberFromBytes endian bytes < 256 ^ bytes.length := by
  cases endian with
  | big => exact beNat_lt bytes
  | little => exact leNat_lt bytes

/-- Every word adds at most `2 ^ 64 - 1`. -/
theorem wordTotal_le (endian : Endian) (data : List UInt8) :
    wordTotal endian data ≤ data.length / 8 * (2 ^ 64 - 1) := by
  have hle := List.sum_le_card_nsmul
    ((List.range (data.length / 8)).map fun i => nativeNumberFromBytes endian (word data i))
    (2 ^ 64 - 1) ?_
  · rwa [List.length_map, List.length_range, smul_eq_mul] at hle
  · intro n hn
    obtain ⟨i, hi, rfl⟩ := List.mem_map.mp hn
    have hlt := nativeNumberFromBytes_lt endian (word data i)
    rw [length_word (List.mem_range.mp hi)] at hlt
    exact Nat.le_pred_of_lt hlt

/-- The words of a slice do not overflow the accumulator. -/
theorem wordTotal_lt (endian : Endian) {data : List UInt8} (h : data.length < 2 ^ 64) :
    wordTotal endian data < 2 ^ 128 := by
  have hle := wordTotal_le endian data
  omega

theorem trailing_lt (data : List UInt8) : trailing data < 2 ^ 64 := by
  have hlt := beNat_lt (data.drop (8 * (data.length / 8)) ++
    List.replicate (8 - data.length % 8) 0)
  have hlen : (data.drop (8 * (data.length / 8)) ++
      List.replicate (8 - data.length % 8) (0 : UInt8)).length = 8 := by
    rw [List.length_append, List.length_drop, List.length_replicate]
    omega
  rw [hlen] at hlt
  exact hlt

/-- **The partial result** is one checked sum. -/
theorem calculatePartialResult_eq (endian : Endian) {data : List UInt8}
    (h : data.length < 2 ^ 64) :
    calculatePartialResult endian data = checked 128 (partialSum endian data) := by
  have hlt := wordTotal_lt endian h
  rw [calculatePartialResult, sumWords_eq, checked_of_lt hlt, ok_bind, partialSum]
  dsimp only
  refine addTrailing_eq ?_
  split_ifs
  · exact swapBytes_lt 16 _
  · exact hlt

/-- A partial sum that fits the accumulator lies in the class of the data's word sum. -/
theorem partialSum_congr (endian : Endian) {data : List UInt8} (h : data.length < 2 ^ 64)
    (hlt : partialSum endian data < 2 ^ 128) : Congr (partialSum endian data) (wordSum data) := by
  have hresult := calculatePartialResult_eq endian h
  rw [checked_of_lt hlt] at hresult
  exact (calculatePartialResult_congr hresult).2

/-- The checksum of data whose partial sum fits the accumulator. -/
theorem checksum_of_lt (endian : Endian) {data : List UInt8} (h : data.length < 2 ^ 64)
    (hlt : partialSum endian data < 2 ^ 128) : checksum endian data = .ok (onesChecksum data) := by
  rw [checksum, calculatePartialResult_eq endian h, checked_of_lt hlt, ok_bind,
    calculateFinalResult_eq_iff hlt]
  exact partialSum_congr endian h hlt

/-- A checksum overflows in its partial result, or not at all. -/
theorem checksum_ne_panic_iff (endian : Endian) {data : List UInt8} (h : data.length < 2 ^ 64) :
    checksum endian data ≠ .error .panic ↔ partialSum endian data < 2 ^ 128 := by
  by_cases hlt : partialSum endian data < 2 ^ 128
  · rw [checksum_of_lt endian h hlt]
    exact iff_of_true (by rintro ⟨⟩) hlt
  · rw [checksum, calculatePartialResult_eq endian h, checked_of_le (not_lt.mp hlt)]
    exact iff_of_false (fun hne => hne rfl) hlt

/-! ## The carries of a little-endian sum -/

/-- The complete words of the data as a little-endian machine reads them. -/
def littleWords (data : List UInt8) : List ℕ :=
  (List.range (data.length / 8)).map fun i => leNat (word data i)

/-- The data's words in network order, those that are complete in the high half. -/
def networkTotal (data : List UInt8) : ℕ := 2 ^ 64 * wordTotal .big data + trailing data

/-- What the swap takes away: 65535 for each carry between the byte columns of the complete words,
at its place. -/
def carriedAway (data : List UInt8) : ℕ := 65535 * carried (littleWords data) 16

/-- A little-endian word, swapped with the accumulator, is its network-order reading in the high
half. -/
theorem swapBytes_word {bytes : List UInt8} (h : bytes.length = 8) :
    swapBytes 16 (leNat bytes) = 2 ^ 64 * beNat bytes := by
  have hlt := leNat_lt bytes
  rw [h] at hlt
  have hhigh : swapBytes 8 0 = 0 := by decide
  rw [swapBytes_add 8 8, Nat.div_eq_of_lt hlt, Nat.mod_eq_of_lt hlt, hhigh, swapBytes_leNat h]
  norm_num

/-- **A little-endian partial sum** is the network-order total less what the swap takes of the
carries. -/
theorem partialSum_little_add_carriedAway {data : List UInt8} (h : data.length < 2 ^ 64) :
    partialSum .little data + carriedAway data = networkTotal data := by
  have hcarry : carry (littleWords data) 16 = 0 :=
    carry_of_lt (lt_of_lt_of_eq (wordTotal_lt .little h) (by norm_num))
  have hwords : ((littleWords data).map (swapBytes 16)).sum = 2 ^ 64 * wordTotal .big data := by
    rw [littleWords, List.map_map, wordTotal, ← List.sum_map_mul_left]
    refine congrArg List.sum (List.map_congr_left fun i hi => ?_)
    exact swapBytes_word (length_word (List.mem_range.mp hi))
  calc
    partialSum .little data + carriedAway data
      = swapBytes 16 (littleWords data).sum + trailing data +
          65535 * carried (littleWords data) 16 := rfl
    _ = ((littleWords data).map (swapBytes 16)).sum + trailing data := by
        rw [sum_swapBytes, hcarry]
        ring
    _ = networkTotal data := by rw [hwords, networkTotal]

/-! ## When it overflows -/

theorem partialSum_big_lt {data : List UInt8} (h : data.length < 2 ^ 64) :
    partialSum .big data < 2 ^ 128 := by
  have hle := wordTotal_le .big data
  have hlt := trailing_lt data
  show wordTotal .big data + trailing data < 2 ^ 128
  omega

/-- The halves of a little-endian partial sum. -/
theorem partialSum_little (data : List UInt8) : partialSum .little data =
    2 ^ 64 * swapBytes 8 (wordTotal .little data % 2 ^ 64) +
      (swapBytes 8 (wordTotal .little data / 2 ^ 64) + trailing data) := by
  have hswap := swapBytes_add 8 8 (wordTotal .little data)
  norm_num only at hswap ⊢
  show swapBytes 16 (wordTotal .little data) + trailing data = _
  rw [hswap]
  omega

/-- A word is all ones when its bytes are, in either order. -/
theorem swapBytes_eq_ones {x : ℕ} (h : x < 2 ^ 64) :
    swapBytes 8 x = 2 ^ 64 - 1 ↔ x = 2 ^ 64 - 1 := by
  have hones : swapBytes 8 (2 ^ 64 - 1) = 2 ^ 64 - 1 := by decide
  constructor
  · intro hx
    rw [← @swapBytes_swapBytes 8 x h, hx, hones]
  · rintro rfl
    exact hones

theorem partialSum_little_lt_iff (data : List UInt8) :
    partialSum .little data < 2 ^ 128 ↔
      ¬ (wordTotal .little data % 2 ^ 64 = 2 ^ 64 - 1 ∧
        2 ^ 64 ≤ swapBytes 8 (wordTotal .little data / 2 ^ 64) + trailing data) := by
  have hones := @swapBytes_eq_ones (wordTotal .little data % 2 ^ 64)
    (Nat.mod_lt _ (Nat.two_pow_pos 64))
  have hlow := swapBytes_lt 8 (wordTotal .little data % 2 ^ 64)
  have hcarry := swapBytes_lt 8 (wordTotal .little data / 2 ^ 64)
  have htrailing := trailing_lt data
  rw [partialSum_little, ← hones]
  norm_num only at hlow hcarry ⊢
  omega

/-- **When the little-endian checksum overflows.**  No addition exceeds 128 bits, if and only if
the little-endian words of the slice do not add up to all ones in the low 64 bits with a swapped
carry that runs over with the trailing bytes. -/
theorem checksum_little_ne_panic_iff (data : List UInt8) (h : data.length < 2 ^ 64) :
    checksum .little data ≠ .error .panic ↔
      ¬ (wordTotal .little data % 2 ^ 64 = 2 ^ 64 - 1 ∧
        2 ^ 64 ≤ swapBytes 8 (wordTotal .little data / 2 ^ 64) + trailing data) := by
  rw [checksum_ne_panic_iff .little h, partialSum_little_lt_iff]

theorem checksum_little_ne_panic_iff_twelve :
    checksum .little (List.replicate 12 0xFF) ≠ .error .panic ↔
      ¬ (wordTotal .little (List.replicate 12 0xFF) % 2 ^ 64 = 2 ^ 64 - 1 ∧
        2 ^ 64 ≤ swapBytes 8 (wordTotal .little (List.replicate 12 0xFF) / 2 ^ 64) +
          trailing (List.replicate 12 0xFF)) :=
  checksum_little_ne_panic_iff _ (by decide)

/-- Three words that add up to `2 ^ 65 - 1`, and a byte. -/
def overflowing : List UInt8 :=
  List.replicate 16 0xFF ++ [1, 0, 0, 0, 0, 0, 0, 0, 0xFF]

/-- The last byte of 25 overflows the accumulator. -/
theorem not_checksum_little_ne_panic :
    ¬ ∀ data : List UInt8, data.length < 2 ^ 64 → checksum .little data ≠ .error .panic := by
  intro h
  exact h overflowing (by decide) (by decide +kernel)

/-- Three complete words and no more do not overflow. -/
theorem partialSum_lt_of_length_le (endian : Endian) {data : List UInt8}
    (h : data.length ≤ 24) : partialSum endian data < 2 ^ 128 := by
  cases endian with
  | big => exact partialSum_big_lt (by omega)
  | little =>
    rw [partialSum_little_lt_iff]
    rintro ⟨hlow, hcarry⟩
    by_cases hthree : data.length = 24
    · have hnone : trailing data = 0 := by
        rw [trailing, hthree, List.drop_eq_nil_of_le (by omega)]
        rfl
      have hswap := swapBytes_lt 8 (wordTotal .little data / 2 ^ 64)
      omega
    · -- two words add up to all ones without a carry only
      have hle := wordTotal_le .little data
      have hzero : wordTotal .little data / 2 ^ 64 = 0 := by omega
      have htrailing := trailing_lt data
      rw [hzero, show swapBytes 8 0 = 0 by decide] at hcarry
      omega

end RustyRouter.InternetChecksum
