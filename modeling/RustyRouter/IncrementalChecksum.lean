/-
# Incremental checksums

An `InternetChecksum` accumulates partial sums without reducing them.  Additions leave
the one's-complement class of the words that were added, so they agree with the
one-shot checksum exactly as long as the words of all slices together, less what the
swap takes of their carries, fit the accumulator (`foldlM_add_iff`).  Subtraction undoes
an addition in the class, but not in the accumulator: a slice that is added behind
another can cause carries that the swap takes from the bytes of the first, and it is
right exactly when these take no more than the bytes of the second add, and as much for
zeros alone (`subtract_iff`).  Without a swap it always is (`partialSum_big_append`).
-/
import RustyRouter.PartialSum

namespace RustyRouter.InternetChecksum

open Octets Checked OnesComplement

/-! ## Adding slices -/

theorem store_of_lt {accumulator : ℕ} (h : accumulator < 2 ^ 128) :
    store accumulator = .ok ⟨accumulator, h⟩ :=
  dif_pos h

theorem store_of_le {accumulator : ℕ} (h : 2 ^ 128 ≤ accumulator) :
    store accumulator = .error .panic :=
  dif_neg (not_lt.mpr h)

theorem store_eq_ok {accumulator : ℕ} {checksum : InternetChecksum} :
    store accumulator = .ok checksum ↔ checksum.accumulator = accumulator := by
  constructor
  · intro h
    unfold store at h
    split_ifs at h with hlt
    cases h
    rfl
  · rintro rfl
    exact store_of_lt checksum.accumulator_lt

theorem add_eq (endian : Endian) (checksum : InternetChecksum) {data : List UInt8}
    (h : data.length < 2 ^ 64) :
    checksum.add endian data = store (checksum.accumulator + partialSum endian data) := by
  rw [add, calculatePartialResult_eq endian h]
  by_cases hlt : partialSum endian data < 2 ^ 128
  · rw [checked_of_lt hlt, ok_bind]
  · rw [checked_of_le (not_lt.mp hlt), store_of_le (by omega)]
    rfl

/-- Adding slices in order stores the sum of their partial sums. -/
theorem foldlM_add (endian : Endian) {slices : List (List UInt8)}
    (h : ∀ data ∈ slices, data.length < 2 ^ 64) (checksum : InternetChecksum) :
    slices.foldlM (add endian) checksum =
      store (checksum.accumulator + (slices.map (partialSum endian)).sum) := by
  induction slices generalizing checksum with
  | nil => exact (store_of_lt checksum.accumulator_lt).symm
  | cons data slices ih =>
    rw [List.forall_mem_cons] at h
    rw [List.foldlM_cons, add_eq endian checksum h.1, List.map_cons, List.sum_cons,
      ← Nat.add_assoc]
    by_cases hlt : checksum.accumulator + partialSum endian data < 2 ^ 128
    · rw [store_of_lt hlt, ok_bind, ih h.2]
    · rw [store_of_le (not_lt.mp hlt), store_of_le (by omega)]
      rfl

/-- Partial sums of slices of even length, but for the last, add up to the class of the slices
joined together. -/
theorem sum_partialSum_congr (endian : Endian) {slices : List (List UInt8)}
    (h : ∀ data ∈ slices, data.length < 2 ^ 64)
    (heven : ∀ data ∈ slices.dropLast, Even data.length)
    (hlt : (slices.map (partialSum endian)).sum < 2 ^ 128) :
    Congr (slices.map (partialSum endian)).sum (wordSum slices.flatten) := by
  induction slices with
  | nil => rfl
  | cons data slices ih =>
    rw [List.forall_mem_cons] at h
    rw [List.map_cons, List.sum_cons] at hlt ⊢
    rw [List.flatten_cons]
    have hfirst := partialSum_congr endian h.1 (by omega)
    by_cases hlast : slices = []
    · subst hlast
      rw [List.flatten_nil, List.append_nil]
      exact hfirst
    · rw [List.dropLast_cons_of_ne_nil hlast, List.forall_mem_cons] at heven
      rw [wordSum_append heven.1]
      exact hfirst.add (ih h.2 heven.2 (by omega))

/-- The slices fit the accumulator together: on a big-endian build the sum of their words does, on a
little-endian build that of their words in network order, less what the swap takes of the carries
within each slice. -/
def FitTogether : Endian → List (List UInt8) → Prop
  | .big, slices => (slices.map fun data => wordTotal .big data + trailing data).sum < 2 ^ 128
  | .little, slices =>
    (slices.map networkTotal).sum < 2 ^ 128 + (slices.map carriedAway).sum

/-- Partial sums fit the accumulator together when their words and carries say so. -/
theorem sum_partialSum_lt_iff (endian : Endian) {slices : List (List UInt8)}
    (h : ∀ data ∈ slices, data.length < 2 ^ 64) :
    (slices.map (partialSum endian)).sum < 2 ^ 128 ↔ FitTogether endian slices := by
  cases endian with
  | big => rfl
  | little =>
    have htotal : (slices.map (partialSum .little)).sum + (slices.map carriedAway).sum =
        (slices.map networkTotal).sum := by
      rw [← List.sum_map_add]
      congr 1
      apply List.map_congr_left
      intro data hdata
      exact partialSum_little_add_carriedAway (h data hdata)
    rw [FitTogether, ← htotal]
    omega

/-- **When incremental and one-shot checksums agree.**  Slices of even length, but for the last,
are added without overflow and to the checksum of their concatenation, if and only if their words
fit the accumulator together. -/
theorem foldlM_add_iff (endian : Endian) (slices : List (List UInt8))
    (hlen : ∀ data ∈ slices, data.length < 2 ^ 64)
    (heven : ∀ data ∈ slices.dropLast, Even data.length) :
    (∃ checksum, slices.foldlM (add endian) new = .ok checksum ∧
        checksum.calculate = .ok (onesChecksum slices.flatten)) ↔ FitTogether endian slices := by
  have hadd := foldlM_add endian hlen new
  rw [show new.accumulator = 0 from rfl, Nat.zero_add] at hadd
  rw [hadd, ← sum_partialSum_lt_iff endian hlen]
  constructor
  · rintro ⟨checksum, hchecksum, -⟩
    rw [← store_eq_ok.mp hchecksum]
    exact checksum.accumulator_lt
  · intro hlt
    refine ⟨_, store_of_lt hlt, ?_⟩
    rw [calculate, calculateFinalResult_eq_iff hlt]
    exact sum_partialSum_congr endian hlen heven hlt

theorem foldlM_add_iff_update :
    (∃ checksum, [[0x01, 0x03, 0x07, 0x0F], [], [0x11, 0x33, 0x77]].foldlM (add .little) new =
        .ok checksum ∧ checksum.calculate = .ok (onesChecksum
          [[0x01, 0x03, 0x07, 0x0F], [], [0x11, 0x33, 0x77]].flatten)) ↔
      FitTogether .little [[0x01, 0x03, 0x07, 0x0F], [], [0x11, 0x33, 0x77]] :=
  foldlM_add_iff .little _ (by decide) (by decide)

/-- Two words of ones overflow a little-endian accumulator. -/
theorem not_foldlM_add :
    ¬ ∀ (endian : Endian) (slices : List (List UInt8)),
      (∀ data ∈ slices, data.length < 2 ^ 64) →
      (∀ data ∈ slices.dropLast, Even data.length) →
      ∃ checksum, slices.foldlM (add endian) new = .ok checksum ∧
        checksum.calculate = .ok (onesChecksum slices.flatten) := by
  intro h
  obtain ⟨checksum, hchecksum, -⟩ := h .little
    [List.replicate 8 0xFF, List.replicate 8 0xFF] (by decide) (by decide)
  revert hchecksum
  have hpanic : [List.replicate 8 0xFF, List.replicate 8 0xFF].foldlM (add .little) new =
      .error .panic := by decide +kernel
  rw [hpanic]
  rintro ⟨⟩

/-! ## The big-endian build -/

theorem word_concat {l : List UInt8} {i : ℕ} (h : i < l.length / 8) (b : UInt8) :
    word (l ++ [b]) i = word l i := by
  rw [word, word, List.take_append_of_le_length (by omega)]

/-- One more byte of the data adds its share of a network-order word to a big-endian sum. -/
theorem partialSum_big_concat (l : List UInt8) (b : UInt8) :
    partialSum .big (l ++ [b]) = partialSum .big l + b.toNat * 256 ^ (7 - l.length % 8) := by
  show wordTotal .big (l ++ [b]) + trailing (l ++ [b]) = wordTotal .big l + trailing l + _
  have hlen : (l ++ [b]).length = l.length + 1 := List.length_append
  have hdrop : (l ++ [b]).drop (8 * (l.length / 8)) = l.drop (8 * (l.length / 8)) ++ [b] :=
    List.drop_append_of_le_length (by omega)
  have hbytes : beNat (l.drop (8 * (l.length / 8)) ++ [b]) =
      beNat (l.drop (8 * (l.length / 8))) * 256 + b.toNat := by
    rw [beNat_append]
    simp [beNat]
  have hwords : ((List.range (l.length / 8)).map fun i => beNat (word (l ++ [b]) i)) =
      (List.range (l.length / 8)).map fun i => beNat (word l i) := by
    apply List.map_congr_left
    intro i hi
    rw [word_concat (List.mem_range.mp hi)]
  unfold wordTotal trailing
  simp only [nativeNumberFromBytes]
  rw [beNat_append_replicate_zero, beNat_append_replicate_zero, hlen]
  by_cases hfull : l.length % 8 = 7
  · -- the byte completes a word
    have hword : word (l ++ [b]) (l.length / 8) = l.drop (8 * (l.length / 8)) ++ [b] := by
      rw [word, Nat.mul_comm, List.take_of_length_le (by omega), hdrop]
    have hrest : (l ++ [b]).drop (8 * ((l.length + 1) / 8)) = [] :=
      List.drop_eq_nil_of_le (by omega)
    have hcount : (l.length + 1) / 8 = l.length / 8 + 1 := by omega
    rw [hrest, hcount, List.range_succ, List.map_append, List.sum_append, hwords,
      List.map_singleton, List.sum_singleton, hword, hbytes, hfull]
    simp [beNat]
    ring
  · have hcount : (l.length + 1) / 8 = l.length / 8 := by omega
    have hmod : (l.length + 1) % 8 = l.length % 8 + 1 := by omega
    have hplace : 8 - l.length % 8 = 8 - (l.length % 8 + 1) + 1 := by omega
    have hplace' : 7 - l.length % 8 = 8 - (l.length % 8 + 1) := by omega
    rw [hcount, hwords, hdrop, hbytes, hmod, hplace', hplace, pow_succ]
    ring

/-- **On a big-endian build** more data has a larger partial sum, but for zeros. -/
theorem partialSum_big_append (a b : List UInt8) :
    partialSum .big a ≤ partialSum .big (a ++ b) ∧
      (partialSum .big a = partialSum .big (a ++ b) ↔ ∀ byte ∈ b, byte = 0) := by
  induction b using List.reverseRecOn with
  | nil => simp
  | append_singleton b byte ih =>
    obtain ⟨hle, hiff⟩ := ih
    have hbyte : byte.toNat * 256 ^ (7 - (a ++ b).length % 8) = 0 ↔ byte = 0 := by
      rw [mul_eq_zero, ← UInt8.toNat_inj, UInt8.toNat_zero]
      simp
    rw [← List.append_assoc, partialSum_big_concat]
    refine ⟨by omega, ?_⟩
    rw [List.forall_mem_append, List.forall_mem_singleton, ← hiff, ← hbyte]
    omega

/-! ## Subtracting a slice -/

theorem subtract_eq (endian : Endian) (checksum : InternetChecksum) {data : List UInt8}
    (h : data.length < 2 ^ 64) (hle : partialSum endian data ≤ checksum.accumulator) :
    checksum.subtract endian data =
      store (checksum.accumulator - partialSum endian data) := by
  have hlt := checksum.accumulator_lt
  rw [subtract, calculatePartialResult_eq endian h, checked_of_lt (by omega), ok_bind,
    checkedSub_of_le hle, ok_bind]

/-- A subtraction that returns does not underflow. -/
theorem partialSum_le_of_subtract {endian : Endian} {checksum checksum' : InternetChecksum}
    {data : List UInt8} (h : data.length < 2 ^ 64)
    (hsubtract : checksum.subtract endian data = .ok checksum') :
    partialSum endian data ≤ checksum.accumulator := by
  rw [subtract, calculatePartialResult_eq endian h] at hsubtract
  obtain ⟨partialResult, hpartial, hsubtract⟩ := bind_eq_ok.mp hsubtract
  obtain ⟨-, rfl⟩ := checked_eq_ok.mp hpartial
  by_contra hlt
  rw [checkedSub, if_neg hlt] at hsubtract
  cases hsubtract

/-- What is left of the sum of two slices when that of the first is taken off. -/
theorem subtract_iff_partialSum (endian : Endian) {a b : List UInt8} {checksum : InternetChecksum}
    (hlen : (a ++ b).length < 2 ^ 64) (heven : Even a.length)
    (hadd : new.add endian (a ++ b) = .ok checksum) :
    (∃ checksum', checksum.subtract endian a = .ok checksum' ∧
        checksum'.calculate = .ok (onesChecksum b)) ↔
      partialSum endian a ≤ partialSum endian (a ++ b) ∧
        (partialSum endian a = partialSum endian (a ++ b) ↔ ∀ byte ∈ b, byte = 0) := by
  have hlen' : a.length < 2 ^ 64 := by
    rw [List.length_append] at hlen
    omega
  rw [add_eq endian new hlen, store_eq_ok, show new.accumulator = 0 from rfl, Nat.zero_add]
    at hadd
  have hlt := checksum.accumulator_lt
  have hwhole := partialSum_congr endian hlen (hadd ▸ hlt)
  rw [wordSum_append heven, ← hadd] at hwhole
  rw [← hadd, ← wordSum_eq_zero]
  -- the class that is left, once nothing underflows
  have hleft : partialSum endian a ≤ checksum.accumulator →
      (Congr (checksum.accumulator - partialSum endian a) (wordSum b) ↔
        (partialSum endian a = checksum.accumulator ↔ wordSum b = 0)) := fun hle =>
    hwhole.sub_iff (partialSum_congr endian hlen' (by omega)) hle
  constructor
  · rintro ⟨checksum', hsubtract, hcalculate⟩
    have hle := partialSum_le_of_subtract hlen' hsubtract
    refine ⟨hle, (hleft hle).mp ?_⟩
    rw [subtract_eq endian checksum hlen' hle, store_eq_ok] at hsubtract
    rw [← hsubtract]
    exact (calculateFinalResult_eq_iff checksum'.accumulator_lt b).mp hcalculate
  · rintro ⟨hle, hzero⟩
    have hfits : checksum.accumulator - partialSum endian a < 2 ^ 128 := by omega
    refine ⟨⟨_, hfits⟩, ?_, ?_⟩
    · rw [subtract_eq endian checksum hlen' hle, store_of_lt hfits]
    · exact (calculateFinalResult_eq_iff hfits b).mpr ((hleft hle).mpr hzero)

/-- The carries that a second slice causes take no more than its bytes add, and as much if and only
if its bytes are zeros.  Nothing is swapped on a big-endian build, where this always holds. -/
def CarriesCovered : Endian → List UInt8 → List UInt8 → Prop
  | .big, _, _ => True
  | .little, a, b =>
    networkTotal a + carriedAway (a ++ b) ≤ networkTotal (a ++ b) + carriedAway a ∧
      (networkTotal a + carriedAway (a ++ b) = networkTotal (a ++ b) + carriedAway a ↔
        ∀ byte ∈ b, byte = 0)

/-- **When subtraction undoes addition.**  After two slices were added as one without overflow,
the first is taken off without underflow and leaves the checksum of the second, if and only if the
second covers the carries that it causes. -/
theorem subtract_iff (endian : Endian) (a b : List UInt8) (checksum : InternetChecksum)
    (hlen : (a ++ b).length < 2 ^ 64) (heven : Even a.length)
    (hadd : new.add endian (a ++ b) = .ok checksum) :
    (∃ checksum', checksum.subtract endian a = .ok checksum' ∧
        checksum'.calculate = .ok (onesChecksum b)) ↔ CarriesCovered endian a b := by
  rw [subtract_iff_partialSum endian hlen heven hadd]
  cases endian with
  | big => exact iff_of_true (partialSum_big_append a b) trivial
  | little =>
    have hlen' : a.length < 2 ^ 64 := by
      rw [List.length_append] at hlen
      omega
    have hfirst := partialSum_little_add_carriedAway hlen'
    have hwhole := partialSum_little_add_carriedAway hlen
    have hle : partialSum .little a ≤ partialSum .little (a ++ b) ↔
        networkTotal a + carriedAway (a ++ b) ≤ networkTotal (a ++ b) + carriedAway a := by
      omega
    have heq : partialSum .little a = partialSum .little (a ++ b) ↔
        networkTotal a + carriedAway (a ++ b) = networkTotal (a ++ b) + carriedAway a := by
      omega
    rw [hle, heq, CarriesCovered]

/-- The second bytes carry into the third, and the first bytes cover what the swap takes of it. -/
theorem subtract_iff_carry :
    (∃ checksum', subtract .little ⟨0x010001 * 2 ^ 104, by norm_num⟩ [0, 1, 0, 0, 0, 0, 0, 0] =
        .ok checksum' ∧ checksum'.calculate = .ok (onesChecksum [1, 0xFF, 0, 0, 0, 0, 0, 0])) ↔
      CarriesCovered .little [0, 1, 0, 0, 0, 0, 0, 0] [1, 0xFF, 0, 0, 0, 0, 0, 0] :=
  subtract_iff .little _ _ _ (by decide) (by decide) (by decide +kernel)

/-- The low byte of a first word carries into the next byte, which the swap puts below it. -/
theorem not_subtract :
    ¬ ∀ (endian : Endian) (a b : List UInt8) (checksum : InternetChecksum),
      (a ++ b).length < 2 ^ 64 → Even a.length → Even b.length →
      new.add endian (a ++ b) = .ok checksum →
      ∃ checksum', checksum.subtract endian a = .ok checksum' ∧
        checksum'.calculate = .ok (onesChecksum b) := by
  intro h
  obtain ⟨checksum', hchecksum, -⟩ := h .little [0xFF, 0, 0, 0, 0, 0, 0, 0]
    [1, 0, 0, 0, 0, 0, 0, 0] ⟨2 ^ 112, by norm_num⟩ (by decide) (by decide) (by decide)
    (by decide +kernel)
  revert hchecksum
  have hpanic : subtract .little ⟨2 ^ 112, by norm_num⟩ [0xFF, 0, 0, 0, 0, 0, 0, 0] =
      .error .panic := by decide +kernel
  rw [hpanic]
  rintro ⟨⟩

end RustyRouter.InternetChecksum
