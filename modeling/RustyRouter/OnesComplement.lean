/-
# One's-complement sums of 16-bit words

`wordSum l` is the plain sum of the big-endian 16-bit words of a byte string,
its last byte padded with zero when the length is odd.  One's-complement
addition identifies two sums exactly when they agree modulo `65535` and vanish
together; this is `Congr`.  A class has one number of 16 bits (`Congr.eq_of_le`), and
adding the words with end-around carry ends in it (`onesSum_congr`).  Three facts
carry the checksum proofs:

* folding a number at a multiple of 16 bits keeps its class (`fold_congr`);
* a byte string of even length read as one number, in either byte order, lies
  in the class of its word sum, up to a factor `256` for the reversed order
  (`beNat_congr_wordSum`, `leNat_congr_wordSum`);
* adding the carry of a sum below `2 ^ 32` once and dropping what leaves 16 bits
  is right exactly when that addition does not carry (`foldOnce_eq_iff`).
-/
import RustyRouter.Octets

namespace OnesComplement

open Octets

/-! ## Word sums -/

/-- The sum of the big-endian 16-bit words of a byte string, padded with a zero byte. -/
def wordSum : List UInt8 → ℕ
  | [] => 0
  | [a] => 256 * a.toNat
  | a :: b :: l => 256 * a.toNat + b.toNat + wordSum l

/-- The words of two parts, when the first has an even length. -/
theorem wordSum_append {l : List UInt8} (hl : Even l.length) (l' : List UInt8) :
    wordSum (l ++ l') = wordSum l + wordSum l' := by
  induction l using wordSum.induct with
  | case1 => simp [wordSum]
  | case2 a => simp at hl
  | case3 a b l ih =>
    have hl' : Even l.length := by
      simpa [Nat.even_add_one] using hl
    rw [List.cons_append, List.cons_append, wordSum, wordSum, ih hl']
    ring

/-- A number in front is one word more. -/
theorem wordSum_beBytes_two_append (n : UInt16) (l : List UInt8) :
    wordSum (beBytes 2 n.toNat ++ l) = n.toNat + wordSum l := by
  have h := n.toNat_lt
  simp [beBytes, wordSum]
  omega

/-- The word sums of byte strings that differ in one word at an even offset differ as the words
do. -/
theorem wordSum_replace {l l' : List UInt8} (hlen : l.length = l'.length) {i : ℕ} (hi : Even i)
    (hlast : i + 2 ≤ l.length) (hsame : ∀ j, j ≠ i → j ≠ i + 1 → l[j]? = l'[j]?) :
    wordSum l + wordSum ((l'.take (i + 2)).drop i) =
      wordSum l' + wordSum ((l.take (i + 2)).drop i) := by
  have hsplit : ∀ m : List UInt8, i + 2 ≤ m.length → wordSum m =
      wordSum (m.take i) + (wordSum ((m.take (i + 2)).drop i) + wordSum (m.drop (i + 2))) := by
    intro m hm
    have hword : Even ((m.take (i + 2)).drop i).length := by
      rw [List.length_drop, List.length_take, Nat.min_eq_left hm, Nat.add_sub_cancel_left]
      decide
    have hfront : Even (m.take i).length := by
      rwa [List.length_take, Nat.min_eq_left (by omega)]
    rw [← wordSum_append hword, ← wordSum_append hfront]
    congr 1
    conv_lhs => rw [← List.take_append_drop i m, ← List.take_append_drop 2 (m.drop i),
      List.drop_drop, List.take_drop]
  have hfront : l.take i = l'.take i := by
    apply List.ext_getElem?
    intro j
    rw [List.getElem?_take, List.getElem?_take]
    split_ifs with hj
    · exact hsame j (by omega) (by omega)
    · rfl
  have hback : l.drop (i + 2) = l'.drop (i + 2) := by
    apply List.ext_getElem?
    intro j
    rw [List.getElem?_drop, List.getElem?_drop, hsame _ (by omega) (by omega)]
  rw [hsplit l hlast, hsplit l' (hlen ▸ hlast), hfront, hback]
  omega

/-- One more byte of the data adds its network-order share to the word sum. -/
theorem wordSum_concat (l : List UInt8) (b : UInt8) :
    wordSum (l ++ [b]) = wordSum l + b.toNat * 256 ^ (1 - l.length % 2) := by
  induction l using wordSum.induct with
  | case1 => simp [wordSum, mul_comm]
  | case2 a => simp [wordSum]
  | case3 a c l ih =>
    rw [List.cons_append, List.cons_append, wordSum, wordSum, ih]
    have hpar : (a :: c :: l).length % 2 = l.length % 2 := by
      simp only [List.length_cons]
      omega
    rw [hpar]
    ring

/-- A word sum vanishes only when all the bytes are zero. -/
theorem wordSum_eq_zero {l : List UInt8} : wordSum l = 0 ↔ ∀ b ∈ l, b = 0 := by
  have hbyte : ∀ b : UInt8, b.toNat = 0 ↔ b = 0 := by
    intro b
    rw [← UInt8.toNat_inj, UInt8.toNat_zero]
  induction l using wordSum.induct with
  | case1 => simp [wordSum]
  | case2 a => simp [wordSum, hbyte]
  | case3 a b l ih => simp [wordSum, hbyte, ih, and_assoc]

/-- Zeros at the end add nothing to a word sum. -/
theorem wordSum_append_replicate_zero (l : List UInt8) (n : ℕ) :
    wordSum (l ++ List.replicate n 0) = wordSum l := by
  have hzero : ∀ n, wordSum (List.replicate n 0) = 0 := by
    intro n
    rw [wordSum_eq_zero]
    intro b hb
    exact List.eq_of_mem_replicate hb
  induction l using wordSum.induct with
  | case1 => exact hzero n
  | case2 a =>
    cases n with
    | zero => rfl
    | succ n =>
      show 256 * a.toNat + (0 : UInt8).toNat + wordSum (List.replicate n 0) = 256 * a.toNat
      rw [hzero, UInt8.toNat_zero, add_zero, add_zero]
  | case3 a b l ih => rw [List.cons_append, List.cons_append, wordSum, wordSum, ih]

/-- Every word of the sum is below `65536`. -/
theorem wordSum_le (l : List UInt8) : wordSum l ≤ 65535 * ((l.length + 1) / 2) := by
  induction l using wordSum.induct with
  | case1 => simp [wordSum]
  | case2 a =>
    have ha := a.toNat_lt
    simp [wordSum]
    omega
  | case3 a b l ih =>
    have ha := a.toNat_lt
    have hb := b.toNat_lt
    simp only [wordSum, List.length_cons]
    omega

/-! ## The class of a sum -/

/-- Two sums with the same one's-complement value: equal modulo `65535`, and zero together. -/
structure Congr (x y : ℕ) : Prop where
  modEq : x ≡ y [MOD 65535]
  zero_iff : x = 0 ↔ y = 0

/-- Every sum is congruent to itself. -/
@[refl] theorem Congr.refl (x : ℕ) : Congr x x := ⟨rfl, Iff.rfl⟩

/-- The congruence is symmetric. -/
theorem Congr.symm {x y : ℕ} (h : Congr x y) : Congr y x := ⟨h.modEq.symm, h.zero_iff.symm⟩

/-- The congruence is transitive. -/
theorem Congr.trans {x y z : ℕ} (h : Congr x y) (h' : Congr y z) : Congr x z :=
  ⟨h.modEq.trans h'.modEq, h.zero_iff.trans h'.zero_iff⟩

/-- Congruent sums stay congruent when congruent ones are added. -/
theorem Congr.add {x y x' y' : ℕ} (h : Congr x y) (h' : Congr x' y') :
    Congr (x + x') (y + y') := by
  refine ⟨h.modEq.add h'.modEq, ?_⟩
  rw [Nat.add_eq_zero_iff, Nat.add_eq_zero_iff, h.zero_iff, h'.zero_iff]

/-- Taking a class off a sum leaves the other class, except for what is zero there. -/
theorem Congr.sub_iff {x w y z : ℕ} (h : Congr x (y + z)) (hw : Congr w y) (hle : w ≤ x) :
    Congr (x - w) z ↔ (w = x ↔ z = 0) := by
  have hmod : x - w ≡ z [MOD 65535] := by
    refine hw.modEq.add_left_cancel ?_
    rw [Nat.add_sub_cancel' hle]
    exact h.modEq
  constructor
  · intro hz
    have hzero := hz.zero_iff
    omega
  · intro hz
    exact ⟨hmod, by omega⟩

/-- Multiplying by `256` twice keeps the class, as `256 * 256` is one modulo `65535`. -/
theorem congr_of_mul_256 {x y : ℕ} (h : Congr x (256 * (256 * y))) : Congr x y := by
  have hmod : x % 65535 = 256 * (256 * y) % 65535 := h.modEq
  have hzero := h.zero_iff
  refine ⟨?_, by omega⟩
  show x % 65535 = y % 65535
  omega

/-- Swapping the bytes of both sums keeps them congruent. -/
theorem Congr.mul_256 {x y : ℕ} (h : Congr x y) : Congr (256 * x) (256 * y) := by
  have hzero := h.zero_iff
  exact ⟨h.modEq.mul_left 256, by omega⟩

/-- A class has one number of 16 bits. -/
theorem Congr.eq_of_le {v w : ℕ} (h : Congr v w) (hv : v ≤ 65535) (hw : w ≤ 65535) : v = w := by
  have hmod : v % 65535 = w % 65535 := h.modEq
  have hzero := h.zero_iff
  omega

/-! ## Folding -/

/-- The low `k` bits plus the rest. -/
def fold (k x : ℕ) : ℕ := x % 2 ^ k + x / 2 ^ k

/-- Folding at a multiple of 16 bits keeps the class. -/
theorem fold_congr (m x : ℕ) : Congr (fold (16 * m) x) x := by
  have hpow : 2 ^ (16 * m) ≡ 1 [MOD 65535] := by
    have h : (2 ^ 16) ^ m ≡ 1 ^ m [MOD 65535] := Nat.ModEq.pow m (by decide)
    rwa [← pow_mul, one_pow] at h
  have hx := Nat.div_add_mod x (2 ^ (16 * m))
  refine ⟨?_, ?_⟩
  · have hmul : 2 ^ (16 * m) * (x / 2 ^ (16 * m)) ≡ 1 * (x / 2 ^ (16 * m)) [MOD 65535] :=
      hpow.mul_right _
    have hsum := hmul.symm.add_right (x % 2 ^ (16 * m))
    rw [hx, one_mul, Nat.add_comm] at hsum
    exact hsum
  · rw [fold, Nat.add_eq_zero_iff]
    constructor
    · rintro ⟨hmod, hdiv⟩
      rw [← hx, hmod, hdiv]
      simp
    · rintro rfl
      simp

/-- Folding does not make a sum larger. -/
theorem fold_le (k x : ℕ) : fold k x ≤ x := by
  have hle := Nat.le_mul_of_pos_left (x / 2 ^ k) (Nat.two_pow_pos k)
  have hx := Nat.mod_add_div x (2 ^ k)
  rw [fold]
  omega

/-- Two folds at `k` bits bring `2 * k` bits down to `k`. -/
theorem fold_fold_lt {k x : ℕ} (hx : x < 2 ^ (2 * k)) : fold k (fold k x) < 2 ^ k := by
  have hpos : 0 < 2 ^ k := Nat.two_pow_pos k
  have hdiv : x / 2 ^ k < 2 ^ k := by
    rw [Nat.div_lt_iff_lt_mul hpos, ← pow_add, ← two_mul]
    exact hx
  have hmod := Nat.mod_lt x hpos
  set y := fold k x with hy
  have hle : y + 2 ≤ 2 * 2 ^ k := by
    rw [hy, fold]
    omega
  rw [fold]
  rcases Nat.lt_or_ge y (2 ^ k) with hlt | hge
  · rw [Nat.mod_eq_of_lt hlt, Nat.div_eq_of_lt hlt]
    omega
  · have hone : y / 2 ^ k = 1 := by
      apply Nat.div_eq_of_lt_le <;> omega
    have hrest := Nat.div_add_mod y (2 ^ k)
    rw [hone] at hrest ⊢
    omega

/-! ## Addition with end-around carry -/

/-- One's-complement addition: a carry out of 16 bits is added back in. -/
def endAroundAdd (x y : ℕ) : ℕ := (x + y) % 65536 + (x + y) / 65536

/-- Adding with the carry brought around is adding, up to the congruence. -/
theorem endAroundAdd_congr (x y : ℕ) : Congr (endAroundAdd x y) (x + y) := fold_congr 1 (x + y)

/-- With the carry brought around a sum stays within 16 bits. -/
theorem endAroundAdd_le {x y : ℕ} (hx : x ≤ 65535) (hy : y ≤ 65535) :
    endAroundAdd x y ≤ 65535 := by
  unfold endAroundAdd
  omega

/-- The one's-complement sum of the big-endian 16-bit words of a byte string, padded with a zero
byte. -/
def onesSum : List UInt8 → ℕ
  | [] => 0
  | [a] => 256 * a.toNat
  | a :: b :: l => endAroundAdd (256 * a.toNat + b.toNat) (onesSum l)

/-- The sum of the words stays within 16 bits. -/
theorem onesSum_le (l : List UInt8) : onesSum l ≤ 65535 := by
  induction l using onesSum.induct with
  | case1 => simp [onesSum]
  | case2 a =>
    have ha := a.toNat_lt
    unfold onesSum
    omega
  | case3 a b l ih =>
    have ha := a.toNat_lt
    have hb := b.toNat_lt
    exact endAroundAdd_le (by omega) ih

/-- The sum with the carries brought around is the sum of the words, up to the congruence. -/
theorem onesSum_congr (l : List UInt8) : Congr (onesSum l) (wordSum l) := by
  induction l using onesSum.induct with
  | case1 => rfl
  | case2 a => rfl
  | case3 a b l ih => exact (endAroundAdd_congr _ _).trans ((Congr.refl _).add ih)

/-- The Internet checksum: the one's complement of the one's-complement sum. -/
def onesChecksum (l : List UInt8) : UInt16 := UInt16.ofNat (65535 - onesSum l)

/-- The checksum is the complement of the sum. -/
theorem toNat_onesChecksum (l : List UInt8) : (onesChecksum l).toNat = 65535 - onesSum l := by
  rw [onesChecksum, UInt16.toNat_ofNat']
  omega

/-- A byte string whose words are those of another and its checksum has checksum zero. -/
theorem onesChecksum_eq_zero {l l' : List UInt8}
    (h : wordSum l' = wordSum l + (onesChecksum l).toNat) : onesChecksum l' = 0 := by
  have hle := onesSum_le l
  have hsum := onesSum_congr l
  have hmod : onesSum l % 65535 = wordSum l % 65535 := hsum.modEq
  have hzero := hsum.zero_iff
  rw [toNat_onesChecksum] at h
  have hones : Congr 65535 (wordSum l') := by
    rw [h]
    refine ⟨?_, by omega⟩
    show 65535 % 65535 = (wordSum l + (65535 - onesSum l)) % 65535
    omega
  have heq : onesSum l' = 65535 :=
    ((onesSum_congr l').trans hones.symm).eq_of_le (onesSum_le l') le_rfl
  rw [onesChecksum, heq]
  rfl

/-! ## One fold -/

/-- Adding the carry of a sum gives a carry again. -/
def CarriesTwice (s : ℕ) : Prop := 65536 ≤ s % 65536 + s / 65536

instance (s : ℕ) : Decidable (CarriesTwice s) :=
  inferInstanceAs (Decidable (65536 ≤ s % 65536 + s / 65536))

/-- One fold of a sum of 32 bits is one short of its one's-complement value if the sum carries
twice, and is that value if not. -/
theorem foldOnce_eq {v s : ℕ} (hs : s < 2 ^ 32) (hv : v ≤ 65535) (h : Congr v s) :
    (s + s / 65536) % 65536 + (if CarriesTwice s then 1 else 0) = v := by
  have hmod : v % 65535 = s % 65535 := h.modEq
  have hzero := h.zero_iff
  have hcarry : CarriesTwice s ↔ 65536 ≤ s % 65536 + s / 65536 := Iff.rfl
  obtain ⟨q, hq⟩ : ∃ q, s / 65536 = q := ⟨_, rfl⟩
  obtain ⟨r, hr⟩ : ∃ r, s % 65536 = r := ⟨_, rfl⟩
  -- `r + q` and `v` share a class, so a carry of 65536 is never a multiple of 65535
  have hlow : (s + q) % 65536 = (r + q) % 65536 := by omega
  have hclass : s % 65535 = (r + q) % 65535 := by omega
  rw [hq, hr] at hcarry
  rw [hq, hlow]
  split_ifs with hcarries
  · rw [hcarry] at hcarries
    have hrest : (r + q) % 65536 = r + q - 65536 := by omega
    omega
  · rw [hcarry, not_le] at hcarries
    rw [Nat.mod_eq_of_lt hcarries]
    omega

/-- Adding the carry once and keeping 16 bits gives the one's-complement value exactly when
that addition does not carry itself. -/
theorem foldOnce_eq_iff {v s : ℕ} (hs : s < 2 ^ 32) (hv : v ≤ 65535) (h : Congr v s) :
    (s + s / 65536) % 65536 = v ↔ s % 65536 + s / 65536 < 65536 := by
  have heq := foldOnce_eq hs hv h
  rw [← not_le]
  show _ ↔ ¬ CarriesTwice s
  split_ifs at heq with hcarries
  · exact iff_of_false (by omega) (not_not.mpr hcarries)
  · exact iff_of_true heq hcarries

/-- One fold tells two sums apart that differ in one word, unless the words are the two zeros. -/
theorem foldOnce_ne {s s' a b : ℕ} (h : s + b = s' + a) (ha : a ≤ 65535) (hb : b ≤ 65535)
    (hne : a ≠ b) (hzeros : ¬ (a = 0 ∧ b = 65535)) (hzeros' : ¬ (a = 65535 ∧ b = 0)) :
    (s + s / 65536) % 65536 ≠ (s' + s' / 65536) % 65536 := by
  obtain ⟨q, hq⟩ : ∃ q, s / 65536 = q := ⟨_, rfl⟩
  obtain ⟨q', hq'⟩ : ∃ q', s' / 65536 = q' := ⟨_, rfl⟩
  rw [hq, hq']
  -- the sums differ by less than 65535, so that their carries differ by at most one
  have hcases : q' = q ∨ q' = q + 1 ∨ q = q' + 1 := by omega
  rcases hcases with rfl | rfl | rfl <;> omega

/-! ## Byte strings of even length -/

/-- Two bytes further up a number counts the same. -/
theorem pow_256_modEq_one {k : ℕ} (hk : Even k) : 256 ^ k ≡ 1 [MOD 65535] := by
  obtain ⟨m, rfl⟩ := hk
  have h : (256 ^ 2) ^ m ≡ 1 ^ m [MOD 65535] := Nat.ModEq.pow m (by decide)
  rwa [← pow_mul, one_pow, two_mul] at h

/-- A number in bytes is the sum of its words. -/
theorem beNat_congr_wordSum {l : List UInt8} (hl : Even l.length) :
    Congr (beNat l) (wordSum l) := by
  refine ⟨?_, by rw [beNat_eq_zero, wordSum_eq_zero]⟩
  induction l using wordSum.induct with
  | case1 => rfl
  | case2 a => simp at hl
  | case3 a b l ih =>
    have hl' : Even l.length := by
      simpa [Nat.even_add_one] using hl
    have hpow := pow_256_modEq_one hl'
    rw [beNat, beNat, wordSum, ← Nat.add_assoc, List.length_cons, pow_succ]
    have hword : a.toNat * (256 ^ l.length * 256) + b.toNat * 256 ^ l.length
        = (256 * a.toNat + b.toNat) * 256 ^ l.length := by ring
    rw [hword]
    have hfirst := hpow.mul_left (256 * a.toNat + b.toNat)
    rw [mul_one] at hfirst
    exact hfirst.add (ih hl')

/-- A number in reversed bytes is the sum of its words with the bytes swapped. -/
theorem leNat_congr_wordSum {l : List UInt8} (hl : Even l.length) :
    Congr (leNat l) (256 * wordSum l) := by
  have hzero : leNat l = 0 ↔ 256 * wordSum l = 0 := by
    rw [leNat_eq_zero, mul_eq_zero, wordSum_eq_zero]
    simp
  refine ⟨?_, hzero⟩
  clear hzero
  induction l using wordSum.induct with
  | case1 => rfl
  | case2 a => simp at hl
  | case3 a b l ih =>
    have hl' : Even l.length := by
      simpa [Nat.even_add_one] using hl
    have hrec : leNat l % 65535 = 256 * wordSum l % 65535 := ih hl'
    rw [leNat, leNat, wordSum]
    show (a.toNat + 256 * (b.toNat + 256 * leNat l)) % 65535
      = 256 * (256 * a.toNat + b.toNat + wordSum l) % 65535
    omega

/-- Swapping the bytes of a word of even width multiplies its class by `256`. -/
theorem swapBytes_congr {n x : ℕ} (hn : Even n) (hx : x < 256 ^ n) :
    Congr (swapBytes n x) (256 * x) := by
  have hlen : Even (beBytes n x).length := by rwa [length_beBytes]
  have hle := leNat_congr_wordSum hlen
  have hbe := beNat_congr_wordSum hlen
  rw [beNat_beBytes_of_lt hx] at hbe
  exact hle.trans ⟨(hbe.modEq.mul_left 256).symm, by have := hbe.zero_iff; omega⟩

end OnesComplement
