/-
# Octet strings and the numbers they denote

A byte string read in network order (`beNat`) or in the opposite order
(`leNat`), and the fixed-width network-order encoding of a number (`beBytes`).
Decoding an encoding gives the number back modulo the width
(`beNat_beBytes`), encoding what a string denotes gives the string back
(`beBytes_beNat`), and reversing the string exchanges the two readings
(`leNat_reverse`), so the byte swap of a fixed-width word is `swapBytes`.

A swap does not respect addition: what a column carries goes to the byte that
the swap puts below it (`sum_swapBytes`).
-/
import Mathlib

namespace Octets

/-- The number a byte string denotes with the most significant byte first. -/
def beNat : List UInt8 → ℕ
  | [] => 0
  | b :: l => b.toNat * 256 ^ l.length + beNat l

/-- The number a byte string denotes with the least significant byte first. -/
def leNat : List UInt8 → ℕ
  | [] => 0
  | b :: l => b.toNat + 256 * leNat l

/-- The `n` low-order bytes of `x`, most significant first. -/
def beBytes : ℕ → ℕ → List UInt8
  | 0, _ => []
  | n + 1, x => UInt8.ofNat (x / 256 ^ n) :: beBytes n x

/-- The `n`-byte word `x` with its bytes in the opposite order. -/
def swapBytes (n x : ℕ) : ℕ := leNat (beBytes n x)

@[simp] theorem length_beBytes (n x : ℕ) : (beBytes n x).length = n := by
  induction n with
  | zero => rfl
  | succ n ih => simp [beBytes, ih]

/-- Decoding an encoding gives the number back, modulo the width. -/
theorem beNat_beBytes (n x : ℕ) : beNat (beBytes n x) = x % 256 ^ n := by
  induction n with
  | zero => simp [beBytes, beNat, Nat.mod_one]
  | succ n ih =>
    rw [beBytes, beNat, ih, length_beBytes, pow_succ, Nat.mod_mul]
    have hbyte : (UInt8.ofNat (x / 256 ^ n)).toNat = x / 256 ^ n % 256 := by simp
    rw [hbyte]
    ring

/-- Decoding the encoding of a number that fits gives the number back. -/
theorem beNat_beBytes_of_lt {n x : ℕ} (h : x < 256 ^ n) : beNat (beBytes n x) = x := by
  rw [beNat_beBytes, Nat.mod_eq_of_lt h]

theorem beNat_append (l l' : List UInt8) :
    beNat (l ++ l') = beNat l * 256 ^ l'.length + beNat l' := by
  induction l with
  | nil => simp [beNat]
  | cons b l ih =>
    rw [List.cons_append, beNat, beNat, ih, List.length_append, pow_add]
    ring

/-- Reversing a byte string exchanges the two readings. -/
theorem leNat_reverse (l : List UInt8) : leNat l.reverse = beNat l := by
  induction l using List.reverseRecOn with
  | nil => rfl
  | append_singleton l b ih =>
    rw [List.reverse_append, List.reverse_singleton, List.singleton_append, leNat, ih,
      beNat_append]
    simp [beNat]
    ring

theorem leNat_lt (l : List UInt8) : leNat l < 256 ^ l.length := by
  induction l with
  | nil => simp [leNat]
  | cons b l ih =>
    have hb := b.toNat_lt
    rw [leNat, List.length_cons, pow_succ]
    omega

theorem beNat_lt (l : List UInt8) : beNat l < 256 ^ l.length := by
  have h := leNat_lt l.reverse
  rwa [leNat_reverse, List.length_reverse] at h

theorem leNat_append (l l' : List UInt8) :
    leNat (l ++ l') = leNat l + 256 ^ l.length * leNat l' := by
  induction l with
  | nil => simp [leNat]
  | cons b l ih =>
    rw [List.cons_append, leNat, leNat, ih, List.length_cons, pow_succ]
    ring

/-- Zeros at the end of a byte string shift the number that it denotes. -/
theorem beNat_append_replicate_zero (l : List UInt8) (n : ℕ) :
    beNat (l ++ List.replicate n 0) = beNat l * 256 ^ n := by
  have hzero : beNat (List.replicate n 0) = 0 := by
    induction n with
    | zero => rfl
    | succ n ih =>
      rw [List.replicate_succ, beNat, ih]
      simp
  rw [beNat_append, hzero, List.length_replicate, add_zero]

/-- The number that a byte string denotes, as a sum over its places. -/
theorem beNat_eq_sum (l : List UInt8) : beNat l =
    ((List.range l.length).map fun i => (l.getD i 0).toNat * 256 ^ (l.length - 1 - i)).sum := by
  induction l with
  | nil => rfl
  | cons b l ih =>
    rw [beNat, ih, List.length_cons, List.range_succ_eq_map, List.map_cons, List.sum_cons,
      List.map_map]
    congr 2
    apply List.map_congr_left
    intro i _
    show _ = (l.getD i 0).toNat * 256 ^ (l.length + 1 - 1 - (i + 1))
    rw [Nat.add_sub_cancel, Nat.sub_sub, Nat.add_comm 1 i]

/-- Byte strings of one length that denote one number are equal. -/
theorem eq_of_beNat_eq {l l' : List UInt8} (hlen : l.length = l'.length)
    (h : beNat l = beNat l') : l = l' := by
  induction l generalizing l' with
  | nil => exact (List.length_eq_zero_iff.mp hlen.symm).symm
  | cons b l ih =>
    cases l' with
    | nil => cases hlen
    | cons b' l' =>
      rw [List.length_cons, List.length_cons, Nat.add_right_cancel_iff] at hlen
      have hrest := beNat_lt l
      have hrest' := beNat_lt l'
      rw [beNat, beNat, ← hlen] at h
      rw [← hlen] at hrest'
      obtain ⟨width, hwidth⟩ : ∃ width, 256 ^ l.length = width := ⟨_, rfl⟩
      rw [hwidth] at h hrest hrest'
      -- the first byte is the quotient by the width of the rest
      have hdiv : ∀ {b n : ℕ}, n < width → (b * width + n) / width = b := by
        intro b n hn
        rw [Nat.mul_comm, Nat.mul_add_div (Nat.zero_lt_of_lt hn), Nat.div_eq_of_lt hn, add_zero]
      have hbyte : b.toNat = b'.toNat := by
        calc
          b.toNat = (b.toNat * width + beNat l) / width := (hdiv hrest).symm
          _ = (b'.toNat * width + beNat l') / width := by rw [h]
          _ = b'.toNat := hdiv hrest'
      rw [hbyte, Nat.add_left_cancel_iff] at h
      rw [UInt8.toNat_inj.mp hbyte, ih hlen h]

/-- Encoding the number that a byte string denotes gives the string back. -/
theorem beBytes_beNat {n : ℕ} {l : List UInt8} (h : l.length = n) : beBytes n (beNat l) = l := by
  refine eq_of_beNat_eq ((length_beBytes n _).trans h.symm) ?_
  exact beNat_beBytes_of_lt (h ▸ beNat_lt l)

/-! ## Byte swaps -/

/-- The encoding of a number is that of its high part and that of its low part. -/
theorem beBytes_add (m n x : ℕ) : beBytes (m + n) x = beBytes m (x / 256 ^ n) ++ beBytes n x := by
  induction m with
  | zero => rw [Nat.zero_add, beBytes, List.nil_append]
  | succ m ih =>
    rw [Nat.add_right_comm, beBytes, ih, beBytes, List.cons_append, Nat.div_div_eq_div_mul,
      ← pow_add, Nat.add_comm n m]

theorem beBytes_mod (n x : ℕ) : beBytes n (x % 256 ^ n) = beBytes n x := by
  refine eq_of_beNat_eq ?_ ?_
  · rw [length_beBytes, length_beBytes]
  · rw [beNat_beBytes, beNat_beBytes, Nat.mod_mod]

theorem swapBytes_lt (n x : ℕ) : swapBytes n x < 256 ^ n := by
  have h := leNat_lt (beBytes n x)
  rwa [length_beBytes] at h

/-- A byte swap exchanges the halves of a word, each with its bytes swapped. -/
theorem swapBytes_add (m n x : ℕ) :
    swapBytes (m + n) x = swapBytes m (x / 256 ^ n) + 256 ^ m * swapBytes n (x % 256 ^ n) := by
  unfold swapBytes
  rw [beBytes_add, leNat_append, length_beBytes, beBytes_mod]

/-- Swapping the bytes of a word twice gives the word back. -/
theorem swapBytes_swapBytes {n x : ℕ} (h : x < 256 ^ n) : swapBytes n (swapBytes n x) = x := by
  have hlen : (beBytes n x).reverse.length = n := by
    rw [List.length_reverse, length_beBytes]
  have hswap : swapBytes n x = beNat (beBytes n x).reverse := by
    rw [← leNat_reverse, List.reverse_reverse, swapBytes]
  rw [hswap, swapBytes, beBytes_beNat hlen, leNat_reverse, beNat_beBytes_of_lt h]

/-- One more byte of a number is the lowest of its swap. -/
theorem swapBytes_succ (n x : ℕ) :
    swapBytes (n + 1) x = 256 * swapBytes n x + x / 256 ^ n % 256 := by
  have hbyte : swapBytes 1 (x / 256 ^ n) = x / 256 ^ n % 256 := by
    simp [swapBytes, beBytes, leNat]
  have hlow : swapBytes n (x % 256 ^ n) = swapBytes n x := by
    rw [swapBytes, beBytes_mod, swapBytes]
  rw [Nat.add_comm n 1, swapBytes_add, hbyte, hlow, pow_one]
  omega

/-- Swapping what is read with the least significant byte first reads it in network order. -/
theorem swapBytes_leNat {l : List UInt8} {n : ℕ} (h : l.length = n) :
    swapBytes n (leNat l) = beNat l := by
  have hlen : l.reverse.length = n := by
    rw [List.length_reverse, h]
  have hrev : leNat l = beNat l.reverse := by
    rw [← leNat_reverse, List.reverse_reverse]
  rw [hrev, swapBytes, beBytes_beNat hlen, leNat_reverse]

/-! ## Carries -/

/-- What is carried into a byte when numbers are added column by column. -/
def carry (numbers : List ℕ) (j : ℕ) : ℕ := (numbers.map (· % 256 ^ j)).sum / 256 ^ j

/-- The carries into the first bytes, read with the last of them least significant. -/
def carried (numbers : List ℕ) : ℕ → ℕ
  | 0 => 0
  | n + 1 => 256 * carried numbers n + carry numbers n

theorem carry_zero (numbers : List ℕ) : carry numbers 0 = 0 := by
  have hzero : numbers.map (· % 256 ^ 0) = numbers.map fun _ => 0 := by
    simp [Nat.mod_one]
  rw [carry, hzero]
  simp

/-- Nothing is carried out of a sum that fits its width. -/
theorem carry_of_lt {numbers : List ℕ} {n : ℕ} (h : numbers.sum < 256 ^ n) :
    carry numbers n = 0 := by
  have hle : (numbers.map (· % 256 ^ n)).sum ≤ (numbers.map id).sum :=
    List.sum_le_sum fun x _ => Nat.mod_le x _
  rw [List.map_id] at hle
  exact Nat.div_eq_of_lt (lt_of_le_of_lt hle h)

theorem sum_mod_succ (numbers : List ℕ) (j : ℕ) :
    (numbers.map (· % 256 ^ (j + 1))).sum =
      (numbers.map (· % 256 ^ j)).sum + 256 ^ j * (numbers.map (· / 256 ^ j % 256)).sum := by
  induction numbers with
  | nil => simp
  | cons x numbers ih =>
    simp only [List.map_cons, List.sum_cons]
    rw [ih, pow_succ, Nat.mod_mul]
    ring

theorem sum_mod_pow (numbers : List ℕ) (j : ℕ) :
    (numbers.map (· % 256 ^ j)).sum % 256 ^ j = numbers.sum % 256 ^ j := by
  induction numbers with
  | nil => rfl
  | cons x numbers ih =>
    simp only [List.map_cons, List.sum_cons]
    rw [Nat.add_mod, Nat.mod_mod, ih, ← Nat.add_mod]

/-- A column of a sum: its byte and the carry out are the bytes above it and the carry in. -/
theorem byte_add_carry (numbers : List ℕ) (j : ℕ) :
    numbers.sum / 256 ^ j % 256 + 256 * carry numbers (j + 1) =
      carry numbers j + (numbers.map (· / 256 ^ j % 256)).sum := by
  have hpos : 0 < 256 ^ j := Nat.pow_pos (by norm_num)
  obtain ⟨column, hcolumn⟩ : ∃ column,
      carry numbers j + (numbers.map (· / 256 ^ j % 256)).sum = column := ⟨_, rfl⟩
  -- the lower columns together, divided by the place of this one
  have htotal : (numbers.map (· % 256 ^ (j + 1))).sum / 256 ^ j = column := by
    rw [sum_mod_succ, Nat.add_mul_div_left _ _ hpos]
    exact hcolumn
  have hout : carry numbers (j + 1) = column / 256 := by
    rw [carry, pow_succ, ← Nat.div_div_eq_div_mul, ← pow_succ, htotal]
  have hbyte : numbers.sum / 256 ^ j % 256 = column % 256 := by
    rw [← htotal, ← Nat.mod_mul_right_div_self, ← Nat.mod_mul_right_div_self, ← pow_succ,
      sum_mod_pow]
  rw [hcolumn, hout, hbyte]
  omega

/-- **The swap of a sum.**  Each carry goes to the next byte, which the swap puts below its own, so
the swap of a sum is the sum of the swaps less 65535 for each carry at its place. -/
theorem sum_swapBytes (numbers : List ℕ) (n : ℕ) :
    (numbers.map (swapBytes n)).sum =
      swapBytes n numbers.sum + 256 * carry numbers n + 65535 * carried numbers n := by
  induction n with
  | zero =>
    have hzero : swapBytes 0 = fun _ => 0 := rfl
    simp [hzero, carry_zero, carried]
  | succ n ih =>
    have hstep : (numbers.map (swapBytes (n + 1))).sum =
        256 * (numbers.map (swapBytes n)).sum + (numbers.map (· / 256 ^ n % 256)).sum := by
      rw [← List.sum_map_mul_left, ← List.sum_map_add, funext (swapBytes_succ n)]
    have hcolumn := byte_add_carry numbers n
    rw [hstep, ih, swapBytes_succ, carried]
    omega

/-- A byte string denotes zero only when all its bytes are zero. -/
theorem beNat_eq_zero {l : List UInt8} : beNat l = 0 ↔ ∀ b ∈ l, b = 0 := by
  induction l with
  | nil => simp [beNat]
  | cons b l ih =>
    have hb : b.toNat = 0 ↔ b = 0 := by
      rw [← UInt8.toNat_inj, UInt8.toNat_zero]
    rw [beNat, Nat.add_eq_zero_iff, ih, List.forall_mem_cons, mul_eq_zero, hb]
    simp

theorem leNat_eq_zero {l : List UInt8} : leNat l = 0 ↔ ∀ b ∈ l, b = 0 := by
  have h := beNat_eq_zero (l := l.reverse)
  rw [← leNat_reverse, List.reverse_reverse] at h
  simpa using h

end Octets
