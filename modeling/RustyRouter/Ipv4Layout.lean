/-
# Flags on the wire

`Ipv4Flags::new` sets the bit of every flag of a list (`testBit_new`), in the order in
which the flags are declared: the lowest bit is the reserved one.  Both readers of these
bits are wrong about them.  `is_set` compares with all ones, so it answers no for every
flag (`isSet_new_iff`); and the wire has the reserved flag in the highest of its three
bits, so a decoded header follows the layout exactly if its reserved and its
more-fragments bit are the same (`followsLayout_iff`).
-/
import RustyRouter.Ipv4RoundTrip

namespace RustyRouter

open Octets Checked

namespace Ipv4Flags

/-! ## The bits of a set of flags -/

theorem testBit_insert (flags : Ipv4Flags) (flag flag' : Ipv4Flag) :
    (flags.insert flag).toU8.toNat.testBit flag'.asU8.toNat =
      (flags.toU8.toNat.testBit flag'.asU8.toNat || decide (flag' = flag)) := by
  show (flags.flags ||| flag.getValue).toNat.testBit flag'.asU8.toNat = _
  rw [UInt8.toNat_or, Nat.testBit_or]
  congr 1
  cases flag <;> cases flag' <;> rfl

/-- The bit of a flag is set when the flag is one of those given. -/
theorem testBit_new (flags : List Ipv4Flag) (flag : Ipv4Flag) :
    (new flags).toU8.toNat.testBit flag.asU8.toNat = decide (flag ∈ flags) := by
  have hloop : ∀ start : Ipv4Flags, (flags.foldl insert start).toU8.toNat.testBit flag.asU8.toNat =
      (start.toU8.toNat.testBit flag.asU8.toNat || decide (flag ∈ flags)) := by
    induction flags with
    | nil =>
      intro start
      simp
    | cons first flags ih =>
      intro start
      rw [List.foldl_cons, ih, testBit_insert, Bool.or_assoc]
      simp [List.mem_cons, Bool.decide_or]
  have hzero : (0 : UInt8).toNat.testBit flag.asU8.toNat = false := Nat.zero_testBit _
  rw [new, hloop]
  show ((0 : UInt8).toNat.testBit flag.asU8.toNat || _) = _
  rw [hzero, Bool.false_or]

/-- Sets of flags are known by the bits of the three flags. -/
theorem eq_iff_testBit {flags flags' : Ipv4Flags} :
    flags = flags' ↔ ∀ flag : Ipv4Flag, flags.toU8.toNat.testBit flag.asU8.toNat =
      flags'.toU8.toNat.testBit flag.asU8.toNat := by
  refine ⟨fun h _ => by rw [h], fun h => ?_⟩
  apply Ipv4Flags.ext
  rw [← UInt8.toNat_inj]
  apply Nat.eq_of_testBit_eq
  intro i
  by_cases hi : i < 3
  · have hcases : i = 0 ∨ i = 1 ∨ i = 2 := by omega
    rcases hcases with rfl | rfl | rfl
    · exact h .reserved
    · exact h .dontFragment
    · exact h .moreFragments
  · have hwidth : 2 ^ 3 ≤ 2 ^ i := Nat.pow_le_pow_right (by norm_num) (by omega)
    have hhigh : ∀ flags : Ipv4Flags, flags.flags.toNat.testBit i = false := fun flags =>
      Nat.testBit_lt_two_pow (lt_of_lt_of_le flags.toNat_lt hwidth)
    rw [hhigh, hhigh]

/-! ## Asking for a flag -/

/-- No flag is ever found: the discriminants are no number of all ones. -/
theorem isSet_eq_false (flags : Ipv4Flags) (flag : Ipv4Flag) : flags.isSet flag = false := by
  have hle : (flags.flags &&& flag.asU8).toNat ≤ flag.asU8.toNat := by
    rw [UInt8.toNat_and]
    exact Nat.and_le_right
  have hflag : flag.asU8.toNat ≤ 2 := by
    cases flag <;> decide
  rw [isSet, beq_eq_false_iff_ne]
  intro hones
  rw [hones] at hle
  exact absurd (hle.trans hflag) (by decide)

/-- **When flags behave as a set.**  A flag is found in the set of a list, and in what is decoded
from a header with that set, exactly when it occurs in the list, if and only if it does not
occur there. -/
theorem isSet_new_iff (flags : List Ipv4Flag) (flag : Ipv4Flag) :
    (((new flags).isSet flag = true ↔ flag ∈ flags) ∧
        ∀ header : IpV4Header, header.version = .ipv4 → header.flags = new flags →
          header.fragmentOffset = 0 → ∃ decoded, IpV4Header.tryFrom header.toVec = .ok decoded ∧
            (decoded.flags.isSet flag = true ↔ flag ∈ flags)) ↔
      flag ∉ flags := by
  constructor
  · rintro ⟨hset, -⟩ hmem
    have hfound := hset.mpr hmem
    rw [isSet_eq_false] at hfound
    cases hfound
  · intro hnot
    have hfalse : ∀ flags' : Ipv4Flags, flags'.isSet flag = true ↔ flag ∈ flags := by
      intro flags'
      rw [isSet_eq_false]
      exact iff_of_false Bool.false_ne_true hnot
    refine ⟨hfalse _, fun header hversion _ hoffset => ?_⟩
    have hread := header.tryFrom_toVec hversion hoffset []
    rw [List.append_nil] at hread
    exact ⟨_, hread, hfalse _⟩

/-- The flag that a set was made of is not found in it. -/
theorem not_isSet_new :
    ¬ ∀ (flags : List Ipv4Flag) (flag : Ipv4Flag),
      ((new flags).isSet flag = true ↔ flag ∈ flags) ∧
        ∀ header : IpV4Header, header.version = .ipv4 → header.flags = new flags →
          header.fragmentOffset = 0 → ∃ decoded, IpV4Header.tryFrom header.toVec = .ok decoded ∧
            (decoded.flags.isSet flag = true ↔ flag ∈ flags) := by
  intro h
  obtain ⟨hset, -⟩ := h [.dontFragment] .dontFragment
  revert hset
  decide

end Ipv4Flags

/-! ## The layout of a header -/

/-- The place of a flag in the word of the flags and the offset. -/
def Ipv4Flag.wireBit : Ipv4Flag → ℕ
  | .reserved => 15
  | .dontFragment => 14
  | .moreFragments => 13

/-- The flags whose bits are set in the word of the flags and the offset. -/
def Ipv4Flags.onWire (word : UInt16) : List Ipv4Flag :=
  [.reserved, .dontFragment, .moreFragments].filter fun flag => word.toNat.testBit flag.wireBit

theorem Ipv4Flags.mem_onWire {word : UInt16} {flag : Ipv4Flag} :
    flag ∈ onWire word ↔ word.toNat.testBit flag.wireBit = true := by
  rw [onWire, List.mem_filter]
  cases flag <;> simp

namespace IpV4Header

/-- A header whose fields are those that the layout of the protocol has in the slice. -/
structure FollowsLayout (data : List UInt8) (header : IpV4Header) : Prop where
  version : header.version.getValue.toNat = (data.getD 0 0).toNat / 16
  internetHeaderLength : header.internetHeaderLength.toNat = (data.getD 0 0).toNat % 16
  typeOfService : header.typeOfService = data.getD 1 0
  totalLength : header.totalLength = u16At data 2
  identification : header.identification = u16At data 4
  flags : header.flags = .new (Ipv4Flags.onWire (u16At data 6))
  fragmentOffset : header.fragmentOffset.toNat = (u16At data 6).toNat % 2 ^ 13 * 8
  timeToLive : header.timeToLive = data.getD 8 0
  protocol : header.protocol = data.getD 9 0
  headerChecksum : header.headerChecksum = u16At data 10
  sourceAddress : header.sourceAddress = ⟨u32At data 12⟩
  destinationAddress : header.destinationAddress = ⟨u32At data 16⟩

/-- The decoder has a flag at the place of its own bit above the offset. -/
theorem testBit_decoded_flags {data : List UInt8} (h : 8 ≤ data.length) (flag : Ipv4Flag) :
    (decoded data).flags.toU8.toNat.testBit flag.asU8.toNat =
      (u16At data 6).toNat.testBit (13 + flag.asU8.toNat) := by
  have hword := @toNat_u16At data 6 (by omega)
  have hlt := (data.getD (6 + 1) 0).toNat_lt
  have hflags : (decoded data).flags.toU8.toNat = (u16At data 6).toNat / 2 ^ 13 := by
    show ((data.getD 6 0 &&& 0xE0) >>> 5).toNat = _
    rw [toNat_flagBits, hword]
    omega
  rw [hflags, Nat.testBit_div_two_pow, Nat.add_comm]

/-- The flags of a decoded header are those on the wire if the outer two bits are the same. -/
theorem flags_decoded_iff {data : List UInt8} (h : 8 ≤ data.length) :
    (decoded data).flags = .new (Ipv4Flags.onWire (u16At data 6)) ↔
      (u16At data 6).toNat.testBit 15 = (u16At data 6).toNat.testBit 13 := by
  have hwire : ∀ flag : Ipv4Flag,
      (Ipv4Flags.new (Ipv4Flags.onWire (u16At data 6))).toU8.toNat.testBit flag.asU8.toNat =
        (u16At data 6).toNat.testBit flag.wireBit := by
    intro flag
    rw [Ipv4Flags.testBit_new, Bool.eq_iff_iff, decide_eq_true_iff, Ipv4Flags.mem_onWire]
  rw [Ipv4Flags.eq_iff_testBit]
  constructor
  · intro hbits
    have houter := hbits .reserved
    rw [testBit_decoded_flags h, hwire] at houter
    exact houter.symm
  · intro hsame flag
    rw [testBit_decoded_flags h, hwire]
    cases flag with
    | reserved => exact hsame.symm
    | dontFragment => rfl
    | moreFragments => exact hsame

theorem followsLayout_decoded_iff {data : List UInt8} (h : WellFormed data) :
    FollowsLayout data (decoded data) ↔
      (u16At data 6).toNat.testBit 15 = (u16At data 6).toNat.testBit 13 := by
  have hle := h.length_ge
  rw [← flags_decoded_iff (by omega)]
  refine ⟨FollowsLayout.flags, fun hflags => ?_⟩
  exact {
    version := h.version.symm
    internetHeaderLength := toNat_lengthBits _
    typeOfService := rfl
    totalLength := rfl
    identification := rfl
    flags := hflags
    fragmentOffset := by
      show (UInt16.ofNat ((u16At data 6 &&& 0x1FFF).toNat * 8)).toNat = _
      rw [toNat_offsetBits, UInt16.toNat_ofNat_of_lt']
      · rfl
      · show _ < 65536
        omega
    timeToLive := rfl
    protocol := rfl
    headerChecksum := rfl
    sourceAddress := rfl
    destinationAddress := rfl }

/-- **When decoding follows the layout.**  Exactly the well-formed slices are decoded, and every
field is the one the layout has, if and only if the reserved and the more-fragments bit of a
well-formed slice are the same. -/
theorem followsLayout_iff (data : List UInt8) :
    (((∃ header, tryFrom data = .ok header) ↔ WellFormed data) ∧
        ∀ header, tryFrom data = .ok header → FollowsLayout data header) ↔
      (WellFormed data →
        (u16At data 6).toNat.testBit 15 = (u16At data 6).toNat.testBit 13) := by
  constructor
  · rintro ⟨-, hfollows⟩ hwf
    exact (followsLayout_decoded_iff hwf).mp (hfollows _ (tryFrom_eq_ok.mpr ⟨hwf, rfl⟩))
  · intro hsame
    refine ⟨⟨?_, fun hwf => ⟨_, tryFrom_eq_ok.mpr ⟨hwf, rfl⟩⟩⟩, ?_⟩
    · rintro ⟨header, hheader⟩
      exact (tryFrom_eq_ok.mp hheader).1
    · intro header hheader
      obtain ⟨hwf, rfl⟩ := tryFrom_eq_ok.mp hheader
      exact (followsLayout_decoded_iff hwf).mpr (hsame hwf)

/-- A first fragment, of which more follow. -/
def firstFragment : List UInt8 :=
  [0x45, 0, 0x05, 0xDC, 0, 1, 0x20, 0, 64, 89, 0, 0, 10, 0, 0, 1, 10, 0, 0, 2]

/-- A first fragment is decoded with the reserved flag. -/
theorem not_followsLayout :
    ¬ ∀ data : List UInt8, ((∃ header, tryFrom data = .ok header) ↔ WellFormed data) ∧
      ∀ header, tryFrom data = .ok header → FollowsLayout data header := by
  intro h
  have hflags := ((h firstFragment).2 (decoded firstFragment) (by decide +kernel)).flags
  revert hflags
  decide +kernel

end IpV4Header

end RustyRouter
