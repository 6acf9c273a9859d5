/-
# Internet addresses and netmasks

The parts of `std::net` the router uses, `IpAddress` of `rusty-router-model`
with its derived order, and `Ipv4Netmask` of `rusty-router-proto-ip`.
-/
import RustyRouter.Octets

namespace RustyRouter

open Octets

/-- `std::net::Ipv4Addr`. -/
structure Ipv4Addr where
  number : UInt32
  deriving DecidableEq, Repr

/-- `Ipv4Addr::octets`. -/
def Ipv4Addr.octets (address : Ipv4Addr) : List UInt8 := beBytes 4 address.number.toNat

/-- `std::net::Ipv6Addr`. -/
structure Ipv6Addr where
  number : BitVec 128
  deriving DecidableEq, Repr

/-- `std::net::IpAddr`. -/
inductive IpAddr : Type where
  | v4 (address : Ipv4Addr)
  | v6 (address : Ipv6Addr)
  deriving DecidableEq, Repr

/-- `IpAddress` (`config.rs`): an address and its prefix length. -/
structure IpAddress where
  address : IpAddr
  prefixLength : UInt64
  deriving DecidableEq, Repr

namespace IpAddress

/-- What the derived `Ord` compares: the variant, then the address, then the prefix length. -/
def orderKey (a : IpAddress) : ℕ ×ₗ ℕ ×ₗ ℕ :=
  match a.address with
  | .v4 address => toLex (0, toLex (address.number.toNat, a.prefixLength.toNat))
  | .v6 address => toLex (1, toLex (address.number.toNat, a.prefixLength.toNat))

/-- The order of addresses tells them apart. -/
theorem orderKey_injective : Function.Injective orderKey := by
  rintro ⟨⟨⟨a⟩⟩ | ⟨⟨a⟩⟩, p⟩ ⟨⟨⟨b⟩⟩ | ⟨⟨b⟩⟩, q⟩ h
  · simp only [orderKey, EmbeddingLike.apply_eq_iff_eq, Prod.mk.injEq, true_and] at h
    rw [UInt32.toNat_inj.mp h.1, UInt64.toNat_inj.mp h.2]
  · simp [orderKey] at h
  · simp [orderKey] at h
  · simp only [orderKey, EmbeddingLike.apply_eq_iff_eq, Prod.mk.injEq, true_and] at h
    rw [BitVec.eq_of_toNat_eq h.1, UInt64.toNat_inj.mp h.2]

instance : LinearOrder IpAddress := LinearOrder.lift' orderKey orderKey_injective

end IpAddress

/-! ## Netmasks -/

/-- The rows of the match in `Ipv4Netmask::new`. -/
def netmaskPrefixLengths : List (UInt32 × UInt32) :=
  [(0x00000000, 0), (0x80000000, 1), (0xC0000000, 2), (0xE0000000, 3),
   (0xF0000000, 4), (0xF8000000, 5), (0xFC000000, 6), (0xFE000000, 7),
   (0xFF000000, 8), (0xFF800000, 9), (0xFFC00000, 10), (0xFFE00000, 11),
   (0xFFF00000, 12), (0xFFF80000, 13), (0xFFFC0000, 14), (0xFFFE0000, 15),
   (0xFFFF0000, 16), (0xFFFF8000, 17), (0xFFFFC000, 18), (0xFFFFE000, 19),
   (0xFFFFF000, 20), (0xFFFFF800, 21), (0xFFFFFC00, 22), (0xFFFFFE00, 23),
   (0xFFFFFF00, 24), (0xFFFFFF80, 25), (0xFFFFFFC0, 26), (0xFFFFFFE0, 27),
   (0xFFFFFFF0, 28), (0xFFFFFFF8, 29), (0xFFFFFFFC, 30), (0xFFFFFFFE, 31),
   (0xFFFFFFFF, 32)]

/-- The prefix length `Ipv4Netmask::new` stores beside a netmask; 0 when it has none. -/
def netmaskPrefixLength (netmaskNumber : UInt32) : UInt32 :=
  (netmaskPrefixLengths.lookup netmaskNumber).getD 0

/-- `Ipv4Netmask`.  Its fields are private and set by `new` alone, which is `valid`. -/
structure Ipv4Netmask where
  prefixLength : UInt32
  netmaskNumber : UInt32
  valid : prefixLength = netmaskPrefixLength netmaskNumber
  deriving DecidableEq

/-- `Ipv4Netmask::new`. -/
def Ipv4Netmask.new (netmaskNumber : UInt32) : Ipv4Netmask :=
  ⟨netmaskPrefixLength netmaskNumber, netmaskNumber, rfl⟩

/-- A netmask is the one its number makes. -/
theorem Ipv4Netmask.new_netmaskNumber (mask : Ipv4Netmask) :
    Ipv4Netmask.new mask.netmaskNumber = mask := by
  obtain ⟨prefixLength, netmaskNumber, valid⟩ := mask
  subst valid
  rfl

namespace Ipv4Netmask

/-- The number with the first `p` of its 32 bits set. -/
def leadingOnes (p : ℕ) : UInt32 := UInt32.ofNat (2 ^ 32 - 2 ^ (32 - p))

/-- The first `p` bits of a number are set and the others are not. -/
def Masks (n : UInt32) (p : ℕ) : Prop := ∀ i < 32, n.toNat.testBit i = decide (32 - p ≤ i)

/-- The table of the source lists the numbers with leading ones. -/
theorem netmaskPrefixLengths_eq : netmaskPrefixLengths =
    (List.range 33).map fun p => (leadingOnes p, UInt32.ofNat p) := by
  decide

/-- The bits of a number with leading ones. -/
theorem testBit_leadingOnes : ∀ p < 33, ∀ i < 32,
    (leadingOnes p).toNat.testBit i = decide (32 - p ≤ i) := by
  decide +kernel

/-- The table gives a number with leading ones how many there are. -/
theorem netmaskPrefixLength_leadingOnes : ∀ p < 33,
    (netmaskPrefixLength (leadingOnes p)).toNat = p := by
  decide +kernel

/-- A number is known by its bits. -/
theorem eq_leadingOnes_iff {n : UInt32} {p : ℕ} (hp : p < 33) : n = leadingOnes p ↔ Masks n p := by
  constructor
  · rintro rfl
    exact testBit_leadingOnes p hp
  · intro hbits
    rw [← UInt32.toNat_inj]
    refine Nat.eq_of_testBit_eq fun i => ?_
    by_cases hi : i < 32
    · rw [hbits i hi, testBit_leadingOnes p hp i hi]
    · have hbound : ∀ m : UInt32, m.toNat.testBit i = false := fun m =>
        Nat.testBit_lt_two_pow (m.toNat_lt.trans_le (Nat.pow_le_pow_right (by decide) (by omega)))
      rw [hbound, hbound]

/-- A number that is none of the table's has no prefix length. -/
theorem netmaskPrefixLength_of_not_masks {n : UInt32} (h : ∀ p < 33, ¬ Masks n p) :
    netmaskPrefixLength n = 0 := by
  have hnone : netmaskPrefixLengths.lookup n = none := by
    rw [List.lookup_eq_none_iff]
    intro row hrow
    rw [netmaskPrefixLengths_eq] at hrow
    obtain ⟨p, hp, rfl⟩ := List.mem_map.mp hrow
    rw [bne_iff_ne]
    intro heq
    exact h p (List.mem_range.mp hp) ((eq_leadingOnes_iff (List.mem_range.mp hp)).mp heq)
  rw [netmaskPrefixLength, hnone, Option.getD_none]

/-- **What a netmask's prefix length says.**  For every number, `new` stores the length of its leading
ones if no other of its bits is set, and 0 if some other is. -/
theorem prefixLength_new_iff (n : UInt32) (p : ℕ) :
    (new n).prefixLength.toNat = p ↔
      (p ≤ 32 ∧ Masks n p) ∨ (p = 0 ∧ ∀ q ≤ 32, ¬ Masks n q) := by
  by_cases hmask : ∃ q < 33, Masks n q
  · obtain ⟨q, hq, hmasks⟩ := hmask
    have hn := (eq_leadingOnes_iff hq).mpr hmasks
    have hlength : (new n).prefixLength.toNat = q := by
      rw [hn]
      exact netmaskPrefixLength_leadingOnes q hq
    rw [hlength]
    constructor
    · rintro rfl
      exact Or.inl ⟨by omega, hmasks⟩
    · rintro (⟨hp, hmasks'⟩ | ⟨-, hnone⟩)
      · -- the two masks are one number
        have hn' := (eq_leadingOnes_iff (by omega : p < 33)).mpr hmasks'
        rw [← netmaskPrefixLength_leadingOnes q hq, ← hn, hn',
          netmaskPrefixLength_leadingOnes p (by omega)]
      · exact absurd hmasks (hnone q (by omega))
  · have hnone : ∀ q < 33, ¬ Masks n q := fun q hq hmasks => hmask ⟨q, hq, hmasks⟩
    have hlength : (new n).prefixLength.toNat = 0 := by
      rw [show (new n).prefixLength = 0 from netmaskPrefixLength_of_not_masks hnone]
      rfl
    rw [hlength]
    constructor
    · rintro rfl
      exact Or.inr ⟨rfl, fun q hq => hnone q (by omega)⟩
    · rintro (⟨hp, hmasks⟩ | ⟨rfl, -⟩)
      · exact absurd hmasks (hnone p (by omega))
      · rfl

end Ipv4Netmask

end RustyRouter
