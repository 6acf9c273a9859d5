/-
# Protocol errors, byte conversions and the Internet checksum
(`rusty-router-proto-common`)

The checksum sums 64-bit words in the byte order of the machine, swaps the
whole 128-bit accumulator on a little-endian build, adds the trailing bytes at
their network positions and folds six times.  Both builds are modelled, by the
parameter `endian`; every addition is checked at 128 bits.
-/
import RustyRouter.Checked
import RustyRouter.NetAddr

namespace RustyRouter

open Octets Checked

/-- `ProtocolError` (`error.rs`). -/
inductive ProtocolError : Type where
  | invalidMinimumLength (proto : String) (expected actual : ℕ)
  | invalidHeaderLength (proto : String) (expected actual : ℕ)
  | invalidLength (proto : String) (expected actual : ℕ)
  | invalidBitBoundary (proto : String) (length : ℕ)
  | unsupportedFieldValue (proto field : String) (value : ℕ)
  | conversionError (label file : String) (line : ℕ)
  | invalidChecksum (proto : String) (expected actual : UInt16)
  deriving DecidableEq, Repr

/-- What a protocol function computes. -/
abbrev Parse (α : Type) : Type := Exec ProtocolError α

/-- An error about the packet: a length, its alignment, the value of a field or the checksum. -/
def ProtocolError.IsRefusal : ProtocolError → Prop
  | conversionError .. => False
  | _ => True

/-- A parser's outcome that is a value or a refusal of the packet. -/
def Parse.Answers {α : Type} (x : Parse α) : Prop := FailsOnly ProtocolError.IsRefusal x

/-! ## The macro `from_be_bytes!` -/

/-- `from_be_bytes!`: the slice as an array of `width` bytes, read in network order. -/
def fromBeBytes (width : ℕ) (label file : String) (line : ℕ) (value : List UInt8) :
    Parse ℕ := do
  let bytes ← toArray width (.conversionError label file line) value
  return beNat bytes.toList

/-- `from_be_bytes!(u16, ..)`. -/
def fromBeBytesU16 (label file : String) (line : ℕ) (value : List UInt8) : Parse UInt16 := do
  let n ← fromBeBytes 2 label file line value
  return UInt16.ofNat n

/-- `from_be_bytes!(u32, ..)`. -/
def fromBeBytesU32 (label file : String) (line : ℕ) (value : List UInt8) : Parse UInt32 := do
  let n ← fromBeBytes 4 label file line value
  return UInt32.ofNat n

/-- Two bytes are read as a number. -/
theorem fromBeBytesU16_of_length {label file : String} {line : ℕ} {value : List UInt8}
    (h : value.length = 2) :
    fromBeBytesU16 label file line value = .ok (UInt16.ofNat (beNat value)) := by
  rw [fromBeBytesU16, fromBeBytes, toArray_of_length h]
  rfl

/-- Four bytes are read as a number. -/
theorem fromBeBytesU32_of_length {label file : String} {line : ℕ} {value : List UInt8}
    (h : value.length = 4) :
    fromBeBytesU32 label file line value = .ok (UInt32.ofNat (beNat value)) := by
  rw [fromBeBytesU32, fromBeBytes, toArray_of_length h]
  rfl

/-- The two bytes of a number are read as it. -/
theorem fromBeBytesU16_beBytes (label file : String) (line : ℕ) (n : UInt16) :
    fromBeBytesU16 label file line (beBytes 2 n.toNat) = .ok n := by
  rw [fromBeBytesU16_of_length (length_beBytes 2 _), beNat_beBytes_of_lt n.toNat_lt,
    UInt16.ofNat_toNat]

/-- The four bytes of a number are read as it. -/
theorem fromBeBytesU32_beBytes (label file : String) (line : ℕ) (n : UInt32) :
    fromBeBytesU32 label file line (beBytes 4 n.toNat) = .ok n := by
  rw [fromBeBytesU32_of_length (length_beBytes 4 _), beNat_beBytes_of_lt n.toNat_lt,
    UInt32.ofNat_toNat]

/-- The conversion accepts exactly its own width. -/
theorem fromBeBytes_eq_ok {width : ℕ} {label file : String} {line : ℕ} {value : List UInt8}
    {number : ℕ} : fromBeBytes width label file line value = .ok number ↔
      value.length = width ∧ number = beNat value := by
  constructor
  · intro h
    obtain ⟨bytes, hbytes, hread⟩ := bind_eq_ok.mp h
    have hvalue := toList_of_toArray hbytes
    cases hread
    rw [← hvalue]
    exact ⟨bytes.length_toList, rfl⟩
  · rintro ⟨hlen, rfl⟩
    rw [fromBeBytes, toArray_of_length hlen]
    rfl

/-- A number is read exactly from its own two bytes. -/
theorem fromBeBytesU16_eq_ok {label file : String} {line : ℕ} {value : List UInt8} {n : UInt16} :
    fromBeBytesU16 label file line value = .ok n ↔ value = beBytes 2 n.toNat := by
  constructor
  · intro h
    obtain ⟨number, hnumber, hn⟩ := bind_eq_ok.mp h
    obtain ⟨hlen, rfl⟩ := fromBeBytes_eq_ok.mp hnumber
    cases hn
    have hlt := beNat_lt value
    rw [hlen] at hlt
    rw [UInt16.toNat_ofNat_of_lt' hlt, beBytes_beNat hlen]
  · rintro rfl
    exact fromBeBytesU16_beBytes label file line n

/-- A number is read exactly from its own four bytes. -/
theorem fromBeBytesU32_eq_ok {label file : String} {line : ℕ} {value : List UInt8} {n : UInt32} :
    fromBeBytesU32 label file line value = .ok n ↔ value = beBytes 4 n.toNat := by
  constructor
  · intro h
    obtain ⟨number, hnumber, hn⟩ := bind_eq_ok.mp h
    obtain ⟨hlen, rfl⟩ := fromBeBytes_eq_ok.mp hnumber
    cases hn
    have hlt := beNat_lt value
    rw [hlen] at hlt
    rw [UInt32.toNat_ofNat_of_lt' hlt, beBytes_beNat hlen]
  · rintro rfl
    exact fromBeBytesU32_beBytes label file line n

/-- Two bytes are read without a panic. -/
theorem fromBeBytesU16_answers (label file : String) (line : ℕ) {value : List UInt8}
    (h : value.length = 2) : (fromBeBytesU16 label file line value).Answers := by
  rw [fromBeBytesU16_of_length h]
  exact failsOnly_ok _

/-- Four bytes are read without a panic. -/
theorem fromBeBytesU32_answers (label file : String) (line : ℕ) {value : List UInt8}
    (h : value.length = 4) : (fromBeBytesU32 label file line value).Answers := by
  rw [fromBeBytesU32_of_length h]
  exact failsOnly_ok _

/-- The octets of an address are read as its number. -/
theorem fromBeBytesU32_octets (label file : String) (line : ℕ) (address : Ipv4Addr) :
    fromBeBytesU32 label file line address.octets = .ok address.number :=
  fromBeBytesU32_beBytes label file line address.number

/-! ## Words of a slice -/

/-- A range within the data is as long as it says. -/
theorem length_drop_take {data : List UInt8} {i n : ℕ} (h : i + n ≤ data.length) :
    ((data.take (i + n)).drop i).length = n := by
  rw [List.length_drop, List.length_take, Nat.min_eq_left h, Nat.add_sub_cancel_left]

/-- The 16-bit word of a slice at a place. -/
def u16At (data : List UInt8) (i : ℕ) : UInt16 :=
  UInt16.ofNat (beNat ((data.take (i + 2)).drop i))

/-- The number at a position encodes to the two bytes there. -/
theorem beBytes_u16At {data : List UInt8} {i : ℕ} (h : i + 2 ≤ data.length) :
    beBytes 2 (u16At data i).toNat = (data.take (i + 2)).drop i := by
  have hlen := length_drop_take h
  have hlt := beNat_lt ((data.take (i + 2)).drop i)
  rw [hlen] at hlt
  rw [u16At, UInt16.toNat_ofNat_of_lt' hlt, beBytes_beNat hlen]

/-- Cutting the two bytes at a position out gives those of the number there. -/
theorem slice_u16At {data : List UInt8} {i : ℕ} (h : i + 2 ≤ data.length) :
    slice (ε := ProtocolError) data i (i + 2) = .ok (beBytes 2 (u16At data i).toNat) := by
  rw [slice_of_le (Nat.le_add_right i 2) h, beBytes_u16At h]

/-- The number at a position is the one whose bytes are there. -/
theorem u16At_eq {data : List UInt8} {i : ℕ} {n : UInt16}
    (h : (data.take (i + 2)).drop i = beBytes 2 n.toNat) : u16At data i = n := by
  rw [u16At, h, beNat_beBytes_of_lt n.toNat_lt, UInt16.ofNat_toNat]

/-- A range of two bytes, written out. -/
theorem drop_take_two {data : List UInt8} {i : ℕ} (h : i + 2 ≤ data.length) :
    (data.take (i + 2)).drop i = [data.getD i 0, data.getD (i + 1) 0] := by
  rw [List.drop_take, Nat.add_sub_cancel_left, List.drop_eq_getElem_cons (by omega),
    List.drop_eq_getElem_cons (by omega), List.getD_eq_getElem _ _ (by omega),
    List.getD_eq_getElem _ _ (by omega)]
  rfl

/-- The number at a position, of its high and its low byte. -/
theorem toNat_u16At {data : List UInt8} {i : ℕ} (h : i + 2 ≤ data.length) :
    (u16At data i).toNat = (data.getD i 0).toNat * 256 + (data.getD (i + 1) 0).toNat := by
  have hlt := (data.getD i 0).toNat_lt
  have hlt' := (data.getD (i + 1) 0).toNat_lt
  rw [u16At, drop_take_two h, UInt16.toNat_ofNat']
  simp only [beNat, List.length_cons, List.length_nil]
  omega

/-- Two bytes determine their number. -/
theorem beBytes_two_injective {n n' : UInt16} : beBytes 2 n.toNat = beBytes 2 n'.toNat ↔ n = n' := by
  refine ⟨fun h => ?_, fun h => by rw [h]⟩
  have hnat := congrArg beNat h
  rwa [beNat_beBytes_of_lt n.toNat_lt, beNat_beBytes_of_lt n'.toNat_lt, UInt16.toNat_inj] at hnat

/-- The word at a place depends on the two bytes there. -/
theorem u16At_congr {data data' : List UInt8} {i : ℕ} (hfirst : data[i]? = data'[i]?)
    (hsecond : data[i + 1]? = data'[i + 1]?) : u16At data i = u16At data' i := by
  have hslice : (data.take (i + 2)).drop i = (data'.take (i + 2)).drop i := by
    apply List.ext_getElem?
    intro j
    rw [List.getElem?_drop, List.getElem?_drop, List.getElem?_take, List.getElem?_take]
    split_ifs with hj
    · have hcases : j = 0 ∨ j = 1 := by omega
      rcases hcases with rfl | rfl
      · exact hfirst
      · exact hsecond
    · rfl
  rw [u16At, u16At, hslice]

/-- The 32-bit word of a slice at a place. -/
def u32At (data : List UInt8) (i : ℕ) : UInt32 :=
  UInt32.ofNat (beNat ((data.take (i + 4)).drop i))

/-- The number at a position encodes to the four bytes there. -/
theorem beBytes_u32At {data : List UInt8} {i : ℕ} (h : i + 4 ≤ data.length) :
    beBytes 4 (u32At data i).toNat = (data.take (i + 4)).drop i := by
  have hlen := length_drop_take h
  have hlt := beNat_lt ((data.take (i + 4)).drop i)
  rw [hlen] at hlt
  rw [u32At, UInt32.toNat_ofNat_of_lt' hlt, beBytes_beNat hlen]

/-- Cutting the four bytes at a position out gives those of the number there. -/
theorem slice_u32At {data : List UInt8} {i : ℕ} (h : i + 4 ≤ data.length) :
    slice (ε := ProtocolError) data i (i + 4) = .ok (beBytes 4 (u32At data i).toNat) := by
  rw [slice_of_le (Nat.le_add_right i 4) h, beBytes_u32At h]

/-- The number at a position is the one whose bytes are there. -/
theorem u32At_eq {data : List UInt8} {i : ℕ} {n : UInt32}
    (h : (data.take (i + 4)).drop i = beBytes 4 n.toNat) : u32At data i = n := by
  rw [u32At, h, beNat_beBytes_of_lt n.toNat_lt, UInt32.ofNat_toNat]

/-- The check that a length is one of 32-bit words. -/
theorem not_mod_four_ne_zero {n : UInt16} : ¬ n % 4 ≠ 0 ↔ n.toNat % 4 = 0 := by
  rw [ne_eq, not_not, ← UInt16.toNat_inj, UInt16.toNat_mod]
  rfl

/-! ## The Internet checksum -/

/-- `target_endian`. -/
inductive Endian : Type where
  | big
  | little
  deriving DecidableEq, Repr

/-- `NATIVE_NUMBER_FROM_BYTES`. -/
def nativeNumberFromBytes : Endian → List UInt8 → ℕ
  | .big, bytes => beNat bytes
  | .little, bytes => leNat bytes

/-- `NATIVE_NUMBER_FROM_NETWORK`. -/
def nativeNumberFromNetwork : Endian → Bool
  | .big => false
  | .little => true

/-- `InternetChecksum`: an accumulator of 128 bits. -/
structure InternetChecksum where
  accumulator : ℕ
  accumulator_lt : accumulator < 2 ^ 128
  deriving DecidableEq

namespace InternetChecksum

/-- The loop over the 64-bit words of the data. -/
def sumWords (endian : Endian) (data : List UInt8) : Parse ℕ :=
  (List.range (data.length / 8)).foldlM (fun partialAccumulator i => do
    let byteData ← slice data (i * 8) (i * 8 + 8)
    let byteData ← toArray 8
      (.conversionError "Checksum" "rusty-router-proto-common/src/lib.rs" 55) byteData
    checked 128 (partialAccumulator + nativeNumberFromBytes endian byteData.toList)) 0

/-- The loop over the trailing bytes of the data. -/
def addTrailing (data : List UInt8) (partialAccumulator : ℕ) : Parse ℕ :=
  (List.range (data.length % 8)).foldlM (fun partialAccumulator i => do
    let byte ← byteAt data (8 * (data.length / 8) + i)
    checked 128 (partialAccumulator + byte.toNat <<< (8 * (7 - i)))) partialAccumulator

/-- `InternetChecksum::calculate_partial_result`. -/
def calculatePartialResult (endian : Endian) (data : List UInt8) : Parse ℕ := do
  let words ← sumWords endian data
  let partialAccumulator :=
    if nativeNumberFromNetwork endian then swapBytes 16 words else words
  addTrailing data partialAccumulator

/-- One folding line of `calculate_final_result`. -/
def foldHalves (mask bits accumulator : ℕ) : Parse ℕ :=
  checked 128 ((accumulator &&& mask) + accumulator >>> bits)

/-- `InternetChecksum::calculate_final_result`. -/
def calculateFinalResult (accumulator : ℕ) : Parse UInt16 := do
  let checksumAggregator ← foldHalves 0x0000000000000000FFFFFFFFFFFFFFFF 64 accumulator
  let checksumAggregator ← foldHalves 0x0000000000000000FFFFFFFFFFFFFFFF 64 checksumAggregator
  let checksumAggregator ← foldHalves 0x000000000000000000000000FFFFFFFF 32 checksumAggregator
  let checksumAggregator ← foldHalves 0x000000000000000000000000FFFFFFFF 32 checksumAggregator
  let checksumAggregator ← foldHalves 0x0000000000000000000000000000FFFF 16 checksumAggregator
  let checksumAggregator ← foldHalves 0x0000000000000000000000000000FFFF 16 checksumAggregator
  return UInt16.ofNat (checksumAggregator ^^^ 0x0000FFFF)

/-- `InternetChecksum::checksum`. -/
def checksum (endian : Endian) (data : List UInt8) : Parse UInt16 := do
  let accumulator ← calculatePartialResult endian data
  calculateFinalResult accumulator

/-- `InternetChecksum::new`. -/
def new : InternetChecksum := ⟨0, by norm_num⟩

/-- An accumulator that is stored; one of more than 128 bits panics. -/
def store (accumulator : ℕ) : Parse InternetChecksum :=
  if h : accumulator < 2 ^ 128 then .ok ⟨accumulator, h⟩ else .error .panic

/-- `InternetChecksum::add`. -/
def add (endian : Endian) (self : InternetChecksum) (data : List UInt8) :
    Parse InternetChecksum := do
  let partialResult ← calculatePartialResult endian data
  store (self.accumulator + partialResult)

/-- `InternetChecksum::subtract`. -/
def subtract (endian : Endian) (self : InternetChecksum) (data : List UInt8) :
    Parse InternetChecksum := do
  let partialResult ← calculatePartialResult endian data
  let accumulator ← checkedSub self.accumulator partialResult
  store accumulator

/-- `InternetChecksum::calculate`. -/
def calculate (self : InternetChecksum) : Parse UInt16 := calculateFinalResult self.accumulator

/-- The vectors of `test_checksum`. -/
example : checksum .little [0x01, 0x03, 0x07, 0x0F, 0x11, 0x33, 0x77, 0xFF] = .ok 28347 := by
  decide

example : checksum .little (List.replicate 12 0xFF) = .ok 0 := by
  decide

/-- The vectors of `test_checksum_update`. -/
example : (do
    let checksum ← add .little new [0x01, 0x03, 0x07, 0x0F, 0x11, 0x33, 0x77, 0xFF, 0x10, 0x30,
      0x77, 0xF0, 0x11, 0x33, 0x77, 0xFF]
    let checksum ← checksum.subtract .little [0x10, 0x30, 0x77, 0xFF]
    checksum.calculate) = .ok 58775 := by
  decide +kernel

end InternetChecksum

end RustyRouter
