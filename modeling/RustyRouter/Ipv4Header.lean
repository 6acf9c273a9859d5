/-
# The IPv4 header (`rusty-router-proto-ip`)

The parser reads the fragment offset in bytes, and reads the header length that the
encoder writes as a constant.  The builder takes three values that the caller may
force; the identification of a header without a forced one is random, and is a
parameter here.
-/
import RustyRouter.ProtoCommon

namespace RustyRouter

open Octets Checked

/-- `IP_V4_PROTO`. -/
def IP_V4_PROTO : String := "IPv4"

/-- `file!()` in the IPv4 header parser. -/
def ipv4File : String := "rusty-router-proto-ip/src/lib.rs"

/-! ## Versions and flags -/

/-- `IpVersion`. -/
structure IpVersion where
  version : UInt8
  deriving DecidableEq, Repr

/-- `IpVersion::ipv4`. -/
def IpVersion.ipv4 : IpVersion := ⟨4⟩

/-- `IpVersion::get_value`. -/
def IpVersion.getValue (version : IpVersion) : UInt8 := version.version

/-- `Ipv4Flag`. -/
inductive Ipv4Flag : Type where
  | reserved
  | dontFragment
  | moreFragments
  deriving DecidableEq, Repr

/-- `Ipv4Flag::get_value`. -/
def Ipv4Flag.getValue : Ipv4Flag → UInt8
  | .reserved => 1
  | .dontFragment => 2
  | .moreFragments => 4

/-- `flag as u8`, the discriminant of a flag. -/
def Ipv4Flag.asU8 : Ipv4Flag → UInt8
  | .reserved => 0
  | .dontFragment => 1
  | .moreFragments => 2

/-- `Ipv4Flags`.  Its field is private and set by `new` and `try_from` alone, to three bits. -/
@[ext] structure Ipv4Flags where
  flags : UInt8
  valid : flags &&& 0xF8 = 0
  deriving DecidableEq

namespace Ipv4Flags

/-- One round of the loop of `Ipv4Flags::new`. -/
def insert (flags : Ipv4Flags) (flag : Ipv4Flag) : Ipv4Flags where
  flags := flags.flags ||| flag.getValue
  valid := by
    have hflag : flag.getValue &&& 0xF8 = 0 := by
      cases flag <;> rfl
    have hflags := flags.valid
    rw [← UInt8.toNat_inj, UInt8.toNat_and] at hflag hflags ⊢
    rw [UInt8.toNat_or, Nat.and_or_distrib_right, hflags, hflag]
    rfl

/-- `Ipv4Flags::new`. -/
def new (flags : List Ipv4Flag) : Ipv4Flags := flags.foldl insert ⟨0, rfl⟩

/-- `Ipv4Flags::is_set`. -/
def isSet (value : Ipv4Flags) (flag : Ipv4Flag) : Bool := (value.flags &&& flag.asU8) == ~~~0

/-- `Ipv4Flags::try_from`. -/
def tryFrom (flags : UInt8) : Parse Ipv4Flags :=
  if h : flags &&& 0xF8 ≠ 0 then fail (.unsupportedFieldValue IP_V4_PROTO "Flags" flags.toNat)
  else .ok ⟨flags, not_not.mp h⟩

/-- `u8::from(&Ipv4Flags)`. -/
def toU8 (value : Ipv4Flags) : UInt8 := value.flags

end Ipv4Flags

/-! ## The header -/

/-- `IpV4Header`. -/
structure IpV4Header where
  version : IpVersion
  internetHeaderLength : UInt8
  typeOfService : UInt8
  totalLength : UInt16
  identification : UInt16
  flags : Ipv4Flags
  fragmentOffset : UInt16
  timeToLive : UInt8
  protocol : UInt8
  headerChecksum : UInt16
  sourceAddress : Ipv4Addr
  destinationAddress : Ipv4Addr
  deriving DecidableEq

namespace IpV4Header

/-- The fields of the header after its first byte. -/
def readFields (data : List UInt8) (internetHeaderLength : UInt8) : Parse IpV4Header := do
  let typeOfService ← byteAt data 1
  let totalLength ← fromBeBytesU16 IP_V4_PROTO ipv4File 354 (← slice data 2 4)
  let identification ← fromBeBytesU16 IP_V4_PROTO ipv4File 355 (← slice data 4 6)
  let flagsWithFragmentOffset ← fromBeBytesU16 IP_V4_PROTO ipv4File 356 (← slice data 6 8)
  let fragmentOffset ← checked 16 ((flagsWithFragmentOffset &&& 0x1FFF).toNat * 8)
  let flags ← byteAt data 6
  let timeToLive ← byteAt data 8
  let protocol ← byteAt data 9
  let headerChecksum ← fromBeBytesU16 IP_V4_PROTO ipv4File 360 (← slice data 10 12)
  let sourceAddress ← fromBeBytesU32 IP_V4_PROTO ipv4File 361 (← slice data 12 16)
  let destinationAddress ← fromBeBytesU32 IP_V4_PROTO ipv4File 362 (← slice data 16 20)
  let flags ← Ipv4Flags.tryFrom ((flags &&& 0xE0) >>> 5)
  return {
    version := .ipv4, internetHeaderLength, typeOfService, totalLength, identification, flags,
    fragmentOffset := UInt16.ofNat fragmentOffset, timeToLive, protocol, headerChecksum,
    sourceAddress := ⟨sourceAddress⟩, destinationAddress := ⟨destinationAddress⟩ }

/-- `IpV4Header::try_from`. -/
def tryFrom (data : List UInt8) : Parse IpV4Header :=
  if data.length < 20 then fail (.invalidMinimumLength IP_V4_PROTO 20 data.length)
  else do
    let first ← byteAt data 0
    let version := (first &&& 0xF0) >>> 4
    if version ≠ 4 then fail (.unsupportedFieldValue IP_V4_PROTO "Version" version.toNat)
    else do
      let internetHeaderLength := first &&& 0x0F
      let headerLength ← checked 16 (internetHeaderLength.toNat * 4)
      if headerLength < 20 then
        fail (.unsupportedFieldValue IP_V4_PROTO "Internet Header Length"
          internetHeaderLength.toNat)
      else if headerLength > data.length then
        fail (.invalidMinimumLength IP_V4_PROTO headerLength data.length)
      else readFields data internetHeaderLength

/-- The word of the encoded header that holds the flags and the fragment offset. -/
def flagsWithFragmentOffset (header : IpV4Header) : UInt16 :=
  header.fragmentOffset ||| header.flags.toU8.toUInt16 <<< 13

/-- `Vec::<u8>::from(&IpV4Header)`. -/
def toVec (header : IpV4Header) : List UInt8 :=
  [header.version.getValue <<< 4 ||| 20 / 4, header.typeOfService] ++
    beBytes 2 header.totalLength.toNat ++ beBytes 2 header.identification.toNat ++
    beBytes 2 header.flagsWithFragmentOffset.toNat ++ [header.timeToLive, header.protocol] ++
    beBytes 2 header.headerChecksum.toNat ++ header.sourceAddress.octets ++
    header.destinationAddress.octets

@[simp] theorem length_toVec (header : IpV4Header) : header.toVec.length = 20 := by
  simp [toVec, Ipv4Addr.octets]

end IpV4Header

/-! ## The builder -/

/-- `IpV4HeaderBuilder`. -/
structure IpV4HeaderBuilder where
  header : IpV4Header
  identification : Option UInt16
  headerChecksum : Option UInt16
  internetHeaderLength : Option UInt8
  deriving DecidableEq

namespace IpV4HeaderBuilder

/-- `IpV4HeaderBuilder::new`. -/
def new (sourceAddress destinationAddress : Ipv4Addr) (protocol : UInt8) : IpV4HeaderBuilder where
  header := {
    version := .ipv4, timeToLive := 128, protocol, sourceAddress, destinationAddress,
    totalLength := 0, identification := 0, fragmentOffset := 0, headerChecksum := 0,
    typeOfService := 0, internetHeaderLength := 0, flags := .new [] }
  identification := none
  headerChecksum := none
  internetHeaderLength := none

/-- `IpV4HeaderBuilder::force_internet_header_length`. -/
def forceInternetHeaderLength (builder : IpV4HeaderBuilder) (internetHeaderLength : Option UInt8) :
    Parse IpV4HeaderBuilder :=
  match internetHeaderLength with
  | some internetHeaderLength =>
    if internetHeaderLength > 0x0F then
      fail (.unsupportedFieldValue IP_V4_PROTO "InternetHeaderLength" internetHeaderLength.toNat)
    else .ok { builder with internetHeaderLength := some internetHeaderLength }
  | none => .ok { builder with internetHeaderLength := none }

/-- `IpV4HeaderBuilder::force_identification`. -/
def forceIdentification (builder : IpV4HeaderBuilder) (identification : Option UInt16) :
    IpV4HeaderBuilder :=
  { builder with identification }

/-- `IpV4HeaderBuilder::force_header_checksum`. -/
def forceHeaderChecksum (builder : IpV4HeaderBuilder) (headerChecksum : Option UInt16) :
    IpV4HeaderBuilder :=
  { builder with headerChecksum }

/-- The header `build` takes the checksum of. -/
def unsummed (builder : IpV4HeaderBuilder) (random : UInt16) (totalLength : ℕ) : IpV4Header :=
  { builder.header with
    totalLength := UInt16.ofNat totalLength
    identification := builder.identification.getD random
    internetHeaderLength := builder.internetHeaderLength.getD 5 }

/-- `IpV4HeaderBuilder::build`, where `random` is the random identification. -/
def build (endian : Endian) (random : UInt16) (builder : IpV4HeaderBuilder) (payloadLength : ℕ) :
    Parse IpV4Header :=
  if payloadLength > 65535 - 20 then
    fail (.invalidLength "IPv4 payload length without fragmentation" (65535 - 20) payloadLength)
  else do
    let totalLength ← checked 16 (20 + payloadLength % 2 ^ 16)
    let header := builder.unsummed random totalLength
    let headerChecksum ←
      match builder.headerChecksum with
      | some headerChecksum => pure headerChecksum
      | none => InternetChecksum.checksum endian header.toVec
    return { header with headerChecksum }

end IpV4HeaderBuilder

end RustyRouter
