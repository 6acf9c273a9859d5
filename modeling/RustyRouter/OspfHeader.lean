/-
# The OSPFv2 packet header (`packet/header.rs`)

Parsing checks the lengths first, then the checksum, and the version and the
message type last.  The receiver has a checksum of its own: a loop over the
bytes that skips the checksum and the authentication field, and a single fold.
-/
import RustyRouter.ProtoCommon

namespace RustyRouter

open Octets Checked

/-- `PROTOCOL`. -/
def PROTOCOL : String := "OspfV2"

/-- `OSPF_V2_HEADER_LENGTH`. -/
def OSPF_V2_HEADER_LENGTH : UInt16 := 24

/-- `file!()` in the header parser. -/
def headerFile : String := "rusty-router-proto-ospfv2/src/packet/header.rs"

/-! ## The enumerations -/

/-- `OspfVersion`. -/
inductive OspfVersion : Type where
  | v2
  deriving DecidableEq, Repr

namespace OspfVersion

/-- `OspfVersion::try_from`. -/
def tryFrom (version : UInt8) : Parse OspfVersion :=
  if version = 2 then .ok .v2
  else fail (.unsupportedFieldValue PROTOCOL "Version" version.toNat)

/-- `u8::from(&OspfVersion)`. -/
def toU8 : OspfVersion → UInt8
  | .v2 => 2

theorem tryFrom_toU8 (version : OspfVersion) : tryFrom version.toU8 = .ok version := by
  cases version
  rfl

end OspfVersion

/-- `OspfMessageType`. -/
inductive OspfMessageType : Type where
  | hello
  | databaseDescription
  | linkStateRequest
  | linkStateUpdate
  | linkStateAcknoledgement
  deriving DecidableEq, Repr

namespace OspfMessageType

/-- `OspfMessageType::try_from`. -/
def tryFrom (messageType : UInt8) : Parse OspfMessageType :=
  if messageType = 1 then .ok .hello
  else if messageType = 2 then .ok .databaseDescription
  else if messageType = 3 then .ok .linkStateRequest
  else if messageType = 4 then .ok .linkStateUpdate
  else if messageType = 5 then .ok .linkStateAcknoledgement
  else fail (.unsupportedFieldValue PROTOCOL "Type" messageType.toNat)

/-- `u8::from(&OspfMessageType)`. -/
def toU8 : OspfMessageType → UInt8
  | .hello => 1
  | .databaseDescription => 2
  | .linkStateRequest => 3
  | .linkStateUpdate => 4
  | .linkStateAcknoledgement => 5

theorem tryFrom_toU8 (messageType : OspfMessageType) :
    tryFrom messageType.toU8 = .ok messageType := by
  cases messageType <;> rfl

end OspfMessageType

/-- `OspfAuthenticationType`. -/
inductive OspfAuthenticationType : Type where
  | null
  | simplePassword
  | cryptographicAuthentication
  deriving DecidableEq, Repr

namespace OspfAuthenticationType

/-- `OspfAuthenticationType::try_from`. -/
def tryFrom (authenticationType : UInt16) : Parse OspfAuthenticationType :=
  if authenticationType = 0 then .ok .null
  else if authenticationType = 1 then .ok .simplePassword
  else if authenticationType = 2 then .ok .cryptographicAuthentication
  else fail (.unsupportedFieldValue PROTOCOL "AuthenticationType" authenticationType.toNat)

/-- `u16::from(&OspfAuthenticationType)`. -/
def toU16 : OspfAuthenticationType → UInt16
  | .null => 0
  | .simplePassword => 1
  | .cryptographicAuthentication => 2

theorem tryFrom_toU16 (authenticationType : OspfAuthenticationType) :
    tryFrom authenticationType.toU16 = .ok authenticationType := by
  cases authenticationType <;> rfl

end OspfAuthenticationType

/-- `OspfAuthenticationHeader`. -/
inductive OspfAuthenticationHeader : Type where
  | null
  | simplePassword (data : FixedArray UInt8 8)
  | cryptographicAuthentication (keyId authenticationDataLength : UInt8)
      (cryptographicSequenceNumber : UInt32)
  deriving DecidableEq

namespace OspfAuthenticationHeader

/-- `OspfAuthenticationHeader::new`. -/
def new (authenticationType : OspfAuthenticationType) (header : FixedArray UInt8 8) :
    Parse OspfAuthenticationHeader :=
  match authenticationType with
  | .null => .ok .null
  | .simplePassword => .ok (.simplePassword header)
  | .cryptographicAuthentication => do
    let sequence ← slice header.toList 4 8
    let sequence ← fromBeBytesU32 PROTOCOL headerFile 143 sequence
    return .cryptographicAuthentication (header.get 2) (header.get 3) sequence

/-- `u64::from(&OspfAuthenticationHeader)`. -/
def toU64 : OspfAuthenticationHeader → UInt64
  | .null => 0
  | .simplePassword data => UInt64.ofNat (beNat data.toList)
  | .cryptographicAuthentication keyId authenticationDataLength sequence =>
    UInt64.ofNat (beNat ([0, 0, keyId, authenticationDataLength] ++
      beBytes 4 sequence.toNat))

end OspfAuthenticationHeader

/-! ## The header -/

/-- `OspfHeader`. -/
structure OspfHeader where
  version : OspfVersion
  messageType : OspfMessageType
  packetLength : UInt16
  routerId : Ipv4Addr
  areaId : Ipv4Addr
  checksum : UInt16
  authenticationType : OspfAuthenticationType
  authenticationHeader : OspfAuthenticationHeader
  deriving DecidableEq

/-- `OspfHeaderBuilder`. -/
structure OspfHeaderBuilder where
  messageType : OspfMessageType
  packetLength : UInt16
  routerId : Ipv4Addr
  areaId : Ipv4Addr
  checksum : UInt16

namespace OspfHeaderBuilder

/-- `OspfHeaderBuilder::new`. -/
def new (messageType : OspfMessageType) (packetLength : UInt16) (routerId areaId : Ipv4Addr) :
    OspfHeaderBuilder :=
  { messageType, packetLength, routerId, areaId, checksum := 0 }

/-- `OspfHeaderBuilder::with_checksum`. -/
def withChecksum (builder : OspfHeaderBuilder) (checksum : UInt16) : OspfHeaderBuilder :=
  { builder with checksum }

/-- `OspfHeaderBuilder::build`. -/
def build (builder : OspfHeaderBuilder) : OspfHeader where
  version := .v2
  messageType := builder.messageType
  packetLength := builder.packetLength
  routerId := builder.routerId
  areaId := builder.areaId
  checksum := builder.checksum
  authenticationType := .null
  authenticationHeader := .null

end OspfHeaderBuilder

namespace OspfHeader

/-- The bytes the receiver's checksum leaves out: the checksum and the authentication field. -/
def skipped (i : ℕ) : Bool :=
  (12 ≤ i && i < 14) || (16 ≤ i && i < 24)

/-- The receiver's loop over the bytes of the packet. -/
def sumBytes (data : List UInt8) : Parse ℕ :=
  (List.range data.length).foldlM (fun checksumAggregator i =>
    if skipped i then .ok checksumAggregator
    else do
      let byte ← byteAt data i
      checked 64 (checksumAggregator + byte.toNat <<< (8 * (1 - i % 2)))) 0

/-- The checksum the receiver expects; zero for cryptographic authentication. -/
def expectedChecksum (authenticationType : OspfAuthenticationType) (data : List UInt8) :
    Parse UInt16 := do
  let checksumAggregator ←
    if authenticationType ≠ .cryptographicAuthentication then do
      let sum ← sumBytes data
      let sum ← checked 64 (sum + sum >>> 16)
      pure (sum ^^^ 0x000000000000FFFF)
    else pure 0
  return UInt16.ofNat (checksumAggregator &&& 0x000000000000FFFF)

/-- The fields of the header, once lengths and checksum are accepted. -/
def readFields (data : List UInt8) (authenticationType : OspfAuthenticationType)
    (packetLength checksum : UInt16) : Parse OspfHeader := do
  let version ← OspfVersion.tryFrom (← byteAt data 0)
  let messageType ← OspfMessageType.tryFrom (← byteAt data 1)
  let routerId ← fromBeBytesU32 PROTOCOL headerFile 323 (← slice data 4 8)
  let areaId ← fromBeBytesU32 PROTOCOL headerFile 324 (← slice data 8 12)
  let authentication ←
    toArray 8 (.conversionError PROTOCOL headerFile 329) (← slice data 16 24)
  let authenticationHeader ← OspfAuthenticationHeader.new authenticationType authentication
  return {
    version, messageType, packetLength, routerId := ⟨routerId⟩, areaId := ⟨areaId⟩,
    checksum, authenticationType, authenticationHeader }

/-- `OspfHeader::try_from`. -/
def tryFrom (data : List UInt8) : Parse OspfHeader :=
  if data.length < 24 then fail (.invalidHeaderLength PROTOCOL 24 data.length)
  else do
    let packetLength ← fromBeBytesU16 PROTOCOL headerFile 270 (← slice data 2 4)
    if packetLength < 24 then fail (.invalidHeaderLength PROTOCOL 24 data.length)
    else if data.length < packetLength.toNat then
      fail (.invalidMinimumLength PROTOCOL packetLength.toNat data.length)
    else if packetLength % 4 ≠ 0 then fail (.invalidBitBoundary PROTOCOL packetLength.toNat)
    else do
      let data ← slice data 0 packetLength.toNat
      let authenticationType ← OspfAuthenticationType.tryFrom
        (← fromBeBytesU16 PROTOCOL headerFile 291 (← slice data 14 16))
      let expected ← expectedChecksum authenticationType data
      let checksum ← fromBeBytesU16 PROTOCOL headerFile 310 (← slice data 12 14)
      if checksum ≠ expected then fail (.invalidChecksum PROTOCOL expected checksum)
      else readFields data authenticationType packetLength checksum

/-- `Vec::<u8>::from(&OspfHeader)`. -/
def toVec (header : OspfHeader) : List UInt8 :=
  [header.version.toU8, header.messageType.toU8] ++ beBytes 2 header.packetLength.toNat ++
    header.routerId.octets ++ header.areaId.octets ++ beBytes 2 header.checksum.toNat ++
    beBytes 2 header.authenticationType.toU16.toNat ++
    beBytes 8 header.authenticationHeader.toU64.toNat

@[simp] theorem length_toVec (header : OspfHeader) : header.toVec.length = 24 := by
  simp [toVec, Ipv4Addr.octets]

end OspfHeader

end RustyRouter
