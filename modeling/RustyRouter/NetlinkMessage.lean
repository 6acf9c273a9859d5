/-
# Netlink messages

The parts of the types of `netlink_packet_core` and `netlink_packet_route` that
the router reads.  Attributes and messages it has no case for are `other`.
-/
import Mathlib

namespace RustyRouter

/-- `nlas::State`, the operational state of a link. -/
inductive OperState : Type where
  | unknown
  | notPresent
  | down
  | lowerLayerDown
  | testing
  | dormant
  | up
  | other (value : UInt8)
  deriving DecidableEq, Repr

/-- `link::nlas::Nla`. -/
inductive LinkNla : Type where
  | ifName (name : String)
  | operState (state : OperState)
  | other
  deriving DecidableEq, Repr

/-- `LinkMessage`, with the fields of its header. -/
structure LinkMessage where
  interfaceFamily : UInt8
  index : UInt32
  nlas : List LinkNla
  deriving DecidableEq, Repr

/-- `address::nlas::Nla`. -/
inductive AddressNla : Type where
  | address (data : List UInt8)
  | other
  deriving DecidableEq, Repr

/-- `AddressMessage`, with the fields of its header. -/
structure AddressMessage where
  family : UInt8
  prefixLen : UInt8
  index : UInt32
  nlas : List AddressNla
  deriving DecidableEq, Repr

/-- `RtnlMessage`. -/
inductive RtnlMessage : Type where
  | newLink (message : LinkMessage)
  | delLink (message : LinkMessage)
  | newAddress (message : AddressMessage)
  | delAddress (message : AddressMessage)
  | other
  deriving DecidableEq, Repr

/-- `NetlinkPayload`. -/
inductive NetlinkPayload : Type where
  | done
  | error
  | noop
  | overrun
  | innerMessage (message : RtnlMessage)
  deriving DecidableEq, Repr

/-- `NetlinkMessage`, with the fields of its header. -/
structure NetlinkMessage where
  length : UInt32
  sequenceNumber : UInt32
  payload : NetlinkPayload
  deriving DecidableEq, Repr

/-- `rusty_router_common::Error`. -/
inductive Error : Type where
  | illegalState (message : String)
  | communication (message : String)
  | io (source message : String)
  | system (message : String)
  | protocol (message : String)
  deriving DecidableEq, Repr

end RustyRouter
