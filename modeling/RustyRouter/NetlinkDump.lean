/-
# Receiving a whole dump

A datagram is a concatenation of messages when the deserialiser reads them off its front
one after the other (`Frames`).  The receive loop walks through such datagrams and the
receive errors between them as through one list of messages (`recvLoop_append`), so a
dump that ends with the `Done` of the request is handed on message by message, without
those of other requests, and is reported as received (`recvLoop_dump`).
-/
import RustyRouter.NetlinkReceive

namespace RustyRouter.DefaultNetlinkSocket

open Checked

/-! ## Datagrams of messages -/

section Frames

variable (deserialize : Deserializer)

/-- Bytes that are a concatenation of messages: the deserialiser returns the first of what is left,
with its length of at least a header and of whole words. -/
inductive Frames : List UInt8 → List NetlinkMessage → Prop where
  | nil : Frames [] []
  | cons {bytes rest : List UInt8} {message : NetlinkMessage} {messages : List NetlinkMessage}
      (deserializes : deserialize (bytes ++ rest) = .ok message)
      (length_eq : message.length.toNat = bytes.length)
      (header_le : 16 ≤ bytes.length) (aligned : 4 ∣ bytes.length)
      (tail : Frames rest messages) : Frames (bytes ++ rest) (message :: messages)

/-- The messages that a receive result carries.  The kernel counts the bytes of a datagram with 32
bits. -/
inductive Carries : RecvResult → List NetlinkMessage → Prop where
  | error : Carries .error []
  | datagram {receiveBuffer : List UInt8} {messages : List NetlinkMessage}
      (frames : Frames deserialize receiveBuffer messages) (nonempty : receiveBuffer ≠ [])
      (length_lt : receiveBuffer.length < 2 ^ 32) : Carries (.datagram receiveBuffer) messages

end Frames

variable {deserialize : Deserializer}

/-- No bytes hold no message. -/
theorem Frames.eq_nil {buffer : List UInt8} {messages : List NetlinkMessage}
    (h : Frames deserialize buffer messages) (hbuffer : buffer = []) : messages = [] := by
  cases h with
  | nil => rfl
  | cons _ _ hheader _ _ =>
    rw [List.append_eq_nil_iff] at hbuffer
    rw [hbuffer.1, List.length_nil] at hheader
    omega

/-- The loop over a datagram walks the messages that are left from an offset on. -/
theorem recvDatagram_of_frames (number : UInt32) {rest : List UInt8}
    {messages : List NetlinkMessage} (h : Frames deserialize rest messages) (hrest : rest ≠ [])
    (front : List UInt8) (hsize : (front ++ rest).length < 2 ^ 32) {fuel : ℕ}
    (hfuel : rest.length < fuel) :
    recvDatagram deserialize (some number) (front ++ rest) fuel front.length =
      some (outcome number (messages.map .message)) := by
  induction h generalizing front fuel with
  | nil => exact absurd rfl hrest
  | @cons bytes rest message messages hfirst hlength hheader _ hmessages ih =>
    obtain ⟨fuel, rfl⟩ : ∃ n, fuel = n + 1 := ⟨fuel - 1, by omega⟩
    rw [List.length_append] at hfuel
    rw [List.length_append, List.length_append] at hsize
    rw [recvDatagram, if_neg (by rw [List.length_append]; omega), List.drop_left, hfirst,
      List.map_cons, outcome]
    dsimp only
    by_cases hdone : isDone number message
    · have hdone' := hdone
      rw [isDone] at hdone'
      rw [if_pos hdone, if_pos hdone']
    · have hdone' := hdone
      rw [isDone] at hdone'
      rw [if_neg hdone, if_neg hdone', hlength, checked_of_lt (by omega)]
      dsimp only
      -- the last message ends the buffer
      by_cases hend : rest = []
      · rw [hmessages.eq_nil hend, hend, List.append_nil, List.length_append, if_pos rfl]
        simp [outcome]
      · have hmore : front.length + bytes.length ≠ (front ++ (bytes ++ rest)).length := by
          have hpos := List.length_pos_iff.mpr hend
          rw [List.length_append, List.length_append]
          omega
        have hnext := ih hend (front ++ bytes)
          (by rw [List.length_append, List.length_append]; omega) (by omega : rest.length < fuel)
        rw [List.append_assoc, List.length_append] at hnext
        rw [if_neg hmore, hnext]
        rfl

/-- The receive loop walks the messages of the results before it reads on. -/
theorem recvLoop_append (number : UInt32) {results : List RecvResult}
    {batches : List (List NetlinkMessage)} (h : List.Forall₂ (Carries deserialize) results batches)
    (back : List RecvResult) :
    recvLoop deserialize (some number) (results ++ back) =
      match outcome number (batches.flatten.map .message) with
      | (.exhausted, passed) =>
        (recvLoop deserialize (some number) back).map fun (result, rest) => (result, passed ++ rest)
      | (.returned result, passed) => some (result, passed) := by
  induction h with
  | nil =>
    show recvLoop deserialize (some number) back = _
    simp [outcome]
  | @cons first batch results batches hfirst _ ih =>
    rw [List.flatten_cons, List.map_append, outcome_append, List.cons_append]
    cases hfirst with
    | error =>
      rw [recvLoop, ih]
      simp [outcome]
    | @datagram receiveBuffer _ hframes hnonempty hlength =>
      have hwalk := recvDatagram_of_frames number hframes hnonempty [] hlength
        (Nat.lt_succ_self receiveBuffer.length)
      rw [List.nil_append, List.length_nil] at hwalk
      rw [recvLoop, hwalk]
      -- the datagram ends the loop, or the next one is received
      rcases outcome number (batch.map .message) with ⟨_ | result, passed⟩
      · dsimp only
        rw [ih]
        rcases outcome number (batches.flatten.map .message) with ⟨_ | result, passed'⟩
        · simp [Function.comp_def]
        · rfl
      · rfl

/-- The outcome of a list of messages with the `Done` of the request. -/
theorem outcome_of_done {number : UInt32} {before after : List NetlinkMessage}
    {done : NetlinkMessage} (hdone : isDone number done)
    (hbefore : ∀ message ∈ before, isDone number message = false) :
    outcome number ((before ++ done :: after).map .message) =
      (.returned (.ok .received), before.filter (accepted (some number))) := by
  have hends : ∀ item ∈ before.map Item.message, item.ends number = false := by
    intro item hitem
    obtain ⟨message, hmessage, rfl⟩ := List.mem_map.mp hitem
    exact hbefore message hmessage
  have hmessages : messages (before.map .message) = before := by
    rw [messages, List.filterMap_map]
    exact List.filterMap_some
  obtain ⟨hfind, hwalked⟩ := find?_walked_of_done (after.map .message) hends hdone
  rw [List.map_append, List.map_cons, outcome_eq, hfind, hwalked, hmessages]

/-- **Dump reception.**  When the datagrams that are received, with errors in between, carry the
`Done` of a request, the call returns that it was received, and has passed on exactly the
messages of the request before it, in order, whatever comes after. -/
theorem recvLoop_dump (number : UInt32) {results : List RecvResult}
    {batches : List (List NetlinkMessage)} {before after : List NetlinkMessage}
    {done : NetlinkMessage} (h : List.Forall₂ (Carries deserialize) results batches)
    (hsplit : batches.flatten = before ++ done :: after) (hdone : isDone number done)
    (hbefore : ∀ message ∈ before, isDone number message = false) (back : List RecvResult) :
    recvLoop deserialize (some number) (results ++ back) =
      some (.ok .received, before.filter (accepted (some number))) := by
  rw [recvLoop_append number h, hsplit, outcome_of_done hdone hbefore]

/-- The end of the dump of an earlier request, with number 6. -/
def earlierDone : List UInt8 := [20, 0, 0, 0, 3, 0, 2, 0, 6, 0, 0, 0, 0, 0, 0, 0, 0, 0, 0, 0]

theorem recvLoop_dump_of_earlier :
    recvLoop deserializeBare (some 7)
        ([.datagram (earlierDone ++ (linkReply ++ [])), .error,
          .datagram (linkReply ++ (doneReply ++ []))] ++ [.timeout]) =
      some (.ok .received,
        [⟨20, 6, .done⟩, linkReplyMessage, linkReplyMessage].filter
          (accepted (some 7))) := by
  have hearlier : Frames deserializeBare (earlierDone ++ (linkReply ++ []))
      [⟨20, 6, .done⟩, linkReplyMessage] :=
    .cons rfl rfl (by decide) (by decide) (.cons rfl rfl (by decide) (by decide) .nil)
  have hlast : Frames deserializeBare (linkReply ++ (doneReply ++ []))
      [linkReplyMessage, ⟨20, 7, .done⟩] :=
    .cons rfl rfl (by decide) (by decide) (.cons rfl rfl (by decide) (by decide) .nil)
  have hcarries : List.Forall₂ (Carries deserializeBare)
      [.datagram (earlierDone ++ (linkReply ++ [])), .error,
        .datagram (linkReply ++ (doneReply ++ []))]
      [[⟨20, 6, .done⟩, linkReplyMessage], [],
        [linkReplyMessage, ⟨20, 7, .done⟩]] :=
    .cons (.datagram hearlier (by decide) (by decide)) <| .cons .error <|
      .cons (.datagram hlast (by decide) (by decide)) .nil
  exact @recvLoop_dump _ 7 _ _ [⟨20, 6, .done⟩, linkReplyMessage,
    linkReplyMessage] [] ⟨20, 7, .done⟩ hcarries rfl rfl (by decide) [.timeout]

/-- A request that is answered with such a dump gets the messages of the dump. -/
theorem sendMessage_dump (number : UInt32) {results : List RecvResult}
    {batches : List (List NetlinkMessage)} {before after : List NetlinkMessage}
    {done : NetlinkMessage} (h : List.Forall₂ (Carries deserialize) results batches)
    (hsplit : batches.flatten = before ++ done :: after) (hdone : isDone number done)
    (hbefore : ∀ message ∈ before, isDone number message = false) (back : List RecvResult) :
    sendMessage deserialize number (.ok ()) (results ++ back) =
      some (.ok (before.filter (accepted (some number)))) := by
  rw [sendMessage, recvLoop_append number h, hsplit, outcome_of_done hdone hbefore]
  rfl

end RustyRouter.DefaultNetlinkSocket
