/-
# When a received dump is whole

What the receive results hold is a stream of items (`stream`): messages,
timeouts, and places where deserialisation gives up.  `recv_loop` walks this
stream to the first item that ends it (`recvLoop_eq`), whatever the datagrams.
From this follows when an `Ok` of `send_message` is the whole dump.
-/
import RustyRouter.NetlinkSocket
import RustyRouter.Octets

namespace RustyRouter.DefaultNetlinkSocket

open Checked

/-- One thing the receive loop meets. -/
inductive Item : Type where
  | timeout
  | malformed (e : String)
  | message (message : NetlinkMessage)
  deriving DecidableEq

/-- What is relied on of `NetlinkMessage::deserialize`: the length of a message it returns is at
least a header, and inside the buffer. -/
structure LawfulDeserializer (deserialize : Deserializer) : Prop where
  header_le : ∀ buffer message, deserialize buffer = .ok message → 16 ≤ message.length.toNat
  le_buffer : ∀ buffer message, deserialize buffer = .ok message →
    message.length.toNat ≤ buffer.length

/-! ## The stream behind the receive results -/

section Stream

variable (deserialize : Deserializer)

/-- The items of a datagram: its messages, one after the other. -/
def datagramItems : ℕ → List UInt8 → List Item
  | 0, _ => []
  | fuel + 1, buffer =>
    match deserialize buffer with
    | .error e => [.malformed e]
    | .ok message =>
      .message message ::
        if buffer.length ≤ message.length.toNat then []
        else datagramItems fuel (buffer.drop message.length.toNat)

/-- The items of one receive result. -/
def items : RecvResult → List Item
  | .timeout => [.timeout]
  | .error => []
  | .datagram receiveBuffer => datagramItems deserialize (receiveBuffer.length + 1) receiveBuffer

/-- The items of all the receive results, in order. -/
def stream (results : List RecvResult) : List Item := results.flatMap (items deserialize)

end Stream

/-- The `Done` of request `number`. -/
def isDone (number : UInt32) (message : NetlinkMessage) : Bool :=
  accepted (some number) message && message.payload == .done

/-- The items at which a call for `number` ends. -/
def Item.ends (number : UInt32) : Item → Bool
  | .timeout => true
  | .malformed _ => true
  | .message rxPacket => isDone number rxPacket

/-- The messages among some items. -/
def messages (before : List Item) : List NetlinkMessage :=
  before.filterMap fun
    | .message message => some message
    | _ => none

/-- What `recv_loop` does with a stream of items. -/
def outcome (number : UInt32) : List Item → DatagramEnd × List NetlinkMessage
  | [] => (.exhausted, [])
  | .timeout :: _ => (.returned (.ok .timeout), [])
  | .malformed e :: _ =>
    (.returned (fail (.communication ("Failed to deserialize netlink message: " ++ e))), [])
  | .message message :: rest =>
    if isDone number message then (.returned (.ok .received), [])
    else
      ((outcome number rest).1,
        (if accepted (some number) message then [message] else []) ++ (outcome number rest).2)

theorem outcome_append (number : UInt32) (front back : List Item) :
    outcome number (front ++ back) =
      match outcome number front with
      | (.returned result, passed) => (.returned result, passed)
      | (.exhausted, passed) =>
        ((outcome number back).1, passed ++ (outcome number back).2) := by
  induction front with
  | nil => simp [outcome]
  | cons item front ih =>
    rcases item with _ | e | message
    · rfl
    · rfl
    · simp only [List.cons_append, outcome]
      by_cases hdone : isDone number message
      · simp [hdone]
      · simp only [hdone, Bool.false_eq_true, if_false, ih]
        rcases outcome number front with ⟨_ | result, passed⟩ <;> simp

/-! ## The loops follow the stream -/

section Loops

variable {deserialize : Deserializer} (hlawful : LawfulDeserializer deserialize)

include hlawful

/-- The loop over a datagram walks the datagram's items. -/
theorem recvDatagram_eq (number : UInt32) {receiveBuffer : List UInt8}
    (hsize : receiveBuffer.length < 2 ^ 32) (fuel offset : ℕ)
    (hoffset : offset ≤ receiveBuffer.length)
    (hfuel : receiveBuffer.length - offset < fuel) :
    recvDatagram deserialize (some number) receiveBuffer fuel offset =
      some (outcome number (datagramItems deserialize fuel (receiveBuffer.drop offset))) := by
  induction fuel generalizing offset with
  | zero => omega
  | succ fuel ih =>
    rw [recvDatagram, if_neg (by omega), datagramItems]
    cases hmessage : deserialize (receiveBuffer.drop offset) with
    | error e => rfl
    | ok message =>
      -- each message moves the offset on, and not past the end
      have hlo := hlawful.header_le _ _ hmessage
      have hhi := hlawful.le_buffer _ _ hmessage
      rw [List.length_drop] at hhi
      simp only [outcome]
      by_cases hdone : isDone number message
      · have hdone' := hdone
        rw [isDone] at hdone'
        simp [hdone, hdone']
      · have hdone' := hdone
        rw [isDone] at hdone'
        rw [if_neg hdone, if_neg hdone', checked_of_lt (by omega)]
        dsimp only
        -- the message ends the datagram, or there is more behind it
        by_cases hend : offset + message.length.toNat = receiveBuffer.length
        · have hlast : (receiveBuffer.drop offset).length ≤ message.length.toNat := by
            rw [List.length_drop]
            omega
          rw [if_pos hend, if_pos hlast]
          simp [outcome]
        · have hmore : ¬ (receiveBuffer.drop offset).length ≤ message.length.toNat := by
            rw [List.length_drop]
            omega
          rw [if_neg hend, if_neg hmore, ih _ (by omega) (by omega), List.drop_drop]
          rfl

/-- **`recv_loop` walks the stream** to the first item that ends it. -/
theorem recvLoop_eq (number : UInt32) {results : List RecvResult}
    (hsize : ∀ receiveBuffer, .datagram receiveBuffer ∈ results →
      receiveBuffer.length < 2 ^ 32) :
    recvLoop deserialize (some number) results =
      match outcome number (stream deserialize results) with
      | (.exhausted, _) => none
      | (.returned result, passed) => some (result, passed) := by
  induction results with
  | nil => rfl
  | cons first results ih =>
    have hrest := ih fun b hb => hsize b (List.mem_cons_of_mem _ hb)
    rw [stream, List.flatMap_cons, ← stream, outcome_append]
    -- a timeout ends the loop, an error is passed over
    rcases first with _ | _ | receiveBuffer
    · rfl
    · rw [recvLoop, hrest]
      simp [items, outcome]
    · rw [recvLoop, recvDatagram_eq hlawful number (hsize _ List.mem_cons_self) _ 0
        (Nat.zero_le _) (by omega), List.drop_zero, ← items]
      rcases outcome number (items deserialize (.datagram receiveBuffer)) with
        ⟨_ | result, passed⟩
      · dsimp only
        rw [hrest]
        rcases outcome number (stream deserialize results) with ⟨_ | result, passed'⟩ <;> rfl
      · rfl

end Loops

/-! ## The end of a call -/

/-- The items a call for `number` walks over before it ends. -/
def walked (number : UInt32) (items : List Item) : List Item :=
  items.takeWhile fun item => !item.ends number

/-- The loop's outcome, read off the first item that ends it. -/
theorem outcome_eq (number : UInt32) (items : List Item) :
    outcome number items =
      (match items.find? (Item.ends number) with
        | none => .exhausted
        | some .timeout => .returned (.ok .timeout)
        | some (.malformed e) =>
          .returned (fail (.communication ("Failed to deserialize netlink message: " ++ e)))
        | some (.message _) => .returned (.ok .received),
      (messages (walked number items)).filter (accepted (some number))) := by
  induction items with
  | nil => rfl
  | cons item items ih =>
    rcases item with _ | e | message
    · rfl
    · rfl
    · by_cases hdone : isDone number message
      · simp [outcome, walked, messages, Item.ends, hdone]
      · rw [outcome, if_neg hdone, ih]
        by_cases hnumber : accepted (some number) message
        · simp [walked, messages, Item.ends, hdone, hnumber]
        · simp [walked, messages, Item.ends, hdone, hnumber]

/-- A whole answer: the `Done` of the request was received, and the answer holds the messages of
the request before it that are not errors. -/
def WholeAnswer (number : UInt32) (items : List Item) (answer : List NetlinkMessage) : Prop :=
  ∃ before done after, items = before ++ .message done :: after ∧
    (∀ item ∈ before, item.ends number = false) ∧ isDone number done ∧
    answer = (messages before).filter fun message =>
      accepted (some number) message && message.payload != .error

/-- The call is not cut short by a timeout, and no error message of the request comes before its
`Done`. -/
def Uninterrupted (number : UInt32) (items : List Item) : Prop :=
  items.find? (Item.ends number) ≠ some .timeout ∧
    ∀ done, items.find? (Item.ends number) = some (.message done) →
      ∀ message ∈ messages (walked number items), accepted (some number) message →
        message.payload ≠ .error

/-- Items that end with the request's `Done`, cut at that `Done`. -/
theorem find?_walked_of_done {number : UInt32} {before : List Item} (after : List Item)
    {done : NetlinkMessage} (hbefore : ∀ item ∈ before, item.ends number = false) (hdone : isDone number done) :
    (before ++ .message done :: after).find? (Item.ends number) = some (.message done) ∧
      walked number (before ++ .message done :: after) = before := by
  have hends : Item.ends number (.message done) = true := hdone
  constructor
  · rw [List.find?_append, List.find?_eq_none.mpr (by simpa using hbefore), Option.none_or,
      List.find?_cons_of_pos hends]
  · rw [walked, List.takeWhile_append_of_pos (by simpa using hbefore),
      List.takeWhile_cons_of_neg (by simp [hends]), List.append_nil]

/-- Every stream whose first ending item is a `Done` is cut there. -/
theorem eq_walked_append {number : UInt32} {items : List Item} {done : NetlinkMessage}
    (h : items.find? (Item.ends number) = some (.message done)) :
    ∃ after, items = walked number items ++ .message done :: after ∧
      (∀ item ∈ walked number items, item.ends number = false) ∧ isDone number done := by
  obtain ⟨hdone, before, after, rfl, hbefore⟩ := List.find?_eq_some_iff_append.mp h
  have hbefore' : ∀ item ∈ before, item.ends number = false := by
    intro item hitem
    simpa using hbefore item hitem
  have hwalked := (find?_walked_of_done after hbefore' hdone).2
  rw [hwalked]
  exact ⟨after, rfl, hbefore', hdone⟩

/-- An answer that starts from all the messages of the request is whole exactly when none of
these is an error. -/
theorem filter_error_eq_iff (number : UInt32) (received : List NetlinkMessage) :
    received.filter (accepted (some number)) =
        received.filter (fun message =>
          accepted (some number) message && message.payload != .error) ↔
      ∀ message ∈ received, accepted (some number) message → message.payload ≠ .error := by
  induction received with
  | nil => simp
  | cons message received ih =>
    by_cases hnumber : accepted (some number) message
    · by_cases herror : message.payload = .error
      · simp only [List.filter_cons, hnumber, herror, bne_self_eq_false, Bool.and_false,
          Bool.false_eq_true, if_true, if_false, List.forall_mem_cons, ne_eq, not_true_eq_false,
          forall_const, false_and, iff_false]
        intro heq
        have hmem : message ∈ received.filter fun message =>
            accepted (some number) message && message.payload != .error := by
          rw [← heq]
          exact List.mem_cons_self
        simp [herror] at hmem
      · simp [hnumber, herror, ih]
    · simp [hnumber, ih]

/-- **When a dump is whole.**  For every deserialiser whose messages lie in the buffer and every
sequence of receive results: each `Ok` of `send_message` answers the whole dump if and only if the
request could not be sent, or the call is neither cut short by a timeout nor given an error
message of the request. -/
theorem sendMessage_complete_iff {deserialize : Deserializer}
    (hlawful : LawfulDeserializer deserialize) (number : UInt32) (send : Except String Unit)
    (results : List RecvResult)
    (hsize : ∀ receiveBuffer, .datagram receiveBuffer ∈ results →
      receiveBuffer.length < 2 ^ 32) :
    (∀ answer, sendMessage deserialize number send results = some (.ok answer) →
        WholeAnswer number (stream deserialize results) answer) ↔
      (∃ e, send = .error e) ∨ Uninterrupted number (stream deserialize results) := by
  rcases send with e | _
  · simp [sendMessage, fail]
  · obtain ⟨items, hitems⟩ : ∃ items, stream deserialize results = items := ⟨_, rfl⟩
    simp only [sendMessage, recvLoop_eq hlawful number hsize, hitems, outcome_eq, reduceCtorEq,
      exists_false, false_or, Uninterrupted]
    cases hend : items.find? (Item.ends number) with
    | none => simp
    | some item =>
      rcases item with _ | e | done
      · -- cut short by a timeout: the answer is returned although no `Done` was received
        simp only [ne_eq, not_true_eq_false, false_and, iff_false, not_forall]
        refine ⟨_, rfl, ?_⟩
        rintro ⟨before, done, after, rfl, hbefore, hdone, -⟩
        rw [(find?_walked_of_done _ hbefore hdone).1] at hend
        cases hend
      · simp [fail, bind, Except.bind]
      · obtain ⟨after, hsplit, hbefore, hdone⟩ := eq_walked_append hend
        have hanswer : ∀ answer : List NetlinkMessage,
            WholeAnswer number items answer ↔ answer = (messages (walked number items)).filter
              fun message => accepted (some number) message && message.payload != .error := by
          intro answer
          constructor
          · rintro ⟨before, done', after', rfl, hbefore', hdone', rfl⟩
            rw [(find?_walked_of_done _ hbefore' hdone').2]
          · rintro rfl
            exact ⟨_, done, after, hsplit, hbefore, hdone, rfl⟩
        simp only [hanswer, Option.map_some, Option.some.injEq, ok_bind, ne_eq, reduceCtorEq,
          not_false_eq_true, true_and, Item.message.injEq, forall_eq', pure, Except.pure,
          Except.ok.injEq]
        exact filter_error_eq_iff number _

/-! ## A reply on the wire -/

/-- `LinkMessage` from the body of a message: its header, with no attributes behind it. -/
def deserializeLink (body : List UInt8) : Except String LinkMessage :=
  match body with
  | [family, _, _, _, a, b, c, d, _, _, _, _, _, _, _, _] =>
    .ok ⟨family, UInt32.ofNat (Octets.leNat [a, b, c, d]), []⟩
  | _ => .error "not a link message without attributes"

/-- `NetlinkPayload` from the type and the body of a message.  An error and a `Done` begin with a
code of 4 bytes.  Messages of other types are refused. -/
def deserializePayload (messageType : ℕ) (body : List UInt8) : Except String NetlinkPayload :=
  match messageType with
  | 1 => .ok .noop
  | 2 => if 4 ≤ body.length then .ok .error else .error "failed to parse NLMSG_ERROR"
  | 3 => if 4 ≤ body.length then .ok .done else .error "failed to parse NLMSG_DONE"
  | 4 => .ok .overrun
  | 16 => (deserializeLink body).map fun link => .innerMessage (.newLink link)
  | 17 => (deserializeLink body).map fun link => .innerMessage (.delLink link)
  | _ => .error "failed to parse the message"

/-- `NetlinkMessage::deserialize` on a little-endian machine, for control messages and for link
messages without attributes.  A length that is less than a header or not in the buffer is refused. -/
def deserializeBare : Deserializer := fun buffer =>
  let length := Octets.leNat (buffer.take 4)
  if 16 ≤ length ∧ length ≤ buffer.length then
    (deserializePayload (Octets.leNat ((buffer.drop 4).take 2)) ((buffer.take length).drop 16)).map
      fun payload =>
        ⟨UInt32.ofNat length, UInt32.ofNat (Octets.leNat ((buffer.drop 8).take 4)), payload⟩
  else .error "invalid netlink buffer"

/-- The length of a message is the one at its front. -/
theorem length_deserializeBare {buffer : List UInt8} {message : NetlinkMessage}
    (h : deserializeBare buffer = .ok message) :
    message.length.toNat = Octets.leNat (buffer.take 4) ∧
      16 ≤ Octets.leNat (buffer.take 4) ∧ Octets.leNat (buffer.take 4) ≤ buffer.length := by
  have hlt := Octets.leNat_lt (buffer.take 4)
  have hwidth : 256 ^ (buffer.take 4).length ≤ 2 ^ 32 := by
    have hle : (buffer.take 4).length ≤ 4 := List.length_take_le 4 buffer
    exact (Nat.pow_le_pow_right (by norm_num) hle).trans (by norm_num)
  unfold deserializeBare at h
  dsimp only at h
  split_ifs at h with hin
  cases hpayload : deserializePayload (Octets.leNat ((buffer.drop 4).take 2))
      ((buffer.take (Octets.leNat (buffer.take 4))).drop 16) with
  | error e =>
    rw [hpayload] at h
    cases h
  | ok payload =>
    rw [hpayload] at h
    cases h
    refine ⟨?_, hin⟩
    rw [UInt32.toNat_ofNat', Nat.mod_eq_of_lt (hlt.trans_le hwidth)]

theorem deserializeBare_lawful : LawfulDeserializer deserializeBare where
  header_le buffer message h := by
    obtain ⟨hlength, hheader, -⟩ := length_deserializeBare h
    omega
  le_buffer buffer message h := by
    obtain ⟨hlength, -, hbuffer⟩ := length_deserializeBare h
    omega

/-- A link message of request 7: 32 bytes of type `RTM_NEWLINK`, for index 2. -/
def linkReply : List UInt8 :=
  [32, 0, 0, 0, 16, 0, 2, 0, 7, 0, 0, 0, 0, 0, 0, 0, 0, 0, 1, 0, 2, 0, 0, 0, 0, 0, 0, 0, 0, 0, 0, 0]

/-- What it deserialises to. -/
def linkReplyMessage : NetlinkMessage := ⟨32, 7, .innerMessage (.newLink ⟨0, 2, []⟩)⟩

/-- The end of the dump of request 7: 20 bytes of type `NLMSG_DONE`. -/
def doneReply : List UInt8 := [20, 0, 0, 0, 3, 0, 2, 0, 7, 0, 0, 0, 0, 0, 0, 0, 0, 0, 0, 0]

theorem sendMessage_complete_iff_of_done :
    (∀ answer, sendMessage deserializeBare 7 (.ok ()) [.datagram (linkReply ++ doneReply)]
          = some (.ok answer) →
        WholeAnswer 7 (stream deserializeBare [.datagram (linkReply ++ doneReply)]) answer) ↔
      (∃ e, (.ok () : Except String Unit) = .error e) ∨
        Uninterrupted 7 (stream deserializeBare [.datagram (linkReply ++ doneReply)]) :=
  sendMessage_complete_iff deserializeBare_lawful 7 (.ok ()) _ (by
    intro receiveBuffer h
    rw [List.mem_singleton, RecvResult.datagram.injEq] at h
    rw [h]
    decide)

/-- A dump whose second datagram does not come in time is returned as complete. -/
theorem not_sendMessage_complete :
    ¬ ∀ (deserialize : Deserializer), LawfulDeserializer deserialize →
      ∀ (number : UInt32) (send : Except String Unit) (results : List RecvResult),
      (∀ receiveBuffer, .datagram receiveBuffer ∈ results → receiveBuffer.length < 2 ^ 32) →
      ∀ answer, sendMessage deserialize number send results = some (.ok answer) →
        WholeAnswer number (stream deserialize results) answer := by
  intro h
  have hreceived := h deserializeBare deserializeBare_lawful 7 (.ok ())
    [.datagram linkReply, .timeout] (by simp [linkReply]) [linkReplyMessage] (by decide +kernel)
  obtain ⟨before, done, after, hitems, hbefore, hdone, -⟩ := hreceived
  have hend := (find?_walked_of_done after hbefore hdone).1
  rw [← hitems] at hend
  have htimeout : (stream deserializeBare [.datagram linkReply, .timeout]).find? (Item.ends 7)
      = some .timeout := by
    decide +kernel
  rw [htimeout] at hend
  cases hend

end RustyRouter.DefaultNetlinkSocket
