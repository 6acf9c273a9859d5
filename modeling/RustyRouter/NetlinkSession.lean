/-
# The two netlink sockets over many calls (`netlink/socket.rs`)

A call of `recv_loop` reads whole datagrams, so what stands behind the message at
which it returns is lost with its datagram, and what comes in later datagrams is
left to the next call (`recvLoopRest`).

On the socket of the requests one call follows the other.  Each reads a window of
the receive results of its own and answers as if it were alone with it; what is
left of the answer to an earlier request is passed over, so that no message is
returned twice or to another request than its own (`sendMessages_windows`).

On the multicast socket the loop hands on the messages of each call when the call
returns: at a timeout, or at a datagram with a `Done` or a message that does not
deserialise.  Until then they are held back; they are lost behind such a message
(`recvMulticastMessages_flatten`).
-/
import RustyRouter.NetlinkDump

namespace RustyRouter.DefaultNetlinkSocket

open Checked

/-! ## What a call leaves -/

section Receive

variable (deserialize : Deserializer)

/-- `recv_loop`, with the receive results that it leaves. -/
def recvLoopRest (sequenceNumber : Option UInt32) :
    List RecvResult → Option ((Exec Error RecvState × List NetlinkMessage) × List RecvResult)
  | [] => none
  | .timeout :: results => some ((.ok .timeout, []), results)
  | .error :: results => recvLoopRest sequenceNumber results
  | .datagram receiveBuffer :: results =>
    match recvDatagram deserialize sequenceNumber receiveBuffer (receiveBuffer.length + 1) 0 with
    | none => none
    | some (.returned result, passed) => some ((result, passed), results)
    | some (.exhausted, passed) =>
      (recvLoopRest sequenceNumber results).map fun call =>
        ((call.1.1, passed ++ call.1.2), call.2)

/-- What the receive loop returns, apart from what it leaves on the socket. -/
theorem map_fst_recvLoopRest (sequenceNumber : Option UInt32) (results : List RecvResult) :
    (recvLoopRest deserialize sequenceNumber results).map Prod.fst =
      recvLoop deserialize sequenceNumber results := by
  induction results with
  | nil => rfl
  | cons first results ih =>
    rcases first with _ | _ | receiveBuffer
    · rfl
    · rw [recvLoopRest, recvLoop, ih]
    · rw [recvLoopRest, recvLoop, ← ih]
      rcases recvDatagram deserialize sequenceNumber receiveBuffer (receiveBuffer.length + 1) 0
        with _ | ⟨_ | result, passed⟩
      · rfl
      · rcases recvLoopRest deserialize sequenceNumber results with _ | ⟨⟨result, rest⟩, left⟩ <;>
          rfl
      · rfl

/-- `send_message`, with the receive results that it leaves. -/
def sendMessageRest (sequenceNumber : UInt32) (send : Except String Unit)
    (results : List RecvResult) : Option (Exec Error (List NetlinkMessage) × List RecvResult) :=
  match send with
  | .error e => some (fail (.io e "Netlink Socket Send"), results)
  | .ok _ =>
    (recvLoopRest deserialize (some sequenceNumber) results).map fun call =>
      (do let _ ← call.1.1; return call.1.2, call.2)

/-- What a request returns, apart from what it leaves on the socket. -/
theorem map_fst_sendMessageRest (sequenceNumber : UInt32) (send : Except String Unit)
    (results : List RecvResult) :
    (sendMessageRest deserialize sequenceNumber send results).map Prod.fst =
      sendMessage deserialize sequenceNumber send results := by
  cases send with
  | error e => rfl
  | ok _ =>
    rw [sendMessageRest, sendMessage, ← map_fst_recvLoopRest, Option.map_map, Option.map_map]
    rfl

/-- The calls of `send_message` on one socket, each with its request's number and the outcome of
sending it: what those that return answer.  A call that still waits keeps the socket from those
after it. -/
def sendMessages : List (UInt32 × Except String Unit) → List RecvResult →
    List (Exec Error (List NetlinkMessage))
  | [], _ => []
  | (number, send) :: requests, results =>
    match sendMessageRest deserialize number send results with
    | none => []
    | some (answer, results) => answer :: sendMessages requests results

/-- How `recv_multicast_messages` stands. -/
inductive MulticastEnd : Type where
  | stopped
  | waiting
  | panicked
  deriving DecidableEq, Repr

/-- `recv_multicast_messages` while `running` is true for a number of turns: the messages that each
turn hands to the listener, and how it stands after them. -/
def recvMulticastMessages : ℕ → List RecvResult → List (List NetlinkMessage) × MulticastEnd
  | 0, _ => ([], .stopped)
  | turns + 1, results =>
    match recvLoopRest deserialize none results with
    | none => ([], .waiting)
    | some ((.error .panic, _), _) => ([], .panicked)
    -- an error is logged, and what was received before it is handed on
    | some ((_, messages), results) =>
      let (batches, standing) := recvMulticastMessages turns results
      (messages :: batches, standing)

end Receive

/-! ## What a call reads -/

/-- The items at which a call returns. -/
def Item.closes (sequenceNumber : Option UInt32) : Item → Bool
  | .timeout => true
  | .malformed _ => true
  | .message rxPacket => accepted sequenceNumber rxPacket && rxPacket.payload == .done

/-- What a call returns at an item. -/
def closing : Option Item → DatagramEnd
  | none => .exhausted
  | some .timeout => .returned (.ok .timeout)
  | some (.malformed e) =>
    .returned (fail (.communication ("Failed to deserialize netlink message: " ++ e)))
  | some (.message _) => .returned (.ok .received)

section Reads

variable (deserialize : Deserializer) (sequenceNumber : Option UInt32)

/-- Whether a call returns at a receive result. -/
def closes (result : RecvResult) : Bool := (items deserialize result).any (Item.closes sequenceNumber)

/-- The messages of a receive result that a call passes on: those before the item at which it
returns. -/
def heard (result : RecvResult) : List NetlinkMessage :=
  (messages ((items deserialize result).takeWhile fun item => !item.closes sequenceNumber)).filter
    (accepted sequenceNumber)

end Reads

section Lawful

variable {deserialize : Deserializer} (hlawful : LawfulDeserializer deserialize)
include hlawful

omit hlawful in
/-- The first message of a stream is passed on or skipped. -/
theorem filter_messages_cons (sequenceNumber : Option UInt32) (message : NetlinkMessage)
    (items : List Item) :
    (messages (.message message :: items)).filter (accepted sequenceNumber) =
      (if accepted sequenceNumber message then [message] else []) ++
        (messages items).filter (accepted sequenceNumber) := by
  by_cases haccepted : accepted sequenceNumber message <;> simp [messages, haccepted]

/-- The loop over a datagram passes on what comes before the item at which it returns. -/
theorem recvDatagram_eq_heard (sequenceNumber : Option UInt32) {receiveBuffer : List UInt8}
    (hsize : receiveBuffer.length < 2 ^ 32) (fuel offset : ℕ)
    (hoffset : offset ≤ receiveBuffer.length) (hfuel : receiveBuffer.length - offset < fuel) :
    recvDatagram deserialize sequenceNumber receiveBuffer fuel offset =
      some (closing ((datagramItems deserialize fuel (receiveBuffer.drop offset)).find?
          (Item.closes sequenceNumber)),
        (messages ((datagramItems deserialize fuel (receiveBuffer.drop offset)).takeWhile
          fun item => !item.closes sequenceNumber)).filter (accepted sequenceNumber)) := by
  induction fuel generalizing offset with
  | zero => omega
  | succ fuel ih =>
    rw [recvDatagram, if_neg (by omega), datagramItems]
    cases hmessage : deserialize (receiveBuffer.drop offset) with
    | error e => rfl
    | ok message =>
      have hlo := hlawful.header_le _ _ hmessage
      have hhi := hlawful.le_buffer _ _ hmessage
      rw [List.length_drop] at hhi
      dsimp only
      -- the message closes the datagram, or the walk goes on behind it
      by_cases hcloses : Item.closes sequenceNumber (.message message)
      · have hcloses' := hcloses
        rw [Item.closes] at hcloses'
        rw [if_pos hcloses', List.find?_cons_of_pos hcloses, List.takeWhile_cons_of_neg (by simp [hcloses])]
        rfl
      · have hcloses' := hcloses
        rw [Item.closes] at hcloses'
        rw [if_neg hcloses', checked_of_lt (by omega), List.find?_cons_of_neg hcloses,
          List.takeWhile_cons_of_pos (by simp [hcloses])]
        rw [filter_messages_cons]
        dsimp only
        by_cases hend : offset + message.length.toNat = receiveBuffer.length
        · have hlast : (receiveBuffer.drop offset).length ≤ message.length.toNat := by
            rw [List.length_drop]
            omega
          rw [if_pos hend, if_pos hlast]
          simp [messages, closing]
        · have hmore : ¬ (receiveBuffer.drop offset).length ≤ message.length.toNat := by
            rw [List.length_drop]
            omega
          rw [if_neg hend, if_neg hmore, ih _ (by omega) (by omega), List.drop_drop]
          rfl

/-- What a call does with a datagram. -/
theorem recvDatagram_heard (sequenceNumber : Option UInt32) {receiveBuffer : List UInt8}
    (hsize : receiveBuffer.length < 2 ^ 32) :
    recvDatagram deserialize sequenceNumber receiveBuffer (receiveBuffer.length + 1) 0 =
      some (closing ((items deserialize (.datagram receiveBuffer)).find?
          (Item.closes sequenceNumber)),
        heard deserialize sequenceNumber (.datagram receiveBuffer)) := by
  rw [recvDatagram_eq_heard hlawful sequenceNumber hsize _ 0 (Nat.zero_le _) (by omega),
    List.drop_zero]
  rfl

/-- A call reads on over results that do not make it return. -/
theorem recvLoopRest_append (sequenceNumber : Option UInt32) {before : List RecvResult}
    (hsize : ∀ receiveBuffer, .datagram receiveBuffer ∈ before → receiveBuffer.length < 2 ^ 32)
    (hopen : ∀ result ∈ before, closes deserialize sequenceNumber result = false)
    (results : List RecvResult) :
    recvLoopRest deserialize sequenceNumber (before ++ results) =
      (recvLoopRest deserialize sequenceNumber results).map fun call =>
        ((call.1.1, before.flatMap (heard deserialize sequenceNumber) ++ call.1.2), call.2) := by
  induction before with
  | nil => exact Option.map_id'.symm
  | cons first before ih =>
    have hrest := ih (fun b hb => hsize b (.tail _ hb)) fun r hr => hopen r (.tail _ hr)
    have hfirst := hopen first List.mem_cons_self
    rw [List.cons_append, List.flatMap_cons]
    rcases first with _ | _ | receiveBuffer
    · cases hfirst
    · exact hrest
    · have hnone := List.find?_eq_none.mpr fun item hitem => List.any_eq_false.mp hfirst item hitem
      rw [recvLoopRest, recvDatagram_heard hlawful sequenceNumber (hsize _ List.mem_cons_self),
        hnone, closing, hrest]
      simp [Function.comp_def]

/-- A call returns at the first result that makes it return. -/
theorem recvLoopRest_cons (sequenceNumber : Option UInt32) {last : RecvResult}
    (hsize : ∀ receiveBuffer, last = .datagram receiveBuffer → receiveBuffer.length < 2 ^ 32)
    (hcloses : closes deserialize sequenceNumber last = true) :
    ∃ result, result ≠ .error .panic ∧ ∀ left,
      recvLoopRest deserialize sequenceNumber (last :: left) =
        some ((result, heard deserialize sequenceNumber last), left) := by
  rcases last with _ | _ | receiveBuffer
  · exact ⟨.ok .timeout, by simp, fun left => rfl⟩
  · cases hcloses
  · obtain ⟨item, hitem⟩ :=
      Option.isSome_iff_exists.mp (List.find?_isSome.mpr (List.any_eq_true.mp hcloses))
    have hdatagram := recvDatagram_heard hlawful sequenceNumber (hsize _ rfl)
    rw [hitem] at hdatagram
    cases item with
    | timeout => exact ⟨.ok .timeout, by simp, fun left => by rw [recvLoopRest, hdatagram]; rfl⟩
    | malformed e =>
      exact ⟨fail _, by simp [fail], fun left => by rw [recvLoopRest, hdatagram]; rfl⟩
    | message message =>
      exact ⟨.ok .received, by simp, fun left => by rw [recvLoopRest, hdatagram]; rfl⟩

/-- A call waits for more, or it has read a window of the results and leaves the others. -/
theorem recvLoopRest_cases (sequenceNumber : Option UInt32) {results : List RecvResult}
    (hsize : ∀ receiveBuffer, .datagram receiveBuffer ∈ results → receiveBuffer.length < 2 ^ 32) :
    ((∀ result ∈ results, closes deserialize sequenceNumber result = false) ∧
        recvLoopRest deserialize sequenceNumber results = none) ∨
      ∃ before last left result, results = before ++ last :: left ∧
        (∀ result ∈ before, closes deserialize sequenceNumber result = false) ∧
        closes deserialize sequenceNumber last = true ∧ result ≠ .error .panic ∧
        ∀ left', recvLoopRest deserialize sequenceNumber (before ++ last :: left') =
          some ((result, (before ++ [last]).flatMap (heard deserialize sequenceNumber)), left') := by
  cases hfind : results.find? (closes deserialize sequenceNumber) with
  | none =>
    -- nothing closes the loop, so it goes on waiting
    have hopen : ∀ result ∈ results, closes deserialize sequenceNumber result = false :=
      fun result hresult => by simpa using List.find?_eq_none.mp hfind result hresult
    refine Or.inl ⟨hopen, ?_⟩
    have happend := recvLoopRest_append hlawful sequenceNumber hsize hopen []
    rwa [List.append_nil, recvLoopRest, Option.map_none] at happend
  | some last =>
    -- the first result that closes the loop ends the window
    obtain ⟨hcloses, before, left, rfl, hopen⟩ := List.find?_eq_some_iff_append.mp hfind
    have hopen' : ∀ result ∈ before, closes deserialize sequenceNumber result = false :=
      fun result hresult => by simpa using hopen result hresult
    have hbefore : ∀ b, .datagram b ∈ before → b.length < 2 ^ 32 := fun b hb =>
      hsize b (List.mem_append_left _ hb)
    have hlast : ∀ b, last = .datagram b → b.length < 2 ^ 32 := fun b hb =>
      hsize b (List.mem_append_right _ (hb ▸ List.mem_cons_self))
    obtain ⟨result, hpanic, hcons⟩ := recvLoopRest_cons hlawful sequenceNumber hlast hcloses
    refine Or.inr ⟨before, last, left, result, rfl, hopen', hcloses, hpanic, fun left' => ?_⟩
    rw [recvLoopRest_append hlawful sequenceNumber hbefore hopen', hcons, List.flatMap_append,
      List.flatMap_singleton]
    rfl

/-! ## Requests on one socket -/

/-- The messages of an answer. -/
def answered : Exec Error (List NetlinkMessage) → List NetlinkMessage
  | .ok messages => messages
  | .error _ => []

omit hlawful in
/-- The messages of a stream in two parts. -/
theorem messages_append (items items' : List Item) :
    messages (items ++ items') = messages items ++ messages items' :=
  List.filterMap_append

omit hlawful in
/-- The messages of what is received in two parts. -/
theorem messages_stream_append (results results' : List RecvResult) :
    messages (stream deserialize (results ++ results')) =
      messages (stream deserialize results) ++ messages (stream deserialize results') := by
  rw [stream, List.flatMap_append, messages_append, ← stream, ← stream]

omit hlawful in
/-- What is heard of some results is among their messages. -/
theorem heard_sublist (sequenceNumber : Option UInt32) (results : List RecvResult) :
    (results.flatMap (heard deserialize sequenceNumber)).Sublist
      (messages (stream deserialize results)) := by
  induction results with
  | nil => exact List.Sublist.refl _
  | cons first results ih =>
    rw [List.flatMap_cons, stream, List.flatMap_cons, ← stream, messages_append]
    refine List.Sublist.append ?_ ih
    exact List.filter_sublist.trans ((List.takeWhile_sublist _).filterMap _)

omit hlawful in
/-- What a loop hears is of its own number. -/
theorem accepted_of_mem_heard {sequenceNumber : Option UInt32} {results : List RecvResult}
    {message : NetlinkMessage} (h : message ∈ results.flatMap (heard deserialize sequenceNumber)) :
    accepted sequenceNumber message = true := by
  obtain ⟨result, -, hmessage⟩ := List.mem_flatMap.mp h
  exact (List.mem_filter.mp hmessage).2

omit hlawful in
/-- An answer is part of what was passed on. -/
theorem answered_sublist (result : Exec Error RecvState) (passed : List NetlinkMessage) :
    (answered (do let _ ← result; return passed)).Sublist passed := by
  cases result with
  | error e => exact List.nil_sublist _
  | ok state => exact List.Sublist.refl _

/-- A call of `send_message` waits, or it answers what is its own of a window of the results. -/
theorem sendMessageRest_cases (number : UInt32) (send : Except String Unit)
    {results : List RecvResult}
    (hsize : ∀ receiveBuffer, .datagram receiveBuffer ∈ results → receiveBuffer.length < 2 ^ 32) :
    sendMessageRest deserialize number send results = none ∨
      ∃ window left answer, results = window ++ left ∧
        sendMessage deserialize number send window = some answer ∧
        sendMessageRest deserialize number send (window ++ left) = some (answer, left) ∧
        (answered answer).Sublist (messages (stream deserialize window)) ∧
        ∀ message ∈ answered answer, message.sequenceNumber = number := by
  cases send with
  | error e => exact Or.inr ⟨[], results, _, rfl, rfl, rfl, List.nil_sublist _, by simp [answered, fail]⟩
  | ok _ =>
    rcases recvLoopRest_cases hlawful (some number) hsize with
      ⟨-, hnone⟩ | ⟨before, last, left, result, rfl, -, -, -, hread⟩
    · exact Or.inl (by rw [sendMessageRest, hnone]; rfl)
    · have hsplit : before ++ last :: left = (before ++ [last]) ++ left := by simp
      have hpassed := answered_sublist result
        ((before ++ [last]).flatMap (heard deserialize (some number)))
      refine Or.inr ⟨before ++ [last], left, _, hsplit, ?_, ?_, hpassed.trans (heard_sublist _ _), ?_⟩
      · rw [sendMessage, ← map_fst_recvLoopRest, hread []]
        rfl
      · rw [← hsplit, sendMessageRest, hread left]
        rfl
      · intro message hmessage
        have haccepted := accepted_of_mem_heard (hpassed.mem hmessage)
        simpa [accepted] using haccepted

/-- The receive results fall into windows, one a call: a call answers what it would answer alone on
its window, and the first that does not return would wait with all that is left. -/
inductive Served (deserialize : Deserializer) :
    List (UInt32 × Except String Unit) → List RecvResult → List (Exec Error (List NetlinkMessage)) →
      Prop where
  | nil (results : List RecvResult) : Served deserialize [] results []
  | waits {number : UInt32} {send : Except String Unit} {results : List RecvResult}
      (requests : List (UInt32 × Except String Unit))
      (h : sendMessage deserialize number send results = none) :
      Served deserialize ((number, send) :: requests) results []
  | returns {number : UInt32} {send : Except String Unit} {window left : List RecvResult}
      {requests : List (UInt32 × Except String Unit)} {answer : Exec Error (List NetlinkMessage)}
      {answers : List (Exec Error (List NetlinkMessage))}
      (h : sendMessage deserialize number send window = some answer)
      (hrest : Served deserialize requests left answers) :
      Served deserialize ((number, send) :: requests) (window ++ left) (answer :: answers)

/-- **Each request has a window of its own.**  The calls on a socket answer as if each were alone
with a window of the receive results.  All that they return is a subsequence of what was received,
and each returns messages of its own request only. -/
theorem sendMessages_windows (requests : List (UInt32 × Except String Unit))
    {results : List RecvResult}
    (hsize : ∀ receiveBuffer, .datagram receiveBuffer ∈ results → receiveBuffer.length < 2 ^ 32) :
    Served deserialize requests results (sendMessages deserialize requests results) ∧
      ((sendMessages deserialize requests results).flatMap answered).Sublist
        (messages (stream deserialize results)) ∧
      ∀ call ∈ requests.zip (sendMessages deserialize requests results),
        ∀ message ∈ answered call.2, message.sequenceNumber = call.1.1 := by
  induction requests generalizing results with
  | nil => exact ⟨.nil results, List.nil_sublist _, by simp⟩
  | cons request requests ih =>
    obtain ⟨number, send⟩ := request
    rcases sendMessageRest_cases hlawful number send hsize with
      hnone | ⟨window, left, answer, rfl, hwindow, hread, hsublist, hnumber⟩
    · rw [sendMessages, hnone]
      -- a request that does not return keeps the socket, so the others wait
      refine ⟨.waits requests ?_, List.nil_sublist _, by simp⟩
      rw [← map_fst_sendMessageRest, hnone]
      rfl
    · have hleft : ∀ b, .datagram b ∈ left → b.length < 2 ^ 32 := fun b hb =>
        hsize b (List.mem_append_right _ hb)
      -- the next requests are served from what the window has left
      obtain ⟨hserved, hanswers, hnumbers⟩ := ih hleft
      rw [sendMessages, hread]
      refine ⟨.returns hwindow hserved, ?_, ?_⟩
      · rw [messages_stream_append, List.flatMap_cons]
        exact hsublist.append hanswers
      · rw [List.zip_cons_cons, List.forall_mem_cons]
        exact ⟨hnumber, hnumbers⟩

/-! ## The multicast socket -/

omit hlawful in
/-- What is held back stands behind the last result at which a turn ends. -/
theorem rdropWhile_append_cons {p : RecvResult → Bool} (before left : List RecvResult)
    {last : RecvResult} (hlast : p last = false) :
    (before ++ last :: left).rdropWhile p = before ++ [last] ++ left.rdropWhile p := by
  have hfront : (before ++ [last]).reverse.dropWhile p = (before ++ [last]).reverse := by
    rw [List.reverse_append, List.reverse_singleton, List.singleton_append,
      List.dropWhile_cons_of_neg (by simp [hlast])]
  have hsplit : before ++ last :: left = before ++ [last] ++ left := by simp
  rw [hsplit, List.rdropWhile, List.reverse_append, List.dropWhile_append, hfront]
  split
  · next hnone =>
    rw [List.rdropWhile, List.isEmpty_iff.mp hnone, List.reverse_reverse, List.reverse_nil,
      List.append_nil]
  · rw [List.reverse_append, List.reverse_reverse, ← List.rdropWhile]

omit hlawful in
/-- Where nothing closes a dump there is no closed part. -/
theorem rdropWhile_eq_nil {results : List RecvResult}
    (hopen : ∀ result ∈ results, closes deserialize none result = false) :
    (results.rdropWhile fun result => !closes deserialize none result) = [] :=
  List.rdropWhile_eq_nil_iff.mpr fun result hresult => by simp [hopen result hresult]

/-- **Events are handed on once and in order.**  The multicast loop, given turns enough, hands to
the listener what is heard of the receive results up to the last one at which a turn ends, and holds
back what comes after it.  Only what stands behind a `Done` or a message that does not deserialise,
in the same datagram, is lost. -/
theorem recvMulticastMessages_flatten {turns : ℕ} {results : List RecvResult}
    (hsize : ∀ receiveBuffer, .datagram receiveBuffer ∈ results → receiveBuffer.length < 2 ^ 32)
    (hturns : results.countP (closes deserialize none) ≤ turns) :
    (recvMulticastMessages deserialize turns results).2 ≠ .panicked ∧
      (recvMulticastMessages deserialize turns results).1.flatten =
        (results.rdropWhile fun result => !closes deserialize none result).flatMap
          (heard deserialize none) := by
  induction turns generalizing results with
  | zero =>
    have hopen : ∀ result ∈ results, closes deserialize none result = false := by
      simpa using List.countP_eq_zero.mp (Nat.le_zero.mp hturns)
    rw [rdropWhile_eq_nil hopen]
    exact ⟨by simp [recvMulticastMessages], rfl⟩
  | succ turns ih =>
    rcases recvLoopRest_cases hlawful none hsize with
      ⟨hopen, hnone⟩ | ⟨before, last, left, result, rfl, -, hlast, hpanic, hread⟩
    · rw [rdropWhile_eq_nil hopen, recvMulticastMessages, hnone]
      exact ⟨by simp, rfl⟩
    · have hleft : ∀ b, .datagram b ∈ left → b.length < 2 ^ 32 := fun b hb =>
        hsize b (List.mem_append_right _ (.tail _ hb))
      -- the turn uses up one of the results that close
      have hcount : left.countP (closes deserialize none) ≤ turns := by
        rw [List.countP_append, List.countP_cons_of_pos hlast] at hturns
        omega
      obtain ⟨hstanding, hbatches⟩ := ih hleft hcount
      have hturn : recvMulticastMessages deserialize (turns + 1) (before ++ last :: left) =
          ((before ++ [last]).flatMap (heard deserialize none) ::
              (recvMulticastMessages deserialize turns left).1,
            (recvMulticastMessages deserialize turns left).2) := by
        rw [recvMulticastMessages, hread left]
        rcases result with (e | _) | state
        · rfl
        · exact absurd rfl hpanic
        · rfl
      rw [hturn, rdropWhile_append_cons before left (by simp [hlast]), List.flatten_cons, hbatches,
        ← List.flatMap_append]
      exact ⟨hstanding, rfl⟩

end Lawful

/-! ## A request that times out, and one after it -/

/-- A timeout, then what is left of the answer to request 6 before the answer to request 7. -/
def lateAnswer : List RecvResult :=
  [.timeout, .datagram (earlierDone ++ linkReply), .error, .datagram doneReply]

/-- The datagrams of the example are short. -/
theorem length_lt_of_lateAnswer (receiveBuffer : List UInt8)
    (h : .datagram receiveBuffer ∈ lateAnswer) : receiveBuffer.length < 2 ^ 32 := by
  simp only [lateAnswer, List.mem_cons, RecvResult.datagram.injEq, List.not_mem_nil, or_false,
    reduceCtorEq, false_or] at h
  rcases h with rfl | rfl <;> decide

/-- The answer to the first request comes during the second, which skips it. -/
theorem sendMessages_windows_lateAnswer :
    Served deserializeBare [(6, .ok ()), (7, .ok ())] lateAnswer
        [.ok [], .ok [linkReplyMessage]] ∧
      (sendMessages deserializeBare [(6, .ok ()), (7, .ok ())] lateAnswer).flatMap answered =
        [linkReplyMessage] :=
  ⟨(sendMessages_windows deserializeBare_lawful [(6, .ok ()), (7, .ok ())]
    length_lt_of_lateAnswer).1, rfl⟩

/-- An event, a `Done` with an event behind it, and a last event. -/
def heldBack : List RecvResult :=
  [.datagram linkReply, .timeout, .datagram (doneReply ++ linkReply), .datagram linkReply]

/-- What arrives for two receptions is passed on by them together. -/
theorem recvMulticastMessages_heldBack :
    (recvMulticastMessages deserializeBare 2 heldBack).2 ≠ .panicked ∧
      (recvMulticastMessages deserializeBare 2 heldBack).1.flatten =
        [linkReplyMessage] := by
  have hsize : ∀ b, .datagram b ∈ heldBack → b.length < 2 ^ 32 := by
    intro b hb
    simp only [heldBack, List.mem_cons, RecvResult.datagram.injEq, List.not_mem_nil, or_false,
      reduceCtorEq, false_or] at hb
    rcases hb with rfl | rfl | rfl <;> decide
  exact recvMulticastMessages_flatten deserializeBare_lawful hsize (by decide)

end RustyRouter.DefaultNetlinkSocket
