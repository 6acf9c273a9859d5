/-
# Polling over the socket (`InterfaceManagerWorker::poll`, `NetlinkSocket::send_message`)

The worker polls again and again over one socket.  A poll makes two requests, the
second only after the first was answered, each with a random number of its own, and
an answer is what `send_message` returns.

Whatever is received, the database is that of a run of polls, each with dumps that
hold messages of its own requests only, and no message is in two dumps
(`worker_refines`).  If the kernel answers each request up to its `Done`, in datagrams
of whole messages and with errors between them, each poll is given exactly these
answers (`worker_of_dumps`).
-/
import RustyRouter.NetlinkSession
import RustyRouter.PollReference

namespace RustyRouter

open Checked DefaultNetlinkSocket

/-- A poll as the worker starts it: the numbers of its two requests and what sending them comes to,
with the clock and the orders that it is given.  The dumps of `input` are not used. -/
structure PollRequest where
  linkNumber : UInt32
  linkSend : Except String Unit
  networkNumber : UInt32
  networkSend : Except String Unit
  input : PollInput

namespace InterfaceManagerWorker

section Worker

variable (deserialize : Deserializer)

/-- What a poll is given by its two requests, and the receive results that they leave.  `none` is a
poll that waits, or a panic, after which the worker does not poll again. -/
def fetch (request : PollRequest) (results : List RecvResult) :
    Option (PollInput × List RecvResult) :=
  match sendMessageRest deserialize request.linkNumber request.linkSend results with
  | none => none
  | some (.error .panic, _) => none
  | some (.error (.error e), results) => some ({ request.input with linkData := .error e }, results)
  | some (.ok linkData, results) =>
    match sendMessageRest deserialize request.networkNumber request.networkSend results with
    | none => none
    | some (.error .panic, _) => none
    | some (.error (.error e), results) =>
      some ({ request.input with linkData := .ok linkData, networkData := .error e }, results)
    | some (.ok networkData, results) =>
      some ({ request.input with linkData := .ok linkData, networkData := .ok networkData },
        results)

/-- The database after the polls of the worker. -/
def worker (config : Router) : List PollRequest → List RecvResult → InterfaceManagerDatabase →
    InterfaceManagerDatabase
  | [], _, db => db
  | request :: requests, results, db =>
    match fetch deserialize request results with
    | none => db
    | some (input, results) => worker config requests results (poll config input db)

end Worker

end InterfaceManagerWorker

/-! ## Whatever is received -/

namespace PollInput

/-- The messages of a dump. -/
def messagesOf : Except Error (List NetlinkMessage) → List NetlinkMessage
  | .ok messages => messages
  | .error _ => []

/-- The messages that a poll is given: a poll whose first request fails makes no second. -/
def received (input : PollInput) : List NetlinkMessage :=
  match input.linkData with
  | .ok linkData => linkData ++ messagesOf input.networkData
  | .error _ => []

/-- A poll that is given messages of its own requests only. -/
structure AnswersOf (request : PollRequest) (input : PollInput) : Prop where
  linkData : ∀ linkData, input.linkData = .ok linkData →
    ∀ message ∈ linkData, message.sequenceNumber = request.linkNumber
  networkData : ∀ linkData networkData, input.linkData = .ok linkData →
    input.networkData = .ok networkData →
      ∀ message ∈ networkData, message.sequenceNumber = request.networkNumber

end PollInput

namespace InterfaceManagerWorker

variable {deserialize : Deserializer}

/-- What a poll is given comes from a window of the receive results and is its own. -/
theorem fetch_cases (hlawful : LawfulDeserializer deserialize) {request : PollRequest}
    {results rest : List RecvResult} {input : PollInput}
    (hsize : ∀ receiveBuffer, .datagram receiveBuffer ∈ results → receiveBuffer.length < 2 ^ 32)
    (h : fetch deserialize request results = some (input, rest)) :
    PollInput.AnswersOf request input ∧ ∃ window, results = window ++ rest ∧
      input.received.Sublist (messages (stream deserialize window)) := by
  rcases sendMessageRest_cases hlawful request.linkNumber request.linkSend hsize with
    hnone | ⟨window, left, answer, rfl, -, hread, hsublist, hnumber⟩
  · rw [fetch, hnone] at h
    cases h
  -- a request that fails ends the poll, and its answer is nobody's
  rcases answer with (e | _) | linkData
  · rw [fetch, hread] at h
    cases h
    refine ⟨⟨fun _ hlink => ?_, fun _ _ hlink => ?_⟩, window, rfl, List.nil_sublist _⟩ <;>
      cases hlink
  · rw [fetch, hread] at h
    cases h
  -- the second request reads behind the window of the first
  have hleft : ∀ b, .datagram b ∈ left → b.length < 2 ^ 32 := fun b hb =>
    hsize b (List.mem_append_right _ hb)
  rcases sendMessageRest_cases hlawful request.networkNumber request.networkSend hleft with
    hnone | ⟨window', left', answer, rfl, -, hread', hsublist', hnumber'⟩
  · rw [fetch, hread] at h
    dsimp only at h
    rw [hnone] at h
    cases h
  rw [fetch, hread] at h
  dsimp only at h
  rw [hread'] at h
  rcases answer with (e | _) | networkData
  · cases h
    refine ⟨⟨?_, fun _ _ _ hnetwork => ?_⟩, window ++ window', (List.append_assoc ..).symm, ?_⟩
    · rintro _ ⟨⟩
      exact hnumber
    · cases hnetwork
    · rw [messages_stream_append]
      exact hsublist.append (List.nil_sublist _)
  · cases h
  · cases h
    refine ⟨⟨?_, ?_⟩, window ++ window', (List.append_assoc ..).symm, ?_⟩
    · rintro _ ⟨⟩
      exact hnumber
    · rintro _ _ ⟨⟩ ⟨⟩
      exact hnumber'
    · rw [messages_stream_append]
      exact hsublist.append hsublist'

/-- **The worker over its socket is a run of polls.**  Whatever it receives, its database is that of
polls with the answers to its requests in order: each poll is given messages of its own two requests
only, and all that the polls are given is a subsequence of what was received. -/
theorem worker_refines (hlawful : LawfulDeserializer deserialize) (config : Router)
    (requests : List PollRequest) {results : List RecvResult}
    (hsize : ∀ receiveBuffer, .datagram receiveBuffer ∈ results → receiveBuffer.length < 2 ^ 32) :
    ∃ inputs : List PollInput,
      worker deserialize config requests results InterfaceManagerDatabase.new =
          InterfaceManager.run config (inputs.map .poll) ∧
        List.Forall₂ PollInput.AnswersOf (requests.take inputs.length) inputs ∧
        (inputs.flatMap PollInput.received).Sublist (messages (stream deserialize results)) := by
  -- for every database, as the worker goes on from the one it has left
  have hgeneral : ∀ db, ∃ inputs : List PollInput,
      worker deserialize config requests results db =
          (inputs.map ManagerStep.poll).foldl (ManagerStep.apply config) db ∧
        List.Forall₂ PollInput.AnswersOf (requests.take inputs.length) inputs ∧
        (inputs.flatMap PollInput.received).Sublist (messages (stream deserialize results)) := by
    induction requests generalizing results with
    | nil => exact fun db => ⟨[], rfl, .nil, List.nil_sublist _⟩
    | cons request requests ih =>
      intro db
      cases hfetch : fetch deserialize request results with
      | none => exact ⟨[], by rw [worker, hfetch]; rfl, .nil, List.nil_sublist _⟩
      | some fetched =>
        obtain ⟨input, rest⟩ := fetched
        obtain ⟨hanswers, window, rfl, hsublist⟩ := fetch_cases hlawful hsize hfetch
        obtain ⟨inputs, hworker, hown, hreceived⟩ :=
          ih (fun b hb => hsize b (List.mem_append_right _ hb)) (poll config input db)
        refine ⟨input :: inputs, ?_, ?_, ?_⟩
        · rw [worker, hfetch]
          exact hworker
        · rw [List.length_cons, List.take_succ_cons]
          exact .cons hanswers hown
        · rw [List.flatMap_cons, messages_stream_append]
          exact hsublist.append hreceived
  exact hgeneral InterfaceManagerDatabase.new

end InterfaceManagerWorker

/-! ## Whole dumps -/

namespace DefaultNetlinkSocket

/-- Receive results with the whole answer to a request: datagrams of messages, with errors between,
the last with the request's `Done`.  The dump is what is before it of the request. -/
inductive CarriesDump (deserialize : Deserializer) (number : UInt32) :
    List RecvResult → List NetlinkMessage → Prop where
  | done {receiveBuffer : List UInt8} {before after : List NetlinkMessage} {done : NetlinkMessage}
      (frames : Frames deserialize receiveBuffer (before ++ done :: after))
      (length_lt : receiveBuffer.length < 2 ^ 32) (hdone : isDone number done)
      (hbefore : ∀ message ∈ before, isDone number message = false) :
      CarriesDump deserialize number [.datagram receiveBuffer]
        (before.filter (accepted (some number)))
  | cons {result : RecvResult} {results : List RecvResult} {messages dump : List NetlinkMessage}
      (carries : Carries deserialize result messages)
      (hbefore : ∀ message ∈ messages, isDone number message = false)
      (rest : CarriesDump deserialize number results dump) :
      CarriesDump deserialize number (result :: results)
        (messages.filter (accepted (some number)) ++ dump)

variable {deserialize : Deserializer}

/-- Messages without the `Done` of the request do not end a call. -/
theorem outcome_of_open {number : UInt32} {before : List NetlinkMessage}
    (hbefore : ∀ message ∈ before, isDone number message = false) :
    outcome number (before.map .message) =
      (.exhausted, before.filter (accepted (some number))) := by
  induction before with
  | nil => rfl
  | cons message before ih =>
    have hopen := hbefore message List.mem_cons_self
    rw [List.map_cons, outcome, hopen, if_neg Bool.false_ne_true,
      ih fun message hmessage => hbefore message (.tail _ hmessage), List.filter_cons]
    split_ifs <;> rfl

/-- A call that is given a whole answer returns the dump, and leaves what comes after it. -/
theorem CarriesDump.recvLoopRest_append {number : UInt32} {results : List RecvResult}
    {dump : List NetlinkMessage} (h : CarriesDump deserialize number results dump)
    (left : List RecvResult) :
    recvLoopRest deserialize (some number) (results ++ left) =
      some ((.ok .received, dump), left) := by
  induction h with
  | @done receiveBuffer before after done frames length_lt hdone hbefore =>
    have hnonempty : receiveBuffer ≠ [] := fun hnil => by simpa using frames.eq_nil hnil
    have hwalk := recvDatagram_of_frames number frames hnonempty [] length_lt
      (Nat.lt_succ_self receiveBuffer.length)
    rw [List.nil_append, List.length_nil, outcome_of_done hdone hbefore] at hwalk
    rw [List.singleton_append, recvLoopRest, hwalk]
  | @cons result results messages dump carries hbefore _ ih =>
    rw [List.cons_append]
    cases carries with
    | error =>
      rw [recvLoopRest, ih]
      rfl
    | @datagram receiveBuffer _ frames nonempty length_lt =>
      have hwalk := recvDatagram_of_frames number frames nonempty [] length_lt
        (Nat.lt_succ_self receiveBuffer.length)
      rw [List.nil_append, List.length_nil, outcome_of_open hbefore] at hwalk
      rw [recvLoopRest, hwalk]
      dsimp only
      rw [ih]
      rfl

theorem CarriesDump.sendMessageRest_append {number : UInt32} {results : List RecvResult}
    {dump : List NetlinkMessage} (h : CarriesDump deserialize number results dump)
    (left : List RecvResult) :
    sendMessageRest deserialize number (.ok ()) (results ++ left) = some (.ok dump, left) := by
  rw [sendMessageRest, h.recvLoopRest_append left]
  rfl

end DefaultNetlinkSocket

namespace InterfaceManagerWorker

/-- The receive results of polls whose requests are all sent and answered, with the poll that each
comes to. -/
inductive CarriesPolls (deserialize : Deserializer) :
    List PollRequest → List RecvResult → List PollInput → Prop where
  | nil : CarriesPolls deserialize [] [] []
  | cons {request : PollRequest} {linkResults networkResults results : List RecvResult}
      {linkData networkData : List NetlinkMessage} {requests : List PollRequest}
      {inputs : List PollInput} (hlinkSend : request.linkSend = .ok ())
      (hlinkData : CarriesDump deserialize request.linkNumber linkResults linkData)
      (hnetworkSend : request.networkSend = .ok ())
      (hnetworkData : CarriesDump deserialize request.networkNumber networkResults networkData)
      (rest : CarriesPolls deserialize requests results inputs) :
      CarriesPolls deserialize (request :: requests) (linkResults ++ networkResults ++ results)
        ({ request.input with linkData := .ok linkData, networkData := .ok networkData } :: inputs)

/-- **Polls with whole dumps.**  When each request of the worker is answered up to its `Done`, in
datagrams of whole messages and with errors between them, the database is that of polls with exactly
these answers, whatever else is received behind them. -/
theorem worker_of_dumps {deserialize : Deserializer} {requests : List PollRequest}
    {results : List RecvResult} {inputs : List PollInput}
    (h : CarriesPolls deserialize requests results inputs) (config : Router)
    (back : List RecvResult) :
    worker deserialize config requests (results ++ back) InterfaceManagerDatabase.new =
      InterfaceManager.run config (inputs.map .poll) := by
  have hgeneral : ∀ db, worker deserialize config requests (results ++ back) db =
      (inputs.map ManagerStep.poll).foldl (ManagerStep.apply config) db := by
    induction h with
    | nil => exact fun db => rfl
    | @cons request linkResults networkResults results linkData networkData requests inputs
        hlinkSend hlinkData hnetworkSend hnetworkData _ ih =>
      intro db
      have hsplit : linkResults ++ networkResults ++ results ++ back =
          linkResults ++ (networkResults ++ (results ++ back)) := by simp
      rw [worker, hsplit, fetch, hlinkSend, hlinkData.sendMessageRest_append]
      dsimp only
      rw [hnetworkSend, hnetworkData.sendMessageRest_append]
      exact ih _
  exact hgeneral InterfaceManagerDatabase.new

/-! ## A poll of an empty kernel -/

/-- A poll with requests 7 and 6. -/
def firstPoll : PollRequest := ⟨7, .ok (), 6, .ok (), pollAt 0 [] []⟩

theorem worker_refines_firstPoll : ∃ inputs : List PollInput,
    worker deserializeBare wanConfig [firstPoll] lateAnswer InterfaceManagerDatabase.new =
        InterfaceManager.run wanConfig (inputs.map .poll) ∧
      List.Forall₂ PollInput.AnswersOf ([firstPoll].take inputs.length) inputs ∧
      (inputs.flatMap PollInput.received).Sublist
        (messages (stream deserializeBare lateAnswer)) :=
  worker_refines deserializeBare_lawful wanConfig [firstPoll] length_lt_of_lateAnswer

theorem worker_of_dumps_firstPoll :
    worker deserializeBare wanConfig [firstPoll]
        ([.error, .datagram (linkReply ++ (doneReply ++ []))] ++ [.datagram (earlierDone ++ [])] ++
          [] ++ [.timeout]) InterfaceManagerDatabase.new =
      InterfaceManager.run wanConfig
        [.poll { pollAt 0 [] [] with linkData := .ok [linkReplyMessage] }] := by
  have hlinks : CarriesDump deserializeBare 7 [.error, .datagram (linkReply ++ (doneReply ++ []))]
      [linkReplyMessage] :=
    @CarriesDump.cons _ 7 _ _ [] _ .error (by simp) <|
      @CarriesDump.done _ 7 _ [linkReplyMessage] [] ⟨20, 7, .done⟩
        (.cons rfl rfl (by decide) (by decide) (.cons rfl rfl (by decide) (by decide) .nil))
        (by decide) rfl (by decide)
  have hnetworks : CarriesDump deserializeBare 6 [.datagram (earlierDone ++ [])] [] :=
    @CarriesDump.done _ 6 _ [] [] ⟨20, 6, .done⟩
      (.cons rfl rfl (by decide) (by decide) .nil) (by decide) rfl (by decide)
  have hpolls : CarriesPolls deserializeBare [firstPoll] _ _ :=
    .cons rfl hlinks rfl hnetworks .nil
  exact worker_of_dumps hpolls wanConfig [.timeout]

end InterfaceManagerWorker

end RustyRouter
