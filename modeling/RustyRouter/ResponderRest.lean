/-
# The responder comes to rest

What comes back to the responder of its own packets is work for it as well: it is
read, queued and looked at like any other packet.  Since none of it is answered, the
work that is on its way to the responder ends when others stop sending
(`Ni.comes_to_rest`).  The bound is a weight (`backlog`): a packet weighs less the
nearer it is to `process`, and a packet that is to be answered outweighs its answer
and the way back of that.
-/
import RustyRouter.OspfResponder
import RustyRouter.Settling

namespace RustyRouter

open Checked LinuxInetPacketNetworkInterface Settling

/-! ## Work -/

/-- A step that is not one of the others on the segment, of the callers of the poller, or of the
listener of another socket. -/
def ResponderStep.Internal {Socket : Type} (socket : Socket) : ResponderStep Socket → Prop
  | .poller step => step.Internal socket
  | .onRecv _ => True
  | .process _ _ => True
  | .loopback _ _ _ => True

namespace ResponderState

variable {Socket : Type} [DecidableEq Socket] {ni : Ni} {socket : Socket}
  {s s' : ResponderState Socket}

/-- The work of the responder and the poller. -/
def backlog (ni : Ni) (socket : Socket) (s : ResponderState Socket) : ℕ :=
  s.poller.backlog socket + 3 * (s.poller.unread socket).length + 2 * s.reading.length +
    s.receiver.queue.length +
    8 * ((s.poller.unread socket).countP ni.foreign + s.reading.countP ni.foreign +
      s.receiver.queue.countP ni.foreign + s.looping.length)

/-- **Each step is work done**, or nothing. -/
theorem backlog_moves (hsource : ni.connection.source = ni.localAddress)
    (hlooping : ∀ packet ∈ s.looping, packet = ni.reply) {step : ResponderStep Socket}
    (hinternal : step.Internal socket) (hmoves : Moves ni socket s step s') :
    s' = s ∨ s'.backlog ni socket < s.backlog ni socket := by
  cases hmoves with
  | idle => exact Or.inl rfl
  | @poller step hrecv =>
    rcases s.poller.backlog_apply hinternal hrecv with hsame | hless
    · exact Or.inl (by rw [hsame])
    · have hunread := s.poller.unread_apply hrecv
      rw [hinternal.arrival, List.append_nil] at hunread
      refine Or.inr ?_
      simp only [backlog, hunread]
      omega
  | leaves hreader hdry =>
    refine Or.inr ?_
    simp only [backlog, PollerState.backlog, List.count_erase_self]
    omega
  | @reads data rest hreader hunread =>
    refine Or.inr ?_
    simp only [backlog, PollerState.backlog, Function.update_self, hunread, List.length_append,
      List.length_cons, List.length_nil, List.countP_append, List.countP_cons, List.countP_nil]
    omega
  | @handsOver i data receiver hreading hsend =>
    have hperm := perm_cons_eraseIdx hreading
    have hlength := hperm.length_eq
    have hcount := hperm.countP_eq ni.foreign
    rw [List.length_cons] at hlength
    rw [List.countP_cons] at hcount
    refine Or.inr ?_
    simp only [backlog, Channel.queue_of_trySend hsend, List.length_append, List.length_cons,
      List.length_nil, List.countP_append, List.countP_cons, List.countP_nil]
    omega
  | @refuses i data hreading =>
    have hperm := perm_cons_eraseIdx hreading
    have hlength := hperm.length_eq
    have hcount := hperm.countP_eq ni.foreign
    rw [List.length_cons] at hlength
    rw [List.countP_cons] at hcount
    refine Or.inr ?_
    simp only [backlog]
    omega
  | ignores hrecv hforeign =>
    refine Or.inr ?_
    simp only [backlog, Channel.queue_of_recv hrecv, List.length_cons, List.countP_cons]
    omega
  | sends hrecv hforeign =>
    refine Or.inr ?_
    simp only [backlog, Channel.queue_of_recv hrecv, List.length_cons, List.countP_cons, hforeign,
      List.length_append, List.length_nil, if_true]
    omega
  | fails hrecv hforeign =>
    refine Or.inr ?_
    simp only [backlog, Channel.queue_of_recv hrecv, List.length_cons, List.countP_cons]
    omega
  | @loops i identification headerChecksum packet hpacket =>
    have hlength := (perm_cons_eraseIdx hpacket).length_eq
    have hown : ni.foreign (fillIn identification headerChecksum packet) = false := by
      rw [hlooping packet (List.mem_of_getElem? hpacket)]
      exact Ni.foreign_reply hsource identification headerChecksum
    have harrive := s.poller.backlog_arrive_le socket socket
      (fillIn identification headerChecksum packet)
    have hnotRecv : PollerStep.arrive socket (fillIn identification headerChecksum packet) ≠
        .recv socket := by simp
    have hunread := s.poller.unread_apply hnotRecv
    rw [List.length_cons] at hlength
    rw [PollerState.apply, PollerStep.arrival, if_pos rfl] at hunread
    refine Or.inr ?_
    simp only [backlog, hunread, List.length_append, List.length_cons, List.length_nil,
      List.countP_append, List.countP_cons, List.countP_nil, hown, Bool.false_eq_true, if_false]
    omega

/-- Where no step does anything, nothing is on its way. -/
theorem atRest_of_idle {endian : Endian}
    (h : Idle (apply endian ni socket) (ResponderStep.Internal socket) s) : s.AtRest socket where
  ready := by
    cases hready : s.poller.ready with
    | nil => rfl
    | cons other rest =>
      -- taking the event would add a round
      have hidle := congrArg (fun s => s.poller.batches.length)
        (h (.poller (.epollWait [other])) trivial)
      simp [apply, PollerState.apply, PollerState.epollWait, hready] at hidle
  batches := by
    cases hbatches : s.poller.batches with
    | nil => rfl
    | cons batch rest =>
      have hidle := congrArg (fun s => s.poller.batches.length) (h (.poller (.lookup 0)) trivial)
      simp [apply, PollerState.apply, PollerState.lookup, hbatches] at hidle
  receiving := by
    intro hmem
    cases hreading : s.reading with
    | nil =>
      -- a reader that has handed everything over would read or return
      have hreader : s.reading.length < s.poller.receiving.count socket := by
        rw [hreading]
        exact List.count_pos_iff.mpr hmem
      have hidle := h (.poller (.recv socket)) rfl
      rw [apply, if_pos rfl, recv, if_pos hreader, PollerState.recv, if_pos hmem] at hidle
      cases hunread : s.poller.unread socket with
      | nil =>
        have hlength := congrArg (fun s => s.poller.receiving.length) hidle
        have hpos := List.length_pos_of_mem hmem
        simp [hunread, List.length_erase_of_mem hmem] at hlength
        omega
      | cons data rest =>
        have hlength := congrArg (fun s => s.reading.length) hidle
        simp [hunread] at hlength
    | cons data rest =>
      have hidle := congrArg (fun s => s.reading.length) (h (.onRecv 0) trivial)
      rw [apply, onRecv, hreading] at hidle
      cases hsend : s.receiver.trySend data <;> simp [hsend] at hidle
  receiver := by
    cases hrecv : s.receiver.recv with
    | none => exact Channel.queue_of_recv_none hrecv
    | some next =>
      obtain ⟨packet, receiver⟩ := next
      -- a packet in the queue would be processed
      have hqueue := Channel.queue_of_recv hrecv
      have hidle := congrArg (fun s => s.receiver.queue.length) (h (.process 0 true) trivial)
      rw [apply, process, hrecv] at hidle
      dsimp only at hidle
      rcases ni.process_cases endian 0 packet with ⟨-, hreply⟩ | ⟨-, hnone | ⟨e, hfail⟩⟩
      · rw [hreply, hqueue] at hidle
        simp at hidle
      · rw [hnone, hqueue] at hidle
        simp at hidle
      · rw [hfail, hqueue] at hidle
        simp [fail] at hidle
  looping := by
    cases hlooping : s.looping with
    | nil => rfl
    | cons packet rest =>
      have hidle := congrArg (fun s => s.looping.length) (h (.loopback 0 0 0) trivial)
      simp [apply, loopback, hlooping] at hidle

end ResponderState

open ResponderState

/-- **The responder comes to rest.**  After any run, if others send nothing more, the responder, the
poller and the kernel can do something only a bounded number of times, and can go on until they can
do nothing more; and whenever they can do nothing more, nothing is on its way to the responder. -/
theorem Ni.comes_to_rest {Socket : Type} [DecidableEq Socket]
    {connect : String → Ipv4Addr → UInt8 → List Ipv4Addr → Except Error Unit}
    {order : HashMap.Shuffle (ℕ × InterfaceItem)} {db : InterfaceManagerDatabase}
    {interfaceName : String} {localAddress : Ipv4Addr} {ni : Ni}
    (hni : Ni.new connect order db interfaceName localAddress = .ok ni) (endian : Endian)
    (socket : Socket) (steps : List (ResponderStep Socket)) :
    (∀ more, Busy (apply endian ni socket) (ResponderStep.Internal socket)
        (run endian ni socket steps) more →
      more.length ≤ (run endian ni socket steps).backlog ni socket) ∧
    (∃ more, Busy (apply endian ni socket) (ResponderStep.Internal socket)
        (run endian ni socket steps) more ∧
      Idle (apply endian ni socket) (ResponderStep.Internal socket)
        (run endian ni socket (steps ++ more))) ∧
    ∀ more, Idle (apply endian ni socket) (ResponderStep.Internal socket)
        (run endian ni socket (steps ++ more)) →
      (run endian ni socket (steps ++ more)).AtRest socket := by
  have hsource : ni.connection.source = ni.localAddress := by rw [Ni.new_eq_ok hni]
  have hs : ∃ arrived, ResponderInvariant ni socket arrived (run endian ni socket steps) :=
    ⟨_, .run endian hsource socket steps⟩
  have hinvariant : ∀ (s : ResponderState Socket) (step : ResponderStep Socket),
      (∃ arrived, ResponderInvariant ni socket arrived s) → step.Internal socket →
        ∃ arrived, ResponderInvariant ni socket arrived (s.apply endian ni socket step) :=
    fun s step h _ => h.elim fun arrived h =>
      ⟨_, h.moves hsource (moves_apply endian ni socket s step)⟩
  have hmeasure : ∀ (s : ResponderState Socket) (step : ResponderStep Socket),
      (∃ arrived, ResponderInvariant ni socket arrived s) → step.Internal socket →
        s.apply endian ni socket step = s ∨
          (s.apply endian ni socket step).backlog ni socket < s.backlog ni socket :=
    fun s step h hinternal => h.elim fun arrived h =>
      backlog_moves hsource h.looping hinternal (moves_apply endian ni socket s step)
  obtain ⟨more, hmore, hidle⟩ := exists_idle hinvariant hmeasure hs
  refine ⟨fun more h => h.length_le hinvariant hmeasure hs, ⟨more, hmore, ?_⟩, fun _ => atRest_of_idle⟩
  rwa [run, List.foldl_append]

/-- The packet of the exchange is read and queued. -/
theorem busy_exchange : Busy (apply .little insideNi 3) (ResponderStep.Internal 3)
    (run .little insideNi 3 (exchange.take 5)) [.poller (.recv 3), .onRecv 0] := by
  refine ⟨rfl, fun h => ?_, trivial, fun h => ?_, trivial⟩
  · have hreading := congrArg (fun s => s.reading.length) h
    revert hreading
    decide +kernel
  · have hreading := congrArg (fun s => s.reading.length) h
    revert hreading
    decide +kernel

theorem comes_to_rest_exchange :
    2 ≤ (run .little insideNi 3 (exchange.take 5)).backlog insideNi 3 :=
  (Ni.comes_to_rest new_inside .little 3 (exchange.take 5)).1 [.poller (.recv 3), .onRecv 0]
    busy_exchange

end RustyRouter
