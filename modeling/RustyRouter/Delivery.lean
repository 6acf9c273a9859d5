/-
# What subscribers receive

Subscribers come by `subscribe` and go when a pass finds that their channel does
not take an update.  Whatever the passes send and whichever sends fail, a
subscriber is sent exactly what is published after it subscribed, in that order,
up to the first send that fails; it is registered as long as none has failed
(`run_delivers`).

The publishing steps of the interface manager make such passes and no others
(`PublishState.subscribers_run`).
-/
import RustyRouter.Subscribers

namespace RustyRouter

/-- A call of `try_send`: for whom, with what, and whether the channel took it. -/
structure Send where
  subscriber : ℕ
  update : NetworkStatusUpdate
  taken : Bool
  deriving DecidableEq, Repr

/-- The sends of updates that are all taken. -/
def takenSends (id : ℕ) (updates : List NetworkStatusUpdate) : List Send :=
  updates.map fun update => ⟨id, update, true⟩

/-- The sends to one subscriber. -/
def sendsTo (id : ℕ) (sends : List Send) : List Send :=
  sends.filter fun send => send.subscriber = id

/-- The sends that take two lists of updates. -/
theorem takenSends_append (id : ℕ) (updates updates' : List NetworkStatusUpdate) :
    takenSends id (updates ++ updates') = takenSends id updates ++ takenSends id updates' :=
  List.map_append

/-- The sends to a subscriber, in two parts. -/
theorem sendsTo_append (id : ℕ) (sends sends' : List Send) :
    sendsTo id (sends ++ sends') = sendsTo id sends ++ sendsTo id sends' :=
  List.filter_append _ _

/-- Sends to others are none to a subscriber. -/
theorem sendsTo_eq_nil {id : ℕ} {sends : List Send} (h : ∀ send ∈ sends, send.subscriber ≠ id) :
    sendsTo id sends = [] := by
  rw [sendsTo, List.filter_eq_nil_iff]
  intro send hsend
  rw [decide_eq_true_eq]
  exact h send hsend

/-! ## One pass -/

namespace Subscriber

/-- The sends of a pass to a subscriber. -/
def sends (trySend : TrySend) : List NetworkStatusUpdate → Subscriber → List Send
  | [], _ => []
  | update :: updates, subscriber =>
    if trySend subscriber update then
      ⟨subscriber.id, update, true⟩ :: sends trySend updates (subscriber.receive update)
    else [⟨subscriber.id, update, false⟩]

/-- What is sent to a subscriber is sent under its number. -/
theorem subscriber_of_mem_sends {trySend : TrySend} {updates : List NetworkStatusUpdate}
    {subscriber : Subscriber} {send : Send} (h : send ∈ sends trySend updates subscriber) :
    send.subscriber = subscriber.id := by
  induction updates generalizing subscriber with
  | nil => exact absurd h List.not_mem_nil
  | cons update updates ih =>
    rw [sends] at h
    split_ifs at h
    · rcases List.mem_cons.mp h with rfl | hrest
      · rfl
      · exact (ih hrest).trans rfl
    · rw [List.mem_singleton.mp h]

/-- Sending leaves the number of a subscriber. -/
@[simp] theorem id_sendAll (trySend : TrySend) (updates : List NetworkStatusUpdate)
    (subscriber : Subscriber) : (sendAll trySend updates subscriber).1.id = subscriber.id := by
  induction updates generalizing subscriber with
  | nil => rfl
  | cons update updates ih =>
    rw [sendAll]
    split_ifs
    · exact ih _
    · rfl

/-- A pass delivers all of its updates, or those before the first that is not taken. -/
theorem sendAll_cases (trySend : TrySend) (updates : List NetworkStatusUpdate)
    (subscriber : Subscriber) :
    (sendAll trySend updates subscriber =
          (⟨subscriber.id, subscriber.delivered ++ updates⟩, true) ∧
        sends trySend updates subscriber = takenSends subscriber.id updates) ∨
      ∃ received update, received ++ [update] <+: updates ∧
        sendAll trySend updates subscriber =
          (⟨subscriber.id, subscriber.delivered ++ received⟩, false) ∧
        sends trySend updates subscriber =
          takenSends subscriber.id received ++ [⟨subscriber.id, update, false⟩] := by
  induction updates generalizing subscriber with
  | nil =>
    refine Or.inl ⟨?_, rfl⟩
    rw [sendAll, List.append_nil]
  | cons update updates ih =>
    rw [sendAll, sends]
    -- the rest goes to the subscriber that has received this update
    split_ifs with htaken
    · have hreceive : (subscriber.receive update).delivered = subscriber.delivered ++ [update] := rfl
      rcases ih (subscriber.receive update) with ⟨hall, hsends⟩ |
        ⟨received, failed, hbefore, hall, hsends⟩
      · refine Or.inl ⟨?_, ?_⟩
        · rw [hall, hreceive, List.append_assoc]
          rfl
        · rw [hsends]
          rfl
      · refine Or.inr ⟨update :: received, failed, List.cons_prefix_cons.mpr ⟨rfl, hbefore⟩, ?_, ?_⟩
        · rw [hall, hreceive, List.append_assoc]
          rfl
        · rw [hsends]
          rfl
    · -- the first failure ends the pass for this subscriber
      refine Or.inr ⟨[], update, ?_, ?_, rfl⟩
      · exact List.cons_prefix_cons.mpr ⟨rfl, List.nil_prefix⟩
      · rw [List.append_nil]

end Subscriber

/-! ## Runs of passes -/

/-- `subscribe`, or a pass over the subscribers. -/
inductive SubscriberStep : Type where
  | subscribe
  | pass (updates : List NetworkStatusUpdate) (trySend : TrySend)

namespace SubscriberStep

/-- The updates that steps publish. -/
def published (steps : List SubscriberStep) : List NetworkStatusUpdate :=
  steps.flatMap fun
    | subscribe => []
    | pass updates _ => updates

end SubscriberStep

namespace Subscribers

open SubscriberStep

/-- No subscribers. -/
def empty : Subscribers := ⟨[], []⟩

/-- The subscribers after a step. -/
def apply (subscribers : Subscribers) : SubscriberStep → Subscribers
  | .subscribe => subscribers.subscribe
  | .pass updates trySend => subscribers.retain trySend updates

/-- The subscribers after a run from the start. -/
def run (steps : List SubscriberStep) : Subscribers := steps.foldl apply empty

/-- The sends of a step. -/
def sends (subscribers : Subscribers) : SubscriberStep → List Send
  | .subscribe => []
  | .pass updates trySend => subscribers.registered.flatMap (Subscriber.sends trySend updates)

/-- The sends of steps, one after the other. -/
def log : Subscribers → List SubscriberStep → List Send
  | _, [] => []
  | subscribers, step :: steps => subscribers.sends step ++ log (subscribers.apply step) steps

/-- All subscribers there have been. -/
def all (subscribers : Subscribers) : List Subscriber :=
  subscribers.registered ++ subscribers.dropped

/-- The subscribers are numbered in the order in which they came. -/
def Numbered (subscribers : Subscribers) : Prop :=
  (subscribers.all.map Subscriber.id).Perm (List.range subscribers.all.length)

/-- How a subscriber stands, given what was published since it came and everything that was sent:
it is registered and has been sent all of it, or it is dropped and was last sent what its channel did
not take. -/
inductive Standing (subscribers : Subscribers) (published : List NetworkStatusUpdate)
    (log : List Send) (subscriber : Subscriber) : Prop where
  | registered (hmem : subscriber ∈ subscribers.registered)
      (hdelivered : subscriber.delivered = published)
      (hsends : sendsTo subscriber.id log = takenSends subscriber.id published)
  | dropped {update : NetworkStatusUpdate} (hmem : subscriber ∈ subscribers.dropped)
      (hbefore : subscriber.delivered ++ [update] <+: published)
      (hsends : sendsTo subscriber.id log =
        takenSends subscriber.id subscriber.delivered ++ [⟨subscriber.id, update, false⟩])

/-! ### Numbering -/

/-- No two subscribers have the same number. -/
theorem Numbered.nodup {subscribers : Subscribers} (h : subscribers.Numbered) :
    (subscribers.all.map Subscriber.id).Nodup :=
  h.nodup_iff.mpr List.nodup_range

/-- Those who took every update stay registered, and the others are dropped in order. -/
theorem retain_eq (subscribers : Subscribers) (trySend : TrySend)
    (updates : List NetworkStatusUpdate) :
    subscribers.retain trySend updates =
      ⟨((subscribers.registered.map (Subscriber.sendAll trySend updates)).filter
          Prod.snd).map Prod.fst,
        subscribers.dropped ++
          ((subscribers.registered.map (Subscriber.sendAll trySend updates)).filter
            (not ∘ Prod.snd)).map Prod.fst⟩ := by
  rw [retain, List.partition_eq_filter_filter]

/-- A pass moves subscribers from the registered to the dropped ones. -/
theorem ids_retain_perm (subscribers : Subscribers) (trySend : TrySend)
    (updates : List NetworkStatusUpdate) :
    ((subscribers.retain trySend updates).all.map Subscriber.id).Perm
      (subscribers.all.map Subscriber.id) := by
  have hids : (subscribers.registered.map (Subscriber.sendAll trySend updates)).map
      (Subscriber.id ∘ Prod.fst) = subscribers.registered.map Subscriber.id := by
    rw [List.map_map]
    apply List.map_congr_left
    intro subscriber _
    exact Subscriber.id_sendAll trySend updates subscriber
  rw [retain_eq, all, all, List.map_append, List.map_append, List.map_append, List.map_map,
    List.map_map, ← hids, ← List.append_assoc]
  refine (List.perm_append_right_iff _ |>.mpr List.perm_append_comm).trans ?_
  rw [List.append_assoc, ← List.map_append]
  exact List.perm_append_comm.trans
    (List.Perm.append_right _ ((List.filter_append_perm _ _).map _))

/-- At the start there are no subscribers to number. -/
theorem numbered_empty : empty.Numbered := List.Perm.refl _

/-- A step keeps the numbering. -/
theorem Numbered.apply {subscribers : Subscribers} (h : subscribers.Numbered)
    (step : SubscriberStep) : (subscribers.apply step).Numbered := by
  cases step with
  | subscribe =>
    have hperm : (subscribers.apply .subscribe).all.Perm
        (subscribers.all ++ [⟨subscribers.all.length, []⟩]) := by
      rw [Subscribers.apply, Subscribers.subscribe, all, all, List.length_append,
        List.append_assoc, List.append_assoc]
      exact List.Perm.append_left _ List.perm_append_comm
    have hlength := hperm.length_eq
    rw [List.length_append, List.length_singleton] at hlength
    unfold Numbered
    rw [hlength, List.range_succ]
    refine (hperm.map Subscriber.id).trans ?_
    rw [List.map_append]
    exact List.Perm.append_right _ h
  | pass updates trySend =>
    have hperm := ids_retain_perm subscribers trySend updates
    have hlength := hperm.length_eq
    rw [List.length_map, List.length_map] at hlength
    unfold Numbered
    rw [Subscribers.apply, hlength]
    exact hperm.trans h

/-- In every run the subscribers have the numbers they subscribed with. -/
theorem numbered_run (steps : List SubscriberStep) : (run steps).Numbered :=
  List.foldlRecOn steps _ numbered_empty fun _ h step _ => h.apply step

/-! ### Standing -/

/-- Among the sends of a pass, those to a registered subscriber are its own. -/
theorem sendsTo_flatMap {registered : List Subscriber}
    (hids : (registered.map Subscriber.id).Nodup) {subscriber : Subscriber}
    (h : subscriber ∈ registered) (trySend : TrySend) (updates : List NetworkStatusUpdate) :
    sendsTo subscriber.id (registered.flatMap (Subscriber.sends trySend updates)) =
      Subscriber.sends trySend updates subscriber := by
  -- its own sends are to it, those of the others are not
  have hself : sendsTo subscriber.id (Subscriber.sends trySend updates subscriber) =
      Subscriber.sends trySend updates subscriber := by
    rw [sendsTo, List.filter_eq_self]
    intro send hsend
    rw [decide_eq_true_eq]
    exact Subscriber.subscriber_of_mem_sends hsend
  obtain ⟨before, after, rfl⟩ := List.append_of_mem h
  rw [List.map_append, List.map_cons, List.nodup_middle, List.nodup_cons, List.mem_append,
    not_or] at hids
  have hother : ∀ others : List Subscriber, subscriber.id ∉ others.map Subscriber.id →
      sendsTo subscriber.id (others.flatMap (Subscriber.sends trySend updates)) = [] := by
    intro others hnotMem
    apply sendsTo_eq_nil
    intro send hsend heq
    obtain ⟨other, hother, hsend⟩ := List.mem_flatMap.mp hsend
    rw [Subscriber.subscriber_of_mem_sends hsend] at heq
    exact hnotMem (heq ▸ List.mem_map_of_mem hother)
  rw [List.flatMap_append, List.flatMap_cons, sendsTo_append, sendsTo_append, hself,
    hother before hids.1.1, hother after hids.1.2, List.nil_append, List.append_nil]

/-- A step keeps the standing of a subscriber. -/
theorem Standing.apply {subscribers : Subscribers} (hnumbered : subscribers.Numbered)
    {before : List NetworkStatusUpdate} {log : List Send} {subscriber : Subscriber}
    (h : subscribers.Standing before log subscriber) (step : SubscriberStep) :
    ∃ subscriber', subscriber'.id = subscriber.id ∧
      (subscribers.apply step).Standing (before ++ published [step])
        (log ++ subscribers.sends step) subscriber' := by
  cases step with
  | subscribe =>
    have hpublished : before ++ published [.subscribe] = before := List.append_nil before
    have hlog : log ++ subscribers.sends .subscribe = log := List.append_nil log
    refine ⟨subscriber, rfl, ?_⟩
    rw [hpublished, hlog]
    cases h with
    | registered hmem hdelivered hsends =>
      exact .registered (List.mem_append_left _ hmem) hdelivered hsends
    | dropped hmem hbefore hsends => exact .dropped hmem hbefore hsends
  | pass updates trySend =>
    have hpublished : published [.pass updates trySend] = updates := List.append_nil updates
    have hids := hnumbered.nodup
    rw [all, List.map_append] at hids
    rw [hpublished, Subscribers.apply, Subscribers.sends, retain_eq]
    cases h with
    | registered hmem hdelivered hsends =>
      have hsent := sendsTo_flatMap hids.of_append_left hmem trySend updates
      have hpass := List.mem_map_of_mem (f := Subscriber.sendAll trySend updates) hmem
      rcases Subscriber.sendAll_cases trySend updates subscriber with
        ⟨hall, hlog⟩ | ⟨received, update, hreceived, hall, hlog⟩
      · -- the channel takes the whole pass
        rw [hall] at hpass
        refine ⟨⟨subscriber.id, subscriber.delivered ++ updates⟩, rfl, .registered ?_ ?_ ?_⟩
        · exact List.mem_map.mpr ⟨_, List.mem_filter.mpr ⟨hpass, rfl⟩, rfl⟩
        · rw [hdelivered]
        · rw [sendsTo_append, hsends, hsent, hlog, takenSends_append]
      · -- the channel takes what comes before the update
        rw [hall] at hpass
        have hbefore : subscriber.delivered ++ received ++ [update] <+: before ++ updates := by
          rw [hdelivered, List.append_assoc]
          exact (List.prefix_append_right_inj _).mpr hreceived
        refine ⟨⟨subscriber.id, subscriber.delivered ++ received⟩, rfl, .dropped ?_ hbefore ?_⟩
        · exact List.mem_append_right _
            (List.mem_map.mpr ⟨_, List.mem_filter.mpr ⟨hpass, rfl⟩, rfl⟩)
        · rw [sendsTo_append, hsends, hsent, hlog, hdelivered, takenSends_append,
            List.append_assoc]
    | dropped hmem hbefore hsends =>
      -- a pass sends to the registered only, and this subscriber is not one of them
      have hunsent : sendsTo subscriber.id
          (subscribers.registered.flatMap (Subscriber.sends trySend updates)) = [] := by
        apply sendsTo_eq_nil
        intro send hsend heq
        obtain ⟨other, hother, hsend⟩ := List.mem_flatMap.mp hsend
        rw [Subscriber.subscriber_of_mem_sends hsend] at heq
        exact List.disjoint_of_nodup_append hids (List.mem_map_of_mem hother)
          (heq ▸ List.mem_map_of_mem hmem)
      refine ⟨subscriber, rfl, .dropped (List.mem_append_left _ hmem)
        (hbefore.trans (List.prefix_append _ _)) ?_⟩
      rw [sendsTo_append, hsends, hunsent, List.append_nil]

/-- The sends of a run of two parts. -/
theorem log_append (subscribers : Subscribers) (steps steps' : List SubscriberStep) :
    subscribers.log (steps ++ steps') =
      subscribers.log steps ++ (steps.foldl apply subscribers).log steps' := by
  induction steps generalizing subscribers with
  | nil => rfl
  | cons step steps ih =>
    rw [List.cons_append, log, log, ih, List.append_assoc]
    rfl

/-- The sends of a run that is one step longer. -/
theorem log_run_append_singleton (steps : List SubscriberStep) (step : SubscriberStep) :
    empty.log (steps ++ [step]) = empty.log steps ++ (run steps).sends step := by
  rw [log_append, log, log, List.append_nil]
  rfl

/-- A run that is one step longer. -/
theorem run_append_singleton (steps : List SubscriberStep) (step : SubscriberStep) :
    run (steps ++ [step]) = (run steps).apply step := by
  rw [run, List.foldl_append]
  rfl

/-- The next number is larger than those given out. -/
theorem Numbered.id_lt {subscribers : Subscribers} (h : subscribers.Numbered)
    {subscriber : Subscriber} (hmem : subscriber ∈ subscribers.all) :
    subscriber.id < subscribers.all.length :=
  List.mem_range.mp (h.mem_iff.mp (List.mem_map_of_mem hmem))

/-- No step forgets a subscriber. -/
theorem length_all_le_apply (subscribers : Subscribers) (step : SubscriberStep) :
    subscribers.all.length ≤ (subscribers.apply step).all.length := by
  cases step with
  | subscribe =>
    show (subscribers.registered ++ subscribers.dropped).length ≤
      (subscribers.registered ++ [_] ++ subscribers.dropped).length
    rw [List.length_append, List.length_append, List.length_append]
    omega
  | pass updates trySend =>
    have hlength := (ids_retain_perm subscribers trySend updates).length_eq
    rw [List.length_map, List.length_map] at hlength
    exact hlength.ge

/-- Whatever was sent was sent to a subscriber that has come. -/
theorem subscriber_lt_of_mem_log (steps : List SubscriberStep) :
    ∀ send ∈ empty.log steps, send.subscriber < (run steps).all.length := by
  induction steps using List.reverseRecOn with
  | nil =>
    intro send hsend
    exact absurd hsend List.not_mem_nil
  | append_singleton steps step ih =>
    intro send hsend
    have hgrows := length_all_le_apply (run steps) step
    rw [log_run_append_singleton, List.mem_append] at hsend
    rw [run_append_singleton]
    rcases hsend with hold | hnew
    · exact (ih send hold).trans_le hgrows
    · cases step with
      | subscribe => exact absurd hnew List.not_mem_nil
      | pass updates trySend =>
        obtain ⟨subscriber, hmem, hsend⟩ := List.mem_flatMap.mp hnew
        rw [Subscriber.subscriber_of_mem_sends hsend]
        exact ((numbered_run steps).id_lt (List.mem_append_left _ hmem)).trans_le hgrows

/-- The subscriber that comes with a `subscribe` has a standing ever after. -/
theorem standing_run (before after : List SubscriberStep) :
    ∃ subscriber, subscriber.id = (run before).all.length ∧
      (run (before ++ .subscribe :: after)).Standing (published after)
        (empty.log (before ++ .subscribe :: after)) subscriber := by
  induction after using List.reverseRecOn with
  | nil =>
    refine ⟨⟨(run before).all.length, []⟩, rfl, .registered ?_ rfl ?_⟩
    · rw [run_append_singleton, apply, subscribe, all, List.length_append]
      exact List.mem_append_right _ (List.mem_singleton_self _)
    · rw [log_run_append_singleton, sendsTo_append]
      -- the number is new, so nothing was sent under it
      have hunsent : sendsTo (run before).all.length (empty.log before) = [] := by
        apply sendsTo_eq_nil
        intro send hsend
        exact (subscriber_lt_of_mem_log before send hsend).ne
      rw [hunsent]
      rfl
  | append_singleton after step ih =>
    obtain ⟨subscriber, hid, hstanding⟩ := ih
    obtain ⟨subscriber', hid', hstanding'⟩ := hstanding.apply (numbered_run _) step
    refine ⟨subscriber', hid'.trans hid, ?_⟩
    have hsplit : before ++ .subscribe :: (after ++ [step]) =
        (before ++ .subscribe :: after) ++ [step] := by
      rw [List.append_assoc, List.cons_append]
    rw [hsplit, run_append_singleton, log_run_append_singleton, published, List.flatMap_append]
    exact hstanding'

/-- **No gaps.**  Whoever subscribes is one subscriber ever after.  What is delivered to it is a
prefix of what is published after it came, and all of that as long as it is registered; it is sent
what is delivered to it and, if a send fails, that send is the last. -/
theorem run_delivers (before after : List SubscriberStep) :
    ∃ subscriber ∈ (run (before ++ .subscribe :: after)).all,
      subscriber.id = (run before).all.length ∧
      (∀ other ∈ (run (before ++ .subscribe :: after)).all,
        other.id = subscriber.id → other = subscriber) ∧
      subscriber.delivered <+: published after ∧
      (subscriber ∈ (run (before ++ .subscribe :: after)).registered →
        subscriber.delivered = published after) ∧
      (sendsTo subscriber.id (empty.log (before ++ .subscribe :: after)) =
          takenSends subscriber.id subscriber.delivered ∨
        subscriber ∉ (run (before ++ .subscribe :: after)).registered ∧
          ∃ update, sendsTo subscriber.id (empty.log (before ++ .subscribe :: after)) =
            takenSends subscriber.id subscriber.delivered ++ [⟨subscriber.id, update, false⟩]) := by
  obtain ⟨subscriber, hid, hstanding⟩ := standing_run before after
  have hids := (numbered_run (before ++ .subscribe :: after)).nodup
  cases hstanding with
  | registered hmem hdelivered hsends =>
    have hall := List.mem_append_left (run (before ++ .subscribe :: after)).dropped hmem
    refine ⟨subscriber, hall, hid, ?_, ?_, fun _ => hdelivered, Or.inl ?_⟩
    · intro other hother heq
      exact List.inj_on_of_nodup_map hids hother hall heq
    · rw [hdelivered]
    · rw [hsends, hdelivered]
  | @dropped update hmem hbefore hsends =>
    have hall := List.mem_append_right (run (before ++ .subscribe :: after)).registered hmem
    -- a number is either registered or dropped
    have hnotRegistered : subscriber ∉ (run (before ++ .subscribe :: after)).registered := by
      intro hregistered
      rw [all, List.map_append] at hids
      exact List.disjoint_of_nodup_append hids (List.mem_map_of_mem hregistered)
        (List.mem_map_of_mem hmem)
    refine ⟨subscriber, hall, hid, ?_, (List.prefix_append _ _).trans hbefore, ?_,
      Or.inr ⟨hnotRegistered, update, hsends⟩⟩
    · intro other hother heq
      exact List.inj_on_of_nodup_map hids hother hall heq
    · intro hregistered
      exact absurd hregistered hnotRegistered

end Subscribers

/-! ## The passes of the interface manager -/

namespace PublishState

/-- The steps that a step of the interface manager makes on the subscribers: a publish is one pass,
`NewLink` makes one for each of its updates. -/
def passes (config : Router) (s : PublishState) : PublishStep → List SubscriberStep
  | .subscribe => [.subscribe]
  | .commit _ => []
  | .publish trySend => s.pending.toList.map fun updates => .pass updates trySend
  | .event event trySend =>
    (InterfaceManagerNetlinkSocketListener.messageReceived (.new config) event s.database).2.map
      fun update => .pass [update] trySend

/-- The steps that a run makes on the subscribers. -/
def history (config : Router) : PublishState → List PublishStep → List SubscriberStep
  | _, [] => []
  | s, step :: steps => s.passes config step ++ history config (s.apply config step) steps

/-- A step of the interface manager changes the subscribers by its passes. -/
theorem subscribers_apply (config : Router) (s : PublishState) (step : PublishStep) :
    (s.apply config step).subscribers =
      (s.passes config step).foldl Subscribers.apply s.subscribers := by
  cases step with
  | subscribe => rfl
  | commit input =>
    show (s.apply config (.commit input)).subscribers = s.subscribers
    rw [apply]
    cases s.pending with
    | some updates => rfl
    | none =>
      dsimp only
      cases InterfaceManagerWorker.tryPoll config input s.database <;> rfl
  | publish trySend =>
    rw [apply, passes]
    cases s.pending <;> rfl
  | event event trySend =>
    rw [passes, List.foldl_map]
    rfl

/-- The subscribers of a run are those of its passes. -/
theorem subscribers_run (config : Router) (steps : List PublishStep) :
    (run config steps).subscribers = Subscribers.run (history config new steps) := by
  have hfoldl : ∀ s : PublishState, (steps.foldl (apply config) s).subscribers =
      (history config s steps).foldl Subscribers.apply s.subscribers := by
    induction steps with
    | nil => exact fun s => rfl
    | cons step steps ih =>
      intro s
      rw [List.foldl_cons, ih, subscribers_apply, history, List.foldl_append]
  exact hfoldl new

end PublishState

end RustyRouter
