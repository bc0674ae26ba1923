import Intake.Proofs.Consumer.Forward
import Intake.Proofs.Consumer.Turn
import Mathlib.Data.List.Perm.Basic

/-! # Deliveries on their way to the application

A delivery that the loop takes becomes a message. The message is dispatched, put on the queue, and
handed out or discarded. `Consumer.Shift` lists what an event does to the messages on their way;
`Ledger` says that none of them is lost, altered or doubled, and that they are counted right.
-/

namespace Intake

/-- The message that a delivery becomes, which is taken from a channel. -/
def ConsumerSettings.message {β : Type} (settings : ConsumerSettings)
    (got : Channel × Delivery β) : Message β :=
  .ofDelivery got.1 (!settings.autoAck) got.2

namespace Consumer

variable {β : Type} {c c' c₀ : Consumer β} {e : Event β}

/-- The messages that leave the queue. -/
def departed (c : Consumer β) (e : Event β) : List (Message β) := c.returned e ++ c.flushed e

@[simp] theorem departed_forward (c : Consumer β) (number : Nat) :
    c.departed (.forward number) = [] := rfl

/-- What an event does to the deliveries on their way. -/
inductive Shift (c : Consumer β) : Event β → Load β → Prop
  /-- Nothing. -/
  | rests {e : Event β} (taken : c.taken e = []) (enqueued : c.enqueued e = [])
      (departed : c.departed e = []) : Shift c e c.load
  /-- A delivery is taken and dispatched. -/
  | comes {e : Event β} {got : Channel × Delivery β} (taken : c.taken e = [got])
      (enqueued : c.enqueued e = []) (departed : c.departed e = []) :
      Shift c e { c.load with
        dispatches := c.dispatches ++ [⟨c.nextNumber, c.settings.message got⟩]
        inFlight := c.inFlight + 1
        received := c.metered.received + 1 }
  /-- A dispatched delivery arrives at the end of the queue. -/
  | arrives {number : Nat} {d : Dispatch β} {messages : Queue (Message β)}
      (found : c.dispatch? number = some d)
      (items : messages.items = c.messages.items ++ [d.message])
      (enqueued : c.enqueued (.forward number) = [d.message]) :
      Shift c (.forward number) { c.load with
        dispatches := c.dispatches.filter (·.number != number)
        messages
        inFlight := c.inFlight - 1
        enqueued := c.metered.enqueued + 1 }
  /-- A dispatched delivery joins the line for a slot. -/
  | awaits {number : Nat} (enqueued : c.enqueued (.forward number) = []) :
      Shift c (.forward number) { c.load with messages := c.messages.await number }
  /-- Somebody uses the queue of messages. -/
  | serves {u : Queue.Use} :
      Shift c (.act (.use .messages u)) { c.load with messages := c.messages.use u }

/-! ## What events do to the load -/

private theorem load_log (c : Consumer β) (entry : LogEntry) : (c.log entry).load = c.load :=
  (Alike.log c entry).load

private theorem load_start (c : Consumer β) : c.start.2.load = c.load := by
  unfold start
  split
  · rfl
  · dsimp only
    split
    · exact load_log c.flushErrors.2 _
    · rfl

private theorem load_stop (c : Consumer β) (immediate : Bool) :
    (c.stop immediate).2.load = c.load := by
  unfold stop
  split
  · dsimp only
    split
    · rfl
    · split
      · exact load_log { c with immediate, stopRequested := true } _
      · exact load_log { c with immediate, stopRequested := true, stopSignal := true } _
  · rfl

private theorem load_flushStop (c : Consumer β) : c.flushStop.load = c.load := by
  unfold flushStop
  split <;> rfl

@[simp] theorem inFlight_receive (c : Consumer β) (channel : Channel) (d : Delivery β) :
    (c.receive channel d).inFlight = c.inFlight + 1 := by
  simp [receive, inFlight, meter, log]

@[simp] theorem inFlight_arrived (c : Consumer β) (number : Nat) (messages : Queue (Message β)) :
    (c.arrived number messages).inFlight = c.inFlight - 1 := by
  simp [arrived, inFlight, meter]

theorem metered_receive (c : Consumer β) (channel : Channel) (d : Delivery β) :
    (c.receive channel d).metered =
      c.metered ++ [.deliveryReceived, .inFlight (c.inFlight + 1)] := by
  simp [receive, metered, meter, log, inFlight]

theorem metered_arrived (c : Consumer β) (number : Nat) (messages : Queue (Message β)) :
    (c.arrived number messages).metered =
      c.metered ++ [.messageEnqueued, .inFlight (c.inFlight - 1)] := by
  simp [arrived, metered, meter, inFlight]

private theorem load_receive (c : Consumer β) (channel : Channel) (d : Delivery β) :
    (c.receive channel d).load = { c.load with
      dispatches := c.dispatches ++ [⟨c.nextNumber, c.settings.message (channel, d)⟩]
      inFlight := c.inFlight + 1
      received := c.metered.received + 1 } := by
  have received : (c.receive channel d).metered.received = c.metered.received + 1 := by
    rw [metered_receive, List.append_cons, Readings.received_concat, Readings.received_concat]
    rfl
  have enqueued : (c.receive channel d).metered.enqueued = c.metered.enqueued := by
    rw [metered_receive, List.append_cons, Readings.enqueued_concat, Readings.enqueued_concat]
    rfl
  simp only [load, received, enqueued, inFlight_receive]
  rfl

private theorem load_arrived (c : Consumer β) (number : Nat) (messages : Queue (Message β)) :
    (c.arrived number messages).load = { c.load with
      dispatches := c.dispatches.filter (·.number != number)
      messages
      inFlight := c.inFlight - 1
      enqueued := c.metered.enqueued + 1 } := by
  have received : (c.arrived number messages).metered.received = c.metered.received := by
    rw [metered_arrived, List.append_cons, Readings.received_concat, Readings.received_concat]
    rfl
  have enqueued : (c.arrived number messages).metered.enqueued = c.metered.enqueued + 1 := by
    rw [metered_arrived, List.append_cons, Readings.enqueued_concat, Readings.enqueued_concat]
    rfl
  simp only [load, received, enqueued, inFlight_arrived]
  rfl

theorem Advance.shift {now : Nat} {answer : Answer β} (advance : Advance c now answer c') :
    Shift c (.proceed now answer) c'.load := by
  have turn := advance.turn
  generalize taken : c.taken (.proceed now answer) = got at turn
  cases turn with
  | works before after alike =>
    rw [alike.load]
    exact .rests taken rfl rfl
  | receives before silent =>
    rw [load_receive]
    exact .comes taken rfl rfl
  | receivesLast before signal =>
    change Shift c _ (c.receive _ _).load
    rw [load_receive]
    exact .comes taken rfl rfl
  | obeys before signal after notParking alike =>
    rw [alike.load]
    exact .rests taken rfl rfl
  | leaves before after alike hurried emptied =>
    rw [alike.load]
    exact .rests taken rfl rfl
  | parks phase =>
    change Shift c _ (c.log _).load
    rw [load_log]
    exact .rests taken rfl rfl

theorem enqueued_of_forward? {number : Nat} {new : List (Message β)}
    (forwarded : c.forward? number = some c')
    (items : c'.messages.items = c.messages.items ++ new) :
    c.enqueued (.forward number) = new := by
  rw [enqueued, forwarded, Option.map_some, Option.getD_some, items, List.drop_left]

private theorem shift_of_forward? {number : Nat} (forwarded : c.forward? number = some c') :
    Shift c (.forward number) c'.load := by
  cases Hop.of_forward? forwarded with
  | fill found granted =>
    rw [load_arrived]
    exact .arrives found rfl (enqueued_of_forward? forwarded rfl)
  | push found notGranted notWaiting room =>
    have items := Queue.items_of_push? room
    rw [load_arrived]
    exact .arrives found items (enqueued_of_forward? forwarded items)
  | await found notGranted notWaiting full =>
    exact .awaits (enqueued_of_forward? forwarded (List.append_nil _).symm)

/-- Every event does one of these things to the deliveries on their way. -/
theorem shift (stepped : c.step? e = some c') : Shift c e c'.load := by
  cases e with
  | act a =>
    cases stepped
    cases a with
    | start =>
      rw [perform, load_start]
      exact .rests rfl rfl rfl
    | stop immediate =>
      rw [perform, load_stop]
      exact .rests rfl rfl rfl
    | flushStop =>
      rw [perform, load_flushStop]
      exact .rests rfl rfl rfl
    | use side u =>
      cases side with
      | messages =>
        rw [perform_use_messages]
        exact .serves
      | errors =>
        rw [perform_use_errors]
        exact .rests rfl rfl rfl
  | proceed now answer => exact (Advance.of_proceed? stepped).shift
  | forward number => exact shift_of_forward? stepped

theorem settings_of_step? (stepped : c.step? e = some c') : c'.settings = c.settings := by
  cases e with
  | act a =>
    cases stepped
    cases a with
    | start =>
      simp only [perform, start]
      split
      · rfl
      · split <;> rfl
    | stop immediate =>
      simp only [perform, stop]
      split
      · split
        · rfl
        · split <;> rfl
      · rfl
    | flushStop =>
      simp only [perform, flushStop]
      split <;> rfl
    | use side u =>
      cases side with
      | messages => rw [perform_use_messages]
      | errors => rw [perform_use_errors]
  | proceed now answer => exact (Advance.of_proceed? stepped).turn.settings
  | forward number => exact (Hop.of_forward? stepped).settings

/-! ## Numbers of dispatched deliveries -/

/-- The numbers of the deliveries under way rise. -/
def Numbered (dispatches : List (Dispatch β)) : Prop :=
  dispatches.Pairwise fun d next => d.number < next.number

private theorem lt_nextNumber (numbered : Numbered c.dispatches) {d : Dispatch β}
    (member : d ∈ c.dispatches) : d.number < c.nextNumber := by
  unfold nextNumber
  obtain empty | ⟨earlier, last, same⟩ := c.dispatches.eq_nil_or_concat
  · rw [empty] at member
    exact absurd member List.not_mem_nil
  · rw [same, List.concat_eq_append] at numbered member ⊢
    rw [List.getLast?_concat]
    change d.number < last.number + 1
    obtain member | rfl := by simpa using member
    · have before := (List.pairwise_append.mp numbered).2.2 d member last (by simp)
      omega
    · omega

/-- Exactly the delivery with its number is left out. -/
private theorem perm_of_find? {dispatches : List (Dispatch β)} {number : Nat} {d : Dispatch β}
    (numbered : Numbered dispatches) (found : dispatches.find? (·.number == number) = some d) :
    dispatches.Perm (d :: dispatches.filter (·.number != number)) := by
  induction dispatches with
  | nil => cases found
  | cons first rest ih =>
    obtain ⟨below, numbered⟩ := List.pairwise_cons.mp numbered
    by_cases same : first.number = number
    · rw [List.find?_cons_of_pos (by simp [same])] at found
      cases found
      have kept : rest.filter (·.number != number) = rest := by
        apply List.filter_eq_self.mpr
        intro other member
        have := below other member
        simp only [bne_iff_ne]
        omega
      rw [List.filter_cons_of_neg (by simp [same]), kept]
    · rw [List.find?_cons_of_neg (by simp [same])] at found
      rw [List.filter_cons_of_pos (by simp [same])]
      exact ((ih numbered found).cons first).trans (List.Perm.swap d first _)

/-- What is under way or arrives was under way before, or is taken. -/
theorem Shift.subperm {l : Load β} (shift : Shift c e l) :
    (l.dispatches.map (·.message) ++ c.enqueued e).Subperm
      (c.dispatches.map (·.message) ++ (c.taken e).map c.settings.message) := by
  cases shift with
  | rests notTaken notEnqueued =>
    rw [notTaken, notEnqueued]
    exact List.Subperm.refl _
  | comes taken notEnqueued =>
    rw [taken, notEnqueued, List.append_nil, List.map_append]
    exact List.Subperm.refl _
  | @arrives number d messages found items new =>
    have split := List.filter_append_perm (fun other => other.number != number) c.dispatches
    have member : d ∈ c.dispatches.filter fun other => !(other.number != number) := by
      refine List.mem_filter.mpr ⟨List.mem_of_find?_eq_some found, ?_⟩
      simpa using List.find?_some found
    have kept : (c.dispatches.filter (·.number != number) ++ [d]).Subperm c.dispatches :=
      ((List.subperm_append_left _).mpr (List.singleton_subperm_iff.mpr member)).trans split.subperm
    have messages : ((c.dispatches.filter (·.number != number) ++ [d]).map (·.message)).Subperm
        (c.dispatches.map (·.message)) := by
      obtain ⟨some, same, sublist⟩ := kept
      exact ⟨some.map (·.message), same.map _, sublist.map _⟩
    rw [List.map_append] at messages
    rw [new]
    exact messages.trans (List.sublist_append_left _ _).subperm
  | awaits notEnqueued =>
    rw [notEnqueued, List.append_nil]
    exact (List.sublist_append_left _ _).subperm
  | serves =>
    rw [enqueued_act, List.append_nil]
    exact (List.sublist_append_left _ _).subperm

/-! ## The ledger -/

/-- An account of a consumer: the deliveries that were taken, the messages that were put on the
queue and those that left it, each in the order this happened, and the load that results. -/
structure Ledger (settings : ConsumerSettings) (taken : List (Channel × Delivery β))
    (enqueued departed : List (Message β)) (l : Load β) : Prop where
  numbered : Numbered l.dispatches
  inFlight : l.inFlight = l.dispatches.length
  counted : l.received = l.enqueued + l.inFlight
  dispatched : (taken.map settings.message).Perm (l.dispatches.map (·.message) ++ enqueued)
  queued : enqueued = departed ++ l.messages.items

private theorem Ledger.shift {taken : List (Channel × Delivery β)}
    {enqueued departed : List (Message β)}
    {l : Load β} (ledger : Ledger c.settings taken enqueued departed c.load)
    (shift : Shift c e l) :
    Ledger c.settings (taken ++ c.taken e) (enqueued ++ c.enqueued e)
      (departed ++ c.departed e) l := by
  obtain ⟨numbered, inFlight, counted, dispatched, queued⟩ := ledger
  dsimp only [load] at numbered inFlight counted dispatched queued
  cases shift with
  | rests notTaken notEnqueued notDeparted =>
    rw [notTaken, notEnqueued, notDeparted, List.append_nil, List.append_nil, List.append_nil]
    exact ⟨numbered, inFlight, counted, dispatched, queued⟩
  | @comes _ got new notEnqueued notDeparted =>
    rw [new, notEnqueued, notDeparted, List.append_nil, List.append_nil]
    refine ⟨?_, ?_, ?_, ?_, queued⟩
    · apply List.pairwise_append.mpr
      refine ⟨numbered, List.pairwise_singleton _ _, ?_⟩
      intro d member last same
      rw [List.mem_singleton.mp same]
      exact lt_nextNumber numbered member
    · rw [List.length_append, List.length_singleton, ← inFlight]
    · rw [counted, Nat.add_assoc]
      rfl
    · rw [List.map_append, List.map_append, List.append_assoc]
      refine (dispatched.append_right _).trans ?_
      rw [List.append_assoc]
      exact List.perm_append_comm.append_left _
  | @arrives number d messages found items new =>
    have moved : c.dispatches.Perm (d :: c.dispatches.filter (·.number != number)) :=
      perm_of_find? numbered found
    have fewer := moved.length_eq
    rw [List.length_cons] at fewer
    rw [new, taken_forward, departed_forward, List.append_nil, List.append_nil]
    refine ⟨numbered.filter _, ?_, ?_, ?_, ?_⟩
    · dsimp only
      omega
    · dsimp only [load]
      omega
    · refine dispatched.trans (((moved.map (·.message)).append_right _).trans ?_)
      rw [List.map_cons, List.cons_append, ← List.append_assoc]
      exact (List.perm_append_singleton _ _).symm
    · rw [items, queued, List.append_assoc]
  | @awaits number notEnqueued =>
    rw [notEnqueued, taken_forward, departed_forward, List.append_nil, List.append_nil,
      List.append_nil]
    exact ⟨numbered, inFlight, counted, dispatched, queued⟩
  | @serves u =>
    rw [taken_act, enqueued_act, List.append_nil, List.append_nil]
    refine ⟨numbered, inFlight, counted, dispatched, ?_⟩
    have split : c.messages.items =
        c.departed (.act (.use .messages u)) ++ (c.messages.use u).items := c.messages.items_use u
    rw [queued, split, List.append_assoc]

/-- The ledger of a history. -/
theorem ledger_of_after? {settings : ConsumerSettings} {pool : PoolSettings}
    {events : List (Event β)} (created : create settings pool = .ok c₀)
    (ran : Replay.after? Consumer.step? c₀ events = some c) :
    c.settings = settings ∧ Ledger settings (Replay.gather Consumer.step? taken c₀ events)
      (Replay.gather Consumer.step? enqueued c₀ events)
      (Replay.gather Consumer.step? departed c₀ events) c.load := by
  refine Replay.after?_induction
    (P := fun events c => c.settings = settings ∧
      Ledger settings (Replay.gather Consumer.step? taken c₀ events)
        (Replay.gather Consumer.step? enqueued c₀ events)
        (Replay.gather Consumer.step? departed c₀ events) c.load) ?_ ?_ ran
  · rw [create_eq_ok created]
    exact ⟨rfl, List.Pairwise.nil, rfl, rfl, List.Perm.refl _, rfl⟩
  · intro events middle event next before ⟨same, ledger⟩ stepped
    subst same
    rw [Replay.gather_concat taken before stepped, Replay.gather_concat enqueued before stepped,
      Replay.gather_concat departed before stepped]
    exact ⟨settings_of_step? stepped, ledger.shift (shift stepped)⟩

/-- What leaves the queue is handed out or discarded. -/
private theorem departed_perm (events : List (Event β)) :
    (Replay.gather Consumer.step? departed c₀ events).Perm
      (Replay.gather Consumer.step? returned c₀ events ++
        Replay.gather Consumer.step? flushed c₀ events) :=
  (List.flatMap_append_perm _ _ _).symm

/-- Every delivery that was taken is a message that is still under way, queued, handed out or
discarded, and none is any of these twice. -/
theorem taken_perm {settings : ConsumerSettings} {pool : PoolSettings} {events : List (Event β)}
    (created : create settings pool = .ok c₀)
    (ran : Replay.after? Consumer.step? c₀ events = some c) :
    ((Replay.gather Consumer.step? taken c₀ events).map settings.message).Perm
      (c.dispatches.map (·.message) ++ c.messages.items ++
        Replay.gather Consumer.step? returned c₀ events ++
        Replay.gather Consumer.step? flushed c₀ events) := by
  obtain ⟨_, ledger⟩ := ledger_of_after? created ran
  have queued : Replay.gather Consumer.step? enqueued c₀ events =
      Replay.gather Consumer.step? departed c₀ events ++ c.messages.items := ledger.queued
  refine ledger.dispatched.trans ?_
  rw [queued, List.append_assoc, List.append_assoc]
  exact (List.perm_append_comm.trans ((departed_perm events).append_left _)).append_left _

end Consumer

end Intake
