import Intake.Proofs.Broker.Settlement
import Intake.Proofs.Consumer.Conservation
import Intake.Proofs.World.Holding
import Intake.Proofs.World.Source

/-! # Settlement of messages

A message carries the tag of a delivery and the channel it came on. Its way through a consumer
changes neither, and the broker accounts for the delivery all the while. So whoever has received the
message can settle the delivery until its channel closes or the delivery is settled otherwise,
whatever has become of the consumer.
-/

namespace Intake

namespace Consumer

variable {β : Type} {c c' : Consumer β} {e : Event β} {m : Message β}

/-- The messages that a consumer has and nobody has received. -/
def carried (c : Consumer β) : List (Message β) :=
  c.dispatches.map (·.message) ++ c.messages.items

/-- Messages that are carried or received were carried before, or come from a delivery that is
taken. -/
theorem carried_of_step? (stepped : c.step? e = some c') (member : m ∈ c'.carried ++ c.returned e) :
    m ∈ c.carried ∨ m ∈ (c.taken e).map c.settings.message := by
  have shift := shift stepped
  have carried : c'.carried = c'.load.dispatches.map (·.message) ++ c'.load.messages.items := rfl
  rw [carried] at member
  have received (nothing : c.departed e = []) : c.returned e = [] :=
    (List.append_eq_nil_iff.mp nothing).1
  generalize c'.load = l at shift member
  cases shift with
  | rests taken enqueued departed =>
    left
    rw [received departed, List.append_nil] at member
    exact member
  | comes taken enqueued departed =>
    rw [taken]
    simp only [received departed, List.map_append, List.append_nil, List.mem_append,
      List.map_singleton, List.mem_singleton] at member ⊢
    rcases member with (early | new) | queued
    · exact .inl (List.mem_append_left _ early)
    · exact .inr new
    · exact .inl (List.mem_append_right _ queued)
  | @arrives number d messages found items enqueued =>
    left
    simp only [items, List.mem_append] at member
    rcases member with (dispatched | queued | arrived) | nothing
    · exact List.mem_append_left _ ((List.filter_sublist.map _).subset dispatched)
    · exact List.mem_append_right _ queued
    · rw [List.mem_singleton.mp arrived]
      exact List.mem_append_left _ (List.mem_map_of_mem (List.mem_of_find?_eq_some found))
    · cases nothing
  | awaits enqueued =>
    left
    rw [received rfl, List.append_nil] at member
    exact member
  | serves =>
    left
    rw [Consumer.carried, c.messages.items_use]
    simp only [List.mem_append] at member ⊢
    rcases member with (dispatched | queued) | handed
    · exact .inl dispatched
    · exact .inr (.inr queued)
    · exact .inr (.inl (.inl handed))

end Consumer

namespace World

variable {β : Type} {w w' w₀ : World β} {e : Event β} {b : Broker β} {queue : String}
  {past : List (Broker.Act β)} {received : List (Nat × Message β)} {i : Nat} {c : Consumer β}

/-- A consumer keeps its place and its settings. -/
theorem settings_of_happen? (happened : w.happen? e = some w') (found : w.consumers[i]? = some c) :
    ∃ c', w'.consumers[i]? = some c' ∧ c'.settings = c.settings := by
  cases touch_of_happen? happened with
  | none consumers taken enqueued => exact ⟨c, consumers ▸ found, rfl⟩
  | @one own j before after found' stepped consumers taken enqueued =>
    obtain ⟨small, _⟩ := List.getElem?_eq_some_iff.mp found
    rw [consumers, List.getElem?_set]
    by_cases same : j = i
    · subst same
      cases found.symm.trans found'
      have kept : after.settings = c.settings := Consumer.settings_of_step? stepped
      exact ⟨{ after with notes := [] }, by simp [small], kept⟩
    · exact ⟨c, by simp [same, found], rfl⟩

/-- The broker accounts for a delivery that a loop takes. -/
private theorem Holding.accounts_of_taken {got : Channel × Delivery β} {settled : Nat → Nat → Prop}
    {closed : Nat → Prop} (holding : w.Holding b) (keeps : b.Keeps settled closed)
    (found : w.consumers[i]? = some c)
    (takes : got ∈ c.taken (.proceed w.now (w.answer i c).1)) :
    b.Accounts settled (c.settings.message got) := by
  have arrives : c.takes (w.answer i c).1 = .arrival := by
    by_contra other
    rw [Consumer.taken_eq_nil other] at takes
    cases takes
  obtain ⟨channel, watching, notice, arrival, d, phase, answered, chosen⟩ :=
    Consumer.chosen_of_takes arrives
  obtain ⟨first, _, one, ⟨lane, rest, there, items, _⟩, _⟩ := takes_of_loop holding.source arrives
  rw [one, List.mem_singleton] at takes
  subst takes
  rw [answered, Consumer.taken_of_delivery phase chosen] at one
  cases one
  have receives : c.phase.receiving? = some channel := by
    rw [phase]
    rfl
  have terms := holding.terms found receives
  rw [Broker.autoAck?, there, Option.map_some, Option.some.injEq] at terms
  refine ⟨lane, there, ?_⟩
  have accounts := (keeps.lanes there).1.feed d (by rw [items]; exact List.mem_cons_self)
  rw [terms] at accounts
  exact accounts

/-- The consumer `i` has a message, or somebody has received it from there: the broker, which has
seen some acts, accounts for its delivery, and leaves it to be settled if the consumer's settings
say so. -/
def Backed (w : World β) (queue : String) (past : List (Broker.Act β)) (i : Nat) (m : Message β) :
    Prop :=
  ∃ c, w.consumers[i]? = some c ∧ m.ackable = (!c.settings.autoAck) ∧
    (past.foldl Broker.apply (.ofQueue queue)).Accounts ((Broker.ofQueue queue).SettledBy past) m

/-- All messages are backed, those that consumers have and those that were received. -/
structure Settling (w : World β) (queue : String) (past : List (Broker.Act β))
    (received : List (Nat × Message β)) : Prop where
  holding : w.Holding (past.foldl Broker.apply (.ofQueue queue))
  carried : ∀ {i c m}, w.consumers[i]? = some c → m ∈ c.carried → w.Backed queue past i m
  received : ∀ {i m}, (i, m) ∈ received → w.Backed queue past i m

namespace Settling

/-- A message that a consumer has after an event, or that is received at it, was backed before. -/
private theorem backed_of_stir {m : Message β} (settling : w.Settling queue past received)
    (stir : Stir w e w')
    (has : (∃ c', w'.consumers[i]? = some c' ∧ m ∈ c'.carried) ∨ (i, m) ∈ w.returned e) :
    w.Backed queue past i m := by
  cases stir with
  | rest consumers taken returned =>
    rw [consumers, returned] at has
    rcases has with ⟨c, found, member⟩ | nothing
    · exact settling.carried found member
    · cases nothing
  | @used own j before after found stepped outside consumers taken returned =>
    have untaken : before.taken own = [] := by
      cases own with
      | act a => rfl
      | forward number => rfl
      | proceed now answer => exact absurd rfl (outside now answer)
    have mine (member : m ∈ after.carried ++ before.returned own) : w.Backed queue past j m := by
      rcases Consumer.carried_of_step? stepped member with early | new
      · exact settling.carried found early
      · simp [untaken] at new
    rcases has with ⟨c', found', member⟩ | handed
    · rcases found_of_set (consumers ▸ found') with ⟨rfl, rfl⟩ | ⟨_, found'⟩
      · exact mine (List.mem_append_left _ member)
      · exact settling.carried found' member
    · rw [returned] at handed
      obtain ⟨_, member, same⟩ := List.mem_map.mp handed
      cases same
      exact mine (List.mem_append_right _ member)
  | @goes j before next isLoop found proceeded consumers =>
    subst isLoop
    rcases has with ⟨c', found', member⟩ | nothing
    · rcases found_of_set (consumers ▸ found') with ⟨rfl, rfl⟩ | ⟨_, found'⟩
      · have stepped : before.step? (.proceed w.now (w.answer i before).1) = some next := proceeded
        rcases Consumer.carried_of_step? stepped (List.mem_append_left _ member) with early | new
        · exact settling.carried found early
        · obtain ⟨got, takes, rfl⟩ := List.mem_map.mp new
          exact ⟨before, found, rfl, settling.holding.accounts_of_taken
            (Broker.keeps_foldl queue past) found takes⟩
      · exact settling.carried found' member
    · cases nothing

private theorem happen? (settling : w.Settling queue past received)
    (happened : w.happen? e = some w') (alone : ¬Resubscribes ⟨w, e, w'⟩) :
    w'.Settling queue (past ++ w.acts e) (received ++ w.returned e) := by
  have carries := Broker.carries_append (.ofQueue queue) past (w.acts e)
  -- what was backed stays so
  have still {i : Nat} {m : Message β} (backed : w.Backed queue past i m) :
      w'.Backed queue (past ++ w.acts e) i m := by
    obtain ⟨c, found, ackable, accounts⟩ := backed
    obtain ⟨c', found', same⟩ := settings_of_happen? happened found
    exact ⟨c', found', same ▸ ackable, carries.accounts accounts⟩
  have stir := stir_of_happen? happened
  constructor
  · rw [List.foldl_append]
    exact settling.holding.happen? happened alone
  · intro i c m found member
    exact still (settling.backed_of_stir stir (.inl ⟨c, found, member⟩))
  · intro i m member
    rcases List.mem_append.mp member with earlier | now
    · exact still (settling.received earlier)
    · exact still (settling.backed_of_stir stir (.inr now))

private theorem ofSource {consumers : List (Consumer β)}
    (created : ∀ c ∈ consumers, ∃ settings pool, Consumer.create settings pool = .ok c) :
    (World.ofSource (.broker (.ofQueue queue)) consumers).Settling queue [] [] := by
  refine ⟨.ofSource created, ?_, nofun⟩
  intro i c m found member
  obtain ⟨settings, pool, created⟩ := created c (List.mem_of_getElem? found)
  rw [Consumer.create_eq_ok created] at member
  cases member

private theorem after? {events : List (Event β)} (settling : w₀.Settling queue [] [])
    (ran : Replay.after? World.happen? w₀ events = some w)
    (alone : ∀ t ∈ Replay.transitions World.happen? w₀ events, ¬Resubscribes t) :
    w.Settling queue (Replay.gather World.happen? acts w₀ events)
      (Replay.gather World.happen? returned w₀ events) := by
  refine Replay.after?_induction
    (P := fun events w => (∀ t ∈ Replay.transitions World.happen? w₀ events, ¬Resubscribes t) →
      w.Settling queue (Replay.gather World.happen? acts w₀ events)
        (Replay.gather World.happen? returned w₀ events)) (fun _ => settling) ?_ ran alone
  intro events middle event next before ih stepped alone
  rw [Replay.transitions_concat before stepped] at alone
  rw [Replay.gather_concat acts before stepped, Replay.gather_concat returned before stepped]
  have earlier := ih fun t there => alone t (List.mem_append_left _ there)
  exact earlier.happen? stepped (alone _ (by simp))

end Settling

/-- Whoever has received a message can settle its delivery alone if and only if the consumer leaves
this to the application, the channel was not closed, and no call has settled the delivery before,
alone or with others. What has become of the consumer and its lease does not matter. The call then
settles the body that the message carries and no other delivery, and no call on the message succeeds
after it. -/
theorem settled_once {consumers : List (Consumer β)} {events : List (Event β)} {m : Message β}
    {verdict : Verdict}
    (created : ∀ c ∈ consumers, ∃ settings pool, Consumer.create settings pool = .ok c)
    (ran : Replay.after? World.happen? (ofSource (.broker (.ofQueue queue)) consumers) events =
      some w)
    (alone : ∀ t ∈ Replay.transitions World.happen? (ofSource (.broker (.ofQueue queue)) consumers)
      events, ¬Resubscribes t)
    (received : (i, m) ∈ Replay.gather World.happen? returned
      (ofSource (.broker (.ofQueue queue)) consumers) events)
    (found : w.consumers[i]? = some c) (single : verdict.multiple = false) :
    ∃ (past : List (Broker.Act β)) (b : Broker β),
      past = Replay.gather World.happen? acts (ofSource (.broker (.ofQueue queue)) consumers)
        events ∧
      b = past.foldl Broker.apply (.ofQueue queue) ∧ w.source = .broker b ∧
      ((w.source.settle m.channel m.tag verdict).1 = .ok () ↔ c.settings.autoAck = false ∧
        ¬(Broker.ofQueue queue).ClosedBy past m.channel.id ∧
        ¬(Broker.ofQueue queue).SettledBy past m.channel.id m.tag) ∧
      ((w.source.settle m.channel m.tag verdict).1 = .ok () →
        b.settled (.settle m.channel.id m.tag verdict) = [(m.channel.id, m.tag, m.body)] ∧
        (∀ id tag body, b.Outstanding id tag body →
          ((b.settle m.channel.id m.tag verdict).2.Outstanding id tag body ↔
            (id, tag) ≠ (m.channel.id, m.tag))) ∧
        ∀ (later : List (Broker.Act β)) (again : Verdict), again.multiple = false →
          ((later.foldl Broker.apply (b.settle m.channel.id m.tag verdict).2).settle m.channel.id
            m.tag again).1 ≠ .ok ()) := by
  have settling := (Settling.ofSource created).after? ran alone
  have source := settling.holding.source
  obtain ⟨c', found', ackable, accounts⟩ := settling.received received
  cases found.symm.trans found'
  have keeps := Broker.keeps_foldl queue (Replay.gather World.happen? acts
    (ofSource (.broker (.ofQueue queue)) consumers) events)
  refine ⟨_, _, rfl, rfl, source, ?_, ?_⟩
  · rw [source]
    have settles := keeps.settle_iff accounts single
    rw [ackable, Bool.not_eq_true'] at settles
    exact settles
  · intro succeeded
    rw [source] at succeeded
    refine ⟨keeps.settled_eq accounts single succeeded, ?_, ?_⟩
    · intro id tag body outstanding
      exact keeps.outstanding_iff accounts single succeeded outstanding
    · intro later again single'
      exact keeps.refused_after accounts single single' succeeded later

/-- A call to receive that no consumer makes. -/
def Event.subscribes : Event β → Bool
  | .broker (.subscribe _ _) => true
  | _ => false

/-- Two deliveries are received. A verdict on the last tag there is, and on all up to it, is about
neither. The consumer stops and gives its channel back. -/
def receivedAndReleased : List (Event Nat) :=
  .act 0 .start :: List.replicate 3 (.task (.loop 0)) ++
    [.broker (.publish 10), .task (.loop 0), .task (.dispatch 0 0), .act 0 (.use .messages .take),
      .broker (.publish 20), .task (.loop 0), .task (.dispatch 0 0), .act 0 (.use .messages .take),
      .broker (.settle 1 18446744073709551615 (.ack true)), .act 0 (.stop false)] ++
    List.replicate 2 (.task (.loop 0))

theorem settled_once_released : ∃ (c₀ c : Consumer Nat) (w : World Nat) (b : Broker Nat),
    Consumer.create .default .default = .ok c₀ ∧
    Replay.after? World.happen? (ofSource (.broker (.ofQueue "")) [c₀]) receivedAndReleased =
      some w ∧ w.consumers[0]? = some c ∧ c.phase = .draining ∧ w.source = .broker b ∧
    b.released = [(1, false)] ∧ (w.source.settle ⟨1, 1⟩ 1 (.ack false)).1 = .ok () ∧
    b.settled (.settle 1 1 (.ack false)) = [(1, 1, 10)] ∧
    ((b.settle 1 1 (.ack false)).2.settle 1 1 (.nack false true)).1 ≠ .ok () := by
  obtain ⟨c₀, created, goes, received, alone⟩ : ∃ c₀ : Consumer Nat,
      Consumer.create .default .default = .ok c₀ ∧
      (Replay.after? World.happen? (ofSource (.broker (.ofQueue "")) [c₀]) receivedAndReleased).any
        (fun w => w.consumers[0]?.any (fun c => c.phase = .draining) &&
          (match w.source with
            | .broker b => b.released == [(1, false)]
            | .script _ => false) && (w.source.settle ⟨1, 1⟩ 1 (.ack false)).1.isOk) = true ∧
      (0, ⟨true, 1, 10, ⟨1, 1⟩⟩) ∈ Replay.gather World.happen? returned
        (ofSource (.broker (.ofQueue "")) [c₀]) receivedAndReleased ∧
      (Replay.transitions World.happen? (ofSource (.broker (.ofQueue "")) [c₀])
        receivedAndReleased).all (fun t => !t.event.subscribes) = true :=
    ⟨_, rfl, by decide +kernel, by decide +kernel, by decide +kernel⟩
  obtain ⟨w, ran, shown⟩ := (Option.any_eq_true _ _).mp goes
  simp only [Bool.and_eq_true] at shown
  obtain ⟨⟨drains, released⟩, succeeds⟩ := shown
  obtain ⟨c, found, phase⟩ := (Option.any_eq_true _ _).mp drains
  have succeeded : (w.source.settle ⟨1, 1⟩ 1 (.ack false)).1 = .ok () := by
    cases result : (w.source.settle ⟨1, 1⟩ 1 (.ack false)).1 with
    | ok => rfl
    | error fault =>
      rw [result] at succeeds
      cases succeeds
  have single : (Verdict.ack false).multiple = false := rfl
  have made : ∀ other ∈ [c₀], ∃ settings pool, Consumer.create settings pool = .ok other := by
    intro other member
    rw [List.mem_singleton.mp member]
    exact ⟨_, _, created⟩
  have unasked : ∀ t ∈ Replay.transitions World.happen? (ofSource (.broker (.ofQueue "")) [c₀])
      receivedAndReleased, ¬Resubscribes t := by
    rintro t there ⟨_, _, _, s, _, _, event, _⟩
    have other := List.all_eq_true.mp alone t there
    simp [event, Event.subscribes] at other
  obtain ⟨past, b, _, _, source, _, settles⟩ := settled_once made ran unasked received found single
  obtain ⟨settled, _, refused⟩ := settles succeeded
  rw [source, beq_iff_eq] at released
  exact ⟨c₀, c, w, b, created, ran, found, of_decide_eq_true phase, source, released, succeeded,
    settled, refused [] (.nack false true) rfl⟩

end World

end Intake
