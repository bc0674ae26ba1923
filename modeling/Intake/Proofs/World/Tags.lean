import Intake.Proofs.Broker.Tags
import Intake.Proofs.Consumer.Conservation
import Intake.Proofs.World.Source

/-! # Deliveries of a broker

A delivery of a broker is known by the number of its channel and its tag. However many consumers
and others use the broker, and however its channels close and are leased anew, no delivery is put
on a queue of messages twice.
-/

namespace Intake

/-- What a message is known by to the broker. -/
def Message.origin {β : Type} (m : Message β) : Nat × Nat := (m.channel.id, m.tag)

/-- What a delivery is known by to the broker. -/
def Delivery.origin {β : Type} (got : Channel × Delivery β) : Nat × Nat := (got.1.id, got.2.tag)

namespace World

variable {β : Type} {w w' w₀ : World β} {e : Event β}

/-- The messages on their way to a queue. -/
def underway (w : World β) : List (Message β) :=
  w.consumers.flatMap fun c => c.dispatches.map (·.message)

private theorem flatMap_set_perm {α γ : Type} (l : List α) (f : α → List γ) {i : Nat} {a : α}
    (found : l[i]? = some a) : ∃ others, (l.flatMap f).Perm (f a ++ others) ∧
      ∀ a', ((l.set i a').flatMap f).Perm (f a' ++ others) := by
  induction l generalizing i with
  | nil => cases found
  | cons first rest ih =>
    cases i with
    | zero =>
      cases found
      exact ⟨rest.flatMap f, List.Perm.refl _, fun _ => List.Perm.refl _⟩
    | succ i =>
      obtain ⟨others, whole, each⟩ := ih found
      refine ⟨f first ++ others, ?_, ?_⟩
      · exact (whole.append_left (f first)).trans (List.perm_append_comm_assoc _ _ _)
      · intro a'
        exact ((each a').append_left (f first)).trans (List.perm_append_comm_assoc _ _ _)

/-- What is under way or arrives after an event was under way before it, or is taken at it. -/
private theorem Touch.subperm (touch : Touch w e w') :
    ((w'.underway ++ w.enqueued e).map Message.origin).Subperm
      (w.underway.map Message.origin ++ (w.taken e).map Delivery.origin) := by
  cases touch with
  | none consumers taken enqueued =>
    rw [underway, consumers, taken, enqueued, List.append_nil]
    exact (List.sublist_append_left _ _).subperm
  | @one own i c c' found stepped consumers taken enqueued =>
    obtain ⟨others, whole, each⟩ :=
      flatMap_set_perm w.consumers (fun c => c.dispatches.map (·.message)) found
    have after : w'.underway.Perm (c'.dispatches.map (·.message) ++ others) := by
      rw [underway, consumers]
      exact each { c' with notes := [] }
    have before : w.underway.Perm (c.dispatches.map (·.message) ++ others) := whole
    have fewer : (c'.dispatches.map (·.message) ++ c.enqueued own).Subperm
        (c.dispatches.map (·.message) ++ (c.taken own).map c.settings.message) :=
      (Consumer.shift stepped).subperm
    have origins : ((c.taken own).map c.settings.message).map Message.origin =
        (c.taken own).map Delivery.origin := List.map_map
    obtain ⟨some, same, sublist⟩ := fewer
    rw [taken, enqueued]
    apply List.subperm_ext_iff.mpr
    intro x _
    have here := (same.map Message.origin).count_eq x
    have there := (sublist.map Message.origin).count_le x
    have earlier := (before.map Message.origin).count_eq x
    have later := (after.map Message.origin).count_eq x
    simp only [List.map_append, List.count_append, origins] at here there earlier later ⊢
    omega

/-! ## Tags -/

/-- The messages under way and those that were spent come from different deliveries, which cannot
come up again. -/
def Tagged (w : World β) (spent : List (Message β)) : Prop :=
  ∃ b, w.source = .broker b ∧ b.Tagged ((w.underway ++ spent).map Message.origin)

private theorem Tagged.happen? {spent : List (Message β)} (tagged : w.Tagged spent)
    (stepped : w.happen? e = some w') : w'.Tagged (spent ++ w.enqueued e) := by
  obtain ⟨b, source, tagged⟩ := tagged
  obtain ⟨b', source', course⟩ := source_of_happen? source stepped
  have all : b'.Tagged ((w.taken e).map Delivery.origin ++
      (w.underway ++ spent).map Message.origin) := by
    obtain ⟨nothing, evolves⟩ | ⟨got, middle, one, ⟨lane, rest, found, items, rfl⟩, evolves⟩ :=
      course
    · rw [nothing]
      exact tagged.evolves evolves
    · rw [one]
      exact (tagged.take found items).evolves evolves
  have fewer := (touch_of_happen? stepped).subperm
  refine ⟨b', source', all.subperm (List.subperm_ext_iff.mpr ?_)⟩
  intro x _
  have bound := fewer.count_le x
  simp only [List.map_append, List.count_append] at bound ⊢
  omega

private theorem Tagged.after? {events : List (Event β)} (tagged : w₀.Tagged [])
    (ran : Replay.after? World.happen? w₀ events = some w) :
    w.Tagged (Replay.gather World.happen? enqueued w₀ events) := by
  refine Replay.after?_induction
    (P := fun events w => w.Tagged (Replay.gather World.happen? enqueued w₀ events)) tagged ?_ ran
  intro events middle event next before tagged stepped
  rw [Replay.gather_concat enqueued before stepped]
  exact tagged.happen? stepped

private theorem tagged_ofSource {queue : String} {consumers : List (Consumer β)}
    (created : ∀ c ∈ consumers, ∃ settings pool, Consumer.create settings pool = .ok c) :
    (ofSource (.broker (.ofQueue queue)) consumers : World β).Tagged [] := by
  refine ⟨.ofQueue queue, rfl, ?_⟩
  have none : (ofSource (.broker (.ofQueue queue)) consumers : World β).underway = [] := by
    apply List.flatMap_eq_nil_iff.mpr
    intro c member
    obtain ⟨settings, pool, created⟩ := created c member
    rw [Consumer.create_eq_ok created]
    rfl
  rw [none]
  exact .ofQueue queue

/-- No delivery is lost, altered or doubled between the feeds and the application. Whatever the
source, each delivery that a consumer took is a message in flight, on the queue, handed out or
discarded, with its tag, its body and the channel it came on; and if the source is a broker, no
delivery is put on a queue of messages twice. -/
theorem deliveries_conserved :
    (∀ {settings : ConsumerSettings} {pool : PoolSettings} {c₀ c : Consumer β}
      {events : List (Consumer.Event β)}, Consumer.create settings pool = .ok c₀ →
      Replay.after? Consumer.step? c₀ events = some c →
      ((Replay.gather Consumer.step? Consumer.taken c₀ events).map fun got =>
        Message.mk (!settings.autoAck) got.2.tag got.2.body got.1).Perm
        (c.dispatches.map (·.message) ++ c.messages.items ++
          Replay.gather Consumer.step? Consumer.returned c₀ events ++
          Replay.gather Consumer.step? Consumer.flushed c₀ events) ∧
      c.dispatches.length = c.inFlight ∧
      c.metered.received = c.metered.enqueued + c.inFlight) ∧
    ∀ {queue : String} {consumers : List (Consumer β)} {events : List (Event β)} {w : World β},
      (∀ c ∈ consumers, ∃ settings pool, Consumer.create settings pool = .ok c) →
      Replay.after? World.happen? (ofSource (.broker (.ofQueue queue)) consumers) events = some w →
      ((Replay.gather World.happen? enqueued (ofSource (.broker (.ofQueue queue)) consumers)
        events).map Message.origin).Nodup := by
  refine ⟨?_, ?_⟩
  · intro settings pool c₀ c events created ran
    obtain ⟨_, ledger⟩ := Consumer.ledger_of_after? created ran
    exact ⟨Consumer.taken_perm created ran, ledger.inFlight.symm, ledger.counted⟩
  · intro queue consumers events w created ran
    obtain ⟨b, _, tagged⟩ := (tagged_ofSource created).after? ran
    have once := tagged.once
    rw [List.map_append] at once
    exact (List.nodup_append.mp once).2.1

/-- A message is flushed, one is handed out, one stays on the queue and one is under way. -/
def fourWays : List (Consumer.Event Nat) :=
  [.act .start, .proceed 0 .nothing, .proceed 0 (.leased (.ok ⟨1, 1⟩)), .proceed 0 (.done (.ok ())),
    .proceed 0 (.seen .quiet (.item ⟨1, 10, false, "", ""⟩)), .forward 0,
    .act (.use .messages .flush),
    .proceed 0 (.seen .quiet (.item ⟨2, 20, false, "", ""⟩)), .forward 0,
    .act (.use .messages .take),
    .proceed 0 (.seen .quiet (.item ⟨3, 30, false, "", ""⟩)), .forward 0,
    .proceed 0 (.seen .quiet (.item ⟨4, 40, false, "", ""⟩))]

/-- The channel closes after a delivery, and what was delivered is delivered again on the next. -/
def redelivery : List (Event Nat) :=
  [.act 0 .start, .broker (.publish 10), .task (.loop 0), .task (.loop 0), .task (.loop 0),
    .task (.loop 0), .task (.dispatch 0 0), .broker (.closeActive ⟨320, ""⟩), .task (.loop 0),
    .task (.loop 0), .task (.loop 0), .task (.loop 0), .task (.loop 0), .task (.loop 0),
    .task (.dispatch 0 0)]

theorem deliveries_conserved_redelivery : ∃ (c₀ c : Consumer Nat) (w : World Nat),
    Consumer.create .default .default = .ok c₀ ∧
    Replay.after? Consumer.step? c₀ fourWays = some c ∧ c.inFlight = 1 ∧
    c.metered.received = c.metered.enqueued + c.inFlight ∧
    Replay.after? World.happen? (ofSource (.broker (.ofQueue "")) [c₀]) redelivery = some w ∧
    (Replay.gather World.happen? enqueued (ofSource (.broker (.ofQueue "")) [c₀])
      redelivery).length = 2 ∧
    ((Replay.gather World.happen? enqueued (ofSource (.broker (.ofQueue "")) [c₀])
      redelivery).map Message.origin).Nodup := by
  obtain ⟨c₀, created, consumes, goes, twice⟩ : ∃ c₀ : Consumer Nat,
      Consumer.create .default .default = .ok c₀ ∧
      (Replay.after? Consumer.step? c₀ fourWays).any (fun c => c.inFlight == 1) = true ∧
      (Replay.after? World.happen? (ofSource (.broker (.ofQueue "")) [c₀]) redelivery).isSome =
        true ∧
      (Replay.gather World.happen? enqueued (ofSource (.broker (.ofQueue "")) [c₀])
        redelivery).length = 2 :=
    ⟨_, rfl, by decide +kernel, by decide +kernel, by decide +kernel⟩
  obtain ⟨c, ran, inFlight⟩ := (Option.any_eq_true _ _).mp consumes
  obtain ⟨w, went⟩ := Option.isSome_iff_exists.mp goes
  refine ⟨c₀, c, w, created, ran, beq_iff_eq.mp inFlight, ?_, went, twice, ?_⟩
  · exact (deliveries_conserved.1 created ran).2.2
  · refine deliveries_conserved.2 ?_ went
    intro other member
    rw [List.mem_singleton.mp member]
    exact ⟨_, _, created⟩

end World

end Intake
