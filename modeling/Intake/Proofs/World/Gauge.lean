import Intake.Proofs.Consumer.Gauge
import Intake.Proofs.World.Own

/-! # The gauge of a world

Readings are kept by the names of a consumer. Whatever goes on in a world, the gauge under the names
of a consumer that shares them with no other says how many of its deliveries are in flight.
-/

namespace Intake

namespace World

variable {β : Type}

/-- The gauge is never stale. After every history of a consumer, with restarts, immediate stops and
deliveries that arrive after the end of their loop, it says how many deliveries are in flight if
there ever was one: zero if and only if all that were taken have been put on the queue, and without
rounding below `2 ^ 53`. In a world this is true of the readings under the names of the consumer if
no other uses them. -/
theorem gauge_never_stale :
    (∀ {settings : ConsumerSettings} {pool : PoolSettings} {c₀ c : Consumer β}
      {events : List (Consumer.Event β)}, Consumer.create settings pool = .ok c₀ →
      Replay.after? Consumer.step? c₀ events = some c →
      c.Gauged (Replay.gather Consumer.step? Consumer.taken c₀ events).length
        (Replay.gather Consumer.step? Consumer.enqueued c₀ events).length c.metered) ∧
    ∀ {source : Source β} {consumers : List (Consumer β)} {events : List (Event β)} {w : World β},
      (∀ c ∈ consumers, ∃ settings pool, Consumer.create settings pool = .ok c) →
      Replay.after? World.happen? (ofSource source consumers) events = some w →
      ∀ i c, w.consumers[i]? = some c → w.Alone i c.labels →
        ∃ c₀ ∈ consumers, ∃ own c', c = c'.unnoted ∧
          w.Own i (Replay.gather World.happen? deeds (ofSource source consumers) events)
            c₀ own c' ∧
          c.Gauged (Replay.gather Consumer.step? Consumer.taken c₀ own).length
            (Replay.gather Consumer.step? Consumer.enqueued c₀ own).length
            (w.readingsOf c.labels) := by
  constructor
  · intro settings pool c₀ c events created ran
    exact Consumer.gauged_of_after? created ran
  · intro source consumers events w created ran i c found alone
    obtain ⟨c₀, member, own, c', rfl, mine⟩ := exists_own created ran found
    obtain ⟨settings, pool, created⟩ := created c₀ member
    have gauged := Consumer.gauged_of_after? created mine.after
    have readings : w.readingsOf c'.labels = c'.metered := mine.readings alone
    rw [← readings] at gauged
    obtain ⟨received, enqueued, gauge, idle, shown⟩ := gauged
    exact ⟨c₀, member, own, c', rfl, mine, received, enqueued, gauge, idle, shown⟩

/-- A delivery is under way when the consumer is stopped at once and started again; it arrives while
one of the next loop is under way. -/
def straggler : List (Consumer.Event Nat) :=
  [.act .start, .proceed 0 .nothing, .proceed 0 (.leased (.ok ⟨1, 1⟩)), .proceed 0 (.done (.ok ())),
    .proceed 0 (.seen .quiet (.item ⟨1, 10, false, "", ""⟩)), .act (.stop true),
    .proceed 0 (.seen .quiet .quiet), .proceed 0 (.done (.ok ())), .proceed 0 .nothing,
    .proceed 0 .nothing, .act .start, .proceed 0 .nothing, .proceed 0 (.leased (.ok ⟨2, 1⟩)),
    .proceed 0 (.done (.ok ())), .proceed 0 (.seen .quiet (.item ⟨1, 20, false, "", ""⟩)),
    .forward 0]

/-- The same with a broker: the first delivery arrives when the consumer is off. -/
def stoppedAtOnce : List (Event Nat) :=
  [.act 0 .start, .broker (.publish 10), .task (.loop 0), .task (.loop 0), .task (.loop 0),
    .task (.loop 0), .act 0 (.stop true), .task (.loop 0), .task (.loop 0), .task (.loop 0),
    .task (.loop 0), .task (.dispatch 0 0)]

theorem gauge_never_stale_straggler : ∃ (c₀ c mine : Consumer Nat) (w : World Nat),
    Consumer.create .default .default = .ok c₀ ∧
    Replay.after? Consumer.step? c₀ straggler = some c ∧ c.inFlight = 1 ∧
    c.metered.gauge? = some 1 ∧
    c.metered.samples.getLast? = some ⟨"amqp_consumer_in_flight", "", "1"⟩ ∧
    Replay.after? World.happen? (ofSource (.broker (.ofQueue "")) [c₀]) stoppedAtOnce = some w ∧
    w.consumers[0]? = some mine ∧ mine.started = false ∧ w.Alone 0 mine.labels ∧
    (w.readingsOf mine.labels).gauge? = some 0 := by
  obtain ⟨c₀, created, runs, twice, goes⟩ : ∃ c₀ : Consumer Nat,
      Consumer.create .default .default = .ok c₀ ∧
      (Replay.after? Consumer.step? c₀ straggler).any (fun c => decide (c.inFlight = 1)) = true ∧
      (Replay.gather Consumer.step? Consumer.taken c₀ straggler).length = 2 ∧
      (Replay.after? World.happen? (ofSource (.broker (.ofQueue "")) [c₀]) stoppedAtOnce).any
        (fun w => decide (w.consumers.length = 1) && w.consumers[0]?.any fun c : Consumer Nat =>
          decide (c.started = false ∧ c.inFlight = 0 ∧ (w.readingsOf c.labels).received = 1)) =
        true :=
    ⟨_, rfl, by decide +kernel, by decide +kernel, by decide +kernel⟩
  simp only [Option.any_eq_true, Bool.and_eq_true, decide_eq_true_eq] at runs goes
  obtain ⟨c, ran, one⟩ := runs
  obtain ⟨w, went, single, mine, found, off, none, taken⟩ := goes
  have alone : w.Alone 0 mine.labels := by
    intro j other there _
    obtain ⟨small, _⟩ := List.getElem?_eq_some_iff.mp there
    omega
  have gauged := gauge_never_stale.1 created ran
  obtain ⟨_, _, own, _, _, _, gauged'⟩ := gauge_never_stale.2 (by
    intro other member
    rw [List.mem_singleton.mp member]
    exact ⟨_, _, created⟩) went 0 mine found alone
  rw [twice] at gauged
  rw [← gauged'.received, taken] at gauged'
  refine ⟨c₀, c, mine, w, created, ran, one, ?_, ?_, went, found, off, alone, ?_⟩
  · rw [gauged.gauge, one]
    rfl
  · rw [gauged.shown (by decide) (by rw [one]; decide), one]
    rfl
  · rw [gauged'.gauge, none]
    rfl

end World

end Intake
