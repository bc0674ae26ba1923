import Intake.Proofs.Consumer.Tally
import Intake.Proofs.World.Own

/-! # Failures are accounted for

Whenever a consumer holds no channel, its readings agree with what it has done, and each failure
was reported once. In a world with other consumers this is true of the readings under its names, as
long as no other consumer uses them.
-/

namespace Intake

namespace World

variable {β : Type}

/-- Whatever the source answers, a consumer that holds no channel has reported each failed lease,
each failed limit of its own and each reason for which it gave a channel back with an error once;
its readings count these reports, the leases and the closures; and nothing but recoverable faults
was ever put on its queue of errors. In a world the readings are those under its names. -/
theorem failures_accounted_for :
    (∀ {settings : ConsumerSettings} {pool : PoolSettings} {c₀ c : Consumer β}
      {events : List (Consumer.Event β)}, Consumer.create settings pool = .ok c₀ →
      Replay.after? Consumer.step? c₀ events = some c →
      (c.phase.held? = none → Consumer.Reconciled
        (Replay.gather Consumer.step? Consumer.overrides c₀ events)
        (Replay.gather Consumer.step? Consumer.deeds c₀ events) c.metered) ∧
      (∀ fault, .report fault ∈ Replay.gather Consumer.step? Consumer.deeds c₀ events →
        fault.isRecoverable = true) ∧
      ∀ fault ∈ c.errors.items, fault.isRecoverable = true ∧
        fault.kind ≠ "config" ∧ fault.kind ≠ "lifecycle") ∧
    ∀ {source : Source β} {consumers : List (Consumer β)} {events : List (Event β)} {w : World β},
      (∀ c ∈ consumers, ∃ settings pool, Consumer.create settings pool = .ok c) →
      Replay.after? World.happen? (ofSource source consumers) events = some w →
      ∀ i c, w.consumers[i]? = some c →
        (∀ fault ∈ c.errors.items, fault.isRecoverable = true ∧
          fault.kind ≠ "config" ∧ fault.kind ≠ "lifecycle") ∧
        (w.Alone i c.labels → c.phase.held? = none →
          ∃ c₀ ∈ consumers, ∃ own c', c = c'.unnoted ∧
            w.Own i (Replay.gather World.happen? deeds (ofSource source consumers) events)
              c₀ own c' ∧
            Consumer.Reconciled (Replay.gather Consumer.step? Consumer.overrides c₀ own)
              (deedsOf i
                (Replay.gather World.happen? deeds (ofSource source consumers) events))
              (w.readingsOf c.labels)) := by
  constructor
  · intro settings pool c₀ c events created ran
    have tallied := Consumer.tallied_of_after? created ran
    exact ⟨tallied.reconciled (Consumer.accounted_of_after? created ran), tallied.recoverable,
      fun fault queued => tallied.isRecoverable queued⟩
  · intro source consumers events w created ran i c found
    obtain ⟨c₀, member, own, c', rfl, mine⟩ := exists_own created ran found
    obtain ⟨settings, pool, created⟩ := created c₀ member
    have tallied := Consumer.tallied_of_after? created mine.after
    refine ⟨fun fault queued => tallied.isRecoverable queued, fun alone released => ?_⟩
    have reconciled :=
      tallied.reconciled (Consumer.accounted_of_after? created mine.after) released
    rw [← mine.deeds, ← mine.readings alone] at reconciled
    exact ⟨c₀, member, own, c', rfl, mine, reconciled⟩

/-- Settings with a prefetch limit of the consumer's own and room for one error. -/
def narrowSettings : ConsumerSettings :=
  { ConsumerSettings.default with prefetchCount := 5, prefetchSize := 9, errorBuffer := 1 }

/-- No channel is to be had; then the limit is not set and the deliveries end before the channel
closes; then they end for no reason; then the broker refuses. -/
def fourFailures : List (Consumer.Event Nat) :=
  [.act .start, .proceed 0 .nothing, .proceed 0 (.leased (.error .closed)),
    .proceed 100000 .nothing, .proceed 100000 .nothing, .proceed 100000 (.leased (.ok ⟨1, 0⟩)),
    .proceed 100000 (.done (.error .closed)), .proceed 100000 (.done (.ok ())),
    .proceed 100000 (.seen .quiet .over), .proceed 100000 (.seen (.item ⟨320, ""⟩) .quiet),
    .proceed 100000 (.done (.ok ())), .proceed 100000 (.done (.ok ())),
    .proceed 100000 .nothing, .proceed 100000 (.leased (.ok ⟨2, 0⟩)),
    .proceed 100000 (.done (.ok ())), .proceed 100000 (.done (.ok ())),
    .proceed 100000 (.seen .quiet .over), .proceed 100000 (.seen .over .quiet),
    .proceed 100000 (.done (.error .closed)), .proceed 100000 (.done (.ok ())),
    .proceed 200000 .nothing, .proceed 200000 .nothing, .proceed 200000 (.leased (.ok ⟨3, 0⟩)),
    .proceed 200000 (.done (.ok ())), .proceed 200000 (.done (.error .closed)),
    .proceed 200000 (.done (.ok ()))]

theorem failures_accounted_for_four : ∃ (c₀ other c mine : Consumer Nat) (w : World Nat),
    Consumer.create narrowSettings ⟨7, 1⟩ = .ok c₀ ∧
    Consumer.create { ConsumerSettings.default with name := "other" } .default = .ok other ∧
    Replay.after? Consumer.step? c₀ fourFailures = some c ∧ c.phase.held? = none ∧
    c.errors.items = [.acquisition .closed] ∧
    (Replay.gather Consumer.step? Consumer.deeds c₀ fourFailures).countP
      Deed.isErroredRelease = 3 ∧
    c.metered.reported "stream_open" + c.metered.reported "channel_closed" +
      c.metered.reported "stream_ended" = 3 ∧
    Replay.after? World.happen? (ofSource (.script (.ofPlans twoPlans true)) [c₀, other])
      bothLeases = some w ∧
    w.consumers[0]? = some mine ∧ w.Alone 0 mine.labels ∧ mine.phase.held? = none ∧
    (deedsOf 0 (Replay.gather World.happen? deeds
      (ofSource (.script (.ofPlans twoPlans true)) [c₀, other]) bothLeases)).countP
        Deed.isFailedLease = (w.readingsOf mine.labels).acquisitions false ∧
    (w.readingsOf mine.labels).closures = 1 ∧
    (w.readingsOf mine.labels).reported "channel_closed" = 1 := by
  obtain ⟨c₀, other, created, created', fails, thrice, goes⟩ : ∃ c₀ other : Consumer Nat,
      Consumer.create narrowSettings ⟨7, 1⟩ = .ok c₀ ∧
      Consumer.create { ConsumerSettings.default with name := "other" } .default = .ok other ∧
      (Replay.after? Consumer.step? c₀ fourFailures).any (fun c =>
        decide (c.phase.held? = none ∧ c.errors.items = [.acquisition .closed])) = true ∧
      (Replay.gather Consumer.step? Consumer.deeds c₀ fourFailures).countP
        Deed.isErroredRelease = 3 ∧
      (Replay.after? World.happen? (ofSource (.script (.ofPlans twoPlans true)) [c₀, other])
        bothLeases).any (fun w => decide (w.consumers.length = 2) &&
          (w.consumers[0]?.any (fun c : Consumer Nat => decide (c.phase = .draining ∧
            c.labels = ⟨"", ""⟩ ∧ (w.readingsOf ⟨"", ""⟩).closures = 1)) &&
          w.consumers[1]?.any fun c : Consumer Nat => decide (c.labels = ⟨"", "other"⟩))) = true :=
    ⟨_, _, rfl, rfl, by decide +kernel, by decide +kernel, by decide +kernel⟩
  simp only [Option.any_eq_true, Bool.and_eq_true, decide_eq_true_eq] at fails goes
  obtain ⟨c, ran, released, queued⟩ := fails
  obtain ⟨w, went, two, ⟨mine, found, draining, names, once⟩, second, found', names'⟩ := goes
  have counted := (failures_accounted_for.1 created ran).1 released
  have alone : w.Alone 0 mine.labels := by
    intro j theOther there same
    match j with
    | 0 => rfl
    | 1 =>
      cases found'.symm.trans there
      rw [names, names'] at same
      exact absurd same (by decide)
    | j + 2 =>
      obtain ⟨small, _⟩ := List.getElem?_eq_some_iff.mp there
      omega
  have released' : mine.phase.held? = none := by
    rw [draining]
    rfl
  obtain ⟨_, _, _, _, _, _, counted'⟩ := (failures_accounted_for.2 (by
    intro one member
    simp only [List.mem_cons, List.not_mem_nil, or_false] at member
    obtain rfl | rfl := member
    · exact ⟨_, _, created⟩
    · exact ⟨_, _, created'⟩) went 0 mine found).2 alone released'
  rw [← names] at once
  exact ⟨c₀, other, c, mine, w, created, created', ran, released, queued, thrice,
    counted.erroredReleases.symm.trans thrice, went, found, alone, released',
    counted'.failedLeases, once, counted'.closures.trans once⟩

end World

end Intake
