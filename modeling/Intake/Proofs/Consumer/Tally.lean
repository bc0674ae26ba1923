import Intake.Proofs.Consumer.Leases
import Intake.Proofs.Consumer.Marks

/-! # The books of a consumer

What a consumer does and counts adds up: each lease that fails, each channel that is given back with
an error and each limit that could not be set goes with one report. `Reconciled` says so of a
consumer that holds no channel; in between, `Balances` keeps the channel in mind that is still to be
given back.
-/

namespace Intake

namespace Deed

/-- No channel is to be had. -/
def isFailedLease : Deed → Bool
  | .lease (.error _) => true
  | _ => false

/-- A prefetch limit could not be set. -/
def isFailedLimit : Deed → Bool
  | .limit _ _ _ (.error _) => true
  | _ => false

/-- A channel is given back with an error. -/
def isErroredRelease : Deed → Bool
  | .release _ errored => errored
  | _ => false

/-- How often something is done that is counted. -/
def counted (ds : List Deed) (m : Mark) : Nat := (ds.filterMap mark?).count m

private theorem counted_append (ds ds' : List Deed) (m : Mark) :
    counted (ds ++ ds') m = counted ds m + counted ds' m := by
  rw [counted, List.filterMap_append, List.count_append, counted, counted]

private theorem counted_failed_leases (ds : List Deed) :
    counted ds (.acquired false) = ds.countP isFailedLease := by
  rw [counted, List.count_filterMap]
  refine List.countP_congr fun d _ => ?_
  cases d with
  | lease result => cases result <;> simp [mark?, isFailedLease]
  | _ => simp [mark?, isFailedLease]

private theorem counted_leases (ds : List Deed) :
    counted ds (.acquired true) = (ds.filterMap leased?).length := by
  rw [counted, List.count_filterMap, List.length_filterMap_eq_countP]
  refine List.countP_congr fun d _ => ?_
  cases d with
  | lease result => cases result <;> simp [mark?, leased?]
  | _ => simp [mark?, leased?]

end Deed

/-- The faults that no consumer recovers from are told from the others by their kind. -/
private theorem Fault.isRecoverable_iff (fault : Fault) :
    fault.isRecoverable = true ↔ fault.kind ≠ "config" ∧ fault.kind ≠ "lifecycle" := by
  cases fault <;> simp [isRecoverable, kind]

namespace Phase

/-- How many channels the loop holds that it is to give back with an error. -/
def owed : Phase → Nat
  | .restoring _ ending | .releasing _ ending => if ending.errored then 1 else 0
  | _ => 0

/-- What the loop does to put the consumer's own prefetch limit in the place of the pool's. -/
def overrides : Phase → List Deed → List Deed
  | .limiting _, ds => ds
  | _, _ => []

private theorem owed_of_held? {phase : Phase} (released : phase.held? = none) : phase.owed = 0 := by
  cases phase <;> first | rfl | cases released

private theorem owed_of_receiving? {phase : Phase} {channel : Channel}
    (receives : phase.receiving? = some channel) : phase.owed = 0 := by
  cases phase <;> first | rfl | cases receives

private theorem overrides_of_receiving? {phase : Phase} {channel : Channel}
    (receives : phase.receiving? = some channel) (ds : List Deed) : phase.overrides ds = [] := by
  cases phase <;> first | rfl | cases receives

private theorem owed_of_unleased {phase : Phase} (unleased : phase.unleased = true) :
    phase.owed = 0 := by
  cases phase <;> first | rfl | cases unleased

private theorem owed_begun (settings : ConsumerSettings) (channel : Channel) :
    (Phase.begun settings channel).owed = 0 := by
  unfold begun
  split <;> rfl

private theorem owed_parted (pool : PoolSettings) (channel : Channel) {ending : Ending}
    (errored : ending.errored = true) : (Phase.parted pool channel ending).owed = 1 := by
  unfold parted
  split <;> simp only [owed, errored, if_true]

end Phase

namespace Consumer

variable {β : Type} {c c' c₀ : Consumer β} {e : Event β} {ds ds' limits limits' : List Deed}
  {settings : ConsumerSettings} {pool : PoolSettings} {phase phase' phase'' : Phase}

/-! ## What adds up -/

open Deed

/-- From one phase to another each failure goes with one report, and a channel that is to be given
back with an error is one that is still owed. -/
structure Balances (phase : Phase) (limits ds : List Deed) (phase' : Phase) : Prop where
  missed : counted ds (.acquired false) = counted ds (.reported "acquisition")
  errored : phase'.owed + ds.countP isErroredRelease = phase.owed +
    (counted ds (.reported "stream_open") + counted ds (.reported "channel_closed") +
      counted ds (.reported "stream_ended"))
  closed : counted ds (.reported "channel_closed") = counted ds .closure
  limited : counted ds (.reported "qos") = limits.countP isFailedLimit

namespace Balances

private theorem trans (first : Balances phase limits ds phase')
    (second : Balances phase' limits' ds' phase'') :
    Balances phase (limits ++ limits') (ds ++ ds') phase'' := by
  obtain ⟨missed, errored, closed, limited⟩ := first
  obtain ⟨missed', errored', closed', limited'⟩ := second
  constructor <;> simp only [counted_append, List.countP_append] <;> omega

private theorem of_moves (moves : Moves settings pool phase ds phase') :
    Balances phase (phase.overrides ds) ds phase' := by
  cases moves with
  | rest => cases phase <;> exact ⟨rfl, rfl, rfl, rfl⟩
  | lease =>
    refine ⟨rfl, ?_, rfl, rfl⟩
    rw [Phase.owed_begun]
    rfl
  | @limit _ result =>
    unfold Deed.limiting
    split
    · cases result <;> exact ⟨rfl, rfl, rfl, rfl⟩
    · exact ⟨rfl, rfl, rfl, rfl⟩
  | close receiving =>
    refine ⟨rfl, ?_, rfl, ?_⟩
    · rw [Phase.owed_parted _ _ rfl, Phase.owed_of_receiving? receiving]
      rfl
    · rw [Phase.overrides_of_receiving? receiving]
      rfl
  | endStream receiving =>
    refine ⟨rfl, ?_, rfl, ?_⟩
    · rw [Phase.owed_parted _ _ rfl, Phase.owed_of_receiving? receiving]
      rfl
    · rw [Phase.overrides_of_receiving? receiving]
      rfl
  | restore =>
    unfold Deed.restoring
    split <;> exact ⟨rfl, rfl, rfl, rfl⟩
  | release errored unleased =>
    refine ⟨rfl, ?_, rfl, rfl⟩
    rw [Phase.owed_of_unleased unleased, Phase.owed, if_pos errored]
    rfl
  | _ => exact ⟨rfl, rfl, rfl, rfl⟩

end Balances

/-! ## What is reported -/

/-- A consumer reports recoverable faults only. -/
private theorem isRecoverable_of_moves {fault : Fault} (moves : Moves settings pool phase ds phase')
    (reports : .report fault ∈ ds) : fault.isRecoverable = true := by
  cases moves with
  | miss | refuse | close | endStream =>
    have same := by simpa using reports
    rw [same]
    rfl
  | limit =>
    obtain ⟨_, call | ⟨_, told⟩⟩ := Deed.eq_of_mem_limiting reports
    · cases call
    · cases told
      rfl
  | restore => cases (Deed.eq_of_mem_restoring reports).2
  | _ => simp at reports

/-- What is on the queue of errors was there before or is reported now. -/
private theorem Orderly.errors {fault : Fault} (orderly : c.Orderly) (stepped : c.step? e = some c')
    (queued : fault ∈ c'.errors.items) : fault ∈ c.errors.items ∨ .report fault ∈ c.deeds e := by
  cases e with
  | act a =>
    obtain ⟨_, _, _, fewer⟩ := orderly.logs stepped
    exact .inl (fewer.subset queued)
  | proceed now answer =>
    obtain ⟨more, same⟩ := (Advance.of_proceed? stepped).turn.reports
    rw [same, List.mem_append] at queued
    refine queued.imp_right fun new => ?_
    have told : .report fault ∈ c.told c' := by simp [Consumer.told, same, new]
    simp [deeds, stepped, told]
  | forward number =>
    cases Hop.of_forward? stepped <;> exact .inl queued

/-! ## Histories -/

/-- What the consumer does to put its own prefetch limit in the place of the pool's. -/
def overrides (c : Consumer β) (e : Event β) : List Deed := c.phase.overrides (c.deeds e)

/-- What a consumer has done up to some time is what it counted, and adds up. -/
structure Tallied (c : Consumer β) (limits ds : List Deed) : Prop where
  marks : c.metered.marks = ds.filterMap mark?
  balances : Balances .idle limits ds c.phase
  recoverable : ∀ fault, .report fault ∈ ds → fault.isRecoverable = true
  errors : ∀ fault ∈ c.errors.items, .report fault ∈ ds

namespace Tallied

private theorem create (created : Consumer.create settings pool = .ok c) : c.Tallied [] [] := by
  rw [create_eq_ok created]
  exact ⟨rfl, ⟨rfl, rfl, rfl, rfl⟩, nofun, nofun⟩

private theorem step? (tallied : c.Tallied limits ds) (orderly : c.Orderly)
    (stepped : c.step? e = some c') : c'.Tallied (limits ++ c.overrides e) (ds ++ c.deeds e) := by
  have moves := orderly.moves stepped
  constructor
  · have marks := orderly.marks stepped
    rw [marks, tallied.marks, List.filterMap_append]
  · exact tallied.balances.trans (.of_moves moves)
  · intro fault reports
    exact (List.mem_append.mp reports).elim (tallied.recoverable fault)
      (isRecoverable_of_moves moves)
  · intro fault queued
    exact List.mem_append.mpr ((orderly.errors stepped queued).imp_left (tallied.errors fault))

/-- No fault from which the consumer does not recover is on the queue of errors. -/
theorem isRecoverable {fault : Fault} (tallied : c.Tallied limits ds)
    (queued : fault ∈ c.errors.items) : fault.isRecoverable = true ∧
      fault.kind ≠ "config" ∧ fault.kind ≠ "lifecycle" := by
  have recovers := tallied.recoverable fault (tallied.errors fault queued)
  exact ⟨recovers, fault.isRecoverable_iff.mp recovers⟩

end Tallied

theorem tallied_of_after? {events : List (Event β)} (created : create settings pool = .ok c₀)
    (ran : Replay.after? Consumer.step? c₀ events = some c) :
    c.Tallied (Replay.gather Consumer.step? Consumer.overrides c₀ events)
      (Replay.gather Consumer.step? Consumer.deeds c₀ events) := by
  refine (orderly_of_create created).induction
    (P := fun events c => c.Tallied (Replay.gather Consumer.step? Consumer.overrides c₀ events)
      (Replay.gather Consumer.step? Consumer.deeds c₀ events)) (.create created) ?_ ran
  intro events middle event next orderly before tallied stepped
  rw [Replay.gather_concat Consumer.overrides before stepped,
    Replay.gather_concat Consumer.deeds before stepped]
  exact tallied.step? orderly stepped

/-- Each failure was reported once, and the readings say so. -/
structure Reconciled (limits ds : List Deed) (readings : Readings) : Prop where
  failedLeases : ds.countP isFailedLease = readings.acquisitions false
  missed : readings.acquisitions false = readings.reported "acquisition"
  leases : (ds.filterMap leased?).length = readings.acquisitions true
  releases : readings.acquisitions true = (ds.filterMap released?).length
  erroredReleases : ds.countP isErroredRelease =
    readings.reported "stream_open" + readings.reported "channel_closed" +
      readings.reported "stream_ended"
  closures : readings.reported "channel_closed" = readings.closures
  failedLimits : readings.reported "qos" = limits.countP isFailedLimit

theorem Tallied.reconciled (tallied : c.Tallied limits ds) (accounted : c.Accounted ds)
    (released : c.phase.held? = none) : Reconciled limits ds c.metered := by
  have counts (m : Mark) : c.metered.marks.count m = counted ds m := by
    rw [tallied.marks, counted]
  have held : ds.filterMap leased? = ds.filterMap released? := by
    simpa [released] using accounted.held
  obtain ⟨missed, errored, closed, limited⟩ := tallied.balances
  rw [Phase.owed_of_held? released, Nat.zero_add] at errored
  constructor <;> simp only [Readings.acquisitions_eq, Readings.reported_eq, Readings.closures_eq,
    counts]
  · exact (counted_failed_leases ds).symm
  · exact missed
  · exact (counted_leases ds).symm
  · rw [counted_leases, held]
  · exact errored.trans (Nat.zero_add _)
  · exact closed
  · exact limited

end Consumer

end Intake
