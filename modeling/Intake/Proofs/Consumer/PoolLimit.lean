import Intake.Proofs.Consumer.Leases

/-! # The pool's prefetch limit

A consumer may set a prefetch limit of its own on a channel that it leases. A channel that it has
lost gets the limit of the pool again before it is given back. A channel that is given back because
of a stop, or because the consumer was not let receive, keeps the limit of the consumer.
-/

namespace Intake

namespace Deed

/-- The limit that a call sets on a channel, and what the source answers. -/
def limits? (channel : Channel) : Deed → Option (Prefetch × Except ChannelFault Unit)
  | .limit other prefetch _ result => if other = channel then some (prefetch, result) else none
  | _ => none

/-- The last call that sets a limit on a channel. -/
def lastLimit? (channel : Channel) (ds : List Deed) :
    Option (Prefetch × Except ChannelFault Unit) :=
  (ds.filterMap (limits? channel)).getLast?

/-- A limit that was set counts until another one is set. -/
private theorem lastLimit?_concat {channel : Channel} {prefetch : Prefetch} {forAll : Bool}
    {result : Except ChannelFault Unit} (earlier : List Deed) {later : List Deed}
    (none : later.filterMap (limits? channel) = []) :
    lastLimit? channel (earlier ++ .limit channel prefetch forAll result :: later) =
      some (prefetch, result) := by
  simp [lastLimit?, none, limits?]

end Deed

namespace Consumer

open Deed

variable {settings : ConsumerSettings} {pool : PoolSettings} {phase phase' : Phase}
  {ds : List Deed} {channel : Channel} {errored : Bool}

/-- What a consumer does under a lease until it gives the channel back. -/
inductive Parted (settings : ConsumerSettings) (pool : PoolSettings) (channel : Channel) :
    Bool → List Deed → Prop
  /-- The channel closed, or its deliveries ended. -/
  | lost {limited restored : Except ChannelFault Unit} {loss : Loss} : Parted settings pool channel
      true (Lease.receiving settings channel limited ++ loss.deeds settings ++
        restoring pool channel restored)
  | refused {limited : Except ChannelFault Unit} {fault : ChannelFault} :
      Parted settings pool channel true (Lease.begun settings channel limited ++
        [.subscribe channel settings.subscription (.error fault),
          .report (.opening settings.queue fault)])
  | stopped {limited : Except ChannelFault Unit} : Parted settings pool channel
      false (Lease.receiving settings channel limited ++ [.stop])

/-- A channel is given back in one phase only, and the loop does nothing else on the way. -/
private theorem releasing_of_moves {earlier later : List Deed}
    (moves : Moves settings pool phase ds phase')
    (releases : ds = earlier ++ .release channel errored :: later) :
    earlier = [] ∧ ∃ ending : Ending, phase = .releasing channel ending ∧
      ending.errored = errored := by
  have member : .release channel errored ∈ ds := by simp [releases]
  cases moves with
  | @release other ending _ errored' unleased listens =>
    cases earlier with
    | nil =>
      cases releases
      exact ⟨rfl, ending, rfl, errored'⟩
    | cons d earlier => simp at releases
  | @releaseLast other =>
    cases earlier with
    | nil =>
      cases releases
      exact ⟨rfl, .stopped, rfl, rfl⟩
    | cons d earlier => simp at releases
  | limit =>
    obtain ⟨_, call | ⟨_, told⟩⟩ := eq_of_mem_limiting member
    · cases call
    · cases told
  | restore => cases (eq_of_mem_restoring member).2
  | _ => simp at member

private theorem Account.exists_parted {ending : Ending}
    (account : Account settings pool (.releasing channel ending) ds) :
    ∃ earlier lease, ds = earlier ++ lease ∧
      Parted settings pool channel ending.errored lease := by
  cases account with
  | @working _ runs leases lease part =>
    refine ⟨story settings pool runs leases, lease, rfl, ?_⟩
    cases part with
    | unleased unleased => cases unleased
    | receiving receiving => cases receiving
    | lost errored =>
      rw [errored]
      exact .lost
    | refused => exact .refused
  | @stopped _ limited runs leases => exact ⟨_, _, rfl, .stopped⟩
  | leaving leaving released => cases released

variable {β : Type} {c₀ : Consumer β} {events : List (Event β)}

/-- Whenever a channel is given back, its lease has come to one of three ends. -/
private theorem exists_parted_of_cut (created : create settings pool = .ok c₀)
    {before after : List Deed} (cut : Replay.gather Consumer.step? deeds c₀ events =
      before ++ .release channel errored :: after) :
    ∃ earlier lease, before = earlier ++ lease ∧ Parted settings pool channel errored lease := by
  obtain ⟨first, event, middle, next, earlier, later, reached, stepped, noted, rfl⟩ :=
    Replay.exists_of_gather_eq cut
  have accounted := accounted_of_after? created reached
  obtain ⟨rfl, rfl⟩ := settings_of_after? created reached
  obtain ⟨rfl, ending, phase, rfl⟩ :=
    releasing_of_moves (accounted.orderly.moves stepped) noted
  have account := accounted.account
  rw [phase] at account
  rw [List.append_nil]
  exact account.exists_parted

/-- The consumer's own limit is the first that is set under a lease. -/
private theorem exists_begun {own : Prefetch} (override : settings.prefetch? = some own)
    (channel : Channel) (limited : Except ChannelFault Unit) :
    ∃ later, Lease.begun settings channel limited =
        .lease (.ok channel) :: .limit channel own false limited :: later ∧
      later.filterMap (limits? channel) = [] := by
  cases limited with
  | ok => exact ⟨[], by simp [Lease.begun, limiting_eq, override, Deed.setting], rfl⟩
  | error fault =>
    refine ⟨[.report (.prefetch own fault)], ?_, rfl⟩
    simp [Lease.begun, limiting_eq, override, Deed.setting]

/-- What a consumer that has limits of its own does with those of the pool: it puts them back on a
channel that it has lost, and on no other that it gives back. -/
theorem pool_limit_after_loss {own shared : Prefetch} {before after : List Deed}
    (created : create settings pool = .ok c₀) (override : settings.prefetch? = some own)
    (common : pool.prefetch? = some shared)
    (cut : Replay.gather Consumer.step? deeds c₀ events =
      before ++ .release channel errored :: after) :
    (∃ earlier limited, ∃ loss : Loss, ∃ restored, errored = true ∧
      before = earlier ++ Lease.receiving settings channel limited ++ loss.deeds settings ++
        [.limit channel shared false restored] ∧
      lastLimit? channel before = some (shared, restored)) ∨
    (∃ earlier limited fault, errored = true ∧
      before = earlier ++ Lease.begun settings channel limited ++
        [.subscribe channel settings.subscription (.error fault),
          .report (.opening settings.queue fault)] ∧
      lastLimit? channel before = some (own, limited)) ∨
    ∃ earlier limited, errored = false ∧
      before = earlier ++ Lease.receiving settings channel limited ++ [.stop] ∧
      lastLimit? channel before = some (own, limited) := by
  obtain ⟨earlier, lease, rfl, parted⟩ := exists_parted_of_cut created cut
  cases parted with
  | @lost limited restored loss =>
    have restores : restoring pool channel restored = [.limit channel shared false restored] := by
      simp [restoring_eq, common]
    refine .inl ⟨earlier, limited, loss, restored, rfl, ?_, ?_⟩
    · rw [restores]
      simp only [List.append_assoc]
    · rw [restores, ← List.append_assoc]
      exact lastLimit?_concat _ rfl
  | @refused limited fault =>
    obtain ⟨later, begun, none⟩ := exists_begun override channel limited
    refine .inr (.inl ⟨earlier, limited, fault, rfl, (List.append_assoc ..).symm, ?_⟩)
    rw [begun, List.cons_append, List.cons_append, List.append_cons]
    exact lastLimit?_concat _ (by simp [none, limits?])
  | @stopped limited =>
    obtain ⟨later, begun, none⟩ := exists_begun override channel limited
    refine .inr (.inr ⟨earlier, limited, rfl, (List.append_assoc ..).symm, ?_⟩)
    rw [Lease.receiving, begun, List.cons_append, List.cons_append, List.cons_append,
      List.cons_append, List.append_cons]
    exact lastLimit?_concat _ (by simp [none, limits?])

/-- A consumer with a prefetch limit of its own, which is not that of its pool. -/
def strictSettings : ConsumerSettings :=
  { ConsumerSettings.default with prefetchCount := 5, prefetchSize := 9 }

/-- A loop leases a channel, and its limit is set. -/
def limitedRun : List (Event Nat) :=
  [.act .start, .proceed 0 .nothing, .proceed 0 (.leased (.ok ⟨1, 1⟩)), .proceed 0 (.done (.ok ()))]

/-- The channel closes while the loop receives. -/
def lostRun : List (Event Nat) :=
  limitedRun ++ [.proceed 0 (.done (.ok ())), .proceed 0 (.seen (.item ⟨504, "gone"⟩) .quiet),
    .proceed 0 (.done (.ok ())), .proceed 0 (.done (.ok ()))]

theorem pool_limit_after_loss_closed : ∃ (c₀ : Consumer Nat) (before : List Deed),
    create strictSettings ⟨7, 1⟩ = .ok c₀ ∧
      Replay.gather Consumer.step? deeds c₀ lostRun = before ++ [.release ⟨1, 1⟩ true] ∧
      lastLimit? ⟨1, 1⟩ before = some (⟨7, 1⟩, .ok ()) := by
  obtain ⟨c₀, before, created, cut, last⟩ : ∃ (c₀ : Consumer Nat) (before : List Deed),
      create strictSettings ⟨7, 1⟩ = .ok c₀ ∧
        Replay.gather Consumer.step? deeds c₀ lostRun = before ++ [.release ⟨1, 1⟩ true] ∧
        before.getLast? = some (.limit ⟨1, 1⟩ ⟨7, 1⟩ false (.ok ())) :=
    ⟨_, [.launch, .lease (.ok ⟨1, 1⟩), .limit ⟨1, 1⟩ ⟨5, 9⟩ false (.ok ()),
      .subscribe ⟨1, 1⟩ strictSettings.subscription (.ok ()), .countClosure,
      .report (.channelClosed ⟨504, "gone"⟩), .limit ⟨1, 1⟩ ⟨7, 1⟩ false (.ok ())], rfl, rfl, rfl⟩
  refine ⟨c₀, before, created, cut, ?_⟩
  have override : strictSettings.prefetch? = some ⟨5, 9⟩ := rfl
  obtain ⟨earlier, limited, loss, restored, _, same, put⟩ | ⟨_, _, _, _, same, _⟩ |
      ⟨_, _, lost, _⟩ := pool_limit_after_loss created override rfl cut
  · rw [same, List.getLast?_concat] at last
    cases last
    exact put
  · simp [same] at last
  · cases lost

/-- A stop is seen while the loop receives. -/
def stoppedRun : List (Event Nat) :=
  limitedRun ++ [.proceed 0 (.done (.ok ())), .act (.stop false), .proceed 0 (.seen .quiet .quiet),
    .proceed 0 (.done (.ok ()))]

/-- The broker does not let the loop receive. -/
def refusedRun : List (Event Nat) :=
  limitedRun ++ [.proceed 0 (.done (.error .closed)), .proceed 0 (.done (.ok ()))]

/-- After a stop, and also when it was not let receive, a consumer gives its channel back with its
own limit, which was set and is the last that was. -/
theorem own_limit_left_behind : ∃ (c₀ : Consumer Nat) (stopped refused : List Deed),
    create strictSettings ⟨7, 1⟩ = .ok c₀ ∧
      Replay.gather Consumer.step? deeds c₀ stoppedRun = stopped ++ [.release ⟨1, 1⟩ false] ∧
      lastLimit? ⟨1, 1⟩ stopped = some (⟨5, 9⟩, .ok ()) ∧
      Replay.gather Consumer.step? deeds c₀ refusedRun = refused ++ [.release ⟨1, 1⟩ true] ∧
      lastLimit? ⟨1, 1⟩ refused = some (⟨5, 9⟩, .ok ()) :=
  ⟨_, [.launch, .lease (.ok ⟨1, 1⟩), .limit ⟨1, 1⟩ ⟨5, 9⟩ false (.ok ()),
      .subscribe ⟨1, 1⟩ strictSettings.subscription (.ok ()), .stop],
    [.launch, .lease (.ok ⟨1, 1⟩), .limit ⟨1, 1⟩ ⟨5, 9⟩ false (.ok ()),
      .subscribe ⟨1, 1⟩ strictSettings.subscription (.error .closed),
      .report (.opening strictSettings.queue .closed)], rfl, rfl, rfl, rfl, rfl⟩

end Consumer

end Intake
