import Intake.Proofs.Consumer.Conservation
import Intake.Proofs.Consumer.Deeds

/-! # Leases

A consumer holds one channel at a time. What it does under a lease follows a fixed pattern, and so
do the leases of a run and the runs of a consumer. `Lease.deeds` and `Run.deeds` spell the patterns
out; whatever happens, a consumer is somewhere in the middle of them, and `Account` says where,
given the phase of its loop.
-/

namespace Intake

/-- A call hands over what the settings say: to receive, the queue and the name, the four flags and
the arguments; to set a limit, the numbers of the consumer or those of the pool, if neither is
zero. -/
def Deed.Configured (settings : ConsumerSettings) (pool : PoolSettings) : Deed → Prop
  | .subscribe _ asked _ =>
    asked.queue = settings.queue ∧ asked.name = settings.name ∧
      asked.terms.autoAck = settings.autoAck ∧ asked.terms.exclusive = settings.exclusive ∧
      asked.terms.noLocal = settings.noLocal ∧ asked.terms.noWait = settings.noWait ∧
      asked.arguments = settings.arguments
  | .limit _ prefetch forAll _ =>
    forAll = false ∧ (prefetch.count ≠ 0 ∧ prefetch.size ≠ 0) ∧
      (prefetch.count = settings.prefetchCount ∧ prefetch.size = settings.prefetchSize ∨
        prefetch.count = pool.prefetchCount ∧ prefetch.size = pool.prefetchSize)
  | _ => True

namespace Consumer

/-- Why a channel no longer receives. -/
inductive Loss where
  | closed (closure : Closure)
  /-- The deliveries ended and no closure explains it. -/
  | unexplained

/-- What comes of a call for a channel, if no stop ends the lease. -/
inductive Lease where
  | failed (fault : ChannelFault)
  /-- The broker does not let the consumer receive. -/
  | refused (channel : Channel) (limited : Except ChannelFault Unit) (fault : ChannelFault)
  | lost (channel : Channel) (limited : Except ChannelFault Unit) (loss : Loss)
    (restored : Except ChannelFault Unit)

/-- One loop from its launch to its end. A stop ends it, between two leases or on a last one. -/
structure Run where
  leases : List Lease
  last : Option (Channel × Except ChannelFault Unit)

section

variable (settings : ConsumerSettings) (pool : PoolSettings)

def Loss.deeds : Loss → List Deed
  | .closed closure => [.countClosure, .report (.channelClosed closure)]
  | .unexplained => [.report (.streamEnded settings.queue)]

namespace Lease

/-- A channel is leased, and the consumer's own prefetch limit set. -/
def begun (channel : Channel) (limited : Except ChannelFault Unit) : List Deed :=
  .lease (.ok channel) :: Deed.limiting settings channel limited

/-- A channel is leased and receives. -/
def receiving (channel : Channel) (limited : Except ChannelFault Unit) : List Deed :=
  begun settings channel limited ++ [.subscribe channel settings.subscription (.ok ())]

def deeds : Lease → List Deed
  | failed fault => [.lease (.error fault), .report (.acquisition fault)]
  | refused channel limited fault =>
    begun settings channel limited ++
      [.subscribe channel settings.subscription (.error fault),
        .report (.opening settings.queue fault), .release channel true]
  | lost channel limited loss restored =>
    receiving settings channel limited ++ loss.deeds settings ++
      Deed.restoring pool channel restored ++ [.release channel true]

end Lease

namespace Run

/-- All but the end of the loop. -/
def deedsUntilEnd (run : Run) : List Deed :=
  .launch :: run.leases.flatMap (Lease.deeds settings pool) ++
    match run.last with
    | none => [.stop]
    | some (channel, limited) =>
      Lease.receiving settings channel limited ++ [.stop, .release channel false]

def deeds (run : Run) : List Deed := run.deedsUntilEnd settings pool ++ [.finish]

end Run

/-- What a loop has done on the lease it is at, when it comes to a phase. -/
inductive UnderLease : Phase → List Deed → Prop
  | unleased {phase : Phase} (unleased : phase.unleased = true) : UnderLease phase []
  | limiting {channel : Channel} : UnderLease (.limiting channel) [.lease (.ok channel)]
  | opening {channel : Channel} {limited : Except ChannelFault Unit} :
      UnderLease (.opening channel) (Lease.begun settings channel limited)
  | receiving {phase : Phase} {channel : Channel} {limited : Except ChannelFault Unit}
      (receiving : phase.receiving? = some channel) :
      UnderLease phase (Lease.receiving settings channel limited)
  | restoring {channel : Channel} {ending : Ending} {limited : Except ChannelFault Unit}
      {loss : Loss} (errored : ending.errored = true) :
      UnderLease (.restoring channel ending)
        (Lease.receiving settings channel limited ++ loss.deeds settings)
  | lost {channel : Channel} {ending : Ending} {limited restored : Except ChannelFault Unit}
      {loss : Loss} (errored : ending.errored = true) :
      UnderLease (.releasing channel ending)
        (Lease.receiving settings channel limited ++ loss.deeds settings ++
          Deed.restoring pool channel restored)
  | refused {channel : Channel} {limited : Except ChannelFault Unit} {fault : ChannelFault} :
      UnderLease (.releasing channel .refused)
        (Lease.begun settings channel limited ++
          [.subscribe channel settings.subscription (.error fault),
            .report (.opening settings.queue fault)])

/-- The deeds of complete runs, of the launch of another and of its complete leases. -/
def story (runs : List Run) (leases : List Lease) : List Deed :=
  runs.flatMap (Run.deeds settings pool) ++ .launch :: leases.flatMap (Lease.deeds settings pool)

/-- What a consumer has done since its construction, when its loop comes to a phase. -/
inductive Account : Phase → List Deed → Prop
  | idle {runs : List Run} : Account .idle (runs.flatMap (Run.deeds settings pool))
  | working {phase : Phase} {runs : List Run} {leases : List Lease} {ds : List Deed}
      (part : UnderLease settings pool phase ds) :
      Account phase (story settings pool runs leases ++ ds)
  | stopped {channel : Channel} {limited : Except ChannelFault Unit} {runs : List Run}
      {leases : List Lease} : Account (.releasing channel .stopped)
        (story settings pool runs leases ++ (Lease.receiving settings channel limited ++ [.stop]))
  | leaving {phase : Phase} {runs : List Run} {run : Run}
      (leaving : phase.stage = .leaving) (released : phase.listening? = none) :
      Account phase (runs.flatMap (Run.deeds settings pool) ++ run.deedsUntilEnd settings pool)

end

variable {settings : ConsumerSettings} {pool : PoolSettings} {phase phase' : Phase}
  {ds ds' : List Deed}

theorem listening?_of_receiving? {channel : Channel} (receives : phase.receiving? = some channel) :
    phase.listening? = some channel := by
  cases phase <;> first | exact receives | cases receives

/-! ## One lease -/

/-- Where a move leads from the middle of a lease: on, to its end, or to a stop. -/
inductive Onward (settings : ConsumerSettings) (pool : PoolSettings) (ds : List Deed) :
    Phase → Prop
  | on {phase : Phase} (part : UnderLease settings pool phase ds) : Onward settings pool ds phase
  | whole {phase : Phase} {lease : Lease} (unleased : phase.unleased = true)
      (complete : lease.deeds settings pool = ds) : Onward settings pool ds phase
  | stopped {channel : Channel} {limited : Except ChannelFault Unit}
      (received : Lease.receiving settings channel limited ++ [.stop] = ds) :
      Onward settings pool ds (.releasing channel .stopped)
  | stoppedBefore (only : [.stop] = ds) : Onward settings pool ds .draining

namespace UnderLease

/-- A channel was lost: the pool's prefetch limit is put back next, or the channel released. -/
private theorem parted {channel : Channel} {ending : Ending} {limited : Except ChannelFault Unit}
    {loss : Loss} (errored : ending.errored = true) :
    UnderLease settings pool (.parted pool channel ending)
      (Lease.receiving settings channel limited ++ loss.deeds settings) := by
  unfold Phase.parted
  cases limit : pool.prefetch? with
  | none =>
    have nothing : Deed.restoring pool channel (.ok ()) = [] := by simp [Deed.restoring_eq, limit]
    rw [← List.append_nil (Lease.receiving settings channel limited ++ loss.deeds settings),
      ← nothing]
    exact .lost errored
  | some prefetch => exact .restoring errored

theorem receiving?_of_unleased (unleased : phase.unleased = true) : phase.receiving? = none := by
  cases phase <;> first | rfl | cases unleased

/-- A loop that is at a lease is not on its way out. -/
private theorem stage (part : UnderLease settings pool phase ds) : phase.stage = .working := by
  cases part with
  | unleased unleased => cases phase <;> first | rfl | cases unleased
  | receiving receiving => cases phase <;> first | rfl | cases receiving
  | @restoring _ ending _ _ errored => cases ending <;> first | rfl | cases errored
  | @lost _ ending _ _ _ errored => cases ending <;> first | rfl | cases errored
  | _ => rfl

private theorem eq_nil (part : UnderLease settings pool phase ds)
    (unleased : phase.unleased = true) :
    ds = [] := by
  cases part with
  | unleased _ => rfl
  | receiving receiving =>
    rw [receiving?_of_unleased unleased] at receiving
    cases receiving
  | _ => cases unleased

private theorem exists_receiving {channel : Channel} (part : UnderLease settings pool phase ds)
    (receives : phase.receiving? = some channel) :
    ∃ limited, ds = Lease.receiving settings channel limited := by
  cases part with
  | unleased unleased =>
    rw [receiving?_of_unleased unleased] at receives
    cases receives
  | @receiving _ other limited receiving =>
    cases receiving.symm.trans receives
    exact ⟨limited, rfl⟩
  | _ => cases receives

private theorem moves (part : UnderLease settings pool phase ds)
    (moves : Moves settings pool phase ds' phase') : Onward settings pool (ds ++ ds') phase' := by
  cases moves with
  | rest =>
    rw [List.append_nil]
    exact .on part
  -- without a channel
  | seek =>
    cases part.eq_nil rfl
    exact .on (.unleased rfl)
  | @lease channel =>
    cases part.eq_nil rfl
    unfold Phase.begun
    cases limit : settings.prefetch? with
    | none =>
      have begun : [.lease (.ok channel)] = Lease.begun settings channel (.ok ()) := by
        simp [Lease.begun, Deed.limiting_eq, limit]
      rw [List.nil_append, begun]
      exact .on .opening
    | some prefetch => exact .on .limiting
  | @miss fault =>
    cases part.eq_nil rfl
    have complete : (Lease.failed fault).deeds settings pool =
        [.lease (.error fault), .report (.acquisition fault)] := rfl
    exact .whole rfl complete
  | resume =>
    cases part.eq_nil rfl
    exact .on (.unleased rfl)
  | stopBeforeLease =>
    cases part.eq_nil rfl
    exact .stoppedBefore rfl
  -- before it receives
  | limit =>
    cases part with
    | unleased unleased => cases unleased
    | limiting => exact .on .opening
    | receiving receiving => cases receiving
  | subscribe =>
    cases part with
    | unleased unleased => cases unleased
    | opening => exact .on (.receiving rfl)
    | receiving receiving => cases receiving
  | refuse =>
    cases part with
    | unleased unleased => cases unleased
    | opening => exact .on .refused
    | receiving receiving => cases receiving
  -- while it receives
  | exhaust =>
    obtain ⟨limited, rfl⟩ := part.exists_receiving rfl
    rw [List.append_nil]
    exact .on (.receiving rfl)
  | linger =>
    obtain ⟨limited, rfl⟩ := part.exists_receiving rfl
    rw [List.append_nil]
    exact .on (.receiving rfl)
  | @close _ channel closure receives =>
    obtain ⟨limited, rfl⟩ := part.exists_receiving receives
    have parts : UnderLease settings pool (.parted pool channel .closed)
        (Lease.receiving settings channel limited ++ (Loss.closed closure).deeds settings) :=
      .parted rfl
    exact .on parts
  | @endStream _ channel resumeAt receives =>
    obtain ⟨limited, rfl⟩ := part.exists_receiving receives
    have parts : UnderLease settings pool (.parted pool channel (.ended resumeAt))
        (Lease.receiving settings channel limited ++ Loss.unexplained.deeds settings) :=
      .parted rfl
    exact .on parts
  | stop =>
    obtain ⟨limited, rfl⟩ := part.exists_receiving rfl
    exact .stopped rfl
  -- after it has received
  | restore =>
    cases part with
    | unleased unleased => cases unleased
    | receiving receiving => cases receiving
    | restoring errored => exact .on (.lost errored)
  | @release channel ending _ errored unleased listens =>
    cases part with
    | unleased unleased => cases unleased
    | receiving receiving => cases receiving
    | @lost _ _ limited restored loss _ =>
      have complete : (Lease.lost channel limited loss restored).deeds settings pool =
          Lease.receiving settings channel limited ++ loss.deeds settings ++
            Deed.restoring pool channel restored ++ [.release channel true] := rfl
      exact .whole unleased complete
    | @refused _ limited fault =>
      have complete : (Lease.refused channel limited fault).deeds settings pool =
          Lease.begun settings channel limited ++
            [.subscribe channel settings.subscription (.error fault),
              .report (.opening settings.queue fault)] ++ [.release channel true] := by
        simp [Lease.deeds]
      exact .whole unleased complete
  -- after the last lease, or before the first
  | launch => cases part.stage
  | releaseLast => cases part.stage
  | hurry => cases part.stage
  | wait => cases part.stage
  | empty => cases part.stage
  | park => cases part.stage

/-- What was done so far is the beginning of a lease. -/
private theorem exists_lease (part : UnderLease settings pool phase ds) :
    ∃ lease : Lease, ds <+: lease.deeds settings pool := by
  cases part with
  | unleased _ => exact ⟨.failed (.unavailable ""), List.nil_prefix⟩
  | @limiting channel =>
    refine ⟨.refused channel (.ok ()) .closed, ?_⟩
    simp [Lease.deeds, Lease.begun]
  | @opening channel limited => exact ⟨.refused channel limited .closed, List.prefix_append _ _⟩
  | @receiving _ channel limited _ =>
    refine ⟨.lost channel limited .unexplained (.ok ()), ?_⟩
    simp [Lease.deeds]
  | @restoring channel _ limited loss _ =>
    refine ⟨.lost channel limited loss (.ok ()), ?_⟩
    simp [Lease.deeds]
  | @lost channel _ limited restored loss _ =>
    exact ⟨.lost channel limited loss restored, List.prefix_append _ _⟩
  | @refused channel limited fault =>
    refine ⟨.refused channel limited fault, ?_⟩
    simp [Lease.deeds]

end UnderLease

/-! ## All runs -/

namespace Account

private theorem moves (account : Account settings pool phase ds)
    (moves : Moves settings pool phase ds' phase') : Account settings pool phase' (ds ++ ds') := by
  cases account with
  | @idle runs =>
    cases moves with
    | rest =>
      rw [List.append_nil]
      exact .idle
    | launch =>
      have launched : Account settings pool .checking (story settings pool runs [] ++ []) :=
        .working (.unleased rfl)
      simpa [story] using launched
    | close receiving => cases receiving
    | endStream receiving => cases receiving
  | @working _ runs leases ds part =>
    rw [List.append_assoc]
    cases part.moves moves with
    | on part => exact .working part
    | @whole _ lease unleased complete =>
      rw [← complete]
      have next : Account settings pool phase'
          (story settings pool runs (leases ++ [lease]) ++ []) := .working (.unleased unleased)
      simpa [story] using next
    | stopped received =>
      rw [← received]
      exact .stopped
    | stoppedBefore only =>
      rw [← only]
      have stops : Account settings pool .draining (runs.flatMap (Run.deeds settings pool) ++
          Run.deedsUntilEnd settings pool ⟨leases, none⟩) := .leaving rfl rfl
      simpa [story, Run.deedsUntilEnd] using stops
  | @stopped channel limited runs leases =>
    cases moves with
    | rest =>
      rw [List.append_nil]
      exact .stopped
    | close receiving => cases receiving
    | endStream receiving => cases receiving
    | release errored => cases errored
    | releaseLast =>
      have stops : Account settings pool .draining (runs.flatMap (Run.deeds settings pool) ++
          Run.deedsUntilEnd settings pool ⟨leases, some (channel, limited)⟩) := .leaving rfl rfl
      simpa [story, Run.deedsUntilEnd] using stops
  | @leaving _ runs run leaving released =>
    cases moves with
    | rest =>
      rw [List.append_nil]
      exact .leaving leaving released
    | hurry =>
      rw [List.append_nil]
      exact .leaving rfl rfl
    | wait =>
      rw [List.append_nil]
      exact .leaving rfl rfl
    | empty =>
      rw [List.append_nil]
      exact .leaving rfl rfl
    | park =>
      have complete : Account settings pool .idle
          ((runs ++ [run]).flatMap (Run.deeds settings pool)) := .idle
      simpa [Run.deeds] using complete
    | close receiving =>
      rw [listening?_of_receiving? receiving] at released
      cases released
    | endStream receiving =>
      rw [listening?_of_receiving? receiving] at released
      cases released
    | releaseLast => cases released
    | _ => first | cases leaving | cases released

/-- A loop that receives has leased its channel and begun to receive last. -/
theorem exists_receiving {channel : Channel} (account : Account settings pool phase ds)
    (receives : phase.receiving? = some channel) :
    ∃ earlier limited, ds = earlier ++ Lease.receiving settings channel limited := by
  cases account with
  | idle => cases receives
  | @working _ runs leases _ part =>
    obtain ⟨limited, rfl⟩ := part.exists_receiving receives
    exact ⟨_, limited, rfl⟩
  | stopped => cases receives
  | leaving _ released =>
    rw [listening?_of_receiving? receives] at released
    cases released

/-- What was done so far is the beginning of a sequence of runs. -/
theorem exists_runs (account : Account settings pool phase ds) :
    ∃ runs : List Run, ds <+: runs.flatMap (Run.deeds settings pool) := by
  cases account with
  | @idle runs => exact ⟨runs, List.prefix_rfl⟩
  | @working _ runs leases ds part =>
    obtain ⟨lease, begins⟩ := part.exists_lease
    refine ⟨runs ++ [⟨leases ++ [lease], none⟩], ?_⟩
    have goesOn := (List.prefix_append_right_inj (story settings pool runs leases)).mpr begins
    refine goesOn.trans ?_
    simp [story, Run.deeds, Run.deedsUntilEnd]
  | @stopped channel limited runs leases =>
    refine ⟨runs ++ [⟨leases, some (channel, limited)⟩], ?_⟩
    simp [story, Run.deeds, Run.deedsUntilEnd]
  | @leaving _ runs run _ _ =>
    refine ⟨runs ++ [run], ?_⟩
    simp [Run.deeds]

end Account

/-- A stop gives the last channel back, and nothing else is given back without an error. -/
theorem Run.exists_last (run : Run) : ∃ body last,
    run.deeds settings pool = body ++ last ++ [.finish] ∧
      (∀ channel, .release channel false ∉ body) ∧
      (last = [] ∨ ∃ channel, last = [.release channel false]) := by
  have limits (channel other : Channel) (result : Except ChannelFault Unit) :
      .release other false ∉ Deed.limiting settings channel result := by
    intro member
    obtain ⟨_, call | ⟨_, told⟩⟩ := Deed.eq_of_mem_limiting member
    · cases call
    · cases told
  have restores (channel other : Channel) (result : Except ChannelFault Unit) :
      .release other false ∉ Deed.restoring pool channel result := fun member => by
    cases (Deed.eq_of_mem_restoring member).2
  have begins (channel other : Channel) (limited : Except ChannelFault Unit) :
      .release other false ∉ Lease.begun settings channel limited := by
    simp [Lease.begun, limits]
  have receives (channel other : Channel) (limited : Except ChannelFault Unit) :
      .release other false ∉ Lease.receiving settings channel limited := by
    simp [Lease.receiving, begins]
  have leases (lease : Lease) (other : Channel) :
      .release other false ∉ lease.deeds settings pool := by
    cases lease with
    | failed fault => simp [Lease.deeds]
    | refused channel limited fault => simp [Lease.deeds, begins]
    | lost channel limited loss restored =>
      cases loss <;> simp [Lease.deeds, Loss.deeds, receives, restores]
  cases last : run.last with
  | none =>
    refine ⟨run.deedsUntilEnd settings pool, [], by simp [Run.deeds], ?_, .inl rfl⟩
    simp [Run.deedsUntilEnd, last, leases]
  | some final =>
    obtain ⟨channel, limited⟩ := final
    refine ⟨.launch :: run.leases.flatMap (Lease.deeds settings pool) ++
      Lease.receiving settings channel limited ++ [.stop], [.release channel false], ?_, ?_,
      .inr ⟨channel, rfl⟩⟩
    · simp [Run.deeds, Run.deedsUntilEnd, last]
    · simp [leases, receives]

/-! ## Calls and settings -/

/-- Only the settings are asked for, and only limits are set of which neither number is zero. -/
private theorem configured_of_moves (moves : Moves settings pool phase ds phase') :
    ∀ d ∈ ds, d.Configured settings pool := by
  cases moves with
  | @limit channel result =>
    intro d member
    obtain ⟨given, rfl | ⟨fault, rfl⟩⟩ := Deed.eq_of_mem_limiting member
    · exact ⟨rfl, given, .inl ⟨rfl, rfl⟩⟩
    · trivial
  | restore =>
    intro d member
    obtain ⟨given, rfl⟩ := Deed.eq_of_mem_restoring member
    exact ⟨rfl, given, .inr ⟨rfl, rfl⟩⟩
  | _ => simp [Deed.Configured, ConsumerSettings.subscription]

/-! ## Channels that are held -/

private theorem held?_of_receiving? {channel : Channel}
    (receives : phase.receiving? = some channel) :
    phase.held? = some channel := by
  cases phase <;> first | exact receives | cases receives

private theorem held?_parted (pool : PoolSettings) (channel : Channel) (ending : Ending) :
    (Phase.parted pool channel ending).held? = some channel := by
  unfold Phase.parted
  split <;> rfl

/-- A loop asks for a lease in one phase only. -/
theorem phase_of_lease {result : Except ChannelFault Channel}
    (moves : Moves settings pool phase ds phase') (leases : .lease result ∈ ds) :
    phase = .acquiring := by
  cases moves with
  | lease => rfl
  | miss => rfl
  | limit =>
    obtain ⟨_, call | ⟨_, told⟩⟩ := Deed.eq_of_mem_limiting leases
    · cases call
    · cases told
  | restore => cases (Deed.eq_of_mem_restoring leases).2
  | _ => simp at leases

/-- Each channel that is leased is given back before the next. -/
private theorem held_of_moves (moves : Moves settings pool phase ds phase') :
    phase.held?.toList ++ ds.filterMap Deed.leased? =
      ds.filterMap Deed.released? ++ phase'.held?.toList := by
  cases moves with
  | rest => simp
  | lease =>
    unfold Phase.begun
    split <;> rfl
  | @limit _ result =>
    unfold Deed.limiting
    split
    · cases result <;> rfl
    · rfl
  | close receiving =>
    rw [held?_of_receiving? receiving, held?_parted]
    rfl
  | endStream receiving =>
    rw [held?_of_receiving? receiving, held?_parted]
    rfl
  | restore =>
    unfold Deed.restoring
    split <;> rfl
  | release errored unleased listens => cases phase' <;> first | rfl | cases unleased
  | _ => rfl

/-! ## Histories -/

section

variable {β : Type} {c c' c₀ : Consumer β} {e : Event β}

/-- What a consumer has done up to some time fits its loop, and what it was told. -/
structure Accounted (c : Consumer β) (ds : List Deed) : Prop where
  orderly : c.Orderly
  account : Account c.settings c.pool c.phase ds
  configured : ∀ d ∈ ds, d.Configured c.settings c.pool
  held : ds.filterMap Deed.leased? = ds.filterMap Deed.released? ++ c.phase.held?.toList

namespace Accounted

theorem create {settings : ConsumerSettings} {pool : PoolSettings}
    (created : Consumer.create settings pool = .ok c) : c.Accounted [] := by
  have orderly := orderly_of_create created
  rw [create_eq_ok created] at orderly ⊢
  have none : Account settings pool .idle ([].flatMap (Run.deeds settings pool)) := .idle
  exact ⟨orderly, none, nofun, rfl⟩

theorem step? (accounted : c.Accounted ds) (stepped : c.step? e = some c') :
    c'.Accounted (ds ++ c.deeds e) := by
  have moves := accounted.orderly.moves stepped
  refine ⟨accounted.orderly.step? stepped, ?_, ?_, ?_⟩
  · rw [settings_of_step? stepped, accounted.orderly.pool stepped]
    exact accounted.account.moves moves
  · rw [settings_of_step? stepped, accounted.orderly.pool stepped]
    exact List.forall_mem_append.mpr ⟨accounted.configured, configured_of_moves moves⟩
  · rw [List.filterMap_append, List.filterMap_append, accounted.held, List.append_assoc,
      held_of_moves moves, List.append_assoc]

/-- What was noted and not collected does not matter. -/
theorem collect (accounted : c.Accounted ds) (notes : List Note) :
    Accounted { c with notes } ds :=
  ⟨accounted.orderly, accounted.account, accounted.configured, accounted.held⟩

/-- All leases of a consumer that is stopped are complete. -/
theorem stopped (accounted : c.Accounted ds) (off : c.started = false) :
    (∃ runs : List Run, ds = runs.flatMap (Run.deeds c.settings c.pool)) ∧
      ds.filterMap Deed.leased? = ds.filterMap Deed.released? := by
  have idle : c.phase = .idle := by simpa [off] using accounted.orderly.started_eq
  obtain ⟨_, account, _, held⟩ := accounted
  rw [idle] at account held
  refine ⟨?_, by simpa [Phase.held?, Phase.listening?] using held⟩
  cases account with
  | @idle runs => exact ⟨runs, rfl⟩
  | working part => cases part.stage
  | leaving leaving released => cases leaving

end Accounted

theorem accounted_of_after? {settings : ConsumerSettings} {pool : PoolSettings}
    {events : List (Event β)} (created : create settings pool = .ok c₀)
    (ran : Replay.after? Consumer.step? c₀ events = some c) :
    c.Accounted (Replay.gather Consumer.step? Consumer.deeds c₀ events) := by
  refine Replay.after?_induction
    (P := fun events c => c.Accounted (Replay.gather Consumer.step? Consumer.deeds c₀ events))
    (.create created) ?_ ran
  intro events middle event next before accounted stepped
  rw [Replay.gather_concat Consumer.deeds before stepped]
  exact accounted.step? stepped

/-- Nothing changes what a consumer is told to do. -/
theorem settings_of_after? {settings : ConsumerSettings} {pool : PoolSettings}
    {events : List (Event β)} (created : create settings pool = .ok c₀)
    (ran : Replay.after? Consumer.step? c₀ events = some c) :
    c.settings = settings ∧ c.pool = pool := by
  refine (orderly_of_create created).induction
    (P := fun _ c => c.settings = settings ∧ c.pool = pool) ?_ ?_ ran
  · rw [create_eq_ok created]
    exact ⟨rfl, rfl⟩
  · intro events middle event next orderly before same stepped
    rw [settings_of_step? stepped, orderly.pool stepped]
    exact same

end

end Consumer

end Intake
