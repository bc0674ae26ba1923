import Intake.Proofs.Consumer.StopSignal

/-! # What a consumer does

Seen from outside, a consumer makes calls on its source and on the channels it leases, reports
faults, counts closures and takes stop signals. `Consumer.deeds` reads this off the consumer before
and after an event. What it does depends on the phase of its loop only: `Moves` lists, for each way
from one phase to the next, the deeds on the way.
-/

namespace Intake

/-- What a consumer has to ask for when it starts to receive, each of its settings at its place. -/
def ConsumerSettings.subscription (settings : ConsumerSettings) : Subscription where
  queue := settings.queue
  name := settings.name
  terms := {
    autoAck := settings.autoAck
    exclusive := settings.exclusive
    noLocal := settings.noLocal
    noWait := settings.noWait }
  arguments := settings.arguments

inductive Deed where
  /-- A loop is launched. -/
  | launch
  -- calls, with what the source answers
  | lease (result : Except ChannelFault Channel)
  | limit (channel : Channel) (prefetch : Prefetch) (forAll : Bool)
    (result : Except ChannelFault Unit)
  | subscribe (channel : Channel) (subscription : Subscription)
    (result : Except ChannelFault Unit)
  | release (channel : Channel) (errored : Bool)
  /-- A fault is put on the queue of errors, or dropped because the queue is full. -/
  | report (fault : Fault)
  | countClosure
  /-- A stop signal is taken. -/
  | stop
  /-- The loop ends. -/
  | finish
deriving Repr

namespace Deed

/-- The channel that a lease yields. -/
def leased? : Deed → Option Channel
  | .lease (.ok channel) => some channel
  | _ => none

/-- The channel that is given back. -/
def released? : Deed → Option Channel
  | .release channel _ => some channel
  | _ => none

/-- To set a prefetch limit on a channel, and to report it if that fails. -/
def setting (prefetch : Prefetch) (channel : Channel) : Except ChannelFault Unit → List Deed
  | .ok () => [.limit channel prefetch false (.ok ())]
  | .error fault =>
    [.limit channel prefetch false (.error fault), .report (.prefetch prefetch fault)]

/-- To set the consumer's own prefetch limit, if neither of its numbers is zero. -/
def limiting (settings : ConsumerSettings) (channel : Channel)
    (result : Except ChannelFault Unit) : List Deed :=
  if settings.prefetchCount ≠ 0 ∧ settings.prefetchSize ≠ 0 then
    setting ⟨settings.prefetchCount, settings.prefetchSize⟩ channel result
  else []

/-- To put the pool's prefetch limit back, if neither of its numbers is zero. -/
def restoring (pool : PoolSettings) (channel : Channel) (result : Except ChannelFault Unit) :
    List Deed :=
  if pool.prefetchCount ≠ 0 ∧ pool.prefetchSize ≠ 0 then
    [.limit channel ⟨pool.prefetchCount, pool.prefetchSize⟩ false result]
  else []

variable {settings : ConsumerSettings} {pool : PoolSettings} {channel : Channel}
  {result : Except ChannelFault Unit} {d : Deed}

/-- A limit is set if and only if it counts as set. -/
theorem limiting_eq : limiting settings channel result =
    match settings.prefetch? with
    | none => []
    | some prefetch => setting prefetch channel result := by
  unfold limiting ConsumerSettings.prefetch? Prefetch.set?
  split <;> rfl

theorem restoring_eq : restoring pool channel result =
    match pool.prefetch? with
    | none => []
    | some prefetch => [.limit channel prefetch false result] := by
  unfold restoring PoolSettings.prefetch? Prefetch.set?
  split <;> rfl

theorem eq_of_mem_limiting (member : d ∈ limiting settings channel result) :
    (settings.prefetchCount ≠ 0 ∧ settings.prefetchSize ≠ 0) ∧
      (d = .limit channel ⟨settings.prefetchCount, settings.prefetchSize⟩ false result ∨
        ∃ fault, d =
          .report (.prefetch ⟨settings.prefetchCount, settings.prefetchSize⟩ fault)) := by
  unfold limiting at member
  split at member
  · next given =>
    refine ⟨given, ?_⟩
    cases result with
    | ok => exact .inl (List.mem_singleton.mp member)
    | error fault =>
      simp only [setting, List.mem_cons, List.not_mem_nil, or_false] at member
      exact member.imp id fun told => ⟨fault, told⟩
  · cases member

theorem eq_of_mem_restoring (member : d ∈ restoring pool channel result) :
    (pool.prefetchCount ≠ 0 ∧ pool.prefetchSize ≠ 0) ∧
      d = .limit channel ⟨pool.prefetchCount, pool.prefetchSize⟩ false result := by
  unfold restoring at member
  split at member
  · next given => exact ⟨given, List.mem_singleton.mp member⟩
  · cases member

end Deed

namespace Phase

/-- Where a lease begins. -/
def begun (settings : ConsumerSettings) (channel : Channel) : Phase :=
  if settings.prefetch?.isSome then .limiting channel else .opening channel

/-- Where a lease ends that is not stopped. -/
def parted (pool : PoolSettings) (channel : Channel) (ending : Ending) : Phase :=
  if pool.prefetch?.isSome then .restoring channel ending else .releasing channel ending

/-- The channel that the loop has leased and not given back. -/
def held? : Phase → Option Channel
  | .pausing _ _ => none
  | phase => phase.listening?

/-- The loop goes on and has no channel. -/
def unleased : Phase → Bool
  | .checking | .acquiring | .pausing _ _ => true
  | _ => false

end Phase

/-- What the loop of a consumer does on its way from one phase to the next. -/
inductive Moves (settings : ConsumerSettings) (pool : PoolSettings) :
    Phase → List Deed → Phase → Prop
  | rest {phase : Phase} : Moves settings pool phase [] phase
  | launch : Moves settings pool .idle [.launch] .checking
  -- without a channel
  | seek : Moves settings pool .checking [] .acquiring
  | lease {channel : Channel} :
      Moves settings pool .acquiring [.lease (.ok channel)] (.begun settings channel)
  | miss {fault : ChannelFault} {resumeAt : Nat} : Moves settings pool .acquiring
      [.lease (.error fault), .report (.acquisition fault)] (.pausing none resumeAt)
  | resume {channel : Option Channel} {resumeAt : Nat} :
      Moves settings pool (.pausing channel resumeAt) [] .checking
  -- with a channel
  | limit {channel : Channel} {result : Except ChannelFault Unit} :
      Moves settings pool (.limiting channel) (Deed.limiting settings channel result)
        (.opening channel)
  | subscribe {channel : Channel} : Moves settings pool (.opening channel)
      [.subscribe channel settings.subscription (.ok ())] (.streaming channel true)
  | refuse {channel : Channel} {fault : ChannelFault} : Moves settings pool (.opening channel)
      [.subscribe channel settings.subscription (.error fault),
        .report (.opening settings.queue fault)] (.releasing channel .refused)
  | exhaust {channel : Channel} {watching : Bool} :
      Moves settings pool (.streaming channel watching) [] (.streaming channel false)
  | linger {channel : Channel} {resumeAt : Nat} :
      Moves settings pool (.streaming channel true) [] (.lingering channel resumeAt)
  | close {phase : Phase} {channel : Channel} {closure : Closure}
      (receiving : phase.receiving? = some channel) : Moves settings pool phase
        [.countClosure, .report (.channelClosed closure)] (.parted pool channel .closed)
  | endStream {phase : Phase} {channel : Channel} {resumeAt : Nat}
      (receiving : phase.receiving? = some channel) : Moves settings pool phase
        [.report (.streamEnded settings.queue)] (.parted pool channel (.ended resumeAt))
  | restore {channel : Channel} {ending : Ending} {result : Except ChannelFault Unit} :
      Moves settings pool (.restoring channel ending) (Deed.restoring pool channel result)
        (.releasing channel ending)
  | release {channel : Channel} {ending : Ending} {phase : Phase}
      (errored : ending.errored = true) (unleased : phase.unleased = true)
      (listens : phase.listening? = none ∨ phase.listening? = some channel) :
      Moves settings pool (.releasing channel ending) [.release channel true] phase
  -- after a stop
  | stop {channel : Channel} {watching : Bool} :
      Moves settings pool (.streaming channel watching) [.stop] (.releasing channel .stopped)
  | stopBeforeLease : Moves settings pool .checking [.stop] .draining
  | releaseLast {channel : Channel} :
      Moves settings pool (.releasing channel .stopped) [.release channel false] .draining
  | hurry : Moves settings pool .draining [] (.parking true)
  | wait : Moves settings pool .draining [] .emptying
  | empty : Moves settings pool .emptying [] (.parking false)
  | park {immediate : Bool} : Moves settings pool (.parking immediate) [.finish] .idle

/-- What others learn from a note. -/
def Note.deed? : Note → Option Deed
  | .meter .channelClosed => some .countClosure
  | .log (.reportDropped _ fault) => some (.report fault)
  | _ => none

namespace Consumer

variable {β : Type} {c c' c'' : Consumer β} {now : Nat} {answer : Answer β} {ds : List Deed}

/-- The call that the source answers. -/
def called (c : Consumer β) : Event β → List Deed
  | .proceed _ answer =>
    match c.demand, answer with
    | .lease, .leased result => [.lease result]
    | .limit channel prefetch, .done result => [.limit channel prefetch false result]
    | .subscribe channel, .done result =>
      [.subscribe channel
        ⟨c.settings.queue, c.settings.name, c.settings.terms, c.settings.arguments⟩ result]
    | .release channel errored, .done _ => [.release channel errored]
    | _, _ => []
  | _ => []

/-- What is new among the notes and the errors. -/
def told (c c' : Consumer β) : List Deed :=
  (c'.notes.drop c.notes.length).filterMap Note.deed? ++
    (c'.errors.items.drop c.errors.items.length).map .report

/-- What a consumer does at an event. -/
def deeds (c : Consumer β) (e : Event β) : List Deed :=
  match c.step? e with
  | none => []
  | some c' =>
    (if launched ⟨c, e, c'⟩ then [.launch] else []) ++ c.called e ++ c.told c' ++
      (if obeys ⟨c, e, c'⟩ then [.stop] else []) ++ if ended ⟨c, e, c'⟩ then [.finish] else []

/-- The calls and what others learn, where the launch of a loop, its end and the stop signals do not
matter. -/
theorem filterMap_deeds {γ : Type} {f : Deed → Option γ} {e : Event β} (launch : f .launch = none)
    (stop : f .stop = none) (finish : f .finish = none) (stepped : c.step? e = some c') :
    (c.deeds e).filterMap f = (c.called e).filterMap f ++ (c.told c').filterMap f := by
  have without (done : Bool) {d : Deed} (left : f d = none) :
      (if done then [d] else []).filterMap f = [] := by
    cases done <;> simp [left]
  simp only [deeds, stepped, List.filterMap_append, without, launch, stop, finish, List.nil_append,
    List.append_nil]

/-! ## Notes and errors -/

/-- Notes and errors are only added, and others learn so much from them. -/
def Tells (c c' : Consumer β) (ds : List Deed) : Prop :=
  ∃ notes items, c'.notes = c.notes ++ notes ∧ c'.errors.items = c.errors.items ++ items ∧
    notes.filterMap Note.deed? ++ items.map .report = ds

theorem Tells.told_eq (tells : Tells c c' ds) : c.told c' = ds := by
  obtain ⟨notes, items, noted, queued, rfl⟩ := tells
  rw [told, noted, queued, List.drop_left, List.drop_left]

namespace Tells

theorem nothing (notes : c'.notes = c.notes) (errors : c'.errors = c.errors) : Tells c c' [] :=
  ⟨[], [], by rw [notes, List.append_nil], by rw [errors, List.append_nil], rfl⟩

/-- Only notes and errors count. -/
theorem congr (tells : Tells c c' ds) (notes : c''.notes = c'.notes)
    (errors : c''.errors = c'.errors) : Tells c c'' ds := by
  unfold Tells
  rw [notes, errors]
  exact tells

private theorem trans {ds' : List Deed} (first : Tells c c' ds) (errors : c'.errors = c.errors)
    (second : Tells c' c'' ds') : Tells c c'' (ds ++ ds') := by
  obtain ⟨notes, items, noted, queued, rfl⟩ := first
  obtain ⟨notes', items', noted', queued', rfl⟩ := second
  have none : items = [] := by simpa [errors] using queued
  refine ⟨notes ++ notes', items', ?_, ?_, ?_⟩
  · rw [noted', noted, List.append_assoc]
  · rw [queued', errors]
  · simp [none]

private theorem meter (c : Consumer β) (m : Meter) :
    Tells c (c.meter m) (Note.meter m).deed?.toList :=
  ⟨[.meter m], [], rfl, (List.append_nil _).symm, by
    cases told : (Note.meter m).deed? <;> simp [told]⟩

/-- A log entry from which others learn nothing. -/
theorem log (c : Consumer β) {entry : LogEntry} (untold : (Note.log entry).deed? = none) :
    Tells c (c.log entry) [] :=
  ⟨[.log entry], [], rfl, (List.append_nil _).symm, by simp [untold]⟩

private theorem report (c : Consumer β) (fault : Fault) :
    Tells c (c.report fault) [.report fault] := by
  unfold Consumer.report
  cases pushed : c.errors.push? fault with
  | some errors =>
    exact ⟨[.meter (.errorReported fault.kind)], [fault], rfl, Queue.items_of_push? pushed, rfl⟩
  | none =>
    exact ⟨[.log (.reportDropped c.settings.queue fault), .meter (.errorDropped fault.kind)], [],
      by simp [Consumer.meter, Consumer.log], (List.append_nil _).symm, rfl⟩

theorem closed (c : Consumer β) (channel : Channel) (closure : Closure) :
    Tells c (c.closed channel closure) [.countClosure, .report (.channelClosed closure)] :=
  (Tells.log c rfl).trans rfl
    ((Tells.meter _ .channelClosed).trans rfl ((Tells.report _ _).congr rfl rfl))

theorem streamEnded (c : Consumer β) (channel : Channel) (resumeAt : Nat) :
    Tells c (c.streamEnded channel resumeAt) [.report (.streamEnded c.settings.queue)] :=
  (Tells.log c rfl).trans rfl ((Tells.report _ _).congr rfl rfl)

theorem leased (c : Consumer β) (now : Nat) (channel : Channel) :
    Tells c (c.leased now (.ok channel)) [] :=
  (Tells.meter c (.channelAcquired true)).congr rfl rfl

theorem missed (c : Consumer β) (now : Nat) (fault : ChannelFault) :
    Tells c (c.leased now (.error fault)) [.report (.acquisition fault)] :=
  (Tells.meter c (.channelAcquired false)).trans rfl
    ((Tells.log _ rfl).trans rfl ((Tells.report _ _).congr rfl rfl))

private theorem limited (c : Consumer β) (channel : Channel) {prefetch : Prefetch}
    {fault : ChannelFault} (limit : c.settings.prefetch? = some prefetch) :
    Tells c (c.limited channel (.error fault)) [.report (.prefetch prefetch fault)] := by
  have opening : Tells c { c with phase := .opening channel } [] := .nothing rfl rfl
  simp only [Consumer.limited, limit]
  exact opening.trans rfl ((Tells.log _ rfl).trans rfl (Tells.report _ _))

theorem opened (c : Consumer β) (channel : Channel) : Tells c (c.opened channel (.ok ())) [] :=
  (Tells.log c rfl).congr rfl rfl

theorem refused (c : Consumer β) (channel : Channel) (fault : ChannelFault) :
    Tells c (c.opened channel (.error fault)) [.report (.opening c.settings.queue fault)] :=
  (Tells.log c rfl).trans rfl ((Tells.report _ _).congr rfl rfl)

theorem restored (c : Consumer β) (channel : Channel) (ending : Ending)
    (result : Except ChannelFault Unit) : Tells c (c.restored channel ending result) [] := by
  cases result with
  | ok => exact nothing rfl rfl
  | error fault => exact (Tells.log c rfl).congr rfl rfl

theorem receive (c : Consumer β) (channel : Channel) (d : Delivery β) :
    Tells c (c.receive channel d) [] := by
  let tracked : Consumer β := { c with allowance := c.allowance.request.track }
  have reserved : Tells c tracked [] := .nothing rfl rfl
  have counted : Tells c (tracked.meter .deliveryReceived) [] :=
    reserved.trans rfl (.meter _ .deliveryReceived)
  have gauged := counted.trans rfl (.meter _ (.inFlight tracked.inFlight))
  exact gauged.trans rfl ((Tells.log _ rfl).congr rfl rfl)

end Tells

/-! ## The loop -/

/-- What a step of the loop does, if it neither takes a stop signal nor ends the loop. -/
theorem deeds_of_proceed? (stepped : c.proceed? now answer = some c') (tells : Tells c c' ds)
    (signal : c'.stopSignal = c.stopSignal) (goesOn : c'.phase ≠ .idle) :
    c.deeds (.proceed now answer) = c.called (.proceed now answer) ++ ds := by
  simp [deeds, step?, stepped, launched, obeys, ended, tells.told_eq, signal, goesOn]

/-- What a step of the loop does that takes a stop signal. -/
private theorem deeds_of_stop (stepped : c.proceed? now answer = some c') (tells : Tells c c' [])
    (pending : c.stopSignal = true) (gone : c'.stopSignal = false) (goesOn : c'.phase ≠ .idle) :
    c.deeds (.proceed now answer) = c.called (.proceed now answer) ++ [.stop] := by
  simp [deeds, step?, stepped, launched, obeys, ended, tells.told_eq, pending, gone, goesOn]

private theorem limited_phase (c : Consumer β) (channel : Channel)
    (result : Except ChannelFault Unit) :
    (c.limited channel result).phase = .opening channel := by
  unfold limited
  dsimp only
  split
  · rw [report_phase]
    rfl
  · rfl

theorem closed_phase (c : Consumer β) (channel : Channel) (closure : Closure) :
    (c.closed channel closure).phase = .parted c.pool channel .closed := by
  have pool : (((c.log (.channelClosed c.settings.queue channel.id closure)).meter
      .channelClosed).report (.channelClosed closure)).pool = c.pool := (Alike.report _ _).pool
  rw [← pool]
  rfl

theorem streamEnded_phase (c : Consumer β) (channel : Channel) (resumeAt : Nat) :
    (c.streamEnded channel resumeAt).phase = .parted c.pool channel (.ended resumeAt) := by
  have pool : ((c.log (.streamEnded c.settings.queue channel.id)).report
      (.streamEnded c.settings.queue)).pool = c.pool := (Alike.report _ _).pool
  rw [← pool]
  rfl

theorem closed_phase_ne_idle (c : Consumer β) (channel : Channel) (closure : Closure) :
    (c.closed channel closure).phase ≠ .idle := by
  rw [closed_phase, Phase.parted]
  split <;> nofun

theorem streamEnded_phase_ne_idle (c : Consumer β) (channel : Channel) (resumeAt : Nat) :
    (c.streamEnded channel resumeAt).phase ≠ .idle := by
  rw [streamEnded_phase, Phase.parted]
  split <;> nofun

theorem leased_phase_ne_idle (c : Consumer β) (now : Nat) (result : Except ChannelFault Channel) :
    (c.leased now result).phase ≠ .idle := by
  intro idle
  have working := leased_stage c now result
  rw [idle] at working
  cases working

theorem released_phase_ne_idle (c : Consumer β) (now : Nat) (channel : Channel)
    (ending : Ending) : (c.released now channel ending).phase ≠ .idle := by
  cases ending <;> nofun

/-- A channel on which a limit was to be set, and what others learn of it. -/
theorem deeds_of_limit {channel : Channel} {result : Except ChannelFault Unit}
    (phase : c.phase = .limiting channel) :
    c.deeds (.proceed now (.done result)) = Deed.limiting c.settings channel result := by
  have advance : Advance c now (.done result) (c.limited channel result) := .limit phase
  have stepped := advance.proceed?_eq_some
  have goesOn : (c.limited channel result).phase ≠ .idle := by
    rw [limited_phase]
    nofun
  have signal := (Alike.limited c channel result).stopSignal
  cases limit : c.settings.prefetch? with
  | none =>
    have tells : Tells c (c.limited channel result) [] := by
      simp only [limited, limit]
      exact .nothing rfl rfl
    rw [deeds_of_proceed? stepped tells signal goesOn]
    simp [called, demand, phase, limit, Deed.limiting_eq]
  | some prefetch =>
    cases result with
    | ok =>
      rw [deeds_of_proceed? stepped (.nothing rfl rfl) signal goesOn]
      simp [called, demand, phase, limit, Deed.limiting_eq, Deed.setting]
    | error fault =>
      rw [deeds_of_proceed? stepped (.limited c channel limit) signal goesOn]
      simp [called, demand, phase, limit, Deed.limiting_eq, Deed.setting]

theorem Advance.moves (advance : Advance c now answer c') :
    Moves c.settings c.pool c.phase (c.deeds (.proceed now answer)) c'.phase := by
  have stepped := advance.proceed?_eq_some
  cases advance with
  | stopBeforeLease phase signal =>
    rw [deeds_of_stop stepped ((Tells.log c rfl).congr rfl rfl) signal rfl nofun]
    simp only [called, demand, phase]
    exact .stopBeforeLease
  | seek phase silent =>
    rw [deeds_of_proceed? stepped (.nothing rfl rfl) rfl nofun]
    simp only [called, demand, phase]
    exact .seek
  | @lease result phase =>
    cases result with
    | ok channel =>
      rw [deeds_of_proceed? stepped (.leased ..) rfl (leased_phase_ne_idle _ _ _)]
      simp only [called, demand, phase]
      exact .lease
    | error fault =>
      rw [deeds_of_proceed? stepped (.missed ..) (Alike.leased ..).stopSignal nofun]
      simp only [called, demand, phase]
      exact .miss
  | limit phase =>
    rw [deeds_of_limit phase, limited_phase, phase]
    exact .limit
  | @subscribe channel result phase =>
    cases result with
    | ok =>
      rw [deeds_of_proceed? stepped (.opened ..) rfl nofun]
      simp only [called, demand, phase]
      exact .subscribe
    | error fault =>
      rw [deeds_of_proceed? stepped (.refused ..) (Alike.opened ..).stopSignal nofun]
      simp only [called, demand, phase]
      exact .refuse
  | @closure channel watching notice arrival closure phase chosen =>
    rw [deeds_of_proceed? stepped (Tells.closed c.unreserve channel closure)
      (Alike.closed ..).stopSignal (closed_phase_ne_idle _ _ _), closed_phase]
    simp only [called, demand, phase]
    exact .close rfl
  | exhausted phase chosen =>
    rw [deeds_of_proceed? stepped ((Tells.log c rfl).congr rfl rfl) rfl nofun]
    simp only [called, demand, phase]
    exact .exhaust
  | @receive channel watching notice arrival d phase chosen silent =>
    have goesOn : (c.receive channel d).phase ≠ .idle := by
      rw [receive_phase, phase]
      nofun
    rw [deeds_of_proceed? stepped (.receive ..) rfl goesOn, receive_phase]
    simp only [called, demand, phase]
    exact .rest
  | receiveLast phase chosen signal =>
    rw [deeds_of_stop stepped ((Tells.receive ..).congr rfl rfl) signal rfl nofun]
    simp only [called, demand, phase]
    exact .stop
  | linger phase chosen =>
    rw [deeds_of_proceed? stepped (.nothing rfl rfl) rfl nofun]
    simp only [called, demand, phase]
    exact .linger
  | @streamEnd channel notice arrival phase chosen =>
    let seen : Consumer β := { c with allowance := c.allowance.request }
    rw [deeds_of_proceed? stepped (Tells.streamEnded seen.unreserve channel _)
      (Alike.streamEnded seen.unreserve channel _).stopSignal (streamEnded_phase_ne_idle _ _ _),
      streamEnded_phase]
    simp only [called, demand, phase]
    exact .endStream rfl
  | stop phase chosen =>
    rw [deeds_of_stop stepped (.nothing rfl rfl) (stopSignal_of_choose chosen) rfl nofun]
    simp only [called, demand, phase]
    exact .stop
  | reserve phase chosen unreserved =>
    have goesOn : { c with allowance := c.allowance.request }.phase ≠ .idle := by
      rw [phase]
      nofun
    rw [deeds_of_proceed? stepped (.nothing rfl rfl) rfl goesOn]
    simp only [called, demand, phase]
    exact .rest
  | @lateClosure channel resumeAt arrival closure phase =>
    rw [deeds_of_proceed? stepped (Tells.closed c channel closure) (Alike.closed ..).stopSignal
      (closed_phase_ne_idle _ _ _), closed_phase]
    simp only [called, demand, phase]
    exact .close rfl
  | unexplained phase =>
    rw [deeds_of_proceed? stepped (.streamEnded ..) (Alike.streamEnded ..).stopSignal
      (streamEnded_phase_ne_idle _ _ _), streamEnded_phase]
    simp only [called, demand, phase]
    exact .endStream rfl
  | outlasted phase due =>
    rw [deeds_of_proceed? stepped (.streamEnded ..) (Alike.streamEnded ..).stopSignal
      (streamEnded_phase_ne_idle _ _ _), streamEnded_phase]
    simp only [called, demand, phase]
    exact .endStream rfl
  | @restore channel ending result phase =>
    have goesOn : (c.restored channel ending result).phase ≠ .idle := by
      rw [restored_phase]
      nofun
    have restores : c.called (.proceed now (.done result)) =
        Deed.restoring c.pool channel result := by
      cases limit : c.pool.prefetch? <;> simp [called, demand, phase, limit, Deed.restoring_eq]
    rw [deeds_of_proceed? stepped (.restored ..) (Alike.restored ..).stopSignal goesOn,
      List.append_nil, restores, restored_phase, phase]
    exact .restore
  | @release channel ending result phase =>
    rw [deeds_of_proceed? stepped (.nothing rfl rfl) rfl (released_phase_ne_idle _ _ _ _)]
    simp only [called, demand, phase]
    cases ending with
    | stopped => exact .releaseLast
    | closed => exact .release rfl rfl (.inl rfl)
    | ended resumeAt => exact .release rfl rfl (.inr rfl)
    | refused => exact .release rfl rfl (.inr rfl)
  | resume phase due =>
    rw [deeds_of_proceed? stepped (.nothing rfl rfl) rfl nofun]
    simp only [called, demand, phase]
    exact .resume
  | drain phase =>
    unfold Consumer.drain at stepped ⊢
    split at stepped
    · next hurried =>
      rw [if_pos hurried, deeds_of_proceed? stepped (.nothing rfl rfl) rfl nofun]
      simp only [called, demand, phase]
      exact .hurry
    · next patient =>
      rw [if_neg patient, deeds_of_proceed? stepped ((Tells.log c rfl).congr rfl rfl) rfl nofun]
      simp only [called, demand, phase]
      exact .wait
  | empty phase none =>
    rw [deeds_of_proceed? stepped (.nothing rfl rfl) rfl nofun]
    simp only [called, demand, phase]
    exact .empty
  | @park immediate _ phase =>
    have tells : Tells c (c.park immediate) [] := (Tells.log c rfl).congr rfl rfl
    have signal : (c.park immediate).stopSignal = c.stopSignal := rfl
    have idle : (c.park immediate).phase = .idle := rfl
    have does : c.deeds (.proceed now answer) = [.finish] := by
      simp [deeds, step?, stepped, launched, obeys, ended, called, demand, phase, tells.told_eq,
        signal, idle]
    rw [does, phase]
    exact .park

/-! ## Events -/

/-- Neither notes nor errors are added that others learn from, but some may go. -/
private theorem told_eq_nil {notes : List Note} (noted : c'.notes = c.notes ++ notes)
    (untold : ∀ n ∈ notes, n.deed? = none)
    (fewer : c'.errors.items.length ≤ c.errors.items.length) : c.told c' = [] := by
  rw [told, noted, List.drop_left, List.drop_eq_nil_of_le fewer,
    List.filterMap_eq_nil_iff.mpr untold]
  rfl

theorem Hop.told {number : Nat} (hop : Hop c number c') : c.told c' = [] := by
  have arrives (messages : Queue (Message β)) : c.told (c.arrived number messages) = [] := by
    let arrived := c.arrived number messages
    have noted : arrived.notes =
        c.notes ++ [.meter .messageEnqueued, .meter (.inFlight arrived.inFlight)] := by
      rw [← List.singleton_append, ← List.append_assoc]
      rfl
    exact told_eq_nil noted (by simp [Note.deed?]) (Nat.le_refl _)
  cases hop with
  | fill found granted => exact arrives _
  | push found notGranted notWaiting room => exact arrives _
  | await found notGranted notWaiting full =>
    exact told_eq_nil (List.append_nil _).symm nofun (Nat.le_refl _)

/-- Calls from outside do nothing but launch a loop. -/
private theorem deeds_act {a : Act} (stepped : c.step? (.act a) = some c')
    (untold : c.told c' = []) :
    c.deeds (.act a) = if launched ⟨c, .act a, c'⟩ then [.launch] else [] := by
  simp [deeds, stepped, called, obeys, ended, untold]

theorem deeds_use (c : Consumer β) (side : Side) (u : Queue.Use) :
    c.deeds (.act (.use side u)) = [] := by
  have unchanged : c.notes = c.notes ++ [] := (List.append_nil _).symm
  refine deeds_act rfl ?_
  cases side with
  | messages =>
    rw [perform_use_messages]
    exact told_eq_nil unchanged nofun (Nat.le_refl _)
  | errors =>
    rw [perform_use_errors]
    exact told_eq_nil unchanged nofun (c.errors.items_suffix_use u).length_le

/-- Calls from outside add log entries from which others learn nothing, and put nothing on the
queue of errors. -/
theorem Orderly.logs {a : Act} (orderly : c.Orderly) (stepped : c.step? (.act a) = some c') :
    ∃ entries : List LogEntry, c'.notes = c.notes ++ entries.map .log ∧
      (∀ entry ∈ entries, (Note.log entry).deed? = none) ∧
      c'.errors.items <:+ c.errors.items := by
  cases orderly.happens stepped with
  | start off => exact ⟨[_], rfl, by simp [Note.deed?], c.errors.items_suffix_use .flush⟩
  | stop on =>
    refine ⟨[_], rfl, ?_, List.suffix_rfl⟩
    cases c.stopSignal <;> simp [Note.deed?]
  | @useErrors u => exact ⟨[], (List.append_nil _).symm, nofun, c.errors.items_suffix_use u⟩
  | _ => exact ⟨[], (List.append_nil _).symm, nofun, List.suffix_rfl⟩

theorem Orderly.told_act {a : Act} (orderly : c.Orderly) (stepped : c.step? (.act a) = some c') :
    c.told c' = [] := by
  obtain ⟨entries, noted, untold, fewer⟩ := orderly.logs stepped
  exact told_eq_nil noted (by simpa using untold) fewer.length_le

theorem Orderly.deeds_act_of_started (orderly : c.Orderly) (on : c.started = true) (a : Act) :
    c.deeds (.act a) = [] := by
  rw [deeds_act rfl (orderly.told_act rfl)]
  cases a with
  | start =>
    rw [launched, start_of_started on]
    rfl
  | _ => rfl

/-- A dispatched delivery that goes on does nothing that others see. -/
theorem deeds_forward (c : Consumer β) (number : Nat) : c.deeds (.forward number) = [] := by
  cases stepped : c.step? (.forward number) with
  | none => simp [deeds, stepped]
  | some next =>
    have hop := Hop.of_forward? stepped
    simp [deeds, stepped, launched, called, obeys, ended, hop.told]

/-- Whatever happens to a consumer, its loop moves from one phase to the next. -/
theorem Orderly.moves {e : Event β} (orderly : c.Orderly) (stepped : c.step? e = some c') :
    Moves c.settings c.pool c.phase (c.deeds e) c'.phase := by
  cases e with
  | act a =>
    rw [deeds_act stepped (orderly.told_act stepped)]
    cases orderly.happens stepped with
    | startRefused on =>
      rw [launched, start_of_started on]
      exact .rest
    | start off =>
      have idle : c.phase = .idle := by simpa [off] using orderly.started_eq
      rw [launched, start_of_parked off (orderly.parked_of_stopped off), idle]
      exact .launch
    | _ => exact .rest
  | proceed now answer => exact (Advance.of_proceed? stepped).moves
  | forward number =>
    rw [deeds_forward, (Hop.of_forward? stepped).phase]
    exact .rest

private theorem Turn.pool {taken : List (Channel × Delivery β)} (turn : Turn c taken c') :
    c'.pool = c.pool := by
  cases turn with
  | works before after alike => exact alike.pool
  | receives before silent => dsimp only [receive, meter, log]
  | receivesLast before signal => dsimp only [takeStop, receive, meter, log]
  | obeys before signal after notParking alike => exact alike.pool
  | leaves before after alike hurried emptied => exact alike.pool
  | parks phase => rfl

theorem Orderly.pool {e : Event β} (orderly : c.Orderly) (stepped : c.step? e = some c') :
    c'.pool = c.pool := by
  cases orderly.happens stepped with
  | proceed advance => exact advance.turn.pool
  | forward hop => cases hop <;> rfl
  | _ => rfl

end Consumer

end Intake
