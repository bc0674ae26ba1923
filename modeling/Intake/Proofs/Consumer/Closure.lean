import Intake.Proofs.Consumer.Leases
import Intake.Proofs.Consumer.Marks

/-! # Closures

A loop that receives looks at the feed of closures first. What it does with a closure does not
depend on what else is ready: it reports and counts it, and then gives the channel back, whatever
happens meanwhile.
-/

namespace Intake

theorem Feed.glance_of_items {α : Type} {feed : Feed α} {a : α} {rest : List α}
    (items : feed.items = a :: rest) : feed.glance = .item a := by
  rw [glance, items]

/-- The channel on which the loop may still receive. -/
def Phase.attends? : Phase → Option Channel
  | .limiting channel | .opening channel | .streaming channel _ | .lingering channel _ =>
    some channel
  | _ => none

theorem listening?_of_attends? {phase : Phase} {channel : Channel}
    (attends : phase.attends? = some channel) : phase.listening? = some channel := by
  cases phase <;> first | exact attends | cases attends

private theorem attends?_of_unleased {phase : Phase} (unleased : phase.unleased = true) :
    phase.attends? = none := by
  cases phase <;> first | rfl | cases unleased

private theorem attends?_parted (pool : PoolSettings) (channel : Channel) (ending : Ending) :
    (Phase.parted pool channel ending).attends? = none := by
  unfold Phase.parted
  split <;> rfl

theorem attends?_begun (settings : ConsumerSettings) (channel : Channel) :
    (Phase.begun settings channel).attends? = some channel := by
  unfold Phase.begun
  split <;> rfl

private theorem listening?_parted (pool : PoolSettings) (channel : Channel) (ending : Ending) :
    (Phase.parted pool channel ending).listening? = some channel := by
  unfold Phase.parted
  split <;> rfl

namespace Consumer

variable {β : Type} {c c' c₀ : Consumer β} {channel : Channel} {closure : Closure}
  {settings : ConsumerSettings} {pool : PoolSettings} {phase phase' : Phase} {ds ds' : List Deed}
  {e : Event β} {now : Nat} {answer : Answer β}

/-! ## The step that sees the closure -/

private theorem choose_closure (c : Consumer β) (closure : Closure)
    (arrival : Glance (Delivery β)) :
    c.choose true (.item closure) arrival = .closure closure := rfl

private theorem closures_closed (c : Consumer β) (channel : Channel) (closure : Closure) :
    (c.closed channel closure).metered.closures = c.metered.closures + 1 := by
  rw [Readings.closures_eq, Marks.closed, List.count_append, Readings.closures_eq]
  rfl

/-- A closure that is first on the feed when a streaming loop goes on is reported and counted by
that step, whatever else is ready; the step takes neither a delivery nor a stop signal. -/
theorem closure_seen {feed : Feed Closure} {rest : List Closure}
    (phase : c.phase = .streaming channel true) (items : feed.items = closure :: rest)
    (now : Nat) (arrival : Glance (Delivery β)) :
    ∃ c', c.step? (.proceed now (.seen feed.glance arrival)) = some c' ∧
      c.takes (.seen feed.glance arrival) = .notice ∧
      c.taken (.proceed now (.seen feed.glance arrival)) = [] ∧
      c.deeds (.proceed now (.seen feed.glance arrival)) =
        [.countClosure, .report (.channelClosed closure)] ∧
      c'.phase = .parted c.pool channel .closed ∧ c'.dispatches = c.dispatches ∧
      c'.stopSignal = c.stopSignal ∧ c'.metered.closures = c.metered.closures + 1 := by
  have seen := Feed.glance_of_items items
  have takes : c.takes (.seen feed.glance arrival) = .notice := by
    simp only [Consumer.takes, phase, seen, choose_closure]
  have advance : Advance c now (.seen feed.glance arrival)
      (c.unreserve.closed channel closure) := by
    rw [seen]
    exact .closure phase (choose_closure ..)
  have alike : Alike c (c.unreserve.closed channel closure) :=
    (Alike.unreserve c).trans (.closed ..)
  refine ⟨c.unreserve.closed channel closure, advance.proceed?_eq_some, takes, ?_, ?_, ?_, ?_,
    alike.stopSignal, ?_⟩
  · exact taken_eq_nil (by simp [takes])
  · rw [deeds_of_proceed? advance.proceed?_eq_some (Tells.closed c.unreserve channel closure)
      alike.stopSignal (closed_phase_ne_idle _ _ _)]
    simp only [called, demand, phase]
    rfl
  · exact closed_phase ..
  · exact congrArg Load.dispatches alike.load
  · exact closures_closed ..

/-! ## What follows -/

/-- From a closure to the release of the channel. -/
def partingDeeds (pool : PoolSettings) (channel : Channel)
    (restored : Except ChannelFault Unit) : List Deed :=
  Deed.restoring pool channel restored ++ [.release channel true]

/-- What a loop has done since it saw a closure, and in how many steps, when it comes to a phase. -/
inductive SinceClosure (pool : PoolSettings) (channel : Channel) : Phase → Nat → List Deed → Prop
  | restoring : SinceClosure pool channel (.restoring channel .closed) 0 []
  | releasing {steps : Nat} {restored : Except ChannelFault Unit} (few : steps ≤ 1) :
      SinceClosure pool channel (.releasing channel .closed) steps
        (Deed.restoring pool channel restored)
  | released {phase : Phase} {steps : Nat} {restored : Except ChannelFault Unit}
      {later : List Deed} :
      SinceClosure pool channel phase steps (partingDeeds pool channel restored ++ later)

/-- The event is a step of the loop. -/
def Event.ofLoop : Event β → Bool
  | .proceed _ _ => true
  | .act _ | .forward _ => false

/-- A channel that closed is given back, in one step or two. -/
def Parting (channel : Channel) (phase : Phase) : Prop :=
  phase = .restoring channel .closed ∨ phase = .releasing channel .closed

/-- Nothing holds the loop up until the channel is given back. -/
theorem Parting.proceeds (parting : Parting channel c.phase) (now : Nat)
    (result : Except ChannelFault Unit) :
    ∃ next, c.step? (.proceed now (.done result)) = some next := by
  obtain phase | phase := parting
  · exact ⟨_, Advance.proceed?_eq_some (.restore phase)⟩
  · exact ⟨_, Advance.proceed?_eq_some (.release phase)⟩

private theorem Parting.phase_ne (parting : Parting channel c.phase) (loop : e.ofLoop = true)
    (stepped : c.step? e = some c') : c'.phase ≠ c.phase := by
  cases e with
  | proceed now answer =>
    obtain phase | phase := parting <;>
      cases answer <;> simp only [step?, proceed?, phase, Option.some.injEq] at stepped
    all_goals cases stepped
    · rw [phase, restored_phase]
      simp
    · rw [phase, released]
      simp
  | _ => cases loop

namespace SinceClosure

private theorem seen (pool : PoolSettings) (channel : Channel) :
    SinceClosure pool channel (.parted pool channel .closed) 0 [] := by
  unfold Phase.parted
  cases limit : pool.prefetch? with
  | none =>
    have nothing : Deed.restoring pool channel (.ok ()) = [] := by simp [Deed.restoring_eq, limit]
    rw [← nothing]
    exact .releasing (Nat.zero_le 1)
  | some prefetch => exact .restoring

/-- A step of the loop leads on; others may leave the loop where it is. -/
theorem moves {steps more : Nat} (since : SinceClosure pool channel phase steps ds)
    (moves : Moves settings pool phase ds' phase') (few : more ≤ 1)
    (leads : Parting channel phase → more = 1 → phase' ≠ phase) :
    SinceClosure pool channel phase' (steps + more) (ds ++ ds') := by
  cases since with
  | restoring =>
    cases moves with
    | rest =>
      have idle : more ≠ 1 := fun one => leads (.inl rfl) one rfl
      have none : more = 0 := by omega
      subst none
      exact .restoring
    | close receiving => cases receiving
    | endStream receiving => cases receiving
    | restore => exact .releasing (by omega)
  | @releasing _ restored before =>
    cases moves with
    | rest =>
      have idle : more ≠ 1 := fun one => leads (.inr rfl) one rfl
      rw [List.append_nil]
      exact .releasing (by omega)
    | close receiving => cases receiving
    | endStream receiving => cases receiving
    | release errored unleased listens =>
      have done : SinceClosure pool channel phase' (steps + more)
          (partingDeeds pool channel restored ++ []) := .released
      rw [List.append_nil] at done
      exact done
  | released =>
    rw [List.append_assoc]
    exact .released

/-- The second step at the latest gives the channel back, and nothing else is done before. -/
theorem exists_parting {steps : Nat} (since : SinceClosure pool channel phase steps ds) :
    ∃ restored, partingDeeds pool channel restored <+: ds ∨
      ds <+: partingDeeds pool channel restored ∧ steps < 2 ∧ Parting channel phase := by
  cases since with
  | restoring => exact ⟨.ok (), .inr ⟨List.nil_prefix, Nat.zero_lt_two, .inl rfl⟩⟩
  | @releasing _ restored few =>
    exact ⟨restored, .inr ⟨List.prefix_append _ _, Nat.lt_succ_of_le few, .inr rfl⟩⟩
  | @released _ _ restored later => exact ⟨restored, .inl (List.prefix_append _ _)⟩

theorem after? {events : List (Event β)} (orderly : c₀.Orderly)
    (phase : c₀.phase = .parted c₀.pool channel .closed)
    (ran : Replay.after? Consumer.step? c₀ events = some c) :
    SinceClosure c₀.pool channel c.phase (events.countP Event.ofLoop)
      (Replay.gather Consumer.step? Consumer.deeds c₀ events) := by
  have all := orderly.induction
    (P := fun events c => c.pool = c₀.pool ∧
      SinceClosure c₀.pool channel c.phase (events.countP Event.ofLoop)
        (Replay.gather Consumer.step? Consumer.deeds c₀ events)) ?_ ?_ ran
  · exact all.2
  · rw [phase]
    exact ⟨rfl, .seen c₀.pool channel⟩
  · intro events middle event next orderly' before earlier stepped
    obtain ⟨pool, since⟩ := earlier
    have moves := orderly'.moves stepped
    rw [pool] at moves
    rw [Replay.gather_concat Consumer.deeds before stepped, List.countP_append,
      List.countP_singleton]
    refine ⟨(orderly'.pool stepped).trans pool, since.moves moves (by split <;> omega) ?_⟩
    intro parting one
    exact parting.phase_ne (by simpa using one) stepped

end SinceClosure

/-! ## Watching for closures -/

/-- A loop comes to listen to a channel by a lease only. -/
theorem listening_of_moves {channel : Channel} (moves : Moves settings pool phase ds phase')
    (listens : phase'.listening? = some channel) :
    phase.listening? = some channel ∨ phase = .acquiring := by
  cases moves with
  | lease => exact .inr rfl
  | close receiving =>
    rw [listening?_parted] at listens
    exact .inl ((listening?_of_receiving? receiving).trans listens)
  | endStream receiving =>
    rw [listening?_parted] at listens
    exact .inl ((listening?_of_receiving? receiving).trans listens)
  | release errored unleased keeps =>
    left
    obtain none | same := keeps
    · cases none.symm.trans listens
    · exact same.symm.trans listens
  | _ => first | exact .inl listens | cases listens

theorem attends_of_moves {channel : Channel} (moves : Moves settings pool phase ds phase')
    (attends : phase'.attends? = some channel) :
    phase.attends? = some channel ∨ phase = .acquiring := by
  cases moves with
  | lease => exact .inr rfl
  | close receiving =>
    rw [attends?_parted] at attends
    cases attends
  | endStream receiving =>
    rw [attends?_parted] at attends
    cases attends
  | release errored unleased keeps =>
    rw [attends?_of_unleased unleased] at attends
    cases attends
  | _ => first | exact .inl attends | cases attends

/-- A loop comes to receive on a channel where it was about to. -/
theorem receiving_of_moves {channel : Channel} (moves : Moves settings pool phase ds phase')
    (receives : phase'.receiving? = some channel) :
    phase.receiving? = some channel ∨ phase = .opening channel := by
  cases moves with
  | subscribe =>
    cases receives
    exact .inr rfl
  | lease =>
    unfold Phase.begun at receives
    split at receives <;> cases receives
  | close receiving =>
    unfold Phase.parted at receives
    split at receives <;> cases receives
  | endStream receiving =>
    unfold Phase.parted at receives
    split at receives <;> cases receives
  | release errored unleased keeps =>
    rw [UnderLease.receiving?_of_unleased unleased] at receives
    cases receives
  | _ => first | exact .inl receives | cases receives

/-- The source lets the loop receive. -/
theorem answer_of_receiving {channel other : Channel} (phase : c.phase = .opening channel)
    (proceeded : c.proceed? now answer = some c') (receives : c'.phase.receiving? = some other) :
    answer = .done (.ok ()) := by
  cases answer with
  | done result =>
    simp only [proceed?, phase, Option.some.injEq] at proceeded
    subst proceeded
    cases result with
    | ok => rfl
    | error fault => cases receives
  | _ => simp [proceed?, phase] at proceeded

/-- A loop stops watching for closures while it receives only. -/
theorem streaming_of_moves {channel : Channel} (moves : Moves settings pool phase ds phase')
    (unwatched : phase' = .streaming channel false) :
    ∃ watching, phase = .streaming channel watching := by
  cases moves with
  | rest => exact ⟨false, unwatched⟩
  | @exhaust _ watching =>
    cases unwatched
    exact ⟨watching, rfl⟩
  | lease =>
    unfold Phase.begun at unwatched
    split at unwatched <;> cases unwatched
  | close receiving =>
    unfold Phase.parted at unwatched
    split at unwatched <;> cases unwatched
  | endStream receiving =>
    unfold Phase.parted at unwatched
    split at unwatched <;> cases unwatched
  | release errored unleased keeps =>
    rw [unwatched] at unleased
    cases unleased
  | _ => cases unwatched

/-- A loop that takes a closure does not receive any more. -/
theorem attends_of_notice (proceeded : c.proceed? now answer = some c')
    (takes : c.takes answer = .notice) : c'.phase.attends? = none := by
  unfold Consumer.takes at takes
  split at takes
  · next channel watching notice arrival phase =>
    cases chosen : c.choose watching notice arrival with
    | closure closure =>
      simp only [proceed?, phase, stream?, chosen, Option.some.injEq] at proceeded
      rw [← proceeded, closed_phase, attends?_parted]
    | _ => simp [chosen] at takes
  · next phase =>
    simp only [proceed?, phase, linger?, Option.some.injEq] at proceeded
    rw [← proceeded, closed_phase, attends?_parted]
  · cases takes

/-- The feed of closures is exhausted when it is over. -/
private theorem over_of_exhausted {watching : Bool} {notice : Glance Closure}
    {arrival : Glance (Delivery β)} (chosen : c.choose watching notice arrival = .exhausted) :
    notice = .over := by
  simp only [choose] at chosen
  split at chosen
  · cases chosen
  · rfl
  · split at chosen
    · cases chosen
    · cases chosen
    · split at chosen <;> cases chosen

/-- A loop keeps watching for closures as long as the feed is not over. -/
theorem watching_of_proceed? {channel : Channel} {notice : Glance Closure}
    {arrival : Glance (Delivery β)} (phase : c.phase = .streaming channel true)
    (notOver : notice ≠ .over) (proceeded : c.proceed? now (.seen notice arrival) = some c')
    (other : Channel) : c'.phase ≠ .streaming other false := by
  simp only [proceed?, phase, stream?] at proceeded
  cases chosen : c.choose true notice arrival with
  | closure closure =>
    simp only [chosen, Option.some.injEq] at proceeded
    rw [← proceeded, closed_phase, Phase.parted]
    split <;> simp
  | exhausted => exact absurd (over_of_exhausted chosen) notOver
  | delivery d =>
    simp only [chosen, Option.some.injEq] at proceeded
    rw [← proceeded]
    split
    · simp [takeStop]
    · rw [receive_phase, phase]
      simp
  | streamEnd =>
    simp only [chosen, if_true, Option.some.injEq] at proceeded
    rw [← proceeded]
    simp
  | stop =>
    simp only [chosen, Option.some.injEq] at proceeded
    rw [← proceeded]
    simp [takeStop]
  | wait =>
    simp only [chosen, Option.ite_none_right_eq_some, Option.some.injEq] at proceeded
    rw [← proceeded.2]
    simp

/-- Whoever uses a consumer does not move its loop, but may launch it. -/
theorem phase_of_step? {e : Event β} (orderly : c.Orderly) (stepped : c.step? e = some c')
    (outside : ∀ now answer, e ≠ .proceed now answer) :
    c'.phase = c.phase ∨ c.phase = .idle ∧ c'.phase = .checking := by
  cases orderly.happens stepped with
  | start off => exact .inr ⟨by simpa [off] using orderly.started_eq, rfl⟩
  | proceed advance => exact absurd rfl (outside _ _)
  | forward hop => exact .inl hop.phase
  | _ => exact .inl rfl

end Consumer

end Intake
