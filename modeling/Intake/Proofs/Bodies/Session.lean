import Intake.Proofs.Bodies.World
import Intake.Session.Step

/-! # Sessions with other bodies

A session whose bodies are replaced takes every step as it did before, with the replaced bodies in
what is shown: every step commutes with `Session.map`.
-/

namespace Intake

variable {β γ : Type}

def Step.map (f : β → γ) : Step β → Step γ
  | .move m => .move m
  | .publish bodies => .publish (bodies.map f)
  | .push id d => .push id (d.map f)

namespace Session

variable (f : β → γ) (s : Session β)

@[simps] def map : Session γ :=
  { s with world := s.world.map f, held := s.held.map (Message.map f) }

theorem map_create (source : Source β) (pool : PoolSettings) (consumers : List ConsumerSettings) :
    create (source.map f) pool consumers = (create source pool consumers).map (Session.map f) := by
  have created : consumers.mapM (fun settings => Consumer.create (β := γ) settings pool) =
      (consumers.mapM fun settings => Consumer.create settings pool).map
        (List.map (Consumer.map f)) := by
    induction consumers with
    | nil => rfl
    | cons settings rest ih =>
      rw [List.mapM_cons, List.mapM_cons, Consumer.map_create f, ih]
      cases Consumer.create (β := β) settings pool with
      | error fault => rfl
      | ok c =>
        cases rest.mapM fun settings => Consumer.create (β := β) settings pool with
        | error fault => rfl
        | ok others => rfl
  unfold create
  rw [created]
  cases consumers.mapM fun settings => Consumer.create (β := β) settings pool with
  | error fault => rfl
  | ok made =>
    have world := World.map_ofSource f source made
    exact congrArg (fun world : World γ => Except.ok (⟨world, 0, [], []⟩ : Session γ)) world

private theorem map_consumer? : (s.map f).consumer? = s.consumer?.map (Consumer.map f) :=
  s.world.map_consumer f s.current

theorem map_snapshot : (s.map f).snapshot = s.snapshot := by
  have shown : (s.map f).consumer?.map (fun c =>
      (c.started, c.stopRequested, c.inFlight, c.messages.length, c.errors.length)) =
      s.consumer?.map fun c =>
        (c.started, c.stopRequested, c.inFlight, c.messages.length, c.errors.length) := by
    rw [map_consumer?, Option.map_map]
    apply Option.map_congr
    intro c _
    simp only [Function.comp_apply, Consumer.map_messages, Queue.map_length]
    rfl
  unfold snapshot
  rw [shown, map_world, World.map_source]
  cases s.world.source with
  | broker b => simp only [Source.map, Broker.map, List.length_map, World.map]
  | script script => rfl

theorem map_collectLog : (s.map f).collectLog = s.collectLog.map (·) (Session.map f) := rfl

/-! ## Parts of steps -/

private theorem map_setWorld (w : World β) :
    (s.map f).setWorld (w.map f) = (s.setWorld w).map f := rfl

private theorem map_setSource (source : Source β) :
    (s.map f).setSource (source.map f) = (s.setSource source).map f := rfl

private theorem map_setConsumer (c : Consumer β) :
    (s.map f).setConsumer (c.map f) = (s.setConsumer c).map f :=
  congrArg (s.map f).setWorld (s.world.map_setConsumer f s.current c)

private theorem map_hold (items : List (Item β)) :
    (s.map f).hold (items.map (Item.map f)) = (s.hold items).map f := by
  unfold hold
  refine congrArg (fun held => { s.map f with held }) ?_
  dsimp only
  rw [List.filterMap_map, List.map_append, List.map_filterMap]
  refine congrArg (s.held.map (Message.map f) ++ ·) (List.filterMap_congr fun item _ => ?_)
  cases item <;> rfl

private theorem map_reply (r : Reply β) :
    (s.map f).reply (r.map f) = (s.reply r).map (Reply.map f) (Session.map f) :=
  congrArg (fun w => (r.map f, { s.map f with world := w })) (s.world.map_wake f)

private theorem map_answer (p : Plain) :
    (s.map f).answer p = (s.answer p).map (Reply.map f) (Session.map f) :=
  map_reply f s (.plain p)

private theorem map_withConsumer {act : Consumer β → Reply β × Session β}
    {act' : Consumer γ → Reply γ × Session γ}
    (same : ∀ c, act' (c.map f) = (act c).map (Reply.map f) (Session.map f)) :
    (s.map f).withConsumer act' = (s.withConsumer act).map (Reply.map f) (Session.map f) := by
  unfold withConsumer
  rw [map_consumer?]
  cases s.consumer? with
  | none => exact map_answer f s _
  | some c => exact same c

private theorem map_onConsumer {act : Consumer β → Plain × Consumer β}
    {act' : Consumer γ → Plain × Consumer γ}
    (same : ∀ c, act' (c.map f) = (act c).map (·) (Consumer.map f)) :
    (s.map f).onConsumer act' = (s.onConsumer act).map (Reply.map f) (Session.map f) := by
  unfold onConsumer
  apply map_withConsumer
  intro c
  rw [same]
  dsimp only [Prod.map]
  rw [map_setConsumer, map_answer]
  rfl

private theorem map_onHost (host : Nat) {act : Channel → Source β → Reply β × Source β}
    {act' : Channel → Source γ → Reply γ × Source γ}
    (same : ∀ channel source,
      act' channel (source.map f) = (act channel source).map (Reply.map f) (Source.map f)) :
    (s.map f).onHost host act' = (s.onHost host act).map (Reply.map f) (Session.map f) := by
  unfold onHost
  rw [map_hosts]
  cases s.hosts[host]? with
  | none => exact map_answer f s _
  | some channel =>
    dsimp only
    rw [map_world, World.map_source, same]
    dsimp only [Prod.map]
    rw [map_setSource, map_reply]
    rfl

private theorem map_onBroker {act : Broker β → Plain × Broker β}
    {act' : Broker γ → Plain × Broker γ}
    (same : ∀ b, act' (b.map f) = (act b).map (·) (Broker.map f)) :
    (s.map f).onBroker act' = (s.onBroker act).map (Reply.map f) (Session.map f) := by
  unfold onBroker
  rw [map_world, World.map_source]
  cases s.world.source with
  | broker b =>
    dsimp only [Source.map]
    rw [same]
    exact map_answer f (s.setSource (.broker (act b).2)) (act b).1
  | script script => exact map_answer f s _

private theorem map_onScript {act : Script β → Plain × Script β}
    {act' : Script γ → Plain × Script γ}
    (same : ∀ script, act' (script.map f) = (act script).map (·) (Script.map f)) :
    (s.map f).onScript act' = (s.onScript act).map (Reply.map f) (Session.map f) := by
  unfold onScript
  rw [map_world, World.map_source]
  cases s.world.source with
  | broker b => exact map_answer f s _
  | script script =>
    dsimp only [Source.map]
    rw [same]
    exact map_answer f (s.setSource (.script (act script).2)) (act script).1

private theorem map_waitFor (ms : Nat) {holds : World β → Bool} {holds' : World γ → Bool}
    (same : ∀ w : World β, holds' (w.map f) = holds w) :
    (s.map f).waitFor ms holds' = (s.waitFor ms holds).map (Reply.map f) (Session.map f) := by
  unfold waitFor
  rw [map_world, World.map_waitFor f s.world same]
  exact map_answer f (s.setWorld (s.world.waitFor ms holds).2) _

/-! ## Output queues -/

private theorem map_take (side : Side) :
    (s.map f).take side = (s.take side).map (Reply.map f) (Session.map f) := by
  unfold take
  apply map_withConsumer
  intro c
  rw [Consumer.map_take?]
  cases c.take? side with
  | none => exact map_answer f s _
  | some got =>
    have held := map_hold f (s.setConsumer got.2) [got.1]
    rw [← map_setConsumer] at held
    dsimp only [Option.map_some, Prod.map]
    rw [List.map_singleton] at held
    rw [held]
    exact map_reply f _ (.item got.1)

private theorem map_takeAll (side : Side) :
    (s.map f).takeAll side = (s.takeAll side).map (Reply.map f) (Session.map f) := by
  unfold takeAll
  apply map_withConsumer
  intro c
  rw [Consumer.map_queued, Consumer.map_takeAll]
  dsimp only [Prod.map]
  rw [map_setConsumer, map_hold]
  exact map_reply f _ (.items _)

private theorem map_waitItems (side : Side) (n ms : Nat) :
    (s.map f).waitItems side n ms = (s.waitItems side n ms).map (Reply.map f) (Session.map f) := by
  unfold waitItems
  apply map_withConsumer
  intro c
  rw [map_world, map_current, World.map_waitItems]
  generalize s.world.waitItems s.current side n ms = got
  obtain ⟨items, w⟩ := got
  dsimp only [Prod.map]
  rw [map_setWorld]
  cases items with
  | none => exact map_answer f _ _
  | some items =>
    dsimp only [Option.map_some]
    rw [map_hold]
    exact map_reply f _ (.items items)

private theorem map_wait (side : Side) :
    (s.map f).wait side = (s.wait side).map (Reply.map f) (Session.map f) := by
  unfold wait
  apply map_withConsumer
  intro c
  let reader : Reader β := ⟨s.current, side, false, false, none, false⟩
  have readers : (s.map f).world.readers ++ [reader.map f] =
      (s.world.readers ++ [reader]).map (Reader.map f) := by
    rw [List.map_append]
    rfl
  have count : (s.map f).world.readers.length = s.world.readers.length := List.length_map _
  have added : (s.map f).setWorld { (s.map f).world with
      readers := (s.map f).world.readers ++ [reader.map f] } =
      (s.setWorld { s.world with readers := s.world.readers ++ [reader] }).map f :=
    congrArg (fun readers => (s.map f).setWorld { (s.map f).world with readers }) readers
  rw [count]
  exact (congrArg (fun s : Session γ => s.answer _) added).trans (map_answer f _ _)

private theorem map_waited (k : Nat) :
    (s.map f).waited k = (s.waited k).map (Reply.map f) (Session.map f) := by
  unfold waited
  rw [map_world, World.map_readers, List.getElem?_map]
  cases s.world.readers[k]? with
  | none => exact map_answer f s _
  | some r =>
    have handed : (s.map f).setWorld ((s.world.map f).setReader k
        { r.map f with collected := true }) =
        (s.setWorld (s.world.setReader k { r with collected := true })).map f :=
      congrArg (s.map f).setWorld (World.map_setReader f s.world k { r with collected := true })
    dsimp only [Option.map_some]
    rw [handed, Reader.map_collected, Reader.map_outcome]
    generalize s.setWorld (s.world.setReader k { r with collected := true }) = after
    split
    · exact map_answer f s _
    cases r.outcome with
    | none => exact map_answer f s _
    | some outcome =>
      cases outcome with
      | aborted => exact map_answer f after _
      | got item =>
        have held := map_hold f after [item]
        rw [List.map_singleton] at held
        dsimp only [Option.map_some, Outcome.map]
        rw [held]
        exact map_reply f _ (.item item)

private theorem map_abort (k : Nat) :
    (s.map f).abort k = (s.abort k).map (Reply.map f) (Session.map f) := by
  unfold abort
  rw [map_world, World.map_readers, List.getElem?_map]
  cases s.world.readers[k]? with
  | none => exact map_answer f s _
  | some r =>
    have told : (s.map f).setWorld ((s.world.map f).setReader k { r.map f with aborted := true }) =
        (s.setWorld (s.world.setReader k { r with aborted := true })).map f :=
      congrArg (s.map f).setWorld (World.map_setReader f s.world k { r with aborted := true })
    dsimp only [Option.map_some]
    rw [told, Reader.map_collected]
    split
    · exact map_answer f s _
    · exact map_answer f _ _

/-! ## Channels -/

private theorem map_settleHeld (h : Nat) (tag : Option Nat) (verdict : Verdict) :
    (s.map f).settleHeld h tag verdict =
      (s.settleHeld h tag verdict).map (Reply.map f) (Session.map f) := by
  unfold settleHeld
  rw [map_held, List.getElem?_map]
  cases s.held[h]? with
  | none => exact map_answer f s _
  | some m =>
    dsimp only [Option.map_some]
    rw [map_world, World.map_source, Source.map_settle]
    exact map_answer f (s.setSource (s.world.source.settle m.channel (tag.getD m.tag) verdict).2) _

private theorem map_describe (h : Nat) :
    (s.map f).describe h = (s.describe h).map (Reply.map f) (Session.map f) := by
  unfold describe
  rw [map_held, List.getElem?_map]
  cases s.held[h]? with
  | none => exact map_answer f s _
  | some m => exact map_reply f s (.description m)

private theorem map_direct : (s.map f).direct = s.direct := List.length_map _

private theorem map_leased (result : Except ChannelFault Channel) :
    (s.map f).leased result = (s.leased result).map (Reply.map f) (Session.map f) := by
  cases result with
  | ok channel => exact map_answer f { s with hosts := s.hosts ++ [channel] } _
  | error fault => exact map_answer f s _

/-- The end of a lease that took its time. -/
def leasedLate (s : Session β) (who : Nat) (w : World β) : Reply β × Session β :=
  match w.source.request w.now who with
  | (some result, source) => (s.setWorld { w with source }).leased result
  | (none, _) => (s.setWorld w).answer .nothing

private theorem map_leasedLate (who : Nat) (w : World β) : (s.map f).leasedLate who (w.map f) =
    (s.leasedLate who w).map (Reply.map f) (Session.map f) := by
  unfold leasedLate
  rw [World.map_source, World.map_now, Source.map_request]
  generalize w.source.request w.now who = got
  obtain ⟨_ | result, source⟩ := got
  · exact map_answer f (s.setWorld w) _
  · exact map_leased f (s.setWorld { w with source }) result

private theorem map_lease : (s.map f).lease = s.lease.map (Reply.map f) (Session.map f) := by
  unfold lease
  rw [map_direct, map_world, World.map_source, World.map_now, Source.map_request]
  generalize s.world.source.request s.world.now s.direct = got
  obtain ⟨_ | result, source⟩ := got
  · let due := (source.due? s.direct).getD s.world.now
    let asked : World β := { s.world with source }
    have passed := asked.map_passTo f due
    dsimp only [Prod.map]
    rw [Source.map_due?]
    change (s.map f).leasedLate s.direct ((asked.map f).passTo due) =
      Prod.map _ _ (s.leasedLate s.direct (asked.passTo due))
    rw [passed, map_leasedLate]
  · exact map_leased f (s.setSource source) result

private theorem map_next (host : Nat) :
    (s.map f).next host = (s.next host).map (Reply.map f) (Session.map f) := by
  unfold next
  apply map_onHost
  intro channel source
  have drop (feed : Feed (Delivery β)) : (feed.map (Delivery.map f)).drop = _ := feed.map_drop _
  rw [Source.map_deliveries, source.map_withDeliveries f drop]
  dsimp only
  rw [Feed.map_listening, Feed.map_glance]
  split
  · cases (source.deliveries channel).glance <;> rfl
  · rfl

private theorem map_dropStream (host : Nat) :
    (s.map f).dropStream host = (s.dropStream host).map (Reply.map f) (Session.map f) := by
  unfold dropStream
  apply map_onHost
  intro channel source
  have ignore (feed : Feed (Delivery β)) : (feed.map (Delivery.map f)).ignore = _ :=
    feed.map_ignore _
  rw [Source.map_deliveries, source.map_withDeliveries f ignore]
  rfl

private theorem map_notice (host : Nat) :
    (s.map f).notice host = (s.notice host).map (Reply.map f) (Session.map f) := by
  unfold notice
  apply map_onHost
  intro channel source
  rw [Source.map_notices, Source.map_withNotices]
  cases (source.notices channel).glance <;> rfl

private theorem map_call (host : Nat)
    {act : Channel → Source β → Except ChannelFault Unit × Source β}
    {act' : Channel → Source γ → Except ChannelFault Unit × Source γ}
    (same : ∀ channel source,
      act' channel (source.map f) = (act channel source).map (·) (Source.map f)) :
    (s.map f).call host act' = (s.call host act).map (Reply.map f) (Session.map f) := by
  unfold call
  apply map_onHost
  intro channel source
  rw [same]
  rfl

private theorem map_closeLate (closure : Closure) (ms : Nat) :
    (s.map f).closeLate closure ms =
      (s.closeLate closure ms).map (Reply.map f) (Session.map f) := by
  unfold closeLate
  rw [map_world, World.map_source]
  cases s.world.source with
  | script script => exact map_answer f s _
  | broker b =>
    dsimp only [Source.map]
    rw [Broker.map_cancel]
    generalize b.cancel = got
    obtain ⟨_ | id, b⟩ := got
    · exact map_answer f (s.setSource (.broker b)) _
    · let late : LateClosure := ⟨id, closure, s.world.now + ms, false⟩
      exact map_answer f (s.setWorld { s.world with
        source := .broker b, closures := s.world.closures ++ [late] }) _

/-! ## Steps -/

private theorem map_waitStopped (ms : Nat) :
    (s.map f).waitStopped ms = (s.waitStopped ms).map (Reply.map f) (Session.map f) := by
  unfold waitStopped
  apply map_withConsumer
  intro c
  apply map_waitFor
  intro w
  rw [map_current, World.map_consumer]
  cases w.consumers[s.current]? <;> rfl

private theorem map_waitBroker (ms : Nat) {holds : Broker β → Bool} {holds' : Broker γ → Bool}
    (same : ∀ b, holds' (b.map f) = holds b) : (s.map f).waitBroker ms holds' =
      (s.waitBroker ms holds).map (Reply.map f) (Session.map f) := by
  unfold waitBroker
  rw [map_world, World.map_source]
  cases s.world.source with
  | script script => exact map_answer f s _
  | broker b =>
    apply map_waitFor
    intro w
    rw [World.map_source]
    cases w.source with
    | script script => rfl
    | broker b => exact same b

private theorem map_use (i : Nat) :
    (s.map f).use i = (s.use i).map (Reply.map f) (Session.map f) := by
  let chosen : Session β := { s with current := i }
  have there : (chosen.map f).consumer?.isSome = chosen.consumer?.isSome := by
    rw [map_consumer?, Option.isSome_map]
  change (chosen.map f).answer (if (chosen.map f).consumer?.isSome then _ else _) = _
  rw [there]
  exact map_answer f chosen _

/-- Two starts at once. -/
theorem map_startTwice (c : Consumer β) :
    startTwice (c.map f) = (startTwice c).map (·) (Consumer.map f) := by
  unfold startTwice
  dsimp only
  rw [Consumer.map_start]
  dsimp only [Prod.map]
  rw [Consumer.map_start]
  rfl

private theorem map_account (b : Broker β) (id : Nat) : (b.map f).account id = b.account id := by
  unfold Broker.account
  rw [Broker.map_lane?]
  cases b.lane? id with
  | none => rfl
  | some lane =>
    dsimp only [Option.map_some]
    rw [Lane.map_outstanding, List.map_map]
    rfl

/-- A step that brings no body. -/
theorem map_move (m : Move) : (s.map f).move m = (s.move m).map (Reply.map f) (Session.map f) := by
  cases m with unfold move
  | settle =>
    have settled := congrArg (s.map f).setWorld (s.world.map_settle f)
    exact (congrArg (answer · _) settled).trans (map_answer f (s.setWorld s.world.settle) _)
  | advance ms =>
    have passed := congrArg (s.map f).setWorld (s.world.map_advance f ms)
    exact (congrArg (answer · _) passed).trans (map_answer f (s.setWorld (s.world.advance ms)) _)
  | stopped ms => exact map_waitStopped f s ms
  | waitSubscribers n ms => exact map_waitBroker f s ms fun _ => rfl
  | waitLeases n ms => exact map_waitBroker f s ms fun _ => rfl
  | waitItems side n ms => exact map_waitItems f s side n ms
  | use i => exact map_use f s i
  | start =>
    apply map_onConsumer
    intro c
    rw [Consumer.map_start]
    rfl
  | startTwice => exact map_onConsumer f s (map_startTwice f)
  | stop immediate =>
    apply map_onConsumer
    intro c
    rw [Consumer.map_stop]
    rfl
  | flushStop =>
    apply map_onConsumer
    intro c
    rw [Consumer.map_flushStop]
    rfl
  | flush side =>
    apply map_onConsumer
    intro c
    rw [Consumer.map_flush]
    rfl
  | empty =>
    apply map_onConsumer
    intro c
    rw [Consumer.map_messages, Queue.map_isEmpty]
    rfl
  | metrics => exact map_onConsumer f s fun _ => rfl
  | take side => exact map_take f s side
  | takeAll side => exact map_takeAll f s side
  | wait side => exact map_wait f s side
  | waited k => exact map_waited f s k
  | abort k => exact map_abort f s k
  | settleHeld h tag verdict => exact map_settleHeld f s h tag verdict
  | describe h => exact map_describe f s h
  | lease => exact map_lease f s
  | subscribe host subscription =>
    exact map_call f s host fun channel source => source.map_subscribe f channel subscription
  | next host => exact map_next f s host
  | dropStream host => exact map_dropStream f s host
  | notice host => exact map_notice f s host
  | limit host prefetch forAll =>
    exact map_call f s host fun channel source => source.map_limit f channel prefetch forAll
  | settleTag host tag verdict =>
    exact map_call f s host fun channel source => source.map_settle f channel tag verdict
  | release host errored =>
    apply map_onHost
    intro channel source
    rw [Source.map_release]
    rfl
  | failLeases n => exact map_onBroker f s fun _ => rfl
  | failSubscriptions n => exact map_onBroker f s fun _ => rfl
  | close closure =>
    apply map_onBroker
    intro b
    rw [Broker.map_closeActive]
    rfl
  | closeLate closure ms => exact map_closeLate f s closure ms
  | cancel =>
    apply map_onBroker
    intro b
    rw [Broker.map_cancel]
    rfl
  | closeChannel channel closure =>
    apply map_onBroker
    intro b
    rw [Broker.map_close]
    rfl
  | channelIds =>
    apply map_onBroker
    intro b
    rw [Broker.map_lanes, List.map_map]
    rfl
  | released => exact map_onBroker f s fun _ => rfl
  | channel channel =>
    apply map_onBroker
    intro b
    rw [map_account]
    rfl
  | notify channel closure =>
    apply map_onScript
    intro script
    rw [Script.map_notify]
    rfl
  | endNotices channel =>
    apply map_onScript
    intro script
    rw [Script.map_endNotices]
    rfl
  | endDeliveries channel =>
    apply map_onScript
    intro script
    rw [Script.map_endDeliveries]
    rfl
  | calls => exact map_onScript f s fun _ => rfl

/-- A session whose bodies are replaced takes every step as before. -/
theorem map_step (step : Step β) :
    (s.map f).step (step.map f) = (s.step step).map (Reply.map f) (Session.map f) := by
  cases step with unfold Session.step
  | move m => exact map_move f s m
  | publish bodies =>
    have published (b : Broker β) : (bodies.map f).foldl Broker.publish (b.map f) =
        (bodies.foldl Broker.publish b).map f := by
      induction bodies generalizing b with
      | nil => rfl
      | cons body rest ih =>
        rw [List.map_cons, List.foldl_cons, Broker.map_publish, ih]
        rfl
    exact map_onBroker f s fun b => congrArg (Plain.nothing, ·) (published b)
  | push channel d =>
    apply map_onScript
    intro script
    rw [Script.map_push]
    rfl

end Session

end Intake
