import Intake.Proofs.Bodies.Consumer
import Intake.Session.Schedule
import Mathlib.Data.List.Basic

/-! # Worlds with other bodies

What can go on by itself, and when, does not depend on any body: every step of a task and the whole
schedule commute with `World.map`.
-/

namespace Intake

variable {β γ : Type}

/-! ## Output queues -/

namespace Consumer

variable (f : β → γ) (c : Consumer β)

private theorem map_enter (side : Side) (reader : Nat) :
    (c.map f).enter side reader = (c.enter side reader).map f := by
  cases side with
  | messages =>
    exact congrArg (fun messages => { c.map f with messages }) (c.messages.map_enter _ reader)
  | errors => rfl

private theorem map_quit (side : Side) (reader : Nat) :
    (c.map f).quit side reader = (c.quit side reader).map f := by
  cases side with
  | messages =>
    exact congrArg (fun messages => { c.map f with messages }) (c.messages.map_leave _ reader)
  | errors => rfl

private theorem map_read? (side : Side) (reader : Nat) :
    (c.map f).read? side reader =
      (c.read? side reader).map (Prod.map (Item.map f) (Consumer.map f)) := by
  cases side with
  | messages =>
    have read := c.messages.map_read? (Message.map f) reader
    simp only [read?, map_messages, read, Option.map_map]
    rfl
  | errors =>
    simp only [read?, map_errors, Option.map_map]
    rfl

theorem map_take? (side : Side) :
    (c.map f).take? side = (c.take? side).map (Prod.map (Item.map f) (Consumer.map f)) := by
  cases side with
  | messages =>
    have taken := c.messages.map_take? (Message.map f)
    simp only [take?, map_messages, taken, Option.map_map]
    rfl
  | errors =>
    simp only [take?, map_errors, Option.map_map]
    rfl

theorem map_flush (side : Side) :
    (c.map f).flush side = (c.flush side).map (·) (Consumer.map f) := by
  cases side with
  | messages => exact map_flushMessages f c
  | errors => exact map_flushErrors f c

theorem map_takeAll (side : Side) (n : Nat) :
    (c.map f).takeAll side n =
      (takeAll side n c).map (List.map (Item.map f)) (Consumer.map f) := by
  induction n generalizing c with
  | zero => rfl
  | succ n ih =>
    unfold takeAll
    rw [map_take?]
    cases c.take? side with
    | none => rfl
    | some got =>
      dsimp only [Option.map_some, Prod.map]
      rw [ih]
      rfl

theorem map_queued (side : Side) : (c.map f).queued side = c.queued side := by
  cases side with
  | messages => exact List.length_map _
  | errors => rfl

end Consumer

def Outcome.map (f : β → γ) : Outcome β → Outcome γ
  | .got item => .got (item.map f)
  | .aborted => .aborted

@[simps] def Reader.map (f : β → γ) (r : Reader β) : Reader γ :=
  { r with outcome := r.outcome.map (Outcome.map f) }

namespace World

variable (f : β → γ) (w : World β)

@[simps] def map : World γ := { w with
  source := w.source.map f
  consumers := w.consumers.map (Consumer.map f)
  readers := w.readers.map (Reader.map f) }

theorem map_ofSource (source : Source β) (consumers : List (Consumer β)) :
    ofSource (source.map f) (consumers.map (Consumer.map f)) =
      (ofSource source consumers).map f := by
  simp only [ofSource, map, List.length_map]
  rfl

theorem map_setConsumer (i : Nat) (c : Consumer β) :
    (w.map f).setConsumer i (c.map f) = (w.setConsumer i c).map f := by
  have consumers : (w.consumers.map (Consumer.map f)).set i ({ c with notes := [] }.map f) =
      (w.consumers.set i { c with notes := [] }).map (Consumer.map f) := List.map_set.symm
  exact congrArg (fun consumers => { w.map f with
    consumers
    log := c.noted.reverse ++ w.log
    readings := (c.metered.map (c.labels, ·)).reverse ++ w.readings }) consumers

theorem map_consumer (i : Nat) :
    (w.map f).consumers[i]? = w.consumers[i]?.map (Consumer.map f) := List.getElem?_map

/-! ## The steps of tasks -/

private theorem map_answer (i : Nat) (c : Consumer β) :
    (w.map f).answer i (c.map f) = (w.answer i c).map (Answer.map f) (Source.map f) := by
  unfold answer
  rw [Consumer.map_demand]
  cases c.demand with
  | nothing => rfl
  | lease =>
    dsimp only
    rw [map_source, map_now, Source.map_request]
    rcases w.source.request w.now i with ⟨_ | result, source⟩ <;> rfl
  | limit channel prefetch =>
    dsimp only
    rw [map_source, Source.map_limit]
    rfl
  | subscribe channel =>
    dsimp only
    rw [map_source, Source.map_subscribe]
    rfl
  | look channel =>
    have arrival := (w.source.deliveries channel).map_glance (Delivery.map f)
    dsimp only
    rw [map_source, Source.map_notices, Source.map_deliveries, arrival]
    rfl
  | release channel errored =>
    dsimp only
    rw [map_source, Source.map_release]
    rfl

private theorem map_takeOff (source : Source β) (channel : Option Channel)
    (taken : Consumer.Taken) :
    takeOff (source.map f) channel taken = (takeOff source channel taken).map f := by
  have drop (feed : Feed (Delivery β)) : (feed.map (Delivery.map f)).drop = _ := feed.map_drop _
  unfold takeOff
  cases channel with
  | none => rfl
  | some channel =>
    cases taken with
    | nothing => rfl
    | notice => exact source.map_withNotices f channel Feed.drop
    | arrival => exact source.map_withDeliveries f drop channel

private theorem map_giveUp (source : Source β) (old new : Phase) :
    giveUp (source.map f) old new = (giveUp source old new).map f := by
  have ignore (feed : Feed (Delivery β)) : (feed.map (Delivery.map f)).ignore = _ :=
    feed.map_ignore _
  have deliveries (channel : Channel) : (if new.receiving? = some channel then source.map f
      else (source.map f).withDeliveries channel Feed.ignore) =
      (if new.receiving? = some channel then source
        else source.withDeliveries channel Feed.ignore).map f := by
    rw [source.map_withDeliveries f ignore channel]
    exact (apply_ite (Source.map f) _ _ _).symm
  have notices (source : Source β) (channel : Channel) :
      (if new.listening? = some channel then source.map f
        else (source.map f).withNotices channel Feed.ignore) =
      (if new.listening? = some channel then source
        else source.withNotices channel Feed.ignore).map f := by
    rw [Source.map_withNotices]
    exact (apply_ite (Source.map f) _ _ _).symm
  unfold giveUp
  cases old.receiving? with
  | none =>
    cases old.listening? with
    | none => rfl
    | some listening => exact notices source listening
  | some receiving =>
    dsimp only
    rw [deliveries]
    cases old.listening? with
    | none => rfl
    | some listening => exact notices _ listening

private theorem map_loop? (i : Nat) : (w.map f).loop? i = (w.loop? i).map (World.map f) := by
  unfold loop?
  rw [map_consumer, Option.bind_map]
  cases w.consumers[i]? with
  | none => rfl
  | some c =>
    dsimp only [Option.bind_some, Function.comp_apply]
    rw [map_answer, map_now]
    generalize w.answer i c = got
    obtain ⟨answer, source⟩ := got
    dsimp only [Prod.map]
    rw [Consumer.map_proceed?, Consumer.map_takes, Consumer.map_demand, Consumer.map_phase,
      map_source, Source.map_due?, map_takeOff]
    cases c.proceed? w.now answer with
    | some next =>
      let left : World β := { w with
        source := giveUp (takeOff source c.phase.receiving? (c.takes answer)) c.phase next.phase }
      dsimp only [Option.map_some]
      rw [Consumer.map_phase, map_giveUp]
      exact congrArg some (map_setConsumer f left i next)
    | none =>
      dsimp only [Option.map_none]
      split <;> rfl

private theorem map_dispatch? (i number : Nat) :
    (w.map f).dispatch? i number = (w.dispatch? i number).map (World.map f) := by
  unfold dispatch?
  rw [map_consumer, Option.bind_map]
  cases w.consumers[i]? with
  | none => rfl
  | some c =>
    dsimp only [Option.bind_some, Function.comp_apply]
    rw [Consumer.map_forward?]
    cases c.forward? number with
    | none => rfl
    | some next => exact congrArg some (map_setConsumer f w i next)

theorem map_setReader (k : Nat) (r : Reader β) :
    (w.map f).setReader k (r.map f) = (w.setReader k r).map f :=
  congrArg (fun readers => { w.map f with readers }) List.map_set.symm

private theorem map_reader? (k : Nat) : (w.map f).reader? k = (w.reader? k).map (World.map f) := by
  unfold reader?
  rw [map_readers, List.getElem?_map, Option.bind_map]
  cases w.readers[k]? with
  | none => rfl
  | some r =>
    obtain ⟨consumer, side, entered, aborted, outcome, collected⟩ := r
    dsimp only [Option.bind_some, Function.comp_apply]
    rw [Reader.map_consumer, map_consumer, Option.bind_map]
    cases w.consumers[consumer]? with
    | none => rfl
    | some c =>
      cases outcome with
      | some ended => rfl
      | none =>
        dsimp only [Option.bind_some, Function.comp_apply, Reader.map, Option.map_none,
          Option.isSome_none]
        rw [Consumer.map_quit, Consumer.map_read?, Consumer.map_enter]
        cases aborted with
        | true =>
          have told := map_setReader f w k ⟨consumer, side, entered, true, some .aborted, collected⟩
          dsimp only [Reader.map, Option.map_some, Outcome.map] at told
          rw [told, map_setConsumer]
          cases entered <;> rfl
        | false =>
          cases entered with
          | true =>
            cases read : c.read? side (readerNumber k) with
            | none => rfl
            | some got =>
              have handed := map_setReader f w k
                ⟨consumer, side, true, false, some (.got got.1), collected⟩
              dsimp only [Reader.map, Option.map_some, Outcome.map] at handed
              dsimp only [Option.map_some, Prod.map]
              rw [handed, map_setConsumer]
              rfl
          | false =>
            have asked := map_setReader f w k ⟨consumer, side, true, false, none, collected⟩
            dsimp only [Reader.map, Option.map_none] at asked
            rw [asked, map_setConsumer]
            rfl

private theorem map_closure? (k : Nat) :
    (w.map f).closure? k = (w.closure? k).map (World.map f) := by
  unfold closure?
  rw [map_closures]
  cases w.closures[k]? with
  | none => rfl
  | some late =>
    dsimp only [Option.bind_some]
    rw [map_source]
    cases source : w.source with
    | script s => rfl
    | broker b =>
      dsimp only [Source.map]
      rw [Broker.map_close, map_now]
      split <;> rfl

private theorem map_step? (task : Task) :
    (w.map f).step? task = (w.step? task).map (World.map f) := by
  cases task with
  | loop i => exact map_loop? f w i
  | dispatch i number => exact map_dispatch? f w i number
  | reader k => exact map_reader? f w k
  | closure k => exact map_closure? f w k

private theorem map_tasks : (w.map f).tasks = w.tasks := by
  have dispatched : ((w.map f).consumers.zipIdx.flatMap fun numbered =>
        numbered.1.dispatches.map fun d => Task.dispatch numbered.2 d.number) =
      w.consumers.zipIdx.flatMap fun numbered =>
        numbered.1.dispatches.map fun d => Task.dispatch numbered.2 d.number := by
    rw [map_consumers, List.zipIdx_map, List.flatMap_map]
    apply List.flatMap_congr
    intro numbered _
    simp only [Prod.map, Consumer.map_dispatches, List.map_map]
    rfl
  unfold tasks
  rw [map_readers, List.length_map]
  exact congrArg (· ++ (List.range w.readers.length).map .reader ++ w.rota.map .loop ++
    (List.range w.closures.length).map .closure) dispatched

private theorem map_nextTimer? : (w.map f).nextTimer? = w.nextTimer? := by
  have resumes : (w.map f).consumers.filterMap (·.phase.resumeAt?) =
      w.consumers.filterMap (·.phase.resumeAt?) := by
    rw [map_consumers, List.filterMap_map]
    rfl
  rw [nextTimer?, timers, resumes, map_source, Source.map_dueTimes]
  rfl

/-! ## The schedule -/

theorem map_wake : (w.map f).wake = w.wake.map f := by
  have able : (fun task => !(w.map f).turns.contains task && ((w.map f).step? task).isSome) =
      fun task => !w.turns.contains task && (w.step? task).isSome := by
    funext task
    rw [map_step?, Option.isSome_map]
    rfl
  unfold wake
  rw [able, map_tasks]
  rfl

private theorem map_tick? : (w.map f).tick? = w.tick?.map (World.map f) := by
  unfold tick?
  rw [map_turns]
  cases w.turns with
  | nil => rfl
  | cons task rest =>
    dsimp only
    rw [map_step?]
    cases w.step? task with
    | none => rfl
    | some next => exact congrArg some (map_wake f next)

private theorem map_serve (n : Nat) : serve n (w.map f) = (serve n w).map f := by
  induction n generalizing w with
  | zero => rfl
  | succ n ih =>
    unfold serve
    rw [map_tick?]
    cases w.tick? with
    | none => rfl
    | some next => exact ih next

theorem map_settle : (w.map f).settle = w.settle.map f := by
  rw [settle, map_wake, map_serve, settle]

private theorem map_moveTo (instant : Nat) :
    (w.map f).moveTo instant = (w.moveTo instant).map f := rfl

private theorem map_elapse (instant n : Nat) :
    elapse instant n (w.map f) = (elapse instant n w).map f := by
  induction n generalizing w with
  | zero => rw [elapse, map_moveTo, map_settle, elapse]
  | succ n ih =>
    unfold elapse
    rw [map_nextTimer?]
    cases w.nextTimer?.filter (· ≤ instant) with
    | none =>
      dsimp only
      rw [map_moveTo, map_settle]
    | some timer =>
      dsimp only
      rw [map_moveTo, map_settle, ih]

theorem map_passTo (instant : Nat) : (w.map f).passTo instant = (w.passTo instant).map f := by
  unfold passTo
  rw [map_settle, map_elapse]
  rfl

theorem map_advance (ms : Nat) : (w.map f).advance ms = (w.advance ms).map f :=
  map_passTo f w (w.now + ms)

/-- A watch is the same if all that is looked at is. -/
theorem map_watch {σ τ : Type} {look : σ → World β → Bool × σ × World β}
    {look' : τ → World γ → Bool × τ × World γ} (g : σ → τ)
    (same : ∀ s w, look' (g s) (w.map f) = (look s w).map (·) (Prod.map g (World.map f)))
    (deadline n : Nat) (s : σ) : watch look' deadline n (g s) (w.map f) =
      (watch look deadline n s w).map (·) (Prod.map g (World.map f)) := by
  induction n generalizing s w with
  | zero => rfl
  | succ n ih =>
    unfold watch
    rw [same]
    generalize look s w = seen
    obtain ⟨content, s, w⟩ := seen
    dsimp only [Prod.map]
    rw [map_wake, map_settle, map_turns, map_nextTimer?, map_now]
    split
    · rfl
    split
    · rfl
    split
    · exact ih w.wake.settle s
    · cases w.wake.nextTimer?.filter (· < deadline) with
      | none => exact ih (w.wake.moveTo deadline) s
      | some timer =>
        dsimp only
        rw [map_moveTo, map_settle]
        exact ih (w.wake.moveTo timer).settle s

theorem map_waitFor {holds : World β → Bool} {holds' : World γ → Bool}
    (same : ∀ w : World β, holds' (w.map f) = holds w) (ms : Nat) :
    (w.map f).waitFor ms holds' = (w.waitFor ms holds).map (·) (World.map f) := by
  have look (_ : Unit) (w : World β) : (holds' (w.map f), (), w.map f) =
      (holds w, (), w).map (·) (Prod.map (·) (World.map f)) := by
    rw [same]
    rfl
  unfold waitFor
  dsimp only
  rw [map_settle, map_now, map_watch f _ (·) look]
  dsimp only [Prod.map]
  rw [map_settle]

/-- A consumer one of whose output queues the collector has asked for the right to read. -/
def joined (c : Consumer β) (side : Side) : Consumer β :=
  let entered : Bool := match side with
    | .messages => c.messages.holder = some collector || c.messages.line.contains collector
    | .errors => c.errors.holder = some collector || c.errors.line.contains collector
  if entered then c else c.enter side collector

private theorem map_joined (c : Consumer β) (side : Side) :
    joined (c.map f) side = (joined c side).map f := by
  cases side with
  | messages =>
    simp only [joined, Consumer.map_messages, Queue.map_holder, Queue.map_line, Consumer.map_enter]
    exact (apply_ite (Consumer.map f) _ _ _).symm
  | errors =>
    simp only [joined, Consumer.map_errors, Consumer.map_enter]
    exact (apply_ite (Consumer.map f) _ _ _).symm

/-- A collector that finds nothing to take goes on waiting. -/
private theorem collect_of_empty {c : Consumer β} {i : Nat} (found : w.consumers[i]? = some c)
    {side : Side} (empty : (joined c side).read? side collector = none) (n : Nat)
    (items : List (Item β)) :
    collect i side (n + 1) items w = (false, items, w.setConsumer i (joined c side)) := by
  unfold collect
  rw [found]
  dsimp only
  split
  · rfl
  · next got => cases got.symm.trans empty

/-- A collector takes an item and looks for the next one. -/
private theorem collect_of_read {c c' : Consumer β} {i : Nat} (found : w.consumers[i]? = some c)
    {side : Side} {item : Item β} (got : (joined c side).read? side collector = some (item, c'))
    (n : Nat) (items : List (Item β)) :
    collect i side (n + 1) items w = collect i side n (items ++ [item]) (w.setConsumer i c') := by
  rw [collect, found]
  dsimp only
  split
  · next empty => cases empty.symm.trans got
  · next got' => cases got'.symm.trans got; rfl

private theorem map_collect (i : Nat) (side : Side) (n : Nat) (items : List (Item β)) :
    collect i side n (items.map (Item.map f)) (w.map f) =
      (collect i side n items w).map (·) (Prod.map (List.map (Item.map f)) (World.map f)) := by
  induction n generalizing w items with
  | zero => rfl
  | succ n ih =>
    have placed := w.map_consumer f i
    cases found : w.consumers[i]? with
    | none =>
      rw [found, Option.map_none] at placed
      rw [collect, collect, found, placed]
      rfl
    | some c =>
      rw [found, Option.map_some] at placed
      have reads := (joined c side).map_read? f side collector
      rw [← map_joined] at reads
      cases got : (joined c side).read? side collector with
      | none =>
        rw [got, Option.map_none] at reads
        rw [collect_of_empty _ found got, collect_of_empty _ placed reads, map_joined,
          map_setConsumer]
        rfl
      | some got' =>
        rw [got, Option.map_some] at reads
        have collected := ih (w.setConsumer i got'.2) (items ++ [got'.1])
        rw [List.map_append] at collected
        rw [collect_of_read _ found got, collect_of_read _ placed reads, map_setConsumer]
        exact collected

theorem map_waitItems (i : Nat) (side : Side) (n ms : Nat) :
    (w.map f).waitItems i side n ms =
      (w.waitItems i side n ms).map (Option.map (List.map (Item.map f))) (World.map f) := by
  let look {β : Type} (items : List (Item β)) (w : World β) :=
    collect i side (n - items.length) items w
  have same (items : List (Item β)) (w : World β) :
      look (items.map (Item.map f)) (w.map f) =
        (look items w).map (·) (Prod.map (List.map (Item.map f)) (World.map f)) := by
    dsimp only [look]
    rw [List.length_map, map_collect]
  have watched := map_watch f w.settle (List.map (Item.map f)) same (w.settle.now + ms)
    (ms + n + 1) []
  unfold waitItems
  dsimp only
  rw [map_settle, map_now]
  rw [List.map_nil] at watched
  rw [watched]
  generalize watch _ _ _ [] w.settle = seen
  obtain ⟨complete, items, w⟩ := seen
  dsimp only [Prod.map]
  rw [map_settle, map_consumer]
  split
  · rfl
  · cases w.consumers[i]? with
    | none =>
      dsimp only [Option.map_none]
      rw [map_settle]
    | some c =>
      dsimp only [Option.map_some]
      rw [Consumer.map_quit, map_setConsumer, map_settle]
      rfl

end World

end Intake
