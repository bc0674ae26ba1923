import Intake.Proofs.Broker.Terms
import Intake.Proofs.Consumer.Closure
import Intake.Proofs.World.Calls

/-! # What an event does

All that happens to the broker of a world are acts: what the loops ask for, how they use the feeds
they hold, the closures that come late, and what others do. `World.acts` lists those of one event,
so a history of a world comes with a history of its broker. `World.Stir` lists what an event does to
the consumers, and `World.returned` the messages that the application receives at it.
-/

namespace Intake

variable {β : Type}

/-- What a loop asks a broker for. -/
def Demand.acts (settings : ConsumerSettings) : Demand → List (Broker.Act β)
  | .nothing | .look _ => []
  | .lease => [.lease]
  | .limit channel prefetch => [.limit channel.id prefetch false]
  | .subscribe channel => [.subscribe channel.id settings.subscription]
  | .release channel errored => [.release channel.id errored]

namespace World

/-- What a step does that takes something off the feeds of a channel. -/
def takeOffActs (channel : Option Channel) (taken : Consumer.Taken) : List (Broker.Act β) :=
  match channel, taken with
  | some channel, .notice => [.takeNotice channel.id]
  | some channel, .arrival => [.take channel.id]
  | _, _ => []

/-- How a loop gives up the feeds that it no longer holds. -/
def giveUpActs (old new : Phase) : List (Broker.Act β) :=
  (match old.receiving? with
    | some channel => if new.receiving? = some channel then [] else [.dropStream channel.id]
    | none => []) ++
  match old.listening? with
  | some channel => if new.listening? = some channel then [] else [.dropNotices channel.id]
  | none => []

end World

/-- What a step of a loop does with a broker. -/
def Consumer.acts (c : Consumer β) (now : Nat) (answer : Answer β) : List (Broker.Act β) :=
  c.demand.acts c.settings ++
    match c.proceed? now answer with
    | some next =>
      World.takeOffActs c.phase.receiving? (c.takes answer) ++
        World.giveUpActs c.phase next.phase
    | none => []

namespace World

/-- What an event does with the broker. -/
def acts (w : World β) : Event β → List (Broker.Act β)
  | .task (.loop i) => w.consumers[i]?.toList.flatMap fun c => c.acts w.now (w.answer i c).1
  | .task (.closure k) =>
    w.closures[k]?.toList.map fun late => .close late.channel late.closure
  | .broker a => [a]
  | .closeLate _ _ => [.cancel]
  | _ => []

variable {w w' : World β} {e : Event β} {b : Broker β}

/-! ## The broker -/

private theorem answer_broker {i : Nat} {c : Consumer β} (source : w.source = .broker b) :
    (w.answer i c).2 = .broker ((c.demand.acts c.settings).foldl Broker.apply b) := by
  unfold answer
  rw [source]
  cases c.demand <;> rfl

private theorem takeOff_broker (channel : Option Channel) (taken : Consumer.Taken) (b : Broker β) :
    takeOff (.broker b) channel taken =
      .broker ((takeOffActs channel taken).foldl Broker.apply b) := by
  cases channel with
  | none => rfl
  | some channel => cases taken <;> rfl

private theorem giveUp_broker (old new : Phase) (b : Broker β) :
    giveUp (.broker b) old new = .broker ((giveUpActs old new).foldl Broker.apply b) := by
  unfold giveUp giveUpActs
  rw [List.foldl_append]
  cases old.receiving? with
  | none =>
    cases old.listening? with
    | none => rfl
    | some heard =>
      dsimp only
      split <;> rfl
  | some channel =>
    cases old.listening? with
    | none =>
      dsimp only
      split <;> rfl
    | some heard =>
      dsimp only
      split <;> split <;> rfl

/-- All that happens to the broker are the acts of an event. -/
theorem source_of_acts (source : w.source = .broker b) (stepped : w.happen? e = some w') :
    w'.source = .broker ((w.acts e).foldl Broker.apply b) := by
  cases e with
  | task t =>
    cases t with
    | loop i =>
      obtain ⟨c, found, after⟩ := proceeds_of_loop? stepped
      have acts : w.acts (.task (.loop i)) = c.acts w.now (w.answer i c).1 := by
        rw [World.acts, found, Option.toList_some, List.flatMap_singleton]
      rw [acts, Consumer.acts]
      rcases after with ⟨next, proceeded, rfl⟩ | ⟨pending, demand, rfl⟩
      · simp only [proceeded, List.foldl_append]
        rw [setConsumer, answer_broker source, takeOff_broker, giveUp_broker]
      · simp only [pending, List.append_nil]
        exact answer_broker source
    | dispatch i number =>
      obtain ⟨c, _, stepped⟩ := Option.bind_eq_some_iff.mp stepped
      obtain ⟨c', _, rfl⟩ := Option.map_eq_some_iff.mp stepped
      exact source
    | reader k =>
      obtain ⟨readers, rfl | ⟨i, c, side, u, found, rfl⟩⟩ := of_reader? stepped
      · exact source
      · exact source
    | closure k =>
      obtain ⟨late, found, stepped⟩ := Option.bind_eq_some_iff.mp stepped
      rw [source] at stepped
      dsimp only at stepped
      split at stepped
      · cases stepped
        rw [World.acts, found]
        rfl
      · cases stepped
  | pass ms =>
    cases stepped
    exact source
  | act i a =>
    obtain ⟨c, found, rfl⟩ := Option.map_eq_some_iff.mp stepped
    exact source
  | broker a =>
    obtain ⟨b₁, source₁, rfl⟩ := of_broker stepped
    cases source.symm.trans source₁
    rfl
  | wait i side =>
    cases stepped
    exact source
  | abort k =>
    obtain ⟨r, found, rfl⟩ := Option.map_eq_some_iff.mp stepped
    exact source
  | closeLate closure ms =>
    obtain ⟨b₁, closures, source₁, rfl⟩ := of_closeLate stepped
    cases source.symm.trans source₁
    rfl

/-! ## The consumers -/

/-- The messages that leave the consumer `i` for a reader at an event of its own. -/
def returnedAt (w : World β) (i : Nat) (own : Consumer.Event β) : List (Nat × Message β) :=
  (w.consumers[i]?.toList.flatMap fun c => c.returned own).map (i, ·)

/-- The messages that the application receives, each with the place of its consumer: those that are
taken from the queue at once, and those that readers get who have waited for them. -/
def returned (w : World β) : Event β → List (Nat × Message β)
  | .act i a => w.returnedAt i (.act a)
  | .task (.reader k) =>
    w.readers[k]?.toList.flatMap fun r =>
      if r.entered = true ∧ r.aborted = false ∧ r.outcome.isNone = true then
        w.returnedAt r.consumer (.act (.use r.side (.read (readerNumber k))))
      else []
  | _ => []

private theorem returnedAt_eq {i : Nat} {c : Consumer β} (own : Consumer.Event β)
    (found : w.consumers[i]? = some c) : w.returnedAt i own = (c.returned own).map (i, ·) := by
  simp [returnedAt, found]

/-- At an event of a world no consumer moves, one is used, or the loop of one goes on. -/
inductive Stir (w : World β) (e : Event β) (w' : World β) : Prop
  | rest (consumers : w'.consumers = w.consumers) (taken : w.taken e = [])
      (returned : w.returned e = [])
  | used (own : Consumer.Event β) {i : Nat} {c c' : Consumer β} (found : w.consumers[i]? = some c)
      (stepped : c.step? own = some c') (outside : ∀ now answer, own ≠ .proceed now answer)
      (consumers : w'.consumers = w.consumers.set i { c' with notes := [] })
      (taken : w.taken e = []) (returned : w.returned e = (c.returned own).map (i, ·))
  | goes {i : Nat} {c next : Consumer β} (isLoop : e = .task (.loop i))
      (found : w.consumers[i]? = some c)
      (proceeded : c.proceed? w.now (w.answer i c).1 = some next)
      (consumers : w'.consumers = w.consumers.set i { next with notes := [] })

private theorem stir_of_reader? {k : Nat} (stepped : w.reader? k = some w') :
    Stir w (.task (.reader k)) w' := by
  obtain ⟨r, reads, stepped⟩ := Option.bind_eq_some_iff.mp stepped
  obtain ⟨c, found, stepped⟩ := Option.bind_eq_some_iff.mp stepped
  have returned (idle : ¬(r.entered = true ∧ r.aborted = false ∧ r.outcome.isNone = true)) :
      w.returned (.task (.reader k)) = [] := by
    rw [World.returned, reads, Option.toList_some, List.flatMap_singleton, if_neg idle]
  dsimp only at stepped
  split at stepped
  · cases stepped
  · next waits =>
    split at stepped
    · next aborted =>
      have nothing := returned (by simp [aborted])
      cases stepped
      by_cases entered : r.entered = true
      · rw [if_pos entered]
        refine .used (.act (.use r.side (.quit (readerNumber k)))) found rfl (by simp) rfl rfl ?_
        rw [nothing]
        cases r.side <;> rfl
      · rw [if_neg entered]
        exact .rest rfl rfl nothing
    · next going =>
      split at stepped
      · next entered =>
        obtain ⟨got, read, rfl⟩ := Option.map_eq_some_iff.mp stepped
        have performed : c.perform (.use r.side (.read (readerNumber k))) = got.2 := by
          rw [Consumer.perform, read]
          rfl
        rw [← performed]
        refine .used (.act (.use r.side (.read (readerNumber k)))) found rfl (by simp) rfl rfl ?_
        rw [World.returned, reads, Option.toList_some, List.flatMap_singleton,
          if_pos ⟨entered, by simpa using going, by simpa using waits⟩, returnedAt_eq _ found]
      · next notEntered =>
        have nothing := returned (by simp [notEntered])
        cases stepped
        refine .used (.act (.use r.side (.enter (readerNumber k)))) found rfl (by simp) rfl rfl ?_
        rw [nothing]
        cases r.side <;> rfl

theorem stir_of_happen? (stepped : w.happen? e = some w') : Stir w e w' := by
  cases e with
  | task t =>
    cases t with
    | loop i =>
      obtain ⟨c, found, ⟨next, proceeded, rfl⟩ | ⟨demand, rfl⟩⟩ := of_loop? stepped
      · exact .goes rfl found proceeded rfl
      · refine .rest rfl ?_ rfl
        rw [World.taken, found, Option.map_some, Option.getD_some, taken_of_lease demand]
    | dispatch i number =>
      obtain ⟨c, found, stepped⟩ := Option.bind_eq_some_iff.mp stepped
      obtain ⟨c', forwarded, rfl⟩ := Option.map_eq_some_iff.mp stepped
      exact .used (.forward number) found forwarded (by simp) rfl rfl rfl
    | reader k => exact stir_of_reader? stepped
    | closure k =>
      obtain ⟨_, _, _, _, rfl⟩ := of_closure? stepped
      exact .rest rfl rfl rfl
  | pass ms =>
    cases stepped
    exact .rest rfl rfl rfl
  | act i a =>
    obtain ⟨c, found, rfl⟩ := Option.map_eq_some_iff.mp stepped
    exact .used (.act a) found rfl (by simp) rfl rfl (returnedAt_eq _ found)
  | broker a =>
    obtain ⟨b, _, rfl⟩ := of_broker stepped
    exact .rest rfl rfl rfl
  | wait i side =>
    cases stepped
    exact .rest rfl rfl rfl
  | abort k =>
    obtain ⟨r, found, rfl⟩ := Option.map_eq_some_iff.mp stepped
    exact .rest rfl rfl rfl
  | closeLate closure ms =>
    obtain ⟨_, _, _, rfl⟩ := of_closeLate stepped
    exact .rest rfl rfl rfl

end World

end Intake
