import Intake.Proofs.Broker.Act
import Intake.Proofs.Consumer.Turn
import Intake.Session.Schedule

/-! # Histories of a world

In a world tasks go on in any order, whatever the schedule would make of it. Between their steps
time passes, consumers are used, readers come and are told to give up, and the broker is used by
others than the consumers. At each event one consumer at most takes one step of its own.
-/

namespace Intake

namespace World

variable {β : Type}

inductive Event (β : Type) where
  | task (t : Task)
  | pass (ms : Nat)
  /-- Use the consumer `i`. -/
  | act (i : Nat) (a : Consumer.Act)
  /-- Use the broker. -/
  | broker (a : Broker.Act β)
  /-- A reader comes that waits for the next item of an output queue. -/
  | wait (i : Nat) (side : Side)
  /-- A reader is told to give up. -/
  | abort (k : Nat)
  /-- The deliveries of the active channel end, and the channel closes later. -/
  | closeLate (closure : Closure) (ms : Nat)

/-- A world after an event. None if a task has to wait, or what is used is not there. -/
def happen? (w : World β) : Event β → Option (World β)
  | .task t => w.step? t
  | .pass ms => some (w.moveTo (w.now + ms))
  | .act i a => w.consumers[i]?.map fun c => w.setConsumer i (c.perform a)
  | .broker a =>
    match w.source with
    | .broker b => some { w with source := .broker (b.apply a) }
    | .script _ => none
  | .wait i side => some { w with readers := w.readers ++ [⟨i, side, false, false, none, false⟩] }
  | .abort k => w.readers[k]?.map fun r => w.setReader k { r with aborted := true }
  | .closeLate closure ms =>
    match w.source with
    | .broker b =>
      match b.cancel with
      | (none, b) => some { w with source := .broker b }
      | (some id, b) => some { w with
          source := .broker b
          closures := w.closures ++ [⟨id, closure, w.now + ms, false⟩] }
    | .script _ => none

/-! ## What an event brings about -/

/-- The deliveries that loops take, each with its channel. -/
def taken (w : World β) : Event β → List (Channel × Delivery β)
  | .task (.loop i) =>
    (w.consumers[i]?.map fun c => c.taken (.proceed w.now (w.answer i c).1)).getD []
  | _ => []

/-- The messages that are put on a queue of messages. -/
def enqueued (w : World β) : Event β → List (Message β)
  | .task (.dispatch i number) =>
    (w.consumers[i]?.map fun c => c.enqueued (.forward number)).getD []
  | _ => []

/-! ## What an event does to the consumers -/

variable {w w' : World β} {e : Event β}

/-- A step of a loop leads its consumer on, or asks for a lease that takes its time. -/
theorem of_loop? {i : Nat} (stepped : w.loop? i = some w') :
    ∃ c, w.consumers[i]? = some c ∧
      ((∃ next, c.proceed? w.now (w.answer i c).1 = some next ∧
          w' = { w with source := giveUp (takeOff (w.answer i c).2 c.phase.receiving?
            (c.takes (w.answer i c).1)) c.phase next.phase }.setConsumer i next) ∨
        c.demand = .lease ∧ w' = { w with source := (w.answer i c).2 }) := by
  obtain ⟨c, found, stepped⟩ := Option.bind_eq_some_iff.mp stepped
  refine ⟨c, found, ?_⟩
  dsimp only at stepped
  cases proceeded : c.proceed? w.now (w.answer i c).1 with
  | some next =>
    simp only [proceeded, Option.some.injEq] at stepped
    exact .inl ⟨next, rfl, stepped.symm⟩
  | none =>
    simp only [proceeded, Option.ite_none_right_eq_some, Option.some.injEq] at stepped
    exact .inr ⟨stepped.1.1, stepped.2.symm⟩

/-- A step of a reader is a use of an output queue, or none. -/
theorem of_reader? {k : Nat} (stepped : w.reader? k = some w') :
    ∃ readers, w' = { w with readers } ∨
      ∃ i, ∃ c : Consumer β, ∃ side u, w.consumers[i]? = some c ∧
        w' = { w with readers }.setConsumer i (c.perform (.use side u)) := by
  obtain ⟨r, _, stepped⟩ := Option.bind_eq_some_iff.mp stepped
  obtain ⟨c, found, stepped⟩ := Option.bind_eq_some_iff.mp stepped
  dsimp only at stepped
  split at stepped
  · cases stepped
  · split at stepped
    · cases stepped
      by_cases entered : r.entered = true
      · rw [if_pos entered]
        exact ⟨_, .inr ⟨r.consumer, c, r.side, .quit (readerNumber k), found, rfl⟩⟩
      · rw [if_neg entered]
        exact ⟨_, .inl rfl⟩
    · split at stepped
      · obtain ⟨got, read, rfl⟩ := Option.map_eq_some_iff.mp stepped
        have performed : c.perform (.use r.side (.read (readerNumber k))) = got.2 := by
          rw [Consumer.perform, read]
          rfl
        rw [← performed]
        exact ⟨_, .inr ⟨r.consumer, c, r.side, .read (readerNumber k), found, rfl⟩⟩
      · cases stepped
        exact ⟨_, .inr ⟨r.consumer, c, r.side, .enter (readerNumber k), found, rfl⟩⟩

theorem of_closure? {k : Nat} (stepped : w.closure? k = some w') :
    ∃ b, ∃ late : LateClosure, ∃ closures, w.source = .broker b ∧
      w' = { w with source := .broker (b.close late.channel late.closure), closures } := by
  obtain ⟨late, _, stepped⟩ := Option.bind_eq_some_iff.mp stepped
  split at stepped
  · next b source =>
    split at stepped
    · cases stepped
      exact ⟨b, late, _, source, rfl⟩
    · cases stepped
  · cases stepped

theorem of_broker {a : Broker.Act β} (stepped : w.happen? (.broker a) = some w') :
    ∃ b, w.source = .broker b ∧ w' = { w with source := .broker (b.apply a) } := by
  dsimp only [happen?] at stepped
  split at stepped
  · next b source =>
    cases stepped
    exact ⟨b, source, rfl⟩
  · cases stepped

theorem of_closeLate {closure : Closure} {ms : Nat}
    (stepped : w.happen? (.closeLate closure ms) = some w') :
    ∃ b closures, w.source = .broker b ∧
      w' = { w with source := .broker b.cancel.2, closures } := by
  dsimp only [happen?] at stepped
  split at stepped
  · next b source =>
    split at stepped
    · next cancelled =>
      cases stepped
      exact ⟨b, _, source, by rw [cancelled]⟩
    · next cancelled =>
      cases stepped
      exact ⟨b, _, source, by rw [cancelled]⟩
  · cases stepped

theorem taken_of_lease {c : Consumer β} {answer : Answer β} (demand : c.demand = .lease) :
    c.taken (.proceed w.now answer) = [] := by
  apply Consumer.taken_eq_nil
  simp [Consumer.takes, Consumer.phase_of_demand demand]

/-- At an event of a world no consumer does anything, or one takes a step of its own. -/
inductive Touch (w : World β) (e : Event β) (w' : World β) : Prop
  | none (consumers : w'.consumers = w.consumers) (taken : w.taken e = [])
      (enqueued : w.enqueued e = [])
  | one (own : Consumer.Event β) {i : Nat} {c c' : Consumer β} (found : w.consumers[i]? = some c)
      (stepped : c.step? own = some c')
      (consumers : w'.consumers = w.consumers.set i { c' with notes := [] })
      (taken : w.taken e = c.taken own) (enqueued : w.enqueued e = c.enqueued own)

theorem touch_of_happen? (stepped : w.happen? e = some w') : Touch w e w' := by
  cases e with
  | task t =>
    cases t with
    | loop i =>
      obtain ⟨c, found, ⟨next, proceeded, rfl⟩ | ⟨demand, rfl⟩⟩ := of_loop? stepped
      · refine .one (.proceed w.now (w.answer i c).1) found proceeded rfl ?_ rfl
        rw [World.taken, found, Option.map_some, Option.getD_some]
      · refine .none rfl ?_ rfl
        rw [World.taken, found, Option.map_some, Option.getD_some, taken_of_lease demand]
    | dispatch i number =>
      obtain ⟨c, found, stepped⟩ := Option.bind_eq_some_iff.mp stepped
      obtain ⟨c', forwarded, rfl⟩ := Option.map_eq_some_iff.mp stepped
      refine .one (.forward number) found forwarded rfl rfl ?_
      rw [World.enqueued, found, Option.map_some, Option.getD_some]
    | reader k =>
      obtain ⟨readers, rfl | ⟨i, c, side, u, found, rfl⟩⟩ := of_reader? stepped
      · exact .none rfl rfl rfl
      · exact .one (.act (.use side u)) found rfl rfl rfl rfl
    | closure k =>
      obtain ⟨_, _, _, _, rfl⟩ := of_closure? stepped
      exact .none rfl rfl rfl
  | pass ms =>
    cases stepped
    exact .none rfl rfl rfl
  | act i a =>
    obtain ⟨c, found, rfl⟩ := Option.map_eq_some_iff.mp stepped
    exact .one (.act a) found rfl rfl rfl rfl
  | broker a =>
    obtain ⟨b, _, rfl⟩ := of_broker stepped
    exact .none rfl rfl rfl
  | wait i side =>
    cases stepped
    exact .none rfl rfl rfl
  | abort k =>
    obtain ⟨r, found, rfl⟩ := Option.map_eq_some_iff.mp stepped
    exact .none rfl rfl rfl
  | closeLate closure ms =>
    obtain ⟨_, _, _, rfl⟩ := of_closeLate stepped
    exact .none rfl rfl rfl

/-- After a consumer has changed, one that is found is that one, or was found before. -/
theorem found_of_set {consumers : List (Consumer β)} {i j : Nat} {c d : Consumer β}
    (found : (consumers.set i c)[j]? = some d) :
    j = i ∧ d = c ∨ j ≠ i ∧ consumers[j]? = some d := by
  rw [List.getElem?_set] at found
  split at found
  · next same =>
    split at found
    · cases found
      exact .inl ⟨same.symm, rfl⟩
    · cases found
  · next other => exact .inr ⟨Ne.symm other, found⟩

/-- No two loops listen to the same channel. -/
def Apart (consumers : List (Consumer β)) : Prop :=
  ∀ (i j : Nat) (c c' : Consumer β) (channel channel' : Channel), i ≠ j →
    consumers[i]? = some c → consumers[j]? = some c' →
    c.phase.listening? = some channel → c'.phase.listening? = some channel' →
    channel.id ≠ channel'.id

/-- The loops stay apart when one goes on with its channel or with a new one. -/
theorem Apart.set {consumers : List (Consumer β)} {i count : Nat} {c c' : Consumer β}
    (apart : Apart consumers)
    (known : ∀ (j : Nat) (d : Consumer β) (channel : Channel), consumers[j]? = some d →
      d.phase.listening? = some channel → channel.id ≤ count)
    (found : consumers[i]? = some c)
    (listens : ∀ channel, c'.phase.listening? = some channel →
      c.phase.listening? = some channel ∨ count < channel.id) : Apart (consumers.set i c') := by
  -- two loops of which one has gone on
  have separate {j : Nat} {d : Consumer β} {channel channel' : Channel} (other : j ≠ i)
      (found' : consumers[j]? = some d) (mine : c'.phase.listening? = some channel)
      (theirs : d.phase.listening? = some channel') : channel.id ≠ channel'.id := by
    rcases listens channel mine with before | fresh
    · exact apart i j c d channel channel' other.symm found found' before theirs
    · have := known j d channel' found' theirs
      omega
  intro j k d d' channel channel' different found' found'' mine theirs
  rcases found_of_set found' with ⟨rfl, rfl⟩ | ⟨other, before⟩
  · rcases found_of_set found'' with ⟨rfl, rfl⟩ | ⟨other, before⟩
    · exact absurd rfl different
    · exact separate other before mine theirs
  · rcases found_of_set found'' with ⟨rfl, rfl⟩ | ⟨_, before'⟩
    · exact (separate other before theirs mine).symm
    · exact apart j k d d' channel channel' different before before' mine theirs

end World

end Intake
