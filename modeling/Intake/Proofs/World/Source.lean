import Intake.Proofs.Broker.Evolution
import Intake.Proofs.World.Event

/-! # A broker as the source of a world

What consumers and others do with a broker is a course of changes of its channels. The only way a
delivery leaves a feed for a consumer is that a loop takes the first one.
-/

namespace Intake

theorem Feed.items_of_glance {α : Type} {feed : Feed α} {a : α} (seen : feed.glance = .item a) :
    ∃ rest, feed.items = a :: rest := by
  unfold glance at seen
  split at seen
  · next first rest items =>
    cases seen
    exact ⟨rest, items⟩
  · split at seen <;> cases seen

namespace Source

variable {β : Type} {source source' source'' : Source β}

/-- If the source is a broker it stays one, and its channels only go through changes. -/
def Evolves (source source' : Source β) : Prop :=
  ∀ b, source = .broker b → ∃ b', source' = .broker b' ∧ b.Evolves b'

namespace Evolves

private theorem refl (source : Source β) : source.Evolves source :=
  fun b same => ⟨b, same, .refl b⟩

private theorem trans (first : source.Evolves source') (second : source'.Evolves source'') :
    source.Evolves source'' := by
  intro b same
  obtain ⟨b', same', earlier⟩ := first b same
  obtain ⟨b'', same'', later⟩ := second b' same'
  exact ⟨b'', same'', earlier.trans later⟩

private theorem broker {b b' : Broker β} (evolves : b.Evolves b') :
    (Source.broker b).Evolves (.broker b') := by
  intro other same
  cases same
  exact ⟨b', rfl, evolves⟩

private theorem script (s : Script β) (source' : Source β) :
    (Source.script s).Evolves source' := nofun

private theorem request (source : Source β) (now who : Nat) :
    source.Evolves (source.request now who).2 := by
  cases source with
  | broker b => exact .broker (.lease b)
  | script s => exact .script _ _

private theorem limit (source : Source β) (channel : Channel) (prefetch : Prefetch)
    (forAll : Bool) :
    source.Evolves (source.limit channel prefetch forAll).2 := by
  cases source with
  | broker b => exact .broker (.limit b _ _ _)
  | script s => exact .script _ _

private theorem subscribe (source : Source β) (channel : Channel) (subscription : Subscription) :
    source.Evolves (source.subscribe channel subscription).2 := by
  cases source with
  | broker b => exact .broker (.subscribe b _ _)
  | script s => exact .script _ _

private theorem release (source : Source β) (channel : Channel) (errored : Bool) :
    source.Evolves (source.release channel errored) := by
  cases source with
  | broker b => exact .broker (.release b _ _)
  | script s => exact .script _ _

private theorem takeNotice (source : Source β) (channel : Channel) :
    source.Evolves (source.withNotices channel Feed.drop) := by
  cases source with
  | broker b => exact .broker (.apply b (.takeNotice channel.id))
  | script s => exact .script _ _

private theorem dropNotices (source : Source β) (channel : Channel) :
    source.Evolves (source.withNotices channel Feed.ignore) := by
  cases source with
  | broker b => exact .broker (.apply b (.dropNotices channel.id))
  | script s => exact .script _ _

private theorem dropStream (source : Source β) (channel : Channel) :
    source.Evolves (source.withDeliveries channel Feed.ignore) := by
  cases source with
  | broker b => exact .broker (.apply b (.dropStream channel.id))
  | script s => exact .script _ _

end Evolves

end Source

namespace World

variable {β : Type} {w w' : World β} {e : Event β} {b : Broker β}

private theorem evolves_answer (w : World β) (i : Nat) (c : Consumer β) :
    w.source.Evolves (w.answer i c).2 := by
  unfold answer
  split
  · exact .refl _
  · have asked := Source.Evolves.request w.source w.now i
    split
    · next result source same =>
      rw [same] at asked
      exact asked
    · next source same =>
      rw [same] at asked
      exact asked
  · exact .limit _ _ _ _
  · exact .subscribe _ _ _
  · exact .refl _
  · exact .release _ _ _

private theorem evolves_takeOff (source : Source β) (channel : Option Channel)
    {taken : Consumer.Taken}
    (other : taken ≠ .arrival) : source.Evolves (takeOff source channel taken) := by
  unfold takeOff
  split
  · exact .takeNotice _ _
  · exact absurd rfl other
  · exact .refl _

private theorem evolves_giveUp (source : Source β) (old new : Phase) :
    source.Evolves (giveUp source old new) := by
  unfold giveUp
  extract_lets kept
  have stream : source.Evolves kept := by
    unfold kept
    split
    · split
      · exact .refl _
      · exact .dropStream _ _
    · exact .refl _
  refine stream.trans ?_
  split
  · split
    · exact .refl _
    · exact .dropNotices _ _
  · exact .refl _

/-- The first delivery is taken off the feed of a channel. -/
def Takes (b : Broker β) (got : Channel × Delivery β) (b' : Broker β) : Prop :=
  ∃ lane rest, b.lane? got.1.id = some lane ∧ lane.deliveries.items = got.2 :: rest ∧
    b' = b.setLane { lane with deliveries := lane.deliveries.drop }

theorem takes_of_loop {i : Nat} {c : Consumer β} (source : w.source = .broker b)
    (takes : c.takes (w.answer i c).1 = .arrival) :
    ∃ got b', c.taken (.proceed w.now (w.answer i c).1) = [got] ∧ Takes b got b' ∧
      takeOff (w.answer i c).2 c.phase.receiving? .arrival = .broker b' := by
  obtain ⟨channel, watching, notice, arrival, d, phase, answered, chosen⟩ :=
    Consumer.chosen_of_takes takes
  have demand : c.demand = .look channel := by rw [Consumer.demand, phase]
  have answer : w.answer i c = (.seen (w.source.notices channel).glance
      (w.source.deliveries channel).glance, w.source) := by rw [World.answer, demand]
  have seen : (w.source.deliveries channel).glance = .item d := by
    rw [answer] at answered
    rw [(Answer.seen.inj answered).2]
    exact Consumer.choose_eq_delivery chosen
  rw [source, Source.deliveries] at seen
  cases found : b.lane? channel.id with
  | none =>
    rw [found] at seen
    cases seen
  | some lane =>
    rw [found, Option.map_some, Option.getD_some] at seen
    obtain ⟨rest, items⟩ := Feed.items_of_glance seen
    refine ⟨(channel, d), _, ?_, ⟨lane, rest, found, items, rfl⟩, ?_⟩
    · rw [answered]
      exact Consumer.taken_of_delivery phase chosen
    · rw [answer, phase, source]
      simp only [takeOff, Phase.receiving?, Source.withDeliveries, Broker.withLane, found]

/-- At an event of a world a delivery is taken off a feed of the broker first, or none is; all else
are changes of channels. -/
theorem source_of_happen? (source : w.source = .broker b) (stepped : w.happen? e = some w') :
    ∃ b', w'.source = .broker b' ∧
      (w.taken e = [] ∧ b.Evolves b' ∨
        ∃ got middle, w.taken e = [got] ∧ Takes b got middle ∧ middle.Evolves b') := by
  have quiet {source' : Source β} (nothing : w.taken e = []) (same : w'.source = source')
      (evolves : w.source.Evolves source') : ∃ b', w'.source = .broker b' ∧
      (w.taken e = [] ∧ b.Evolves b' ∨
        ∃ got middle, w.taken e = [got] ∧ Takes b got middle ∧ middle.Evolves b') := by
    obtain ⟨b', same', course⟩ := evolves b source
    exact ⟨b', same.trans same', .inl ⟨nothing, course⟩⟩
  cases e with
  | task t =>
    cases t with
    | loop i =>
      obtain ⟨c, found, ⟨next, proceeded, rfl⟩ | ⟨demand, rfl⟩⟩ := of_loop? stepped
      · have taken : w.taken (.task (.loop i)) = c.taken (.proceed w.now (w.answer i c).1) := by
          rw [World.taken, found, Option.map_some, Option.getD_some]
        by_cases takes : c.takes (w.answer i c).1 = .arrival
        · obtain ⟨got, middle, one, off, same⟩ := takes_of_loop source takes
          obtain ⟨b', same', course⟩ := evolves_giveUp _ c.phase next.phase middle same
          refine ⟨b', ?_, .inr ⟨got, middle, taken.trans one, off, course⟩⟩
          rw [← takes] at same'
          exact same'
        · exact quiet (taken.trans (Consumer.taken_eq_nil takes)) rfl
            ((evolves_answer w i c).trans
              ((evolves_takeOff _ _ takes).trans (evolves_giveUp _ _ _)))
      · refine quiet ?_ rfl (evolves_answer w i c)
        rw [World.taken, found, Option.map_some, Option.getD_some, taken_of_lease demand]
    | dispatch i number =>
      obtain ⟨c, _, stepped⟩ := Option.bind_eq_some_iff.mp stepped
      obtain ⟨c', _, rfl⟩ := Option.map_eq_some_iff.mp stepped
      exact quiet rfl rfl (.refl _)
    | reader k =>
      obtain ⟨readers, rfl | ⟨i, c, side, u, found, rfl⟩⟩ := of_reader? stepped
      · exact quiet rfl rfl (.refl _)
      · exact quiet rfl rfl (.refl _)
    | closure k =>
      obtain ⟨b₁, late, closures, source₁, rfl⟩ := of_closure? stepped
      rw [source₁] at quiet
      exact quiet rfl rfl (.broker (.close _ _ _))
  | pass ms =>
    cases stepped
    exact quiet rfl rfl (.refl _)
  | act i a =>
    obtain ⟨c, found, rfl⟩ := Option.map_eq_some_iff.mp stepped
    exact quiet rfl rfl (.refl _)
  | broker a =>
    obtain ⟨b₁, source₁, rfl⟩ := of_broker stepped
    rw [source₁] at quiet
    exact quiet rfl rfl (.broker (.apply _ _))
  | wait i side =>
    cases stepped
    exact quiet rfl rfl (.refl _)
  | abort k =>
    obtain ⟨r, found, rfl⟩ := Option.map_eq_some_iff.mp stepped
    exact quiet rfl rfl (.refl _)
  | closeLate closure ms =>
    obtain ⟨b₁, closures, source₁, rfl⟩ := of_closeLate stepped
    rw [source₁] at quiet
    exact quiet rfl rfl (.broker (.cancel _))

end World

end Intake
