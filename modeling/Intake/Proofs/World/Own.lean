import Intake.Proofs.Consumer.Noting
import Intake.Proofs.World.Calls

/-! # The own histories of the consumers of a world

A consumer of a world goes from one step of its own to the next, whatever the source, the clock and
the other consumers do in between. `World.exists_own` cuts its history out, so that what holds after
every history of a consumer holds of the consumers of a world. Its notes are collected at every
step; the readings under names that no other consumer uses are those of its own history.
-/

namespace Intake

namespace World

variable {β : Type} {w w' : World β} {e : Event β} {labels : Labels} {i : Nat}

/-- The consumer `i` is the only one with its names. -/
def Alone (w : World β) (i : Nat) (labels : Labels) : Prop :=
  ∀ j (other : Consumer β), w.consumers[j]? = some other → other.labels = labels → j = i

/-- A consumer keeps its place and its names. -/
theorem labels_of_happen? {j : Nat} {c : Consumer β} (stepped : w.happen? e = some w')
    (found : w.consumers[j]? = some c) :
    ∃ c', w'.consumers[j]? = some c' ∧ c'.labels = c.labels := by
  cases does_of_happen? stepped with
  | nothing consumers readings deeds => exact ⟨c, consumers ▸ found, rfl⟩
  | @one own k before after found' own_stepped consumers readings deeds =>
    rw [consumers, List.getElem?_set]
    obtain ⟨small, _⟩ := List.getElem?_eq_some_iff.mp found
    by_cases same : k = j
    · subst same
      cases found.symm.trans found'
      refine ⟨{ after with notes := [] }, by simp [small], ?_⟩
      simp only [Consumer.labels, Consumer.settings_of_step? own_stepped]
    · exact ⟨c, by simp [same, found], rfl⟩

private theorem Alone.before (alone : w'.Alone i labels) (stepped : w.happen? e = some w') :
    w.Alone i labels := by
  intro j other found same
  obtain ⟨other', found', kept⟩ := labels_of_happen? stepped found
  exact alone j other' found' (kept.trans same)

/-- Readings that are collected count for the names of their consumer. -/
private theorem readingsOf_collected {others : Labels} {new : Readings}
    (collected : w'.readings = (new.map (others, ·)).reverse ++ w.readings) :
    w'.readingsOf labels = w.readingsOf labels ++ if others = labels then new else [] := by
  by_cases same : others = labels <;>
    simp [readingsOf, collected, List.filterMap_append, List.filterMap_reverse,
      List.filterMap_map, same]

/-- The history of the consumer `i` by itself, and what it has done and noted on the way. -/
structure Own (w : World β) (i : Nat) (done : List (Nat × Deed)) (c₀ : Consumer β)
    (own : List (Consumer.Event β)) (c : Consumer β) : Prop where
  after : Replay.after? Consumer.step? c₀ own = some c
  consumer : w.consumers[i]? = some c.unnoted
  deeds : deedsOf i done = Replay.gather Consumer.step? Consumer.deeds c₀ own
  readings : w.Alone i c.labels → w.readingsOf c.labels = c.metered

namespace Own

variable {done : List (Nat × Deed)} {c₀ c : Consumer β} {own : List (Consumer.Event β)}

/-- What the others do is no part of it. -/
private theorem others (mine : w.Own i done c₀ own c) (stepped : w.happen? e = some w')
    (consumer : w'.consumers[i]? = w.consumers[i]?) (deeds : deedsOf i (w.deeds e) = [])
    (readings : w'.Alone i c.labels → w'.readingsOf c.labels = w.readingsOf c.labels) :
    w'.Own i (done ++ w.deeds e) c₀ own c := by
  refine ⟨mine.after, consumer.trans mine.consumer, ?_, ?_⟩
  · rw [deedsOf_append, deeds, List.append_nil]
    exact mine.deeds
  · intro alone
    rw [readings alone]
    exact mine.readings (alone.before stepped)

/-- A step of its own goes on where it was, but for the notes that were collected. -/
private theorem goes {event : Consumer.Event β} {next : Consumer β} (mine : w.Own i done c₀ own c)
    (happened : w.happen? e = some w') (stepped : c.unnoted.step? event = some next)
    (consumers : w'.consumers = w.consumers.set i next.unnoted)
    (readings : w'.readings = (next.metered.map (next.labels, ·)).reverse ++ w.readings)
    (deeds : w.deeds e = (c.unnoted.deeds event).map (i, ·)) :
    w'.Own i (done ++ w.deeds e) c₀ (own ++ [event]) (next.noting c.notes) := by
  have mine' : c.step? event = some (next.noting c.notes) := by
    have noted := Consumer.noting_step? c.notes c.unnoted event
    rwa [Consumer.noting_unnoted, stepped, Option.map_some] at noted
  have names : next.labels = c.labels := by
    simp only [Consumer.labels, Consumer.settings_of_step? stepped]
    rfl
  refine ⟨Replay.after?_concat_eq_some_iff.mpr ⟨c, mine.after, mine'⟩, ?_, ?_, ?_⟩
  · obtain ⟨small, _⟩ := List.getElem?_eq_some_iff.mp mine.consumer
    rw [consumers, List.getElem?_set_self small, Consumer.unnoted_noting]
  · have same := Consumer.noting_deeds c.notes c.unnoted event
    rw [Consumer.noting_unnoted] at same
    rw [deedsOf_append, mine.deeds, deeds, deedsOf_map, if_pos rfl, ← same,
      Replay.gather_concat Consumer.deeds mine.after mine']
  · intro alone
    change w'.Alone i next.labels at alone
    change w'.readingsOf next.labels = _
    rw [names] at alone ⊢
    rw [readingsOf_collected readings, if_pos names, mine.readings (alone.before happened),
      Consumer.metered_noting]
    rfl

/-- Whatever happens in the world, the consumer goes on in its own history or stays where it is. -/
theorem happen? (mine : w.Own i done c₀ own c) (stepped : w.happen? e = some w') :
    ∃ own' c', w'.Own i (done ++ w.deeds e) c₀ own' c' := by
  cases does_of_happen? stepped with
  | nothing consumers readings deeds =>
    refine ⟨own, c, mine.others stepped (by rw [consumers]) (by rw [deeds]; rfl) ?_⟩
    intro _
    rw [readingsOf, readings, readingsOf]
  | @one event j before after found own_stepped consumers readings deeds =>
    by_cases same : j = i
    · subst same
      cases mine.consumer.symm.trans found
      exact ⟨_, _, mine.goes stepped own_stepped consumers readings deeds⟩
    · have place : w'.consumers[i]? = w.consumers[i]? := by
        rw [consumers, List.getElem?_set_ne same]
      refine ⟨own, c, mine.others stepped place ?_ ?_⟩
      · rw [deeds, deedsOf_map, if_neg same]
      · intro alone
        have apart : after.labels ≠ c.labels := by
          intro shared
          obtain ⟨small, _⟩ := List.getElem?_eq_some_iff.mp found
          have there : w'.consumers[j]? = some { after with notes := [] } := by
            rw [consumers, List.getElem?_set_self small]
          exact same (alone j _ there shared)
        rw [readingsOf_collected readings, if_neg apart, List.append_nil]

end Own

/-- A world keeps its consumers. -/
theorem length_of_happen? (stepped : w.happen? e = some w') :
    w'.consumers.length = w.consumers.length := by
  cases does_of_happen? stepped with
  | nothing consumers readings deeds => rw [consumers]
  | one own found own_stepped consumers readings deeds => rw [consumers, List.length_set]

/-- Every consumer of a world has a history of its own, at the end of which it is what it is in the
world. -/
theorem exists_own {source : Source β} {consumers : List (Consumer β)} {events : List (Event β)}
    {c : Consumer β}
    (created : ∀ c ∈ consumers, ∃ settings pool, Consumer.create settings pool = .ok c)
    (ran : Replay.after? World.happen? (ofSource source consumers) events = some w)
    (found : w.consumers[i]? = some c) :
    ∃ c₀ ∈ consumers, ∃ own c', c = c'.unnoted ∧
      w.Own i (Replay.gather World.happen? deeds (ofSource source consumers) events) c₀ own c' := by
  have all : w.consumers.length = consumers.length ∧
      ∀ i c₀, consumers[i]? = some c₀ → ∃ own c',
        w.Own i (Replay.gather World.happen? deeds (ofSource source consumers) events) c₀ own
          c' := by
    refine Replay.after?_induction
      (P := fun events w => w.consumers.length = consumers.length ∧
        ∀ i c₀, consumers[i]? = some c₀ → ∃ own c',
          w.Own i (Replay.gather World.happen? deeds (ofSource source consumers) events) c₀ own c')
      ?_ ?_ ran
    · refine ⟨rfl, ?_⟩
      intro i c₀ found
      obtain ⟨settings, pool, created⟩ := created c₀ (List.mem_of_getElem? found)
      rw [Consumer.create_eq_ok created] at found ⊢
      exact ⟨[], _, rfl, found, rfl, fun _ => rfl⟩
    · intro events middle event next before ⟨length, each⟩ stepped
      refine ⟨(length_of_happen? stepped).trans length, ?_⟩
      intro i c₀ found
      obtain ⟨own, c', mine⟩ := each i c₀ found
      rw [Replay.gather_concat deeds before stepped]
      exact mine.happen? stepped
  obtain ⟨length, each⟩ := all
  obtain ⟨small, _⟩ := List.getElem?_eq_some_iff.mp found
  rw [length] at small
  obtain ⟨own, c', mine⟩ := each i consumers[i] (List.getElem?_eq_getElem small)
  exact ⟨_, List.getElem_mem small, own, c', Option.some.inj (found.symm.trans mine.consumer), mine⟩

end World

end Intake
