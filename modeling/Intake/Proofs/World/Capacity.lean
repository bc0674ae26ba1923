import Intake.Proofs.Consumer.Capacity
import Intake.Proofs.Consumer.Closure
import Intake.Proofs.World.Own

/-! # Worlds in which nothing can go on

Where every task of a world has to wait, a consumer keeps deliveries back only because its queue of
messages is full, and leaves them on their channel only because all its permits are with deliveries
in flight.
-/

namespace Intake

namespace World

variable {β : Type} {w : World β}

/-- Every task has to wait. -/
def Still (w : World β) : Prop := ∀ t, w.step? t = none

/-- A task that can go on is one of those that there are. -/
theorem mem_tasks_of_step? {w' : World β} {t : Task}
    (rota : ∀ i < w.consumers.length, i ∈ w.rota) (stepped : w.step? t = some w') :
    t ∈ w.tasks := by
  have within {α : Type} {l : List α} {i : Nat} {a : α} (found : l[i]? = some a) :
      i < l.length := (List.getElem?_eq_some_iff.mp found).1
  unfold tasks
  simp only [List.mem_append]
  cases t with
  | loop i =>
    obtain ⟨c, found, _⟩ := Option.bind_eq_some_iff.mp stepped
    exact .inl (.inr (List.mem_map_of_mem (rota i (within found))))
  | dispatch i number =>
    obtain ⟨c, found, stepped⟩ := Option.bind_eq_some_iff.mp stepped
    obtain ⟨c', forwarded, _⟩ := Option.map_eq_some_iff.mp stepped
    obtain ⟨d, member, rfl⟩ := Consumer.exists_of_forward? forwarded
    refine .inl (.inl (.inl (List.mem_flatMap.mpr ⟨(c, i), ?_, List.mem_map_of_mem member⟩)))
    exact List.mem_zipIdx_iff_getElem?.mpr found
  | reader k =>
    obtain ⟨r, found, _⟩ := Option.bind_eq_some_iff.mp stepped
    refine .inl (.inl (.inr (List.mem_map_of_mem ?_)))
    exact List.mem_range.mpr (within found)
  | closure k =>
    obtain ⟨late, found, _⟩ := Option.bind_eq_some_iff.mp stepped
    refine .inr (List.mem_map_of_mem ?_)
    exact List.mem_range.mpr (within found)

/-- To see that a world is still, one looks at the tasks there are. -/
private theorem still_of_tasks (rota : ∀ i < w.consumers.length, i ∈ w.rota)
    (waits : ∀ t ∈ w.tasks, w.step? t = none) : w.Still := by
  intro t
  cases stepped : w.step? t with
  | none => rfl
  | some w' =>
    have waiting := waits t (mem_tasks_of_step? rota stepped)
    exact absurd (waiting.symm.trans stepped) nofun

/-- A loop that receives looks at the feeds of its channel. -/
private theorem answer_of_streaming {i : Nat} {c : Consumer β} {channel : Channel} {watching : Bool}
    (phase : c.phase = .streaming channel watching) : (w.answer i c).1 =
      .seen (w.source.notices channel).glance (w.source.deliveries channel).glance := by
  simp only [answer, Consumer.demand, phase]

/-- Whatever happened, deliveries are kept waiting only where all capacity is used. If no delivery
under way can go on, all slots of the queue of messages are taken by messages. If on top of it a
loop that receives cannot take the delivery it sees, as many are in flight as may be. So it is in
every world whose tasks all have to wait. -/
theorem no_stuck_capacity :
    (∀ {settings : ConsumerSettings} {pool : PoolSettings} {c₀ c : Consumer β}
      {events : List (Consumer.Event β)}, Consumer.create settings pool = .ok c₀ →
      Replay.after? Consumer.step? c₀ events = some c → (∀ number, c.forward? number = none) →
      (0 < c.inFlight → c.messages.items.length = settings.messageBuffer.toNat) ∧
      ∀ now channel watching notice d, c.phase = .streaming channel watching →
        c.proceed? now (.seen notice (.item d)) = none →
        c.messages.items.length = settings.messageBuffer.toNat ∧
          c.inFlight = settings.mostInFlight) ∧
    ∀ {source : Source β} {consumers : List (Consumer β)} {events : List (Event β)} {w : World β},
      (∀ c ∈ consumers, ∃ settings pool, Consumer.create settings pool = .ok c) →
      Replay.after? World.happen? (ofSource source consumers) events = some w → w.Still →
      ∀ (i : Nat) (c : Consumer β), w.consumers[i]? = some c →
        (0 < c.inFlight → c.messages.items.length = c.settings.messageBuffer.toNat) ∧
        ∀ channel watching d rest, c.phase = .streaming channel watching →
          (w.source.deliveries channel).items = d :: rest →
          c.messages.items.length = c.settings.messageBuffer.toNat ∧
            c.inFlight = c.settings.mostInFlight := by
  refine ⟨fun created ran blocked => Consumer.used_up created ran blocked, ?_⟩
  intro source consumers events w created ran still i c found
  obtain ⟨c₀, member, own, c', rfl, mine⟩ := exists_own created ran found
  obtain ⟨settings, pool, created⟩ := created c₀ member
  obtain ⟨rfl, rfl⟩ := Consumer.settings_of_after? created mine.after
  -- what cannot go on in the world cannot go on in the consumer's own history
  have blocked (number : Nat) : c'.forward? number = none := by
    have waits := still (.dispatch i number)
    simp only [World.step?, dispatch?, found, Option.bind_some, Option.map_eq_none_iff] at waits
    rw [← Consumer.noting_unnoted c', Consumer.noting_forward?, waits, Option.map_none]
  obtain ⟨full, spent⟩ := Consumer.used_up created mine.after blocked
  refine ⟨full, ?_⟩
  intro channel watching d rest phase ready
  have sees := answer_of_streaming (w := w) (i := i) phase
  rw [Feed.glance_of_items ready] at sees
  have stuck : c'.unnoted.proceed? w.now
      (.seen (w.source.notices channel).glance (.item d)) = none := by
    cases proceeded : c'.unnoted.proceed? w.now
      (.seen (w.source.notices channel).glance (.item d)) with
    | none => rfl
    | some next =>
      have waits := still (.loop i)
      simp only [World.step?, loop?, found, Option.bind_some, sees, proceeded,
        reduceCtorEq] at waits
  apply spent w.now channel watching _ d phase
  rw [← Consumer.noting_unnoted c', Consumer.noting_proceed?, stuck, Option.map_none]

/-- Four deliveries arrive as soon as the channel receives. -/
def fourDeliveries : List (Plan Nat) :=
  [⟨0, none, 1, [], none, [⟨1, 10, false, "", ""⟩, ⟨2, 20, false, "", ""⟩, ⟨3, 30, false, "", ""⟩,
    ⟨4, 40, false, "", ""⟩], false, [], false⟩]

/-- One delivery is queued and two are in line for its slot. The fourth stays on its channel. -/
def saturated : List (Event Nat) :=
  .act 0 .start :: List.replicate 4 (.task (.loop 0)) ++
    [.task (.dispatch 0 0), .task (.loop 0), .task (.dispatch 0 0), .task (.loop 0),
      .task (.dispatch 0 1), .task (.loop 0)]

/-- After another launch in cramped room, a permit that returned is used, and the next one waited
for. -/
def crampedAgain : List (Consumer.Event Nat) :=
  Consumer.crampedRun ++ [.proceed 0 (.seen .quiet (.item ⟨4, 40, false, "", ""⟩)), .forward 2,
    .proceed 0 (.seen .quiet (.item ⟨5, 50, false, "", ""⟩))]

theorem no_stuck_capacity_saturated : ∃ (c₀ c c' : Consumer Nat) (w : World Nat),
    Consumer.create { ConsumerSettings.default with messageBuffer := 1, maxInFlight := 2 }
      .default = .ok c₀ ∧
    Replay.after? Consumer.step? c₀ crampedAgain = some c ∧
    (∀ number, c.forward? number = none) ∧ c.messages.items.length = 1 ∧ c.inFlight = 2 ∧
    Replay.after? World.happen? (ofSource (.script (.ofPlans fourDeliveries true)) [c₀])
      saturated = some w ∧
    w.Still ∧ w.consumers[0]? = some c' ∧ c'.messages.items.length = 1 ∧ c'.inFlight = 2 := by
  obtain ⟨c₀, created, cramps, goes⟩ : ∃ c₀ : Consumer Nat,
      Consumer.create { ConsumerSettings.default with messageBuffer := 1, maxInFlight := 2 }
        .default = .ok c₀ ∧
      (Replay.after? Consumer.step? c₀ crampedAgain).any (fun c =>
        c.dispatches.all (fun d => (c.forward? d.number).isNone) &&
          (decide (c.phase = .streaming ⟨2, 2⟩ true) &&
            (c.proceed? 0 (.seen .quiet (.item ⟨5, 50, false, "", ""⟩))).isNone)) = true ∧
      (Replay.after? World.happen? (ofSource (.script (.ofPlans fourDeliveries true)) [c₀])
        saturated).any (fun w => w.tasks.all (fun t => (w.step? t).isNone) &&
          (decide (w.rota = [0] ∧ w.consumers.length = 1 ∧
            (w.source.deliveries ⟨1, 0⟩).items = [⟨4, 40, false, "", ""⟩]) &&
              w.consumers[0]?.any fun c : Consumer Nat =>
                decide (c.phase = .streaming ⟨1, 0⟩ true ∧
                  c.settings.messageBuffer.toNat = 1 ∧ c.settings.mostInFlight = 2))) = true :=
    ⟨_, rfl, by decide +kernel, by decide +kernel⟩
  simp only [Option.any_eq_true, Bool.and_eq_true, List.all_eq_true, Option.isNone_iff_eq_none,
    decide_eq_true_eq] at cramps goes
  obtain ⟨c, ran, waits, phase, stuck⟩ := cramps
  obtain ⟨w, went, tasks, ⟨rota, one, ready⟩, c', found, phase', slots, limit⟩ := goes
  have blocked := Consumer.blocked_of_dispatches waits
  have still : w.Still := still_of_tasks (by simp [rota, one]) tasks
  obtain ⟨full, spent⟩ := (no_stuck_capacity.1 created ran blocked).2 0 _ _ _ _ phase stuck
  obtain ⟨full', spent'⟩ := (no_stuck_capacity.2 (by
    intro other member
    rw [List.mem_singleton.mp member]
    exact ⟨_, _, created⟩) went still 0 c' found).2 _ _ _ _ phase' ready
  exact ⟨c₀, c, c', w, created, ran, blocked, full, spent, went, still, found, full'.trans slots,
    spent'.trans limit⟩

end World

end Intake
