import Intake.Proofs.World.Acts

/-! # Loops and their channels

No two loops have the same channel. Where a loop receives, the channel settles deliveries itself or
leaves this to the application as the loop asked for, unless somebody else asks for the other.
-/

namespace Intake

/-- A loop asks to receive in one phase only. -/
private theorem Consumer.phase_of_subscribe {β : Type} {c : Consumer β} {channel : Channel}
    (demand : c.demand = .subscribe channel) : c.phase = .opening channel := by
  unfold Consumer.demand at demand
  split at demand
  case h_3 phase =>
    cases demand
    exact phase
  all_goals first | cases demand | (split at demand <;> cases demand)

namespace World

variable {β : Type} {w w' w₀ : World β} {e : Event β} {b : Broker β}

/-- Only loops that are about to receive ask for it, and others. -/
private theorem subscribes_of_acts {id : Nat} {s : Subscription}
    (asks : .subscribe id s ∈ w.acts e) :
    (∃ (i : Nat) (c : Consumer β) (channel : Channel), w.consumers[i]? = some c ∧
      c.phase = .opening channel ∧ channel.id = id) ∨ e = .broker (.subscribe id s) := by
  unfold World.acts at asks
  split at asks
  · next i =>
    left
    obtain ⟨c, found, asks⟩ := List.mem_flatMap.mp asks
    rw [Option.mem_toList] at found
    rcases List.mem_append.mp asks with demanded | uses
    · cases demand : c.demand with
      | subscribe channel =>
        rw [demand] at demanded
        cases List.mem_singleton.mp demanded
        exact ⟨i, c, channel, found, Consumer.phase_of_subscribe demand, rfl⟩
      | _ => simp [demand, Demand.acts] at demanded
    · split at uses
      · next next _ =>
        rcases List.mem_append.mp uses with taken | dropped
        · unfold takeOffActs at taken
          split at taken <;> simp at taken
        · unfold giveUpActs at dropped
          grind
      · cases uses
  · simp at asks
  · right
    rw [List.mem_singleton.mp asks]
  · simp at asks
  · cases asks

/-- The source is a broker that knows the channels of the loops. No two loops have the same, and
where one receives, its channel is on the terms of its settings. -/
structure Holding (w : World β) (b : Broker β) : Prop where
  source : w.source = .broker b
  orderly : ∀ {i : Nat} {c : Consumer β}, w.consumers[i]? = some c → c.Orderly
  known : ∀ {i : Nat} {c : Consumer β} {channel : Channel}, w.consumers[i]? = some c →
    c.phase.listening? = some channel → channel.id ≤ b.lanes.length
  apart : Apart w.consumers
  terms : ∀ {i : Nat} {c : Consumer β} {channel : Channel}, w.consumers[i]? = some c →
    c.phase.receiving? = some channel → b.autoAck? channel.id = some c.settings.autoAck

/-- Somebody else asks to receive on the channel of a loop that receives, and settles deliveries
otherwise than the loop.

A channel has one feed of deliveries (`Lane.deliveries`), so after a call of somebody else, whatever
its terms, the loop goes on with the feed of that call. Had each call a stream of its own, the loop
would take what is left in the one it has, find it ended and lease another channel. -/
def Resubscribes (t : Transition (World β) (Event β)) : Prop :=
  ∃ (i : Nat) (c : Consumer β) (channel : Channel) (s : Subscription),
    t.source.consumers[i]? = some c ∧ c.phase.receiving? = some channel ∧
      t.event = .broker (.subscribe channel.id s) ∧ s.terms.autoAck ≠ c.settings.autoAck

namespace Holding

theorem ofSource {queue : String} {consumers : List (Consumer β)}
    (created : ∀ c ∈ consumers, ∃ settings pool, Consumer.create settings pool = .ok c) :
    (World.ofSource (.broker (.ofQueue queue)) consumers).Holding (.ofQueue queue) := by
  have idle {i : Nat} {c : Consumer β} (found : consumers[i]? = some c) :
      c.Orderly ∧ c.phase = .idle := by
    obtain ⟨settings, pool, created⟩ := created c (List.mem_of_getElem? found)
    exact ⟨Consumer.orderly_of_create created, by rw [Consumer.create_eq_ok created]⟩
  have silent {i : Nat} {c : Consumer β} {channel : Channel} (found : consumers[i]? = some c)
      (listens : c.phase.listening? = some channel) : False := by
    rw [(idle found).2] at listens
    cases listens
  refine ⟨rfl, fun found => (idle found).1, ?_, ?_, ?_⟩
  · intro i c channel found listens
    exact (silent found listens).elim
  · intro i j c c' channel channel' _ found _ listens
    exact (silent found listens).elim
  · intro i c channel found receives
    exact (silent found (Consumer.listening?_of_receiving? receives)).elim

variable {i : Nat} {c : Consumer β} {channel : Channel}

/-- The channel of a loop that receives stays on its terms. -/
private theorem autoAck? (holding : w.Holding b) (alone : ¬Resubscribes ⟨w, e, w'⟩)
    (found : w.consumers[i]? = some c) (receives : c.phase.receiving? = some channel) :
    ((w.acts e).foldl Broker.apply b).autoAck? channel.id = some c.settings.autoAck := by
  apply Broker.autoAck?_foldl (holding.terms found receives)
  intro s asks
  rcases subscribes_of_acts asks with ⟨j, c', other, found', phase, same⟩ | event
  · -- another loop would have the channel
    have listens := Consumer.listening?_of_receiving? receives
    have opening : c'.phase.listening? = some other := by
      rw [phase]
      rfl
    have mine : j = i := by
      by_contra different
      exact holding.apart j i c' c other channel different found' found opening listens same
    subst mine
    cases found.symm.trans found'
    rw [phase] at receives
    cases receives
  · by_contra different
    exact alone ⟨i, c, channel, s, found, receives, event, different⟩

/-- A consumer changes by itself. -/
private theorem set {c' : Consumer β} (holding : w.Holding b) (alone : ¬Resubscribes ⟨w, e, w'⟩)
    (happened : w.happen? e = some w') (found : w.consumers[i]? = some c)
    (consumers : w'.consumers = w.consumers.set i c') (orderly : c'.Orderly)
    (listens : ∀ {channel}, c'.phase.listening? = some channel →
      c.phase.listening? = some channel ∨ b.lanes.length < channel.id ∧
        channel.id ≤ ((w.acts e).foldl Broker.apply b).lanes.length)
    (terms : ∀ {channel}, c'.phase.receiving? = some channel →
      ((w.acts e).foldl Broker.apply b).autoAck? channel.id = some c'.settings.autoAck) :
    w'.Holding ((w.acts e).foldl Broker.apply b) := by
  have more := b.length_lanes_foldl (w.acts e)
  have own {j : Nat} {d : Consumer β} (found' : w'.consumers[j]? = some d) :
      j = i ∧ d = c' ∨ j ≠ i ∧ w.consumers[j]? = some d :=
    found_of_set (consumers ▸ found')
  refine ⟨source_of_acts holding.source happened, ?_, ?_, ?_, ?_⟩
  · intro j d found'
    rcases own found' with ⟨rfl, rfl⟩ | ⟨_, found'⟩
    · exact orderly
    · exact holding.orderly found'
  · intro j d channel found' listening
    rcases own found' with ⟨rfl, rfl⟩ | ⟨_, found'⟩
    · rcases listens listening with before | ⟨_, known⟩
      · exact Nat.le_trans (holding.known found before) more
      · exact known
    · exact Nat.le_trans (holding.known found' listening) more
  · rw [consumers]
    refine Apart.set holding.apart (fun j d channel => holding.known) found ?_
    exact fun channel listening => (listens listening).imp_right And.left
  · intro j d channel found' receives
    rcases own found' with ⟨rfl, rfl⟩ | ⟨_, found'⟩
    · exact terms receives
    · exact holding.autoAck? alone found' receives

/-- The loop that leases a channel gets a new one. -/
private theorem length_lanes_of_lease {next : Consumer β} (holding : w.Holding b)
    (found : w.consumers[i]? = some c) (phase : c.phase = .acquiring)
    (proceeded : c.proceed? w.now (w.answer i c).1 = some next)
    (listens : next.phase.listening? = some channel) :
    b.lanes.length < channel.id ∧
      channel.id ≤ ((w.acts (.task (.loop i))).foldl Broker.apply b).lanes.length := by
  have demand : c.demand = .lease := by rw [Consumer.demand, phase]
  have answer : (w.answer i c).1 = .leased b.lease.1 := by
    rw [World.answer, demand, holding.source]
    rfl
  rw [answer] at proceeded
  have same : c.leased w.now b.lease.1 = next := by
    simpa [Consumer.proceed?, phase] using proceeded
  subst same
  have acts : w.acts (.task (.loop i)) = [.lease] := by
    rw [World.acts, found, Option.toList_some, List.flatMap_singleton, Consumer.acts, demand,
      answer, proceeded]
    simp [Demand.acts, takeOffActs, giveUpActs, phase, Phase.receiving?, Phase.listening?]
  rcases b.lease_cases with ⟨fault, failed, _⟩ | ⟨leased, count, _⟩
  · rw [failed] at listens
    cases listens
  · rw [leased] at listens
    change (Phase.begun c.settings _).listening? = _ at listens
    rw [listening?_of_attends? (attends?_begun c.settings _)] at listens
    cases listens
    rw [acts]
    change _ ∧ _ ≤ b.lease.2.lanes.length
    rw [count]
    exact ⟨Nat.lt_succ_self _, Nat.le_refl _⟩

/-- The loop that begins to receive asks for the terms of its settings. -/
private theorem autoAck?_of_opening {next : Consumer β} (holding : w.Holding b)
    (found : w.consumers[i]? = some c) (phase : c.phase = .opening channel)
    (proceeded : c.proceed? w.now (w.answer i c).1 = some next)
    (receives : next.phase.receiving? = some channel) :
    ((w.acts (.task (.loop i))).foldl Broker.apply b).autoAck? channel.id =
      some c.settings.autoAck := by
  have demand : c.demand = .subscribe channel := by rw [Consumer.demand, phase]
  have answer : (w.answer i c).1 = .done (b.subscribe channel.id c.settings.subscription).1 := by
    rw [World.answer, demand, holding.source]
    rfl
  have allowed := Consumer.answer_of_receiving phase proceeded receives
  rw [answer, Answer.done.injEq] at allowed
  have acts : w.acts (.task (.loop i)) = [.subscribe channel.id c.settings.subscription] := by
    have silent : c.phase.receiving? = none := by rw [phase]; rfl
    have before : c.phase.listening? = some channel := by rw [phase]; rfl
    have after := Consumer.listening?_of_receiving? receives
    rw [World.acts, found, Option.toList_some, List.flatMap_singleton, Consumer.acts, demand,
      proceeded]
    simp [Demand.acts, takeOffActs, giveUpActs, silent, before, after]
  rw [acts]
  exact Broker.autoAck?_subscribe allowed

/-- Whatever happens, the loops have their channels for themselves, on their terms. -/
theorem happen? (holding : w.Holding b) (happened : w.happen? e = some w')
    (alone : ¬Resubscribes ⟨w, e, w'⟩) : w'.Holding ((w.acts e).foldl Broker.apply b) := by
  cases stir_of_happen? happened with
  | rest consumers taken returned =>
    have more := b.length_lanes_foldl (w.acts e)
    refine ⟨source_of_acts holding.source happened, ?_, ?_, ?_, ?_⟩
    · rw [consumers]
      exact holding.orderly
    · rw [consumers]
      intro i c channel found listens
      exact Nat.le_trans (holding.known found listens) more
    · rw [consumers]
      exact holding.apart
    · rw [consumers]
      intro i c channel found receives
      exact holding.autoAck? alone found receives
  | @used own i c c' found stepped outside consumers taken returned =>
    have orderly := holding.orderly found
    have settings := Consumer.settings_of_step? stepped
    have phase := Consumer.phase_of_step? orderly stepped outside
    have after : c'.Orderly := orderly.step? stepped
    refine holding.set alone happened found consumers after ?_ ?_
    · intro channel listens
      left
      rcases phase with same | ⟨_, launched⟩
      · exact same ▸ listens
      · simp [launched, Phase.listening?] at listens
    · intro channel receives
      change c'.phase.receiving? = _ at receives
      change _ = some c'.settings.autoAck
      rw [settings]
      rcases phase with same | ⟨_, launched⟩
      · exact holding.autoAck? alone found (same ▸ receives)
      · simp [launched, Phase.receiving?] at receives
  | @goes i c next isLoop found proceeded consumers =>
    subst isLoop
    have advance := Consumer.Advance.of_proceed? proceeded
    have settings := advance.turn.settings
    have orderly := (holding.orderly found).turn advance.turn
    refine holding.set alone happened found consumers orderly ?_ ?_
    · intro channel listens
      refine (Consumer.listening_of_moves advance.moves listens).imp_right fun acquiring => ?_
      exact holding.length_lanes_of_lease found acquiring proceeded listens
    · intro channel receives
      change _ = some next.settings.autoAck
      rw [settings]
      rcases Consumer.receiving_of_moves advance.moves receives with before | opening
      · exact holding.autoAck? alone found before
      · exact holding.autoAck?_of_opening found opening proceeded receives

end Holding

end World

end Intake
