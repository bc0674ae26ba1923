import Intake.Proofs.Broker.Standing
import Intake.Proofs.Consumer.Closure
import Intake.Proofs.World.Calls
import Intake.Proofs.World.Source

/-! # Closures of a broker's channels

Each loop holds the feed of closures of its channel, and no two loops hold the same. As long as
nobody else uses such a feed, a loop that receives on a closed channel sees the closure before
anything else. So no delivery is taken from a channel that a broker has closed.
-/

namespace Intake

namespace Source

variable {β : Type} {source source' source'' : Source β} {touched : Option Nat}

/-- If the source is a broker it stays one, and spares its channels but one at most. -/
def Spares (touched : Option Nat) (source source' : Source β) : Prop :=
  ∀ b, source = .broker b → ∃ b', source' = .broker b' ∧ b.Spares touched b'

namespace Spares

private theorem refl (touched : Option Nat) (source : Source β) : source.Spares touched source :=
  fun b same => ⟨b, same, .refl touched b⟩

private theorem trans (first : source.Spares touched source')
    (second : source'.Spares touched source'') :
    source.Spares touched source'' := by
  intro b same
  obtain ⟨b', same', earlier⟩ := first b same
  obtain ⟨b'', same'', later⟩ := second b' same'
  exact ⟨b'', same'', earlier.trans later⟩

private theorem script (s : Script β) (source' : Source β) :
    (Source.script s).Spares touched source' :=
  nofun

private theorem broker {b b' : Broker β} (spares : b.Spares touched b') :
    (Source.broker b).Spares touched (.broker b') := by
  intro other same
  cases same
  exact ⟨b', rfl, spares⟩

private theorem withDeliveries (source : Source β) (channel : Channel)
    (change : Feed (Delivery β) → Feed (Delivery β)) :
    source.Spares touched (source.withDeliveries channel change) := by
  cases source with
  | broker b => exact .broker (.withDeliveries b channel.id change)
  | script s => exact .script _ _

private theorem withNotices (source : Source β) (channel : Channel)
    (change : Feed Closure → Feed Closure) :
    source.Spares (some channel.id) (source.withNotices channel change) := by
  cases source with
  | broker b => exact .broker (.withNotices b channel.id change)
  | script s => exact .script _ _

end Spares

end Source

namespace World

variable {β : Type} {w w' w₀ : World β} {e : Event β} {b b' : Broker β}

private theorem spares_answer {i : Nat} {c : Consumer β} (holds : c.demand ≠ .lease)
    (touched : Option Nat) : w.source.Spares touched (w.answer i c).2 := by
  unfold answer
  split
  · exact .refl _ _
  · next lease => exact absurd lease holds
  · cases source : w.source with
    | broker b => exact .broker (.limit b _ _ _)
    | script s => exact .script _ _
  · cases source : w.source with
    | broker b => exact .broker (.subscribe b _ _)
    | script s => exact .script _ _
  · exact .refl _ _
  · cases source : w.source with
    | broker b => exact .broker (.release b _ _)
    | script s => exact .script _ _

private theorem spares_takeOff (source : Source β) {channel : Option Channel}
    {taken : Consumer.Taken}
    (uses : ∀ one, channel = some one → taken = .notice → touched = some one.id) :
    source.Spares touched (takeOff source channel taken) := by
  unfold takeOff
  split
  · rw [uses _ rfl rfl]
    exact .withNotices _ _ _
  · exact .withDeliveries _ _ _
  · exact .refl _ _

private theorem spares_giveUp (source : Source β) {old new : Phase}
    (uses : ∀ one, old.listening? = some one → new.listening? ≠ some one →
      touched = some one.id) : source.Spares touched (giveUp source old new) := by
  unfold giveUp
  extract_lets kept
  have stream : source.Spares touched kept := by
    unfold kept
    split
    · split
      · exact .refl _ _
      · exact .withDeliveries _ _ _
    · exact .refl _ _
  refine stream.trans ?_
  split
  · next one listens =>
    split
    · exact .refl _ _
    · next other =>
      rw [uses one listens other]
      exact .withNotices _ _ _
  · exact .refl _ _

/-- What a step of a loop makes of the source, if it does not lease a channel. -/
private theorem spares_loop {i : Nat} {c : Consumer β} {new : Phase} (holds : c.demand ≠ .lease)
    (takes : ∀ one, c.phase.receiving? = some one → c.takes (w.answer i c).1 = .notice →
      touched = some one.id)
    (drops : ∀ one, c.phase.listening? = some one → new.listening? ≠ some one →
      touched = some one.id) :
    w.source.Spares touched
      (giveUp (takeOff (w.answer i c).2 c.phase.receiving? (c.takes (w.answer i c).1)) c.phase
        new) :=
  (spares_answer holds touched).trans ((spares_takeOff _ takes).trans (spares_giveUp _ drops))

/-- What a loop sees on the feed of closures of a channel that is attended. -/
private theorem notices_of_attended {channel : Channel} (source : w.source = .broker b)
    (attended : b.Attended channel.id) :
    b.standing? channel.id = some (true, .fresh) ∧
        (w.source.notices channel).glance = .quiet ∨
      ∃ closure, (w.source.notices channel).glance = .item closure := by
  have notices : w.source.notices channel =
      ((b.standing? channel.id).map (·.2)).getD .unused := by
    rw [source, Source.notices, Broker.standing?, Option.map_map]
    rfl
  rw [notices]
  obtain same | ⟨closure, same⟩ := attended
  · exact .inl ⟨same, by rw [same]; rfl⟩
  · exact .inr ⟨closure, by rw [same]; rfl⟩

/-- Deliveries are taken by loops only. -/
private theorem exists_of_taken {got : Channel × Delivery β} (takes : got ∈ w.taken e) :
    ∃ (i : Nat) (c : Consumer β), w.consumers[i]? = some c ∧
      got ∈ c.taken (.proceed w.now (w.answer i c).1) := by
  unfold World.taken at takes
  split at takes
  · next i =>
    cases found : w.consumers[i]? with
    | none => simp [found] at takes
    | some c => exact ⟨i, c, found, by simpa [found] using takes⟩
  · cases takes

/-! ## Loops and their feeds -/

/-- How a loop stands to a broker: the broker knows the loop's channel, and if the loop may still
receive, it watches the feed of closures, which nobody has used. -/
structure Minds (phase : Phase) (b : Broker β) : Prop where
  known : ∀ channel, phase.listening? = some channel → channel.id ≤ b.lanes.length
  attended : ∀ channel, phase.attends? = some channel → b.Attended channel.id
  watching : ∀ channel, phase ≠ .streaming channel false

private theorem minds_of_unheld {phase : Phase} (unheld : phase.listening? = none) (b : Broker β) :
    Minds phase b where
  known channel listens := by cases unheld.symm.trans listens
  attended channel attends := by cases unheld.symm.trans (listening?_of_attends? attends)
  watching channel streams := by
    rw [streams] at unheld
    cases unheld

/-- The source is a broker, and each loop holds a feed of closures of its own. -/
structure Attentive (w : World β) (b : Broker β) : Prop where
  source : w.source = .broker b
  numbered : b.Numbered
  orderly : ∀ (i : Nat) (c : Consumer β), w.consumers[i]? = some c → c.Orderly
  minds : ∀ (i : Nat) (c : Consumer β), w.consumers[i]? = some c → Minds c.phase b
  apart : ∀ (i j : Nat) (c c' : Consumer β) (channel channel' : Channel), i ≠ j →
    w.consumers[i]? = some c → w.consumers[j]? = some c' →
    c.phase.listening? = some channel → c'.phase.listening? = some channel' →
    channel.id ≠ channel'.id

/-- Somebody else uses the feed of closures that a loop holds. The feed is handed over with the
lease, so nobody can who has not leased the channel. -/
def Intrudes (t : Transition (World β) (Event β)) : Prop :=
  ∃ (i : Nat) (c : Consumer β) (channel : Channel) (a : Broker.Act β),
    t.source.consumers[i]? = some c ∧ c.phase.listening? = some channel ∧
      t.event = .broker a ∧ a.reads? = some channel.id

namespace Attentive

/-- The consumers stay as they are, and the broker changes. -/
private theorem effect (attentive : w.Attentive b) (effect : b.Effect touched b')
    (source : w'.source = .broker b') (consumers : w'.consumers = w.consumers)
    (unread : ∀ (i : Nat) (c : Consumer β) (channel : Channel), w.consumers[i]? = some c →
      c.phase.listening? = some channel → touched ≠ some channel.id) : w'.Attentive b' := by
  obtain ⟨numbered, more⟩ := attentive.numbered.effect effect
  refine ⟨source, numbered, ?_, ?_, ?_⟩
  · rw [consumers]
    exact attentive.orderly
  · intro i c found
    rw [consumers] at found
    obtain ⟨known, attended, watching⟩ := attentive.minds i c found
    refine ⟨?_, ?_, watching⟩
    · intro channel listens
      exact Nat.le_trans (known channel listens) more
    · intro channel attends
      exact (attended channel attends).effect effect
        (unread i c channel found (listening?_of_attends? attends))
  · rw [consumers]
    exact attentive.apart

/-- One consumer takes a step, and with it the broker. -/
private theorem change {i : Nat} {c c' : Consumer β} (attentive : w.Attentive b)
    (found : w.consumers[i]? = some c) (source : w'.source = .broker b')
    (consumers : w'.consumers = w.consumers.set i c')
    (numbered : b'.Numbered) (more : b.lanes.length ≤ b'.lanes.length)
    (orderly : c'.Orderly) (minds : Minds c'.phase b')
    (listens : ∀ channel, c'.phase.listening? = some channel →
      c.phase.listening? = some channel ∨ b.lanes.length < channel.id)
    (others : ∀ id, c.phase.listening?.map (·.id) ≠ some id → b.Attended id → b'.Attended id) :
    w'.Attentive b' := by
  have own {j : Nat} {d : Consumer β} (found' : w'.consumers[j]? = some d) :
      j = i ∧ d = c' ∨ j ≠ i ∧ w.consumers[j]? = some d :=
    found_of_set (consumers ▸ found')
  refine ⟨source, numbered, ?_, ?_, ?_⟩
  · intro j d found'
    obtain ⟨rfl, rfl⟩ | ⟨other, found'⟩ := own found'
    · exact orderly
    · exact attentive.orderly j d found'
  · intro j d found'
    obtain ⟨rfl, rfl⟩ | ⟨other, found'⟩ := own found'
    · exact minds
    · obtain ⟨known, attended, watching⟩ := attentive.minds j d found'
      refine ⟨fun channel listens => Nat.le_trans (known channel listens) more, ?_, watching⟩
      intro channel attends
      refine others channel.id ?_ (attended channel attends)
      intro mine
      obtain ⟨held, listening, same⟩ := Option.map_eq_some_iff.mp mine
      exact attentive.apart i j c d held channel other.symm found found' listening
        (listening?_of_attends? attends) same
  · rw [consumers]
    refine Apart.set attentive.apart ?_ found listens
    exact fun j d channel found' => (attentive.minds j d found').known channel

/-- A consumer is used. -/
private theorem outside {own : Consumer.Event β} {i : Nat} {c c' : Consumer β}
    (attentive : w.Attentive b) (found : w.consumers[i]? = some c) (stepped : c.step? own = some c')
    (outside : ∀ now answer, own ≠ .proceed now answer) (source : w'.source = w.source)
    (consumers : w'.consumers = w.consumers.set i { c' with notes := [] }) : w'.Attentive b := by
  have orderly := attentive.orderly i c found
  have minds := attentive.minds i c found
  have after := orderly.step? stepped
  have source := source.trans attentive.source
  obtain same | ⟨_, launched⟩ := Consumer.phase_of_step? orderly stepped outside
  · refine attentive.change found source consumers attentive.numbered (Nat.le_refl _) after
      (same ▸ minds) ?_ (fun _ _ attended => attended)
    intro channel listens
    exact .inl (same ▸ listens)
  · have unheld : c'.phase.listening? = none := by
      rw [launched]
      rfl
    refine attentive.change found source consumers attentive.numbered (Nat.le_refl _) after
      (minds_of_unheld unheld b) ?_ (fun _ _ attended => attended)
    intro channel listens
    cases unheld.symm.trans listens

/-- A loop asks the broker for a channel. -/
private theorem lease {i : Nat} {c next : Consumer β} (attentive : w.Attentive b)
    (found : w.consumers[i]? = some c) (demand : c.demand = .lease)
    (proceeded : c.proceed? w.now (w.answer i c).1 = some next)
    (source : w'.source = giveUp (takeOff (w.answer i c).2 c.phase.receiving?
      (c.takes (w.answer i c).1)) c.phase next.phase)
    (consumers : w'.consumers = w.consumers.set i { next with notes := [] }) :
    w'.Attentive b.lease.2 := by
  have acquiring := Consumer.phase_of_demand demand
  have answer : w.answer i c = (.leased b.lease.1, .broker b.lease.2) := by
    rw [World.answer, demand, attentive.source]
    rfl
  have after : next.Orderly :=
    (attentive.orderly i c found).turn (Consumer.Advance.of_proceed? proceeded).turn
  rw [answer] at proceeded source
  have same : c.leased w.now b.lease.1 = next := by
    simpa [Consumer.proceed?, acquiring] using proceeded
  have after' : w'.source = .broker b.lease.2 := by
    simpa [giveUp, takeOff, acquiring, Phase.receiving?, Phase.listening?] using source
  obtain ⟨numbered, more⟩ := attentive.numbered.effect .lease
  have others (id : Nat) (attended : b.Attended id) : b.lease.2.Attended id := attended.lease
  subst same
  cases leased : b.lease.1 with
  | ok channel =>
    obtain ⟨number, count, attended⟩ := attentive.numbered.attended_lease leased
    have phase : (c.leased w.now (.ok channel)).phase = .begun c.settings channel := rfl
    have attends := attends?_begun c.settings channel
    have listens := listening?_of_attends? attends
    rw [leased] at consumers after
    refine attentive.change found after' consumers numbered more after ?_ ?_
      (fun id _ => others id)
    · refine ⟨?_, ?_, ?_⟩
      · intro other mine
        cases (phase ▸ listens).symm.trans mine
        omega
      · intro other mine
        cases (phase ▸ attends).symm.trans mine
        exact attended
      · intro other
        change Phase.begun c.settings channel ≠ _
        unfold Phase.begun
        split <;> simp
    · intro other mine
      cases (phase ▸ listens).symm.trans mine
      right
      omega
  | error fault =>
    rw [leased] at consumers after
    have unheld : (c.leased w.now (.error fault)).phase.listening? = none := rfl
    refine attentive.change found after' consumers numbered more after
      (minds_of_unheld unheld _) ?_ (fun id _ => others id)
    intro channel listens
    cases unheld.symm.trans listens

/-- A loop goes on that does not ask for a channel. -/
private theorem proceed {i : Nat} {c next : Consumer β} (attentive : w.Attentive b)
    (found : w.consumers[i]? = some c) (demand : c.demand ≠ .lease)
    (proceeded : c.proceed? w.now (w.answer i c).1 = some next)
    (source : w'.source = giveUp (takeOff (w.answer i c).2 c.phase.receiving?
      (c.takes (w.answer i c).1)) c.phase next.phase)
    (consumers : w'.consumers = w.consumers.set i { next with notes := [] }) :
    ∃ b', w'.Attentive b' := by
  have minds := attentive.minds i c found
  have advance := Consumer.Advance.of_proceed? proceeded
  have after : next.Orderly := (attentive.orderly i c found).turn advance.turn
  have moves := advance.moves
  have elsewhere : c.phase ≠ .acquiring := by
    intro acquiring
    exact demand (by rw [Consumer.demand, acquiring])
  have listened {channel : Channel} (listens : next.phase.listening? = some channel) :
      c.phase.listening? = some channel :=
    (Consumer.listening_of_moves moves listens).resolve_right elsewhere
  -- it uses the feed that it holds at most
  have held : w.source.Spares (c.phase.listening?.map (·.id)) w'.source := by
    rw [source]
    apply spares_loop demand
    · intro one receives _
      rw [Consumer.listening?_of_receiving? receives]
      rfl
    · intro one listens _
      rw [listens]
      rfl
  obtain ⟨b', source', spares⟩ := held b attentive.source
  -- it leaves the feed alone as long as it may receive
  have kept {channel : Channel} (attends : next.phase.attends? = some channel) :
      b.Spares none b' := by
    have listens := listening?_of_attends? attends
    have quiet : w.source.Spares none w'.source := by
      rw [source]
      apply spares_loop demand
      · intro one _ takes
        rw [Consumer.attends_of_notice proceeded takes] at attends
        cases attends
      · intro one before other
        exact absurd (listens.trans ((listened listens).symm.trans before)) other
    obtain ⟨b'', same, spares⟩ := quiet b attentive.source
    cases source'.symm.trans same
    exact spares
  refine ⟨b', attentive.change found source' consumers (attentive.numbered.spares spares)
    (Nat.le_of_eq spares.count.symm) after ⟨?_, ?_, ?_⟩ (fun _ listens => .inl (listened listens))
    (fun _ other attended => attended.spares spares other)⟩
  · intro channel listens
    rw [spares.count]
    exact minds.known channel (listened listens)
  · intro channel attends
    have before := (Consumer.attends_of_moves moves attends).resolve_right elsewhere
    exact (minds.attended channel before).spares (kept attends) (by simp)
  · intro channel unwatched
    obtain ⟨watching, phase⟩ := Consumer.streaming_of_moves moves unwatched
    cases watching with
    | false => exact minds.watching channel phase
    | true =>
      have attended := minds.attended channel (by rw [phase]; rfl)
      have notOver : (w.source.notices channel).glance ≠ .over := by
        obtain ⟨_, quiet⟩ | ⟨closure, seen⟩ := notices_of_attended attentive.source attended
        · rw [quiet]
          simp
        · rw [seen]
          simp
      have answer : (w.answer i c).1 = .seen (w.source.notices channel).glance
          (w.source.deliveries channel).glance := by
        rw [World.answer, Consumer.demand, phase]
      rw [answer] at proceeded
      exact Consumer.watching_of_proceed? phase notOver proceeded channel unwatched

private theorem untouched (w : World β) : ∀ (i : Nat) (c : Consumer β) (channel : Channel),
    w.consumers[i]? = some c → c.phase.listening? = some channel → none ≠ some channel.id := by
  intro i c channel _ _
  exact nofun

/-- Whatever happens, each loop has its feed of closures for itself, unless somebody intrudes. -/
theorem happen? (attentive : w.Attentive b) (stepped : w.happen? e = some w')
    (alone : ¬Intrudes ⟨w, e, w'⟩) : ∃ b', w'.Attentive b' := by
  have source := attentive.source
  have idle (same : w'.source = w.source) (consumers : w'.consumers = w.consumers) :
      ∃ b', w'.Attentive b' :=
    ⟨b, attentive.effect (.quiet (.refl _ b)) (same.trans source) consumers (untouched _)⟩
  cases e with
  | task t =>
    cases t with
    | loop i =>
      obtain ⟨c, found, ⟨next, proceeded, rfl⟩ | ⟨pending, demand, rfl⟩⟩ :=
        proceeds_of_loop? stepped
      · by_cases demand : c.demand = .lease
        · exact ⟨_, attentive.lease found demand proceeded rfl rfl⟩
        · exact attentive.proceed found demand proceeded rfl rfl
      · have answer : (w.answer i c).1 = .leased b.lease.1 := by
          rw [World.answer, demand, source]
          rfl
        rw [answer] at pending
        simp [Consumer.proceed?, Consumer.phase_of_demand demand] at pending
    | dispatch i number =>
      obtain ⟨c, found, stepped⟩ := Option.bind_eq_some_iff.mp stepped
      obtain ⟨c', forwarded, rfl⟩ := Option.map_eq_some_iff.mp stepped
      have own : c.step? (.forward number) = some c' := forwarded
      exact ⟨b, attentive.outside found own (by simp) rfl rfl⟩
    | reader k =>
      obtain ⟨readers, rfl | ⟨i, c, side, u, found, rfl⟩⟩ := of_reader? stepped
      · exact idle rfl rfl
      · have own : c.step? (.act (.use side u)) = some (c.perform (.use side u)) := rfl
        exact ⟨b, attentive.outside found own (by simp) rfl rfl⟩
    | closure k =>
      obtain ⟨b₁, late, closures, source₁, rfl⟩ := of_closure? stepped
      cases source.symm.trans source₁
      exact ⟨_, attentive.effect .close rfl rfl (untouched _)⟩
  | pass ms =>
    cases stepped
    exact idle rfl rfl
  | act i a =>
    obtain ⟨c, found, rfl⟩ := Option.map_eq_some_iff.mp stepped
    have own : c.step? (.act a) = some (c.perform a) := rfl
    exact ⟨b, attentive.outside found own (by simp) rfl rfl⟩
  | broker a =>
    obtain ⟨b₁, source₁, rfl⟩ := of_broker stepped
    cases source.symm.trans source₁
    refine ⟨_, attentive.effect (b.effect_apply a) rfl rfl ?_⟩
    intro i c channel found listens reads
    exact alone ⟨i, c, channel, a, found, listens, rfl, reads⟩
  | wait i side =>
    cases stepped
    exact idle rfl rfl
  | abort k =>
    obtain ⟨r, found, rfl⟩ := Option.map_eq_some_iff.mp stepped
    exact idle rfl rfl
  | closeLate closure ms =>
    obtain ⟨b₁, closures, source₁, rfl⟩ := of_closeLate stepped
    cases source.symm.trans source₁
    exact ⟨_, attentive.effect (.quiet (.cancel b)) rfl rfl (untouched _)⟩

private theorem ofSource {queue : String} {consumers : List (Consumer β)}
    (created : ∀ c ∈ consumers, ∃ settings pool, Consumer.create settings pool = .ok c) :
    (World.ofSource (.broker (.ofQueue queue)) consumers).Attentive (.ofQueue queue) := by
  have idle {i : Nat} {c : Consumer β} (found : consumers[i]? = some c) :
      c.Orderly ∧ c.phase.listening? = none := by
    obtain ⟨settings, pool, created⟩ := created c (List.mem_of_getElem? found)
    refine ⟨Consumer.orderly_of_create created, ?_⟩
    rw [Consumer.create_eq_ok created]
    rfl
  refine ⟨rfl, fun _ _ => rfl, fun i c found => (idle found).1, ?_, ?_⟩
  · intro i c found
    exact minds_of_unheld (idle found).2 _
  · intro i j c c' channel channel' _ found _ listens
    cases (idle found).2.symm.trans listens

/-- No loop takes a delivery from a closed channel. -/
private theorem open_of_taken {got : Channel × Delivery β} (attentive : w.Attentive b)
    (takes : got ∈ w.taken e) : ¬b.Closed got.1.id := by
  intro closed
  obtain ⟨i, c, found, member⟩ := exists_of_taken takes
  have arrives : c.takes (w.answer i c).1 = .arrival := by
    by_contra other
    rw [Consumer.taken_eq_nil other] at member
    cases member
  obtain ⟨channel, watching, notice, arrival, d, phase, answered, chosen⟩ :=
    Consumer.chosen_of_takes arrives
  rw [answered, Consumer.taken_of_delivery phase chosen, List.mem_singleton] at member
  subst member
  have minds := attentive.minds i c found
  have watches : watching = true := by
    cases watching with
    | false => exact absurd phase (minds.watching channel)
    | true => rfl
  have answer : (w.answer i c).1 = .seen (w.source.notices channel).glance
      (w.source.deliveries channel).glance := by
    rw [World.answer, Consumer.demand, phase]
  have same := (Answer.seen.inj (answer.symm.trans answered)).1
  obtain ⟨standing, _⟩ | ⟨closure, seen⟩ :=
    notices_of_attended attentive.source (minds.attended channel (by rw [phase]; rfl))
  · exact closed.standing?_ne standing
  · rw [watches, ← same, seen] at chosen
    cases chosen

end Attentive

/-! ## Histories -/

private theorem Attentive.after? {events : List (Event β)} (attentive : w₀.Attentive b)
    (ran : Replay.after? World.happen? w₀ events = some w)
    (alone : ∀ t ∈ Replay.transitions World.happen? w₀ events, ¬Intrudes t) :
    ∃ b', w.Attentive b' := by
  refine Replay.after?_induction
    (P := fun events w => (∀ t ∈ Replay.transitions World.happen? w₀ events, ¬Intrudes t) →
      ∃ b', w.Attentive b') (fun _ => ⟨b, attentive⟩) ?_ ran alone
  intro events middle event next before ih stepped alone
  rw [Replay.transitions_concat before stepped] at alone
  obtain ⟨b', attentive⟩ := ih fun t earlier => alone t (List.mem_append_left _ earlier)
  exact attentive.happen? stepped (alone _ (by simp))

private theorem closed_of_happen? {id : Nat} (source : w.source = .broker b) (closed : b.Closed id)
    (stepped : w.happen? e = some w') : ∃ b', w'.source = .broker b' ∧ b'.Closed id := by
  obtain ⟨b', source', ⟨_, evolves⟩ | ⟨got, middle, _, ⟨lane, rest, found, _, rfl⟩, evolves⟩⟩ :=
    source_of_happen? source stepped
  · exact ⟨b', source', closed.evolves evolves⟩
  · have takes : b.Evolves (b.setLane { lane with deliveries := lane.deliveries.drop }) :=
      .setLane found .take
    exact ⟨b', source', closed.evolves (takes.trans evolves)⟩

private theorem closed_of_after? {id : Nat} {events : List (Event β)}
    (source : w₀.source = .broker b)
    (closed : b.Closed id) (ran : Replay.after? World.happen? w₀ events = some w) :
    ∃ b', w.source = .broker b' ∧ b'.Closed id := by
  refine Replay.after?_preserves
    (P := fun w : World β => ∃ b', w.source = .broker b' ∧ b'.Closed id) ?_ ⟨b, source, closed⟩ ran
  intro middle event next earlier stepped
  obtain ⟨b', source', closed'⟩ := earlier
  exact closed_of_happen? source' closed' stepped

/-- From when a channel was closed, no delivery is taken from it. -/
private theorem Attentive.ne_of_taken {id : Nat} {events : List (Event β)}
    {got : Channel × Delivery β} (attentive : w₀.Attentive b) (closed : b.Closed id)
    (alone : ∀ t ∈ Replay.transitions World.happen? w₀ events, ¬Intrudes t)
    (takes : got ∈ Replay.gather World.happen? taken w₀ events) : got.1.id ≠ id := by
  rintro rfl
  obtain ⟨t, there, atStep⟩ := List.mem_flatMap.mp takes
  obtain ⟨before, after, cut⟩ := List.append_of_mem there
  obtain ⟨first, _, rfl, reached, rfl, _⟩ := Replay.exists_of_transitions_eq cut
  obtain ⟨b', attentive'⟩ := attentive.after? reached fun t' earlier =>
    alone t' (cut ▸ List.mem_append_left _ earlier)
  obtain ⟨b'', source, closed⟩ := closed_of_after? attentive.source closed reached
  cases attentive'.source.symm.trans source
  exact attentive'.open_of_taken atStep closed

/-- A closure that is on the feed when a loop goes on to receive comes before all that is ready
besides, with or without a permit: the loop takes neither a delivery nor a stop signal, reports and
counts the first closure, and its next two steps at most give the channel back with an error, with
nothing in between but the pool's prefetch limit. So once a broker has closed a channel no delivery
is taken from it, as long as each loop has its feed of closures for itself. -/
theorem closure_first :
    (∀ {settings : ConsumerSettings} {pool : PoolSettings} {c₀ c : Consumer β}
      {events : List (Consumer.Event β)} {channel : Channel} {feed : Feed Closure}
      {closure : Closure} {rest : List Closure}, Consumer.create settings pool = .ok c₀ →
      Replay.after? Consumer.step? c₀ events = some c → c.phase = .streaming channel true →
      feed.items = closure :: rest → ∀ (now : Nat) (arrival : Glance (Delivery β)), ∃ c',
        c.step? (.proceed now (.seen feed.glance arrival)) = some c' ∧
        c.takes (.seen feed.glance arrival) = .notice ∧
        c.taken (.proceed now (.seen feed.glance arrival)) = [] ∧
        c'.dispatches = c.dispatches ∧ c'.stopSignal = c.stopSignal ∧
        c.deeds (.proceed now (.seen feed.glance arrival)) =
          [.countClosure, .report (.channelClosed closure)] ∧
        c'.metered.closures = c.metered.closures + 1 ∧
        (∃ earlier limited, Replay.gather Consumer.step? Consumer.deeds c₀ events =
          earlier ++ Consumer.Lease.receiving settings channel limited) ∧
        ∀ {later : List (Consumer.Event β)} {c'' : Consumer β},
          Replay.after? Consumer.step? c' later = some c'' → ∃ restored,
            Consumer.partingDeeds pool channel restored <+:
              Replay.gather Consumer.step? Consumer.deeds c' later ∨
            Replay.gather Consumer.step? Consumer.deeds c' later <+:
              Consumer.partingDeeds pool channel restored ∧
            later.countP Consumer.Event.ofLoop < 2 ∧
            ∀ now result, ∃ next, c''.step? (.proceed now (.done result)) = some next) ∧
    (∀ {b : Broker β} {id : Nat} {lane : Lane β} (closure : Closure), b.lane? id = some lane →
      (b.close id closure).Closed id) ∧
    ∀ {queue : String} {consumers : List (Consumer β)} {events later : List (Event β)}
      {w : World β} {b : Broker β} {id : Nat},
      (∀ c ∈ consumers, ∃ settings pool, Consumer.create settings pool = .ok c) →
      Replay.after? World.happen? (ofSource (.broker (.ofQueue queue)) consumers) events = some w →
      w.source = .broker b → b.Closed id →
      (∀ t ∈ Replay.transitions World.happen? (ofSource (.broker (.ofQueue queue)) consumers)
        (events ++ later), ¬Intrudes t) →
      ∀ got ∈ Replay.gather World.happen? taken w later, got.1.id ≠ id := by
  refine ⟨?_, fun closure found => Broker.closed_close found closure, ?_⟩
  · intro settings pool c₀ c events channel feed closure rest created ran phase items now arrival
    have accounted := Consumer.accounted_of_after? created ran
    obtain ⟨rfl, rfl⟩ := Consumer.settings_of_after? created ran
    obtain ⟨c', stepped, takes, taken, deeds, parted, dispatches, signal, counted⟩ :=
      Consumer.closure_seen phase items now arrival
    have orderly := accounted.orderly.step? stepped
    have pool := accounted.orderly.pool stepped
    refine ⟨c', stepped, takes, taken, dispatches, signal, deeds, counted, ?_, ?_⟩
    · exact accounted.account.exists_receiving (by rw [phase]; rfl)
    · intro later c'' ran'
      rw [← pool] at parted ⊢
      have since := Consumer.SinceClosure.after? orderly parted ran'
      obtain ⟨restored, given | ⟨part, few, parting⟩⟩ := since.exists_parting
      · exact ⟨restored, .inl given⟩
      · exact ⟨restored, .inr ⟨part, few, parting.proceeds⟩⟩
  · intro queue consumers events later w b id created ran source closed alone got takes
    rw [Replay.transitions_append later ran] at alone
    obtain ⟨b', attentive⟩ := (Attentive.ofSource created).after? ran fun t earlier =>
      alone t (List.mem_append_left _ earlier)
    cases attentive.source.symm.trans source
    refine attentive.ne_of_taken closed (fun t there => ?_) takes
    exact alone t (List.mem_append_right _ there)

/-- A channel is leased and receives, and the consumer is told to stop. -/
def toldToStop : List (Consumer.Event Nat) :=
  [.act .start, .proceed 0 .nothing, .proceed 0 (.leased (.ok ⟨1, 1⟩)), .proceed 0 (.done (.ok ())),
    .act (.stop false)]

def twoClosures : Feed Closure := ⟨[⟨320, "CONNECTION_FORCED"⟩, ⟨200, ""⟩], true, true⟩

/-- Two closures and a delivery are there. -/
def allAtOnce : Answer Nat := .seen twoClosures.glance (.item ⟨1, 10, false, "", ""⟩)

/-- The pool's prefetch limit is put back and the channel released. -/
def givenBack : List (Consumer.Event Nat) := List.replicate 2 (.proceed 0 (.done (.ok ())))

/-- A body is delivered, and the channel closes before the loop looks at it. -/
def closedOver : List (Event Nat) :=
  .act 0 .start :: List.replicate 3 (.task (.loop 0)) ++
    [.broker (.publish 10), .broker (.closeActive ⟨320, "CONNECTION_FORCED"⟩)]

/-- The loop gives the channel back, leases the next and takes the body from it. -/
def leasedAnew : List (Event Nat) := List.replicate 7 (.task (.loop 0))

theorem closure_first_pending : ∃ (c₀ c c' c'' : Consumer Nat) (w : World Nat) (b : Broker Nat)
    (restored : Except ChannelFault Unit), Consumer.create .default ⟨7, 1⟩ = .ok c₀ ∧
    Replay.after? Consumer.step? c₀ toldToStop = some c ∧ c.phase = .streaming ⟨1, 1⟩ true ∧
    c.stopSignal = true ∧ c.step? (.proceed 0 allAtOnce) = some c' ∧ c'.stopSignal = true ∧
    c.deeds (.proceed 0 allAtOnce) =
      [.countClosure, .report (.channelClosed ⟨320, "CONNECTION_FORCED"⟩)] ∧
    Replay.after? Consumer.step? c' givenBack = some c'' ∧
    Consumer.partingDeeds ⟨7, 1⟩ ⟨1, 1⟩ restored <+:
      Replay.gather Consumer.step? Consumer.deeds c' givenBack ∧
    Replay.after? World.happen? (ofSource (.broker (.ofQueue "")) [c₀]) closedOver = some w ∧
    w.source = .broker b ∧ b.Closed 1 ∧
    (Replay.gather World.happen? taken w leasedAnew).length = 1 ∧
    ∀ got ∈ Replay.gather World.happen? taken w leasedAnew, got.1.id ≠ 1 := by
  obtain ⟨c₀, created, receives, goes, alone⟩ : ∃ c₀ : Consumer Nat,
      Consumer.create .default ⟨7, 1⟩ = .ok c₀ ∧
      (Replay.after? Consumer.step? c₀ toldToStop).any (fun c =>
        c.phase = .streaming ⟨1, 1⟩ true && c.stopSignal &&
          (Replay.after? Consumer.step? c (.proceed 0 allAtOnce :: givenBack)).isSome) = true ∧
      (Replay.after? World.happen? (ofSource (.broker (.ofQueue "")) [c₀]) closedOver).any
        (fun w => (match w.source with
          | .broker b => (b.lane? 1).any fun lane => !lane.isOpen
          | .script _ => false) &&
            (Replay.gather World.happen? taken w leasedAnew).length == 1) = true ∧
      (Replay.transitions World.happen? (ofSource (.broker (.ofQueue "")) [c₀])
        (closedOver ++ leasedAnew)).all (fun t => match t.event with
          | .broker a => a.reads?.isNone
          | _ => true) = true :=
    ⟨_, rfl, by decide +kernel, by decide +kernel, by decide +kernel⟩
  obtain ⟨c, ran, streams⟩ := (Option.any_eq_true _ _).mp receives
  simp only [Bool.and_eq_true, decide_eq_true_eq, Option.isSome_iff_exists] at streams
  obtain ⟨⟨phase, signal⟩, c'', ends⟩ := streams
  obtain ⟨c', stepped, ends⟩ := Option.bind_eq_some_iff.mp ends
  obtain ⟨w, went, closes⟩ := (Option.any_eq_true _ _).mp goes
  rw [Bool.and_eq_true, beq_iff_eq] at closes
  obtain ⟨closes, once⟩ := closes
  have items : twoClosures.items = [⟨320, "CONNECTION_FORCED"⟩, ⟨200, ""⟩] := rfl
  obtain ⟨next, stepped', _, _, _, unstopped, deeds, _, _, parts⟩ :=
    closure_first.1 created ran phase items 0 (.item ⟨1, 10, false, "", ""⟩)
  cases stepped.symm.trans stepped'
  obtain ⟨restored, given | ⟨_, few, _⟩⟩ := parts ends
  · cases source : w.source with
    | script s => simp [source] at closes
    | broker b =>
      rw [source] at closes
      obtain ⟨lane, found, closed⟩ := (Option.any_eq_true _ _).mp closes
      have closed : b.Closed 1 := ⟨lane, found, by simpa using closed⟩
      refine ⟨c₀, c, c', c'', w, b, restored, created, ran, phase, signal, stepped,
        unstopped.trans signal, deeds, ends, given, went, source, closed, once, ?_⟩
      refine closure_first.2.2 ?_ went source closed ?_
      · intro other member
        rw [List.mem_singleton.mp member]
        exact ⟨_, _, created⟩
      · intro t there intrudes
        obtain ⟨_, _, _, a, _, _, event, reads⟩ := intrudes
        have unread := List.all_eq_true.mp alone t there
        simp [event, reads] at unread
  · exact absurd few (by decide)

end World

end Intake
