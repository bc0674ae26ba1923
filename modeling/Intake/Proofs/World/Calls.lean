import Intake.Proofs.Consumer.Leases
import Intake.Proofs.World.Event

/-! # Recorded calls

A script records every call that is made on it. What it has recorded is what the consumers did, so
the calls of each of them follow the pattern of its leases.
-/

namespace Intake

/-- The call as a script records it. -/
def Deed.call? : Deed → Option Call
  | .lease (.ok channel) => some (.lease (some channel.id))
  | .lease (.error _) => some (.lease none)
  | .limit channel prefetch forAll _ => some (.limit channel.id prefetch forAll)
  | .subscribe channel subscription _ => some (.subscribe channel.id subscription)
  | .release channel errored => some (.release channel.id errored)
  | .launch | .report _ | .countClosure | .stop | .finish => none

private theorem Deed.call?_ne_settle (d : Deed) (id tag : Nat) (verdict : Verdict) :
    d.call? ≠ some (.settle id tag verdict) := by
  cases d with
  | lease result => cases result <;> nofun
  | _ => nofun

namespace Consumer

variable {β : Type} {c c' : Consumer β} {e : Event β}

/-- Only calls are recorded. -/
private theorem calls_of_deeds (stepped : c.step? e = some c') :
    (c.deeds e).filterMap Deed.call? = (c.called e).filterMap Deed.call? := by
  have untold : (c.told c').filterMap Deed.call? = [] := by
    apply List.filterMap_eq_nil_iff.mpr
    intro d member
    rw [told, List.mem_append, List.mem_filterMap, List.mem_map] at member
    obtain ⟨n, _, same⟩ | ⟨fault, _, rfl⟩ := member
    · unfold Note.deed? at same
      split at same <;> cases same <;> rfl
    · rfl
  rw [filterMap_deeds rfl rfl rfl stepped, untold, List.append_nil]

end Consumer

namespace Source

variable {β : Type} {source source' source'' : Source β} {calls calls' : List Call}

/-- If the source is a script that records releases it stays one, and records some calls. -/
def Records (source source' : Source β) (calls : List Call) : Prop :=
  ∀ s, source = .script s → s.recordsRelease = true →
    ∃ s', source' = .script s' ∧ s'.recordsRelease = true ∧ s'.calls = calls.reverse ++ s.calls

namespace Records

private theorem refl (source : Source β) : source.Records source [] :=
  fun s same records => ⟨s, same, records, rfl⟩

private theorem trans (first : source.Records source' calls)
    (second : source'.Records source'' calls') :
    source.Records source'' (calls ++ calls') := by
  intro s same records
  obtain ⟨s', same', records', earlier⟩ := first s same records
  obtain ⟨s'', same'', records'', later⟩ := second s' same' records'
  refine ⟨s'', same'', records'', ?_⟩
  rw [later, earlier, List.reverse_append, List.append_assoc]

private theorem broker (b : Broker β) (source' : Source β) (calls : List Call) :
    (Source.broker b).Records source' calls := nofun

private theorem script {s s' : Script β} (records : s'.recordsRelease = s.recordsRelease)
    (recorded : s'.calls = calls.reverse ++ s.calls) :
    (Source.script s).Records (.script s') calls := by
  intro other same
  cases same
  intro all
  exact ⟨s', rfl, records.trans all, recorded⟩

private theorem request (source : Source β) (now who : Nat) :
    source.Records (source.request now who).2
    ((source.request now who).1.toList.filterMap fun result => (Deed.lease result).call?) := by
  have carriesOut (s : Script β) (plan : Plan β) :
      (s.carryOut plan).2.recordsRelease = s.recordsRelease ∧
        (s.carryOut plan).2.calls =
          ([(s.carryOut plan).1].filterMap fun result => (Deed.lease result).call?).reverse ++
            s.calls := by
    unfold Script.carryOut
    split <;> exact ⟨rfl, rfl⟩
  cases source with
  | broker b => exact .broker _ _ _
  | script s =>
    simp only [Source.request, Script.request]
    split
    · next p asked =>
      split
      · obtain ⟨records, calls⟩ := carriesOut
          { s with pending := s.pending.filter fun other => other.who != who } p.plan
        exact .script records calls
      · exact .script rfl rfl
    · split
      · exact .script rfl rfl
      · next plan plans _ =>
        split
        · obtain ⟨records, calls⟩ := carriesOut { s with plans } plan
          exact .script records calls
        · exact .script rfl rfl

private theorem limit (source : Source β) (channel : Channel) (prefetch : Prefetch)
    (forAll : Bool) :
    source.Records (source.limit channel prefetch forAll).2
      [.limit channel.id prefetch forAll] := by
  cases source with
  | broker b => exact .broker _ _ _
  | script s => exact .script rfl rfl

private theorem subscribe (source : Source β) (channel : Channel) (subscription : Subscription) :
    source.Records (source.subscribe channel subscription).2
      [.subscribe channel.id subscription] := by
  cases source with
  | broker b => exact .broker _ _ _
  | script s =>
    simp only [Source.subscribe, Script.subscribe, Prod.map_snd]
    split
    · exact .script rfl rfl
    · split <;> exact .script rfl rfl

private theorem release (source : Source β) (channel : Channel) (errored : Bool) :
    source.Records (source.release channel errored) [.release channel.id errored] := by
  cases source with
  | broker b => exact .broker _ _ _
  | script s =>
    intro other same records
    cases same
    refine ⟨s.record (.release channel.id errored), ?_, records, rfl⟩
    rw [Source.release, Script.release, if_pos records]

private theorem withNotices (source : Source β) (channel : Channel)
    (change : Feed Closure → Feed Closure) :
    source.Records (source.withNotices channel change) [] := by
  cases source with
  | broker b => exact .broker _ _ _
  | script s => exact .script rfl rfl

private theorem withDeliveries (source : Source β) (channel : Channel)
    (change : Feed (Delivery β) → Feed (Delivery β)) :
    source.Records (source.withDeliveries channel change) [] := by
  cases source with
  | broker b => exact .broker _ _ _
  | script s => exact .script rfl rfl

end Records

end Source

namespace World

variable {β : Type} {w w' w₀ : World β} {e : Event β}

private theorem records_answer (w : World β) (i : Nat) (c : Consumer β) :
    w.source.Records (w.answer i c).2
      ((c.called (.proceed w.now (w.answer i c).1)).filterMap Deed.call?) := by
  cases demand : c.demand with
  | nothing =>
    simp only [answer, Consumer.called, demand]
    exact .refl _
  | lease =>
    have asked := Source.Records.request w.source w.now i
    cases got : w.source.request w.now i with
    | mk result source =>
      rw [got] at asked
      simp only [answer, Consumer.called, demand, got]
      cases result <;> exact asked
  | limit channel prefetch =>
    have limited := Source.Records.limit w.source channel prefetch false
    simp only [answer, Consumer.called, demand]
    exact limited
  | subscribe channel =>
    have subscribed := Source.Records.subscribe w.source channel c.settings.subscription
    simp only [answer, Consumer.called, demand]
    exact subscribed
  | look channel =>
    simp only [answer, Consumer.called, demand]
    exact .refl _
  | release channel errored =>
    have released := Source.Records.release w.source channel errored
    simp only [answer, Consumer.called, demand]
    exact released

private theorem records_takeOff (source : Source β) (channel : Option Channel)
    (taken : Consumer.Taken) :
    source.Records (takeOff source channel taken) [] := by
  unfold takeOff
  split
  · exact .withNotices _ _ _
  · exact .withDeliveries _ _ _
  · exact .refl _

private theorem records_giveUp (source : Source β) (old new : Phase) :
    source.Records (giveUp source old new) [] := by
  unfold giveUp
  extract_lets kept
  have stream : source.Records kept [] := by
    unfold kept
    split
    · split
      · exact .refl _
      · exact .withDeliveries _ _ _
    · exact .refl _
  refine stream.trans ?_
  split
  · split
    · exact .refl _
    · exact .withNotices _ _ _
  · exact .refl _

/-! ## What the consumers do -/

/-- What the consumer `i` does at an event of its own. -/
def deedsAt (w : World β) (i : Nat) (own : Consumer β → Consumer.Event β) : List (Nat × Deed) :=
  (w.consumers[i]?.toList.flatMap fun c => c.deeds (own c)).map (i, ·)

/-- What the consumers do at an event, each deed with the place of its consumer. Those who read the
output queues and the dispatched deliveries do nothing that is seen at the source. -/
def deeds (w : World β) : Event β → List (Nat × Deed)
  | .task (.loop i) => w.deedsAt i fun c => .proceed w.now (w.answer i c).1
  | .task (.dispatch i number) => w.deedsAt i fun _ => .forward number
  | .act i a => w.deedsAt i fun _ => .act a
  | _ => []

/-- The deeds of the consumer `i`. -/
def deedsOf (i : Nat) (done : List (Nat × Deed)) : List Deed :=
  done.filterMap fun (other, d) => if other = i then some d else none

theorem deedsOf_append (i : Nat) (first second : List (Nat × Deed)) :
    deedsOf i (first ++ second) = deedsOf i first ++ deedsOf i second := List.filterMap_append

theorem deedsOf_map (i j : Nat) (ds : List Deed) :
    deedsOf i (ds.map (j, ·)) = if j = i then ds else [] := by
  by_cases same : j = i <;> simp [deedsOf, List.filterMap_map, same]

/-- At an event of a world no consumer does anything, or one takes a step of its own. -/
inductive Does (w : World β) (e : Event β) (w' : World β) : Prop
  | nothing (consumers : w'.consumers = w.consumers) (readings : w'.readings = w.readings)
      (deeds : w.deeds e = [])
  | one (own : Consumer.Event β) {i : Nat} {c c' : Consumer β} (found : w.consumers[i]? = some c)
      (stepped : c.step? own = some c')
      (consumers : w'.consumers = w.consumers.set i { c' with notes := [] })
      (readings : w'.readings = (c'.metered.map (c'.labels, ·)).reverse ++ w.readings)
      (deeds : w.deeds e = (c.deeds own).map (i, ·))

private theorem deedsAt_eq {i : Nat} {c : Consumer β} (own : Consumer β → Consumer.Event β)
    (found : w.consumers[i]? = some c) : w.deedsAt i own = (c.deeds (own c)).map (i, ·) := by
  simp [deedsAt, found]

/-- A loop goes on, or it cannot and asks for a lease. -/
theorem proceeds_of_loop? {i : Nat} (stepped : w.loop? i = some w') :
    ∃ c, w.consumers[i]? = some c ∧
      ((∃ next, c.proceed? w.now (w.answer i c).1 = some next ∧
          w' = { w with source := giveUp (takeOff (w.answer i c).2 c.phase.receiving?
            (c.takes (w.answer i c).1)) c.phase next.phase }.setConsumer i next) ∨
        c.proceed? w.now (w.answer i c).1 = none ∧ c.demand = .lease ∧
          w' = { w with source := (w.answer i c).2 }) := by
  obtain ⟨c, found, ⟨next, proceeded, same⟩ | ⟨demand, same⟩⟩ := of_loop? stepped
  · exact ⟨c, found, .inl ⟨next, proceeded, same⟩⟩
  · refine ⟨c, found, ?_⟩
    cases proceeded : c.proceed? w.now (w.answer i c).1 with
    | none => exact .inr ⟨rfl, demand, same⟩
    | some next =>
      simp only [loop?, found, Option.bind_some, proceeded, Option.some.injEq] at stepped
      exact .inl ⟨next, rfl, stepped.symm⟩

theorem does_of_happen? (stepped : w.happen? e = some w') : Does w e w' := by
  cases e with
  | task t =>
    cases t with
    | loop i =>
      obtain ⟨c, found, after⟩ := proceeds_of_loop? stepped
      have does : w.deeds (.task (.loop i)) =
          (c.deeds (.proceed w.now (w.answer i c).1)).map (i, ·) := deedsAt_eq _ found
      obtain ⟨next, proceeded, rfl⟩ | ⟨pending, _, rfl⟩ := after
      · exact .one (.proceed w.now (w.answer i c).1) found proceeded rfl rfl does
      · have nothing : c.deeds (.proceed w.now (w.answer i c).1) = [] := by
          simp only [Consumer.deeds, Consumer.step?, pending]
        rw [nothing] at does
        exact .nothing rfl rfl does
    | dispatch i number =>
      obtain ⟨c, found, stepped⟩ := Option.bind_eq_some_iff.mp stepped
      obtain ⟨c', forwarded, rfl⟩ := Option.map_eq_some_iff.mp stepped
      exact .one (.forward number) found forwarded rfl rfl (deedsAt_eq _ found)
    | reader k =>
      obtain ⟨readers, rfl | ⟨i, c, side, u, found, rfl⟩⟩ := of_reader? stepped
      · exact .nothing rfl rfl rfl
      · refine .one (.act (.use side u)) found rfl rfl rfl ?_
        rw [Consumer.deeds_use]
        rfl
    | closure k =>
      obtain ⟨_, _, _, _, rfl⟩ := of_closure? stepped
      exact .nothing rfl rfl rfl
  | pass ms =>
    cases stepped
    exact .nothing rfl rfl rfl
  | act i a =>
    obtain ⟨c, found, rfl⟩ := Option.map_eq_some_iff.mp stepped
    exact .one (.act a) found rfl rfl rfl (deedsAt_eq _ found)
  | broker a =>
    obtain ⟨b, _, rfl⟩ := of_broker stepped
    exact .nothing rfl rfl rfl
  | wait i side =>
    cases stepped
    exact .nothing rfl rfl rfl
  | abort k =>
    obtain ⟨r, found, rfl⟩ := Option.map_eq_some_iff.mp stepped
    exact .nothing rfl rfl rfl
  | closeLate closure ms =>
    obtain ⟨_, _, _, rfl⟩ := of_closeLate stepped
    exact .nothing rfl rfl rfl

/-- The calls among the deeds of one consumer. -/
private theorem calls_deedsAt {i : Nat} {c c' : Consumer β} {own : Consumer β → Consumer.Event β}
    (found : w.consumers[i]? = some c) (stepped : c.step? (own c) = some c') :
    (w.deedsAt i own).filterMap (·.2.call?) = (c.called (own c)).filterMap Deed.call? := by
  rw [deedsAt_eq own found, List.filterMap_map, ← Consumer.calls_of_deeds stepped]
  rfl

/-- A call for a lease that takes its time is recorded when it is done. -/
private theorem called_of_pending {c : Consumer β} {now : Nat} {answer : Answer β}
    (demand : c.demand = .lease) (pending : c.proceed? now answer = none) :
    c.called (.proceed now answer) = [] := by
  cases answer with
  | leased result => simp [Consumer.proceed?, Consumer.phase_of_demand demand] at pending
  | _ => simp [Consumer.called, demand]

/-- Only the loops call, and a script records just that. -/
theorem records_of_happen? (stepped : w.happen? e = some w') :
    w.source.Records w'.source ((w.deeds e).filterMap (·.2.call?)) := by
  cases e with
  | task t =>
    cases t with
    | loop i =>
      obtain ⟨c, found, ⟨next, proceeded, rfl⟩ | ⟨pending, demand, rfl⟩⟩ :=
        proceeds_of_loop? stepped
      · have calls : (w.deeds (.task (.loop i))).filterMap (·.2.call?) =
            (c.called (.proceed w.now (w.answer i c).1)).filterMap Deed.call? :=
          calls_deedsAt found proceeded
        have left := (records_takeOff (w.answer i c).2 c.phase.receiving?
          (c.takes (w.answer i c).1)).trans (records_giveUp _ c.phase next.phase)
        have all := (records_answer w i c).trans left
        rw [List.append_nil, List.append_nil, ← calls] at all
        exact all
      · have nothing : w.deeds (.task (.loop i)) = [] := by
          have does : w.deeds (.task (.loop i)) = _ := deedsAt_eq _ found
          simpa [Consumer.deeds, Consumer.step?, pending] using does
        have answered := records_answer w i c
        rw [called_of_pending demand pending] at answered
        rw [nothing]
        exact answered
    | dispatch i number =>
      obtain ⟨c, found, stepped⟩ := Option.bind_eq_some_iff.mp stepped
      obtain ⟨c', forwarded, rfl⟩ := Option.map_eq_some_iff.mp stepped
      have calls : (w.deeds (.task (.dispatch i number))).filterMap (·.2.call?) = [] :=
        calls_deedsAt found forwarded
      rw [calls]
      exact .refl _
    | reader k =>
      obtain ⟨readers, rfl | ⟨i, c, side, u, found, rfl⟩⟩ := of_reader? stepped
      · exact .refl _
      · exact .refl _
    | closure k =>
      obtain ⟨b, _, _, source, _⟩ := of_closure? stepped
      rw [source]
      exact .broker _ _ _
  | pass ms =>
    cases stepped
    exact .refl _
  | act i a =>
    obtain ⟨c, found, rfl⟩ := Option.map_eq_some_iff.mp stepped
    have acted : c.step? (.act a) = some (c.perform a) := rfl
    have calls : (w.deeds (.act i a)).filterMap (·.2.call?) = [] := calls_deedsAt found acted
    rw [calls]
    exact .refl _
  | broker a =>
    obtain ⟨b, source, rfl⟩ := of_broker stepped
    rw [source]
    exact .broker _ _ _
  | wait i side =>
    cases stepped
    exact .refl _
  | abort k =>
    obtain ⟨r, found, rfl⟩ := Option.map_eq_some_iff.mp stepped
    exact .refl _
  | closeLate closure ms =>
    obtain ⟨b, _, source, _⟩ := of_closeLate stepped
    rw [source]
    exact .broker _ _ _

/-! ## Histories -/

/-- What each consumer has done fits its loop. -/
def Accounted (w : World β) (done : List (Nat × Deed)) : Prop :=
  ∀ i (c : Consumer β), w.consumers[i]? = some c → c.Accounted (deedsOf i done)

private theorem Accounted.happen? {done : List (Nat × Deed)} (accounted : w.Accounted done)
    (stepped : w.happen? e = some w') : w'.Accounted (done ++ w.deeds e) := by
  cases does_of_happen? stepped with
  | nothing consumers readings deeds =>
    rw [deeds, List.append_nil]
    intro i c found
    exact accounted i c (consumers ▸ found)
  | @one own j before after found' stepped consumers readings deeds =>
    intro i c found
    rw [deeds, deedsOf_append, deedsOf_map]
    rw [consumers] at found
    obtain ⟨rfl, rfl⟩ | ⟨other, found⟩ := found_of_set found
    · rw [if_pos rfl]
      exact ((accounted i before found').step? stepped).collect []
    · rw [if_neg other.symm, List.append_nil]
      exact accounted i c found

private theorem accounted_of_after? {source : Source β} {consumers : List (Consumer β)}
    {events : List (Event β)}
    (created : ∀ c ∈ consumers, ∃ settings pool, Consumer.create settings pool = .ok c)
    (ran : Replay.after? World.happen? (ofSource source consumers) events = some w) :
    w.Accounted (Replay.gather World.happen? deeds (ofSource source consumers) events) := by
  refine Replay.after?_induction
    (P := fun events w =>
      w.Accounted (Replay.gather World.happen? deeds (ofSource source consumers) events))
    ?_ ?_ ran
  · intro i c found
    obtain ⟨settings, pool, created⟩ := created c (List.mem_of_getElem? found)
    exact .create created
  · intro events middle event next before accounted stepped
    rw [Replay.gather_concat deeds before stepped]
    exact accounted.happen? stepped

private theorem records_of_after? {events : List (Event β)}
    (ran : Replay.after? World.happen? w₀ events = some w) : w₀.source.Records w.source
      ((Replay.gather World.happen? deeds w₀ events).filterMap (·.2.call?)) := by
  refine Replay.after?_induction
    (P := fun events w => w₀.source.Records w.source
      ((Replay.gather World.happen? deeds w₀ events).filterMap (·.2.call?)))
    (.refl _) ?_ ran
  intro events middle event next before recorded stepped
  rw [Replay.gather_concat deeds before stepped, List.filterMap_append]
  exact recorded.trans (records_of_happen? stepped)

/-- Whatever the source answers, a consumer holds one channel at a time: what it does is a sequence
of runs, each a sequence of leases, that may be cut at any place while it is started, and its calls
hand over its settings as they are. A stop gives the last channel of a run back, and nothing else is
given back without an error. A script records just the calls among what the consumers do, and none
of them settles a delivery. -/
theorem leases_in_turn :
    (∀ {settings : ConsumerSettings} {pool : PoolSettings} {c₀ c : Consumer β}
      {events : List (Consumer.Event β)}, Consumer.create settings pool = .ok c₀ →
      Replay.after? Consumer.step? c₀ events = some c →
      (∃ runs : List Consumer.Run, Replay.gather Consumer.step? Consumer.deeds c₀ events <+:
        runs.flatMap (Consumer.Run.deeds settings pool)) ∧
      (∀ d ∈ Replay.gather Consumer.step? Consumer.deeds c₀ events, d.Configured settings pool) ∧
      (c.started = false →
        (∃ runs : List Consumer.Run, Replay.gather Consumer.step? Consumer.deeds c₀ events =
          runs.flatMap (Consumer.Run.deeds settings pool)) ∧
        (Replay.gather Consumer.step? Consumer.deeds c₀ events).filterMap Deed.leased? =
          (Replay.gather Consumer.step? Consumer.deeds c₀ events).filterMap Deed.released?) ∧
      (∀ e c' result, c.step? e = some c' → .lease result ∈ c.deeds e →
        (Replay.gather Consumer.step? Consumer.deeds c₀ events).filterMap Deed.leased? =
          (Replay.gather Consumer.step? Consumer.deeds c₀ events).filterMap Deed.released?)) ∧
    (∀ (settings : ConsumerSettings) (pool : PoolSettings) (run : Consumer.Run), ∃ body last,
      run.deeds settings pool = body ++ last ++ [.finish] ∧
        (∀ channel, .release channel false ∉ body) ∧
        (last = [] ∨ ∃ channel, last = [.release channel false])) ∧
    ∀ {plans : List (Plan β)} {consumers : List (Consumer β)} {events : List (Event β)}
      {w : World β},
      (∀ c ∈ consumers, ∃ settings pool, Consumer.create settings pool = .ok c) →
      Replay.after? World.happen? (ofSource (.script (.ofPlans plans true)) consumers) events =
        some w →
      (∃ s, w.source = .script s ∧ s.calls.reverse =
        (Replay.gather World.happen? deeds (ofSource (.script (.ofPlans plans true)) consumers)
          events).filterMap (·.2.call?) ∧
        ∀ id tag verdict, .settle id tag verdict ∉ s.calls) ∧
      ∀ i c, w.consumers[i]? = some c → ∃ runs : List Consumer.Run,
        deedsOf i (Replay.gather World.happen? deeds
          (ofSource (.script (.ofPlans plans true)) consumers) events) <+:
          runs.flatMap (Consumer.Run.deeds c.settings c.pool) := by
  refine ⟨?_, fun settings pool run => run.exists_last, ?_⟩
  · intro settings pool c₀ c events created ran
    have accounted := Consumer.accounted_of_after? created ran
    obtain ⟨rfl, rfl⟩ := Consumer.settings_of_after? created ran
    refine ⟨accounted.account.exists_runs, accounted.configured, accounted.stopped, ?_⟩
    intro e c' result stepped leases
    have acquiring := Consumer.phase_of_lease (accounted.orderly.moves stepped) leases
    simpa [acquiring, Phase.held?, Phase.listening?] using accounted.held
  · intro plans consumers events w created ran
    constructor
    · obtain ⟨s, source, _, recorded⟩ := records_of_after? ran _ rfl rfl
      have fresh : s.calls.reverse = (Replay.gather World.happen? deeds
          (ofSource (.script (.ofPlans plans true)) consumers) events).filterMap (·.2.call?) := by
        simpa [Script.ofPlans] using congrArg List.reverse recorded
      refine ⟨s, source, fresh, ?_⟩
      intro id tag verdict settled
      rw [← List.mem_reverse, fresh, List.mem_filterMap] at settled
      obtain ⟨d, _, call⟩ := settled
      exact d.2.call?_ne_settle id tag verdict call
    · intro i c found
      exact (accounted_of_after? created ran i c found).account.exists_runs

/-- Settings with a prefetch limit of the consumer's own and two of the four flags. -/
def limitedSettings : ConsumerSettings :=
  { ConsumerSettings.ofNames "jobs" "worker" with
    autoAck := true, noLocal := true, prefetchCount := 5, prefetchSize := 9 }

/-- No channel is to be had, then the broker refuses, then a channel closes, then a stop is seen. -/
def fourLeases : List (Consumer.Event Nat) :=
  [.act .start, .proceed 0 .nothing, .proceed 0 (.leased (.error .closed)),
    .proceed 100000 .nothing, .proceed 100000 .nothing, .proceed 100000 (.leased (.ok ⟨1, 0⟩)),
    .proceed 100000 (.done (.error .closed)), .proceed 100000 (.done (.error .closed)),
    .proceed 100000 (.done (.ok ())),
    .proceed 200000 .nothing, .proceed 200000 .nothing, .proceed 200000 (.leased (.ok ⟨2, 1⟩)),
    .proceed 200000 (.done (.ok ())), .proceed 200000 (.done (.ok ())),
    .proceed 200000 (.seen (.item ⟨320, ""⟩) .quiet), .proceed 200000 (.done (.ok ())),
    .proceed 200000 (.done (.ok ())), .act (.stop false), .proceed 200000 .nothing,
    .proceed 200000 .nothing, .proceed 200000 .nothing, .proceed 200000 .nothing]

/-- A channel on which a closure is on its way from the start, and one on which nothing comes. -/
def twoPlans : List (Plan Nat) :=
  [⟨0, none, 1, [], none, [], false, [⟨320, ""⟩], false⟩,
    ⟨0, none, 2, [], none, [], false, [], false⟩]

/-- Both leases are taken, and the second is stopped. -/
def bothLeases : List (Event Nat) :=
  .act 0 .start :: List.replicate 11 (.task (.loop 0)) ++
    .act 0 (.stop false) :: List.replicate 2 (.task (.loop 0))

/-- What a script records of both leases. -/
def bothCalls : List Call :=
  [.lease (some 1), .limit 1 ⟨5, 9⟩ false,
    .subscribe 1 ⟨"jobs", "worker", ⟨true, false, true, false⟩, []⟩, .limit 1 ⟨7, 1⟩ false,
    .release 1 true, .lease (some 2), .limit 2 ⟨5, 9⟩ false,
    .subscribe 2 ⟨"jobs", "worker", ⟨true, false, true, false⟩, []⟩, .release 2 false]

theorem leases_in_turn_four : ∃ (c₀ c : Consumer Nat) (w : World Nat) (s : Script Nat),
    Consumer.create limitedSettings ⟨7, 1⟩ = .ok c₀ ∧
    Replay.after? Consumer.step? c₀ fourLeases = some c ∧ c.started = false ∧
    ((Replay.gather Consumer.step? Consumer.deeds c₀ fourLeases).filterMap
      Deed.leased?).length = 2 ∧
    (Replay.gather Consumer.step? Consumer.deeds c₀ fourLeases).filterMap Deed.leased? =
      (Replay.gather Consumer.step? Consumer.deeds c₀ fourLeases).filterMap Deed.released? ∧
    Replay.after? World.happen? (ofSource (.script (.ofPlans twoPlans true)) [c₀]) bothLeases =
      some w ∧ w.source = .script s ∧ s.calls.reverse = bothCalls ∧
    (Replay.gather World.happen? deeds (ofSource (.script (.ofPlans twoPlans true)) [c₀])
      bothLeases).filterMap (·.2.call?) = bothCalls := by
  obtain ⟨c₀, created, ends, twice, goes⟩ : ∃ c₀ : Consumer Nat,
      Consumer.create limitedSettings ⟨7, 1⟩ = .ok c₀ ∧
      (Replay.after? Consumer.step? c₀ fourLeases).any (fun c => !c.started) = true ∧
      ((Replay.gather Consumer.step? Consumer.deeds c₀ fourLeases).filterMap
        Deed.leased?).length = 2 ∧
      (Replay.after? World.happen? (ofSource (.script (.ofPlans twoPlans true)) [c₀])
        bothLeases).map (fun w => match w.source with
          | .script s => s.calls.reverse
          | .broker _ => []) = some bothCalls :=
    ⟨_, rfl, by decide +kernel, by decide +kernel, rfl⟩
  obtain ⟨c, ran, off⟩ := (Option.any_eq_true _ _).mp ends
  obtain ⟨w, went, recorded⟩ := Option.map_eq_some_iff.mp goes
  have off : c.started = false := by simpa using off
  have all := (leases_in_turn.1 created ran).2.2.1 off
  obtain ⟨s, source, calls, _⟩ := (leases_in_turn.2.2 (by
    intro other member
    rw [List.mem_singleton.mp member]
    exact ⟨_, _, created⟩) went).1
  rw [source] at recorded
  exact ⟨c₀, c, w, s, created, ran, off, twice, all.2, went, source, recorded, calls ▸ recorded⟩

end World

end Intake
