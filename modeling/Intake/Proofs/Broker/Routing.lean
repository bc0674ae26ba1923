import Intake.Proofs.Broker.Course
import Mathlib.Data.List.Basic

/-! # Where bodies go

A broker delivers on the channel that began to receive last, for as long as that channel has a
sender: `Broker.Routes`. So no body waits while this channel is listened to. Other channels that
were listened to before get nothing any more, not even when this one is gone.
-/

namespace Intake

/-- A channel that begins to receive. -/
def Lane.begin {β : Type} (lane : Lane β) (s : Subscription) : Lane β := { lane with
  subscriptions := lane.subscriptions ++ [s]
  autoAck := s.terms.autoAck
  deliveries := .fresh }

namespace Broker

variable {β : Type} {b b' : Broker β} {begun : List Nat} {id : Nat}

/-! ## Calls to receive -/

/-- A broker one of whose channels begins to receive, before it delivers what is ready. -/
def receiving (b : Broker β) (lane : Lane β) (s : Subscription) : Broker β :=
  { b.setLane (lane.begin s) with active := some lane.id }

/-- A call to receive is refused, or an open channel becomes the active one and gets what is
ready. -/
theorem subscribe_cases (b : Broker β) (id : Nat) (s : Subscription) :
    (∃ fault count, b.subscribe id s = (.error fault, { b with failSubscriptions := count })) ∨
    ∃ lane, b.lane? id = some lane ∧ lane.isOpen = true ∧
      b.subscribe id s = (.ok (), { (b.receiving lane s).pump with
        subscribers := (b.receiving lane s).pump.subscribers + 1 }) := by
  unfold Broker.subscribe
  by_cases failing : 0 < b.failSubscriptions
  · exact .inl ⟨_, _, if_pos failing⟩
  by_cases other : s.queue ≠ b.queue
  · exact .inl ⟨_, _, by rw [if_neg failing, if_pos other]⟩
  rw [if_neg failing, if_neg other]
  cases found : b.lane? id with
  | none => exact .inl ⟨_, _, rfl⟩
  | some lane =>
    by_cases isOpen : lane.isOpen = true
    · refine .inr ⟨lane, rfl, isOpen, ?_⟩
      rw [← id_of_lane? found]
      exact if_pos isOpen
    · exact .inl ⟨_, _, if_neg isOpen⟩

/-! ## Senders and receivers -/

/-- There is a sender for the deliveries of a channel. -/
def sends (b : Broker β) (id : Nat) : Bool :=
  ((b.lane? id).map (·.deliveries.sending)).getD false

/-- A channel is open, there is a sender for its deliveries, and they are listened to. -/
def Live (b : Broker β) (id : Nat) : Prop :=
  ∃ lane, b.lane? id = some lane ∧ lane.isOpen = true ∧ lane.deliveries.sending = true ∧
    lane.deliveries.listening = true

/-- The channel that begins to receive with an act. -/
def begins (b : Broker β) : Act β → List Nat
  | .subscribe id s =>
    match (b.subscribe id s).1 with
    | .ok _ => [id]
    | .error _ => []
  | _ => []

private theorem sends_of_lanes (same : b'.lanes = b.lanes) : b'.sends = b.sends := by
  funext id
  rw [sends, sends, lane?, lane?, same]

private theorem sends_of_change {lane next : Lane β} (found : b.lane? lane.id = some lane)
    (number : next.id = lane.id) (lanes : b'.lanes = (b.setLane next).lanes) (id : Nat) :
    b'.sends id = if id = lane.id then next.deliveries.sending else b.sends id := by
  rw [sends, lane?_of_change found number lanes]
  split
  · rfl
  · rfl

/-- Another change of a channel. -/
private theorem sends_of_same {lane next : Lane β} (found : b.lane? lane.id = some lane)
    (number : next.id = lane.id) (lanes : b'.lanes = (b.setLane next).lanes)
    (sending : next.deliveries.sending = lane.deliveries.sending) : b'.sends = b.sends := by
  funext id
  rw [sends_of_change found number lanes]
  split
  · next here => rw [here, sends, found, sending]; rfl
  · rfl

private theorem withLane_active (b : Broker β) (id : Nat) (change : Lane β → Lane β) :
    (b.withLane id change).active = b.active := by
  unfold Broker.withLane
  split <;> rfl

private theorem withLane_ready (b : Broker β) (id : Nat) (change : Lane β → Lane β) :
    (b.withLane id change).ready = b.ready := by
  unfold Broker.withLane
  split <;> rfl

theorem retire_active (b : Broker β) (id : Nat) :
    (b.retire id).active = if b.active = some id then none else b.active := by
  unfold retire
  split <;> rfl

private theorem sends_withLane {change : Lane β → Lane β}
    (number : ∀ lane, (change lane).id = lane.id)
    (sending : ∀ lane, (change lane).deliveries.sending = lane.deliveries.sending) (id : Nat) :
    (b.withLane id change).sends = b.sends := by
  unfold Broker.withLane
  cases found : b.lane? id with
  | none => rfl
  | some lane =>
    rw [← id_of_lane? found] at found
    exact sends_of_same found (number lane) rfl (sending lane)

private theorem sends_hangUp (b : Broker β) (id other : Nat) :
    (b.withLane id .hangUp).sends other = if other = id then false else b.sends other := by
  unfold Broker.withLane
  cases found : b.lane? id with
  | none =>
    dsimp only
    split
    · next here => rw [here, sends, found]; rfl
    · rfl
  | some lane =>
    have number := id_of_lane? found
    subst number
    have same : lane.hangUp.id = lane.id := rfl
    exact sends_of_change found same rfl other

/-! ## The active channel -/

/-- Channels that began to receive are given in order. No other has a sender, and the active channel
is the last one, as long as it has a sender. -/
structure Aims (b : Broker β) (begun : List Nat) : Prop where
  active : b.active = begun.getLast?.filter b.sends
  senders : ∀ id, b.sends id = true → id ∈ begun

/-- And bodies are ready only when there is no active channel. -/
structure Routes (b : Broker β) (begun : List Nat) : Prop extends b.Aims begun where
  ready : b.active = none ∨ b.ready = []

private theorem Aims.congr (aims : b.Aims begun) (active : b'.active = b.active)
    (sends : b'.sends = b.sends) : b'.Aims begun := by
  refine ⟨?_, ?_⟩
  · rw [active, sends, aims.active]
  · rw [sends]
    exact aims.senders

private theorem Aims.of_lanes (aims : b.Aims begun) (active : b'.active = b.active)
    (lanes : b'.lanes = b.lanes) : b'.Aims begun :=
  aims.congr active (sends_of_lanes lanes)

/-- A channel loses its sender, and is not the active one any more. -/
private theorem Aims.hush (aims : b.Aims begun)
    (retired : b'.active = if b.active = some id then none else b.active)
    (sends : ∀ other, b'.sends other = if other = id then false else b.sends other) :
    b'.Aims begun := by
  constructor
  · rw [retired, aims.active]
    cases begun.getLast? with
    | none => simp
    | some channel =>
      by_cases here : channel = id
      · simp [Option.filter_some, sends, here]
      · simp [Option.filter_some, sends, here]
  · intro other sending
    rw [sends] at sending
    split at sending
    · cases sending
    · exact aims.senders other sending

/-- The active channel is known. -/
theorem Aims.exists_lane (aims : b.Aims begun) (active : b.active = some id) :
    ∃ lane, b.lane? id = some lane ∧ lane.deliveries.sending = true := by
  have sending : b.sends id = true :=
    (Option.filter_eq_some_iff.mp (aims.active.symm.trans active)).2
  cases found : b.lane? id with
  | none => simp [sends, found] at sending
  | some lane => exact ⟨lane, rfl, by simpa [sends, found] using sending⟩

/-- What is ready is delivered on the active channel, unless nobody listens to it. -/
private theorem Aims.deliverAll (aims : b.Aims begun) (ready : b.ready = [])
    (bodies : List (Ready β)) :
    (b.deliverAll bodies).Routes begun := by
  induction bodies generalizing b with
  | nil => exact ⟨aims, .inr ready⟩
  | cons r rest ih =>
    unfold Broker.deliverAll
    cases found : b.active.bind b.lane? with
    | none =>
      refine ⟨aims.of_lanes rfl rfl, .inl ?_⟩
      cases active : b.active with
      | none => rfl
      | some id =>
        obtain ⟨lane, there, _⟩ := aims.exists_lane active
        rw [active, Option.bind_some, there] at found
        cases found
    | some lane =>
      obtain ⟨id, active, found⟩ := Option.bind_eq_some_iff.mp found
      have number := id_of_lane? found
      subst number
      dsimp only
      cases delivered : lane.deliver? r with
      | some next =>
        have same := Lane.eq_of_deliver? delivered
        have unchanged : (b.setLane next).sends = b.sends :=
          sends_of_same found (by rw [same]) rfl (by rw [same])
        exact ih (aims.congr rfl unchanged) ready
      | none =>
        have same : lane.hangUp.id = lane.id := rfl
        have hushed := sends_of_change found same (rfl : _ = (b.setLane lane.hangUp).lanes)
        exact ⟨aims.hush (by rw [if_pos active]) hushed, .inl rfl⟩

private theorem Aims.pump (aims : b.Aims begun) : b.pump.Routes begun := by
  have emptied : Aims { b with ready := [] } begun := aims.of_lanes rfl rfl
  exact emptied.deliverAll rfl _

namespace Routes

private theorem congr (routes : b.Routes begun) (active : b'.active = b.active)
    (ready : b'.ready = b.ready) (sends : b'.sends = b.sends) : b'.Routes begun := by
  refine ⟨routes.toAims.congr active sends, ?_⟩
  rw [active, ready]
  exact routes.ready

private theorem requeue (routes : b.Routes begun) (bodies : List β) :
    (b.requeue bodies).Routes begun := by
  unfold Broker.requeue
  split
  · exact routes
  · exact Aims.pump (routes.toAims.of_lanes rfl rfl)

private theorem publish (routes : b.Routes begun) (body : β) : (b.publish body).Routes begun :=
  Aims.pump (routes.toAims.of_lanes rfl rfl)

private theorem lease (routes : b.Routes begun) : b.lease.2.Routes begun := by
  unfold Broker.lease
  dsimp only
  split
  · exact routes.congr rfl rfl (sends_of_lanes rfl)
  · refine routes.congr rfl rfl ?_
    funext id
    rw [sends, sends, lane?, List.find?_append, ← lane?]
    cases found : b.lane? id with
    | none =>
      rw [List.find?_singleton]
      split <;> rfl
    | some lane => rfl

/-- A channel changes, but not whether it has a sender. -/
private theorem setLane (routes : b.Routes begun) {lane next : Lane β}
    (found : b.lane? lane.id = some lane) (number : next.id = lane.id)
    (sending : next.deliveries.sending = lane.deliveries.sending) :
    (b.setLane next).Routes begun :=
  routes.congr rfl rfl (sends_of_same found number rfl sending)

private theorem withLane (routes : b.Routes begun) {change : Lane β → Lane β}
    (number : ∀ lane, (change lane).id = lane.id)
    (sending : ∀ lane, (change lane).deliveries.sending = lane.deliveries.sending) (id : Nat) :
    (b.withLane id change).Routes begun :=
  routes.congr (withLane_active b id change) (withLane_ready b id change)
    (sends_withLane number sending id)

/-- The holder of the deliveries of a channel does something with them. -/
private theorem withDeliveries (routes : b.Routes begun) (id : Nat)
    (change : Feed (Delivery β) → Feed (Delivery β))
    (sending : ∀ feed, (change feed).sending = feed.sending) :
    (b.withLane id fun lane => { lane with deliveries := change lane.deliveries }).Routes
      begun := by
  refine routes.withLane ?_ ?_ id
  · exact fun _ => rfl
  · exact fun lane => sending lane.deliveries

/-- The holder of the closures of a channel does something with them. -/
private theorem withNotices (routes : b.Routes begun) (id : Nat)
    (change : Feed Closure → Feed Closure) :
    (b.withLane id fun lane => { lane with notices := change lane.notices }).Routes begun := by
  refine routes.withLane ?_ ?_ id
  · exact fun _ => rfl
  · exact fun _ => rfl

/-- A channel hangs up and is not the active one any more. -/
private theorem hangUp (routes : b.Routes begun)
    (retired : b'.active = if b.active = some id then none else b.active)
    (ready : b'.ready = b.ready) (lanes : b'.lanes = b.lanes) :
    (b'.withLane id .hangUp).Routes begun := by
  constructor
  · have quiet : (b'.withLane id .hangUp).active =
        if b.active = some id then none else b.active := by
      rw [withLane_active, retired]
    have hushed (other : Nat) :
        (b'.withLane id .hangUp).sends other = if other = id then false else b.sends other := by
      rw [sends_hangUp, sends_of_lanes lanes]
    exact routes.toAims.hush quiet hushed
  · rw [withLane_active, withLane_ready, ready, retired]
    exact routes.ready.imp_left fun idle => by simp [idle]

private theorem limit (routes : b.Routes begun) (id : Nat) (prefetch : Prefetch) (forAll : Bool) :
    (b.limit id prefetch forAll).2.Routes begun := by
  unfold Broker.limit
  cases found : b.lane? id with
  | none => exact routes
  | some lane =>
    rw [← id_of_lane? found] at found
    exact routes.setLane found rfl rfl

private theorem settle (routes : b.Routes begun) (id tag : Nat) (verdict : Verdict) :
    (b.settle id tag verdict).2.Routes begun := by
  unfold Broker.settle
  cases found : b.lane? id with
  | none => exact routes
  | some lane =>
    dsimp only
    cases settled : lane.settle tag verdict with
    | error fault => exact routes
    | ok got =>
      have same := Lane.eq_of_settle settled
      rw [← id_of_lane? found] at found
      have kept : (b.setLane got.2).Routes begun :=
        routes.setLane found (by rw [same]) (by rw [same])
      exact kept.requeue got.1

private theorem release (routes : b.Routes begun) (id : Nat) (errored : Bool) :
    (b.release id errored).Routes begun :=
  routes.hangUp (retire_active _ id) (retire_ready _ id) (retire_lanes _ id)

private theorem close (routes : b.Routes begun) (id : Nat) (closure : Closure) :
    (b.close id closure).Routes begun := by
  unfold Broker.close
  cases found : b.lane? id with
  | none => exact routes
  | some lane =>
    dsimp only
    split
    · have number := id_of_lane? found
      subst number
      have same : (lane.close closure).id = lane.id := rfl
      have retired := retire_active (b.setLane (lane.close closure)) lane.id
      have hushed := sends_of_change found same (retire_lanes _ lane.id)
      apply requeue
      constructor
      · exact routes.toAims.hush retired hushed
      · rw [retire_active, retire_ready]
        exact routes.ready.imp_left fun idle => by simp [Broker.setLane, idle]
    · exact routes

private theorem cancel (routes : b.Routes begun) : b.cancel.2.Routes begun := by
  unfold Broker.cancel
  split
  · exact routes
  · next id active => exact routes.hangUp (by rw [if_pos active]) rfl rfl

/-- A channel that begins to receive is the active one. -/
private theorem subscribe (routes : b.Routes begun) (id : Nat) (s : Subscription) :
    (b.subscribe id s).2.Routes (begun ++ b.begins (.subscribe id s)) := by
  obtain ⟨fault, count, same⟩ | ⟨lane, found, _, same⟩ := b.subscribe_cases id s
  · rw [begins, same, List.append_nil]
    exact routes.congr rfl rfl (sends_of_lanes rfl)
  · have number := id_of_lane? found
    subst number
    have aims : (b.receiving lane s).Aims (begun ++ [lane.id]) := by
      have number : (lane.begin s).id = lane.id := rfl
      have lanes : (b.receiving lane s).lanes = (b.setLane (lane.begin s)).lanes := rfl
      have sends := sends_of_change found number lanes
      constructor
      · have sending : (b.receiving lane s).sends lane.id = true := by
          rw [sends, if_pos rfl]
          rfl
        rw [List.getLast?_concat, Option.filter_some, sending]
        rfl
      · intro other sending
        rw [sends] at sending
        split at sending
        · next here => simp [here]
        · exact List.mem_append_left _ (routes.senders other sending)
    rw [begins, same]
    exact aims.pump.congr rfl rfl (sends_of_lanes rfl)

/-- With an act no channel begins to receive. -/
private theorem append {a : Act β} (routes : b'.Routes begun) (none : b.begins a = []) :
    b'.Routes (begun ++ b.begins a) := by
  rw [none, List.append_nil]
  exact routes

/-- Whatever is asked of a broker, it delivers on the channel that began to receive last. -/
theorem apply (routes : b.Routes begun) (a : Act β) : (b.apply a).Routes (begun ++ b.begins a) := by
  cases a with
  | publish body => exact (routes.publish body).append rfl
  | lease => exact routes.lease.append rfl
  | limit id prefetch forAll => exact (routes.limit id prefetch forAll).append rfl
  | subscribe id s => exact routes.subscribe id s
  | settle id tag verdict => exact (routes.settle id tag verdict).append rfl
  | release id errored => exact (routes.release id errored).append rfl
  | close id closure => exact (routes.close id closure).append rfl
  | closeActive closure =>
    refine append ?_ rfl
    simp only [Broker.apply, Broker.closeActive]
    split
    · exact routes
    · exact routes.close _ closure
  | cancel => exact routes.cancel.append rfl
  | failLeases count => exact append (routes.congr rfl rfl (sends_of_lanes rfl)) rfl
  | failSubscriptions count => exact append (routes.congr rfl rfl (sends_of_lanes rfl)) rfl
  | take id => exact append (routes.withDeliveries id Feed.drop fun _ => rfl) rfl
  | dropStream id => exact append (routes.withDeliveries id Feed.ignore fun _ => rfl) rfl
  | takeNotice id => exact append (routes.withNotices id Feed.drop) rfl
  | dropNotices id => exact append (routes.withNotices id Feed.ignore) rfl

end Routes

/-- The channels that began to receive in the course of some acts, in order. -/
def receivers (b : Broker β) (acts : List (Act β)) : List Nat :=
  Replay.gather Broker.step? begins b acts

theorem routes_foldl (queue : String) (acts : List (Act β)) :
    (acts.foldl apply (ofQueue queue)).Routes ((ofQueue queue).receivers acts) := by
  induction acts using List.reverseRecOn with
  | nil => exact ⟨⟨rfl, nofun⟩, .inl rfl⟩
  | append_singleton acts a ih =>
    have stepped : (acts.foldl apply (ofQueue queue)).step? a =
        some ((acts.foldl apply (ofQueue queue)).apply a) := rfl
    have more := Replay.gather_concat begins (after?_eq (ofQueue queue) acts) stepped
    rw [receivers, more, List.foldl_concat]
    exact ih.apply a

/-! ## Bodies that wait -/

/-- If a channel is open and listened to, then nothing is ready, unless another channel began to
receive after it and has lost its sender: then bodies wait although there is somebody to get
them. -/
theorem ready_of_live (queue : String) (acts : List (Act β)) (id : Nat)
    (live : (acts.foldl apply (ofQueue queue)).Live id) :
    (acts.foldl apply (ofQueue queue)).ready = [] ∨
      ∃ other, ((ofQueue queue).receivers acts).getLast? = some other ∧ other ≠ id ∧
        (acts.foldl apply (ofQueue queue)).sends other = false := by
  obtain ⟨⟨active, senders⟩, ready⟩ := routes_foldl queue acts
  generalize acts.foldl apply (ofQueue queue) = b at *
  obtain ⟨lane, found, _, sending, _⟩ := live
  have sends : b.sends id = true := by simp [Broker.sends, found, sending]
  refine ready.symm.imp_right fun idle => ?_
  rw [idle] at active
  cases last : ((ofQueue queue).receivers acts).getLast? with
  | none =>
    have began := senders id sends
    rw [List.getLast?_eq_none_iff.mp last] at began
    cases began
  | some other =>
    rw [last] at active
    have lost : b.sends other = false := by simpa using Option.filter_eq_none_iff.mp active.symm
    refine ⟨other, rfl, ?_, lost⟩
    rintro rfl
    exact absurd (sends.symm.trans lost) nofun

/-- Two channels receive, the second one is closed, and a body is published. -/
def secondLost : List (Act Nat) :=
  [.lease, .lease, .subscribe 1 ⟨"jobs", "first", ⟨false, false, false, false⟩, []⟩,
    .subscribe 2 ⟨"jobs", "second", ⟨false, false, false, false⟩, []⟩,
    .close 2 ⟨320, "CONNECTION_FORCED"⟩, .publish 7]

/-- The same, but for the first one that is closed. -/
def firstLost : List (Act Nat) :=
  [.lease, .lease, .subscribe 1 ⟨"jobs", "first", ⟨false, false, false, false⟩, []⟩,
    .subscribe 2 ⟨"jobs", "second", ⟨false, false, false, false⟩, []⟩,
    .close 1 ⟨320, "CONNECTION_FORCED"⟩, .publish 7]

theorem ready_of_live_second_lost :
    ((secondLost.foldl apply (ofQueue "jobs")).Live 1 ∧
        (secondLost.foldl apply (ofQueue "jobs")).ready = [⟨7, false⟩] ∧
        ∃ other, ((ofQueue "jobs").receivers secondLost).getLast? = some other ∧ other ≠ 1 ∧
          (secondLost.foldl apply (ofQueue "jobs")).sends other = false) ∧
      (firstLost.foldl apply (ofQueue "jobs")).Live 2 ∧
        (firstLost.foldl apply (ofQueue "jobs")).sends 2 = true ∧
        (firstLost.foldl apply (ofQueue "jobs")).ready = [] := by
  have first : (secondLost.foldl apply (ofQueue "jobs")).Live 1 := ⟨_, rfl, rfl, rfl, rfl⟩
  have second : (firstLost.foldl apply (ofQueue "jobs")).Live 2 := ⟨_, rfl, rfl, rfl, rfl⟩
  refine ⟨⟨first, rfl, ?_⟩, second, rfl, ?_⟩
  · exact (ready_of_live "jobs" secondLost 1 first).resolve_left nofun
  · refine (ready_of_live "jobs" firstLost 2 second).resolve_right ?_
    rintro ⟨other, last, apart, _⟩
    exact apart (Option.some.inj last).symm

/-- Somebody who listens may be passed over: the body waits although the first channel is open and
listened to. -/
theorem waits_beside_live : ¬∀ (acts : List (Act Nat)) (id : Nat),
    (acts.foldl apply (ofQueue "jobs")).Live id →
      (acts.foldl apply (ofQueue "jobs")).ready = [] := by
  intro none
  have empty := none secondLost 1 ⟨_, rfl, rfl, rfl, rfl⟩
  have waiting : (secondLost.foldl apply (ofQueue "jobs")).ready = [⟨7, false⟩] := rfl
  rw [waiting] at empty
  cases empty

end Broker

end Intake
