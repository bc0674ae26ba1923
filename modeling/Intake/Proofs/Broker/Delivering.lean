import Intake.Proofs.Broker.Representation

/-! # What is delivered at once

A channel receives as long as both ends of its feed of deliveries are held, and no delivery changes
this. So a broker that delivers what is ready delivers all of it on one channel, under consecutive
tags, or nothing at all.
-/

namespace Intake

namespace Lane

variable {β : Type} {lane : Lane β} {r : Ready β}

/-- What is sent back when deliveries are settled. -/
theorem bodies_of_settle {tag : Nat} {verdict : Verdict} {bodies : List β} {next : Lane β}
    (settled : lane.settle tag verdict = .ok (bodies, next)) :
    bodies = if verdict.final then [] else (lane.meant tag verdict).map (·.2) := by
  obtain ⟨⟨fault, failed⟩, _⟩ | ⟨_, other, succeeded, _⟩ := lane.settle_cases tag verdict
  · cases failed.symm.trans settled
  · cases succeeded.symm.trans settled
    rfl

/-- Bodies as deliveries, under consecutive tags. -/
def stamped (tag : Nat) (bodies : List (Ready β)) : List (Delivery β) :=
  (bodies.zipIdx tag).map fun (r, tag) => ⟨tag, r.body, r.redelivered, "", ""⟩

@[simp] theorem stamped_nil (tag : Nat) : stamped tag ([] : List (Ready β)) = [] := rfl

@[simp] theorem stamped_cons (tag : Nat) (r : Ready β) (rest : List (Ready β)) :
    stamped tag (r :: rest) = ⟨tag, r.body, r.redelivered, "", ""⟩ :: stamped (tag + 1) rest := rfl

private theorem stamped_tags (tag : Nat) (bodies : List (Ready β)) :
    (stamped tag bodies).map (·.tag) = List.range' tag bodies.length := by
  induction bodies generalizing tag with
  | nil => rfl
  | cons r rest ih => rw [stamped_cons, List.map_cons, ih, List.length_cons, List.range'_succ]

theorem length_stamped (tag : Nat) (bodies : List (Ready β)) :
    (stamped tag bodies).length = bodies.length := by
  rw [stamped, List.length_map, List.length_zipIdx]

/-- The bodies of deliveries, and what was known of them, are those that were ready. -/
theorem stamped_ready (tag : Nat) (bodies : List (Ready β)) :
    (stamped tag bodies).map (fun d => (⟨d.body, d.redelivered⟩ : Ready β)) = bodies := by
  induction bodies generalizing tag with
  | nil => rfl
  | cons r rest ih => rw [stamped_cons, List.map_cons, ih]

/-- Both ends of the feed of deliveries are held. -/
def receives (lane : Lane β) : Bool := lane.deliveries.sending && lane.deliveries.listening

/-- A channel after some bodies were delivered on it. -/
def fed (lane : Lane β) (bodies : List (Ready β)) : Lane β := { lane with
  deliveries :=
    { lane.deliveries with items := lane.deliveries.items ++ stamped lane.nextTag bodies }
  nextTag := lane.nextTag + bodies.length
  outstanding :=
    if lane.autoAck then lane.outstanding
    else lane.outstanding ++ (stamped lane.nextTag bodies).map fun d => (d.tag, d.body) }

private theorem fed_nil (lane : Lane β) : lane.fed [] = lane := by
  simp [fed]

private theorem fed_cons (lane : Lane β) (r : Ready β) (rest : List (Ready β)) :
    (lane.fed [r]).fed rest = lane.fed (r :: rest) := by
  cases auto : lane.autoAck <;> simp [fed, auto, Nat.add_assoc, Nat.add_comm 1]

theorem fed_outstanding (lane : Lane β) (bodies : List (Ready β)) :
    ∃ more, (lane.fed bodies).outstanding = lane.outstanding ++ more ∧
      (∀ d ∈ more, lane.nextTag ≤ d.1) ∧ (bodies = [] → more = []) ∧
      ∀ d ∈ more, d.2 ∈ bodies.map (·.body) := by
  cases auto : lane.autoAck with
  | true =>
    refine ⟨[], ?_, nofun, fun _ => rfl, nofun⟩
    rw [fed, auto, List.append_nil]
    rfl
  | false =>
    refine ⟨(stamped lane.nextTag bodies).map fun d => (d.tag, d.body), ?_, ?_, ?_, ?_⟩
    · rw [fed, auto]
      rfl
    · intro d member
      obtain ⟨delivery, made, rfl⟩ := List.mem_map.mp member
      have tag : delivery.tag ∈ (stamped lane.nextTag bodies).map (·.tag) :=
        List.mem_map_of_mem made
      rw [stamped_tags, List.mem_range'_1] at tag
      exact tag.1
    · rintro rfl
      rfl
    · intro d member
      obtain ⟨delivery, made, rfl⟩ := List.mem_map.mp member
      rw [← stamped_ready lane.nextTag bodies, List.map_map]
      exact List.mem_map_of_mem made

private theorem deliver?_of_receives (receives : lane.receives = true) (r : Ready β) :
    lane.deliver? r = some (lane.fed [r]) := by
  have held : lane.deliveries.sending = true ∧ lane.deliveries.listening = true := by
    simpa [Lane.receives] using receives
  simp [deliver?, Feed.send?, fed, held]

private theorem deliver?_of_not_receives (idle : lane.receives = false) (r : Ready β) :
    lane.deliver? r = none := by
  have held : ¬(lane.deliveries.sending = true ∧ lane.deliveries.listening = true) := by
    simpa [Lane.receives] using idle
  rw [deliver?, Feed.send?, if_neg held, Option.map_none]

end Lane

namespace Broker

variable {β : Type} {b b' : Broker β} {r : Lane β}

theorem nextTag_of_lane? {id : Nat} {lane : Lane β} (found : b.lane? id = some lane) :
    b.nextTag id = lane.nextTag := by
  rw [nextTag, found]
  rfl

/-- The active channel, if it receives. -/
def receiver? (b : Broker β) : Option (Lane β) := (b.active.bind b.lane?).filter Lane.receives

theorem receiver?_eq_some_iff :
    b.receiver? = some r ↔ b.active = some r.id ∧ b.lane? r.id = some r ∧ r.receives = true := by
  rw [receiver?, Option.filter_eq_some_iff, Option.bind_eq_some_iff]
  constructor
  · rintro ⟨⟨id, active, found⟩, receives⟩
    have number := id_of_lane? found
    subst number
    exact ⟨active, found, receives⟩
  · rintro ⟨active, found, receives⟩
    exact ⟨⟨r.id, active, found⟩, receives⟩

/-- All that is ready is delivered on one channel. -/
structure Delivers (b : Broker β) (r : Lane β) (b' : Broker β) : Prop where
  ready : b'.ready = []
  active : b'.active = b.active
  lanes : ∀ id, b'.lane? id = if id = r.id then some (r.fed b.ready) else b.lane? id

/-- Nothing is delivered, since no channel receives; the active one may hang up. -/
structure Withholds (b b' : Broker β) : Prop where
  ready : b'.ready = b.ready
  receiver : b'.receiver? = none
  lanes : ∀ id, b'.lane? id = b.lane? id ∨
    ∃ lane, b.lane? id = some lane ∧ b'.lane? id = some lane.hangUp

private theorem deliverAll_of_receiver? (receiver : b.receiver? = some r)
    (bodies : List (Ready β)) :
    (b.deliverAll bodies).ready = b.ready ∧ (b.deliverAll bodies).active = b.active ∧
      ∀ id, (b.deliverAll bodies).lane? id =
        if id = r.id then some (r.fed bodies) else b.lane? id := by
  obtain ⟨active, found, receives⟩ := receiver?_eq_some_iff.mp receiver
  induction bodies generalizing b r with
  | nil =>
    refine ⟨rfl, rfl, ?_⟩
    intro id
    rw [Lane.fed_nil]
    split
    · next here => rw [here]; exact found
    · rfl
  | cons first rest ih =>
    have sought : b.active.bind b.lane? = some r := by rw [active, Option.bind_some, found]
    have unfolded : b.deliverAll (first :: rest) =
        (b.setLane (r.fed [first])).deliverAll rest := by
      simp only [deliverAll, sought, Lane.deliver?_of_receives receives]
    have number : (r.fed [first]).id = r.id := rfl
    have lanes := lane?_of_change found number (rfl : (b.setLane (r.fed [first])).lanes = _)
    have found' : (b.setLane (r.fed [first])).lane? (r.fed [first]).id = some (r.fed [first]) := by
      rw [lanes, if_pos number]
    have active' : (b.setLane (r.fed [first])).active = some (r.fed [first]).id := active
    have receives' : (r.fed [first]).receives = true := receives
    have receiver' := receiver?_eq_some_iff.mpr ⟨active', found', receives'⟩
    obtain ⟨ready, still, others⟩ := ih receiver' active' found' receives'
    rw [unfolded]
    refine ⟨ready, still, ?_⟩
    intro id
    rw [others, number, Lane.fed_cons, lanes]
    split <;> rfl

theorem delivers_pump (receiver : b.receiver? = some r) : Delivers b r b.pump := by
  have receiver' : receiver? { b with ready := [] } = some r := receiver
  obtain ⟨ready, active, lanes⟩ := deliverAll_of_receiver? receiver' b.ready
  exact ⟨ready, active, lanes⟩

theorem withholds_pump (idle : b.receiver? = none) : Withholds b b.pump := by
  have same (b' : Broker β) (ready : b'.ready = b.ready) (active : b'.active = b.active)
      (lanes : b'.lanes = b.lanes) : Withholds b b' := by
    have found (id : Nat) : b'.lane? id = b.lane? id := by rw [lane?, lane?, lanes]
    refine ⟨ready, ?_, fun id => .inl (found id)⟩
    rw [receiver?, active, funext found]
    exact idle
  unfold pump
  cases bodies : b.ready with
  | nil => exact same _ bodies.symm rfl rfl
  | cons first rest =>
    unfold deliverAll
    have sought : Option.bind { b with ready := [] }.active (lane? { b with ready := [] }) =
      b.active.bind b.lane? := rfl
    rw [sought]
    cases found : b.active.bind b.lane? with
    | none => exact same _ bodies.symm rfl rfl
    | some lane =>
      obtain ⟨id, active, there⟩ := Option.bind_eq_some_iff.mp found
      have number := id_of_lane? there
      subst number
      have quiet : lane.receives = false := by
        simpa [receiver?, found] using idle
      have lanes := lane?_of_change there (rfl : lane.hangUp.id = lane.id)
        (rfl : (b.setLane lane.hangUp).lanes = _)
      simp only [Lane.deliver?_of_not_receives quiet]
      refine ⟨bodies.symm, rfl, ?_⟩
      intro id
      by_cases here : id = lane.id
      · subst here
        exact .inr ⟨lane, there, (lanes _).trans (if_pos rfl)⟩
      · exact .inl ((lanes id).trans (if_neg here))

theorem feed_of_lane? {id : Nat} {lane : Lane β} (found : b.lane? id = some lane) :
    b.feed id = lane.deliveries.items := by
  rw [feed, found]
  rfl

namespace Delivers

variable (delivers : Delivers b r b')

include delivers

theorem lane? : b'.lane? r.id = some (r.fed b.ready) := (delivers.lanes r.id).trans (if_pos rfl)

/-- The channel still receives. -/
theorem receiver? (receiver : b.receiver? = some r) : b'.receiver? = some (r.fed b.ready) := by
  obtain ⟨active, _, receives⟩ := receiver?_eq_some_iff.mp receiver
  exact receiver?_eq_some_iff.mpr ⟨delivers.active.trans active, delivers.lane?, receives⟩

theorem feed (found : b.lane? r.id = some r) (id : Nat) : b'.feed id =
    if id = r.id then b.feed id ++ Lane.stamped r.nextTag b.ready else b.feed id := by
  by_cases here : id = r.id
  · rw [if_pos here, here, feed_of_lane? delivers.lane?, feed_of_lane? found]
    rfl
  · rw [if_neg here, Broker.feed, delivers.lanes, if_neg here]
    rfl

end Delivers

theorem Withholds.feed (withholds : Withholds b b') (id : Nat) : b'.feed id = b.feed id := by
  obtain same | ⟨lane, found, found'⟩ := withholds.lanes id
  · rw [Broker.feed, same]
    rfl
  · rw [feed_of_lane? found, feed_of_lane? found']
    rfl

theorem Withholds.nextTag (withholds : Withholds b b') (id : Nat) :
    b'.nextTag id = b.nextTag id := by
  obtain same | ⟨lane, found, found'⟩ := withholds.lanes id
  · rw [Broker.nextTag, same]
    rfl
  · rw [nextTag_of_lane? found, nextTag_of_lane? found']
    rfl

/-- When a channel receives, nothing is ready. -/
theorem Routes.ready_of_receiver? {begun : List Nat} (routes : b.Routes begun)
    (receiver : b.receiver? = some r) : b.ready = [] := by
  obtain ⟨active, _, _⟩ := receiver?_eq_some_iff.mp receiver
  exact routes.ready.resolve_left fun idle => absurd (active.symm.trans idle) nofun

/-! ## Bodies that come back -/

/-- A broker to which bodies come back, before it delivers what is ready. -/
def returning (b : Broker β) (bodies : List β) : Broker β :=
  { b with ready := bodies.map (⟨·, true⟩) ++ b.ready }

theorem withholds_requeue (idle : b.receiver? = none) (bodies : List β) :
    Withholds (b.returning bodies) (b.requeue bodies) := by
  cases bodies with
  | nil => exact ⟨rfl, idle, fun _ => .inl rfl⟩
  | cons body rest => exact withholds_pump idle

theorem delivers_requeue (receiver : b.receiver? = some r) (none : b.ready = [])
    (bodies : List β) : Delivers (b.returning bodies) r (b.requeue bodies) := by
  cases bodies with
  | nil =>
    change Delivers (b.returning []) r b
    refine ⟨none, rfl, ?_⟩
    intro id
    have nothing : (b.returning []).ready = [] := none
    rw [nothing, Lane.fed_nil]
    split
    · next here => rw [here]; exact (receiver?_eq_some_iff.mp receiver).2.1
    · rfl
  | cons body rest => exact delivers_pump receiver

end Broker

end Intake
