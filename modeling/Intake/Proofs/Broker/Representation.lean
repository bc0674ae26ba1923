import Intake.Proofs.Broker.Bodies
import Intake.Proofs.Broker.Routing
import Intake.Proofs.Broker.Settlement

/-! # What a broker is like between acts

Whatever is asked of a broker, its parts fit together afterwards: `Broker.Sound`. What it numbers
and counts is told by the acts so far: `Broker.Tells`.
-/

namespace Intake

open Relation (ReflTransGen)

namespace Lane

variable {β : Type} {lane next : Lane β}

/-- A closed channel has no sender and nothing is outstanding on it; what is outstanding was
delivered. -/
structure Sound (lane : Lane β) : Prop where
  closed : lane.isOpen = false → lane.deliveries.sending = false ∧ lane.outstanding = []
  started : 1 ≤ lane.nextTag
  delivered : ∀ d ∈ lane.outstanding, 1 ≤ d.1 ∧ d.1 < lane.nextTag

theorem sound_ofId (id : Nat) : (ofId id : Lane β).Sound := ⟨nofun, Nat.le_refl 1, nofun⟩

private theorem sending_of_deliver? {r : Ready β} (delivered : lane.deliver? r = some next) :
    lane.deliveries.sending = true := by
  obtain ⟨deliveries, sent, _⟩ := Option.map_eq_some_iff.mp delivered
  unfold Feed.send? at sent
  split at sent
  · next held => exact held.1
  · cases sent

theorem isOpen_of_settle {tag : Nat} {verdict : Verdict} {bodies : List β}
    (settled : lane.settle tag verdict = .ok (bodies, next)) : lane.isOpen = true := by
  obtain ⟨⟨fault, failed⟩, _⟩ | ⟨⟨isOpen, _⟩, _⟩ := lane.settle_cases tag verdict
  · cases failed.symm.trans settled
  · exact isOpen

/-- Nothing that happens to a channel changes this. -/
theorem Sound.change (sound : lane.Sound) (change : lane.Change next) : next.Sound := by
  obtain ⟨closed, started, delivered⟩ := sound
  cases change with
  | @deliver r next delivers =>
    have sending := sending_of_deliver? delivers
    have isOpen : lane.isOpen = true := by
      cases isOpen : lane.isOpen with
      | false => exact absurd (sending.symm.trans (closed isOpen).1) nofun
      | true => rfl
    have same := eq_of_deliver? delivers
    refine ⟨?_, ?_, ?_⟩
    · intro shut
      rw [same] at shut
      exact absurd (isOpen.symm.trans shut) nofun
    · rw [same]
      exact Nat.succ_le_succ (Nat.zero_le _)
    · rw [same]
      intro d member
      dsimp only at member ⊢
      have earlier (member : d ∈ lane.outstanding) : 1 ≤ d.1 ∧ d.1 < lane.nextTag + 1 := by
        have bounds := delivered d member
        omega
      split at member
      · exact earlier member
      · obtain member | rfl := by simpa using member
        · exact earlier member
        · exact ⟨started, Nat.lt_succ_self _⟩
  | settle settled =>
    have same := eq_of_settle settled
    have left := outstanding_of_settle settled
    refine ⟨?_, ?_, ?_⟩
    · intro shut
      rw [same] at shut
      exact absurd ((isOpen_of_settle settled).symm.trans shut) nofun
    · rw [same]
      exact started
    · intro d member
      rw [left, mem_spared] at member
      rw [same]
      exact delivered d member.1
  | subscribe isOpen =>
    exact ⟨fun shut => absurd (isOpen.symm.trans shut) nofun, started, delivered⟩
  | close isOpen => exact ⟨fun _ => ⟨rfl, rfl⟩, started, nofun⟩
  | hangUp => exact ⟨fun shut => ⟨rfl, (closed shut).2⟩, started, delivered⟩
  | _ => exact ⟨closed, started, delivered⟩

private theorem Sound.course (sound : lane.Sound) (course : lane.Course next) : next.Sound := by
  induction course with
  | refl => exact sound
  | tail _ change ih => exact ih.change change

end Lane

namespace Broker

variable {β : Type} {b b' b'' : Broker β} {a : Act β} {id : Nat}

theorem evolves_foldl (b : Broker β) (acts : List (Act β)) : Evolves b (acts.foldl apply b) := by
  induction acts generalizing b with
  | nil => exact .refl b
  | cons a rest ih => exact (Evolves.apply b a).trans (ih _)

/-! ## What is numbered and counted -/

/-- What is on the feed of deliveries of a channel. -/
def feed (b : Broker β) (id : Nat) : List (Delivery β) :=
  ((b.lane? id).map (·.deliveries.items)).getD []

/-- The calls to receive on a channel that it knows of. -/
def askedOn (b : Broker β) (id : Nat) : List Subscription :=
  ((b.lane? id).map (·.subscriptions)).getD []

/-- The calls to receive that any channel knows of. -/
def asked (b : Broker β) : List Subscription := b.lanes.flatMap (·.subscriptions)

/-- The channel that is leased with an act. -/
def leased (b : Broker β) : Act β → List Nat
  | .lease =>
    match b.lease.1 with
    | .ok channel => [channel.id]
    | .error _ => []
  | _ => []

/-- The fault of a call to lease a channel that fails. -/
def refusals (b : Broker β) : Act β → List ChannelFault
  | .lease =>
    match b.lease.1 with
    | .ok _ => []
    | .error fault => [fault]
  | _ => []

/-- The deliveries that an act makes on a channel: what comes up at the end of its feed, which is a
new one if the channel begins to receive. -/
def arrivals (id : Nat) (b : Broker β) (a : Act β) : List (Delivery β) :=
  if id ∈ b.begins a then (b.apply a).feed id
  else ((b.apply a).feed id).drop (b.feed id).length

private theorem asked_eq (sorted : b.Sorted) :
    b.asked = (b.lanes.map (·.id)).flatMap b.askedOn := by
  rw [asked, List.flatMap_map]
  apply List.flatMap_congr
  intro lane member
  rw [askedOn, sorted.lane? member]
  rfl

/-! ## What most acts leave as it is -/

/-- No channel was leased, and no call to receive was made. -/
structure Recalls (b b' : Broker β) : Prop where
  numbers : b'.lanes.map (·.id) = b.lanes.map (·.id)
  askedOn : b'.askedOn = b.askedOn
  leases : b'.leases = b.leases
  subscribers : b'.subscribers = b.subscribers

namespace Recalls

private theorem of_lanes (lanes : b'.lanes = b.lanes) (leases : b'.leases = b.leases)
    (subscribers : b'.subscribers = b.subscribers) : Recalls b b' := by
  refine ⟨by rw [lanes], ?_, leases, subscribers⟩
  funext id
  rw [Broker.askedOn, Broker.askedOn, lane?, lane?, lanes]

private theorem trans (first : Recalls b b') (second : Recalls b' b'') : Recalls b b'' :=
  ⟨second.numbers.trans first.numbers, second.askedOn.trans first.askedOn,
    second.leases.trans first.leases, second.subscribers.trans first.subscribers⟩

private theorem setLane {lane next : Lane β} (found : b.lane? lane.id = some lane)
    (number : next.id = lane.id) (subscriptions : next.subscriptions = lane.subscriptions) :
    Recalls b (b.setLane next) := by
  refine ⟨?_, ?_, rfl, rfl⟩
  · rw [Broker.setLane, List.map_map]
    apply List.map_congr_left
    intro other _
    simp only [Function.comp_apply]
    split
    · next same => exact same.symm
    · rfl
  · funext id
    rw [Broker.askedOn, lane?_of_change found number rfl]
    split
    · next here => rw [here, Broker.askedOn, found, Option.map_some, subscriptions]; rfl
    · rfl

private theorem length_asked (recalls : Recalls b b') (sorted : b.Sorted) (sorted' : b'.Sorted) :
    b'.asked.length = b.asked.length := by
  rw [asked_eq sorted, asked_eq sorted', recalls.numbers, recalls.askedOn]

end Recalls

/-- Deliveries are made on a channel, with the next tags in turn. -/
structure Makes (b b' : Broker β) (id : Nat) (made : List (Delivery β)) : Prop where
  tags : made.map (·.tag) = List.range' (b.nextTag id) made.length
  nextTag : b'.nextTag id = b.nextTag id + made.length

/-- Deliveries are put at the end of the feeds. -/
structure Proceeds (b b' : Broker β) : Prop extends Recalls b b' where
  feeds : ∀ id, ∃ made, b'.feed id = b.feed id ++ made ∧ Makes b b' id made

private theorem Makes.none {id : Nat} (same : b'.nextTag id = b.nextTag id) : Makes b b' id [] :=
  ⟨rfl, same⟩

/-- What is found under a number is the same. -/
private theorem feeds_of_lane? {id : Nat} (same : b'.lane? id = b.lane? id) :
    ∃ made, b'.feed id = b.feed id ++ made ∧ Makes b b' id made := by
  refine ⟨[], ?_, .none ?_⟩
  · rw [feed, feed, same, List.append_nil]
  · rw [nextTag, nextTag, same]

namespace Proceeds

private theorem of_lanes (lanes : b'.lanes = b.lanes) (leases : b'.leases = b.leases)
    (subscribers : b'.subscribers = b.subscribers) : Proceeds b b' :=
  ⟨.of_lanes lanes leases subscribers, fun id => feeds_of_lane? (by rw [lane?, lane?, lanes])⟩

private theorem trans (first : Proceeds b b') (second : Proceeds b' b'') : Proceeds b b'' := by
  refine ⟨first.toRecalls.trans second.toRecalls, ?_⟩
  intro id
  obtain ⟨made, feed, ⟨tags, next⟩⟩ := first.feeds id
  obtain ⟨made', feed', ⟨tags', next'⟩⟩ := second.feeds id
  refine ⟨made ++ made', by rw [feed', feed, List.append_assoc], ?_, ?_⟩
  · rw [List.map_append, tags, tags', next, List.length_append, List.range'_append_1]
  · rw [next', next, List.length_append, Nat.add_assoc]

/-- One channel changes. -/
private theorem setLane {lane next : Lane β} {made : List (Delivery β)}
    (found : b.lane? lane.id = some lane) (number : next.id = lane.id)
    (subscriptions : next.subscriptions = lane.subscriptions)
    (items : next.deliveries.items = lane.deliveries.items ++ made)
    (tags : made.map (·.tag) = List.range' lane.nextTag made.length)
    (nextTag : next.nextTag = lane.nextTag + made.length) : Proceeds b (b.setLane next) := by
  refine ⟨.setLane found number subscriptions, ?_⟩
  intro id
  have after := lane?_of_change found number (rfl : (b.setLane next).lanes = _) id
  by_cases here : id = lane.id
  · subst here
    rw [if_pos rfl] at after
    refine ⟨made, ?_, ?_, ?_⟩
    · simp [feed, after, found, items]
    · simpa [Broker.nextTag, found] using tags
    · simpa [Broker.nextTag, after, found] using nextTag
  · rw [if_neg here] at after
    exact feeds_of_lane? after

/-- A channel changes, but no delivery is made on it. -/
private theorem rest {lane next : Lane β} (found : b.lane? lane.id = some lane)
    (number : next.id = lane.id) (subscriptions : next.subscriptions = lane.subscriptions)
    (items : next.deliveries.items = lane.deliveries.items)
    (nextTag : next.nextTag = lane.nextTag) : Proceeds b (b.setLane next) :=
  setLane found number subscriptions (items.trans (List.append_nil _).symm) rfl nextTag

private theorem of_pours (pours : Pours b b') : Proceeds b b' := by
  cases pours with
  | @deliver r rest lane next ready found delivered =>
    have same := Lane.eq_of_deliver? delivered
    let made : List (Delivery β) := [⟨lane.nextTag, r.body, r.redelivered, "", ""⟩]
    have items : next.deliveries.items = lane.deliveries.items ++ made := by rw [same]
    have put : Proceeds b (b.setLane next) :=
      setLane found (by rw [same]) (by rw [same]) items rfl (by rw [same]; rfl)
    exact put.trans (of_lanes rfl rfl rfl)
  | @hangUp lane found =>
    have ended : Proceeds b (b.setLane lane.hangUp) := rest found rfl rfl rfl rfl
    exact ended.trans (of_lanes rfl rfl rfl)

private theorem of_all_pours (pours : ReflTransGen Pours b b') : Proceeds b b' := by
  induction pours with
  | refl => exact of_lanes rfl rfl rfl
  | tail _ step ih => exact ih.trans (of_pours step)

private theorem pump (b : Broker β) : Proceeds b b.pump := of_all_pours (pours_pump b)

private theorem requeue (b : Broker β) (bodies : List β) : Proceeds b (b.requeue bodies) := by
  have added : Proceeds b { b with ready := bodies.map (⟨·, true⟩) ++ b.ready } :=
    of_lanes rfl rfl rfl
  exact added.trans (of_all_pours (pours_requeue b bodies))

private theorem publish (b : Broker β) (body : β) : Proceeds b (b.publish body) := by
  have added : Proceeds b { b with ready := b.ready ++ [⟨body, false⟩] } := of_lanes rfl rfl rfl
  exact added.trans (pump _)

private theorem retire (b : Broker β) (id : Nat) : Proceeds b (b.retire id) := by
  unfold Broker.retire
  split
  · exact of_lanes rfl rfl rfl
  · exact of_lanes rfl rfl rfl

/-- Something is done on a channel that makes no delivery. -/
private theorem withLane (b : Broker β) (id : Nat) {change : Lane β → Lane β}
    (spares : ∀ lane, (change lane).id = lane.id ∧
      (change lane).subscriptions = lane.subscriptions ∧
      (change lane).deliveries.items = lane.deliveries.items ∧
      (change lane).nextTag = lane.nextTag) : Proceeds b (b.withLane id change) := by
  unfold Broker.withLane
  cases found : b.lane? id with
  | none => exact of_lanes rfl rfl rfl
  | some lane =>
    rw [← id_of_lane? found] at found
    obtain ⟨number, subscriptions, items, nextTag⟩ := spares lane
    exact rest found number subscriptions items nextTag

private theorem hangUp (b : Broker β) (id : Nat) : Proceeds b (b.withLane id .hangUp) :=
  withLane b id fun _ => ⟨rfl, rfl, rfl, rfl⟩

/-- The holder of the closures of a channel does something with them. -/
private theorem withNotices (b : Broker β) (id : Nat) (change : Feed Closure → Feed Closure) :
    Proceeds b (b.withLane id fun lane => { lane with notices := change lane.notices }) :=
  withLane b id fun _ => ⟨rfl, rfl, rfl, rfl⟩

private theorem limit (b : Broker β) (id : Nat) (prefetch : Prefetch) (forAll : Bool) :
    Proceeds b (b.limit id prefetch forAll).2 := by
  unfold Broker.limit
  cases found : b.lane? id with
  | none => exact of_lanes rfl rfl rfl
  | some lane =>
    rw [← id_of_lane? found] at found
    exact rest found rfl rfl rfl rfl

private theorem settle (b : Broker β) (id tag : Nat) (verdict : Verdict) :
    Proceeds b (b.settle id tag verdict).2 := by
  unfold Broker.settle
  cases found : b.lane? id with
  | none => exact of_lanes rfl rfl rfl
  | some lane =>
    dsimp only
    cases settled : lane.settle tag verdict with
    | error fault => exact of_lanes rfl rfl rfl
    | ok got =>
      have same := Lane.eq_of_settle settled
      rw [← id_of_lane? found] at found
      have changed : Proceeds b (b.setLane got.2) :=
        rest found (by rw [same]) (by rw [same]) (by rw [same]) (by rw [same])
      exact changed.trans (requeue _ got.1)

private theorem release (b : Broker β) (id : Nat) (errored : Bool) :
    Proceeds b (b.release id errored) := by
  have noted : Proceeds b { b with released := b.released ++ [(id, errored)] } :=
    of_lanes rfl rfl rfl
  exact noted.trans ((retire _ id).trans (hangUp _ id))

private theorem close (b : Broker β) (id : Nat) (closure : Closure) :
    Proceeds b (b.close id closure) := by
  unfold Broker.close
  cases found : b.lane? id with
  | none => exact of_lanes rfl rfl rfl
  | some lane =>
    dsimp only
    split
    · have number := id_of_lane? found
      subst number
      have closed : Proceeds b (b.setLane (lane.close closure)) := rest found rfl rfl rfl rfl
      exact closed.trans ((retire _ _).trans (requeue _ _))
    · exact of_lanes rfl rfl rfl

private theorem cancel (b : Broker β) : Proceeds b b.cancel.2 := by
  unfold Broker.cancel
  split
  · exact of_lanes rfl rfl rfl
  · next id active =>
    have idle : Proceeds b { b with active := none } := of_lanes rfl rfl rfl
    exact idle.trans (hangUp _ id)

end Proceeds

/-! ## Deliveries that acts make -/

/-- The deliveries that are made come up at the end of the feed. -/
private theorem arrivals_eq {id : Nat} {made : List (Delivery β)}
    (feed : (b.apply a).feed id = b.feed id ++ made) (old : id ∉ b.begins a) :
    b.arrivals id a = made := by
  rw [arrivals, if_neg old, feed, List.drop_left]

private theorem Proceeds.makes (proceeds : Proceeds b (b.apply a)) (none : b.begins a = [])
    (id : Nat) :
    Makes b (b.apply a) id (b.arrivals id a) := by
  obtain ⟨made, feed, makes⟩ := proceeds.feeds id
  rw [arrivals_eq feed (by rw [none]; exact List.not_mem_nil)]
  exact makes

/-- The holder of the deliveries of a channel takes some off. -/
theorem withDeliveries_spec (b : Broker β) (id : Nat)
    {change : Feed (Delivery β) → Feed (Delivery β)}
    (fewer : ∀ feed, (change feed).items.length ≤ feed.items.length)
    (same : b.apply a =
      b.withLane id fun lane => { lane with deliveries := change lane.deliveries })
    (none : b.begins a = []) :
    Recalls b (b.apply a) ∧ ∀ other, Makes b (b.apply a) other (b.arrivals other a) := by
  unfold Broker.withLane at same
  cases found : b.lane? id with
  | none =>
    rw [found] at same
    have proceeds : Proceeds b (b.apply a) := same ▸ .of_lanes rfl rfl rfl
    exact ⟨proceeds.toRecalls, proceeds.makes none⟩
  | some lane =>
    rw [found] at same
    rw [← id_of_lane? found] at found
    refine ⟨same ▸ .setLane found rfl rfl, ?_⟩
    intro other
    have number : { lane with deliveries := change lane.deliveries }.id = lane.id := rfl
    have after := lane?_of_change found number (congrArg Broker.lanes same) other
    have nothing : b.arrivals other a = [] := by
      rw [arrivals, none, if_neg List.not_mem_nil, List.drop_eq_nil_iff, feed, feed, after]
      split
      · next here =>
        rw [here, found]
        exact fewer lane.deliveries
      · exact Nat.le_refl _
    rw [nothing]
    apply Makes.none
    rw [nextTag, nextTag, after]
    split
    · next here => rw [here, found]; rfl
    · rfl

private theorem lease_spec (b : Broker β) (id : Nat) :
    b.lease.2.feed id = b.feed id ∧ b.lease.2.nextTag id = b.nextTag id := by
  unfold Broker.lease
  dsimp only
  split
  · exact ⟨rfl, rfl⟩
  · simp only [feed, nextTag, lane?, List.find?_append]
    cases b.lanes.find? (·.id == id) with
    | some lane => exact ⟨rfl, rfl⟩
    | none =>
      rw [List.find?_singleton]
      split
      · exact ⟨rfl, rfl⟩
      · exact ⟨rfl, rfl⟩

/-- On the channel that begins to receive, a new feed replaces what was on the old one. -/
theorem subscribe_spec (b : Broker β) {lane : Lane β} (found : b.lane? lane.id = some lane)
    (s : Subscription) (id : Nat) :
    ∃ made, (b.receiving lane s).pump.feed id = (if id = lane.id then [] else b.feed id) ++ made ∧
      Makes b (b.receiving lane s).pump id made := by
  obtain ⟨made, fed, ⟨tags, last⟩⟩ := (Proceeds.pump (b.receiving lane s)).feeds id
  have number : (lane.begin s).id = lane.id := rfl
  have lanes : (b.receiving lane s).lanes = (b.setLane (lane.begin s)).lanes := rfl
  have after := lane?_of_change found number lanes id
  have start : (b.receiving lane s).feed id = if id = lane.id then [] else b.feed id := by
    rw [feed, after]
    split
    · rfl
    · rfl
  have tag : (b.receiving lane s).nextTag id = b.nextTag id := by
    rw [nextTag, nextTag, after]
    split
    · next here => rw [here, found]; rfl
    · rfl
  rw [start] at fed
  rw [tag] at tags last
  exact ⟨made, fed, tags, last⟩

/-- One more call to receive is known. -/
theorem receiving_spec (sorted : b.Sorted) {lane : Lane β} (found : b.lane? lane.id = some lane)
    (s : Subscription) : (b.receiving lane s).Sorted ∧
      (b.receiving lane s).lanes.map (·.id) = b.lanes.map (·.id) ∧
      (b.receiving lane s).asked.length = b.asked.length + 1 := by
  have begun : (b.setLane (lane.begin s)).Sorted := sorted.setLane nofun
  refine ⟨begun.of_lanes rfl, ?_, ?_⟩
  · have count : (b.setLane (lane.begin s)).lanes.length = b.lanes.length := by simp [setLane]
    exact begun.numbers.trans (count ▸ sorted.numbers.symm)
  · obtain ⟨others, whole, each⟩ := sorted.flatMap_setLane found (·.subscriptions)
    have before := congrArg Multiset.card whole
    have after := congrArg Multiset.card (each (lane.begin s) rfl)
    simp only [Multiset.coe_card, Multiset.card_add, Lane.begin, List.length_append,
      List.length_singleton] at before after
    have known : (b.receiving lane s).asked.length =
        lane.subscriptions.length + 1 + others.card := after
    rw [known, asked, before]
    omega

/-! ## What the acts so far tell -/

/-- The channels are those that were leased, calls to lease and to receive are counted, and on each
channel the tags of the deliveries that were made are in turn. -/
structure Tells (b : Broker β) (leased : List Nat) (refused : List ChannelFault)
    (arrived : Nat → List (Delivery β)) : Prop where
  sorted : b.Sorted
  numbers : b.lanes.map (·.id) = leased
  leases : b.leases = b.lanes.length + refused.length
  subscribers : b.subscribers = b.asked.length
  tags : ∀ id, (arrived id).map (·.tag) = List.range' 1 (arrived id).length
  nextTag : ∀ id, b.nextTag id = 1 + (arrived id).length

namespace Tells

variable {leased : List Nat} {refused : List ChannelFault} {arrived : Nat → List (Delivery β)}

private theorem ofQueue (queue : String) : (ofQueue queue : Broker β).Tells [] [] fun _ => [] :=
  ⟨sorted_ofQueue queue, rfl, rfl, rfl, fun _ => rfl, fun _ => rfl⟩

/-- With an act, further deliveries are made. -/
private theorem makes (tells : b.Tells leased refused arrived)
    (numbers : (b.apply a).lanes.map (·.id) = leased ++ b.leased a)
    (leases : (b.apply a).leases = (b.apply a).lanes.length + (refused ++ b.refusals a).length)
    (subscribers : (b.apply a).subscribers = (b.apply a).asked.length)
    (makes : ∀ id, Makes b (b.apply a) id (b.arrivals id a)) :
    (b.apply a).Tells (leased ++ b.leased a) (refused ++ b.refusals a)
      fun id => arrived id ++ b.arrivals id a := by
  refine ⟨(tells.sorted.apply a).1, numbers, leases, subscribers, ?_, ?_⟩
  · intro id
    rw [List.map_append, tells.tags, (makes id).tags, tells.nextTag, List.length_append,
      List.range'_append_1]
  · intro id
    rw [(makes id).nextTag, tells.nextTag, List.length_append, Nat.add_assoc]

/-- No channel is leased, and no call to receive is made. -/
private theorem recalls (tells : b.Tells leased refused arrived) (recalls : Recalls b (b.apply a))
    (none : b.leased a = []) (none' : b.refusals a = [])
    (makes : ∀ id, Makes b (b.apply a) id (b.arrivals id a)) :
    (b.apply a).Tells (leased ++ b.leased a) (refused ++ b.refusals a)
      fun id => arrived id ++ b.arrivals id a := by
  have count : (b.apply a).lanes.length = b.lanes.length := by
    simpa using congrArg List.length recalls.numbers
  refine tells.makes ?_ ?_ ?_ makes
  · rw [recalls.numbers, tells.numbers, none, List.append_nil]
  · rw [recalls.leases, tells.leases, none', List.append_nil, count]
  · rw [recalls.subscribers, tells.subscribers,
      recalls.length_asked tells.sorted (tells.sorted.apply a).1]

private theorem proceeds (tells : b.Tells leased refused arrived)
    (proceeds : Proceeds b (b.apply a))
    (old : b.begins a = []) (none : b.leased a = []) (none' : b.refusals a = []) :
    (b.apply a).Tells (leased ++ b.leased a) (refused ++ b.refusals a)
      fun id => arrived id ++ b.arrivals id a :=
  tells.recalls proceeds.toRecalls none none' (proceeds.makes old)

private theorem lease (tells : b.Tells leased refused arrived) :
    (b.apply .lease).Tells (leased ++ b.leased .lease) (refused ++ b.refusals .lease)
      fun id => arrived id ++ b.arrivals id .lease := by
  have idle (id : Nat) : Makes b (b.apply .lease) id (b.arrivals id .lease) := by
    obtain ⟨feed, nextTag⟩ := b.lease_spec id
    have same : (b.apply .lease).feed id = b.feed id ++ [] := feed.trans (List.append_nil _).symm
    rw [arrivals_eq same List.not_mem_nil]
    exact .none nextTag
  refine tells.makes ?_ ?_ ?_ idle
  all_goals
    simp only [Broker.apply, Broker.leased, Broker.refusals]
    unfold Broker.lease
    dsimp only
    split
  · exact tells.numbers.trans (List.append_nil _).symm
  · simp [tells.numbers, Lane.ofId]
  · simp [tells.leases, Nat.add_assoc]
  · simp [tells.leases, Nat.add_right_comm]
  · exact tells.subscribers
  · simp [tells.subscribers, asked, Lane.ofId]

private theorem subscribe (tells : b.Tells leased refused arrived) (id : Nat) (s : Subscription) :
    (b.apply (.subscribe id s)).Tells (leased ++ b.leased (.subscribe id s))
      (refused ++ b.refusals (.subscribe id s))
      fun other => arrived other ++ b.arrivals other (.subscribe id s) := by
  have sorted := (tells.sorted.apply (.subscribe id s)).1
  obtain ⟨fault, count, same⟩ | ⟨lane, found, _, same⟩ := b.subscribe_cases id s
  · have after : b.apply (.subscribe id s) = { b with failSubscriptions := count } := by
      rw [apply, same]
    refine tells.proceeds ?_ (by rw [begins, same]) rfl rfl
    rw [after]
    exact .of_lanes rfl rfl rfl
  · have number := id_of_lane? found
    subst number
    have after : b.apply (.subscribe lane.id s) = { (b.receiving lane s).pump with
        subscribers := (b.receiving lane s).pump.subscribers + 1 } := by
      rw [apply, same]
    have started : b.begins (.subscribe lane.id s) = [lane.id] := by rw [begins, same]
    have pumped := (Proceeds.pump (b.receiving lane s)).toRecalls
    obtain ⟨sorted', numbers, asked⟩ := receiving_spec tells.sorted found s
    have lanes : (b.apply (.subscribe lane.id s)).lanes = (b.receiving lane s).pump.lanes := by
      rw [after]
    have same_numbers : (b.apply (.subscribe lane.id s)).lanes.map (·.id) = b.lanes.map (·.id) := by
      rw [lanes, pumped.numbers, numbers]
    have count : (b.apply (.subscribe lane.id s)).lanes.length = b.lanes.length := by
      simpa using congrArg List.length same_numbers
    refine tells.makes ?_ ?_ ?_ ?_
    · exact (same_numbers.trans tells.numbers).trans (List.append_nil _).symm
    · have leases : (b.apply (.subscribe lane.id s)).leases = b.leases := by
        rw [after]
        exact pumped.leases
      have none : b.refusals (.subscribe lane.id s) = [] := rfl
      rw [leases, count, tells.leases, none, List.append_nil]
    · have heard : (b.receiving lane s).pump.asked.length = b.asked.length + 1 :=
        (pumped.length_asked sorted' (sorted.of_lanes lanes.symm)).trans asked
      rw [Broker.asked, lanes, ← Broker.asked, heard, after, ← tells.subscribers]
      exact congrArg (· + 1) pumped.subscribers
    · intro other
      obtain ⟨made, fed, tags, last⟩ := subscribe_spec b found s other
      have found' : (b.apply (.subscribe lane.id s)).lane? other =
          (b.receiving lane s).pump.lane? other := by
        rw [lane?, lane?, lanes]
      have arrived : b.arrivals other (.subscribe lane.id s) = made := by
        have here : other ∈ b.begins (.subscribe lane.id s) ↔ other = lane.id := by
          rw [started, List.mem_singleton]
        rw [arrivals, feed, found', ← feed, fed]
        by_cases same : other = lane.id
        · rw [if_pos (here.mpr same), if_pos same, List.nil_append]
        · rw [if_neg (same ∘ here.mp), if_neg same, List.drop_left]
      rw [arrived]
      refine ⟨tags, ?_⟩
      rw [Broker.nextTag, found', ← Broker.nextTag, last]

theorem apply (tells : b.Tells leased refused arrived) (a : Act β) :
    (b.apply a).Tells (leased ++ b.leased a) (refused ++ b.refusals a)
      fun id => arrived id ++ b.arrivals id a := by
  cases a with
  | publish body => exact tells.proceeds (.publish b body) rfl rfl rfl
  | lease => exact tells.lease
  | limit id prefetch forAll => exact tells.proceeds (.limit b id prefetch forAll) rfl rfl rfl
  | subscribe id s => exact tells.subscribe id s
  | settle id tag verdict => exact tells.proceeds (.settle b id tag verdict) rfl rfl rfl
  | release id errored => exact tells.proceeds (.release b id errored) rfl rfl rfl
  | close id closure => exact tells.proceeds (.close b id closure) rfl rfl rfl
  | closeActive closure =>
    refine tells.proceeds ?_ rfl rfl rfl
    simp only [Broker.apply, Broker.closeActive]
    split
    · exact .of_lanes rfl rfl rfl
    · exact .close b _ closure
  | cancel => exact tells.proceeds (.cancel b) rfl rfl rfl
  | failLeases count => exact tells.proceeds (.of_lanes rfl rfl rfl) rfl rfl rfl
  | failSubscriptions count => exact tells.proceeds (.of_lanes rfl rfl rfl) rfl rfl rfl
  | take id =>
    have fewer (feed : Feed (Delivery β)) : feed.drop.items.length ≤ feed.items.length :=
      (List.tail_sublist _).length_le
    obtain ⟨recalls, makes⟩ := b.withDeliveries_spec (a := .take id) id fewer rfl rfl
    exact tells.recalls recalls rfl rfl makes
  | dropStream id =>
    have fewer (feed : Feed (Delivery β)) : feed.ignore.items.length ≤ feed.items.length :=
      Nat.zero_le _
    obtain ⟨recalls, makes⟩ := b.withDeliveries_spec (a := .dropStream id) id fewer rfl rfl
    exact tells.recalls recalls rfl rfl makes
  | takeNotice id => exact tells.proceeds (.withNotices b id Feed.drop) rfl rfl rfl
  | dropNotices id => exact tells.proceeds (.withNotices b id Feed.ignore) rfl rfl rfl

end Tells

theorem tells_foldl (queue : String) (acts : List (Act β)) :
    (acts.foldl apply (ofQueue queue)).Tells
      (Replay.gather Broker.step? leased (ofQueue queue) acts)
      (Replay.gather Broker.step? refusals (ofQueue queue) acts)
      fun id => Replay.gather Broker.step? (arrivals id) (ofQueue queue) acts := by
  induction acts using List.reverseRecOn with
  | nil => exact .ofQueue queue
  | append_singleton acts a ih =>
    have stepped : (acts.foldl apply (ofQueue queue)).step? a =
        some ((acts.foldl apply (ofQueue queue)).apply a) := rfl
    have ran := after?_eq (ofQueue queue : Broker β) acts
    have more (id : Nat) := Replay.gather_concat (arrivals id) ran stepped
    rw [Replay.gather_concat leased ran stepped, Replay.gather_concat refusals ran stepped,
      funext more, List.foldl_concat]
    exact ih.apply a

/-! ## Between acts -/

/-- The parts of a broker fit together. -/
structure Sound (b : Broker β) : Prop where
  active : ∀ id, b.active = some id →
    ∃ lane, b.lane? id = some lane ∧ lane.isOpen = true ∧ lane.deliveries.sending = true
  idle : b.ready ≠ [] → b.active = none
  lanes : ∀ lane ∈ b.lanes, lane.Sound
  numbers : b.lanes.map (·.id) = List.range' 1 b.lanes.length
  subscribers : b.subscribers = (b.lanes.flatMap (·.subscriptions)).length

/-- The channels of a broker went through changes since they were leased. -/
theorem sound_of_lane? (queue : String) (acts : List (Act β)) {id : Nat} {lane : Lane β}
    (found : (acts.foldl apply (ofQueue queue)).lane? id = some lane) : lane.Sound := by
  have course := (evolves_foldl (ofQueue queue) acts).new id lane rfl found
  exact (Lane.sound_ofId id).course course

/-- Whatever was asked of a broker, its parts fit together, a channel that was closed at any time
stays closed, and the acts so far tell the channels, the tags of all deliveries on each of them, and
the count of calls to lease one. -/
theorem sound_foldl (queue : String) (acts : List (Act β)) :
    (acts.foldl apply (ofQueue queue)).Sound ∧
      (∀ before after id, acts = before ++ after →
        (before.foldl apply (ofQueue queue)).Closed id →
          (acts.foldl apply (ofQueue queue)).Closed id) ∧
      (acts.foldl apply (ofQueue queue)).lanes.map (·.id) =
        Replay.gather Broker.step? leased (ofQueue queue) acts ∧
      (∀ id, (Replay.gather Broker.step? (arrivals id) (ofQueue queue) acts).map (·.tag) =
        List.range' 1 ((acts.foldl apply (ofQueue queue)).nextTag id - 1)) ∧
      (acts.foldl apply (ofQueue queue)).leases = (acts.foldl apply (ofQueue queue)).lanes.length +
        (Replay.gather Broker.step? refusals (ofQueue queue) acts).length := by
  have tells := tells_foldl queue acts
  refine ⟨?_, ?_, tells.numbers, ?_, tells.leases⟩
  · have routes := routes_foldl queue acts
    refine ⟨?_, ?_, ?_, tells.sorted.numbers, tells.subscribers⟩
    · intro id active
      obtain ⟨lane, found, sending⟩ := routes.exists_lane active
      refine ⟨lane, found, ?_, sending⟩
      cases isOpen : lane.isOpen with
      | true => rfl
      | false =>
        have ended := ((sound_of_lane? queue acts found).closed isOpen).1
        exact absurd (sending.symm.trans ended) nofun
    · exact routes.ready.resolve_right
    · intro lane member
      exact sound_of_lane? queue acts (tells.sorted.lane? member)
  · rintro before after id rfl closed
    rw [List.foldl_append]
    exact closed.evolves (evolves_foldl _ after)
  · intro id
    rw [tells.tags, tells.nextTag, Nat.add_sub_cancel_left]

end Broker

end Intake
