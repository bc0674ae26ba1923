import Intake.Proofs.Broker.Delivering

/-! # Several deliveries at once

A verdict on all deliveries up to a tag comes to the same as one verdict on each of them, whatever
the order. Bodies that are sent back, by such a verdict or because their channel closes, keep the
order of their tags and go before all that is ready: `Broker.Returns`.
-/

namespace Intake

namespace Verdict

/-- The same verdict on one delivery alone. -/
def single : Verdict → Verdict
  | .ack _ => .ack false
  | .nack _ requeue => .nack false requeue

@[simp] theorem single_final (verdict : Verdict) : verdict.single.final = verdict.final := by
  cases verdict <;> rfl

@[simp] theorem single_multiple (verdict : Verdict) : verdict.single.multiple = false := by
  cases verdict <;> rfl

private theorem covers_single (verdict : Verdict) (tag other : Nat) :
    verdict.single.covers tag other = (other == tag) := by
  simp [covers]

private theorem covers_of_multiple {verdict : Verdict} {tag : Nat}
    (multiple : verdict.multiple = true) (small : tag < 2 ^ 64 - 1) (other : Nat) :
    verdict.covers tag other = decide (other ≤ tag) := by
  have within : tag + 1 < Nat.pow 2 64 := Nat.add_lt_of_lt_sub small
  rw [covers, if_pos multiple, Nat.mod_eq_of_lt within]
  exact decide_eq_decide.mpr Nat.lt_succ_iff

/-- A verdict on the last tag and all up to it is about none. -/
example : (ack true).covers (2 ^ 64 - 1) 1 = false := by decide

end Verdict

namespace Lane

variable {β : Type} {lane next : Lane β} {verdict : Verdict} {tag : Nat} {body : β}

/-! ## The order of what is outstanding -/

/-- The deliveries that are outstanding are in the order of their tags. -/
def Ordered (lane : Lane β) : Prop := lane.tags.Pairwise (· < ·)

private theorem Ordered.nodup (ordered : lane.Ordered) : lane.tags.Nodup := ordered.imp Nat.ne_of_lt

private theorem Ordered.change (ordered : lane.Ordered) (sound : lane.Sound)
    (change : lane.Change next) :
    next.Ordered := by
  cases change with
  | deliver delivered =>
    rw [Ordered, tags_of_deliver? delivered]
    split
    · exact ordered
    · refine List.pairwise_append.mpr ⟨ordered, List.pairwise_singleton _ _, ?_⟩
      intro tag member last single
      obtain ⟨d, outstanding, rfl⟩ := List.mem_map.mp member
      rw [List.mem_singleton.mp single]
      exact (sound.delivered d outstanding).2
  | settle settled =>
    have fewer : next.tags.Sublist lane.tags := by
      rw [tags, outstanding_of_settle settled]
      exact List.filter_sublist.map _
    exact List.Pairwise.sublist fewer ordered
  | close => exact List.Pairwise.nil
  | _ => exact ordered

private theorem ordered_of_course {id : Nat} (course : Lane.Course (.ofId id) lane) :
    lane.Ordered := by
  have holds : lane.Sound ∧ lane.Ordered := by
    induction course with
    | refl => exact ⟨sound_ofId id, List.Pairwise.nil⟩
    | tail _ change ih => exact ⟨ih.1.change change, ih.2.change ih.1 change⟩
  exact holds.2

/-! ## One verdict after the other -/

/-- Settle deliveries one by one: the channel without them, if every call succeeds. -/
def settleEach (lane : Lane β) (verdict : Verdict) : List Nat → Except ChannelFault (Lane β)
  | [] => .ok lane
  | tag :: rest =>
    match lane.settle tag verdict.single with
    | .ok (_, next) => next.settleEach verdict rest
    | .error fault => .error fault

private theorem settle_single (isOpen : lane.isOpen = true) (once : lane.tags.Nodup)
    (member : (tag, body) ∈ lane.outstanding) (verdict : Verdict) :
    ∃ next, lane.settle tag verdict.single =
        .ok (if verdict.final then [] else [body], next) ∧
      next.outstanding = lane.outstanding.filter (·.1 ≠ tag) ∧ next.isOpen = true := by
  have meant := meant_eq_of_nodup once verdict.single_multiple member
  obtain ⟨_, refused⟩ | ⟨_, next, settled, left⟩ := lane.settle_cases tag verdict.single
  · exact absurd ⟨isOpen, .inr (by simp [meant])⟩ refused
  · refine ⟨next, ?_, ?_, ?_⟩
    · rw [settled, meant, verdict.single_final]
      rfl
    · rw [left, spared]
      apply List.filter_congr
      intro d _
      rw [verdict.covers_single]
      exact (decide_not (p := d.1 = tag)).symm
    · rw [eq_of_settle settled]
      exact isOpen

private theorem tags_of_filter (left : next.outstanding = lane.outstanding.filter (·.1 ≠ tag)) :
    next.tags = lane.tags.filter (· ≠ tag) := by
  rw [tags, left, tags, List.filter_map]
  rfl

/-- On an open channel all deliveries up to a tag can be settled at once. -/
private theorem settle_multiple (isOpen : lane.isOpen = true) (multiple : verdict.multiple = true)
    (small : tag < 2 ^ 64 - 1) :
    ∃ next, lane.settle tag verdict = .ok (if verdict.final then []
        else (lane.outstanding.filter (·.1 ≤ tag)).map (·.2), next) ∧
      next.outstanding = lane.outstanding.filter (tag < ·.1) := by
  obtain ⟨_, refused⟩ | ⟨_, next, settled, left⟩ := lane.settle_cases tag verdict
  · exact absurd ⟨isOpen, .inl multiple⟩ refused
  · refine ⟨next, ?_, ?_⟩
    · simp only [settled, meant, Verdict.covers_of_multiple multiple small]
    · rw [left, spared]
      apply List.filter_congr
      intro d _
      rw [Verdict.covers_of_multiple multiple small, ← decide_not]
      exact decide_eq_decide.mpr Nat.not_le

/-- A verdict is about the deliveries whose tags it covers. -/
private theorem tag_mem_meant {d : Nat × β} (member : d ∈ lane.outstanding) :
    d.1 ∈ (lane.meant tag verdict).map (·.1) ↔ verdict.covers tag d.1 = true := by
  constructor
  · intro meant
    obtain ⟨other, here, same⟩ := List.mem_map.mp meant
    rw [← same]
    exact (List.mem_filter.mp here).2
  · intro covers
    exact List.mem_map_of_mem (List.mem_filter.mpr ⟨member, covers⟩)

private theorem exists_of_mem_tags (member : tag ∈ lane.tags) :
    ∃ body, (tag, body) ∈ lane.outstanding := by
  obtain ⟨⟨_, body⟩, outstanding, rfl⟩ := List.mem_map.mp member
  exact ⟨body, outstanding⟩

/-- What is to be settled later is still outstanding. -/
private theorem subset_of_filter {rest : List Nat} (left : next.tags = lane.tags.filter (· ≠ tag))
    (absent : tag ∉ rest) (among : rest ⊆ lane.tags) : rest ⊆ next.tags := by
  intro other later
  rw [left, List.mem_filter, decide_eq_true_eq]
  exact ⟨among later, fun same => absent (same ▸ later)⟩

private theorem filter_not_mem_cons (entries : List (Nat × β)) (tag : Nat) (rest : List Nat) :
    (entries.filter (·.1 ≠ tag)).filter (·.1 ∉ rest) = entries.filter (·.1 ∉ tag :: rest) := by
  rw [List.filter_filter]
  apply List.filter_congr
  intro d _
  simp [Bool.and_comm]

/-- Every call succeeds, and what was not settled is left. -/
theorem settleEach_spec {order : List Nat} (isOpen : lane.isOpen = true) (once : lane.tags.Nodup)
    (distinct : order.Nodup) (among : order ⊆ lane.tags) (verdict : Verdict) :
    ∃ last, lane.settleEach verdict order = .ok last ∧
      last.outstanding = lane.outstanding.filter (·.1 ∉ order) := by
  induction order generalizing lane with
  | nil => exact ⟨lane, rfl, by simp⟩
  | cons tag rest ih =>
    obtain ⟨absent, distinct⟩ := List.nodup_cons.mp distinct
    obtain ⟨body, member⟩ := exists_of_mem_tags (among List.mem_cons_self)
    obtain ⟨next, settled, left, isOpen'⟩ := settle_single isOpen once member verdict
    have tags := tags_of_filter left
    have among' : rest ⊆ next.tags := subset_of_filter tags absent fun _ later =>
      among (List.mem_cons_of_mem _ later)
    obtain ⟨last, ran, outstanding⟩ := ih isOpen' (tags ▸ once.filter _) distinct among'
    refine ⟨last, by rw [settleEach, settled]; exact ran, ?_⟩
    rw [outstanding, left, filter_not_mem_cons]

end Lane

namespace Broker

variable {β : Type} {b b' m : Broker β} {lane next : Lane β} {id tag : Nat} {verdict : Verdict}
  {bodies : List β}

/-- The deliveries that are outstanding on a channel. -/
def outstanding (b : Broker β) (id : Nat) : List (Nat × β) :=
  ((b.lane? id).map (·.outstanding)).getD []

private theorem outstanding_of_lane? (found : b.lane? id = some lane) :
    b.outstanding id = lane.outstanding := by
  rw [outstanding, found]
  rfl

/-- Settle deliveries of a channel one by one: the broker, if every call succeeds. -/
def settleEach (b : Broker β) (id : Nat) (verdict : Verdict) :
    List Nat → Except ChannelFault (Broker β)
  | [] => .ok b
  | tag :: rest =>
    match b.settle id tag verdict.single with
    | (.ok _, next) => next.settleEach id verdict rest
    | (.error fault, _) => .error fault

private theorem settle_eq_of_ok (found : b.lane? id = some lane)
    (settled : lane.settle tag verdict = .ok (bodies, next)) :
    b.settle id tag verdict = (.ok (), (b.setLane next).requeue bodies) := by
  simp only [Broker.settle, found, settled]

/-! ## The channel that receives -/

private theorem receiver?_congr (active : m.active = b.active)
    (same : ∀ id, b.active = some id → m.lane? id = b.lane? id) : m.receiver? = b.receiver? := by
  unfold receiver?
  rw [active]
  cases here : b.active with
  | none => rfl
  | some id => rw [Option.bind_some, Option.bind_some, same id here]

/-- A channel changes, but not its feed of deliveries. -/
private theorem receiver?_setLane (found : b.lane? lane.id = some lane) (number : next.id = lane.id)
    (same : next.deliveries = lane.deliveries) :
    (b.setLane next).receiver? = b.receiver?.map fun r => if r.id = lane.id then next else r := by
  have lanes := lane?_of_change found number (rfl : (b.setLane next).lanes = _)
  unfold receiver?
  have active : (b.setLane next).active = b.active := rfl
  rw [active]
  cases b.active with
  | none => rfl
  | some id =>
    rw [Option.bind_some, Option.bind_some, lanes]
    by_cases here : id = lane.id
    · have receives : next.receives = lane.receives := by rw [Lane.receives, same]; rfl
      rw [if_pos here, here, found, Option.filter_some, Option.filter_some, receives]
      cases lane.receives
      · rfl
      · simp
    · rw [if_neg here]
      cases other : b.lane? id with
      | none => rfl
      | some r =>
        have apart : r.id ≠ lane.id := id_of_lane? other ▸ here
        rw [Option.filter_some]
        cases r.receives
        · rfl
        · simp [apart]

/-! ## Bodies that come back -/

/-- Bodies come back to a broker. If a channel receives, nothing was ready, and they are delivered
on it under the next tags; if none does, they stay before all that is ready. -/
structure Returns (b : Broker β) (bodies : List β) (b' : Broker β) : Prop where
  waiting : b.receiver? = none →
    b'.ready = bodies.map (⟨·, true⟩) ++ b.ready ∧ ∀ id, b'.feed id = b.feed id
  delivered : ∀ r, b.receiver? = some r → b.ready = [] ∧ b'.ready = [] ∧
    ∀ id, b'.feed id =
      if id = r.id then b.feed id ++ Lane.stamped r.nextTag (bodies.map (⟨·, true⟩))
      else b.feed id

/-- The bodies come back when the broker has done something with a channel. -/
private theorem returns_requeue (ready : m.ready = b.ready) (feed : ∀ id, m.feed id = b.feed id)
    (idle : b.receiver? = none → m.receiver? = none)
    (receiver : ∀ r, b.receiver? = some r → b.ready = [] ∧
      ∃ r', m.receiver? = some r' ∧ r'.id = r.id ∧ r'.nextTag = r.nextTag) (bodies : List β) :
    b.Returns bodies (m.requeue bodies) := by
  constructor
  · intro none
    have withholds := withholds_requeue (idle none) bodies
    refine ⟨withholds.ready.trans ?_, ?_⟩
    · rw [returning, ready]
    · intro id
      exact (withholds.feed id).trans (feed id)
  · intro r receives
    obtain ⟨nothing, r', receives', number, nextTag⟩ := receiver r receives
    have delivers := delivers_requeue receives' (ready.trans nothing) bodies
    refine ⟨nothing, delivers.ready, ?_⟩
    intro id
    have returned : (m.returning bodies).ready = bodies.map (⟨·, true⟩) := by
      rw [returning, ready, nothing, List.append_nil]
    have fed := delivers.feed (receiver?_eq_some_iff.mp receives').2.1 id
    rw [returned, number, nextTag] at fed
    rw [fed, ← feed id]
    rfl

private theorem feed_setLane (found : b.lane? lane.id = some lane) (number : next.id = lane.id)
    (same : next.deliveries.items = lane.deliveries.items) (id : Nat) :
    (b.setLane next).feed id = b.feed id := by
  rw [feed, lane?_of_change found number rfl]
  split
  · next here => rw [here, feed_of_lane? found, Option.map_some, same]; rfl
  · rfl

private theorem returns_of_settle {begun : List Nat} (routes : b.Routes begun)
    (found : b.lane? lane.id = some lane)
    (settled : lane.settle tag verdict = .ok (bodies, next)) :
    b.Returns bodies (b.settle lane.id tag verdict).2 := by
  have same := Lane.eq_of_settle settled
  have number : next.id = lane.id := by rw [same]
  have deliveries : next.deliveries = lane.deliveries := by rw [same]
  have nextTag : next.nextTag = lane.nextTag := by rw [same]
  have receiver := receiver?_setLane found number deliveries
  have feed := feed_setLane found number (by rw [deliveries])
  rw [settle_eq_of_ok found settled]
  refine returns_requeue (b := b) (m := b.setLane next) rfl feed ?_ ?_ bodies
  · intro none
    rw [receiver, none, Option.map_none]
  · intro r receives
    refine ⟨routes.ready_of_receiver? receives, _, by rw [receiver, receives]; rfl, ?_⟩
    dsimp only
    by_cases here : r.id = lane.id
    · have there := (receiver?_eq_some_iff.mp receives).2.1
      rw [here, found] at there
      cases there
      rw [if_pos rfl]
      exact ⟨number, nextTag⟩
    · rw [if_neg here]
      exact ⟨rfl, rfl⟩

/-- A channel that is closed receives no more. -/
private theorem returns_of_close {begun : List Nat} (routes : b.Routes begun)
    (found : b.lane? lane.id = some lane) (sound : lane.Sound) (closure : Closure) :
    (b.retire lane.id).Returns (lane.outstanding.map (·.2)) (b.close lane.id closure) := by
  have ready (r : Lane β) (receives : (b.retire lane.id).receiver? = some r) :
      (b.retire lane.id).ready = [] := by
    obtain ⟨active, _, _⟩ := receiver?_eq_some_iff.mp receives
    rw [retire_active] at active
    rw [retire_ready]
    refine routes.ready.resolve_left fun idle => ?_
    rw [idle, ite_self] at active
    cases active
  have feed_retire (b : Broker β) (id : Nat) : (b.retire lane.id).feed id = b.feed id := by
    rw [feed, lane?, retire_lanes]
    rfl
  have lane?_retire (b : Broker β) (id : Nat) : (b.retire lane.id).lane? id = b.lane? id := by
    rw [lane?, lane?, retire_lanes]
  -- it is enough that the same channel receives after the closure
  have returns {m : Broker β} (same : m.receiver? = (b.retire lane.id).receiver?)
      (waiting : m.ready = b.ready) (feed : ∀ id, m.feed id = b.feed id) (bodies : List β) :
      (b.retire lane.id).Returns bodies (m.requeue bodies) := by
    refine returns_requeue ?_ ?_ ?_ ?_ bodies
    · rw [waiting, retire_ready]
    · intro id
      rw [feed, feed_retire]
    · rw [same]
      exact id
    · intro r receives
      exact ⟨ready r receives, r, same.trans receives, rfl, rfl⟩
  have number : (lane.close closure).id = lane.id := rfl
  cases isOpen : lane.isOpen with
  | true =>
    have closed : b.close lane.id closure =
        ((b.setLane (lane.close closure)).retire lane.id).requeue (lane.outstanding.map (·.2)) := by
      simp only [Broker.close, found, isOpen, if_true]
    rw [closed]
    refine returns ?_ (retire_ready (b.setLane (lane.close closure)) _) ?_ _
    · apply receiver?_congr
      · rw [retire_active, retire_active]
        rfl
      · intro id active
        have other : id ≠ lane.id := by
          rintro rfl
          rw [retire_active] at active
          split at active
          · cases active
          · next inactive => exact inactive active
        rw [lane?_retire, lane?_retire, lane?_of_change found number rfl, if_neg other]
    · intro id
      rw [feed_retire, feed_setLane found number rfl]
  | false =>
    obtain ⟨ended, none⟩ := sound.closed isOpen
    have closed : b.close lane.id closure = b.requeue [] := by
      simp only [Broker.close, found, isOpen, Bool.false_eq_true, if_false]
      rfl
    rw [closed, none, List.map_nil]
    refine returns ?_ rfl (fun _ => rfl) _
    have idle : lane.receives = false := by simp [Lane.receives, ended]
    by_cases active : b.active = some lane.id
    · rw [receiver?, receiver?, retire_active, active, if_pos rfl, Option.bind_some, found,
        Option.filter_some, idle]
      rfl
    · rw [retire, if_neg active]

/-! ## One call or many -/

/-- When no channel receives, what is sent back one by one waits, the last body first. -/
private theorem settleEach_of_idle {entries : List (Nat × β)} (idle : b.receiver? = none)
    (found : b.lane? id = some lane) (isOpen : lane.isOpen = true) (once : lane.tags.Nodup)
    (distinct : (entries.map (·.1)).Nodup) (among : entries ⊆ lane.outstanding)
    (returned : verdict.final = false) :
    ∃ b', b.settleEach id verdict (entries.map (·.1)) = .ok b' ∧
      b'.ready = entries.reverse.map (⟨·.2, true⟩) ++ b.ready ∧
      b'.outstanding id = lane.outstanding.filter (·.1 ∉ entries.map (·.1)) := by
  induction entries generalizing b lane with
  | nil =>
    refine ⟨b, rfl, rfl, ?_⟩
    rw [outstanding_of_lane? found]
    simp
  | cons d rest ih =>
    obtain ⟨tag, body⟩ := d
    rw [List.map_cons] at distinct ⊢
    obtain ⟨absent, distinct⟩ := List.nodup_cons.mp distinct
    obtain ⟨next, settled, left, isOpen'⟩ :=
      Lane.settle_single isOpen once (among List.mem_cons_self) verdict
    rw [returned] at settled
    have same := Lane.eq_of_settle settled
    have number := id_of_lane? found
    subst number
    have lanes := lane?_of_change found (by rw [same] : next.id = lane.id)
      (rfl : (b.setLane next).lanes = _)
    have receiver := receiver?_setLane found (by rw [same] : next.id = lane.id) (by rw [same])
    have idle' : (b.setLane next).receiver? = none := by rw [receiver, idle, Option.map_none]
    have withholds := withholds_requeue idle' [body]
    have stepped := settle_eq_of_ok found settled
    -- the channel may have hung up
    have found' : ∃ lane', ((b.setLane next).requeue [body]).lane? lane.id = some lane' ∧
        lane'.isOpen = true ∧ lane'.outstanding = next.outstanding := by
      have there : ((b.setLane next).returning [body]).lane? lane.id = some next :=
        (lanes lane.id).trans (if_pos rfl)
      obtain kept | ⟨other, found', hung⟩ := withholds.lanes lane.id
      · exact ⟨next, kept.trans there, isOpen', rfl⟩
      · cases there.symm.trans found'
        exact ⟨next.hangUp, hung, isOpen', rfl⟩
    obtain ⟨lane', found', isOpen'', outstanding⟩ := found'
    rw [left] at outstanding
    have tags := Lane.tags_of_filter outstanding
    have among' : rest ⊆ lane'.outstanding := by
      intro d later
      rw [outstanding, List.mem_filter, decide_eq_true_eq]
      refine ⟨among (List.mem_cons_of_mem _ later), ?_⟩
      have there : d.1 ∈ rest.map (·.1) := List.mem_map_of_mem later
      exact fun same => absent (same ▸ there)
    obtain ⟨b', ran, ready, last⟩ := ih withholds.receiver found' isOpen''
      (tags ▸ once.filter _) distinct among'
    refine ⟨b', ?_, ?_, ?_⟩
    · rw [settleEach, stepped]
      exact ran
    · rw [ready, withholds.ready, List.reverse_cons, List.map_append, List.append_assoc]
      rfl
    · rw [last, outstanding, Lane.filter_not_mem_cons]

/-- Some deliveries of a channel are left as they were when others have been settled. If bodies come
back and the channel itself receives, it may have more, with new tags. -/
def Leaves (b : Broker β) (id : Nat) (verdict : Verdict) (kept : List (Nat × β))
    (b' : Broker β) : Prop :=
  ∃ more, b'.outstanding id = kept ++ more ∧ (∀ d ∈ more, b.nextTag id ≤ d.1) ∧
    (verdict.final = true ∨ b.receiver?.map (·.id) ≠ some id → more = [])

private theorem settle_leaves {begun : List Nat} (routes : b.Routes begun)
    (found : b.lane? lane.id = some lane)
    (settled : lane.settle tag verdict = .ok (bodies, next)) :
    ∃ lane', (b.settle lane.id tag verdict).2.lane? lane.id = some lane' ∧
      lane'.isOpen = lane.isOpen ∧ lane.nextTag ≤ lane'.nextTag ∧
      b.Leaves lane.id verdict next.outstanding (b.settle lane.id tag verdict).2 ∧
      (b.settle lane.id tag verdict).2.receiver?.map (·.id) = b.receiver?.map (·.id) := by
  have same := Lane.eq_of_settle settled
  have number : next.id = lane.id := by rw [same]
  have deliveries : next.deliveries = lane.deliveries := by rw [same]
  have isOpen : next.isOpen = lane.isOpen := by rw [same]
  have nextTag : next.nextTag = lane.nextTag := by rw [same]
  have receiver := receiver?_setLane found number deliveries
  have there : ((b.setLane next).returning bodies).lane? lane.id = some next :=
    (lane?_of_change found number rfl lane.id).trans (if_pos rfl)
  rw [settle_eq_of_ok found settled]
  dsimp only
  cases receives : b.receiver? with
  | none =>
    rw [receives, Option.map_none] at receiver
    have withholds := withholds_requeue receiver bodies
    have idle := congrArg (Option.map (·.id)) withholds.receiver
    obtain kept | ⟨other, found', hung⟩ := withholds.lanes lane.id
    · refine ⟨next, kept.trans there, isOpen, Nat.le_of_eq nextTag.symm, ⟨[], ?_⟩, idle⟩
      exact ⟨by simp [outstanding_of_lane? (kept.trans there)], nofun, fun _ => rfl⟩
    · cases there.symm.trans found'
      refine ⟨next.hangUp, hung, isOpen, Nat.le_of_eq nextTag.symm, ⟨[], ?_⟩, idle⟩
      exact ⟨(outstanding_of_lane? hung).trans (List.append_nil _).symm, nofun, fun _ => rfl⟩
  | some r =>
    rw [receives, Option.map_some] at receiver
    have nothing := routes.ready_of_receiver? receives
    have delivers := delivers_requeue receiver nothing bodies
    have still := congrArg (Option.map (·.id)) (delivers.receiver? receiver)
    by_cases here : r.id = lane.id
    · rw [if_pos here] at delivers still
      have fed := delivers.lane?
      rw [number] at fed
      obtain ⟨more, outstanding, tags, none, _⟩ :=
        next.fed_outstanding ((b.setLane next).returning bodies).ready
      refine ⟨_, fed, isOpen, ?_, ⟨more, ?_, ?_, ?_⟩, ?_⟩
      · rw [← nextTag]
        exact Nat.le_add_right _ _
      · rw [outstanding_of_lane? fed, outstanding]
      · rw [nextTag_of_lane? found, ← nextTag]
        exact tags
      · rw [receives]
        rintro (final | other)
        · have returned := Lane.bodies_of_settle settled
          rw [final, if_pos rfl] at returned
          exact none (by rw [returned]; exact nothing)
        · exact absurd (congrArg some here) other
      · rw [still]
        exact congrArg some (number.trans here.symm)
    · rw [if_neg here] at delivers still
      have kept := delivers.lanes lane.id
      rw [if_neg (Ne.symm here), there] at kept
      refine ⟨next, kept, isOpen, Nat.le_of_eq nextTag.symm, ⟨[], ?_⟩, still⟩
      exact ⟨(outstanding_of_lane? kept).trans (List.append_nil _).symm, nofun, fun _ => rfl⟩

/-- Whatever the order, every call succeeds and leaves what it is not about. -/
private theorem settleEach_leaves (queue : String) (acts : List (Act β)) {order : List Nat}
    (found : (acts.foldl apply (ofQueue queue)).lane? id = some lane)
    (isOpen : lane.isOpen = true) (distinct : order.Nodup) (among : order ⊆ lane.tags)
    (verdict : Verdict) :
    ∃ b', (acts.foldl apply (ofQueue queue)).settleEach id verdict order = .ok b' ∧
      (acts.foldl apply (ofQueue queue)).Leaves id verdict
        (lane.outstanding.filter (·.1 ∉ order)) b' := by
  induction order generalizing acts lane with
  | nil =>
    refine ⟨_, rfl, [], ?_, nofun, fun _ => rfl⟩
    rw [outstanding_of_lane? found]
    simp
  | cons tag rest ih =>
    have number := id_of_lane? found
    subst number
    obtain ⟨absent, distinct⟩ := List.nodup_cons.mp distinct
    obtain ⟨body, member⟩ := Lane.exists_of_mem_tags (among List.mem_cons_self)
    have course := (evolves_foldl (ofQueue queue) acts).new lane.id lane rfl found
    have once := (Lane.ordered_of_course course).nodup
    obtain ⟨next, settled, left, _⟩ := Lane.settle_single isOpen once member verdict
    obtain ⟨lane', found', isOpen', nextTag, ⟨more, outstanding, tags, none⟩, receiver⟩ :=
      settle_leaves (routes_foldl queue acts) found settled
    rw [nextTag_of_lane? found] at tags
    rw [outstanding_of_lane? found'] at outstanding
    have among' : rest ⊆ lane'.tags := by
      have kept := Lane.subset_of_filter (Lane.tags_of_filter left) absent fun _ later =>
        among (List.mem_cons_of_mem _ later)
      intro other later
      rw [Lane.tags, outstanding, List.map_append]
      exact List.mem_append_left _ (kept later)
    have after : ((acts.foldl apply (ofQueue queue)).settle lane.id tag verdict.single).2 =
        (acts ++ [Act.settle lane.id tag verdict.single]).foldl apply (ofQueue queue) := by
      rw [List.foldl_concat]
      rfl
    rw [after] at found' receiver
    obtain ⟨b', ran, more', outstanding', tags', none'⟩ :=
      ih _ found' (isOpen'.trans isOpen) distinct among'
    rw [nextTag_of_lane? found'] at tags'
    rw [← after, settle_eq_of_ok found settled] at ran
    refine ⟨b', ?_, more.filter (·.1 ∉ rest) ++ more', ?_, ?_, ?_⟩
    · rw [settleEach, settle_eq_of_ok found settled]
      exact ran
    · rw [outstanding', outstanding, left, List.filter_append, Lane.filter_not_mem_cons,
        List.append_assoc]
    · intro d member
      rw [nextTag_of_lane? found]
      obtain earlier | later := List.mem_append.mp member
      · exact tags d (List.mem_of_mem_filter earlier)
      · exact Nat.le_trans nextTag (tags' d later)
    · intro alone
      rw [none (by rwa [verdict.single_final]), none' (by rwa [receiver])]
      rfl

/-- Bodies that are sent back without a receiver wait as they do when they are sent back one by one,
the last one first. -/
theorem settleEach_meant (queue : String) (acts : List (Act β))
    (found : (acts.foldl apply (ofQueue queue)).lane? lane.id = some lane)
    (returned : verdict.final = false)
    (settled : lane.settle tag verdict = .ok ((lane.meant tag verdict).map (·.2), next))
    (idle : (acts.foldl apply (ofQueue queue)).receiver? = none) :
    ∃ b', (acts.foldl apply (ofQueue queue)).settleEach lane.id verdict
        ((lane.meant tag verdict).map (·.1)).reverse = .ok b' ∧
      b'.ready = ((acts.foldl apply (ofQueue queue)).settle lane.id tag verdict).2.ready ∧
      b'.outstanding lane.id =
        ((acts.foldl apply (ofQueue queue)).settle lane.id tag verdict).2.outstanding lane.id := by
  have course := (evolves_foldl (ofQueue queue) acts).new _ _ rfl found
  have once := (Lane.ordered_of_course course).nodup
  have routes := routes_foldl queue acts
  have among : (lane.meant tag verdict).reverse ⊆ lane.outstanding := fun d member =>
    List.mem_of_mem_filter (List.mem_reverse.mp member)
  have distinct : ((lane.meant tag verdict).reverse.map (·.1)).Nodup := by
    rw [List.map_reverse, List.nodup_reverse]
    exact once.sublist (List.filter_sublist.map _)
  obtain ⟨b', ran, ready, outstanding⟩ := settleEach_of_idle idle found
    (Lane.isOpen_of_settle settled) once distinct among returned
  have returns := returns_of_settle routes found settled
  obtain ⟨_, _, _, _, ⟨more, outstanding', _, none⟩, _⟩ := settle_leaves routes found settled
  rw [List.reverse_reverse] at ready
  refine ⟨b', ?_, ?_, ?_⟩
  · rw [← List.map_reverse]
    exact ran
  · rw [ready, (returns.waiting idle).1, List.map_map]
    rfl
  · rw [outstanding, outstanding', none (.inr (by simp [idle])),
      Lane.outstanding_of_settle settled, List.append_nil, Lane.spared]
    apply List.filter_congr
    intro d member
    have meant : d.1 ∈ (lane.meant tag verdict).reverse.map (·.1) ↔
        verdict.covers tag d.1 = true := by
      rw [List.map_reverse, List.mem_reverse]
      exact Lane.tag_mem_meant member
    simp only [meant, decide_not, Bool.decide_eq_true]

/-- When a channel closes and no other receives, what was outstanding waits as it does when it is
sent back one by one. -/
private theorem settleEach_lost (queue : String) (acts : List (Act β))
    (found : (acts.foldl apply (ofQueue queue)).lane? lane.id = some lane) (closure : Closure)
    (idle : ((acts.foldl apply (ofQueue queue)).retire lane.id).receiver? = none) :
    ∃ b', ((acts.foldl apply (ofQueue queue)).retire lane.id).settleEach lane.id (.nack false true)
        lane.tags.reverse = .ok b' ∧
      b'.ready = ((acts.foldl apply (ofQueue queue)).close lane.id closure).ready ∧
      b'.outstanding lane.id =
        ((acts.foldl apply (ofQueue queue)).close lane.id closure).outstanding lane.id := by
  have sound := sound_of_lane? queue acts found
  have returns := returns_of_close (routes_foldl queue acts) found sound closure
  have found' : ((acts.foldl apply (ofQueue queue)).retire lane.id).lane? lane.id = some lane := by
    rw [lane?, retire_lanes]
    exact found
  have nothing :
      ((acts.foldl apply (ofQueue queue)).close lane.id closure).outstanding lane.id = [] := by
    obtain ⟨last, found'', shut⟩ := closed_close found closure
    have after : (acts.foldl apply (ofQueue queue)).close lane.id closure =
        (acts ++ [Act.close lane.id closure]).foldl apply (ofQueue queue) := by
      rw [List.foldl_concat]
      rfl
    rw [outstanding_of_lane? found'']
    rw [after] at found''
    exact ((sound_of_lane? queue _ found'').closed shut).2
  rw [nothing, (returns.waiting idle).1]
  cases isOpen : lane.isOpen with
  | false =>
    have none := (sound.closed isOpen).2
    refine ⟨(acts.foldl apply (ofQueue queue)).retire lane.id, ?_, ?_, ?_⟩
    · rw [Lane.tags, none]
      rfl
    · rw [none]
      rfl
    · rw [outstanding_of_lane? found', none]
  | true =>
    have course := (evolves_foldl (ofQueue queue) acts).new _ _ rfl found
    have once := (Lane.ordered_of_course course).nodup
    have distinct : (lane.outstanding.reverse.map (·.1)).Nodup := by
      rw [List.map_reverse, List.nodup_reverse]
      exact once
    have final : Verdict.final (.nack false true) = false := rfl
    obtain ⟨b', ran, ready, outstanding⟩ := settleEach_of_idle idle found' isOpen once distinct
      (List.reverse_subset.mpr (List.Subset.refl _)) final
    rw [List.reverse_reverse] at ready
    refine ⟨b', ?_, ?_, ?_⟩
    · rw [Lane.tags, ← List.map_reverse]
      exact ran
    · rw [ready, List.map_map]
      rfl
    · rw [outstanding, List.filter_eq_nil_iff]
      intro d member
      have settled : d.1 ∈ lane.outstanding.reverse.map (·.1) :=
        List.mem_map_of_mem (List.mem_reverse.mpr member)
      exact fun left => of_decide_eq_true left settled

/-- Deliveries of a channel are settled, and come back, several at once as they are one by one. -/
structure Bulk (b : Broker β) (id : Nat) (lane : Lane β) : Prop where
  ordered : lane.Ordered
  /-- One call settles the deliveries up to a tag, as calls for each of them do in any order, unless
  the tag is the last there can be. -/
  settled : ∀ tag (verdict : Verdict), tag < 2 ^ 64 - 1 → verdict.multiple = true →
    lane.isOpen = true →
    ∃ next, lane.settle tag verdict = .ok (if verdict.final then []
          else (lane.outstanding.filter (·.1 ≤ tag)).map (·.2), next) ∧
      next.outstanding = lane.outstanding.filter (tag < ·.1) ∧
      next = { lane with
        outstanding := next.outstanding, acked := next.acked, nacked := next.nacked } ∧
      b.Leaves id verdict next.outstanding (b.settle id tag verdict).2 ∧
      ∀ order : List Nat, order.Perm (lane.tags.filter (· ≤ tag)) →
        (∃ last, lane.settleEach verdict order = .ok last ∧
          last.outstanding = next.outstanding) ∧
        ∃ b', b.settleEach id verdict order = .ok b' ∧ b.Leaves id verdict next.outstanding b'
  /-- On a closed channel there is nothing to settle. -/
  closed : lane.isOpen = false → lane.outstanding = [] ∧
    ∀ tag (verdict : Verdict), lane.settle tag verdict = .error .closed
  /-- What is sent back comes back in the order of the tags, and without a receiver as it does one
  by one, the last tag first. -/
  returned : ∀ tag (verdict : Verdict), verdict.final = false →
    (b.settle id tag verdict).1 = .ok () →
    b.Returns ((lane.meant tag verdict).map (·.2)) (b.settle id tag verdict).2 ∧
      (b.receiver? = none →
        ∃ b', b.settleEach id verdict ((lane.meant tag verdict).map (·.1)).reverse = .ok b' ∧
          b'.ready = (b.settle id tag verdict).2.ready ∧
          b'.outstanding id = (b.settle id tag verdict).2.outstanding id)
  /-- So does what was outstanding on a channel that closes, which receives no more itself. -/
  lost : ∀ closure, (b.retire id).Returns (lane.outstanding.map (·.2)) (b.close id closure) ∧
    ((b.retire id).receiver? = none →
      ∃ b', (b.retire id).settleEach id (.nack false true) lane.tags.reverse = .ok b' ∧
        b'.ready = (b.close id closure).ready ∧
        b'.outstanding id = (b.close id closure).outstanding id)

/-- Whatever was asked of a broker before, its channels are settled in bulk as they are one
delivery at a time. -/
theorem bulk_foldl (queue : String) (acts : List (Act β))
    (found : (acts.foldl apply (ofQueue queue)).lane? id = some lane) :
    (acts.foldl apply (ofQueue queue)).Bulk id lane := by
  have number := id_of_lane? found
  subst number
  have ordered := Lane.ordered_of_course ((evolves_foldl (ofQueue queue) acts).new _ _ rfl found)
  have sound := sound_of_lane? queue acts found
  have routes := routes_foldl queue acts
  refine ⟨ordered, ?_, ?_, ?_, ?_⟩
  · intro tag verdict small multiple isOpen
    obtain ⟨next, settled, left⟩ := Lane.settle_multiple isOpen multiple small
    have kept (order : List Nat) (same : order.Perm (lane.tags.filter (· ≤ tag))) :
        lane.outstanding.filter (·.1 ∉ order) = next.outstanding := by
      rw [left]
      apply List.filter_congr
      intro d member
      simp [same.mem_iff, Lane.mem_tags member]
    obtain ⟨_, _, _, _, leaves, _⟩ := settle_leaves routes found settled
    refine ⟨next, settled, left, Lane.eq_of_settle settled, leaves, ?_⟩
    intro order same
    have distinct : order.Nodup := same.nodup_iff.mpr (ordered.nodup.filter _)
    have among : order ⊆ lane.tags := fun _ member =>
      List.mem_of_mem_filter (same.subset member)
    rw [← kept order same]
    exact ⟨Lane.settleEach_spec isOpen ordered.nodup distinct among verdict,
      settleEach_leaves queue acts found isOpen distinct among verdict⟩
  · intro shut
    refine ⟨(sound.closed shut).2, ?_⟩
    intro tag verdict
    rw [Lane.settle_eq, shut]
    rfl
  · intro tag verdict returned succeeded
    obtain ⟨⟨fault, failed⟩, _⟩ | ⟨_, next, settled, _⟩ := lane.settle_cases tag verdict
    · simp [Broker.settle, found, failed] at succeeded
    · rw [returned, if_neg Bool.false_ne_true] at settled
      exact ⟨returns_of_settle routes found settled,
        settleEach_meant queue acts found returned settled⟩
  · intro closure
    exact ⟨returns_of_close routes found sound closure, settleEach_lost queue acts found closure⟩

/-- Three bodies are delivered on a channel, and then another channel receives. -/
def threeOutstanding : List (Act Nat) :=
  [.lease, .lease, .subscribe 1 ⟨"jobs", "first", ⟨false, false, false, false⟩, []⟩,
    .publish 7, .publish 8, .publish 9,
    .subscribe 2 ⟨"jobs", "second", ⟨false, false, false, false⟩, []⟩]

theorem bulk_three_outstanding :
    ∃ lane, (threeOutstanding.foldl apply (ofQueue "jobs")).lane? 1 = some lane ∧
      lane.outstanding = [(1, 7), (2, 8), (3, 9)] ∧
      (threeOutstanding.foldl apply (ofQueue "jobs")).Bulk 1 lane ∧
      ((threeOutstanding.foldl apply (ofQueue "jobs")).settle 1 2 (.nack true true)).2.feed 2 =
        [⟨1, 7, true, "", ""⟩, ⟨2, 8, true, "", ""⟩] ∧
      ((threeOutstanding.foldl apply (ofQueue "jobs")).close 1 ⟨320, "gone"⟩).feed 2 =
        [⟨1, 7, true, "", ""⟩, ⟨2, 8, true, "", ""⟩, ⟨3, 9, true, "", ""⟩] := by
  have found : (threeOutstanding.foldl apply (ofQueue "jobs")).lane? 1 = some _ := rfl
  have bulk := bulk_foldl "jobs" threeOutstanding found
  have nacked := ((bulk.returned 2 (.nack true true) rfl rfl).1.delivered _ rfl).2.2 2
  have closed := ((bulk.lost ⟨320, "gone"⟩).1.delivered _ rfl).2.2 2
  exact ⟨_, found, rfl, bulk, nacked, closed⟩

end Broker

end Intake
