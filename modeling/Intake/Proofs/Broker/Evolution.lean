import Intake.Proofs.Broker.Act
import Mathlib.Logic.Relation

/-! # How the channels of a broker change

`Lane.Change` lists everything that can happen to one channel. Whatever is asked of a broker, its
channels stay known under their numbers and go through such changes only: `Broker.Evolves`. What
every change preserves holds of a channel for good.
-/

namespace Intake

namespace Lane

variable {β : Type}

/-- One change of a channel. -/
inductive Change (lane : Lane β) : Lane β → Prop
  | deliver {r : Ready β} {next : Lane β} (delivered : lane.deliver? r = some next) :
      Change lane next
  | hangUp : Change lane lane.hangUp
  | settle {tag : Nat} {verdict : Verdict} {bodies : List β} {next : Lane β}
      (settled : lane.settle tag verdict = .ok (bodies, next)) : Change lane next
  | close {closure : Closure} (isOpen : lane.isOpen = true) : Change lane (lane.close closure)
  | limit {prefetch : Prefetch} {forAll : Bool} :
      Change lane { lane with limits := lane.limits ++ [(prefetch, forAll)] }
  | subscribe {s : Subscription} (isOpen : lane.isOpen = true) : Change lane { lane with
      subscriptions := lane.subscriptions ++ [s]
      autoAck := s.terms.autoAck
      deliveries := .fresh }
  -- what the holder of the feeds does
  | take : Change lane { lane with deliveries := lane.deliveries.drop }
  | dropStream : Change lane { lane with deliveries := lane.deliveries.ignore }
  | takeNotice : Change lane { lane with notices := lane.notices.drop }
  | dropNotices : Change lane { lane with notices := lane.notices.ignore }

/-- Any number of changes of a channel. -/
abbrev Course : Lane β → Lane β → Prop := Relation.ReflTransGen Change

theorem eq_of_deliver? {lane next : Lane β} {r : Ready β}
    (delivered : lane.deliver? r = some next) :
    next = { lane with
      deliveries := { lane.deliveries with
        items := lane.deliveries.items ++ [⟨lane.nextTag, r.body, r.redelivered, "", ""⟩] }
      nextTag := lane.nextTag + 1
      outstanding :=
        if lane.autoAck then lane.outstanding
        else lane.outstanding ++ [(lane.nextTag, r.body)] } := by
  obtain ⟨deliveries, sent, rfl⟩ := Option.map_eq_some_iff.mp delivered
  unfold Feed.send? at sent
  split at sent
  · cases sent
    rfl
  · cases sent

private theorem eq_of_takeOut {lane next : Lane β} {tag : Nat} {multiple : Bool} {bodies : List β}
    (taken : lane.takeOut tag multiple = .ok (bodies, next)) :
    next = { lane with outstanding := next.outstanding } := by
  unfold takeOut at taken
  extract_lets chosen found at taken
  split at taken
  · cases taken
  · cases taken
    rfl

/-- To settle deliveries changes what is outstanding and what is recorded. -/
theorem eq_of_settle {lane next : Lane β} {tag : Nat} {verdict : Verdict} {bodies : List β}
    (settled : lane.settle tag verdict = .ok (bodies, next)) :
    next = { lane with
      outstanding := next.outstanding, acked := next.acked, nacked := next.nacked } := by
  unfold settle at settled
  split at settled
  · cases verdict with
    | ack multiple =>
      cases taken : lane.takeOut tag multiple with
      | error fault => simp [taken, Except.map] at settled
      | ok got =>
        simp only [taken, Except.map, Except.ok.injEq, Prod.mk.injEq] at settled
        rw [← settled.2, eq_of_takeOut taken]
    | nack multiple requeue =>
      cases taken : lane.takeOut tag multiple with
      | error fault => simp [taken, Except.map] at settled
      | ok got =>
        simp only [taken, Except.map, Except.ok.injEq, Prod.mk.injEq] at settled
        rw [← settled.2, eq_of_takeOut taken]
  · cases settled

@[simp] theorem Change.id {lane next : Lane β} (change : lane.Change next) :
    next.id = lane.id := by
  cases change with
  | deliver delivered => rw [eq_of_deliver? delivered]
  | settle settled => rw [eq_of_settle settled]
  | _ => rfl

end Lane

namespace Broker

variable {β : Type} {b b' b'' : Broker β}

/-! ## The channel with a number -/

theorem id_of_lane? {id : Nat} {lane : Lane β} (found : b.lane? id = some lane) :
    lane.id = id := by
  simpa using List.find?_some found

theorem lane?_setLane (b : Broker β) (lane : Lane β) (id : Nat) :
    (b.setLane lane).lane? id = if id = lane.id then (b.lane? id).map fun _ => lane
      else b.lane? id := by
  have unmoved : (fun other : Lane β => other.id == id) ∘
      (fun other => if other.id = lane.id then lane else other) = fun other => other.id == id := by
    funext other
    by_cases same : other.id = lane.id <;> simp [same]
  rw [lane?, setLane, List.find?_map, unmoved]
  change (b.lane? id).map _ = _
  cases found : b.lane? id with
  | none => simp
  | some other =>
    rw [Option.map_some, Option.map_some, id_of_lane? found]
    split <;> rfl

/-- All channels stay known and only go through changes; those that come up are new ones. -/
structure Evolves (b b' : Broker β) : Prop where
  old : ∀ id lane, b.lane? id = some lane → ∃ next, b'.lane? id = some next ∧ lane.Course next
  new : ∀ id next, b.lane? id = none → b'.lane? id = some next → Lane.Course (.ofId id) next

namespace Evolves

private theorem of_lanes (same : b'.lanes = b.lanes) : Evolves b b' where
  old id lane found := ⟨lane, by rw [lane?, same]; exact found, .refl⟩
  new id next absent found := by
    rw [lane?, same] at found
    exact absurd (absent.symm.trans found) nofun

theorem refl (b : Broker β) : Evolves b b := .of_lanes rfl

theorem trans (first : Evolves b b') (second : Evolves b' b'') : Evolves b b'' where
  old id lane found := by
    obtain ⟨middle, found', earlier⟩ := first.old id lane found
    obtain ⟨next, found'', later⟩ := second.old id middle found'
    exact ⟨next, found'', earlier.trans later⟩
  new id next absent found := by
    cases found' : b'.lane? id with
    | none => exact second.new id next found' found
    | some middle =>
      obtain ⟨next', found'', later⟩ := second.old id middle found'
      cases found.symm.trans found''
      exact (first.new id middle absent found').trans later

theorem setLane {id : Nat} {lane next : Lane β} (found : b.lane? id = some lane)
    (change : lane.Change next) : Evolves b (b.setLane next) := by
  have number : next.id = id := change.id.trans (id_of_lane? found)
  refine ⟨?_, ?_⟩
  · intro other lane' found'
    rw [lane?_setLane, number]
    by_cases same : other = id
    · subst same
      cases found.symm.trans found'
      rw [if_pos rfl, found, Option.map_some]
      exact ⟨next, rfl, .single change⟩
    · rw [if_neg same]
      exact ⟨lane', found', .refl⟩
  · intro other next' absent found'
    rw [lane?_setLane, absent, Option.map_none, ite_self] at found'
    cases found'

private theorem withLane {change : Lane β → Lane β}
    (changes : ∀ lane, Lane.Change lane (change lane))
    (b : Broker β) (id : Nat) : Evolves b (b.withLane id change) := by
  unfold Broker.withLane
  cases found : b.lane? id with
  | none => exact .refl b
  | some lane => exact .setLane found (changes lane)

theorem retire (b : Broker β) (id : Nat) : Evolves b (b.retire id) := by
  unfold Broker.retire
  split
  · exact .of_lanes rfl
  · exact .refl b

private theorem deliverAll (b : Broker β) (bodies : List (Ready β)) :
    Evolves b (b.deliverAll bodies) := by
  induction bodies generalizing b with
  | nil => exact .refl b
  | cons r rest ih =>
    unfold Broker.deliverAll
    cases found : b.active.bind b.lane? with
    | none => exact .of_lanes rfl
    | some lane =>
      obtain ⟨id, _, found⟩ := Option.bind_eq_some_iff.mp found
      dsimp only
      cases delivered : lane.deliver? r with
      | some next => exact (setLane found (.deliver delivered)).trans (ih _)
      | none => exact (setLane found .hangUp).trans (.of_lanes rfl)

private theorem pump (b : Broker β) : Evolves b b.pump := by
  unfold Broker.pump
  have emptied : Evolves b { b with ready := [] } := .of_lanes rfl
  exact emptied.trans (.deliverAll _ _)

theorem requeue (b : Broker β) (bodies : List β) : Evolves b (b.requeue bodies) := by
  unfold Broker.requeue
  split
  · exact .refl b
  · have added : Evolves b { b with ready := bodies.map (⟨·, true⟩) ++ b.ready } := .of_lanes rfl
    exact added.trans (.pump _)

private theorem publish (b : Broker β) (body : β) : Evolves b (b.publish body) := by
  unfold Broker.publish
  have added : Evolves b { b with ready := b.ready ++ [⟨body, false⟩] } := .of_lanes rfl
  exact added.trans (.pump _)

theorem lease (b : Broker β) : Evolves b b.lease.2 := by
  unfold Broker.lease
  dsimp only
  split
  · exact .of_lanes rfl
  · refine ⟨?_, ?_⟩
    · intro id lane found
      refine ⟨lane, ?_, .refl⟩
      unfold lane? at found ⊢
      rw [List.find?_append, found, Option.some_or]
    · intro id next absent found
      unfold lane? at absent found
      rw [List.find?_append, absent, Option.none_or] at found
      have fresh : next = .ofId (b.lanes.length + 1) :=
        List.mem_singleton.mp (List.mem_of_find?_eq_some found)
      have number : next.id = id := by simpa using List.find?_some found
      rw [fresh] at number ⊢
      cases number
      exact .refl

theorem limit (b : Broker β) (id : Nat) (prefetch : Prefetch) (forAll : Bool) :
    Evolves b (b.limit id prefetch forAll).2 := by
  unfold Broker.limit
  cases found : b.lane? id with
  | none => exact .refl b
  | some lane => exact .setLane found .limit

theorem subscribe (b : Broker β) (id : Nat) (s : Subscription) :
    Evolves b (b.subscribe id s).2 := by
  unfold Broker.subscribe
  split
  · exact .of_lanes rfl
  · split
    · exact .refl b
    · cases found : b.lane? id with
      | none => exact .refl b
      | some lane =>
        dsimp only
        split
        · next isOpen =>
          have prepared := setLane found (.subscribe (s := s) isOpen)
          refine prepared.trans (.trans (.of_lanes ?_) ((Evolves.pump _).trans (.of_lanes rfl)))
          rfl
        · exact .refl b

private theorem settle (b : Broker β) (id tag : Nat) (verdict : Verdict) :
    Evolves b (b.settle id tag verdict).2 := by
  unfold Broker.settle
  cases found : b.lane? id with
  | none => exact .refl b
  | some lane =>
    dsimp only
    cases settled : lane.settle tag verdict with
    | error fault => exact .refl b
    | ok got => exact (setLane found (.settle settled)).trans (.requeue _ _)

theorem release (b : Broker β) (id : Nat) (errored : Bool) : Evolves b (b.release id errored) := by
  unfold Broker.release
  have noted : Evolves b { b with released := b.released ++ [(id, errored)] } := .of_lanes rfl
  exact noted.trans ((retire _ id).trans (withLane (fun _ => .hangUp) _ id))

theorem close (b : Broker β) (id : Nat) (closure : Closure) : Evolves b (b.close id closure) := by
  unfold Broker.close
  cases found : b.lane? id with
  | none => exact .refl b
  | some lane =>
    dsimp only
    split
    · next isOpen => exact (setLane found (.close isOpen)).trans ((retire _ _).trans (requeue _ _))
    · exact .refl b

private theorem closeActive (b : Broker β) (closure : Closure) :
    Evolves b (b.closeActive closure).2 := by
  unfold Broker.closeActive
  split
  · exact .refl b
  · exact .close b _ closure

theorem cancel (b : Broker β) : Evolves b b.cancel.2 := by
  unfold Broker.cancel
  split
  · exact .refl b
  · next id _ =>
    have idle : Evolves b { b with active := none } := .of_lanes rfl
    exact idle.trans (withLane (fun _ => .hangUp) _ id)

/-- Whatever is asked of a broker, its channels only go through changes. -/
theorem apply (b : Broker β) (a : Act β) : Evolves b (b.apply a) := by
  cases a with
  | publish body => exact .publish b body
  | lease => exact .lease b
  | limit id prefetch forAll => exact .limit b id prefetch forAll
  | subscribe id s => exact .subscribe b id s
  | settle id tag verdict => exact .settle b id tag verdict
  | release id errored => exact .release b id errored
  | close id closure => exact .close b id closure
  | closeActive closure => exact .closeActive b closure
  | cancel => exact .cancel b
  | failLeases count => exact .of_lanes rfl
  | failSubscriptions count => exact .of_lanes rfl
  | take id => exact .withLane (fun _ => .take) b id
  | dropStream id => exact .withLane (fun _ => .dropStream) b id
  | takeNotice id => exact .withLane (fun _ => .takeNotice) b id
  | dropNotices id => exact .withLane (fun _ => .dropNotices) b id

end Evolves

end Broker

end Intake
