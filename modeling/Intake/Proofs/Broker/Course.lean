import Intake.Proofs.Broker.Standing
import Intake.Proofs.Replay

/-! # What an act does to a broker

Whatever is asked of a broker, it first changes one channel at most, and sends bodies back from it:
`Broker.Prepares`. Then it delivers what is ready, one body after the other, for as long as the
active channel receives: `Broker.Pours`. Invariants of brokers are proved for these two parts.
-/

namespace Intake

open Relation (ReflTransGen)

namespace Verdict

def multiple : Verdict → Bool
  | .ack multiple | .nack multiple _ => multiple

/-- Nothing is sent back. -/
def final : Verdict → Bool
  | .ack _ => true
  | .nack _ requeue => !requeue

/-- A verdict on a tag is about the delivery with some other one. If it is about all up to the tag,
it is about those below the next one, and that is zero for the last tag of 64 bits. -/
def covers (verdict : Verdict) (tag other : Nat) : Bool :=
  if verdict.multiple then other < (tag + 1) % Nat.pow 2 64 else other == tag

end Verdict

namespace Lane

variable {β : Type} {lane next : Lane β} {tag : Nat} {verdict : Verdict} {bodies : List β}

/-- The outstanding deliveries that a verdict on a tag is about. -/
def meant (lane : Lane β) (tag : Nat) (verdict : Verdict) : List (Nat × β) :=
  lane.outstanding.filter fun d => verdict.covers tag d.1

/-- The outstanding deliveries that it is not about. -/
def spared (lane : Lane β) (tag : Nat) (verdict : Verdict) : List (Nat × β) :=
  lane.outstanding.filter fun d => !verdict.covers tag d.1

private theorem takeOut_eq (lane : Lane β) (tag : Nat) (verdict : Verdict) :
    lane.takeOut tag verdict.multiple =
      if (lane.meant tag verdict).isEmpty && !verdict.multiple then
        .error (.refused 406 ("PRECONDITION_FAILED - unknown delivery tag " ++ toString tag))
      else .ok ((lane.meant tag verdict).map (·.2),
        { lane with outstanding := lane.spared tag verdict }) := rfl

/-- A verdict is recorded. -/
def judged (lane : Lane β) (tag : Nat) : Verdict → Lane β
  | .ack _ => { lane with acked := lane.acked ++ [tag] }
  | .nack _ _ => { lane with nacked := lane.nacked ++ [tag] }

theorem settle_eq (lane : Lane β) (tag : Nat) (verdict : Verdict) :
    lane.settle tag verdict =
      if lane.isOpen then (lane.takeOut tag verdict.multiple).map fun got =>
        (if verdict.final then [] else got.1, got.2.judged tag verdict)
      else .error .closed := by
  cases verdict with
  | ack multiple => rfl
  | nack multiple requeue => cases requeue <;> rfl

@[simp] theorem judged_outstanding (lane : Lane β) (tag : Nat) (verdict : Verdict) :
    (lane.judged tag verdict).outstanding = lane.outstanding := by
  cases verdict <;> rfl

/-- A verdict is refused, or the deliveries that are meant are outstanding no more. -/
theorem settle_cases (lane : Lane β) (tag : Nat) (verdict : Verdict) :
    ((∃ fault, lane.settle tag verdict = .error fault) ∧
      ¬(lane.isOpen = true ∧ (verdict.multiple = true ∨ lane.meant tag verdict ≠ []))) ∨
    ((lane.isOpen = true ∧ (verdict.multiple = true ∨ lane.meant tag verdict ≠ [])) ∧
      ∃ next, lane.settle tag verdict =
          .ok (if verdict.final then [] else (lane.meant tag verdict).map (·.2), next) ∧
        next.outstanding = lane.spared tag verdict) := by
  rw [settle_eq, takeOut_eq]
  cases isOpen : lane.isOpen with
  | false => exact .inl ⟨⟨_, rfl⟩, nofun⟩
  | true =>
    rw [if_pos rfl]
    by_cases none : ((lane.meant tag verdict).isEmpty && !verdict.multiple) = true
    · rw [if_pos none]
      simp only [Bool.and_eq_true, List.isEmpty_iff, Bool.not_eq_true'] at none
      exact .inl ⟨⟨_, rfl⟩, by simp [none]⟩
    · rw [if_neg none]
      have meant : verdict.multiple = true ∨ lane.meant tag verdict ≠ [] := by
        simpa [or_comm, imp_iff_not_or] using none
      exact .inr ⟨⟨rfl, meant⟩, _, rfl, judged_outstanding _ _ _⟩

/-- Nothing happens to the deliveries of a channel but that some go off the feed, or that no more
come. -/
structure Quiet (lane next : Lane β) : Prop where
  id : next.id = lane.id
  isOpen : next.isOpen = lane.isOpen
  autoAck : next.autoAck = lane.autoAck
  nextTag : next.nextTag = lane.nextTag
  outstanding : next.outstanding = lane.outstanding
  feed : next.deliveries.items <:+ lane.deliveries.items

theorem Quiet.hangUp (lane : Lane β) : lane.Quiet lane.hangUp :=
  ⟨rfl, rfl, rfl, rfl, rfl, List.suffix_rfl⟩

/-- What becomes of the outstanding deliveries of a channel. -/
structure Upshot (β : Type) where
  /-- Whether the delivery with a tag is settled, if there is one. -/
  settles : Nat → Bool
  /-- The bodies that are sent back. -/
  returned : List β
  /-- The bodies that are gone for good. -/
  concluded : List β
  closes : Bool

/-- Nothing becomes of them. -/
def Upshot.none : Upshot β := ⟨fun _ => false, [], [], false⟩

/-- What an act does to its channel. -/
inductive Undergoes (lane : Lane β) : Upshot β → Lane β → Prop
  | rest {next : Lane β} (quiet : lane.Quiet next) : Undergoes lane .none next
  | subscribe {s : Subscription} (isOpen : lane.isOpen = true) : Undergoes lane .none { lane with
      subscriptions := lane.subscriptions ++ [s]
      autoAck := s.terms.autoAck
      deliveries := .fresh }
  | settle {tag : Nat} {verdict : Verdict} {bodies : List β} {next : Lane β}
      (settled : lane.settle tag verdict = .ok (bodies, next)) : Undergoes lane
        ⟨verdict.covers tag, bodies,
          if verdict.final then (lane.meant tag verdict).map (·.2) else [], false⟩ next
  | close {closure : Closure} (isOpen : lane.isOpen = true) : Undergoes lane
      ⟨fun _ => false, lane.outstanding.map (·.2), [], true⟩ (lane.close closure)

theorem Undergoes.id {upshot : Upshot β} (undergoes : lane.Undergoes upshot next) :
    next.id = lane.id := by
  cases undergoes with
  | rest quiet => exact quiet.id
  | subscribe isOpen => rfl
  | settle settled => rw [eq_of_settle settled]
  | close isOpen => rfl

end Lane

namespace Broker

variable {β : Type} {b b' : Broker β} {a : Act β}

/-- The channels when one has changed. -/
theorem lane?_of_change {lane next : Lane β} (there : b.lane? lane.id = some lane)
    (number : next.id = lane.id) (lanes : b'.lanes = (b.setLane next).lanes) (id : Nat) :
    b'.lane? id = if id = lane.id then some next else b.lane? id := by
  have same : b'.lane? id = (b.setLane next).lane? id := by rw [lane?, lane?, lanes]
  rw [same, lane?_setLane, number]
  split
  · next here => rw [here, there, Option.map_some]
  · rfl

/-! ## What an act is about -/

/-- The body that an act publishes. -/
def Act.published : Act β → List β
  | .publish body => [body]
  | _ => []

/-- The tag of the next delivery on a channel. -/
def nextTag (b : Broker β) (id : Nat) : Nat := ((b.lane? id).map (·.nextTag)).getD 1

/-- An act is a call that succeeds, and it settles the delivery with a tag on a channel: the
delivery was made before, and the call is about it. -/
def Settles (b : Broker β) (a : Act β) (id tag : Nat) : Prop :=
  ∃ named verdict, a = .settle id named verdict ∧ (b.settle id named verdict).1 = .ok () ∧
    verdict.covers named tag = true ∧ tag < b.nextTag id

theorem not_settles (other : ∀ id tag verdict, a ≠ .settle id tag verdict) (id tag : Nat) :
    ¬b.Settles a id tag := by
  rintro ⟨named, verdict, same, _⟩
  exact other id named verdict same

/-- The deliveries that an act takes out: the channel, the tag and the body. -/
def settled (b : Broker β) : Act β → List (Nat × Nat × β)
  | .settle id tag verdict =>
    match (b.settle id tag verdict).1, b.lane? id with
    | .ok _, some lane => (lane.meant tag verdict).map (id, ·)
    | _, _ => []
  | _ => []

/-- The bodies that an act settles for good. -/
def concluded (b : Broker β) : Act β → List β
  | .settle id tag verdict =>
    if verdict.final then (b.settled (.settle id tag verdict)).map (·.2.2) else []
  | _ => []

/-- The channel that an act closes. -/
def closes (b : Broker β) : Act β → List Nat
  | .close id _ => if (b.lane? id).isSome then [id] else []
  | .closeActive _ => b.active.toList.filter fun id => (b.lane? id).isSome
  | _ => []

/-! ## The first part -/

/-- What a broker is like, up to what nobody is told, when an act has been prepared. -/
inductive Prepares (b : Broker β) (a : Act β) (b' : Broker β) : Prop
  /-- Nothing happens to the channels. -/
  | rest (lanes : b'.lanes = b.lanes) (ready : b'.ready = b.ready ++ a.published.map (⟨·, false⟩))
      (settles : ∀ id tag, ¬b.Settles a id tag) (concluded : b.concluded a = [])
      (closes : ∀ id ∈ b.closes a, b.Closed id)
  | lease (isLease : a = .lease) (lanes : b'.lanes = b.lanes ++ [.ofId (b.lanes.length + 1)])
      (ready : b'.ready = b.ready)
  | change {lane next : Lane β} {upshot : Lane.Upshot β} (found : b.lane? lane.id = some lane)
      (undergoes : lane.Undergoes upshot next) (lanes : b'.lanes = (b.setLane next).lanes)
      (ready : b'.ready = upshot.returned.map (⟨·, true⟩) ++ b.ready) (published : a.published = [])
      (autoAck : next.autoAck = lane.autoAck ∨
        ∃ s, a = .subscribe lane.id s ∧ next.autoAck = s.terms.autoAck)
      (settles : ∀ id tag, b.Settles a id tag ↔
        id = lane.id ∧ tag < lane.nextTag ∧ upshot.settles tag = true)
      (concluded : b.concluded a = upshot.concluded)
      (closes : b.closes a = if upshot.closes then [lane.id] else [])

/-! ## The second part -/

/-- The first body that is ready is delivered, or the active channel receives no more. -/
inductive Pours (b : Broker β) : Broker β → Prop
  | deliver {r : Ready β} {rest : List (Ready β)} {lane next : Lane β} (ready : b.ready = r :: rest)
      (found : b.lane? lane.id = some lane) (delivered : lane.deliver? r = some next) :
      Pours b { b.setLane next with ready := rest }
  | hangUp {lane : Lane β} (found : b.lane? lane.id = some lane) :
      Pours b { b.setLane lane.hangUp with active := none }

/-- One channel changes: it gets a delivery, or it hangs up. -/
theorem Pours.exists_change (pours : Pours b b') : ∃ lane next : Lane β,
    b.lane? lane.id = some lane ∧ next.id = lane.id ∧ b'.lanes = (b.setLane next).lanes ∧
      ((∃ r, lane.deliver? r = some next) ∨ next = lane.hangUp) := by
  cases pours with
  | @deliver r rest lane next ready found delivered =>
    have number : next.id = lane.id := Lane.Change.id (.deliver delivered)
    exact ⟨lane, next, found, number, rfl, .inl ⟨r, delivered⟩⟩
  | @hangUp lane found => exact ⟨lane, lane.hangUp, found, rfl, rfl, .inr rfl⟩

theorem pours_pump (b : Broker β) : ReflTransGen Pours b b.pump := by
  generalize bodies : b.ready = ready
  induction ready generalizing b with
  | nil =>
    have same : b.pump = b := by
      rw [pump, bodies, deliverAll]
      cases b
      cases bodies
      rfl
    rw [same]
  | cons r rest ih =>
    have same : ({ b with ready := r :: rest } : Broker β) = b := by
      cases b
      cases bodies
      rfl
    have sought : ({ b with ready := [] } : Broker β).active.bind
        ({ b with ready := [] } : Broker β).lane? = b.active.bind b.lane? := rfl
    rw [pump, bodies, deliverAll, sought]
    cases found : b.active.bind b.lane? with
    | none => exact same ▸ .refl
    | some lane =>
      obtain ⟨id, _, found⟩ := Option.bind_eq_some_iff.mp found
      rw [← id_of_lane? found] at found
      dsimp only
      cases delivered : lane.deliver? r with
      | some next =>
        have later := ih { b.setLane next with ready := rest } rfl
        exact .head (.deliver bodies found delivered) later
      | none =>
        rw [← bodies]
        exact .single (.hangUp found)

theorem pours_requeue (b : Broker β) (bodies : List β) :
    ReflTransGen Pours { b with ready := bodies.map (⟨·, true⟩) ++ b.ready }
      (b.requeue bodies) := by
  unfold requeue
  cases bodies with
  | nil => exact .refl
  | cons body rest => exact pours_pump _

/-! ## Acts -/

@[simp] theorem retire_lanes (b : Broker β) (id : Nat) : (b.retire id).lanes = b.lanes := by
  unfold retire
  split <;> rfl

@[simp] theorem retire_ready (b : Broker β) (id : Nat) : (b.retire id).ready = b.ready := by
  unfold retire
  split <;> rfl

/-- Nothing happens to the channels, nor to what is ready. -/
private theorem Prepares.idle (published : a.published = [])
    (other : ∀ id tag verdict, a ≠ .settle id tag verdict) (concluded : b.concluded a = [])
    (closes : ∀ id ∈ b.closes a, b.Closed id) (lanes : b'.lanes = b.lanes)
    (ready : b'.ready = b.ready) : Prepares b a b' :=
  .rest lanes (by simp [ready, published]) (not_settles other) concluded closes

/-- Something happens to a channel that does not concern its outstanding deliveries. -/
private theorem Prepares.quiet {b₁ : Broker β} {id : Nat} {change : Lane β → Lane β}
    (quiet : ∀ lane, Lane.Quiet lane (change lane)) (published : a.published = [])
    (other : ∀ id tag verdict, a ≠ .settle id tag verdict) (concluded : b.concluded a = [])
    (closes : b.closes a = [])
    (lanes : b₁.lanes = b.lanes) (ready : b₁.ready = b.ready) :
    Prepares b a (b₁.withLane id change) := by
  have found' : b₁.lane? id = b.lane? id := by rw [lane?, lane?, lanes]
  unfold Broker.withLane
  rw [found']
  cases found : b.lane? id with
  | none =>
    exact .idle published other concluded (by simp [closes]) lanes ready
  | some lane =>
    rw [← id_of_lane? found] at found
    refine .change found (.rest (quiet lane)) ?_ ready published (.inl (quiet lane).autoAck) ?_
      concluded closes
    · simp only [setLane, lanes]
    · simp [not_settles other, Lane.Upshot.none]

/-- What an act makes of a broker, one delivery after the other. -/
def Course (b : Broker β) (a : Act β) (b' : Broker β) : Prop :=
  ∃ middle last, Prepares b a middle ∧ ReflTransGen Pours middle last ∧
    b'.lanes = last.lanes ∧ b'.ready = last.ready

/-- What an act makes of a broker: what is ready is delivered when it has been prepared, or nothing
is. -/
def Runs (b : Broker β) (a : Act β) (b' : Broker β) : Prop :=
  ∃ middle, Prepares b a middle ∧
    (b'.lanes = middle.lanes ∧ b'.ready = middle.ready ∨
      b'.lanes = middle.pump.lanes ∧ b'.ready = middle.pump.ready)

private theorem Runs.course (runs : Runs b a b') : Course b a b' := by
  obtain ⟨middle, prepares, ⟨lanes, ready⟩ | ⟨lanes, ready⟩⟩ := runs
  · exact ⟨middle, middle, prepares, .refl, lanes, ready⟩
  · exact ⟨middle, middle.pump, prepares, pours_pump middle, lanes, ready⟩

/-- Nothing is delivered. -/
private theorem Prepares.runs (prepares : Prepares b a b') : Runs b a b' :=
  ⟨b', prepares, .inl ⟨rfl, rfl⟩⟩

/-- What is ready is delivered if bodies come back. -/
private theorem Prepares.requeue {middle : Broker β} {bodies : List β}
    (prepares : Prepares b a { middle with
      ready := bodies.map (⟨·, true⟩) ++ middle.ready }) :
    Runs b a (middle.requeue bodies) := by
  cases bodies with
  | nil => exact ⟨_, prepares, .inl ⟨rfl, rfl⟩⟩
  | cons body rest => exact ⟨_, prepares, .inr ⟨rfl, rfl⟩⟩

private theorem runs_close (b : Broker β) {id : Nat} {closure : Closure}
    (published : a.published = [])
    (other : ∀ id tag verdict, a ≠ .settle id tag verdict) (concluded : b.concluded a = [])
    (closes : b.closes a = if (b.lane? id).isSome then [id] else []) :
    Runs b a (b.close id closure) := by
  unfold Broker.close
  cases found : b.lane? id with
  | none =>
    rw [found] at closes
    exact Prepares.runs (.idle published other concluded (by simp [closes]) rfl rfl)
  | some lane =>
    rw [found] at closes
    dsimp only
    split
    · next isOpen =>
      refine Prepares.requeue ?_
      have number := id_of_lane? found
      rw [← number] at found
      refine .change found (.close isOpen) (retire_lanes _ _) ?_ published (.inl rfl) ?_
        concluded ?_
      · rw [retire_ready]
        rfl
      · simp [not_settles other]
      · rw [closes, number]
        rfl
    · next isClosed =>
      refine Prepares.runs (.idle published other concluded ?_ rfl rfl)
      intro other member
      rw [closes] at member
      obtain rfl := List.mem_singleton.mp member
      exact ⟨lane, found, by simpa using isClosed⟩

private theorem runs_settle (b : Broker β) (id tag : Nat) (verdict : Verdict) :
    Runs b (.settle id tag verdict) (b.settle id tag verdict).2 := by
  have refused {fault : ChannelFault} (same : b.settle id tag verdict = (.error fault, b)) :
      Runs b (.settle id tag verdict) (b.settle id tag verdict).2 := by
    have none : b.settled (.settle id tag verdict) = [] := by rw [Broker.settled, same]
    rw [same]
    refine Prepares.runs (.rest rfl (List.append_nil _).symm ?_ ?_ nofun)
    · rintro other otherTag ⟨named, verdict, call, succeeded, _⟩
      cases call
      rw [same] at succeeded
      cases succeeded
    · rw [Broker.concluded, none]
      exact ite_self _
  cases found : b.lane? id with
  | none => exact refused (by rw [Broker.settle, found])
  | some lane =>
    obtain ⟨⟨fault, failed⟩, _⟩ | ⟨_, next, settled, _⟩ := lane.settle_cases tag verdict
    · have same : b.settle id tag verdict = (.error fault, b) := by
        rw [Broker.settle, found]
        simp only [failed]
      exact refused same
    · generalize (if verdict.final then [] else (lane.meant tag verdict).map (·.2)) = bodies
        at settled
      have same : b.settle id tag verdict = (.ok (), (b.setLane next).requeue bodies) := by
        rw [Broker.settle, found]
        simp only [settled]
      have entries : b.settled (.settle id tag verdict) =
          (lane.meant tag verdict).map (id, ·) := by
        rw [Broker.settled, same, found]
      have kept : next.autoAck = lane.autoAck := by rw [Lane.eq_of_settle settled]
      have last : b.nextTag id = lane.nextTag := by
        rw [nextTag, found, Option.map_some, Option.getD_some]
      have succeeded : (b.settle id tag verdict).1 = .ok () := by rw [same]
      have number := id_of_lane? found
      rw [same]
      refine Prepares.requeue ?_
      rw [← number] at found
      refine .change found (.settle settled) rfl rfl rfl (.inl kept) ?_ ?_ rfl
      · intro other otherTag
        constructor
        · rintro ⟨named, _, call, _, covers, made⟩
          cases call
          exact ⟨number.symm, last ▸ made, covers⟩
        · rintro ⟨rfl, made, covers⟩
          rw [number]
          exact ⟨tag, verdict, rfl, succeeded, covers, last ▸ made⟩
      · rw [Broker.concluded, entries, List.map_map]
        rfl

private theorem runs_subscribe (b : Broker β) (id : Nat) (s : Subscription) :
    Runs b (.subscribe id s) (b.subscribe id s).2 := by
  have refused {b' : Broker β} (lanes : b'.lanes = b.lanes) (ready : b'.ready = b.ready) :
      Runs b (.subscribe id s) b' :=
    Prepares.runs (.idle rfl nofun rfl nofun lanes ready)
  unfold Broker.subscribe
  split
  · exact refused rfl rfl
  · split
    · exact refused rfl rfl
    · cases found : b.lane? id with
      | none => exact refused rfl rfl
      | some lane =>
        dsimp only
        split
        · next isOpen =>
          refine ⟨_, ?_, .inr ⟨rfl, rfl⟩⟩
          have number := id_of_lane? found
          rw [← number] at found
          have subscribes := Lane.Undergoes.subscribe (s := s) isOpen
          refine .change found subscribes rfl rfl rfl (.inr ⟨s, ?_, rfl⟩) ?_ rfl rfl
          · rw [number]
          · simp [not_settles, Lane.Upshot.none]
        · exact refused rfl rfl

/-- Whatever is asked of a broker, it changes one channel at most and then delivers what is
ready. -/
theorem runs_apply (b : Broker β) (a : Act β) : Runs b a (b.apply a) := by
  cases a with
  | publish body =>
    exact ⟨{ b with ready := b.ready ++ [⟨body, false⟩] },
      .rest rfl rfl (not_settles (by simp)) rfl (List.forall_mem_nil _), .inr ⟨rfl, rfl⟩⟩
  | lease =>
    unfold Broker.apply Broker.lease
    dsimp only
    split
    · exact Prepares.runs (.idle rfl (by simp) rfl (List.forall_mem_nil _) rfl rfl)
    · exact Prepares.runs (.lease rfl rfl rfl)
  | limit id prefetch forAll =>
    have same : b.apply (.limit id prefetch forAll) = b.withLane id fun lane =>
        { lane with limits := lane.limits ++ [(prefetch, forAll)] } := by
      simp only [Broker.apply, Broker.limit, Broker.withLane]
      cases b.lane? id <;> rfl
    rw [same]
    exact Prepares.runs (.quiet (fun _ => ⟨rfl, rfl, rfl, rfl, rfl, List.suffix_rfl⟩)
      rfl (by simp) rfl rfl rfl rfl)
  | subscribe id s => exact runs_subscribe b id s
  | settle id tag verdict => exact runs_settle b id tag verdict
  | release id errored =>
    exact Prepares.runs
      (.quiet .hangUp rfl (by simp) rfl rfl (retire_lanes _ _) (retire_ready _ _))
  | close id closure => exact runs_close b rfl (by simp) rfl rfl
  | closeActive closure =>
    cases active : b.active with
    | none =>
      have same : b.apply (.closeActive closure) = b := by
        rw [Broker.apply, Broker.closeActive, active]
      rw [same]
      refine Prepares.runs (.idle rfl (by simp) rfl ?_ rfl rfl)
      rw [Broker.closes, active]
      exact List.forall_mem_nil _
    | some id =>
      have same : b.apply (.closeActive closure) = b.close id closure := by
        rw [Broker.apply, Broker.closeActive, active]
      rw [same]
      refine runs_close b rfl (by simp) rfl ?_
      rw [Broker.closes, active]
      simp [List.filter_cons]
  | cancel =>
    cases active : b.active with
    | none =>
      have same : b.apply .cancel = b := by rw [Broker.apply, Broker.cancel, active]
      rw [same]
      exact Prepares.runs (.idle rfl (by simp) rfl (List.forall_mem_nil _) rfl rfl)
    | some id =>
      have same : b.apply .cancel = withLane { b with active := none } id .hangUp := by
        rw [Broker.apply, Broker.cancel, active]
      rw [same]
      exact Prepares.runs (.quiet .hangUp rfl (by simp) rfl rfl rfl rfl)
  | failLeases count =>
    exact Prepares.runs (.idle rfl (by simp) rfl (List.forall_mem_nil _) rfl rfl)
  | failSubscriptions count =>
    exact Prepares.runs (.idle rfl (by simp) rfl (List.forall_mem_nil _) rfl rfl)
  -- what the holder of the feeds of a channel does with them
  | take id =>
    exact Prepares.runs (.quiet (fun _ => ⟨rfl, rfl, rfl, rfl, rfl, List.tail_suffix _⟩)
      rfl (by simp) rfl rfl rfl rfl)
  | dropStream id =>
    exact Prepares.runs (.quiet (fun _ => ⟨rfl, rfl, rfl, rfl, rfl, List.nil_suffix⟩)
      rfl (by simp) rfl rfl rfl rfl)
  | takeNotice id =>
    exact Prepares.runs (.quiet (fun _ => ⟨rfl, rfl, rfl, rfl, rfl, List.suffix_rfl⟩)
      rfl (by simp) rfl rfl rfl rfl)
  | dropNotices id =>
    exact Prepares.runs (.quiet (fun _ => ⟨rfl, rfl, rfl, rfl, rfl, List.suffix_rfl⟩)
      rfl (by simp) rfl rfl rfl rfl)

theorem course_apply (b : Broker β) (a : Act β) : Course b a (b.apply a) := (runs_apply b a).course

/-! ## Histories -/

/-- A broker after an act, as a step of a history. -/
def step? (b : Broker β) (a : Act β) : Option (Broker β) := some (b.apply a)

theorem after?_eq (b : Broker β) (acts : List (Act β)) :
    Replay.after? Broker.step? b acts = some (acts.foldl apply b) := by
  induction acts generalizing b with
  | nil => rfl
  | cons a rest ih => exact ih (b.apply a)

end Broker

end Intake
