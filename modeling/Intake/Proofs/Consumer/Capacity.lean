import Intake.Proofs.Consumer.Permits

/-! # No capacity is wasted

A delivery waits for a permit before it is taken and for a slot before it is queued. A permit or a
slot that comes back goes to who waits for it, so that nobody waits while one is free; `Flowing`
says so, and every event keeps it. Where neither the loop nor a dispatched delivery can go on, the
permits and the slots are used up.
-/

namespace Intake

namespace Allowance

/-- A permit is waited for only while none is free. -/
def Spent (a : Allowance) : Prop := a.reservation = .waiting → a.free = 0

private theorem Spent.request {a : Allowance} (spent : a.Spent) : a.request.Spent := by
  obtain ⟨free, reservation, inFlight⟩ := a
  cases reservation with
  | none =>
    by_cases some : 0 < free
    · simp [Spent, Allowance.request, some]
    · simp only [Spent, Allowance.request, some, if_false]
      omega
  | waiting => exact spent
  | held => exact spent

private theorem Spent.cancel (a : Allowance) : a.cancel.Spent := by
  rw [Spent, reservation_cancel]
  exact nofun

private theorem Spent.track (a : Allowance) : a.track.Spent := nofun

/-- A permit that returns goes to the reservation that waits for it. -/
private theorem Spent.finish (a : Allowance) : a.finish.Spent := by
  obtain ⟨free, reservation, inFlight⟩ := a
  cases reservation <;> exact nofun

end Allowance

/-- How many deliveries may be in flight: what the settings say, or else as many as the queue of
messages has room for; at least one, and not more than there can be permits. -/
def ConsumerSettings.mostInFlight (settings : ConsumerSettings) : Nat :=
  max 1 (min (2 ^ 61 - 1) (if settings.maxInFlight = 0 then settings.messageBuffer.toNat
    else settings.maxInFlight.toNat))

namespace Consumer

variable {β : Type} {c c' c₀ : Consumer β} {e : Event β} {limit slots : Nat}

/-- Whoever waits, waits for something that is used up. Only dispatched deliveries wait for slots
of the queue of messages, and nobody for those of the queue of errors. -/
structure Flowing (c : Consumer β) : Prop where
  permits : c.allowance.Spent
  messages : c.messages.Tended (c.dispatches.map (·.number))
  errors : c.errors.Tended []

namespace Flowing

private theorem allots (flowing : c.Flowing) (allots : Allots c c') : c'.allowance.Spent := by
  cases allots with
  | elsewhere away same =>
    rw [same]
    exact flowing.permits
  | requests streams requested =>
    rw [requested]
    exact flowing.permits.request
  | cancels cancelled =>
    rw [cancelled]
    exact .cancel _
  | declines declined =>
    rw [declined]
    exact .cancel _
  | tracks held tracked =>
    rw [tracked]
    exact .track _

private theorem advance {now : Nat} {answer : Answer β} (flowing : c.Flowing)
    (advance : Advance c now answer c') : c'.Flowing := by
  have turn := advance.turn
  obtain ⟨messages, more⟩ := turn.messages
  obtain ⟨items, errors⟩ := turn.reports
  refine ⟨flowing.allots advance.allots, ?_, ?_⟩
  · rw [messages]
    exact flowing.messages.mono (List.map_subset _ more.subset)
  · rw [errors]
    exact flowing.errors.items _

/-- A delivery that arrives returns its permit and is known no more. -/
private theorem arrived {number : Nat} {messages : Queue (Message β)} (flowing : c.Flowing)
    (tended : messages.Tended ((c.dispatches.map (·.number)).filter (· != number))) :
    (c.arrived number messages).Flowing := by
  rw [List.filter_map] at tended
  exact ⟨.finish _, tended, flowing.errors⟩

private theorem hop {number : Nat} (flowing : c.Flowing) (within : c.messages.Within)
    (hop : Hop c number c') : c'.Flowing := by
  cases hop with
  | fill found granted => exact flowing.arrived (flowing.messages.fill _ granted)
  | push found notGranted notWaiting room =>
    have absent : number ∉ c.messages.senders := by simp [Queue.senders, notGranted, notWaiting]
    exact flowing.arrived (flowing.messages.push? room absent)
  | @await d found notGranted notWaiting full =>
    have absent : number ∉ c.messages.senders := by simp [Queue.senders, notGranted, notWaiting]
    have known : number ∈ c.dispatches.map (·.number) := by
      have same : d.number = number := by simpa using List.find?_some found
      rw [← same]
      exact List.mem_map_of_mem (List.mem_of_find?_eq_some found)
    exact ⟨flowing.permits, flowing.messages.await within full absent known, flowing.errors⟩

private theorem step? (flowing : c.Flowing) (orderly : c.Orderly) (within : c.messages.Within)
    (stepped : c.step? e = some c') : c'.Flowing := by
  cases orderly.happens stepped with
  | startRefused on => exact flowing
  | start off => exact ⟨flowing.permits, flowing.messages, flowing.errors.use .flush⟩
  | stopRefused off => exact flowing
  | stop on => exact ⟨flowing.permits, flowing.messages, flowing.errors⟩
  | flushStop parked => exact ⟨flowing.permits, flowing.messages, flowing.errors⟩
  | flushStopInVain unparked => exact flowing
  | @useMessages u => exact ⟨flowing.permits, flowing.messages.use u, flowing.errors⟩
  | @useErrors u => exact ⟨flowing.permits, flowing.messages, flowing.errors.use u⟩
  | proceed advance => exact flowing.advance advance
  | forward hop => exact flowing.hop within hop

end Flowing

theorem flowing_of_after? {settings : ConsumerSettings} {pool : PoolSettings}
    {events : List (Event β)} (created : create settings pool = .ok c₀)
    (ran : Replay.after? Consumer.step? c₀ events = some c) : c.Flowing := by
  refine (orderly_of_create created).induction (P := fun _ c => c.Flowing) ?_ ?_ ran
  · rw [create_eq_ok created]
    exact ⟨nofun, .ofCapacity _ _, .ofCapacity _ _⟩
  · intro events middle event next orderly before flowing stepped
    exact flowing.step? orderly (provided_of_after? created before).within stepped

/-! ## What it means to have to wait -/

/-- If a delivery is under way and none can go on, all slots are taken by messages. -/
private theorem Flowing.full (flowing : c.Flowing) (guards : c.inFlight = c.dispatches.length)
    (blocked : ∀ number, c.forward? number = none) (busy : 0 < c.inFlight) :
    c.messages.items.length = c.messages.capacity := by
  have waits {d : Dispatch β} (member : d ∈ c.dispatches) :
      d.number ∉ c.messages.granted ∧ d.number ∈ c.messages.waiting := by
    cases found : c.dispatch? d.number with
    | none => exact absurd (List.find?_eq_none.mp found d member) (by simp)
    | some first => exact waiting_of_forward? found (blocked _)
  obtain ⟨d, member⟩ := List.exists_mem_of_length_pos (guards ▸ busy)
  have full := flowing.messages.full (List.ne_nil_of_mem (waits member).2)
  -- who has been granted a slot could fill it
  have granted : c.messages.granted = [] := by
    apply List.eq_nil_iff_forall_not_mem.mpr
    intro number there
    have known := flowing.messages.known (List.mem_append_left _ there)
    obtain ⟨other, under, rfl⟩ := List.mem_map.mp known
    exact (waits under).1 there
  rw [Queue.used, granted] at full
  exact full

/-- With a permit reserved, a delivery that is seen is taken, unless a closure comes first. -/
private theorem choose_ne_wait {watching : Bool} {notice : Glance Closure} {d : Delivery β}
    (held : c.allowance.reservation = .held) : c.choose watching notice (.item d) ≠ .wait := by
  have kept : c.allowance.request.reservation = .held := by
    simp only [Allowance.request, held]
  intro chosen
  simp only [choose, kept] at chosen
  split at chosen <;> cases chosen

/-- A loop that receives and has to wait in sight of a delivery waits for a permit. -/
private theorem waiting_of_stream? {now : Nat} {channel : Channel} {watching : Bool}
    {notice : Glance Closure} {d : Delivery β}
    (blocked : c.stream? now channel watching notice (.item d) = none) :
    c.allowance.reservation = .waiting := by
  unfold stream? at blocked
  cases chosen : c.choose watching notice (.item d) with
  | wait =>
    simp only [chosen, ite_eq_right_iff, reduceCtorEq, imp_false] at blocked
    cases reservation : c.allowance.reservation with
    | none => exact absurd reservation blocked
    | waiting => rfl
    | held => exact absurd chosen (choose_ne_wait reservation)
  | _ => simp [chosen] at blocked

/-- With no permit free and none reserved, all are with deliveries in flight. -/
private theorem Flowing.spent (flowing : c.Flowing) (provided : c.Provided limit slots)
    (waiting : c.allowance.reservation = .waiting) : c.inFlight = limit := by
  have free := flowing.permits waiting
  have permits := provided.permits
  simp only [Allowance.total, Allowance.reserved, waiting, free, reduceCtorEq, if_false] at permits
  unfold inFlight
  omega

/-- What is used up when no delivery under way can go on, and when on top of it a loop that receives
cannot take the delivery it sees. -/
theorem used_up {settings : ConsumerSettings} {pool : PoolSettings} {events : List (Event β)}
    (created : create settings pool = .ok c₀)
    (ran : Replay.after? Consumer.step? c₀ events = some c)
    (blocked : ∀ number, c.forward? number = none) :
    (0 < c.inFlight → c.messages.items.length = settings.messageBuffer.toNat) ∧
    ∀ now channel watching notice d, c.phase = .streaming channel watching →
      c.proceed? now (.seen notice (.item d)) = none →
      c.messages.items.length = settings.messageBuffer.toNat ∧
        c.inFlight = settings.mostInFlight := by
  have flowing := flowing_of_after? created ran
  have provided := provided_of_after? created ran
  obtain ⟨_, ledger⟩ := ledger_of_after? created ran
  have full (busy : 0 < c.inFlight) : c.messages.items.length = settings.messageBuffer.toNat :=
    (flowing.full ledger.inFlight blocked busy).trans provided.capacity
  refine ⟨full, ?_⟩
  intro now channel watching notice d phase stuck
  have streams : c.stream? now channel watching notice (.item d) = none := by
    simpa only [proceed?, phase] using stuck
  have spent : c.inFlight = settings.mostInFlight :=
    (flowing.spent provided (waiting_of_stream? streams)).trans (permits_inFlightLimit settings)
  have busy : 0 < c.inFlight := by
    rw [spent, ConsumerSettings.mostInFlight]
    omega
  exact ⟨full busy, spent⟩

end Consumer

end Intake
