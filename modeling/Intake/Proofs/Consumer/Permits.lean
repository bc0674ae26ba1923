import Intake.Proofs.Consumer.Conservation
import Intake.Proofs.Consumer.Lifecycle
import Mathlib.Algebra.Group.Nat.Defs

/-! # Permits and room

A permit is free, held by a delivery in flight, or reserved by a loop that receives. Every step
hands permits on and none is lost or made, whatever is cancelled on the way. Together with the
slots of the queue of messages this bounds what a consumer takes ahead of the application.
-/

namespace Intake

namespace Allowance

/-- The permits that the reservation holds. -/
def reserved (a : Allowance) : Nat := if a.reservation = .held then 1 else 0

/-- All permits, wherever they are. -/
def total (a : Allowance) : Nat := a.free + a.inFlight + a.reserved

private theorem total_ofLimit (limit : Nat) : (ofLimit limit).total = permits limit := rfl

private theorem total_request (a : Allowance) : a.request.total = a.total := by
  obtain ⟨free, reservation, inFlight⟩ := a
  cases reservation with
  | none =>
    by_cases some : 0 < free
    · simp only [request, some, if_true, total, reserved]
      simp only [reduceCtorEq, if_false]
      omega
    · simp only [request, some, if_false, total, reserved, reduceCtorEq]
  | waiting => rfl
  | held => rfl

@[simp] theorem reservation_cancel (a : Allowance) : a.cancel.reservation = .none := by
  unfold cancel
  split
  · assumption
  · rfl
  · rfl

private theorem total_cancel (a : Allowance) : a.cancel.total = a.total := by
  obtain ⟨free, reservation, inFlight⟩ := a
  cases reservation with
  | none => rfl
  | waiting => rfl
  | held =>
    simp only [cancel, total, reserved, reduceCtorEq, if_false, if_true]
    omega

/-- A delivery in flight takes over the permit that was reserved for it. -/
private theorem total_track {a : Allowance} (held : a.reservation = .held) :
    a.track.total = a.total := by
  simp only [track, total, reserved, held, reduceCtorEq, if_false, if_true]
  omega

/-- A permit that returns goes to the reservation that waits for it, or is free. -/
private theorem total_finish {a : Allowance} (busy : 0 < a.inFlight) :
    a.finish.total = a.total := by
  obtain ⟨free, reservation, inFlight⟩ := a
  dsimp only at busy
  cases reservation <;>
    simp only [finish, total, reserved, reduceCtorEq, if_false, if_true] <;> omega

private theorem reservation_finish_eq_none_iff {a : Allowance} :
    a.finish.reservation = .none ↔ a.reservation = .none := by
  obtain ⟨free, reservation, inFlight⟩ := a
  cases reservation <;> simp [finish]

end Allowance

namespace Consumer

variable {β : Type} {c c' c₀ : Consumer β} {e : Event β}

/-! ## The steps of the loop -/

@[simp] theorem report_allowance (c : Consumer β) (fault : Fault) :
    (c.report fault).allowance = c.allowance := by
  unfold report
  split <;> rfl

private theorem closed_allowance (c : Consumer β) (channel : Channel) (closure : Closure) :
    (c.closed channel closure).allowance = c.allowance := by
  simp [closed, leave, meter, log]

private theorem streamEnded_allowance (c : Consumer β) (channel : Channel) (resumeAt : Nat) :
    (c.streamEnded channel resumeAt).allowance = c.allowance := by
  simp [streamEnded, leave, log]

private theorem leased_allowance (c : Consumer β) (now : Nat)
    (result : Except ChannelFault Channel) :
    (c.leased now result).allowance = c.allowance := by
  cases result <;> simp [leased, meter, log]

private theorem limited_allowance (c : Consumer β) (channel : Channel)
    (result : Except ChannelFault Unit) : (c.limited channel result).allowance = c.allowance := by
  unfold limited
  dsimp only
  split
  · rw [report_allowance]
    rfl
  · rfl

private theorem opened_allowance (c : Consumer β) (channel : Channel)
    (result : Except ChannelFault Unit) : (c.opened channel result).allowance = c.allowance := by
  cases result <;> simp [opened, log]

private theorem restored_allowance (c : Consumer β) (channel : Channel) (ending : Ending)
    (result : Except ChannelFault Unit) :
    (c.restored channel ending result).allowance = c.allowance := by
  cases result <;> rfl

private theorem drain_allowance (c : Consumer β) : c.drain.allowance = c.allowance := by
  unfold drain
  split <;> rfl

/-- The loop receives and may hold a reservation. -/
def Streams (c : Consumer β) : Prop := ∃ channel watching, c.phase = .streaming channel watching

/-- What a step of the loop does to the allowance. -/
inductive Allots (c c' : Consumer β) : Prop
  /-- A step outside the phase that receives. -/
  | elsewhere (away : ¬c.Streams) (same : c'.allowance = c.allowance)
  | requests (streams : c'.Streams) (requested : c'.allowance = c.allowance.request)
  | cancels (cancelled : c'.allowance = c.allowance.cancel)
  /-- A reservation is made, and given up in the same step. -/
  | declines (declined : c'.allowance = c.allowance.request.cancel)
  | tracks (held : c.allowance.request.reservation = .held)
      (tracked : c'.allowance = c.allowance.request.track)

/-- A delivery is looked for with a permit only. -/
private theorem held_of_choose {watching : Bool} {notice : Glance Closure}
    {arrival : Glance (Delivery β)}
    {d : Delivery β} (chosen : c.choose watching notice arrival = .delivery d) :
    c.allowance.request.reservation = .held := by
  simp only [choose] at chosen
  split at chosen
  · cases chosen
  · cases chosen
  · split at chosen
    · assumption
    · cases chosen
    · split at chosen <;> cases chosen

theorem Advance.allots {now : Nat} {answer : Answer β} (advance : Advance c now answer c') :
    Allots c c' := by
  have away {phase : Phase} (here : c.phase = phase)
      (other : ∀ channel watching, phase ≠ .streaming channel watching) : ¬c.Streams := by
    rintro ⟨channel, watching, streams⟩
    exact other channel watching (here.symm.trans streams)
  cases advance with
  | stopBeforeLease phase signal => exact .elsewhere (away phase nofun) rfl
  | seek phase silent => exact .elsewhere (away phase nofun) rfl
  | lease phase => exact .elsewhere (away phase nofun) (leased_allowance ..)
  | limit phase => exact .elsewhere (away phase nofun) (limited_allowance ..)
  | subscribe phase => exact .elsewhere (away phase nofun) (opened_allowance ..)
  | closure phase chosen => exact .cancels (closed_allowance ..)
  | exhausted phase chosen => exact .cancels rfl
  | receive phase chosen silent => exact .tracks (held_of_choose chosen) rfl
  | receiveLast phase chosen signal => exact .tracks (held_of_choose chosen) rfl
  | linger phase chosen => exact .declines rfl
  | streamEnd phase chosen => exact .declines (streamEnded_allowance ..)
  | stop phase chosen => exact .declines rfl
  | reserve phase chosen unreserved => exact .requests ⟨_, _, phase⟩ rfl
  | lateClosure phase => exact .elsewhere (away phase nofun) (closed_allowance ..)
  | unexplained phase => exact .elsewhere (away phase nofun) (streamEnded_allowance ..)
  | outlasted phase due => exact .elsewhere (away phase nofun) (streamEnded_allowance ..)
  | restore phase => exact .elsewhere (away phase nofun) (restored_allowance ..)
  | release phase => exact .elsewhere (away phase nofun) rfl
  | resume phase due => exact .elsewhere (away phase nofun) rfl
  | drain phase => exact .elsewhere (away phase nofun) (drain_allowance c)
  | empty phase none => exact .elsewhere (away phase nofun) rfl
  | park phase => exact .elsewhere (away phase nofun) rfl

/-- While a delivery is dispatched the count of those in flight is not zero. -/
private theorem inFlight_pos {number : Nat} {d : Dispatch β}
    (guards : c.inFlight = c.dispatches.length)
    (found : c.dispatch? number = some d) : 0 < c.inFlight := by
  rw [guards]
  exact List.length_pos_of_mem (List.mem_of_find?_eq_some found)

/-! ## The invariant -/

/-- All permits are accounted for, only a loop that receives reserves one, and the queue of
messages keeps to its slots. -/
structure Provided (c : Consumer β) (limit slots : Nat) : Prop where
  permits : c.allowance.total = limit
  reserves : c.allowance.reservation ≠ .none → c.Streams
  within : c.messages.Within
  capacity : c.messages.capacity = slots

namespace Provided

variable {limit slots : Nat}

/-- It depends on the allowance, the phase and the queue of messages only. -/
private theorem congr (provided : c.Provided limit slots) (allowance : c'.allowance = c.allowance)
    (phase : c'.phase = c.phase) (messages : c'.messages = c.messages) :
    c'.Provided limit slots := by
  refine ⟨?_, ?_, ?_, ?_⟩
  · rw [allowance]
    exact provided.permits
  · rw [allowance]
    unfold Streams
    rw [phase]
    exact provided.reserves
  · rw [messages]
    exact provided.within
  · rw [messages]
    exact provided.capacity

private theorem advance {now : Nat} {answer : Answer β} (provided : c.Provided limit slots)
    (advance : Advance c now answer c') : c'.Provided limit slots := by
  have messages := advance.turn.messages.1
  have within : c'.messages.Within := by
    rw [messages]
    exact provided.within
  have capacity : c'.messages.capacity = slots := by
    rw [messages]
    exact provided.capacity
  cases advance.allots with
  | elsewhere away same =>
    have unreserved : c.allowance.reservation = .none := by
      by_contra reserved
      exact away (provided.reserves reserved)
    refine ⟨by rw [same]; exact provided.permits, ?_, within, capacity⟩
    rw [same]
    exact fun reserved => absurd unreserved reserved
  | requests streams requested =>
    refine ⟨?_, fun _ => streams, within, capacity⟩
    rw [requested, Allowance.total_request]
    exact provided.permits
  | cancels cancelled =>
    refine ⟨?_, ?_, within, capacity⟩
    · rw [cancelled, Allowance.total_cancel]
      exact provided.permits
    · rw [cancelled, Allowance.reservation_cancel]
      exact fun reserved => absurd rfl reserved
  | declines declined =>
    refine ⟨?_, ?_, within, capacity⟩
    · rw [declined, Allowance.total_cancel, Allowance.total_request]
      exact provided.permits
    · rw [declined, Allowance.reservation_cancel]
      exact fun reserved => absurd rfl reserved
  | tracks held tracked =>
    refine ⟨?_, ?_, within, capacity⟩
    · rw [tracked, Allowance.total_track held, Allowance.total_request]
      exact provided.permits
    · rw [tracked]
      exact fun reserved => absurd rfl reserved

private theorem arrived {number : Nat} {messages : Queue (Message β)}
    (provided : c.Provided limit slots) (busy : 0 < c.inFlight) (within : messages.Within)
    (capacity : messages.capacity = c.messages.capacity) :
    (c.arrived number messages).Provided limit slots := by
  have allowance : (c.arrived number messages).allowance = c.allowance.finish := rfl
  refine ⟨?_, ?_, within, capacity.trans provided.capacity⟩
  · rw [allowance, Allowance.total_finish busy]
    exact provided.permits
  · rw [allowance, ne_eq, Allowance.reservation_finish_eq_none_iff]
    exact provided.reserves

private theorem hop {number : Nat} (provided : c.Provided limit slots)
    (guards : c.inFlight = c.dispatches.length) (hop : Hop c number c') :
    c'.Provided limit slots := by
  cases hop with
  | fill found granted =>
    have busy := inFlight_pos guards found
    exact provided.arrived busy (provided.within.fill _ granted) rfl
  | push found notGranted notWaiting room =>
    have busy := inFlight_pos guards found
    obtain ⟨within, same⟩ := Queue.Within.push? room
    exact provided.arrived busy within same
  | await found notGranted notWaiting full =>
    exact ⟨provided.permits, provided.reserves, provided.within, provided.capacity⟩

private theorem step? (provided : c.Provided limit slots) (orderly : c.Orderly)
    (guards : c.inFlight = c.dispatches.length) (stepped : c.step? e = some c') :
    c'.Provided limit slots := by
  cases orderly.happens stepped with
  | startRefused on => exact provided
  | start off =>
    -- a stopped consumer has no loop, so nothing is reserved when the next one is launched
    have idle : ¬c.Streams := by
      rintro ⟨channel, watching, streams⟩
      have alive := orderly.started_eq
      rw [off, streams] at alive
      exact absurd alive (by simp)
    have unreserved : c.allowance.reservation = .none := by
      by_contra reserved
      exact idle (provided.reserves reserved)
    exact ⟨provided.permits, fun reserved => absurd unreserved reserved, provided.within,
      provided.capacity⟩
  | stopRefused off => exact provided
  | stop on => exact provided.congr rfl rfl rfl
  | flushStop parked => exact provided.congr rfl rfl rfl
  | flushStopInVain unparked => exact provided
  | @useMessages u =>
    obtain ⟨_, same⟩ := c.messages.slots_use u
    exact ⟨provided.permits, provided.reserves, provided.within.use u,
      same.trans provided.capacity⟩
  | useErrors => exact provided.congr rfl rfl rfl
  | proceed advance => exact provided.advance advance
  | forward hop => exact provided.hop guards hop

end Provided

theorem provided_of_after? {settings : ConsumerSettings} {pool : PoolSettings}
    {events : List (Event β)} (created : create settings pool = .ok c₀)
    (ran : Replay.after? Consumer.step? c₀ events = some c) :
    c.Provided (Allowance.permits settings.inFlightLimit) settings.messageBuffer.toNat := by
  refine (orderly_of_create created).induction
    (P := fun _ c => c.Provided (Allowance.permits settings.inFlightLimit)
      settings.messageBuffer.toNat) ?_ ?_ ran
  · rw [create_eq_ok created]
    exact ⟨Allowance.total_ofLimit _, fun reserved => absurd rfl reserved, Nat.zero_le _, rfl⟩
  · intro events middle event next orderly before provided stepped
    obtain ⟨_, ledger⟩ := ledger_of_after? created before
    exact provided.step? orderly ledger.inFlight stepped

/-- The permits for a limit, which is clamped. -/
theorem permits_inFlightLimit (settings : ConsumerSettings) :
    Allowance.permits settings.inFlightLimit = max 1 (min (2 ^ 61 - 1)
      (if settings.maxInFlight = 0 then settings.messageBuffer.toNat
        else settings.maxInFlight.toNat)) := by
  have most : Allowance.mostPermits = 2 ^ 61 - 1 := rfl
  rw [Allowance.permits, most, ConsumerSettings.inFlightLimit]
  omega

/-- A step of a dispatched delivery that takes it off counts down from one at least. -/
private theorem Hop.counts {number : Nat} (hop : Hop c number c')
    (guards : c.inFlight = c.dispatches.length) :
    c'.dispatches = c.dispatches ∧ c'.inFlight = c.inFlight ∨ c'.inFlight + 1 = c.inFlight := by
  cases hop with
  | fill found granted =>
    have busy := inFlight_pos guards found
    rw [inFlight_arrived]
    omega
  | push found notGranted notWaiting room =>
    have busy := inFlight_pos guards found
    rw [inFlight_arrived]
    omega
  | await found notGranted notWaiting full => exact .inl ⟨rfl, rfl⟩

/-- Whatever happened, each permit is free, belongs to one delivery in flight, or is reserved by the
loop while it receives, which reserves one at most. So no more deliveries are in flight than there
are permits, their count never goes below zero, and what was taken but not read is bounded by the
permits and the room of the queue of messages. -/
theorem permits_accounted {settings : ConsumerSettings} {pool : PoolSettings}
    {events : List (Event β)} (created : create settings pool = .ok c₀)
    (ran : Replay.after? Consumer.step? c₀ events = some c) :
    let limit := max 1 (min (2 ^ 61 - 1)
      (if settings.maxInFlight = 0 then settings.messageBuffer.toNat
        else settings.maxInFlight.toNat))
    c.allowance.free + c.dispatches.length +
        (if c.allowance.reservation = .held then 1 else 0) = limit ∧
      (c.allowance.reservation ≠ .none →
        ∃ channel watching, c.phase = .streaming channel watching) ∧
      c.inFlight = c.dispatches.length ∧ c.inFlight ≤ limit ∧
      (∀ number c', c.forward? number = some c' →
        c'.dispatches = c.dispatches ∧ c'.inFlight = c.inFlight ∨ c'.inFlight + 1 = c.inFlight) ∧
      c.messages.items.length ≤ settings.messageBuffer.toNat ∧
      (Replay.gather Consumer.step? taken c₀ events).length ≤
        (Replay.gather Consumer.step? returned c₀ events).length +
          (Replay.gather Consumer.step? flushed c₀ events).length +
          (limit + settings.messageBuffer.toNat) := by
  intro limit
  have provided := provided_of_after? created ran
  obtain ⟨_, ledger⟩ := ledger_of_after? created ran
  have guards : c.inFlight = c.dispatches.length := ledger.inFlight
  have permits : c.allowance.free + c.inFlight +
      (if c.allowance.reservation = .held then 1 else 0) = limit :=
    provided.permits.trans (permits_inFlightLimit settings)
  have room : c.messages.items.length ≤ settings.messageBuffer.toNat := by
    have within : c.messages.items.length + c.messages.granted.length ≤ c.messages.capacity :=
      provided.within
    have capacity := provided.capacity
    omega
  have whole := (taken_perm created ran).length_eq
  simp only [List.length_append, List.length_map] at whole
  refine ⟨by omega, provided.reserves, guards, by omega, ?_, room, by omega⟩
  intro number c' forwarded
  exact (Hop.of_forward? forwarded).counts guards

/-- With two permits and room for one message, two deliveries wait in line behind a third when the
loop reserves in vain, is stopped at once and launched again; then a message is read, and the permit
that returns is granted to the reservation of the second loop. -/
def crampedRun : List (Event Nat) :=
  [.act .start, .proceed 0 .nothing, .proceed 0 (.leased (.ok ⟨1, 1⟩)), .proceed 0 (.done (.ok ())),
    .proceed 0 (.seen .quiet (.item ⟨1, 10, false, "", ""⟩)), .forward 0,
    .proceed 0 (.seen .quiet (.item ⟨2, 20, false, "", ""⟩)), .forward 0,
    .proceed 0 (.seen .quiet (.item ⟨3, 30, false, "", ""⟩)), .forward 1,
    .proceed 0 (.seen .quiet .quiet), .act (.stop true), .proceed 0 (.seen .quiet .quiet),
    .proceed 0 (.done (.ok ())), .proceed 0 .nothing, .proceed 0 .nothing, .act .start,
    .proceed 0 .nothing, .proceed 0 (.leased (.ok ⟨2, 2⟩)), .proceed 0 (.done (.ok ())),
    .proceed 0 (.seen .quiet .quiet), .act (.use .messages .take), .forward 0]

theorem permits_accounted_cramped : ∃ c₀ c : Consumer Nat,
    create { ConsumerSettings.default with messageBuffer := 1, maxInFlight := 2 } .default =
      .ok c₀ ∧
    Replay.after? Consumer.step? c₀ crampedRun = some c ∧ c.allowance.reservation = .held ∧
    c.dispatches.length = 1 ∧
    c.allowance.free + c.dispatches.length +
      (if c.allowance.reservation = .held then 1 else 0) = 2 ∧
    c.messages.items.length ≤ 1 := by
  obtain ⟨c₀, created, goes⟩ : ∃ c₀ : Consumer Nat,
      create { ConsumerSettings.default with messageBuffer := 1, maxInFlight := 2 } .default =
        .ok c₀ ∧
      (Replay.after? Consumer.step? c₀ crampedRun).any (fun c =>
        decide (c.allowance.reservation = .held ∧ c.dispatches.length = 1)) = true :=
    ⟨_, rfl, by decide +kernel⟩
  obtain ⟨c, ran, now⟩ := (Option.any_eq_true _ _).mp goes
  obtain ⟨held, one⟩ := of_decide_eq_true now
  obtain ⟨permits, _, _, _, _, room, _⟩ := permits_accounted created ran
  exact ⟨c₀, c, created, ran, held, one, permits, room⟩

end Consumer

end Intake
