import Intake.Proofs.Consumer.Capacity
import Intake.Proofs.Consumer.Leases
import Intake.Proofs.Consumer.Noting

/-! # Starting anew

A consumer that has stopped, has nothing in flight and no message left, and whose readers are gone
differs from a new one in what it noted, in the errors that are queued and in a stop signal that may
be left over. A start clears the last two, and nobody looks at the first. So whatever happened
before, the consumer goes on like a new one.
-/

namespace Intake

/-- With nothing reserved and nothing in flight all permits are free. -/
private theorem Allowance.eq_ofLimit {a : Allowance} {limit : Nat} (total : a.total = permits limit)
    (unreserved : a.reservation = .none) (none : a.inFlight = 0) : a = .ofLimit limit := by
  obtain ⟨free, reservation, inFlight⟩ := a
  dsimp only at unreserved none
  subst unreserved none
  have free : free = permits limit := by simpa [Allowance.total, reserved] using total
  rw [free]
  rfl

namespace Consumer

variable {β : Type} {c c' c₀ : Consumer β} {e : Event β}

/-! ## What shows of an event -/

/-- What a call returns. -/
inductive Response (β : Type) where
  | nothing
  /-- Of a start or a stop. -/
  | changed (result : Except Fault Unit)
  /-- How many items were discarded. -/
  | discarded (count : Nat)
  | item (item : Option (Item β))

def respond (c : Consumer β) : Event β → Response β
  | .act .start => .changed c.start.1
  | .act (.stop immediate) => .changed (c.stop immediate).1
  | .act (.use side .flush) => .discarded (c.flush side).1
  | .act (.use side .take) => .item ((c.take? side).map (·.1))
  | .act (.use side (.read reader)) => .item ((c.read? side reader).map (·.1))
  | .act .flushStop | .act (.use _ (.enter _)) | .act (.use _ (.quit _)) | .proceed _ _ |
    .forward _ => .nothing

/-- What shows of an event: what a call returns, what the loop asks of its source, what is counted,
and the consumer that comes of it. -/
structure Showing (β : Type) where
  response : Response β
  calls : List Deed
  readings : Readings
  consumer : Consumer β

/-- What shows of an event, if it is possible. Notes that are not collected do not show. -/
def shows (c : Consumer β) (e : Event β) : List (Showing β) :=
  ((c.step? e).map fun next =>
    ⟨c.respond e, c.called e, next.metered.drop c.metered.length, next.unnoted⟩).toList

private theorem noting_respond (earlier : List Note) (c : Consumer β) (e : Event β) :
    (c.noting earlier).respond e = c.respond e := by
  cases e with
  | act a =>
    cases a with
    | start =>
      have same := congrArg Prod.fst (noting_start earlier c)
      exact congrArg Response.changed same
    | stop immediate =>
      have same := congrArg Prod.fst (noting_stop earlier c immediate)
      exact congrArg Response.changed same
    | flushStop => rfl
    | use side u =>
      cases u with
      | flush => cases side <;> rfl
      | take =>
        cases side <;>
        · simp only [respond, take?, Option.map_map]
          rfl
      | enter reader => rfl
      | read reader =>
        cases side <;>
        · simp only [respond, read?, Option.map_map]
          rfl
      | quit reader => rfl
  | proceed now answer => rfl
  | forward number => rfl

private theorem noting_shows (earlier : List Note) (c : Consumer β) (e : Event β) :
    (c.noting earlier).shows e = c.shows e := by
  unfold shows
  rw [noting_step?, noting_respond]
  cases c.step? e with
  | none => rfl
  | some next =>
    simp only [Option.map_some, drop_metered_noting, unnoted_noting]
    rfl

/-- Consumers that differ in their notes show the same from then on. -/
private theorem shows_of_unnoted (same : c'.unnoted = c.unnoted) (events : List (Event β)) :
    Replay.gather Consumer.step? shows c' events = Replay.gather Consumer.step? shows c events ∧
    (Replay.after? Consumer.step? c' events).map unnoted =
      (Replay.after? Consumer.step? c events).map unnoted := by
  have plain (c : Consumer β) :
      Replay.gather Consumer.step? shows c events =
        Replay.gather Consumer.step? shows c.unnoted events ∧
      (Replay.after? Consumer.step? c events).map unnoted =
        (Replay.after? Consumer.step? c.unnoted events).map unnoted := by
    have shown := Replay.gather_map (noting_step? c.notes) (noting_shows c.notes) c.unnoted events
    have ran := Replay.after?_map (noting_step? c.notes) c.unnoted events
    rw [noting_unnoted] at shown ran
    refine ⟨shown, ?_⟩
    rw [ran, Option.map_map]
    rfl
  rw [(plain c').1, (plain c').2, (plain c).1, (plain c).2, same]
  exact ⟨rfl, rfl⟩

/-! ## Consumers at rest -/

private theorem errors_capacity_of_step? (orderly : c.Orderly) (stepped : c.step? e = some c') :
    c'.errors.capacity = c.errors.capacity := by
  cases orderly.happens stepped with
  | start off => exact (c.errors.slots_use .flush).2
  | @useErrors u => exact (c.errors.slots_use u).2
  | proceed advance =>
    obtain ⟨items, errors⟩ := advance.turn.reports
    rw [errors]
  | forward hop => cases hop <;> rfl
  | _ => rfl

private theorem errors_capacity_of_after? {settings : ConsumerSettings} {pool : PoolSettings}
    {events : List (Event β)} (created : create settings pool = .ok c₀)
    (ran : Replay.after? Consumer.step? c₀ events = some c) :
    c.errors.capacity = settings.errorBuffer.toNat := by
  refine (orderly_of_create created).induction
    (P := fun _ c => c.errors.capacity = settings.errorBuffer.toNat) ?_ ?_ ran
  · rw [create_eq_ok created]
    rfl
  · intro events middle event next orderly before same stepped
    exact (errors_capacity_of_step? orderly stepped).trans same

/-- What a start makes of a consumer that has stopped. -/
def restarted (c : Consumer β) : Consumer β :=
  { c.unnoted with
    parked := false, stopSignal := false, phase := .checking, started := true, running := true
    errors := c.errors.flush.2 }

private theorem unnoted_start (off : c.started = false) (parked : c.parked = true) :
    c.start.1 = .ok () ∧ c.start.2.unnoted = c.restarted := by
  rw [start_of_parked off parked]
  exact ⟨rfl, rfl⟩

private theorem shows_start (off : c.started = false) (parked : c.parked = true) :
    c.shows (.act .start) = [⟨.changed (.ok ()), [], [], c.restarted⟩] := by
  obtain ⟨accepted, started⟩ := unnoted_start off parked
  have launch : c.step? (.act .start) = some c.start.2 := rfl
  have uncounted : c.start.2.metered = c.metered := by
    rw [start_of_parked off parked]
    exact metered_log c.flushErrors.2 _
  simp only [shows, launch, Option.map_some, Option.toList_some, respond, accepted, called,
    uncounted, List.drop_length, started]

/-- A consumer that has stopped, with nothing in flight, no message left and no reader. -/
structure AtRest (c : Consumer β) : Prop where
  stopped : c.started = false
  none : c.inFlight = 0
  read : c.messages.items = []
  unread : c.messages.holder = .none ∧ c.messages.line = []
  unheard : c.errors.holder = .none ∧ c.errors.line = []

/-- At rest nothing tells a consumer from a new one that a start would not clear. -/
private theorem AtRest.restarted {settings : ConsumerSettings} {pool : PoolSettings}
    {events : List (Event β)} (rest : c.AtRest) (created : create settings pool = .ok c₀)
    (ran : Replay.after? Consumer.step? c₀ events = some c) : c.restarted = c₀.restarted := by
  have orderly := orderly_of_after? created ran
  have provided := provided_of_after? created ran
  have flowing := flowing_of_after? created ran
  obtain ⟨_, ledger⟩ := ledger_of_after? created ran
  obtain ⟨sameSettings, samePool⟩ := settings_of_after? created ran
  have unrequested : c.stopRequested = false := Control.Fits.unrequested orderly rest.stopped
  have unhurried : c.immediate = false := Control.Fits.unhurried orderly rest.stopped
  have dispatches : c.dispatches = [] := by
    have guards : c.inFlight = c.dispatches.length := ledger.inFlight
    rw [rest.none] at guards
    exact List.length_eq_zero_iff.mp guards.symm
  have allowance : c.allowance = .ofLimit settings.inFlightLimit := by
    refine Allowance.eq_ofLimit provided.permits ?_ rest.none
    by_contra reserved
    obtain ⟨channel, watching, streams⟩ := provided.reserves reserved
    have alive := orderly.started_eq
    rw [rest.stopped, streams] at alive
    exact absurd alive (by simp)
  have messages : c.messages = .ofCapacity settings.messageBuffer.toNat := by
    have tended := flowing.messages
    rw [dispatches] at tended
    rw [← provided.capacity]
    exact tended.eq_ofCapacity rest.read rest.unread.1 rest.unread.2
  have errors : c.errors.flush.2 = .ofCapacity settings.errorBuffer.toNat := by
    have flushed : c.errors.flush.2.items = [] := by
      rw [Queue.flush, rest.unheard.1]
      rfl
    have same : c.errors.flush.2.holder = c.errors.holder ∧
        c.errors.flush.2.line = c.errors.line := by
      unfold Queue.flush
      split <;> exact ⟨rfl, rfl⟩
    rw [← errors_capacity_of_after? created ran, ← (c.errors.slots_use .flush).2]
    exact (flowing.errors.use .flush).eq_ofCapacity flushed (same.1.trans rest.unheard.1)
      (same.2.trans rest.unheard.2)
  rw [create_eq_ok created]
  simp only [Consumer.restarted, unnoted, sameSettings, samePool, unrequested, unhurried,
    dispatches, allowance, messages, errors]
  rfl

/-- Whatever happened to a consumer, once it has stopped with nothing in flight, no message left and
no reader, a start succeeds and everything that shows from then on is as it would be with a new
consumer of the same settings: what calls return, what is asked of the source, what is counted, and
the consumer itself with its queues, but for notes that were not collected. -/
theorem restart_equals_fresh_start {settings : ConsumerSettings} {pool : PoolSettings}
    {events : List (Event β)} (created : create settings pool = .ok c₀)
    (ran : Replay.after? Consumer.step? c₀ events = some c) (rest : c.AtRest)
    (later : List (Event β)) :
    c.start.1 = .ok () ∧ c₀.start.1 = .ok () ∧
    Replay.gather Consumer.step? shows c (.act .start :: later) =
      Replay.gather Consumer.step? shows c₀ (.act .start :: later) ∧
    (Replay.after? Consumer.step? c (.act .start :: later)).map unnoted =
      (Replay.after? Consumer.step? c₀ (.act .start :: later)).map unnoted := by
  have parked := (orderly_of_after? created ran).parked_of_stopped rest.stopped
  have off₀ : c₀.started = false := by rw [create_eq_ok created]
  have parked₀ := (orderly_of_create created).parked_of_stopped off₀
  obtain ⟨accepted, started⟩ := unnoted_start rest.stopped parked
  obtain ⟨accepted₀, started₀⟩ := unnoted_start off₀ parked₀
  have same : c.start.2.unnoted = c₀.start.2.unnoted := by
    rw [started, started₀, rest.restarted created ran]
  obtain ⟨shown, ends⟩ := shows_of_unnoted same later
  have launch {c : Consumer β} : c.step? (.act .start) = some c.start.2 := rfl
  refine ⟨accepted, accepted₀, ?_, ends⟩
  rw [Replay.gather_cons shows later launch, Replay.gather_cons shows later launch, shown,
    shows_start rest.stopped parked, shows_start off₀ parked₀, rest.restarted created ran]

/-- No channel is to be had at first, the next one closes after a delivery, and a stop is repeated
while the loop is about to end, so that two errors and a signal are left over. -/
def restless : List (Event Nat) :=
  [.act .start, .proceed 0 .nothing, .proceed 0 (.leased (.error .closed)),
    .proceed 100000 .nothing, .proceed 100000 .nothing, .proceed 100000 (.leased (.ok ⟨1, 1⟩)),
    .proceed 100000 (.done (.ok ())),
    .proceed 100000 (.seen .quiet (.item ⟨1, 10, false, "", ""⟩)), .forward 0,
    .act (.use .messages .take), .proceed 100000 (.seen (.item ⟨320, ""⟩) .quiet),
    .proceed 100000 (.done (.ok ())), .act (.stop false), .proceed 100000 .nothing,
    .act (.stop true), .proceed 100000 .nothing, .proceed 100000 .nothing]

/-- A reader finds no error, and then the one of a new attempt. -/
def anew : List (Event Nat) :=
  [.act (.use .errors .take), .proceed 200000 .nothing, .proceed 200000 (.leased (.error .closed)),
    .act (.use .errors .take), .act (.stop false), .proceed 300000 .nothing,
    .proceed 300000 .nothing]

theorem restart_equals_fresh_start_restless : ∃ c₀ c : Consumer Nat,
    create .default .default = .ok c₀ ∧ Replay.after? Consumer.step? c₀ restless = some c ∧
    c.stopSignal = true ∧ c.errors.items.length = 2 ∧ c.AtRest ∧ c.start.1 = .ok () ∧
    (Replay.gather Consumer.step? shows c₀ (.act .start :: anew)).length = 8 ∧
    Replay.gather Consumer.step? shows c (.act .start :: anew) =
      Replay.gather Consumer.step? shows c₀ (.act .start :: anew) := by
  obtain ⟨c₀, created, rests, eight⟩ : ∃ c₀ : Consumer Nat, create .default .default = .ok c₀ ∧
      (Replay.after? Consumer.step? c₀ restless).any (fun c =>
        decide (c.stopSignal = true ∧ c.errors.items.length = 2 ∧ c.started = false ∧
          c.inFlight = 0 ∧ c.messages.items.length = 0 ∧ c.messages.holder = none ∧
          c.messages.line = [] ∧ c.errors.holder = none ∧ c.errors.line = [])) = true ∧
      (Replay.gather Consumer.step? shows c₀ (.act .start :: anew)).length = 8 :=
    ⟨_, rfl, by decide +kernel, by decide +kernel⟩
  simp only [Option.any_eq_true, decide_eq_true_eq] at rests
  obtain ⟨c, ran, pending, two, off, none, read, holder, line, holder', line'⟩ := rests
  have rest : c.AtRest :=
    ⟨off, none, List.length_eq_zero_iff.mp read, ⟨holder, line⟩, ⟨holder', line'⟩⟩
  obtain ⟨accepted, _, same, _⟩ := restart_equals_fresh_start created ran rest anew
  exact ⟨c₀, c, created, ran, pending, two, rest, accepted, eight, same⟩

end Consumer

end Intake
