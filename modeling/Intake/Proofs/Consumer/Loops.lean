import Intake.Proofs.Consumer.Lifecycle

/-! # One loop at a time

Loops are launched by accepted starts and end by their own last step. There is one exactly while
the consumer is started; `Since` cuts a history at its launch, so that one can speak of what
happened in the current run.
-/

namespace Intake

namespace Consumer

variable {β : Type} {c c' c₀ s : Consumer β}

/-- A loop is launched: a start is accepted. -/
def launched (t : Transition (Consumer β) (Event β)) : Bool :=
  match t.event with
  | .act .start => t.source.start.1.isOk
  | _ => false

/-- A loop takes its last step. -/
def ended (t : Transition (Consumer β) (Event β)) : Bool :=
  match t.event with
  | .proceed _ _ => t.target.phase = .idle
  | _ => false

private theorem phase_ne_idle_of_proceed? {now : Nat} {answer : Answer β}
    (stepped : c.proceed? now answer = some c') : c.phase ≠ .idle := by
  intro idle
  simp only [proceed?, idle, reduceCtorEq] at stepped

namespace Orderly

private theorem start_isOk (orderly : c.Orderly) : c.start.1.isOk = !c.started := by
  cases on : c.started with
  | true =>
    rw [start_of_started on]
    rfl
  | false =>
    rw [start_of_parked on (orderly.parked_of_stopped on)]
    rfl

/-- A step launches a loop, ends one, or leaves the consumer started or stopped as it is. -/
private theorem launched_add_started {e : Event β} (orderly : c.Orderly)
    (stepped : c.step? e = some c') :
    (launched ⟨c, e, c'⟩).toNat + c.started.toNat =
      (ended ⟨c, e, c'⟩).toNat + c'.started.toNat := by
  cases orderly.happens stepped with
  | startRefused on => simp [launched, ended, orderly.start_isOk, on]
  | start off => simp [launched, ended, orderly.start_isOk, off]
  | stopRefused off => rfl
  | stop on => rfl
  | flushStop parked => rfl
  | flushStopInVain unparked => rfl
  | useMessages => rfl
  | useErrors => rfl
  | proceed advance =>
    have before := phase_ne_idle_of_proceed? advance.proceed?_eq_some
    rw [orderly.started_eq, (orderly.turn advance.turn).started_eq]
    by_cases idle : c'.phase = .idle <;> simp [launched, ended, before, idle]
  | forward hop =>
    have same : c'.started = c.started := congrArg Control.started hop.control
    rw [same]
    rfl

/-- Only an accepted start makes a stopped consumer a started one. -/
private theorem launched_of_started {e : Event β} (orderly : c.Orderly)
    (stepped : c.step? e = some c')
    (off : c.started = false) (on : c'.started = true) : launched ⟨c, e, c'⟩ = true := by
  have balance := orderly.launched_add_started stepped
  rw [off, on, Bool.toNat_false, Bool.toNat_true] at balance
  cases launch : launched ⟨c, e, c'⟩ with
  | true => rfl
  | false =>
    rw [launch, Bool.toNat_false] at balance
    omega

private theorem not_ended {e : Event β} (orderly : c'.Orderly) (on : c'.started = true) :
    ended ⟨c, e, c'⟩ = false := by
  have alive := orderly.started_eq
  rw [on] at alive
  unfold ended
  split
  · simpa using alive
  · rfl

end Orderly

/-- Loops are launched and end one at a time. -/
private theorem countP_launched {events : List (Event β)} (orderly : c₀.Orderly)
    (off : c₀.started = false) (ran : Replay.after? Consumer.step? c₀ events = some c) :
    (Replay.transitions Consumer.step? c₀ events).countP launched =
      (Replay.transitions Consumer.step? c₀ events).countP ended + c.started.toNat := by
  refine orderly.induction
    (P := fun events c => (Replay.transitions Consumer.step? c₀ events).countP launched =
      (Replay.transitions Consumer.step? c₀ events).countP ended + c.started.toNat) ?_ ?_ ran
  · rw [off]
    rfl
  · intro events middle event next orderly' before counted stepped
    have step := orderly'.launched_add_started stepped
    rw [Replay.transitions_concat before stepped, List.countP_append, List.countP_append,
      List.countP_singleton, List.countP_singleton, counted]
    cases launch : launched ⟨middle, event, next⟩ <;> cases last : ended ⟨middle, event, next⟩ <;>
      simp only [launch, last, Bool.toNat_true, Bool.toNat_false, if_true, Bool.false_eq_true,
        if_false] at step ⊢ <;> omega

/-- The events since the launch of the loop that goes on at the end of a history, and the consumer
as it was launched. -/
structure Since (c₀ : Consumer β) (events : List (Event β)) (s : Consumer β)
    (later : List (Event β)) : Prop where
  launch : ∃ earlier resting, events = earlier ++ .act .start :: later ∧
    Replay.after? Consumer.step? c₀ earlier = some resting ∧ resting.start = (.ok (), s)
  goesOn : ∀ t ∈ Replay.transitions Consumer.step? s later, ended t = false

namespace Since

variable {events later : List (Event β)}

theorem after? (since : Since c₀ events s later)
    (ran : Replay.after? Consumer.step? c₀ events = some c) :
    Replay.after? Consumer.step? s later = some c := by
  obtain ⟨earlier, resting, rfl, reached, accepted⟩ := since.launch
  have tail := after?_act reached ran
  rw [perform, accepted] at tail
  exact tail

theorem orderly (since : Since c₀ events s later) (orderly : c₀.Orderly) : s.Orderly := by
  obtain ⟨earlier, resting, _, reached, accepted⟩ := since.launch
  have launched : resting.step? (.act .start) = some s := by
    rw [Consumer.step?, perform, accepted]
  exact (orderly.after? reached).step? launched

/-- A loop is launched without a stop signal and at its beginning. -/
theorem launched (since : Since c₀ events s later) (orderly : c₀.Orderly) :
    s.stopSignal = false ∧ s.phase = .checking ∧ s.immediate = false := by
  obtain ⟨earlier, resting, _, reached, accepted⟩ := since.launch
  have orderly' := orderly.after? reached
  have off := stopped_of_start (congrArg Prod.fst accepted)
  rw [start_of_parked off (orderly'.parked_of_stopped off)] at accepted
  cases accepted
  exact ⟨rfl, rfl, Control.Fits.unhurried orderly' off⟩

end Since

/-- The loop of a started consumer was launched at some time and has not ended since. -/
theorem exists_since {events : List (Event β)} (orderly : c₀.Orderly) (off : c₀.started = false)
    (ran : Replay.after? Consumer.step? c₀ events = some c) (on : c.started = true) :
    ∃ s later, Since c₀ events s later := by
  refine orderly.induction
    (P := fun events c => c.started = true → ∃ s later, Since c₀ events s later) ?_ ?_ ran on
  · intro on
    exact absurd (off.symm.trans on) Bool.false_ne_true
  · intro events middle event next orderly' before earlier stepped on
    cases still : middle.started with
    | true =>
      obtain ⟨s, later, since⟩ := earlier still
      obtain ⟨first, resting, rfl, reached, accepted⟩ := since.launch
      refine ⟨s, later ++ [event], ⟨first, resting, by simp, reached, accepted⟩, ?_⟩
      rw [Replay.transitions_concat (since.after? before) stepped]
      intro t member
      rw [List.mem_append, List.mem_singleton] at member
      obtain member | rfl := member
      · exact since.goesOn t member
      · exact (orderly'.step? stepped).not_ended on
    | false =>
      have launch := orderly'.launched_of_started stepped still on
      unfold launched at launch
      split at launch
      · next same =>
        cases same
        cases stepped
        have accepted : middle.start = (.ok (), middle.start.2) := by
          rw [start_of_parked still (orderly'.parked_of_stopped still)]
        exact ⟨_, [], ⟨events, middle, rfl, before, accepted⟩,
          fun _ member => absurd member List.not_mem_nil⟩
      · cases launch

/-- Whoever calls, and whatever the loop does in between: a consumer is started exactly while its
one loop goes on and holds the receiver of the stop signal. Only a stopped consumer can be started
and only a started one stopped; what is refused changes nothing. -/
theorem one_loop_while_started {settings : ConsumerSettings} {pool : PoolSettings}
    {events : List (Event β)} (created : create settings pool = .ok c₀)
    (ran : Replay.after? Consumer.step? c₀ events = some c) :
    (c.started = true ↔ c.parked = false) ∧ (c.started = true ↔ c.running = true) ∧
      (c.started = true ↔ c.phase ≠ .idle) ∧
      (Replay.transitions Consumer.step? c₀ events).countP launched =
        (Replay.transitions Consumer.step? c₀ events).countP ended +
          (if c.started then 1 else 0) ∧
      (c.stopRequested = true → c.started = true) ∧
      (c.start.1 = .ok () ↔ c.started = false) ∧
      (∀ immediate, (c.stop immediate).1 = .ok () ↔ c.started = true) ∧
      (∀ fault, c.start.1 = .error fault → fault = .alreadyStarted ∧ c.start.2 = c) ∧
      (∀ immediate fault, (c.stop immediate).1 = .error fault →
        fault = .notStarted ∧ (c.stop immediate).2 = c) ∧
      ¬(c.started = false ∧ c.parked = false) := by
  have orderly := orderly_of_after? created ran
  have parked : c.parked = !c.started := orderly.parked
  have running : c.running = c.started := orderly.running
  have loops := countP_launched (orderly_of_create created) (by rw [create_eq_ok created]) ran
  refine ⟨by simp [parked], by simp [running], by simp [orderly.started_eq], ?_,
    fun requested => (orderly.requested.mp requested).1, ?_, ?_, ?_, ?_, by simp [parked]⟩
  · rw [loops]
    cases c.started <;> rfl
  · cases on : c.started with
    | true => simp [start_of_started on]
    | false => simp [start_of_parked on (orderly.parked_of_stopped on)]
  · intro immediate
    cases on : c.started with
    | true => simp [stop_of_started on orderly.hasReceiver]
    | false => simp [stop_of_stopped on]
  · intro fault refused
    cases on : c.started with
    | true =>
      rw [start_of_started on] at refused ⊢
      exact ⟨(Except.error.inj refused).symm, rfl⟩
    | false =>
      rw [start_of_parked on (orderly.parked_of_stopped on)] at refused
      cases refused
  · intro immediate fault refused
    cases on : c.started with
    | true =>
      rw [stop_of_started on orderly.hasReceiver] at refused
      cases refused
    | false =>
      rw [stop_of_stopped on] at refused ⊢
      exact ⟨(Except.error.inj refused).symm, rfl⟩

/-- A second start is refused, two stops end one loop, and then a start launches the next. -/
def restart : List (Event Nat) :=
  [.act .start, .act .start, .act (.stop false), .proceed 0 .nothing, .act (.stop true),
    .proceed 0 .nothing, .proceed 0 .nothing, .act .start]

theorem one_loop_while_started_restart :
    ∃ c₀ c : Consumer Nat, create .default .default = .ok c₀ ∧
      Replay.after? Consumer.step? c₀ restart = some c ∧ c.started = true ∧ c.phase ≠ .idle ∧
      (Replay.transitions Consumer.step? c₀ restart).countP launched =
        (Replay.transitions Consumer.step? c₀ restart).countP ended +
          (if c.started then 1 else 0) :=
  ⟨_, _, rfl, rfl, rfl,
    (@one_loop_while_started Nat _ _ .default .default restart rfl rfl).2.2.1.mp rfl,
    (@one_loop_while_started Nat _ _ .default .default restart rfl rfl).2.2.2.1⟩

end Consumer

end Intake
