import Intake.Proofs.Consumer.Loops

/-! # The stop signal

There is room for one stop signal. It is sent by a stop, taken by the loop at one of three places,
and may be sent again while the loop is on its way out. A request stands until its loop ends, and
a loop takes only signals that were sent after it was launched.
-/

namespace Intake

namespace Consumer

variable {β : Type} {c c' c₀ s : Consumer β}

/-- A stop sends a signal where none was pending. -/
def sends (t : Transition (Consumer β) (Event β)) : Bool :=
  match t.event with
  | .act (.stop _) => !t.source.stopSignal && t.target.stopSignal
  | _ => false

/-- The loop takes the pending signal. -/
def obeys (t : Transition (Consumer β) (Event β)) : Bool :=
  match t.event with
  | .proceed _ _ => t.source.stopSignal && !t.target.stopSignal
  | _ => false

/-- A signal was sent in the course of some steps, and has been pending since. -/
def SentIn (steps : List (Transition (Consumer β) (Event β))) : Prop :=
  ∃ before t after, steps = before ++ t :: after ∧ sends t = true ∧
    ∀ later ∈ after, later.target.stopSignal = true

/-! ## One step -/

/-- A signal is pending after a step only if it was before, or the step sent it. -/
private theorem sends_of_signal {e : Event β} (orderly : c.Orderly) (stepped : c.step? e = some c')
    (silent : c.stopSignal = false) (signal : c'.stopSignal = true) :
    sends ⟨c, e, c'⟩ = true := by
  have absent (same : c'.stopSignal = c.stopSignal) : sends ⟨c, e, c'⟩ = true :=
    absurd (silent.symm.trans (same.symm.trans signal)) Bool.false_ne_true
  cases orderly.happens stepped with
  | startRefused on => exact absent rfl
  | start off => cases signal
  | stopRefused off => exact absent rfl
  | stop on => simp [sends, silent, log]
  | flushStop parked => cases signal
  | flushStopInVain unparked => exact absent rfl
  | useMessages => exact absent rfl
  | useErrors => exact absent rfl
  | proceed advance =>
    obtain ⟨taken, turn⟩ := advance.exists_turn
    cases turn with
    | works before after alike => exact absent alike.stopSignal
    | receives before silent => exact absent (receive_stopSignal ..)
    | receivesLast before pending => exact absurd (silent.symm.trans pending) Bool.false_ne_true
    | obeys before pending after notParking alike =>
      exact absurd (silent.symm.trans pending) Bool.false_ne_true
    | leaves before after alike hurried emptied => exact absent alike.stopSignal
    | parks phase => exact absent rfl
  | forward hop => exact absent (congrArg Control.stopSignal hop.control)

/-- A loop begins to leave only by taking a signal. -/
theorem obeys_of_leaving {e : Event β} (orderly : c.Orderly) (stepped : c.step? e = some c')
    (stays : c.phase.stage ≠ .leaving) (leaving : c'.phase.stage = .leaving) :
    obeys ⟨c, e, c'⟩ = true := by
  have absent (same : c'.phase = c.phase) : obeys ⟨c, e, c'⟩ = true :=
    absurd (same ▸ leaving) stays
  cases orderly.happens stepped with
  | startRefused on => exact absent rfl
  | start off => cases leaving
  | stopRefused off => exact absent rfl
  | stop on => exact absent rfl
  | flushStop parked => exact absent rfl
  | flushStopInVain unparked => exact absent rfl
  | useMessages => exact absent rfl
  | useErrors => exact absent rfl
  | proceed advance =>
    obtain ⟨taken, turn⟩ := advance.exists_turn
    cases turn with
    | works before after alike => exact absurd (after.symm.trans leaving) nofun
    | receives before silent => exact absent (receive_phase ..)
    | receivesLast before signal => simp [obeys, signal, takeStop]
    | obeys before signal after notParking alike =>
      have gone : c'.stopSignal = false := alike.stopSignal
      simp [obeys, signal, gone]
    | leaves before after alike hurried emptied => exact absurd before stays
    | parks phase => cases leaving
  | forward hop => exact absent hop.phase

/-! ## Histories -/

/-- A signal that is pending was sent, if none was at the start. -/
theorem sentIn_of_signal {events : List (Event β)} (orderly : s.Orderly)
    (silent : s.stopSignal = false) (ran : Replay.after? Consumer.step? s events = some c)
    (signal : c.stopSignal = true) : SentIn (Replay.transitions Consumer.step? s events) := by
  refine orderly.induction
    (P := fun events c => c.stopSignal = true →
      SentIn (Replay.transitions Consumer.step? s events)) ?_ ?_ ran signal
  · intro signal
    exact absurd (silent.symm.trans signal) Bool.false_ne_true
  · intro events middle event next orderly' before sent stepped signal
    rw [Replay.transitions_concat before stepped]
    cases pending : middle.stopSignal with
    | false =>
      have sent := sends_of_signal orderly' stepped pending signal
      refine ⟨_, ⟨middle, event, next⟩, [], rfl, sent, ?_⟩
      intro later member
      exact absurd member List.not_mem_nil
    | true =>
      obtain ⟨earlier, t, later, same, sends, since⟩ := sent pending
      refine ⟨earlier, t, later ++ [⟨middle, event, next⟩], ?_, sends, ?_⟩
      · rw [same, List.append_assoc, List.cons_append]
      · intro u member
        rw [List.mem_append, List.mem_singleton] at member
        obtain member | rfl := member
        · exact since u member
        · exact signal

/-- A loop that leaves has taken a signal, if it did not leave at the start. -/
private theorem exists_obeys_of_leaving {events : List (Event β)} (orderly : s.Orderly)
    (stays : s.phase.stage ≠ .leaving) (ran : Replay.after? Consumer.step? s events = some c)
    (leaving : c.phase.stage = .leaving) :
    ∃ t ∈ Replay.transitions Consumer.step? s events, obeys t = true := by
  refine orderly.induction
    (P := fun events c => c.phase.stage = .leaving →
      ∃ t ∈ Replay.transitions Consumer.step? s events, obeys t = true) ?_ ?_ ran leaving
  · intro leaving
    exact absurd leaving stays
  · intro events middle event next orderly' before obeyed stepped leaving
    rw [Replay.transitions_concat before stepped]
    by_cases left : middle.phase.stage = .leaving
    · obtain ⟨t, member, took⟩ := obeyed left
      exact ⟨t, List.mem_append_left _ member, took⟩
    · have took := obeys_of_leaving orderly' stepped left leaving
      exact ⟨⟨middle, event, next⟩, List.mem_append_right _ (List.mem_singleton_self _), took⟩

/-- A request stands as long as the loop goes on. -/
theorem stopRequested_of_not_ended {events : List (Event β)} (orderly : s.Orderly)
    (on : s.started = true) (requested : s.stopRequested = true)
    (ran : Replay.after? Consumer.step? s events = some c)
    (goesOn : ∀ t ∈ Replay.transitions Consumer.step? s events, ended t = false) :
    c.started = true ∧ c.stopRequested = true := by
  refine orderly.induction
    (P := fun events c => (∀ t ∈ Replay.transitions Consumer.step? s events, ended t = false) →
      c.started = true ∧ c.stopRequested = true) ?_ ?_ ran goesOn
  · intro _
    exact ⟨on, requested⟩
  · intro events middle event next orderly' before holds stepped goesOn
    rw [Replay.transitions_concat before stepped] at goesOn
    obtain ⟨on, requested⟩ := holds fun t member => goesOn t (List.mem_append_left _ member)
    have last := goesOn ⟨middle, event, next⟩ (by simp)
    cases orderly'.happens stepped with
    | startRefused => exact ⟨on, requested⟩
    | start off => exact absurd (off.symm.trans on) Bool.false_ne_true
    | stopRefused off => exact ⟨on, requested⟩
    | stop => exact ⟨on, rfl⟩
    | flushStop parked => exact ⟨on, requested⟩
    | flushStopInVain unparked => exact ⟨on, requested⟩
    | useMessages => exact ⟨on, requested⟩
    | useErrors => exact ⟨on, requested⟩
    | proceed advance =>
      have control := advance.turn.control (by simpa [ended] using last)
      have same := Control.mk.inj control
      exact ⟨same.1.trans on, same.2.1.trans requested⟩
    | forward hop =>
      have same := Control.mk.inj hop.control
      exact ⟨same.1.trans on, same.2.1.trans requested⟩

/-- An accepted stop is never lost: until the loop ends its signal is pending, or the loop has
taken one and is on its way out. It never leaks into a later run: a loop takes no signal that was
sent before its launch. Dropping pending signals changes nothing while a loop goes on, and a signal
always has a receiver. -/
theorem stop_reaches_its_loop {settings : ConsumerSettings} {pool : PoolSettings}
    {events : List (Event β)} (created : create settings pool = .ok c₀)
    (ran : Replay.after? Consumer.step? c₀ events = some c) :
    c.hasReceiver = true ∧
    (c.started = true → c.flushStop = c) ∧
    (∀ earlier later immediate running, events = earlier ++ .act (.stop immediate) :: later →
      Replay.after? Consumer.step? c₀ earlier = some running →
      (running.stop immediate).1 = .ok () →
      (∀ t ∈ Replay.transitions Consumer.step? (running.stop immediate).2 later,
        ended t = false) →
      c.started = true ∧ c.stopRequested = true) ∧
    (c.started = true → ∃ s later, Since c₀ events s later ∧
      (c.stopRequested = true → c.stopSignal = true ∨ c.phase.stage = .leaving ∧
        ∃ t ∈ Replay.transitions Consumer.step? s later, obeys t = true) ∧
      ∀ before t after, Replay.transitions Consumer.step? s later = before ++ t :: after →
        obeys t = true → SentIn before) := by
  have orderly₀ := orderly_of_create created
  have orderly := orderly₀.after? ran
  refine ⟨orderly.hasReceiver, ?_, ?_, ?_⟩
  · intro on
    have parked : c.parked = !c.started := orderly.parked
    rw [flushStop, parked, on]
    rfl
  · intro earlier later immediate running same reached accepted goesOn
    subst same
    have orderly' := orderly₀.after? reached
    have on := started_of_stop accepted
    have stopped : (running.stop immediate).2.started = true ∧
        (running.stop immediate).2.stopRequested = true := by
      rw [stop_of_started on orderly'.hasReceiver]
      exact ⟨on, rfl⟩
    exact stopRequested_of_not_ended (orderly'.step? (e := .act (.stop immediate)) rfl)
      stopped.1 stopped.2 (after?_act reached ran) goesOn
  · intro on
    obtain ⟨s, later, since⟩ := exists_since orderly₀ (by rw [create_eq_ok created]) ran on
    have orderly' := since.orderly orderly₀
    obtain ⟨silent, phase, _⟩ := since.launched orderly₀
    have stays : s.phase.stage ≠ .leaving := by
      rw [phase]
      decide
    refine ⟨s, later, since, ?_, ?_⟩
    · intro requested
      apply (orderly.requested.mp requested).2.imp id
      intro leaving
      exact ⟨leaving, exists_obeys_of_leaving orderly' stays (since.after? ran) leaving⟩
    · intro before t after cut took
      obtain ⟨first, second, _, source, rfl, _⟩ := Replay.exists_of_transitions_eq cut
      have pending : t.source.stopSignal = true := by
        unfold obeys at took
        split at took
        · exact (Bool.and_eq_true_iff.mp took).1
        · cases took
      exact sentIn_of_signal orderly' silent source pending

/-- A stop is repeated while the loop drains, so that a signal is left over when it ends; the next
loop is launched and asked to stop. -/
def stopAgain : List (Event Nat) :=
  [.act .start, .act (.stop false), .proceed 0 .nothing, .act (.stop true), .proceed 0 .nothing,
    .proceed 0 .nothing, .act .start, .proceed 0 .nothing, .act (.stop false), .act .flushStop]

theorem stop_reaches_its_loop_again :
    ∃ c₀ c : Consumer Nat, create .default .default = .ok c₀ ∧
      Replay.after? Consumer.step? c₀ stopAgain = some c ∧ c.started = true ∧
      c.stopRequested = true ∧ c.hasReceiver = true ∧ c.flushStop = c ∧
      ∃ s later, Since c₀ stopAgain s later ∧
        ∀ before t after, Replay.transitions Consumer.step? s later = before ++ t :: after →
          obeys t = true → SentIn before := by
  refine ⟨_, _, rfl, rfl, rfl, rfl, ?_⟩
  obtain ⟨receiver, flushed, _, current⟩ :=
    @stop_reaches_its_loop Nat _ _ .default .default stopAgain rfl rfl
  obtain ⟨s, later, since, _, fresh⟩ := current rfl
  exact ⟨receiver, flushed rfl, s, later, since, fresh⟩

end Consumer

end Intake
