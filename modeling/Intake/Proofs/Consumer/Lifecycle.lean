import Intake.Proofs.Consumer.Forward
import Intake.Proofs.Consumer.Turn
import Mathlib.Tactic.ByContra

/-! # The life of a consumer

The flags of a consumer, the receiver of the stop signal and the loop are changed in several
places, by calls and by the loop itself. `Control.Fits` says how they hang together; every event
keeps it so, whoever makes the calls and in whatever order.
-/

namespace Intake

/-- The flags agree with each other and with the stage of the loop. A stop is requested exactly if
its signal is on its way or the loop has taken one. -/
structure Control.Fits (k : Control) (stage : Phase.Stage) : Prop where
  alive : k.started = true ↔ stage ≠ .off
  parked : k.parked = !k.started
  running : k.running = k.started
  requested : k.stopRequested = true ↔
    k.started = true ∧ (k.stopSignal = true ∨ stage = .leaving)
  hurried : k.immediate = true → k.stopRequested = true

namespace Control.Fits

variable {k : Control} {stage : Phase.Stage}

theorem unrequested (fits : k.Fits stage) (off : k.started = false) : k.stopRequested = false := by
  apply Bool.eq_false_iff.mpr
  intro requested
  have on := (fits.requested.mp requested).1
  exact Bool.false_ne_true (off.symm.trans on)

theorem unhurried (fits : k.Fits stage) (off : k.started = false) : k.immediate = false := by
  apply Bool.eq_false_iff.mpr
  intro hurried
  have requested := fits.hurried hurried
  exact Bool.false_ne_true ((fits.unrequested off).symm.trans requested)

private theorem start (fits : k.Fits stage) (off : k.started = false) :
    Fits { k with started := true, parked := false, running := true, stopSignal := false }
      .working where
  alive := by simp
  parked := rfl
  running := rfl
  requested := by simp [fits.unrequested off]
  hurried := fits.hurried

private theorem stop (fits : k.Fits stage) (on : k.started = true) (immediate : Bool) :
    Fits { k with immediate, stopRequested := true, stopSignal := true } stage where
  alive := fits.alive
  parked := fits.parked
  running := fits.running
  requested := by simp [on]
  hurried := fun _ => rfl

private theorem flushStop (fits : k.Fits stage) (parked : k.parked = true) :
    Fits { k with stopSignal := false } stage := by
  have off : k.started = false := by simpa [parked] using fits.parked
  exact {
    alive := fits.alive
    parked := fits.parked
    running := fits.running
    requested := by simp [fits.unrequested off, off]
    hurried := fits.hurried }

/-- The loop takes a stop signal. -/
private theorem obey (fits : k.Fits .working) (signal : k.stopSignal = true) :
    Fits { k with stopSignal := false } .leaving := by
  have on : k.started = true := fits.alive.mpr nofun
  exact {
    alive := by simp [on]
    parked := fits.parked
    running := fits.running
    requested := by simp [fits.requested, on, signal]
    hurried := fits.hurried }

private theorem park (k : Control) :
    Fits { k with
      started := false, stopRequested := false, immediate := false, parked := true
      running := false } .off where
  alive := by simp
  parked := rfl
  running := rfl
  requested := by simp
  hurried := nofun

end Control.Fits

namespace Consumer

variable {β : Type} {c c' c₀ s : Consumer β}

/-- The flags of the consumer fit the stage of its loop. -/
def Orderly (c : Consumer β) : Prop := c.control.Fits c.phase.stage

/-! ## Calls -/

theorem start_of_started (on : c.started = true) : c.start = (.error .alreadyStarted, c) :=
  if_pos on

theorem start_of_parked (off : c.started = false) (parked : c.parked = true) :
    c.start = (.ok (), { c.flushErrors.2.log
      (.starting c.settings.queue c.settings.name c.flushErrors.1) with
        parked := false, stopSignal := false, phase := .checking, started := true
        running := true }) := by
  have parked' : c.flushErrors.2.parked = true := parked
  simp only [start, off, Bool.false_eq_true, if_false, parked', if_true]
  rfl

theorem stop_of_stopped (off : c.started = false) (immediate : Bool) :
    c.stop immediate = (.error .notStarted, c) := by
  simp only [stop, off, Bool.false_eq_true, if_false]

/-- An accepted stop leaves a signal, whether or not one was there. -/
theorem stop_of_started (on : c.started = true) (receiver : c.hasReceiver = true)
    (immediate : Bool) :
    c.stop immediate = (.ok (),
      { c with immediate, stopRequested := true, stopSignal := true }.log
        (if c.stopSignal then .stopPending else .stopRequested c.settings.queue immediate)) := by
  have noReceiver : ¬(!{ c with immediate, stopRequested := true }.hasReceiver) = true := by
    change ¬(!c.hasReceiver) = true
    rw [receiver]
    exact Bool.false_ne_true
  unfold stop
  rw [if_pos on]
  dsimp only
  rw [if_neg noReceiver]
  cases signal : c.stopSignal with
  | true =>
    simp only [if_true]
  | false => rfl

theorem stopped_of_start (accepted : c.start.1 = .ok ()) : c.started = false := by
  apply Bool.eq_false_iff.mpr
  intro on
  rw [start_of_started on] at accepted
  cases accepted

theorem started_of_stop {immediate : Bool} (accepted : (c.stop immediate).1 = .ok ()) :
    c.started = true := by
  by_contra off
  rw [stop_of_stopped (Bool.eq_false_iff.mpr off)] at accepted
  cases accepted

namespace Orderly

theorem parked_of_stopped (orderly : c.Orderly) (off : c.started = false) : c.parked = true := by
  have parked : c.parked = !c.started := orderly.parked
  rw [parked, off]
  rfl

theorem started_eq (orderly : c.Orderly) : c.started = decide (c.phase ≠ .idle) := by
  have alive : c.started = true ↔ c.phase.stage ≠ .off := orderly.alive
  rw [ne_eq, Phase.stage_eq_off_iff] at alive
  exact Bool.eq_iff_iff.mpr (by simpa using alive)

theorem hasReceiver (orderly : c.Orderly) : c.hasReceiver = true := by
  unfold Consumer.hasReceiver
  cases on : c.started with
  | false =>
    rw [orderly.parked_of_stopped on]
    rfl
  | true =>
    have alive := orderly.alive.mp on
    have notIdle : c.phase ≠ .idle := fun idle => alive (Phase.stage_eq_off_iff.mpr idle)
    simp [notIdle]

end Orderly

/-! ## Events -/

/-- What an event makes of a consumer whose flags are in order. -/
inductive Happens (c : Consumer β) : Event β → Consumer β → Prop
  | startRefused (on : c.started = true) : Happens c (.act .start) c
  | start (off : c.started = false) : Happens c (.act .start)
      { c.flushErrors.2.log (.starting c.settings.queue c.settings.name c.flushErrors.1) with
        parked := false, stopSignal := false, phase := .checking, started := true
        running := true }
  | stopRefused {immediate : Bool} (off : c.started = false) :
      Happens c (.act (.stop immediate)) c
  | stop {immediate : Bool} (on : c.started = true) : Happens c (.act (.stop immediate))
      ({ c with immediate, stopRequested := true, stopSignal := true }.log
        (if c.stopSignal then .stopPending else .stopRequested c.settings.queue immediate))
  | flushStop (parked : c.parked = true) :
      Happens c (.act .flushStop) { c with stopSignal := false }
  | flushStopInVain (unparked : c.parked = false) : Happens c (.act .flushStop) c
  | useMessages {u : Queue.Use} :
      Happens c (.act (.use .messages u)) { c with messages := c.messages.use u }
  | useErrors {u : Queue.Use} :
      Happens c (.act (.use .errors u)) { c with errors := c.errors.use u }
  | proceed {now : Nat} {answer : Answer β} {c' : Consumer β} (advance : Advance c now answer c') :
      Happens c (.proceed now answer) c'
  | forward {number : Nat} {c' : Consumer β} (hop : Hop c number c') :
      Happens c (.forward number) c'

theorem Orderly.happens {e : Event β} (orderly : c.Orderly) (stepped : c.step? e = some c') :
    Happens c e c' := by
  cases e with
  | act a =>
    cases stepped
    cases a with
    | start =>
      cases on : c.started with
      | true =>
        rw [perform, start_of_started on]
        exact .startRefused on
      | false =>
        rw [perform, start_of_parked on (orderly.parked_of_stopped on)]
        exact .start on
    | stop immediate =>
      cases on : c.started with
      | true =>
        rw [perform, stop_of_started on orderly.hasReceiver]
        exact .stop on
      | false =>
        rw [perform, stop_of_stopped on]
        exact .stopRefused on
    | flushStop =>
      rw [perform, Consumer.flushStop]
      by_cases parked : c.parked = true
      · rw [if_pos parked]
        exact .flushStop parked
      · rw [if_neg parked]
        exact .flushStopInVain (Bool.eq_false_iff.mpr parked)
    | use side u =>
      cases side with
      | messages =>
        rw [perform_use_messages]
        exact .useMessages
      | errors =>
        rw [perform_use_errors]
        exact .useErrors
  | proceed now answer => exact .proceed (.of_proceed? stepped)
  | forward number => exact .forward (.of_forward? stepped)

namespace Orderly

theorem turn {taken : List (Channel × Delivery β)} (orderly : c.Orderly)
    (turn : Turn c taken c') : c'.Orderly := by
  unfold Orderly at orderly ⊢
  cases turn with
  | works before after alike =>
    rw [alike.control, after, ← before]
    exact orderly
  | receives before silent =>
    rw [receive_control, receive_phase]
    exact orderly
  | receivesLast before signal =>
    rw [before] at orderly
    rw [takeStop_control, receive_control]
    exact orderly.obey signal
  | obeys before signal after notParking alike =>
    rw [before] at orderly
    rw [alike.control, after]
    exact orderly.obey signal
  | leaves before after alike hurried emptied =>
    rw [alike.control, after, ← before]
    exact orderly
  | parks phase => exact .park c.control

/-- Every event keeps the flags in order. -/
theorem step? {e : Event β} (orderly : c.Orderly) (stepped : c.step? e = some c') :
    c'.Orderly := by
  cases orderly.happens stepped with
  | startRefused on => exact orderly
  | start off => exact Control.Fits.start orderly off
  | stopRefused off => exact orderly
  | stop on => exact Control.Fits.stop orderly on _
  | flushStop parked => exact Control.Fits.flushStop orderly parked
  | flushStopInVain unparked => exact orderly
  | useMessages => exact orderly
  | useErrors => exact orderly
  | proceed advance => exact orderly.turn advance.turn
  | forward hop =>
    rw [Orderly, hop.control, hop.phase]
    exact orderly

end Orderly

theorem Orderly.after? {events : List (Event β)} (orderly : c₀.Orderly)
    (ran : Replay.after? Consumer.step? c₀ events = some c) : c.Orderly :=
  Replay.after?_preserves (fun _ _ _ orderly stepped => orderly.step? stepped) orderly ran

/-- A history that goes on after an act. -/
theorem after?_act {earlier later : List (Event β)} {a : Act}
    (reached : Replay.after? Consumer.step? c₀ earlier = some c)
    (ran : Replay.after? Consumer.step? c₀ (earlier ++ .act a :: later) = some c') :
    Replay.after? Consumer.step? (c.perform a) later = some c' := by
  rw [Replay.after?_append_of_eq _ reached] at ran
  exact ran

/-- Induction over the history of a consumer whose flags are in order all the time. -/
theorem Orderly.induction {P : List (Event β) → Consumer β → Prop} (orderly : c₀.Orderly)
    (start : P [] c₀)
    (step : ∀ events middle event next, middle.Orderly →
      Replay.after? Consumer.step? c₀ events = some middle → P events middle →
      middle.step? event = some next → P (events ++ [event]) next)
    {events : List (Event β)} (ran : Replay.after? Consumer.step? c₀ events = some c) :
    P events c :=
  Replay.after?_induction start
    (fun events middle event next before holds stepped =>
      step events middle event next (orderly.after? before) before holds stepped) ran

theorem orderly_of_create {settings : ConsumerSettings} {pool : PoolSettings}
    (created : create settings pool = .ok c₀) : c₀.Orderly := by
  rw [create_eq_ok created]
  exact .park ⟨false, false, false, true, false, false⟩

/-- Whatever happened, the flags fit the stage of the loop. -/
theorem orderly_of_after? {settings : ConsumerSettings} {pool : PoolSettings}
    {events : List (Event β)} (created : create settings pool = .ok c₀)
    (ran : Replay.after? Consumer.step? c₀ events = some c) : c.Orderly :=
  (orderly_of_create created).after? ran

end Consumer

end Intake
