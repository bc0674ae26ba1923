import Intake.Proofs.Consumer.Conservation
import Intake.Proofs.Consumer.Loops

/-! # Graceful stops

A loop that was never told to hurry waits, on its way out, until nothing is in flight. When it
reports its end every delivery that was ever taken is on the queue, whichever run it was taken in.
-/

namespace Intake

namespace Consumer

variable {β : Type} {c c' c₀ s : Consumer β} {e : Event β}

/-- A stop is accepted that does not want to wait for deliveries in flight. -/
def hurries (t : Transition (Consumer β) (Event β)) : Bool :=
  match t.event with
  | .act (.stop immediate) => immediate && (t.source.stop immediate).1.isOk
  | _ => false

/-- Nothing is in flight when the loop is about to report a graceful end. -/
def Emptied (c : Consumer β) : Prop := c.phase = .parking false → c.inFlight = 0

/-- The loop was not told to hurry, and does not. -/
def Calm (c : Consumer β) : Prop := c.immediate = false ∧ c.phase ≠ .parking true

private theorem phase_ne_parking {immediate : Bool} (stage : c.phase.stage ≠ .leaving) :
    c.phase ≠ .parking immediate := by
  intro parking
  rw [parking] at stage
  exact stage rfl

private theorem Hop.inFlight_le {number : Nat} (hop : Hop c number c') :
    c'.inFlight ≤ c.inFlight := by
  cases hop with
  | fill found granted =>
    rw [inFlight_arrived]
    exact Nat.sub_le _ _
  | push found notGranted notWaiting room =>
    rw [inFlight_arrived]
    exact Nat.sub_le _ _
  | await found notGranted notWaiting full => exact Nat.le_refl _

/-! ## One step -/

private theorem emptied_of_turn {taken : List (Channel × Delivery β)} (turn : Turn c taken c') :
    c'.Emptied := by
  intro parking
  cases turn with
  | works before after alike =>
    exact absurd parking (phase_ne_parking (by rw [after]; exact nofun))
  | receives before silent =>
    rw [receive_phase] at parking
    exact absurd parking (phase_ne_parking (by rw [before]; exact nofun))
  | receivesLast before signal => cases parking
  | obeys before signal after notParking alike => exact absurd parking (notParking false)
  | leaves before after alike hurried gone =>
    rw [alike.inFlight]
    exact gone parking
  | parks phase => cases parking

private theorem Emptied.step? (orderly : c.Orderly) (emptied : c.Emptied)
    (stepped : c.step? e = some c') : c'.Emptied := by
  cases orderly.happens stepped with
  | startRefused on => exact emptied
  | start off => exact nofun
  | stopRefused off => exact emptied
  | stop on => exact emptied
  | flushStop parked => exact emptied
  | flushStopInVain unparked => exact emptied
  | useMessages => exact emptied
  | useErrors => exact emptied
  | proceed advance => exact emptied_of_turn advance.turn
  | forward hop =>
    intro parking
    have before := emptied (hop.phase ▸ parking)
    have fewer := hop.inFlight_le
    omega

private theorem Calm.turn {taken : List (Channel × Delivery β)} (calm : c.Calm)
    (turn : Turn c taken c') : c'.Calm := by
  obtain ⟨patient, notParking⟩ := calm
  cases turn with
  | works before after alike =>
    exact ⟨alike.immediate.trans patient, phase_ne_parking (by rw [after]; exact nofun)⟩
  | @receives channel d before silent =>
    have control := receive_control c channel d
    refine ⟨(congrArg Control.immediate control).trans patient, ?_⟩
    rw [receive_phase]
    exact notParking
  | @receivesLast channel d before signal =>
    have control := receive_control c channel d
    exact ⟨(congrArg Control.immediate control).trans patient, nofun⟩
  | obeys before signal after never alike => exact ⟨alike.immediate.trans patient, never true⟩
  | leaves before after alike hurried gone =>
    refine ⟨alike.immediate.trans patient, ?_⟩
    intro parking
    exact Bool.false_ne_true (patient.symm.trans (hurried parking))
  | parks phase => exact ⟨rfl, nofun⟩

private theorem Calm.step? (orderly : c.Orderly) (calm : c.Calm) (stepped : c.step? e = some c')
    (graceful : hurries ⟨c, e, c'⟩ = false) : c'.Calm := by
  cases orderly.happens stepped with
  | startRefused on => exact calm
  | start off => exact ⟨calm.1, nofun⟩
  | stopRefused off => exact calm
  | @stop immediate on =>
    have accepted : (c.stop immediate).1.isOk = true := by
      rw [stop_of_started on orderly.hasReceiver]
      rfl
    simp only [hurries, accepted, Bool.and_true] at graceful
    exact ⟨graceful, calm.2⟩
  | flushStop parked => exact calm
  | flushStopInVain unparked => exact calm
  | useMessages => exact calm
  | useErrors => exact calm
  | proceed advance => exact calm.turn advance.turn
  | forward hop =>
    refine ⟨(congrArg Control.immediate hop.control).trans calm.1, ?_⟩
    rw [hop.phase]
    exact calm.2

/-- A consumer is stopped by the last step of its loop only. -/
private theorem parks_of_stopped (orderly : c.Orderly) (stepped : c.step? e = some c')
    (on : c.started = true) (off : c'.started = false) :
    ∃ immediate, c.phase = .parking immediate ∧ c' = c.park immediate := by
  have absent {P : Prop} (same : c'.started = c.started) : P :=
    absurd (off.symm.trans (same.trans on)) Bool.false_ne_true
  cases orderly.happens stepped with
  | startRefused _ => exact absent rfl
  | start _ => exact absurd off nofun
  | stopRefused _ => exact absent rfl
  | stop _ => exact absent rfl
  | flushStop parked => exact absent rfl
  | flushStopInVain unparked => exact absent rfl
  | useMessages => exact absent rfl
  | useErrors => exact absent rfl
  | proceed advance =>
    obtain ⟨taken, turn⟩ := advance.exists_turn
    cases turn with
    | works before after alike => exact absent alike.started
    | @receives channel d before silent =>
      have control := receive_control c channel d
      exact absent (congrArg Control.started control)
    | @receivesLast channel d before signal =>
      have control := receive_control c channel d
      exact absent (congrArg Control.started control)
    | obeys before signal after notParking alike => exact absent alike.started
    | leaves before after alike hurried gone => exact absent alike.started
    | @parks immediate phase => exact ⟨immediate, phase, rfl⟩
  | forward hop => exact absent (congrArg Control.started hop.control)

/-! ## Histories -/

private theorem emptied_of_after? {events : List (Event β)} (orderly : c₀.Orderly)
    (emptied : c₀.Emptied) (ran : Replay.after? Consumer.step? c₀ events = some c) : c.Emptied :=
  orderly.induction (P := fun _ c => c.Emptied) emptied
    (fun _ _ _ _ orderly _ emptied stepped => emptied.step? orderly stepped) ran

private theorem calm_of_after? {events : List (Event β)} (orderly : s.Orderly) (calm : s.Calm)
    (ran : Replay.after? Consumer.step? s events = some c)
    (graceful : ∀ t ∈ Replay.transitions Consumer.step? s events, hurries t = false) :
    c.Calm := by
  refine orderly.induction
    (P := fun events c =>
      (∀ t ∈ Replay.transitions Consumer.step? s events, hurries t = false) → c.Calm)
    ?_ ?_ ran graceful
  · intro _
    exact calm
  · intro events middle event next orderly' before earlier stepped graceful
    rw [Replay.transitions_concat before stepped] at graceful
    have calm := earlier fun t member => graceful t (List.mem_append_left _ member)
    exact calm.step? orderly' stepped (graceful _ (by simp))

/-- If no stop since the launch of a loop wanted to hurry, nothing is in flight at the step that
makes the consumer a stopped one, and every delivery that was ever taken is on the queue by then,
those of earlier runs included. -/
theorem graceful_stop_drains {settings : ConsumerSettings} {pool : PoolSettings}
    {events later : List (Event β)} (created : create settings pool = .ok c₀)
    (ran : Replay.after? Consumer.step? c₀ events = some c) (since : Since c₀ events s later)
    (graceful : ∀ t ∈ Replay.transitions Consumer.step? s later, hurries t = false)
    (stepped : c.step? e = some c') (on : c.started = true) (off : c'.started = false) :
    c'.running = false ∧ c'.inFlight = 0 ∧ c'.dispatches = [] ∧
      ((Replay.gather Consumer.step? taken c₀ (events ++ [e])).map settings.message).Perm
        (Replay.gather Consumer.step? enqueued c₀ (events ++ [e])) := by
  have orderly₀ := orderly_of_create created
  have orderly := orderly₀.after? ran
  obtain ⟨immediate, parking, rfl⟩ := parks_of_stopped orderly stepped on off
  have calm : c.Calm := by
    obtain ⟨_, phase, patient⟩ := since.launched orderly₀
    have fresh : s.Calm := ⟨patient, by rw [phase]; exact nofun⟩
    exact calm_of_after? (since.orderly orderly₀) fresh (since.after? ran) graceful
  have emptied : c.Emptied := by
    refine emptied_of_after? orderly₀ ?_ ran
    rw [create_eq_ok created]
    exact nofun
  have patient : immediate = false := by
    cases immediate with
    | false => rfl
    | true => exact absurd parking calm.2
  rw [patient] at parking
  have none : (c.park immediate).inFlight = 0 := emptied parking
  obtain ⟨_, ledger⟩ := ledger_of_after? created
    (Replay.after?_concat_eq_some_iff.mpr ⟨c, ran, stepped⟩)
  have length : (c.park immediate).inFlight = (c.park immediate).dispatches.length :=
    ledger.inFlight
  have gone : (c.park immediate).dispatches = [] := List.length_eq_zero_iff.mp (by omega)
  have dispatched := ledger.dispatched
  dsimp only [load] at dispatched
  rw [gone] at dispatched
  exact ⟨rfl, none, gone, dispatched⟩

/-- A run that is stopped at once while a delivery is in flight. -/
def hurriedRun : List (Event Nat) :=
  [.act .start, .proceed 0 .nothing, .proceed 0 (.leased (.ok ⟨1, 1⟩)), .proceed 0 (.done (.ok ())),
    .proceed 0 (.seen .quiet (.item ⟨1, 10, false, "", ""⟩)), .act (.stop true),
    .proceed 0 (.seen .quiet .quiet), .proceed 0 (.done (.ok ())), .proceed 0 .nothing,
    .proceed 0 .nothing]

/-- A run that takes a second delivery together with the signal to stop. -/
def gracefulRun : List (Event Nat) :=
  [.proceed 0 .nothing, .proceed 0 (.leased (.ok ⟨2, 2⟩)), .proceed 0 (.done (.ok ())),
    .act (.stop false), .proceed 0 (.seen .quiet (.item ⟨1, 20, false, "", ""⟩)),
    .proceed 0 (.done (.ok ())), .proceed 0 .nothing, .forward 1, .forward 0, .proceed 0 .nothing]

theorem graceful_stop_drains_left_over :
    ∃ c₀ c c' s : Consumer Nat, create .default .default = .ok c₀ ∧
      Replay.after? Consumer.step? c₀ (hurriedRun ++ .act .start :: gracefulRun) = some c ∧
      Since c₀ (hurriedRun ++ .act .start :: gracefulRun) s gracefulRun ∧
      c.step? (.proceed 0 .nothing) = some c' ∧ c.started = true ∧ c'.started = false ∧
      c'.running = false ∧ c'.inFlight = 0 ∧
      ((Replay.gather Consumer.step? taken c₀
        (hurriedRun ++ .act .start :: gracefulRun ++ [.proceed 0 .nothing])).map
          ConsumerSettings.default.message).Perm
        (Replay.gather Consumer.step? enqueued c₀
          (hurriedRun ++ .act .start :: gracefulRun ++ [.proceed 0 .nothing])) := by
  obtain ⟨c₀, created, launches, stops⟩ : ∃ c₀ : Consumer Nat,
      create .default .default = .ok c₀ ∧
      (Replay.after? Consumer.step? c₀ hurriedRun).any (fun resting =>
        !resting.started && resting.parked &&
        (Replay.transitions Consumer.step? resting.start.2 gracefulRun).all fun t =>
          !ended t && !hurries t) = true ∧
      (Replay.after? Consumer.step? c₀ (hurriedRun ++ .act .start :: gracefulRun)).any (fun c =>
        c.started && (c.step? (.proceed 0 .nothing)).any fun c' => !c'.started) = true :=
    ⟨_, rfl, by decide +kernel, by decide +kernel⟩
  simp only [Option.any_eq_true, Bool.and_eq_true, Bool.not_eq_true', List.all_eq_true]
    at launches stops
  obtain ⟨resting, reached, ⟨off, parked⟩, course⟩ := launches
  obtain ⟨c, ran, on, c', stepped, stopped⟩ := stops
  have accepted : resting.start = (.ok (), resting.start.2) := by
    rw [start_of_parked off parked]
  have since : Since c₀ (hurriedRun ++ .act .start :: gracefulRun) resting.start.2 gracefulRun :=
    ⟨⟨hurriedRun, resting, rfl, reached, accepted⟩, fun t member => (course t member).1⟩
  obtain ⟨idle, none, _, queued⟩ := graceful_stop_drains created ran since
    (fun t member => (course t member).2) stepped on stopped
  exact ⟨c₀, c, c', _, created, ran, since, stepped, on, stopped, idle, none, queued⟩

end Consumer

end Intake
