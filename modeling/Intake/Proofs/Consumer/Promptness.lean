import Intake.Proofs.Consumer.StopSignal
import Mathlib.Data.List.TakeWhile

/-! # How soon a stop is seen

A loop that receives looks for a delivery before it looks for a stop signal, so a stop could be held
up by a busy channel. It is not: right after a delivery the loop looks for the signal. Wherever the
loop is when it is asked to stop, it takes one more delivery at most until it leaves.
-/

namespace Intake

namespace Consumer

variable {β : Type} {c c' c₀ s : Consumer β}

/-- One if the loop has taken a stop signal, else zero. -/
def leaving (c : Consumer β) : Nat := if c.phase.stage = .leaving then 1 else 0

/-- The steps of the loop that goes on at the start, without its last one. -/
def untilEnd (steps : List (Transition (Consumer β) (Event β))) :
    List (Transition (Consumer β) (Event β)) := steps.takeWhile (!ended ·)

private theorem leaving_congr (same : c'.phase = c.phase) : c'.leaving = c.leaving := by
  rw [leaving, leaving, same]

/-- A loop that has a signal to take leaves with the next delivery. -/
private theorem Turn.taken_le {taken : List (Channel × Delivery β)} (turn : Turn c taken c')
    (pending : c.phase.stage = .working → c.stopSignal = true) (goesOn : c'.phase ≠ .idle) :
    taken.length + c.leaving ≤ c'.leaving := by
  cases turn with
  | works before after alike => simp [leaving, before]
  | receives before silent => exact absurd (silent.symm.trans (pending before)) Bool.false_ne_true
  | @receivesLast channel d before signal =>
    have left : ((c.receive channel d).takeStop channel).leaving = 1 := rfl
    rw [left]
    simp [leaving, before]
  | obeys before signal after notParking alike => simp [leaving, before]
  | leaves before after alike hurried emptied => simp [leaving, before, after]
  | parks phase => exact absurd rfl goesOn

/-- Once a stop is requested, a delivery is taken only in the step in which the loop turns to
leave. -/
private theorem Orderly.taken_le {e : Event β} (orderly : c.Orderly)
    (requested : c.stopRequested = true)
    (stepped : c.step? e = some c') (goesOn : ended ⟨c, e, c'⟩ = false) :
    (c.taken e).length + c.leaving ≤ c'.leaving := by
  have rests (taken : c.taken e = []) (same : c'.phase = c.phase) :
      (c.taken e).length + c.leaving ≤ c'.leaving := by
    rw [taken, leaving_congr same, List.length_nil, Nat.zero_add]
  have on : c.started = true := (orderly.requested.mp requested).1
  cases orderly.happens stepped with
  | startRefused => exact rests rfl rfl
  | start off => exact absurd (off.symm.trans on) Bool.false_ne_true
  | stopRefused off => exact rests rfl rfl
  | stop => exact rests rfl rfl
  | flushStop parked => exact rests rfl rfl
  | flushStopInVain unparked => exact rests rfl rfl
  | useMessages => exact rests rfl rfl
  | useErrors => exact rests rfl rfl
  | proceed advance =>
    refine advance.turn.taken_le ?_ (by simpa [ended] using goesOn)
    intro working
    refine (orderly.requested.mp requested).2.resolve_right ?_
    rw [working]
    simp
  | forward hop => exact rests rfl hop.phase

/-- The same for a whole run: until the loop ends it takes one delivery at most, and none if it had
taken a signal before. -/
private theorem taken_le {events : List (Event β)} (orderly : s.Orderly)
    (requested : s.stopRequested = true) (ran : Replay.after? Consumer.step? s events = some c)
    (goesOn : ∀ t ∈ Replay.transitions Consumer.step? s events, ended t = false) :
    (Replay.gather Consumer.step? taken s events).length + s.leaving ≤ c.leaving := by
  refine orderly.induction
    (P := fun events c => (∀ t ∈ Replay.transitions Consumer.step? s events, ended t = false) →
      (Replay.gather Consumer.step? taken s events).length + s.leaving ≤ c.leaving) ?_ ?_ ran goesOn
  · intro _
    exact Nat.le_of_eq (Nat.zero_add _)
  · intro events middle event next orderly' before earlier stepped goesOn
    rw [Replay.transitions_concat before stepped] at goesOn
    have still : ∀ t ∈ Replay.transitions Consumer.step? s events, ended t = false :=
      fun t member => goesOn t (List.mem_append_left _ member)
    have on := (orderly.requested.mp requested).1
    have asked := (stopRequested_of_not_ended orderly on requested before still).2
    have one := orderly'.taken_le asked stepped (goesOn _ (by simp))
    have few := earlier still
    rw [Replay.gather_concat taken before stepped, List.length_append]
    omega

private theorem leaving_le_one (c : Consumer β) : c.leaving ≤ 1 := by
  unfold leaving
  split <;> decide

/-- The loop takes nothing in its last step. -/
private theorem Turn.taken_of_idle {taken : List (Channel × Delivery β)} (turn : Turn c taken c')
    (idle : c'.phase = .idle) : taken = [] := by
  cases turn with
  | receives before silent =>
    rw [receive_phase] at idle
    rw [idle] at before
    cases before
  | receivesLast before signal => cases idle
  | _ => rfl

private theorem taken_of_ended {e : Event β} (stepped : c.step? e = some c')
    (last : ended ⟨c, e, c'⟩ = true) : c.taken e = [] := by
  cases e with
  | act a => rfl
  | forward number => rfl
  | proceed now answer =>
    exact (Advance.of_proceed? stepped).turn.taken_of_idle (by simpa [ended] using last)

/-- Whatever the source answers and whoever calls, a busy channel cannot hold up a stop: from the
time it is accepted until the loop ends the loop takes one delivery at most, on whatever channel,
and none if it had taken an earlier signal already. -/
theorem one_delivery_after_stop {settings : ConsumerSettings} {pool : PoolSettings}
    {earlier : List (Event β)} {running : Consumer β} {immediate : Bool}
    (created : create settings pool = .ok c₀)
    (reached : Replay.after? Consumer.step? c₀ earlier = some running)
    (accepted : (running.stop immediate).1 = .ok ()) (later : List (Event β)) :
    let steps := Replay.transitions Consumer.step? (running.stop immediate).2 later
    let got := (untilEnd steps).flatMap fun t => t.source.taken t.event
    got.length ≤ 1 ∧ (running.phase.stage = .leaving → got = []) ∧
      ∀ t ∈ steps, ended t = true → t.source.taken t.event = [] := by
  intro steps got
  have orderly := orderly_of_after? created reached
  have on := started_of_stop accepted
  have asked : (running.stop immediate).2.stopRequested = true ∧
      (running.stop immediate).2.leaving = running.leaving := by
    rw [stop_of_started on orderly.hasReceiver]
    exact ⟨rfl, rfl⟩
  -- the steps until the end of the loop are a history of their own, in which no loop ends
  obtain ⟨first, last, ran, cut⟩ := @Replay.exists_takeWhile _ _ Consumer.step? (!ended ·)
    (running.stop immediate).2 later
  have goesOn : ∀ t ∈ Replay.transitions Consumer.step? (running.stop immediate).2 first,
      ended t = false := by
    intro t member
    rw [cut] at member
    simpa using List.mem_takeWhile_imp member
  have orderly' : (running.stop immediate).2.Orderly :=
    orderly.step? (e := .act (.stop immediate)) rfl
  have same : Replay.gather Consumer.step? taken (running.stop immediate).2 first = got := by
    rw [Replay.gather, cut]
    rfl
  have few := taken_le orderly' asked.1 ran goesOn
  rw [same, asked.2] at few
  have one := leaving_le_one last
  refine ⟨by omega, ?_, ?_⟩
  · intro left
    rw [leaving, if_pos left] at few
    exact List.length_eq_zero_iff.mp (by omega)
  · intro t member ends
    obtain ⟨before, after, cut⟩ := List.append_of_mem member
    obtain ⟨_, _, _, _, _, stepped⟩ := Replay.exists_of_transitions_eq cut
    exact taken_of_ended stepped ends

/-- The loop is asked to stop while it waits for its channel. -/
def asksForChannel : List (Event Nat) := [.act .start, .proceed 0 .nothing]

/-- A delivery is ready whenever the loop looks, on the new channel and in the next run. -/
def busyChannel : List (Event Nat) :=
  [.proceed 0 (.leased (.ok ⟨1, 1⟩)), .proceed 0 (.done (.ok ())),
    .proceed 0 (.seen .over (.item ⟨1, 10, false, "", ""⟩)),
    .proceed 0 (.seen .quiet (.item ⟨1, 10, false, "", ""⟩)), .proceed 0 (.done (.ok ())),
    .proceed 0 .nothing, .forward 0, .proceed 0 .nothing, .proceed 0 .nothing, .act .start,
    .proceed 0 .nothing, .proceed 0 (.leased (.ok ⟨2, 2⟩)), .proceed 0 (.done (.ok ())),
    .proceed 0 (.seen .quiet (.item ⟨2, 20, false, "", ""⟩))]

theorem one_delivery_after_stop_busy : ∃ c₀ running : Consumer Nat,
    create .default .default = .ok c₀ ∧
    Replay.after? Consumer.step? c₀ asksForChannel = some running ∧
    (running.stop false).1 = .ok () ∧
    (Replay.gather Consumer.step? taken (running.stop false).2 busyChannel).length = 2 ∧
    ((untilEnd (Replay.transitions Consumer.step? (running.stop false).2 busyChannel)).flatMap
      fun t => t.source.taken t.event).length ≤ 1 := by
  refine ⟨_, _, rfl, rfl, rfl, by decide +kernel, ?_⟩
  exact (@one_delivery_after_stop Nat _ .default .default asksForChannel _ false rfl rfl rfl
    busyChannel).1

end Consumer

end Intake
