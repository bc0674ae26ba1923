import Intake.Proofs.Consumer.StopSignal

/-! # A loop at work

A loop is at work from its launch until it takes a stop signal. Whatever its source answers and
whatever fails meanwhile, nothing else takes it out of its work.
-/

namespace Intake

namespace Consumer

variable {β : Type} {c c' s : Consumer β} {e : Event β}

/-- A loop takes a stop signal that a stop has sent, one that was accepted; until then the consumer
was started all the time. -/
def Obeyed (steps : List (Transition (Consumer β) (Event β))) : Prop :=
  ∃ before t after, steps = before ++ t :: after ∧ obeys t = true ∧
    (∀ u ∈ before, u.target.started = true) ∧
    ∃ u ∈ before, ∃ immediate, u.event = .act (.stop immediate) ∧
      (u.source.stop immediate).1 = .ok ()

/-- A step leaves a loop at work, or the loop takes a stop signal. -/
private theorem working_or_obeys (orderly : c.Orderly) (stepped : c.step? e = some c')
    (working : c.phase.stage = .working) :
    c'.phase.stage = .working ∨ obeys ⟨c, e, c'⟩ = true := by
  by_cases left : c'.phase.stage = .leaving
  · right
    refine obeys_of_leaving orderly stepped ?_ left
    rw [working]
    nofun
  · left
    cases orderly.happens stepped with
    | proceed advance =>
      obtain ⟨taken, turn⟩ := advance.exists_turn
      cases turn with
      | works before after alike => exact after
      | receives before silent => exact working
      | receivesLast before signal => exact absurd rfl left
      | obeys before signal after notParking alike => exact absurd after left
      | leaves before after alike hurried emptied => exact absurd after left
      | parks phase => cases working.symm.trans (congrArg Phase.stage phase)
    | forward hop => rw [hop.phase, working]
    | start off => rfl
    | _ => exact working

private theorem Orderly.started_of_working (orderly : c.Orderly)
    (working : c.phase.stage = .working) :
    c.started = true := by
  rw [orderly.started_eq, decide_eq_true_eq]
  intro idle
  rw [idle] at working
  cases working

private theorem signal_of_obeys {t : Transition (Consumer β) (Event β)} (took : obeys t = true) :
    t.source.stopSignal = true := by
  unfold obeys at took
  split at took
  · exact (Bool.and_eq_true_iff.mp took).1
  · cases took

/-- A stop that sends a signal is accepted. -/
private theorem accepted_of_sends (orderly : c.Orderly) (stepped : c.step? e = some c')
    (sent : sends ⟨c, e, c'⟩ = true) :
    ∃ immediate, e = .act (.stop immediate) ∧ (c.stop immediate).1 = .ok () := by
  unfold sends at sent
  split at sent
  · next immediate event =>
    refine ⟨immediate, event, ?_⟩
    cases on : c.started with
    | true => rw [stop_of_started on orderly.hasReceiver]
    | false =>
      have event : e = .act (.stop immediate) := event
      have same : c.perform (.stop immediate) = c' := by simpa [event, step?] using stepped
      rw [perform, stop_of_stopped on] at same
      simp [← same] at sent
  · cases sent

/-- From its launch a loop is at work until it takes a stop signal, whatever its source answers. -/
theorem working_or_obeyed {later : List (Event β)} (orderly : s.Orderly)
    (working : s.phase.stage = .working) (silent : s.stopSignal = false)
    (ran : Replay.after? Consumer.step? s later = some c) :
    c.started = true ∧ c.phase.stage = .working ∨
      Obeyed (Replay.transitions Consumer.step? s later) := by
  have both := orderly.induction
    (P := fun later c => (c.phase.stage = .working ∧
        ∀ u ∈ Replay.transitions Consumer.step? s later, u.target.started = true) ∨
      Obeyed (Replay.transitions Consumer.step? s later)) ?_ ?_ ran
  · obtain ⟨working, _⟩ | obeyed := both
    · exact .inl ⟨(orderly.after? ran).started_of_working working, working⟩
    · exact .inr obeyed
  · exact .inl ⟨working, by simp [Replay.transitions]⟩
  · intro events middle event next orderly' before earlier stepped
    rw [Replay.transitions_concat before stepped]
    obtain ⟨working, on⟩ | ⟨early, t, later, cut, took, on, stop⟩ := earlier
    · obtain working' | took := working_or_obeys orderly' stepped working
      · refine .inl ⟨working', fun u member => ?_⟩
        obtain member | rfl := List.mem_append.mp member |>.imp_right List.mem_singleton.mp
        · exact on u member
        · exact (orderly'.step? stepped).started_of_working working'
      · refine .inr ⟨_, _, [], rfl, took, on, ?_⟩
        obtain ⟨first, u, last, sentBy, sent, _⟩ :=
          sentIn_of_signal orderly silent before (signal_of_obeys took)
        obtain ⟨_, _, _, reached, _, stepped'⟩ := Replay.exists_of_transitions_eq sentBy
        refine ⟨u, by simp [sentBy], ?_⟩
        exact accepted_of_sends (orderly.after? reached) stepped' sent
    · refine .inr ⟨early, t, later ++ [⟨middle, event, next⟩], ?_, took, on, stop⟩
      rw [cut, List.append_assoc, List.cons_append]

end Consumer

end Intake
