import Mathlib.Data.List.Induction

/-! # Histories

A system is given by what an event makes of a state, where the event is possible at all. A history
is a list of events; this module replays it, keeps the steps it consists of, and carries facts
about one step over to whole histories.
-/

namespace Intake

/-- One step of a history: the state before it, the event and the state after it. -/
structure Transition (σ ε : Type) where
  source : σ
  event : ε
  target : σ

namespace Replay

variable {σ ε α : Type} {step? : σ → ε → Option σ}

/-- The state after a history, if each of its events was possible. -/
def after? (step? : σ → ε → Option σ) : σ → List ε → Option σ
  | s, [] => some s
  | s, event :: rest => (step? s event).bind fun next => after? step? next rest

/-- The steps of a history, in order. -/
def transitions (step? : σ → ε → Option σ) : σ → List ε → List (Transition σ ε)
  | _, [] => []
  | s, event :: rest =>
    match step? s event with
    | some next => ⟨s, event, next⟩ :: transitions step? next rest
    | none => []

/-- What is noted at each step of a history, in order. -/
def gather (step? : σ → ε → Option σ) (note : σ → ε → List α) (s : σ) (events : List ε) : List α :=
  (transitions step? s events).flatMap fun t => note t.source t.event

private theorem after?_append (s : σ) (first second : List ε) :
    after? step? s (first ++ second) =
      (after? step? s first).bind fun middle => after? step? middle second := by
  induction first generalizing s with
  | nil => rfl
  | cons event rest ih => simp only [List.cons_append, after?, ih, Option.bind_assoc]

theorem after?_append_of_eq {s middle : σ} {first : List ε} (second : List ε)
    (ran : after? step? s first = some middle) :
    after? step? s (first ++ second) = after? step? middle second := by
  rw [after?_append, ran, Option.bind_some]

/-- A history can be cut at any place. -/
private theorem after?_append_eq_some_iff {s last : σ} {first second : List ε} :
    after? step? s (first ++ second) = some last ↔
      ∃ middle, after? step? s first = some middle ∧ after? step? middle second = some last := by
  rw [after?_append, Option.bind_eq_some_iff]

theorem after?_concat_eq_some_iff {s last : σ} {events : List ε} {event : ε} :
    after? step? s (events ++ [event]) = some last ↔
      ∃ middle, after? step? s events = some middle ∧ step? middle event = some last := by
  simp only [after?_append_eq_some_iff, after?, Option.bind_fun_some]

theorem transitions_append {s middle : σ} {first : List ε} (second : List ε)
    (ran : after? step? s first = some middle) :
    transitions step? s (first ++ second) =
      transitions step? s first ++ transitions step? middle second := by
  induction first generalizing s with
  | nil =>
    cases ran
    rfl
  | cons event rest ih =>
    obtain ⟨next, stepped, tail⟩ := Option.bind_eq_some_iff.mp ran
    simp only [List.cons_append, transitions, stepped, ih tail]

theorem transitions_concat {s middle last : σ} {events : List ε} {event : ε}
    (ran : after? step? s events = some middle) (stepped : step? middle event = some last) :
    transitions step? s (events ++ [event]) =
      transitions step? s events ++ [⟨middle, event, last⟩] := by
  simp only [transitions_append [event] ran, transitions, stepped]

theorem gather_append (note : σ → ε → List α) {s middle : σ} {first : List ε} (second : List ε)
    (ran : after? step? s first = some middle) :
    gather step? note s (first ++ second) =
      gather step? note s first ++ gather step? note middle second := by
  simp only [gather, transitions_append second ran, List.flatMap_append]

theorem gather_concat (note : σ → ε → List α) {s middle last : σ} {events : List ε} {event : ε}
    (ran : after? step? s events = some middle) (stepped : step? middle event = some last) :
    gather step? note s (events ++ [event]) = gather step? note s events ++ note middle event := by
  simp only [gather, transitions_concat ran stepped, List.flatMap_append, List.flatMap_cons,
    List.flatMap_nil, List.append_nil]

theorem gather_cons (note : σ → ε → List α) {s next : σ} {event : ε} (rest : List ε)
    (stepped : step? s event = some next) :
    gather step? note s (event :: rest) = note s event ++ gather step? note next rest := by
  simp only [gather, transitions, stepped, List.flatMap_cons]

/-- What holds at the start and is carried over each step holds of every history. The property may
speak of the history up to the step. -/
theorem after?_induction {s : σ} {P : List ε → σ → Prop} (start : P [] s)
    (step : ∀ events middle event next, after? step? s events = some middle → P events middle →
      step? middle event = some next → P (events ++ [event]) next)
    {events : List ε} {last : σ} (ran : after? step? s events = some last) : P events last := by
  induction events using List.reverseRecOn generalizing last with
  | nil =>
    cases ran
    exact start
  | append_singleton events event ih =>
    obtain ⟨middle, before, stepped⟩ := after?_concat_eq_some_iff.mp ran
    exact step events middle event last before (ih before) stepped

/-- What each step preserves is preserved by every history. -/
theorem after?_preserves {P : σ → Prop}
    (step : ∀ s event next, P s → step? s event = some next → P next)
    {s last : σ} {events : List ε} (start : P s) (ran : after? step? s events = some last) :
    P last :=
  after?_induction (P := fun _ s => P s) start
    (fun _ middle event next _ holds stepped => step middle event next holds stepped) ran

/-- Each step of a history starts where the events before it lead. -/
theorem exists_of_transitions_eq {s : σ} {events : List ε} {before after : List (Transition σ ε)}
    {t : Transition σ ε} (cut : transitions step? s events = before ++ t :: after) :
    ∃ first second, events = first ++ t.event :: second ∧
      after? step? s first = some t.source ∧ transitions step? s first = before ∧
      step? t.source t.event = some t.target := by
  induction events generalizing s before with
  | nil => exact absurd cut (by simp [transitions])
  | cons event rest ih =>
    cases stepped : step? s event with
    | none => exact absurd cut (by simp [transitions, stepped])
    | some next =>
      simp only [transitions, stepped] at cut
      cases before with
      | nil =>
        cases cut
        exact ⟨[], rest, rfl, rfl, rfl, stepped⟩
      | cons first before =>
        obtain ⟨rfl, tail⟩ := List.cons.inj cut
        obtain ⟨events, second, rfl, reached, same, last⟩ := ih tail
        refine ⟨event :: events, second, rfl, ?_, ?_, last⟩
        · rw [after?, stepped, Option.bind_some, reached]
        · simp only [transitions, stepped, same]

/-- What is noted in the course of a history is noted at one of its steps. -/
theorem exists_of_gather_eq {note : σ → ε → List α} {s : σ} {events : List ε} {a : α}
    {before after : List α} (cut : gather step? note s events = before ++ a :: after) :
    ∃ first event middle next earlier later, after? step? s first = some middle ∧
      step? middle event = some next ∧ note middle event = earlier ++ a :: later ∧
      before = gather step? note s first ++ earlier := by
  induction events generalizing s before with
  | nil => exact absurd cut (by simp [gather, transitions])
  | cons event rest ih =>
    cases stepped : step? s event with
    | none => exact absurd cut (by simp [gather, transitions, stepped])
    | some next =>
      rw [gather_cons note rest stepped] at cut
      obtain ⟨others, same, tail⟩ | ⟨others, same, tail⟩ := List.append_eq_append_iff.mp cut
      · -- a later step
        obtain ⟨first, last, middle, next', earlier, later, reached, took, noted, same'⟩ := ih tail
        refine ⟨event :: first, last, middle, next', earlier, later, ?_, took, noted, ?_⟩
        · rw [after?, stepped, Option.bind_some, reached]
        · rw [gather_cons note first stepped, same, same', List.append_assoc]
      · cases others with
        | nil =>
          have rest_eq : gather step? note next rest = [] ++ a :: after := tail.symm
          obtain ⟨first, last, middle, next', earlier, later, reached, took, noted, same'⟩ :=
            ih rest_eq
          refine ⟨event :: first, last, middle, next', earlier, later, ?_, took, noted, ?_⟩
          · rw [after?, stepped, Option.bind_some, reached]
          · rw [gather_cons note first stepped, same, List.append_nil, List.append_assoc, ← same',
              List.append_nil]
        | cons b others =>
          obtain ⟨rfl, _⟩ := List.cons.inj tail
          exact ⟨[], event, s, next, before, others, rfl, stepped, same, rfl⟩

/-- The first steps of a history, as long as all of them have a property, are those of a history. -/
theorem exists_takeWhile (p : Transition σ ε → Bool) (s : σ) (events : List ε) :
    ∃ first last, after? step? s first = some last ∧
      transitions step? s first = (transitions step? s events).takeWhile p := by
  induction events generalizing s with
  | nil => exact ⟨[], s, rfl, rfl⟩
  | cons event rest ih =>
    cases stepped : step? s event with
    | none => exact ⟨[], s, rfl, by simp only [transitions, stepped, List.takeWhile_nil]⟩
    | some next =>
      by_cases holds : p ⟨s, event, next⟩ = true
      · obtain ⟨first, last, ran, same⟩ := ih next
        refine ⟨event :: first, last, ?_, ?_⟩
        · rw [after?, stepped, Option.bind_some, ran]
        · simp only [transitions, stepped, same, List.takeWhile_cons_of_pos holds]
      · refine ⟨[], s, rfl, ?_⟩
        simp only [transitions, stepped, List.takeWhile_cons_of_neg holds]

end Replay

end Intake
