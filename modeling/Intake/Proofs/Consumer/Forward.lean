import Intake.Proofs.Consumer.Frame

/-! # The steps of dispatched deliveries

`Consumer.Hop` lists what a dispatched delivery can do in one step: put its message in the slot it
was granted or in a free one, or join the line for a slot.
-/

namespace Intake

namespace Consumer

variable {β : Type} {c c' : Consumer β} {number : Nat}

inductive Hop (c : Consumer β) (number : Nat) : Consumer β → Prop
  | fill {d : Dispatch β} (found : c.dispatch? number = some d)
      (granted : number ∈ c.messages.granted) :
      Hop c number (c.arrived number (c.messages.fill number d.message))
  | push {d : Dispatch β} {messages : Queue (Message β)} (found : c.dispatch? number = some d)
      (notGranted : number ∉ c.messages.granted) (notWaiting : number ∉ c.messages.waiting)
      (room : c.messages.push? d.message = some messages) : Hop c number (c.arrived number messages)
  | await {d : Dispatch β} (found : c.dispatch? number = some d)
      (notGranted : number ∉ c.messages.granted) (notWaiting : number ∉ c.messages.waiting)
      (full : c.messages.push? d.message = none) :
      Hop c number { c with messages := c.messages.await number }

namespace Hop

theorem of_forward? (forwarded : c.forward? number = some c') : Hop c number c' := by
  obtain ⟨d, found, forwarded⟩ := Option.bind_eq_some_iff.mp forwarded
  split at forwarded
  · next granted =>
    cases forwarded
    exact .fill found granted
  · next notGranted =>
    split at forwarded
    · cases forwarded
    · next notWaiting =>
      split at forwarded
      · next room =>
        cases forwarded
        exact .push found notGranted notWaiting room
      · next full =>
        cases forwarded
        exact .await found notGranted notWaiting full

theorem control (hop : Hop c number c') : c'.control = c.control := by
  cases hop <;> rfl

theorem phase (hop : Hop c number c') : c'.phase = c.phase := by
  cases hop <;> rfl

theorem settings (hop : Hop c number c') : c'.settings = c.settings := by
  cases hop <;> rfl

end Hop

theorem exists_of_forward? (forwarded : c.forward? number = some c') :
    ∃ d ∈ c.dispatches, d.number = number := by
  obtain ⟨d, found, _⟩ := Option.bind_eq_some_iff.mp forwarded
  exact ⟨d, List.mem_of_find?_eq_some found, by simpa using List.find?_some found⟩

/-- If all dispatched deliveries have to wait there is no other that can go on. -/
theorem blocked_of_dispatches (waits : ∀ d ∈ c.dispatches, c.forward? d.number = none)
    (number : Nat) : c.forward? number = none := by
  cases forwarded : c.forward? number with
  | none => rfl
  | some c' =>
    obtain ⟨d, member, rfl⟩ := exists_of_forward? forwarded
    exact absurd ((waits d member).symm.trans forwarded) nofun

/-- A dispatched delivery that has to wait is in line for a slot. -/
theorem waiting_of_forward? {d : Dispatch β} (found : c.dispatch? number = some d)
    (blocked : c.forward? number = none) :
    number ∉ c.messages.granted ∧ number ∈ c.messages.waiting := by
  simp only [forward?, found, Option.bind_some] at blocked
  split at blocked
  · cases blocked
  · next notGranted =>
    split at blocked
    · next waiting => exact ⟨notGranted, waiting⟩
    · split at blocked <;> cases blocked

end Consumer

end Intake
