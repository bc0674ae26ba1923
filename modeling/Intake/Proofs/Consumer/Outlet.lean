import Intake.Proofs.Consumer.Capacity
import Intake.Proofs.Queue.Order

/-! # The queue of messages in use

Dispatched deliveries are the senders of the queue of messages, and whoever holds the consumer
reads it. So what `Queue.readers_in_order` says holds of the messages of a consumer.
-/

namespace Intake

namespace Consumer

open Replay

variable {β : Type} {c c' c₀ : Consumer β} {e : Event β}

/-- What an event does with the queue of messages. -/
def outlet (c : Consumer β) : Event β → List (Queue.Event (Message β))
  | .act (.use .messages u) => [.use u]
  | .forward number =>
    ((c.dispatch? number).map fun d => Queue.Event.send number d.message).toList
  | .act _ | .proceed _ _ => []

/-- The queue of messages sees one event, which puts in and takes out the messages that the consumer
queues and lets go. -/
private theorem outlet_of_hop {number : Nat} (isOpen : c.messages.isOpen = true)
    (hop : Hop c number c') : ∃ d, c.dispatch? number = some d ∧
      c.messages.step? (.send number d.message) = some c'.messages := by
  cases hop with
  | @fill d found granted =>
    refine ⟨d, found, ?_⟩
    rw [Queue.step?, if_pos isOpen, if_pos granted]
    rfl
  | @push d messages found notGranted notWaiting room =>
    refine ⟨d, found, ?_⟩
    rw [Queue.step?, if_pos isOpen, if_neg notGranted, if_neg notWaiting, room]
    rfl
  | @await d found notGranted notWaiting full =>
    refine ⟨d, found, ?_⟩
    rw [Queue.step?, if_pos isOpen, if_neg notGranted, if_neg notWaiting, full]
    rfl

/-- An event does nothing else with the queue of messages. -/
theorem outlet_of_step? (orderly : c.Orderly) (flowing : c.Flowing)
    (stepped : c.step? e = some c') :
    after? Queue.step? c.messages (c.outlet e) = some c'.messages ∧
      gather Queue.step? Queue.put c.messages (c.outlet e) = c.enqueued e ∧
      gather Queue.step? Queue.removed c.messages (c.outlet e) = c.departed e := by
  cases orderly.happens stepped with
  | startRefused on => exact ⟨rfl, rfl, rfl⟩
  | start off => exact ⟨rfl, rfl, rfl⟩
  | stopRefused off => exact ⟨rfl, rfl, rfl⟩
  | stop on => exact ⟨rfl, rfl, rfl⟩
  | flushStop parked => exact ⟨rfl, rfl, rfl⟩
  | flushStopInVain unparked => exact ⟨rfl, rfl, rfl⟩
  | useMessages => exact ⟨rfl, rfl, List.append_nil _⟩
  | useErrors => exact ⟨rfl, rfl, rfl⟩
  | proceed advance => exact ⟨congrArg some advance.turn.messages.1.symm, rfl, rfl⟩
  | @forward number _ hop =>
    obtain ⟨d, found, sent⟩ := outlet_of_hop flowing.messages.isOpen hop
    have one : c.outlet (.forward number) = [.send number d.message] := by
      rw [outlet, found]
      rfl
    have items := Queue.items_send sent
    rw [one]
    refine ⟨?_, ?_, ?_⟩
    · rw [after?, sent]
      rfl
    · rw [gather_cons _ _ sent, enqueued_of_forward? stepped items]
      exact List.append_nil _
    · rw [gather_cons _ _ sent]
      rfl

/-- The queue of messages of a consumer has a history of its own: the messages it queues are put in
and those it lets go are taken out. -/
theorem exists_outlet {settings : ConsumerSettings} {pool : PoolSettings} {events : List (Event β)}
    (created : create settings pool = .ok c₀) (ran : after? Consumer.step? c₀ events = some c) :
    ∃ uses, after? Queue.step? (.ofCapacity settings.messageBuffer.toNat) uses = some c.messages ∧
      gather Queue.step? Queue.put (.ofCapacity settings.messageBuffer.toNat) uses =
        gather Consumer.step? enqueued c₀ events ∧
      gather Queue.step? Queue.removed (.ofCapacity settings.messageBuffer.toNat) uses =
        gather Consumer.step? departed c₀ events := by
  refine (orderly_of_create created).induction (P := fun events c => ∃ uses,
    after? Queue.step? (.ofCapacity settings.messageBuffer.toNat) uses = some c.messages ∧
      gather Queue.step? Queue.put (.ofCapacity settings.messageBuffer.toNat) uses =
        gather Consumer.step? enqueued c₀ events ∧
      gather Queue.step? Queue.removed (.ofCapacity settings.messageBuffer.toNat) uses =
        gather Consumer.step? departed c₀ events) ?_ ?_ ran
  · refine ⟨[], ?_, rfl, rfl⟩
    rw [create_eq_ok created]
    rfl
  · intro events middle event next orderly before ih stepped
    obtain ⟨uses, reached, came, went⟩ := ih
    have flowing := flowing_of_after? created before
    obtain ⟨later, comes, goes⟩ := outlet_of_step? orderly flowing stepped
    refine ⟨uses ++ middle.outlet event, ?_, ?_, ?_⟩
    · rw [after?_append_of_eq _ reached, later]
    · rw [gather_concat enqueued before stepped, ← came, ← comes, gather, gather, gather,
        transitions_append _ reached, List.flatMap_append]
    · rw [gather_concat departed before stepped, ← went, ← goes, gather, gather, gather,
        transitions_append _ reached, List.flatMap_append]

end Consumer

end Intake
