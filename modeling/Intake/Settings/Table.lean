import Intake.Json.Record
import Intake.Settings.Basic

/-!
# The table of settings

Each setting has a field in documents, a variable in the environment and a place in its record.
One table names them all, so that both ways of loading agree on what there is and on its range.
-/

namespace Intake

/-- Where a setting is kept, and what kind of value it takes. -/
inductive Slot (σ : Type) where
  | flag (get : σ → Bool) (set : Bool → σ → σ)
  /-- A text; `needed` says that the environment has to give it. -/
  | text (needed : Bool) (get : σ → String) (set : String → σ → σ)
  /-- A whole number of so many bits; documents name its type by `title`. -/
  | number (title : String) (bits : Nat) (get : σ → Nat) (set : Nat → σ → σ)

/-- One setting of a record. -/
structure Setting (σ : Type) where
  field : String
  variableName : String
  slot : Slot σ

namespace ConsumerSettings

/-- The settings of a consumer, but for its arguments, in their order. -/
def table : List (Setting ConsumerSettings) := [
  ⟨"Enabled", "AMQP_CONSUMER_ENABLED",
    .flag (·.enabled) fun b s => { s with enabled := b }⟩,
  ⟨"QueueName", "AMQP_QUEUE_NAME",
    .text true (·.queue) fun t s => { s with queue := t }⟩,
  ⟨"ConsumerName", "AMQP_CONSUMER_NAME",
    .text false (·.name) fun t s => { s with name := t }⟩,
  ⟨"AutoAck", "AMQP_AUTO_ACK",
    .flag (·.autoAck) fun b s => { s with autoAck := b }⟩,
  ⟨"Exclusive", "AMQP_EXCLUSIVE",
    .flag (·.exclusive) fun b s => { s with exclusive := b }⟩,
  ⟨"NoWait", "AMQP_NO_WAIT",
    .flag (·.noWait) fun b s => { s with noWait := b }⟩,
  ⟨"NoLocal", "AMQP_NO_LOCAL",
    .flag (·.noLocal) fun b s => { s with noLocal := b }⟩,
  ⟨"QosCountOverride", "AMQP_QOS_COUNT",
    .number "u16" 16 (·.prefetchCount.toNat) fun n s => { s with prefetchCount := .ofNat n }⟩,
  ⟨"QosSizeOverride", "AMQP_QOS_SIZE",
    .number "u32" 32 (·.prefetchSize.toNat) fun n s => { s with prefetchSize := .ofNat n }⟩,
  ⟨"MessageBuffer", "AMQP_MESSAGE_BUFFER",
    .number "usize" 64 (·.messageBuffer.toNat) fun n s => { s with messageBuffer := .ofNat n }⟩,
  ⟨"ErrorBuffer", "AMQP_ERROR_BUFFER",
    .number "usize" 64 (·.errorBuffer.toNat) fun n s => { s with errorBuffer := .ofNat n }⟩,
  ⟨"SleepOnErrorInterval", "AMQP_SLEEP_ON_ERROR_MS",
    .number "u64" 64 (·.errorPause.toNat) fun n s => { s with errorPause := .ofNat n }⟩,
  ⟨"SleepOnIdleInterval", "AMQP_SLEEP_ON_IDLE_MS",
    .number "u64" 64 (·.idlePause.toNat) fun n s => { s with idlePause := .ofNat n }⟩,
  ⟨"MaxInFlight", "AMQP_MAX_IN_FLIGHT",
    .number "usize" 64 (·.maxInFlight.toNat) fun n s => { s with maxInFlight := .ofNat n }⟩]

end ConsumerSettings

namespace PoolSettings

/-- The settings of a pool in their order. -/
def table : List (Setting PoolSettings) := [
  ⟨"GlobalQosCount", "AMQP_GLOBAL_QOS_COUNT",
    .number "u16" 16 (·.prefetchCount.toNat) fun n s => { s with prefetchCount := .ofNat n }⟩,
  ⟨"GlobalQosSize", "AMQP_GLOBAL_QOS_SIZE",
    .number "u32" 32 (·.prefetchSize.toNat) fun n s => { s with prefetchSize := .ofNat n }⟩]

end PoolSettings

end Intake
