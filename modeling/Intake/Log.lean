import Intake.Fault

/-!
# The log

What a consumer tells its operators. An entry is the event itself; its level, wording and fields
are functions of it.
-/

namespace Intake

inductive LogValue where
  | number (n : Nat)
  | boolean (b : Bool)
  | text (s : String)
deriving DecidableEq, Repr

/-- An event worth telling. -/
inductive LogEntry where
  | starting (queue consumer : String) (flushedErrors : Nat)
  | consuming (queue consumer : String) (channel : Nat)
  | stopRequested (queue : String) (immediate : Bool)
  | stopPending
  | stopWhileAcquiring (queue : String)
  | acquisitionFailed (queue : String) (cause : ChannelFault) (backoff : Nat)
  | prefetchFailed (channel : Nat) (cause : ChannelFault)
  | openingFailed (queue : String) (channel : Nat) (cause : ChannelFault) (backoff : Nat)
  | deliveryReceived (channel tag : Nat)
  | noticesExhausted (channel : Nat)
  | channelClosed (queue : String) (channel : Nat) (closure : Closure)
  | streamEnded (queue : String) (channel : Nat)
  | restoreFailed (channel : Nat) (cause : ChannelFault)
  | reportDropped (queue : String) (fault : Fault)
  | draining (queue : String) (inFlight : Nat)
  | stopped (queue consumer : String) (immediate : Bool)
deriving DecidableEq, Repr

namespace LogEntry

def level : LogEntry → String
  | starting .. | consuming .. | stopRequested .. | stopped .. => "INFO"
  | acquisitionFailed .. | prefetchFailed .. | openingFailed .. | channelClosed .. |
    streamEnded .. | reportDropped .. => "WARN"
  | stopPending | stopWhileAcquiring .. | deliveryReceived .. | noticesExhausted .. |
    restoreFailed .. | draining .. => "DEBUG"

def message : LogEntry → String
  | starting .. => "Starting consumer"
  | consuming .. => "Consuming"
  | stopRequested .. => "Stop requested"
  | stopPending => "Stop already pending"
  | stopWhileAcquiring .. => "Stop requested while acquiring"
  | acquisitionFailed .. => "Failed to acquire channel, retrying"
  | prefetchFailed .. => "Failed to apply qos override"
  | openingFailed .. => "Failed to start consuming, retrying"
  | deliveryReceived .. => "Delivery received"
  | noticesExhausted .. => "Close notifications exhausted"
  | channelClosed .. => "Channel closed, re-acquiring"
  | streamEnded .. => "Delivery stream ended, re-acquiring"
  | restoreFailed .. => "Could not restore global qos"
  | reportDropped .. => "Errors queue full, dropping report"
  | draining .. => "Draining in-flight deliveries"
  | stopped .. => "Consumer stopped"

/-- The named values of an entry. -/
def fields : LogEntry → List (String × LogValue)
  | starting queue consumer flushed =>
    [("queue", .text queue), ("consumer", .text consumer), ("flushed_errors", .number flushed)]
  | consuming queue consumer channel =>
    [("queue", .text queue), ("consumer", .text consumer), ("channel_id", .number channel)]
  | stopRequested queue immediate => [("queue", .text queue), ("immediate", .boolean immediate)]
  | stopPending => []
  | stopWhileAcquiring queue => [("queue", .text queue)]
  | acquisitionFailed queue cause backoff =>
    [("queue", .text queue), ("error", .text cause.message), ("backoff_ms", .number backoff)]
  | prefetchFailed channel cause =>
    [("channel_id", .number channel), ("error", .text cause.message)]
  | openingFailed queue channel cause backoff =>
    [("queue", .text queue), ("channel_id", .number channel), ("error", .text cause.message),
      ("backoff_ms", .number backoff)]
  | deliveryReceived channel tag => [("channel_id", .number channel), ("delivery_tag", .number tag)]
  | noticesExhausted channel => [("channel_id", .number channel)]
  | channelClosed queue channel closure =>
    [("queue", .text queue), ("channel_id", .number channel), ("code", .number closure.code.toNat),
      ("reason", .text closure.text)]
  | streamEnded queue channel => [("queue", .text queue), ("channel_id", .number channel)]
  | restoreFailed channel cause =>
    [("channel_id", .number channel), ("error", .text cause.message)]
  | reportDropped queue fault => [("queue", .text queue), ("error", .text fault.message)]
  | draining queue inFlight => [("queue", .text queue), ("in_flight", .number inFlight)]
  | stopped queue consumer immediate =>
    [("queue", .text queue), ("consumer", .text consumer), ("immediate", .boolean immediate)]

end LogEntry

end Intake
