import Intake.Channel

/-!
# Faults of a consumer

Recoverable faults are reported on the queue of errors while the consumer goes on; the others
answer the call that caused them and change nothing.
-/

namespace Intake

inductive Fault where
  | configuration (text : String)
  | alreadyStarted
  | notStarted
  /-- No channel could be leased. -/
  | acquisition (cause : ChannelFault)
  /-- The broker did not let the consumer receive from its queue. -/
  | opening (queue : String) (cause : ChannelFault)
  /-- A prefetch limit could not be applied. -/
  | prefetch (limit : Prefetch) (cause : ChannelFault)
  | channelClosed (closure : Closure)
  /-- The deliveries ended and no reason was given. -/
  | streamEnded (queue : String)
deriving DecidableEq, Repr

namespace Fault

def message : Fault → String
  | configuration text => "Configuration error: " ++ text
  | alreadyStarted => "can't start an already started consumer"
  | notStarted => "can't stop a stopped consumer"
  | acquisition cause => "failed to acquire channel: " ++ cause.message
  | opening queue cause => "failed to consume from queue '" ++ queue ++ "': " ++ cause.message
  | prefetch limit cause =>
    "failed to apply qos (count: " ++ toString limit.count.toNat ++ ", size: " ++
      toString limit.size.toNat ++ "): " ++ cause.message
  | channelClosed closure =>
    "consumer's current channel closed [reason: " ++ closure.text ++ "] [code: " ++
      toString closure.code.toNat ++ "]"
  | streamEnded queue => "delivery stream for queue '" ++ queue ++ "' ended"

/-- The short label under which faults are counted. -/
def kind : Fault → String
  | configuration _ => "config"
  | alreadyStarted | notStarted => "lifecycle"
  | acquisition _ => "acquisition"
  | opening _ _ => "stream_open"
  | prefetch _ _ => "qos"
  | channelClosed _ => "channel_closed"
  | streamEnded _ => "stream_ended"

/-- The fault of the channel that lies behind this one. -/
def cause? : Fault → Option ChannelFault
  | acquisition cause | opening _ cause | prefetch _ cause => some cause
  | configuration _ | alreadyStarted | notStarted | channelClosed _ | streamEnded _ => none

/-- The consumer goes on after the fault. -/
def isRecoverable : Fault → Bool
  | configuration _ | alreadyStarted | notStarted => false
  | acquisition _ | opening _ _ | prefetch _ _ | channelClosed _ | streamEnded _ => true

/-- The word for what happens after the fault. -/
def category (f : Fault) : String := if f.isRecoverable then "recoverable" else "fatal"

end Fault

end Intake
