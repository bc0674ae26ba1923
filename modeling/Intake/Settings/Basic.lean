import Intake.Fault
import Intake.Json.Value
import Intake.Time.Duration

/-!
# Settings

What one consumer is told to do, and the prefetch limit that channels have outside its hands. Only
the two queue capacities are checked here: whether a queue exists is for the broker to say.
-/

namespace Intake

/-- The settings of one consumer. -/
structure ConsumerSettings where
  /-- The application should start the consumer. -/
  enabled : Bool
  queue : String
  name : String
  autoAck : Bool
  exclusive : Bool
  noWait : Bool
  noLocal : Bool
  /-- A prefetch limit for the consumer's own channels; unset when either number is zero. -/
  prefetchCount : UInt16
  prefetchSize : UInt32
  messageBuffer : UInt64
  errorBuffer : UInt64
  /-- The pause in milliseconds after a failed attempt to get going. -/
  errorPause : UInt64
  /-- The pause in milliseconds after the deliveries ended without a reason. -/
  idlePause : UInt64
  /-- How many deliveries may be under way to the queue of messages; zero stands for its capacity. -/
  maxInFlight : UInt64
  /-- Arguments for the broker, sorted by name. -/
  arguments : List (String × Json.Value)
deriving Repr, BEq, Inhabited

namespace ConsumerSettings

def default : ConsumerSettings where
  enabled := true
  queue := ""
  name := ""
  autoAck := false
  exclusive := false
  noWait := false
  noLocal := false
  prefetchCount := 0
  prefetchSize := 0
  messageBuffer := 100
  errorBuffer := 10
  errorPause := 1000
  idlePause := 100
  maxInFlight := 0
  arguments := []

/-- The settings of a consumer of a queue, all else by default. -/
def ofNames (queue name : String) : ConsumerSettings := { default with queue, name }

/-- Both queues need room. -/
def validate (s : ConsumerSettings) : Except Fault Unit :=
  if s.messageBuffer = 0 ∨ s.errorBuffer = 0 then
    .error (.configuration "message and/or error buffer in config can't be 0")
  else .ok ()

def terms (s : ConsumerSettings) : Terms := ⟨s.autoAck, s.exclusive, s.noLocal, s.noWait⟩

/-- The prefetch limit for the consumer's own channels. -/
def prefetch? (s : ConsumerSettings) : Option Prefetch :=
  Prefetch.set? s.prefetchCount s.prefetchSize

/-- How many deliveries may be under way. -/
def inFlightLimit (s : ConsumerSettings) : Nat :=
  if s.maxInFlight = 0 then s.messageBuffer.toNat else s.maxInFlight.toNat

end ConsumerSettings

/-- Whole milliseconds as they are kept in settings: at most `2 ^ 64 - 1`. -/
def Duration.pause (d : Duration) : UInt64 := UInt64.ofNat (min d.millis (Nat.pow 2 64 - 1))

/-- One adjustment of the settings of a consumer. -/
inductive Adjustment where
  | autoAck (on : Bool)
  | exclusive (on : Bool)
  | noWait (on : Bool)
  | noLocal (on : Bool)
  | prefetch (count : UInt16) (size : UInt32)
  | buffers (messages errors : UInt64)
  | errorPause (pause : Duration)
  | idlePause (pause : Duration)
  | maxInFlight (limit : UInt64)
  | argument (name : String) (value : Json.Value)
deriving Repr

def ConsumerSettings.adjust (s : ConsumerSettings) : Adjustment → ConsumerSettings
  | .autoAck on => { s with autoAck := on }
  | .exclusive on => { s with exclusive := on }
  | .noWait on => { s with noWait := on }
  | .noLocal on => { s with noLocal := on }
  | .prefetch count size => { s with prefetchCount := count, prefetchSize := size }
  | .buffers messages errors => { s with messageBuffer := messages, errorBuffer := errors }
  | .errorPause pause => { s with errorPause := pause.pause }
  | .idlePause pause => { s with idlePause := pause.pause }
  | .maxInFlight limit => { s with maxInFlight := limit }
  | .argument name value => { s with arguments := Json.putSorted name value s.arguments }

/-- The prefetch limit that the owner of the channels keeps on them; unset when either number is
zero. -/
structure PoolSettings where
  prefetchCount : UInt16
  prefetchSize : UInt32
deriving DecidableEq, Repr, Inhabited

namespace PoolSettings

def default : PoolSettings := ⟨0, 0⟩

def prefetch? (s : PoolSettings) : Option Prefetch := Prefetch.set? s.prefetchCount s.prefetchSize

end PoolSettings

end Intake
