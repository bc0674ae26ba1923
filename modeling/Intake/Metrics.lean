import Intake.Double.Decimal
import Intake.Fault

/-!
# Metrics

A consumer counts what happens to it. Counters are told apart by a name and an extra label; the
number of deliveries in flight is a gauge, which keeps the last value only and is a double.
-/

namespace Intake

/-- One thing that is counted. -/
inductive Meter where
  | deliveryReceived
  | messageEnqueued
  | errorReported (kind : String)
  | errorDropped (kind : String)
  | channelAcquired (success : Bool)
  | channelClosed
  | inFlight (count : Nat)
deriving DecidableEq, Repr

namespace Meter

/-- The counter that goes up by one: its name and its extra label. The gauge is none. -/
def counter? : Meter → Option (String × String)
  | deliveryReceived => some ("amqp_consumer_deliveries_received_total", "")
  | messageEnqueued => some ("amqp_consumer_messages_enqueued_total", "")
  | errorReported kind => some ("amqp_consumer_errors_total", "kind=" ++ kind)
  | errorDropped kind => some ("amqp_consumer_errors_dropped_total", "kind=" ++ kind)
  | channelAcquired success =>
    some ("amqp_consumer_channel_acquisitions_total",
      "status=" ++ if success then "success" else "failed")
  | channelClosed => some ("amqp_consumer_channel_closures_total", "")
  | inFlight _ => none

/-- The value the gauge takes, if this sets it. -/
def gauge? : Meter → Option Nat
  | inFlight count => some count
  | _ => none

end Meter

/-- A value to show: name, extra label and number. -/
structure Sample where
  name : String
  extra : String
  value : String
deriving DecidableEq, Repr

/-- What was counted, in the order it happened. -/
abbrev Readings := List Meter

namespace Readings

/-- How often a counter went up. -/
def count (readings : Readings) (counter : String × String) : Nat :=
  readings.countP fun meter => meter.counter? == some counter

/-- The last value of the gauge. -/
def gauge? (readings : Readings) : Option Nat := (readings.filterMap Meter.gauge?).getLast?

/-- Put a counter in its place in a sorted list without repetitions. -/
def place (counter : String × String) : List (String × String) → List (String × String)
  | [] => [counter]
  | other :: rest =>
    if counter = other then other :: rest
    else if counter.1 < other.1 ∨ (counter.1 = other.1 ∧ counter.2 < other.2) then
      counter :: other :: rest
    else other :: place counter rest

/-- The counters that went up, sorted by name and extra label. -/
def counters (readings : Readings) : List (String × String) :=
  (readings.filterMap Meter.counter?).foldl (fun sorted counter => place counter sorted) []

/-- The gauge's value as a double without a fractional part. -/
def printGauge (n : Nat) : String :=
  String.ofList ((Magnitude.ofNat? n).getD .zero).printWhole

/-- Every counter that went up, and last the gauge if it was set. -/
def samples (readings : Readings) : List Sample :=
  (readings.counters.map fun counter =>
      ⟨counter.1, counter.2, toString (readings.count counter)⟩) ++
    (readings.gauge?.map fun n => (⟨"amqp_consumer_in_flight", "", printGauge n⟩ : Sample)).toList

end Readings

end Intake
