import Intake.Double.Decimal

/-!
# Channels

A consumer talks to a message broker over channels it leases. This module holds what passes over a
channel: deliveries on the way in, the faults of failed calls, and the closure that ends a channel.
-/

namespace Intake

/-- A leased channel: the number it is known by, and the serial number of its lease, which tells
apart two leases of one number. -/
structure Channel where
  id : Nat
  lease : Nat
deriving DecidableEq, Repr, Inhabited

/-- What a broker says when it closes a channel. -/
structure Closure where
  code : UInt16
  text : String
deriving DecidableEq, Repr, Inhabited

namespace Closure

/-- The text, with the code in brackets behind it. -/
def describe (c : Closure) : String := c.text ++ " (" ++ toString c.code.toNat ++ ")"

end Closure

/-- Why a call on a channel, or for a channel, failed. -/
inductive ChannelFault where
  /-- No channel could be leased. -/
  | unavailable (text : String)
  /-- The broker refused the call. -/
  | refused (code : UInt16) (text : String)
  /-- The channel was closed before the call. -/
  | closed
deriving DecidableEq, Repr, Inhabited

def ChannelFault.message : ChannelFault → String
  | .unavailable text => "channel unavailable: " ++ text
  | .refused code text => "protocol error " ++ toString code.toNat ++ ": " ++ text
  | .closed => "channel is closed"

/-- One message as a broker hands it over. Tags number the deliveries of a channel. -/
structure Delivery (β : Type) where
  tag : Nat
  body : β
  redelivered : Bool
  exchange : String
  routingKey : String
deriving DecidableEq, Repr, Inhabited

/-- What a consumer asks for when it starts to receive from a queue. -/
structure Terms where
  autoAck : Bool
  exclusive : Bool
  noLocal : Bool
  noWait : Bool
deriving DecidableEq, Repr, Inhabited

/-- How many deliveries, and how many bytes of them, a broker may send ahead of acknowledgement. -/
structure Prefetch where
  count : UInt16
  size : UInt32
deriving DecidableEq, Repr, Inhabited

/-- A prefetch limit counts as set when neither of its numbers is zero. -/
def Prefetch.set? (count : UInt16) (size : UInt32) : Option Prefetch :=
  if count ≠ 0 ∧ size ≠ 0 then some ⟨count, size⟩ else none

end Intake
