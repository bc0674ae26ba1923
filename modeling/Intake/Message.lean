import Intake.Channel

/-!
# Messages

What the application receives: a delivery together with the channel it came on, which is where it
must be settled.
-/

namespace Intake

/-- A delivery on its way to the application. -/
structure Message (β : Type) where
  /-- The application has to acknowledge the message. -/
  ackable : Bool
  tag : Nat
  body : β
  channel : Channel
deriving DecidableEq, Repr, Inhabited

namespace Message

variable {β : Type}

/-- The message of a delivery; `ackable` says that the broker waits for an acknowledgement. -/
def ofDelivery (channel : Channel) (ackable : Bool) (d : Delivery β) : Message β :=
  ⟨ackable, d.tag, d.body, channel⟩

/-- A message as diagnostics show it: the length of its body stands for the body. -/
def describe (length : β → Nat) (m : Message β) : String :=
  "Message \x7b ackable: " ++ toString m.ackable ++ ", delivery_tag: " ++ toString m.tag ++
    ", body_len: " ++ toString (length m.body) ++ ", channel_id: " ++ toString m.channel.id ++
    " \x7d"

end Message

/-- A leased channel as diagnostics show it. -/
def Channel.describe (c : Channel) : String :=
  "ChannelHost \x7b channel_id: " ++ toString c.id ++ ", .. \x7d"

end Intake
