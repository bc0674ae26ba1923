import Intake.Fixture
import Intake.Session.Run
import Intake.Settings.Variables
import Intake.Time.Polling
import Intake.Proofs.Consumer.Event
import Intake.Proofs.Consumer.Advance
import Intake.Proofs.Consumer.Frame
import Intake.Proofs.Consumer.Turn
import Intake.Proofs.Consumer.Lifecycle
import Intake.Proofs.Consumer.StopSignal
import Intake.Proofs.Consumer.Conservation
import Intake.Proofs.Consumer.Draining
import Intake.Proofs.Broker.Evolution
import Intake.Proofs.Broker.Tags
import Intake.Proofs.World.Event
import Intake.Proofs.World.Source
import Intake.Proofs.World.Tags
import Intake.Proofs.Consumer.Permits
import Intake.Proofs.Consumer.Deeds
import Intake.Proofs.Consumer.Immediate
import Intake.Proofs.Consumer.Leases
import Intake.Proofs.World.Calls
import Intake.Proofs.Broker.Standing
import Intake.Proofs.Consumer.Closure
import Intake.Proofs.World.Closures
import Intake.Proofs.Consumer.Noting
import Intake.Proofs.World.Own
import Intake.Proofs.Consumer.Capacity
import Intake.Proofs.World.Capacity
import Intake.Proofs.Consumer.Promptness
import Intake.Proofs.Consumer.Restart
import Intake.Proofs.Consumer.Tally
import Intake.Proofs.World.Tally
import Intake.Proofs.Queue.Answers
import Intake.Proofs.Consumer.Outlet
import Intake.Proofs.Consumer.PoolLimit
import Intake.Proofs.Broker.Bodies
import Intake.Proofs.Broker.Settlement
import Intake.Proofs.Broker.Terms
import Intake.Proofs.Broker.Routing
import Intake.Proofs.Broker.Representation
import Intake.Proofs.Broker.Delivering
import Intake.Proofs.Broker.Bulk
import Intake.Proofs.Broker.Redelivery
import Intake.Proofs.World.Acts
import Intake.Proofs.World.Holding
import Intake.Proofs.World.Settlement
import Intake.Proofs.Bodies.Source
import Intake.Proofs.Bodies.Consumer
import Intake.Proofs.Bodies.World
import Intake.Proofs.Bodies.Session
import Intake.Proofs.Bodies.Run
import Intake.Proofs.Settings.RoundTrip
import Intake.Proofs.Consumer.Reporting
import Intake.Proofs.Json.Rejection
import Intake.Proofs.Text.Variables
import Intake.Proofs.Settings.Agreement
import Intake.Proofs.Consumer.Work
import Intake.Proofs.World.Pace
import Intake.Proofs.World.Return
import Intake.Proofs.World.Backoff
import Intake.Proofs.World.StreamEnd
import Intake.Proofs.Broker.Refusal
import Intake.Proofs.Consumer.Setup
import Intake.Proofs.Text.Spelling
import Intake.Proofs.Settings.Language
import Intake.Proofs.Json.Coverage
import Intake.Proofs.Json.Repetition
import Intake.Proofs.Settings.Apart
import Intake.Proofs.Settings.Insensitivity
import Intake.Proofs.Fixture
import Intake.Proofs.Time.Polling
import Intake.Proofs.Double.Whole
import Intake.Proofs.Consumer.Gauge
import Intake.Proofs.World.Gauge
import Intake.Proofs.Json.Entries
import Intake.Proofs.Settings.Listing
