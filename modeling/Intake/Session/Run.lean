import Intake.Bytes
import Intake.Session.Step

/-!
# Sessions with bodies

A session never looks into a body: it handles their numbers, and the bodies themselves are kept
here. A body gets its number when it comes in and takes its place again when it is shown.
-/

namespace Intake

structure Run where
  session : Session Nat
  /-- The bodies that came in; the place of each is its number. -/
  bodies : List Bytes

namespace Run

/-- The number a new body gets, and the bodies with it. -/
def store (bodies : List Bytes) (body : Bytes) : Nat × List Bytes :=
  (bodies.length, bodies ++ [body])

/-- Put numbers in the place of several bodies. -/
def storeAll (bodies : List Bytes) : List Bytes → List Nat × List Bytes
  | [] => ([], bodies)
  | body :: rest =>
    let (number, bodies) := store bodies body
    let (numbers, bodies) := storeAll bodies rest
    (number :: numbers, bodies)

def storeDelivery (bodies : List Bytes) (d : Delivery Bytes) : Delivery Nat × List Bytes :=
  let (number, bodies) := store bodies d.body
  ({ d with body := number }, bodies)

def storeDeliveries (bodies : List Bytes) : List (Delivery Bytes) → List (Delivery Nat) × List Bytes
  | [] => ([], bodies)
  | d :: rest =>
    let (d, bodies) := storeDelivery bodies d
    let (ds, bodies) := storeDeliveries bodies rest
    (d :: ds, bodies)

def storePlans (bodies : List Bytes) : List (Plan Bytes) → List (Plan Nat) × List Bytes
  | [] => ([], bodies)
  | plan :: rest =>
    let (deliveries, bodies) := storeDeliveries bodies plan.deliveries
    let (plans, bodies) := storePlans bodies rest
    ({ plan with deliveries } :: plans, bodies)

/-- Put numbers in the place of the bodies of a step. -/
def storeStep (bodies : List Bytes) : Step Bytes → Step Nat × List Bytes
  | .move m => (.move m, bodies)
  | .publish published =>
    let (numbers, bodies) := storeAll bodies published
    (.publish numbers, bodies)
  | .push id d =>
    let (d, bodies) := storeDelivery bodies d
    (.push id d, bodies)

/-- The body with a number. -/
def body (r : Run) (number : Nat) : Bytes := (r.bodies[number]?).getD []

/-- What consumers lease their channels from. -/
inductive Setup where
  | broker (queue : String)
  | script (plans : List (Plan Bytes)) (recordsRelease : Bool)

/-- The start of a session. -/
def create (setup : Setup) (pool : PoolSettings) (consumers : List ConsumerSettings) :
    Except SetupFault Run := do
  match setup with
  | .broker queue =>
    let session ← Session.create (.broker (.ofQueue queue)) pool consumers
    return ⟨session, []⟩
  | .script plans recordsRelease =>
    let (plans, bodies) := storePlans [] plans
    let session ← Session.create (.script (.ofPlans plans recordsRelease)) pool consumers
    return ⟨session, bodies⟩

/-- What one step shows: its reply, what there is after it, and what was logged. -/
structure Entry where
  reply : Reply Bytes
  snapshot : Snapshot
  log : List LogEntry

/-- One step of a session. -/
def step (r : Run) (step : Step Bytes) : Entry × Run :=
  let (step, bodies) := storeStep r.bodies step
  let (reply, session) := r.session.step step
  let (log, session) := session.collectLog
  let r : Run := ⟨session, bodies⟩
  (⟨reply.map r.body, session.snapshot, log⟩, r)

/-- Several steps of a session. -/
def steps : Run → List (Step Bytes) → List Entry
  | _, [] => []
  | r, s :: rest =>
    let (entry, r) := r.step s
    entry :: steps r rest

/-- The bodies of a series: a name with a number behind it, counted from zero. -/
def series (name : String) (n : Nat) : List Bytes :=
  (List.range n).map fun k => Bytes.ofText (name ++ toString k)

end Run

end Intake
