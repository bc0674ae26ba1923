import Intake.Proofs.Bodies.Session
import Intake.Session.Run

/-! # Bodies are opaque

The numbers that a run puts in the place of bodies make no difference: a session that handles the
bodies themselves shows the same. And whatever is done to the bodies that come in, nothing but the
bodies that are shown is different, as long as their lengths stay: `Run.shown_map`.
-/

namespace Intake

private theorem Item.map_map {α β γ : Type} (f : α → β) (g : β → γ) (item : Item α) :
    (item.map f).map g = item.map (g ∘ f) := by
  cases item <;> rfl

private theorem Reply.map_map {α β γ : Type} (f : α → β) (g : β → γ) (reply : Reply α) :
    (reply.map f).map g = reply.map (g ∘ f) := by
  cases reply with
  | item one => exact congrArg Reply.item (one.map_map f g)
  | items several =>
    simp only [Reply.map, List.map_map]
    exact congrArg Reply.items (List.map_congr_left fun one _ => one.map_map f g)
  | _ => rfl

/-- Diagnostics show the length of a body only. -/
theorem Message.describe_map {f : Bytes → Bytes} (m : Message Bytes)
    (sameLength : (f m.body).length = m.body.length) :
    (m.map f).describe List.length = m.describe List.length := by
  unfold Message.describe
  change _ ++ toString (f m.body).length ++ _ ++ _ ++ _ = _
  rw [sameLength]
  rfl

namespace Run

/-! ## Numbers in the place of bodies -/

/-- A number and the body that it stands for. -/
abbrev Stored (bodies : List Bytes) : Type := { p : Nat × Bytes // bodies[p.1]? = some p.2 }

namespace Stored

variable {bodies : List Bytes}

def number (stored : Stored bodies) : Nat := stored.1.1

def body (stored : Stored bodies) : Bytes := stored.1.2

end Stored

/-- A run finds the bodies again. -/
private theorem map_stored {r : Run} (reply : Reply (Stored r.bodies)) :
    (reply.map Stored.number).map r.body = reply.map Stored.body := by
  have found : r.body ∘ Stored.number = (Stored.body : Stored r.bodies → Bytes) := by
    funext stored
    obtain ⟨⟨number, body⟩, known⟩ := stored
    exact congrArg (Option.getD · []) known
  rw [Reply.map_map, found]

section

variable {bodies all : List Bytes}

private theorem exists_stored {body : Bytes} (among : (store bodies body).2 <+: all) :
    ∃ stored : Stored all, stored.number = (store bodies body).1 ∧ stored.body = body := by
  have known : all[bodies.length]? = some body := by
    obtain ⟨later, rfl⟩ := among
    simp [store]
  exact ⟨⟨(bodies.length, body), known⟩, rfl, rfl⟩

private theorem prefix_storeAll (bodies several : List Bytes) :
    bodies <+: (storeAll bodies several).2 := by
  induction several generalizing bodies with
  | nil => exact List.prefix_refl bodies
  | cons body rest ih => exact (List.prefix_append bodies [body]).trans (ih _)

private theorem exists_storedAll {several : List Bytes}
    (among : (storeAll bodies several).2 <+: all) :
    ∃ stored : List (Stored all),
      stored.map Stored.number = (storeAll bodies several).1 ∧
        stored.map Stored.body = several := by
  induction several generalizing bodies with
  | nil => exact ⟨[], rfl, rfl⟩
  | cons body rest ih =>
    obtain ⟨stored, numbers, same⟩ := ih among
    obtain ⟨first, number, here⟩ := exists_stored ((prefix_storeAll _ rest).trans among)
    refine ⟨first :: stored, ?_, ?_⟩
    · rw [List.map_cons, number, numbers]
      rfl
    · rw [List.map_cons, here, same]

private theorem exists_storedDelivery {d : Delivery Bytes}
    (among : (storeDelivery bodies d).2 <+: all) :
    ∃ stored : Delivery (Stored all),
      stored.map Stored.number = (storeDelivery bodies d).1 ∧ stored.map Stored.body = d := by
  obtain ⟨body, number, same⟩ := exists_stored among
  refine ⟨{ d with body }, ?_, ?_⟩
  · exact congrArg (fun number => { d with body := number }) number
  · exact congrArg (fun body => { d with body }) same

private theorem prefix_storeDeliveries (bodies : List Bytes) (ds : List (Delivery Bytes)) :
    bodies <+: (storeDeliveries bodies ds).2 := by
  induction ds generalizing bodies with
  | nil => exact List.prefix_refl bodies
  | cons d rest ih => exact (List.prefix_append bodies [d.body]).trans (ih _)

private theorem exists_storedDeliveries {ds : List (Delivery Bytes)}
    (among : (storeDeliveries bodies ds).2 <+: all) :
    ∃ stored : List (Delivery (Stored all)),
      stored.map (Delivery.map Stored.number) = (storeDeliveries bodies ds).1 ∧
        stored.map (Delivery.map Stored.body) = ds := by
  induction ds generalizing bodies with
  | nil => exact ⟨[], rfl, rfl⟩
  | cons d rest ih =>
    obtain ⟨stored, numbers, same⟩ := ih among
    obtain ⟨first, number, here⟩ :=
      exists_storedDelivery ((prefix_storeDeliveries _ rest).trans among)
    refine ⟨first :: stored, ?_, ?_⟩
    · rw [List.map_cons, number, numbers]
      rfl
    · rw [List.map_cons, here, same]

private theorem exists_storedPlans {plans : List (Plan Bytes)}
    (among : (storePlans bodies plans).2 <+: all) :
    bodies <+: (storePlans bodies plans).2 ∧ ∃ stored : List (Plan (Stored all)),
      stored.map (Plan.map Stored.number) = (storePlans bodies plans).1 ∧
        stored.map (Plan.map Stored.body) = plans := by
  induction plans generalizing bodies with
  | nil => exact ⟨List.prefix_refl bodies, [], rfl, rfl⟩
  | cons plan rest ih =>
    obtain ⟨more, stored, numbers, same⟩ := ih among
    obtain ⟨deliveries, number, here⟩ := exists_storedDeliveries (more.trans among)
    refine ⟨(prefix_storeDeliveries bodies plan.deliveries).trans more,
      { plan with deliveries } :: stored, ?_, ?_⟩
    · rw [List.map_cons, numbers]
      exact congrArg (fun deliveries => { plan with deliveries } :: _) number
    · rw [List.map_cons, same]
      exact congrArg (fun deliveries => { plan with deliveries } :: rest) here

private theorem prefix_storeStep (bodies : List Bytes) (step : Step Bytes) :
    bodies <+: (storeStep bodies step).2 := by
  cases step with
  | move m => exact List.prefix_refl bodies
  | publish published => exact prefix_storeAll bodies published
  | push id d => exact List.prefix_append bodies [d.body]

private theorem exists_storedStep {step : Step Bytes} (among : (storeStep bodies step).2 <+: all) :
    ∃ stored : Step (Stored all),
      stored.map Stored.number = (storeStep bodies step).1 ∧ stored.map Stored.body = step := by
  cases step with
  | move m => exact ⟨.move m, rfl, rfl⟩
  | publish published =>
    obtain ⟨stored, numbers, same⟩ := exists_storedAll among
    exact ⟨.publish stored, congrArg Step.publish numbers, congrArg Step.publish same⟩
  | push id d =>
    obtain ⟨stored, number, same⟩ := exists_storedDelivery among
    exact ⟨.push id stored, congrArg (Step.push id) number, congrArg (Step.push id) same⟩

end

end Run

/-! ## Sessions that handle the bodies themselves -/

namespace Run.Setup

def map (f : Bytes → Bytes) : Setup → Setup
  | .broker queue => .broker queue
  | .script plans recordsRelease => .script (plans.map (Plan.map f)) recordsRelease

/-- What consumers lease their channels from, with the bodies themselves. -/
def source : Setup → Source Bytes
  | .broker queue => .broker (.ofQueue queue)
  | .script plans recordsRelease => .script (.ofPlans plans recordsRelease)

end Run.Setup

namespace Session

/-- One step of a session that handles the bodies themselves. -/
def entry (s : Session Bytes) (step : Step Bytes) : Run.Entry × Session Bytes :=
  let (reply, s) := s.step step
  let (log, s) := s.collectLog
  (⟨reply, s.snapshot, log⟩, s)

/-- Several steps of such a session. -/
def entries : Session Bytes → List (Step Bytes) → List Run.Entry
  | _, [] => []
  | s, step :: rest =>
    let (entry, s) := s.entry step
    entry :: entries s rest

end Session

namespace Run

def Entry.map (f : Bytes → Bytes) (entry : Entry) : Entry :=
  { entry with reply := entry.reply.map f }

/-- A run keeps numbers where a session keeps the bodies themselves. -/
def Tracks (r : Run) (s : Session Bytes) : Prop :=
  ∀ all, r.bodies <+: all → ∃ t : Session (Stored all),
    t.map Stored.number = r.session ∧ t.map Stored.body = s

/-- The session tracked is made of the same as the run, with other bodies. -/
private theorem Tracks.exists_step {r : Run} {s : Session Bytes} (tracks : r.Tracks s)
    (step : Step Bytes) {all : List Bytes} (among : (r.step step).2.bodies <+: all) :
    ∃ t : Reply (Stored all) × Session (Stored all),
      r.session.step (storeStep r.bodies step).1 =
        t.map (Reply.map Stored.number) (Session.map Stored.number) ∧
      s.step step = t.map (Reply.map Stored.body) (Session.map Stored.body) := by
  obtain ⟨t, numbers, bodies⟩ := tracks all ((prefix_storeStep r.bodies step).trans among)
  obtain ⟨stored, number, body⟩ := exists_storedStep among
  refine ⟨t.step stored, ?_, ?_⟩
  · rw [← numbers, ← number, Session.map_step]
  · rw [← bodies, ← body, Session.map_step]

private theorem step_eq (r : Run) (step : Step Bytes) :
    (r.step step).1 = ⟨(r.session.step (storeStep r.bodies step).1).1.map (r.step step).2.body,
        (r.session.step (storeStep r.bodies step).1).2.snapshot,
        (r.session.step (storeStep r.bodies step).1).2.collectLog.1⟩ ∧
      (r.step step).2.session = (r.session.step (storeStep r.bodies step).1).2.collectLog.2 :=
  ⟨rfl, rfl⟩

/-- They show the same, step by step. -/
theorem Tracks.step {r : Run} {s : Session Bytes} (tracks : r.Tracks s) (step : Step Bytes) :
    (r.step step).1 = (s.entry step).1 ∧ (r.step step).2.Tracks (s.entry step).2 := by
  obtain ⟨shown, after⟩ := r.step_eq step
  have shown' : (s.entry step).1 =
      ⟨(s.step step).1, (s.step step).2.snapshot, (s.step step).2.collectLog.1⟩ := rfl
  have after' : (s.entry step).2 = (s.step step).2.collectLog.2 := rfl
  constructor
  · obtain ⟨t, numbers, bodies⟩ := tracks.exists_step step (List.prefix_refl _)
    rw [shown, shown', numbers, bodies]
    dsimp only [Prod.map]
    rw [map_stored, Session.map_snapshot, Session.map_snapshot, Session.map_collectLog,
      Session.map_collectLog]
    rfl
  · intro all among
    obtain ⟨t, numbers, bodies⟩ := tracks.exists_step step among
    refine ⟨t.2.collectLog.2, ?_, ?_⟩
    · rw [after, numbers]
      rfl
    · rw [after', bodies]
      rfl

private theorem Tracks.steps {r : Run} {s : Session Bytes} (tracks : r.Tracks s)
    (steps : List (Step Bytes)) : r.steps steps = s.entries steps := by
  induction steps generalizing r s with
  | nil => rfl
  | cons step rest ih =>
    obtain ⟨same, later⟩ := tracks.step step
    have first : r.steps (step :: rest) = (r.step step).1 :: (r.step step).2.steps rest := rfl
    have first' : s.entries (step :: rest) =
        (s.entry step).1 :: (s.entry step).2.entries rest := rfl
    rw [first, first', same, ih later]

/-! ## What is shown -/

/-- What the steps of a session show, if it can be set up. -/
def shown (setup : Setup) (pool : PoolSettings) (consumers : List ConsumerSettings)
    (steps : List (Step Bytes)) : Except SetupFault (List Entry) :=
  (create setup pool consumers).map (·.steps steps)

/-- The start of a run is the start of a session with numbers. -/
private theorem exists_setup (setup : Setup) : ∃ (numbers : Source Nat) (bodies : List Bytes),
    (∀ pool consumers, create setup pool consumers =
      (Session.create numbers pool consumers).map (⟨·, bodies⟩)) ∧
    ∀ all, bodies <+: all → ∃ source : Source (Stored all),
      source.map Stored.number = numbers ∧ source.map Stored.body = setup.source := by
  cases setup with
  | broker queue =>
    refine ⟨.broker (.ofQueue queue), [], ?_, ?_⟩
    · intro pool consumers
      unfold create
      dsimp only
      cases Session.create (.broker (.ofQueue queue)) pool consumers <;> rfl
    · exact fun all _ => ⟨.broker (.ofQueue queue), rfl, rfl⟩
  | script plans recordsRelease =>
    refine ⟨.script (.ofPlans (storePlans [] plans).1 recordsRelease), (storePlans [] plans).2,
      ?_, ?_⟩
    · intro pool consumers
      unfold create
      dsimp only
      cases Session.create (.script (.ofPlans (storePlans [] plans).1 recordsRelease))
        pool consumers <;> rfl
    · intro all among
      obtain ⟨_, stored, numbers, same⟩ := exists_storedPlans among
      refine ⟨.script (.ofPlans stored recordsRelease), ?_, ?_⟩
      · exact congrArg (fun plans => Source.script (.ofPlans plans recordsRelease)) numbers
      · exact congrArg (fun plans => Source.script (.ofPlans plans recordsRelease)) same

/-- A session that handles the bodies themselves shows the same. -/
theorem shown_eq (setup : Setup) (pool : PoolSettings) (consumers : List ConsumerSettings)
    (steps : List (Step Bytes)) : shown setup pool consumers steps =
      (Session.create setup.source pool consumers).map (·.entries steps) := by
  obtain ⟨numbers, bodies, creates, stored⟩ := exists_setup setup
  have made (all : List Bytes) (among : bodies <+: all) :
      ∃ got : Except SetupFault (Session (Stored all)),
        Session.create numbers pool consumers = got.map (Session.map Stored.number) ∧
        Session.create setup.source pool consumers = got.map (Session.map Stored.body) := by
    obtain ⟨source, number, body⟩ := stored all among
    exact ⟨Session.create source pool consumers, by rw [← number, Session.map_create],
      by rw [← body, Session.map_create]⟩
  rw [shown, creates]
  obtain ⟨got, here, there⟩ := made bodies (List.prefix_refl bodies)
  cases got with
  | error fault =>
    rw [here, there]
    rfl
  | ok t =>
    have tracks : (⟨t.map Stored.number, bodies⟩ : Run).Tracks (t.map Stored.body) := by
      intro all among
      obtain ⟨got, here', there'⟩ := made all among
      cases got with
      | error fault => exact absurd (here.symm.trans here') nofun
      | ok t' =>
        exact ⟨t', Except.ok.inj (here'.symm.trans here), Except.ok.inj (there'.symm.trans there)⟩
    rw [here, there]
    exact congrArg Except.ok (tracks.steps steps)

end Run

namespace Session

private theorem map_entry (f : Bytes → Bytes) (s : Session Bytes) (step : Step Bytes) :
    (s.map f).entry (step.map f) = (s.entry step).map (Run.Entry.map f) (Session.map f) := by
  unfold entry
  rw [map_step]
  dsimp only [Prod.map]
  rw [map_collectLog]
  dsimp only [Prod.map]
  rw [map_snapshot]
  rfl

private theorem map_entries (f : Bytes → Bytes) (s : Session Bytes) (steps : List (Step Bytes)) :
    (s.map f).entries (steps.map (Step.map f)) = (s.entries steps).map (Run.Entry.map f) := by
  induction steps generalizing s with
  | nil => rfl
  | cons step rest ih =>
    rw [List.map_cons, entries, map_entry]
    exact congrArg (List.cons _) (ih _)

end Session

namespace Run

/-- The text that stands for a message in diagnostics. -/
def Entry.text? (entry : Entry) : Option String :=
  match entry.reply with
  | .description m => some (m.describe List.length)
  | _ => none

/-- Whatever is done to the bodies that come in, as long as their lengths stay: every step shows
what it showed before, with this done to the bodies that are shown. What is logged, what shows of
the session between steps and what stands for a message in diagnostics are the same. And the
session might as well handle the bodies themselves. -/
theorem shown_map (f : Bytes → Bytes) (sameLength : ∀ body, (f body).length = body.length)
    (setup : Setup) (pool : PoolSettings) (consumers : List ConsumerSettings)
    (steps : List (Step Bytes)) :
    shown (setup.map f) pool consumers (steps.map (Step.map f)) =
        (shown setup pool consumers steps).map (List.map (Entry.map f)) ∧
      (shown (setup.map f) pool consumers (steps.map (Step.map f))).map (List.map Entry.text?) =
        (shown setup pool consumers steps).map (List.map Entry.text?) ∧
      shown setup pool consumers steps =
        (Session.create setup.source pool consumers).map (·.entries steps) := by
  have replaced : shown (setup.map f) pool consumers (steps.map (Step.map f)) =
      (shown setup pool consumers steps).map (List.map (Entry.map f)) := by
    have source : (setup.map f).source = setup.source.map f := by cases setup <;> rfl
    rw [shown_eq, shown_eq, source, Session.map_create]
    cases Session.create setup.source pool consumers with
    | error fault => rfl
    | ok s => exact congrArg Except.ok (s.map_entries f steps)
  have text (entry : Entry) : (entry.map f).text? = entry.text? := by
    obtain ⟨reply, snapshot, log⟩ := entry
    cases reply with
    | description m => exact congrArg some (m.describe_map (sameLength m.body))
    | _ => rfl
  refine ⟨replaced, ?_, shown_eq setup pool consumers steps⟩
  rw [replaced]
  cases shown setup pool consumers steps with
  | error fault => rfl
  | ok entries =>
    refine congrArg Except.ok ?_
    rw [List.map_map]
    exact List.map_congr_left fun entry _ => text entry

/-- A body is published to a channel that is leased directly. -/
def publishing : List (Step Bytes) :=
  [.move .lease, .move (.subscribe 0 ⟨"jobs", "first", ⟨false, false, false, false⟩, []⟩),
    .publish [[104, 105]], .move (.next 0)]

/-- A consumer receives a body, the message is taken, and diagnostics show it. -/
def describing : List (Step Bytes) :=
  [.move .start, .move .settle, .publish [[104, 105]], .move .settle, .move (.take .messages),
    .move (.describe 0)]

theorem shown_map_reverse :
    (∀ body : Bytes, body.reverse.length = body.length) ∧
      (shown (.broker "jobs") .default [] (publishing.map (Step.map List.reverse)) =
          (shown (.broker "jobs") .default [] publishing).map
            (List.map (Entry.map List.reverse)) ∧
        (shown (.broker "jobs") .default [] publishing).toOption.bind (fun entries =>
          entries.getLast?.map (·.reply)) =
            some (.delivery ⟨1, [104, 105], false, "", ""⟩)) ∧
      (shown (.broker "jobs") .default [.ofNames "jobs" "worker"]
          (describing.map (Step.map List.reverse))).toOption.bind (fun entries =>
        entries[4]?.map (·.reply)) =
          some (.item (.message ⟨true, 1, [105, 104], ⟨1, 1⟩⟩)) ∧
      (shown (.broker "jobs") .default [.ofNames "jobs" "worker"]
          (describing.map (Step.map List.reverse))).map (List.map Entry.text?) =
        .ok [none, none, none, none, none, some
          "Message \x7b ackable: true, delivery_tag: 1, body_len: 2, channel_id: 1 \x7d"] := by
  have sameLength (body : Bytes) : body.reverse.length = body.length := List.length_reverse
  obtain ⟨reversed, text, _⟩ := shown_map List.reverse sameLength (.broker "jobs") .default
    [.ofNames "jobs" "worker"] describing
  refine ⟨sameLength, ⟨(shown_map List.reverse sameLength (.broker "jobs") .default []
    publishing).1, rfl⟩, ?_, text.trans rfl⟩
  have first := congrArg (fun got => got.toOption.bind fun entries => entries[4]?.map (·.reply))
    reversed
  exact first.trans rfl

end Run

end Intake
