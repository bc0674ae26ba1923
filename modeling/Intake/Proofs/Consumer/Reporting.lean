import Intake.Proofs.Consumer.Marks
import Intake.Proofs.Queue.Order

/-! # Errors are kept or dropped

The queue of errors is a list with room for so many: a report goes behind the errors that wait, or
is dropped if they take up all the room. Nobody ever waits to report. Reports and those who read the
queue come in any order; each report is counted once, as kept or as dropped, and the errors that
leave the queue are the ones that were kept, in the order they were reported.
-/

namespace Intake

namespace Queue

variable {α : Type} {q q' : Queue α}

/-- Where no sender waits, only the items take up room. -/
private theorem push?_of_senders (alone : q.senders = []) (a : α) :
    q.push? a =
      if q.items.length < q.capacity then some { q with items := q.items ++ [a] } else none := by
  obtain ⟨granted, _⟩ := List.append_eq_nil_iff.mp alone
  rw [push?, used, granted, List.length_nil, Nat.add_zero]

end Queue

namespace Readings

/-- The readings of reports, given which were kept and which were dropped. -/
def ofReports (kept dropped : List Fault) : Readings :=
  (kept.map fun fault => .errorReported fault.kind) ++
    dropped.map fun fault => .errorDropped fault.kind

private theorem count_ofReports (kept dropped : List Fault) (kind : String) :
    List.count (.errorReported kind) (ofReports kept dropped) = kept.countP (·.kind = kind) ∧
      List.count (.errorDropped kind) (ofReports kept dropped) =
        dropped.countP (·.kind = kind) := by
  simp only [ofReports, List.count_eq_countP, List.countP_append, List.countP_map]
  constructor
  · rw [List.countP_eq_zero.mpr fun fault (_ : fault ∈ dropped) => by simp, Nat.add_zero]
    exact List.countP_congr fun fault _ => by simp
  · rw [List.countP_eq_zero.mpr fun fault (_ : fault ∈ kept) => by simp, Nat.zero_add]
    exact List.countP_congr fun fault _ => by simp

end Readings

namespace Consumer

open Replay

variable {β : Type}

/-- What is done with the queue of errors. -/
inductive Filing where
  | report (fault : Fault)
  | use (u : Queue.Use)
  /-- Discard the first error by the right to read, as a flush does that others see happen bit by
  bit. -/
  | discard (reader : Nat)
deriving DecidableEq, Repr

/-- A consumer after something was done with its queue of errors. None if a reader that wants to
discard an error has to wait. -/
def file? (c : Consumer β) : Filing → Option (Consumer β)
  | .report fault => some (c.report fault)
  | .use u => some (c.perform (.use .errors u))
  | .discard reader => (c.errors.step? (.discard reader)).map fun errors => { c with errors }

/-- Fewer errors wait than there is room for. -/
def HasRoom (c : Consumer β) : Prop := c.errors.items.length < c.settings.errorBuffer.toNat

instance (c : Consumer β) : Decidable c.HasRoom := inferInstanceAs (Decidable (_ < _))

/-- The report that is kept: one for which there is room. -/
def kept (c : Consumer β) : Filing → List Fault
  | .report fault => if c.HasRoom then [fault] else []
  | .use _ | .discard _ => []

/-- The report that is dropped: one for which there is no room. -/
def dropped (c : Consumer β) : Filing → List Fault
  | .report fault => if c.HasRoom then [] else [fault]
  | .use _ | .discard _ => []

/-- The errors that are taken out: one that a reader gets, or those that are discarded. -/
def removed (c : Consumer β) : Filing → List Fault
  | .report _ => []
  | .use u => c.errors.removed (.use u)
  | .discard reader => c.errors.removed (.discard reader)

/-- The queue of errors has room for so many, and nobody stands in line to put one in. -/
structure Filed (c : Consumer β) (room : Nat) : Prop where
  settings : c.settings.errorBuffer.toNat = room
  capacity : c.errors.capacity = room
  alone : c.errors.senders = []
  bounded : c.errors.items.length ≤ room

variable {c c' c₀ : Consumer β} {f : Filing} {room : Nat}

namespace Filed

private theorem create {settings : ConsumerSettings} {pool : PoolSettings}
    (created : Consumer.create settings pool = .ok c) : c.Filed settings.errorBuffer.toNat := by
  rw [create_eq_ok created]
  exact ⟨rfl, rfl, rfl, Nat.zero_le _⟩

/-- A report for which there is room goes behind the errors that wait. -/
private theorem report_of_hasRoom (filed : c.Filed room) (hasRoom : c.HasRoom) (fault : Fault) :
    c.report fault = { c with errors := { c.errors with items := c.errors.items ++ [fault] } }.meter
      (.errorReported fault.kind) := by
  have free : c.errors.items.length < c.errors.capacity := by
    rw [filed.capacity, ← filed.settings]
    exact hasRoom
  rw [Consumer.report, Queue.push?_of_senders filed.alone, if_pos free]

/-- A report for which there is no room leaves the errors as they are. -/
private theorem report_of_full (filed : c.Filed room) (full : ¬ c.HasRoom) (fault : Fault) :
    c.report fault = (c.log (.reportDropped c.settings.queue fault)).meter
      (.errorDropped fault.kind) := by
  have taken : ¬ c.errors.items.length < c.errors.capacity := by
    rw [filed.capacity, ← filed.settings]
    exact full
  rw [Consumer.report, Queue.push?_of_senders filed.alone, if_neg taken]

private theorem report (filed : c.Filed room) (fault : Fault) : (c.report fault).Filed room := by
  by_cases hasRoom : c.HasRoom
  · rw [filed.report_of_hasRoom hasRoom]
    refine ⟨filed.settings, filed.capacity, filed.alone, ?_⟩
    have settings := filed.settings
    unfold HasRoom at hasRoom
    simp only [Consumer.meter, List.length_append, List.length_singleton]
    omega
  · rw [filed.report_of_full hasRoom]
    exact ⟨filed.settings, filed.capacity, filed.alone, filed.bounded⟩

/-- Errors that go leave room, and bring nobody into the line. -/
private theorem freed {errors : Queue Fault} {gone : Nat} (filed : c.Filed room)
    (freed : c.errors.Freed gone errors) : Consumer.Filed { c with errors } room := by
  refine ⟨filed.settings, freed.capacity.trans filed.capacity, freed.senders.trans filed.alone, ?_⟩
  have bounded := filed.bounded
  simp only [freed.items, List.length_drop]
  omega

private theorem file? (filed : c.Filed room) (done : c.file? f = some c') : c'.Filed room := by
  cases f with
  | report fault =>
    cases done
    exact filed.report fault
  | use u =>
    cases done
    rw [perform_use_errors]
    obtain ⟨gone, freed⟩ := c.errors.exists_freed u
    exact filed.freed freed
  | discard reader =>
    obtain ⟨errors, stepped, rfl⟩ := Option.map_eq_some_iff.mp done
    simp only [Queue.step?, Option.ite_none_right_eq_some, Option.map_eq_some_iff] at stepped
    obtain ⟨_, got, popped, rfl⟩ := stepped
    exact filed.freed (.pop? popped)

/-- What is kept comes behind the errors that wait, and what is taken out are the first of them. -/
private theorem items_file? (filed : c.Filed room) (done : c.file? f = some c') :
    c.errors.items ++ c.kept f = c.removed f ++ c'.errors.items := by
  cases f with
  | report fault =>
    cases done
    by_cases hasRoom : c.HasRoom
    · rw [filed.report_of_hasRoom hasRoom, kept, if_pos hasRoom]
      rfl
    · rw [filed.report_of_full hasRoom, kept, if_neg hasRoom, List.append_nil]
      rfl
  | use u =>
    cases done
    rw [perform_use_errors]
    exact Queue.items_step? (e := .use u) rfl
  | discard reader =>
    obtain ⟨errors, stepped, rfl⟩ := Option.map_eq_some_iff.mp done
    exact Queue.items_step? stepped

/-- A report is counted once, as kept or as dropped, and nothing else is counted. -/
private theorem metered_file? (filed : c.Filed room) (done : c.file? f = some c') :
    c'.metered = c.metered ++ .ofReports (c.kept f) (c.dropped f) := by
  cases f with
  | report fault =>
    cases done
    by_cases hasRoom : c.HasRoom
    · rw [filed.report_of_hasRoom hasRoom, metered_meter, kept, dropped, if_pos hasRoom,
        if_pos hasRoom]
      rfl
    · rw [filed.report_of_full hasRoom, metered_meter, metered_log, kept, dropped,
        if_neg hasRoom, if_neg hasRoom]
      rfl
  | use u =>
    cases done
    rw [perform_use_errors]
    exact (List.append_nil _).symm
  | discard reader =>
    obtain ⟨errors, _, rfl⟩ := Option.map_eq_some_iff.mp done
    exact (List.append_nil _).symm

end Filed

/-! ## Histories -/

section

variable {settings : ConsumerSettings} {pool : PoolSettings} {filing : List Filing}

private theorem filed_of_after? (created : create settings pool = .ok c₀)
    (ran : after? file? c₀ filing = some c) : c.Filed settings.errorBuffer.toNat :=
  after?_preserves (P := fun c => c.Filed settings.errorBuffer.toNat)
    (fun _ _ _ filed done => filed.file? done) (.create created) ran

/-- The errors that were kept are those that were taken out, and behind them those that wait. -/
private theorem items_of_filing (created : create settings pool = .ok c₀)
    (ran : after? file? c₀ filing = some c) :
    gather file? kept c₀ filing = gather file? removed c₀ filing ++ c.errors.items := by
  refine after?_induction (P := fun filing c =>
    gather file? kept c₀ filing = gather file? removed c₀ filing ++ c.errors.items) ?_ ?_ ran
  · rw [create_eq_ok created]
    rfl
  · intro filing middle f next before ih done
    have filed := filed_of_after? created before
    rw [gather_concat kept before done, gather_concat removed before done, ih, List.append_assoc,
      filed.items_file? done, List.append_assoc]

/-- The reports of a kind that were kept, and those that were dropped, are as many as were counted
of that kind. -/
private theorem counts_of_filing (created : create settings pool = .ok c₀)
    (ran : after? file? c₀ filing = some c) (kind : String) :
    c.metered.count ("amqp_consumer_errors_total", "kind=" ++ kind) =
        (gather file? kept c₀ filing).countP (·.kind = kind) ∧
      c.metered.count ("amqp_consumer_errors_dropped_total", "kind=" ++ kind) =
        (gather file? dropped c₀ filing).countP (·.kind = kind) := by
  rw [Readings.count_reported, Readings.count_dropped]
  refine after?_induction (P := fun filing c =>
    List.count (.errorReported kind) c.metered =
        (gather file? kept c₀ filing).countP (·.kind = kind) ∧
      List.count (.errorDropped kind) c.metered =
        (gather file? dropped c₀ filing).countP (·.kind = kind)) ?_ ?_ ran
  · rw [create_eq_ok created]
    exact ⟨rfl, rfl⟩
  · intro filing middle f next before ih done
    have metered := (filed_of_after? created before).metered_file? done
    obtain ⟨reported, dropped⟩ := Readings.count_ofReports (middle.kept f) (middle.dropped f) kind
    simp only [gather_concat Consumer.kept before done, gather_concat Consumer.dropped before done,
      metered, List.count_append, List.countP_append, ih.1, ih.2, reported, dropped, and_self]

/-- Whatever is reported while others read the queue of errors, and in whatever order, nobody stands
in line to report, and a report is possible at any time: if fewer errors wait than there is room for
it goes behind them and is counted under its kind, else they stay as they are and it is counted as
dropped. What was taken out of the queue are the reports that were kept, in their order, and behind
them are those that wait. -/
theorem reports_drop_newest (created : create settings pool = .ok c₀)
    (ran : after? file? c₀ filing = some c) :
    gather file? kept c₀ filing = gather file? removed c₀ filing ++ c.errors.items ∧
      (∀ kind,
        c.metered.count ("amqp_consumer_errors_total", "kind=" ++ kind) =
            (gather file? kept c₀ filing).countP (·.kind = kind) ∧
          c.metered.count ("amqp_consumer_errors_dropped_total", "kind=" ++ kind) =
            (gather file? dropped c₀ filing).countP (·.kind = kind)) ∧
      c.errors.items.length ≤ settings.errorBuffer.toNat ∧ c.errors.senders = [] ∧
      ∀ fault, ∃ next, c.file? (.report fault) = some next ∧
        (c.errors.items.length < settings.errorBuffer.toNat →
          next.errors = { c.errors with items := c.errors.items ++ [fault] } ∧
            next.metered = c.metered ++ [.errorReported fault.kind]) ∧
        (settings.errorBuffer.toNat ≤ c.errors.items.length →
          next.errors = c.errors ∧ next.metered = c.metered ++ [.errorDropped fault.kind]) := by
  have filed := filed_of_after? created ran
  refine ⟨items_of_filing created ran, counts_of_filing created ran, filed.bounded, filed.alone,
    fun fault => ⟨c.report fault, rfl, fun fewer => ?_, fun full => ?_⟩⟩
  · have hasRoom : c.HasRoom := by rwa [HasRoom, filed.settings]
    rw [filed.report_of_hasRoom hasRoom]
    exact ⟨rfl, metered_meter _ _⟩
  · have noRoom : ¬ c.HasRoom := by rwa [HasRoom, filed.settings, Nat.not_lt]
    rw [filed.report_of_full noRoom]
    refine ⟨rfl, ?_⟩
    rw [metered_meter, metered_log]

end

/-- There is room for two errors. A reader waits while three are reported, of which the third is
dropped; the reader takes the first, and one more is kept. A flush in vain is followed by one that
discards an error bit by bit, and a last report is kept. -/
def crowded : List Filing :=
  [.use (.enter 1), .report (.acquisition .closed), .report (.streamEnded "orders"),
    .report (.acquisition .closed), .use .take, .use (.read 1), .report (.channelClosed ⟨320, ""⟩),
    .report (.streamEnded "orders"), .use (.enter 2), .use .flush, .discard 2, .use (.quit 2),
    .report (.acquisition (.unavailable "gone"))]

theorem reports_drop_newest_crowded : ∃ c₀ c : Consumer Nat,
    create { ConsumerSettings.default with errorBuffer := 2 } .default = .ok c₀ ∧
    after? file? c₀ crowded = some c ∧
    gather file? removed c₀ crowded = [.acquisition .closed, .streamEnded "orders"] ∧
    gather file? kept c₀ crowded = gather file? removed c₀ crowded ++ c.errors.items ∧
    c.metered.count ("amqp_consumer_errors_total", "kind=acquisition") = 2 ∧
    c.metered.count ("amqp_consumer_errors_dropped_total", "kind=stream_ended") = 1 ∧
    ∃ next, c.file? (.report (.streamEnded "orders")) = some next ∧ next.errors = c.errors := by
  obtain ⟨c₀, created, full, removed, kept, dropped⟩ : ∃ c₀ : Consumer Nat,
      create { ConsumerSettings.default with errorBuffer := 2 } .default = .ok c₀ ∧
      (after? file? c₀ crowded).any (fun c => decide (2 ≤ c.errors.items.length)) = true ∧
      gather file? removed c₀ crowded = [.acquisition .closed, .streamEnded "orders"] ∧
      (gather file? kept c₀ crowded).countP (·.kind = "acquisition") = 2 ∧
      (gather file? Consumer.dropped c₀ crowded).countP (·.kind = "stream_ended") = 1 :=
    ⟨_, rfl, by decide +kernel, by decide +kernel, by decide +kernel, by decide +kernel⟩
  simp only [Option.any_eq_true, decide_eq_true_eq] at full
  obtain ⟨c, ran, full⟩ := full
  obtain ⟨inOrder, counts, _, _, reports⟩ := reports_drop_newest created ran
  obtain ⟨next, possible, _, drops⟩ := reports (.streamEnded "orders")
  exact ⟨c₀, c, created, ran, removed, inOrder, (counts "acquisition").1.trans kept,
    (counts "stream_ended").2.trans dropped, next, possible, (drops full).1⟩

end Consumer

end Intake
