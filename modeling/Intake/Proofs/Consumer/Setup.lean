import Intake.Consumer.Basic

/-! # Setting up a consumer

A consumer is refused if one of its queues has no room, and made with queues of just the room it
asks for if there can be that much: `Consumer.SetUp`. No other limit has to be kept, since that of
deliveries in flight is brought into its range. Larger queues are not refused by the settings but
by the queues themselves.
-/

namespace Intake

namespace Allowance

/-- There is always a permit. -/
private theorem one_le_permits (limit : Nat) : 1 ≤ permits limit := by
  have most : 1 ≤ mostPermits := by decide
  rw [permits]
  omega

end Allowance

namespace ConsumerSettings

/-- Both queues have room. -/
def HasRoom (s : ConsumerSettings) : Prop := s.messageBuffer ≠ 0 ∧ s.errorBuffer ≠ 0

/-- Neither queue is larger than there can be. -/
def Holdable (s : ConsumerSettings) : Prop :=
  s.messageBuffer.toNat ≤ Allowance.mostPermits ∧ s.errorBuffer.toNat ≤ Allowance.mostPermits

instance (s : ConsumerSettings) : Decidable s.HasRoom := inferInstanceAs (Decidable (_ ∧ _))

instance (s : ConsumerSettings) : Decidable s.Holdable := inferInstanceAs (Decidable (_ ∧ _))

private theorem validate_eq_ok_iff (s : ConsumerSettings) : s.validate = .ok () ↔ s.HasRoom := by
  rw [HasRoom, ← not_or, validate]
  split
  · next zero => exact iff_of_false nofun (not_not_intro zero)
  · next room => exact iff_of_true rfl room

/-- Queues without room are all that the check of the settings refuses. -/
private theorem validate_of_not_hasRoom {s : ConsumerSettings} (none : ¬ s.HasRoom) :
    ∃ text, s.validate = .error (.configuration text) :=
  ⟨_, if_pos (Classical.not_not.mp fun room => none (not_or.mp room))⟩

/-- With room in the queue of messages, some delivery may be under way. -/
private theorem one_le_inFlightLimit {s : ConsumerSettings} (room : s.HasRoom) :
    1 ≤ s.inFlightLimit := by
  have positive {n : UInt64} (nonzero : n ≠ 0) : 1 ≤ n.toNat :=
    Nat.one_le_iff_ne_zero.mpr fun zero => nonzero (UInt64.toNat_inj.mp zero)
  rw [inFlightLimit]
  split
  · exact positive room.1
  · next limited => exact positive limited

end ConsumerSettings

namespace Consumer

variable {β : Type}

/-- A consumer that nobody has used, with the room its settings ask for. -/
structure Fresh (settings : ConsumerSettings) (pool : PoolSettings) (c : Consumer β) : Prop where
  given : c.settings = settings ∧ c.pool = pool
  stopped : c.started = false ∧ c.phase = .idle
  messages : c.messages = .ofCapacity settings.messageBuffer.toNat
  errors : c.errors = .ofCapacity settings.errorBuffer.toNat
  /-- The limit of deliveries in flight is kept if it can be, and is never without a permit. -/
  inFlight : c.inFlight = 0 ∧ 1 ≤ c.allowance.free ∧
    c.allowance.free = min settings.inFlightLimit Allowance.mostPermits

/-- What may come of setting up a consumer: the faults are told by its settings alone. -/
structure SetUp (settings : ConsumerSettings) (pool : PoolSettings)
    (outcome : Except SetupFault (Consumer β)) : Prop where
  refused : (∃ text, outcome = .error (.fault (.configuration text))) ↔ ¬ settings.HasRoom
  made : (∃ c, outcome = .ok c) ↔ settings.HasRoom ∧ settings.Holdable
  beyond : outcome = .error .capacity ↔ settings.HasRoom ∧ ¬ settings.Holdable
  fresh : ∀ c, outcome = .ok c → c.Fresh settings pool

private theorem create_of_hasRoom {settings : ConsumerSettings} (room : settings.HasRoom)
    (pool : PoolSettings) : (settings.Holdable ∧
        ∃ c : Consumer β, create settings pool = .ok c ∧ c.Fresh settings pool) ∨
      (¬ settings.Holdable ∧
        (create settings pool : Except _ (Consumer β)) = .error .capacity) := by
  have valid : settings.validate = .ok () := settings.validate_eq_ok_iff.mpr room
  simp only [create, valid]
  split
  · next beyond =>
    refine .inr ⟨fun within => ?_, rfl⟩
    exact beyond.elim (Nat.not_lt.mpr within.1) (Nat.not_lt.mpr within.2)
  · next within =>
    rw [not_or, Nat.not_lt, Nat.not_lt] at within
    refine .inl ⟨within, _, rfl, ⟨rfl, rfl⟩, ⟨rfl, rfl⟩, rfl, rfl, rfl, ?_⟩
    refine ⟨Allowance.one_le_permits _, ?_⟩
    change Allowance.permits settings.inFlightLimit = _
    rw [Allowance.permits, Nat.max_eq_left (settings.one_le_inFlightLimit room)]

private theorem setUp_create (settings : ConsumerSettings) (pool : PoolSettings) :
    SetUp settings pool (create settings pool : Except _ (Consumer β)) := by
  by_cases room : settings.HasRoom
  · obtain ⟨within, c, made, fresh⟩ | ⟨beyond, failed⟩ := create_of_hasRoom (β := β) room pool
    · exact {
        refused := by simp [made, room]
        made := by simp [made, room, within]
        beyond := by simp [made, within]
        fresh := fun other same => Except.ok.inj (made.symm.trans same) ▸ fresh }
    · exact {
        refused := by simp [failed, room]
        made := by simp [failed, beyond]
        beyond := by simp [failed, room, beyond]
        fresh := by simp [failed] }
  · obtain ⟨text, invalid⟩ := ConsumerSettings.validate_of_not_hasRoom room
    have failed : (create settings pool : Except _ (Consumer β)) =
        .error (.fault (.configuration text)) := by
      simp only [create, invalid]
    exact {
      refused := by simp [failed, room]
      made := by simp [failed, room]
      beyond := by simp [failed, room]
      fresh := by simp [failed] }

/-- Whether a consumer is made depends on the room of its queues only, also when a document names
it. Whatever the limit of deliveries in flight, it is no reason to fail. -/
theorem setUp_cases (settings : ConsumerSettings) (pool : PoolSettings) :
    SetUp settings pool (create settings pool : Except _ (Consumer β)) ∧
      ∀ (d : Document) (name : String), d.consumer? name = some settings →
        SetUp settings d.pool (d.setUp name : Except _ (Consumer β)) := by
  refine ⟨setUp_create settings pool, fun d name registered => ?_⟩
  rw [Document.setUp, registered]
  exact setUp_create settings d.pool

/-- Settings with the largest limit of deliveries in flight, and room for few messages. -/
def limitless : ConsumerSettings :=
  { ConsumerSettings.ofNames "orders" "worker" with
    messageBuffer := 2, maxInFlight := 18446744073709551615 }

theorem setUp_limitless :
    (Document.mk ⟨50, 0⟩ [("a", limitless)]).consumer? "a" = some limitless ∧
      limitless.HasRoom ∧ limitless.Holdable ∧
      ∃ c : Consumer Nat, (Document.mk ⟨50, 0⟩ [("a", limitless)]).setUp "a" = .ok c ∧
        c.Fresh limitless ⟨50, 0⟩ ∧ c.allowance.free = 2305843009213693951 := by
  have registered : (Document.mk ⟨50, 0⟩ [("a", limitless)]).consumer? "a" = some limitless := rfl
  have room : limitless.HasRoom := by decide
  have within : limitless.Holdable := by decide
  have setUp := (setUp_cases (β := Nat) limitless .default).2 _ _ registered
  obtain ⟨c, made⟩ := setUp.made.mpr ⟨room, within⟩
  have fresh := setUp.fresh c made
  exact ⟨registered, room, within, c, made, fresh, fresh.inFlight.2.2⟩

/-- Settings that pass the check, with a queue larger than there can be. -/
def oversized : ConsumerSettings :=
  { ConsumerSettings.ofNames "q" "c" with messageBuffer := 2305843009213693952, errorBuffer := 1 }

/-- Settings without fault do not always make a consumer, and do not fail as a fault of theirs. -/
theorem oversized_not_created :
    oversized.HasRoom ∧ oversized.validate = .ok () ∧
      ¬ ∃ c : Consumer Nat, create oversized .default = .ok c ∧
        c.messages.capacity = oversized.messageBuffer.toNat := by
  have room : oversized.HasRoom := by decide
  obtain ⟨within, _⟩ | ⟨_, failed⟩ := create_of_hasRoom (β := Nat) room .default
  · exact absurd within (by decide)
  · exact ⟨room, oversized.validate_eq_ok_iff.mpr room, by simp [failed]⟩

end Consumer

end Intake
