import Intake.Proofs.Broker.Course

/-! # Calls that fail

A call that fails leaves a broker as it was, but for the count of calls to lease a channel and for
the failure it was made to have: `Broker.Untouched`. Calls that are made to fail are the next ones
and no others: `Broker.FailsFirst`.
-/

namespace Intake

namespace Broker

variable {β : Type} {b : Broker β}

/-- The fault of a call to lease a channel that is made to fail. -/
def leaseRefusal : ChannelFault := .unavailable "connection refused"

/-- The fault of a call to receive that is made to fail. -/
def subscriptionRefusal : ChannelFault := .refused 541 "INTERNAL_ERROR - consume refused"

/-- How many further calls are made to fail: to lease a channel, and to receive. -/
def script (b : Broker β) : Nat × Nat := (b.failLeases, b.failSubscriptions)

/-! ## Calls one by one -/

/-- A call to lease a channel fails only if it is made to. -/
private theorem lease_scripted (b : Broker β) :
    (0 < b.failLeases ∧ b.lease = (.error leaseRefusal,
        { b with leases := b.leases + 1, failLeases := b.failLeases - 1 })) ∨
      (b.failLeases = 0 ∧ (∃ channel, b.lease.1 = .ok channel) ∧ b.lease.2.script = b.script) := by
  obtain none | some := Nat.eq_zero_or_pos b.failLeases
  · have leased : b.lease = (.ok ⟨b.lanes.length + 1, b.lanes.length + 1⟩,
        { b with
          leases := b.leases + 1
          lanes := b.lanes ++ [.ofId (b.lanes.length + 1)] }) :=
      if_neg (by simp [none])
    rw [leased]
    exact .inr ⟨none, ⟨_, rfl⟩, rfl⟩
  · exact .inl ⟨some, if_pos some⟩

@[simp] theorem script_setLane (b : Broker β) (lane : Lane β) :
    (b.setLane lane).script = b.script := rfl

@[simp] theorem script_withLane (b : Broker β) (id : Nat) (change : Lane β → Lane β) :
    (b.withLane id change).script = b.script := by
  unfold withLane
  split <;> rfl

@[simp] theorem script_retire (b : Broker β) (id : Nat) : (b.retire id).script = b.script := by
  unfold retire
  split <;> rfl

private theorem script_deliverAll (b : Broker β) (bodies : List (Ready β)) :
    (b.deliverAll bodies).script = b.script := by
  induction bodies generalizing b with
  | nil => rfl
  | cons r rest ih =>
    rw [deliverAll]
    split
    · rfl
    · split
      · exact ih _
      · rfl

@[simp] theorem script_pump (b : Broker β) : b.pump.script = b.script := script_deliverAll _ _

@[simp] theorem script_requeue (b : Broker β) (bodies : List β) :
    (b.requeue bodies).script = b.script := by
  unfold requeue
  split
  · rfl
  · exact script_pump _

@[simp] theorem script_close (b : Broker β) (id : Nat) (closure : Closure) :
    (b.close id closure).script = b.script := by
  unfold close
  split
  · rfl
  · split
    · rw [script_requeue, script_retire, script_setLane]
    · rfl

/-- A call to receive that is made to fail does so with a fault that it never has otherwise, and
any other failure of it changes nothing. -/
private theorem subscribe_scripted (b : Broker β) (id : Nat) (s : Subscription) :
    (0 < b.failSubscriptions ∧ b.subscribe id s = (.error subscriptionRefusal,
        { b with failSubscriptions := b.failSubscriptions - 1 })) ∨
      (b.failSubscriptions = 0 ∧
        (∃ fault ≠ subscriptionRefusal, b.subscribe id s = (.error fault, b))) ∨
      (b.failSubscriptions = 0 ∧ (b.subscribe id s).1 = .ok () ∧
        (b.subscribe id s).2.script = b.script) := by
  obtain none | some := Nat.eq_zero_or_pos b.failSubscriptions
  · right
    simp only [none, true_and, subscribe, Nat.lt_irrefl, ↓reduceIte]
    by_cases other : s.queue ≠ b.queue
    · rw [if_pos other]
      exact .inl ⟨_, by simp [subscriptionRefusal], rfl⟩
    · rw [if_neg other]
      split
      · exact .inl ⟨_, by simp [subscriptionRefusal], rfl⟩
      · split
        · exact .inr ⟨rfl, script_pump _⟩
        · exact .inl ⟨_, by simp [subscriptionRefusal], rfl⟩
  · exact .inl ⟨some, if_pos some⟩

private theorem settle_scripted (b : Broker β) (id tag : Nat) (verdict : Verdict) :
    (∃ fault, b.settle id tag verdict = (.error fault, b)) ∨
      ((b.settle id tag verdict).1 = .ok () ∧
        (b.settle id tag verdict).2.script = b.script) := by
  unfold settle
  split
  · exact .inl ⟨_, rfl⟩
  · split
    · exact .inr ⟨rfl, script_requeue _ _⟩
    · exact .inl ⟨_, rfl⟩

/-! ## Acts one by one -/

/-- What a call to lease a channel is answered, if the act is one. -/
def leaseAnswer (b : Broker β) : Act β → List (Except ChannelFault Channel)
  | .lease => [b.lease.1]
  | _ => []

/-- What a call to receive is answered, if the act is one. -/
def subscribeAnswer (b : Broker β) : Act β → List (Except ChannelFault Unit)
  | .subscribe id s => [(b.subscribe id s).1]
  | _ => []

/-- The act says how many calls are to fail, or is a call that may be made to. -/
def Act.Scripted : Act β → Prop
  | .lease | .subscribe .. | .failLeases _ | .failSubscriptions _ => True
  | _ => False

/-- No other act has to do with the calls that are made to fail. -/
theorem script_apply {a : Act β} (other : ¬ a.Scripted) : (b.apply a).script = b.script := by
  cases a with
  | lease | subscribe | failLeases | failSubscriptions => exact absurd trivial other
  | publish body => exact script_pump _
  | limit id prefetch forAll =>
    change (b.limit id prefetch forAll).2.script = _
    unfold limit
    split <;> rfl
  | settle id tag verdict =>
    obtain ⟨fault, failed⟩ | ⟨_, same⟩ := b.settle_scripted id tag verdict
    · exact congrArg (script ·.2) failed
    · exact same
  | release id errored =>
    exact (script_withLane _ _ _).trans (script_retire _ _)
  | close id closure => exact script_close _ _ _
  | closeActive closure =>
    change (b.closeActive closure).2.script = _
    unfold closeActive
    split
    · rfl
    · exact script_close _ _ _
  | cancel =>
    change b.cancel.2.script = _
    unfold cancel
    split
    · rfl
    · exact script_withLane _ _ _
  | take | dropStream | takeNotice | dropNotices => exact script_withLane _ _ _

/-! ## Calls that are made to fail -/

section

variable {α : Type} {refusal : ChannelFault}

/-- The first `n` answers are a refusal, and no later one is. -/
def FailsFirst (n : Nat) (refusal : ChannelFault) (answers : List (Except ChannelFault α)) : Prop :=
  (∀ answer ∈ answers.take n, answer = .error refusal) ∧
    ∀ answer ∈ answers.drop n, answer ≠ .error refusal

private theorem FailsFirst.cons {n : Nat} {answer : Except ChannelFault α}
    {answers : List (Except ChannelFault α)} (now : answer = .error refusal ↔ 0 < n)
    (later : FailsFirst (n - 1) refusal answers) : FailsFirst n refusal (answer :: answers) := by
  obtain ⟨fails, holds⟩ := later
  cases n with
  | zero => exact ⟨nofun, List.forall_mem_cons.mpr ⟨mt now.mp (Nat.lt_irrefl 0), holds⟩⟩
  | succ n => exact ⟨List.forall_mem_cons.mpr ⟨now.mpr n.succ_pos, fails⟩, holds⟩

/-- An act that is a call is refused if one is left to be, and takes it; any other leaves all. -/
def CountsDown (left : Broker β → Nat) (refusal : ChannelFault)
    (answers : Broker β → Act β → List (Except ChannelFault α)) (b : Broker β) (a : Act β) : Prop :=
  (answers b a = [] ∧ left (b.apply a) = left b) ∨
    ∃ answer, answers b a = [answer] ∧ (answer = .error refusal ↔ 0 < left b) ∧
      left (b.apply a) = left b - 1

/-- Acts that count down one by one do so together. -/
private theorem failsFirst_gather (left : Broker β → Nat)
    {answers : Broker β → Act β → List (Except ChannelFault α)} {acts : List (Act β)}
    (counts : ∀ a ∈ acts, ∀ b, CountsDown left refusal answers b a) (b : Broker β) :
    FailsFirst (left b) refusal (Replay.gather step? answers b acts) := by
  induction acts generalizing b with
  | nil => simp [FailsFirst, Replay.gather, Replay.transitions]
  | cons a rest ih =>
    obtain ⟨here, counts⟩ := List.forall_mem_cons.mp counts
    have later := ih counts (b.apply a)
    rw [Replay.gather_cons answers rest (show step? b a = some (b.apply a) from rfl)]
    obtain ⟨given, same⟩ | ⟨answer, given, now, fewer⟩ := here b
    · rw [given, ← same]
      exact later
    · rw [given, List.singleton_append]
      rw [fewer] at later
      exact later.cons now

end

private theorem countsDown_lease (b : Broker β) {a : Act β}
    (kept : ∀ count, a ≠ .failLeases count) :
    CountsDown failLeases leaseRefusal leaseAnswer b a := by
  by_cases scripted : a.Scripted
  · cases a with
    | lease =>
      refine .inr ⟨_, rfl, ?_⟩
      change (b.lease.1 = _ ↔ _) ∧ b.lease.2.failLeases = _
      obtain ⟨some, failed⟩ | ⟨none, ⟨channel, leased⟩, same⟩ := b.lease_scripted
      · rw [failed]
        exact ⟨iff_of_true rfl some, rfl⟩
      · rw [leased, none]
        exact ⟨iff_of_false nofun (Nat.lt_irrefl 0), (congrArg Prod.fst same).trans none⟩
    | subscribe id s =>
      refine .inl ⟨rfl, ?_⟩
      change (b.subscribe id s).2.failLeases = _
      obtain ⟨_, failed⟩ | ⟨_, _, _, failed⟩ | ⟨_, _, same⟩ := b.subscribe_scripted id s
      · rw [failed]
      · rw [failed]
      · exact congrArg Prod.fst same
    | failLeases count => exact absurd rfl (kept count)
    | failSubscriptions count => exact .inl ⟨rfl, rfl⟩
    | _ => exact scripted.elim
  · refine .inl ⟨?_, congrArg Prod.fst (script_apply scripted)⟩
    cases a with
    | lease => exact absurd trivial scripted
    | _ => rfl

private theorem countsDown_subscribe (b : Broker β) {a : Act β}
    (kept : ∀ count, a ≠ .failSubscriptions count) :
    CountsDown failSubscriptions subscriptionRefusal subscribeAnswer b a := by
  by_cases scripted : a.Scripted
  · cases a with
    | lease =>
      refine .inl ⟨rfl, ?_⟩
      change b.lease.2.failSubscriptions = _
      obtain ⟨_, failed⟩ | ⟨_, _, same⟩ := b.lease_scripted
      · rw [failed]
      · exact congrArg Prod.snd same
    | subscribe id s =>
      refine .inr ⟨_, rfl, ?_⟩
      change ((b.subscribe id s).1 = _ ↔ _) ∧ (b.subscribe id s).2.failSubscriptions = _
      obtain ⟨some, failed⟩ | ⟨none, fault, other, failed⟩ | ⟨none, began, same⟩ :=
        b.subscribe_scripted id s
      · rw [failed]
        exact ⟨iff_of_true rfl some, rfl⟩
      · rw [failed, none]
        exact ⟨iff_of_false (fun same => other (Except.error.inj same)) (Nat.lt_irrefl 0), rfl⟩
      · rw [began, none]
        exact ⟨iff_of_false nofun (Nat.lt_irrefl 0), (congrArg Prod.snd same).trans none⟩
    | failLeases count => exact .inl ⟨rfl, rfl⟩
    | failSubscriptions count => exact absurd rfl (kept count)
    | _ => exact scripted.elim
  · refine .inl ⟨?_, congrArg Prod.snd (script_apply scripted)⟩
    cases a with
    | subscribe => exact absurd trivial scripted
    | _ => rfl

/-! ## Failures in all -/

/-- A call that fails changes nothing, but that a call to lease a channel is counted and that a
failure which was still to come is not any more. -/
structure Untouched (b : Broker β) : Prop where
  lease : ∀ fault b', b.lease = (.error fault, b') →
    0 < b.failLeases ∧ fault = leaseRefusal ∧
      b' = { b with leases := b.leases + 1, failLeases := b.failLeases - 1 }
  subscribe : ∀ id s fault b', b.subscribe id s = (.error fault, b') →
    (0 < b.failSubscriptions ∧ fault = subscriptionRefusal ∧
      b' = { b with failSubscriptions := b.failSubscriptions - 1 }) ∨
    (b.failSubscriptions = 0 ∧ fault ≠ subscriptionRefusal ∧ b' = b)
  settle : ∀ id tag verdict fault b', b.settle id tag verdict = (.error fault, b') → b' = b

private theorem untouched (b : Broker β) : b.Untouched where
  lease fault b' failed := by
    obtain ⟨some, refused⟩ | ⟨_, ⟨channel, leased⟩, _⟩ := b.lease_scripted
    · cases refused.symm.trans failed
      exact ⟨some, rfl, rfl⟩
    · rw [failed] at leased
      cases leased
  subscribe id s fault b' failed := by
    obtain ⟨some, refused⟩ | ⟨none, other, distinct, refused⟩ | ⟨_, began, _⟩ :=
      b.subscribe_scripted id s
    · cases refused.symm.trans failed
      exact .inl ⟨some, rfl, rfl⟩
    · cases refused.symm.trans failed
      exact .inr ⟨none, distinct, rfl⟩
    · rw [failed] at began
      cases began
  settle id tag verdict fault b' failed := by
    obtain ⟨other, refused⟩ | ⟨settled, _⟩ := b.settle_scripted id tag verdict
    · cases refused.symm.trans failed
      rfl
    · rw [failed] at settled
      cases settled

/-- A call that fails leaves a broker as it was. When some calls are to fail, those are the next
ones, whatever else is asked of the broker meanwhile, until it is told of others. -/
theorem failures_leave_untouched (b : Broker β) : b.Untouched ∧
    (∀ n acts, (∀ count, .failLeases count ∉ acts) →
      FailsFirst n leaseRefusal
        (Replay.gather step? leaseAnswer (b.apply (.failLeases n)) acts)) ∧
    (∀ n acts, (∀ count, .failSubscriptions count ∉ acts) →
      FailsFirst n subscriptionRefusal
        (Replay.gather step? subscribeAnswer (b.apply (.failSubscriptions n)) acts)) := by
  refine ⟨b.untouched, fun n acts kept => ?_, fun n acts kept => ?_⟩
  · refine failsFirst_gather failLeases (fun a member m => ?_) (b.apply (.failLeases n))
    exact m.countsDown_lease fun count same => kept count (same ▸ member)
  · refine failsFirst_gather failSubscriptions (fun a member m => ?_)
      (b.apply (.failSubscriptions n))
    exact m.countsDown_subscribe fun count same => kept count (same ▸ member)

/-- Calls of all kinds, some of which fail whatever they are made to. -/
def mixedCalls : List (Act Nat) :=
  [.lease, .subscribe 1 ⟨"letters", "first", ⟨false, false, false, false⟩, []⟩, .publish 7, .lease,
    .subscribe 1 ⟨"letters", "first", ⟨false, false, false, false⟩, []⟩, .settle 1 99 (.ack false),
    .lease, .subscribe 1 ⟨"jobs", "first", ⟨false, false, false, false⟩, []⟩]

theorem failures_leave_untouched_mixed :
    (ofQueue "jobs" : Broker Nat).Untouched ∧
      Replay.gather step? leaseAnswer ((ofQueue "jobs").apply (.failLeases 2)) mixedCalls =
        [.error leaseRefusal, .error leaseRefusal, .ok ⟨1, 1⟩] ∧
      FailsFirst 2 leaseRefusal
        (Replay.gather step? leaseAnswer ((ofQueue "jobs").apply (.failLeases 2)) mixedCalls) ∧
      Replay.gather step? subscribeAnswer
          ((ofQueue "jobs").apply (.failSubscriptions 1)) mixedCalls =
        [.error subscriptionRefusal,
          .error (.refused 404 "NOT_FOUND - no queue 'letters'"), .ok ()] ∧
      FailsFirst 1 subscriptionRefusal (Replay.gather step? subscribeAnswer
        ((ofQueue "jobs").apply (.failSubscriptions 1)) mixedCalls) := by
  obtain ⟨untouched, leases, subscriptions⟩ :=
    failures_leave_untouched (ofQueue "jobs" : Broker Nat)
  exact ⟨untouched, rfl, leases 2 mixedCalls (by simp [mixedCalls]), rfl,
    subscriptions 1 mixedCalls (by simp [mixedCalls])⟩

end Broker

end Intake
