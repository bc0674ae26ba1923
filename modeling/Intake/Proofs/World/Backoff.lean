import Intake.Proofs.Consumer.Work
import Intake.Proofs.World.Return

/-! # After a failure

When no channel is to be had, or the broker does not let the consumer receive on one, the loop
pauses and asks again. It does so for as long as it has to: nothing but a stop signal takes it out
of its work, however many leases fail and in whatever way.
-/

namespace Intake

namespace Consumer

variable {β : Type} {c c' : Consumer β} {now : Nat} {answer : Answer β}

/-- No channel was to be had: the loop pauses. -/
private theorem Advance.missed {fault : ChannelFault} (advance : Advance c now answer c')
    (failed : .lease (.error fault) ∈ c.deeds (.proceed now answer)) :
    c'.phase = .pausing none (now + c.settings.errorPause.toNat) := by
  have moves := advance.moves
  have acquiring := phase_of_lease moves failed
  have stepped := advance.proceed?_eq_some
  cases answer with
  | leased result =>
    have same : c.leased now result = c' := by
      simpa only [proceed?, acquiring, Option.some.injEq] using stepped
    subst same
    cases result with
    | error fault => rfl
    | ok channel =>
      rw [deeds_of_proceed? stepped (.leased ..) rfl (leased_phase_ne_idle _ _ _)] at failed
      simp [called, demand, acquiring] at failed
  | _ => simp [proceed?, acquiring] at stepped

/-- The broker does not let the consumer receive: the loop is about to give the channel back. -/
private theorem Advance.refused {channel : Channel} {subscription : Subscription}
    {fault : ChannelFault} (advance : Advance c now answer c')
    (failed : .subscribe channel subscription (.error fault) ∈ c.deeds (.proceed now answer)) :
    c'.phase = .releasing channel .refused := by
  have moves := advance.moves
  generalize c.phase = phase, c.deeds (.proceed now answer) = ds, c'.phase = phase'
    at moves failed ⊢
  cases moves with
  | refuse =>
    simp only [List.mem_cons, Deed.subscribe.injEq, reduceCtorEq, List.not_mem_nil, or_false]
      at failed
    rw [failed.1]
  | limit =>
    obtain ⟨_, call | ⟨_, told⟩⟩ := Deed.eq_of_mem_limiting failed
    · cases call
    · cases told
  | restore => cases (Deed.eq_of_mem_restoring failed).2
  | _ => simp at failed

end Consumer

namespace World

variable {β : Type} {w w' : World β} {x : Incident β} {i since : Nat}
  {settings : ConsumerSettings} {pool : PoolSettings} {c : Consumer β} {channel : Channel}
  {punctual : Prop}

/-- The broker did not let the consumer receive, and the channel is still to be given back. -/
structure Refused (punctual : Prop) (channel : Channel) (since : Nat) (w : World β)
    (c : Consumer β) : Prop where
  phase : c.phase = .releasing channel .refused
  later : since ≤ w.now
  early : punctual → w.now = since

namespace Refused

private theorem goesOn (refused : Refused punctual channel since w c)
    (stands : w.Stands i settings pool c) : w.loop? i ≠ none := by
  obtain ⟨next, proceeded⟩ := exists_proceed?_of_releasing w i refused.phase
  exact stands.loop?_ne_none proceeded

/-- The pause begins when the channel is given back. -/
private theorem leaves (refused : Refused punctual channel since w c)
    (stands : w.Stands i settings pool c)
    (underwent : w.undergo? x = some w') (prompt : punctual → Prompt i ⟨w, x, w'⟩) :
    ∃ c', w'.Stands i settings pool c' ∧ Rejoins (Refused punctual channel since)
      (fun instant => since + settings.errorPause.toNat ≤ instant ∧
        (punctual → instant = since + settings.errorPause.toNat))
      punctual pool (fun _ => [.release channel true]) w' c' (asks i w x) (does i w x) := by
  obtain ⟨c', stands', paces⟩ := stands.undergo? underwent
  refine ⟨c', stands', ?_⟩
  rw [stands.asks_eq underwent stands']
  cases paces with
  | rests phase deeds stuck =>
    have phase := phase.trans refused.phase
    rw [deeds (by rw [refused.phase]; nofun), phase, if_neg (by simp)]
    refine .stays ⟨phase, ?_, fun on => ?_⟩
    · exact Nat.le_trans refused.later (now_le_of_undergo? underwent)
    · exact ((prompt on).still (refused.goesOn stands) underwent).trans (refused.early on)
  | launches idle => cases refused.phase.symm.trans idle
  | goes goes same =>
    obtain ⟨phase, deeds⟩ := goes.advance.released refused.phase
    have phase : c'.phase = .pausing (some channel) (w.now + settings.errorPause.toNat) := by
      rw [same, ← stands.settings]
      exact phase
    rw [goes.deeds, deeds, phase, if_neg (by simp)]
    have back : Return punctual pool (fun _ => [.release channel true])
        (w.now + settings.errorPause.toNat) w'.now c'.phase [] [.release channel true] := by
      rw [phase, goes.still]
      exact .owing (.pausing (.ok ())) fun _ => Nat.le_add_right _ _
    refine .returns ⟨?_, fun on => ?_⟩ back
    · exact Nat.add_le_add_right refused.later _
    · rw [refused.early on]

private theorem resumes {later : List (Incident β)} {w₂ : World β}
    (refused : Refused punctual channel since w c) (stands : w.Stands i settings pool c)
    (ran : Replay.after? World.undergo? w later = some w₂)
    (prompt : punctual → ∀ t ∈ Replay.transitions World.undergo? w later, Prompt i t) :
    ∃ instant, (since + settings.errorPause.toNat ≤ instant ∧
        (punctual → instant = since + settings.errorPause.toNat)) ∧
      Resumes punctual w₂ i [.release channel true] instant
        (Replay.gather World.undergo? (asks i) w later)
        (Replay.gather World.undergo? (does i) w later) := by
  obtain ⟨c₂, stands₂, rejoins⟩ := Rejoins.after? (.stays refused) stands
    (fun refused stands underwent _ prompt => refused.leaves stands underwent prompt) ran
    (fun _ _ => trivial) prompt
  rw [List.nil_append, List.nil_append] at rejoins
  obtain ⟨instant, allowed, _, resumes⟩ := rejoins.resumes stands₂ fun refused =>
    ⟨_, ⟨Nat.le_refl _, fun _ => rfl⟩, fun stuck => absurd stuck (refused.goesOn stands₂)⟩
  exact ⟨instant, allowed, resumes⟩

end Refused

/-- After a failed lease, and after a lease on which the broker did not let the consumer receive,
the loop asks for the next one no earlier than a pause later. In between it does nothing but give
the channel back, and only the pause holds it up; if the clock moves only when the loop has to
wait, it asks at just that instant. And no failure takes it out of its work: from an accepted start
the consumer stays started and at work, whatever its source answers at whatever instants, until it
takes the signal of a stop that was accepted in between. -/
theorem retries_until_stopped :
    (∀ {source : Source β} {consumers : List (Consumer β)} {xs : List (Incident β)}
      {w w₁ : World β} {i : Nat} {c : Consumer β},
      (∀ c ∈ consumers, ∃ settings pool, Consumer.create settings pool = .ok c) →
      Replay.after? World.undergo? (ofSource source consumers) xs = some w →
      w.consumers[i]? = some c → w.undergo? (.event (.task (.loop i))) = some w₁ →
      (∀ fault, .lease (.error fault) ∈ does i w (.event (.task (.loop i))) →
        ∀ {later : List (Incident β)} {w₂ : World β},
          Replay.after? World.undergo? w₁ later = some w₂ →
          Resumes (∀ t ∈ Replay.transitions World.undergo? w₁ later, Prompt i t) w₂ i []
            (w.now + c.settings.errorPause.toNat)
            (Replay.gather World.undergo? (asks i) w₁ later)
            (Replay.gather World.undergo? (does i) w₁ later)) ∧
      (∀ channel subscription fault,
        .subscribe channel subscription (.error fault) ∈ does i w (.event (.task (.loop i))) →
        ∀ {later : List (Incident β)} {w₂ : World β},
          Replay.after? World.undergo? w₁ later = some w₂ → ∃ instant,
          w.now + c.settings.errorPause.toNat ≤ instant ∧
          ((∀ t ∈ Replay.transitions World.undergo? w₁ later, Prompt i t) →
            instant = w.now + c.settings.errorPause.toNat) ∧
          Resumes (∀ t ∈ Replay.transitions World.undergo? w₁ later, Prompt i t) w₂ i
            [.release channel true] instant
            (Replay.gather World.undergo? (asks i) w₁ later)
            (Replay.gather World.undergo? (does i) w₁ later))) ∧
    ∀ {settings : ConsumerSettings} {pool : PoolSettings} {c₀ resting s c : Consumer β}
      {earlier later : List (Consumer.Event β)}, Consumer.create settings pool = .ok c₀ →
      Replay.after? Consumer.step? c₀ earlier = some resting → resting.start = (.ok (), s) →
      Replay.after? Consumer.step? s later = some c →
      c.started = true ∧ c.phase.stage = .working ∨
        Consumer.Obeyed (Replay.transitions Consumer.step? s later) := by
  refine ⟨?_, ?_⟩
  · intro source consumers xs w w₁ i c created ran found underwent
    have stands := stands_of_after? created ran found
    refine ⟨?_, ?_⟩
    · intro fault failed later w₂ ran'
      obtain ⟨next, stands₁, goes⟩ := stands.exists_goes underwent (List.ne_nil_of_mem failed)
      have phase : next.unnoted.phase = .pausing none (w.now + c.settings.errorPause.toNat) :=
        goes.advance.missed (goes.deeds ▸ failed)
      have back : Return (∀ t ∈ Replay.transitions World.undergo? w₁ later, Prompt i t) c.pool
          (fun _ => []) (w.now + c.settings.errorPause.toNat) w₁.now next.unnoted.phase [] [] := by
        rw [phase, goes.still]
        exact .owing (.pausing (.ok ())) fun _ => Nat.le_add_right _ _
      obtain ⟨c₂, stands₂, back⟩ := back.after? stands₁ ran' id
      exact (back.resumes stands₂).elim fun _ resumes => resumes
    · intro channel subscription fault failed later w₂ ran'
      obtain ⟨next, stands₁, goes⟩ := stands.exists_goes underwent (List.ne_nil_of_mem failed)
      have refused : Refused (∀ t ∈ Replay.transitions World.undergo? w₁ later, Prompt i t) channel
          w.now w₁ next.unnoted :=
        ⟨goes.advance.refused (goes.deeds ▸ failed), Nat.le_of_eq goes.still.symm,
          fun _ => goes.still⟩
      obtain ⟨instant, ⟨due, exact⟩, resumes⟩ := refused.resumes stands₁ ran' id
      exact ⟨instant, due, exact, resumes⟩
  · intro settings pool c₀ resting s c earlier later created ran accepted ran'
    have orderly := Consumer.orderly_of_after? created ran
    have launched : resting.step? (.act .start) = some s := by
      rw [Consumer.step?, Consumer.perform, accepted]
    have orderly' := orderly.step? launched
    have off := Consumer.stopped_of_start (congrArg Prod.fst accepted)
    rw [Consumer.start_of_parked off (orderly.parked_of_stopped off)] at accepted
    cases accepted
    exact Consumer.working_or_obeyed orderly' rfl rfl ran'

/-- The loop of the first consumer has its turn. -/
def firstLoop : Incident Nat := .event (.task (.loop 0))

/-- No channel is to be had, and then the broker refuses. -/
def twoFailures : List (Plan Nat) :=
  [⟨0, some .closed, 1, [], none, [], false, [], false⟩,
    ⟨0, none, 2, [], some .closed, [], false, [], false⟩]

/-- The loop is about to ask for the first lease. -/
def beforeLease : List (Incident Nat) := [.event (.act 0 .start), firstLoop]

/-- The pause passes, and the loop comes to ask again. -/
def pauseOver : List (Incident Nat) := [.event (.pass 1000), firstLoop, firstLoop]

/-- The first lease has failed, and the second one is about to be refused. -/
def beforeRefusal : List (Incident Nat) := beforeLease ++ firstLoop :: pauseOver ++ [firstLoop]

def failsToLease : Deed → Bool
  | .lease (.error _) => true
  | _ => false

def failsToSubscribe : Deed → Bool
  | .subscribe _ _ (.error _) => true
  | _ => false

/-- The loop does something of a kind, and after that asks for a lease once, at an instant that is
a pause later; the clock does not move without need. -/
def asksOnce (failed : Deed → Bool) (later : List (Incident Nat)) (asked : Nat) (w : World Nat) :
    Bool :=
  (does 0 w firstLoop).any failed &&
    w.consumers[0]?.any (fun c => w.now + c.settings.errorPause.toNat == asked) &&
    (w.undergo? firstLoop).any fun w₁ =>
      (Replay.after? World.undergo? w₁ later).isSome &&
        Replay.gather World.undergo? (asks 0) w₁ later == [asked] &&
        decide (∀ t ∈ Replay.transitions World.undergo? w₁ later, Prompt 0 t)

private theorem exists_of_asksOnce {failed : Deed → Bool} {later : List (Incident Nat)}
    {asked : Nat}
    {w : World Nat} (once : asksOnce failed later asked w = true) : ∃ d ∈ does 0 w firstLoop,
    failed d = true ∧ ∃ c w₁ w₂, w.consumers[0]? = some c ∧
      w.now + c.settings.errorPause.toNat = asked ∧ w.undergo? firstLoop = some w₁ ∧
      Replay.after? World.undergo? w₁ later = some w₂ ∧
      Replay.gather World.undergo? (asks 0) w₁ later = [asked] ∧
      ∀ t ∈ Replay.transitions World.undergo? w₁ later, Prompt 0 t := by
  simp only [asksOnce, Bool.and_eq_true, List.any_eq_true, Option.any_eq_true, beq_iff_eq,
    decide_eq_true_eq, Option.isSome_iff_exists] at once
  obtain ⟨⟨⟨d, member, failed⟩, c, found, pause⟩, w₁, underwent, ⟨⟨w₂, ran⟩, asked⟩, prompt⟩ := once
  exact ⟨d, member, failed, c, w₁, w₂, found, pause, underwent, ran, asked, prompt⟩

/-- A lease fails, and a stop is seen before the next one. -/
def stoppedInPause : List (Consumer.Event Nat) :=
  [.proceed 0 .nothing, .proceed 0 (.leased (.error .closed)), .act (.stop false),
    .proceed 1000 .nothing, .proceed 1000 .nothing]

theorem retries_until_stopped_twice : ∃ (c₀ s last : Consumer Nat) (w w₁ w₂ v v₁ v₂ : World Nat),
    Consumer.create .default .default = .ok c₀ ∧
    Replay.after? World.undergo? (ofSource (.script (.ofPlans twoFailures true)) [c₀]) beforeLease =
      some w ∧ w.undergo? firstLoop = some w₁ ∧
    Replay.after? World.undergo? w₁ pauseOver = some w₂ ∧
    Resumes (∀ t ∈ Replay.transitions World.undergo? w₁ pauseOver, Prompt 0 t) w₂ 0 [] 1000 [1000]
      (Replay.gather World.undergo? (does 0) w₁ pauseOver) ∧
    Replay.after? World.undergo? (ofSource (.script (.ofPlans twoFailures true)) [c₀])
      beforeRefusal = some v ∧ v.undergo? firstLoop = some v₁ ∧
    Replay.after? World.undergo? v₁ (firstLoop :: pauseOver) = some v₂ ∧
    (∃ channel, Resumes
      (∀ t ∈ Replay.transitions World.undergo? v₁ (firstLoop :: pauseOver), Prompt 0 t) v₂ 0
      [.release channel true] 2000 [2000]
      (Replay.gather World.undergo? (does 0) v₁ (firstLoop :: pauseOver))) ∧
    c₀.start = (.ok (), s) ∧ Replay.after? Consumer.step? s stoppedInPause = some last ∧
    Consumer.Obeyed (Replay.transitions Consumer.step? s stoppedInPause) := by
  obtain ⟨c₀, s, created, started, misses, refuses, stops⟩ : ∃ c₀ s : Consumer Nat,
      Consumer.create .default .default = .ok c₀ ∧ c₀.start = (.ok (), s) ∧
      (Replay.after? World.undergo? (ofSource (.script (.ofPlans twoFailures true)) [c₀])
        beforeLease).any (asksOnce failsToLease pauseOver 1000) = true ∧
      (Replay.after? World.undergo? (ofSource (.script (.ofPlans twoFailures true)) [c₀])
        beforeRefusal).any (asksOnce failsToSubscribe (firstLoop :: pauseOver) 2000) = true ∧
      (Replay.after? Consumer.step? s stoppedInPause).any
        (fun c => c.phase.stage == .leaving) = true :=
    ⟨_, _, rfl, rfl, by decide +kernel, by decide +kernel, by decide +kernel⟩
  have all := exists_create_of_mem_singleton created
  obtain ⟨w, ran, misses⟩ := (Option.any_eq_true _ _).mp misses
  obtain ⟨v, ran', refuses⟩ := (Option.any_eq_true _ _).mp refuses
  obtain ⟨last, went, left⟩ := (Option.any_eq_true _ _).mp stops
  obtain ⟨d, member, missed, c, w₁, w₂, found, pause, underwent, later, asked, prompt⟩ :=
    exists_of_asksOnce misses
  obtain ⟨d', member', refused, c', v₁, v₂, found', pause', underwent', later', asked', prompt'⟩ :=
    exists_of_asksOnce refuses
  have resumes : Resumes (∀ t ∈ Replay.transitions World.undergo? w₁ pauseOver, Prompt 0 t) w₂ 0 []
      1000 [1000] (Replay.gather World.undergo? (does 0) w₁ pauseOver) := by
    rw [← asked, ← pause]
    cases d with
    | lease result =>
      cases result with
      | error fault =>
        exact (retries_until_stopped.1 all ran found underwent).1 fault member later
      | ok channel => cases missed
    | _ => cases missed
  have resumes' : ∃ channel, Resumes
      (∀ t ∈ Replay.transitions World.undergo? v₁ (firstLoop :: pauseOver), Prompt 0 t) v₂ 0
      [.release channel true] 2000 [2000]
      (Replay.gather World.undergo? (does 0) v₁ (firstLoop :: pauseOver)) := by
    cases d' with
    | subscribe channel subscription result =>
      cases result with
      | error fault =>
        obtain ⟨instant, _, exact, resumes⟩ :=
          (retries_until_stopped.1 all ran' found' underwent').2 channel subscription fault member'
            later'
        rw [exact prompt', pause', asked'] at resumes
        exact ⟨channel, resumes⟩
      | ok done => cases refused
    | _ => cases refused
  have obeyed : Consumer.Obeyed (Replay.transitions Consumer.step? s stoppedInPause) := by
    have nothing : Replay.after? Consumer.step? c₀ [] = some c₀ := rfl
    refine (retries_until_stopped.2 created nothing started went).resolve_left ?_
    rintro ⟨_, working⟩
    rw [beq_iff_eq.mp left] at working
    cases working
  exact ⟨c₀, s, last, w, w₁, w₂, v, v₁, v₂, created, ran, underwent, later, resumes, ran',
    underwent', later', resumes', started, went, obeyed⟩

end World

end Intake
