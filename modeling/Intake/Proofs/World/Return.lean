import Intake.Proofs.World.Pace

/-! # The way back to a lease

A loop that has lost its channel puts the pool's prefetch limit back, gives the channel back and may
have to wait before it leases the next. `Consumer.Way` says where it is on its way, and what it has
done by then of what it owes. Nothing but the instant it waits for holds it up. `World.Resumes` is
what is seen of this from outside.
-/

namespace Intake

/-- A lease with this end lets the next begin at the instant, as seen `now`. -/
def Ending.Awaits (now instant : Nat) : Ending → Prop
  | .closed => instant ≤ now
  | .ended resumeAt => resumeAt = instant
  | .stopped | .refused => False

private theorem Ending.Awaits.later {ending : Ending} {now now' instant : Nat}
    (awaits : ending.Awaits now instant) (later : now ≤ now') : ending.Awaits now' instant := by
  cases ending with
  | closed => exact Nat.le_trans awaits later
  | _ => exact awaits

namespace Consumer

variable {β : Type} {c c' : Consumer β} {pool : PoolSettings}
  {owed : Except ChannelFault Unit → List Deed} {instant now now' : Nat} {phase : Phase}
  {done : List Deed} {answer : Answer β}

/-! ## Steps that come before a lease -/

/-- A channel is given back. -/
theorem Advance.released {channel : Channel} {ending : Ending}
    (advance : Advance c now answer c') (phase : c.phase = .releasing channel ending) :
    c'.phase = (c.released now channel ending).phase ∧
      c.deeds (.proceed now answer) = [.release channel ending.errored] := by
  have stepped := advance.proceed?_eq_some
  cases answer with
  | done result =>
    have same : c.released now channel ending = c' := by
      simpa only [proceed?, phase, Option.some.injEq] using stepped
    subst same
    refine ⟨rfl, ?_⟩
    rw [deeds_of_proceed? stepped (.nothing rfl rfl) rfl (released_phase_ne_idle _ _ _ _)]
    simp only [called, demand, phase]
    rfl
  | _ => simp [proceed?, phase] at stepped

/-- A pause is over. -/
private theorem Advance.resumed {channel : Option Channel} {resumeAt : Nat}
    (advance : Advance c now answer c') (phase : c.phase = .pausing channel resumeAt) :
    resumeAt ≤ now ∧ c'.phase = .checking ∧ c.deeds (.proceed now answer) = [] := by
  have stepped := advance.proceed?_eq_some
  have resumes : resumeAt ≤ now ∧ { c with phase := .checking } = c' := by
    simpa only [proceed?, phase, Option.ite_none_right_eq_some, Option.some.injEq] using stepped
  obtain ⟨due, rfl⟩ := resumes
  refine ⟨due, rfl, ?_⟩
  rw [deeds_of_proceed? stepped (.nothing rfl rfl) rfl (by simp)]
  simp only [called, demand, phase]
  rfl

/-- A loop that is about to lease a channel does so first of all. -/
private theorem leases_of_acquiring (phase : c.phase = .acquiring)
    (advance : Advance c now answer c') :
    ∃ result rest, c.deeds (.proceed now answer) = .lease result :: rest := by
  have stepped := advance.proceed?_eq_some
  cases answer with
  | leased result =>
    refine ⟨result, ?_⟩
    simp only [deeds, step?, stepped, launched, called, demand, phase, Bool.false_eq_true, if_false,
      List.nil_append, List.cons_append]
    exact ⟨_, rfl⟩
  | _ => simp [proceed?, phase] at stepped

/-! ## The way -/

/-- What a loop has done when it comes to a phase on its way to the next lease, which it does not
ask for before the instant. What it owes depends on how the pool's prefetch limit is put back. -/
inductive Way (pool : PoolSettings) (owed : Except ChannelFault Unit → List Deed)
    (instant now : Nat) : Phase → List Deed → Prop
  | restoring {channel : Channel} {ending : Ending} {prefetch : Prefetch} {done : List Deed}
      (limit : pool.prefetch? = some prefetch) (awaits : ending.Awaits now instant)
      (part : ∀ restored, done ++ partingDeeds pool channel restored = owed restored) :
      Way pool owed instant now (.restoring channel ending) done
  | releasing {channel : Channel} {ending : Ending} {done : List Deed}
      (restored : Except ChannelFault Unit) (awaits : ending.Awaits now instant)
      (part : done ++ [.release channel true] = owed restored) :
      Way pool owed instant now (.releasing channel ending) done
  | pausing {channel : Option Channel} (restored : Except ChannelFault Unit) :
      Way pool owed instant now (.pausing channel instant) (owed restored)
  | checking {restored : Except ChannelFault Unit} (due : instant ≤ now) :
      Way pool owed instant now .checking (owed restored)

/-- Where a step leads from the way: on, to the next lease, or to a stop. -/
inductive Arrives (pool : PoolSettings) (owed : Except ChannelFault Unit → List Deed)
    (instant now : Nat) : Phase → List Deed → Prop
  | on {phase : Phase} {done : List Deed} (way : Way pool owed instant now phase done) :
      Arrives pool owed instant now phase done
  | asks {restored : Except ChannelFault Unit} (due : instant ≤ now) :
      Arrives pool owed instant now .acquiring (owed restored)
  | stops {restored : Except ChannelFault Unit} (due : instant ≤ now) :
      Arrives pool owed instant now .draining (owed restored ++ [.stop])

namespace Way

private theorem later (way : Way pool owed instant now phase done) (later : now ≤ now') :
    Way pool owed instant now' phase done := by
  cases way with
  | restoring limit awaits part => exact .restoring limit (awaits.later later) part
  | releasing restored awaits part => exact .releasing restored (awaits.later later) part
  | pausing restored => exact .pausing restored
  | checking due => exact .checking (Nat.le_trans due later)

/-- The way begins where a lease ends. -/
theorem parted {channel : Channel} {ending : Ending} (awaits : ending.Awaits now instant)
    (part : ∀ restored, done ++ partingDeeds pool channel restored = owed restored) :
    Way pool owed instant now (.parted pool channel ending) done := by
  unfold Phase.parted
  cases limit : pool.prefetch? with
  | none =>
    have nothing : partingDeeds pool channel (.ok ()) = [.release channel true] := by
      simp [partingDeeds, Deed.restoring_eq, limit]
    exact .releasing (.ok ()) awaits (by rw [← nothing]; exact part (.ok ()))
  | some prefetch => exact .restoring limit awaits part

private theorem ne_idle (way : Way pool owed instant now phase done) : phase ≠ .idle := by
  cases way <;> nofun

private theorem ne_acquiring (way : Way pool owed instant now phase done) : phase ≠ .acquiring := by
  cases way <;> nofun

/-- What is done is part of what is owed. -/
theorem exists_prefix (way : Way pool owed instant now phase done) :
    ∃ restored, done <+: owed restored := by
  cases way with
  | restoring limit awaits part => exact ⟨.ok (), part (.ok ()) ▸ List.prefix_append _ _⟩
  | releasing restored awaits part => exact ⟨restored, part ▸ List.prefix_append _ _⟩
  | pausing restored => exact ⟨restored, List.prefix_rfl⟩
  | @checking restored due => exact ⟨restored, List.prefix_rfl⟩

private theorem advance (way : Way c.pool owed instant now c.phase done)
    (advance : Advance c now answer c') :
    Arrives c.pool owed instant now c'.phase (done ++ c.deeds (.proceed now answer)) := by
  have moves := advance.moves
  generalize before : c.phase = phase at way moves
  cases way with
  | @restoring channel ending prefetch done limit awaits part =>
    generalize c.deeds (.proceed now answer) = ds, c'.phase = phase' at moves ⊢
    cases moves with
    | rest =>
      rw [List.append_nil]
      exact .on (.restoring limit awaits part)
    | @restore _ _ restored =>
      refine .on (.releasing restored awaits ?_)
      rw [List.append_assoc]
      exact part restored
    | close receiving => cases receiving
    | endStream receiving => cases receiving
  | @releasing channel ending done restored awaits part =>
    obtain ⟨phase, deeds⟩ := advance.released before
    rw [phase, deeds]
    cases ending with
    | closed => exact part ▸ .on (.checking awaits)
    | ended resumeAt =>
      cases awaits
      exact part ▸ .on (.pausing restored)
    | _ => cases awaits
  | pausing restored =>
    obtain ⟨due, phase, deeds⟩ := advance.resumed before
    rw [phase, deeds, List.append_nil]
    exact .on (.checking due)
  | checking due =>
    generalize c.deeds (.proceed now answer) = ds, c'.phase = phase' at moves ⊢
    cases moves with
    | rest =>
      rw [List.append_nil]
      exact .on (.checking due)
    | seek =>
      rw [List.append_nil]
      exact .asks due
    | stopBeforeLease => exact .stops due
    | close receiving => cases receiving
    | endStream receiving => cases receiving

end Way

end Consumer

namespace World

variable {β : Type} {w w' : World β} {x : Incident β} {i : Nat} {settings : ConsumerSettings}
  {pool : PoolSettings} {c : Consumer β} {owed : Except ChannelFault Unit → List Deed}
  {instant : Nat} {asked : List Nat} {done : List Deed} {punctual : Prop}

/-- Nothing holds up a loop that is about to give its channel back. -/
theorem exists_proceed?_of_releasing {channel : Channel} {ending : Ending} (w : World β) (i : Nat)
    (phase : c.phase = .releasing channel ending) :
    ∃ next, c.proceed? w.now (w.answer i c).1 = some next := by
  simp only [World.answer, Consumer.demand, phase, Consumer.proceed?]
  exact ⟨_, rfl⟩

/-- Nothing but the instant holds up a loop on its way. -/
private theorem Stands.waits (stands : w.Stands i settings pool c)
    (way : Consumer.Way pool owed instant w.now c.phase done) (stuck : w.loop? i = none) :
    w.awaits? i = some instant ∧ w.now < instant := by
  rw [stands.awaits?_eq]
  have halts : ¬∃ next, c.proceed? w.now (w.answer i c).1 = some next := by
    simp [stands.proceed?_eq_none stuck]
  generalize phase : c.phase = p at way
  cases way with
  | @restoring channel ending prefetch done limit awaits part =>
    have limit : c.pool.prefetch? = some prefetch := stands.pool ▸ limit
    refine absurd ?_ halts
    simp only [World.answer, Consumer.demand, phase, limit, Consumer.proceed?]
    exact ⟨_, rfl⟩
  | releasing restored awaits part => exact absurd (exists_proceed?_of_releasing w i phase) halts
  | pausing restored =>
    refine ⟨rfl, Nat.lt_of_not_le fun due => halts ?_⟩
    simp only [Consumer.proceed?, phase, if_pos due]
    exact ⟨_, rfl⟩
  | checking due =>
    refine absurd ?_ halts
    simp only [Consumer.proceed?, phase]
    exact ⟨_, rfl⟩

/-- What a loop has done since it lost a channel, with the instants at which it came to ask for the
next, when it comes to a phase. If all is `punctual` it is not late. -/
inductive Return (punctual : Prop) (pool : PoolSettings)
    (owed : Except ChannelFault Unit → List Deed) (instant now : Nat) :
    Phase → List Nat → List Deed → Prop
  | owing {phase : Phase} {done : List Deed}
      (way : Consumer.Way pool owed instant now phase done) (early : punctual → now ≤ instant) :
      Return punctual pool owed instant now phase [] done
  | asking {restored : Except ChannelFault Unit} {first : Nat} (due : instant ≤ first)
      (exact : punctual → first = instant) :
      Return punctual pool owed instant now .acquiring [first] (owed restored)
  | leased {phase : Phase} {restored : Except ChannelFault Unit} {first : Nat} {more : List Nat}
      {result : Except ChannelFault Channel} {rest : List Deed} (due : instant ≤ first)
      (exact : punctual → first = instant) :
      Return punctual pool owed instant now phase (first :: more)
        (owed restored ++ .lease result :: rest)
  | stopped {phase : Phase} {restored : Except ChannelFault Unit} {asked : List Nat}
      {rest : List Deed} (due : instant ≤ now) :
      Return punctual pool owed instant now phase asked (owed restored ++ .stop :: rest)

/-- A loop, seen on its way to the next lease from outside: what it has done and the instants at
which it came to ask for a lease. -/
inductive Resumes (punctual : Prop) (w : World β) (i : Nat) (owed : List Deed) (instant : Nat) :
    List Nat → List Deed → Prop
  /-- It has done a part of what it owes and goes on at once, or waits for the instant. -/
  | owing {done : List Deed} (part : done <+: owed)
      (waits : w.loop? i = none → w.awaits? i = some instant ∧ w.now < instant) :
      Resumes punctual w i owed instant [] done
  /-- It has done all it owes, and then asked for a lease. -/
  | asked {first : Nat} {more : List Nat} {rest : List Deed} (due : instant ≤ first)
      (exact : punctual → first = instant)
      (leases : ∀ d ∈ rest.head?, ∃ result, d = .lease result) :
      Resumes punctual w i owed instant (first :: more) (owed ++ rest)
  /-- It has done all it owes, and then taken a stop signal. -/
  | stopped {asked : List Nat} {rest : List Deed} (due : instant ≤ w.now) :
      Resumes punctual w i owed instant asked (owed ++ .stop :: rest)

namespace Return

theorem resumes (stands : w.Stands i settings pool c)
    (back : Return punctual pool owed instant w.now c.phase asked done) :
    ∃ restored, Resumes punctual w i (owed restored) instant asked done := by
  generalize phase : c.phase = p at back
  cases back with
  | owing way early =>
    obtain ⟨restored, part⟩ := way.exists_prefix
    exact ⟨restored, .owing part (stands.waits (phase ▸ way))⟩
  | @asking restored _ due exact =>
    have resumes : Resumes punctual w i (owed restored) instant [_] (owed restored ++ []) :=
      .asked due exact nofun
    rw [List.append_nil] at resumes
    exact ⟨restored, resumes⟩
  | leased due exact => exact ⟨_, .asked due exact (by simp)⟩
  | stopped due => exact ⟨_, .stopped due⟩

/-- The next step of a loop on its way. -/
private theorem of_goes {next : Consumer β} (stands : w.Stands i settings pool c)
    (way : Consumer.Way pool owed instant w.now c.phase done) (early : punctual → w.now ≤ instant)
    (goes : w.Goes x w' i c next) :
    Return punctual pool owed instant w'.now next.phase
      (if c.phase ≠ .acquiring ∧ next.phase = .acquiring then [w'.now] else [])
      (done ++ does i w x) := by
  have elsewhere := way.ne_acquiring
  have arrives := (stands.pool ▸ way).advance goes.advance
  rw [stands.pool] at arrives
  rw [goes.deeds, goes.still]
  generalize next.phase = phase at arrives ⊢
  generalize done ++ c.deeds (.proceed w.now (w.answer i c).1) = done' at arrives ⊢
  cases arrives with
  | on way =>
    rw [if_neg fun both => way.ne_acquiring both.2]
    exact .owing way early
  | asks due =>
    rw [if_pos ⟨elsewhere, rfl⟩]
    exact .asking due fun on => Nat.le_antisymm (early on) due
  | stops due => exact .stopped due

private theorem undergo? (stands : w.Stands i settings pool c)
    (back : Return punctual pool owed instant w.now c.phase asked done)
    (underwent : w.undergo? x = some w') (prompt : punctual → Prompt i ⟨w, x, w'⟩) :
    ∃ c', w'.Stands i settings pool c' ∧
      Return punctual pool owed instant w'.now c'.phase (asked ++ asks i w x)
        (done ++ does i w x) := by
  have later := now_le_of_undergo? underwent
  obtain ⟨c', stands', paces⟩ := stands.undergo? underwent
  refine ⟨c', stands', ?_⟩
  rw [stands.asks_eq underwent stands']
  generalize phase : c.phase = p at back
  cases back with
  | owing way early =>
    subst phase
    cases paces with
    | rests same deeds stuck =>
      rw [same, if_neg fun both => way.ne_acquiring both.2, deeds way.ne_idle, List.append_nil,
        List.append_nil]
      refine .owing (way.later later) fun on => ?_
      exact (prompt on).early (fun stuck => (stands.waits way stuck).1) (early on)
    | launches idle => exact absurd idle way.ne_idle
    | goes goes same =>
      have arrived := of_goes stands way early goes
      rw [same, List.nil_append]
      exact arrived
  | asking due exact =>
    rw [if_neg fun both => both.1 rfl, List.append_nil]
    cases paces with
    | rests same deeds stuck =>
      rw [deeds (by rw [phase]; nofun), same, phase, List.append_nil]
      exact .asking due exact
    | launches idle => cases phase.symm.trans idle
    | goes goes same =>
      obtain ⟨result, rest, leases⟩ := Consumer.leases_of_acquiring phase goes.advance
      rw [goes.deeds, leases]
      exact .leased due exact
  | leased due exact =>
    rw [List.cons_append, List.append_assoc, List.cons_append]
    exact .leased due exact
  | stopped due =>
    rw [List.append_assoc, List.cons_append]
    exact .stopped (Nat.le_trans due later)

end Return

/-! ## Histories -/

section

variable {Stays : World β → Consumer β → Prop} {Allowed : Nat → Prop}
  {Fits : Transition (World β) (Incident β) → Prop}

/-- A loop stays in some state of the world for a while, with nothing done, and then is on its way
to the next lease, which it asks for at an instant that is allowed. -/
inductive Rejoins (Stays : World β → Consumer β → Prop) (Allowed : Nat → Prop) (punctual : Prop)
    (pool : PoolSettings) (owed : Except ChannelFault Unit → List Deed) (w : World β)
    (c : Consumer β) : List Nat → List Deed → Prop
  | stays (stays : Stays w c) : Rejoins Stays Allowed punctual pool owed w c [] []
  | returns {instant : Nat} {asked : List Nat} {done : List Deed} (allowed : Allowed instant)
      (back : Return punctual pool owed instant w.now c.phase asked done) :
      Rejoins Stays Allowed punctual pool owed w c asked done

/-- It is enough to look at the steps of a loop that has stayed so far. -/
theorem Rejoins.after? {w₂ : World β} {later : List (Incident β)}
    (rejoins : Rejoins Stays Allowed punctual pool owed w c asked done)
    (stands : w.Stands i settings pool c)
    (leaves : ∀ {w w' : World β} {c : Consumer β} {x : Incident β}, Stays w c →
      w.Stands i settings pool c → w.undergo? x = some w' → Fits ⟨w, x, w'⟩ →
      (punctual → Prompt i ⟨w, x, w'⟩) → ∃ c', w'.Stands i settings pool c' ∧
        Rejoins Stays Allowed punctual pool owed w' c' (asks i w x) (does i w x))
    (ran : Replay.after? World.undergo? w later = some w₂)
    (fits : ∀ t ∈ Replay.transitions World.undergo? w later, Fits t)
    (prompt : punctual → ∀ t ∈ Replay.transitions World.undergo? w later, Prompt i t) :
    ∃ c₂, w₂.Stands i settings pool c₂ ∧ Rejoins Stays Allowed punctual pool owed w₂ c₂
      (asked ++ Replay.gather World.undergo? (asks i) w later)
      (done ++ Replay.gather World.undergo? (does i) w later) := by
  refine Replay.after?_induction
    (P := fun later w₂ => (∀ t ∈ Replay.transitions World.undergo? w later, Fits t) →
      (punctual → ∀ t ∈ Replay.transitions World.undergo? w later, Prompt i t) →
      ∃ c₂, w₂.Stands i settings pool c₂ ∧ Rejoins Stays Allowed punctual pool owed w₂ c₂
        (asked ++ Replay.gather World.undergo? (asks i) w later)
        (done ++ Replay.gather World.undergo? (does i) w later)) ?_ ?_ ran fits prompt
  · intro _ _
    refine ⟨c, stands, ?_⟩
    simpa [Replay.gather, Replay.transitions] using rejoins
  · intro events middle event next before ih underwent fits prompt
    rw [Replay.transitions_concat before underwent] at fits prompt
    obtain ⟨c₁, stands₁, earlier⟩ := ih (fun t member => fits t (List.mem_append_left _ member))
      fun on t member => prompt on t (List.mem_append_left _ member)
    have fits := fits ⟨middle, event, next⟩ (by simp)
    have prompt (on : punctual) := prompt on ⟨middle, event, next⟩ (by simp)
    rw [Replay.gather_concat (asks i) before underwent,
      Replay.gather_concat (does i) before underwent, ← List.append_assoc, ← List.append_assoc]
    generalize asked ++ Replay.gather World.undergo? (asks i) w events = asked₁ at earlier ⊢
    generalize done ++ Replay.gather World.undergo? (does i) w events = done₁ at earlier ⊢
    cases earlier with
    | stays stays =>
      rw [List.nil_append, List.nil_append]
      exact leaves stays stands₁ underwent fits prompt
    | returns allowed back =>
      obtain ⟨c₂, stands₂, back⟩ := back.undergo? stands₁ underwent prompt
      exact ⟨c₂, stands₂, .returns allowed back⟩

/-- A loop that stays must go on at once, or wait for an instant that is allowed. -/
theorem Rejoins.resumes (rejoins : Rejoins Stays Allowed punctual pool owed w c asked done)
    (stands : w.Stands i settings pool c)
    (waits : Stays w c → ∃ instant, Allowed instant ∧
      (w.loop? i = none → w.awaits? i = some instant ∧ w.now < instant)) :
    ∃ instant, Allowed instant ∧
      ∃ restored, Resumes punctual w i (owed restored) instant asked done := by
  cases rejoins with
  | stays stays =>
    obtain ⟨instant, allowed, waits⟩ := waits stays
    exact ⟨instant, allowed, .ok (), .owing List.nil_prefix waits⟩
  | returns allowed back => exact ⟨_, allowed, back.resumes stands⟩

theorem Return.after? {w₂ : World β} {later : List (Incident β)}
    (back : Return punctual pool owed instant w.now c.phase asked done)
    (stands : w.Stands i settings pool c)
    (ran : Replay.after? World.undergo? w later = some w₂)
    (prompt : punctual → ∀ t ∈ Replay.transitions World.undergo? w later, Prompt i t) :
    ∃ c₂, w₂.Stands i settings pool c₂ ∧ Return punctual pool owed instant w₂.now c₂.phase
      (asked ++ Replay.gather World.undergo? (asks i) w later)
      (done ++ Replay.gather World.undergo? (does i) w later) := by
  have rejoins : Rejoins (fun _ _ => False) (· = instant) punctual pool owed w c asked done :=
    .returns rfl back
  obtain ⟨c₂, stands₂, after⟩ := rejoins.after? stands (fun stays => stays.elim) ran
    (fun _ _ => trivial) prompt
  generalize asked ++ Replay.gather World.undergo? (asks i) w later = asked₂ at after ⊢
  generalize done ++ Replay.gather World.undergo? (does i) w later = done₂ at after ⊢
  cases after with
  | stays never => exact never.elim
  | returns same back => exact ⟨c₂, stands₂, same ▸ back⟩

end

end World

end Intake
