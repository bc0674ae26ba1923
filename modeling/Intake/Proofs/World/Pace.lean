import Intake.Proofs.Consumer.Closure
import Intake.Proofs.Consumer.Noting
import Intake.Proofs.World.Acts

/-! # The pace of a loop

In these histories the source may also change by itself, in any way. Seen by one consumer, what goes
on leaves its loop where it is, launches it, or is the next step of its loop, which takes no time;
`World.Paces` tells these apart. How long a loop takes depends on the clock. `World.Prompt` says of
a step that it does not make the loop late.
-/

namespace Intake

namespace World

variable {β : Type} {w w' : World β} {e : Event β} {i : Nat} {settings : ConsumerSettings}
  {pool : PoolSettings} {c : Consumer β}

/-- What goes on in a world. -/
inductive Incident (β : Type) where
  | event (e : Event β)
  /-- The source becomes another one by itself. -/
  | source (source : Source β)

variable {x : Incident β}

def undergo? (w : World β) : Incident β → Option (World β)
  | .event e => w.happen? e
  | .source source => some { w with source }

/-- What the consumer `i` does. -/
def does (i : Nat) (w : World β) : Incident β → List Deed
  | .event e => deedsOf i (w.deeds e)
  | .source _ => []

/-- The clock does not go back. -/
theorem now_le_of_happen? (happened : w.happen? e = some w') : w.now ≤ w'.now := by
  cases e with
  | task t =>
    cases t with
    | loop j =>
      obtain ⟨c, _, ⟨next, _, rfl⟩ | ⟨_, _, rfl⟩⟩ := proceeds_of_loop? happened <;>
        exact Nat.le_refl _
    | dispatch j number =>
      obtain ⟨c, _, happened⟩ := Option.bind_eq_some_iff.mp happened
      obtain ⟨c', _, rfl⟩ := Option.map_eq_some_iff.mp happened
      exact Nat.le_refl _
    | reader k =>
      obtain ⟨readers, rfl | ⟨_, c, _, _, _, rfl⟩⟩ := of_reader? happened <;> exact Nat.le_refl _
    | closure k =>
      obtain ⟨_, _, _, _, rfl⟩ := of_closure? happened
      exact Nat.le_refl _
  | pass ms =>
    cases happened
    exact Nat.le_add_right _ _
  | act j a =>
    obtain ⟨c, _, rfl⟩ := Option.map_eq_some_iff.mp happened
    exact Nat.le_refl _
  | broker a =>
    obtain ⟨b, _, rfl⟩ := of_broker happened
    exact Nat.le_refl _
  | wait j side =>
    cases happened
    exact Nat.le_refl _
  | abort k =>
    obtain ⟨r, _, rfl⟩ := Option.map_eq_some_iff.mp happened
    exact Nat.le_refl _
  | closeLate closure ms =>
    obtain ⟨_, _, _, rfl⟩ := of_closeLate happened
    exact Nat.le_refl _

theorem now_le_of_undergo? (underwent : w.undergo? x = some w') : w.now ≤ w'.now := by
  cases x with
  | event e => exact now_le_of_happen? underwent
  | source source =>
    cases underwent
    exact Nat.le_refl _

/-! ## The consumer in its place -/

/-- The consumer in the place `i`, whose settings never change. -/
structure Stands (w : World β) (i : Nat) (settings : ConsumerSettings) (pool : PoolSettings)
    (c : Consumer β) : Prop where
  found : w.consumers[i]? = some c
  orderly : c.Orderly
  settings : c.settings = settings
  pool : c.pool = pool

/-- The loop of the consumer `i` takes its next step, which makes `next` of `c`. -/
structure Goes (w : World β) (x : Incident β) (w' : World β) (i : Nat) (c next : Consumer β) :
    Prop where
  isLoop : x = .event (.task (.loop i))
  advance : Consumer.Advance c w.now (w.answer i c).1 next
  deeds : does i w x = c.deeds (.proceed w.now (w.answer i c).1)
  still : w'.now = w.now

/-- What an incident makes of the loop of the consumer `i`, which is `c` before and `c'` after. -/
inductive Paces (w : World β) (x : Incident β) (w' : World β) (i : Nat) (c c' : Consumer β) : Prop
  | rests (phase : c'.phase = c.phase) (deeds : c.phase ≠ .idle → does i w x = [])
      (stuck : x = .event (.task (.loop i)) → c.proceed? w.now (w.answer i c).1 = none)
  | launches (idle : c.phase = .idle) (phase : c'.phase = .checking)
  | goes {next : Consumer β} (goes : w.Goes x w' i c next) (same : c' = next.unnoted)

private theorem deedsOf_deedsAt (w : World β) (i j : Nat) (own : Consumer β → Consumer.Event β) :
    deedsOf i (w.deedsAt j own) =
      if j = i then w.consumers[j]?.toList.flatMap fun c => c.deeds (own c) else [] :=
  deedsOf_map i j _

namespace Stands

/-- What a loop does, it does in its own steps. -/
private theorem deeds_eq_nil (stands : w.Stands i settings pool c) (alive : c.phase ≠ .idle)
    (other : e ≠ .task (.loop i)) : deedsOf i (w.deeds e) = [] := by
  have on : c.started = true := by
    rw [stands.orderly.started_eq]
    exact decide_eq_true alive
  cases e with
  | task t =>
    cases t with
    | loop j =>
      rw [World.deeds, deedsOf_deedsAt, if_neg]
      rintro rfl
      exact other rfl
    | dispatch j number =>
      rw [World.deeds, deedsOf_deedsAt]
      split
      · next same =>
        subst same
        simp [stands.found, Consumer.deeds_forward]
      · rfl
    | _ => rfl
  | act j a =>
    rw [World.deeds, deedsOf_deedsAt]
    split
    · next same =>
      subst same
      simp [stands.found, stands.orderly.deeds_act_of_started on]
    · rfl
  | _ => rfl

/-- The consumer takes a step of its own. -/
theorem step? {own : Consumer.Event β} {next : Consumer β} (stands : w.Stands i settings pool c)
    (stepped : c.step? own = some next)
    (consumers : w'.consumers = w.consumers.set i next.unnoted) :
    w'.Stands i settings pool next.unnoted := by
  obtain ⟨small, _⟩ := List.getElem?_eq_some_iff.mp stands.found
  have orderly : next.Orderly := stands.orderly.step? stepped
  refine ⟨?_, orderly, ?_, ?_⟩
  · rw [consumers, List.getElem?_set_self small]
  · exact (Consumer.settings_of_step? stepped).trans stands.settings
  · exact (stands.orderly.pool stepped).trans stands.pool

private theorem congr (stands : w.Stands i settings pool c)
    (same : w'.consumers[i]? = w.consumers[i]?) : w'.Stands i settings pool c :=
  ⟨same.trans stands.found, stands.orderly, stands.settings, stands.pool⟩

/-- A loop that has its turn goes on, or asks for a lease that takes its time. -/
theorem of_loop? (stands : w.Stands i settings pool c)
    (happened : w.happen? (.task (.loop i)) = some w') :
    (w'.Stands i settings pool c ∧ does i w (.event (.task (.loop i))) = [] ∧
        c.proceed? w.now (w.answer i c).1 = none) ∨
      ∃ next, w'.Stands i settings pool next.unnoted ∧
        w.Goes (.event (.task (.loop i))) w' i c next := by
  obtain ⟨c₁, found, after⟩ := proceeds_of_loop? happened
  cases stands.found.symm.trans found
  have deeds : does i w (.event (.task (.loop i))) = c.deeds (.proceed w.now (w.answer i c).1) := by
    simp [does, World.deeds, deedsOf_deedsAt, found]
  obtain ⟨next, proceeded, rfl⟩ | ⟨pending, _, rfl⟩ := after
  · right
    have stepped : c.step? (.proceed w.now (w.answer i c).1) = some next := proceeded
    exact ⟨next, stands.step? stepped rfl, ⟨rfl, .of_proceed? proceeded, deeds, rfl⟩⟩
  · left
    refine ⟨stands.congr rfl, ?_, pending⟩
    simp only [deeds, Consumer.deeds, Consumer.step?, pending]

theorem undergo? (stands : w.Stands i settings pool c) (underwent : w.undergo? x = some w') :
    ∃ c', w'.Stands i settings pool c' ∧ w.Paces x w' i c c' := by
  cases x with
  | source source =>
    cases underwent
    exact ⟨c, stands.congr rfl, .rests rfl (fun _ => rfl) nofun⟩
  | event e =>
    by_cases isLoop : e = .task (.loop i)
    · subst isLoop
      obtain ⟨stands', nothing, stuck⟩ | ⟨next, stands', goes⟩ := stands.of_loop? underwent
      · exact ⟨c, stands', .rests rfl (fun _ => nothing) fun _ => stuck⟩
      · exact ⟨_, stands', .goes goes rfl⟩
    have idle (same : Incident.event e = .event (.task (.loop i))) :
        c.proceed? w.now (w.answer i c).1 = none :=
      absurd (Incident.event.inj same) isLoop
    have nothing (alive : c.phase ≠ .idle) : does i w (.event e) = [] :=
      stands.deeds_eq_nil alive isLoop
    cases stir_of_happen? underwent with
    | rest consumers taken returned =>
      exact ⟨c, stands.congr (by rw [consumers]), .rests rfl nothing idle⟩
    | @used own j before after found stepped outside consumers taken returned =>
      by_cases same : j = i
      · subst same
        cases stands.found.symm.trans found
        refine ⟨_, stands.step? stepped consumers, ?_⟩
        obtain phase | ⟨idle, phase⟩ := Consumer.phase_of_step? stands.orderly stepped outside
        · exact .rests phase nothing idle
        · exact .launches idle phase
      · refine ⟨c, stands.congr ?_, .rests rfl nothing idle⟩
        rw [consumers, List.getElem?_set_ne same]
    | @goes j before next isLoop' found proceeded consumers =>
      have other : j ≠ i := by
        rintro rfl
        exact isLoop isLoop'
      refine ⟨c, stands.congr ?_, .rests rfl nothing idle⟩
      rw [consumers, List.getElem?_set_ne other]

/-- A loop that does something goes on. -/
theorem exists_goes (stands : w.Stands i settings pool c)
    (underwent : w.undergo? (.event (.task (.loop i))) = some w')
    (acts : does i w (.event (.task (.loop i))) ≠ []) :
    ∃ next, w'.Stands i settings pool next.unnoted ∧
      w.Goes (.event (.task (.loop i))) w' i c next :=
  (stands.of_loop? underwent).resolve_left fun idle => acts idle.2.1

/-- A loop whose next step is possible does not have to wait. -/
theorem loop?_ne_none {next : Consumer β} (stands : w.Stands i settings pool c)
    (proceeded : c.proceed? w.now (w.answer i c).1 = some next) : w.loop? i ≠ none := by
  simp [loop?, stands.found, proceeded]

theorem proceed?_eq_none (stands : w.Stands i settings pool c) (stuck : w.loop? i = none) :
    c.proceed? w.now (w.answer i c).1 = none := by
  by_contra goesOn
  obtain ⟨next, proceeded⟩ := Option.ne_none_iff_exists'.mp goesOn
  exact stands.loop?_ne_none proceeded stuck

end Stands

/-- Every consumer that is there was set up with the settings it has, and its flags fit its loop. -/
theorem stands_of_after? {source : Source β} {consumers : List (Consumer β)}
    {xs : List (Incident β)}
    (created : ∀ c ∈ consumers, ∃ settings pool, Consumer.create settings pool = .ok c)
    (ran : Replay.after? World.undergo? (ofSource source consumers) xs = some w)
    (found : w.consumers[i]? = some c) : w.Stands i c.settings c.pool c := by
  have orderly : ∀ (i : Nat) (c : Consumer β), w.consumers[i]? = some c → c.Orderly := by
    refine Replay.after?_preserves
      (P := fun w : World β => ∀ (i : Nat) (c : Consumer β), w.consumers[i]? = some c → c.Orderly)
      ?_ ?_ ran
    · intro middle x next orderly underwent i c found
      cases x with
      | source source =>
        cases underwent
        exact orderly i c found
      | event e =>
        cases touch_of_happen? underwent with
        | none consumers taken enqueued => exact orderly i c (consumers ▸ found)
        | @one own j before after found' stepped consumers taken enqueued =>
          obtain ⟨rfl, rfl⟩ | ⟨_, earlier⟩ := found_of_set (consumers ▸ found)
          · have after : after.Orderly := (orderly i before found').step? stepped
            exact after
          · exact orderly i c earlier
    · intro i c found
      obtain ⟨settings, pool, created⟩ := created c (List.mem_of_getElem? found)
      exact Consumer.orderly_of_create created
  exact ⟨found, orderly i c found, rfl, rfl⟩

/-- One consumer is set up. -/
theorem exists_create_of_mem_singleton (created : Consumer.create settings pool = .ok c) :
    ∀ other ∈ [c], ∃ settings pool, Consumer.create settings pool = .ok other := by
  intro other member
  rw [List.mem_singleton.mp member]
  exact ⟨settings, pool, created⟩

/-! ## The clock -/

/-- The instant the loop of the consumer `i` waits for. -/
def awaits? (w : World β) (i : Nat) : Option Nat := w.consumers[i]?.bind fun c => c.phase.resumeAt?

theorem Stands.awaits?_eq (stands : w.Stands i settings pool c) :
    w.awaits? i = c.phase.resumeAt? := by
  rw [awaits?, stands.found, Option.bind_some]

/-- If the clock moves at a step, then the loop of the consumer `i` has to wait, and the clock does
not move beyond the instant it waits for. -/
def Prompt (i : Nat) (t : Transition (World β) (Incident β)) : Prop :=
  t.source.now < t.target.now →
    t.source.loop? i = none ∧ ∀ instant ∈ t.source.awaits? i, t.target.now ≤ instant

instance (i : Nat) (t : Transition (World β) (Incident β)) : Decidable (Prompt i t) :=
  inferInstanceAs (Decidable (_ < _ → _ = none ∧ ∀ instant ∈ _, _ ≤ instant))

/-- A loop that has not let an instant pass does not, as long as it waits for nothing else. -/
theorem Prompt.early {instant : Nat} (prompt : Prompt i ⟨w, x, w'⟩)
    (waits : w.loop? i = none → w.awaits? i = some instant) (early : w.now ≤ instant) :
    w'.now ≤ instant := by
  by_cases passes : w.now < w'.now
  · obtain ⟨stuck, within⟩ := prompt passes
    exact within instant (waits stuck)
  · exact Nat.le_trans (Nat.le_of_not_lt passes) early

/-- The clock stands still while the loop can go on. -/
theorem Prompt.still (prompt : Prompt i ⟨w, x, w'⟩) (goesOn : w.loop? i ≠ none)
    (underwent : w.undergo? x = some w') : w'.now = w.now := by
  refine Nat.le_antisymm ?_ (now_le_of_undergo? underwent)
  by_contra passes
  exact goesOn (prompt (Nat.lt_of_not_le passes)).1

/-! ## Asking for a lease -/

/-- The loop of the consumer `i` is about to lease a channel. -/
def seeks (w : World β) (i : Nat) : Bool := w.consumers[i]?.any fun c => c.phase = .acquiring

/-- The instant, if the loop of the consumer `i` comes to ask for a lease. -/
def asks (i : Nat) (w : World β) (x : Incident β) : List Nat :=
  match w.undergo? x with
  | some w' => if w.seeks i = false ∧ w'.seeks i = true then [w'.now] else []
  | none => []

private theorem Stands.seeks_eq (stands : w.Stands i settings pool c) :
    w.seeks i = decide (c.phase = .acquiring) := by
  rw [seeks, stands.found, Option.any_some]

theorem Stands.asks_eq {c' : Consumer β} (stands : w.Stands i settings pool c)
    (underwent : w.undergo? x = some w') (stands' : w'.Stands i settings pool c') :
    asks i w x = if c.phase ≠ .acquiring ∧ c'.phase = .acquiring then [w'.now] else [] := by
  simp [asks, underwent, stands.seeks_eq, stands'.seeks_eq]

end World

end Intake
