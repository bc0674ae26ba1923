import Intake.Proofs.World.Return
import Intake.Proofs.World.Source

/-! # The end of the deliveries

When the deliveries of a channel end, a closure that explains it may still be on its way. The loop
waits for it for a while, and not at all if the feed of closures is over already. The wait for the
closure and the pause before the next lease end at the same instant.
-/

namespace Intake

namespace Consumer

variable {β : Type} {c c' : Consumer β} {channel : Channel} {now resumeAt : Nat}
  {notice : Glance Closure} {arrival : Glance (Delivery β)}

private theorem Advance.of_streamEnd {watching : Bool} (now : Nat)
    (phase : c.phase = .streaming channel watching)
    (chosen : c.choose watching notice arrival = .streamEnd) :
    ∃ next, Advance c now (.seen notice arrival) next ∧
      ((watching = true ∧ next.phase = .lingering channel (now + c.settings.idlePause.toNat) ∧
          c.deeds (.proceed now (.seen notice arrival)) = []) ∨
        watching = false ∧
          next.phase = .parted c.pool channel (.ended (now + c.settings.idlePause.toNat)) ∧
          c.deeds (.proceed now (.seen notice arrival)) = Loss.unexplained.deeds c.settings) := by
  cases watching with
  | true =>
    have advance : Advance c now (.seen notice arrival) _ := .linger phase chosen
    refine ⟨_, advance, .inl ⟨rfl, rfl, ?_⟩⟩
    rw [deeds_of_proceed? advance.proceed?_eq_some (.nothing rfl rfl) rfl nofun]
    simp only [called, demand, phase]
    rfl
  | false =>
    have advance : Advance c now (.seen notice arrival) _ := .streamEnd phase chosen
    let seen : Consumer β := { c with allowance := c.allowance.request }
    refine ⟨_, advance, .inr ⟨rfl, streamEnded_phase .., ?_⟩⟩
    rw [deeds_of_proceed? advance.proceed?_eq_some (Tells.streamEnded seen.unreserve channel _)
      (Alike.streamEnded seen.unreserve channel _).stopSignal (streamEnded_phase_ne_idle _ _ _)]
    simp only [called, demand, phase]
    rfl

/-- What a loop does that waits for a closure: it takes the first it sees, and gives up once there
can be none or the time is up. -/
private theorem Advance.lingered (advance : Advance c now (.seen notice arrival) c')
    (phase : c.phase = .lingering channel resumeAt) :
    (∃ closure, notice = .item closure ∧ c'.phase = .parted c.pool channel .closed ∧
        c.deeds (.proceed now (.seen notice arrival)) = (Loss.closed closure).deeds c.settings) ∨
      (notice = .over ∨ notice = .quiet ∧ resumeAt ≤ now) ∧
        c'.phase = .parted c.pool channel (.ended resumeAt) ∧
        c.deeds (.proceed now (.seen notice arrival)) = Loss.unexplained.deeds c.settings := by
  have stepped := advance.proceed?_eq_some
  have ends (same : c.streamEnded channel resumeAt = c') :
      c'.phase = .parted c.pool channel (.ended resumeAt) ∧
        c.deeds (.proceed now (.seen notice arrival)) = Loss.unexplained.deeds c.settings := by
    subst same
    refine ⟨streamEnded_phase .., ?_⟩
    rw [deeds_of_proceed? stepped (.streamEnded ..) (Alike.streamEnded ..).stopSignal
      (streamEnded_phase_ne_idle _ _ _)]
    simp only [called, demand, phase]
    rfl
  cases notice with
  | item closure =>
    left
    have same : c.closed channel closure = c' := by
      simpa only [proceed?, phase, linger?, Option.some.injEq] using stepped
    subst same
    refine ⟨closure, rfl, closed_phase .., ?_⟩
    rw [deeds_of_proceed? stepped (.closed ..) (Alike.closed ..).stopSignal
      (closed_phase_ne_idle _ _ _)]
    simp only [called, demand, phase]
    rfl
  | quiet =>
    have outlasted : resumeAt ≤ now ∧ c.streamEnded channel resumeAt = c' := by
      simpa only [proceed?, phase, linger?, Option.ite_none_right_eq_some, Option.some.injEq]
        using stepped
    exact .inr ⟨.inr ⟨rfl, outlasted.1⟩, ends outlasted.2⟩
  | _ =>
    -- the feed is over
    have same : c.streamEnded channel resumeAt = c' := by
      simpa only [proceed?, phase, linger?, Option.some.injEq] using stepped
    exact .inr ⟨.inl rfl, ends same⟩

end Consumer

namespace World

variable {β : Type} {w w' : World β} {x : Incident β} {i : Nat} {settings : ConsumerSettings}
  {pool : PoolSettings} {c : Consumer β} {channel : Channel} {instant since : Nat}
  {closure : Closure} {punctual : Prop}

/-- The loop of the consumer `i` waits for a closure of the channel, but no longer than until an
instant. -/
def lingers (w : World β) (i : Nat) (channel : Channel) (instant : Nat) : Bool :=
  w.consumers[i]?.any fun c => c.phase = .lingering channel instant

private theorem Stands.lingers_eq_true (stands : w.Stands i settings pool c)
    (phase : c.phase = .lingering channel instant) : w.lingers i channel instant = true := by
  rw [World.lingers, stands.found, Option.any_some]
  exact decide_eq_true phase

/-- While the loop of the consumer `i` waits for a closure, nobody else takes one from its feed. -/
def LeavesNotices (i : Nat) (channel : Channel) (instant : Nat)
    (t : Transition (World β) (Incident β)) : Prop :=
  t.source.lingers i channel instant = true → t.event ≠ .event (.task (.loop i)) →
    (t.source.source.notices channel).items <+: (t.target.source.notices channel).items

/-- While the loop of the consumer `i` waits for a closure, none is on the feed. -/
def Unexplained (i : Nat) (channel : Channel) (instant : Nat)
    (t : Transition (World β) (Incident β)) : Prop :=
  t.source.lingers i channel instant = true → (t.source.source.notices channel).items = []

instance (i : Nat) (channel : Channel) (instant : Nat) (t : Transition (World β) (Incident β)) :
    Decidable (Unexplained i channel instant t) :=
  inferInstanceAs (Decidable (_ = true → _ = []))

private theorem parted_ne_acquiring (pool : PoolSettings) (channel : Channel) (ending : Ending) :
    Phase.parted pool channel ending ≠ .acquiring := by
  unfold Phase.parted
  split <;> nofun

/-- What an incident makes of a loop that waits for a closure. -/
inductive Lingers (w : World β) (x : Incident β) (w' : World β) (i : Nat)
    (settings : ConsumerSettings) (pool : PoolSettings) (channel : Channel) (instant : Nat) :
    Phase → List Deed → Prop
  | stays (stuck : x = .event (.task (.loop i)) →
      (w.source.notices channel).glance = .quiet ∧ w.now < instant) :
      Lingers w x w' i settings pool channel instant (.lingering channel instant) []
  | explained {closure : Closure} (seen : (w.source.notices channel).glance = .item closure)
      (still : w'.now = w.now) : Lingers w x w' i settings pool channel instant
        (.parted pool channel .closed) ((Consumer.Loss.closed closure).deeds settings)
  | ends (seen : (w.source.notices channel).glance = .over ∨
      (w.source.notices channel).glance = .quiet ∧ instant ≤ w.now) (still : w'.now = w.now) :
      Lingers w x w' i settings pool channel instant (.parted pool channel (.ended instant))
        (Consumer.Loss.unexplained.deeds settings)

private theorem answer_of_lingering (w : World β) (i : Nat)
    (phase : c.phase = .lingering channel instant) :
    (w.answer i c).1 =
      .seen (w.source.notices channel).glance (w.source.deliveries channel).glance := by
  rw [World.answer, Consumer.demand, phase]

/-- A loop that waits for a closure can go on unless the feed is quiet and the time is not up. -/
private theorem quiet_of_lingering (phase : c.phase = .lingering channel instant)
    (stuck : c.proceed? w.now (w.answer i c).1 = none) :
    (w.source.notices channel).glance = .quiet ∧ w.now < instant := by
  rw [answer_of_lingering w i phase] at stuck
  cases notice : (w.source.notices channel).glance with
  | quiet =>
    refine ⟨rfl, Nat.lt_of_not_le fun due => ?_⟩
    simp [Consumer.proceed?, phase, Consumer.linger?, notice, due] at stuck
  | _ => simp [Consumer.proceed?, phase, Consumer.linger?, notice] at stuck

private theorem Stands.lingers (stands : w.Stands i settings pool c)
    (phase : c.phase = .lingering channel instant) (underwent : w.undergo? x = some w') :
    ∃ c', w'.Stands i settings pool c' ∧ asks i w x = [] ∧
      Lingers w x w' i settings pool channel instant c'.phase (does i w x) := by
  obtain ⟨c', stands', paces⟩ := stands.undergo? underwent
  refine ⟨c', stands', ?_⟩
  rw [stands.asks_eq underwent stands']
  cases paces with
  | rests same deeds stuck =>
    rw [deeds (by rw [phase]; nofun), same, phase]
    exact ⟨if_neg (by simp), .stays fun isLoop => quiet_of_lingering phase (stuck isLoop)⟩
  | launches idle => cases phase.symm.trans idle
  | @goes next goes same =>
    subst same
    have advance := goes.advance
    have deeds := goes.deeds
    rw [answer_of_lingering w i phase] at advance deeds
    have kept : next.unnoted.phase = next.phase := rfl
    rw [deeds, kept]
    obtain ⟨closure, seen, phase', does⟩ | ⟨seen, phase', does⟩ := advance.lingered phase <;>
      rw [phase', does, stands.settings, stands.pool]
    · exact ⟨if_neg fun both => parted_ne_acquiring _ _ _ both.2, .explained seen goes.still⟩
    · exact ⟨if_neg fun both => parted_ne_acquiring _ _ _ both.2, .ends seen goes.still⟩

/-! ## No closure comes -/

/-- The loop still waits for a closure, and is not late. -/
structure Waits (punctual : Prop) (channel : Channel) (instant : Nat) (w : World β)
    (c : Consumer β) : Prop where
  phase : c.phase = .lingering channel instant
  early : punctual → w.now ≤ instant

private theorem Waits.awaits (waits : Waits punctual channel instant w c)
    (stands : w.Stands i settings pool c) :
    w.awaits? i = some instant ∧ (w.loop? i = none → w.now < instant) := by
  rw [stands.awaits?_eq, waits.phase]
  exact ⟨rfl, fun stuck => (quiet_of_lingering waits.phase (stands.proceed?_eq_none stuck)).2⟩

private theorem Waits.leaves (waits : Waits punctual channel instant w c)
    (stands : w.Stands i settings pool c) (underwent : w.undergo? x = some w')
    (unexplained : Unexplained i channel instant ⟨w, x, w'⟩)
    (prompt : punctual → Prompt i ⟨w, x, w'⟩) :
    ∃ c', w'.Stands i settings pool c' ∧ Rejoins (Waits punctual channel instant) (· = instant)
      punctual pool (fun restored => Consumer.Loss.unexplained.deeds settings ++
        Consumer.partingDeeds pool channel restored) w' c' (asks i w x) (does i w x) := by
  obtain ⟨c', stands', asked, lingers⟩ := stands.lingers waits.phase underwent
  refine ⟨c', stands', ?_⟩
  have none := unexplained (stands.lingers_eq_true waits.phase)
  rw [asked]
  generalize phase : c'.phase = phase', does i w x = done at lingers ⊢
  cases lingers with
  | stays stuck =>
    have awaits := (waits.awaits stands).1
    exact .stays ⟨phase, fun on => (prompt on).early (fun _ => awaits) (waits.early on)⟩
  | explained seen still =>
    obtain ⟨rest, items⟩ := Feed.items_of_glance seen
    cases none.symm.trans items
  | ends seen still =>
    refine .returns rfl (.owing ?_ fun on => still ▸ waits.early on)
    rw [phase]
    exact .parted rfl fun _ => rfl

private theorem Waits.resumes {later : List (Incident β)} {w₂ : World β}
    (waits : Waits punctual channel instant w c) (stands : w.Stands i settings pool c)
    (ran : Replay.after? World.undergo? w later = some w₂)
    (unexplained : ∀ t ∈ Replay.transitions World.undergo? w later,
      Unexplained i channel instant t)
    (prompt : punctual → ∀ t ∈ Replay.transitions World.undergo? w later, Prompt i t) :
    ∃ restored, Resumes punctual w₂ i (Consumer.Loss.unexplained.deeds settings ++
        Consumer.partingDeeds pool channel restored) instant
      (Replay.gather World.undergo? (asks i) w later)
      (Replay.gather World.undergo? (does i) w later) := by
  obtain ⟨c₂, stands₂, rejoins⟩ := Rejoins.after? (.stays waits) stands
    (fun waits stands underwent unexplained prompt =>
      waits.leaves stands underwent unexplained prompt) ran unexplained prompt
  rw [List.nil_append, List.nil_append] at rejoins
  obtain ⟨_, rfl, resumes⟩ := rejoins.resumes stands₂ fun waits =>
    ⟨instant, rfl, fun stuck => (waits.awaits stands₂).imp_right (· stuck)⟩
  exact resumes

/-- A loop waits on as long as the feed is quiet and the time is not up. -/
private theorem Stands.lingers_on {early : List (Incident β)} {v : World β}
    (stands : w.Stands i settings pool c) (phase : c.phase = .lingering channel instant)
    (ran : Replay.after? World.undergo? w early = some v)
    (quiet : ∀ t ∈ Replay.transitions World.undergo? w early,
      (t.source.source.notices channel).glance = .quiet) (before : v.now < instant) :
    ∃ c', v.Stands i settings pool c' ∧ c'.phase = .lingering channel instant ∧
      Replay.gather World.undergo? (asks i) w early = [] ∧
      Replay.gather World.undergo? (does i) w early = [] := by
  refine Replay.after?_induction
    (P := fun early v => (∀ t ∈ Replay.transitions World.undergo? w early,
        (t.source.source.notices channel).glance = .quiet) → v.now < instant →
      ∃ c', v.Stands i settings pool c' ∧ c'.phase = .lingering channel instant ∧
        Replay.gather World.undergo? (asks i) w early = [] ∧
        Replay.gather World.undergo? (does i) w early = []) ?_ ?_ ran quiet before
  · intro _ _
    exact ⟨c, stands, phase, rfl, rfl⟩
  · intro events middle x next ran ih underwent quiet before
    rw [Replay.transitions_concat ran underwent] at quiet
    have before' : middle.now < instant :=
      Nat.lt_of_le_of_lt (now_le_of_undergo? underwent) before
    have quiet' := quiet ⟨middle, x, next⟩ (by simp)
    obtain ⟨c₁, stands₁, phase₁, asked, did⟩ :=
      ih (fun t member => quiet t (List.mem_append_left _ member)) before'
    obtain ⟨c₂, stands₂, asked', lingers⟩ := stands₁.lingers phase₁ underwent
    rw [Replay.gather_concat (asks i) ran underwent, Replay.gather_concat (does i) ran underwent,
      asked, did, asked']
    generalize phase₂ : c₂.phase = phase', does i middle x = done at lingers ⊢
    cases lingers with
    | stays stuck => exact ⟨c₂, stands₂, phase₂, rfl, rfl⟩
    | explained seen still => cases quiet'.symm.trans seen
    | ends seen still =>
      obtain ended | ⟨_, due⟩ := seen
      · cases quiet'.symm.trans ended
      · exact absurd before' (Nat.not_lt_of_le due)

/-! ## A closure comes -/

/-- The loop waits for a closure, and the first one has been on the feed since an instant. -/
structure Explained (punctual : Prop) (channel : Channel) (instant : Nat) (closure : Closure)
    (since : Nat) (w : World β) (c : Consumer β) : Prop where
  phase : c.phase = .lingering channel instant
  first : ∃ rest, (w.source.notices channel).items = closure :: rest
  later : since ≤ w.now
  early : punctual → w.now = since

private theorem Explained.glance
    (explained : Explained punctual channel instant closure since w c) :
    (w.source.notices channel).glance = .item closure := by
  obtain ⟨rest, items⟩ := explained.first
  exact Feed.glance_of_items items

private theorem Explained.goesOn (explained : Explained punctual channel instant closure since w c)
    (stands : w.Stands i settings pool c) : w.loop? i ≠ none := by
  intro stuck
  have quiet := (quiet_of_lingering explained.phase (stands.proceed?_eq_none stuck)).1
  cases quiet.symm.trans explained.glance

private theorem Explained.leaves (explained : Explained punctual channel instant closure since w c)
    (stands : w.Stands i settings pool c) (underwent : w.undergo? x = some w')
    (leaves : LeavesNotices i channel instant ⟨w, x, w'⟩)
    (prompt : punctual → Prompt i ⟨w, x, w'⟩) :
    ∃ c', w'.Stands i settings pool c' ∧
      Rejoins (Explained punctual channel instant closure since) (· = since) punctual pool
        (fun restored => (Consumer.Loss.closed closure).deeds settings ++
          Consumer.partingDeeds pool channel restored) w' c' (asks i w x) (does i w x) := by
  obtain ⟨c', stands', asked, lingers⟩ := stands.lingers explained.phase underwent
  refine ⟨c', stands', ?_⟩
  have later := Nat.le_trans explained.later (now_le_of_undergo? underwent)
  have early (on : punctual) : w'.now = since :=
    ((prompt on).still (explained.goesOn stands) underwent).trans (explained.early on)
  rw [asked]
  generalize phase : c'.phase = phase', does i w x = done at lingers ⊢
  cases lingers with
  | stays stuck =>
    have other : x ≠ .event (.task (.loop i)) := by
      intro isLoop
      cases (stuck isLoop).1.symm.trans explained.glance
    obtain ⟨rest, items⟩ := explained.first
    have kept := leaves (stands.lingers_eq_true explained.phase) other
    obtain ⟨more, same⟩ := kept
    refine .stays ⟨phase, ⟨rest ++ more, ?_⟩, later, early⟩
    rw [← List.cons_append, ← items]
    exact same.symm
  | explained seen still =>
    cases seen.symm.trans explained.glance
    refine .returns rfl (.owing ?_ fun on => Nat.le_of_eq (early on))
    rw [phase]
    exact .parted later fun _ => rfl
  | ends seen still => simp [explained.glance] at seen

private theorem Explained.resumes {later : List (Incident β)} {w₂ : World β}
    (explained : Explained punctual channel instant closure since w c)
    (stands : w.Stands i settings pool c)
    (ran : Replay.after? World.undergo? w later = some w₂)
    (leaves : ∀ t ∈ Replay.transitions World.undergo? w later, LeavesNotices i channel instant t)
    (prompt : punctual → ∀ t ∈ Replay.transitions World.undergo? w later, Prompt i t) :
    ∃ restored, Resumes punctual w₂ i ((Consumer.Loss.closed closure).deeds settings ++
        Consumer.partingDeeds pool channel restored) since
      (Replay.gather World.undergo? (asks i) w later)
      (Replay.gather World.undergo? (does i) w later) := by
  obtain ⟨c₂, stands₂, rejoins⟩ := Rejoins.after? (.stays explained) stands
    (fun explained stands underwent leaves prompt =>
      explained.leaves stands underwent leaves prompt) ran leaves prompt
  rw [List.nil_append, List.nil_append] at rejoins
  obtain ⟨_, rfl, resumes⟩ := rejoins.resumes stands₂ fun explained =>
    ⟨since, rfl, fun stuck => absurd stuck (explained.goesOn stands₂)⟩
  exact resumes

/-! ## Either way -/

/-- The deliveries of a channel end, and the loop either waits for a closure or, if the feed of
closures was over before, reports the end at once. -/
private theorem Stands.exists_ended {watching : Bool} (stands : w.Stands i settings pool c)
    (phase : c.phase = .streaming channel watching)
    (ended : c.choose watching (w.source.notices channel).glance
      (w.source.deliveries channel).glance = .streamEnd) :
    ∃ w₁ c₁, w.undergo? (.event (.task (.loop i))) = some w₁ ∧ w₁.Stands i settings pool c₁ ∧
      w₁.now = w.now ∧ asks i w (.event (.task (.loop i))) = [] ∧
      (watching = true ∧
          c₁.phase = .lingering channel (w.now + settings.idlePause.toNat) ∧
          does i w (.event (.task (.loop i))) = [] ∨
        watching = false ∧
          c₁.phase = .parted pool channel (.ended (w.now + settings.idlePause.toNat)) ∧
          does i w (.event (.task (.loop i))) = Consumer.Loss.unexplained.deeds settings) := by
  obtain ⟨next, advance, leads⟩ := Consumer.Advance.of_streamEnd w.now phase ended
  have answer : (w.answer i c).1 =
      .seen (w.source.notices channel).glance (w.source.deliveries channel).glance := by
    rw [World.answer, Consumer.demand, phase]
  have proceeded : c.proceed? w.now (w.answer i c).1 = some next :=
    answer ▸ advance.proceed?_eq_some
  obtain ⟨w₁, underwent⟩ := Option.ne_none_iff_exists'.mp (stands.loop?_ne_none proceeded)
  obtain ⟨_, _, stuck⟩ | ⟨next', stands₁, goes⟩ := stands.of_loop? underwent
  · cases stuck.symm.trans proceeded
  cases goes.advance.proceed?_eq_some.symm.trans proceeded
  have kept : next.unnoted.phase = next.phase := rfl
  have elsewhere : next.phase ≠ .acquiring := by
    obtain ⟨_, phase', _⟩ | ⟨_, phase', _⟩ := leads <;> rw [phase']
    · simp
    · exact parted_ne_acquiring _ _ _
  refine ⟨w₁, next.unnoted, underwent, stands₁, goes.still, ?_, ?_⟩
  · rw [Stands.asks_eq (x := .event (.task (.loop i))) stands underwent stands₁,
      if_neg fun both => elsewhere both.2]
  · rw [kept, goes.deeds, answer, ← stands.settings, ← stands.pool]
    exact leads

/-- When the deliveries of a channel end, the loop has a pause's time to come to its next lease. If
it still listens for closures and one comes in this time, it reports and counts just this one and
not the end of the deliveries, and goes on at once. If none comes while it waits, or the feed of
closures is over, it reports the end of the deliveries and no closure, and does not ask for a lease
before the pause has passed; nothing but the pause holds it up, and it asks at just that instant if
the clock moves only when it has to wait. Either way it puts the pool's prefetch limit back and
gives the channel back with an error, once, before it asks for a lease or takes a stop signal. -/
theorem stream_end_accounted {source : Source β} {consumers : List (Consumer β)}
    {xs : List (Incident β)} {watching : Bool}
    (created : ∀ c ∈ consumers, ∃ settings pool, Consumer.create settings pool = .ok c)
    (ran : Replay.after? World.undergo? (ofSource source consumers) xs = some w)
    (found : w.consumers[i]? = some c) (phase : c.phase = .streaming channel watching)
    (ended : c.choose watching (w.source.notices channel).glance
      (w.source.deliveries channel).glance = .streamEnd) :
    ∃ w₁, w.undergo? (.event (.task (.loop i))) = some w₁ ∧
      (watching = true →
        ∀ {early later : List (Incident β)} {v w₂ : World β} {closure : Closure}
          {rest : List Closure}, Replay.after? World.undergo? w₁ early = some v →
        (∀ t ∈ Replay.transitions World.undergo? w₁ early,
          (t.source.source.notices channel).glance = .quiet) →
        v.now < w.now + c.settings.idlePause.toNat →
        (v.source.notices channel).items = closure :: rest →
        Replay.after? World.undergo? v later = some w₂ →
        (∀ t ∈ Replay.transitions World.undergo? v later,
          LeavesNotices i channel (w.now + c.settings.idlePause.toNat) t) → ∃ restored,
        Resumes (∀ t ∈ Replay.transitions World.undergo? v later, Prompt i t) w₂ i
          ((Consumer.Loss.closed closure).deeds c.settings ++
            Consumer.partingDeeds c.pool channel restored) v.now
          (Replay.gather World.undergo? (asks i) w
            (.event (.task (.loop i)) :: early ++ later))
          (Replay.gather World.undergo? (does i) w
            (.event (.task (.loop i)) :: early ++ later))) ∧
      ∀ {later : List (Incident β)} {w₂ : World β},
        Replay.after? World.undergo? w₁ later = some w₂ →
        (watching = true → ∀ t ∈ Replay.transitions World.undergo? w₁ later,
          Unexplained i channel (w.now + c.settings.idlePause.toNat) t) → ∃ restored,
        Resumes (∀ t ∈ Replay.transitions World.undergo? w₁ later, Prompt i t) w₂ i
          (Consumer.Loss.unexplained.deeds c.settings ++
            Consumer.partingDeeds c.pool channel restored)
          (w.now + c.settings.idlePause.toNat)
          (Replay.gather World.undergo? (asks i) w (.event (.task (.loop i)) :: later))
          (Replay.gather World.undergo? (does i) w (.event (.task (.loop i)) :: later)) := by
  have stands := stands_of_after? created ran found
  obtain ⟨w₁, c₁, underwent, stands₁, still, asked, leads⟩ := stands.exists_ended phase ended
  refine ⟨w₁, underwent, ?_, ?_⟩
  · intro watches early later v w₂ closure rest ran₁ quiet before items ran₂ leaves
    obtain ⟨_, phase₁, did⟩ | ⟨unwatched, _⟩ := leads
    · obtain ⟨c₂, stands₂, phase₂, asked', did'⟩ :=
        stands₁.lingers_on phase₁ ran₁ quiet before
      rw [List.cons_append, Replay.gather_cons (asks i) _ underwent,
        Replay.gather_cons (does i) _ underwent, Replay.gather_append (asks i) _ ran₁,
        Replay.gather_append (does i) _ ran₁, asked, did, asked', did']
      have explained : Explained (∀ t ∈ Replay.transitions World.undergo? v later, Prompt i t)
          channel (w.now + c.settings.idlePause.toNat) closure v.now v c₂ :=
        ⟨phase₂, ⟨rest, items⟩, Nat.le_refl _, fun _ => rfl⟩
      exact explained.resumes stands₂ ran₂ leaves id
    · cases watches.symm.trans unwatched
  · intro later w₂ ran₁ unexplained
    rw [Replay.gather_cons (asks i) _ underwent, Replay.gather_cons (does i) _ underwent, asked]
    obtain ⟨watches, phase₁, did⟩ | ⟨_, phase₁, did⟩ := leads
    · have waits : Waits (∀ t ∈ Replay.transitions World.undergo? w₁ later, Prompt i t) channel
          (w.now + c.settings.idlePause.toNat) w₁ c₁ :=
        ⟨phase₁, fun _ => still ▸ Nat.le_add_right _ _⟩
      rw [did]
      exact waits.resumes stands₁ ran₁ (unexplained watches) id
    · have back : Return (∀ t ∈ Replay.transitions World.undergo? w₁ later, Prompt i t) c.pool
          (fun restored => Consumer.Loss.unexplained.deeds c.settings ++
            Consumer.partingDeeds c.pool channel restored) (w.now + c.settings.idlePause.toNat)
          w₁.now c₁.phase [] (Consumer.Loss.unexplained.deeds c.settings) := by
        refine .owing ?_ fun _ => still ▸ Nat.le_add_right _ _
        rw [phase₁]
        exact .parted rfl fun _ => rfl
      obtain ⟨c₂, stands₂, back⟩ := back.after? stands₁ ran₁ id
      rw [did]
      exact back.resumes stands₂

/-- The loop of the first consumer has its turn. -/
def turnOfFirst : Incident Nat := .event (.task (.loop 0))

/-- A channel receives, its deliveries end, and it closes some time later. -/
def endsBeforeClosing (ms : Nat) : List (Incident Nat) :=
  .event (.act 0 .start) :: List.replicate 3 turnOfFirst ++
    [.event (.closeLate ⟨320, "CONNECTION_FORCED"⟩ ms)]

/-- The channel closes within the pause. -/
def closesInTime : List (Incident Nat) := [.event (.pass 5), .event (.task (.closure 0))]

/-- A body is published, and the loop comes to ask for the next lease. -/
def goesOnAtOnce : List (Incident Nat) :=
  .event (.broker (.publish 10)) :: List.replicate 4 turnOfFirst

/-- The pause passes, and the loop comes to ask for the next lease. -/
def waitsInVain : List (Incident Nat) := .event (.pass 100) :: List.replicate 5 turnOfFirst

/-- The deliveries have ended, and the loop is about to see it. -/
def seesEnd (w : World Nat) : Bool :=
  w.now == 0 && w.consumers[0]?.any fun c =>
    c.phase = .streaming ⟨1, 1⟩ true && c.settings.idlePause.toNat == 100 &&
      c.choose true (w.source.notices ⟨1, 1⟩).glance (w.source.deliveries ⟨1, 1⟩).glance =
        .streamEnd

/-- The loop takes the closure it waited for, and asks for the next lease at an instant. -/
def explainedAt (instant : Nat) (w : World Nat) : Bool :=
  (w.undergo? turnOfFirst).any fun w₁ =>
    (Replay.transitions World.undergo? w₁ closesInTime).all (fun t =>
      (t.source.source.notices ⟨1, 1⟩).glance = .quiet) &&
    (Replay.after? World.undergo? w₁ closesInTime).any fun v =>
      v.now == instant &&
        (v.source.notices ⟨1, 1⟩).items = [⟨320, "CONNECTION_FORCED"⟩] &&
        (Replay.after? World.undergo? v goesOnAtOnce).isSome &&
        (Replay.transitions World.undergo? v goesOnAtOnce).all (fun t =>
          t.event matches .event (.task (.loop 0)) ||
            (t.target.source.notices ⟨1, 1⟩).items = (t.source.source.notices ⟨1, 1⟩).items) &&
        Replay.gather World.undergo? (asks 0) w (turnOfFirst :: closesInTime ++ goesOnAtOnce) ==
          [instant]

/-- No closure comes, and the loop asks for the next lease at an instant. -/
def unexplainedAt (instant : Nat) (w : World Nat) : Bool :=
  (w.undergo? turnOfFirst).any fun w₁ =>
    (Replay.after? World.undergo? w₁ waitsInVain).isSome &&
      (Replay.transitions World.undergo? w₁ waitsInVain).all (fun t =>
        Unexplained 0 ⟨1, 1⟩ instant t) &&
      Replay.gather World.undergo? (asks 0) w (turnOfFirst :: waitsInVain) == [instant]

private theorem exists_of_seesEnd {w : World Nat} (sees : seesEnd w = true) :
    ∃ c, w.consumers[0]? = some c ∧ c.phase = .streaming ⟨1, 1⟩ true ∧
      c.choose true (w.source.notices ⟨1, 1⟩).glance (w.source.deliveries ⟨1, 1⟩).glance =
        .streamEnd ∧ w.now + c.settings.idlePause.toNat = 100 := by
  simp only [seesEnd, Bool.and_eq_true, beq_iff_eq, Option.any_eq_true, decide_eq_true_eq] at sees
  obtain ⟨start, c, found, ⟨phase, pause⟩, ended⟩ := sees
  exact ⟨c, found, phase, ended, by rw [start, pause]⟩

theorem stream_end_accounted_late : ∃ (c₀ c d : Consumer Nat) (w w₁ v w₂ u u₁ u₂ : World Nat)
    (restored restored' : Except ChannelFault Unit), Consumer.create .default ⟨7, 1⟩ = .ok c₀ ∧
    Replay.after? World.undergo? (ofSource (.broker (.ofQueue "")) [c₀]) (endsBeforeClosing 5) =
      some w ∧ w.consumers[0]? = some c ∧ w.undergo? turnOfFirst = some w₁ ∧
    Replay.after? World.undergo? w₁ closesInTime = some v ∧
    Replay.after? World.undergo? v goesOnAtOnce = some w₂ ∧
    Resumes (∀ t ∈ Replay.transitions World.undergo? v goesOnAtOnce, Prompt 0 t) w₂ 0
      ((Consumer.Loss.closed ⟨320, "CONNECTION_FORCED"⟩).deeds c.settings ++
        Consumer.partingDeeds c.pool ⟨1, 1⟩ restored) 5 [5]
      (Replay.gather World.undergo? (does 0) w (turnOfFirst :: closesInTime ++ goesOnAtOnce)) ∧
    Replay.after? World.undergo? (ofSource (.broker (.ofQueue "")) [c₀]) (endsBeforeClosing 500) =
      some u ∧ u.consumers[0]? = some d ∧ u.undergo? turnOfFirst = some u₁ ∧
    Replay.after? World.undergo? u₁ waitsInVain = some u₂ ∧
    Resumes (∀ t ∈ Replay.transitions World.undergo? u₁ waitsInVain, Prompt 0 t) u₂ 0
      (Consumer.Loss.unexplained.deeds d.settings ++
        Consumer.partingDeeds d.pool ⟨1, 1⟩ restored') 100 [100]
      (Replay.gather World.undergo? (does 0) u (turnOfFirst :: waitsInVain)) := by
  obtain ⟨c₀, created, closes, waits⟩ : ∃ c₀ : Consumer Nat,
      Consumer.create .default ⟨7, 1⟩ = .ok c₀ ∧
      (Replay.after? World.undergo? (ofSource (.broker (.ofQueue "")) [c₀])
        (endsBeforeClosing 5)).any (fun w => seesEnd w && explainedAt 5 w) = true ∧
      (Replay.after? World.undergo? (ofSource (.broker (.ofQueue "")) [c₀])
        (endsBeforeClosing 500)).any (fun w => seesEnd w && unexplainedAt 100 w) = true :=
    ⟨_, rfl, by decide +kernel, by decide +kernel⟩
  have all := exists_create_of_mem_singleton created
  simp only [Option.any_eq_true, Bool.and_eq_true, explainedAt, unexplainedAt, List.all_eq_true,
    beq_iff_eq, decide_eq_true_eq, Option.isSome_iff_exists, Bool.or_eq_true] at closes waits
  obtain ⟨w, ran, sees, w₁, underwent, quiet, v, ran₁, ⟨⟨⟨instant, items⟩, w₂, ran₂⟩, leaves⟩,
    asked⟩ := closes
  obtain ⟨u, went, sees', u₁, underwent', ⟨⟨u₂, went₁⟩, unexplained⟩, asked'⟩ := waits
  obtain ⟨c, found, phase, ended, pause⟩ := exists_of_seesEnd sees
  obtain ⟨d, found', phase', ended', pause'⟩ := exists_of_seesEnd sees'
  have leaves : ∀ t ∈ Replay.transitions World.undergo? v goesOnAtOnce,
      LeavesNotices 0 ⟨1, 1⟩ (w.now + c.settings.idlePause.toNat) t := by
    intro t member _ other
    obtain turn | same := leaves t member
    · split at turn
      · next isLoop => exact absurd isLoop other
      · cases turn
    · exact same ▸ List.prefix_rfl
  have before : v.now < w.now + c.settings.idlePause.toNat := by
    rw [instant, pause]
    decide
  obtain ⟨_, underwent₁, explained, _⟩ := stream_end_accounted all ran found phase ended
  cases underwent.symm.trans underwent₁
  obtain ⟨_, underwent₂, _, waited⟩ := stream_end_accounted all went found' phase' ended'
  cases underwent'.symm.trans underwent₂
  obtain ⟨restored, resumes⟩ := explained rfl ran₁ quiet before items ran₂ leaves
  obtain ⟨restored', resumes'⟩ := waited went₁ fun _ => pause'.symm ▸ unexplained
  refine ⟨c₀, c, d, w, w₁, v, w₂, u, u₁, u₂, restored, restored', created, ran, found, underwent,
    ran₁, ran₂, ?_, went, found', underwent', went₁, ?_⟩
  · rw [← asked, ← instant]
    exact resumes
  · rw [← asked', ← pause']
    exact resumes'

end World

end Intake
