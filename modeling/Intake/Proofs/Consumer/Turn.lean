import Intake.Proofs.Consumer.Frame

/-! # The steps of the loop by their effect

`Consumer.Turn` sorts the rules of `Consumer.Advance` by what they do to the life of the loop and to
the deliveries. Invariants that do not depend on the exact phase are proved from these few cases.
-/

namespace Intake

namespace Consumer

variable {β : Type} {c c' : Consumer β} {now : Nat} {answer : Answer β}

/-- The effect of one step of the loop, with the deliveries it takes. -/
inductive Turn (c : Consumer β) : List (Channel × Delivery β) → Consumer β → Prop
  /-- Nothing that matters here. -/
  | works {c' : Consumer β} (before : c.phase.stage = .working) (after : c'.phase.stage = .working)
      (alike : Alike c c') : Turn c [] c'
  | receives {channel : Channel} {d : Delivery β} (before : c.phase.stage = .working)
      (silent : c.stopSignal = false) :
      Turn c [(channel, d)] (c.receive channel d)
  /-- A delivery is taken, and then a stop signal. -/
  | receivesLast {channel : Channel} {d : Delivery β} (before : c.phase.stage = .working)
      (signal : c.stopSignal = true) :
      Turn c [(channel, d)] ((c.receive channel d).takeStop channel)
  /-- A stop signal is taken. -/
  | obeys {c' : Consumer β} (before : c.phase.stage = .working) (signal : c.stopSignal = true)
      (after : c'.phase.stage = .leaving) (notParking : ∀ immediate, c'.phase ≠ .parking immediate)
      (alike : Alike { c with stopSignal := false } c') : Turn c [] c'
  /-- A step towards the end of the loop. -/
  | leaves {c' : Consumer β} (before : c.phase.stage = .leaving) (after : c'.phase.stage = .leaving)
      (alike : Alike c c') (hurried : c'.phase = .parking true → c.immediate = true)
      (emptied : c'.phase = .parking false → c.inFlight = 0) : Turn c [] c'
  | parks {immediate : Bool} (phase : c.phase = .parking immediate) : Turn c [] (c.park immediate)

/-! ## Phases -/

theorem leave_stage (c : Consumer β) (channel : Channel) {ending : Ending}
    (goesOn : ending ≠ .stopped) : (c.leave channel ending).phase.stage = .working := by
  unfold leave
  cases ending with
  | stopped => exact absurd rfl goesOn
  | _ => split <;> rfl

theorem leased_stage (c : Consumer β) (now : Nat) (result : Except ChannelFault Channel) :
    (c.leased now result).phase.stage = .working := by
  cases result with
  | ok channel =>
    simp only [leased, meter]
    split <;> rfl
  | error fault => rfl

theorem limited_stage (c : Consumer β) (channel : Channel) (result : Except ChannelFault Unit) :
    (c.limited channel result).phase.stage = .working := by
  have phase : (c.limited channel result).phase = .opening channel := by
    simp only [limited]
    split
    · rw [report_phase]
      rfl
    · rfl
  rw [phase]
  rfl

theorem opened_stage (c : Consumer β) (channel : Channel) (result : Except ChannelFault Unit) :
    (c.opened channel result).phase.stage = .working := by
  cases result <;> rfl

@[simp] theorem restored_phase (c : Consumer β) (channel : Channel) (ending : Ending)
    (result : Except ChannelFault Unit) :
    (c.restored channel ending result).phase = .releasing channel ending := by
  cases result <;> rfl

/-! ## Deliveries -/

theorem choose_eq_delivery {watching : Bool} {notice : Glance Closure}
    {arrival : Glance (Delivery β)} {d : Delivery β}
    (chosen : c.choose watching notice arrival = .delivery d) : arrival = .item d := by
  simp only [choose] at chosen
  split at chosen
  · cases chosen
  · cases chosen
  · split at chosen
    · cases chosen
      rfl
    · cases chosen
    · split at chosen <;> cases chosen

theorem stopSignal_of_choose {watching : Bool} {notice : Glance Closure}
    {arrival : Glance (Delivery β)} (chosen : c.choose watching notice arrival = .stop) :
    c.stopSignal = true := by
  simp only [choose] at chosen
  split at chosen
  · cases chosen
  · cases chosen
  · split at chosen
    · cases chosen
    · cases chosen
    · split at chosen
      · assumption
      · cases chosen

theorem taken_eq_nil (other : c.takes answer ≠ .arrival) :
    c.taken (.proceed now answer) = [] := by
  unfold taken
  split
  · next same =>
    cases same
    exact if_neg other
  · rfl

/-- A delivery is taken off the feed of a streaming loop only. -/
theorem chosen_of_takes (takes : c.takes answer = .arrival) :
    ∃ channel watching notice arrival d, c.phase = .streaming channel watching ∧
      answer = .seen notice arrival ∧ c.choose watching notice arrival = .delivery d := by
  unfold Consumer.takes at takes
  split at takes
  · next channel watching notice arrival phase =>
    cases chosen : c.choose watching notice arrival with
    | delivery d => exact ⟨channel, watching, notice, arrival, d, phase, rfl, chosen⟩
    | _ => simp [chosen] at takes
  · cases takes
  · cases takes

theorem taken_of_delivery {channel : Channel} {watching : Bool} {notice : Glance Closure}
    {arrival : Glance (Delivery β)} {d : Delivery β}
    (phase : c.phase = .streaming channel watching)
    (chosen : c.choose watching notice arrival = .delivery d) :
    c.taken (.proceed now (.seen notice arrival)) = [(channel, d)] := by
  cases choose_eq_delivery chosen
  simp only [taken, takes, phase, chosen, if_true, Phase.receiving?, Option.map_some,
    Option.toList_some]

/-- Every step of the loop has one of the effects. -/
theorem Advance.turn (advance : Advance c now answer c') :
    Turn c (c.taken (.proceed now answer)) c' := by
  cases advance with
  | stopBeforeLease phase signal =>
    rw [taken_eq_nil (by simp [takes, phase])]
    exact .obeys (by rw [phase]; rfl) signal rfl nofun ((Alike.phase _ _).trans (.log _ _))
  | seek phase silent =>
    rw [taken_eq_nil (by simp [takes, phase])]
    exact .works (by rw [phase]; rfl) rfl (.phase c _)
  | lease phase =>
    rw [taken_eq_nil (by simp [takes, phase])]
    exact .works (by rw [phase]; rfl) (leased_stage ..) (.leased ..)
  | limit phase =>
    rw [taken_eq_nil (by simp [takes, phase])]
    exact .works (by rw [phase]; rfl) (limited_stage ..) (.limited ..)
  | subscribe phase =>
    rw [taken_eq_nil (by simp [takes, phase])]
    exact .works (by rw [phase]; rfl) (opened_stage ..) (.opened ..)
  | closure phase chosen =>
    rw [taken_eq_nil (by simp [takes, phase, chosen])]
    exact .works (by rw [phase]; rfl) (leave_stage _ _ nofun)
      ((Alike.unreserve c).trans (.closed ..))
  | exhausted phase chosen =>
    rw [taken_eq_nil (by simp [takes, phase, chosen])]
    exact .works (by rw [phase]; rfl) rfl
      ((Alike.unreserve c).trans ((Alike.phase _ _).trans (.log _ _)))
  | receive phase chosen silent =>
    rw [taken_of_delivery phase chosen]
    exact .receives (by rw [phase]; rfl) silent
  | receiveLast phase chosen signal =>
    rw [taken_of_delivery phase chosen]
    exact .receivesLast (by rw [phase]; rfl) signal
  | linger phase chosen =>
    rw [taken_eq_nil (by simp [takes, phase, chosen])]
    exact .works (by rw [phase]; rfl) rfl
      ((Alike.request c).trans ((Alike.unreserve _).trans (.phase _ _)))
  | streamEnd phase chosen =>
    rw [taken_eq_nil (by simp [takes, phase, chosen])]
    exact .works (by rw [phase]; rfl) (leave_stage _ _ nofun)
      ((Alike.request c).trans ((Alike.unreserve _).trans (.streamEnded ..)))
  | stop phase chosen =>
    rw [taken_eq_nil (by simp [takes, phase, chosen])]
    exact .obeys (by rw [phase]; rfl) (stopSignal_of_choose chosen) rfl nofun
      ((Alike.request _).trans ((Alike.unreserve _).trans (.phase _ _)))
  | reserve phase chosen unreserved =>
    rw [taken_eq_nil (by simp [takes, phase, chosen])]
    refine .works (by rw [phase]; rfl) ?_ (.request c)
    change c.phase.stage = .working
    rw [phase]
    rfl
  | lateClosure phase =>
    rw [taken_eq_nil (by simp [takes, phase])]
    exact .works (by rw [phase]; rfl) (leave_stage _ _ nofun) (.closed ..)
  | unexplained phase =>
    rw [taken_eq_nil (by simp [takes, phase])]
    exact .works (by rw [phase]; rfl) (leave_stage _ _ nofun) (.streamEnded ..)
  | outlasted phase due =>
    rw [taken_eq_nil (by simp [takes, phase])]
    exact .works (by rw [phase]; rfl) (leave_stage _ _ nofun) (.streamEnded ..)
  | @restore channel ending result phase =>
    rw [taken_eq_nil (by simp [takes, phase])]
    have after : (c.restored channel ending result).phase.stage = c.phase.stage := by
      rw [restored_phase, phase]
      cases ending <;> rfl
    cases ending with
    | stopped =>
      have before : c.phase.stage = .leaving := by rw [phase]; rfl
      exact .leaves before (after.trans before) (.restored ..) (by simp) (by simp)
    | _ =>
      have before : c.phase.stage = .working := by rw [phase]; rfl
      exact .works before (after.trans before) (.restored ..)
  | @release channel ending _ phase =>
    rw [taken_eq_nil (by simp [takes, phase])]
    cases ending with
    | stopped => exact .leaves (by rw [phase]; rfl) rfl (.released ..) nofun nofun
    | _ => exact .works (by rw [phase]; rfl) rfl (.released ..)
  | resume phase due =>
    rw [taken_eq_nil (by simp [takes, phase])]
    exact .works (by rw [phase]; rfl) rfl (.phase c _)
  | drain phase =>
    rw [taken_eq_nil (by simp [takes, phase])]
    unfold Consumer.drain
    split
    · next hurried => exact .leaves (by rw [phase]; rfl) rfl (.phase c _) (fun _ => hurried) nofun
    · exact .leaves (by rw [phase]; rfl) rfl ((Alike.phase c _).trans (.log _ _)) nofun nofun
  | empty phase none =>
    rw [taken_eq_nil (by simp [takes, phase])]
    exact .leaves (by rw [phase]; rfl) rfl (.phase c _) nofun (fun _ => none)
  | park phase =>
    rw [taken_eq_nil (by simp [takes, phase])]
    exact .parks phase

theorem Advance.exists_turn (advance : Advance c now answer c') : ∃ taken, Turn c taken c' :=
  ⟨_, advance.turn⟩

/-- All but the last step of the loop leave the flags as they are. -/
theorem Turn.control {taken : List (Channel × Delivery β)} (turn : Turn c taken c')
    (goesOn : c'.phase ≠ .idle) : c'.control = { c.control with stopSignal := c'.stopSignal } := by
  cases turn with
  | works before after alike =>
    rw [← alike.control]
    rfl
  | receives before silent =>
    rw [receive_control, receive_stopSignal]
    rfl
  | receivesLast before signal =>
    rw [takeStop_control, receive_control]
    rfl
  | obeys before signal after notParking alike =>
    have gone : c'.stopSignal = false := alike.stopSignal
    rw [alike.control, gone]
    rfl
  | leaves before after alike hurried emptied =>
    rw [← alike.control]
    rfl
  | parks phase => exact absurd rfl goesOn

private theorem receive_queues (c : Consumer β) (channel : Channel) (d : Delivery β) :
    (c.receive channel d).messages = c.messages ∧ (c.receive channel d).errors = c.errors ∧
      c.dispatches <+: (c.receive channel d).dispatches := by
  dsimp only [receive, meter, log]
  exact ⟨rfl, rfl, List.prefix_append _ _⟩

private theorem takeStop_queues (c : Consumer β) (channel : Channel) :
    (c.takeStop channel).messages = c.messages ∧ (c.takeStop channel).errors = c.errors ∧
      (c.takeStop channel).dispatches = c.dispatches := ⟨rfl, rfl, rfl⟩

/-- A step of the loop leaves the queue of messages alone, and may dispatch a delivery. -/
theorem Turn.messages {taken : List (Channel × Delivery β)} (turn : Turn c taken c') :
    c'.messages = c.messages ∧ c.dispatches <+: c'.dispatches := by
  have same {l : Load β} (load : c'.load = l) : c'.messages = l.messages ∧
      c'.dispatches = l.dispatches :=
    ⟨congrArg Load.messages load, congrArg Load.dispatches load⟩
  have prefixed (dispatches : c'.dispatches = c.dispatches) : c.dispatches <+: c'.dispatches :=
    dispatches ▸ List.prefix_rfl
  cases turn with
  | works before after alike => exact (same alike.load).imp_right prefixed
  | receives before silent =>
    obtain ⟨messages, _, more⟩ := c.receive_queues _ _
    exact ⟨messages, more⟩
  | @receivesLast channel d before signal =>
    obtain ⟨messages, _, more⟩ := c.receive_queues channel d
    obtain ⟨kept, _, dispatches⟩ := (c.receive channel d).takeStop_queues channel
    exact ⟨kept.trans messages, dispatches ▸ more⟩
  | obeys before signal after notParking alike => exact (same alike.load).imp_right prefixed
  | leaves before after alike hurried emptied => exact (same alike.load).imp_right prefixed
  | parks phase => exact ⟨rfl, List.prefix_rfl⟩

/-- A step of the loop takes no errors off the queue. -/
theorem Turn.reports {taken : List (Channel × Delivery β)} (turn : Turn c taken c') :
    Reports c c' := by
  cases turn with
  | works before after alike => exact alike.reports
  | receives before silent => exact .nothing (c.receive_queues _ _).2.1
  | @receivesLast channel d before signal =>
    obtain ⟨_, kept, _⟩ := (c.receive channel d).takeStop_queues channel
    obtain ⟨_, errors, _⟩ := c.receive_queues channel d
    exact .nothing (kept.trans errors)
  | obeys before signal after notParking alike => exact alike.reports
  | leaves before after alike hurried emptied => exact alike.reports
  | parks phase => exact .nothing rfl

theorem Turn.settings {taken : List (Channel × Delivery β)} (turn : Turn c taken c') :
    c'.settings = c.settings := by
  cases turn with
  | works before after alike => exact alike.settings
  | receives before silent => exact receive_settings ..
  | receivesLast before signal => rw [takeStop_settings, receive_settings]
  | obeys before signal after notParking alike => exact alike.settings
  | leaves before after alike hurried emptied => exact alike.settings
  | parks phase => rfl

end Consumer

end Intake
