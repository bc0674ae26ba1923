import Intake.Proofs.Consumer.Event

/-! # The steps of the loop

`Consumer.Advance` lists everything the loop of a consumer can do in one step, one rule for each
outcome, with the consumer it leads to. `proceed?_eq_some_iff` says that the list is complete and
that every rule can be followed; facts about the loop are proved rule by rule from it.
-/

namespace Intake

namespace Consumer

variable {β : Type} {c c' : Consumer β} {now : Nat} {answer : Answer β}

/-- What one step of the loop makes of a consumer, given the instant and the answer of the
source. -/
inductive Advance (c : Consumer β) (now : Nat) : Answer β → Consumer β → Prop
  -- before a lease
  | stopBeforeLease {answer : Answer β} (phase : c.phase = .checking)
      (signal : c.stopSignal = true) :
      Advance c now answer ({ c with stopSignal := false, phase := .draining }.log
        (.stopWhileAcquiring c.settings.queue))
  | seek {answer : Answer β} (phase : c.phase = .checking) (silent : c.stopSignal = false) :
      Advance c now answer { c with phase := .acquiring }
  | lease {result} (phase : c.phase = .acquiring) :
      Advance c now (.leased result) (c.leased now result)
  | limit {channel result} (phase : c.phase = .limiting channel) :
      Advance c now (.done result) (c.limited channel result)
  | subscribe {channel result} (phase : c.phase = .opening channel) :
      Advance c now (.done result) (c.opened channel result)
  -- while it receives
  | closure {channel watching notice arrival closure}
      (phase : c.phase = .streaming channel watching)
      (chosen : c.choose watching notice arrival = .closure closure) :
      Advance c now (.seen notice arrival) (c.unreserve.closed channel closure)
  | exhausted {channel watching notice arrival}
      (phase : c.phase = .streaming channel watching)
      (chosen : c.choose watching notice arrival = .exhausted) :
      Advance c now (.seen notice arrival)
        ({ c.unreserve with phase := .streaming channel false }.log
          (.noticesExhausted channel.id))
  | receive {channel watching notice arrival d}
      (phase : c.phase = .streaming channel watching)
      (chosen : c.choose watching notice arrival = .delivery d) (silent : c.stopSignal = false) :
      Advance c now (.seen notice arrival) (c.receive channel d)
  | receiveLast {channel watching notice arrival d}
      (phase : c.phase = .streaming channel watching)
      (chosen : c.choose watching notice arrival = .delivery d) (signal : c.stopSignal = true) :
      Advance c now (.seen notice arrival) ((c.receive channel d).takeStop channel)
  | linger {channel notice arrival} (phase : c.phase = .streaming channel true)
      (chosen : c.choose true notice arrival = .streamEnd) :
      Advance c now (.seen notice arrival)
        { { c with allowance := c.allowance.request }.unreserve with
          phase := .lingering channel (now + c.settings.idlePause.toNat) }
  | streamEnd {channel notice arrival} (phase : c.phase = .streaming channel false)
      (chosen : c.choose false notice arrival = .streamEnd) :
      Advance c now (.seen notice arrival)
        ({ c with allowance := c.allowance.request }.unreserve.streamEnded channel
          (now + c.settings.idlePause.toNat))
  | stop {channel watching notice arrival} (phase : c.phase = .streaming channel watching)
      (chosen : c.choose watching notice arrival = .stop) :
      Advance c now (.seen notice arrival)
        ({ c with allowance := c.allowance.request }.unreserve.takeStop channel)
  | reserve {channel watching notice arrival} (phase : c.phase = .streaming channel watching)
      (chosen : c.choose watching notice arrival = .wait)
      (unreserved : c.allowance.reservation = .none) :
      Advance c now (.seen notice arrival) { c with allowance := c.allowance.request }
  -- after the deliveries ended
  | lateClosure {channel resumeAt arrival closure}
      (phase : c.phase = .lingering channel resumeAt) :
      Advance c now (.seen (.item closure) arrival) (c.closed channel closure)
  | unexplained {channel resumeAt arrival} (phase : c.phase = .lingering channel resumeAt) :
      Advance c now (.seen .over arrival) (c.streamEnded channel resumeAt)
  | outlasted {channel resumeAt arrival} (phase : c.phase = .lingering channel resumeAt)
      (due : resumeAt ≤ now) :
      Advance c now (.seen .quiet arrival) (c.streamEnded channel resumeAt)
  -- after a lease
  | restore {channel ending result} (phase : c.phase = .restoring channel ending) :
      Advance c now (.done result) (c.restored channel ending result)
  | release {channel ending result} (phase : c.phase = .releasing channel ending) :
      Advance c now (.done result) (c.released now channel ending)
  | resume {channel : Option Channel} {resumeAt : Nat} {answer : Answer β}
      (phase : c.phase = .pausing channel resumeAt)
      (due : resumeAt ≤ now) : Advance c now answer { c with phase := .checking }
  -- after a stop
  | drain {answer : Answer β} (phase : c.phase = .draining) : Advance c now answer c.drain
  | empty {answer : Answer β} (phase : c.phase = .emptying) (none : c.inFlight = 0) :
      Advance c now answer { c with phase := .parking false }
  | park {immediate : Bool} {answer : Answer β} (phase : c.phase = .parking immediate) :
      Advance c now answer (c.park immediate)

@[simp] theorem receive_stopSignal (c : Consumer β) (channel : Channel) (d : Delivery β) :
    (c.receive channel d).stopSignal = c.stopSignal := rfl

@[simp] theorem receive_phase (c : Consumer β) (channel : Channel) (d : Delivery β) :
    (c.receive channel d).phase = c.phase := rfl

@[simp] theorem receive_settings (c : Consumer β) (channel : Channel) (d : Delivery β) :
    (c.receive channel d).settings = c.settings := rfl

@[simp] theorem takeStop_settings (c : Consumer β) (channel : Channel) :
    (c.takeStop channel).settings = c.settings := rfl

private theorem advance_of_stream? {channel : Channel} {watching : Bool}
    {notice : Glance Closure} {arrival : Glance (Delivery β)}
    (phase : c.phase = .streaming channel watching)
    (stepped : c.stream? now channel watching notice arrival = some c') :
    Advance c now (.seen notice arrival) c' := by
  unfold stream? at stepped
  cases chosen : c.choose watching notice arrival with
  | closure closure =>
    simp only [chosen, Option.some.injEq] at stepped
    exact stepped ▸ .closure phase chosen
  | exhausted =>
    simp only [chosen, Option.some.injEq] at stepped
    exact stepped ▸ .exhausted phase chosen
  | delivery d =>
    simp only [chosen, Option.some.injEq] at stepped
    cases signal : c.stopSignal with
    | false =>
      rw [receive_stopSignal, signal, if_neg Bool.false_ne_true] at stepped
      exact stepped ▸ .receive phase chosen signal
    | true =>
      rw [receive_stopSignal, signal, if_pos rfl] at stepped
      exact stepped ▸ .receiveLast phase chosen signal
  | streamEnd =>
    simp only [chosen, Option.some.injEq] at stepped
    cases watching with
    | false => exact stepped ▸ .streamEnd phase chosen
    | true => exact stepped ▸ .linger phase chosen
  | stop =>
    simp only [chosen, Option.some.injEq] at stepped
    exact stepped ▸ .stop phase chosen
  | wait =>
    simp only [chosen, Option.ite_none_right_eq_some, Option.some.injEq] at stepped
    exact stepped.2 ▸ .reserve phase chosen stepped.1

private theorem advance_of_linger? {channel : Channel} {resumeAt : Nat}
    {notice : Glance Closure} {arrival : Glance (Delivery β)}
    (phase : c.phase = .lingering channel resumeAt)
    (stepped : c.linger? now channel resumeAt notice = some c') :
    Advance c now (.seen notice arrival) c' := by
  cases notice with
  | item closure =>
    cases stepped
    exact .lateClosure phase
  | quiet =>
    simp only [linger?, Option.ite_none_right_eq_some, Option.some.injEq] at stepped
    exact stepped.2 ▸ .outlasted phase stepped.1
  | _ =>
    cases stepped
    exact .unexplained phase

theorem Advance.of_proceed? (stepped : c.proceed? now answer = some c') :
    Advance c now answer c' := by
  unfold proceed? at stepped
  split at stepped
  case h_1 => cases stepped
  case h_2 phase =>
    simp only [Option.some.injEq] at stepped
    cases signal : c.stopSignal with
    | true =>
      rw [if_pos signal] at stepped
      exact stepped ▸ .stopBeforeLease phase signal
    | false =>
      rw [if_neg (by simp [signal])] at stepped
      exact stepped ▸ .seek phase signal
  case h_3 phase =>
    cases stepped
    exact .lease phase
  case h_4 phase =>
    cases stepped
    exact .limit phase
  case h_5 phase =>
    cases stepped
    exact .subscribe phase
  case h_6 phase => exact advance_of_stream? phase stepped
  case h_7 phase => exact advance_of_linger? phase stepped
  case h_8 phase =>
    cases stepped
    exact .restore phase
  case h_9 phase =>
    cases stepped
    exact .release phase
  case h_10 phase =>
    simp only [Option.ite_none_right_eq_some, Option.some.injEq] at stepped
    exact stepped.2 ▸ .resume phase stepped.1
  case h_11 phase =>
    cases stepped
    exact .drain phase
  case h_12 phase =>
    simp only [Option.ite_none_right_eq_some, Option.some.injEq] at stepped
    exact stepped.2 ▸ .empty phase stepped.1
  case h_13 phase =>
    cases stepped
    exact .park phase
  case h_14 => cases stepped

/-- Every rule describes a step that the loop takes. -/
theorem Advance.proceed?_eq_some (advance : Advance c now answer c') :
    c.proceed? now answer = some c' := by
  cases advance with
  | receive phase chosen silent =>
    simp only [proceed?, phase, stream?, chosen, receive_stopSignal, silent, Bool.false_eq_true,
      if_false]
  | receiveLast phase chosen signal =>
    simp only [proceed?, phase, stream?, chosen, receive_stopSignal, signal, if_true]
  | _ => simp_all only [proceed?, stream?, linger?, if_true, if_false, Bool.false_eq_true]

theorem proceed?_eq_some_iff :
    c.proceed? now answer = some c' ↔ Advance c now answer c' :=
  ⟨.of_proceed?, Advance.proceed?_eq_some⟩

end Consumer

end Intake
