import Intake.Proofs.Bodies.Source
import Intake.Proofs.Broker.Delivering

/-! # Bodies that are delivered again

A delivery is marked when its body was delivered before, on any channel. What is ready is in turn:
first the bodies that were sent back, then those that nobody has got, in the order in which they
were published. To tell two publications of one body apart, publications are numbered; the numbers
go with the bodies and change nothing.
-/

namespace Intake

/-! ## Turns -/

section Turns

variable {β : Type} {handed ready : List (Ready β)} {published : List β} {r : Ready β}

/-- The bodies that were handed out for the first time, in order. -/
def firsts (handed : List (Ready β)) : List β := (handed.filter (!·.redelivered)).map (·.body)

/-- Bodies are handed out in turn. A body is marked iff it was handed out before. What is ready was
either handed out and sent back, or it was not handed out yet, in the order of publication. -/
structure InTurn (handed ready : List (Ready β)) (published : List β) : Prop where
  marks : ∀ before r after, handed = before ++ r :: after →
    (r.redelivered = true ↔ r.body ∈ before.map (·.body))
  first : ∀ r ∈ handed, r.body ∈ firsts handed
  queue : ∃ again fresh : List β, ready = again.map (⟨·, true⟩) ++ fresh.map (⟨·, false⟩) ∧
    (∀ body ∈ again, body ∈ handed.map (·.body)) ∧ firsts handed ++ fresh = published

namespace InTurn

private theorem publish (inTurn : InTurn handed ready published) (bodies : List β) :
    InTurn handed (ready ++ bodies.map (⟨·, false⟩)) (published ++ bodies) := by
  obtain ⟨again, fresh, rfl, known, rfl⟩ := inTurn.queue
  refine ⟨inTurn.marks, inTurn.first, again, fresh ++ bodies, ?_, known, ?_⟩
  · rw [List.map_append, List.append_assoc]
  · rw [List.append_assoc]

private theorem sendBack (inTurn : InTurn handed ready published) {bodies : List β}
    (known : ∀ body ∈ bodies, body ∈ handed.map (·.body)) :
    InTurn handed (bodies.map (⟨·, true⟩) ++ ready) published := by
  obtain ⟨again, fresh, rfl, known', same⟩ := inTurn.queue
  refine ⟨inTurn.marks, inTurn.first, bodies ++ again, fresh, ?_, ?_, same⟩
  · rw [List.map_append, List.append_assoc]
  · intro body member
    exact (List.mem_append.mp member).elim (known body) (known' body)

private theorem firsts_append (before after : List (Ready β)) :
    firsts (before ++ after) = firsts before ++ firsts after := by
  rw [firsts, List.filter_append, List.map_append]
  rfl

/-- One more is handed out, marked iff it was handed out before. -/
private theorem marks_concat (inTurn : InTurn handed ready published)
    (marked : r.redelivered = true ↔ r.body ∈ handed.map (·.body)) :
    ∀ before other after, handed ++ [r] = before ++ other :: after →
      (other.redelivered = true ↔ other.body ∈ before.map (·.body)) := by
  intro before other after cut
  obtain rfl | ⟨front, last, rfl⟩ := List.eq_nil_or_concat' after
  · obtain ⟨rfl, same⟩ := List.append_inj' cut rfl
    cases same
    exact marked
  · rw [← List.cons_append, ← List.append_assoc] at cut
    obtain ⟨same, _⟩ := List.append_inj' cut rfl
    exact inTurn.marks before other front same

/-- The body whose turn it is is handed out. -/
private theorem hand (inTurn : InTurn handed (r :: ready) published) (once : published.Nodup) :
    InTurn (handed ++ [r]) ready published := by
  obtain ⟨again, fresh, cut, known, rfl⟩ := inTurn.queue
  cases again with
  | nil =>
    cases fresh with
    | nil => cases cut
    | cons body fresh =>
      obtain ⟨rfl, rfl⟩ := List.cons.inj cut
      have more : firsts (handed ++ [⟨body, false⟩]) = firsts handed ++ [body] :=
        firsts_append handed [⟨body, false⟩]
      have new : body ∉ handed.map (·.body) := by
        intro member
        obtain ⟨r, earlier, same⟩ := List.mem_map.mp member
        have apart := (List.nodup_append.mp once).2.2 _ (inTurn.first r earlier) body
          List.mem_cons_self
        exact apart same
      refine ⟨inTurn.marks_concat ?_, ?_, [], fresh, rfl, nofun, ?_⟩
      · exact ⟨nofun, fun member => absurd member new⟩
      · intro r member
        rw [more]
        obtain earlier | last := List.mem_append.mp member
        · exact List.mem_append_left _ (inTurn.first r earlier)
        · rw [List.mem_singleton.mp last]
          exact List.mem_append_right _ List.mem_cons_self
      · rw [more, List.append_assoc]
        rfl
  | cons body again =>
    obtain ⟨rfl, rfl⟩ := List.cons.inj cut
    have here : body ∈ handed.map (·.body) := known body List.mem_cons_self
    have same : firsts (handed ++ [⟨body, true⟩]) = firsts handed :=
      (firsts_append handed [⟨body, true⟩]).trans (List.append_nil _)
    refine ⟨inTurn.marks_concat ⟨fun _ => here, fun _ => rfl⟩, ?_, again, fresh, rfl, ?_, ?_⟩
    · intro r member
      rw [same]
      obtain earlier | last := List.mem_append.mp member
      · exact inTurn.first r earlier
      · rw [List.mem_singleton.mp last]
        obtain ⟨r, earlier, rfl⟩ := List.mem_map.mp here
        exact inTurn.first r earlier
    · intro other member
      rw [List.map_append]
      exact List.mem_append_left _ (known other (List.mem_cons_of_mem _ member))
    · rw [same]

/-- All that is ready is handed out. -/
private theorem handAll (inTurn : InTurn handed ready published) (once : published.Nodup) :
    InTurn (handed ++ ready) [] published := by
  induction ready generalizing handed with
  | nil => exact (List.append_nil handed).symm ▸ inTurn
  | cons r rest ih =>
    rw [List.append_cons]
    exact ih (inTurn.hand once)

/-- Of what is handed out at once, the new bodies come last. -/
private theorem ready_of_fresh (inTurn : InTurn handed ready published)
    {before after : List (Ready β)}
    (cut : ready = before ++ r :: after) (new : r.redelivered = false) :
    ∀ other ∈ after, other.redelivered = false := by
  obtain ⟨again, fresh, same, _, _⟩ := inTurn.queue
  rw [same] at cut
  obtain ⟨front, split, rest⟩ | ⟨front, split, rest⟩ := List.append_eq_append_iff.mp cut
  · intro other member
    have later : other ∈ fresh.map fun body => (⟨body, false⟩ : Ready β) := by
      rw [rest]
      exact List.mem_append_right _ (List.mem_cons_of_mem _ member)
    obtain ⟨body, _, rfl⟩ := List.mem_map.mp later
    rfl
  · cases front with
    | nil =>
      rw [List.nil_append] at rest
      intro other member
      have later : other ∈ fresh.map fun body => (⟨body, false⟩ : Ready β) := by
        rw [← rest]
        exact List.mem_cons_of_mem _ member
      obtain ⟨body, _, rfl⟩ := List.mem_map.mp later
      rfl
    | cons first front =>
      obtain ⟨rfl, _⟩ := List.cons.inj rest
      have early : r ∈ again.map fun body => (⟨body, true⟩ : Ready β) := by
        rw [split]
        exact List.mem_append_right _ List.mem_cons_self
      obtain ⟨body, _, rfl⟩ := List.mem_map.mp early
      cases new

end InTurn

end Turns

namespace Lane

variable {β : Type} {lane next : Lane β}

/-- What is outstanding was outstanding before, and so were the bodies that are sent back. -/
private theorem Undergoes.outstanding {upshot : Upshot β} (undergoes : lane.Undergoes upshot next) :
    next.outstanding ⊆ lane.outstanding ∧
      ∀ body ∈ upshot.returned, body ∈ lane.outstanding.map (·.2) := by
  cases undergoes with
  | rest quiet => exact ⟨fun _ member => quiet.outstanding ▸ member, nofun⟩
  | subscribe isOpen => exact ⟨List.Subset.refl _, nofun⟩
  | close isOpen => exact ⟨List.nil_subset _, fun _ member => member⟩
  | settle settled =>
    rw [outstanding_of_settle settled, bodies_of_settle settled]
    refine ⟨List.filter_sublist.subset, ?_⟩
    intro body member
    split at member
    · cases member
    · exact List.map_subset _ List.filter_sublist.subset member

private theorem mem_fed_outstanding {bodies : List (Ready β)} {d : Nat × β}
    (member : d ∈ (lane.fed bodies).outstanding) :
    d ∈ lane.outstanding ∨ d.2 ∈ bodies.map (·.body) := by
  obtain ⟨more, outstanding, _, _, among⟩ := lane.fed_outstanding bodies
  rw [outstanding] at member
  exact (List.mem_append.mp member).imp_right (among d)

end Lane

namespace Broker

variable {β : Type} {b b' m : Broker β} {a : Act β} {r : Lane β} {leased : List Nat}
  {refused : List ChannelFault} {arrived : Nat → List (Delivery β)}

/-! ## What an act hands out -/

/-- The deliveries that an act makes, with their channels. -/
def handed (b : Broker β) (a : Act β) : List (Nat × Delivery β) :=
  (b.apply a).lanes.flatMap fun lane => (b.arrivals lane.id a).map (lane.id, ·)

/-- A body is outstanding on some channel. -/
def Holds (b : Broker β) (body : β) : Prop := ∃ id tag, b.Outstanding id tag body

private theorem Holds.of_lane? {id : Nat} {lane : Lane β} {body : β}
    (found : b.lane? id = some lane)
    (member : body ∈ lane.outstanding.map (·.2)) : b.Holds body := by
  obtain ⟨⟨tag, _⟩, there, rfl⟩ := List.mem_map.mp member
  exact ⟨id, tag, lane, found, there⟩

/-- What is ready when an act has been prepared: bodies that were held come first, and what is
published comes last. -/
private theorem Prepares.holds (prepares : Prepares b a m) :
    (∃ returned : List β, (∀ body ∈ returned, b.Holds body) ∧
      m.ready = returned.map (⟨·, true⟩) ++ b.ready ++ a.published.map (⟨·, false⟩)) ∧
    ∀ body, m.Holds body → b.Holds body := by
  cases prepares with
  | rest lanes ready settles concluded closes =>
    refine ⟨⟨[], nofun, ready⟩, ?_⟩
    rintro body ⟨id, tag, lane, found, member⟩
    rw [lane?, lanes] at found
    exact ⟨id, tag, lane, found, member⟩
  | lease isLease lanes ready =>
    subst isLease
    refine ⟨⟨[], nofun, ready.trans (List.append_nil _).symm⟩, ?_⟩
    rintro body ⟨id, tag, lane, found, member⟩
    rw [lane?, lanes, List.find?_append] at found
    obtain found | ⟨_, found⟩ := Option.or_eq_some_iff.mp found
    · exact ⟨id, tag, lane, found, member⟩
    · have new := List.mem_of_find?_eq_some found
      rw [List.mem_singleton.mp new] at member
      cases member
  | @change lane next upshot found undergoes lanes ready published autoAck settles concluded
      closes =>
    obtain ⟨fewer, returned⟩ := undergoes.outstanding
    constructor
    · refine ⟨upshot.returned, fun body member => .of_lane? found (returned body member), ?_⟩
      rw [ready, published]
      exact (List.append_nil _).symm
    · rintro body ⟨id, tag, other, found', member⟩
      rw [lane?_of_change found undergoes.id lanes] at found'
      split at found'
      · cases found'
        exact ⟨lane.id, tag, lane, found, fewer member⟩
      · exact ⟨id, tag, other, found', member⟩

private theorem Delivers.holds (delivers : Delivers m r b') (found : m.lane? r.id = some r)
    (body : β) (holds : b'.Holds body) : m.Holds body ∨ body ∈ m.ready.map (·.body) := by
  obtain ⟨id, tag, lane, found', member⟩ := holds
  rw [delivers.lanes] at found'
  split at found'
  · cases found'
    refine (Lane.mem_fed_outstanding member).imp_left ?_
    exact fun earlier => ⟨r.id, tag, r, found, earlier⟩
  · exact .inl ⟨id, tag, lane, found', member⟩

private theorem Withholds.holds (withholds : Withholds m b') (body : β) (holds : b'.Holds body) :
    m.Holds body := by
  obtain ⟨id, tag, lane, found, member⟩ := holds
  obtain same | ⟨other, found', hung⟩ := withholds.lanes id
  · exact ⟨id, tag, lane, same ▸ found, member⟩
  · cases found.symm.trans hung
    exact ⟨id, tag, other, found', member⟩

/-- An act makes no delivery before it has been prepared. -/
private theorem Prepares.nextTag (prepares : Prepares b a m) (sorted : b.Sorted) (id : Nat) :
    m.nextTag id = b.nextTag id := by
  cases prepares with
  | rest lanes ready settles concluded closes =>
    rw [Broker.nextTag, Broker.nextTag, lane?, lane?, lanes]
  | lease isLease lanes ready =>
    rw [Broker.nextTag, Broker.nextTag, lane?, lane?, lanes, List.find?_append]
    cases b.lanes.find? (·.id == id) with
    | some lane => rfl
    | none =>
      rw [Option.none_or, List.find?_singleton]
      split <;> rfl
  | @change lane next upshot found undergoes lanes ready published autoAck settles concluded
      closes =>
    rw [Broker.nextTag, lane?_of_change found undergoes.id lanes]
    split
    · next here =>
      have below := sorted.below lane (List.mem_of_find?_eq_some found)
      rw [here, nextTag_of_lane? found]
      exact (undergoes.below below).2
    · rfl

/-- The deliveries that an act makes are as many as the tags that it uses up. -/
private theorem Tells.length_arrivals (tells : b.Tells leased refused arrived) (a : Act β)
    (id : Nat) :
    (b.apply a).nextTag id = b.nextTag id + (b.arrivals id a).length := by
  rw [(tells.apply a).nextTag, tells.nextTag, List.length_append, Nat.add_assoc]

private theorem arrivals_suffix (b : Broker β) (a : Act β) (id : Nat) :
    b.arrivals id a <:+ (b.apply a).feed id := by
  unfold arrivals
  split
  · exact List.suffix_rfl
  · exact List.drop_suffix _ _

/-- Deliveries that come up at the end of a feed, as many as the tags that are used up, are those
that the act makes. -/
private theorem Tells.arrivals_eq (tells : b.Tells leased refused arrived) {id : Nat}
    {before made : List (Delivery β)} (feed : (b.apply a).feed id = before ++ made)
    (nextTag : (b.apply a).nextTag id = b.nextTag id + made.length) : b.arrivals id a = made := by
  have suffix : made <:+ (b.apply a).feed id := ⟨before, feed.symm⟩
  have count := tells.length_arrivals a id
  have same : (b.arrivals id a).length = made.length := by omega
  have among := List.suffix_of_suffix_length_le (b.arrivals_suffix a id) suffix same.le
  exact among.eq_of_length same

/-- An act hands out nothing when it uses up no tag. -/
private theorem Tells.handed_eq_nil (tells : b.Tells leased refused arrived)
    (nextTag : ∀ id, (b.apply a).nextTag id = b.nextTag id) : b.handed a = [] := by
  apply List.flatMap_eq_nil_iff.mpr
  intro lane _
  rw [tells.arrivals_eq (List.append_nil _).symm (nextTag lane.id), List.map_nil]

/-- An act hands out what it delivers on the only channel that gets something. -/
private theorem Tells.handed_eq (tells : b.Tells leased refused arrived) {id : Nat} {lane : Lane β}
    {made : List (Delivery β)} (found : (b.apply a).lane? id = some lane)
    (here : b.arrivals id a = made) (others : ∀ other, other ≠ id → b.arrivals other a = []) :
    b.handed a = made.map (id, ·) := by
  have number := id_of_lane? found
  subst number
  have sorted := (tells.sorted.apply a).1
  obtain ⟨before, after, lanes, apart⟩ := sorted.exists_place (List.mem_of_find?_eq_some found)
  have nothing (rest : List (Lane β)) (among : rest ⊆ before ++ after) :
      rest.flatMap (fun lane => (b.arrivals lane.id a).map (lane.id, ·)) = [] := by
    apply List.flatMap_eq_nil_iff.mpr
    intro other member
    rw [others other.id (apart other (among member)), List.map_nil]
  rw [handed, lanes, List.flatMap_append, List.flatMap_cons, here,
    nothing before (List.subset_append_left _ _), nothing after (List.subset_append_right _ _),
    List.nil_append, List.append_nil]

/-- What an act hands out: all that is ready when it has been prepared, on one channel and under
consecutive tags, or nothing. -/
private theorem Tells.hands (tells : b.Tells leased refused arrived) (a : Act β) :
    ∃ returned : List β, (∀ body ∈ returned, b.Holds body) ∧ ∃ ready : List (Ready β),
      ready = returned.map (⟨·, true⟩) ++ b.ready ++ a.published.map (⟨·, false⟩) ∧
      (b.handed a = [] ∧ (b.apply a).ready = ready ∧
          (∀ body, (b.apply a).Holds body → b.Holds body) ∨
        (∃ id tag, b.handed a = (Lane.stamped tag ready).map (id, ·)) ∧ (b.apply a).ready = [] ∧
          ∀ body, (b.apply a).Holds body → b.Holds body ∨ body ∈ ready.map (·.body)) := by
  obtain ⟨m, prepares, after⟩ := runs_apply b a
  obtain ⟨⟨returned, held, ready⟩, holds⟩ := prepares.holds
  refine ⟨returned, held, m.ready, ready, ?_⟩
  have tag := prepares.nextTag tells.sorted
  have same {b' : Broker β} (lanes : (b.apply a).lanes = b'.lanes) (id : Nat) :
      (b.apply a).lane? id = b'.lane? id := by
    rw [lane?, lane?, lanes]
  have holds_of_same {b' : Broker β} (lanes : (b.apply a).lanes = b'.lanes) (body : β)
      (holds : (b.apply a).Holds body) : b'.Holds body := by
    obtain ⟨id, tag, lane, found, member⟩ := holds
    exact ⟨id, tag, lane, same lanes id ▸ found, member⟩
  obtain ⟨lanes, ready'⟩ | ⟨lanes, ready'⟩ := after
  · refine .inl ⟨tells.handed_eq_nil ?_, ready', fun body now => ?_⟩
    · intro id
      rw [Broker.nextTag, same lanes, ← Broker.nextTag, tag]
    · exact holds body (holds_of_same lanes body now)
  · cases receiver : m.receiver? with
    | none =>
      have withholds := withholds_pump receiver
      refine .inl ⟨tells.handed_eq_nil ?_, ready'.trans withholds.ready, fun body now => ?_⟩
      · intro id
        rw [Broker.nextTag, same lanes, ← Broker.nextTag, withholds.nextTag, tag]
      · exact holds body (withholds.holds body (holds_of_same lanes body now))
    | some r =>
      obtain ⟨_, found, _⟩ := receiver?_eq_some_iff.mp receiver
      have delivers := delivers_pump receiver
      refine .inr ⟨⟨r.id, r.nextTag, ?_⟩, ready'.trans delivers.ready, fun body now => ?_⟩
      · have fed := delivers.feed found
        refine tells.handed_eq ((same lanes r.id).trans delivers.lane?) ?_ ?_
        · have fed' : (b.apply a).feed r.id = m.feed r.id ++ Lane.stamped r.nextTag m.ready := by
            rw [feed, same lanes, ← feed, fed, if_pos rfl]
          refine tells.arrivals_eq fed' ?_
          rw [nextTag_of_lane? ((same lanes r.id).trans delivers.lane?), ← tag,
            nextTag_of_lane? found, Lane.length_stamped]
          rfl
        · intro other apart
          refine tells.arrivals_eq (List.append_nil _).symm ?_
          rw [Broker.nextTag, same lanes, delivers.lanes, if_neg apart, ← Broker.nextTag, tag]
          rfl
      · obtain here | new := delivers.holds found body (holds_of_same lanes body now)
        · exact .inl (holds body here)
        · exact .inr new

/-! ## Whole histories -/

/-- The deliveries that are made in the course of some acts, in order, with their channels. -/
def log (b : Broker β) (acts : List (Act β)) : List (Nat × Delivery β) :=
  Replay.gather Broker.step? handed b acts

private theorem log_concat (queue : String) (acts : List (Act β)) (a : Act β) :
    (ofQueue queue).log (acts ++ [a]) =
      (ofQueue queue).log acts ++ (acts.foldl apply (ofQueue queue)).handed a := by
  have stepped : (acts.foldl apply (ofQueue queue)).step? a =
      some ((acts.foldl apply (ofQueue queue)).apply a) := rfl
  exact Replay.gather_concat handed (after?_eq (ofQueue queue) acts) stepped

/-- What a delivery hands out. -/
def shown (e : Nat × Delivery β) : Ready β := ⟨e.2.body, e.2.redelivered⟩

private theorem shown_stamped (id tag : Nat) (bodies : List (Ready β)) :
    ((Lane.stamped tag bodies).map (id, ·)).map shown = bodies := by
  rw [List.map_map]
  exact Lane.stamped_ready tag bodies

/-- Deliveries were made in turn, and what is outstanding was delivered. -/
structure Deals (b : Broker β) (published : List β) (log : List (Nat × Delivery β)) : Prop where
  inTurn : InTurn (log.map shown) b.ready published
  held : ∀ body, b.Holds body → body ∈ (log.map shown).map (·.body)

/-- What an act hands out goes on with the turns. -/
private theorem Deals.hands {published : List β} {log : List (Nat × Delivery β)}
    (deals : b.Deals published log) (tells : b.Tells leased refused arrived) (a : Act β) :
    ∃ ready, InTurn (log.map shown) ready (published ++ a.published) ∧
      (b.handed a = [] ∧ (b.apply a).ready = ready ∧
          (∀ body, (b.apply a).Holds body → b.Holds body) ∨
        (∃ id tag, b.handed a = (Lane.stamped tag ready).map (id, ·)) ∧ (b.apply a).ready = [] ∧
          ∀ body, (b.apply a).Holds body → b.Holds body ∨ body ∈ ready.map (·.body)) := by
  obtain ⟨returned, held, ready, same, hands⟩ := tells.hands a
  refine ⟨ready, ?_, hands⟩
  rw [same]
  exact (deals.inTurn.sendBack fun body member => deals.held body (held body member)).publish _

private theorem Deals.apply {published : List β} {log : List (Nat × Delivery β)}
    (deals : b.Deals published log) (tells : b.Tells leased refused arrived)
    (once : (published ++ a.published).Nodup) :
    (b.apply a).Deals (published ++ a.published) (log ++ b.handed a) := by
  obtain ⟨ready, inTurn, ⟨none, ready', holds⟩ | ⟨⟨id, tag, handed⟩, ready', holds⟩⟩ :=
    deals.hands tells a
  · rw [none, List.append_nil]
    exact ⟨ready' ▸ inTurn, fun body now => deals.held body (holds body now)⟩
  · rw [handed]
    constructor
    · rw [List.map_append, shown_stamped, ready']
      exact inTurn.handAll once
    · intro body now
      rw [List.map_append, shown_stamped, List.map_append, List.mem_append]
      exact (holds body now).imp_left (deals.held body)

private theorem deals_foldl (queue : String) (acts : List (Act β))
    (once : (acts.flatMap Act.published).Nodup) :
    (acts.foldl Broker.apply (ofQueue queue)).Deals (acts.flatMap Act.published)
      ((ofQueue queue).log acts) := by
  induction acts using List.reverseRecOn with
  | nil =>
    exact ⟨⟨by simp [log, Replay.gather, Replay.transitions], nofun, [], [], rfl, nofun, rfl⟩,
      fun body ⟨id, tag, lane, found, _⟩ => nomatch found⟩
  | append_singleton acts a ih =>
    rw [List.flatMap_append, List.flatMap_singleton] at once ⊢
    rw [log_concat, List.foldl_concat]
    exact (ih (List.nodup_append.mp once).1).apply (tells_foldl queue acts) once

/-- All that an act hands out goes to one channel, marked bodies before new ones. When a new one is
handed out, no marked body is left waiting. -/
def HandsInTurn (b : Broker β) (a : Act β) : Prop :=
  (∃ id, ∀ e ∈ b.handed a, e.1 = id) ∧
    ∀ before e after, b.handed a = before ++ e :: after → e.2.redelivered = false →
      (∀ e' ∈ after, e'.2.redelivered = false) ∧
        ∀ r ∈ (b.apply a).ready, r.redelivered = false

private theorem Deals.handsInTurn {published : List β} {log : List (Nat × Delivery β)}
    (deals : b.Deals published log) (tells : b.Tells leased refused arrived) (a : Act β) :
    b.HandsInTurn a := by
  obtain ⟨ready, inTurn, ⟨none, _, _⟩ | ⟨⟨id, tag, handed⟩, ready', _⟩⟩ := deals.hands tells a
  · rw [HandsInTurn, none]
    exact ⟨⟨0, nofun⟩, fun before e after cut => by simp at cut⟩
  · rw [HandsInTurn, handed, ready']
    constructor
    · refine ⟨id, ?_⟩
      intro e member
      obtain ⟨d, _, rfl⟩ := List.mem_map.mp member
      rfl
    · intro before e after cut new
      refine ⟨?_, nofun⟩
      have cut' := congrArg (List.map shown) cut
      rw [shown_stamped, List.map_append, List.map_cons] at cut'
      intro e' member
      exact inTurn.ready_of_fresh cut' new (shown e') (List.mem_map_of_mem member)

/-! ## Numbered publications -/

section Numbered

variable {γ : Type} (f : β → γ)

/-- An act with another body in the place of its own. -/
def Act.map : Act β → Act γ
  | .publish body => .publish (f body)
  | .lease => .lease
  | .limit id prefetch forAll => .limit id prefetch forAll
  | .subscribe id s => .subscribe id s
  | .settle id tag verdict => .settle id tag verdict
  | .release id errored => .release id errored
  | .close id closure => .close id closure
  | .closeActive closure => .closeActive closure
  | .cancel => .cancel
  | .failLeases count => .failLeases count
  | .failSubscriptions count => .failSubscriptions count
  | .take id => .take id
  | .dropStream id => .dropStream id
  | .takeNotice id => .takeNotice id
  | .dropNotices id => .dropNotices id

private theorem map_apply (b : Broker β) (a : Act β) :
    (b.map f).apply (a.map f) = (b.apply a).map f := by
  have drops (lane : Lane β) : { lane.map f with deliveries := (lane.map f).deliveries.drop } =
      ({ lane with deliveries := lane.deliveries.drop } : Lane β).map f :=
    congrArg (fun deliveries => { lane.map f with deliveries }) (Feed.map_drop _ lane.deliveries)
  have ignores (lane : Lane β) :
      { lane.map f with deliveries := (lane.map f).deliveries.ignore } =
      ({ lane with deliveries := lane.deliveries.ignore } : Lane β).map f := rfl
  have dropsNotice (lane : Lane β) : { lane.map f with notices := (lane.map f).notices.drop } =
      ({ lane with notices := lane.notices.drop } : Lane β).map f := rfl
  have ignoresNotices (lane : Lane β) :
      { lane.map f with notices := (lane.map f).notices.ignore } =
      ({ lane with notices := lane.notices.ignore } : Lane β).map f := rfl
  cases a with
  | publish body => exact b.map_publish f body
  | lease => exact congrArg Prod.snd (b.map_lease f)
  | limit id prefetch forAll => exact congrArg Prod.snd (b.map_limit f id prefetch forAll)
  | subscribe id s => exact congrArg Prod.snd (b.map_subscribe f id s)
  | settle id tag verdict => exact congrArg Prod.snd (b.map_settle f id tag verdict)
  | release id errored => exact b.map_release f id errored
  | close id closure => exact b.map_close f id closure
  | closeActive closure => exact congrArg Prod.snd (b.map_closeActive f closure)
  | cancel => exact congrArg Prod.snd (b.map_cancel f)
  | failLeases count => rfl
  | failSubscriptions count => rfl
  | take id => exact b.map_withLane f drops id
  | dropStream id => exact b.map_withLane f ignores id
  | takeNotice id => exact b.map_withLane f dropsNotice id
  | dropNotices id => exact b.map_withLane f ignoresNotices id

private theorem map_feed (b : Broker β) (id : Nat) :
    (b.map f).feed id = (b.feed id).map (Delivery.map f) := by
  rw [feed, map_lane?, feed]
  cases b.lane? id <;> rfl

private theorem map_begins (b : Broker β) (a : Act β) :
    (b.map f).begins (a.map f) = b.begins a := by
  cases a with
  | subscribe id s =>
    have same := congrArg Prod.fst (b.map_subscribe f id s)
    simp only [Act.map, begins, same]
    rfl
  | _ => rfl

private theorem map_handed (b : Broker β) (a : Act β) :
    (b.map f).handed (a.map f) = (b.handed a).map fun e => (e.1, e.2.map f) := by
  have arrivals (id : Nat) : (b.map f).arrivals id (a.map f) =
      (b.arrivals id a).map (Delivery.map f) := by
    rw [Broker.arrivals, Broker.arrivals, map_begins, map_apply, map_feed, map_feed,
      List.length_map, ← List.map_drop, apply_ite (List.map (Delivery.map f))]
  rw [handed, handed, map_apply, map_lanes, List.flatMap_map, List.map_flatMap]
  apply List.flatMap_congr
  intro lane _
  rw [Lane.map_id, arrivals, List.map_map, List.map_map]
  rfl

private theorem map_foldl (b : Broker β) (acts : List (Act β)) :
    (acts.map (Act.map f)).foldl apply (b.map f) = (acts.foldl apply b).map f := by
  induction acts generalizing b with
  | nil => rfl
  | cons a rest ih => rw [List.map_cons, List.foldl_cons, map_apply, ih]; rfl

private theorem map_log (queue : String) (acts : List (Act β)) :
    (ofQueue queue).log (acts.map (Act.map f)) =
      ((ofQueue queue).log acts).map fun e => (e.1, e.2.map f) := by
  induction acts using List.reverseRecOn with
  | nil => rfl
  | append_singleton acts a ih =>
    have same := map_foldl f (ofQueue queue) acts
    rw [List.map_append, List.map_singleton, log_concat, log_concat, ih, List.map_append]
    congr 1
    exact (congrArg (·.handed (a.map f)) same).trans (map_handed f _ a)

end Numbered

/-- Acts whose publications are numbered in order, from a number on. -/
def numbered (n : Nat) : List (Act β) → List (Act (Nat × β))
  | [] => []
  | a :: rest => a.map (n, ·) :: numbered (n + a.published.length) rest

/-- The numbers can be taken away again. -/
private theorem map_numbered (n : Nat) (acts : List (Act β)) :
    (numbered n acts).map (Act.map Prod.snd) = acts := by
  induction acts generalizing n with
  | nil => rfl
  | cons a rest ih =>
    have same : (a.map (n, ·)).map Prod.snd = a := by cases a <;> rfl
    rw [numbered, List.map_cons, ih, same]

private theorem published_numbered (n : Nat) (acts : List (Act β)) :
    ((numbered n acts).flatMap Act.published).map (·.1) =
      List.range' n (acts.flatMap Act.published).length := by
  induction acts generalizing n with
  | nil => rfl
  | cons a rest ih =>
    have own : (a.map (n, ·)).published.map (·.1) = List.range' n a.published.length := by
      cases a <;> rfl
    rw [numbered, List.flatMap_cons, List.map_append, ih, own, List.flatMap_cons,
      List.length_append, List.range'_append_1]

/-- The deliveries of numbered publications, and what is ready. -/
structure MarksAgain (b : Broker (Nat × β)) (count : Nat)
    (log : List (Nat × Delivery (Nat × β))) : Prop where
  /-- A delivery is marked iff the same publication was delivered before, on any channel. -/
  marks : ∀ before e after, log = before ++ e :: after →
    (e.2.redelivered = true ↔ ∃ e' ∈ before, e'.2.body.1 = e.2.body.1)
  /-- What was delivered before is ready first, and then what was not, in the order of publication.
  It goes on where the deliveries that are not marked stop. -/
  ready : ∃ again fresh : List (Nat × β),
    b.ready = again.map (⟨·, true⟩) ++ fresh.map (⟨·, false⟩) ∧
    (∀ body ∈ again, ∃ e ∈ log, e.2.body.1 = body.1) ∧
    (log.filter (!·.2.redelivered)).map (·.2.body.1) ++ fresh.map (·.1) = List.range count

private theorem Deals.marksAgain {b : Broker (Nat × β)} {published : List (Nat × β)} {count : Nat}
    {log : List (Nat × Delivery (Nat × β))} (deals : b.Deals published log)
    (numbers : published.map (·.1) = List.range count) : b.MarksAgain count log := by
  obtain ⟨again, fresh, ready, known, order⟩ := deals.inTurn.queue
  have once : (published.map (·.1)).Nodup := numbers ▸ List.nodup_range
  have among (e : Nat × Delivery (Nat × β)) (member : e ∈ log) : e.2.body ∈ published := by
    rw [← order]
    exact List.mem_append_left _ (deals.inTurn.first (shown e) (List.mem_map_of_mem member))
  constructor
  · intro before e after cut
    have cut' := congrArg (List.map shown) cut
    rw [List.map_append, List.map_cons] at cut'
    rw [show e.2.redelivered = (shown e).redelivered from rfl, deals.inTurn.marks _ _ _ cut']
    constructor
    · intro member
      obtain ⟨_, there, same⟩ := List.mem_map.mp member
      obtain ⟨e', earlier, rfl⟩ := List.mem_map.mp there
      exact ⟨e', earlier, congrArg Prod.fst same⟩
    · rintro ⟨e', earlier, same⟩
      have here : e ∈ log := cut ▸ List.mem_append_right _ List.mem_cons_self
      have there : e' ∈ log := cut ▸ List.mem_append_left _ earlier
      have equal := List.inj_on_of_nodup_map once (among e' there) (among e here) same
      exact List.mem_map.mpr ⟨shown e', List.mem_map_of_mem earlier, equal⟩
  · refine ⟨again, fresh, ready, ?_, ?_⟩
    · intro body member
      obtain ⟨_, there, same⟩ := List.mem_map.mp (known body member)
      obtain ⟨e, earlier, rfl⟩ := List.mem_map.mp there
      exact ⟨e, earlier, congrArg Prod.fst same⟩
    · rw [← numbers, ← order, List.map_append, firsts, List.filter_map, List.map_map, List.map_map]
      rfl

/-- Number the publications; this changes nothing else. Then, whatever is asked of a broker, its
deliveries are marked iff they are not the first ones of their publication, what is ready is in
turn, and every act hands out marked bodies before new ones. -/
theorem marks_again (queue : String) (acts : List (Act β)) :
    (((numbered 0 acts).foldl apply (ofQueue queue)).map Prod.snd =
        acts.foldl apply (ofQueue queue) ∧
      ((ofQueue queue).log (numbered 0 acts)).map (fun e => (e.1, e.2.map Prod.snd)) =
        (ofQueue queue).log acts) ∧
    ((numbered 0 acts).foldl apply (ofQueue queue)).MarksAgain
      (acts.flatMap Act.published).length ((ofQueue queue).log (numbered 0 acts)) ∧
    ∀ earlier a later, numbered 0 acts = earlier ++ a :: later →
      (earlier.foldl apply (ofQueue queue)).HandsInTurn a := by
  have numbers := published_numbered 0 acts
  rw [← List.range_eq_range'] at numbers
  have once : ((numbered 0 acts).flatMap Act.published).Nodup :=
    .of_map _ (numbers ▸ List.nodup_range)
  refine ⟨⟨?_, ?_⟩, (deals_foldl queue _ once).marksAgain numbers, ?_⟩
  · rw [← map_foldl, map_numbered]
    rfl
  · rw [← map_log, map_numbered]
  · intro earlier a later cut
    rw [cut, List.flatMap_append] at once
    have deals := deals_foldl queue earlier (List.nodup_append.mp once).1
    exact deals.handsInTurn (tells_foldl queue earlier) a

/-- One body is published three times. The channel that gets it twice is closed, and another channel
receives. -/
def thrice : List (Act Nat) :=
  [.publish 7, .publish 7, .lease, .subscribe 1 ⟨"jobs", "first", ⟨false, false, false, false⟩, []⟩,
    .close 1 ⟨320, "gone"⟩, .publish 7, .lease,
    .subscribe 2 ⟨"jobs", "second", ⟨false, false, false, false⟩, []⟩]

theorem marks_again_thrice :
    (ofQueue "jobs").log (numbered 0 thrice) =
      [(1, ⟨1, (0, 7), false, "", ""⟩), (1, ⟨2, (1, 7), false, "", ""⟩),
        (2, ⟨1, (0, 7), true, "", ""⟩), (2, ⟨2, (1, 7), true, "", ""⟩),
        (2, ⟨3, (2, 7), false, "", ""⟩)] ∧
    ((numbered 0 thrice).foldl apply (ofQueue "jobs")).MarksAgain 3
      ((ofQueue "jobs").log (numbered 0 thrice)) ∧
    (((numbered 0 thrice).take 7).foldl apply (ofQueue "jobs")).HandsInTurn
      (.subscribe 2 ⟨"jobs", "second", ⟨false, false, false, false⟩, []⟩) := by
  obtain ⟨_, marks, inTurn⟩ := marks_again "jobs" thrice
  exact ⟨rfl, marks, inTurn _ _ [] rfl⟩

end Broker

end Intake
