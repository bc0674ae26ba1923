import Intake.Message
import Intake.Proofs.Broker.Course
import Mathlib.Data.List.Nodup

/-! # Settlement

A delivery is outstanding on its channel from when it was made until it is settled or the channel
closes, unless the channel settles its deliveries itself. So the calls that were made before tell
whether a verdict on one delivery succeeds: `Keeps.settle_iff`. The channels and their tags are kept
apart from what was settled and closed so far; `Carries` is what a step owes to both.
-/

namespace Intake

open Relation (ReflTransGen)

namespace Lane

variable {β : Type} {lane next : Lane β} {spent spent' : Nat → Prop} {tag : Nat} {body : β}
  {verdict : Verdict}

/-- The tags of the deliveries that are outstanding. -/
def tags (lane : Lane β) : List Nat := lane.outstanding.map (·.1)

theorem mem_tags (member : (tag, body) ∈ lane.outstanding) : tag ∈ lane.tags :=
  List.mem_map_of_mem member

/-- A delivery was made. It is outstanding as long as the channel is open and its tag not spent,
unless the channel settled it itself: `ackable` says that it did not. -/
structure Accounts (lane : Lane β) (spent : Nat → Prop) (ackable : Bool) (tag : Nat) (body : β) :
    Prop where
  made : tag < lane.nextTag
  unowed : ackable = false → tag ∉ lane.tags
  owed : ackable = true → lane.isOpen = true → ¬spent tag → (tag, body) ∈ lane.outstanding

/-- What is outstanding was made once and is not spent, and the deliveries on the feed are accounted
for. -/
structure Keeps (lane : Lane β) (spent : Nat → Prop) : Prop where
  once : lane.tags.Nodup
  made : ∀ tag ∈ lane.tags, tag < lane.nextTag
  gone : ∀ tag, spent tag → tag < lane.nextTag ∧ tag ∉ lane.tags
  feed : ∀ d ∈ lane.deliveries.items, lane.Accounts spent (!lane.autoAck) d.tag d.body

private theorem keeps_ofId (id : Nat) (unspent : ∀ tag, ¬spent tag) :
    (ofId id : Lane β).Keeps spent :=
  ⟨List.nodup_nil, nofun, fun tag gone => absurd gone (unspent tag), nofun⟩

/-- Good accounts of a channel stay good, with the tags that were spent on the way. -/
structure Carries (lane : Lane β) (spent : Nat → Prop) (next : Lane β) (spent' : Nat → Prop) :
    Prop where
  keeps : lane.Keeps spent → next.Keeps spent'
  accounts : ∀ {ackable tag body}, lane.Accounts spent ackable tag body →
    next.Accounts spent' ackable tag body

/-- Some deliveries that were outstanding are spent, or the channel is closed. -/
private theorem Carries.lessen (nextTag : next.nextTag = lane.nextTag)
    (fewer : next.outstanding.Sublist lane.outstanding) (still : ∀ tag, spent tag → spent' tag)
    (gone : ∀ tag, spent' tag → spent tag ∨ tag < lane.nextTag ∧ tag ∉ next.tags)
    (owed : next.isOpen = true → lane.isOpen = true ∧
      ∀ d ∈ lane.outstanding, d.1 < lane.nextTag → ¬spent' d.1 → d ∈ next.outstanding)
    (feed : ∀ d ∈ next.deliveries.items,
      d ∈ lane.deliveries.items ∧ next.autoAck = lane.autoAck) :
    lane.Carries spent next spent' := by
  have tags : next.tags.Sublist lane.tags := fewer.map _
  have accounts {ackable : Bool} {tag : Nat} {body : β}
      (accounts : lane.Accounts spent ackable tag body) :
      next.Accounts spent' ackable tag body := by
    refine ⟨nextTag ▸ accounts.made, ?_, ?_⟩
    · intro settled member
      exact accounts.unowed settled (tags.subset member)
    · intro ackable isOpen unspent
      obtain ⟨wasOpen, stays⟩ := owed isOpen
      have before := accounts.owed ackable wasOpen fun early => unspent (still _ early)
      exact stays _ before accounts.made unspent
  refine ⟨?_, accounts⟩
  intro keeps
  refine ⟨keeps.once.sublist tags, ?_, ?_, ?_⟩
  · intro tag member
    rw [nextTag]
    exact keeps.made tag (tags.subset member)
  · intro tag late
    rw [nextTag]
    rcases gone tag late with early | absent
    · obtain ⟨made, absent⟩ := keeps.gone tag early
      exact ⟨made, fun member => absent (tags.subset member)⟩
    · exact absent
  · intro d member
    obtain ⟨before, autoAck⟩ := feed d member
    rw [autoAck]
    exact accounts (keeps.feed d before)

theorem mem_spared {d : Nat × β} : d ∈ lane.spared tag verdict ↔
    d ∈ lane.outstanding ∧ verdict.covers tag d.1 = false := by
  simp [spared]

/-- What is not meant stays outstanding. -/
theorem outstanding_of_settle {bodies : List β}
    (settled : lane.settle tag verdict = .ok (bodies, next)) :
    next.outstanding = lane.spared tag verdict := by
  rcases lane.settle_cases tag verdict with ⟨⟨fault, failed⟩, _⟩ | ⟨_, other, succeeded, left⟩
  · cases failed.symm.trans settled
  · cases succeeded.symm.trans settled
    exact left

/-- What an act does to its channel spends the tags that it settles. -/
private theorem Undergoes.carries {upshot : Upshot β} (undergoes : lane.Undergoes upshot next)
    (spends : ∀ tag, spent' tag ↔ spent tag ∨ tag < lane.nextTag ∧ upshot.settles tag = true) :
    lane.Carries spent next spent' := by
  have still (tag : Nat) (early : spent tag) : spent' tag := (spends tag).mpr (.inl early)
  -- only a call that settles spends tags
  have unspending (settles : ∀ tag, upshot.settles tag = false) (tag : Nat) (late : spent' tag) :
      spent tag ∨ tag < lane.nextTag ∧ tag ∉ next.tags := by
    left
    simpa [settles] using (spends tag).mp late
  cases undergoes with
  | rest quiet =>
    refine .lessen quiet.nextTag (quiet.outstanding ▸ .refl _) still (unspending fun _ => rfl) ?_ ?_
    · intro isOpen
      rw [quiet.outstanding, ← quiet.isOpen]
      exact ⟨isOpen, fun d member _ _ => member⟩
    · intro d member
      exact ⟨quiet.feed.subset member, quiet.autoAck⟩
  | subscribe isOpen =>
    refine .lessen rfl (.refl _) still (unspending fun _ => rfl) ?_ nofun
    intro isOpen
    exact ⟨isOpen, fun d member _ _ => member⟩
  | close isOpen =>
    refine .lessen rfl (List.nil_sublist _) still (unspending fun _ => rfl) nofun ?_
    intro d member
    exact ⟨member, rfl⟩
  | @settle tag verdict bodies next settled =>
    have left := outstanding_of_settle settled
    have same := eq_of_settle settled
    refine .lessen (by rw [same]) (left ▸ List.filter_sublist) still ?_ ?_ ?_
    · intro other late
      refine ((spends other).mp late).imp_right fun ⟨made, covered⟩ => ⟨made, ?_⟩
      intro member
      obtain ⟨d, outstanding, rfl⟩ := List.mem_map.mp member
      rw [left, mem_spared] at outstanding
      exact absurd (covered.symm.trans outstanding.2) nofun
    · intro isOpen
      refine ⟨by rw [same] at isOpen; exact isOpen, ?_⟩
      intro d outstanding made unspent
      rw [left, mem_spared]
      refine ⟨outstanding, ?_⟩
      by_contra covered
      exact unspent ((spends d.1).mpr (.inr ⟨made, by simpa using covered⟩))
    · intro d member
      rw [same] at member ⊢
      exact ⟨member, rfl⟩

/-- A channel is open until it closes. -/
private theorem Undergoes.isOpen {upshot : Upshot β} (undergoes : lane.Undergoes upshot next) :
    next.isOpen = (lane.isOpen && !upshot.closes) := by
  cases undergoes with
  | rest quiet => simp [quiet.isOpen, Upshot.none]
  | subscribe isOpen => simp [Upshot.none]
  | settle settled =>
    rw [eq_of_settle settled]
    exact (Bool.and_true _).symm
  | close isOpen => exact (Bool.and_false _).symm

theorem tags_of_deliver? {r : Ready β} (delivered : lane.deliver? r = some next) :
    next.tags = if lane.autoAck then lane.tags else lane.tags ++ [lane.nextTag] := by
  rw [eq_of_deliver? delivered]
  cases lane.autoAck <;> simp [tags]

/-- A delivery that is made gets a tag that no other has. -/
private theorem carries_of_deliver? {r : Ready β} (delivered : lane.deliver? r = some next) :
    lane.Carries spent next spent := by
  have same := eq_of_deliver? delivered
  have tags := tags_of_deliver? delivered
  have nextTag : next.nextTag = lane.nextTag + 1 := by rw [same]
  have isOpen : next.isOpen = lane.isOpen := by rw [same]
  have more : lane.outstanding ⊆ next.outstanding := by
    rw [same]
    intro d member
    dsimp only
    split
    · exact member
    · exact List.mem_append_left _ member
  have new {tag : Nat} (member : tag ∈ next.tags) : tag ∈ lane.tags ∨ tag = lane.nextTag := by
    rw [tags] at member
    split at member
    · exact .inl member
    · simpa using member
  have accounts {ackable : Bool} {tag : Nat} {body : β}
      (accounts : lane.Accounts spent ackable tag body) :
      next.Accounts spent ackable tag body := by
    have made := accounts.made
    refine ⟨by omega, ?_, ?_⟩
    · intro settled member
      rcases new member with before | last
      · exact accounts.unowed settled before
      · omega
    · intro ackable open' unspent
      exact more (accounts.owed ackable (isOpen ▸ open') unspent)
  refine ⟨?_, accounts⟩
  intro keeps
  have fresh : lane.nextTag ∉ lane.tags := fun member =>
    absurd (keeps.made _ member) (Nat.lt_irrefl _)
  constructor
  · rw [tags]
    split
    · exact keeps.once
    · refine List.nodup_append.mpr ⟨keeps.once, List.pairwise_singleton _ _, ?_⟩
      rintro tag member _ last rfl
      rw [List.mem_singleton.mp last] at member
      exact fresh member
  · intro tag member
    rcases new member with before | last
    · have := keeps.made tag before
      omega
    · omega
  · intro tag early
    obtain ⟨made, absent⟩ := keeps.gone tag early
    refine ⟨by omega, ?_⟩
    intro member
    rcases new member with before | last
    · exact absent before
    · omega
  · have autoAck : next.autoAck = lane.autoAck := by rw [same]
    have items : next.deliveries.items =
        lane.deliveries.items ++ [⟨lane.nextTag, r.body, r.redelivered, "", ""⟩] := by rw [same]
    intro d member
    rw [items, List.mem_append, List.mem_singleton] at member
    rw [autoAck]
    rcases member with before | rfl
    · exact accounts (keeps.feed d before)
    · refine ⟨nextTag ▸ Nat.lt_succ_self _, ?_, ?_⟩
      · intro settled
        rw [tags, if_pos (by simpa using settled)]
        exact fresh
      · intro ackable _ _
        have auto : lane.autoAck = false := by simpa using ackable
        rw [same]
        simp [auto]

/-! ## One verdict -/

private theorem meant_ne_nil (single : verdict.multiple = false) :
    lane.meant tag verdict ≠ [] ↔ tag ∈ lane.tags := by
  simp [meant, tags, Verdict.covers, single, List.filter_eq_nil_iff]

/-- A verdict on one delivery is about that delivery and no other. -/
theorem meant_eq_of_nodup (once : lane.tags.Nodup) (single : verdict.multiple = false)
    (outstanding : (tag, body) ∈ lane.outstanding) : lane.meant tag verdict = [(tag, body)] := by
  apply List.perm_singleton.mp
  have nodup : lane.outstanding.Nodup := .of_map _ once
  apply (List.perm_ext_iff_of_nodup (nodup.filter _) (List.pairwise_singleton _ _)).mpr
  rintro ⟨other, otherBody⟩
  simp only [Verdict.covers, single, List.mem_filter, List.mem_singleton, Bool.false_eq_true,
    if_false, beq_iff_eq]
  constructor
  · rintro ⟨member, rfl⟩
    exact List.inj_on_of_nodup_map once member outstanding rfl
  · rintro ⟨rfl, rfl⟩
    exact ⟨outstanding, rfl⟩

private theorem Keeps.meant_eq (keeps : lane.Keeps spent) (single : verdict.multiple = false)
    (outstanding : (tag, body) ∈ lane.outstanding) : lane.meant tag verdict = [(tag, body)] :=
  meant_eq_of_nodup keeps.once single outstanding

end Lane

namespace Broker

variable {β : Type} {b b' b'' : Broker β} {a : Act β} {m : Message β} {verdict : Verdict}
  {settled settled' settled'' : Nat → Nat → Prop} {closed closed' closed'' : Nat → Prop}

/-- A delivery is outstanding on a channel. -/
def Outstanding (b : Broker β) (id tag : Nat) (body : β) : Prop :=
  ∃ lane, b.lane? id = some lane ∧ (tag, body) ∈ lane.outstanding

/-- The delivery that a message carries is accounted for on its channel. -/
def Accounts (b : Broker β) (settled : Nat → Nat → Prop) (m : Message β) : Prop :=
  ∃ lane, b.lane? m.channel.id = some lane ∧
    lane.Accounts (settled m.channel.id) m.ackable m.tag m.body

/-- All channels keep their accounts, given the deliveries that were settled and the channels that
were closed. -/
structure Keeps (b : Broker β) (settled : Nat → Nat → Prop) (closed : Nat → Prop) : Prop where
  lanes : ∀ {id lane}, b.lane? id = some lane →
    lane.Keeps (settled id) ∧ (closed id ↔ lane.isOpen = false)
  unknown : ∀ {id}, b.lane? id = none → (∀ tag, ¬settled id tag) ∧ ¬closed id

private theorem keeps_ofQueue (queue : String) (settled : Nat → Nat → Prop) (closed : Nat → Prop)
    (unsettled : ∀ id tag, ¬settled id tag) (unclosed : ∀ id, ¬closed id) :
    (ofQueue queue : Broker β).Keeps settled closed :=
  ⟨nofun, fun _ => ⟨unsettled _, unclosed _⟩⟩

/-- Good accounts of a broker stay good, with what was settled and closed on the way. -/
structure Carries (b : Broker β) (settled : Nat → Nat → Prop) (closed : Nat → Prop) (b' : Broker β)
    (settled' : Nat → Nat → Prop) (closed' : Nat → Prop) : Prop where
  keeps : b.Keeps settled closed → b'.Keeps settled' closed'
  accounts : ∀ {m}, b.Accounts settled m → b'.Accounts settled' m

namespace Carries

private theorem trans (first : Carries b settled closed b' settled' closed')
    (second : Carries b' settled' closed' b'' settled'' closed'') :
    Carries b settled closed b'' settled'' closed'' where
  keeps keeps := second.keeps (first.keeps keeps)
  accounts accounts := second.accounts (first.accounts accounts)

private theorem of_lanes (same : b'.lanes = b.lanes) :
    Carries b settled closed b' settled closed := by
  have found (id : Nat) : b'.lane? id = b.lane? id := by rw [lane?, lane?, same]
  constructor
  · rintro ⟨lanes, unknown⟩
    exact ⟨fun there => lanes (found _ ▸ there), fun absent => unknown (found _ ▸ absent)⟩
  · rintro m ⟨lane, there, accounts⟩
    exact ⟨lane, (found _).trans there, accounts⟩

/-- One channel changes. -/
private theorem setLane {lane next : Lane β} (there : b.lane? lane.id = some lane)
    (number : next.id = lane.id) (lanes : b'.lanes = (b.setLane next).lanes)
    (here : lane.Carries (settled lane.id) next (settled' lane.id))
    (status : (closed lane.id ↔ lane.isOpen = false) → (closed' lane.id ↔ next.isOpen = false))
    (others : ∀ id, id ≠ lane.id → settled' id = settled id ∧ (closed' id ↔ closed id)) :
    Carries b settled closed b' settled' closed' := by
  have found := lane?_of_change there number lanes
  constructor
  · rintro ⟨keeps, unknown⟩
    constructor
    · intro id other there'
      rw [found] at there'
      by_cases same : id = lane.id
      · subst same
        rw [if_pos rfl] at there'
        cases there'
        obtain ⟨kept, before⟩ := keeps there
        exact ⟨here.keeps kept, status before⟩
      · rw [if_neg same] at there'
        obtain ⟨settled_eq, closed_iff⟩ := others id same
        rw [settled_eq, closed_iff]
        exact keeps there'
    · intro id absent
      rw [found] at absent
      split at absent
      · cases absent
      · next other =>
        obtain ⟨settled_eq, closed_iff⟩ := others id other
        rw [settled_eq, closed_iff]
        exact unknown absent
  · rintro m ⟨lane', there', accounts⟩
    by_cases same : m.channel.id = lane.id
    · rw [same] at there' accounts
      cases there.symm.trans there'
      refine ⟨next, by rw [found, if_pos same], ?_⟩
      rw [same]
      exact here.accounts accounts
    · refine ⟨lane', by rw [found, if_neg same]; exact there', ?_⟩
      rw [(others _ same).1]
      exact accounts

/-- A channel is leased. -/
private theorem lease {id : Nat} (lanes : b'.lanes = b.lanes ++ [.ofId id]) :
    Carries b settled closed b' settled closed := by
  have found (other : Nat) : b'.lane? other =
      (b.lane? other).or (if id = other then some (.ofId id) else none) := by
    rw [lane?, lanes, List.find?_append, List.find?_singleton]
    simp [lane?, Lane.ofId]
  constructor
  · rintro ⟨keeps, unknown⟩
    constructor
    · intro other lane there
      rw [found] at there
      cases before : b.lane? other with
      | some earlier =>
        rw [before, Option.some_or] at there
        cases there
        exact keeps before
      | none =>
        rw [before, Option.none_or] at there
        split at there
        · cases there
          obtain ⟨unsettled, unclosed⟩ := unknown before
          exact ⟨Lane.keeps_ofId id unsettled, iff_of_false unclosed (by simp [Lane.ofId])⟩
        · cases there
    · intro other absent
      rw [found, Option.or_eq_none_iff] at absent
      exact unknown absent.1
  · rintro m ⟨lane, there, accounts⟩
    exact ⟨lane, by rw [found, there, Option.some_or], accounts⟩

end Carries

private theorem Pours.carries (pours : Pours b b') :
    Carries b settled closed b' settled closed := by
  obtain ⟨lane, next, found, number, lanes, change⟩ := pours.exists_change
  have here : lane.Carries (settled lane.id) next (settled lane.id) ∧
      next.isOpen = lane.isOpen := by
    rcases change with ⟨r, delivered⟩ | rfl
    · exact ⟨Lane.carries_of_deliver? delivered, by rw [Lane.eq_of_deliver? delivered]⟩
    · exact ⟨Lane.Undergoes.carries (.rest (.hangUp lane)) (by simp [Lane.Upshot.none]), rfl⟩
  refine .setLane found number lanes here.1 ?_ fun id other => ⟨rfl, Iff.rfl⟩
  intro status
  rw [here.2]
  exact status

private theorem carries_of_pours (pours : ReflTransGen Pours b b') :
    Carries b settled closed b' settled closed := by
  induction pours with
  | refl => exact .of_lanes rfl
  | tail _ step ih => exact ih.trans step.carries

private theorem Prepares.carries (prepares : Prepares b a b') : Carries b settled closed b'
    (fun id tag => settled id tag ∨ b.Settles a id tag)
    (fun id => closed id ∨ id ∈ b.closes a) := by
  have unsettling (none : ∀ id tag, ¬b.Settles a id tag) :
      (fun id tag => settled id tag ∨ b.Settles a id tag) = settled := by
    funext id tag
    simp [none]
  cases prepares with
  | rest lanes ready settles concluded closes =>
    rw [unsettling settles]
    have carries : Carries b settled closed b' settled closed := .of_lanes lanes
    refine ⟨?_, carries.accounts⟩
    intro keeps
    -- a channel that is closed once more was closed before
    have still (id : Nat) : closed id ∨ id ∈ b.closes a ↔ closed id := by
      constructor
      · rintro (before | again)
        · exact before
        · obtain ⟨lane, there, isClosed⟩ := closes id again
          exact (keeps.lanes there).2.mpr isClosed
      · exact .inl
    simp only [still]
    exact carries.keeps keeps
  | lease isLease lanes ready =>
    subst isLease
    rw [unsettling (not_settles nofun)]
    simpa [Broker.closes] using Carries.lease lanes
  | @change lane next upshot found undergoes lanes ready published autoAck settles concluded
      closes =>
    have closes_iff (id : Nat) : id ∈ b.closes a ↔ id = lane.id ∧ upshot.closes = true := by
      rw [closes]
      split <;> simp_all
    refine .setLane found undergoes.id lanes (undergoes.carries ?_) ?_ ?_
    · intro tag
      simp [settles]
    · intro status
      rw [closes_iff, status, undergoes.isOpen]
      cases lane.isOpen <;> simp
    · intro id other
      refine ⟨?_, by simp [closes_iff, other]⟩
      funext tag
      simp [settles, other]

/-- An act settles deliveries and closes channels, and all accounts stay good. -/
theorem carries_apply (b : Broker β) (a : Act β) : Carries b settled closed (b.apply a)
    (fun id tag => settled id tag ∨ b.Settles a id tag)
    (fun id => closed id ∨ id ∈ b.closes a) := by
  obtain ⟨middle, last, prepares, pours, lanes, _⟩ := course_apply b a
  exact (prepares.carries.trans (carries_of_pours pours)).trans (.of_lanes lanes)

/-! ## Any number of acts -/

/-- One of some acts in a row settles the delivery with a tag on a channel. -/
def SettledBy (b : Broker β) (acts : List (Act β)) (id tag : Nat) : Prop :=
  ∃ t ∈ Replay.transitions Broker.step? b acts, t.source.Settles t.event id tag

/-- One of some acts in a row closes a channel. -/
def ClosedBy (b : Broker β) (acts : List (Act β)) (id : Nat) : Prop :=
  ∃ t ∈ Replay.transitions Broker.step? b acts, id ∈ t.source.closes t.event

private theorem settledBy_concat (b : Broker β) (acts : List (Act β)) (a : Act β) (id tag : Nat) :
    b.SettledBy (acts ++ [a]) id tag ↔
      b.SettledBy acts id tag ∨ (acts.foldl apply b).Settles a id tag := by
  have stepped : (acts.foldl apply b).step? a = some ((acts.foldl apply b).apply a) := rfl
  simp [SettledBy, Replay.transitions_concat (after?_eq b acts) stepped, or_and_right, exists_or]

private theorem closedBy_concat (b : Broker β) (acts : List (Act β)) (a : Act β) (id : Nat) :
    b.ClosedBy (acts ++ [a]) id ↔ b.ClosedBy acts id ∨ id ∈ (acts.foldl apply b).closes a := by
  have stepped : (acts.foldl apply b).step? a = some ((acts.foldl apply b).apply a) := rfl
  simp [ClosedBy, Replay.transitions_concat (after?_eq b acts) stepped, or_and_right, exists_or]

/-- Accounts that are good after some acts are good after more of them. -/
theorem carries_append (b : Broker β) (before acts : List (Act β)) :
    Carries (before.foldl apply b) (b.SettledBy before) (b.ClosedBy before)
      ((before ++ acts).foldl apply b) (b.SettledBy (before ++ acts))
      (b.ClosedBy (before ++ acts)) := by
  induction acts using List.reverseRecOn with
  | nil =>
    rw [List.append_nil]
    exact .of_lanes rfl
  | append_singleton acts a ih =>
    have settles := funext fun id => funext fun tag =>
      propext (settledBy_concat b (before ++ acts) a id tag)
    have closes := funext fun id => propext (closedBy_concat b (before ++ acts) a id)
    rw [← List.append_assoc, settles, closes, List.foldl_concat]
    exact ih.trans (carries_apply _ a)

/-- Whatever is asked of a broker, it keeps its accounts. -/
theorem keeps_foldl (queue : String) (acts : List (Act β)) :
    (acts.foldl apply (ofQueue queue)).Keeps ((ofQueue queue).SettledBy acts)
      ((ofQueue queue).ClosedBy acts) := by
  apply (carries_append (ofQueue queue) [] acts).keeps
  apply keeps_ofQueue
  · rintro id tag ⟨_, nothing, _⟩
    cases nothing
  · rintro id ⟨_, nothing, _⟩
    cases nothing

/-! ## Verdicts on one delivery -/

namespace Keeps

/-- A verdict on a delivery alone succeeds if and only if its channel leaves it to be settled, was
not closed, and nobody settled it before. -/
theorem settle_iff (keeps : b.Keeps settled closed) (accounts : b.Accounts settled m)
    (single : verdict.multiple = false) :
    (b.settle m.channel.id m.tag verdict).1 = .ok () ↔
      m.ackable = true ∧ ¬closed m.channel.id ∧ ¬settled m.channel.id m.tag := by
  obtain ⟨lane, found, accounts⟩ := accounts
  obtain ⟨kept, status⟩ := keeps.lanes found
  have isOpen_iff : ¬closed m.channel.id ↔ lane.isOpen = true := by
    rw [status, Bool.not_eq_false]
  have succeeds_iff : (b.settle m.channel.id m.tag verdict).1 = .ok () ↔
      lane.isOpen = true ∧ m.tag ∈ lane.tags := by
    rw [Broker.settle, found, ← Lane.meant_ne_nil single]
    rcases lane.settle_cases m.tag verdict with ⟨⟨fault, failed⟩, none⟩ | ⟨⟨isOpen, some⟩, next,
      succeeded, _⟩
    · simpa [failed, single] using none
    · simpa [succeeded, single, isOpen] using some
  rw [succeeds_iff, isOpen_iff]
  constructor
  · rintro ⟨isOpen, member⟩
    refine ⟨?_, isOpen, ?_⟩
    · by_contra settledItself
      exact accounts.unowed (by simpa using settledItself) member
    · intro before
      exact (kept.gone m.tag before).2 member
  · rintro ⟨ackable, isOpen, unsettled⟩
    exact ⟨isOpen, Lane.mem_tags (accounts.owed ackable isOpen unsettled)⟩

private theorem settles (accounts : b.Accounts settled m) (single : verdict.multiple = false)
    (succeeded : (b.settle m.channel.id m.tag verdict).1 = .ok ()) :
    b.Settles (.settle m.channel.id m.tag verdict) m.channel.id m.tag := by
  obtain ⟨lane, found, accounts⟩ := accounts
  refine ⟨m.tag, verdict, rfl, succeeded, by simp [Verdict.covers, single], ?_⟩
  rw [nextTag, found]
  exact accounts.made

/-- A verdict that succeeds takes out the delivery that the message carries. -/
theorem settled_eq (keeps : b.Keeps settled closed) (accounts : b.Accounts settled m)
    (single : verdict.multiple = false)
    (succeeded : (b.settle m.channel.id m.tag verdict).1 = .ok ()) :
    b.settled (.settle m.channel.id m.tag verdict) = [(m.channel.id, m.tag, m.body)] := by
  obtain ⟨ackable, unclosed, unsettled⟩ := (keeps.settle_iff accounts single).mp succeeded
  obtain ⟨lane, found, accounts⟩ := accounts
  obtain ⟨kept, status⟩ := keeps.lanes found
  rw [status, Bool.not_eq_false] at unclosed
  simp only [Broker.settled, succeeded, found]
  rw [kept.meant_eq single (accounts.owed ackable unclosed unsettled), List.map_singleton]

end Keeps

/-! ## Other deliveries -/

namespace Outstanding

variable {id tag : Nat} {body : β}

private theorem of_lanes (outstanding : b.Outstanding id tag body) (same : b'.lanes = b.lanes) :
    b'.Outstanding id tag body := by
  obtain ⟨lane, there, member⟩ := outstanding
  exact ⟨lane, by rw [lane?, same]; exact there, member⟩

private theorem setLane {lane next : Lane β} (outstanding : b.Outstanding id tag body)
    (found : b.lane? lane.id = some lane) (number : next.id = lane.id)
    (lanes : b'.lanes = (b.setLane next).lanes)
    (stays : id = lane.id → (tag, body) ∈ lane.outstanding → (tag, body) ∈ next.outstanding) :
    b'.Outstanding id tag body := by
  obtain ⟨other, there, member⟩ := outstanding
  have after := lane?_of_change found number lanes id
  by_cases here : id = lane.id
  · subst here
    cases found.symm.trans there
    exact ⟨next, by rw [after, if_pos rfl], stays rfl member⟩
  · exact ⟨other, by rw [after, if_neg here, there], member⟩

private theorem pours (outstanding : b.Outstanding id tag body) (pours : Pours b b') :
    b'.Outstanding id tag body := by
  obtain ⟨lane, next, found, number, lanes, change⟩ := pours.exists_change
  refine outstanding.setLane found number lanes fun _ member => ?_
  rcases change with ⟨r, delivered⟩ | rfl
  · rw [Lane.eq_of_deliver? delivered]
    dsimp only
    split
    · exact member
    · exact List.mem_append_left _ member
  · exact member

private theorem requeue (outstanding : b.Outstanding id tag body) (bodies : List β) :
    (b.requeue bodies).Outstanding id tag body := by
  have poured := pours_requeue b bodies
  have start : Outstanding { b with ready := bodies.map (⟨·, true⟩) ++ b.ready } id tag body :=
    outstanding.of_lanes rfl
  generalize b.requeue bodies = last at poured ⊢
  induction poured with
  | refl => exact start
  | tail _ step ih => exact ih.pours step

end Outstanding

/-- A verdict on one delivery leaves all others outstanding. -/
theorem Keeps.outstanding_iff {id tag : Nat} {body : β} (keeps : b.Keeps settled closed)
    (accounts : b.Accounts settled m) (single : verdict.multiple = false)
    (succeeded : (b.settle m.channel.id m.tag verdict).1 = .ok ())
    (outstanding : b.Outstanding id tag body) :
    (b.settle m.channel.id m.tag verdict).2.Outstanding id tag body ↔
      (id, tag) ≠ (m.channel.id, m.tag) := by
  constructor
  · rintro ⟨lane, there, member⟩ same
    obtain ⟨rfl, rfl⟩ := Prod.mk.inj same
    have after := (carries_apply b (.settle m.channel.id m.tag verdict)).keeps keeps
    exact ((after.lanes there).1.gone m.tag (.inr (settles accounts single succeeded))).2
      (Lane.mem_tags member)
  · intro other
    obtain ⟨lane, found, _⟩ := accounts
    rw [Broker.settle, found] at succeeded ⊢
    have number := id_of_lane? found
    cases settled : lane.settle m.tag verdict with
    | error fault => simp [settled] at succeeded
    | ok got =>
      obtain ⟨bodies, next⟩ := got
      have same := Lane.eq_of_settle settled
      simp only [settled]
      apply Outstanding.requeue
      rw [← number] at found
      refine outstanding.setLane found (by rw [same]) rfl ?_
      rintro rfl member
      rw [Lane.outstanding_of_settle settled, Lane.mem_spared]
      refine ⟨member, ?_⟩
      have apart : tag ≠ m.tag := fun equal => other (by rw [equal, number])
      simp [Verdict.covers, single, apart]

/-! ## Later verdicts -/

/-- Accounts that are good stay so after more acts, and what was settled stays settled. -/
theorem exists_carries (b : Broker β) (acts : List (Act β)) (settled : Nat → Nat → Prop)
    (closed : Nat → Prop) : ∃ settled' closed',
      Carries b settled closed (acts.foldl apply b) settled' closed' ∧
      ∀ id tag, settled id tag → settled' id tag := by
  induction acts generalizing b settled closed with
  | nil => exact ⟨settled, closed, .of_lanes rfl, fun _ _ early => early⟩
  | cons a rest ih =>
    obtain ⟨settled', closed', carries, still⟩ := ih (b.apply a)
      (fun id tag => settled id tag ∨ b.Settles a id tag) (fun id => closed id ∨ id ∈ b.closes a)
    refine ⟨settled', closed', (carries_apply b a).trans carries, ?_⟩
    exact fun id tag early => still id tag (.inl early)

/-- A delivery whose settlement succeeded cannot be settled alone again. -/
theorem Keeps.refused_after {again : Verdict} (keeps : b.Keeps settled closed)
    (accounts : b.Accounts settled m) (single : verdict.multiple = false)
    (single' : again.multiple = false)
    (succeeded : (b.settle m.channel.id m.tag verdict).1 = .ok ()) (later : List (Act β)) :
    ((later.foldl apply (b.settle m.channel.id m.tag verdict).2).settle m.channel.id m.tag
      again).1 ≠ .ok () := by
  let call : Act β := .settle m.channel.id m.tag verdict
  have first : Carries b settled closed (b.apply call)
      (fun id tag => settled id tag ∨ b.Settles call id tag)
      (fun id => closed id ∨ id ∈ b.closes call) := carries_apply b call
  obtain ⟨settled', closed', rest, still⟩ := exists_carries (b.apply call) later _ _
  intro succeeds
  have unsettled := ((rest.keeps (first.keeps keeps)).settle_iff
    (rest.accounts (first.accounts accounts)) single').mp succeeds
  apply unsettled.2.2
  exact still _ _ (.inr (settles accounts single succeeded))

end Broker

end Intake
