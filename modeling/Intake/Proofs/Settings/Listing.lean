import Intake.Proofs.Json.Entries
import Intake.Proofs.Settings.Insensitivity

/-!
# The consumers of a document

A document lists its consumers as the members of one field. A consumer is found by its name if
there is a member of that name, and then it is the last of them; those that should be started are
listed in the order of the bytes of their names. Nothing else about the members matters, and neither
does the order in which a table of them is gone through.
-/

namespace Intake

open Json (Blank Entry LastEntry Settles Shape Spells Tabulates Tree byName formed_list
  formed_object laid_flatten puts setAll shape_of_skip sortedByName spells_of_read)

namespace Document

/-- What a document holds in place of its consumers: the members of the value that is written under
the name of the field or, without names, as the second of two; none if there is no such value. -/
inductive Holds : Tree → List (List Char × Tree) → Prop
  | named {members consumers : List (List Char × Tree)} {name : List Char}
      (spells : Spells name "ConsumerConfigs".toList)
      (written : (name, .object consumers) ∈ members) : Holds (.object members) consumers
  | unnamed {members : List (List Char × Tree)}
      (absent : ∀ member ∈ members, ¬ Spells member.1 "ConsumerConfigs".toList) :
      Holds (.object members) []
  | placed {pool : Tree} {consumers : List (List Char × Tree)} :
      Holds (.list [pool, .object consumers]) consumers
  | short {items : List Tree} (few : items.length < 2) : Holds (.list items) []

/-- The consumers of a document as they are written, one entry for each member. -/
def Lists (t : Tree) (entries : List (String × ConsumerSettings)) : Prop :=
  ∃ members, Holds t members ∧
    List.Forall₂ (Entry (ConsumerSettings.read 125)) members entries

/-! ## What is taken for the consumers -/

/-- The value of the field is an object, and its entries are put in. -/
private theorem exists_entries {value : Tree} {set : Document → Document} (formed : value.Formed)
    (read : value.readBy (consumersField.read 126) = some set) :
    ∃ members entries, value = .object members ∧ (∀ member ∈ members, Shape member.1) ∧
      List.Forall₂ (Entry (ConsumerSettings.read 125)) members entries ∧
      set = putConsumers entries := by
  rw [readBy_consumersField,
    (Json.gives_readMap ConsumerSettings.regular_read 126 formed).readBy_eq] at read
  obtain ⟨entries, mapped, rfl⟩ := Option.map_eq_some_iff.mp read
  cases value with
  | object members =>
    have shapes : ∀ member ∈ members, Shape member.1 := fun member mem =>
      (formed_object.mp formed member mem).1
    exact ⟨members, entries, rfl, shapes, (Json.mapM_entryBy_eq_some_iff shapes).mp mapped, rfl⟩
  | _ => cases mapped

/-- The consumers are put in whatever else is. -/
private theorem consumers_setAll {members : List (List Char × Tree)}
    {entries : List (String × ConsumerSettings)} (settles : Settles fields 126 members)
    (put : (consumersField.name, putConsumers entries) ∈ puts fields 126 members) :
    (setAll default (puts fields 126 members)).consumers = sortedByName entries := by
  obtain ⟨before, after, same⟩ := List.append_of_mem put
  have perm : (puts fields 126 members).Perm
      (before ++ after ++ [(consumersField.name, putConsumers entries)]) := by
    rw [same]
    exact List.perm_middle.trans (List.perm_append_singleton _ _).symm
  rw [Json.setAll_perm (apart_fields 126) settles perm, setAll, List.foldl_concat]
  rfl

/-- Without consumers none are put in. -/
private theorem consumers_setAll_of_absent {members : List (List Char × Tree)}
    (formed : (Tree.object members).Formed)
    (absent : ∀ member ∈ members, ¬ Spells member.1 "ConsumerConfigs".toList) :
    (setAll default (puts fields 126 members)).consumers = [] := by
  refine List.foldlRecOn (motive := fun record : Document => record.consumers = []) _ _ rfl ?_
  intro record none put mem
  obtain ⟨member, written, given⟩ := Json.mem_puts.mp mem
  obtain ⟨chars, field, found, read⟩ := Json.putBy_eq_some_iff.mp given
  obtain ⟨known, named⟩ := Json.eq_of_field? found
  obtain rfl | rfl := List.mem_pair.mp known
  · rw [readBy_poolField] at read
    obtain ⟨pool, _, same⟩ := Option.map_eq_some_iff.mp read
    rw [← same]
    exact none
  · rw [← named, (formed_object.mp formed _ written).1.chars?_eq_some_iff] at chars
    exact absurd chars (absent _ written)

/-- A document that is taken has the consumers that it lists. -/
private theorem consumers_of_lists {t : Tree} {d : Document}
    {entries : List (String × ConsumerSettings)}
    (formed : t.Formed) (taken : Json.recordBy fields default t Json.maxDepth = some d)
    (lists : Lists t entries) : d.consumers = sortedByName entries := by
  obtain ⟨members, holds, listed⟩ := lists
  cases holds with
  | @named others _ name spells written =>
    obtain ⟨settles, rfl⟩ := Json.recordBy_object.mp taken
    have known : consumersField ∈ fields := List.mem_cons_of_mem _ List.mem_cons_self
    obtain ⟨set, read, put⟩ := Json.exists_put fields_distinct settles known spells written
    obtain ⟨members', entries', same, shapes, listed', rfl⟩ :=
      exists_entries (formed_object.mp formed _ written).2 read
    cases same
    rw [Json.entries_unique shapes listed listed']
    exact consumers_setAll settles put
  | unnamed absent =>
    obtain ⟨_, rfl⟩ := Json.recordBy_object.mp taken
    cases listed
    exact consumers_setAll_of_absent formed absent
  | @placed pool =>
    obtain ⟨setPool, readPool, more⟩ := Option.bind_eq_some_iff.mp taken
    obtain ⟨set, read, done⟩ := Option.bind_eq_some_iff.mp more
    obtain ⟨members', entries', same, shapes, listed', rfl⟩ :=
      exists_entries (formed_list.mp formed _ (by simp)) read
    cases same
    cases done
    rw [Json.entries_unique shapes listed listed']
    rfl
  | @short items few =>
    cases listed
    match items, few with
    | [], _ =>
      cases taken
      rfl
    | [pool], _ =>
      obtain ⟨setPool, readPool, done⟩ := Option.bind_eq_some_iff.mp taken
      rw [readBy_poolField] at readPool
      obtain ⟨settings, _, rfl⟩ := Option.map_eq_some_iff.mp readPool
      cases done
      rfl

/-- A document that is taken lists its consumers. -/
private theorem exists_lists {t : Tree} {d : Document} (formed : t.Formed)
    (taken : Json.recordBy fields default t Json.maxDepth = some d) :
    ∃ entries, Lists t entries := by
  cases t with
  | object members =>
    obtain ⟨settles, _⟩ := Json.recordBy_object.mp taken
    by_cases some : ∃ member ∈ members, Spells member.1 "ConsumerConfigs".toList
    · obtain ⟨⟨name, value⟩, written, spells⟩ := some
      have known : consumersField ∈ fields := List.mem_cons_of_mem _ List.mem_cons_self
      obtain ⟨set, read, put⟩ := Json.exists_put fields_distinct settles known spells written
      obtain ⟨consumers, entries, rfl, _, listed, _⟩ :=
        exists_entries (formed_object.mp formed _ written).2 read
      exact ⟨entries, consumers, .named spells written, listed⟩
    · exact ⟨[], [], .unnamed fun member mem spells => some ⟨member, mem, spells⟩, .nil⟩
  | list items =>
    match items with
    | [] | [_] => exact ⟨[], [], .short (by simp), .nil⟩
    | [pool, value] =>
      obtain ⟨setPool, readPool, more⟩ := Option.bind_eq_some_iff.mp taken
      obtain ⟨set, read, done⟩ := Option.bind_eq_some_iff.mp more
      obtain ⟨consumers, entries, rfl, _, listed, _⟩ :=
        exists_entries (formed_list.mp formed _ (by simp)) read
      exact ⟨entries, consumers, .placed, listed⟩
    | _ :: _ :: _ :: _ =>
      obtain ⟨_, _, more⟩ := Option.bind_eq_some_iff.mp taken
      obtain ⟨_, _, done⟩ := Option.bind_eq_some_iff.mp more
      cases done
  | _ => cases taken

/-! ## What a document answers -/

/-- What a document answers about its consumers, given their entries. -/
structure Answers (d : Document) (entries : List (String × ConsumerSettings)) : Prop where
  present : ∀ name, (d.consumer? name).isSome = true ↔ ∃ entry ∈ entries, entry.1 = name
  last : ∀ name settings, d.consumer? name = some settings ↔ LastEntry entries name settings
  /-- The names go up byte by byte, so that there is none twice. -/
  rising : d.enabled.Pairwise fun a b => Bytes.ofText a.1 < Bytes.ofText b.1
  enabled : ∀ name settings, (name, settings) ∈ d.enabled ↔
    d.consumer? name = some settings ∧ settings.enabled = true
  /-- Any table with the last entry of each name, in whatever order it is gone through, gives the
  same answers when it is searched, and when it is filtered and sorted. -/
  tables : ∀ table, Tabulates entries table → (∀ name, table.lookup name = d.consumer? name) ∧
    (table.filter fun entry => entry.2.enabled).mergeSort byName = d.enabled

private theorem answers_of_consumers {d : Document} {entries : List (String × ConsumerSettings)}
    (consumers : d.consumers = sortedByName entries) : d.Answers entries := by
  have sorted : Json.Sorted d.consumers := by
    rw [consumers]
    exact Json.sorted_sortedByName entries
  have last (name : String) (settings : ConsumerSettings) :
      d.consumer? name = some settings ↔ LastEntry entries name settings := by
    rw [consumer?, consumers, Json.lookup_sortedByName]
  refine ⟨fun name => ?_, last, sorted.rising.filter _, fun name settings => ?_, ?_⟩
  · rw [← Json.exists_lastEntry_iff, Option.isSome_iff_exists]
    exact exists_congr (last name)
  · rw [enabled, List.mem_filter, Json.mem_iff_lookup sorted.distinct]
    rfl
  · intro table tabulates
    refine ⟨fun name => Option.ext fun settings => ?_, ?_⟩
    · rw [← Json.mem_iff_lookup tabulates.once, tabulates.last, last]
    · rw [enabled, consumers, tabulates.mergeSort_filter]

/-- The last entry with a name counts. Whatever text is taken, there are entries that it lists; a
consumer is found if there is an entry of its name, and then it is the last of them, and those that
should be started are listed in the order of the bytes of their names. Documents in which the last
entries are the same give the same answers, whatever else they list and in which order. -/
theorem last_entry_counts :
    (∀ text d, parse text = .ok d →
      ∃ t entries, t.Formed ∧ t.Writes text.toList ∧ Lists t entries) ∧
    (∀ (t : Tree) text d entries, t.Formed → t.Writes text.toList → Lists t entries →
      parse text = .ok d → d.Answers entries) ∧
    ∀ (d d' : Document) entries entries', d.Answers entries → d'.Answers entries' →
      (∀ name settings, LastEntry entries name settings ↔ LastEntry entries' name settings) →
      (∀ name, d.consumer? name = d'.consumer? name) ∧ d.enabled = d'.enabled := by
  refine ⟨?_, ?_, ?_⟩
  · intro text d loaded
    obtain ⟨t, formed, writes⟩ := exists_tree loaded
    obtain ⟨entries, lists⟩ := exists_lists formed ((parse_of_writes formed writes d).mp loaded)
    exact ⟨t, entries, formed, writes, lists⟩
  · intro t text d entries formed writes lists loaded
    have taken := (parse_of_writes formed writes d).mp loaded
    exact answers_of_consumers (consumers_of_lists formed taken lists)
  · intro d d' entries entries' answers answers' same
    have found (name : String) : d.consumer? name = d'.consumer? name := by
      refine Option.ext fun settings => ?_
      rw [answers.last, answers'.last, same]
    refine ⟨found, Json.eq_of_rising answers.rising answers'.rising fun entry => ?_⟩
    rw [answers.enabled, answers'.enabled, found]

def queueMember (queue : String) : List (List Char × Tree) :=
  [("QueueName".toList, .text queue.toList)]

/-- Two members have one name, the second time with an escape. The bytes of the other names are not
in the order of their UTF-16 code units. -/
def sampleMembers : List (List Char × Tree) :=
  [("😀".toList, .object []), ("b".toList, .object (queueMember "one")),
    ("ﬁ".toList, .object []), ("a".toList, .object [("Enabled".toList, .boolean false)]),
    ("\\u0062".toList, .object (queueMember "two"))]

def sampleEntries : List (String × ConsumerSettings) :=
  [("😀", .default), ("b", .ofNames "one" ""), ("ﬁ", .default),
    ("a", { ConsumerSettings.default with enabled := false }), ("b", .ofNames "two" "")]

def sampleText : String :=
  "\x7b\"ConsumerConfigs\":\x7b\"😀\":\x7b\x7d,\"b\":\x7b\"QueueName\":\"one\"\x7d," ++
    "\"ﬁ\":\x7b\x7d,\"a\":\x7b\"Enabled\":false\x7d," ++
    "\"\\u0062\":\x7b\"QueueName\":\"two\"\x7d\x7d\x7d"

/-- Without the member that does not count, and as a list of the fields. -/
def sampleList : String :=
  "[\x7b\x7d,\x7b\"😀\":\x7b\x7d,\"ﬁ\":\x7b\x7d,\"a\":\x7b\"Enabled\":false\x7d," ++
    "\"\\u0062\":\x7b\"QueueName\":\"two\"\x7d\x7d]"

private theorem sampleMembers_entries :
    List.Forall₂ (Entry (ConsumerSettings.read 125)) sampleMembers sampleEntries := by
  repeat refine .cons ⟨spells_of_read (by decide +kernel), by rfl⟩ ?_
  exact .nil

private theorem queueMember_formed {queue : String} (shape : Shape queue.toList) :
    (Tree.object (queueMember queue)).Formed := by
  have name : Shape "QueueName".toList := shape_of_skip (by decide +kernel)
  exact formed_object.mpr (List.forall_mem_singleton.mpr ⟨name, .text shape⟩)

private theorem sampleMembers_formed :
    ∀ member ∈ sampleMembers, Shape member.1 ∧ member.2.Formed := by
  have empty : (Tree.object []).Formed := formed_object.mpr (by simp)
  have off : (Tree.object [("Enabled".toList, .boolean false)]).Formed :=
    formed_object.mpr (List.forall_mem_singleton.mpr
      ⟨shape_of_skip (by decide +kernel), .boolean false⟩)
  have one : (Tree.object (queueMember "one")).Formed :=
    queueMember_formed (shape_of_skip (by decide +kernel))
  have two : (Tree.object (queueMember "two")).Formed :=
    queueMember_formed (shape_of_skip (by decide +kernel))
  simp only [sampleMembers, List.forall_mem_cons]
  exact ⟨⟨shape_of_skip (by decide +kernel), empty⟩, ⟨shape_of_skip (by decide +kernel), one⟩,
    ⟨shape_of_skip (by decide +kernel), empty⟩, ⟨shape_of_skip (by decide +kernel), off⟩,
    ⟨shape_of_skip (by decide +kernel), two⟩, nofun⟩

private theorem spells_consumerConfigs : Spells "ConsumerConfigs".toList "ConsumerConfigs".toList :=
  spells_of_read (by decide +kernel)

private theorem sampleText_lists : ∃ t : Tree, t.Formed ∧ t.Writes sampleText.toList ∧
    Lists t sampleEntries := by
  refine ⟨.object [("ConsumerConfigs".toList, .object sampleMembers)], ?_, ?_, ?_⟩
  · exact formed_object.mpr (List.forall_mem_singleton.mpr
      ⟨spells_consumerConfigs.shape, formed_object.mpr sampleMembers_formed⟩)
  · exact ⟨_, [], laid_flatten _, Blank.nil, by decide +kernel⟩
  · exact ⟨_, .named spells_consumerConfigs List.mem_cons_self, sampleMembers_entries⟩

private theorem sampleList_lists : ∃ t : Tree, t.Formed ∧ t.Writes sampleList.toList ∧
    Lists t (sampleEntries.eraseIdx 1) := by
  refine ⟨.list [.object [], .object (sampleMembers.eraseIdx 1)], ?_, ?_, ?_⟩
  · refine formed_list.mpr (List.forall_mem_cons.mpr ⟨formed_object.mpr (by simp), ?_⟩)
    exact List.forall_mem_singleton.mpr (formed_object.mpr fun member mem =>
      sampleMembers_formed member (List.mem_of_mem_eraseIdx mem))
  · exact ⟨_, [], laid_flatten _, Blank.nil, by decide +kernel⟩
  · obtain ⟨first, others⟩ := List.forall₂_cons.mp sampleMembers_entries
    exact ⟨_, .placed, .cons first (List.forall₂_cons.mp others).2⟩

/-- The entry that is left out has another of its name behind it. -/
private theorem sampleEntries_last (name : String) (settings : ConsumerSettings) :
    LastEntry sampleEntries name settings ↔
      LastEntry (sampleEntries.eraseIdx 1) name settings := by
  rw [← Json.lookup_reverse_eq_some_iff, ← Json.lookup_reverse_eq_some_iff]
  by_cases twice : name = "b" <;> simp [sampleEntries, Json.lookup_cons_eq, twice]

theorem last_entry_counts_sample : ∃ d d' : Document,
    parse sampleText = .ok d ∧ parse sampleList = .ok d' ∧
    d.enabled.map Prod.fst = ["b", "ﬁ", "😀"] ∧
    d.consumer? "b" = some (.ofNames "two" "") ∧ d.consumer? "\\u0062" = none ∧
    d.enabled = d'.enabled := by
  have taken {text : String} {d : Document} (found : (parse text).toOption = some d) :
      parse text = .ok d := by
    cases loaded : parse text with
    | error fault =>
      rw [loaded] at found
      cases found
    | ok d =>
      rw [loaded] at found
      cases found
      rfl
  have goes : (parse sampleText).toOption.any (fun d =>
      d.enabled.map Prod.fst == ["b", "ﬁ", "😀"]) = true := by decide +kernel
  obtain ⟨d, found, names⟩ := (Option.any_eq_true _ _).mp goes
  obtain ⟨d', found'⟩ : ∃ d', (parse sampleList).toOption = some d' :=
    Option.isSome_iff_exists.mp (by decide +kernel)
  have loaded := taken found
  have loaded' := taken found'
  obtain ⟨_, answers, agree⟩ := last_entry_counts
  obtain ⟨t, formed, writes, lists⟩ := sampleText_lists
  obtain ⟨t', formed', writes', lists'⟩ := sampleList_lists
  have here : d.Answers sampleEntries := answers t _ d _ formed writes lists loaded
  have there : d'.Answers (sampleEntries.eraseIdx 1) :=
    answers t' _ d' _ formed' writes' lists' loaded'
  obtain ⟨_, same⟩ := agree d d' _ _ here there sampleEntries_last
  refine ⟨d, d', loaded, loaded', beq_iff_eq.mp names, ?_, ?_, same⟩
  · exact (here.last "b" _).mpr ⟨sampleEntries.take 4, [], rfl, nofun⟩
  · refine Option.not_isSome_iff_eq_none.mp fun found => ?_
    obtain ⟨entry, member, named⟩ := (here.present _).mp found
    revert entry
    simp [sampleEntries]

end Document

end Intake
