import Mathlib.Logic.Relation
import Intake.Proofs.Json.Repetition
import Intake.Proofs.Settings.Apart

/-!
# How a configuration is written does not matter

A document that is taken may be written in other ways: with its fields in any order, with fields
that nobody asks for, without those that are as in the default, as lists, and with any blanks. It
is taken for the same document. A field must not be written twice.
-/

namespace Intake

open Json (Blank IsNumeral Keeps Shape Spells Tree formed_object isNumeral_of_scan laid_flatten
  shape_of_skip spells_of_read)

/-! ## Trees of documents -/

private theorem Document.parse_eq_ok {text : String} {d : Document} :
    parse text = .ok d ↔ ∃ gap, Blank gap ∧
      Json.readRecord "RabbitConfig" fields default Json.maxDepth text.toList = .ok (d, gap) := by
  have taken : parse text = .ok d ↔ read text = .ok d := by
    rw [parse]
    cases read text <;> simp [Except.mapError]
  rw [taken, read, Json.bind_eq_ok]
  constructor
  · rintro ⟨⟨record, gap⟩, record', finished⟩
    obtain ⟨_, ended, ⟨⟩⟩ := Json.bind_eq_ok.mp finished
    exact ⟨gap, Json.finish_eq_ok.mp ended, record'⟩
  · rintro ⟨gap, blank, record⟩
    refine ⟨_, record, ?_⟩
    rw [Json.bind_eq_ok]
    exact ⟨(), Json.finish_eq_ok.mpr blank, rfl⟩

/-- A tree is loaded as what a document of it is read as, however it is written. -/
theorem Document.parse_of_writes {t : Tree} {text : String} (formed : t.Formed)
    (writes : t.Writes text.toList) (d : Document) :
    parse text = .ok d ↔ Json.recordBy fields default t Json.maxDepth = some d := by
  obtain ⟨body, gap, laid, blank, whole⟩ := writes
  have ends : Json.Ends gap := by simpa using blank.ends (s := []) trivial
  have gives := Json.gives_readRecord "RabbitConfig" default regular_fields Json.maxDepth formed
    body gap laid ends
  rw [parse_eq_ok, whole]
  cases read : Json.readRecord "RabbitConfig" fields default Json.maxDepth (body ++ gap) with
  | error problem =>
    rw [read, Json.toOption_error, eq_comm, Option.map_eq_none_iff] at gives
    simp [gives]
  | ok r =>
    obtain ⟨record, rest⟩ := r
    obtain ⟨d', given, same⟩ := Option.map_eq_some_iff.mp (read ▸ gives).symm
    obtain ⟨rfl, rfl⟩ := Prod.mk.inj same
    simp [given, blank]

/-- A text that is loaded is written from a tree. -/
theorem Document.exists_tree {text : String} {d : Document} (loaded : parse text = .ok d) :
    ∃ t : Tree, t.Formed ∧ t.Writes text.toList := by
  obtain ⟨gap, blank, record⟩ := parse_eq_ok.mp loaded
  obtain ⟨t, body, formed, laid, whole⟩ :=
    Json.covers_readRecord "RabbitConfig" default covers_fields Json.maxDepth record
  exact ⟨t, formed, body, gap, laid, blank, whole⟩

/-! ## Other ways of writing -/

/-- Another way of writing the settings of a pool, in whose fields so many lists and objects may be
open. -/
def PoolSettings.Rewrites (depth : Nat) : Tree → Tree → Prop :=
  Json.Rewrites fields default depth fun _ _ _ => False

/-- Another way of writing the settings of a consumer. -/
def ConsumerSettings.Rewrites (depth : Nat) : Tree → Tree → Prop :=
  Json.Rewrites fields default depth fun _ _ _ => False

namespace Document

/-- Another way of writing the pool of a document, or one of its consumers. -/
inductive RewritesPart (depth : Nat) : Json.Field Document → Tree → Tree → Prop
  | pool {value value' : Tree} (step : PoolSettings.Rewrites (depth + 1) value value') :
      RewritesPart depth poolField value value'
  | consumer {before after : List (List Char × Tree)} {name : List Char} {value value' : Tree}
      (step : ConsumerSettings.Rewrites depth value value') :
      RewritesPart depth consumersField (.object (before ++ (name, value) :: after))
        (.object (before ++ (name, value') :: after))

/-- Another way of writing a document, in itself or in one of the records in it. -/
def Rewrites : Tree → Tree → Prop := Json.Rewrites fields default 126 (RewritesPart 124)

private theorem RewritesPart.keeps {depth : Nat} {field : Json.Field Document} {value value' : Tree}
    (part : RewritesPart depth field value value') :
    Keeps (Tree.readBy (field.read (depth + 2))) value value' := by
  cases part with
  | pool step =>
    have record := step.keeps (PoolSettings.apart_fields (depth + 1)) fun _ _ _ _ none => none.elim
    have read : Keeps (Tree.readBy (PoolSettings.read (depth + 2))) value value' :=
      Json.keeps_readRecord "PoolConfig" PoolSettings.regular_fields record
    rw [funext (readBy_poolField (depth + 2))]
    exact read.map putPool
  | @consumer _ _ _ value value' step =>
    have record := step.keeps (ConsumerSettings.apart_fields depth) fun _ _ _ _ none => none.elim
    have read : Keeps (Tree.readBy (ConsumerSettings.read (depth + 1))) value value' :=
      Json.keeps_readRecord "ConsumerConfig" ConsumerSettings.regular_fields record
    rw [funext (readBy_consumersField (depth + 2))]
    refine Keeps.map ?_ putConsumers
    exact Json.keeps_readMap ConsumerSettings.regular_read (Json.keeps_mapBy read)

private theorem Rewrites.keeps {t t' : Tree} (step : Rewrites t t') :
    Keeps (fun t => Json.recordBy fields default t Json.maxDepth) t t' :=
  Json.Rewrites.keeps (apart_fields 126) (fun _ _ _ _ part => part.keeps) step

end Document

/-! ## Fields that are written twice -/

/-- Some setting of a pool is written twice. -/
def PoolSettings.Repeats : Tree → Prop := Json.Repeats fields fun _ _ => False

/-- Some setting of a consumer is written twice. -/
def ConsumerSettings.Repeats : Tree → Prop := Json.Repeats fields fun _ _ => False

namespace Document

/-- Some setting is written twice in the pool of a document, or in one of its consumers. -/
inductive RepeatsPart : Json.Field Document → Tree → Prop
  | pool {value : Tree} (repeats : PoolSettings.Repeats value) : RepeatsPart poolField value
  | consumer {members : List (List Char × Tree)} {name : List Char} {value : Tree}
      (written : (name, value) ∈ members) (repeats : ConsumerSettings.Repeats value) :
      RepeatsPart consumersField (.object members)

/-- Some field is written twice in a document, or in one of the records in it. -/
def Repeats : Tree → Prop := Json.Repeats fields RepeatsPart

private theorem RepeatsPart.refused {depth : Nat} {field : Json.Field Document} {value : Tree}
    (part : RepeatsPart field value) (formed : value.Formed) :
    value.readBy (field.read (depth + 2)) = none := by
  cases part with
  | pool repeats =>
    have refused : value.readBy (PoolSettings.read (depth + 2)) = none :=
      (Json.readBy_readRecord _ _ PoolSettings.regular_fields _ formed).trans
        (repeats.refused PoolSettings.fields_distinct (fun _ _ _ none => none.elim) formed)
    rw [readBy_poolField, refused]
    rfl
  | @consumer _ _ value written repeats =>
    have formedValue := (Json.formed_object.mp formed _ written).2
    have refused : value.readBy (ConsumerSettings.read (depth + 1)) = none :=
      (Json.readBy_readRecord _ _ ConsumerSettings.regular_fields _ formedValue).trans
        (repeats.refused ConsumerSettings.fields_distinct (fun _ _ _ none => none.elim) formedValue)
    rw [readBy_consumersField,
      (Json.gives_readMap ConsumerSettings.regular_read (depth + 2) formed).readBy_eq,
      Json.mapBy_refused written refused]
    rfl

private theorem Repeats.refused {t : Tree} (formed : t.Formed) (repeats : Repeats t) :
    Json.recordBy fields default t Json.maxDepth = none :=
  Json.Repeats.refused fields_distinct (fun _ _ _ part formed => part.refused formed) formed repeats

/-! ## Insensitivity -/

/-- Whatever is loaded is written from a tree. In every layout of that tree, and of every tree that
rewriting makes of it, it is loaded as the same document. From a tree with a field written twice
nothing is ever loaded. -/
theorem writing_insensitive :
    (∀ text d, parse text = .ok d → ∃ t : Tree, t.Formed ∧ t.Writes text.toList) ∧
    (∀ (t t' : Tree) text text' d, t.Formed → t.Writes text.toList → parse text = .ok d →
      Relation.ReflTransGen Rewrites t t' → t'.Writes text'.toList →
        t'.Formed ∧ parse text' = .ok d) ∧
    ∀ (t : Tree) text, t.Formed → Repeats t → t.Writes text.toList →
      ∃ fault, parse text = .error fault := by
  refine ⟨fun text d loaded => exists_tree loaded, ?_, ?_⟩
  · intro t t' text text' d formed writes loaded steps writes'
    obtain ⟨formed', same⟩ := Json.keeps_of_reflTransGen (fun _ _ step => step.keeps) steps formed
    refine ⟨formed', (parse_of_writes formed' writes' d).mpr (same d ?_)⟩
    exact (parse_of_writes formed writes d).mp loaded
  · intro t text formed repeats writes
    cases loaded : parse text with
    | error fault => exact ⟨fault, rfl⟩
    | ok d =>
      have taken := (parse_of_writes formed writes d).mp loaded
      rw [repeats.refused formed] at taken
      cases taken

/-- A document with some settings of a pool, behind other members. -/
def sampleTree (others pool : List (List Char × Tree)) : Tree :=
  .object (others ++ [("PoolConfig".toList, .object pool)])

/-- An unknown field, with half of a surrogate pair and a number beyond all doubles in its value. -/
def unknownMember : List Char × Tree :=
  ("PoolConfi\\u0067s".toList, .list [.list [.text "\\ud800".toList, .numeral "-1e999".toList]])

def countMember : List Char × Tree := ("GlobalQosCount".toList, .numeral ['7'])

def sizeMember : List Char × Tree := ("GlobalQosSize".toList, .numeral ['0'])

/-- The count once more, its name with an escape. -/
def countAgain : List Char × Tree := ("GlobalQos\\u0043ount".toList, .numeral ['8'])

private theorem sampleTree_formed {a b : List Char × Tree} (first : Shape a.1 ∧ a.2.Formed)
    (second : Shape b.1 ∧ b.2.Formed) : (sampleTree [] [a, b]).Formed := by
  have name : Shape "PoolConfig".toList := shape_of_skip (by decide +kernel)
  have pool : (Tree.object [a, b]).Formed :=
    formed_object.mpr (List.forall_mem_cons.mpr ⟨first, List.forall_mem_singleton.mpr second⟩)
  exact formed_object.mpr (List.forall_mem_singleton.mpr ⟨name, pool⟩)

private theorem countMember_formed : Shape countMember.1 ∧ countMember.2.Formed :=
  ⟨shape_of_skip (by decide +kernel), .numeral (isNumeral_of_scan (by decide +kernel))⟩

private theorem sizeMember_formed : Shape sizeMember.1 ∧ sizeMember.2.Formed :=
  ⟨shape_of_skip (by decide +kernel), .numeral (isNumeral_of_scan (by decide +kernel))⟩

private theorem countAgain_formed : Shape countAgain.1 ∧ countAgain.2.Formed :=
  ⟨shape_of_skip (by decide +kernel), .numeral (isNumeral_of_scan (by decide +kernel))⟩

/-- Without the size, which is as in the default, and with the unknown field. -/
theorem rewrites_sample : Relation.ReflTransGen Rewrites (sampleTree [] [sizeMember, countMember])
    (sampleTree [unknownMember] [countMember]) := by
  have poolName : Spells "PoolConfig".toList poolField.name.toList :=
    spells_of_read (by decide +kernel)
  have sizeName : Spells sizeMember.1 PoolSettings.fields[1].name.toList :=
    spells_of_read (by decide +kernel)
  have unknownName : Spells unknownMember.1 "PoolConfigs".toList :=
    spells_of_read (by decide +kernel)
  have half : Shape "\\ud800".toList := shape_of_skip (by decide +kernel)
  have huge : IsNumeral "-1e999".toList := isNumeral_of_scan (by decide +kernel)
  have formed : unknownMember.2.Formed :=
    .list (List.forall_mem_singleton.mpr (.list (List.forall_mem_cons.mpr
      ⟨.text half, List.forall_mem_singleton.mpr (.numeral huge)⟩)))
  have read : sizeMember.2.readBy (PoolSettings.fields[1].read 125) =
      some fun record => { record with prefetchSize := 0 } := by rfl
  have pool : PoolSettings.Rewrites 125 (.object ([] ++ sizeMember :: [countMember]))
      (.object ([] ++ [countMember])) :=
    Json.Rewrites.drop (List.getElem_mem _) sizeName read rfl
  have dropped : Rewrites (sampleTree [] [sizeMember, countMember]) (sampleTree [] [countMember]) :=
    .inside List.mem_cons_self poolName (.pool pool)
  have inserted :
      Rewrites (sampleTree [] [countMember]) (sampleTree [unknownMember] [countMember]) :=
    .insert unknownName (by decide) formed
  exact .tail (.single dropped) inserted

private theorem repeats_sample : Repeats (sampleTree [] [countMember, countAgain]) := by
  have poolName : Spells "PoolConfig".toList poolField.name.toList :=
    spells_of_read (by decide +kernel)
  have countName : Spells countMember.1 PoolSettings.fields[0].name.toList :=
    spells_of_read (by decide +kernel)
  have again : Spells countAgain.1 PoolSettings.fields[0].name.toList :=
    spells_of_read (by decide +kernel)
  have pool : PoolSettings.Repeats (.object [countMember, countAgain]) :=
    .here (List.getElem_mem _) countName again (List.Sublist.refl _)
  exact .inside List.mem_cons_self poolName List.mem_cons_self (.pool pool)

theorem writing_insensitive_sample :
    parse "\x7b\"PoolConfig\":\x7b\"GlobalQosSize\":0,\"GlobalQosCount\":7\x7d\x7d" =
        .ok ⟨⟨7, 0⟩, []⟩ ∧
      parse (" \x7b \"PoolConfi\\u0067s\" : [ [ \"\\ud800\" , -1e999 ] ] ," ++
        " \"PoolConfig\" : \x7b \"GlobalQosCount\" : 7 \x7d \x7d\n") = .ok ⟨⟨7, 0⟩, []⟩ ∧
      ∃ fault, parse ("\x7b\"PoolConfig\":" ++
        "\x7b\"GlobalQosCount\":7,\"GlobalQos\\u0043ount\":8\x7d\x7d") = .error fault := by
  obtain ⟨_, same, never⟩ := writing_insensitive
  have single : Blank [' '] := by simp [Blank, Json.isJsonBlank]
  have line : Blank ['\n'] := by simp [Blank, Json.isJsonBlank]
  have loaded : parse "\x7b\"PoolConfig\":\x7b\"GlobalQosSize\":0,\"GlobalQosCount\":7\x7d\x7d" =
      .ok ⟨⟨7, 0⟩, []⟩ := by rfl
  have formed := sampleTree_formed sizeMember_formed countMember_formed
  have formed' := sampleTree_formed countMember_formed countAgain_formed
  refine ⟨loaded, ?_, ?_⟩
  · refine (same _ _ _ _ _ formed ?_ loaded rewrites_sample ?_).2
    · exact ⟨_, [], laid_flatten _, Blank.nil, by decide +kernel⟩
    · exact ⟨_, ['\n'], single.laid _, line, by decide +kernel⟩
  · refine never _ _ formed' repeats_sample ?_
    exact ⟨_, [], laid_flatten _, Blank.nil, by decide +kernel⟩

end Document

end Intake
