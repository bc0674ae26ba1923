import Intake.Proofs.Json.Regularity
import Intake.Proofs.Json.Skipping

/-!
# What lists and objects are read as

A list is read as its items in their order, an object as its members, and a record as what its
fields are set to. What is made of the whole depends on what is made of the parts, and their
layouts do not matter.
-/

namespace Intake

namespace Json

variable {α : Type} {first : Bool} {text : List Char} {n : Nat}

/-! ## Lists and objects of anything -/

private theorem length_lt_of_laid_items {items : List Tree} (formed : ∀ x ∈ items, x.Formed)
    (laid : Laid (itemTokens first items) text) : items.length < text.length := by
  induction items generalizing first text with
  | nil =>
    obtain ⟨s, _, shorter, _⟩ := laid.skip (c := ']') rfl
    simp only [List.length_cons, List.length_nil] at shorter ⊢
    omega
  | cons x items ih =>
    obtain ⟨formedItem, formedMore⟩ := List.forall_mem_cons.mp formed
    obtain ⟨a, b, _, laidMore, some, shorter, _⟩ := nextItem_item formedItem laid
    have fewer := ih formedMore laidMore
    have := List.length_pos_iff.mpr some
    simp only [List.length_append, List.length_cons] at shorter ⊢
    omega

private theorem length_lt_of_laid_members {members : List (List Char × Tree)}
    (laid : Laid (memberTokens first members) text) : members.length < text.length := by
  induction members generalizing first text with
  | nil =>
    obtain ⟨s, _, shorter, _⟩ := laid.skip (c := '\x7d') rfl
    simp only [List.length_cons, List.length_nil] at shorter ⊢
    omega
  | cons x members ih =>
    obtain ⟨colon, a, b, _, _, laidMore, shorter, _⟩ := nextName_member laid
    have fewer := ih laidMore
    simp only [List.length_append, List.length_cons] at shorter ⊢
    omega

private theorem readItems_of_laid {item : Reader α} (regular : Regular item) {items : List Tree}
    (formed : ∀ x ∈ items, x.Formed) (laid : Laid (itemTokens first items) text)
    (fuel : items.length < n) (rest : List Char) :
    (readItems item n first (text ++ rest)).toOption =
      (items.mapM (Tree.readBy item)).map (·, rest) := by
  induction items generalizing first text n with
  | nil =>
    obtain ⟨n, rfl⟩ := Nat.exists_eq_add_of_lt fuel
    obtain ⟨closed, behind⟩ := nextItem_close laid rest
    simp only [readItems, closed, behind, bind, Except.bind]
    rfl
  | cons x items ih =>
    obtain ⟨n, rfl⟩ := Nat.exists_eq_add_of_lt fuel
    obtain ⟨formedItem, formedMore⟩ := List.forall_mem_cons.mp formed
    obtain ⟨a, b, laidItem, laidMore, _, _, found⟩ := nextItem_item formedItem laid
    have here := regular formedItem a (b ++ rest) laidItem (laidMore.ends_items rest)
    have more := ih formedMore laidMore (n := items.length + 1 + n) (by omega)
    rw [List.length_cons, readItems, List.mapM_cons]
    simp only [toOption_bind, found, toOption_ok, Option.bind_some, here]
    cases x.readBy item with
    | none => rfl
    | some y =>
      simp only [Option.map_some, Option.bind_some, more]
      cases items.mapM (Tree.readBy item) <;> rfl

/-- What a member of an object is read as: an entry with what its name stands for. -/
def entryBy (item : Reader α) (member : List Char × Tree) : Option (String × α) := do
  return (String.ofList (← chars? member.1), ← member.2.readBy item)

private theorem readEntries_of_laid {item : Reader α} (regular : Regular item)
    {members : List (List Char × Tree)} (names : ∀ x ∈ members, Shape x.1)
    (formed : ∀ x ∈ members, x.2.Formed) (laid : Laid (memberTokens first members) text)
    (fuel : members.length < n) (rest : List Char) :
    (readEntries item n first (text ++ rest)).toOption =
      (members.mapM (entryBy item)).map (·, rest) := by
  induction members generalizing first text n with
  | nil =>
    obtain ⟨n, rfl⟩ := Nat.exists_eq_add_of_lt fuel
    obtain ⟨closed, behind⟩ := nextName_close laid rest
    simp only [readEntries, closed, behind, bind, Except.bind]
    rfl
  | cons x members ih =>
    obtain ⟨raw, value⟩ := x
    obtain ⟨n, rfl⟩ := Nat.exists_eq_add_of_lt fuel
    obtain ⟨shape, names⟩ := List.forall_mem_cons.mp names
    obtain ⟨formedValue, formedMore⟩ := List.forall_mem_cons.mp formed
    obtain ⟨colon, a, b, laidColon, laidValue, laidMore, _, found⟩ := nextName_member laid
    have here := regular formedValue a (b ++ rest) laidValue (laidMore.ends_members rest)
    have more := ih names formedMore laidMore (n := members.length + 1 + n) (by omega)
    rw [List.length_cons, readEntries, List.mapM_cons]
    simp only [toOption_bind, found, toOption_map, shape.read, entryBy]
    cases chars? raw with
    | none => rfl
    | some name =>
      simp only [Option.map_some, Option.bind_some, toOption_bind, skipColon_colon laidColon,
        toOption_ok, here]
      cases value.readBy item with
      | none => rfl
      | some y =>
        simp only [Option.map_some, Option.bind_some, more]
        cases members.mapM (entryBy item) <;> rfl

/-- A map is read as the entries of an object. -/
def mapBy (item : Nat → Reader α) : Tree → Nat → Option (List (String × α))
  | .object members, depth + 1 => members.mapM (entryBy (item depth))
  | _, _ => none

theorem gives_readMap {item : Nat → Reader α} (regular : ∀ depth, Regular (item depth))
    (depth : Nat) {t : Tree} (formed : t.Formed) :
    t.Gives (readMap item depth) (mapBy item t depth) := by
  have refuses {s : List Char} {c : Char} {rest : List Char} (shown : skipBlanks s = c :: rest)
      (other : ¬ c = '\x7b') : (readMap item depth s).toOption = none := by
    simp [readMap, shown, other]
  cases t with
  | object members =>
    intro text rest laid _
    obtain ⟨body, laidMembers, _, skipped⟩ := laid.skip (c := '\x7b') rfl
    obtain _ | depth := depth
    · simp [readMap, skipped, mapBy]
    · cases formed with
      | object names formed =>
        have fewer := length_lt_of_laid_members laidMembers
        simp only [readMap, skipped, List.nil_append]
        exact readEntries_of_laid (regular depth) names formed laidMembers
          (by rw [List.length_append]; omega) rest
  | boolean b => cases b <;> exact formed.refused refuses (by simp [Tree.Begins])
  | numeral => exact formed.refused refuses fun c begins => by simp [ne_of_number begins]
  | _ => exact formed.refused refuses (by simp [Tree.Begins])

theorem regular_readMap {item : Nat → Reader α} (regular : ∀ depth, Regular (item depth))
    (depth : Nat) : Regular (readMap item depth) :=
  regular_of_exists fun _ formed => ⟨_, gives_readMap regular depth formed⟩

/-! ## Values -/

private theorem readValueWith_of_number {list object : Reader Value} {s rest : List Char} {c : Char}
    (shown : skipBlanks s = c :: rest) (first : c = '-' ∨ c.isDigit = true) :
    readValueWith list object s =
      (readNumber (c :: rest)).map fun r => (.number r.1, r.2) := by
  simp [readValueWith, shown, ne_of_number first, first]

private theorem regular_readValueWith {list object : Reader Value}
    (lists : ∀ items : List Tree, (∀ x ∈ items, x.Formed) → ∃ o : Option Value, ∀ text rest,
      Laid (itemTokens true items) text → (list (text ++ rest)).toOption = o.map (·, rest))
    (objects : ∀ members : List (List Char × Tree), (∀ x ∈ members, Shape x.1) →
      (∀ x ∈ members, x.2.Formed) → ∃ o : Option Value, ∀ text rest,
      Laid (memberTokens true members) text → (object (text ++ rest)).toOption = o.map (·, rest)) :
    Regular (readValueWith list object) := by
  refine regular_of_exists fun t formed => ?_
  cases formed with
  | null =>
    exact ⟨some .null, fun _ _ laid _ => by
      simp [readValueWith, laid.skip_token (c := 'n') rfl, readWord, Except.map]⟩
  | boolean b =>
    refine ⟨some (.boolean b), fun _ _ laid _ => ?_⟩
    cases b
    · simp [readValueWith, laid.skip_token (c := 'f') rfl, readWord, Except.map]
    · simp [readValueWith, laid.skip_token (c := 't') rfl, readWord, Except.map]
  | @numeral raw numeral =>
    refine ⟨(number? raw).map .number, fun text rest laid ends => ?_⟩
    have read := numeral.read ends
    obtain ⟨c, tail, rfl, first⟩ := numeral.exists_cons
    have shown := laid.skip_token (solid_of_number first) rest
    rw [List.cons_append] at read
    rw [readValueWith_of_number shown first, toOption_map, read]
    cases number? (c :: tail) <;> rfl
  | @text raw shape =>
    refine ⟨(chars? raw).map fun s => .text (String.ofList s), fun text rest laid _ => ?_⟩
    simp only [readValueWith, laid.skip_text, toOption_map, shape.read]
    cases chars? raw <;> rfl
  | @list items formed =>
    obtain ⟨o, gives⟩ := lists items formed
    refine ⟨o, fun text rest laid _ => ?_⟩
    obtain ⟨body, laidItems, _, skipped⟩ := laid.skip (c := '[') rfl
    simp only [readValueWith, skipped, List.nil_append]
    exact gives body rest laidItems
  | @object members names formed =>
    obtain ⟨o, gives⟩ := objects members names formed
    refine ⟨o, fun text rest laid _ => ?_⟩
    obtain ⟨body, laidMembers, _, skipped⟩ := laid.skip (c := '\x7b') rfl
    simp only [readValueWith, skipped, List.nil_append]
    exact gives body rest laidMembers

/-- What a value is read as does not hang on how it is laid out. -/
theorem regular_readValue (depth : Nat) : Regular (readValue depth) := by
  induction depth with
  | zero =>
    exact regular_readValueWith (fun _ _ => ⟨none, fun _ _ _ => rfl⟩)
      fun _ _ _ => ⟨none, fun _ _ _ => rfl⟩
  | succ depth ih =>
    refine regular_readValueWith (fun items formed => ?_) fun members names formed => ?_
    · refine ⟨(items.mapM (Tree.readBy (readValue depth))).map .list, fun text rest laid => ?_⟩
      have fewer := length_lt_of_laid_items formed laid
      rw [toOption_map, readItems_of_laid ih formed laid (by rw [List.length_append]; omega)]
      cases items.mapM (Tree.readBy (readValue depth)) <;> rfl
    · refine ⟨(members.mapM (entryBy (readValue depth))).map fun entries =>
        .object (sortedByName entries), fun text rest laid => ?_⟩
      have fewer := length_lt_of_laid_members laid
      rw [toOption_map,
        readEntries_of_laid ih names formed laid (by rw [List.length_append]; omega)]
      cases members.mapM (entryBy (readValue depth)) <;> rfl

/-! ## Records -/

section

variable {σ : Type} {fields : List (Field σ)} {depth : Nat}

/-- What the members of an object make of a record, behind some that have set the fields `seen`. -/
def namedBy (fields : List (Field σ)) (depth : Nat) :
    List String → σ → List (List Char × Tree) → Option σ
  | _, record, [] => some record
  | seen, record, (raw, value) :: members => do
    let name := String.ofList (← chars? raw)
    match field? fields name with
    | none => namedBy fields depth seen record members
    | some field =>
      if name ∈ seen then none
      else
        let set ← value.readBy (field.read depth)
        namedBy fields depth (name :: seen) (set record) members

/-- What the items of a list make of a record, in the order of its fields. -/
def positionalBy (depth : Nat) : List (Field σ) → σ → List Tree → Option σ
  | _, record, [] => some record
  | [], _, _ :: _ => none
  | field :: fields, record, item :: items => do
    let set ← item.readBy (field.read depth)
    positionalBy depth fields (set record) items

/-- What a record is read as. -/
def recordBy (fields : List (Field σ)) (default : σ) : Tree → Nat → Option σ
  | .list items, depth + 1 => positionalBy depth fields default items
  | .object members, depth + 1 => namedBy fields depth [] default members
  | _, _ => none

private theorem readNamed_of_laid (regular : ∀ field ∈ fields, Regular (field.read depth))
    {members : List (List Char × Tree)} (names : ∀ x ∈ members, Shape x.1)
    (formed : ∀ x ∈ members, x.2.Formed) (laid : Laid (memberTokens first members) text)
    (fuel : members.length < n) (seen : List String) (record : σ) (rest : List Char) :
    (readNamed fields depth n first seen record (text ++ rest)).toOption =
      (namedBy fields depth seen record members).map (·, rest) := by
  induction members generalizing first text n seen record with
  | nil =>
    obtain ⟨n, rfl⟩ := Nat.exists_eq_add_of_lt fuel
    obtain ⟨closed, behind⟩ := nextName_close laid rest
    simp only [readNamed, closed, behind, bind, Except.bind]
    rfl
  | cons x members ih =>
    obtain ⟨raw, value⟩ := x
    obtain ⟨n, rfl⟩ := Nat.exists_eq_add_of_lt fuel
    obtain ⟨shape, names⟩ := List.forall_mem_cons.mp names
    obtain ⟨formedValue, formedMore⟩ := List.forall_mem_cons.mp formed
    obtain ⟨colon, a, b, laidColon, laidValue, laidMore, _, found⟩ := nextName_member laid
    have more := ih names formedMore laidMore (n := members.length + 1 + n) (by omega)
    have ends := laidMore.ends_members rest
    rw [List.length_cons, readNamed, namedBy]
    simp only [toOption_bind, found, toOption_map, shape.read]
    cases chars? raw with
    | none => rfl
    | some name =>
      simp only [Option.map_some, Option.bind_some, Option.bind_eq_bind]
      cases known : field? fields (String.ofList name) with
      | none =>
        have passed := formedValue.passes ((a ++ (b ++ rest)).length + 1) a (b ++ rest) laidValue
          (by rw [List.length_append]; omega) ends
        simp only [toOption_bind, skipColon_colon laidColon, passed, toOption_ok, Option.bind_some,
          more]
      | some field =>
        have here := regular field (List.mem_of_find?_eq_some known) formedValue a (b ++ rest)
          laidValue ends
        split_ifs with repeated
        · rfl
        · simp only [toOption_bind, skipColon_colon laidColon, toOption_ok, Option.bind_some, here]
          cases value.readBy (field.read depth) with
          | none => rfl
          | some set => exact more _ _

/-- A list with items left is not closed. -/
private theorem closeList_items {x : Tree} {items : List Tree} (formed : ∀ y ∈ x :: items, y.Formed)
    (laid : Laid (itemTokens first (x :: items)) text) (rest : List Char) :
    (closeList (text ++ rest)).toOption = none := by
  obtain ⟨pre, s, parts, rfl, before⟩ := laid_parted laid
  obtain ⟨a, b, laidItem, _, rfl⟩ := parts.split
  obtain ⟨c, s, begins, _, _, skipped⟩ := (formed x List.mem_cons_self).opens laidItem
  obtain ⟨_, comma, bracket⟩ := begins.inner
  obtain ⟨rfl, rfl⟩ | ⟨rfl, gap, blank, rfl⟩ := before
  · simp [closeList, skipped, comma, bracket]
  · simp [closeList, skipped, bracket, blank.skip (c := ',') rfl]

private theorem readPositional_of_laid (regular : ∀ field ∈ fields, Regular (field.read depth))
    {items : List Tree} (formed : ∀ x ∈ items, x.Formed)
    (laid : Laid (itemTokens first items) text) (record : σ) (rest : List Char) :
    (readPositional depth fields first record (text ++ rest)).toOption =
      (positionalBy depth fields record items).map (·, rest) := by
  induction fields generalizing first text items record with
  | nil =>
    cases items with
    | nil =>
      obtain ⟨s, ⟨⟩, _, skipped⟩ := laid.skip (c := ']') rfl
      simp [readPositional, closeList, skipped, positionalBy, Except.map]
    | cons x items =>
      rw [readPositional, toOption_map, closeList_items formed laid]
      rfl
  | cons field fields ih =>
    obtain ⟨regularField, regularMore⟩ := List.forall_mem_cons.mp regular
    cases items with
    | nil =>
      obtain ⟨closed, behind⟩ := nextItem_close laid rest
      simp only [readPositional, closed, behind, bind, Except.bind]
      rfl
    | cons x items =>
      obtain ⟨formedItem, formedMore⟩ := List.forall_mem_cons.mp formed
      obtain ⟨a, b, laidItem, laidMore, _, _, found⟩ := nextItem_item formedItem laid
      have here := regularField formedItem a (b ++ rest) laidItem (laidMore.ends_items rest)
      rw [readPositional, positionalBy]
      simp only [toOption_bind, found, toOption_ok, Option.bind_some, here]
      cases x.readBy (field.read depth) with
      | none => rfl
      | some set => exact ih regularMore formedMore laidMore _

theorem gives_readRecord (title : String) (default : σ)
    (regular : ∀ field ∈ fields, ∀ depth, Regular (field.read depth)) (depth : Nat) {t : Tree}
    (formed : t.Formed) :
    t.Gives (readRecord title fields default depth) (recordBy fields default t depth) := by
  have refuses {s : List Char} {c : Char} {rest : List Char} (shown : skipBlanks s = c :: rest)
      (other : ¬ (c = '[' ∨ c = '\x7b')) :
      (readRecord title fields default depth s).toOption = none := by
    obtain ⟨bracket, brace⟩ := not_or.mp other
    simp [readRecord, shown, bracket, brace]
  cases t with
  | list items =>
    intro text rest laid _
    obtain ⟨body, laidItems, _, skipped⟩ := laid.skip (c := '[') rfl
    obtain _ | depth := depth
    · simp [readRecord, skipped, recordBy]
    · cases formed with
      | list formed =>
        simp only [readRecord, skipped, List.nil_append]
        exact readPositional_of_laid (fun field mem => regular field mem depth) formed laidItems
          default rest
  | object members =>
    intro text rest laid _
    obtain ⟨body, laidMembers, _, skipped⟩ := laid.skip (c := '\x7b') rfl
    obtain _ | depth := depth
    · simp [readRecord, skipped, recordBy]
    · cases formed with
      | object names formed =>
        have fewer := length_lt_of_laid_members laidMembers
        simp only [readRecord, skipped, List.nil_append]
        exact readNamed_of_laid (fun field mem => regular field mem depth) names formed laidMembers
          (by rw [List.length_append]; omega) [] default rest
  | boolean b => cases b <;> exact formed.refused refuses (by simp [Tree.Begins])
  | numeral => exact formed.refused refuses fun c begins => by simp [ne_of_number begins]
  | _ => exact formed.refused refuses (by simp [Tree.Begins])

theorem regular_readRecord (title : String) (default : σ)
    (regular : ∀ field ∈ fields, ∀ depth, Regular (field.read depth)) (depth : Nat) :
    Regular (readRecord title fields default depth) :=
  regular_of_exists fun _ formed => ⟨_, gives_readRecord title default regular depth formed⟩

end

end Json

end Intake
