import Intake.Json.Record
import Intake.Proofs.Json.Tree

/-!
# Only JSON is taken

Whatever a reader takes from the front of a text is the layout of a tree, whether it is kept or
passed over: so is an item of a list, a member of an object, and by induction all of a value.
-/

namespace Intake

namespace Json

variable {first : Bool} {s s' rest : List Char}

/-! ## Separators -/

/-- Between the two texts stands what may stand before a part, and nothing else. -/
def Separates (first : Bool) (s s' : List Char) : Prop :=
  ∃ pre, s = pre ++ s' ∧ ∀ tokens text, tokens ≠ [] → Laid tokens text →
    Laid (parted first tokens) (pre ++ text)

private theorem separates_first (s : List Char) : Separates true s s :=
  ⟨[], rfl, fun _ _ _ laid => laid⟩

private theorem separates_comma (shown : skipBlanks s = ',' :: s') : Separates false s s' := by
  obtain ⟨gap, blank, whole⟩ := exists_blank s
  refine ⟨gap ++ [','], ?_, fun tokens text _ laid => ?_⟩
  · rw [List.append_assoc, whole, shown]
    rfl
  · rw [List.append_assoc]
    exact .cons [','] blank laid

private theorem Separates.blanks (separates : Separates first s s') :
    Separates first s (skipBlanks s') := by
  obtain ⟨pre, rfl, before⟩ := separates
  obtain ⟨gap, blank, whole⟩ := exists_blank s'
  refine ⟨pre ++ gap, by rw [List.append_assoc, ← whole], fun tokens text some laid => ?_⟩
  rw [List.append_assoc]
  exact before tokens _ some (laid.blank_append blank some)

private theorem nextItem_eq_some (found : nextItem first s = .ok (some s')) :
    Separates first s s' := by
  unfold nextItem at found
  split at found
  next => cases found
  next => cases found
  next c rest _ shown =>
    split_ifs at found with isFirst comma
    · cases found
      rw [isFirst, ← shown]
      exact (separates_first s).blanks
    · subst comma
      rw [eq_false_of_ne_true isFirst]
      split at found
      next => cases found
      next => cases found
      next =>
        cases found
        exact (separates_comma shown).blanks

private theorem nextName_eq_some {name : List Char}
    (found : nextName first s = .ok (some (name, s'))) :
    ∃ text, Separates first s ('"' :: text) ∧ readChars text = .ok (name, s') := by
  unfold nextName at found
  split at found
  next => cases found
  next => cases found
  next c rest _ shown =>
    split_ifs at found with isFirst quote comma
    · subst quote
      obtain ⟨⟨_, _⟩, read, ⟨⟩⟩ := map_eq_ok.mp found
      rw [isFirst]
      exact ⟨rest, shown ▸ (separates_first s).blanks, read⟩
    · subst comma
      rw [eq_false_of_ne_true isFirst]
      split at found
      next => cases found
      next text shown' =>
        obtain ⟨⟨_, _⟩, read, ⟨⟩⟩ := map_eq_ok.mp found
        exact ⟨text, shown' ▸ (separates_comma shown).blanks, read⟩
      next => cases found
      next => cases found

/-! ## Trees in front of a text -/

/-- The layout of a tree stands in front of the rest. -/
def Leaves (s rest : List Char) : Prop :=
  ∃ (t : Tree) (text : List Char), t.Formed ∧ Laid t.tokens text ∧ s = text ++ rest

/-- The layout of the remaining items of a list stands in front of the rest. -/
def LeavesItems (first : Bool) (s rest : List Char) : Prop :=
  ∃ items text, (∀ item ∈ items, item.Formed) ∧ Laid (itemTokens first items) text ∧
    s = text ++ rest

/-- The layout of the remaining members of an object stands in front of the rest. -/
def LeavesMembers (first : Bool) (s rest : List Char) : Prop :=
  ∃ members text, (∀ member ∈ members, Shape member.1) ∧ (∀ member ∈ members, member.2.Formed) ∧
    Laid (memberTokens first members) text ∧ s = text ++ rest

private theorem laid_single {gap : List Char} (blank : Blank gap) (token : List Char) :
    Laid [token] (gap ++ token) := by
  simpa using Laid.cons token blank .nil

/-- What stands behind the blanks may be a token. -/
private theorem exists_laid_of_skipBlanks (token : List Char)
    (shown : skipBlanks s = token ++ rest) :
    ∃ text, Laid [token] text ∧ s = text ++ rest := by
  obtain ⟨gap, blank, whole⟩ := exists_blank s
  exact ⟨gap ++ token, laid_single blank token, by rw [List.append_assoc, ← shown, ← whole]⟩

private theorem Leaves.token {t : Tree} {token : List Char} (formed : t.Formed)
    (tokens : t.tokens = [token]) (shown : skipBlanks s = token ++ rest) : Leaves s rest := by
  obtain ⟨text, laid, whole⟩ := exists_laid_of_skipBlanks token shown
  exact ⟨t, text, formed, tokens ▸ laid, whole⟩

private theorem Leaves.text {raw : List Char} (shape : Shape raw)
    (shown : skipBlanks s = '"' :: (raw ++ '"' :: rest)) : Leaves s rest :=
  .token (.text shape) rfl (by simpa [quoted] using shown)

private theorem Leaves.list (shown : skipBlanks s = '[' :: s') (items : LeavesItems true s' rest) :
    Leaves s rest := by
  obtain ⟨items, body, formed, laid, rfl⟩ := items
  obtain ⟨text, bracket, rfl⟩ := exists_laid_of_skipBlanks ['['] shown
  exact ⟨.list items, text ++ body, .list formed, bracket.append laid, (List.append_assoc ..).symm⟩

private theorem Leaves.object (shown : skipBlanks s = '\x7b' :: s')
    (members : LeavesMembers true s' rest) :
    Leaves s rest := by
  obtain ⟨members, body, names, formed, laid, rfl⟩ := members
  obtain ⟨text, brace, rfl⟩ := exists_laid_of_skipBlanks ['\x7b'] shown
  exact ⟨.object members, text ++ body, .object names formed, brace.append laid,
    (List.append_assoc ..).symm⟩

private theorem LeavesItems.close (shown : skipBlanks s = ']' :: rest) :
    LeavesItems first s rest := by
  obtain ⟨text, bracket, rfl⟩ := exists_laid_of_skipBlanks [']'] shown
  exact ⟨[], text, fun _ mem => (by cases mem), bracket, rfl⟩

private theorem LeavesItems.item {s₁ s₂ : List Char} (separates : Separates first s s₁)
    (item : Leaves s₁ s₂) (more : LeavesItems false s₂ rest) : LeavesItems first s rest := by
  obtain ⟨pre, rfl, before⟩ := separates
  obtain ⟨t, a, formed, laid, rfl⟩ := item
  obtain ⟨items, b, others, laid', rfl⟩ := more
  obtain ⟨c, token, tokens, shown, _⟩ := formed.exists_token
  refine ⟨t :: items, pre ++ (a ++ b), ?_, before _ _ ?_ (laid.append laid'), ?_⟩
  · exact List.forall_mem_cons.mpr ⟨formed, others⟩
  · simp [shown]
  · simp only [List.append_assoc]

private theorem LeavesMembers.close (shown : skipBlanks s = '\x7d' :: rest) :
    LeavesMembers first s rest := by
  obtain ⟨text, brace, rfl⟩ := exists_laid_of_skipBlanks ['\x7d'] shown
  exact ⟨[], text, fun _ mem => (by cases mem), fun _ mem => (by cases mem), brace, rfl⟩

private theorem exists_laid_of_skipColon (skipped : skipColon s = .ok s') :
    ∃ text, Laid [[':']] text ∧ s = text ++ s' := by
  unfold skipColon at skipped
  split at skipped
  next => cases skipped
  next rest shown =>
    cases skipped
    exact exists_laid_of_skipBlanks [':'] shown
  next => cases skipped

private theorem LeavesMembers.member {raw s₁ s₂ s₃ : List Char} (shape : Shape raw)
    (separates : Separates first s ('"' :: (raw ++ '"' :: s₁))) (skipped : skipColon s₁ = .ok s₂)
    (value : Leaves s₂ s₃) (more : LeavesMembers false s₃ rest) : LeavesMembers first s rest := by
  obtain ⟨pre, rfl, before⟩ := separates
  obtain ⟨colon, laidColon, rfl⟩ := exists_laid_of_skipColon skipped
  obtain ⟨t, a, formed, laid, rfl⟩ := value
  obtain ⟨members, b, names, others, laid', rfl⟩ := more
  refine ⟨(raw, t) :: members, pre ++ (quoted raw ++ (colon ++ (a ++ b))), ?_, ?_, ?_, ?_⟩
  · exact List.forall_mem_cons.mpr ⟨shape, names⟩
  · exact List.forall_mem_cons.mpr ⟨formed, others⟩
  · exact before _ _ (List.cons_ne_nil _ _)
      (.cons (quoted raw) Blank.nil (laidColon.append (laid.append laid')))
  · simp [quoted]

private theorem LeavesMembers.named {name s₁ s₂ s₃ : List Char}
    (found : nextName first s = .ok (some (name, s₁))) (colon : skipColon s₁ = .ok s₂)
    (value : Leaves s₂ s₃) (more : LeavesMembers false s₃ rest) : LeavesMembers first s rest := by
  obtain ⟨text, separates, read⟩ := nextName_eq_some found
  obtain ⟨raw, spells, rfl⟩ := exists_spells read
  exact .member spells.shape separates colon value more

private theorem leavesItems_of_nextItem (found : nextItem first s = .ok none) :
    LeavesItems first s ((skipBlanks s).drop 1) := by
  unfold nextItem at found
  split at found
  next => cases found
  next rest shown =>
    rw [shown]
    exact .close shown
  next =>
    split_ifs at found
    · cases found
    · split at found <;> cases found

private theorem leavesMembers_of_nextName (found : nextName first s = .ok none) :
    LeavesMembers first s ((skipBlanks s).drop 1) := by
  unfold nextName at found
  split at found
  next => cases found
  next rest shown =>
    rw [shown]
    exact .close shown
  next =>
    split_ifs at found
    · obtain ⟨_, _, ⟨⟩⟩ := map_eq_ok.mp found
    · split at found
      next => cases found
      next => obtain ⟨_, _, ⟨⟩⟩ := map_eq_ok.mp found
      next => cases found
      next => cases found

/-! ## Values that are passed over -/

private theorem readWord_eq_ok {word : List Char} (read : readWord word s = .ok rest) :
    s = word ++ rest := by
  induction word generalizing s with
  | nil =>
    cases read
    rfl
  | cons w word ih =>
    cases s with
    | nil => cases read
    | cons c s =>
      rw [readWord] at read
      split_ifs at read with same
      rw [same, ih read, List.cons_append]

private theorem Leaves.null {s₁ : List Char} (shown : skipBlanks s = 'n' :: s₁)
    (read : readWord ['u', 'l', 'l'] s₁ = .ok rest) : Leaves s rest :=
  .token .null rfl (by rw [shown, readWord_eq_ok read]; rfl)

private theorem Leaves.yes {s₁ : List Char} (shown : skipBlanks s = 't' :: s₁)
    (read : readWord ['r', 'u', 'e'] s₁ = .ok rest) : Leaves s rest :=
  .token (.boolean true) rfl (by rw [shown, readWord_eq_ok read]; rfl)

private theorem Leaves.no {s₁ : List Char} (shown : skipBlanks s = 'f' :: s₁)
    (read : readWord ['a', 'l', 's', 'e'] s₁ = .ok rest) : Leaves s rest :=
  .token (.boolean false) rfl (by rw [shown, readWord_eq_ok read]; rfl)

private theorem Leaves.numeral {raw : List Char} (numeral : IsNumeral raw)
    (shown : skipBlanks s = raw ++ rest) : Leaves s rest :=
  .token (.numeral numeral) rfl shown

section

variable {item : List Char → Except Problem (List Char)}

private theorem leavesItems_of_skipItems (leaves : ∀ {s rest}, item s = .ok rest → Leaves s rest)
    {n : Nat} (skipped : skipItems item n first s = .ok rest) : LeavesItems first s rest := by
  induction n generalizing first s with
  | zero => cases skipped
  | succ n ih =>
    unfold skipItems at skipped
    split at skipped
    next => cases skipped
    next shown =>
      cases skipped
      exact .close shown
    next c s₁ _ shown =>
      split_ifs at skipped with isFirst comma
      · obtain ⟨s₂, taken, more⟩ := bind_eq_ok.mp skipped
        rw [isFirst]
        exact .item (shown ▸ (separates_first s).blanks) (leaves taken) (ih more)
      · subst comma
        obtain ⟨s₂, taken, more⟩ := bind_eq_ok.mp skipped
        rw [eq_false_of_ne_true isFirst]
        exact .item (separates_comma shown) (leaves taken) (ih more)

private theorem skipName_eq_ok {s₂ : List Char} (skipped : skipName s = .ok s₂) :
    ∃ raw s₁, Shape raw ∧ skipBlanks s = '"' :: (raw ++ '"' :: s₁) ∧ skipColon s₁ = .ok s₂ := by
  unfold skipName at skipped
  split at skipped
  next => cases skipped
  next text shown =>
    obtain ⟨s₁, taken, colon⟩ := bind_eq_ok.mp skipped
    obtain ⟨raw, shape, rfl⟩ := exists_shape taken
    exact ⟨raw, s₁, shape, shown, colon⟩
  next => cases skipped

private theorem LeavesMembers.passed {s₂ s₃ : List Char} (separates : Separates first s s')
    (named : skipName s' = .ok s₂) (value : Leaves s₂ s₃) (more : LeavesMembers false s₃ rest) :
    LeavesMembers first s rest := by
  obtain ⟨raw, s₁, shape, shown, colon⟩ := skipName_eq_ok named
  exact .member shape (shown ▸ separates.blanks) colon value more

private theorem leavesMembers_of_skipEntries
    (leaves : ∀ {s rest}, item s = .ok rest → Leaves s rest)
    {n : Nat} (skipped : skipEntries item n first s = .ok rest) : LeavesMembers first s rest := by
  induction n generalizing first s with
  | zero => cases skipped
  | succ n ih =>
    unfold skipEntries at skipped
    split at skipped
    next => cases skipped
    next shown =>
      cases skipped
      exact .close shown
    next c s₁ _ shown =>
      split_ifs at skipped with isFirst comma
      · obtain ⟨s₂, named, skipped⟩ := bind_eq_ok.mp skipped
        obtain ⟨s₃, taken, more⟩ := bind_eq_ok.mp skipped
        rw [isFirst]
        exact .passed (shown ▸ (separates_first s).blanks) named (leaves taken) (ih more)
      · subst comma
        obtain ⟨s₂, named, skipped⟩ := bind_eq_ok.mp skipped
        obtain ⟨s₃, taken, more⟩ := bind_eq_ok.mp skipped
        rw [eq_false_of_ne_true isFirst]
        exact .passed (separates_comma shown) named (leaves taken) (ih more)

end

/-- Whatever is passed over is a tree. -/
private theorem leaves_of_skipValue {n : Nat} (skipped : skipValue n s = .ok rest) :
    Leaves s rest := by
  induction n generalizing s rest with
  | zero => cases skipped
  | succ n ih =>
    unfold skipValue at skipped
    split at skipped
    next => cases skipped
    next shown => exact .null shown skipped
    next shown => exact .yes shown skipped
    next shown => exact .no shown skipped
    next shown =>
      obtain ⟨raw, shape, rfl⟩ := exists_shape skipped
      exact .text shape shown
    next shown => exact .list shown (leavesItems_of_skipItems ih skipped)
    next shown => exact .object shown (leavesMembers_of_skipEntries ih skipped)
    next shown =>
      split_ifs at skipped with begins
      · obtain ⟨⟨_, _⟩, scanned, rfl⟩ := map_eq_ok.mp skipped
        obtain ⟨raw, numeral, whole⟩ := scans_numeral.covers scanned
        exact .numeral numeral (shown.trans whole)

/-! ## Values that are kept -/

/-- Whatever the reader takes is a tree. -/
def Covers {α : Type} (read : Reader α) : Prop :=
  ∀ ⦃s x rest⦄, read s = .ok (x, rest) → Leaves s rest

private theorem Leaves.of_readChars {text : List Char} (shown : skipBlanks s = '"' :: s')
    (read : readChars s' = .ok (text, rest)) : Leaves s rest := by
  obtain ⟨raw, spells, rfl⟩ := exists_spells read
  exact .text spells.shape shown

private theorem Leaves.of_readNumber {n : Number} (shown : skipBlanks s = s')
    (read : readNumber s' = .ok (n, rest)) : Leaves s rest := by
  obtain ⟨raw, numeral, rfl⟩ := exists_numeral read
  exact .numeral numeral shown

variable {α β : Type}

theorem Covers.map {read : Reader α} (covers : Covers read) (f : α → β) :
    Covers fun s => (read s).map fun (x, rest) => (f x, rest) := by
  intro s y rest taken
  obtain ⟨⟨_, _⟩, taken, ⟨⟩⟩ := map_eq_ok.mp taken
  exact covers taken

theorem covers_readBoolean : Covers readBoolean := by
  intro s b rest taken
  unfold readBoolean at taken
  split at taken
  next shown =>
    obtain ⟨_, word, ⟨⟩⟩ := map_eq_ok.mp taken
    exact .yes shown word
  next shown =>
    obtain ⟨_, word, ⟨⟩⟩ := map_eq_ok.mp taken
    exact .no shown word
  next => cases taken

theorem covers_readText : Covers readText := by
  intro s text rest taken
  unfold readText at taken
  split at taken
  next shown =>
    obtain ⟨⟨_, _⟩, read, ⟨⟩⟩ := map_eq_ok.mp taken
    exact .of_readChars shown read
  next => cases taken

theorem covers_readNatural (expected : String) (bound : Nat) :
    Covers (readNatural expected bound) := by
  intro s n rest taken
  unfold readNatural at taken
  split at taken
  next => cases taken
  next c s₁ shown =>
    split_ifs at taken with begins
    · split at taken
      next => cases taken
      next => cases taken
      next read =>
        split_ifs at taken
        cases taken
        exact .of_readNumber shown read

private theorem leavesItems_of_readItems {item : Reader α} (covers : Covers item) {n : Nat}
    {xs : List α}
    (taken : readItems item n first s = .ok (xs, rest)) : LeavesItems first s rest := by
  induction n generalizing first s xs with
  | zero => cases taken
  | succ n ih =>
    obtain ⟨_ | s₁, found, taken⟩ := bind_eq_ok.mp taken
    · cases taken
      exact leavesItems_of_nextItem found
    · obtain ⟨⟨x, s₂⟩, here, taken⟩ := bind_eq_ok.mp taken
      obtain ⟨⟨xs, s₃⟩, more, ⟨⟩⟩ := bind_eq_ok.mp taken
      exact .item (nextItem_eq_some found) (covers here) (ih more)

private theorem leavesMembers_of_readEntries {item : Reader α} (covers : Covers item) {n : Nat}
    {entries : List (String × α)}
    (taken : readEntries item n first s = .ok (entries, rest)) : LeavesMembers first s rest := by
  induction n generalizing first s entries with
  | zero => cases taken
  | succ n ih =>
    obtain ⟨_ | ⟨name, s₁⟩, found, taken⟩ := bind_eq_ok.mp taken
    · cases taken
      exact leavesMembers_of_nextName found
    · obtain ⟨s₂, colon, taken⟩ := bind_eq_ok.mp taken
      obtain ⟨⟨x, s₃⟩, here, taken⟩ := bind_eq_ok.mp taken
      obtain ⟨⟨xs, s₄⟩, more, ⟨⟩⟩ := bind_eq_ok.mp taken
      exact .named found colon (covers here) (ih more)

theorem covers_readMap {item : Nat → Reader α} (covers : ∀ depth, Covers (item depth))
    (depth : Nat) : Covers (readMap item depth) := by
  intro s entries rest taken
  unfold readMap at taken
  split at taken
  next shown =>
    cases depth with
    | zero => cases taken
    | succ depth => exact .object shown (leavesMembers_of_readEntries (covers depth) taken)
  next => cases taken

private theorem covers_readValueWith {list object : Reader Value}
    (lists : ∀ {s x rest}, list s = .ok (x, rest) → LeavesItems true s rest)
    (objects : ∀ {s x rest}, object s = .ok (x, rest) → LeavesMembers true s rest) :
    Covers (readValueWith list object) := by
  intro s v rest taken
  unfold readValueWith at taken
  split at taken
  next => cases taken
  next shown =>
    obtain ⟨_, word, ⟨⟩⟩ := map_eq_ok.mp taken
    exact .null shown word
  next shown =>
    obtain ⟨_, word, ⟨⟩⟩ := map_eq_ok.mp taken
    exact .yes shown word
  next shown =>
    obtain ⟨_, word, ⟨⟩⟩ := map_eq_ok.mp taken
    exact .no shown word
  next shown =>
    obtain ⟨⟨_, _⟩, read, ⟨⟩⟩ := map_eq_ok.mp taken
    exact .of_readChars shown read
  next shown => exact .list shown (lists taken)
  next shown => exact .object shown (objects taken)
  next shown =>
    split_ifs at taken with begins
    · obtain ⟨⟨_, _⟩, read, ⟨⟩⟩ := map_eq_ok.mp taken
      exact .of_readNumber shown read

theorem covers_readValue (depth : Nat) : Covers (readValue depth) := by
  induction depth with
  | zero => exact covers_readValueWith (fun taken => by cases taken) (fun taken => by cases taken)
  | succ depth ih =>
    refine covers_readValueWith (fun taken => ?_) (fun taken => ?_)
    · obtain ⟨⟨_, _⟩, items, ⟨⟩⟩ := map_eq_ok.mp taken
      exact leavesItems_of_readItems ih items
    · obtain ⟨⟨_, _⟩, entries, ⟨⟩⟩ := map_eq_ok.mp taken
      exact leavesMembers_of_readEntries ih entries

/-! ## Records -/

section

variable {σ : Type} {fields : List (Field σ)} {depth : Nat} {record record' : σ}

private theorem leavesMembers_of_readNamed (covers : ∀ field ∈ fields, Covers (field.read depth))
    {n : Nat} {seen : List String}
    (taken : readNamed fields depth n first seen record s = .ok (record', rest)) :
    LeavesMembers first s rest := by
  induction n generalizing first seen record s with
  | zero => cases taken
  | succ n ih =>
    obtain ⟨_ | ⟨name, s₁⟩, found, taken⟩ := bind_eq_ok.mp taken
    · cases taken
      exact leavesMembers_of_nextName found
    · cases known : field? fields (String.ofList name) with
      | none =>
        simp only [known] at taken
        obtain ⟨s₂, colon, taken⟩ := bind_eq_ok.mp taken
        obtain ⟨s₃, skipped, more⟩ := bind_eq_ok.mp taken
        exact .named found colon (leaves_of_skipValue skipped) (ih more)
      | some field =>
        simp only [known] at taken
        split_ifs at taken
        · obtain ⟨_, ⟨⟩, _⟩ := bind_eq_ok.mp taken
        obtain ⟨s₂, colon, taken⟩ := bind_eq_ok.mp taken
        obtain ⟨⟨set, s₃⟩, read, more⟩ := bind_eq_ok.mp taken
        exact .named found colon (covers field (List.mem_of_find?_eq_some known) read) (ih more)

private theorem leavesItems_of_readPositional (covers : ∀ field ∈ fields, Covers (field.read depth))
    (taken : readPositional depth fields first record s = .ok (record', rest)) :
    LeavesItems first s rest := by
  induction fields generalizing first record s with
  | nil =>
    obtain ⟨_, closed, ⟨⟩⟩ := map_eq_ok.mp taken
    unfold closeList at closed
    split at closed
    next => cases closed
    next shown =>
      cases closed
      exact .close shown
    next => split at closed <;> cases closed
    next => cases closed
  | cons field fields ih =>
    obtain ⟨_ | s₁, found, taken⟩ := bind_eq_ok.mp taken
    · cases taken
      exact leavesItems_of_nextItem found
    · obtain ⟨⟨set, s₂⟩, here, more⟩ := bind_eq_ok.mp taken
      exact .item (nextItem_eq_some found) (covers field List.mem_cons_self here)
        (ih (fun field mem => covers field (List.mem_cons_of_mem _ mem)) more)

theorem covers_readRecord (title : String) (default : σ)
    (covers : ∀ field ∈ fields, ∀ depth, Covers (field.read depth)) (depth : Nat) :
    Covers (readRecord title fields default depth) := by
  intro s record rest taken
  unfold readRecord at taken
  split at taken
  next shown =>
    cases depth with
    | zero => cases taken
    | succ depth =>
      exact .list shown
        (leavesItems_of_readPositional (fun field mem => covers field mem depth) taken)
  next shown =>
    cases depth with
    | zero => cases taken
    | succ depth =>
      exact .object shown
        (leavesMembers_of_readNamed (fun field mem => covers field mem depth) taken)
  next => cases taken

end

end Json

end Intake
