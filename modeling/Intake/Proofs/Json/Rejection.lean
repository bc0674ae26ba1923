import Intake.Proofs.Json.Record

/-!
# Written texts that are refused

A whole number is never taken for another one: one that is too large for its type is refused,
whether or not it fits in 64 bits. A record is refused with the first of its fields that is, and so
is whatever the record stands in.
-/

namespace Intake

namespace Json

variable {α : Type}

/-- The reader refuses the text, with blanks before it or not, so long as what follows does not go
on with a numeral. -/
def Rejects (read : Reader α) (text : List Char) : Prop :=
  ∀ gap rest, Blank gap → Ends rest → ∃ problem, read (gap ++ (text ++ rest)) = .error problem

/-- A reader that passes over blanks needs to refuse the text only from its first character on. -/
private theorem Rejects.of_opens {read : Reader α} (skips : ∀ s, read s = read (skipBlanks s))
    {text : List Char} (opens : Opens text)
    (rejects : ∀ rest, Ends rest → ∃ problem, read (text ++ rest) = .error problem) :
    Rejects read text := by
  intro gap rest blank ends
  obtain ⟨c, tail, rfl, solid, _⟩ := opens
  rw [skips, List.cons_append, blank.skip solid]
  exact rejects rest ends

theorem Rejects.whole {read : Reader α} {text : List Char} (rejects : Rejects read text) :
    ∃ problem, read text = .error problem := by
  simpa using rejects [] [] Blank.nil trivial

theorem Rejects.map {β : Type} {read : Reader α} {text : List Char} (rejects : Rejects read text)
    (f : α → β) : Rejects (fun s => (read s).map fun (a, rest) => (f a, rest)) text := by
  intro gap rest blank ends
  obtain ⟨problem, refused⟩ := rejects gap rest blank ends
  exact ⟨problem, by dsimp only; rw [refused]; rfl⟩

/-! ## Numbers -/

/-- Digits that are all taken in write a number that fits in 64 bits. -/
private theorem foldl_lt_of_absorb {digits : List Nat} {significand : Nat}
    (small : significand < Nat.pow 2 64) (taken : (absorb significand digits).2 = []) :
    digits.foldl (fun n d => n * 10 + d) significand < Nat.pow 2 64 := by
  induction digits generalizing significand with
  | nil => exact small
  | cons d digits ih =>
    rw [absorb] at taken
    split_ifs at taken with fits
    exact ih fits taken

/-- A whole number that does not fit in 64 bits is read as a double, or not at all. -/
private theorem number?_decimal_of_le {n : Nat} (large : Nat.pow 2 64 ≤ n) (m : Int) :
    Numeral.number? ⟨false, (decimal n).map digit, none, none⟩ ≠ some (.integer m) := by
  have left : (absorb 0 ((decimal n).map digit)).2 ≠ [] := by
    intro taken
    have fits : ofDigits ((decimal n).map digit) < Nat.pow 2 64 :=
      foldl_lt_of_absorb (by decide) taken
    rw [ofDigits_decimal] at fits
    omega
  simp only [Numeral.number?]
  split
  · contradiction
  · rw [ne_eq, Option.map_eq_some_iff]
    rintro ⟨_, _, real⟩
    cases real

/-- If a written whole number is read as an integer, then as that number. -/
private theorem eq_of_readNumber_decimal {n : Nat} {m : Int} {rest rest' : List Char}
    (ends : Ends rest)
    (read : readNumber (decimal n ++ rest) = .ok (.integer m, rest')) : m = n := by
  by_cases fits : n < 2 ^ 64
  · rw [decimal_eq_printInteger, readNumber_printInteger (by omega) (by omega) ends] at read
    cases read
    rfl
  · have scanned := scanNumeral_printInteger .endInValue n ends
    rw [← decimal_eq_printInteger, Int.natAbs_natCast, decide_eq_false (by omega)] at scanned
    simp only [readNumber, bind, Except.bind, scanned] at read
    split at read
    · cases read
      exact absurd ‹_› (number?_decimal_of_le (Nat.not_lt.mp fits) m)
    · cases read

/-- A whole number is refused by a type that does not have it. -/
theorem rejects_natural (expected : String) {n bound : Nat} (beyond : bound ≤ n) :
    Rejects (readNatural expected bound) (decimal n) := by
  obtain ⟨c, tail, written, first⟩ := decimal_eq_digit_cons n
  have opens : Opens (decimal n) := decimal_eq_printInteger n ▸ opens_printInteger n
  refine Rejects.of_opens (fun s => ?_) opens fun rest ends => ?_
  · simp only [readNatural, mismatch, skipBlanks_skipBlanks]
  · have value (m : Int) (rest' : List Char)
        (read : readNumber (decimal n ++ rest) = .ok (.integer m, rest')) : m = n :=
      eq_of_readNumber_decimal ends read
    rw [written, List.cons_append] at value ⊢
    simp only [readNatural, skipBlanks_cons (solid_of_number (.inr first)), first, Bool.or_true,
      ↓reduceIte]
    split
    · exact ⟨_, rfl⟩
    · exact ⟨_, rfl⟩
    · next m rest' read =>
      obtain rfl := value m rest' read
      exact ⟨_, if_neg (by omega)⟩

/-! ## Maps -/

/-- A map is refused with its entry. -/
theorem rejects_map {gap : List Char} (blank : Blank gap) {item : Nat → Reader α} {depth : Nat}
    (name : String) {text : List Char} (rejects : Rejects (item depth) text) :
    Rejects (readMap item (depth + 1)) (spacedObject gap [spacedField gap name text]) := by
  refine Rejects.of_opens (fun s => ?_) (opens_spacedObject gap _) fun rest _ => ?_
  · simp only [readMap, mismatch, skipBlanks_skipBlanks]
  · obtain ⟨problem, refused⟩ := rejects gap _ blank (ends_spaced gap [] (ends_brace rest))
    refine ⟨problem, ?_⟩
    rw [spacedObject_append, spaced, spacedField, List.append_assoc, List.append_assoc,
      List.append_assoc, List.cons_append, List.append_assoc]
    change readEntries (item depth) _ true _ = _
    simp only [readEntries, nextName_lead blank true, bind, Except.bind, skipColon_cons, refused]

/-! ## Records -/

variable {σ : Type}

/-- A field that is written is refused at the given depth. -/
def Filled.Rejects (depth : Nat) (filled : Filled σ) : Prop :=
  Json.Rejects (filled.field.read depth) filled.text

/-- Of known fields, the first that is refused is where the record is. -/
private theorem readNamed_rejects {gap : List Char} (blank : Blank gap) {fields : List (Field σ)}
    {depth : Nat} (rest : List Char) {filled : List (Filled σ)} (n : Nat) (first : Bool)
    (seen : List String) (record : σ)
    (known : ∀ f ∈ filled, field? fields f.field.name = some f.field)
    (each : ∀ f ∈ filled, f.Reads depth ∨ f.Rejects depth)
    (refused : ∃ f ∈ filled, f.Rejects depth) :
    ∃ problem, readNamed fields depth n first seen record
      (spaced gap first (filled.map (Filled.written gap)) ++ '\x7d' :: rest) = .error problem := by
  induction filled generalizing n first seen record with
  | nil => exact absurd refused (by simp)
  | cons f filled ih =>
    cases n with
    | zero => exact ⟨_, rfl⟩
    | succ n =>
      have found := known f List.mem_cons_self
      have ends := ends_spaced gap (filled.map (Filled.written gap)) (ends_brace rest)
      rw [List.map_cons, spaced, Filled.written, spacedField, List.append_assoc, List.append_assoc,
        List.append_assoc, List.cons_append, List.append_assoc, readNamed]
      by_cases again : f.field.name ∈ seen
      · simp only [nextName_lead blank first, bind, Except.bind, String.ofList_toList, found, again,
          ↓reduceIte]
        exact ⟨_, rfl⟩
      by_cases here : f.Rejects depth
      · obtain ⟨problem, bad⟩ := here gap _ blank ends
        exact ⟨problem, by simp only [nextName_lead blank first, bind, Except.bind,
          String.ofList_toList, found, again, ↓reduceIte, skipColon_cons, bad]⟩
      -- This field is read, so one of those behind it is refused.
      · have good := (each f List.mem_cons_self).resolve_right here gap _ blank ends
        obtain ⟨g, mem, bad⟩ := refused
        obtain rfl | mem := List.mem_cons.mp mem
        · exact absurd bad here
        obtain ⟨problem, more⟩ := ih n false (f.field.name :: seen) (f.set record)
          (fun g mem => known g (List.mem_cons_of_mem f mem))
          (fun g mem => each g (List.mem_cons_of_mem f mem)) ⟨g, mem, bad⟩
        exact ⟨problem, by simp only [nextName_lead blank first, bind, Except.bind,
          String.ofList_toList, found, again, ↓reduceIte, skipColon_cons, good, more]⟩

section

variable {gap : List Char} {title : String} {fields : List (Field σ)} {default : σ} {depth : Nat}
  {filled : List (Filled σ)}

/-- A record that is written with some of its fields, in any order, is made of their values and of
what reading starts from. -/
theorem reads_fields (blank : Blank gap) (distinct : (fields.map Field.name).Nodup)
    (known : ∀ f ∈ filled, f.field ∈ fields) (once : (filled.map fun f => f.field.name).Nodup)
    (reads : ∀ f ∈ filled, f.Reads depth) :
    Reads (readRecord title fields default (depth + 1))
      (spacedObject gap (filled.map (Filled.written gap))) (fill filled default) := by
  refine Reads.of_opens (fun s => ?_) (opens_spacedObject gap _) fun rest _ => ?_
  · simp only [readRecord, mismatch, skipBlanks_skipBlanks]
  · rw [spacedObject_append]
    exact readNamed_spaced blank rest (length_le_closed ..) true default
      (fun f mem => field?_of_mem distinct (known f mem)) once (fun _ _ => List.not_mem_nil) reads

/-- A record is refused if one of its fields is. -/
theorem rejects_fields (blank : Blank gap) (distinct : (fields.map Field.name).Nodup)
    (known : ∀ f ∈ filled, f.field ∈ fields)
    (each : ∀ f ∈ filled, f.Reads depth ∨ f.Rejects depth)
    (refused : ∃ f ∈ filled, f.Rejects depth) :
    Rejects (readRecord title fields default (depth + 1))
      (spacedObject gap (filled.map (Filled.written gap))) := by
  refine Rejects.of_opens (fun s => ?_) (opens_spacedObject gap _) fun rest _ => ?_
  · simp only [readRecord, mismatch, skipBlanks_skipBlanks]
  · rw [spacedObject_append]
    exact readNamed_rejects blank rest _ true [] default
      (fun f mem => field?_of_mem distinct (known f mem)) each refused

end

end Json

end Intake
