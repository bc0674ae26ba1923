import Mathlib.Logic.Function.Basic
import Intake.Fixture
import Intake.Proofs.Text.Variables

/-!
# Fixtures do not get in each other's way

What a fixture makes is taken apart again at its first dashes: a first part without a dash ends at
the dash behind it, and so does the seed, whatever stands in the last part. So the names and the
bodies of two tests with different seeds are different.
-/

namespace Intake

/-- Different texts have different bytes. -/
private theorem Bytes.ofText_injective : Function.Injective Bytes.ofText := by
  intro a b same
  have spelled := congrArg Bytes.text? same
  rw [text?_ofText, text?_ofText] at spelled
  exact Option.some.inj spelled

/-- A list without a mark ends at the first mark behind it. -/
private theorem append_mark_inj {α : Type} {mark : α} {a b s t : List α} (plain : mark ∉ a)
    (plain' : mark ∉ b) : a ++ mark :: s = b ++ mark :: t ↔ a = b ∧ s = t := by
  induction a generalizing b with
  | nil =>
    cases b with
    | nil => simp
    | cons c b =>
      have other : mark ≠ c := fun same => plain' (same ▸ List.mem_cons_self)
      simp [other]
  | cons c a ih =>
    cases b with
    | nil =>
      have other : c ≠ mark := fun same => plain (same ▸ List.mem_cons_self)
      simp [other]
    | cons d b =>
      have rest := ih (fun mem => plain (List.mem_cons_of_mem c mem))
        (fun mem => plain' (List.mem_cons_of_mem d mem))
      rw [List.cons_append, List.cons_append, List.cons.injEq, rest, List.cons.injEq, and_assoc]

private theorem dash_notMem_decimal (n : Nat) : '-' ∉ decimal n := fun mem =>
  Bool.false_ne_true (Json.isDigit_of_mem_decimal mem)

private theorem decimal_inj {n m : Nat} : decimal n = decimal m ↔ n = m := by
  refine ⟨fun same => ?_, congrArg decimal⟩
  have read := congrArg (fun written => Json.ofDigits (written.map Json.digit)) same
  rwa [Json.ofDigits_decimal, Json.ofDigits_decimal] at read

namespace Fixture

private theorem toList_name (f : Fixture) (first last : String) : (f.name first last).toList =
    "test-".toList ++ (first.toList ++ '-' :: (decimal f.seed.toNat ++ '-' :: last.toList)) := by
  simp [name, decimal]

private theorem toList_body (f : Fixture) (n : Nat) : (f.body n).toList =
    "body-".toList ++ (decimal f.seed.toNat ++ '-' :: decimal n) := by
  simp [body, decimal]

private theorem toNat_seed_inj {f f' : Fixture} : f.seed.toNat = f'.seed.toNat ↔ f = f' := by
  rw [UInt64.toNat_inj]
  cases f
  cases f'
  simp

private theorem name_inj {f f' : Fixture} {first first' last last' : String}
    (plain : '-' ∉ first.toList) (plain' : '-' ∉ first'.toList) :
    f.name first last = f'.name first' last' ↔ first = first' ∧ f = f' ∧ last = last' := by
  rw [← String.toList_inj, toList_name, toList_name, List.append_cancel_left_eq,
    append_mark_inj plain plain',
    append_mark_inj (dash_notMem_decimal _) (dash_notMem_decimal _), String.toList_inj, decimal_inj,
    toNat_seed_inj, String.toList_inj]

private theorem body_inj {f f' : Fixture} {n n' : Nat} :
    f.body n = f'.body n' ↔ f = f' ∧ n = n' := by
  rw [← String.toList_inj, toList_body, toList_body, List.append_cancel_left_eq,
    append_mark_inj (dash_notMem_decimal _) (dash_notMem_decimal _), decimal_inj, decimal_inj,
    toNat_seed_inj]

/-- A body, as a text and as bytes, tells the fixture and the number it was made from; a name tells
the fixture and both parts it was made from, if there is no dash in the first. So tests with
different seeds share neither names nor bodies. -/
theorem seeds_keep_apart :
    (∀ (f f' : Fixture) (n n' : Nat),
      (f.body n = f'.body n' ↔ f = f' ∧ n = n') ∧
      (Bytes.ofText (f.body n) = Bytes.ofText (f'.body n') ↔ f = f' ∧ n = n')) ∧
    (∀ (f f' : Fixture) (first first' last last' : String), '-' ∉ first.toList →
      '-' ∉ first'.toList →
        (f.name first last = f'.name first' last' ↔ first = first' ∧ f = f' ∧ last = last')) ∧
    ∀ f f' : Fixture, f.seed ≠ f'.seed →
      (∀ n n' : Nat, Bytes.ofText (f.body n) ≠ Bytes.ofText (f'.body n')) ∧
      ∀ first first' last last' : String, '-' ∉ first.toList → '-' ∉ first'.toList →
        f.name first last ≠ f'.name first' last' := by
  refine ⟨fun f f' n n' => ⟨body_inj, ?_⟩, fun f f' first first' last last' => name_inj, ?_⟩
  · exact Bytes.ofText_injective.eq_iff.trans body_inj
  · intro f f' differ
    have others : f ≠ f' := fun same => differ (same ▸ rfl)
    refine ⟨fun n n' same => ?_, fun first first' last last' plain plain' same => ?_⟩
    · exact others (body_inj.mp (Bytes.ofText_injective same)).1
    · exact others ((name_inj plain plain').mp same).2.1

/-- With a dash in the first part, two tests may share a name. -/
example : name ⟨2⟩ "queue-1" "main" = name ⟨1⟩ "queue" "2-main" := by decide

/-- Parts that run on from each other: a seed that continues another one, and last parts with dashes
and digits in front. -/
theorem seeds_keep_apart_run_on :
    ('-' ∉ "queue".toList ∧ '-' ∉ "".toList ∧
      (⟨18446744073709551615⟩ : Fixture).seed ≠ (⟨1844674407370955161⟩ : Fixture).seed) ∧
    name ⟨18446744073709551615⟩ "queue" "1" ≠ name ⟨1844674407370955161⟩ "queue" "5-1" ∧
    name ⟨1844674407370955161⟩ "" "-" ≠ name ⟨18446744073709551615⟩ "" "" ∧
    Bytes.ofText (body ⟨18446744073709551615⟩ 1) ≠ Bytes.ofText (body ⟨1844674407370955161⟩ 51) ∧
    name ⟨18446744073709551615⟩ "queue" "1-1" ≠ name ⟨18446744073709551615⟩ "" "1" ∧
    body ⟨1844674407370955161⟩ 51 ≠ body ⟨1844674407370955161⟩ 5 := by
  have plain : '-' ∉ "queue".toList := by decide
  have empty : '-' ∉ "".toList := by decide
  have differ : (⟨18446744073709551615⟩ : Fixture).seed ≠
      (⟨1844674407370955161⟩ : Fixture).seed := by decide
  obtain ⟨bodies, names⟩ := seeds_keep_apart.2.2 _ _ differ
  refine ⟨⟨plain, empty, differ⟩, names _ _ _ _ plain plain, (names _ _ _ _ empty empty).symm,
    bodies _ _, fun same => ?_, fun same => ?_⟩
  · have first := ((seeds_keep_apart.2.1 _ _ _ _ _ _ plain empty).mp same).1
    exact absurd first (by decide)
  · have numbers := ((seeds_keep_apart.1 _ _ _ _).1.mp same).2
    exact absurd numbers (by decide)

end Fixture

end Intake
