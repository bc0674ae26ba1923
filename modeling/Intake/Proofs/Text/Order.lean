import Mathlib.Data.String.Basic
import Intake.Proofs.Text.Variables

/-!
# The order of texts

Texts are compared character by character. Their bytes compare in the same way: of two different
characters, the bytes of the smaller one are smaller at the first place where the two differ, and
neither form ends before that place.
-/

namespace Intake

namespace Bytes

private theorem ofText_eq_flatMap (text : String) :
    ofText text = text.toList.flatMap String.utf8EncodeChar := by
  have bytes : text.toByteArray = (text.toList.flatMap String.utf8EncodeChar).toByteArray := by
    conv_lhs => rw [← String.ofList_toList (s := text), String.toByteArray_ofList]
    rfl
  rw [ofText]
  change text.toByteArray.toList = _
  rw [bytes, ByteArray.toList, toList_loop, List.data_toByteArray]
  rfl

/-- Of two numbers in the form of four bytes, the smaller one is less at the first place where they
differ. -/
private theorem fours_lt {m n : Nat} (less : m < n) (bound : n < 2 ^ 21) (u v : Bytes) :
    UInt8.ofNat (m / 262144 % 8 + 240) :: UInt8.ofNat (m / 4096 % 64 + 128) ::
        UInt8.ofNat (m / 64 % 64 + 128) :: UInt8.ofNat (m % 64 + 128) :: u <
      UInt8.ofNat (n / 262144 % 8 + 240) :: UInt8.ofNat (n / 4096 % 64 + 128) ::
        UInt8.ofNat (n / 64 % 64 + 128) :: UInt8.ofNat (n % 64 + 128) :: v := by
  have digits (k : Nat) (small : k < 2 ^ 21) : ∃ a b c d, k / 262144 % 8 = a ∧ k / 4096 % 64 = b ∧
      k / 64 % 64 = c ∧ k % 64 = d ∧ a < 8 ∧ b < 64 ∧ c < 64 ∧ d < 64 ∧
      k = a * 262144 + b * 4096 + c * 64 + d :=
    ⟨_, _, _, _, rfl, rfl, rfl, rfl, by omega, by omega, by omega, by omega, by omega⟩
  obtain ⟨a, b, c, d, first, second, third, fourth, _, _, _, _, sum⟩ := digits m (by omega)
  obtain ⟨a', b', c', d', first', second', third', fourth', _, _, _, _, sum'⟩ := digits n bound
  rw [first, second, third, fourth, first', second', third', fourth']
  clear first second third fourth first' second' third' fourth'
  simp only [List.cons_lt_cons_iff, UInt8.lt_iff_toNat_lt, ← UInt8.toNat_inj, UInt8.toNat_ofNat']
  omega

/-- A smaller character has smaller bytes, whatever follows them. -/
private theorem encode_append_lt {a b : Char} (less : a < b) (u v : Bytes) :
    String.utf8EncodeChar a ++ u < String.utf8EncodeChar b ++ v := by
  have values : a.val.toNat < b.val.toNat := less
  have bound : b.val.toNat < 0x110000 := b.valid.elim (fun low => by omega) And.right
  simp only [String.utf8EncodeChar]
  by_cases four : 65535 < a.val.toNat
  · rw [if_neg (by omega), if_neg (by omega), if_neg (by omega), if_neg (by omega),
      if_neg (by omega), if_neg (by omega)]
    exact fours_lt values (by omega) u v
  · -- of different lengths, or at most three bytes each
    split_ifs <;>
      simp only [List.cons_append, List.cons_lt_cons_iff, UInt8.lt_iff_toNat_lt,
        ← UInt8.toNat_inj, UInt8.toNat_ofNat'] <;>
      omega

theorem ofText_lt_of_lt {a b : String} (less : a < b) : ofText a < ofText b := by
  rw [ofText_eq_flatMap, ofText_eq_flatMap]
  replace less := String.lt_iff_toList_lt.mp less
  generalize a.toList = s at less ⊢
  generalize b.toList = t at less ⊢
  induction s generalizing t with
  | nil =>
    cases t with
    | nil => exact absurd less (List.lt_irrefl [])
    | cons d t =>
      obtain ⟨byte, bytes, written⟩ :=
        List.exists_cons_of_ne_nil (String.utf8EncodeChar_ne_nil (c := d))
      rw [List.flatMap_nil, List.flatMap_cons, written]
      exact List.nil_lt_cons byte _
  | cons c s ih =>
    cases t with
    | nil => exact absurd less (List.not_lt_nil _)
    | cons d t =>
      rw [List.flatMap_cons, List.flatMap_cons]
      obtain before | ⟨rfl, rest⟩ := List.cons_lt_cons_iff.mp less
      · exact encode_append_lt before _ _
      · exact List.append_left_lt (ih t rest)

/-- Texts are in the order of their bytes. -/
theorem ofText_lt_iff {a b : String} : ofText a < ofText b ↔ a < b := by
  refine ⟨fun less => ?_, ofText_lt_of_lt⟩
  obtain before | rfl | after := lt_trichotomy a b
  · exact before
  · exact absurd less (List.lt_irrefl _)
  · exact absurd less (List.lt_asymm (ofText_lt_of_lt after))

end Bytes

end Intake
