import AccessGateway.Authentication.Basic
import Mathlib.Data.Nat.Bitwise

/-
  Comparison of octets in constant time. The differences that are gathered are zero exactly if
  there is none: equal lengths make the pairs cover both lists (`constantTimeEq_iff`). A machine
  gathers them in a word. As long as the word has room for an octet and for the two lengths, nothing
  of the number is lost (`toNat_wordDifferences`), and the comparison comes to the same.
-/

namespace AccessGateway

/-- The differences of octets and of the lengths, gathered in a word of `w` bits. -/
def wordDifferences (w : Nat) (expected given : List UInt8) : BitVec w :=
  (expected.zip given).foldl (fun acc p => acc ||| (p.1 ^^^ p.2).toBitVec.setWidth w)
    (BitVec.ofNat w expected.length ^^^ BitVec.ofNat w given.length)

/-! ## Gathering -/

/-- Gathered differences are zero exactly if each of them is. -/
theorem foldl_or_eq_zero_iff {α : Type} (f : α → Nat) (l : List α) (n : Nat) :
    l.foldl (fun acc x => acc ||| f x) n = 0 ↔ n = 0 ∧ ∀ x ∈ l, f x = 0 := by
  induction l generalizing n with
  | nil => simp
  | cons x r ih =>
    rw [List.foldl_cons, ih, Nat.or_eq_zero_iff, List.forall_mem_cons, and_assoc]

theorem difference_eq_zero_iff (a b : UInt8) : (a ^^^ b).toNat = 0 ↔ a = b := by
  rw [← UInt8.toNat_zero, UInt8.toNat_inj, UInt8.xor_eq_zero_iff]

/-- Lists are equal exactly if they have one length and equal pairs. -/
theorem eq_iff_zip_eq {a b : List UInt8} :
    a = b ↔ a.length = b.length ∧ ∀ p ∈ a.zip b, p.1 = p.2 := by
  induction a generalizing b with
  | nil => cases b <;> simp
  | cons x r ih =>
    cases b with
    | nil => simp
    | cons y s =>
      rw [List.cons.injEq, ih, List.zip_cons_cons, List.forall_mem_cons, List.length_cons,
        List.length_cons, Nat.add_right_cancel_iff, and_left_comm]

theorem constantTimeEq_iff {a b : List UInt8} : constantTimeEq a b = true ↔ a = b := by
  unfold constantTimeEq
  rw [beq_iff_eq, foldl_or_eq_zero_iff, Nat.xor_eq_zero_iff, eq_iff_zip_eq]
  simp only [difference_eq_zero_iff]

/-! ## Words -/

section Words

variable {w : Nat}

/-- A word with room for an octet takes the whole octet in. -/
theorem toNat_or_octet (hw : 8 ≤ w) (acc : BitVec w) (d : UInt8) :
    (acc ||| d.toBitVec.setWidth w).toNat = acc.toNat ||| d.toNat := by
  have hd : d.toNat < 2 ^ w := Nat.lt_of_lt_of_le d.toNat_lt (Nat.pow_le_pow_right (by decide) hw)
  rw [BitVec.toNat_or, BitVec.toNat_setWidth, UInt8.toNat_toBitVec, Nat.mod_eq_of_lt hd]

theorem toNat_foldl_or_octet {α : Type} (hw : 8 ≤ w) (f : α → UInt8) (l : List α)
    (acc : BitVec w) :
    (l.foldl (fun acc x => acc ||| (f x).toBitVec.setWidth w) acc).toNat =
      l.foldl (fun n x => n ||| (f x).toNat) acc.toNat := by
  induction l generalizing acc with
  | nil => rfl
  | cons x r ih => rw [List.foldl_cons, List.foldl_cons, ih, toNat_or_octet hw]

/-- Nothing of the gathered number is lost in a word that the lengths fit into. -/
theorem toNat_wordDifferences (hw : 8 ≤ w) {a b : List UInt8} (ha : a.length < 2 ^ w)
    (hb : b.length < 2 ^ w) :
    (wordDifferences w a b).toNat =
      (a.zip b).foldl (fun acc p => acc ||| (p.1 ^^^ p.2).toNat) (a.length ^^^ b.length) := by
  rw [wordDifferences, toNat_foldl_or_octet hw, BitVec.toNat_xor, BitVec.toNat_ofNat,
    BitVec.toNat_ofNat, Nat.mod_eq_of_lt ha, Nat.mod_eq_of_lt hb]

theorem wordDifferences_eq_zero_iff (hw : 8 ≤ w) {a b : List UInt8} (ha : a.length < 2 ^ w)
    (hb : b.length < 2 ^ w) : wordDifferences w a b = 0#w ↔ constantTimeEq a b = true := by
  rw [← BitVec.toNat_inj, toNat_wordDifferences hw ha hb, BitVec.toNat_zero, constantTimeEq,
    beq_iff_eq]

end Words

/-- Lists are found equal exactly if they are. Lists of different lengths are not, not even if one
of them begins with all of the other. A machine finds the same in every word that has room for an
octet and for the lengths. -/
theorem constantTimeEq_exactly (a b : List UInt8) :
    (constantTimeEq a b = true ↔ a = b) ∧
    (a.length ≠ b.length → constantTimeEq a b = false) ∧
    (∀ d more, constantTimeEq a (a ++ d :: more) = false ∧
      constantTimeEq (a ++ d :: more) a = false) ∧
    (∀ w, 8 ≤ w → a.length < 2 ^ w → b.length < 2 ^ w →
      (wordDifferences w a b = 0#w ↔ a = b)) := by
  have hlength : ∀ x y : List UInt8, x.length ≠ y.length → constantTimeEq x y = false := by
    intro x y hne
    rw [Bool.eq_false_iff, ne_eq, constantTimeEq_iff]
    exact fun h => hne (congrArg List.length h)
  refine ⟨constantTimeEq_iff, hlength a b, ?_, ?_⟩
  · intro d more
    have hlonger : a.length < (a ++ d :: more).length := by simp
    exact ⟨hlength _ _ hlonger.ne, hlength _ _ hlonger.ne'⟩
  · intro w hw ha hb
    rw [wordDifferences_eq_zero_iff hw ha hb, constantTimeEq_iff]

end AccessGateway
