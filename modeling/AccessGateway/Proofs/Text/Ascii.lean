import AccessGateway.Proofs.Text.Decoding
import AccessGateway.Text.Ascii
import Mathlib.Tactic.SplitIfs

/-
  ASCII among octets. An octet below 80 is a character of its own and part of no other one
  (`Utf8.toNat_of_mem_encodeChar`), and the octets of an ASCII text are its characters
  (`Utf8.encode_of_ascii`). So octets show whether they write something readable
  (`Utf8.all_isReadable_encode`).
-/

namespace AccessGateway

namespace Ascii

theorem toNat_of_isReadable {c : Char} (h : isReadable c = true) :
    c = '\t' ∨ 0x20 ≤ c.toNat ∧ c.toNat < 0x7F := by
  simp only [isReadable, Bool.or_eq_true, beq_iff_eq, Bool.and_eq_true, decide_eq_true_eq,
    Char.le_def, UInt32.le_iff_toNat_le] at h
  have hval : c.toNat = c.val.toNat := rfl
  have hspace : ' '.val.toNat = 0x20 := rfl
  have htilde : '~'.val.toNat = 0x7E := rfl
  refine h.imp_right fun h => ?_
  omega

theorem toNat_lt_of_isReadable {c : Char} (h : isReadable c = true) : c.toNat < 0x80 := by
  rcases toNat_of_isReadable h with rfl | ⟨-, hmost⟩
  · decide
  · omega

/-- The character whose number an octet is. -/
def ofOctet (b : UInt8) : Char := Char.ofNat b.toNat

theorem toNat_ofOctet (b : UInt8) : (ofOctet b).toNat = b.toNat :=
  Utf8.toNat_ofNat (.inl (Nat.lt_of_lt_of_le b.toNat_lt (by decide)))

theorem ofOctet_ofNat {c : Char} (h : c.toNat < 0x80) : ofOctet (UInt8.ofNat c.toNat) = c := by
  rw [ofOctet, Base64.toNat_octet (by omega), Char.ofNat_toNat]

end Ascii

namespace Utf8

theorem encodeChar_ne_nil (c : Char) : encodeChar c ≠ [] := by
  unfold encodeChar
  simp only
  split_ifs <;> simp

/-- An octet below 80 is a character of its own. -/
theorem toNat_of_mem_encodeChar {c : Char} {b : UInt8} (h : b ∈ encodeChar c) :
    b.toNat = c.toNat ∨ 0x80 ≤ b.toNat := by
  have hvalid := toNat_valid c
  have octet : ∀ k, k < 256 → (UInt8.ofNat k).toNat = k := fun k hk => by
    simpa using Nat.mod_eq_of_lt hk
  unfold encodeChar at h
  simp only at h
  generalize c.toNat = n at h hvalid
  split_ifs at h with h1 h2 h3
  · obtain rfl := List.mem_singleton.1 h
    exact Or.inl (octet n (by omega))
  · simp only [List.mem_cons, List.not_mem_nil, or_false] at h
    rcases h with rfl | rfl <;> exact Or.inr (by rw [octet _ (by omega)]; omega)
  · simp only [List.mem_cons, List.not_mem_nil, or_false] at h
    rcases h with rfl | rfl | rfl <;> exact Or.inr (by rw [octet _ (by omega)]; omega)
  · simp only [List.mem_cons, List.not_mem_nil, or_false] at h
    rcases h with rfl | rfl | rfl | rfl <;> exact Or.inr (by rw [octet _ (by omega)]; omega)

/-- The octets of a text in ASCII are its characters. -/
theorem encode_of_ascii {cs : List Char} (h : ∀ c ∈ cs, c.toNat < 0x80) :
    encode cs = cs.map fun c => UInt8.ofNat c.toNat := by
  induction cs with
  | nil => rfl
  | cons c r ih =>
    obtain ⟨hc, hr⟩ := List.forall_mem_cons.1 h
    rw [encode, List.flatMap_cons, ← encode, ih hr, encodeChar, if_pos hc]
    rfl

theorem map_ofOctet_encode {cs : List Char} (h : ∀ c ∈ cs, c.toNat < 0x80) :
    (encode cs).map Ascii.ofOctet = cs := by
  rw [encode_of_ascii h, List.map_map]
  refine (List.map_congr_left fun c hc => ?_).trans (List.map_id cs)
  exact Ascii.ofOctet_ofNat (h c hc)

/-- Text is readable exactly if each of its octets is, taken as a character. -/
theorem all_isReadable_encode (cs : List Char) :
    ((encode cs).map Ascii.ofOctet).all Ascii.isReadable = cs.all Ascii.isReadable := by
  rw [Bool.eq_iff_iff]
  constructor
  · intro h
    rw [List.all_eq_true] at h ⊢
    intro c hc
    obtain ⟨b, bs, hbs⟩ := List.exists_cons_of_ne_nil (encodeChar_ne_nil c)
    have hb : b ∈ encodeChar c := hbs ▸ List.mem_cons_self
    have hread := h _ (List.mem_map_of_mem (List.mem_flatMap.2 ⟨c, hc, hb⟩))
    rcases toNat_of_mem_encodeChar hb with hown | hpart
    · rwa [Ascii.ofOctet, hown, Char.ofNat_toNat] at hread
    · have hsmall := Ascii.toNat_lt_of_isReadable hread
      rw [Ascii.toNat_ofOctet] at hsmall
      omega
  · intro h
    rw [map_ofOctet_encode fun c hc => Ascii.toNat_lt_of_isReadable (List.all_eq_true.1 h c hc)]
    exact h

end Utf8

end AccessGateway
