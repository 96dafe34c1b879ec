import AccessGateway.Proofs.Text.Ascii
import AccessGateway.Text.Percent

/-
  A text with every octet percent-coded. It is read again as the text (`decodeText?_encodeAll`), so
  no two texts are coded alike, and it holds nothing but percent signs and hexadecimal digits
  (`all_encodeAll`), so it stands in a path as one piece.
-/

namespace AccessGateway

namespace Percent

/-- The characters of percent-coded octets. -/
def marks : List Char := "%0123456789ABCDEF".toList

theorem mem_marks_of_mem_encodeOctet {b : UInt8} {c : Char} (h : c ∈ encodeOctet b) :
    c ∈ marks := by
  have hdigit : ∀ n < 16, Ascii.hexDigitUpper n ∈ marks := by decide
  have hb : b.toNat < 256 := b.toNat_lt
  simp only [encodeOctet, List.mem_cons, List.not_mem_nil, or_false] at h
  rcases h with rfl | rfl | rfl
  · decide
  · exact hdigit _ (by omega)
  · exact hdigit _ (by omega)

/-- What is true of the percent sign and of the digits is true of everything in a text that is
percent-coded. -/
theorem all_encodeAll {p : Char → Bool} (hp : marks.all p = true) (s : String) :
    (encodeAll s).toList.all p = true := by
  rw [List.all_eq_true] at hp ⊢
  intro c hc
  rw [encodeAll, String.toList_ofList] at hc
  obtain ⟨b, -, hb⟩ := List.mem_flatMap.1 hc
  exact hp c (mem_marks_of_mem_encodeOctet hb)

theorem slash_notMem_encodeAll (s : String) : '/' ∉ (encodeAll s).toList := by
  have hother : (encodeAll s).toList.all (· != '/') = true := all_encodeAll (by decide) s
  intro h
  exact absurd (List.all_eq_true.1 hother '/' h) (by decide)

theorem decode_encodeOctet (b : UInt8) (r : List UInt8) :
    decode ((encodeOctet b).map (fun c => UInt8.ofNat c.toNat) ++ r) = b :: decode r := by
  have hb : b.toNat < 256 := b.toNat_lt
  have hread : ∀ n < 16, Ascii.hexValue? (Char.ofNat
      (UInt8.ofNat (Ascii.hexDigitUpper n).toNat).toNat) = some n := by
    decide
  have hpercent : UInt8.ofNat '%'.toNat = 0x25 := by decide
  simp only [encodeOctet, List.map_cons, List.map_nil, List.cons_append, List.nil_append]
  rw [decode, if_pos hpercent]
  simp only [hread _ (show b.toNat / 16 < 16 by omega), hread _ (show b.toNat % 16 < 16 by omega)]
  rw [Nat.div_add_mod, UInt8.ofNat_toNat]

theorem decode_encode (bs : List UInt8) :
    decode ((bs.flatMap encodeOctet).map fun c => UInt8.ofNat c.toNat) = bs := by
  induction bs with
  | nil => rfl
  | cons b r ih => rw [List.flatMap_cons, List.map_append, decode_encodeOctet, ih]

/-- A text that was percent-coded can be read again. -/
theorem decodeText?_encodeAll (s : String) : decodeText? (encodeAll s) = some s := by
  have hascii : ∀ c ∈ (encodeAll s).toList, c.toNat < 0x80 := by
    have hall := all_encodeAll (p := fun c => decide (c.toNat < 0x80)) (by decide) s
    exact fun c hc => of_decide_eq_true (List.all_eq_true.1 hall c hc)
  rw [decodeText?, Utf8.ofText, Utf8.encode_of_ascii hascii, encodeAll, String.toList_ofList,
    decode_encode, Utf8.ofText, Utf8.decode?_encode, Option.map_some, String.ofList_toList]

theorem encodeAll_eq_empty_iff {s : String} : encodeAll s = "" ↔ s = "" := by
  constructor
  · intro h
    have hread := decodeText?_encodeAll s
    rw [h] at hread
    exact (Option.some.inj hread).symm
  · rintro rfl
    rfl

end Percent

end AccessGateway
