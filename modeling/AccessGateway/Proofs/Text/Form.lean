import AccessGateway.Proofs.Text.Decoding
import AccessGateway.Proofs.Text.Percent

/-
  Form queries. A key or a value is read again as what was written (`component_encode`), and neither
  holds an ampersand or an equals sign, so a query of pairs is cut where it was put together
  (`pairs_render`).
-/

namespace AccessGateway

theorem Percent.decode_cons_of_ne {b : UInt8} (h : b ≠ 0x25) (r : List UInt8) :
    decode (b :: r) = b :: decode r := by
  rw [decode.eq_def]
  exact if_neg h

namespace Form

/-- The characters that a key or a value is written with. -/
def isMark (c : Char) : Bool := c.isAlphanum || "*-._+%".toList.contains c

theorem isMark_of_mem_encodeOctet {b : UInt8} {c : Char} (h : c ∈ encodeOctet b) :
    isMark c = true := by
  have hcoded : Percent.marks.all isMark = true := by decide
  unfold encodeOctet at h
  split at h
  · next hplain =>
    obtain rfl := List.mem_singleton.1 h
    simp only [isPlain, Bool.or_eq_true, decide_eq_true_eq] at hplain
    rcases hplain with (((h | rfl) | rfl) | rfl) | rfl
    · rw [isMark, h, Bool.true_or]
    all_goals decide
  · split at h
    · obtain rfl := List.mem_singleton.1 h
      decide
    · exact List.all_eq_true.1 hcoded c (Percent.mem_marks_of_mem_encodeOctet h)

theorem isMark_of_mem_encode {s : String} {c : Char} (h : c ∈ encode s) : isMark c = true := by
  obtain ⟨b, -, hb⟩ := List.mem_flatMap.1 h
  exact isMark_of_mem_encodeOctet hb

theorem notMem_encode {s : String} {c : Char} (h : isMark c = false) : c ∉ encode s := by
  intro hc
  rw [isMark_of_mem_encode hc] at h
  cases h

theorem toNat_le_of_isAlphanum {c : Char} (h : c.isAlphanum = true) :
    c.toNat ≤ 'Z'.toNat ∨ c.toNat ≤ 'z'.toNat ∨ c.toNat ≤ '9'.toNat := by
  have hparts : ((c.isUpper || c.isLower) || c.isDigit) = true := h
  rw [Bool.or_eq_true, Bool.or_eq_true] at hparts
  rcases hparts with (hupper | hlower) | hdigit
  · have hle : c.val ≤ 'Z'.val := (of_decide_eq_true hupper).2
    exact .inl (UInt32.le_iff_toNat_le.1 hle)
  · have hle : c.val ≤ 'z'.val := of_decide_eq_true (Bool.and_eq_true_iff.1 hlower).2
    exact .inr (.inl (UInt32.le_iff_toNat_le.1 hle))
  · have hle : c.val ≤ '9'.val := of_decide_eq_true (Bool.and_eq_true_iff.1 hdigit).2
    exact .inr (.inr (UInt32.le_iff_toNat_le.1 hle))

theorem toNat_lt_of_isMark {c : Char} (h : isMark c = true) : c.toNat < 0x80 := by
  have hother : ("*-._+%".toList.all fun c => decide (c.toNat < 0x80)) = true := by decide
  rw [isMark, Bool.or_eq_true, List.contains_iff_mem] at h
  rcases h with h | h
  · have hcapital : 'Z'.toNat = 90 := rfl
    have hsmall : 'z'.toNat = 122 := rfl
    have hdigit : '9'.toNat = 57 := rfl
    have hle := toNat_le_of_isAlphanum h
    omega
  · exact of_decide_eq_true (List.all_eq_true.1 hother c h)

/-- The characters with a space in place of every plus sign. -/
def spaced (cs : List Char) : List Char := cs.map fun c => if c = '+' then ' ' else c

theorem toNat_lt_of_mem_spaced {s : String} {c : Char} (h : c ∈ spaced (encode s)) :
    c.toNat < 0x80 := by
  obtain ⟨d, hd, rfl⟩ := List.mem_map.1 h
  split
  · decide
  · exact toNat_lt_of_isMark (isMark_of_mem_encode hd)

/-- What an octet is written as is read as the octet. -/
theorem decode_spaced_encodeOctet (b : UInt8) (r : List UInt8) :
    Percent.decode ((spaced (encodeOctet b)).map (fun c => UInt8.ofNat c.toNat) ++ r) =
      b :: Percent.decode r := by
  unfold encodeOctet
  split
  · next hplain =>
    have hb : b.toNat < 256 := b.toNat_lt
    have htoNat : (Char.ofNat b.toNat).toNat = b.toNat := Utf8.toNat_ofNat (by omega)
    have hpercent : b ≠ 0x25 := by
      rintro rfl
      exact absurd hplain (by decide)
    have hplus : Char.ofNat b.toNat ≠ '+' := by
      intro h
      have hchar : b.toNat = '+'.toNat := htoNat.symm.trans (congrArg Char.toNat h)
      obtain rfl : b = 0x2B := UInt8.toNat_inj.1 hchar
      exact absurd hplain (by decide)
    simp only [spaced, List.map_cons, List.map_nil, if_neg hplus, htoNat, UInt8.ofNat_toNat,
      List.singleton_append]
    exact Percent.decode_cons_of_ne hpercent r
  · split
    · next hspace =>
      subst hspace
      exact Percent.decode_cons_of_ne (by decide) r
    · have hsame : spaced (Percent.encodeOctet b) = Percent.encodeOctet b := by
        refine List.map_congr_left (g := id) (fun c hc => if_neg ?_) |>.trans (List.map_id _)
        rintro rfl
        exact absurd (Percent.mem_marks_of_mem_encodeOctet hc) (by decide)
      rw [hsame, Percent.decode_encodeOctet]

theorem decode_spaced_encode (bs : List UInt8) :
    Percent.decode ((spaced (bs.flatMap encodeOctet)).map fun c => UInt8.ofNat c.toNat) = bs := by
  induction bs with
  | nil => rfl
  | cons b r ih =>
    rw [List.flatMap_cons, spaced, List.map_append, ← spaced, ← spaced, List.map_append,
      decode_spaced_encodeOctet, ih]

/-- A key or a value is read again as what was written. -/
theorem component_encode (s : String) : component (encode s) = s := by
  rw [component, ← spaced, Utf8.encode_of_ascii fun c hc => toNat_lt_of_mem_spaced hc, encode,
    decode_spaced_encode, Utf8.ofText, Utf8.decodeLossy_encode, String.ofList_toList]

/-- A written pair. -/
def piece (p : String × String) : List Char := encode p.1 ++ '=' :: encode p.2

theorem pair_piece (p : String × String) : pair (piece p) = p := by
  have hsplit : splitOnce '=' (piece p) = some (encode p.1, encode p.2) :=
    splitOnce_eq_some_iff.2 ⟨rfl, notMem_encode (by decide)⟩
  rw [pair, hsplit]
  simp only [component_encode]

theorem ampersand_notMem_piece (p : String × String) : '&' ∉ piece p := by
  have hencode : ∀ s, '&' ∉ encode s := fun s => notMem_encode (by decide)
  simp [piece, hencode]

theorem toList_render (ps : List (String × String)) :
    (render ps).toList = joinWith '&' (ps.map piece) :=
  String.toList_ofList

/-- A query holds the pairs that it was made of. -/
theorem pairs_render (ps : List (String × String)) : pairs (render ps) = ps := by
  rw [pairs, toList_render]
  cases ps with
  | nil => rfl
  | cons p r =>
    have hpieces : pieces '&' (joinWith '&' ((p :: r).map piece)) = (p :: r).map piece := by
      refine pieces_joinWith (List.cons_ne_nil _ _) fun x hx => ?_
      obtain ⟨q, -, rfl⟩ := List.mem_map.1 hx
      exact ampersand_notMem_piece q
    have hnonempty : ∀ x ∈ (p :: r).map piece, !x.isEmpty := by
      intro x hx
      obtain ⟨q, -, rfl⟩ := List.mem_map.1 hx
      simp [piece]
    rw [hpieces, List.filter_eq_self.2 hnonempty, List.map_map, List.map_congr_left (g := id),
      List.map_id]
    exact fun q _ => pair_piece q

end Form

end AccessGateway
