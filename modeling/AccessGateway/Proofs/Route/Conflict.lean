import AccessGateway.Proofs.Route.Search
import AccessGateway.Proofs.Text.Ascii
import AccessGateway.Route.Conflict

/-
  What is known of a pattern that may stand alone. It is checked octet by octet, but no octet of
  another character is that of a slash, so the check sees the same segments as the characters show
  (`check_toTrail`); and where it succeeds nothing but letters stands behind a parameter in its
  segment (`single_of_standsAlone`).
-/

namespace AccessGateway

namespace Utf8

/-- The octet of a slash occurs in no other character. -/
theorem slash_notMem_encodeChar {c : Char} (h : c ≠ '/') : Trail.slash ∉ encodeChar c := by
  intro hmem
  rcases toNat_of_mem_encodeChar hmem with hn | hn
  · exact h (Char.toNat_inj.1 hn.symm)
  · exact absurd hn (by decide)

end Utf8

namespace Part

theorem behindFront_letters_append {α : Type} (as : List α) (t : List (Part α)) :
    behindFront (as.map .letter ++ t) = behindFront t := by
  refine List.dropWhile_append_of_pos fun x hx => ?_
  obtain ⟨a, -, rfl⟩ := List.mem_map.1 hx
  rfl

variable {α : Type} [DecidableEq α] {slash : α} {as : List α}

theorem segment_letters_append (h : slash ∉ as) (t : List (Part α)) :
    segment slash (as.map .letter ++ t) = as.map .letter ++ segment slash t := by
  induction as with
  | nil => rfl
  | cons a as ih =>
    rw [List.mem_cons, not_or] at h
    rw [List.map_cons, List.cons_append, segment, if_neg (by simpa using Ne.symm h.1), ih h.2]
    rfl

theorem length_behindSegment_le (slash : α) (t : List (Part α)) :
    (behindSegment slash t).length ≤ t.length := by
  induction t with
  | nil => exact Nat.le_refl _
  | cons x t ih =>
    rw [behindSegment, List.length_cons]
    split_ifs <;> omega

theorem behindSegment_letters_append (h : slash ∉ as) (t : List (Part α)) :
    behindSegment slash (as.map .letter ++ t) = behindSegment slash t := by
  induction as with
  | nil => rfl
  | cons a as ih =>
    rw [List.mem_cons, not_or] at h
    rw [List.map_cons, List.cons_append, behindSegment, if_neg (by simpa using Ne.symm h.1), ih h.2]

end Part

namespace Pattern

/-! ## Octets and characters -/

theorem toTrail_letter (c : Char) (p : Pattern) :
    toTrail (.letter c :: p) = (Utf8.encodeChar c).map .letter ++ toTrail p := rfl

theorem toTrail_parameter (p : Pattern) :
    toTrail (.parameter :: p) = .parameter :: toTrail p := rfl

theorem toTrail_rest (p : Pattern) : toTrail (.rest :: p) = .rest :: toTrail p := rfl

theorem length_le_length_toTrail (p : Pattern) : p.length ≤ p.toTrail.length := by
  induction p with
  | nil => exact Nat.zero_le _
  | cons x p ih =>
    cases x with
    | letter c =>
      have hpos := List.length_pos_iff.2 (Utf8.encodeChar_ne_nil c)
      rw [toTrail_letter, List.length_append, List.length_map, List.length_cons]
      omega
    | parameter => exact Nat.succ_le_succ ih
    | rest => exact Nat.succ_le_succ ih

theorem behindFront_toTrail (p : Pattern) :
    Part.behindFront p.toTrail = toTrail (Part.behindFront p) := by
  induction p with
  | nil => rfl
  | cons x p ih =>
    cases x with
    | letter c => rw [toTrail_letter, Part.behindFront_letters_append, ih]; rfl
    | parameter => rfl
    | rest => rfl

theorem segment_toTrail (p : Pattern) :
    Part.segment Trail.slash p.toTrail = toTrail (Part.segment '/' p) := by
  induction p with
  | nil => rfl
  | cons x p ih =>
    cases x with
    | letter c =>
      by_cases hc : c = '/'
      · subst hc
        rfl
      · rw [toTrail_letter, Part.segment_letters_append (Utf8.slash_notMem_encodeChar hc), ih,
          segment_letter hc, toTrail_letter]
    | parameter => exact congrArg (Part.parameter :: ·) ih
    | rest => exact congrArg (Part.rest :: ·) ih

theorem behindSegment_toTrail (p : Pattern) :
    Part.behindSegment Trail.slash p.toTrail = toTrail (Part.behindSegment '/' p) := by
  induction p with
  | nil => rfl
  | cons x p ih =>
    cases x with
    | letter c =>
      by_cases hc : c = '/'
      · subst hc
        rfl
      · rw [toTrail_letter, Part.behindSegment_letters_append (Utf8.slash_notMem_encodeChar hc), ih]
        simp [Part.behindSegment, hc]
    | parameter => exact ih
    | rest => exact ih

theorem all_isLetter_toTrail (p : Pattern) :
    p.toTrail.all Part.isLetter = p.all Part.isLetter := by
  induction p with
  | nil => rfl
  | cons x p ih =>
    cases x with
    | letter c =>
      rw [toTrail_letter, List.all_append, ih, List.all_map]
      simp [Part.isLetter]
    | parameter => rfl
    | rest => rfl

theorem toTrail_eq_nil_iff {p : Pattern} : p.toTrail = [] ↔ p = [] := by
  have hlength := length_le_length_toTrail p
  constructor
  · intro h
    rw [h] at hlength
    exact List.length_eq_zero_iff.1 (Nat.le_zero.1 hlength)
  · rintro rfl
    rfl

/-- The parts of a pattern may stand as they do if and only if its octets may. -/
theorem check_toTrail (n : Nat) (p : Pattern) :
    Part.check Trail.slash n p.toTrail = Part.check '/' n p := by
  induction n generalizing p with
  | zero => rfl
  | succ n ih =>
    rw [Part.check, Part.check, behindFront_toTrail]
    cases Part.behindFront p with
    | nil => rfl
    | cons x q =>
      cases x with
      | letter c =>
        obtain ⟨b, bs, hbs⟩ := List.exists_cons_of_ne_nil (Utf8.encodeChar_ne_nil c)
        rw [toTrail_letter, hbs]
        rfl
      | parameter =>
        simp only [toTrail_parameter, segment_toTrail, behindSegment_toTrail, all_isLetter_toTrail,
          ih]
      | rest => simp only [toTrail_rest, List.isEmpty_iff, toTrail_eq_nil_iff]

/-! ## Patterns that stand alone -/

theorem single_ofLetters_append {cs : List Char} {p : Pattern} :
    Single (ofLetters cs ++ p) ↔ Single p := by
  induction cs with
  | nil => rfl
  | cons c cs ih => exact ih

theorem single_of_behindFront {p : Pattern} (h : Single (Part.behindFront p)) : Single p := by
  induction p with
  | nil => trivial
  | cons x p ih =>
    cases x with
    | letter c => exact ih h
    | parameter => exact h
    | rest => exact h

theorem single_of_behindSegment {p : Pattern}
    (hp : (Part.segment '/' p).all Part.isLetter = true)
    (h : Single (Part.behindSegment '/' p)) : Single p := by
  obtain ⟨w, -, ⟨hletters, -, -⟩ | ⟨hletters, -⟩⟩ := exists_of_segment_letters hp
  · rw [hletters, ← List.append_nil (ofLetters w), single_ofLetters_append]
    trivial
  · rw [hletters, single_ofLetters_append]
    exact h

theorem length_behindFront_le (p : Pattern) : (Part.behindFront p).length ≤ p.length :=
  (List.dropWhile_suffix _).length_le

/-- Where the check succeeds, it has looked behind every parameter. -/
theorem single_of_check {n : Nat} {p : Pattern} (hn : p.length < n)
    (h : Part.check '/' n p = .ok ()) : Single p := by
  induction n generalizing p with
  | zero => omega
  | succ n ih =>
    have hlength := length_behindFront_le p
    refine single_of_behindFront ?_
    rw [Part.check] at h
    cases hfront : Part.behindFront p with
    | nil => trivial
    | cons x q =>
      rw [hfront] at h hlength
      cases x with
      | letter c =>
        -- The front takes all the letters, so none comes behind it.
        have hhead := List.head?_dropWhile_not Part.isLetter p
        rw [show p.dropWhile Part.isLetter = .letter c :: q from hfront] at hhead
        cases hhead
      | parameter =>
        simp only at h
        split at h
        · next hletters =>
          have := Part.length_behindSegment_le '/' q
          refine ⟨hletters, single_of_behindSegment hletters (ih ?_ h)⟩
          rw [List.length_cons] at hlength
          omega
        · cases h
      | rest =>
        simp only at h
        split at h
        · next hempty =>
          rw [List.isEmpty_iff.1 hempty]
          trivial
        · cases h

theorem single_of_standsAlone {p : Pattern} (h : Trails.standsAlone p.toTrail = .ok ()) :
    Single p := by
  rw [Trails.standsAlone, check_toTrail] at h
  exact single_of_check (Nat.lt_succ_of_le (length_le_length_toTrail p)) h

end Pattern

end AccessGateway
