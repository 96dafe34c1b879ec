import AccessGateway.Route.Search
import Mathlib.Data.List.Forall2

/-
  When one pattern fits a path, said without any search: letters stand for themselves, a parameter
  for a part of a segment that is not empty, and the rest for all that is left. The main statement
  is `fits_iff_forall₂`: a pattern fits a path if and only if both have the same number of segments
  and every segment of the pattern fits the segment of the path at its place.
-/

namespace AccessGateway.Pattern

/-- Whether a pattern fits a path. -/
def Fits : Pattern → List Char → Prop
  | [], path => path = []
  | .letter c :: p, path => ∃ r, path = c :: r ∧ Fits p r
  | .parameter :: p, path =>
    ∃ value r, value ≠ [] ∧ '/' ∉ value ∧ path = value ++ r ∧ Fits p r
  | .rest :: _, path => path ≠ []

/-- Letters as a pattern. -/
def ofLetters (cs : List Char) : Pattern := cs.map .letter

/-- The parts of each segment, without the slashes between them. -/
def segments : Pattern → List Pattern
  | [] => [[]]
  | x :: p =>
    match segments p with
    | [] => [[]]
    | s :: ss => if x = .letter '/' then [] :: s :: ss else (x :: s) :: ss

theorem exists_segments (p : Pattern) : ∃ s ss, segments p = s :: ss := by
  refine List.exists_cons_of_ne_nil ?_
  cases p with
  | nil => simp [segments]
  | cons x p =>
    simp only [segments]
    split
    · simp
    · split <;> simp

theorem segments_slash (p : Pattern) : segments (.letter '/' :: p) = [] :: segments p := by
  obtain ⟨s, ss, h⟩ := exists_segments p
  simp [segments, h]

theorem segments_cons {x : Part Char} {p s : Pattern} {ss : List Pattern} (hx : x ≠ .letter '/')
    (h : segments p = s :: ss) : segments (x :: p) = (x :: s) :: ss := by
  simp [segments, h, hx]

/-! ## Letters -/

theorem fits_ofLetters_append {cs : List Char} {p : Pattern} {path : List Char} :
    Fits (ofLetters cs ++ p) path ↔ ∃ r, path = cs ++ r ∧ Fits p r := by
  induction cs generalizing path with
  | nil => simp [ofLetters]
  | cons c cs ih =>
    have hcons : ofLetters (c :: cs) ++ p = .letter c :: (ofLetters cs ++ p) := rfl
    rw [hcons, Fits]
    constructor
    · rintro ⟨_, rfl, h⟩
      obtain ⟨r, rfl, hr⟩ := ih.1 h
      exact ⟨r, rfl, hr⟩
    · rintro ⟨r, rfl, hr⟩
      exact ⟨cs ++ r, rfl, ih.2 ⟨r, rfl, hr⟩⟩

theorem fits_ofLetters {cs path : List Char} : Fits (ofLetters cs) path ↔ path = cs := by
  rw [← List.append_nil (ofLetters cs), fits_ofLetters_append]
  simp [Fits]

/-- A parameter with letters on both sides of it. -/
theorem fits_affixes {front behind path : List Char} (h : '/' ∉ path) :
    Fits (ofLetters front ++ .parameter :: ofLetters behind) path ↔
      ∃ value, value ≠ [] ∧ path = front ++ value ++ behind := by
  rw [fits_ofLetters_append]
  constructor
  · rintro ⟨_, rfl, value, r, hvalue, -, rfl, hr⟩
    rw [fits_ofLetters] at hr
    subst hr
    exact ⟨value, hvalue, (List.append_assoc _ _ _).symm⟩
  · rintro ⟨value, hvalue, rfl⟩
    refine ⟨value ++ behind, List.append_assoc _ _ _, value, behind, hvalue, ?_, rfl,
      fits_ofLetters.2 rfl⟩
    intro hslash
    exact h (List.mem_append_left _ (List.mem_append_right _ hslash))

/-! ## Segments -/

theorem fits_nil_iff {path : List Char} :
    Fits [] path ↔ List.Forall₂ Fits (segments []) (pieces '/' path) := by
  rw [segments, List.forall₂_cons_left_iff]
  constructor
  · intro h
    have hpath : path = [] := h
    subst hpath
    exact ⟨[], [], rfl, .nil, rfl⟩
  · rintro ⟨x, xs, hx, hxs, hpath⟩
    have hnil : x = [] := hx
    obtain rfl := List.forall₂_nil_left_iff.1 hxs
    have hjoin := joinWith_pieces '/' path
    rw [hpath, hnil] at hjoin
    exact hjoin.symm

/-- A slash of the pattern ends a segment of the path. -/
theorem fits_slash_iff {p : Pattern}
    (ih : ∀ path, Fits p path ↔ List.Forall₂ Fits (segments p) (pieces '/' path))
    (path : List Char) :
    Fits (.letter '/' :: p) path ↔
      List.Forall₂ Fits (segments (.letter '/' :: p)) (pieces '/' path) := by
  rw [segments_slash, Fits, List.forall₂_cons_left_iff]
  constructor
  · rintro ⟨r, rfl, hr⟩
    exact ⟨[], pieces '/' r, rfl, (ih r).1 hr, pieces_sep_cons '/' r⟩
  · rintro ⟨x, xs, hx, hxs, hpath⟩
    have hnil : x = [] := hx
    subst hnil
    obtain ⟨s, ss, hs⟩ := exists_segments p
    cases path with
    | nil =>
      -- The pattern goes on behind the slash, so there are at least two segments.
      rw [hs] at hxs
      obtain ⟨y, ys, -, -, rfl⟩ := List.forall₂_cons_left_iff.1 hxs
      simp [pieces] at hpath
    | cons c r =>
      obtain ⟨y, ys, hy⟩ := exists_pieces '/' r
      by_cases hc : c = '/'
      · rw [hc, pieces_sep_cons, List.cons.injEq] at hpath
        exact ⟨r, by rw [hc], (ih r).2 (hpath.2 ▸ hxs)⟩
      · rw [pieces_cons hc hy] at hpath
        simp at hpath

/-- A part other than a slash belongs to the first segment, and so does what it stands for. -/
theorem fits_cons_iff {x : Part Char} {p : Pattern} (hx : x ≠ .letter '/')
    (takes : List Char → Prop) (htakes : ∀ value, takes value → '/' ∉ value)
    (hfits : ∀ (q : Pattern) (path : List Char),
      Fits (x :: q) path ↔ ∃ value r, takes value ∧ path = value ++ r ∧ Fits q r)
    (ih : ∀ path, Fits p path ↔ List.Forall₂ Fits (segments p) (pieces '/' path))
    (path : List Char) :
    Fits (x :: p) path ↔ List.Forall₂ Fits (segments (x :: p)) (pieces '/' path) := by
  obtain ⟨s, ss, hs⟩ := exists_segments p
  rw [segments_cons hx hs, hfits, List.forall₂_cons_left_iff]
  constructor
  · rintro ⟨value, r, hvalue, rfl, hr⟩
    rw [ih, hs, List.forall₂_cons_left_iff] at hr
    obtain ⟨y, ys, hy, hys, hpieces⟩ := hr
    refine ⟨value ++ y, ys, (hfits s _).2 ⟨value, y, hvalue, rfl, hy⟩, hys, ?_⟩
    exact pieces_append (htakes value hvalue) hpieces
  · rintro ⟨y, ys, hy, hys, hpath⟩
    obtain ⟨value, z, hvalue, rfl, hz⟩ := (hfits s y).1 hy
    obtain ⟨r, rfl, hr⟩ := exists_of_pieces_append hpath
    refine ⟨value, r, hvalue, rfl, (ih r).2 ?_⟩
    rw [hs, hr]
    exact .cons hz hys

/-- A pattern without the rest of a path fits segment by segment. -/
theorem fits_iff_forall₂ {p : Pattern} (h : .rest ∉ p) (path : List Char) :
    Fits p path ↔ List.Forall₂ Fits (segments p) (pieces '/' path) := by
  induction p generalizing path with
  | nil => exact fits_nil_iff
  | cons x p ih =>
    rw [List.mem_cons, not_or] at h
    have ih := ih h.2
    cases x with
    | letter c =>
      by_cases hc : c = '/'
      · subst hc
        exact fits_slash_iff ih path
      · refine fits_cons_iff (by simpa using hc) (fun value => value = [c]) ?_ ?_ ih path
        · rintro _ rfl
          simpa using Ne.symm hc
        · intro q path
          simp [Fits]
    | parameter =>
      refine fits_cons_iff (by simp) (fun value => value ≠ [] ∧ '/' ∉ value)
        (fun _ => And.right) ?_ ih path
      intro q path
      simp only [Fits, and_assoc]
    | rest => exact absurd rfl h.1

end AccessGateway.Pattern
