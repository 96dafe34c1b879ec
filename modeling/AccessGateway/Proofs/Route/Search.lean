import AccessGateway.Proofs.Route.Fitting
import Mathlib.Data.List.TakeWhile

/-
  The search through several patterns at once finds a path if and only if one of the patterns fits
  it (`anyMatch_eq_true_iff`). Two things are needed for that. In a segment nothing but letters
  stands behind a parameter (`Single`), for only these are looked at. And parameters that stand at
  the same place of two patterns have the same letters behind them (`Uniform`), for of several
  suffixes that fit only the longest is followed.
-/

namespace AccessGateway

namespace Pattern

/-- Nothing but letters stands behind a parameter in its segment. -/
def Single : Pattern → Prop
  | [] => True
  | .parameter :: p => (Part.segment '/' p).all Part.isLetter = true ∧ Single p
  | _ :: p => Single p

theorem behindLetter?_eq_some_iff {c : Char} {p q : Pattern} :
    behindLetter? c p = some q ↔ p = .letter c :: q := by
  unfold behindLetter?
  split
  · next d r =>
    by_cases hd : d = c <;> simp [hd]
  · next h =>
    simp only [reduceCtorEq, false_iff]
    rintro rfl
    exact h c q rfl

theorem behindParameter?_eq_some_iff {p q : Pattern} :
    behindParameter? p = some q ↔ p = .parameter :: q := by
  unfold behindParameter?
  split
  · simp
  · next h =>
    simp only [reduceCtorEq, false_iff]
    rintro rfl
    exact h q rfl

/-! ## The letters behind a parameter -/

theorem segment_letter {c : Char} (hc : c ≠ '/') (p : Pattern) :
    Part.segment '/' (.letter c :: p) = .letter c :: Part.segment '/' p := by
  rw [Part.segment, if_neg (by simpa using hc)]

/-- A segment of letters goes on to the end of the pattern or up to a slash. -/
theorem exists_of_segment_letters {p : Pattern}
    (h : (Part.segment '/' p).all Part.isLetter = true) :
    ∃ w, '/' ∉ w ∧
      ((p = ofLetters w ∧ p.suffix = w ∧ p.behindSuffix = []) ∨
        (p = ofLetters w ++ .letter '/' :: p.behindSuffix ∧ p.suffix = w ++ ['/'])) := by
  induction p with
  | nil => exact ⟨[], by simp, Or.inl ⟨rfl, rfl, rfl⟩⟩
  | cons x p ih =>
    cases x with
    | letter c =>
      by_cases hc : c = '/'
      · subst hc
        exact ⟨[], by simp, Or.inr ⟨rfl, rfl⟩⟩
      · rw [segment_letter hc, List.all_cons, Bool.and_eq_true] at h
        obtain ⟨w, hw, hp⟩ := ih h.2
        have hsuffix : suffix (.letter c :: p) = c :: suffix p := by
          rw [suffix, segment_letter hc, Part.front]
          rfl
        have hbehind : behindSuffix (.letter c :: p) = behindSuffix p := by
          simp [behindSuffix, Part.behindSegment, hc]
        refine ⟨c :: w, by simp [hw, Ne.symm hc], ?_⟩
        rw [hsuffix, hbehind]
        refine hp.imp ?_ ?_
        · rintro ⟨hp, hs, hb⟩
          exact ⟨by rw [hp]; rfl, by rw [hs], hb⟩
        · rintro ⟨hp, hs⟩
          exact ⟨congrArg (Part.letter c :: ·) hp, by rw [hs, List.cons_append]⟩
    | parameter => simp [Part.segment, Part.isLetter] at h
    | rest => simp [Part.segment, Part.isLetter] at h

/-- What follows a suffix of letters is what is left when so many parts are dropped. -/
theorem behindSuffix_eq_drop {p : Pattern}
    (h : (Part.segment '/' p).all Part.isLetter = true) :
    p.behindSuffix = p.drop p.suffix.length := by
  obtain ⟨w, -, ⟨hp, hs, hb⟩ | ⟨hp, hs⟩⟩ := exists_of_segment_letters h
  · rw [hb, hs, hp, List.drop_eq_nil_of_le (by simp [ofLetters])]
  · have hlength : p.suffix.length = (ofLetters w).length + 1 := by
      rw [hs]
      simp [ofLetters]
    conv_rhs => rw [hlength, hp]
    simp [List.drop_append]

theorem single_drop {p : Pattern} (h : Single p) (n : Nat) : Single (p.drop n) := by
  induction n generalizing p with
  | zero => exact h
  | succ n ih =>
    cases p with
    | nil => exact h
    | cons x p =>
      cases x with
      | letter c => exact ih h
      | parameter => exact ih h.2
      | rest => exact ih h

end Pattern

namespace Patterns

open Pattern

/-- Parameters that stand at the same place of two patterns have the same letters behind them,
unless one of them is at the end. -/
def Uniform (ps : List Pattern) : Prop :=
  ∀ p ∈ ps, ∀ q ∈ ps, ∀ (n : Nat) (r s : Pattern), p.drop n = .parameter :: r →
    q.drop n = .parameter :: s → r ≠ [] → s ≠ [] → r.suffix = s.suffix

/-- What is left of patterns when the same number of parts is dropped from each is as uniform. -/
theorem Uniform.of_drop {ps qs : List Pattern} (h : Uniform ps) {k : Nat}
    (hqs : ∀ q ∈ qs, ∃ p ∈ ps, q = p.drop k) : Uniform qs := by
  intro q hq q' hq' n r s hr hs
  obtain ⟨p, hp, rfl⟩ := hqs q hq
  obtain ⟨p', hp', rfl⟩ := hqs q' hq'
  rw [List.drop_drop] at hr hs
  exact h p hp p' hp' (k + n) r s hr hs

/-! ## One segment of a path -/

theorem cutSegment_of_notMem {path : List Char} (h : '/' ∉ path) :
    cutSegment path = (path, []) := by
  have htake : path.takeWhile (· != '/') = path := by
    rw [List.takeWhile_eq_self_iff]
    intro c hc
    simp only [bne_iff_ne, ne_eq]
    rintro rfl
    exact h hc
  rw [cutSegment, htake, List.take_of_length_le (Nat.le_succ _),
    List.drop_eq_nil_of_le (Nat.le_succ _)]

theorem cutSegment_append {a : List Char} (ha : '/' ∉ a) (b : List Char) :
    cutSegment (a ++ '/' :: b) = (a ++ ['/'], b) := by
  have htake : (a ++ '/' :: b).takeWhile (· != '/') = a := by
    rw [List.takeWhile_append_of_pos]
    · simp
    · intro c hc
      simp only [bne_iff_ne, ne_eq]
      rintro rfl
      exact ha hc
  have hsplit : a ++ '/' :: b = (a ++ ['/']) ++ b := by simp
  have hlength : a.length + 1 = (a ++ ['/']).length := by simp
  rw [cutSegment, htake, hlength, hsplit, List.take_left, List.drop_left]

/-- A path is one segment, or a segment, a slash and what follows. -/
theorem path_cases (path : List Char) :
    ('/' ∉ path ∧ cutSegment path = (path, [])) ∨
      ∃ a b, '/' ∉ a ∧ path = a ++ '/' :: b ∧ cutSegment path = (a ++ ['/'], b) := by
  cases h : splitOnce '/' path with
  | none =>
    have hpath := splitOnce_eq_none_iff.1 h
    exact Or.inl ⟨hpath, cutSegment_of_notMem hpath⟩
  | some x =>
    obtain ⟨hpath, ha⟩ := splitOnce_eq_some_iff.1 h
    exact Or.inr ⟨x.1, x.2, ha, hpath, hpath ▸ cutSegment_append ha x.2⟩

theorem getLast?_cutSegment {path : List Char} :
    (cutSegment path).1.getLast? ≠ some '/' ↔ '/' ∉ path := by
  obtain ⟨hpath, hcut⟩ | ⟨a, b, -, rfl, hcut⟩ := path_cases path
  · rw [hcut]
    simp only [hpath, not_false_eq_true, iff_true]
    exact fun h => hpath (List.mem_of_getLast? h)
  · simp [hcut]

theorem length_cutSegment {path : List Char} (h : path ≠ []) :
    (cutSegment path).2.length < path.length := by
  have hpos := List.length_pos_iff.2 h
  simp only [cutSegment, List.length_drop]
  omega

theorem endsWith_iff {text : List Char} {p : Pattern} :
    endsWith text p = true ↔ p ≠ [] ∧ p.suffix <:+ text ∧ p.suffix.length < text.length := by
  simp [endsWith, and_assoc]

/-- A text ends with letters and has more before them. -/
theorem exists_value_iff {w text : List Char} :
    (w <:+ text ∧ w.length < text.length) ↔ ∃ value, value ≠ [] ∧ text = value ++ w := by
  constructor
  · rintro ⟨⟨value, rfl⟩, hlength⟩
    refine ⟨value, ?_, rfl⟩
    rintro rfl
    simp at hlength
  · rintro ⟨value, hvalue, rfl⟩
    have := List.length_pos_iff.2 hvalue
    exact ⟨List.suffix_append _ _, by simp; omega⟩

/-- If a segment that is the last one of a path ends with the letters of a pattern, nothing of the
pattern is left. -/
theorem behindSuffix_of_endsWith {p : Pattern} {text : List Char}
    (hp : (Part.segment '/' p).all Part.isLetter = true) (htext : '/' ∉ text)
    (h : endsWith text p = true) : p.behindSuffix = [] := by
  obtain ⟨w, -, ⟨-, -, hb⟩ | ⟨-, hs⟩⟩ := exists_of_segment_letters hp
  · exact hb
  · have hsuffix := (endsWith_iff.1 h).2.1
    rw [hs] at hsuffix
    exact absurd (hsuffix.subset (by simp)) htext

/-- A parameter with nothing but letters behind it ends in the last segment of a path. -/
theorem fits_parameter_ofLetters {w path : List Char} (hw : '/' ∉ w) (hpath : path ≠ []) :
    Fits (.parameter :: ofLetters w) path ↔
      (w = [] ∧ '/' ∉ path) ∨
        (w ≠ [] ∧ (∃ value, value ≠ [] ∧ (cutSegment path).1 = value ++ w) ∧
          (cutSegment path).2 = []) := by
  simp only [Fits, fits_ofLetters]
  obtain ⟨hslash, hcut⟩ | ⟨a, b, ha, rfl, hcut⟩ := path_cases path
  · rw [hcut]
    constructor
    · rintro ⟨value, r, hvalue, -, htext, hr⟩
      rw [hr] at htext
      by_cases hempty : w = []
      · exact Or.inl ⟨hempty, hslash⟩
      · exact Or.inr ⟨hempty, ⟨value, hvalue, htext⟩, rfl⟩
    · rintro (⟨rfl, -⟩ | ⟨-, ⟨value, hvalue, rfl⟩, -⟩)
      · exact ⟨path, [], hpath, hslash, (List.append_nil _).symm, rfl⟩
      · exact ⟨value, w, hvalue, fun h => hslash (List.mem_append_left _ h), rfl, rfl⟩
  · have hmem : '/' ∈ a ++ '/' :: b := List.mem_append_right _ List.mem_cons_self
    rw [hcut]
    constructor
    · rintro ⟨value, r, -, hvalue, htext, hr⟩
      rw [htext, hr, List.mem_append] at hmem
      exact absurd hmem (not_or.2 ⟨hvalue, hw⟩)
    · rintro (⟨-, hslash⟩ | ⟨hne, ⟨value, -, htext⟩, -⟩)
      · exact absurd hmem hslash
      · -- The letters are not empty, so the last of them would be the slash.
        have hlast := congrArg List.getLast? htext
        rw [List.getLast?_append_of_ne_nil _ hne, List.getLast?_concat] at hlast
        exact absurd (List.mem_of_getLast? hlast.symm) hw

/-- A parameter whose segment ends with a slash. -/
theorem fits_parameter_slash {w path : List Char} (hw : '/' ∉ w) (q : Pattern) :
    Fits (.parameter :: (ofLetters w ++ .letter '/' :: q)) path ↔
      (∃ value, value ≠ [] ∧ (cutSegment path).1 = value ++ (w ++ ['/'])) ∧
        Fits q (cutSegment path).2 := by
  simp only [Fits, fits_ofLetters_append]
  obtain ⟨hslash, hcut⟩ | ⟨a, b, ha, rfl, hcut⟩ := path_cases path
  · rw [hcut]
    constructor
    · rintro ⟨value, _, -, -, rfl, _, rfl, r, rfl, -⟩
      simp at hslash
    · rintro ⟨⟨value, -, rfl⟩, -⟩
      simp at hslash
  · rw [hcut]
    constructor
    · rintro ⟨value, _, hvalue, hslash, htext, _, rfl, r, rfl, hr⟩
      have hcuts : splitOnce '/' (a ++ '/' :: b) = some (value ++ w, r) := by
        refine splitOnce_eq_some_iff.2 ⟨?_, by simp [hslash, hw]⟩
        rw [htext, List.append_assoc]
      rw [splitOnce_eq_some_iff.2 ⟨rfl, ha⟩, Option.some.injEq, Prod.mk.injEq] at hcuts
      obtain ⟨rfl, rfl⟩ := hcuts
      exact ⟨⟨value, hvalue, List.append_assoc _ _ _⟩, hr⟩
    · rintro ⟨⟨value, hvalue, htext⟩, hr⟩
      rw [← List.append_assoc, List.append_left_inj] at htext
      subst htext
      refine ⟨value, w ++ '/' :: b, hvalue, fun h => ha (List.mem_append_left _ h), ?_,
        '/' :: b, rfl, b, rfl, hr⟩
      exact List.append_assoc _ _ _

/-- A parameter at the front, seen as the search does: it takes a part of the first segment that
is not empty, and the letters behind it end that segment. -/
theorem fits_parameter_iff {p : Pattern} (hp : (Part.segment '/' p).all Part.isLetter = true)
    {path : List Char} (hpath : path ≠ []) :
    Fits (.parameter :: p) path ↔
      (p = [] ∧ '/' ∉ path) ∨
        (endsWith (cutSegment path).1 p = true ∧
          Fits p.behindSuffix (cutSegment path).2) := by
  rw [endsWith_iff, exists_value_iff]
  obtain ⟨w, hw, ⟨hletters, hs, hb⟩ | ⟨hletters, hs⟩⟩ := exists_of_segment_letters hp
  · have hnil : p = [] ↔ w = [] := by rw [hletters, ofLetters, List.map_eq_nil_iff]
    rw [hs, hb, ne_eq, hnil, hletters, fits_parameter_ofLetters hw hpath, and_assoc]
    rfl
  · have hne : p ≠ [] := by
      rw [hletters]
      simp
    rw [hs]
    conv_lhs => rw [hletters]
    rw [fits_parameter_slash hw]
    simp [hne]

/-! ## Several patterns -/

theorem foldl_max_eq {α : Type} {f : α → Nat} {k n : Nat} {xs : List α}
    (h : ∀ x ∈ xs, f x = k) (hn : n ≤ k) (hxs : xs ≠ []) :
    xs.foldl (fun n x => max n (f x)) n = k := by
  induction xs generalizing n with
  | nil => exact absurd rfl hxs
  | cons x xs ih =>
    rw [List.forall_mem_cons] at h
    rw [List.foldl_cons, h.1, Nat.max_eq_right hn]
    by_cases hrest : xs = []
    · rw [hrest, List.foldl_nil]
    · exact ih h.2 (Nat.le_refl k) hrest

/-- Where all the suffixes that fit are the same, all of them are followed. -/
theorem behindLongest?_of_same {text : List Char} {qs : List Pattern}
    (h : ∀ q ∈ qs, ∀ q' ∈ qs, endsWith text q = true → endsWith text q' = true →
      q.suffix = q'.suffix) :
    behindLongest? text qs =
      if qs.filter (endsWith text) = [] then none
      else some ((qs.filter (endsWith text)).map behindSuffix) := by
  unfold behindLongest?
  split
  · next hnone => rw [if_pos hnone]
  · next rs hsome =>
    rw [if_neg hsome]
    obtain ⟨q, hq⟩ := List.exists_mem_of_ne_nil _ hsome
    have hsame : ∀ x ∈ qs.filter (endsWith text), x.suffix.length = q.suffix.length := by
      intro x hx
      rw [List.mem_filter] at hx hq
      rw [h x hx.1 q hq.1 hx.2 hq.2]
    have hlongest := foldl_max_eq (f := fun x : Pattern => x.suffix.length) hsame
      (Nat.zero_le _) hsome
    simp only [hlongest]
    rw [List.filter_eq_self.2 (fun x hx => by simpa using hsame x hx)]

theorem mem_behindLetters {ps : List Pattern} {c : Char} {q : Pattern} :
    q ∈ ps.filterMap (behindLetter? c) ↔ .letter c :: q ∈ ps := by
  simp [List.mem_filterMap, behindLetter?_eq_some_iff]

theorem mem_behindParameters {ps : List Pattern} {q : Pattern} :
    q ∈ ps.filterMap behindParameter? ↔ .parameter :: q ∈ ps := by
  simp [List.mem_filterMap, behindParameter?_eq_some_iff]

theorem fits_nil_iff_eq {p : Pattern} : Fits p [] ↔ p = [] := by
  cases p with
  | nil => simp [Fits]
  | cons x q => cases x <;> simp [Fits]

/-- Which of some patterns fit a path that is not empty, by what they begin with. -/
theorem exists_fits_cons {ps : List Pattern} {c : Char} {r : List Char} :
    (∃ p ∈ ps, Fits p (c :: r)) ↔
      (∃ p ∈ ps.filterMap (behindLetter? c), Fits p r) ∨
        (∃ p ∈ ps, p.head? = some .rest) ∨
          ∃ p ∈ ps.filterMap Pattern.behindParameter?, Fits (.parameter :: p) (c :: r) := by
  simp only [mem_behindLetters, mem_behindParameters]
  constructor
  · rintro ⟨p, hp, hfits⟩
    cases p with
    | nil => cases hfits
    | cons x q =>
      cases x with
      | letter d =>
        obtain ⟨r', hr', hq⟩ := hfits
        obtain ⟨rfl, rfl⟩ := List.cons.inj hr'
        exact Or.inl ⟨q, hp, hq⟩
      | parameter => exact Or.inr (Or.inr ⟨q, hp, hfits⟩)
      | rest => exact Or.inr (Or.inl ⟨_, hp, rfl⟩)
  · rintro (⟨q, hp, hq⟩ | ⟨p, hp, hrest⟩ | ⟨q, hp, hq⟩)
    · exact ⟨_, hp, r, rfl, hq⟩
    · obtain ⟨q, rfl⟩ := List.head?_eq_some_iff.1 hrest
      exact ⟨_, hp, List.cons_ne_nil c r⟩
    · exact ⟨_, hp, hq⟩

/-- Which of some parameters fit a path, seen as the search does. -/
theorem exists_fits_parameter_iff {qs : List Pattern} {path : List Char} (hpath : path ≠ [])
    (hsingle : ∀ q ∈ qs, (Part.segment '/' q).all Part.isLetter = true) :
    (∃ q ∈ qs, Fits (.parameter :: q) path) ↔
      ([] ∈ qs ∧ '/' ∉ path) ∨
        ∃ q ∈ qs, endsWith (cutSegment path).1 q = true ∧
          Fits q.behindSuffix (cutSegment path).2 := by
  constructor
  · rintro ⟨q, hq, hfits⟩
    obtain ⟨rfl, hslash⟩ | hends := (fits_parameter_iff (hsingle q hq) hpath).1 hfits
    · exact Or.inl ⟨hq, hslash⟩
    · exact Or.inr ⟨q, hq, hends⟩
  · rintro (⟨hq, hslash⟩ | ⟨q, hq, hends⟩)
    · exact ⟨[], hq, (fits_parameter_iff (hsingle [] hq) hpath).2 (Or.inl ⟨rfl, hslash⟩)⟩
    · exact ⟨q, hq, (fits_parameter_iff (hsingle q hq) hpath).2 (Or.inr hends)⟩

/-- What the search does with parameters. -/
def searchParameters (n : Nat) (qs : List Pattern) (path : List Char) : Bool :=
  match behindLongest? (cutSegment path).1 qs with
  | some rs => search n rs (cutSegment path).2
  | none => (cutSegment path).1.getLast? != some '/' && qs.contains []

theorem search_cons (n : Nat) (ps : List Pattern) (c : Char) (r : List Char) :
    search (n + 1) ps (c :: r) =
      (search n (ps.filterMap (behindLetter? c)) r ||
        ps.any (fun p => p.head? = some .rest) ||
        (c != '/' && searchParameters n (ps.filterMap Pattern.behindParameter?) (c :: r))) := rfl

/-- The search is right about parameters if it is about shorter paths. -/
theorem searchParameters_iff (n : Nat) (qs : List Pattern) {path : List Char}
    (hpath : path ≠ []) (hsingle : ∀ q ∈ qs, (Part.segment '/' q).all Part.isLetter = true)
    (hsame : ∀ q ∈ qs, ∀ q' ∈ qs, q ≠ [] → q' ≠ [] → q.suffix = q'.suffix)
    (ih : ∀ rs, rs = (qs.filter (endsWith (cutSegment path).1)).map behindSuffix →
      (search n rs (cutSegment path).2 = true ↔ ∃ p ∈ rs, Fits p (cutSegment path).2)) :
    searchParameters n qs path = true ↔ ∃ q ∈ qs, Fits (.parameter :: q) path := by
  rw [exists_fits_parameter_iff hpath hsingle, searchParameters,
    behindLongest?_of_same fun q hq q' hq' h h' =>
      hsame q hq q' hq' (endsWith_iff.1 h).1 (endsWith_iff.1 h').1]
  split_ifs with hnone
  · rw [List.filter_eq_nil_iff] at hnone
    simp only [Bool.and_eq_true, bne_iff_ne, getLast?_cutSegment, List.contains_iff_mem]
    constructor
    · rintro ⟨hslash, hmem⟩
      exact Or.inl ⟨hmem, hslash⟩
    · rintro (⟨hmem, hslash⟩ | ⟨q, hq, hends, -⟩)
      · exact ⟨hslash, hmem⟩
      · exact absurd hends (hnone q hq)
  · show search n _ _ = true ↔ _
    rw [ih _ rfl]
    simp only [List.mem_map, List.mem_filter]
    constructor
    · rintro ⟨_, ⟨q, ⟨hq, hends⟩, rfl⟩, hr⟩
      exact Or.inr ⟨q, hq, hends, hr⟩
    · rintro (⟨-, hslash⟩ | ⟨q, hq, hends, hr⟩)
      · -- The path ends here, and one of the suffixes ends it as well.
        obtain ⟨q, hq⟩ := List.exists_mem_of_ne_nil _ hnone
        rw [List.mem_filter, cutSegment_of_notMem hslash] at hq
        refine ⟨[], ⟨q, ?_, behindSuffix_of_endsWith (hsingle q hq.1) hslash hq.2⟩, ?_⟩
        · rw [cutSegment_of_notMem hslash]
          exact hq
        · rw [cutSegment_of_notMem hslash]
          rfl
      · exact ⟨_, ⟨q, ⟨hq, hends⟩, rfl⟩, hr⟩

theorem ne_slash_of_fits_parameter {p : Pattern} {c : Char} {r : List Char}
    (h : Fits (.parameter :: p) (c :: r)) : c ≠ '/' := by
  rintro rfl
  obtain ⟨value, r', hvalue, hslash, htext, -⟩ := h
  cases value with
  | nil => exact hvalue rfl
  | cons d value =>
    rw [List.cons_append, List.cons.injEq] at htext
    exact hslash (htext.1 ▸ List.mem_cons_self)

/-- Behind suffixes that fit, the patterns are as uniform as before. -/
theorem Uniform.behindSuffix {ps : List Pattern} {text : List Char} (h : Uniform ps)
    (hsingle : ∀ p ∈ ps, p.Single) :
    Uniform (((ps.filterMap Pattern.behindParameter?).filter (endsWith text)).map
      Pattern.behindSuffix) := by
  have hmem : ∀ q ∈ (ps.filterMap Pattern.behindParameter?).filter (endsWith text),
      .parameter :: q ∈ ps ∧ q ≠ [] := by
    intro q hq
    rw [List.mem_filter, mem_behindParameters] at hq
    exact ⟨hq.1, (endsWith_iff.1 hq.2).1⟩
  cases hqs : (ps.filterMap Pattern.behindParameter?).filter (endsWith text) with
  | nil => exact fun p hp => absurd hp List.not_mem_nil
  | cons first rest =>
    rw [← hqs]
    obtain ⟨hfirst, hfirst'⟩ := hmem first (hqs ▸ List.mem_cons_self)
    -- The same number of parts is dropped from all: the parameter and the suffix.
    refine h.of_drop (k := first.suffix.length + 1) ?_
    intro q hq
    obtain ⟨p, hp, rfl⟩ := List.mem_map.1 hq
    obtain ⟨hin, hne⟩ := hmem p hp
    refine ⟨_, hin, ?_⟩
    rw [behindSuffix_eq_drop (hsingle _ hin).1, List.drop_succ_cons,
      h _ hfirst _ hin 0 first p rfl rfl hfirst' hne]

theorem single_behindSuffix {ps : List Pattern} {text : List Char}
    (hsingle : ∀ p ∈ ps, p.Single) :
    ∀ q ∈ ((ps.filterMap Pattern.behindParameter?).filter (endsWith text)).map
      Pattern.behindSuffix, q.Single := by
  intro q hq
  obtain ⟨p, hp, rfl⟩ := List.mem_map.1 hq
  have hin := hsingle _ (mem_behindParameters.1 (List.mem_filter.1 hp).1)
  rw [behindSuffix_eq_drop hin.1]
  exact single_drop hin.2 _

theorem Uniform.behindLetters {ps : List Pattern} (h : Uniform ps) (c : Char) :
    Uniform (ps.filterMap (behindLetter? c)) :=
  h.of_drop (k := 1) fun q hq => ⟨.letter c :: q, mem_behindLetters.1 hq, rfl⟩

/-- The search finds what one of the patterns fits, if the bound on its steps is large enough. -/
theorem search_eq_true_iff {n : Nat} {ps : List Pattern} {path : List Char}
    (hn : path.length < n) (hsingle : ∀ p ∈ ps, p.Single) (huniform : Uniform ps) :
    search n ps path = true ↔ ∃ p ∈ ps, Fits p path := by
  induction n generalizing ps path with
  | zero => omega
  | succ n ih =>
    cases path with
    | nil => simp only [search, List.contains_iff_mem, fits_nil_iff_eq, exists_eq_right]
    | cons c r =>
      have hletter : search n (ps.filterMap (behindLetter? c)) r = true ↔
          ∃ p ∈ ps.filterMap (behindLetter? c), Fits p r :=
        ih (by simpa using hn)
          (fun q hq => show Single (.letter c :: q) from hsingle _ (mem_behindLetters.1 hq))
          (huniform.behindLetters c)
      have hrest : ps.any (fun p => p.head? = some .rest) = true ↔
          ∃ p ∈ ps, p.head? = some .rest := by simp
      have hparameter := searchParameters_iff n (ps.filterMap Pattern.behindParameter?)
        (List.cons_ne_nil c r)
        (fun q hq => (hsingle _ (mem_behindParameters.1 hq)).1)
        (fun q hq q' hq' => huniform _ (mem_behindParameters.1 hq) _
          (mem_behindParameters.1 hq') 0 q q' rfl rfl)
        (by
          rintro rs rfl
          have hshorter := length_cutSegment (List.cons_ne_nil c r)
          exact ih (by omega) (single_behindSuffix hsingle) (huniform.behindSuffix hsingle))
      have hslash : (∃ q ∈ ps.filterMap Pattern.behindParameter?,
          Fits (.parameter :: q) (c :: r)) → c ≠ '/' := by
        rintro ⟨q, -, hfits⟩
        exact ne_slash_of_fits_parameter hfits
      rw [exists_fits_cons, ← hletter, ← hrest, ← and_iff_right_of_imp hslash, ← hparameter,
        search_cons, Bool.or_eq_true, Bool.or_eq_true, Bool.and_eq_true, bne_iff_ne, or_assoc]

/-- The search finds a path if and only if one of the patterns fits it. -/
theorem anyMatch_eq_true_iff {ps : List Pattern} (hsingle : ∀ p ∈ ps, p.Single)
    (huniform : Uniform ps) (path : String) :
    anyMatch ps path = true ↔ ∃ p ∈ ps, Fits p path.toList :=
  search_eq_true_iff (Nat.lt_succ_self _) hsingle huniform

end Patterns

end AccessGateway
