import AccessGateway.Proofs.Route.Bypass
import AccessGateway.Proofs.Route.Search
import AccessGateway.Proofs.Route.Spelling

/-
  Bypass lists whose routes are made of whole segments: each is literal text or a parameter. What
  passes is what the table says, entry by entry: a request passes if and only if some entry has a
  verb for its method and fits its path segment by segment. That the patterns of a method are
  searched together, that literal text goes before parameters, and what else the table holds makes
  no difference. Such patterns are `Single` and `Uniform`, as the search needs them (`Whole.single`,
  `uniform_of_whole`), and each fits as its text says (`HasWholeSegments.fits_iff`).
-/

namespace AccessGateway

namespace Pattern

/-- A segment that stands for itself. -/
def IsLiteral (s : List Char) : Prop := ∀ c ∈ s, IsPlain c

instance : DecidablePred IsPlain := fun c =>
  inferInstanceAs (Decidable (c ≠ ':' ∧ c ≠ opening ∧ c ≠ closing))

instance : DecidablePred IsLiteral := fun s => List.decidableBAll IsPlain s

/-- A segment that is a parameter as a whole, written in one of the two ways. Its name has
letters, digits and underscores. -/
def IsParameter (s : List Char) : Prop :=
  ∃ name, (∀ c ∈ name, isNameChar c = true) ∧
    (s = ':' :: name ∨ s = opening :: (name ++ [closing]))

/-- The name is all that stands behind the first character, or that without the last one. -/
theorem isParameter_iff {s : List Char} :
    IsParameter s ↔ ∃ name ∈ [s.tail, s.tail.dropLast], name.all isNameChar = true ∧
      (s = ':' :: name ∨ s = opening :: (name ++ [closing])) := by
  simp only [List.all_eq_true]
  constructor
  · rintro ⟨name, hname, hs⟩
    refine ⟨name, ?_, hname, hs⟩
    rcases hs with rfl | rfl <;> simp
  · rintro ⟨name, -, h⟩
    exact ⟨name, h⟩

instance : DecidablePred IsParameter := fun _ => decidable_of_iff _ isParameter_iff.symm

/-- A route of segments that are literal text or a parameter as a whole. -/
def HasWholeSegments (route : String) : Prop :=
  route.toList.head? = some '/' ∧ ∀ s ∈ pieces '/' route.toList, IsLiteral s ∨ IsParameter s

instance : DecidablePred HasWholeSegments := fun route =>
  inferInstanceAs (Decidable (route.toList.head? = some '/' ∧
    ∀ s ∈ pieces '/' route.toList, IsLiteral s ∨ IsParameter s))

/-- Whether a segment of such a route fits a segment of a path. -/
def SegmentFits (s x : List Char) : Prop := (IsLiteral s ∧ x = s) ∨ (IsParameter s ∧ x ≠ [])

instance (s x : List Char) : Decidable (SegmentFits s x) :=
  inferInstanceAs (Decidable ((IsLiteral s ∧ x = s) ∨ (IsParameter s ∧ x ≠ [])))

/-- Every parameter of a pattern is a segment as a whole. -/
def Whole : Pattern → Prop
  | [] => True
  | .letter _ :: p => Whole p
  | .parameter :: p => (p = [] ∨ p.head? = some (.letter '/')) ∧ Whole p
  | .rest :: _ => False

theorem Whole.drop {p : Pattern} (h : Whole p) (n : Nat) : Whole (p.drop n) := by
  induction n generalizing p with
  | zero => exact h
  | succ n ih =>
    cases p with
    | nil => exact h
    | cons x p =>
      cases x with
      | letter c => exact ih h
      | parameter => exact ih h.2
      | rest => exact absurd h id

theorem eq_slash_cons {p : Pattern} (h : p.head? = some (.letter '/')) :
    ∃ q, p = .letter '/' :: q := by
  cases p with
  | nil => cases h
  | cons x q => exact ⟨q, by rw [Option.some.inj h]⟩

theorem Whole.single {p : Pattern} (h : Whole p) : Single p := by
  induction p with
  | nil => trivial
  | cons x p ih =>
    cases x with
    | letter c => exact ih h
    | parameter =>
      refine ⟨?_, ih h.2⟩
      obtain rfl | hslash := h.1
      · rfl
      · obtain ⟨q, rfl⟩ := eq_slash_cons hslash
        rfl
    | rest => exact absurd h id

/-- Behind such a parameter there is nothing or a slash. -/
theorem uniform_of_whole {ps : List Pattern} (h : ∀ p ∈ ps, Whole p) : Patterns.Uniform ps := by
  have hsuffix : ∀ p ∈ ps, ∀ (n : Nat) (r : Pattern), p.drop n = .parameter :: r → r ≠ [] →
      r.suffix = ['/'] := by
    intro p hp n r hr hne
    have hwhole := (h p hp).drop n
    rw [hr] at hwhole
    obtain ⟨q, rfl⟩ := eq_slash_cons (hwhole.1.resolve_left hne)
    rfl
  intro p hp q hq n r s hr hs hner hnes
  rw [hsuffix p hp n r hr hner, hsuffix q hq n s hs hnes]

theorem whole_of_segments {p : Pattern} (hrest : .rest ∉ p)
    (h : ∀ s ∈ segments p, s = [.parameter] ∨ ∀ x ∈ s, x.isLetter = true) : Whole p := by
  induction p with
  | nil => trivial
  | cons x p ih =>
    rw [List.mem_cons, not_or] at hrest
    obtain ⟨s, ss, hs⟩ := exists_segments p
    by_cases hslash : x = .letter '/'
    · subst hslash
      rw [segments_slash] at h
      exact ih hrest.2 fun t ht => h t (List.mem_cons_of_mem _ ht)
    · rw [segments_cons hslash hs, List.forall_mem_cons] at h
      rw [hs, List.forall_mem_cons] at ih
      cases x with
      | letter c =>
        obtain hparameter | hletters := h.1
        · cases hparameter
        · exact ih hrest.2 ⟨Or.inr fun x hx => hletters x (List.mem_cons_of_mem _ hx), h.2⟩
      | parameter =>
        obtain hparameter | hletters := h.1
        · obtain rfl := (List.cons.inj hparameter).2
          refine ⟨?_, ih hrest.2 ⟨Or.inr (by simp), h.2⟩⟩
          cases p with
          | nil => exact Or.inl rfl
          | cons y q =>
            by_cases hy : y = .letter '/'
            · exact Or.inr (by rw [hy]; rfl)
            · -- Any other part would belong to the segment of the parameter.
              obtain ⟨t, ts, ht⟩ := exists_segments q
              rw [segments_cons hy ht] at hs
              cases hs
        · exact absurd (hletters _ List.mem_cons_self) (by simp [Part.isLetter])
      | rest => exact absurd rfl hrest.1

theorem spells_parameter {s : List Char} (h : IsParameter s) : Spells s [.parameter] := by
  obtain ⟨name, hname, rfl | rfl⟩ := h
  · simpa using Spells.colon hname (fun c hc => by cases hc) .nil
  · exact .braces hname .nil

/-- No segment is read in both ways. -/
theorem not_isLiteral_of_isParameter {s : List Char} (h : IsParameter s) : ¬IsLiteral s := by
  obtain ⟨name, -, rfl | rfl⟩ := h
  · exact fun hs => (hs _ List.mem_cons_self).1 rfl
  · exact fun hs => (hs _ List.mem_cons_self).2.1 rfl

theorem fits_iff_segmentFits {s : List Char} {q : Pattern} (hs : IsLiteral s ∨ IsParameter s)
    (h : Spells s q) {x : List Char} (hx : '/' ∉ x) : Fits q x ↔ SegmentFits s x := by
  obtain hliteral | hparameter := hs
  · have hnot : ¬IsParameter s := fun hp => not_isLiteral_of_isParameter hp hliteral
    rw [h.unique (spells_ofLetters hliteral), fits_ofLetters, SegmentFits]
    simp only [hliteral, hnot, true_and, false_and, or_false]
  · have hnot := not_isLiteral_of_isParameter hparameter
    have hfits : Fits (ofLetters [] ++ .parameter :: ofLetters []) x ↔ x ≠ [] := by
      rw [fits_affixes hx]
      simp
    rw [h.unique (spells_parameter hparameter), SegmentFits]
    simp only [hparameter, hnot, true_and, false_and, false_or]
    exact hfits

/-! ## Routes of whole segments -/

variable {route : String}

/-- Such a route is spelled in one way, and its parameters are whole segments. -/
theorem HasWholeSegments.exists_spells (h : HasWholeSegments route) :
    ∃ p, Spells route.toList p ∧ Whole p ∧ p ≠ [] := by
  have hsegment : ∀ s ∈ pieces '/' route.toList, ∃ q, Spells s q := by
    intro s hs
    obtain hliteral | hparameter := h.2 s hs
    · exact ⟨_, spells_ofLetters hliteral⟩
    · exact ⟨_, spells_parameter hparameter⟩
  obtain ⟨p, hp⟩ := exists_spells_joinWith hsegment
  rw [joinWith_pieces] at hp
  refine ⟨p, hp, whole_of_segments hp.rest_notMem ?_, ?_⟩
  · intro q hq
    obtain ⟨s, hs, hsq⟩ := exists_of_forall₂ hp.forall₂ hq
    obtain hliteral | hparameter := h.2 s hs
    · refine Or.inr fun x hx => ?_
      rw [hsq.unique (spells_ofLetters hliteral)] at hx
      obtain ⟨c, -, rfl⟩ := List.mem_map.1 hx
      rfl
    · exact Or.inl (hsq.unique (spells_parameter hparameter))
  · obtain ⟨r, hr⟩ := List.head?_eq_some_iff.1 h.1
    exact (hr ▸ hp).ne_nil

/-- What the reader makes of such a route. -/
theorem HasWholeSegments.of_parse (h : HasWholeSegments route) {p : Pattern}
    (hp : parse route = .ok p) : Spells route.toList p ∧ Whole p ∧ p ≠ [] := by
  obtain ⟨q, hq, hwhole, hne⟩ := h.exists_spells
  rw [hq.eq_of_parse hp]
  exact ⟨hq, hwhole, hne⟩

/-- Such a route fits a path segment by segment. -/
theorem HasWholeSegments.fits_iff (h : HasWholeSegments route) {p : Pattern}
    (hp : Spells route.toList p) (path : List Char) :
    Fits p path ↔ List.Forall₂ SegmentFits (pieces '/' route.toList) (pieces '/' path) :=
  hp.fits_iff (fun s hs _ _ hsq _ hx => fits_iff_segmentFits (h.2 s hs) hsq hx) path

end Pattern

namespace BypassList

open Pattern (HasWholeSegments SegmentFits Fits)

variable {c : BypassConfig} {b : BypassList}

/-- A list of routes of whole segments lets through what its configuration says entry by entry. A
request passes if and only if some entry has a verb for its method and fits its path; how the
entries of a method overlap plays no part, and neither do the other methods. -/
theorem letsThrough_iff_exists_entry (h : ofConfig c = .ok b)
    (hwhole : ∀ e ∈ c.entries, HasWholeSegments e.1) (method path : String) :
    b.letsThrough method path = true ↔
      ∃ e ∈ c.entries, (∃ verb ∈ e.2, Ascii.upper verb = method) ∧
        List.Forall₂ SegmentFits (pieces '/' e.1.toList) (pieces '/' path.toList) := by
  have hroutes : ∀ e ∈ c.entries, Pattern.parse e.1 ≠ .ok [] :=
    fun e he hnil => ((hwhole e he).of_parse hnil).2.2 rfl
  have hmem := mem_patterns_of_ofConfig h hroutes method
  have hpatterns : ∀ p ∈ b.patterns method, p.Whole := by
    intro p hp
    obtain ⟨e, he, -, hparse⟩ := (hmem p).1 hp
    exact ((hwhole e he).of_parse hparse).2.1
  rw [letsThrough, Patterns.anyMatch_eq_true_iff (fun p hp => (hpatterns p hp).single)
    (Pattern.uniform_of_whole hpatterns)]
  constructor
  · rintro ⟨p, hp, hfits⟩
    obtain ⟨e, he, hverb, hparse⟩ := (hmem p).1 hp
    have hspells := ((hwhole e he).of_parse hparse).1
    exact ⟨e, he, hverb, ((hwhole e he).fits_iff hspells _).1 hfits⟩
  · rintro ⟨e, he, ⟨verb, hverb, hmethod⟩, hfits⟩
    obtain ⟨p, hparse⟩ := parses_of_ofConfig h hroutes he hverb
    have hspells := ((hwhole e he).of_parse hparse).1
    exact ⟨p, (hmem p).2 ⟨e, he, ⟨verb, hverb, hmethod⟩, hparse⟩,
      ((hwhole e he).fits_iff hspells _).2 hfits⟩

/-- Two routes of a method that fit the same paths and one that they overlap with. -/
def overlapping : BypassConfig :=
  Table.ofList [("/a/b", ["GET", "post"]), ("/a/:x", ["get"]), ("/\x7by\x7d/b", ["Get"])]

theorem letsThrough_iff_exists_entry_overlapping : ∃ b, ofConfig overlapping = .ok b ∧
    b.letsThrough "GET" "/a/c" = true ∧ b.letsThrough "GET" "/c/b" = true ∧
    b.letsThrough "POST" "/a/c" = false := by
  obtain ⟨b, hb⟩ := Outcome.exists_of_isOk (x := ofConfig overlapping) (by decide)
  have hiff := letsThrough_iff_exists_entry hb (by decide)
  refine ⟨b, hb, (hiff _ _).2 (by decide), (hiff _ _).2 (by decide), ?_⟩
  rw [Bool.eq_false_iff]
  exact fun h => absurd ((hiff _ _).1 h) (by decide)

end BypassList

end AccessGateway
