/-
  Cutting text at a separator character. `splitOnce` cuts at the first separator,
  `splitAt` cuts at every one, `joinWith` puts the pieces together again, and `lines` cuts into
  lines that end at a line feed or at a carriage return and line feed.
-/

namespace AccessGateway

/-- The part before the first separator and the part after it, if there is a separator. -/
def splitOnce (sep : Char) : List Char → Option (List Char × List Char)
  | [] => none
  | c :: r =>
    if c = sep then some ([], r)
    else (splitOnce sep r).map fun p => (c :: p.1, p.2)

/-- The pieces between the separators; a text without one is a single piece. -/
def pieces (sep : Char) : List Char → List (List Char)
  | [] => [[]]
  | c :: r =>
    match pieces sep r with
    | [] => [[]]
    | p :: ps => if c = sep then [] :: p :: ps else (c :: p) :: ps

/-- The pieces one after another with the separator between them. -/
def joinWith (sep : Char) : List (List Char) → List Char
  | [] => []
  | [p] => p
  | p :: q :: ps => p ++ sep :: joinWith sep (q :: ps)

theorem splitOnce_eq_some_iff {sep : Char} {cs a b : List Char} :
    splitOnce sep cs = some (a, b) ↔ cs = a ++ sep :: b ∧ sep ∉ a := by
  induction cs generalizing a with
  | nil => simp [splitOnce]
  | cons c r ih =>
    by_cases hc : c = sep
    · subst hc
      constructor
      · intro h
        simp only [splitOnce, if_true, Option.some.injEq, Prod.mk.injEq] at h
        obtain ⟨rfl, rfl⟩ := h
        simp
      · rintro ⟨h, hn⟩
        cases a with
        | nil => simp_all [splitOnce]
        | cons x a =>
          simp only [List.cons_append, List.cons.injEq] at h
          exact absurd (h.1 ▸ List.mem_cons_self) hn
    · constructor
      · intro h
        simp only [splitOnce, hc, if_false, Option.map_eq_some_iff] at h
        obtain ⟨⟨x, y⟩, hxy, hp⟩ := h
        simp only [Prod.mk.injEq] at hp
        obtain ⟨rfl, rfl⟩ := hp
        obtain ⟨rfl, hn⟩ := ih.1 hxy
        exact ⟨rfl, by simp [hn, Ne.symm hc]⟩
      · rintro ⟨h, hn⟩
        cases a with
        | nil => simp_all
        | cons x a =>
          simp only [List.cons_append, List.cons.injEq] at h
          obtain ⟨rfl, rfl⟩ := h
          have hn' : sep ∉ a := fun hm => hn (List.mem_cons_of_mem _ hm)
          simp [splitOnce, hc, ih.2 ⟨rfl, hn'⟩]

theorem splitOnce_eq_none_iff {sep : Char} {cs : List Char} :
    splitOnce sep cs = none ↔ sep ∉ cs := by
  induction cs with
  | nil => simp [splitOnce]
  | cons c r ih =>
    by_cases hc : c = sep
    · simp [splitOnce, hc]
    · simp [splitOnce, hc, ih, Ne.symm hc]

theorem pieces_ne_nil (sep : Char) (cs : List Char) : pieces sep cs ≠ [] := by
  cases cs with
  | nil => simp [pieces]
  | cons c r =>
    simp only [pieces]
    split
    · simp
    · split <;> simp

theorem exists_pieces (sep : Char) (cs : List Char) : ∃ p ps, pieces sep cs = p :: ps :=
  List.exists_cons_of_ne_nil (pieces_ne_nil sep cs)

theorem pieces_sep_cons (sep : Char) (cs : List Char) :
    pieces sep (sep :: cs) = [] :: pieces sep cs := by
  obtain ⟨p, ps, h⟩ := exists_pieces sep cs
  simp [pieces, h]

theorem pieces_cons {sep c : Char} {cs p : List Char} {ps : List (List Char)} (hc : c ≠ sep)
    (h : pieces sep cs = p :: ps) : pieces sep (c :: cs) = (c :: p) :: ps := by
  simp [pieces, h, hc]

/-- Text without a separator goes to the front of the first piece. -/
theorem pieces_append {sep : Char} {a cs p : List Char} {ps : List (List Char)} (ha : sep ∉ a)
    (h : pieces sep cs = p :: ps) : pieces sep (a ++ cs) = (a ++ p) :: ps := by
  induction a with
  | nil => exact h
  | cons c r ih =>
    rw [List.mem_cons, not_or] at ha
    exact pieces_cons (Ne.symm ha.1) (ih ha.2)

theorem pieces_append_sep {sep : Char} {a cs : List Char} (ha : sep ∉ a) :
    pieces sep (a ++ sep :: cs) = a :: pieces sep cs := by
  rw [pieces_append ha (pieces_sep_cons sep cs), List.append_nil]

theorem pieces_of_notMem {sep : Char} {a : List Char} (ha : sep ∉ a) : pieces sep a = [a] := by
  have h := pieces_append ha (rfl : pieces sep [] = [[]])
  rwa [List.append_nil] at h

/-- Text in front of a separator and text behind it are cut on their own. -/
theorem pieces_append_sep_append (sep : Char) (a b : List Char) :
    pieces sep (a ++ sep :: b) = pieces sep a ++ pieces sep b := by
  induction a with
  | nil => exact pieces_sep_cons sep b
  | cons c r ih =>
    obtain ⟨p, ps, hr⟩ := exists_pieces sep r
    have hboth : pieces sep (r ++ sep :: b) = p :: (ps ++ pieces sep b) := by
      rw [ih, hr, List.cons_append]
    by_cases hc : c = sep
    · rw [hc, List.cons_append, pieces_sep_cons, pieces_sep_cons, ih, List.cons_append]
    · rw [List.cons_append, pieces_cons hc hboth, pieces_cons hc hr, List.cons_append]

/-- What stands at the front of the first piece stands at the front of the text. -/
theorem exists_of_pieces_append {sep : Char} {cs a p : List Char} {ps : List (List Char)}
    (h : pieces sep cs = (a ++ p) :: ps) : ∃ r, cs = a ++ r ∧ pieces sep r = p :: ps := by
  induction a generalizing cs with
  | nil => exact ⟨cs, rfl, h⟩
  | cons c a ih =>
    cases cs with
    | nil => simp [pieces] at h
    | cons d cs =>
      obtain ⟨q, qs, hq⟩ := exists_pieces sep cs
      by_cases hd : d = sep
      · subst hd
        simp [pieces_sep_cons] at h
      · rw [pieces_cons hd hq, List.cons_append, List.cons.injEq, List.cons.injEq] at h
        obtain ⟨⟨rfl, rfl⟩, rfl⟩ := h
        obtain ⟨r, rfl, hr⟩ := ih hq
        exact ⟨r, rfl, hr⟩

theorem sep_notMem_of_mem_pieces {sep : Char} {cs p : List Char} (h : p ∈ pieces sep cs) :
    sep ∉ p := by
  induction cs generalizing p with
  | nil =>
    obtain rfl := List.mem_singleton.1 h
    exact List.not_mem_nil
  | cons c r ih =>
    obtain ⟨q, qs, hq⟩ := exists_pieces sep r
    rw [hq] at ih
    by_cases hc : c = sep
    · rw [hc, pieces_sep_cons, hq] at h
      rcases List.mem_cons.1 h with rfl | h
      · exact List.not_mem_nil
      · exact ih h
    · rw [pieces_cons hc hq] at h
      rcases List.mem_cons.1 h with rfl | h
      · rw [List.mem_cons, not_or]
        exact ⟨Ne.symm hc, ih List.mem_cons_self⟩
      · exact ih (List.mem_cons_of_mem _ h)

theorem mem_of_mem_pieces {sep c : Char} {cs p : List Char} (hp : p ∈ pieces sep cs)
    (hc : c ∈ p) : c ∈ cs := by
  induction cs generalizing p with
  | nil =>
    obtain rfl := List.mem_singleton.1 hp
    exact hc
  | cons d r ih =>
    obtain ⟨q, qs, hq⟩ := exists_pieces sep r
    rw [hq] at ih
    by_cases hd : d = sep
    · rw [hd, pieces_sep_cons, hq] at hp
      rcases List.mem_cons.1 hp with rfl | hp
      · cases hc
      · exact List.mem_cons_of_mem _ (ih hp hc)
    · rw [pieces_cons hd hq] at hp
      rcases List.mem_cons.1 hp with rfl | hp
      · rcases List.mem_cons.1 hc with rfl | hc
        · exact List.mem_cons_self
        · exact List.mem_cons_of_mem _ (ih List.mem_cons_self hc)
      · exact List.mem_cons_of_mem _ (ih (List.mem_cons_of_mem _ hp) hc)

theorem joinWith_pieces (sep : Char) (cs : List Char) : joinWith sep (pieces sep cs) = cs := by
  induction cs with
  | nil => rfl
  | cons c r ih =>
    simp only [pieces]
    split
    · next h => exact absurd h (pieces_ne_nil sep r)
    · next p ps h =>
      rw [h] at ih
      split
      · next hc => simp [joinWith, ih, hc]
      · cases ps with
        | nil => simp_all [joinWith]
        | cons q qs => simp_all [joinWith]

theorem pieces_joinWith {sep : Char} {ps : List (List Char)} (hne : ps ≠ [])
    (h : ∀ p ∈ ps, sep ∉ p) : pieces sep (joinWith sep ps) = ps := by
  fun_induction joinWith sep ps with
  | case1 => exact absurd rfl hne
  | case2 p => exact pieces_of_notMem (h p List.mem_cons_self)
  | case3 p q ps ih =>
    have hrest := ih (by simp) fun x hx => h x (List.mem_cons_of_mem _ hx)
    rw [pieces_append_sep (h p List.mem_cons_self), hrest]

/-- The text without one carriage return at its end. -/
def dropReturn (cs : List Char) : List Char :=
  match cs.reverse with
  | '\r' :: r => r.reverse
  | _ => cs

/-- The pieces between line feeds, each but the last without the carriage return that ended
it; an empty last piece is no line. -/
def endedLines : List (List Char) → List (List Char)
  | [] => []
  | [last] => if last.isEmpty then [] else [last]
  | p :: q :: ps => dropReturn p :: endedLines (q :: ps)

/-- The lines of a text. -/
def lines (cs : List Char) : List (List Char) := endedLines (pieces '\n' cs)

end AccessGateway
