import AccessGateway.Proofs.Route.Fitting
import Mathlib.Data.List.TakeWhile

/-
  How patterns without literal braces are written: a grammar (`Spells`) beside the reader. A
  character that is no mark stands for itself, and a parameter is written with a colon or in
  braces; behind a colon the name goes on as long as it can. The grammar gives a text at most one
  pattern (`Spells.unique`), the reader gives none but that (`Spells.eq_of_parse`), and a text is
  spelled segment by segment (`Spells.forall₂`), so that it fits a path segment by segment as well
  (`Spells.fits_iff`).
-/

namespace AccessGateway.Pattern

/-- A character that stands for itself. -/
def IsPlain (c : Char) : Prop := c ≠ ':' ∧ c ≠ opening ∧ c ≠ closing

/-- A text does not begin with a character of a name. -/
def EndsName (s : List Char) : Prop := ∀ c, s.head? = some c → isNameChar c = false

/-- The pattern that a text spells. Whether names are empty plays no part here. -/
inductive Spells : List Char → Pattern → Prop
  | nil : Spells [] []
  | letter {c : Char} {s : List Char} {p : Pattern} :
    IsPlain c → Spells s p → Spells (c :: s) (.letter c :: p)
  | colon {name s : List Char} {p : Pattern} :
    (∀ c ∈ name, isNameChar c = true) → EndsName s → Spells s p →
      Spells (':' :: (name ++ s)) (.parameter :: p)
  | braces {name s : List Char} {p : Pattern} :
    (∀ c ∈ name, isNameChar c = true) → Spells s p →
      Spells (opening :: (name ++ closing :: s)) (.parameter :: p)

/-! ## Characters of names -/

theorem isPlain_of_isNameChar {c : Char} (h : isNameChar c = true) : IsPlain c := by
  refine ⟨?_, ?_, ?_⟩
  all_goals
    rintro rfl
    exact absurd h (by decide)

theorem ne_of_isNameChar {c : Char} (h : isNameChar c = true) : c ≠ '*' ∧ c ≠ '/' := by
  refine ⟨?_, ?_⟩
  all_goals
    rintro rfl
    exact absurd h (by decide)

theorem dropWhile_name {name s : List Char} (hname : ∀ c ∈ name, isNameChar c = true)
    (hs : EndsName s) : (name ++ s).dropWhile isNameChar = s := by
  rw [List.dropWhile_append_of_pos hname]
  cases s with
  | nil => rfl
  | cons c s => simp [hs c rfl]

theorem endsName_dropWhile (s : List Char) : EndsName (s.dropWhile isNameChar) := by
  intro c hc
  have h := List.head?_dropWhile_not isNameChar s
  rw [hc] at h
  exact h

theorem closing_notMem_name {name : List Char} (hname : ∀ c ∈ name, isNameChar c = true) :
    closing ∉ name := fun h => (isPlain_of_isNameChar (hname _ h)).2.2 rfl

/-! ## One text, one pattern -/

theorem Spells.unique {s : List Char} {p q : Pattern} (hp : Spells s p) (hq : Spells s q) :
    p = q := by
  induction hp generalizing q with
  | nil =>
    cases hq
    rfl
  | letter hc _ ih =>
    cases hq with
    | letter _ h => rw [ih h]
    | colon => exact absurd rfl hc.1
    | braces => exact absurd rfl hc.2.1
  | @colon name s p hname hs _ ih =>
    generalize ht : ':' :: (name ++ s) = t at hq
    cases hq with
    | nil => cases ht
    | letter hc => exact absurd (List.cons.inj ht).1.symm hc.1
    | @colon name' s' q hname' hs' h =>
      have hrest := congrArg (List.dropWhile isNameChar) (List.cons.inj ht).2
      rw [dropWhile_name hname hs, dropWhile_name hname' hs'] at hrest
      rw [ih (hrest ▸ h)]
    | braces => exact absurd (List.cons.inj ht).1 (by decide)
  | @braces name s p hname _ ih =>
    generalize ht : opening :: (name ++ closing :: s) = t at hq
    cases hq with
    | nil => cases ht
    | letter hc => exact absurd (List.cons.inj ht).1.symm hc.2.1
    | colon => exact absurd (List.cons.inj ht).1 (by decide)
    | @braces name' s' q hname' h =>
      have hcut := splitOnce_eq_some_iff.2 ⟨(List.cons.inj ht).2, closing_notMem_name hname'⟩
      rw [splitOnce_eq_some_iff.2 ⟨rfl, closing_notMem_name hname⟩, Option.some.injEq,
        Prod.mk.injEq] at hcut
      rw [ih (hcut.2 ▸ h)]

/-- Every text without braces spells a pattern. -/
theorem exists_spells {s : List Char} (h : ∀ c ∈ s, c ≠ opening ∧ c ≠ closing) :
    ∃ p, Spells s p := by
  induction hn : s.length using Nat.strongRecOn generalizing s with
  | ind n ih =>
    subst hn
    cases s with
    | nil => exact ⟨[], .nil⟩
    | cons c s =>
      rw [List.forall_mem_cons] at h
      by_cases hc : c = ':'
      · have hshorter : (s.dropWhile isNameChar).length < (c :: s).length :=
          Nat.lt_succ_of_le (List.dropWhile_suffix _).length_le
        obtain ⟨p, hp⟩ := ih _ hshorter
          (fun d hd => h.2 d ((List.dropWhile_suffix _).subset hd)) rfl
        refine ⟨.parameter :: p, ?_⟩
        rw [hc, ← List.takeWhile_append_dropWhile (p := isNameChar) (l := s)]
        exact .colon (fun d hd => List.mem_takeWhile_imp hd) (endsName_dropWhile s) hp
      · obtain ⟨p, hp⟩ := ih _ (Nat.lt_succ_self _) h.2 rfl
        exact ⟨_, .letter ⟨hc, h.1⟩ hp⟩

/-! ## Letters and parameters -/

theorem spells_ofLetters_append {cs s : List Char} {p : Pattern} (hcs : ∀ c ∈ cs, IsPlain c)
    (h : Spells s p) : Spells (cs ++ s) (ofLetters cs ++ p) := by
  induction cs with
  | nil => exact h
  | cons c cs ih =>
    rw [List.forall_mem_cons] at hcs
    exact .letter hcs.1 (ih hcs.2)

theorem spells_ofLetters {cs : List Char} (hcs : ∀ c ∈ cs, IsPlain c) :
    Spells cs (ofLetters cs) := by
  simpa using spells_ofLetters_append hcs .nil

/-- Two texts are spelled one behind the other, unless the second would go on with a name. -/
theorem Spells.append {s t : List Char} {p q : Pattern} (hp : Spells s p) (ht : EndsName t)
    (hq : Spells t q) : Spells (s ++ t) (p ++ q) := by
  induction hp with
  | nil => exact hq
  | letter hc _ ih => exact .letter hc ih
  | @colon name s p hname hs _ ih =>
    have hends : EndsName (s ++ t) := by
      cases s with
      | nil => exact ht
      | cons c s => exact hs
    rw [List.cons_append, List.append_assoc]
    exact .colon hname hends ih
  | @braces name s p hname _ ih =>
    rw [List.cons_append, List.append_assoc, List.cons_append]
    exact .braces hname ih

/-- Texts that are spelled one by one are spelled together, with slashes between them. -/
theorem exists_spells_joinWith {ps : List (List Char)} (h : ∀ s ∈ ps, ∃ q, Spells s q) :
    ∃ p, Spells (joinWith '/' ps) p := by
  have hslash : ∀ t, EndsName ('/' :: t) := by
    rintro t c ⟨⟩
    decide
  fun_induction joinWith '/' ps with
  | case1 => exact ⟨[], .nil⟩
  | case2 s => exact h s List.mem_cons_self
  | case3 s t ps ih =>
    obtain ⟨q, hq⟩ := h s List.mem_cons_self
    obtain ⟨p, hp⟩ := ih fun x hx => h x (List.mem_cons_of_mem _ hx)
    exact ⟨_, hq.append (hslash _) (.letter (by unfold IsPlain; decide) hp)⟩

/-- A pattern of letters is spelled by these letters alone. -/
theorem Spells.eq_ofLetters {s : List Char} {p : Pattern} (h : Spells s p)
    (hp : ∀ x ∈ p, x.isLetter = true) : p = ofLetters s := by
  induction h with
  | nil => rfl
  | letter hc _ ih =>
    rw [List.forall_mem_cons] at hp
    rw [ih hp.2]
    rfl
  | colon => exact absurd (hp _ List.mem_cons_self) (by simp [Part.isLetter])
  | braces => exact absurd (hp _ List.mem_cons_self) (by simp [Part.isLetter])

theorem Spells.rest_notMem {s : List Char} {p : Pattern} (h : Spells s p) : .rest ∉ p := by
  induction h with
  | nil => exact List.not_mem_nil
  | letter _ _ ih => simpa using ih
  | colon _ _ _ ih => simpa using ih
  | braces _ _ ih => simpa using ih

theorem Spells.ne_nil {c : Char} {s : List Char} {p : Pattern} (h : Spells (c :: s) p) :
    p ≠ [] := by
  rintro rfl
  cases h

/-! ## Segments -/

/-- A text is spelled segment by segment. -/
theorem Spells.forall₂ {s : List Char} {p : Pattern} (h : Spells s p) :
    List.Forall₂ Spells (pieces '/' s) (segments p) := by
  induction h with
  | nil => exact .cons .nil .nil
  | @letter c s p hc _ ih =>
    by_cases hslash : c = '/'
    · subst hslash
      rw [pieces_sep_cons, segments_slash]
      exact .cons .nil ih
    · obtain ⟨x, xs, hx⟩ := exists_pieces '/' s
      obtain ⟨y, ys, hy⟩ := exists_segments p
      rw [hx, hy] at ih
      obtain ⟨hhead, htail⟩ := List.forall₂_cons.1 ih
      rw [pieces_cons hslash hx, segments_cons (by simpa using hslash) hy]
      exact .cons (.letter hc hhead) htail
  | @colon name s p hname hs _ ih =>
    obtain ⟨x, xs, hx⟩ := exists_pieces '/' s
    obtain ⟨y, ys, hy⟩ := exists_segments p
    have hslash : '/' ∉ ':' :: name := by
      rw [List.mem_cons, not_or]
      exact ⟨by decide, fun h => (ne_of_isNameChar (hname _ h)).2 rfl⟩
    -- The first segment begins as all of the text does, so the name ends there as well.
    have hx' : EndsName x := by
      intro c hc
      cases x with
      | nil => cases hc
      | cons d x =>
        obtain rfl := Option.some.inj hc
        obtain ⟨r, rfl, -⟩ := exists_of_pieces_append (a := [d]) hx
        exact hs d rfl
    rw [hx, hy] at ih
    obtain ⟨hhead, htail⟩ := List.forall₂_cons.1 ih
    rw [← List.cons_append, pieces_append hslash hx, segments_cons (by simp) hy]
    exact .cons (.colon hname hx' hhead) htail
  | @braces name s p hname _ ih =>
    obtain ⟨x, xs, hx⟩ := exists_pieces '/' s
    obtain ⟨y, ys, hy⟩ := exists_segments p
    have hslash : '/' ∉ opening :: (name ++ [closing]) := by
      rw [List.mem_cons, List.mem_append, List.mem_singleton, not_or, not_or]
      exact ⟨by decide, fun h => (ne_of_isNameChar (hname _ h)).2 rfl, by decide⟩
    rw [hx, hy] at ih
    obtain ⟨hhead, htail⟩ := List.forall₂_cons.1 ih
    have hsplit : ∀ t, opening :: (name ++ closing :: t) = (opening :: (name ++ [closing])) ++ t :=
      fun t => by simp
    rw [hsplit, pieces_append hslash hx, segments_cons (by simp) hy, ← hsplit]
    exact .cons (.braces hname hhead) htail

theorem exists_of_forall₂ {α β : Type} {S : α → β → Prop} {as : List α} {bs : List β}
    (h : List.Forall₂ S as bs) {b : β} (hb : b ∈ bs) : ∃ a ∈ as, S a b := by
  induction h with
  | nil => cases hb
  | @cons a b' as bs hab _ ih =>
    rcases List.mem_cons.1 hb with rfl | hb
    · exact ⟨a, List.mem_cons_self, hab⟩
    · obtain ⟨a', ha', h⟩ := ih hb
      exact ⟨a', List.mem_cons_of_mem _ ha', h⟩

/-- Two ways to say what an entry goes with may be exchanged entry by entry. -/
theorem forall₂_iff_of_forall₂ {α β γ : Type} {S : α → β → Prop} {F : β → γ → Prop}
    {R : α → γ → Prop} {as : List α} {bs : List β} {cs : List γ} (h : List.Forall₂ S as bs)
    (hiff : ∀ a ∈ as, ∀ b ∈ bs, S a b → ∀ c ∈ cs, (F b c ↔ R a c)) :
    List.Forall₂ F bs cs ↔ List.Forall₂ R as cs := by
  induction h generalizing cs with
  | nil => rw [List.forall₂_nil_left_iff, List.forall₂_nil_left_iff]
  | @cons a b as bs hab _ ih =>
    cases cs with
    | nil => simp
    | cons c cs =>
      rw [List.forall₂_cons, List.forall₂_cons,
        hiff a List.mem_cons_self b List.mem_cons_self hab c List.mem_cons_self, ih]
      intro a' ha b' hb hab' c' hc
      exact hiff a' (List.mem_cons_of_mem _ ha) b' (List.mem_cons_of_mem _ hb) hab' c'
        (List.mem_cons_of_mem _ hc)

/-- A spelled pattern fits a path if and only if every segment of its text does, in whatever way
that is said of a segment. -/
theorem Spells.fits_iff {s : List Char} {p : Pattern} (h : Spells s p)
    {R : List Char → List Char → Prop}
    (hR : ∀ t ∈ pieces '/' s, ∀ q ∈ segments p, Spells t q → ∀ x, '/' ∉ x → (Fits q x ↔ R t x))
    (path : List Char) :
    Fits p path ↔ List.Forall₂ R (pieces '/' s) (pieces '/' path) := by
  rw [fits_iff_forall₂ h.rest_notMem]
  exact forall₂_iff_of_forall₂ h.forall₂ fun t ht q hq htq x hx =>
    hR t ht q hq htq x (sep_notMem_of_mem_pieces hx)

/-! ## The reader -/

theorem bracesForColons_cons {c : Char} (hc : c ≠ ':') (s : List Char) :
    bracesForColons false (c :: s) = c :: bracesForColons false s := by
  simp [bracesForColons, hc]

theorem bracesForColons_append {cs : List Char} (hcs : ':' ∉ cs) (s : List Char) :
    bracesForColons false (cs ++ s) = cs ++ bracesForColons false s := by
  induction cs with
  | nil => rfl
  | cons c cs ih =>
    rw [List.mem_cons, not_or] at hcs
    rw [List.cons_append, bracesForColons_cons (Ne.symm hcs.1), ih hcs.2, List.cons_append]

/-- A name ends before the first character that may not be in it. -/
theorem bracesForColons_name {name s : List Char} (hname : ∀ c ∈ name, isNameChar c = true)
    (hs : EndsName s) :
    bracesForColons true (name ++ s) = name ++ closing :: bracesForColons false s := by
  induction name with
  | nil =>
    cases s with
    | nil => rfl
    | cons c s =>
      have hc : isNameChar c = false := hs c rfl
      by_cases hcolon : c = ':' <;> simp [bracesForColons, hcolon, hc]
  | cons c name ih =>
    rw [List.forall_mem_cons] at hname
    have hcolon := (isPlain_of_isNameChar hname.1).1
    simp [bracesForColons, hcolon, hname.1, ih hname.2]

theorem bracesForColons_colon {name s : List Char} (hname : ∀ c ∈ name, isNameChar c = true)
    (hs : EndsName s) :
    bracesForColons false (':' :: (name ++ s)) =
      opening :: (name ++ closing :: bracesForColons false s) := by
  rw [← bracesForColons_name hname hs]
  simp [bracesForColons]

theorem bracesForColons_braces {name : List Char} (hname : ∀ c ∈ name, isNameChar c = true)
    (s : List Char) :
    bracesForColons false (opening :: (name ++ closing :: s)) =
      opening :: (name ++ closing :: bracesForColons false s) := by
  have hcolon : ':' ∉ name := fun h => (isPlain_of_isNameChar (hname _ h)).1 rfl
  rw [bracesForColons_cons (by decide), bracesForColons_append hcolon,
    bracesForColons_cons (by decide)]

/-- A character as it stands, if no brace of its own kind follows a brace. -/
theorem glyphs_cons {c : Char} {s : List Char}
    (h : c = opening ∨ c = closing → s.head? ≠ some c) :
    glyphs (c :: s) = ⟨c, false⟩ :: glyphs s := by
  cases s with
  | nil => rfl
  | cons d s =>
    rw [glyphs, if_neg]
    rintro ⟨hc, rfl⟩
    exact h hc rfl

theorem glyphs_append {cs : List Char} (hcs : ∀ c ∈ cs, IsPlain c) (s : List Char) :
    glyphs (cs ++ s) = cs.map (⟨·, false⟩) ++ glyphs s := by
  induction cs with
  | nil => rfl
  | cons c cs ih =>
    rw [List.forall_mem_cons] at hcs
    rw [List.cons_append, glyphs_cons, ih hcs.2]
    · rfl
    · rintro (h | h)
      · exact absurd h hcs.1.2.1
      · exact absurd h hcs.1.2.2

/-- A parameter in braces. -/
theorem glyphs_parameter {name s : List Char} (hname : ∀ c ∈ name, isNameChar c = true)
    (hs : s.head? ≠ some closing) :
    glyphs (opening :: (name ++ closing :: s)) =
      ⟨opening, false⟩ :: (name.map (⟨·, false⟩) ++ ⟨closing, false⟩ :: glyphs s) := by
  have hopening : (name ++ closing :: s).head? ≠ some opening := by
    cases name with
    | nil => simp [opening, closing]
    | cons c name =>
      have hc := (isPlain_of_isNameChar (hname c List.mem_cons_self)).2.1
      simpa using hc
  rw [glyphs_cons fun _ => hopening,
    glyphs_append fun c hc => isPlain_of_isNameChar (hname c hc), glyphs_cons fun _ => hs]

/-- What is written for a parameter begins with an opening brace, so a closing one comes first
nowhere. -/
theorem Spells.head?_bracesForColons {s : List Char} {p : Pattern} (h : Spells s p) :
    (bracesForColons false s).head? ≠ some closing := by
  cases h with
  | nil => simp [bracesForColons]
  | letter hc _ =>
    rw [bracesForColons_cons hc.1]
    simpa using hc.2.2
  | colon hname hs _ =>
    rw [bracesForColons_colon hname hs]
    simp [opening, closing]
  | braces hname _ =>
    rw [bracesForColons_braces hname]
    simp [opening, closing]

/-- The characters that the reader sees when it reads a pattern. -/
def written (s : List Char) : List Glyph := glyphs (bracesForColons false s)

theorem written_letter {c : Char} (hc : IsPlain c) (s : List Char) :
    written (c :: s) = ⟨c, false⟩ :: written s := by
  rw [written, bracesForColons_cons hc.1, glyphs_cons]
  · rfl
  · rintro (h | h)
    · exact absurd h hc.2.1
    · exact absurd h hc.2.2

theorem Spells.written_colon {name s : List Char} {p : Pattern} (h : Spells s p)
    (hname : ∀ c ∈ name, isNameChar c = true) (hs : EndsName s) :
    written (':' :: (name ++ s)) =
      ⟨opening, false⟩ :: (name.map (⟨·, false⟩) ++ ⟨closing, false⟩ :: written s) := by
  rw [written, bracesForColons_colon hname hs, glyphs_parameter hname h.head?_bracesForColons]
  rfl

theorem Spells.written_braces {name s : List Char} {p : Pattern} (h : Spells s p)
    (hname : ∀ c ∈ name, isNameChar c = true) :
    written (opening :: (name ++ closing :: s)) =
      ⟨opening, false⟩ :: (name.map (⟨·, false⟩) ++ ⟨closing, false⟩ :: written s) := by
  rw [written, bracesForColons_braces hname, glyphs_parameter hname h.head?_bracesForColons]
  rfl

/-- No literal brace is written. -/
theorem Spells.literal_head?_written {s : List Char} {p : Pattern} (h : Spells s p) (g : Glyph)
    (hg : (written s).head? = some g) : g.literal = false := by
  cases h with
  | nil => cases hg
  | letter hc _ =>
    rw [written_letter hc] at hg
    exact Option.some.inj hg ▸ rfl
  | colon hname hs h =>
    rw [h.written_colon hname hs] at hg
    exact Option.some.inj hg ▸ rfl
  | braces hname h =>
    rw [h.written_braces hname] at hg
    exact Option.some.inj hg ▸ rfl

theorem nameFrom?_name {name : List Char} (hname : ∀ c ∈ name, isNameChar c = true)
    (size : Nat) (gs : List Glyph) :
    ∃ n, nameFrom? false size (name.map (⟨·, false⟩) ++ ⟨closing, false⟩ :: gs) =
      some ⟨false, n, gs⟩ := by
  induction name generalizing size with
  | nil => exact ⟨size + 2, by simp [nameFrom?, Glyph.isMark]⟩
  | cons c name ih =>
    rw [List.forall_mem_cons] at hname
    obtain ⟨n, hn⟩ := ih hname.2 (size + Glyph.size ⟨c, false⟩)
    have hclosing := (isPlain_of_isNameChar hname.1).2.2
    have hmark := ne_of_isNameChar hname.1
    refine ⟨n, ?_⟩
    rw [List.map_cons, List.cons_append, nameFrom?, ← hn]
    simp [Glyph.isMark, hclosing, hmark]

/-- A name in braces is read up to the closing brace; an empty one is no name. -/
theorem eq_of_name? {name : List Char} (hname : ∀ c ∈ name, isNameChar c = true)
    {gs : List Glyph} {x : Name}
    (h : name? (name.map (⟨·, false⟩) ++ ⟨closing, false⟩ :: gs) = some x) :
    x.takesRest = false ∧ x.behind = gs := by
  cases name with
  | nil => simp [name?] at h
  | cons c name =>
    rw [List.forall_mem_cons] at hname
    obtain ⟨n, hn⟩ := nameFrom?_name hname.2 (Glyph.size ⟨c, false⟩) gs
    have hclosing := (isPlain_of_isNameChar hname.1).2.2
    have hstar : decide (c = '*') = false := by simpa using (ne_of_isNameChar hname.1).1
    simp only [List.map_cons, List.cons_append, name?, hclosing, if_false, hstar, hn,
      Option.some.injEq] at h
    rw [← h]
    exact ⟨rfl, rfl⟩

theorem exists_of_parts?_letter {c : Char} (hc : IsPlain c) {n : Nat} {gs : List Glyph}
    {q : Pattern} (h : parts? n (⟨c, false⟩ :: gs) = some q) :
    ∃ m r, q = .letter c :: r ∧ parts? m gs = some r := by
  cases n with
  | zero => cases h
  | succ n =>
    have hopening : Glyph.isMark ⟨c, false⟩ opening = false := by simp [Glyph.isMark, hc.2.1]
    have hclosing : Glyph.isMark ⟨c, false⟩ closing = false := by simp [Glyph.isMark, hc.2.2]
    simp only [parts?, hopening, hclosing, Bool.false_eq_true, if_false,
      Option.map_eq_some_iff] at h
    obtain ⟨r, hr, rfl⟩ := h
    exact ⟨n, r, rfl, hr⟩

theorem exists_of_parts?_parameter {name : List Char}
    (hname : ∀ c ∈ name, isNameChar c = true) {n : Nat} {gs : List Glyph} {q : Pattern}
    (hgs : ∀ g, gs.head? = some g → g.literal = false)
    (h : parts? n (⟨opening, false⟩ ::
      (name.map (⟨·, false⟩) ++ ⟨closing, false⟩ :: gs)) = some q) :
    ∃ m r, q = .parameter :: r ∧ parts? m gs = some r := by
  cases n with
  | zero => cases h
  | succ n =>
    have hopening : Glyph.isMark ⟨opening, false⟩ opening = true := by decide
    have hclosing : Glyph.isMark ⟨opening, false⟩ closing = false := by decide
    simp only [parts?, hopening, hclosing, Bool.false_eq_true, if_false, if_true] at h
    split at h
    · cases h
    · next x hx =>
      obtain ⟨hrest, hbehind⟩ := eq_of_name? hname hx
      have hsame : behindParameter x = gs := by
        unfold behindParameter
        rw [hbehind]
        cases gs with
        | nil => rfl
        | cons g gs => simp [hgs g rfl]
      simp only [hrest, Bool.false_eq_true, if_false, hsame, Option.map_eq_some_iff] at h
      obtain ⟨r, hr, rfl⟩ := h
      exact ⟨n, r, rfl, hr⟩

theorem Spells.eq_of_parts? {s : List Char} {p q : Pattern} {n : Nat} (h : Spells s p)
    (hq : parts? n (written s) = some q) : q = p := by
  induction h generalizing n q with
  | nil =>
    have hnil : parts? n [] = some [] := by cases n <;> rfl
    exact (Option.some.inj (hnil.symm.trans hq)).symm
  | letter hc _ ih =>
    rw [written_letter hc] at hq
    obtain ⟨m, r, rfl, hr⟩ := exists_of_parts?_letter hc hq
    rw [ih hr]
  | colon hname hs h ih =>
    rw [h.written_colon hname hs] at hq
    obtain ⟨m, r, rfl, hr⟩ := exists_of_parts?_parameter hname h.literal_head?_written hq
    rw [ih hr]
  | braces hname h ih =>
    rw [h.written_braces hname] at hq
    obtain ⟨m, r, rfl, hr⟩ := exists_of_parts?_parameter hname h.literal_head?_written hq
    rw [ih hr]

/-- The reader gives a text no pattern but the one that it spells. -/
theorem Spells.eq_of_parse {s : String} {p q : Pattern} (h : Spells s.toList p)
    (hq : parse s = .ok q) : q = p := by
  unfold parse at hq
  simp only at hq
  split at hq
  · cases hq
  · next r hr =>
    obtain rfl := Except.ok.inj hq
    exact h.eq_of_parts? hr

end AccessGateway.Pattern
