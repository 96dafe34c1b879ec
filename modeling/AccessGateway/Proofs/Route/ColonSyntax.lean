import AccessGateway.Proofs.Route.Bypass
import AccessGateway.Proofs.Route.Conflict
import AccessGateway.Proofs.Route.Spelling

/-
  What a route means whose parameters are written with colons only. A colon is meant to stand at
  the front of a segment and to make a parameter of all of it, and elsewhere for itself
  (`StandsFor`). The reader looks at characters and knows no segments: a colon makes a parameter
  wherever it stands, and the first character that may not be in a name ends it, so that the rest
  of the segment is literal text (`ColonFits`, `letsThrough_iff_colonFits`). Both say the same of a
  segment if and only if it has no colon or is a colon and a name (`colonFits_iff_standsFor`).
-/

namespace AccessGateway

namespace Pattern

/-- A text without braces. -/
def IsBraceless (s : List Char) : Prop := ∀ c ∈ s, c ≠ opening ∧ c ≠ closing

instance : DecidablePred IsBraceless := fun s =>
  List.decidableBAll (fun c => c ≠ opening ∧ c ≠ closing) s

/-- What a segment is meant to stand for: one that begins with a colon for everything but the
empty segment, every other one for itself. -/
def StandsFor (s x : List Char) : Prop := (s.head? = some ':' ∧ x ≠ []) ∨ x = s

instance (s x : List Char) : Decidable (StandsFor s x) :=
  inferInstanceAs (Decidable ((s.head? = some ':' ∧ x ≠ []) ∨ x = s))

/-- What a segment fits: the text before its first colon, a value, and the text behind the
name. -/
def ColonFits (s x : List Char) : Prop :=
  match splitOnce ':' s with
  | none => x = s
  | some (front, behind) =>
    ∃ value, value ≠ [] ∧ x = front ++ value ++ behind.dropWhile isNameChar

/-- The value is what stands between the two texts. -/
theorem exists_between_iff {front behind x : List Char} :
    (front <+: x ∧ behind <:+ x.drop front.length ∧
        behind.length < (x.drop front.length).length) ↔
      ∃ value, value ≠ [] ∧ x = front ++ value ++ behind := by
  constructor
  · rintro ⟨⟨r, rfl⟩, hr⟩
    rw [List.drop_left, Patterns.exists_value_iff] at hr
    obtain ⟨value, hvalue, rfl⟩ := hr
    exact ⟨value, hvalue, (List.append_assoc _ _ _).symm⟩
  · rintro ⟨value, hvalue, rfl⟩
    rw [List.append_assoc, List.drop_left, Patterns.exists_value_iff]
    exact ⟨List.prefix_append _ _, value, hvalue, rfl⟩

instance (s x : List Char) : Decidable (ColonFits s x) :=
  match h : splitOnce ':' s with
  | none => decidable_of_iff (x = s) (by rw [ColonFits, h])
  | some (front, behind) =>
    decidable_of_iff (front <+: x ∧ behind.dropWhile isNameChar <:+ x.drop front.length ∧
      (behind.dropWhile isNameChar).length < (x.drop front.length).length)
      (by rw [ColonFits, h, exists_between_iff])

/-- A segment that is a colon and a name. -/
def IsColonName (s : List Char) : Prop :=
  ∃ name, (∀ c ∈ name, isNameChar c = true) ∧ s = ':' :: name

/-! ## Segments with one parameter -/

theorem all_isLetter_of_segment {p s : Pattern} {ss : List Pattern} (hs : segments p = s :: ss)
    (h : (Part.segment '/' p).all Part.isLetter = true) :
    (Part.segment '/' s).all Part.isLetter = true := by
  induction p generalizing s ss with
  | nil =>
    cases hs
    rfl
  | cons x p ih =>
    obtain ⟨t, ts, ht⟩ := exists_segments p
    by_cases hx : x = .letter '/'
    · subst hx
      rw [segments_slash] at hs
      cases hs
      rfl
    · rw [segments_cons hx ht] at hs
      cases hs
      rw [Part.segment, if_neg hx, List.all_cons, Bool.and_eq_true] at h ⊢
      exact ⟨h.1, ih ht h.2⟩

/-- Where nothing but letters stands behind a parameter, that holds in every segment. -/
theorem Single.of_mem_segments {p q : Pattern} (h : Single p) (hq : q ∈ segments p) :
    Single q := by
  induction p generalizing q with
  | nil =>
    obtain rfl := List.mem_singleton.1 hq
    trivial
  | cons x p ih =>
    obtain ⟨s, ss, hs⟩ := exists_segments p
    rw [hs] at ih
    by_cases hx : x = .letter '/'
    · subst hx
      rw [segments_slash, hs] at hq
      rcases List.mem_cons.1 hq with rfl | hq
      · trivial
      · exact ih h hq
    · rw [segments_cons hx hs] at hq
      have hp : Single p := by
        cases x with
        | letter c => exact h
        | parameter => exact h.2
        | rest => exact h
      rcases List.mem_cons.1 hq with rfl | hq
      · have hsingle := ih hp List.mem_cons_self
        cases x with
        | letter c => exact hsingle
        | parameter => exact ⟨all_isLetter_of_segment hs h.1, hsingle⟩
        | rest => exact hsingle
      · exact ih hp (List.mem_cons_of_mem _ hq)

theorem Spells.mem_of_letter_mem {s : List Char} {p : Pattern} (h : Spells s p) {c : Char}
    (hc : .letter c ∈ p) : c ∈ s := by
  induction h with
  | nil => cases hc
  | @letter d s p _ _ ih =>
    rcases List.mem_cons.1 hc with heq | hc
    · cases heq
      exact List.mem_cons_self
    · exact List.mem_cons_of_mem _ (ih hc)
  | @colon name s p _ _ _ ih =>
    rcases List.mem_cons.1 hc with heq | hc
    · cases heq
    · exact List.mem_cons_of_mem _ (List.mem_append_right _ (ih hc))
  | @braces name s p _ _ ih =>
    rcases List.mem_cons.1 hc with heq | hc
    · cases heq
    · exact List.mem_cons_of_mem _ (List.mem_append_right _ (List.mem_cons_of_mem _ (ih hc)))

/-- What follows a parameter in its segment is spelled by itself. -/
theorem Spells.eq_ofLetters_of_single {s : List Char} {p : Pattern} (h : Spells s p)
    (hs : '/' ∉ s) (hp : Single (.parameter :: p)) : p = ofLetters s := by
  refine h.eq_ofLetters fun x hx => ?_
  obtain ⟨w, -, ⟨hw, -, -⟩ | ⟨hw, -⟩⟩ := exists_of_segment_letters hp.1
  · rw [hw] at hx
    obtain ⟨c, -, rfl⟩ := List.mem_map.1 hx
    rfl
  · have hslash : .letter '/' ∈ p := hw ▸ List.mem_append_right _ List.mem_cons_self
    exact absurd (h.mem_of_letter_mem hslash) hs

/-- The pattern of a segment that is written with a colon. -/
theorem spells_colon {front behind : List Char} {q : Pattern} (hfront : ∀ c ∈ front, IsPlain c)
    (hq : Spells (behind.dropWhile isNameChar) q) :
    Spells (front ++ ':' :: behind) (ofLetters front ++ .parameter :: q) := by
  rw [← List.takeWhile_append_dropWhile (l := behind) (p := isNameChar)]
  exact spells_ofLetters_append hfront
    (.colon (fun c hc => List.mem_takeWhile_imp hc) (endsName_dropWhile _) hq)

/-- How the pattern of a segment fits. -/
theorem fits_iff_colonFits {s : List Char} {q : Pattern} (h : Spells s q) (hsingle : Single q)
    (hbraces : IsBraceless s) (hslash : '/' ∉ s) {x : List Char}
    (hx : '/' ∉ x) : Fits q x ↔ ColonFits s x := by
  unfold ColonFits
  split
  · next hcut =>
    have hcolon := splitOnce_eq_none_iff.1 hcut
    have hliteral : ∀ c ∈ s, IsPlain c :=
      fun c hc => ⟨fun heq => hcolon (heq ▸ hc), hbraces c hc⟩
    rw [h.unique (spells_ofLetters hliteral), fits_ofLetters]
  · next front behind hcut =>
    obtain ⟨rfl, hcolon⟩ := splitOnce_eq_some_iff.1 hcut
    have hfront : ∀ c ∈ front, IsPlain c := fun c hc =>
      ⟨fun heq => hcolon (heq ▸ hc), hbraces c (List.mem_append_left _ hc)⟩
    have htail : ∀ c ∈ behind.dropWhile isNameChar, c ∈ front ++ ':' :: behind := fun c hc =>
      List.mem_append_right _ (List.mem_cons_of_mem _ ((List.dropWhile_suffix _).subset hc))
    obtain ⟨r, hr⟩ := exists_spells fun c hc => hbraces c (htail c hc)
    have hq := h.unique (spells_colon hfront hr)
    rw [hq, single_ofLetters_append] at hsingle
    rw [hq, hr.eq_ofLetters_of_single (fun hmem => hslash (htail _ hmem)) hsingle, fits_affixes hx]

/-! ## Where both readings agree -/

theorem standsFor_iff_eq {s : List Char} (h : s.head? ≠ some ':') {x : List Char} :
    StandsFor s x ↔ x = s := by
  rw [StandsFor, or_iff_right]
  exact fun hx => h hx.1

theorem standsFor_self (s : List Char) : StandsFor s s := Or.inr rfl

theorem colonFits_self (s : List Char) : ColonFits s s := by
  unfold ColonFits
  split
  · rfl
  · next front behind hcut =>
    refine ⟨':' :: behind.takeWhile isNameChar, List.cons_ne_nil _ _, ?_⟩
    rw [(splitOnce_eq_some_iff.1 hcut).1, List.append_assoc, List.cons_append,
      List.takeWhile_append_dropWhile]

theorem colonFits_append_iff {front behind x : List Char} (h : ':' ∉ front) :
    ColonFits (front ++ ':' :: behind) x ↔
      ∃ value, value ≠ [] ∧ x = front ++ value ++ behind.dropWhile isNameChar := by
  rw [ColonFits, splitOnce_eq_some_iff.2 ⟨rfl, h⟩]

theorem colonFits_cons_iff {behind x : List Char} :
    ColonFits (':' :: behind) x ↔
      ∃ value, value ≠ [] ∧ x = value ++ behind.dropWhile isNameChar := by
  have hcolon : ':' ∉ ([] : List Char) := List.not_mem_nil
  exact colonFits_append_iff hcolon

theorem colonFits_iff_of_notMem {s : List Char} (h : ':' ∉ s) (x : List Char) :
    ColonFits s x ↔ StandsFor s x := by
  have hhead : s.head? ≠ some ':' := fun hs => h (List.mem_of_head? hs)
  rw [standsFor_iff_eq hhead, ColonFits, splitOnce_eq_none_iff.2 h]

theorem colonFits_iff_of_isColonName {s : List Char} (h : IsColonName s) (x : List Char) :
    ColonFits s x ↔ StandsFor s x := by
  obtain ⟨name, hname, rfl⟩ := h
  have hbehind : name.dropWhile isNameChar = [] := List.dropWhile_eq_nil_iff.2 hname
  rw [colonFits_cons_iff, hbehind]
  simp only [List.append_nil]
  constructor
  · rintro ⟨value, hvalue, rfl⟩
    exact Or.inl ⟨rfl, hvalue⟩
  · rintro (⟨-, hx⟩ | rfl)
    · exact ⟨x, hx, rfl⟩
    · exact ⟨_, List.cons_ne_nil _ _, rfl⟩

/-- A segment with text before its first colon fits more than it stands for. -/
theorem exists_colonFits_of_front {front behind : List Char} (hfront : front ≠ [])
    (hcolon : ':' ∉ front) (hslash : '/' ∉ front ++ ':' :: behind) :
    ∃ x, '/' ∉ x ∧ ColonFits (front ++ ':' :: behind) x ∧
      ¬StandsFor (front ++ ':' :: behind) x := by
  have hhead : (front ++ ':' :: behind).head? ≠ some ':' := by
    rw [List.head?_append_of_ne_nil _ hfront]
    exact fun h => hcolon (List.mem_of_head? h)
  -- A value other than the colon and the name that stand in its place.
  refine ⟨front ++ ['x'] ++ behind.dropWhile isNameChar, ?_, ?_, ?_⟩
  · rw [List.mem_append, List.mem_cons, not_or, not_or] at hslash
    have hbehind : '/' ∉ behind.dropWhile isNameChar :=
      fun h => hslash.2.2 ((List.dropWhile_suffix _).subset h)
    rw [List.mem_append, List.mem_append, not_or, not_or]
    exact ⟨⟨hslash.1, by decide⟩, hbehind⟩
  · rw [colonFits_append_iff hcolon]
    exact ⟨['x'], List.cons_ne_nil _ _, rfl⟩
  · rw [standsFor_iff_eq hhead, List.append_assoc, List.append_cancel_left_eq]
    intro heq
    cases heq

/-- A segment with text behind the name of its parameter stands for that text and does not fit
it. -/
theorem standsFor_behind {behind : List Char} (h : behind.dropWhile isNameChar ≠ []) :
    StandsFor (':' :: behind) (behind.dropWhile isNameChar) ∧
      ¬ColonFits (':' :: behind) (behind.dropWhile isNameChar) := by
  refine ⟨Or.inl ⟨rfl, h⟩, ?_⟩
  rw [colonFits_cons_iff]
  rintro ⟨value, hvalue, heq⟩
  -- The text behind the name is all there is, so nothing is left for a value.
  exact hvalue (List.self_eq_append_left.1 heq)

/-- A segment fits just what it stands for if and only if it has no colon or is a colon and a
name. -/
theorem colonFits_iff_standsFor {s : List Char} (hslash : '/' ∉ s) :
    (∀ x, '/' ∉ x → (ColonFits s x ↔ StandsFor s x)) ↔ (':' ∈ s → IsColonName s) := by
  constructor
  · intro h hmem
    cases hcut : splitOnce ':' s with
    | none => exact absurd hmem (splitOnce_eq_none_iff.1 hcut)
    | some cut =>
      obtain ⟨front, behind⟩ := cut
      obtain ⟨rfl, hcolon⟩ := splitOnce_eq_some_iff.1 hcut
      by_cases hfront : front = []
      · subst hfront
        refine ⟨behind, List.dropWhile_eq_nil_iff.1 ?_, rfl⟩
        by_contra hbehind
        obtain ⟨hstands, hnot⟩ := standsFor_behind hbehind
        refine hnot ((h _ fun hs => hslash ?_).2 hstands)
        exact List.mem_cons_of_mem _ ((List.dropWhile_suffix _).subset hs)
      · obtain ⟨x, hx, hfits, hnot⟩ := exists_colonFits_of_front hfront hcolon hslash
        exact absurd ((h x hx).1 hfits) hnot
  · intro h x _
    by_cases hcolon : ':' ∈ s
    · exact colonFits_iff_of_isColonName (h hcolon) x
    · exact colonFits_iff_of_notMem hcolon x

theorem forall₂_replace_iff {R : List Char → List Char → Prop} (hR : ∀ s, R s s)
    (before after : List (List Char)) (s x : List Char) :
    List.Forall₂ R (before ++ s :: after) (before ++ x :: after) ↔ R s x := by
  induction before with
  | nil =>
    rw [List.nil_append, List.nil_append, List.forall₂_cons, and_iff_left]
    exact List.forall₂_same.2 fun t _ => hR t
  | cons t before ih =>
    rw [List.cons_append, List.cons_append, List.forall₂_cons, ih, and_iff_right (hR t)]

/-- Two ways to say what a segment goes with agree on all paths if and only if they agree on every
segment of the route. -/
theorem forall_path_iff {R S : List Char → List Char → Prop} (hR : ∀ s, R s s)
    (hS : ∀ s, S s s) (route : List Char) :
    (∀ path : String, List.Forall₂ R (pieces '/' route) (pieces '/' path.toList) ↔
        List.Forall₂ S (pieces '/' route) (pieces '/' path.toList)) ↔
      ∀ s ∈ pieces '/' route, ∀ x, '/' ∉ x → (R s x ↔ S s x) := by
  constructor
  · intro h s hs x hx
    obtain ⟨before, after, hroute⟩ := List.append_of_mem hs
    have hpieces : pieces '/' (joinWith '/' (before ++ x :: after)) = before ++ x :: after := by
      refine pieces_joinWith (by simp) fun t ht => ?_
      have hmem : t ∈ before ++ s :: after → '/' ∉ t :=
        fun hmem => sep_notMem_of_mem_pieces (hroute ▸ hmem)
      simp only [List.mem_append, List.mem_cons] at ht hmem
      rcases ht with ht | rfl | ht
      · exact hmem (Or.inl ht)
      · exact hx
      · exact hmem (Or.inr (Or.inr ht))
    have hpath := h (String.ofList (joinWith '/' (before ++ x :: after)))
    rwa [String.toList_ofList, hpieces, hroute, forall₂_replace_iff hR,
      forall₂_replace_iff hS] at hpath
  · intro h path
    exact forall₂_iff_of_forall₂ (List.forall₂_same.2 fun _ _ => rfl)
      fun s hs t _ hst x hx => hst ▸ h s hs x (sep_notMem_of_mem_pieces hx)

end Pattern

namespace BypassList

open Pattern (Fits ColonFits StandsFor IsBraceless IsColonName)

variable {c : BypassConfig} {b : BypassList} {route verb : String} {verbs : List String}

/-! ## A route by itself -/

/-- The first pattern of a list is checked by itself. -/
theorem standsAlone_of_addVerbs (h : addVerbs route verbs empty = .ok b) (hverb : verb ∈ verbs)
    {p : Pattern} (hp : Pattern.parse route = .ok p) :
    Trails.standsAlone p.toTrail = .ok () := by
  cases verbs with
  | nil => cases hverb
  | cons v verbs =>
    unfold addVerbs at h
    split at h
    · cases h
    · have hjoin : Pattern.join (empty.patterns (Ascii.upper v)) p =
          (Trails.standsAlone p.toTrail).map fun _ => [p] := rfl
      cases halone : Trails.standsAlone p.toTrail with
      | ok => rfl
      | error e =>
        rw [halone] at hjoin
        simp only [insert, hp, hjoin, Except.map] at h
        cases h

/-- A list of one route lets through what the pattern of the route fits. -/
theorem letsThrough_iff_fits (h : ofConfig c = .ok b) (hentries : c.entries = [(route, verbs)])
    (hverb : verb ∈ verbs) {p : Pattern} (hp : Pattern.parse route = .ok p) (hne : p ≠ [])
    (hsingle : p.Single) (path : String) :
    b.letsThrough (Ascii.upper verb) path = true ↔ Fits p path.toList := by
  have hmem : ∀ q, q ∈ b.patterns (Ascii.upper verb) ↔ q = p := by
    intro q
    have hroutes : ∀ e ∈ c.entries, Pattern.parse e.1 ≠ .ok [] := by
      simpa [hentries, hp] using hne
    rw [mem_patterns_of_ofConfig h hroutes, hentries]
    simp only [List.mem_singleton, exists_eq_left, hp, Except.ok.injEq, eq_comm]
    exact and_iff_right ⟨verb, hverb, rfl⟩
  have huniform : Patterns.Uniform (b.patterns (Ascii.upper verb)) := by
    intro q hq r hr n s t hs ht _ _
    rw [(hmem q).1 hq] at hs
    rw [(hmem r).1 hr, hs] at ht
    rw [(List.cons.inj ht).2]
  rw [letsThrough, Patterns.anyMatch_eq_true_iff (fun q hq => (hmem q).1 hq ▸ hsingle) huniform]
  simp only [hmem, exists_eq_left]

/-- A list of one route without braces lets through what the route fits segment by segment. -/
theorem letsThrough_iff_colonFits (h : ofConfig c = .ok b)
    (hentries : c.entries = [(route, verbs)]) (hverb : verb ∈ verbs)
    (hslash : route.toList.head? = some '/')
    (hbraces : IsBraceless route.toList) (path : String) :
    b.letsThrough (Ascii.upper verb) path = true ↔
      List.Forall₂ ColonFits (pieces '/' route.toList) (pieces '/' path.toList) := by
  obtain ⟨p, hp⟩ := Pattern.exists_spells hbraces
  obtain ⟨r, hr⟩ := List.head?_eq_some_iff.1 hslash
  have hne : p ≠ [] := (hr ▸ hp).ne_nil
  have hroutes : ∀ e ∈ c.entries, Pattern.parse e.1 ≠ .ok [] := by
    rw [hentries, List.forall_mem_singleton]
    exact fun hnil => hne (hp.eq_of_parse hnil).symm
  have hentry : (route, verbs) ∈ c.entries := hentries ▸ List.mem_cons_self
  obtain ⟨q, hparse⟩ := parses_of_ofConfig h hroutes hentry hverb
  obtain rfl := hp.eq_of_parse hparse
  have hsingle : q.Single := by
    rw [ofConfig, hentries, addRoutes] at h
    cases hverbs : addVerbs route verbs empty with
    | error e => simp [hverbs] at h
    | ok b' => exact Pattern.single_of_standsAlone (standsAlone_of_addVerbs hverbs hverb hparse)
  rw [letsThrough_iff_fits h hentries hverb hparse hne hsingle]
  refine hp.fits_iff (fun s hs t ht hst x hx => ?_) path.toList
  exact Pattern.fits_iff_colonFits hst (hsingle.of_mem_segments ht)
    (fun d hd => hbraces d (mem_of_mem_pieces hs hd)) (sep_notMem_of_mem_pieces hs) hx

/-- A list of one route without braces lets through what the route fits segment by segment, where
a colon makes a parameter wherever it stands. What the route stands for is let through, and
nothing else, if and only if every segment with a colon is a colon and a name: text before the
colon lets more through, and text behind the name refuses what the route stands for. -/
theorem letsThrough_eq_standsFor_iff (h : ofConfig c = .ok b)
    (hentries : c.entries = [(route, verbs)]) (hverb : verb ∈ verbs)
    (hslash : route.toList.head? = some '/')
    (hbraces : IsBraceless route.toList) :
    (∀ path, b.letsThrough (Ascii.upper verb) path = true ↔
      List.Forall₂ ColonFits (pieces '/' route.toList) (pieces '/' path.toList)) ∧
    ((∀ path, b.letsThrough (Ascii.upper verb) path = true ↔
        List.Forall₂ StandsFor (pieces '/' route.toList) (pieces '/' path.toList)) ↔
      ∀ s ∈ pieces '/' route.toList, ':' ∈ s → IsColonName s) := by
  have hfits := letsThrough_iff_colonFits h hentries hverb hslash hbraces
  refine ⟨hfits, ?_⟩
  simp only [hfits]
  rw [Pattern.forall_path_iff Pattern.colonFits_self Pattern.standsFor_self]
  exact forall₂_congr fun s hs => Pattern.colonFits_iff_standsFor (sep_notMem_of_mem_pieces hs)

/-- A configuration of one route. -/
def alone (route : String) : BypassConfig := Table.ofList [(route, ["get"])]

theorem letsThrough_eq_standsFor_iff_alone : ∃ b, ofConfig (alone "/:kind/x-:id_1.json") = .ok b ∧
    b.letsThrough "GET" "/q/x-7.json" = true ∧ b.letsThrough "GET" "/q/x-.json" = false := by
  have hok : (ofConfig (alone "/:kind/x-:id_1.json")).isOk = true := by decide
  obtain ⟨b, hb⟩ := Outcome.exists_of_isOk hok
  have hverb : "get" ∈ ["get"] := List.mem_cons_self
  have hfits := (letsThrough_eq_standsFor_iff hb rfl hverb rfl (by decide)).1
  refine ⟨b, hb, (hfits _).2 (by decide), ?_⟩
  rw [Bool.eq_false_iff]
  exact fun h => absurd ((hfits _).1 h) (by decide)

/-- A name with a hyphen refuses a path that the route stands for, and a colon behind other text
lets a path through that the route does not stand for. -/
theorem letsThrough_unlike_standsFor :
    (∃ b, ofConfig (alone "/files/:file-name") = .ok b ∧
      b.letsThrough "GET" "/files/report" = false ∧
      List.Forall₂ StandsFor (pieces '/' "/files/:file-name".toList)
        (pieces '/' "/files/report".toList)) ∧
    ∃ b, ofConfig (alone "/items:batch") = .ok b ∧
      b.letsThrough "GET" "/items-of-others" = true ∧
      ¬List.Forall₂ StandsFor (pieces '/' "/items:batch".toList)
        (pieces '/' "/items-of-others".toList) := by
  have hverb : "get" ∈ ["get"] := List.mem_cons_self
  constructor
  · have hok : (ofConfig (alone "/files/:file-name")).isOk = true := by decide
    obtain ⟨b, hb⟩ := Outcome.exists_of_isOk hok
    have hfits := letsThrough_iff_colonFits hb rfl hverb rfl (by decide)
    refine ⟨b, hb, ?_, by decide⟩
    rw [Bool.eq_false_iff]
    exact fun h => absurd ((hfits _).1 h) (by decide)
  · have hok : (ofConfig (alone "/items:batch")).isOk = true := by decide
    obtain ⟨b, hb⟩ := Outcome.exists_of_isOk hok
    have hfits := letsThrough_iff_colonFits hb rfl hverb rfl (by decide)
    exact ⟨b, hb, (hfits _).2 (by decide), by decide⟩

end BypassList

end AccessGateway
