import AccessGateway.Credential.Request
import AccessGateway.Proofs.Text.Ascii
import AccessGateway.Proofs.Text.Trimming
import Mathlib.Data.List.Basic

/-
  Which cookie a look-up finds. A header value is a list of octets; what can be read of several
  values is one value with semicolons between them (`joined`), since cutting at the semicolons finds
  the same pieces either way (`cookies_intercalate`). Of its pieces the first one that gives the
  name a value counts (`Gives`, `lookUp?_eq_some_iff`). So what comes behind that piece does not
  matter, and a piece without an equals sign that can be read never does, while a piece that cannot
  be read takes its whole header away (`lookUp?_exactly`).
-/

namespace AccessGateway.Cookie

open Utf8 (Octets)

/-- The octet of a semicolon. -/
def semicolon : UInt8 := 0x3B

/-- The octet of an equals sign. -/
def equals : UInt8 := 0x3D

/-- The characters of a header value that can be read. -/
def chars (octets : Octets) : List Char := octets.map Ascii.ofOctet

/-- Whether a header value can be read: its octets are tabs and printable ASCII characters. -/
def isReadable (octets : Octets) : Bool := (chars octets).all Ascii.isReadable

/-- The value of the first cookie of a name in cookie headers with these octets. -/
def lookUp? (values : List Octets) (name : String) : Option String :=
  find? ((values.filter isReadable).map fun v => String.ofList (chars v)) name

/-- The values that can be read as one value, with semicolons between them. -/
def joined (values : List Octets) : Octets := [semicolon].intercalate (values.filter isReadable)

/-- A piece of a cookie header gives a name a value: without the blanks around it, it is the name,
an equals sign and the value, which may have any number of quotes around it. The name is all that
stands before the first equals sign. -/
def Gives (piece : List Char) (name value : String) : Prop :=
  '=' ∉ name.toList ∧ ∃ raw, IsTrimmed isBlank piece (name.toList ++ '=' :: raw) ∧
    IsTrimmed isQuote raw value.toList

/-! ## Pieces -/

theorem pair?_eq_some_iff {piece : List Char} {name value : String} :
    pair? piece = some (name, value) ↔ Gives piece name value := by
  unfold pair? Gives
  simp only [Option.map_eq_some_iff, Prod.exists, splitOnce_eq_some_iff, Prod.mk.injEq,
    trim_eq_iff]
  constructor
  · rintro ⟨front, raw, ⟨hcore, hfront⟩, rfl, rfl⟩
    rw [String.toList_ofList, String.toList_ofList]
    exact ⟨hfront, raw, hcore, isTrimmed_trimBy isQuote raw⟩
  · rintro ⟨hname, raw, hcore, hvalue⟩
    refine ⟨name.toList, raw, ⟨hcore, hname⟩, String.ofList_toList, ?_⟩
    rw [trimBy_eq_iff.2 hvalue, String.ofList_toList]

theorem pair?_of_equals_notMem {piece : List Char} (h : '=' ∉ piece) : pair? piece = none := by
  have htrim : '=' ∉ trim piece := mt (mem_trimBy_iff (by decide)).1 h
  rw [pair?, splitOnce_eq_none_iff.2 htrim, Option.map_none]

/-! ## Header values -/

/-- The cookies of a header value. -/
def cookies (octets : Octets) : List (String × String) :=
  (pieces ';' (chars octets)).filterMap pair?

theorem chars_append_semicolon (a b : Octets) :
    chars (a ++ semicolon :: b) = chars a ++ ';' :: chars b := by
  rw [chars, List.map_append, List.map_cons]
  rfl

theorem isReadable_append_semicolon (a b : Octets) :
    isReadable (a ++ semicolon :: b) = (isReadable a && isReadable b) := by
  have hsemicolon : Ascii.isReadable ';' = true := by decide
  rw [isReadable, chars_append_semicolon, List.all_append, List.all_cons, hsemicolon, Bool.true_and]
  rfl

theorem cookies_append_semicolon (a b : Octets) :
    cookies (a ++ semicolon :: b) = cookies a ++ cookies b := by
  rw [cookies, chars_append_semicolon, pieces_append_sep_append, List.filterMap_append]
  rfl

theorem isReadable_intercalate (vs : List Octets) :
    isReadable ([semicolon].intercalate vs) = vs.all isReadable := by
  induction vs with
  | nil => rfl
  | cons v r ih =>
    cases r with
    | nil => rw [List.intercalate_singleton, List.all_cons, List.all_nil, Bool.and_true]
    | cons w r =>
      rw [List.intercalate_cons_cons, List.append_assoc, List.singleton_append,
        isReadable_append_semicolon, ih]
      rfl

/-- Values with semicolons between them have the cookies of each. -/
theorem cookies_intercalate (vs : List Octets) :
    cookies ([semicolon].intercalate vs) = vs.flatMap cookies := by
  induction vs with
  | nil => rfl
  | cons v r ih =>
    cases r with
    | nil => rw [List.intercalate_singleton, List.flatMap_singleton]
    | cons w r =>
      rw [List.intercalate_cons_cons, List.append_assoc, List.singleton_append,
        cookies_append_semicolon, ih]
      rfl

theorem cookies_of_equals_notMem {v : Octets} (h : equals ∉ v) : cookies v = [] := by
  refine List.filterMap_eq_nil_iff.2 fun piece hpiece => pair?_of_equals_notMem fun hmem => h ?_
  obtain ⟨b, hb, hchar⟩ := List.mem_map.1 (mem_of_mem_pieces hpiece hmem)
  have hnat : b.toNat = equals.toNat := by
    rw [← Ascii.toNat_ofOctet, hchar]
    rfl
  rwa [UInt8.toNat_inj.1 hnat] at hb

/-! ## Looking up -/

theorem lookUp?_eq_get? (values : List Octets) (name : String) :
    lookUp? values name = Entries.get? name ((values.filter isReadable).flatMap cookies) := by
  have hreadable : ∀ s ∈ (values.filter isReadable).map fun v => String.ofList (chars v),
      isReadableValue s = true := by
    intro s hs
    obtain ⟨v, hv, rfl⟩ := List.mem_map.1 hs
    rw [isReadableValue, String.toList_ofList]
    exact (List.mem_filter.1 hv).2
  rw [lookUp?, find?, List.filter_eq_self.2 hreadable, List.flatMap_map]
  refine congrArg (Entries.get? name) (List.flatMap_congr fun v _ => ?_)
  rw [pairs, String.toList_ofList]
  rfl

/-- Header values that are texts have the octets of the texts. -/
theorem find?_eq_lookUp? (values : List String) (name : String) :
    find? values name = lookUp? (values.map Utf8.ofText) name := by
  have hreadable : ∀ s : String, isReadable (Utf8.ofText s) = isReadableValue s := fun s =>
    Utf8.all_isReadable_encode s.toList
  rw [lookUp?_eq_get?, find?, List.filter_map, List.flatMap_map]
  simp only [Function.comp_def, hreadable]
  refine congrArg (Entries.get? name) (List.flatMap_congr fun s hs => ?_)
  have hascii : ∀ c ∈ s.toList, c.toNat < 0x80 := fun c hc =>
    Ascii.toNat_lt_of_isReadable (List.all_eq_true.1 (List.mem_filter.1 hs).2 c hc)
  rw [pairs, cookies, chars, Utf8.ofText, Utf8.map_ofOctet_encode hascii]

theorem lookUp?_append (values more : List Octets) (name : String) :
    lookUp? (values ++ more) name = (lookUp? values name).or (lookUp? more name) := by
  rw [lookUp?_eq_get?, lookUp?_eq_get?, lookUp?_eq_get?, List.filter_append, List.flatMap_append,
    Entries.get?_append]

theorem lookUp?_singleton (v : Octets) (name : String) :
    lookUp? [v] name = if isReadable v then Entries.get? name (cookies v) else none := by
  rw [lookUp?_eq_get?, List.filter_singleton]
  cases isReadable v with
  | true => simp
  | false => rfl

theorem lookUp?_middle (before after : List Octets) (v : Octets) (name : String) :
    lookUp? (before ++ v :: after) name =
      (lookUp? before name).or ((lookUp? [v] name).or (lookUp? after name)) := by
  rw [lookUp?_append, ← List.singleton_append, lookUp?_append]

theorem lookUp?_joined (values : List Octets) (name : String) :
    lookUp? [joined values] name = lookUp? values name := by
  have hreadable : isReadable (joined values) = true := by
    rw [joined, isReadable_intercalate, List.all_eq_true]
    exact fun v hv => (List.mem_filter.1 hv).2
  rw [lookUp?_singleton, if_pos hreadable, joined, cookies_intercalate, lookUp?_eq_get?]

theorem lookUp?_eq_some_iff {values : List Octets} {name v : String} :
    lookUp? values name = some v ↔
      ∃ before piece after, pieces ';' (chars (joined values)) = before ++ piece :: after ∧
        Gives piece name v ∧ ∀ q ∈ before, ∀ w, ¬ Gives q name w := by
  simp only [← pair?_eq_some_iff, ← ne_eq]
  rw [lookUp?_eq_get?, ← cookies_intercalate, ← joined, cookies, Entries.get?_filterMap_eq_some_iff]

theorem lookUp?_eq_none_iff {values : List Octets} {name : String} :
    lookUp? values name = none ↔
      ∀ piece ∈ pieces ';' (chars (joined values)), ∀ w, ¬ Gives piece name w := by
  simp only [← pair?_eq_some_iff, ← ne_eq]
  rw [lookUp?_eq_get?, ← cookies_intercalate, ← joined, cookies, Entries.get?_filterMap_eq_none_iff]

/-- What is found in a value is found as well if another piece follows that can be read. -/
theorem lookUp?_of_followed {before after : List Octets} {h more : Octets} {name v : String}
    (hmore : isReadable more = true) (hfound : lookUp? (before ++ [h]) name = some v) :
    lookUp? (before ++ (h ++ semicolon :: more) :: after) name = some v := by
  rw [lookUp?_append, lookUp?_singleton] at hfound
  rw [lookUp?_middle, lookUp?_singleton, isReadable_append_semicolon, hmore, Bool.and_true,
    cookies_append_semicolon, Entries.get?_append]
  cases hbefore : lookUp? before name with
  | some w =>
    rw [hbefore] at hfound
    exact hfound
  | none =>
    rw [hbefore, Option.none_or] at hfound
    split at hfound
    · next hreadable =>
      rw [if_pos hreadable, hfound]
      rfl
    · cases hfound

/-- A piece without an equals sign that can be read may stand anywhere in a value. -/
theorem lookUp?_insert_piece {q : Octets} (hq : isReadable q = true) (hequals : equals ∉ q)
    (ps qs : List Octets) (name : String) :
    lookUp? [[semicolon].intercalate (ps ++ q :: qs)] name =
      lookUp? [[semicolon].intercalate (ps ++ qs)] name := by
  rw [lookUp?_singleton, lookUp?_singleton, isReadable_intercalate, isReadable_intercalate,
    cookies_intercalate, cookies_intercalate, List.all_append, List.all_cons, hq, Bool.true_and,
    ← List.all_append, List.flatMap_append, List.flatMap_cons, cookies_of_equals_notMem hequals,
    List.nil_append, ← List.flatMap_append]

/-- A value that cannot be read or has no equals sign counts for nothing. -/
theorem lookUp?_of_idle {v : Octets} (h : isReadable v = false ∨ equals ∉ v)
    (before after : List Octets) (name : String) :
    lookUp? (before ++ v :: after) name = lookUp? (before ++ after) name := by
  have hnone : lookUp? [v] name = none := by
    rw [lookUp?_singleton]
    rcases h with hunreadable | hequals
    · rw [hunreadable]
      rfl
    · rw [cookies_of_equals_notMem hequals]
      split <;> rfl
  rw [lookUp?_middle, hnone, Option.none_or, lookUp?_append]

/-- A piece that cannot be read takes the header away that it stands in. -/
theorem lookUp?_of_unreadable_piece {q : Octets} (hq : isReadable q = false)
    (before ps qs after : List Octets) (name : String) :
    lookUp? (before ++ [semicolon].intercalate (ps ++ q :: qs) :: after) name =
      lookUp? (before ++ after) name := by
  refine lookUp?_of_idle (.inl ?_) before after name
  rw [isReadable_intercalate, List.all_append, List.all_cons, hq, Bool.false_and, Bool.and_false]

/-- A look-up of a cookie finds in several headers what it finds in the one header in which the
values that can be read stand one behind the other with semicolons between them: the value that the
first of its pieces gives which gives the name one, and nothing if there is none. What comes behind
that piece does not matter, be it another header or a piece that can be read; and a header
that cannot be read, a header without an equals sign and a piece without one that can be read do not
matter wherever they stand. A piece that cannot be read takes its header away, wherever it stands in
it. -/
theorem lookUp?_exactly (name : String) :
    (∀ headers uri, httpCredentials headers uri .cookie name =
      .ok (lookUp? ((headers.all "cookie").map Utf8.ofText) name)) ∧
    (∀ values, lookUp? values name = lookUp? [joined values] name) ∧
    (∀ values v, lookUp? values name = some v ↔
      ∃ before piece after, pieces ';' (chars (joined values)) = before ++ piece :: after ∧
        Gives piece name v ∧ ∀ q ∈ before, ∀ w, ¬ Gives q name w) ∧
    (∀ values, lookUp? values name = none ↔
      ∀ piece ∈ pieces ';' (chars (joined values)), ∀ w, ¬ Gives piece name w) ∧
    (∀ values v, lookUp? values name = some v →
      ∀ more, lookUp? (values ++ more) name = some v) ∧
    (∀ before h v, lookUp? (before ++ [h]) name = some v → ∀ more after, isReadable more = true →
      lookUp? (before ++ (h ++ semicolon :: more) :: after) name = some v) ∧
    (∀ q, isReadable q = true → equals ∉ q → ∀ before ps qs after,
      lookUp? (before ++ [semicolon].intercalate (ps ++ q :: qs) :: after) name =
        lookUp? (before ++ [semicolon].intercalate (ps ++ qs) :: after) name) ∧
    (∀ h, isReadable h = false ∨ equals ∉ h → ∀ before after,
      lookUp? (before ++ h :: after) name = lookUp? (before ++ after) name) ∧
    (∀ q, isReadable q = false → ∀ before ps qs after,
      lookUp? (before ++ [semicolon].intercalate (ps ++ q :: qs) :: after) name =
        lookUp? (before ++ after) name) := by
  refine ⟨?_, fun values => (lookUp?_joined values name).symm, fun values v => lookUp?_eq_some_iff,
    fun values => lookUp?_eq_none_iff, ?_, ?_, ?_, ?_, ?_⟩
  · intro headers uri
    exact congrArg Except.ok (find?_eq_lookUp? _ name)
  · intro values v hfound more
    rw [lookUp?_append, hfound, Option.some_or]
  · intro before h v hfound more after hmore
    exact lookUp?_of_followed hmore hfound
  · intro q hq hequals before ps qs after
    rw [lookUp?_middle, lookUp?_middle, lookUp?_insert_piece hq hequals]
  · intro h hidle before after
    exact lookUp?_of_idle hidle before after name
  · intro q hq before ps qs after
    exact lookUp?_of_unreadable_piece hq before ps qs after name

/-- A piece behind the one that gives the name its value, with no equals sign in it, is not without
effect: with an octet that cannot be read it takes the value away. -/
theorem unreadable_piece_matters :
    equals ∉ Utf8.ofText "\u00fa" ∧ isReadable (Utf8.ofText "\u00fa") = false ∧
      httpCredentials ⟨[("cookie", "token=1")]⟩ ⟨"/", none⟩ .cookie "token" = .ok (some "1") ∧
      httpCredentials ⟨[("cookie", "token=1;\u00fa")]⟩ ⟨"/", none⟩ .cookie "token" = .ok none ∧
      lookUp? [Utf8.ofText "token=1"] "token" = some "1" ∧
      lookUp? [Utf8.ofText "token=1" ++ semicolon :: Utf8.ofText "\u00fa"] "token" = none := by
  decide

/-- A header with an octet that cannot be read, a piece without an equals sign, and quotes. -/
example : lookUp? [Utf8.ofText "theme=dark", 0xFA :: Utf8.ofText "=;token=no",
    Utf8.ofText "token; token = \"x\" ;token=\"\"s=1\"; token=2"] "token" = some "s=1" := by
  decide

end AccessGateway.Cookie
