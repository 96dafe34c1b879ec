import AccessGateway.Credential.Request
import AccessGateway.Proofs.Text.Form
import Mathlib.Data.List.Basic
import Mathlib.Tactic.MkIffOfInductiveProp

/-
  The two transports give the same credentials. An HTTP request carries what a request in memory
  holds if it has the same headers, the cookies written in any number of cookie headers, and the
  parameters written as its query (`CarriedBy`). Headers that were written can be read, cookies are
  cut where they were put together (`Cookie.pairs_written`), and since every name stands once it
  does not matter that memory counts the last of several values and HTTP the first.
-/

namespace AccessGateway

/-! ## Headers -/

namespace Ascii

/-- A letter is part of a token in either case. -/
theorem isTokenChar_toLower (c : Char) : isTokenChar c.toLower = isTokenChar c := by
  by_cases hascii : c.toNat < 0x80
  · have hall : ∀ n < 0x80, isTokenChar (Char.ofNat n).toLower = isTokenChar (Char.ofNat n) := by
      decide
    rw [← c.ofNat_toNat]
    exact hall _ hascii
  · have hlast : ¬ c.val ≤ 'Z'.val := fun h => hascii (Nat.lt_of_le_of_lt h (by decide))
    have hsame : c.toLower = c := dif_neg fun h => hlast h.2
    rw [hsame]

theorem isToken_lower (s : String) : isToken (lower s) = isToken s := by
  unfold isToken lower
  rw [String.toList_ofList, List.all_map, List.isEmpty_map]
  simp only [Function.comp_def, isTokenChar_toLower]

end Ascii

namespace Headers

/-- Entries with their names in small letters. -/
def lowered (l : List (String × String)) : List (String × String) :=
  l.map fun e => (Ascii.lower e.1, e.2)

theorem isControl_of_isReadable {c : Char} (h : Ascii.isReadable c = true) :
    isControl c = false := by
  rcases Ascii.toNat_of_isReadable h with rfl | ⟨hleast, hmost⟩
  · decide
  · simp [isControl]
    omega

theorem ofPairs_of_readable {l : List (String × String)}
    (h : ∀ e ∈ l, Ascii.isToken e.1 = true ∧ isReadableValue e.2 = true) :
    ofPairs l = .ok ⟨lowered l⟩ := by
  induction l with
  | nil => rfl
  | cons e r ih =>
    obtain ⟨⟨hname, hvalue⟩, hr⟩ := List.forall_mem_cons.1 h
    have hcontrol : e.2.toList.any isControl = false := by
      rw [List.any_eq_false]
      intro c hc
      rw [isControl_of_isReadable (List.all_eq_true.1 hvalue c hc)]
      exact Bool.false_ne_true
    rw [ofPairs, hname, hcontrol, ih hr]
    rfl

theorem first?_eq_get? (h : Headers) (name : String) :
    h.first? name = Entries.get? (Ascii.lower name) h.entries := by
  unfold first? all
  induction h.entries with
  | nil => rfl
  | cons e r ih =>
    rw [Entries.get?]
    by_cases he : Ascii.lower name = e.1
    · simp [he]
    · rw [if_neg he, List.filter_cons_of_neg (by simpa using Ne.symm he), ih]

end Headers

/-! ## Cookies -/

namespace Cookie

/-- Cookies as they are written in one header. -/
def written (cookies : List (String × String)) : String :=
  "; ".intercalate (cookies.map fun c => c.1 ++ "=" ++ c.2)

/-- A character of the name of a cookie. -/
def isNameChar (x : Char) : Bool := Ascii.isReadable x && !isBlank x && x != '=' && x != ';'

/-- A character of the value of a cookie. -/
def isValueChar (x : Char) : Bool := Ascii.isReadable x && x != ';'

/-- A character that stays at the end of the value of a cookie. -/
def isEndChar (x : Char) : Bool := !isBlank x && !isQuote x

/-- A cookie that is read as it was written. -/
@[mk_iff]
structure IsWritable (c : String × String) : Prop where
  name_ne_empty : c.1 ≠ ""
  name_chars : c.1.toList.all isNameChar = true
  value_chars : c.2.toList.all isValueChar = true
  value_first : c.2.toList.head?.all isEndChar = true
  value_last : c.2.toList.getLast?.all isEndChar = true

instance (c : String × String) : Decidable (IsWritable c) :=
  decidable_of_iff _ (isWritable_iff c).symm

/-- A written cookie. -/
def piece (c : String × String) : List Char := c.1.toList ++ '=' :: c.2.toList

theorem toList_written (cookies : List (String × String)) :
    (written cookies).toList = [';', ' '].intercalate (cookies.map piece) := by
  have hpiece : String.toList ∘ (fun c : String × String => c.1 ++ "=" ++ c.2) = piece := by
    funext c
    simp [piece]
  rw [written, String.toList_intercalate, List.map_map, hpiece]
  rfl

section Piece
variable {c : String × String} (h : IsWritable c)
include h

theorem IsWritable.of_mem_name {x : Char} (hx : x ∈ c.1.toList) :
    Ascii.isReadable x = true ∧ isBlank x = false ∧ x ≠ '=' ∧ x ≠ ';' := by
  have hchar := List.all_eq_true.1 h.name_chars x hx
  simpa [isNameChar, and_assoc] using hchar

theorem IsWritable.of_mem_value {x : Char} (hx : x ∈ c.2.toList) :
    Ascii.isReadable x = true ∧ x ≠ ';' := by
  have hchar := List.all_eq_true.1 h.value_chars x hx
  simpa [isValueChar] using hchar

theorem IsWritable.of_first {x : Char} (hx : c.2.toList.head? = some x) :
    isBlank x = false ∧ isQuote x = false := by
  have hchar := h.value_first
  rw [hx] at hchar
  simpa [isEndChar] using hchar

theorem IsWritable.of_last {x : Char} (hx : c.2.toList.getLast? = some x) :
    isBlank x = false ∧ isQuote x = false := by
  have hchar := h.value_last
  rw [hx] at hchar
  simpa [isEndChar] using hchar

theorem IsWritable.semicolon_notMem : ';' ∉ piece c := by
  have hname : ';' ∉ c.1.toList := fun hmem => (h.of_mem_name hmem).2.2.2 rfl
  have hvalue : ';' ∉ c.2.toList := fun hmem => (h.of_mem_value hmem).2 rfl
  simp [piece, hname, hvalue]

theorem IsWritable.trim_piece : trim (piece c) = piece c := by
  obtain ⟨x, r, hcons⟩ := List.exists_cons_of_ne_nil (mt String.toList_eq_nil_iff.1 h.name_ne_empty)
  refine trim_eq_self (fun y hy => ?_) (fun y hy => ?_)
  · rw [piece, hcons, List.cons_append, List.head?_cons, Option.some.injEq] at hy
    subst hy
    exact (h.of_mem_name (hcons ▸ List.mem_cons_self)).2.1
  · rw [piece, List.getLast?_append, List.getLast?_cons, Option.some_or, Option.some.injEq] at hy
    cases hlast : c.2.toList.getLast? with
    | none =>
      rw [hlast, Option.getD_none] at hy
      subst hy
      decide
    | some z =>
      rw [hlast, Option.getD_some] at hy
      subst hy
      exact (h.of_last hlast).1

theorem IsWritable.pair?_piece : pair? (piece c) = some c := by
  have hsplit : splitOnce '=' (piece c) = some (c.1.toList, c.2.toList) :=
    splitOnce_eq_some_iff.2 ⟨rfl, fun hmem => (h.of_mem_name hmem).2.2.1 rfl⟩
  have hvalue : trimBy isQuote c.2.toList = c.2.toList :=
    trimBy_eq_self (fun _ hx => (h.of_first hx).2) (fun _ hx => (h.of_last hx).2)
  rw [pair?, h.trim_piece, hsplit, Option.map_some, hvalue, String.ofList_toList,
    String.ofList_toList]

/-- The space behind a semicolon is not part of a cookie. -/
theorem IsWritable.pair?_space_piece : pair? (' ' :: piece c) = some c := by
  have htrim : trim (' ' :: piece c) = trim (piece c) := by
    rw [trim, trimBy, List.dropWhile_cons_of_pos (by decide)]
    rfl
  rw [pair?, htrim, ← pair?]
  exact h.pair?_piece

theorem IsWritable.isReadable_of_mem_piece {x : Char} (hx : x ∈ piece c) :
    Ascii.isReadable x = true := by
  rcases List.mem_append.1 hx with hx | hx
  · exact (h.of_mem_name hx).1
  · rcases List.mem_cons.1 hx with rfl | hx
    · decide
    · exact (h.of_mem_value hx).1

end Piece

/-- Text joined with a semicolon and a space is cut at the semicolons. -/
theorem pieces_intercalate {p : List Char} {ps : List (List Char)}
    (h : ∀ x ∈ p :: ps, ';' ∉ x) :
    pieces ';' ([';', ' '].intercalate (p :: ps)) = p :: ps.map (' ' :: ·) := by
  induction ps generalizing p with
  | nil => exact (congrArg _ (List.append_nil p)).trans (pieces_of_notMem (h p List.mem_cons_self))
  | cons q r ih =>
    have hrest := ih fun x hx => h x (List.mem_cons_of_mem _ hx)
    have hspace : ' ' ≠ ';' := by decide
    rw [List.intercalate_cons_cons, List.append_assoc, List.cons_append, List.singleton_append,
      pieces_append_sep (h p List.mem_cons_self), pieces_cons hspace hrest, List.map_cons]

theorem pairs_written {cookies : List (String × String)} (h : ∀ c ∈ cookies, IsWritable c) :
    pairs (written cookies) = cookies := by
  rw [pairs, toList_written]
  cases cookies with
  | nil => rfl
  | cons c r =>
    have hsemicolon : ∀ x ∈ piece c :: r.map piece, ';' ∉ x := by
      intro x hx
      obtain ⟨d, hd, rfl⟩ := List.mem_map.1 (show x ∈ (c :: r).map piece from hx)
      exact (h d hd).semicolon_notMem
    obtain ⟨hc, hr⟩ := List.forall_mem_cons.1 h
    have hbehind : (r.map fun d => ' ' :: piece d).filterMap pair? = r := by
      rw [List.filterMap_map]
      refine (List.filterMap_congr fun d hd => ?_).trans List.filterMap_some
      exact (hr d hd).pair?_space_piece
    rw [List.map_cons, pieces_intercalate hsemicolon, List.filterMap_cons, hc.pair?_piece,
      List.map_map]
    exact congrArg (c :: ·) hbehind

theorem mem_intercalate {sep : List Char} {ps : List (List Char)} {x : Char}
    (h : x ∈ sep.intercalate ps) : x ∈ sep ∨ ∃ p ∈ ps, x ∈ p := by
  induction ps with
  | nil => cases h
  | cons p r ih =>
    cases r with
    | nil =>
      rw [List.intercalate_singleton] at h
      exact .inr ⟨p, List.mem_cons_self, h⟩
    | cons q r =>
      rw [List.intercalate_cons_cons, List.append_assoc, List.mem_append, List.mem_append] at h
      rcases h with hx | hx | hx
      · exact .inr ⟨p, List.mem_cons_self, hx⟩
      · exact .inl hx
      · exact (ih hx).imp_right fun ⟨y, hy, hx⟩ => ⟨y, List.mem_cons_of_mem _ hy, hx⟩

theorem isReadableValue_written {cookies : List (String × String)}
    (h : ∀ c ∈ cookies, IsWritable c) : isReadableValue (written cookies) = true := by
  rw [isReadableValue, toList_written, List.all_eq_true]
  intro x hx
  rcases mem_intercalate hx with hx | ⟨p, hp, hx⟩
  · have hmarks : [';', ' '].all Ascii.isReadable = true := by decide
    exact List.all_eq_true.1 hmarks x hx
  · obtain ⟨c, hc, rfl⟩ := List.mem_map.1 hp
    exact (h c hc).isReadable_of_mem_piece hx

theorem find?_written {groups : List (List (String × String))}
    (h : ∀ c ∈ groups.flatten, IsWritable c) (name : String) :
    find? (groups.map written) name = Entries.get? name groups.flatten := by
  have hgroup : ∀ g ∈ groups, ∀ c ∈ g, IsWritable c := fun g hg c hc =>
    h c (List.mem_flatten_of_mem hg hc)
  have hreadable : ∀ v ∈ groups.map written, isReadableValue v = true := by
    intro v hv
    obtain ⟨g, hg, rfl⟩ := List.mem_map.1 hv
    exact isReadableValue_written (hgroup g hg)
  have hpairs : groups.map (fun g => pairs (written g)) = groups := by
    refine (List.map_congr_left fun g hg => ?_).trans (List.map_id _)
    exact pairs_written (hgroup g hg)
  rw [find?, List.filter_eq_self.2 hreadable, List.flatMap_map, List.flatMap_def, hpairs]

end Cookie

/-! ## Both transports -/

namespace MemoryRequest

/-- A request in memory that HTTP can carry: every name stands once. -/
@[mk_iff]
structure IsCarriable (m : MemoryRequest) : Prop where
  header_names : ∀ e ∈ m.headers, Ascii.isToken e.1 = true ∧ Ascii.lower e.1 ≠ "cookie"
  header_values : ∀ e ∈ m.headers, isReadableValue e.2 = true
  headers_nodup : (Entries.names (Headers.lowered m.headers)).Nodup
  cookies_writable : ∀ c ∈ m.cookies, Cookie.IsWritable c
  cookies_nodup : (Entries.names m.cookies).Nodup
  params_nodup : (Entries.names m.params).Nodup
  no_metadata : m.metadata = none

instance (m : MemoryRequest) : Decidable m.IsCarriable :=
  decidable_of_iff _ (isCarriable_iff m).symm

/-- A header line with cookies. -/
def isCookieLine (line : String × String) : Bool := Ascii.lower line.1 == "cookie"

/-- The header lines and the target of an HTTP request that carries what a request in memory
holds. The cookies may be spread over any number of cookie headers. -/
structure CarriedBy (m : MemoryRequest) (lines : List (String × String)) (uri : Uri) : Prop where
  headers : (Headers.lowered (lines.filter fun l => !isCookieLine l)).Perm
    (Headers.lowered m.headers)
  cookies : ∃ groups : List (List (String × String)), groups.flatten.Perm m.cookies ∧
    (lines.filter isCookieLine).map Prod.snd = groups.map Cookie.written
  params : uri.query = some (Form.render m.params) ∨ m.params = [] ∧ uri.query = none

section
variable {m : MemoryRequest} {lines : List (String × String)} {uri : Uri}

theorem readable_of_carriedBy (hm : m.IsCarriable) (hlines : m.CarriedBy lines uri) :
    ∀ l ∈ lines, Ascii.isToken l.1 = true ∧ isReadableValue l.2 = true := by
  intro l hl
  cases hcookie : isCookieLine l with
  | true =>
    have hname : Ascii.lower l.1 = "cookie" := by simpa [isCookieLine] using hcookie
    obtain ⟨groups, hperm, hvalues⟩ := hlines.cookies
    have hvalue : l.2 ∈ groups.map Cookie.written := by
      rw [← hvalues]
      exact List.mem_map_of_mem (List.mem_filter.2 ⟨hl, hcookie⟩)
    obtain ⟨g, hg, hwritten⟩ := List.mem_map.1 hvalue
    constructor
    · rw [← Ascii.isToken_lower, hname]
      decide
    · rw [← hwritten]
      refine Cookie.isReadableValue_written fun c hc => hm.cookies_writable c ?_
      exact hperm.mem_iff.1 (List.mem_flatten_of_mem hg hc)
  | false =>
    have hmem : (Ascii.lower l.1, l.2) ∈ Headers.lowered m.headers := by
      refine hlines.headers.mem_iff.1 (List.mem_map_of_mem (List.mem_filter.2 ⟨hl, ?_⟩))
      rw [hcookie]
      rfl
    obtain ⟨e, he, heq⟩ := List.mem_map.1 hmem
    obtain ⟨hname, hvalue⟩ := Prod.mk.inj heq
    constructor
    · rw [← Ascii.isToken_lower, ← hname, Ascii.isToken_lower]
      exact (hm.header_names e he).1
    · rw [← hvalue]
      exact hm.header_values e he

theorem last?_eq_get? {l : List (String × String)} (h : (Entries.names l).Nodup) (key : String) :
    last? key l = Entries.get? key l :=
  (Entries.get?_perm h l.reverse_perm.symm key).symm

theorem header_of_carriedBy (hm : m.IsCarriable) (hlines : m.CarriedBy lines uri) {key : String}
    (hkey : Ascii.lower key ≠ "cookie") :
    httpCredentials ⟨Headers.lowered lines⟩ uri .header key = m.credentials .header key := by
  have hget : Entries.get? (Ascii.lower key) (Headers.lowered lines) =
      Entries.get? (Ascii.lower key) (Headers.lowered m.headers) := by
    have hother : (Headers.lowered lines).filter (fun e => e.1 != "cookie") =
        Headers.lowered (lines.filter fun l => !isCookieLine l) := by
      rw [Headers.lowered, List.filter_map]
      rfl
    rw [Entries.get?_perm hm.headers_nodup hlines.headers.symm, ← hother, Entries.get?_filter]
    intro e _ hname
    simpa [hname] using hkey
  simp only [httpCredentials, credentials]
  rw [Headers.first?_eq_get?, hget, ← Headers.lowered, last?_eq_get? hm.headers_nodup]
  cases hvalue : Entries.get? (Ascii.lower key) (Headers.lowered m.headers) with
  | none => rfl
  | some v =>
    obtain ⟨e, he, heq⟩ := List.mem_map.1 (Entries.mem_of_get? hvalue)
    obtain ⟨-, rfl⟩ := Prod.mk.inj heq
    exact if_pos (hm.header_values e he)

theorem cookie_of_carriedBy (hm : m.IsCarriable) (hlines : m.CarriedBy lines uri) (key : String) :
    httpCredentials ⟨Headers.lowered lines⟩ uri .cookie key = m.credentials .cookie key := by
  obtain ⟨groups, hperm, hvalues⟩ := hlines.cookies
  have hwritable : ∀ c ∈ groups.flatten, Cookie.IsWritable c := fun c hc =>
    hm.cookies_writable c (hperm.mem_iff.1 hc)
  have hnodup : (Entries.names groups.flatten).Nodup :=
    (hperm.map Prod.fst).nodup_iff.2 hm.cookies_nodup
  have hall : Headers.all ⟨Headers.lowered lines⟩ "cookie" = groups.map Cookie.written := by
    have hcookie : Ascii.lower "cookie" = "cookie" := by decide
    rw [← hvalues, Headers.all, Headers.lowered, List.filter_map, List.map_map, hcookie]
    rfl
  simp only [httpCredentials, credentials]
  rw [hall, Cookie.find?_written hwritable, last?_eq_get? hm.cookies_nodup,
    Entries.get?_perm hnodup hperm]

theorem param_of_carriedBy (hm : m.IsCarriable) (hlines : m.CarriedBy lines uri) (h : Headers)
    (key : String) : httpCredentials h uri .urlParam key = m.credentials .urlParam key := by
  simp only [httpCredentials, credentials]
  rw [last?_eq_get? hm.params_nodup]
  rcases hlines.params with hquery | ⟨hparams, hquery⟩
  · simp only [hquery, Form.pairs_render]
  · rw [hquery, hparams]
    rfl

/-- An HTTP request that carries what a request in memory holds gives the same credentials. -/
theorem httpCredentials_of_carriedBy (hm : m.IsCarriable) (hlines : m.CarriedBy lines uri) :
    ∃ h, Headers.ofPairs lines = .ok h ∧
      ∀ kind key, (kind = .header → Ascii.lower key ≠ "cookie") →
        httpCredentials h uri kind key = m.credentials kind key := by
  refine ⟨_, Headers.ofPairs_of_readable (readable_of_carriedBy hm hlines), ?_⟩
  intro kind key hkey
  cases kind with
  | header => exact header_of_carriedBy hm hlines (hkey rfl)
  | cookie => exact cookie_of_carriedBy hm hlines key
  | urlParam => exact param_of_carriedBy hm hlines _ key
  | metadata =>
    simp only [httpCredentials, credentials]
    rw [hm.no_metadata]

end

/-- Headers, cookies and parameters, some of which need care. -/
def assorted : MemoryRequest where
  headers := [("X-Chroma-Token", "t\t1"), ("Authorization", "Bearer b ")]
  cookies := [("theme", "dark"), ("session", "s=\"1\" x"), ("auth", "")]
  params := [("token", "a b&ä"), ("", "+=")]
  metadata := none

/-- The header lines of an HTTP request with what `assorted` holds. -/
def assortedLines : List (String × String) :=
  [("Cookie", "auth=; session=s=\"1\" x"), ("AUTHORIZATION", "Bearer b "),
    ("cookie", "theme=dark"), ("x-chroma-token", "t\t1")]

/-- The target of the request. -/
def assortedUri : Uri := ⟨"/", some "token=a+b%26%C3%A4&=%2B%3D"⟩

theorem httpCredentials_assorted : ∃ h, Headers.ofPairs assortedLines = .ok h ∧
    httpCredentials h assortedUri .header "X-CHROMA-Token" = .ok (some "t\t1") ∧
    httpCredentials h assortedUri .cookie "session" = .ok (some "s=\"1\" x") ∧
    httpCredentials h assortedUri .urlParam "token" = .ok (some "a b&ä") := by
  have hcarried : assorted.CarriedBy assortedLines assortedUri := by
    refine ⟨by decide, ⟨[[("auth", ""), ("session", "s=\"1\" x")], [("theme", "dark")]], ?_, ?_⟩,
      .inl ?_⟩
    · decide
    · decide
    · decide
  obtain ⟨h, hlines, hsame⟩ := httpCredentials_of_carriedBy (by decide) hcarried
  refine ⟨h, hlines, ?_, ?_, ?_⟩
  · rw [hsame .header _ fun _ => by decide]
    rfl
  · rw [hsame .cookie _ fun h => by cases h]
    rfl
  · rw [hsame .urlParam _ fun h => by cases h]
    rfl

end MemoryRequest

end AccessGateway
