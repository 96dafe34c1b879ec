import AccessGateway.Document.Reader
import AccessGateway.Proofs.Outcome

/-
  What a reader takes from a document. `items`, `members`, `field?` and `text?` say where the parts
  of a document are without reading it. A list that is read has the value of every item
  (`Reader.list_items`), a table has the value of the last member of a name
  (`Reader.table_members`), and a record has in each field the value that stands under the name of
  the field or, in a list, at its place (`Layout.field_of_read`).
-/

namespace AccessGateway

/-! ## The parts of a document -/

namespace Document

/-- The members of a list of members whose names are texts. -/
def named (ms : List (Option String × Document)) : List (String × Document) :=
  ms.filterMap fun m => m.1.map fun k => (k, m.2)

theorem named_cons (k : String) (d : Document) (ms : List (Option String × Document)) :
    named ((some k, d) :: ms) = (k, d) :: named ms := rfl

/-- The members of an object. -/
def members : Document → List (String × Document)
  | .object ms _ => named ms
  | _ => []

/-- The items of a list. -/
def items : Document → List Document
  | .list ds _ => ds
  | _ => []

/-- The value of a field of a record, which is an object or a list with the field at a place. -/
def field? (name : String) (place : Nat) : Document → Option Document
  | .object ms _ => Entries.get? name (named ms)
  | .list ds _ => ds[place]?
  | _ => none

/-- The text of a scalar. -/
def text? : Document → Option String
  | .text s => s
  | .plain _ .null => none
  | .plain written _ => some written
  | .foreign _ (some (.text s)) => some s
  | _ => none

end Document

open Document

/-! ## Scalars, lists and tables -/

namespace Reader

variable {α β : Type}

theorem text_eq_ok_iff {d : Document} {s : String} : text d = .ok s ↔ d.text? = some s := by
  cases d with
  | text o => cases o <;> simp [text, textAs, text?]
  | plain written meaning => cases meaning <;> simp [text, textAs, text?]
  | foreign found o =>
    obtain _ | v := o
    · simp [text, textAs, text?]
    · cases v <;> simp [text, textAs, text?]
  | _ => simp [text, textAs, text?]

/-- Null has no text, so nothing is read where there is none. -/
theorem text?_of_nullable {d : Document} {o : Option String} (h : nullable text d = .ok o) :
    d.text? = o := by
  have hsome : ∀ d, (text d).map some = .ok o → d.text? = o := by
    intro d hd
    obtain ⟨s, hs, rfl⟩ := Outcome.map_eq_ok_iff.1 hd
    exact text_eq_ok_iff.1 hs
  unfold nullable at h
  split at h
  · exact Except.ok.inj h
  · split at h
    · exact Except.ok.inj h
    · exact hsome _ h
  · exact hsome _ h

theorem items_filterMap {inner : Reader α} {value? : Document → Option β} {view : α → β}
    (hinner : ∀ d a, inner d = .ok a → value? d = some (view a)) {i : Nat} {ds : List Document}
    {as : List α} (h : items inner i ds = .ok as) : ds.filterMap value? = as.map view := by
  induction ds generalizing i as with
  | nil =>
    obtain rfl := Except.ok.inj h
    rfl
  | cons d r ih =>
    unfold items at h
    split at h
    · cases h
    · next a ha =>
      obtain ⟨rest, hrest, rfl⟩ := Outcome.map_eq_ok_iff.1 h
      rw [List.filterMap_cons, hinner d a ha, ih hrest, List.map_cons]

/-- A list that is read has a value for every item. -/
theorem list_items {inner : Reader α} {value? : Document → Option β} {view : α → β}
    (hinner : ∀ d a, inner d = .ok a → value? d = some (view a)) {d : Document} {as : List α}
    (h : list inner d = .ok as) : d.items.filterMap value? = as.map view := by
  unfold list at h
  split at h
  · split at h
    · cases h
    · next hitems =>
      split at h
      · obtain rfl := Except.ok.inj h
        exact items_filterMap hinner hitems
      · cases h
  · split at h
    · obtain rfl := Except.ok.inj h
      rfl
    · cases h
  · cases h

theorem entries_named {inner : Reader α} {value : Document → β} {view : α → β}
    (hinner : ∀ d a, inner d = .ok a → value d = view a)
    {ms : List (Option String × Document)} {s t : Table α} (h : entries inner ms s = .ok t)
    (k : String) : (t.get? k).map view =
      (Entries.get? k ((named ms).map fun m => (m.1, value m.2)).reverse).or
        ((s.get? k).map view) := by
  induction ms generalizing s with
  | nil =>
    obtain rfl := Except.ok.inj h
    rfl
  | cons m r ih =>
    obtain ⟨_ | name, d⟩ := m
    · cases h
    · rw [entries] at h
      split at h
      · cases h
      · next a ha =>
        have hvalue : value d = view a := hinner d a ha
        rw [ih h, Table.get?_insert, named_cons, List.map_cons, List.reverse_cons,
          Entries.get?_append, Option.or_assoc]
        by_cases hk : k = name <;> simp [Entries.get?, hk, hvalue]

/-- Of the members of one name, the last one counts in a table that is read. -/
theorem table_members {inner : Reader α} {value : Document → β} {view : α → β}
    (hinner : ∀ d a, inner d = .ok a → value d = view a) {d : Document} {t : Table α}
    (h : table inner d = .ok t) (k : String) : (t.get? k).map view =
      Entries.get? k (d.members.map fun m => (m.1, value m.2)).reverse := by
  unfold table at h
  split at h
  · split at h
    · cases h
    · next hentries =>
      split at h
      · obtain rfl := Except.ok.inj h
        rw [entries_named hinner hentries k, Table.get?_empty, Option.map_none, Option.or_none]
        rfl
      · cases h
  · split at h
    · obtain rfl := Except.ok.inj h
      rfl
    · cases h
  · cases h

end Reader

/-! ## Records -/

namespace Field

variable {σ α β : Type}

/-- A field puts what its reader reads where `get` finds it. -/
def Sets (f : Field σ) (reader : Reader β) (get : σ → β) : Prop :=
  ∀ d set, f.read d = .ok set → ∀ x, reader d = .ok (get (set x))

/-- A field does not change what `get` finds. -/
def Leaves (f : Field σ) (get : σ → β) : Prop :=
  ∀ d set, f.read d = .ok set → ∀ x, get (set x) = get x

theorem sets_of_map {f : Field σ} {reader : Reader β} {set : β → σ → σ} {get : σ → β}
    (hread : ∀ d, f.read d = (reader d).map set) (hset : ∀ v x, get (set v x) = v) :
    f.Sets reader get := by
  intro d change h x
  rw [hread] at h
  obtain ⟨v, hv, rfl⟩ := Outcome.map_eq_ok_iff.1 h
  rw [hset]
  exact hv

theorem leaves_of_map {f : Field σ} {reader : Reader α} {set : α → σ → σ} {get : σ → β}
    (hread : ∀ d, f.read d = (reader d).map set) (hset : ∀ v x, get (set v x) = get x) :
    f.Leaves get := by
  intro d change h x
  rw [hread] at h
  obtain ⟨v, -, rfl⟩ := Outcome.map_eq_ok_iff.1 h
  exact hset v x

end Field

namespace Layout

variable {σ α β γ : Type}

/-- A field of a record: its name, its place and its reader, and where its value is kept. The other
fields have other names and leave the value alone. -/
structure Keeps (l : Layout σ) (name : String) (place : Nat) (reader : Reader β) (get : σ → β) :
    Prop where
  own : ∃ f, l.fields[place]? = some f ∧ f.name = name ∧ f.aliases = [] ∧ f.Sets reader get
  others : ∀ f ∈ l.fields.eraseIdx place, f.name ≠ name ∧ name ∉ f.aliases ∧ f.Leaves get

/-- What is read of a field is the value of the document that stands there. -/
def Reads (reader : Reader β) (o : Option Document) (before after : β) : Prop :=
  match o with
  | none => after = before
  | some d => reader d = .ok after

/-- A field of items that is read has a value for every item that stands there. -/
theorem Reads.items {inner : Reader α} {value? : Document → Option γ} {view : α → γ}
    (hinner : ∀ d a, inner d = .ok a → value? d = some (view a)) {o : Option Document}
    {as : List α} (h : Reads (Reader.list inner) o [] as) :
    (o.elim [] Document.items).filterMap value? = as.map view := by
  cases o with
  | none =>
    obtain rfl : as = [] := h
    rfl
  | some d => exact Reader.list_items hinner h

/-- A field of members that is read has the last value that stands there under a name. -/
theorem Reads.members {inner : Reader α} {value : Document → γ} {view : α → γ}
    (hinner : ∀ d a, inner d = .ok a → value d = view a) {o : Option Document} {t : Table α}
    (h : Reads (Reader.table inner) o Table.empty t) (k : String) : (t.get? k).map view =
      Entries.get? k ((o.elim [] Document.members).map fun m => (m.1, value m.2)).reverse := by
  cases o with
  | none =>
    obtain rfl : t = Table.empty := h
    rfl
  | some d => exact Reader.table_members hinner h k

theorem Reads.text? {o : Option Document} {t : Option String}
    (h : Reads (Reader.nullable Reader.text) o none t) : o.bind Document.text? = t := by
  cases o with
  | none => exact Eq.symm h
  | some d => exact Reader.text?_of_nullable h

/-- A list that is read as a record has items for its fields, and perhaps more. -/
theorem exists_of_list {l : Layout σ} {dialect : Dialect} {ds : List Document} {whole : Bool}
    {x : σ} (h : l.list dialect ds whole = .ok x) :
    ∃ rest, l.positions whole l.fields 0 ds l.blank = .ok (rest, x) := by
  unfold Layout.list at h
  split at h
  · cases h
  · next rest y hpositions =>
    refine ⟨rest, hpositions.trans ?_⟩
    split at h
    · cases h
    · split at h
      · obtain rfl := Except.ok.inj h
        rfl
      · split at h
        · cases h
        · obtain rfl := Except.ok.inj h
          rfl
        · cases h

theorem getElem?_of_cons_eq_drop {f : Field σ} {fs gs : List (Field σ)} {i : Nat}
    (h : f :: fs = gs.drop i) : gs[i]? = some f ∧ fs = gs.drop (i + 1) := by
  constructor
  · rw [← List.head?_drop, ← h, List.head?_cons]
  · rw [← List.tail_drop, ← h, List.tail_cons]

section
variable {l : Layout σ} {name : String} {place : Nat} {reader : Reader β} {get : σ → β}
  (hl : l.Keeps name place reader get)
include hl

theorem Keeps.own_or_other {i : Nat} {f : Field σ} (h : l.fields[i]? = some f) :
    (i = place ∧ f.name = name ∧ f.aliases = [] ∧ f.Sets reader get) ∨
      (i ≠ place ∧ f.name ≠ name ∧ name ∉ f.aliases ∧ f.Leaves get) := by
  by_cases hi : i = place
  · subst hi
    obtain ⟨g, hg, hown⟩ := hl.own
    obtain rfl := Option.some.inj (h.symm.trans hg)
    exact .inl ⟨rfl, hown⟩
  · exact .inr ⟨hi, hl.others f (List.mem_eraseIdx_iff_getElem?.2 ⟨i, hi, h⟩)⟩

/-- The name of the field finds it, and other names find other fields. -/
theorem Keeps.find?_answersTo {k : String} {f : Field σ}
    (h : l.fields.find? (·.answersTo k) = some f) :
    (k = name ∧ f.name = name ∧ f.Sets reader get) ∨
      (k ≠ name ∧ f.name ≠ name ∧ f.Leaves get) := by
  have hanswers : f.name = k ∨ k ∈ f.aliases := by
    simpa [Field.answersTo] using List.find?_some h
  obtain ⟨i, hi⟩ := List.getElem?_of_mem (List.mem_of_find?_eq_some h)
  rcases hl.own_or_other hi with ⟨-, hname, haliases, hsets⟩ | ⟨-, hname, haliases, hleaves⟩
  · rw [haliases, hname] at hanswers
    exact .inl ⟨(hanswers.resolve_right List.not_mem_nil).symm, hname, hsets⟩
  · refine .inr ⟨?_, hname, hleaves⟩
    rintro rfl
    exact hanswers.elim hname haliases

theorem Keeps.find?_ne_none : l.fields.find? (·.answersTo name) ≠ none := by
  obtain ⟨f, hf, hname, -⟩ := hl.own
  rw [ne_eq, List.find?_eq_none]
  intro h
  exact h f (List.mem_of_getElem? hf) (by simp [Field.answersTo, hname])

theorem Keeps.reads_members {ms : List (Option String × Document)} {seen seen' : List String}
    {x y : σ} (h : l.members ms seen x = .ok (seen', y)) :
    if name ∈ seen then get y = get x
    else Reads reader (Entries.get? name (named ms)) (get x) (get y) := by
  induction ms generalizing seen x with
  | nil =>
    obtain ⟨rfl, rfl⟩ := Prod.mk.inj (Except.ok.inj h)
    split
    · rfl
    · rfl
  | cons m r ih =>
    obtain ⟨_ | k, d⟩ := m
    · cases h
    · rw [named_cons, Entries.get?]
      rw [Layout.members] at h
      split at h
      · next hnone =>
        -- a member that no field takes does not have the name of the field
        have hk : name ≠ k := by
          rintro rfl
          exact hl.find?_ne_none hnone
        split at h
        · cases h
        · split at h
          · rw [if_neg hk]
            exact ih h
          · cases h
      · next f hf =>
        split at h
        · cases h
        · next hseen =>
          split at h
          · cases h
          · next set hset =>
            have hrest := ih h
            rcases hl.find?_answersTo hf with ⟨rfl, hname, hsets⟩ | ⟨hk, hname, hleaves⟩
            · rw [hname, if_pos List.mem_cons_self] at hrest
              rw [hname] at hseen
              rw [if_neg (by simpa using hseen), if_pos rfl, hrest]
              exact hsets d set hset x
            · rw [hleaves d set hset x] at hrest
              simpa only [List.mem_cons, Ne.symm hname, false_or, if_neg (Ne.symm hk)] using hrest

theorem Keeps.reads_object {ms : List (Option String × Document)} {whole : Bool} {x : σ}
    (h : l.object ms whole = .ok x) :
    Reads reader (Entries.get? name (named ms)) (get l.blank) (get x) := by
  unfold object at h
  split at h
  · cases h
  · next hmembers =>
    split at h
    · split at h
      · cases h
      · obtain rfl := Except.ok.inj h
        simpa using hl.reads_members hmembers
    · cases h

theorem Keeps.reads_positions {whole : Bool} {fs : List (Field σ)} {i n : Nat}
    {ds rest : List Document} {x y : σ} (hfs : fs = l.fields.drop i)
    (h : l.positions whole fs n ds x = .ok (rest, y)) :
    if place < i then get y = get x else Reads reader ds[place - i]? (get x) (get y) := by
  induction fs generalizing i n ds x with
  | nil =>
    obtain ⟨rfl, rfl⟩ := Prod.mk.inj (Except.ok.inj h)
    have hlength : l.fields.length ≤ i := List.drop_eq_nil_iff.1 hfs.symm
    obtain ⟨f, hf, -⟩ := hl.own
    have hplace : place < l.fields.length := (List.getElem?_eq_some_iff.1 hf).1
    rw [if_pos (by omega)]
  | cons f fs ih =>
    obtain ⟨hf, hrest⟩ := getElem?_of_cons_eq_drop hfs
    cases ds with
    | nil =>
      rw [positions] at h
      split at h
      · cases h
      · split at h
        · cases h
        · have hsame := ih hrest h
          simpa [Reads] using hsame
    | cons d r =>
      rw [positions] at h
      split at h
      · cases h
      · next set hset =>
        have hread := ih hrest h
        rcases hl.own_or_other hf with ⟨rfl, -, -, hsets⟩ | ⟨hi, -, -, hleaves⟩
        · rw [if_pos (by omega)] at hread
          rw [if_neg (by omega), Nat.sub_self, hread]
          exact hsets d set hset x
        · rw [hleaves d set hset x] at hread
          by_cases hlt : place < i
          · rw [if_pos hlt]
            rwa [if_pos (by omega)] at hread
          · rw [if_neg hlt]
            rw [if_neg (by omega)] at hread
            have hshift : place - i = place - (i + 1) + 1 := by omega
            rwa [hshift, List.getElem?_cons_succ]

/-- A record that is read has in a field what stands there, or else what it was made with. -/
theorem Keeps.field_of_read {dialect : Dialect} {d : Document} {x : σ}
    (h : l.read dialect d = .ok x) : Reads reader (d.field? name place) (get l.blank) (get x) := by
  unfold Layout.read at h
  split at h
  · exact hl.reads_object h
  · split at h
    · cases h
    · obtain ⟨rest, hpositions⟩ := exists_of_list h
      exact hl.reads_positions (i := 0) rfl hpositions
  · split at h
    · exact hl.reads_object h
    · cases h
  · cases h

theorem Keeps.mem_of_members {ms : List (Option String × Document)} {seen seen' : List String}
    {x y : σ} (h : l.members ms seen x = .ok (seen', y)) (hname : name ∈ seen') :
    name ∈ seen ∨ name ∈ Entries.names (named ms) := by
  induction ms generalizing seen x with
  | nil =>
    obtain ⟨rfl, -⟩ := Prod.mk.inj (Except.ok.inj h)
    exact .inl hname
  | cons m r ih =>
    obtain ⟨_ | k, d⟩ := m
    · cases h
    · rw [named_cons, Entries.names, List.map_cons, List.mem_cons, ← Entries.names]
      rw [Layout.members] at h
      split at h
      · split at h
        · cases h
        · split at h
          · exact (ih h).imp_right .inr
          · cases h
      · next f hf =>
        split at h
        · cases h
        · split at h
          · cases h
          · rcases ih h with hmem | hmem
            · rcases hl.find?_answersTo hf with ⟨hk, -⟩ | ⟨-, hne, -⟩
              · exact .inr (.inl hk.symm)
              · exact .inl ((List.mem_cons.1 hmem).resolve_left (Ne.symm hne))
            · exact .inr (.inr hmem)

theorem Keeps.lt_length_of_positions
    (hrequired : ∀ f, l.fields[place]? = some f → f.required = true)
    {whole : Bool} {fs : List (Field σ)} {i n : Nat} {ds rest : List Document} {x y : σ}
    (hfs : fs = l.fields.drop i) (h : l.positions whole fs n ds x = .ok (rest, y))
    (hplace : i ≤ place) : place - i < ds.length := by
  induction fs generalizing i n ds x with
  | nil =>
    have hlength : l.fields.length ≤ i := List.drop_eq_nil_iff.1 hfs.symm
    obtain ⟨f, hf, -⟩ := hl.own
    have hlt : place < l.fields.length := (List.getElem?_eq_some_iff.1 hf).1
    omega
  | cons f fs ih =>
    obtain ⟨hf, hrest⟩ := getElem?_of_cons_eq_drop hfs
    cases ds with
    | nil =>
      rw [positions] at h
      split at h
      · cases h
      · split at h
        · cases h
        · next hoptional =>
          have hi : i ≠ place := by
            rintro rfl
            exact hoptional (hrequired f hf)
          exact absurd (ih hrest h (by omega)) (Nat.not_lt_zero _)
    | cons d r =>
      rw [List.length_cons]
      by_cases hi : i = place
      · omega
      · rw [positions] at h
        split at h
        · cases h
        · have hlt := ih hrest h (by omega)
          omega

theorem Keeps.isSome_of_object (hrequired : ∀ f, l.fields[place]? = some f → f.required = true)
    {ms : List (Option String × Document)} {whole : Bool} {x : σ}
    (h : l.object ms whole = .ok x) : (Entries.get? name (named ms)).isSome = true := by
  unfold object at h
  split at h
  · cases h
  · next seen y hmembers =>
    split at h
    · split at h
      · cases h
      · next hmissing =>
        obtain ⟨f, hf, rfl, -⟩ := hl.own
        have hseen := List.find?_eq_none.1 hmissing f (List.mem_of_getElem? hf)
        rw [hrequired f hf] at hseen
        have hmem := hl.mem_of_members hmembers (by simpa using hseen)
        exact Entries.get?_isSome_iff.2 (hmem.resolve_left List.not_mem_nil)
    · cases h

/-- A field that must be there stands in every record that is read. -/
theorem Keeps.isSome_of_read (hrequired : ∀ f, l.fields[place]? = some f → f.required = true)
    {dialect : Dialect} {d : Document} {x : σ} (h : l.read dialect d = .ok x) :
    (d.field? name place).isSome = true := by
  unfold Layout.read at h
  split at h
  · exact hl.isSome_of_object hrequired h
  · split at h
    · cases h
    · obtain ⟨rest, hpositions⟩ := exists_of_list h
      have hlt := hl.lt_length_of_positions hrequired (i := 0) rfl hpositions (Nat.zero_le _)
      rw [Nat.sub_zero] at hlt
      simpa [field?] using hlt
  · split at h
    · have hnone := hl.isSome_of_object hrequired h
      cases hnone
    · cases h
  · cases h

end

end Layout

end AccessGateway
