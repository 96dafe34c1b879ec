import AccessGateway.Proofs.Document.Ordered
import AccessGateway.Proofs.Document.Reader

/-
  Reading what was written. A value is recovered if its reader takes what was written of it back to
  it (`Reader.Recovers`). A list or a table is recovered if what is in it is, and a record if its
  members are, one after another (`Layout.members_cons_eq_ok`, `Layout.recovers_of_members`). Some
  readers yield values of some kind only, whatever document they are given (`Reader.Yields`); a
  record has them where its fields put them (`Layout.yields`).
-/

namespace AccessGateway

open Document (ofJson ofItems ofMembers)

variable {α β σ : Type}

/-! ## Readers and writers -/

namespace Reader

/-- A reader takes a written value back to what was written. -/
def Recovers (reader : Reader α) (v : Json) (a : α) : Prop := reader (ofJson v) = .ok a

theorem recovers_text (s : String) : text.Recovers (.text s) s := rfl

theorem recovers_text? (s : Option String) : (nullable text).Recovers (Json.ofText? s) s := by
  cases s <;> rfl

theorem recovers_any {v : Json} (h : v.IsOrdered) : any.Recovers v v := Document.toJson_ofJson h

theorem recovers_natBelow {bound n : Nat} (h : n < bound) (expected : String) :
    (natBelow bound expected).Recovers (Json.ofNat n) n := by
  have hn : (0 : Int) ≤ n ∧ (n : Int) < bound := by omega
  exact if_pos hn

variable {inner : Reader α} {write : α → Json}

theorem items_ofItems {as : List α} (h : ∀ a ∈ as, inner.Recovers (write a) a) (i : Nat) :
    items inner i (ofItems (as.map write)) = .ok as := by
  induction as generalizing i with
  | nil => rfl
  | cons a as ih =>
    obtain ⟨ha, has⟩ := List.forall_mem_cons.1 h
    rw [List.map_cons, ofItems, items, ha, ih has]
    rfl

theorem recovers_list {as : List α} (h : ∀ a ∈ as, inner.Recovers (write a) a) :
    (list inner).Recovers (.list (as.map write)) as := by
  rw [Recovers, ofJson, list, items_ofItems h]
  rfl

theorem recovers_texts (xs : List String) : (list text).Recovers (Json.ofTexts xs) xs :=
  recovers_list fun x _ => recovers_text x

theorem entries_ofMembers {es : List (String × α)} (h : ∀ e ∈ es, inner.Recovers (write e.2) e.2)
    (t : Table α) : entries inner (ofMembers (es.map fun e => (e.1, write e.2))) t =
      .ok (es.foldl (fun t e => t.insert e.1 e.2) t) := by
  induction es generalizing t with
  | nil => rfl
  | cons e es ih =>
    obtain ⟨he, hes⟩ := List.forall_mem_cons.1 h
    rw [List.map_cons, ofMembers, entries, he]
    exact ih hes (t.insert e.1 e.2)

theorem recovers_table {t : Table α} (h : ∀ e ∈ t.entries, inner.Recovers (write e.2) e.2) :
    (table inner).Recovers (Json.ofTable (t.map write)) t := by
  have hentries : entries inner (ofMembers (t.map write).entries) Table.empty = .ok t := by
    rw [Table.map, entries_ofMembers h]
    exact congrArg Except.ok t.ofList_entries
  rw [Recovers, Json.ofTable, ofJson, table, hentries]
  rfl

end Reader

namespace Layout

variable {l : Layout σ}

/-- A member that a field takes back comes first. -/
theorem members_cons_eq_ok {reader : Reader β} {v : Json} {b : β} (hv : reader.Recovers v b)
    {f : Field σ} {k : String} (hfield : l.fields.find? (·.answersTo k) = some f)
    {put : β → σ → σ} (hread : f.read = fun d => (reader d).map put) {seen : List String}
    (hnew : seen.contains f.name = false) {ms : List (String × Json)} {x : σ}
    {result : List String × σ}
    (hrest : l.members (ofMembers ms) (f.name :: seen) (put b x) = .ok result) :
    l.members (ofMembers ((k, v) :: ms)) seen x = .ok result := by
  have hset : f.read (ofJson v) = .ok (put b) := by
    rw [hread]
    exact congrArg (Except.map put) hv
  simp only [ofMembers, members, hfield, hnew, hset, Bool.false_eq_true, if_false, hrest]

/-- A record is recovered if its members are. -/
theorem recovers_of_members {ms : List (String × Json)} {seen : List String} {x : σ}
    (hmembers : l.members (ofMembers ms) [] l.blank = .ok (seen, x))
    (hmissing : l.missing? seen = none) (dialect : Dialect) :
    (l.read dialect).Recovers (.object ms) x := by
  show l.object (ofMembers ms) true = _
  simp only [object, hmembers, hmissing, if_true]

end Layout

/-! ## What readers yield -/

namespace Reader

/-- What a reader takes from documents has a property. -/
def Yields (reader : Reader α) (p : α → Prop) : Prop :=
  ∀ d a, d.IsOrdered → reader d = .ok a → p a

variable {inner : Reader α} {p : α → Prop}

theorem yields_any : any.Yields Json.IsOrdered := fun _ _ hd h => hd.of_toJson h

theorem yields_natBelow (bound : Nat) (expected : String) :
    (natBelow bound expected).Yields (· < bound) := by
  intro d n _ h
  unfold natBelow at h
  split at h
  · split at h
    · next hn =>
      obtain rfl := Except.ok.inj h
      show Int.toNat _ < bound
      omega
    · cases h
  · cases h

theorem forall_of_items (hinner : inner.Yields p) {ds : List Document}
    (hds : ∀ d ∈ ds, d.IsOrdered) {i : Nat} {as : List α} (h : items inner i ds = .ok as) :
    ∀ a ∈ as, p a := by
  induction ds generalizing i as with
  | nil =>
    obtain rfl := Except.ok.inj h
    exact List.forall_mem_nil _
  | cons d ds ih =>
    obtain ⟨hd, hrest⟩ := List.forall_mem_cons.1 hds
    unfold items at h
    split at h
    · cases h
    · next a ha =>
      obtain ⟨bs, hbs, rfl⟩ := Outcome.map_eq_ok_iff.1 h
      exact List.forall_mem_cons.2 ⟨hinner d a hd ha, ih hrest hbs⟩

theorem yields_list (hinner : inner.Yields p) : (list inner).Yields fun as => ∀ a ∈ as, p a := by
  intro d as hd h
  unfold list at h
  split at h
  · cases hd with
    | list closed hitems =>
      split at h
      · cases h
      · next hread =>
        split at h
        · obtain rfl := Except.ok.inj h
          exact forall_of_items hinner hitems hread
        · cases h
  · split at h
    · obtain rfl := Except.ok.inj h
      exact List.forall_mem_nil _
    · cases h
  · cases h

end Reader

/-- What a field puts in a place has a property if its reader yields it. -/
theorem Field.holds_of_read {f : Field σ} {get : σ → β} {q : β → Prop}
    (hf : f.Leaves get ∨ ∃ reader : Reader β, f.Sets reader get ∧ reader.Yields q)
    {d : Document} (hd : d.IsOrdered) {set : σ → σ} (h : f.read d = .ok set) {x : σ}
    (hx : q (get x)) : q (get (set x)) := by
  rcases hf with hleaves | ⟨reader, hsets, hyields⟩
  · rw [hleaves d set h x]
    exact hx
  · exact hyields d _ hd (hsets d set h x)

namespace Layout

variable {l : Layout σ} {get : σ → β} {q : β → Prop}
  (hfields : ∀ f ∈ l.fields,
    f.Leaves get ∨ ∃ reader : Reader β, f.Sets reader get ∧ reader.Yields q)
include hfields

theorem of_members {ms : List (Option String × Document)} (hms : ∀ m ∈ ms, m.2.IsOrdered)
    {seen seen' : List String} {x y : σ} (hx : q (get x))
    (h : l.members ms seen x = .ok (seen', y)) : q (get y) := by
  induction ms generalizing seen x with
  | nil =>
    obtain ⟨rfl, rfl⟩ := Prod.mk.inj (Except.ok.inj h)
    exact hx
  | cons m ms ih =>
    obtain ⟨hm, hrest⟩ := List.forall_mem_cons.1 hms
    obtain ⟨_ | k, d⟩ := m
    · cases h
    · rw [members] at h
      split at h
      · split at h
        · cases h
        · split at h
          · exact ih hrest hx h
          · cases h
      · next f hf =>
        split at h
        · cases h
        · split at h
          · cases h
          · next set hset =>
            have hf' := hfields f (List.mem_of_find?_eq_some hf)
            exact ih hrest (Field.holds_of_read hf' hm hset hx) h

theorem of_object (hblank : q (get l.blank)) {ms : List (Option String × Document)}
    (hms : ∀ m ∈ ms, m.2.IsOrdered) {whole : Bool} {x : σ} (h : l.object ms whole = .ok x) :
    q (get x) := by
  unfold object at h
  split at h
  · cases h
  · next hmembers =>
    split at h
    · split at h
      · cases h
      · obtain rfl := Except.ok.inj h
        exact of_members hfields hms hblank hmembers
    · cases h

theorem of_positions {whole : Bool} {fs : List (Field σ)} (hfs : ∀ f ∈ fs, f ∈ l.fields) {i : Nat}
    {ds rest : List Document} (hds : ∀ d ∈ ds, d.IsOrdered) {x y : σ} (hx : q (get x))
    (h : l.positions whole fs i ds x = .ok (rest, y)) : q (get y) := by
  induction fs generalizing i ds x with
  | nil =>
    obtain ⟨rfl, rfl⟩ := Prod.mk.inj (Except.ok.inj h)
    exact hx
  | cons f fs ih =>
    obtain ⟨hf, hrest⟩ := List.forall_mem_cons.1 hfs
    cases ds with
    | nil =>
      rw [positions] at h
      split at h
      · cases h
      · split at h
        · cases h
        · exact ih hrest hds hx h
    | cons d ds =>
      obtain ⟨hd, hds⟩ := List.forall_mem_cons.1 hds
      rw [positions] at h
      split at h
      · cases h
      · next set hset =>
        exact ih hrest hds (Field.holds_of_read (hfields f hf) hd hset hx) h

variable (get) in
/-- What stands in a place of every record that is read has a property, if what stands there before
any field is read has it and every field that puts something there yields it. -/
theorem yields (hblank : q (get l.blank)) (dialect : Dialect) :
    (l.read dialect).Yields fun x => q (get x) := by
  intro d x hd h
  unfold Layout.read at h
  split at h
  · cases hd with
    | object closed hmembers => exact of_object hfields hblank hmembers h
  · cases hd with
    | list closed hitems =>
      split at h
      · cases h
      · obtain ⟨rest, hpositions⟩ := exists_of_list h
        exact of_positions hfields (fun f hf => hf) hitems hblank hpositions
  · split at h
    · exact of_object hfields hblank (List.forall_mem_nil _) h
    · cases h
  · cases h

end Layout

end AccessGateway
