import AccessGateway.Entries

/-
  Finite maps from names to values, kept in strictly ascending order of the names. The order is
  part of the type, so two tables with the same contents are equal. The laws say what an
  operation does to the look-up: `get?_insert`, `get?_erase`, `get?_empty`.
-/

namespace AccessGateway

/-- A list of named values in strictly ascending order of the names. -/
structure Table (α : Type) where
  entries : List (String × α)
  ascending : entries.Pairwise fun a b => a.1 < b.1

namespace Table

variable {α β : Type}

theorem ext {s t : Table α} (h : s.entries = t.entries) : s = t := by
  cases s
  cases t
  subst h
  rfl

/-- The table without entries. -/
def empty : Table α := ⟨[], List.Pairwise.nil⟩

instance : Inhabited (Table α) := ⟨empty⟩
instance : EmptyCollection (Table α) := ⟨empty⟩

/-- The names in ascending order. -/
def keys (t : Table α) : List String := t.entries.map Prod.fst

/-- The number of entries. -/
def size (t : Table α) : Nat := t.entries.length

/-- Whether there is no entry. -/
def isEmpty (t : Table α) : Bool := t.entries.isEmpty

/-- The value under a name. -/
def get? (t : Table α) (k : String) : Option α := Entries.get? k t.entries

/-- Whether there is a value under a name. -/
def contains (t : Table α) (k : String) : Bool := (t.get? k).isSome

/-- The entries with one more in its place; an entry of the same name is replaced. -/
def insertEntry (k : String) (v : α) : List (String × α) → List (String × α)
  | [] => [(k, v)]
  | e :: r =>
    if k < e.1 then (k, v) :: e :: r
    else if k = e.1 then (k, v) :: r
    else e :: insertEntry k v r

theorem mem_insertEntry {k : String} {v : α} {l : List (String × α)} {x : String × α}
    (h : x ∈ insertEntry k v l) : x = (k, v) ∨ x ∈ l := by
  induction l with
  | nil => simpa [insertEntry] using h
  | cons e r ih =>
    simp only [insertEntry] at h
    split at h
    · simpa using h
    · split at h
      · simp only [List.mem_cons] at h ⊢
        exact h.imp_right Or.inr
      · simp only [List.mem_cons] at h ⊢
        rcases h with h | h
        · exact Or.inr (Or.inl h)
        · exact (ih h).imp_right Or.inr

theorem ascending_insertEntry {k : String} {v : α} {l : List (String × α)}
    (h : l.Pairwise fun a b => a.1 < b.1) :
    (insertEntry k v l).Pairwise fun a b => a.1 < b.1 := by
  induction l with
  | nil => simp [insertEntry]
  | cons e r ih =>
    simp only [insertEntry]
    rw [List.pairwise_cons] at h
    split
    · next hk =>
      refine List.pairwise_cons.2 ⟨?_, List.pairwise_cons.2 h⟩
      intro x hx
      rcases List.mem_cons.1 hx with rfl | hx
      · exact hk
      · exact String.lt_trans hk (h.1 x hx)
    · split
      · next he => exact List.pairwise_cons.2 ⟨fun x hx => he ▸ h.1 x hx, h.2⟩
      · next hk he =>
        refine List.pairwise_cons.2 ⟨?_, ih h.2⟩
        intro x hx
        rcases mem_insertEntry hx with rfl | hx
        · have hle : e.1 ≤ k := String.not_lt.1 hk
          rcases Classical.em (e.1 < k) with hlt | hlt
          · exact hlt
          · exact absurd (String.le_antisymm (String.not_lt.1 hlt) hle) he
        · exact h.1 x hx

/-- The table with a value under a name, in place of the one that was there. -/
def insert (t : Table α) (k : String) (v : α) : Table α :=
  ⟨insertEntry k v t.entries, ascending_insertEntry t.ascending⟩

/-- The table without the entry of a name. -/
def erase (t : Table α) (k : String) : Table α :=
  ⟨t.entries.filter fun e => e.1 ≠ k, t.ascending.filter _⟩

/-- The table of a list of entries; of two entries with one name the later stays. -/
def ofList (l : List (String × α)) : Table α := l.foldl (fun t e => t.insert e.1 e.2) empty

/-- The table with every value changed. -/
def map (f : α → β) (t : Table α) : Table β :=
  ⟨t.entries.map fun e => (e.1, f e.2), by
    rw [List.pairwise_map]
    exact t.ascending⟩

@[simp] theorem get?_empty (k : String) : (empty : Table α).get? k = none := rfl

theorem get?_insertEntry (l : List (String × α)) (k j : String) (v : α) :
    Entries.get? j (insertEntry k v l) = if j = k then some v else Entries.get? j l := by
  induction l with
  | nil => simp [insertEntry, Entries.get?]
  | cons e r ih =>
    simp only [insertEntry]
    split
    · simp [Entries.get?]
    · split
      · next he =>
        by_cases hj : j = k
        · simp [Entries.get?, hj]
        · have hj' : j ≠ e.1 := fun h => hj (h.trans he.symm)
          simp [Entries.get?, hj, hj']
      · next he =>
        by_cases hj : j = e.1
        · have hj' : j ≠ k := fun h => he (h.symm.trans hj)
          simp [Entries.get?, hj, Ne.symm he]
        · simp [Entries.get?, hj, ih]

theorem get?_insert (t : Table α) (k j : String) (v : α) :
    (t.insert k v).get? j = if j = k then some v else t.get? j :=
  get?_insertEntry t.entries k j v

theorem get?_foldl_insert (l : List (String × α)) (t : Table α) (k : String) :
    (l.foldl (fun t e => t.insert e.1 e.2) t).get? k = (Entries.get? k l.reverse).or (t.get? k) := by
  induction l generalizing t with
  | nil => rfl
  | cons e r ih =>
    rw [List.foldl_cons, ih, get?_insert, List.reverse_cons, Entries.get?_append, Option.or_assoc]
    by_cases hk : k = e.1 <;> simp [Entries.get?, hk]

/-- The later of two entries with one name counts. -/
theorem get?_ofList (l : List (String × α)) (k : String) :
    (ofList l).get? k = Entries.get? k l.reverse := by
  rw [ofList, get?_foldl_insert, get?_empty, Option.or_none]

theorem get?_filter_ne (l : List (String × α)) (k j : String) :
    Entries.get? j (l.filter fun e => e.1 ≠ k) = if j = k then none else Entries.get? j l := by
  induction l with
  | nil => simp [Entries.get?]
  | cons e r ih =>
    by_cases he : e.1 = k
    · rw [List.filter_cons_of_neg (by simp [he]), ih]
      by_cases hj : j = k
      · simp [hj]
      · simp [Entries.get?, he, hj]
    · rw [List.filter_cons_of_pos (by simp [he])]
      by_cases hj : j = e.1
      · simp [Entries.get?, hj, he]
      · simpa [Entries.get?, hj] using ih

theorem get?_erase (t : Table α) (k j : String) :
    (t.erase k).get? j = if j = k then none else t.get? j :=
  get?_filter_ne t.entries k j

theorem contains_iff_mem_keys (t : Table α) (k : String) : t.contains k = true ↔ k ∈ t.keys :=
  Entries.get?_isSome_iff

theorem mem_keys_ofList {l : List (String × α)} {k : String} :
    k ∈ (ofList l).keys ↔ k ∈ Entries.names l := by
  rw [← contains_iff_mem_keys, contains, get?_ofList, Entries.get?_isSome_iff]
  simp [Entries.names]

theorem get?_eq_some_iff {t : Table α} {k : String} {v : α} :
    t.get? k = some v ↔ (k, v) ∈ t.entries := by
  have distinct : (Entries.names t.entries).Nodup := by
    rw [Entries.names, List.nodup_iff_pairwise_ne, List.pairwise_map]
    exact t.ascending.imp fun h => String.ne_of_lt h
  exact ⟨Entries.mem_of_get?, Entries.get?_of_mem distinct⟩

theorem mem_of_mem_ofList {l : List (String × α)} {e : String × α} (h : e ∈ (ofList l).entries) :
    e ∈ l := by
  have hget : (ofList l).get? e.1 = some e.2 := get?_eq_some_iff.2 h
  rw [get?_ofList] at hget
  exact List.mem_reverse.1 (Entries.mem_of_get? hget)

/-- The entries in front of another are those of the names below. -/
theorem mem_front_iff {t : Table α} {front back : List (String × α)} {x y : String × α}
    (h : t.entries = front ++ x :: back) : y ∈ front ↔ t.get? y.1 = some y.2 ∧ y.1 < x.1 := by
  obtain ⟨-, hback, hfront⟩ := List.pairwise_append.1 (h ▸ t.ascending)
  rw [get?_eq_some_iff, h, List.mem_append, List.mem_cons]
  constructor
  · intro hy
    exact ⟨.inl hy, hfront y hy x List.mem_cons_self⟩
  · rintro ⟨hy | rfl | hy, hlt⟩
    · exact hy
    · exact absurd hlt (String.lt_irrefl _)
    · have hgt := (List.pairwise_cons.1 hback).1 y hy
      exact absurd (String.lt_trans hlt hgt) (String.lt_irrefl _)

theorem keys_ascending (t : Table α) : t.keys.Pairwise fun a b => a < b := by
  rw [keys, List.pairwise_map]
  exact t.ascending

/-- Entering the entries of a table in order gives the table again. -/
theorem foldl_insertEntry (l : List (String × α)) (r : List (String × α))
    (h : (l ++ r).Pairwise fun a b => a.1 < b.1) :
    r.foldl (fun acc e => insertEntry e.1 e.2 acc) l = l ++ r := by
  induction r generalizing l with
  | nil => simp
  | cons e r ih =>
    have last : ∀ l : List (String × α), (∀ x ∈ l, x.1 < e.1) →
        insertEntry e.1 e.2 l = l ++ [e] := by
      intro l hl
      induction l with
      | nil => rfl
      | cons x l ihl =>
        have hx := hl x List.mem_cons_self
        have h1 : ¬ e.1 < x.1 := fun h => String.lt_irrefl _ (String.lt_trans h hx)
        have h2 : e.1 ≠ x.1 := fun h => String.lt_irrefl e.1 (by
          have hx' := hx
          rw [← h] at hx'
          exact hx')
        simp [insertEntry, h1, h2, ihl fun y hy => hl y (List.mem_cons_of_mem _ hy)]
    rw [List.foldl_cons, last l fun x hx => (List.pairwise_append.1 h).2.2 x hx e
      List.mem_cons_self, ih (l ++ [e]) (by simpa using h)]
    simp

theorem ofList_entries (t : Table α) : ofList t.entries = t := by
  have step : ∀ (l : List (String × α)) (t : Table α),
      (l.foldl (fun t e => t.insert e.1 e.2) t).entries =
        l.foldl (fun acc e => insertEntry e.1 e.2 acc) t.entries := by
    intro l
    induction l with
    | nil => intro t; rfl
    | cons e l ih => exact fun t => ih (t.insert e.1 e.2)
  apply ext
  rw [ofList, step]
  simpa [empty] using foldl_insertEntry [] t.entries (by simpa using t.ascending)

end Table

end AccessGateway
