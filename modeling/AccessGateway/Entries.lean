/-
  Lists of named values. The first entry of a name is the one that counts (`get?`).
-/

namespace AccessGateway.Entries

variable {α : Type}

/-- The value of the first entry of a name. -/
def get? (k : String) : List (String × α) → Option α
  | [] => none
  | e :: r => if k = e.1 then some e.2 else get? k r

/-- The names in order. -/
def names (l : List (String × α)) : List String := l.map Prod.fst

theorem get?_isSome_iff {l : List (String × α)} {k : String} :
    (get? k l).isSome = true ↔ k ∈ names l := by
  induction l with
  | nil => simp [get?, names]
  | cons e r ih =>
    by_cases hk : k = e.1
    · simp [get?, names, hk]
    · simpa [get?, names, hk] using ih

theorem get?_eq_none_iff {l : List (String × α)} {k : String} :
    get? k l = none ↔ k ∉ names l := by
  rw [← get?_isSome_iff]
  cases get? k l <;> simp

theorem get?_append (k : String) (l m : List (String × α)) :
    get? k (l ++ m) = (get? k l).or (get? k m) := by
  induction l with
  | nil => rfl
  | cons e r ih =>
    rw [List.cons_append, get?, get?]
    split
    · rfl
    · exact ih

theorem mem_of_get? {l : List (String × α)} {k : String} {v : α} (h : get? k l = some v) :
    (k, v) ∈ l := by
  induction l with
  | nil => simp [get?] at h
  | cons e r ih =>
    by_cases hk : k = e.1
    · simp only [get?, hk, if_true, Option.some.injEq] at h
      subst hk
      subst h
      exact List.mem_cons_self
    · simp only [get?, hk, if_false] at h
      exact List.mem_cons_of_mem _ (ih h)

theorem get?_eq_some_iff {l : List (String × α)} {k : String} {v : α} :
    get? k l = some v ↔ ∃ before after, l = before ++ (k, v) :: after ∧ k ∉ names before := by
  induction l with
  | nil => simp [get?]
  | cons e r ih =>
    rw [get?]
    constructor
    · intro h
      split at h
      · next hk =>
        obtain rfl := Option.some.inj h
        exact ⟨[], r, by rw [hk]; rfl, List.not_mem_nil⟩
      · next hk =>
        obtain ⟨before, after, rfl, hbefore⟩ := ih.1 h
        exact ⟨e :: before, after, rfl, by simpa [names, hk] using hbefore⟩
    · rintro ⟨before, after, hl, hbefore⟩
      cases before with
      | nil =>
        obtain ⟨rfl, -⟩ := List.cons.inj hl
        rw [if_pos rfl]
      | cons f before =>
        obtain ⟨rfl, hr⟩ := List.cons.inj hl
        rw [names, List.map_cons, List.mem_cons, not_or, ← names] at hbefore
        rw [if_neg hbefore.1]
        exact ih.2 ⟨before, after, hr, hbefore.2⟩

/-- Of items some of which have an entry, the first one with an entry of a name counts. -/
theorem get?_filterMap_eq_some_iff {β : Type} {pair? : β → Option (String × α)} {xs : List β}
    {k : String} {v : α} : get? k (xs.filterMap pair?) = some v ↔
      ∃ before x after, xs = before ++ x :: after ∧ pair? x = some (k, v) ∧
        ∀ y ∈ before, ∀ w, pair? y ≠ some (k, w) := by
  induction xs with
  | nil => simp [get?]
  | cons x r ih =>
    by_cases hx : ∃ w, pair? x = some (k, w)
    · obtain ⟨w, hw⟩ := hx
      rw [List.filterMap_cons_some hw, get?, if_pos rfl]
      constructor
      · intro h
        obtain rfl := Option.some.inj h
        exact ⟨[], x, r, rfl, hw, by simp⟩
      · rintro ⟨before, y, after, hcut, hy, hbefore⟩
        cases before with
        | nil =>
          obtain ⟨rfl, -⟩ := List.cons.inj hcut
          exact congrArg (Option.map Prod.snd) (hw.symm.trans hy)
        | cons z before =>
          obtain ⟨rfl, -⟩ := List.cons.inj hcut
          exact absurd hw (hbefore x List.mem_cons_self w)
    · have hskip : get? k ((x :: r).filterMap pair?) = get? k (r.filterMap pair?) := by
        cases he : pair? x with
        | none => rw [List.filterMap_cons_none he]
        | some e =>
          have hk : k ≠ e.1 := fun hk => hx ⟨e.2, by rw [he, hk]⟩
          rw [List.filterMap_cons_some he, get?, if_neg hk]
      rw [hskip, ih]
      constructor
      · rintro ⟨before, y, after, rfl, hy, hbefore⟩
        exact ⟨x :: before, y, after, rfl, hy,
          List.forall_mem_cons.2 ⟨fun w hw => hx ⟨w, hw⟩, hbefore⟩⟩
      · rintro ⟨before, y, after, hcut, hy, hbefore⟩
        cases before with
        | nil =>
          obtain ⟨rfl, -⟩ := List.cons.inj hcut
          exact absurd ⟨v, hy⟩ hx
        | cons z before =>
          obtain ⟨rfl, rfl⟩ := List.cons.inj hcut
          exact ⟨before, y, after, rfl, hy, (List.forall_mem_cons.1 hbefore).2⟩

theorem get?_filterMap_eq_none_iff {β : Type} {pair? : β → Option (String × α)} {xs : List β}
    {k : String} : get? k (xs.filterMap pair?) = none ↔ ∀ x ∈ xs, ∀ v, pair? x ≠ some (k, v) := by
  simp only [get?_eq_none_iff, names, List.mem_map, List.mem_filterMap]
  constructor
  · intro h x hx v hv
    exact h ⟨(k, v), ⟨x, hx, hv⟩, rfl⟩
  · rintro h ⟨⟨_, v⟩, ⟨x, hx, hv⟩, rfl⟩
    exact h x hx v hv

theorem get?_of_mem {l : List (String × α)} {k : String} {v : α} (distinct : (names l).Nodup)
    (h : (k, v) ∈ l) : get? k l = some v := by
  induction l with
  | nil => simp at h
  | cons e r ih =>
    simp only [names, List.map_cons, List.nodup_cons] at distinct
    rcases List.mem_cons.1 h with rfl | h
    · simp [get?]
    · have hk : k ≠ e.1 := by
        rintro rfl
        exact distinct.1 (List.mem_map.2 ⟨_, h, rfl⟩)
      simpa [get?, hk] using ih distinct.2 h

/-- The order of entries does not matter if each has a name of its own. -/
theorem get?_perm {l m : List (String × α)} (distinct : (names l).Nodup) (h : l.Perm m)
    (k : String) : get? k l = get? k m := by
  have distinct' : (names m).Nodup := (h.map Prod.fst).nodup_iff.1 distinct
  cases hl : get? k l with
  | some v => exact (get?_of_mem distinct' (h.mem_iff.1 (mem_of_get? hl))).symm
  | none =>
    rw [get?_eq_none_iff] at hl
    exact (get?_eq_none_iff.2 fun hk => hl ((h.map Prod.fst).mem_iff.2 hk)).symm

/-- Entries of other names can be left out. -/
theorem get?_filter {l : List (String × α)} {p : String × α → Bool} {k : String}
    (h : ∀ e ∈ l, e.1 = k → p e = true) : get? k (l.filter p) = get? k l := by
  induction l with
  | nil => rfl
  | cons e r ih =>
    obtain ⟨he, hr⟩ := List.forall_mem_cons.1 h
    by_cases hp : p e = true
    · rw [List.filter_cons_of_pos hp, get?, get?, ih hr]
    · have hk : k ≠ e.1 := fun hk => hp (he hk.symm)
      rw [List.filter_cons_of_neg hp, get?, if_neg hk, ih hr]

/-- Of items under keys of their own, the value under a key is that of the item with the key. -/
theorem get?_map_eq_some_iff {β : Type} {key : β → String} {value : β → α} {xs : List β}
    (distinct : (xs.map key).Nodup) {k : String} {v : α} :
    get? k (xs.map fun x => (key x, value x)) = some v ↔ ∃ x ∈ xs, key x = k ∧ value x = v := by
  constructor
  · intro h
    obtain ⟨x, hx, he⟩ := List.mem_map.1 (mem_of_get? h)
    obtain ⟨rfl, rfl⟩ := Prod.mk.inj he
    exact ⟨x, hx, rfl, rfl⟩
  · rintro ⟨x, hx, rfl, rfl⟩
    refine get?_of_mem ?_ (List.mem_map.2 ⟨x, hx, rfl⟩)
    rw [names, List.map_map]
    exact distinct

/-- Of items under keys of their own, a choice of items with one key is at most one item. -/
theorem filter_eq_singleton_iff {β : Type} {key : β → String} {xs : List β} {p : β → Bool}
    {k : String} (distinct : (xs.map key).Nodup) (hp : ∀ x, p x = true → key x = k) {x : β} :
    xs.filter p = [x] ↔ x ∈ xs ∧ p x = true := by
  constructor
  · intro h
    rw [← List.mem_filter, h]
    exact List.mem_singleton_self x
  · rintro ⟨hx, hpx⟩
    induction xs with
    | nil => simp at hx
    | cons y r ih =>
      rw [List.map_cons, List.nodup_cons] at distinct
      rcases List.mem_cons.1 hx with rfl | hx
      · rw [List.filter_cons_of_pos hpx, List.filter_eq_nil_iff.2]
        intro z hz hpz
        exact distinct.1 (List.mem_map.2 ⟨z, hz, (hp z hpz).trans (hp x hpx).symm⟩)
      · rw [List.filter_cons_of_neg, ih distinct.2 hx]
        intro hpy
        exact distinct.1 (List.mem_map.2 ⟨x, hx, (hp x hpx).trans (hp y hpy).symm⟩)

end AccessGateway.Entries
