/-
  Results that are values or errors: when a changed result is a value, and what it is then. Lists
  of configured items are gathered under keys one by one, until one of them is unfit or comes a
  second time; `collect_eq_ok_iff` says when all of them are. What goes through a list item by item
  (`Through`) fails as the first item that fails, and succeeds if none does.
-/

namespace AccessGateway.Outcome

variable {ε δ α β : Type}

theorem map_eq_ok_iff {x : Except ε α} {f : α → β} {b : β} :
    x.map f = .ok b ↔ ∃ a, x = .ok a ∧ f a = b := by
  cases x with
  | error e => simp [Except.map]
  | ok a => simp [Except.map]

theorem map_eq_error_iff {x : Except ε α} {f : α → β} {e : ε} :
    x.map f = .error e ↔ x = .error e := by
  cases x <;> simp [Except.map]

theorem exists_map_eq_ok_iff {x : Except ε α} {f : α → β} :
    (∃ b, x.map f = .ok b) ↔ ∃ a, x = .ok a := by
  cases x <;> simp [Except.map]

theorem bind_eq_ok_iff {x : Except ε α} {f : α → Except ε β} {b : β} :
    x >>= f = .ok b ↔ ∃ a, x = .ok a ∧ f a = .ok b := by
  cases x with
  | error e => simp [bind, Except.bind]
  | ok a => simp [bind, Except.bind]

theorem mapError_eq_ok_iff {x : Except ε α} {f : ε → δ} {a : α} :
    x.mapError f = .ok a ↔ x = .ok a := by
  cases x with
  | error e =>
    constructor
    · intro h
      cases h
    · intro h
      cases h
  | ok b =>
    constructor
    · intro h
      exact congrArg Except.ok (Except.ok.inj h)
    · intro h
      exact congrArg Except.ok (Except.ok.inj h)

/-- Where only success counts, it is enough to know that there is some. -/
theorem exists_of_isOk {x : Except ε α} (h : x.isOk = true) : ∃ a, x = .ok a := by
  cases x with
  | error e => simp [Except.isOk, Except.toBool] at h
  | ok a => exact ⟨a, rfl⟩

/-- What comes of a value that is there can be found out by evaluation. -/
theorem eq_of_map {x : Except ε α} {a : α} (hx : x = .ok a) (f : α → β) {b : β}
    (h : (x.map f).toOption = some b) : f a = b := by
  rw [hx] at h
  exact Option.some.inj h

/-- Items that are gathered one after another, each under a key that is not yet taken, are all
gathered exactly if all are fit and no key comes twice. -/
theorem collect_eq_ok_iff {f : List String → List α → Except ε (List (String × β))}
    {isUnfit : α → Prop} [DecidablePred isUnfit] {key : α → String} {value : α → β}
    {unfit repeated : α → ε} (hnil : ∀ seen, f seen [] = .ok [])
    (hcons : ∀ seen x r, f seen (x :: r) =
      if isUnfit x then .error (unfit x)
      else if key x ∈ seen then .error (repeated x)
      else (f (key x :: seen) r).map ((key x, value x) :: ·))
    {seen : List String} {xs : List α} {gathered : List (String × β)} :
    f seen xs = .ok gathered ↔
      (∀ x ∈ xs, ¬ isUnfit x ∧ key x ∉ seen) ∧ (xs.map key).Nodup ∧
        gathered = xs.map fun x => (key x, value x) := by
  induction xs generalizing seen gathered with
  | nil => simp [hnil, eq_comm]
  | cons x r ih =>
    rw [hcons]
    by_cases hunfit : isUnfit x
    · simp [hunfit]
    · by_cases hseen : key x ∈ seen
      · simp [hunfit, hseen]
      · rw [if_neg hunfit, if_neg hseen, map_eq_ok_iff, List.forall_mem_cons]
        simp only [ih, List.map_cons, List.nodup_cons, List.mem_map, List.mem_cons, not_or]
        constructor
        · rintro ⟨rest, ⟨hall, hnodup, rfl⟩, rfl⟩
          refine ⟨⟨⟨hunfit, hseen⟩, fun y hy => ⟨(hall y hy).1, (hall y hy).2.2⟩⟩, ⟨?_, hnodup⟩,
            rfl⟩
          rintro ⟨y, hy, hkey⟩
          exact (hall y hy).2.1 hkey
        · rintro ⟨⟨-, hall⟩, ⟨hfresh, hnodup⟩, rfl⟩
          refine ⟨_, ⟨fun y hy => ⟨(hall y hy).1, ?_, (hall y hy).2⟩, hnodup, rfl⟩, rfl⟩
          intro hkey
          exact hfresh ⟨y, hy, hkey⟩

/-! ## Going through a list -/

/-- What is done with a list is done with one item after another and put together; the first item
that fails ends it. -/
structure Through {γ τ : Type} (f : List α → Except ε τ) (one : α → Except ε γ)
    (join : γ → τ → τ) : Prop where
  nil : ∃ t, f [] = .ok t
  cons : ∀ x r, f (x :: r) =
    match one x with
    | .error e => .error e
    | .ok c => (f r).map (join c)

namespace Through

variable {γ τ : Type} {f : List α → Except ε τ} {one : α → Except ε γ} {join : γ → τ → τ}

theorem exists_eq_ok_iff (h : Through f one join) {xs : List α} :
    (∃ t, f xs = .ok t) ↔ ∀ x ∈ xs, ∃ c, one x = .ok c := by
  induction xs with
  | nil => simp [h.nil]
  | cons x r ih =>
    rw [h.cons, List.forall_mem_cons, ← ih]
    cases one x with
    | error e => simp
    | ok c => simp only [exists_map_eq_ok_iff, Except.ok.injEq, exists_eq', true_and]

theorem eq_error_iff (h : Through f one join) {xs : List α} {e : ε} :
    f xs = .error e ↔ ∃ front x back, xs = front ++ x :: back ∧
      (∀ y ∈ front, ∃ c, one y = .ok c) ∧ one x = .error e := by
  induction xs with
  | nil =>
    obtain ⟨t, ht⟩ := h.nil
    simp [ht]
  | cons x r ih =>
    rw [h.cons]
    simp only [List.cons_eq_append_iff]
    cases hx : one x with
    | error e' =>
      constructor
      · rintro ⟨⟩
        exact ⟨[], x, r, .inl ⟨rfl, rfl⟩, List.forall_mem_nil _, hx⟩
      · rintro ⟨front, y, back, ⟨rfl, hcut⟩ | ⟨front, rfl, -⟩, hfront, hy⟩
        · obtain ⟨rfl, -⟩ := List.cons.inj hcut
          exact congrArg Except.error (Except.error.inj (hx.symm.trans hy))
        · obtain ⟨c, hc⟩ := hfront x List.mem_cons_self
          cases hx.symm.trans hc
    | ok c =>
      simp only [map_eq_error_iff, ih]
      constructor
      · rintro ⟨front, y, back, rfl, hfront, hy⟩
        exact ⟨x :: front, y, back, .inr ⟨front, rfl, rfl⟩,
          List.forall_mem_cons.2 ⟨⟨c, hx⟩, hfront⟩, hy⟩
      · rintro ⟨front, y, back, ⟨rfl, hcut⟩ | ⟨front, rfl, rfl⟩, hfront, hy⟩
        · obtain ⟨rfl, -⟩ := List.cons.inj hcut
          cases hx.symm.trans hy
        · exact ⟨front, y, back, rfl, (List.forall_mem_cons.1 hfront).2, hy⟩

end Through

end AccessGateway.Outcome
