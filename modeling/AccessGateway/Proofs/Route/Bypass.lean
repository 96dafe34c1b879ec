import AccessGateway.Proofs.Outcome
import AccessGateway.Route.Bypass

/-
  What a bypass list holds. Entering routes one after another gives every method the patterns of
  the routes that have a verb for it, whatever the other routes are (`mem_patterns_of_ofConfig`),
  and every route with a verb writes a pattern (`parses_of_ofConfig`).
-/

namespace AccessGateway

namespace BypassList

variable {b b' : BypassList} {route : String}

/-! ## Entering routes -/

theorem patterns_filter_append (b : BypassList) (method m : String) (ps : List Pattern) :
    patterns ⟨(b.routes.filter fun e => e.1 != method) ++ ps.map fun q => (method, q)⟩ m =
      if m = method then ps else b.patterns m := by
  simp only [patterns, List.filter_append, List.filter_filter, List.filter_map, List.map_append]
  by_cases hm : m = method
  · subst hm
    have hnone : b.routes.filter (fun e => e.1 == m && e.1 != m) = [] := by
      simp [List.filter_eq_nil_iff]
    rw [hnone, if_pos rfl]
    simp [Function.comp_def]
  · have hsame : (b.routes.filter fun e => e.1 == m && e.1 != method) =
        b.routes.filter fun e => e.1 == m := by
      refine List.filter_congr fun e _ => ?_
      by_cases he : e.1 = m
      · simp [he, hm]
      · simp [he]
    rw [hsame, if_neg hm]
    simp [Function.comp_def, Ne.symm hm]

/-- A pattern comes behind those of its method that were there, unless one of these is empty. -/
theorem join_eq_ok {known ps : List Pattern} {p : Pattern} (hknown : [] ∉ known)
    (h : Pattern.join known p = .ok ps) : ps = known ++ [p] := by
  unfold Pattern.join at h
  split at h
  · obtain ⟨-, -, rfl⟩ := Outcome.map_eq_ok_iff.1 h
    rfl
  · exact absurd List.mem_cons_self hknown
  · obtain ⟨-, -, rfl⟩ := Outcome.map_eq_ok_iff.1 h
    rfl

theorem patterns_of_insert {method : String} (hb : [] ∉ b.patterns method)
    (h : b.insert method route = .ok b') :
    ∃ p, Pattern.parse route = .ok p ∧
      ∀ m, b'.patterns m = if m = method then b.patterns method ++ [p] else b.patterns m := by
  unfold insert at h
  split at h
  · cases h
  · next p hp =>
    split at h
    · cases h
    · next ps hps =>
      obtain rfl := Except.ok.inj h
      refine ⟨p, hp, fun m => ?_⟩
      rw [patterns_filter_append, join_eq_ok hb hps]

/-- The patterns of a list are those of another one and those of some routes with a verb each. -/
structure Enters (xs : List (String × String)) (b b' : BypassList) : Prop where
  mem_iff : ∀ m p, p ∈ b'.patterns m ↔
    p ∈ b.patterns m ∨ ∃ x ∈ xs, Ascii.upper x.2 = m ∧ Pattern.parse x.1 = .ok p
  parses : ∀ x ∈ xs, ∃ p, Pattern.parse x.1 = .ok p

theorem Enters.nil (b : BypassList) : Enters [] b b := ⟨by simp, by simp⟩

theorem Enters.append {xs ys : List (String × String)} {b b' b'' : BypassList}
    (h : Enters xs b b') (h' : Enters ys b' b'') : Enters (xs ++ ys) b b'' := by
  refine ⟨fun m p => ?_, fun x hx => ?_⟩
  · rw [h'.mem_iff, h.mem_iff, or_assoc]
    simp only [List.mem_append, or_and_right, exists_or]
  · rcases List.mem_append.1 hx with hx | hx
    · exact h.parses x hx
    · exact h'.parses x hx

/-- No empty pattern comes in by routes that write none. -/
theorem Enters.nil_notMem {xs : List (String × String)} (h : Enters xs b b')
    (hxs : ∀ x ∈ xs, Pattern.parse x.1 ≠ .ok []) (hb : ∀ m, [] ∉ b.patterns m) (m : String) :
    [] ∉ b'.patterns m := by
  intro hm
  rcases (h.mem_iff m []).1 hm with hm | ⟨x, hx, -, hparse⟩
  · exact hb m hm
  · exact hxs x hx hparse

theorem enters_of_insert {verb : String} (hb : ∀ m, [] ∉ b.patterns m)
    (h : b.insert (Ascii.upper verb) route = .ok b') : Enters [(route, verb)] b b' := by
  obtain ⟨p, hp, hpatterns⟩ := patterns_of_insert (hb _) h
  refine ⟨fun m q => ?_, fun x hx => ?_⟩
  · rw [hpatterns]
    by_cases hm : m = Ascii.upper verb
    · simp [hm, hp, eq_comm]
    · simp [hm, Ne.symm hm]
  · obtain rfl := List.mem_singleton.1 hx
    exact ⟨p, hp⟩

theorem enters_of_addVerbs {verbs : List String} (hb : ∀ m, [] ∉ b.patterns m)
    (hroute : Pattern.parse route ≠ .ok []) (h : addVerbs route verbs b = .ok b') :
    Enters (verbs.map fun v => (route, v)) b b' := by
  induction verbs generalizing b with
  | nil =>
    obtain rfl := Except.ok.inj h
    exact .nil b
  | cons verb verbs ih =>
    unfold addVerbs at h
    split at h
    · cases h
    · split at h
      · cases h
      · next c hc =>
        have hfirst := enters_of_insert hb hc
        have hc' := hfirst.nil_notMem (fun x hx => List.mem_singleton.1 hx ▸ hroute) hb
        exact hfirst.append (ih hc' h)

theorem enters_of_addRoutes {routes : List (String × List String)}
    (hb : ∀ m, [] ∉ b.patterns m) (hroutes : ∀ e ∈ routes, Pattern.parse e.1 ≠ .ok [])
    (h : addRoutes routes b = .ok b') :
    Enters (routes.flatMap fun e => e.2.map fun v => (e.1, v)) b b' := by
  induction routes generalizing b with
  | nil =>
    obtain rfl := Except.ok.inj h
    exact .nil b
  | cons e routes ih =>
    rw [List.forall_mem_cons] at hroutes
    unfold addRoutes at h
    split at h
    · cases h
    · next c hc =>
      have hfirst := enters_of_addVerbs hb hroutes.1 hc
      have hwrites : ∀ x ∈ e.2.map fun v => (e.1, v), Pattern.parse x.1 ≠ .ok [] := by
        intro x hx
        obtain ⟨v, -, rfl⟩ := List.mem_map.1 hx
        exact hroutes.1
      exact hfirst.append (ih (hfirst.nil_notMem hwrites hb) hroutes.2 h)

/-- The patterns of a method are those of the routes that have a verb for it. -/
theorem mem_patterns_of_ofConfig {c : BypassConfig} (h : ofConfig c = .ok b)
    (hroutes : ∀ e ∈ c.entries, Pattern.parse e.1 ≠ .ok []) (m : String) (p : Pattern) :
    p ∈ b.patterns m ↔
      ∃ e ∈ c.entries, (∃ v ∈ e.2, Ascii.upper v = m) ∧ Pattern.parse e.1 = .ok p := by
  have hempty : ∀ m, [] ∉ empty.patterns m := fun m => List.not_mem_nil
  rw [(enters_of_addRoutes hempty hroutes h).mem_iff]
  simp only [List.mem_flatMap, List.mem_map]
  constructor
  · rintro (hm | ⟨_, ⟨e, he, v, hv, rfl⟩, hm, hp⟩)
    · exact absurd hm List.not_mem_nil
    · exact ⟨e, he, ⟨v, hv, hm⟩, hp⟩
  · rintro ⟨e, he, ⟨v, hv, hm⟩, hp⟩
    exact Or.inr ⟨_, ⟨e, he, v, hv, rfl⟩, hm, hp⟩

theorem parses_of_ofConfig {c : BypassConfig} (h : ofConfig c = .ok b)
    (hroutes : ∀ e ∈ c.entries, Pattern.parse e.1 ≠ .ok []) {e : String × List String}
    (he : e ∈ c.entries) {v : String} (hv : v ∈ e.2) : ∃ p, Pattern.parse e.1 = .ok p := by
  have hempty : ∀ m, [] ∉ empty.patterns m := fun m => List.not_mem_nil
  refine (enters_of_addRoutes hempty hroutes h).parses (e.1, v) ?_
  exact List.mem_flatMap.2 ⟨e, he, List.mem_map.2 ⟨v, hv, rfl⟩⟩

end BypassList

end AccessGateway
