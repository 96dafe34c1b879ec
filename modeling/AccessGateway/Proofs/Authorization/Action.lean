import AccessGateway.Authorization.Action
import Mathlib.Data.List.Basic

/-
  The text of role actions. `parse` reads exactly the written forms of role actions whose parts
  are not empty and hold no colon (`parse_eq_ok_iff`), so a text that is read tells its two
  parts: however it is written as a type, a colon and an action, these are the parts
  (`eq_of_parse_parts`). Any other text is told as it is (`text_of_error`). So reading and writing
  undo one another (`parse_inverts_render`).
-/

namespace AccessGateway.RoleAction

/-- The parts of a role action can be told from its text: neither is empty, neither holds a
colon. -/
structure WellFormed (x : RoleAction) : Prop where
  type_ne : x.resourceType ≠ ""
  action_ne : x.action ≠ ""
  type_colon : ':' ∉ x.resourceType.toList
  action_colon : ':' ∉ x.action.toList

/-- A text with exactly one colon and something on both sides of it. -/
def IsWritten (text : String) : Prop :=
  ∃ t a : String, text = t ++ ":" ++ a ∧ t ≠ "" ∧ a ≠ "" ∧ ':' ∉ t.toList ∧ ':' ∉ a.toList

theorem toList_parts (t a : String) : (t ++ ":" ++ a).toList = t.toList ++ ':' :: a.toList := by
  simp

theorem toList_render (x : RoleAction) :
    x.render.toList = x.resourceType.toList ++ ':' :: x.action.toList :=
  toList_parts x.resourceType x.action

/-- One colon is in the middle, so there is one in all exactly if the parts hold none. -/
theorem count_colon_parts (t a : String) :
    (t ++ ":" ++ a).toList.count ':' = 1 ↔ ':' ∉ t.toList ∧ ':' ∉ a.toList := by
  rw [toList_parts, List.count_append, List.count_cons_self, ← List.count_eq_zero,
    ← List.count_eq_zero]
  omega

theorem isWritten_iff_count {s : String} :
    IsWritten s ↔ s.toList.count ':' = 1 ∧ ∃ t a : String, s = t ++ ":" ++ a ∧ t ≠ "" ∧ a ≠ "" := by
  constructor
  · rintro ⟨t, a, rfl, ht, ha, hcolon⟩
    exact ⟨(count_colon_parts t a).2 hcolon, t, a, rfl, ht, ha⟩
  · rintro ⟨hcount, t, a, rfl, ht, ha⟩
    exact ⟨t, a, rfl, ht, ha, (count_colon_parts t a).1 hcount⟩

theorem parse_eq_ok_iff {s : String} {x : RoleAction} :
    parse s = .ok x ↔ s = x.render ∧ x.WellFormed := by
  unfold parse
  constructor
  · intro h
    split at h
    · cases h
    · next t a hsplit =>
      obtain ⟨hs, ht⟩ := splitOnce_eq_some_iff.1 hsplit
      split at h
      · cases h
      · next hparts =>
        obtain rfl := Except.ok.inj h
        rw [not_or, not_or] at hparts
        obtain ⟨hte, hae, ha⟩ := hparts
        refine ⟨String.toList_inj.1 ?_, ⟨?_, ?_, ?_, ?_⟩⟩
        · rw [toList_render, hs]
          simp
        · simpa using hte
        · simpa using hae
        · simpa using ht
        · simpa using ha
  · rintro ⟨rfl, hx⟩
    have hsplit : splitOnce ':' x.render.toList =
        some (x.resourceType.toList, x.action.toList) :=
      splitOnce_eq_some_iff.2 ⟨toList_render x, hx.type_colon⟩
    rw [hsplit]
    simp [hx.type_ne, hx.action_ne, hx.action_colon]

theorem exists_parse_iff {text : String} : (∃ x, parse text = .ok x) ↔ IsWritten text := by
  simp only [parse_eq_ok_iff]
  constructor
  · rintro ⟨x, htext, hx⟩
    exact ⟨x.resourceType, x.action, htext, hx.type_ne, hx.action_ne, hx.type_colon,
      hx.action_colon⟩
  · rintro ⟨t, a, htext, ht, ha, htcolon, hacolon⟩
    exact ⟨⟨t, a⟩, htext, ht, ha, htcolon, hacolon⟩

/-- Whichever of the conditions a text fails, it is told as it is. -/
theorem text_of_error {s : String} {e : RoleActionError} (h : parse s = .error e) : e.text = s := by
  unfold parse at h
  split at h
  · obtain rfl := Except.error.inj h
    rfl
  · split at h
    · obtain rfl := Except.error.inj h
      rfl
    · cases h

theorem parse?_eq_some_iff {s : String} {x : RoleAction} :
    parse? s = some x ↔ s = x.render ∧ x.WellFormed := by
  rw [← parse_eq_ok_iff, parse?]
  cases parse s <;> simp [Except.toOption]

/-- Whatever a text that is read is made up of, it is read as that. -/
theorem eq_of_parse_parts {t a : String} {x : RoleAction} (h : parse (t ++ ":" ++ a) = .ok x) :
    x = ⟨t, a⟩ := by
  obtain ⟨hs, hx⟩ := parse_eq_ok_iff.1 h
  have hl : x.resourceType.toList ++ ':' :: x.action.toList = t.toList ++ ':' :: a.toList := by
    rw [← toList_render, ← hs, toList_parts]
  obtain ⟨ht, -, ha⟩ := (List.append_cons_inj_of_notMem hx.type_colon hx.action_colon).1 hl
  rw [← String.toList_inj.1 ht, ← String.toList_inj.1 ha]

/-- Reading and writing undo one another. A text is read exactly if it has one colon and something
on both sides of it, and what is read of it is written as the same text again. Two parts that are
not empty and hold no colon are read back from what is written of them. So no two texts are read as
one role action. A text that is refused is told unchanged. -/
theorem parse_inverts_render :
    (∀ s : String, (∃ x, parse s = .ok x) ↔
      s.toList.count ':' = 1 ∧ ∃ t a : String, s = t ++ ":" ++ a ∧ t ≠ "" ∧ a ≠ "") ∧
    (∀ s x, parse s = .ok x → x.render = s) ∧
    (∀ t a : String, t ≠ "" → a ≠ "" → ':' ∉ t.toList → ':' ∉ a.toList →
      parse (render ⟨t, a⟩) = .ok ⟨t, a⟩) ∧
    (∀ s s' x x', parse s = .ok x → parse s' = .ok x' → s ≠ s' → x ≠ x') ∧
    (∀ s e, parse s = .error e → e.text = s ∧
      e.message = "malformed role action '" ++ s ++ "': expected 'resource_type:action'") := by
  have hwritten : ∀ s x, parse s = .ok x → x.render = s := by
    intro s x h
    exact (parse_eq_ok_iff.1 h).1.symm
  refine ⟨?_, hwritten, ?_, ?_, ?_⟩
  · intro s
    rw [exists_parse_iff, isWritten_iff_count]
  · intro t a ht ha htcolon hacolon
    exact parse_eq_ok_iff.2 ⟨rfl, ht, ha, htcolon, hacolon⟩
  · rintro s s' x x' h h' hne rfl
    exact hne ((hwritten s x h).symm.trans (hwritten s' x h'))
  · intro s e h
    obtain rfl := text_of_error h
    exact ⟨rfl, rfl⟩

end AccessGateway.RoleAction
