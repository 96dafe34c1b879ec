import AccessGateway.Proofs.Collections.Call

/-
  What a call that fails leaves behind. The guard, the hooks before the operation and the operation
  itself each end a call before anything is changed; only a hook behind the operation fails too
  late, and then the store is the one that the operation left. A call that the guard stops calls no
  hook, and three of the operations never change anything (`unchanged_of_error`).
-/

namespace AccessGateway

/-- The error of a hook that was called after the operation had succeeded. -/
def ServiceError.IsFromBehind (e : ServiceError) : Prop :=
  ∃ x, e = .hook x ∧ x.phase = .after

namespace CollectionCall

/-- Listing, getting and counting leave the store as it is, whatever comes of them. -/
theorem store_of_reading {c : CollectionCall} (h : c.operation ∈ [.list, .get, .count])
    (hooks : CollectionHooks) (scope : Option Scope) (s : Store) :
    (c.run hooks scope s).store = s := by
  have hleft : (s.apply c.operation (hooks.runBefore c.operation.name c.args).value).2 = s := by
    rcases s.apply_changes c.operation (hooks.runBefore c.operation.name c.args).value with
      hsame | ⟨hop, -⟩
    · exact hsame
    · simp only [List.mem_cons, List.not_mem_nil, or_false] at h hop
      rcases h with h | h | h <;> simp [h] at hop
  rw [run_eq]
  split
  · rfl
  · rfl
  · exact hleft
  · exact hleft

/-- A call that fails leaves the store as it is, except if a hook behind the operation fails and
failures are propagated: then the store is the one that the operation left when it succeeded. A call
that the provider of its scope does not allow calls no hook and is the same with any other hooks.
Listing, getting and counting never change the store. -/
theorem unchanged_of_error (c : CollectionCall) (hooks : CollectionHooks) (scope : Option Scope)
    (s : Store) :
    let r := c.run hooks scope s
    (∀ e, r.result = .error e →
        (¬ e.IsFromBehind → r.store = s) ∧
        (e.IsFromBehind → hooks.policy = .propagate ∧
          ∃ v, s.apply c.operation (hooks.runBefore c.operation.name c.args).value =
            (.ok v, r.store))) ∧
      (∀ x, scope = some x → x.provider (c.operation.guard.question x c.args) ≠ .ok true →
        (∃ e, r.result = .error (.authorization e)) ∧ r.hookEvents = [] ∧
          ∀ others, c.run others scope s = r) ∧
      (c.operation ∈ [.list, .get, .count] → r.store = s) := by
  refine ⟨?_, ?_, fun h => store_of_reading h hooks scope s⟩
  · intro e he
    rcases cases_of_error he with ⟨x, -, rfl, hsame⟩ | ⟨x, rfl, hphase, hsame⟩ | ⟨x, rfl, hsame⟩ |
      ⟨x, v, rfl, hphase, hpolicy, hleft⟩
    · exact ⟨fun _ => hsame, fun ⟨_, h, _⟩ => nomatch h⟩
    · refine ⟨fun _ => hsame, ?_⟩
      rintro ⟨y, hy, hafter⟩
      obtain rfl := ServiceError.hook.inj hy
      rw [hphase] at hafter
      cases hafter
    · exact ⟨fun _ => hsame, fun ⟨_, h, _⟩ => nomatch h⟩
    · exact ⟨fun hnot => absurd ⟨x, rfl, hphase⟩ hnot, fun _ => ⟨hpolicy, v, hleft⟩⟩
  · rintro x rfl hno
    cases hcheck : (c.operation.guard.check (some x) c.args).1 with
    | ok _ => exact absurd ((Guard.check_scope_eq_ok_iff _ _ _).1 hcheck) hno
    | error e =>
      simp only [run_of_refused hcheck]
      exact ⟨⟨e, rfl⟩, trivial, fun _ => trivial⟩

/-- A collection is there although its creation is answered with the failure of a hook. -/
example :
    let late : Hook CollectionArgs Json := ⟨"late", fun _ _ => .wanted,
      fun _ args => (args, .completed), fun _ _ result => (result, .failed ["too late"])⟩
    let r := (on .create "notes").run ⟨[late], .propagate⟩ none Table.empty
    r.result = .error (.hook ⟨"late", "create_collection", .after, ["too late"]⟩) ∧
      r.store.keys = ["notes"] := by
  exact ⟨rfl, by decide +kernel⟩

end CollectionCall

end AccessGateway
