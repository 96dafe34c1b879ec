import AccessGateway.Collections.Service
import AccessGateway.Proofs.Authorization.Guard
import AccessGateway.Proofs.Hook.Dispatcher

/-
  What a call of the service comes to: its guard, the hooks before, the operation on the store and
  the hooks behind it, one after another (`CollectionCall.run_eq`). An operation on the store is
  summed up by what is under its name before (`applyTo_of_none`, `applyTo_of_some`); of the other
  names it changes none (`get?_apply_of_ne`), and unless it lists them it looks at none
  (`apply_congr`). A call fails in one of four ways (`cases_of_error`). If no hook is noticed, an
  allowed call is the operation on the store (`run_of_unnoticed`).
-/

namespace AccessGateway

/-! ## Guards -/

/-- The guard of an operation on one collection asks about the collection that the caller named. -/
theorem CollectionOperation.consultations_guard {op : CollectionOperation}
    (hop : op ∉ [.list, .create]) (x : Scope) (args : CollectionArgs) :
    op.guard.question x args =
        ⟨userOf x.request.identity, ⟨"collection", args.collection⟩, op.name⟩ ∧
      op.guard.consultations x args = [.resolved op.name, .asked (op.guard.question x args)] := by
  cases op with
  | list => simp at hop
  | create => simp at hop
  | _ => exact ⟨rfl, rfl⟩

/-! ## Operations on a store -/

namespace Store

variable {op : CollectionOperation} {args : CollectionArgs} {s t : Store} {name : String}

/-- An operation on a collection that is not there. -/
theorem applyTo_of_none (h : s.get? name = none) (op : CollectionOperation)
    (records : List Json) :
    s.applyTo op name records =
      match op with
      | .list => (.ok s.listed, s)
      | .create =>
        (.ok (.object [("database", .text defaultDatabase), ("name", .text name)]),
          s.insert name [])
      | _ => (.error (.notFound name), s) := by
  cases op <;> simp [applyTo, h]

/-- An operation on a collection that is there. -/
theorem applyTo_of_some {old : List Json} (h : s.get? name = some old) (op : CollectionOperation)
    (records : List Json) :
    s.applyTo op name records =
      match op with
      | .list => (.ok s.listed, s)
      | .create => (.error (.alreadyExists name), s)
      | .get =>
        (.ok (.object [("count", Json.ofNat old.length), ("database", .text defaultDatabase),
          ("name", .text name)]), s)
      | .delete => (.ok (.object [("deleted", .text name)]), s.erase name)
      | .add =>
        (.ok (.object [("added", Json.ofNat records.length)]), s.insert name (old ++ records))
      | .count => (.ok (Json.ofNat old.length), s) := by
  cases op <;> simp [applyTo, h]

theorem apply_named (s : Store) (op : CollectionOperation) (name : String)
    (records : List Json) : s.apply op ⟨some name, records⟩ = s.applyTo op name records := by
  cases op <;> rfl

theorem apply_unnamed (hop : op ≠ .list) (s : Store) (records : List Json) :
    s.apply op ⟨none, records⟩ = (.error .nameRequired, s) := by
  cases op with
  | list => exact absurd rfl hop
  | _ => rfl

/-- Collections of other names stay as they are. -/
theorem get?_applyTo_of_ne {n : String} (h : n ≠ name) (s : Store) (op : CollectionOperation)
    (records : List Json) : (s.applyTo op name records).2.get? n = s.get? n := by
  cases hs : s.get? name with
  | none =>
    rw [applyTo_of_none hs]
    cases op <;> simp [Table.get?_insert, h]
  | some old =>
    rw [applyTo_of_some hs]
    cases op <;> simp [Table.get?_insert, Table.get?_erase, h]

/-- Listing looks at every name. What any other operation answers and leaves under a name depends
only on what is there under the name. -/
theorem applyTo_congr (hop : op ≠ .list) (h : s.get? name = t.get? name) (records : List Json) :
    (s.applyTo op name records).1 = (t.applyTo op name records).1 ∧
      (s.applyTo op name records).2.get? name = (t.applyTo op name records).2.get? name := by
  cases ht : t.get? name with
  | none =>
    rw [applyTo_of_none (h.trans ht), applyTo_of_none ht]
    cases op with
    | list => exact absurd rfl hop
    | create => simp [Table.get?_insert]
    | _ => exact ⟨rfl, h⟩
  | some old =>
    rw [applyTo_of_some (h.trans ht), applyTo_of_some ht]
    cases op with
    | list => exact absurd rfl hop
    | delete => simp [Table.get?_erase]
    | add => simp [Table.get?_insert]
    | _ => exact ⟨rfl, h⟩

theorem get?_apply_of_ne {n : String} (h : args.collection ≠ some n) (s : Store)
    (op : CollectionOperation) : (s.apply op args).2.get? n = s.get? n := by
  obtain ⟨collection, records⟩ := args
  cases collection with
  | none => cases op <;> rfl
  | some name =>
    have hne : n ≠ name := fun he => h (congrArg some he.symm)
    rw [apply_named]
    exact get?_applyTo_of_ne hne s op records

theorem apply_congr (hop : op ≠ .list)
    (h : ∀ n, args.collection = some n → s.get? n = t.get? n) :
    (s.apply op args).1 = (t.apply op args).1 ∧
      ∀ n, args.collection = some n →
        (s.apply op args).2.get? n = (t.apply op args).2.get? n := by
  obtain ⟨collection, records⟩ := args
  cases collection with
  | none =>
    rw [apply_unnamed hop, apply_unnamed hop]
    exact ⟨rfl, h⟩
  | some name =>
    rw [apply_named, apply_named]
    obtain ⟨hanswer, hleft⟩ := applyTo_congr hop (h name rfl) records
    refine ⟨hanswer, ?_⟩
    rintro n ⟨⟩
    exact hleft

/-- Only creating, deleting and adding change a store, and only if they succeed. -/
theorem apply_changes (s : Store) (op : CollectionOperation) (args : CollectionArgs) :
    (s.apply op args).2 = s ∨
      op ∈ [.create, .delete, .add] ∧ ∃ v, (s.apply op args).1 = .ok v := by
  obtain ⟨collection, records⟩ := args
  cases collection with
  | none => cases op <;> exact Or.inl rfl
  | some name =>
    rw [apply_named]
    cases hs : s.get? name with
    | none =>
      rw [applyTo_of_none hs]
      cases op with
      | create => exact Or.inr ⟨by simp, _, rfl⟩
      | _ => exact Or.inl rfl
    | some old =>
      rw [applyTo_of_some hs]
      cases op with
      | delete => exact Or.inr ⟨by simp, _, rfl⟩
      | add => exact Or.inr ⟨by simp, _, rfl⟩
      | _ => exact Or.inl rfl

end Store

/-! ## Calls -/

theorem CollectionOperation.run_onStore (op : CollectionOperation) (args : CollectionArgs)
    (s : Store) :
    (op.onStore args).run s = ((s.apply op args).1.mapError .store, (s.apply op args).2) := rfl

namespace CollectionCall

/-- A call is refused, or ended by a hook before the operation, or ended by the operation, or goes
on to the hooks behind it. -/
theorem run_eq (c : CollectionCall) (hooks : CollectionHooks) (scope : Option Scope) (s : Store) :
    let check := c.operation.guard.check scope c.args
    let b := hooks.runBefore c.operation.name c.args
    let r := s.apply c.operation b.value
    c.run hooks scope s =
      match check.1, b.failure, r.1 with
      | .error e, _, _ => ⟨.error (.authorization e), s, check.2, []⟩
      | .ok (), some e, _ => ⟨.error (.hook e), s, check.2, b.events⟩
      | .ok (), none, .error e => ⟨.error (.store e), r.2, check.2, b.events ++ [.ran b.value]⟩
      | .ok (), none, .ok v =>
        ⟨hooks.settled c.operation.name b.value .hook v, r.2, check.2,
          b.events ++ .ran b.value :: (hooks.runAfter c.operation.name b.value v).events⟩ := by
  dsimp only
  unfold run
  obtain ⟨verdict, events⟩ := c.operation.guard.check scope c.args
  cases verdict with
  | error e => rfl
  | ok _ =>
    simp only [Dispatcher.run_eq, CollectionOperation.run_onStore]
    cases (hooks.runBefore c.operation.name c.args).failure with
    | some e => rfl
    | none =>
      obtain ⟨answer, t⟩ := s.apply c.operation (hooks.runBefore c.operation.name c.args).value
      cases answer with
      | error e => rfl
      | ok v => rfl

/-- A call that the guard stops is its error, whatever hooks there are. -/
theorem run_of_refused {c : CollectionCall} {scope : Option Scope} {e : AuthorizationError}
    (h : (c.operation.guard.check scope c.args).1 = .error e) (hooks : CollectionHooks)
    (s : Store) :
    c.run hooks scope s =
      ⟨.error (.authorization e), s, (c.operation.guard.check scope c.args).2, []⟩ := by
  simp only [run_eq, h]

theorem guardEvents_run (c : CollectionCall) (hooks : CollectionHooks) (scope : Option Scope)
    (s : Store) :
    (c.run hooks scope s).guardEvents = (c.operation.guard.check scope c.args).2 := by
  rw [run_eq]
  split <;> rfl

/-- The four ways in which a call fails. The guard, a hook before the operation and the operation
itself leave the store as it is; a hook behind the operation leaves what the operation left. -/
theorem cases_of_error {c : CollectionCall} {hooks : CollectionHooks} {scope : Option Scope}
    {s : Store} {e : ServiceError} (h : (c.run hooks scope s).result = .error e) :
    (∃ x, (c.operation.guard.check scope c.args).1 = .error x ∧ e = .authorization x ∧
        (c.run hooks scope s).store = s) ∨
      (∃ x, e = .hook x ∧ x.phase = .before ∧ (c.run hooks scope s).store = s) ∨
      (∃ x, e = .store x ∧ (c.run hooks scope s).store = s) ∨
      ∃ x v, e = .hook x ∧ x.phase = .after ∧ hooks.policy = .propagate ∧
        s.apply c.operation (hooks.runBefore c.operation.name c.args).value =
          (.ok v, (c.run hooks scope s).store) := by
  cases hcheck : (c.operation.guard.check scope c.args).1 with
  | error x =>
    rw [run_of_refused hcheck] at h ⊢
    exact Or.inl ⟨x, rfl, (Except.error.inj h).symm, rfl⟩
  | ok _ =>
    simp only [run_eq, hcheck] at h ⊢
    cases hb : (hooks.runBefore c.operation.name c.args).failure with
    | some x =>
      have hphase : x.phase = .before := (Dispatcher.policy_of_failure_runHooks hb).2
      simp only [hb] at h ⊢
      exact Or.inr (Or.inl ⟨x, (Except.error.inj h).symm, hphase, trivial⟩)
    | none =>
      have hchanges := s.apply_changes c.operation
        (hooks.runBefore c.operation.name c.args).value
      obtain ⟨answer, t, hr⟩ : ∃ answer t,
          s.apply c.operation (hooks.runBefore c.operation.name c.args).value = (answer, t) :=
        ⟨_, _, rfl⟩
      rw [hr] at hchanges
      cases answer with
      | error x =>
        have hsame : t = s := by
          rcases hchanges with hsame | ⟨-, v, hv⟩
          · exact hsame
          · cases hv
        simp only [hb, hr] at h ⊢
        exact Or.inr (Or.inr (Or.inl ⟨x, (Except.error.inj h).symm, hsame⟩))
      | ok v =>
        simp only [hb, hr, Dispatcher.settled] at h ⊢
        split at h
        · next x hx =>
          obtain ⟨hpolicy, hphase⟩ := Dispatcher.policy_of_failure_runHooks hx
          exact Or.inr (Or.inr (Or.inr ⟨x, v, (Except.error.inj h).symm, hphase, hpolicy, rfl⟩))
        · cases h

/-- The errors of an allowed call are those of the hooks and of the store. -/
theorem error_of_run {c : CollectionCall} {hooks : CollectionHooks} {scope : Option Scope}
    {s : Store} {e : ServiceError}
    (hcheck : (c.operation.guard.check scope c.args).1 = .ok ())
    (h : (c.run hooks scope s).result = .error e) :
    (∃ x, e = .hook x) ∨ ∃ x, e = .store x := by
  rcases cases_of_error h with ⟨x, hrefused, -⟩ | ⟨x, rfl, -⟩ | ⟨x, rfl, -⟩ | ⟨x, _, rfl, -⟩
  · rw [hcheck] at hrefused
    cases hrefused
  · exact Or.inl ⟨x, rfl⟩
  · exact Or.inr ⟨x, rfl⟩
  · exact Or.inl ⟨x, rfl⟩

/-- An allowed call around which no hook is noticed is the operation on the store. -/
theorem run_of_unnoticed {c : CollectionCall} {hooks : CollectionHooks} {scope : Option Scope}
    (hhooks : hooks.Unnoticed) (hcheck : (c.operation.guard.check scope c.args).1 = .ok ())
    (s : Store) :
    (c.run hooks scope s).result = (s.apply c.operation c.args).1.mapError .store ∧
      (c.run hooks scope s).store = (s.apply c.operation c.args).2 := by
  obtain ⟨hargs, hbefore⟩ := hhooks.runBefore c.operation.name c.args
  rw [run_eq]
  simp only [hcheck, hbefore, hargs]
  obtain ⟨answer, t⟩ := s.apply c.operation c.args
  cases answer with
  | error e => exact ⟨rfl, rfl⟩
  | ok v => exact ⟨hhooks.settled c.operation.name c.args ServiceError.hook v, rfl⟩

end CollectionCall

end AccessGateway
