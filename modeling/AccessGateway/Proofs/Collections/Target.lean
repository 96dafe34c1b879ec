import AccessGateway.Proofs.Collections.Call

/-
  Which collection a call on one collection acts on. A call reads a collection if what the
  collection holds makes a difference to what comes of the call, and changes it if the collection
  holds something else afterwards; `TouchesOnly` says that a call does neither to any collection
  but one. The guard asks about the collection that the caller named, before the hooks see the
  arguments, and the operation is done on the one that the hooks before it left in them. These are
  the same as long as no hook puts another name there.
-/

namespace AccessGateway

namespace CollectionCall

/-- A call reads and changes at most the collection of a name, and none at all if there is no
name. -/
structure TouchesOnly (c : CollectionCall) (hooks : CollectionHooks) (scope : Option Scope)
    (target : Option String) : Prop where
  changes : ∀ (s : Store) n, target ≠ some n → (c.run hooks scope s).store.get? n = s.get? n
  reads : ∀ s t : Store, (∀ n, target = some n → s.get? n = t.get? n) →
    (c.run hooks scope s).result = (c.run hooks scope t).result ∧
      (c.run hooks scope s).guardEvents = (c.run hooks scope t).guardEvents ∧
      (c.run hooks scope s).hookEvents = (c.run hooks scope t).hookEvents ∧
      ∀ n, target = some n →
        (c.run hooks scope s).store.get? n = (c.run hooks scope t).store.get? n

variable {c : CollectionCall} {hooks : CollectionHooks} {scope : Option Scope}

/-- A call that never comes to the store touches nothing. -/
theorem touchesOnly_of_ended {result : Except ServiceError Json}
    {guardEvents : List (GuardEvent CollectionArgs)}
    {hookEvents : List (HookEvent CollectionArgs Json)}
    (h : ∀ s, c.run hooks scope s = ⟨result, s, guardEvents, hookEvents⟩)
    (target : Option String) : c.TouchesOnly hooks scope target := by
  constructor
  · intro s n _
    rw [h]
  · intro s t hst
    rw [h, h]
    exact ⟨rfl, rfl, rfl, hst⟩

theorem touchesOnly_of_refused {e : AuthorizationError}
    (h : (c.operation.guard.check scope c.args).1 = .error e) (target : Option String) :
    c.TouchesOnly hooks scope target :=
  touchesOnly_of_ended (run_of_refused h hooks) target

/-- The operation is done on the collection that the hooks before it left in the arguments. -/
theorem touchesOnly_runBefore (hop : c.operation ≠ .list) :
    c.TouchesOnly hooks scope (hooks.runBefore c.operation.name c.args).value.collection := by
  -- The guard or a hook may end the call; otherwise it touches what the operation touches.
  cases hcheck : (c.operation.guard.check scope c.args).1 with
  | error e => exact touchesOnly_of_refused hcheck _
  | ok _ =>
    cases hb : (hooks.runBefore c.operation.name c.args).failure with
    | some e =>
      have hrun : ∀ s, c.run hooks scope s = ⟨.error (.hook e), s,
          (c.operation.guard.check scope c.args).2,
          (hooks.runBefore c.operation.name c.args).events⟩ := by
        intro s
        simp only [run_eq, hcheck, hb]
      exact touchesOnly_of_ended hrun _
    | none =>
      constructor
      · intro s n hn
        have hleft := Store.get?_apply_of_ne hn s c.operation
        simp only [run_eq, hcheck, hb]
        cases (s.apply c.operation (hooks.runBefore c.operation.name c.args).value).1 with
        | error e => exact hleft
        | ok v => exact hleft
      · intro s t hst
        obtain ⟨hanswer, hleft⟩ := Store.apply_congr hop hst
        simp only [run_eq, hcheck, hb, hanswer]
        cases (t.apply c.operation (hooks.runBefore c.operation.name c.args).value).1 with
        | error e => exact ⟨rfl, rfl, rfl, hleft⟩
        | ok v => exact ⟨rfl, rfl, rfl, hleft⟩

/-- A call that adds to, gets, counts or deletes a collection asks the provider of its scope one
question, which is about the collection that the caller named, and touches nothing unless the
answer is yes. The only collection it ever touches is the one that the hooks before it left in the
arguments; as long as they leave the name there, that is the one the provider was asked about. -/
theorem touchesOnly_of_hooks {name : String} (hop : c.operation ∉ [.list, .create])
    (hname : c.args.collection = some name) (hooks : CollectionHooks) (scope : Option Scope) :
    c.TouchesOnly hooks scope (hooks.runBefore c.operation.name c.args).value.collection ∧
      ∀ x, scope = some x →
        let q : AuthorizationContext :=
          ⟨userOf x.request.identity, ⟨"collection", some name⟩, c.operation.name⟩
        (∀ s, (c.run hooks scope s).guardEvents = [.resolved c.operation.name, .asked q]) ∧
          (x.provider q ≠ .ok true → c.TouchesOnly hooks scope none) ∧
          ((hooks.runBefore c.operation.name c.args).value.collection = some name →
            c.TouchesOnly hooks scope q.resource.id) := by
  have hlist : c.operation ≠ .list := fun h => hop (by simp [h])
  have htouch : c.TouchesOnly hooks scope
      (hooks.runBefore c.operation.name c.args).value.collection := touchesOnly_runBefore hlist
  refine ⟨htouch, ?_⟩
  rintro x rfl
  obtain ⟨hquestion, hevents⟩ := CollectionOperation.consultations_guard hop x c.args
  rw [hname] at hquestion
  refine ⟨?_, ?_, ?_⟩
  · intro s
    rw [guardEvents_run, Guard.check_scope_snd, hevents, hquestion]
  · intro hno
    cases hcheck : (c.operation.guard.check (some x) c.args).1 with
    | error e => exact touchesOnly_of_refused hcheck none
    | ok _ =>
      have hyes := (Guard.check_scope_eq_ok_iff _ _ _).1 hcheck
      rw [hquestion] at hyes
      exact absurd hyes hno
  · intro hkept
    rw [hkept] at htouch
    exact htouch

end CollectionCall

/-- A hook that puts a name of its own into the arguments of every operation. -/
def Hook.renaming (name : String) : Hook CollectionArgs Json :=
  { Hook.observer "renaming" with
    before := fun _ args => (⟨some name, args.records⟩, .completed) }

/-- A hook that drops the records from the arguments and then fails. -/
def Hook.dropping : Hook CollectionArgs Json :=
  { Hook.observer "dropping" with
    before := fun _ args => (⟨args.collection, []⟩, .failed ["dropped"]) }

/-- A scope in which all that is done on one collection is allowed, and nothing else. -/
def Scope.onlyOn (name : String) : Scope :=
  ⟨⟨"GET", "/", none⟩, fun q => .ok (q.resource.id = some name)⟩

namespace CollectionCall

/-- A hook that changes the records, and fails, does not change what the call touches. -/
theorem touchesOnly_of_hooks_dropping :
    CollectionOperation.add ∉ [CollectionOperation.list, .create] ∧
      (Scope.onlyOn "public").provider
        ⟨"Anonymous", ⟨"collection", some "public"⟩, "add"⟩ = .ok true ∧
      (add "public" [.null]).TouchesOnly ⟨[.dropping], .isolate⟩ (some (.onlyOn "public"))
        (some "public") ∧
      (add "secret" [.null]).TouchesOnly ⟨[.dropping], .isolate⟩ (some (.onlyOn "public")) none := by
  refine ⟨by decide, rfl, ?_, ?_⟩
  · exact ((touchesOnly_of_hooks (c := add "public" [.null]) (by decide) rfl _ _).2 _ rfl).2.2 rfl
  · refine ((touchesOnly_of_hooks (c := add "secret" [.null]) (by decide) rfl _ _).2 _ rfl).2.1 ?_
    intro hyes
    exact absurd (Except.ok.inj hyes) (by decide)

/-- What is allowed on one collection deletes another if a hook puts its name into the
arguments. -/
theorem touches_other_than_asked :
    let hooks : CollectionHooks := ⟨[.renaming "secret"], .isolate⟩
    let r := (on .delete "public").run hooks (some (.onlyOn "public"))
      (Table.ofList [("public", []), ("secret", [.null])])
    r.guardEvents = [.resolved "delete_collection",
        .asked ⟨"Anonymous", ⟨"collection", some "public"⟩, "delete_collection"⟩] ∧
      (Scope.onlyOn "public").provider
        ⟨"Anonymous", ⟨"collection", some "secret"⟩, "delete_collection"⟩ = .ok false ∧
      r.store.keys = ["public"] ∧
      ¬ (on .delete "public").TouchesOnly hooks (some (.onlyOn "public")) (some "public") := by
  intro hooks r
  have hkept : r.store.get? "secret" = none := by decide +kernel
  refine ⟨rfl, rfl, by decide +kernel, fun h => ?_⟩
  have hsame := h.changes (Table.ofList [("public", []), ("secret", [.null])]) "secret" (by decide)
  rw [hkept] at hsame
  revert hsame
  decide +kernel

end CollectionCall

end AccessGateway
