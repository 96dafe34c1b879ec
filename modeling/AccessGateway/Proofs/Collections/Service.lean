import AccessGateway.Proofs.Collections.Call
import AccessGateway.Server.Basic

/-
  Calls of the collections service under a policy. In a scope whose provider decides by a policy,
  the guard lets a call run exactly if the grant that its operation asks for is in the policy
  (`check_policy`). A call that is not let run leaves the store as it is and is answered 403; one
  that is let run is answered 403 by nobody else, since neither the hooks nor the store have an
  error of authorization to give.
-/

namespace AccessGateway

/-- The grant that lets a user do an operation. -/
def CollectionOperation.grantFor (op : CollectionOperation) (user : String) : Grant :=
  ⟨user, op.action.resourceType, op.action.name⟩

/-- A guard asks for the resource type and the name of the data action of its operation. -/
theorem CollectionOperation.grant_question (op : CollectionOperation) (s : Scope)
    (args : CollectionArgs) :
    (op.guard.question s args).grant = op.grantFor (userOf s.request.identity) := by
  cases op <;> rfl

theorem Guard.check_policy {α : Type} (g : Guard α) (info : RequestInfo) (p : Policy) (args : α) :
    (g.check (some ⟨info, (Authorizer.mk p).provider⟩) args).1 =
      if (g.question ⟨info, (Authorizer.mk p).provider⟩ args).grant ∈ p.grants then .ok ()
      else .error (.denied (userOf info.identity) (g.resourceOf args).type g.action) := by
  by_cases h : (g.question ⟨info, (Authorizer.mk p).provider⟩ args).grant ∈ p.grants
  · have hyes : (Authorizer.mk p).provider (g.question ⟨info, (Authorizer.mk p).provider⟩ args) =
        .ok true := congrArg Except.ok (decide_eq_true h)
    rw [if_pos h]
    simp only [Guard.check, hyes]
  · have hno : (Authorizer.mk p).provider (g.question ⟨info, (Authorizer.mk p).provider⟩ args) =
        .ok false := congrArg Except.ok (decide_eq_false h)
    rw [if_neg h]
    simp only [Guard.check, hno]
    rfl

/-! ## Errors -/

/-- The status of the response to an error. -/
def ServiceError.status : ServiceError → Nat
  | authorization (.evaluation _) => 500
  | authorization _ => 403
  | hook _ => 500
  | store .nameRequired => 400
  | store (.notFound _) => 404
  | store (.alreadyExists _) => 409

theorem ServiceError.status_response (e : ServiceError) :
    e.toApiError.response.status = e.status := by
  cases e with
  | authorization e => cases e <;> rfl
  | hook e => rfl
  | store e => cases e <;> rfl

/-! ## Calls -/

namespace CollectionCall

variable {c : CollectionCall} {hooks : CollectionHooks} {info : RequestInfo} {p : Policy}
  {s : Store}

theorem check_eq (c : CollectionCall) (info : RequestInfo) (p : Policy) :
    (c.operation.guard.check (some ⟨info, (Authorizer.mk p).provider⟩) c.args).1 =
      if c.operation.grantFor (userOf info.identity) ∈ p.grants then .ok ()
      else .error (.denied (userOf info.identity) (c.operation.guard.resourceOf c.args).type
        c.operation.guard.action) := by
  rw [Guard.check_policy, CollectionOperation.grant_question]

/-- Without its grant a call does nothing and is refused. -/
theorem run_of_notMem (h : c.operation.grantFor (userOf info.identity) ∉ p.grants) :
    (c.run hooks (some ⟨info, (Authorizer.mk p).provider⟩) s).store = s ∧
      (c.run hooks (some ⟨info, (Authorizer.mk p).provider⟩) s).response.status = 403 := by
  have hcheck := check_eq c info p
  rw [if_neg h] at hcheck
  simp only [run_eq, hcheck]
  exact ⟨trivial, ServiceError.status_response _⟩

/-- With its grant a call may fail, but it is not refused. -/
theorem run_of_mem (h : c.operation.grantFor (userOf info.identity) ∈ p.grants) :
    (c.run hooks (some ⟨info, (Authorizer.mk p).provider⟩) s).response.status ≠ 403 := by
  have hcheck := check_eq c info p
  rw [if_pos h] at hcheck
  unfold ServiceRun.response
  cases hresult : (c.run hooks (some ⟨info, (Authorizer.mk p).provider⟩) s).result with
  | ok v => simp [Response.json]
  | error e =>
    simp only [ServiceError.status_response]
    rcases error_of_run hcheck hresult with ⟨x, rfl⟩ | ⟨x, rfl⟩
    · simp [ServiceError.status]
    · cases x <;> simp [ServiceError.status]

end CollectionCall

end AccessGateway
