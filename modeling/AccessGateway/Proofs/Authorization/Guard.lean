import AccessGateway.Authorization.Guard

/-
  What a guard does with a call. `Permits` and `Refuses` say of a guard, a scope and arguments alone
  whether a call may run and why not, and `Consults` says whom the guard turns to about it.
  `recorded` is a guarded call in which the resolver, the provider and the operation themselves are
  called with a record of the calls; it comes to what `call` says (`recorded_eq_call`), as does a
  call of an operation that was put behind the guard (`call_wrap`). Whatever the operation does in
  whatever monad, it is run once and last if the guard permits the call, and otherwise not at all
  (`called_iff_permits`).
-/

namespace AccessGateway

/-- The user that is asked about is the one of the identity, or `Anonymous`. -/
theorem userOf_eq (identity : Option Identity) :
    userOf identity = (identity.map Identity.userId).getD "Anonymous" := by
  cases identity <;> rfl

namespace Guard

variable {α β ε : Type}

/-- The call may run: the provider of the scope says yes to the question about it, or there is no
scope and the guard does not insist on one. -/
inductive Permits (g : Guard α) : Option Scope → α → Prop
  | unscoped {args : α} : g.missingScope = .allow → Permits g none args
  | allowed {x : Scope} {args : α} : x.provider (g.question x args) = .ok true →
    Permits g (some x) args

/-- The call may not run, and why. -/
inductive Refuses (g : Guard α) : Option Scope → α → AuthorizationError → Prop
  | unscoped {args : α} : g.missingScope = .deny →
    Refuses g none args (.missingScope g.operation)
  | failed {x : Scope} {args : α} {e : ProviderError} :
    x.provider (g.question x args) = .error e → Refuses g (some x) args (.evaluation e)
  | denied {x : Scope} {args : α} : x.provider (g.question x args) = .ok false →
    Refuses g (some x) args (.denied (g.question x args).user (g.question x args).resource.type
      (g.question x args).action)

/-- Whom the guard turns to about a call: outside any scope to nobody, and in a scope once to its
provider, about the user of the scope, the resource of the call and the action of the guard. A
resource that is found from the call is looked up first. -/
inductive Consults (g : Guard α) : Option Scope → α → List (GuardEvent α) → Prop
  | unscoped {args : α} : Consults g none args []
  | fixed {x : Scope} {args : α} {r : Resource} : g.resource = .fixed r →
    Consults g (some x) args
      [.asked ⟨(x.request.identity.map Identity.userId).getD "Anonymous", r, g.action⟩]
  | dynamic {x : Scope} {args : α} {resolve : String → α → Resource} :
    g.resource = .dynamic resolve →
    Consults g (some x) args [.resolved g.operation,
      .asked ⟨(x.request.identity.map Identity.userId).getD "Anonymous",
        resolve g.operation args, g.action⟩]

/-! ## The check -/

section Check

variable (g : Guard α) (x : Scope) (args : α)

theorem check_scope_snd : (g.check (some x) args).2 = g.consultations x args := by
  simp only [check]
  split <;> rfl

/-- In a scope a guard lets a call run if the provider says yes to its question. -/
theorem check_scope_eq_ok_iff :
    (g.check (some x) args).1 = .ok () ↔ x.provider (g.question x args) = .ok true := by
  simp only [check]
  cases x.provider (g.question x args) with
  | error e => simp
  | ok answer => cases answer <;> simp

theorem consults_check (scope : Option Scope) : g.Consults scope args (g.check scope args).2 := by
  cases scope with
  | none =>
    simp only [check]
    cases g.missingScope with
    | allow => exact .unscoped
    | deny => exact .unscoped
  | some x =>
    rw [check_scope_snd]
    unfold consultations question resourceOf
    rw [userOf_eq]
    cases hr : g.resource with
    | fixed r => exact .fixed hr
    | dynamic resolve => exact .dynamic hr

end Check

theorem check_of_permits {g : Guard α} {scope : Option Scope} {args : α}
    (h : g.Permits scope args) : (g.check scope args).1 = .ok () := by
  cases h with
  | unscoped hallow => simp only [check, hallow]
  | allowed hyes => exact (check_scope_eq_ok_iff g _ args).2 hyes

/-- A call that is not permitted is refused, with the error of its reason. -/
theorem refuses_of_not_permits {g : Guard α} {scope : Option Scope} {args : α}
    (h : ¬ g.Permits scope args) :
    ∃ e, g.Refuses scope args e ∧ (g.check scope args).1 = .error e := by
  cases scope with
  | none =>
    cases hm : g.missingScope with
    | allow => exact absurd (.unscoped hm) h
    | deny => exact ⟨_, .unscoped hm, by simp only [check, hm]⟩
  | some x =>
    cases hp : x.provider (g.question x args) with
    | error e => exact ⟨_, .failed hp, by simp only [check, hp]⟩
    | ok answer =>
      cases answer with
      | true => exact absurd (.allowed hp) h
      | false => exact ⟨_, .denied hp, by simp only [check, hp]⟩

/-! ## Calls with a record -/

section Monadic

variable {m : Type → Type} [Monad m]

/-- `check` with the resolver and the provider called in a monad. -/
def checkBy (resolve : (String → α → Resource) → String → α → m Resource)
    (ask : AuthorizationProvider → AuthorizationContext → m (Except ProviderError Bool))
    (g : Guard α) (scope : Option Scope) (args : α) : m (Except AuthorizationError Unit) :=
  match scope with
  | none =>
    match g.missingScope with
    | .allow => pure (.ok ())
    | .deny => pure (.error (.missingScope g.operation))
  | some x => do
    let r ← match g.resource with
      | .fixed r => pure r
      | .dynamic f => resolve f g.operation args
    let user := userOf x.request.identity
    match ← ask x.provider ⟨user, r, g.action⟩ with
    | .error e => pure (.error (.evaluation e))
    | .ok true => pure (.ok ())
    | .ok false => pure (.error (.denied user r.type g.action))

/-- `call` with the resolver and the provider called in a monad. -/
def callBy (resolve : (String → α → Resource) → String → α → m Resource)
    (ask : AuthorizationProvider → AuthorizationContext → m (Except ProviderError Bool))
    (g : Guard α) (scope : Option Scope) (args : α) (ofError : AuthorizationError → ε)
    (f : α → m (Except ε β)) : m (Except ε β) := do
  match ← g.checkBy resolve ask scope args with
  | .error e => pure (.error (ofError e))
  | .ok () => f args

/-- A guarded call with a record of every call that is made for it. -/
def recorded (g : Guard α) (scope : Option Scope) (args : α) (ofError : AuthorizationError → ε)
    (f : α → m (Except ε β)) : m (Except ε β × List (GuardEvent α)) :=
  (g.callBy (m := StateT (List (GuardEvent α)) m)
    (fun resolve operation args => do
      modify (· ++ [.resolved operation])
      pure (resolve operation args))
    (fun provider c => do
      modify (· ++ [.asked c])
      pure (provider c))
    scope args ofError
    (fun args => do
      modify (· ++ [.ran args])
      f args)).run []

/-- An operation that was put behind a guard is called as the guard calls it. -/
theorem call_wrap (g : Guard α) (f : α → m (Except ε β)) (scope : Option Scope) (args : α)
    (ofError : AuthorizationError → ε) :
    (g.wrap f).call scope args ofError = g.call scope args ofError f := rfl

variable [LawfulMonad m]

theorem call_eq (g : Guard α) (scope : Option Scope) (args : α)
    (ofError : AuthorizationError → ε) (f : α → m (Except ε β)) :
    g.call scope args ofError f =
      match (g.check scope args).1 with
      | .error e => pure (.error (ofError e), (g.check scope args).2)
      | .ok () => (fun r => (r, (g.check scope args).2 ++ [.ran args])) <$> f args := by
  unfold call
  obtain ⟨verdict, events⟩ := g.check scope args
  cases verdict with
  | error e => rfl
  | ok _ => exact (map_eq_pure_bind _ _).symm

/-- What a guard says that it did is what was recorded of its calls. -/
theorem recorded_eq_call (g : Guard α) (scope : Option Scope) (args : α)
    (ofError : AuthorizationError → ε) (f : α → m (Except ε β)) :
    g.recorded scope args ofError f = g.call scope args ofError f := by
  rw [call_eq]
  unfold recorded callBy checkBy check
  cases scope with
  | none => cases g.missingScope <;> simp
  | some x =>
    unfold consultations question resourceOf
    cases g.resource with
    | fixed r =>
      cases hp : x.provider ⟨userOf x.request.identity, r, g.action⟩ with
      | error e => simp [hp]
      | ok answer => cases answer <;> simp [hp]
    | dynamic resolve =>
      cases hp : x.provider ⟨userOf x.request.identity, resolve g.operation args, g.action⟩ with
      | error e => simp [hp]
      | ok answer => cases answer <;> simp [hp]

end Monadic

/-! ## What becomes of a call -/

/-- A guard runs the operation exactly if it permits the call: once, behind all that it turns to,
and with the arguments as they are. Otherwise the operation is not run, and the answer is the error
of the reason. Whom the guard turns to is the same in both cases, and a call of the operation behind
the guard is no different. -/
theorem called_iff_permits (g : Guard α) (scope : Option Scope) (args : α)
    (ofError : AuthorizationError → ε) :
    ∃ asked : List (GuardEvent α), g.Consults scope args asked ∧
      (g.Permits scope args →
        ∀ (m : Type → Type) [Monad m] [LawfulMonad m] (f : α → m (Except ε β)),
          let ran := (fun r => (r, asked ++ [.ran args])) <$> f args
          g.recorded scope args ofError f = ran ∧ g.call scope args ofError f = ran ∧
            (g.wrap f).call scope args ofError = ran) ∧
      (¬ g.Permits scope args → ∃ e, g.Refuses scope args e ∧
        ∀ (m : Type → Type) [Monad m] [LawfulMonad m] (f : α → m (Except ε β)),
          let stopped := pure (.error (ofError e), asked)
          g.recorded scope args ofError f = stopped ∧ g.call scope args ofError f = stopped ∧
            (g.wrap f).call scope args ofError = stopped) := by
  refine ⟨(g.check scope args).2, consults_check g args scope, ?_, ?_⟩
  · intro hpermits m _ _ f ran
    have hcall : g.call scope args ofError f = ran := by
      rw [call_eq, check_of_permits hpermits]
    exact ⟨(recorded_eq_call g scope args ofError f).trans hcall, hcall, hcall⟩
  · intro hpermits
    obtain ⟨e, hrefuses, hcheck⟩ := refuses_of_not_permits hpermits
    refine ⟨e, hrefuses, ?_⟩
    intro m _ _ f stopped
    have hcall : g.call scope args ofError f = stopped := by
      rw [call_eq, hcheck]
    exact ⟨(recorded_eq_call g scope args ofError f).trans hcall, hcall, hcall⟩

/-- A guard whose resource is named by the call, and that insists on a scope. -/
def countGuard : Guard String :=
  ⟨"count", "count", .dynamic fun _ name => ⟨"collection", some name⟩, .deny⟩

/-- A scope without an identity whose provider knows one collection only. -/
def publicScope : Scope :=
  ⟨⟨"GET", "/", none⟩, fun q =>
    if q.resource.id = some "public" then .ok (q.user = "Anonymous")
    else .error (.unavailable "unknown")⟩

/-- The length of a name. -/
def nameLength (name : String) : Id (Except String Nat) := pure (.ok name.length)

/-- The same guard runs one call, stops another when the provider fails, and stops a third outside
any scope without asking anybody. -/
theorem called_iff_permits_unknown :
    countGuard.Permits (some publicScope) "public" ∧
      countGuard.call (some publicScope) "public" AuthorizationError.message nameLength =
        (.ok 6, [.resolved "count",
          .asked ⟨"Anonymous", ⟨"collection", some "public"⟩, "count"⟩, .ran "public"]) ∧
      ¬ countGuard.Permits (some publicScope) "secret" ∧
      (countGuard.wrap nameLength).call (some publicScope) "secret" AuthorizationError.message =
        (.error "authorization evaluation failed: service unavailable: unknown",
          [.resolved "count", .asked ⟨"Anonymous", ⟨"collection", some "secret"⟩, "count"⟩]) ∧
      ¬ countGuard.Permits none "public" ∧
      countGuard.recorded none "public" AuthorizationError.message nameLength =
        (.error "no request scope for 'count'", []) := by
  have hpublic : countGuard.Permits (some publicScope) "public" := .allowed rfl
  have hsecret : ¬ countGuard.Permits (some publicScope) "secret" := by
    rintro ⟨⟩
    next hyes => cases hyes
  have hnone : ¬ countGuard.Permits none "public" := by
    rintro ⟨⟩
    next hallow => cases hallow
  refine ⟨hpublic, ?_, hsecret, ?_, hnone, ?_⟩
  · obtain ⟨asked, hconsults, hran, -⟩ := called_iff_permits (β := Nat) countGuard
      (some publicScope) "public" AuthorizationError.message
    rw [(hran hpublic Id _).2.1]
    cases hconsults with
    | fixed hr => cases hr
    | dynamic hr =>
      obtain rfl := ResourceSpec.dynamic.inj hr
      rfl
  · obtain ⟨asked, hconsults, -, hstopped⟩ := called_iff_permits (β := Nat) countGuard
      (some publicScope) "secret" AuthorizationError.message
    obtain ⟨e, hrefuses, hcall⟩ := hstopped hsecret
    rw [(hcall Id _).2.2]
    cases hrefuses with
    | denied hno => cases hno
    | failed he =>
      obtain rfl := Except.error.inj he
      cases hconsults with
      | fixed hr => cases hr
      | dynamic hr =>
        obtain rfl := ResourceSpec.dynamic.inj hr
        rfl
  · obtain ⟨asked, hconsults, -, hstopped⟩ := called_iff_permits (β := Nat) countGuard
      none "public" AuthorizationError.message
    obtain ⟨e, hrefuses, hcall⟩ := hstopped hnone
    rw [(hcall Id _).1]
    cases hrefuses
    cases hconsults
    rfl

end Guard

end AccessGateway
