import AccessGateway.Hook.Dispatcher

/-
  What the hooks around an operation leave. They are called one after another on one value, so
  what every single call keeps, all of them keep (`value_runHooks`), and if no failure of one hook
  ends the calls, none of all does (`failure_runHooks_eq_none`); a failure that does is a propagated
  one (`policy_of_failure_runHooks`). `Dispatcher.Unnoticed` says that an
  operation gets the arguments and gives the result as if there were no hooks; `run_eq` says what a
  run does to a state in terms of the hooks before, the operation and the hooks after.
-/

namespace AccessGateway

variable {α β γ ε σ : Type}

/-- The hook leaves the arguments as they are if it is called before an operation, and the result if
it is called after it. -/
structure Hook.ChangesNothing (h : Hook α β) (operation : String) : Prop where
  before : h.interest .before operation = .wanted → ∀ args, (h.before operation args).1 = args
  after : h.interest .after operation = .wanted →
    ∀ args result, (h.after operation args result).1 = result

/-- Each time the hook says if it wants to be called for an operation, and no call of it fails. -/
structure Hook.NeverFails (h : Hook α β) (operation : String) : Prop where
  before : h.interest .before operation = .declined ∨
    h.interest .before operation = .wanted ∧ ∀ args, (h.before operation args).2 = .completed
  after : h.interest .after operation = .declined ∨
    h.interest .after operation = .wanted ∧
      ∀ args result, (h.after operation args result).2 = .completed

namespace Dispatcher

/-- Hooks that an operation does not notice: none changes anything, and none fails where a failure
would end the operation. -/
def Unnoticed (d : Dispatcher α β) : Prop :=
  ∀ h ∈ d.hooks, ∀ operation, h.ChangesNothing operation ∧
    (d.policy = .propagate → h.NeverFails operation)

/-! ## Calling hooks one after another -/

theorem settle_isolate (hook operation : String) (phase : HookPhase)
    (failure : Option (List String)) : settle .isolate hook operation phase failure = none := by
  cases failure <;> rfl

theorem policy_of_settle {policy : HookPolicy} {hook operation : String} {phase : HookPhase}
    {failure : Option (List String)} {e : HookError}
    (h : settle policy hook operation phase failure = some e) :
    policy = .propagate ∧ e.phase = phase := by
  cases failure with
  | none => cases h
  | some texts =>
    cases policy with
    | isolate => cases h
    | propagate =>
      obtain rfl := Option.some.inj h
      exact ⟨rfl, rfl⟩

section Calls

variable {policy : HookPolicy} {operation : String} {phase : HookPhase}
  {callOne : Hook α β → γ → γ × Ending} {event : Nat → γ → HookEvent α β}
  {hooks : List (Hook α β × Nat)} {v : γ}

theorem value_runHooks {P : γ → Prop}
    (hcall : ∀ x ∈ hooks, x.1.interest phase operation = .wanted → ∀ v, P v → P (callOne x.1 v).1)
    (hv : P v) : P (runHooks policy operation phase callOne event hooks v).value := by
  induction hooks generalizing v with
  | nil => exact hv
  | cons x r ih =>
    obtain ⟨hfirst, hrest⟩ := List.forall_mem_cons.1 hcall
    rw [runHooks]
    cases hi : x.1.interest phase operation with
    | declined => exact ih hrest hv
    | panicked text =>
      simp only
      split
      · exact hv
      · exact ih hrest hv
    | wanted =>
      have hnext := hfirst hi v hv
      simp only
      split
      · exact hnext
      · exact ih hrest hnext

theorem failure_runHooks_eq_none
    (hcall : policy = .propagate → ∀ x ∈ hooks, x.1.interest phase operation = .declined ∨
      x.1.interest phase operation = .wanted ∧ ∀ v, (callOne x.1 v).2 = .completed) :
    (runHooks policy operation phase callOne event hooks v).failure = none := by
  induction hooks generalizing v with
  | nil => rfl
  | cons x r ih =>
    have hrest := fun h => (List.forall_mem_cons.1 (hcall h)).2
    rw [runHooks]
    cases policy with
    | isolate =>
      cases x.1.interest phase operation with
      | declined => exact ih hrest
      | panicked text =>
        simp only [settle_isolate]
        exact ih hrest
      | wanted =>
        simp only [settle_isolate]
        exact ih hrest
    | propagate =>
      rcases (List.forall_mem_cons.1 (hcall rfl)).1 with hi | ⟨hi, hdone⟩
      · rw [hi]
        exact ih hrest
      · simp only [hi, hdone, Ending.failure?, settle]
        exact ih hrest

/-- Only failures that are propagated end the calls, and the error tells when the hooks were
called. -/
theorem policy_of_failure_runHooks {e : HookError}
    (h : (runHooks policy operation phase callOne event hooks v).failure = some e) :
    policy = .propagate ∧ e.phase = phase := by
  induction hooks generalizing v with
  | nil => cases h
  | cons x r ih =>
    rw [runHooks] at h
    cases hi : x.1.interest phase operation with
    | declined =>
      rw [hi] at h
      exact ih h
    | panicked text =>
      simp only [hi] at h
      split at h
      · next hsettle =>
        obtain rfl := Option.some.inj h
        exact policy_of_settle hsettle
      · exact ih h
    | wanted =>
      simp only [hi] at h
      split at h
      · next hsettle =>
        obtain rfl := Option.some.inj h
        exact policy_of_settle hsettle
      · exact ih h

end Calls

/-! ## Hooks that are not noticed -/

variable {d : Dispatcher α β}

theorem mem_of_mem_zipIdx {x : Hook α β × Nat} (h : x ∈ d.hooks.zipIdx) : x.1 ∈ d.hooks := by
  obtain ⟨-, -, hx⟩ := List.mem_zipIdx h
  rw [hx]
  exact List.getElem_mem _

theorem Unnoticed.runBefore (hd : d.Unnoticed) (operation : String) (args : α) :
    (d.runBefore operation args).value = args ∧ (d.runBefore operation args).failure = none := by
  constructor
  · refine value_runHooks (P := fun v => v = args) ?_ rfl
    rintro x hx hi v rfl
    exact (hd x.1 (mem_of_mem_zipIdx hx) operation).1.before hi v
  · refine failure_runHooks_eq_none fun hpolicy x hx => ?_
    exact ((hd x.1 (mem_of_mem_zipIdx hx) operation).2 hpolicy).before

theorem Unnoticed.runAfter (hd : d.Unnoticed) (operation : String) (args : α) (result : β) :
    (d.runAfter operation args result).value = result ∧
      (d.runAfter operation args result).failure = none := by
  constructor
  · refine value_runHooks (P := fun v => v = result) ?_ rfl
    rintro x hx hi v rfl
    exact (hd x.1 (mem_of_mem_zipIdx hx) operation).1.after hi args v
  · refine failure_runHooks_eq_none fun hpolicy x hx => ?_
    exact ((hd x.1 (mem_of_mem_zipIdx hx) operation).2 hpolicy).after.imp_right
      fun h => ⟨h.1, h.2 args⟩

/-! ## Runs on a state -/

/-- What the hooks behind an operation that succeeded leave of its result. -/
def settled (d : Dispatcher α β) (operation : String) (args : α) (ofError : HookError → ε)
    (result : β) : Except ε β :=
  match (d.runAfter operation args result).failure with
  | some e => .error (ofError e)
  | none => .ok (d.runAfter operation args result).value

theorem Unnoticed.settled (hd : d.Unnoticed) (operation : String) (args : α)
    (ofError : HookError → ε) (result : β) :
    d.settled operation args ofError result = .ok result := by
  obtain ⟨hvalue, hfailure⟩ := hd.runAfter operation args result
  unfold Dispatcher.settled
  rw [hfailure, hvalue]

theorem run_eq (d : Dispatcher α β) (operation : String) (args : α) (ofError : HookError → ε)
    (f : α → StateM σ (Except ε β)) (s : σ) :
    let b := d.runBefore operation args
    let r := (f b.value).run s
    (d.run operation args ofError f).run s =
      match b.failure, r.1 with
      | some e, _ => ((.error (ofError e), b.events), s)
      | none, .error e => ((.error e, b.events ++ [.ran b.value]), r.2)
      | none, .ok v => ((d.settled operation b.value ofError v,
          b.events ++ .ran b.value :: (d.runAfter operation b.value v).events), r.2) := by
  intro b r
  unfold Dispatcher.run settled
  cases hb : (d.runBefore operation args).failure with
  | some e =>
    simp only [b, hb]
    rfl
  | none =>
    simp only [b, r, hb, StateT.run_bind]
    obtain ⟨answer, t⟩ := (f (d.runBefore operation args).value).run s
    cases answer with
    | error e => rfl
    | ok v =>
      simp only [bind]
      cases (d.runAfter operation (d.runBefore operation args).value v).failure with
      | some e => rfl
      | none => rfl

end Dispatcher

end AccessGateway
