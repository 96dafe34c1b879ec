import AccessGateway.Proofs.Hook.Dispatcher

/-
  A dispatcher that passes failures over. Each time it calls exactly the hooks that want to be
  called then, in the order of their registration, and each gets what the one before it left, also
  if that one failed (`runHooks_isolate`). `run_isolate` puts the calls before an operation, the
  operation and the calls after it together, in whatever monad the operation is done. The hooks that
  are called before it and those that are called after it need not be the same.
-/

namespace AccessGateway.Dispatcher

variable {α β γ ε : Type} {m : Type → Type}

/-- The hooks that want to be called in a phase of an operation. -/
def wanting (phase : HookPhase) (operation : String) (hooks : List (Hook α β × Nat)) :
    List (Hook α β × Nat) :=
  hooks.filter fun x => x.1.interest phase operation = .wanted

/-- What calls one after another make of a value. What a call changed stays, even if it failed. -/
def handedOn (callOne : Hook α β → γ → γ × Ending) (hooks : List (Hook α β × Nat)) (v : γ) : γ :=
  hooks.foldl (fun w x => (callOne x.1 w).1) v

/-- The calls of hooks one after another: the call at a place in the order is of the hook at that
place, with what the hooks before it made of the value. -/
def Records (callOne : Hook α β → γ → γ × Ending) (event : Nat → γ → HookEvent α β)
    (hooks : List (Hook α β × Nat)) (v : γ) (events : List (HookEvent α β)) : Prop :=
  ∀ k : Nat, events[k]? = hooks[k]?.map fun x => event x.2 (handedOn callOne (hooks.take k) v)

section Calls

variable {operation : String} {phase : HookPhase} {callOne : Hook α β → γ → γ × Ending}
  {event : Nat → γ → HookEvent α β} {hooks : List (Hook α β × Nat)} {v : γ}
  {events : List (HookEvent α β)}

theorem wanting_cons (x : Hook α β × Nat) (r : List (Hook α β × Nat)) :
    wanting phase operation (x :: r) =
      if x.1.interest phase operation = .wanted then x :: wanting phase operation r
      else wanting phase operation r := by
  simp only [wanting, List.filter_cons, decide_eq_true_eq]

theorem Records.nil : Records callOne event [] v [] := by
  intro k
  rfl

theorem Records.cons {x : Hook α β × Nat}
    (h : Records callOne event hooks (callOne x.1 v).1 events) :
    Records callOne event (x :: hooks) v (event x.2 v :: events) := by
  intro k
  cases k with
  | zero => rfl
  | succ k => exact h k

/-- Only a hook that wants to be called is called, and no failure ends the calls. -/
theorem runHooks_isolate_cons (x : Hook α β × Nat) (r : List (Hook α β × Nat)) (v : γ) :
    runHooks .isolate operation phase callOne event (x :: r) v =
      if x.1.interest phase operation = .wanted then
        let rest := runHooks .isolate operation phase callOne event r (callOne x.1 v).1
        ⟨rest.value, rest.failure, event x.2 v :: rest.events⟩
      else runHooks .isolate operation phase callOne event r v := by
  rw [runHooks]
  cases x.1.interest phase operation with
  | wanted => simp only [settle_isolate, if_true]
  | declined => rfl
  | panicked text => rfl

/-- Exactly the hooks that want to be called are called, and none of them fails for the others. -/
theorem runHooks_isolate (hooks : List (Hook α β × Nat)) (v : γ) :
    let r := runHooks .isolate operation phase callOne event hooks v
    r.value = handedOn callOne (wanting phase operation hooks) v ∧ r.failure = none ∧
      Records callOne event (wanting phase operation hooks) v r.events := by
  induction hooks generalizing v with
  | nil => exact ⟨rfl, rfl, Records.nil⟩
  | cons x r ih =>
    rw [runHooks_isolate_cons, wanting_cons]
    by_cases hwanted : x.1.interest phase operation = .wanted
    · obtain ⟨hvalue, hfailure, hrecords⟩ := ih (callOne x.1 v).1
      rw [if_pos hwanted, if_pos hwanted]
      exact ⟨hvalue, hfailure, hrecords.cons⟩
    · rw [if_neg hwanted, if_neg hwanted]
      exact ih v

end Calls

/-- With failures passed over, the hooks that want to be called before the operation are called in
the order of their registration, each with the arguments that the ones before it left. Then the
operation is done once, with the arguments that all of them left. If it fails its error is the
answer. If it succeeds the hooks that want to be called after it are called in the order of their
registration, each with the arguments that the operation was given and with the result that the ones
before it left, and the answer is the result that all of them left. No failure of a hook is an
answer. -/
theorem run_isolate [Monad m] (hooks : List (Hook α β)) (operation : String) (args : α)
    (ofError : HookError → ε) (f : α → m (Except ε β)) :
    let calledBefore := wanting .before operation hooks.zipIdx
    let calledAfter := wanting .after operation hooks.zipIdx
    let callBefore := fun (h : Hook α β) a => h.before operation a
    let given := handedOn callBefore calledBefore args
    let callAfter := fun (h : Hook α β) r => h.after operation given r
    ∃ (before : List (HookEvent α β)) (after : β → List (HookEvent α β)),
      Records callBefore (fun i a => .before i operation a) calledBefore args before ∧
      (∀ result, Records callAfter (fun i r => .after i operation given r) calledAfter result
        (after result)) ∧
      (Dispatcher.mk hooks .isolate).run operation args ofError f =
        f given >>= fun
          | .error e => pure (.error e, before ++ [.ran given])
          | .ok result =>
            pure (.ok (handedOn callAfter calledAfter result),
              before ++ .ran given :: after result) := by
  intro calledBefore calledAfter callBefore given callAfter
  let d : Dispatcher α β := ⟨hooks, .isolate⟩
  obtain ⟨hgiven, hbefore, hrecordsBefore⟩ :
      (d.runBefore operation args).value = given ∧ (d.runBefore operation args).failure = none ∧
        Records callBefore (fun i a => .before i operation a) calledBefore args
          (d.runBefore operation args).events := runHooks_isolate hooks.zipIdx args
  have hafter : ∀ result,
      (d.runAfter operation given result).value = handedOn callAfter calledAfter result ∧
        (d.runAfter operation given result).failure = none ∧
        Records callAfter (fun i r => .after i operation given r) calledAfter result
          (d.runAfter operation given result).events :=
    fun result => runHooks_isolate hooks.zipIdx result
  refine ⟨(d.runBefore operation args).events,
    fun result => (d.runAfter operation given result).events, hrecordsBefore,
    fun result => (hafter result).2.2, ?_⟩
  unfold run
  simp only [d, hbefore, hgiven]
  congr 1
  funext r
  cases r with
  | error e => rfl
  | ok result =>
    obtain ⟨hvalue, hnone, -⟩ := hafter result
    simp only [d] at hvalue hnone
    simp only [hnone, hvalue]

/-- A hook that fails and one that cannot say before the operation if it wants to be called stop
neither the operation nor the hooks behind them. -/
example :
    let failing : Hook (List Nat) Nat := { Hook.observer "failing" with
      before := fun _ args => (args ++ [1], .failed ["refused"]) }
    let broken : Hook (List Nat) Nat := { Hook.observer "broken" with
      interest := fun phase _ => if phase = .before then .panicked none else .wanted }
    let d : Dispatcher (List Nat) Nat := ⟨[failing, broken, .observer "last"], .isolate⟩
    d.run "sum" [2] HookError.message (fun args => (.ok args.sum : Id _)) =
      (.ok 3, [.before 0 "sum" [2], .before 2 "sum" [2, 1], .ran [2, 1],
        .after 0 "sum" [2, 1] 3, .after 1 "sum" [2, 1] 3, .after 2 "sum" [2, 1] 3]) := rfl

end AccessGateway.Dispatcher
