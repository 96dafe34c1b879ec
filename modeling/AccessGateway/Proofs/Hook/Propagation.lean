import AccessGateway.Proofs.Hook.Isolation
import Mathlib.Order.Nat

/-
  A dispatcher that propagates failures. The first hook that fails ends the calls: it is named by
  the error and nothing behind it is called (`runHooks_of_firstFailure`). Where no hook fails the
  calls are those of a dispatcher that passes failures over (`runHooks_of_passes`). `run_propagate`
  puts the calls before an operation, the operation and the calls after it together, in whatever
  monad the operation is done, and compares the two policies.
-/

namespace AccessGateway.Dispatcher

variable {α β γ ε : Type} {m : Type → Type}

/-- The turn of a hook in a phase fails, with these texts: the hook cannot say if it wants to be
called then, or it does and its call fails or panics. -/
inductive Fails (callOne : Hook α β → γ → γ × Ending) (phase : HookPhase) (operation : String)
    (h : Hook α β) (v : γ) : List String → Prop where
  | undecided {text : Option String} (interest : h.interest phase operation = .panicked text) :
    Fails callOne phase operation h v (panicTexts text)
  | failed {texts : List String} (interest : h.interest phase operation = .wanted)
    (ending : (callOne h v).2 = .failed texts) : Fails callOne phase operation h v texts
  | panicked {text : Option String} (interest : h.interest phase operation = .wanted)
    (ending : (callOne h v).2 = .panicked text) :
    Fails callOne phase operation h v (panicTexts text)

/-- The turn of the hook at a place fails, with what the hooks in front of it made of a value. -/
def FailsAt (callOne : Hook α β → γ → γ × Ending) (phase : HookPhase) (operation : String)
    (hooks : List (Hook α β × Nat)) (v : γ) (k : Nat) : Prop :=
  ∃ x texts, hooks[k]? = some x ∧ Fails callOne phase operation x.1
    (handedOn callOne (wanting phase operation (hooks.take k)) v) texts

/-- The first hook whose turn fails, its place and the texts of its failure. -/
structure FirstFailure (callOne : Hook α β → γ → γ × Ending) (phase : HookPhase)
    (operation : String) (hooks : List (Hook α β × Nat)) (v : γ) (k : Nat) (x : Hook α β × Nat)
    (texts : List String) : Prop where
  place : hooks[k]? = some x
  fails : Fails callOne phase operation x.1
    (handedOn callOne (wanting phase operation (hooks.take k)) v) texts
  earlier : ∀ i < k, ¬ FailsAt callOne phase operation hooks v i

/-- What the turn of a hook that does not fail leaves of a value. -/
def passedOn (callOne : Hook α β → γ → γ × Ending) (phase : HookPhase) (operation : String)
    (x : Hook α β × Nat) (v : γ) : γ :=
  if x.1.interest phase operation = .wanted then (callOne x.1 v).1 else v

/-- The answer and the calls of a run whose operation was done, given the calls before it, its
arguments, and what is answered and called behind a result. -/
def around (before : List (HookEvent α β)) (given : α)
    (behind : β → Except ε β × List (HookEvent α β)) :
    Except ε β → Except ε β × List (HookEvent α β)
  | .error e => (.error e, before ++ [.ran given])
  | .ok result => ((behind result).1, before ++ .ran given :: (behind result).2)

section Calls

variable {operation : String} {phase : HookPhase} {callOne : Hook α β → γ → γ × Ending}
  {event : Nat → γ → HookEvent α β} {hooks r : List (Hook α β × Nat)} {x y : Hook α β × Nat}
  {v : γ} {k : Nat} {texts : List String}

/-! ## Places -/

theorem handedOn_wanting_cons (y : Hook α β × Nat) (r : List (Hook α β × Nat)) (v : γ) :
    handedOn callOne (wanting phase operation (y :: r)) v =
      handedOn callOne (wanting phase operation r) (passedOn callOne phase operation y v) := by
  rw [wanting_cons, passedOn]
  split <;> rfl

theorem failsAt_zero :
    FailsAt callOne phase operation (y :: r) v 0 ↔
      ∃ texts, Fails callOne phase operation y.1 v texts := by
  simp [FailsAt, wanting, handedOn]

theorem failsAt_succ :
    FailsAt callOne phase operation (y :: r) v (k + 1) ↔
      FailsAt callOne phase operation r (passedOn callOne phase operation y v) k := by
  rw [FailsAt, FailsAt, List.getElem?_cons_succ, List.take_succ_cons, handedOn_wanting_cons]

theorem FirstFailure.behind (h : FirstFailure callOne phase operation (y :: r) v (k + 1) x texts) :
    FirstFailure callOne phase operation r (passedOn callOne phase operation y v) k x texts where
  place := by simpa using h.place
  fails := by
    have hfails := h.fails
    rwa [List.take_succ_cons, handedOn_wanting_cons] at hfails
  earlier i hi := mt failsAt_succ.2 (h.earlier (i + 1) (Nat.succ_lt_succ hi))

theorem exists_firstFailure (h : ∃ k, FailsAt callOne phase operation hooks v k) :
    ∃ k x texts, FirstFailure callOne phase operation hooks v k x texts := by
  classical
  obtain ⟨x, texts, hplace, hfails⟩ := Nat.find_spec h
  exact ⟨Nat.find h, x, texts, hplace, hfails, fun i hi => Nat.find_min h hi⟩

/-! ## One hook -/

/-- A hook whose turn fails ends the calls. It was called if it wanted to be. -/
theorem runHooks_cons_of_fails (h : Fails callOne phase operation x.1 v texts) :
    (runHooks .propagate operation phase callOne event (x :: r) v).failure =
        some ⟨x.1.name, operation, phase, texts⟩ ∧
      (runHooks .propagate operation phase callOne event (x :: r) v).events =
        if x.1.interest phase operation = .wanted then [event x.2 v] else [] := by
  rw [runHooks]
  cases h with
  | undecided hinterest => simp [hinterest, settle]
  | failed hinterest hending => simp [hinterest, hending, settle, Ending.failure?]
  | panicked hinterest hending => simp [hinterest, hending, settle, Ending.failure?]

/-- A hook whose turn does not fail is called if it wants to be, and the others come behind it. -/
theorem runHooks_cons_of_passes (h : ¬ ∃ texts, Fails callOne phase operation x.1 v texts) :
    runHooks .propagate operation phase callOne event (x :: r) v =
      if x.1.interest phase operation = .wanted then
        let rest := runHooks .propagate operation phase callOne event r (callOne x.1 v).1
        ⟨rest.value, rest.failure, event x.2 v :: rest.events⟩
      else runHooks .propagate operation phase callOne event r v := by
  rw [runHooks]
  cases hinterest : x.1.interest phase operation with
  | declined => rfl
  | panicked text => exact absurd ⟨_, .undecided hinterest⟩ h
  | wanted =>
    cases hending : (callOne x.1 v).2 with
    | completed => simp [hending, settle, Ending.failure?]
    | failed texts => exact absurd ⟨_, .failed hinterest hending⟩ h
    | panicked text => exact absurd ⟨_, .panicked hinterest hending⟩ h

/-! ## All hooks -/

theorem runHooks_of_passes (h : ∀ k, ¬ FailsAt callOne phase operation hooks v k) :
    runHooks .propagate operation phase callOne event hooks v =
      runHooks .isolate operation phase callOne event hooks v := by
  induction hooks generalizing v with
  | nil => rfl
  | cons x r ih =>
    have hrest := ih fun k => mt failsAt_succ.2 (h (k + 1))
    rw [runHooks_cons_of_passes (mt failsAt_zero.2 (h 0)), runHooks_isolate_cons]
    by_cases hwanted : x.1.interest phase operation = .wanted
    · rw [passedOn, if_pos hwanted] at hrest
      rw [if_pos hwanted, if_pos hwanted, hrest]
    · rw [passedOn, if_neg hwanted] at hrest
      rw [if_neg hwanted, if_neg hwanted, hrest]

/-- The error names the first hook whose turn fails, and of the hooks up to it exactly those that
want to be called are called. -/
theorem runHooks_of_firstFailure (h : FirstFailure callOne phase operation hooks v k x texts) :
    (runHooks .propagate operation phase callOne event hooks v).failure =
        some ⟨x.1.name, operation, phase, texts⟩ ∧
      Records callOne event (wanting phase operation (hooks.take (k + 1))) v
        (runHooks .propagate operation phase callOne event hooks v).events := by
  induction hooks generalizing v k with
  | nil => exact absurd h.place (by simp)
  | cons y r ih =>
    rw [List.take_succ_cons, wanting_cons]
    cases k with
    | zero =>
      obtain rfl : y = x := by simpa using h.place
      have hfails : Fails callOne phase operation y.1 v texts := h.fails
      obtain ⟨hfailure, hevents⟩ := runHooks_cons_of_fails hfails
      refine ⟨hfailure, ?_⟩
      rw [hevents]
      split
      · exact Records.nil.cons
      · exact Records.nil
    | succ k =>
      obtain ⟨hfailure, hrecords⟩ := ih h.behind
      rw [runHooks_cons_of_passes (mt failsAt_zero.2 (h.earlier 0 (Nat.succ_pos k)))]
      by_cases hwanted : y.1.interest phase operation = .wanted
      · rw [passedOn, if_pos hwanted] at hfailure hrecords
        rw [if_pos hwanted, if_pos hwanted]
        exact ⟨hfailure, hrecords.cons⟩
      · rw [passedOn, if_neg hwanted] at hfailure hrecords
        rw [if_neg hwanted, if_neg hwanted]
        exact ⟨hfailure, hrecords⟩

end Calls

/-! ## Operations -/

/-- If the hooks before an operation do not end it, it is done once, with what they left of the
arguments. -/
theorem run_of_runBefore [Monad m] {d : Dispatcher α β} {operation : String} {args : α}
    (ofError : HookError → ε) (f : α → m (Except ε β))
    (h : (d.runBefore operation args).failure = none) :
    let given := (d.runBefore operation args).value
    d.run operation args ofError f = f given >>= fun r =>
      pure (around (d.runBefore operation args).events given
        (fun result => (d.settled operation given ofError result,
          (d.runAfter operation given result).events)) r) := by
  intro given
  unfold run
  simp only [h]
  congr 1
  funext r
  cases r with
  | error e => rfl
  | ok result =>
    simp only [around, settled, given]
    cases (d.runAfter operation (d.runBefore operation args).value result).failure <;> rfl

section Results

variable {hooks : List (Hook α β)} {operation : String} {given : α} {result : β}

/-- Behind a result, the first hook whose turn fails is named by the error that is the answer. -/
theorem settled_of_firstFailure (ofError : HookError → ε) {k : Nat} {x : Hook α β × Nat}
    {texts : List String}
    (h : FirstFailure (fun h r => h.after operation given r) .after operation hooks.zipIdx result k
      x texts) :
    let d : Dispatcher α β := ⟨hooks, .propagate⟩
    d.settled operation given ofError result =
        .error (ofError ⟨x.1.name, operation, .after, texts⟩) ∧
      Records (fun h r => h.after operation given r) (fun i r => .after i operation given r)
        (wanting .after operation (hooks.zipIdx.take (k + 1))) result
        (d.runAfter operation given result).events := by
  intro d
  obtain ⟨hfailure, hrecords⟩ :
      (d.runAfter operation given result).failure =
          some ⟨x.1.name, operation, .after, texts⟩ ∧
        Records (fun h r => h.after operation given r) (fun i r => .after i operation given r)
          (wanting .after operation (hooks.zipIdx.take (k + 1))) result
          (d.runAfter operation given result).events := runHooks_of_firstFailure h
  refine ⟨?_, hrecords⟩
  simp only [settled, hfailure]

/-- Behind a result, hooks whose turns do not fail make the answer that they make if failures are
passed over. -/
theorem settled_of_passes (ofError : HookError → ε)
    (h : ∀ k, ¬ FailsAt (fun h r => h.after operation given r) .after operation hooks.zipIdx
      result k) :
    let d : Dispatcher α β := ⟨hooks, .propagate⟩
    let d' : Dispatcher α β := ⟨hooks, .isolate⟩
    let called := wanting .after operation hooks.zipIdx
    d.settled operation given ofError result =
        .ok (handedOn (fun h r => h.after operation given r) called result) ∧
      Records (fun h r => h.after operation given r) (fun i r => .after i operation given r) called
        result (d.runAfter operation given result).events ∧
      d.settled operation given ofError result = d'.settled operation given ofError result ∧
      d.runAfter operation given result = d'.runAfter operation given result := by
  intro d d' called
  have hsame : d.runAfter operation given result = d'.runAfter operation given result :=
    runHooks_of_passes h
  obtain ⟨hvalue, hnone, hrecords⟩ :
      (d'.runAfter operation given result).value =
          handedOn (fun h r => h.after operation given r) called result ∧
        (d'.runAfter operation given result).failure = none ∧
        Records (fun h r => h.after operation given r) (fun i r => .after i operation given r)
          called result (d'.runAfter operation given result).events :=
    runHooks_isolate hooks.zipIdx result
  simp only [settled, hsame, hnone, hvalue]
  exact ⟨trivial, hrecords, trivial, trivial⟩

end Results

/-- With failures propagated, the first hook before the operation whose turn fails ends it: no hook
behind that one is called, the operation is not done, and the error names the hook, the operation
and the time. If there is none the operation is done once. If it fails its error is the answer and
no hook is called behind it. If it succeeds, the first hook after it whose turn fails ends the calls
and is named by the error; if there is none, the answer is the result that all of them left. Whose
turn fails, and who wants to be called, is asked anew after the operation. The hooks and the
operation get what they get if failures are passed over, and a run in which no turn fails has the
same answer and the same calls. -/
theorem run_propagate [Monad m] (hooks : List (Hook α β)) (operation : String) (args : α)
    (ofError : HookError → ε) (f : α → m (Except ε β)) :
    let calledBefore := wanting .before operation hooks.zipIdx
    let calledAfter := wanting .after operation hooks.zipIdx
    let callBefore := fun (h : Hook α β) a => h.before operation a
    let eventBefore := fun i a => HookEvent.before i operation a
    let given := handedOn callBefore calledBefore args
    let callAfter := fun (h : Hook α β) r => h.after operation given r
    let eventAfter := fun i r => HookEvent.after i operation given r
    ((∃ k, FailsAt callBefore .before operation hooks.zipIdx args k) →
      ∃ k x texts events, FirstFailure callBefore .before operation hooks.zipIdx args k x texts ∧
        Records callBefore eventBefore (wanting .before operation (hooks.zipIdx.take (k + 1))) args
          events ∧
        (Dispatcher.mk hooks .propagate).run operation args ofError f =
          pure (.error (ofError ⟨x.1.name, operation, .before, texts⟩), events)) ∧
    ((∀ k, ¬ FailsAt callBefore .before operation hooks.zipIdx args k) →
      ∃ before behind behindIsolated, Records callBefore eventBefore calledBefore args before ∧
        (Dispatcher.mk hooks .propagate).run operation args ofError f =
          (f given >>= fun r => pure (around before given behind r)) ∧
        (Dispatcher.mk hooks .isolate).run operation args ofError f =
          (f given >>= fun r => pure (around before given behindIsolated r)) ∧
        ∀ result,
          ((∃ k, FailsAt callAfter .after operation hooks.zipIdx result k) →
            ∃ k x texts, FirstFailure callAfter .after operation hooks.zipIdx result k x texts ∧
              (behind result).1 = .error (ofError ⟨x.1.name, operation, .after, texts⟩) ∧
              Records callAfter eventAfter (wanting .after operation (hooks.zipIdx.take (k + 1)))
                result (behind result).2) ∧
          ((∀ k, ¬ FailsAt callAfter .after operation hooks.zipIdx result k) →
            (behind result).1 = .ok (handedOn callAfter calledAfter result) ∧
              Records callAfter eventAfter calledAfter result (behind result).2 ∧
              behind result = behindIsolated result)) := by
  intro calledBefore calledAfter callBefore eventBefore given callAfter eventAfter
  let d : Dispatcher α β := ⟨hooks, .propagate⟩
  let d' : Dispatcher α β := ⟨hooks, .isolate⟩
  constructor
  · intro hfail
    obtain ⟨k, x, texts, hfirst⟩ := exists_firstFailure hfail
    obtain ⟨hfailure, hrecords⟩ :
        (d.runBefore operation args).failure = some ⟨x.1.name, operation, .before, texts⟩ ∧
          Records callBefore eventBefore (wanting .before operation (hooks.zipIdx.take (k + 1)))
            args (d.runBefore operation args).events := runHooks_of_firstFailure hfirst
    refine ⟨k, x, texts, _, hfirst, hrecords, ?_⟩
    unfold run
    simp only [d] at hfailure ⊢
    simp only [hfailure]
  · intro hpass
    have hsame : d.runBefore operation args = d'.runBefore operation args :=
      runHooks_of_passes hpass
    obtain ⟨hgiven, hnone, hrecords⟩ :
        (d'.runBefore operation args).value = given ∧
          (d'.runBefore operation args).failure = none ∧
          Records callBefore eventBefore calledBefore args (d'.runBefore operation args).events :=
      runHooks_isolate hooks.zipIdx args
    have hrun := run_of_runBefore ofError f (hsame ▸ hnone)
    have hrun' := run_of_runBefore ofError f hnone
    simp only [hsame, hgiven] at hrun hrun'
    refine ⟨_, _, _, hrecords, hrun, hrun', fun result => ⟨fun hfail => ?_, fun hpass' => ?_⟩⟩
    · obtain ⟨k, x, texts, hfirst⟩ := exists_firstFailure hfail
      obtain ⟨hanswer, hrecords'⟩ := settled_of_firstFailure ofError hfirst
      exact ⟨k, x, texts, hfirst, hanswer, hrecords'⟩
    · obtain ⟨hanswer, hrecords', hsettled, hsame'⟩ := settled_of_passes ofError hpass'
      exact ⟨hanswer, hrecords', Prod.ext hsettled (congrArg (·.events) hsame')⟩

/-- A hook that cannot say after the operation if it wants to be called takes its result away, and
the hooks behind it are not called. -/
example :
    let broken : Hook (List Nat) Nat := { Hook.observer "broken" with
      interest := fun phase _ => if phase = .after then .panicked (some "boom") else .declined }
    let d : Dispatcher (List Nat) Nat := ⟨[.observer "first", broken, .observer "last"], .propagate⟩
    d.run "sum" [2] id (fun args => (.ok args.sum : Id _)) =
      (.error ⟨"broken", "sum", .after, ["hook panicked: boom"]⟩,
        [.before 0 "sum" [2], .before 2 "sum" [2], .ran [2], .after 0 "sum" [2] 2]) := rfl

end AccessGateway.Dispatcher
