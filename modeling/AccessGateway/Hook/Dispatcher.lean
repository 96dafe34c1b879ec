import AccessGateway.Entries

/-
  Hooks around operations. Every hook is asked before an operation if it takes an interest in it,
  and asked again after it if it succeeded. A hook that does is called then: before the operation it
  may change the arguments, after it the result. What a hook changed stays, even if the hook fails
  afterwards. A failure is passed over or ends the operation, as the policy of the dispatcher says.
  `HookEvent` records the calls.
-/

namespace AccessGateway

/-- How a call of a hook ends. -/
inductive Ending where
  | completed
  /-- A failure told by its texts, the outermost first. -/
  | failed (texts : List String)
  /-- A panic, with its text if it has one. -/
  | panicked (text : Option String)
deriving DecidableEq, Inhabited, Repr

/-- Whether a hook is to be called for an operation. -/
inductive Interest where
  | wanted
  | declined
  | panicked (text : Option String)
deriving DecidableEq, Inhabited, Repr

/-- What is said of a panic. -/
def panicTexts (text : Option String) : List String :=
  ["hook panicked: " ++ text.getD "non-string panic payload"]

/-- The texts of a call that did not end well. -/
def Ending.failure? : Ending → Option (List String)
  | completed => none
  | failed texts => some texts
  | panicked text => some (panicTexts text)

/-- The two times at which hooks are called. -/
inductive HookPhase where
  | before
  | after
deriving DecidableEq, Inhabited, Repr

/-- The name of a phase. -/
def HookPhase.name : HookPhase → String
  | before => "before"
  | after => "after"

/-- A hook around operations with arguments and results of two types. Each time it is asked anew if
it is to be called. -/
structure Hook (α β : Type) where
  name : String
  interest : HookPhase → String → Interest
  before : String → α → α × Ending
  after : String → α → β → β × Ending

/-- A hook that takes an interest in everything and changes nothing. -/
def Hook.observer {α β : Type} (name : String) : Hook α β :=
  ⟨name, fun _ _ => .wanted, fun _ a => (a, .completed), fun _ _ r => (r, .completed)⟩

/-- The failure of a hook that ended an operation. -/
structure HookError where
  hook : String
  operation : String
  phase : HookPhase
  texts : List String
deriving DecidableEq, Inhabited, Repr

namespace HookError

/-- The texts of the failure as one. -/
def source (e : HookError) : String := ": ".intercalate e.texts

/-- The text of a hook error. -/
def message (e : HookError) : String :=
  e.phase.name ++ " hook '" ++ e.hook ++ "' failed on '" ++ e.operation ++ "': " ++ e.source

end HookError

/-- What becomes of the failure of a hook. -/
inductive HookPolicy where
  | isolate
  | propagate
deriving DecidableEq, Inhabited, Repr

/-- The name of a policy. -/
def HookPolicy.name : HookPolicy → String
  | isolate => "isolate"
  | propagate => "propagate"

/-- A call that was made, with the arguments and the result as they were then. A hook is told by
its position in the dispatcher. -/
inductive HookEvent (α β : Type) where
  | before (position : Nat) (operation : String) (args : α)
  | ran (args : α)
  | after (position : Nat) (operation : String) (args : α) (result : β)
deriving DecidableEq, Repr

/-- Hooks in the order of their registration. -/
structure Dispatcher (α β : Type) where
  hooks : List (Hook α β)
  policy : HookPolicy

/-- What calling hooks leaves: the value that they may change, the failure that ended the calls,
and the calls. -/
structure HookRun (α β γ : Type) where
  value : γ
  failure : Option HookError
  events : List (HookEvent α β)

namespace Dispatcher

variable {α β γ ε : Type} {m : Type → Type}

/-- No hooks, whose failures are passed over. -/
def empty : Dispatcher α β := ⟨[], .isolate⟩

/-- The dispatcher with one more hook. -/
def register (d : Dispatcher α β) (h : Hook α β) : Dispatcher α β :=
  { d with hooks := d.hooks ++ [h] }

/-- The failure that ends the calls, if one does. -/
def settle (policy : HookPolicy) (hook operation : String) (phase : HookPhase) :
    Option (List String) → Option HookError
  | none => none
  | some texts =>
    match policy with
    | .isolate => none
    | .propagate => some ⟨hook, operation, phase, texts⟩

/-- Calls hooks with their positions one after another. `callOne` calls a single hook that is
interested. -/
def runHooks (policy : HookPolicy) (operation : String) (phase : HookPhase)
    (callOne : Hook α β → γ → γ × Ending) (event : Nat → γ → HookEvent α β) :
    List (Hook α β × Nat) → γ → HookRun α β γ
  | [], v => ⟨v, none, []⟩
  | (h, i) :: r, v =>
    match h.interest phase operation with
    | .declined => runHooks policy operation phase callOne event r v
    | .panicked text =>
      match settle policy h.name operation phase (some (panicTexts text)) with
      | some e => ⟨v, some e, []⟩
      | none => runHooks policy operation phase callOne event r v
    | .wanted =>
      let c := callOne h v
      match settle policy h.name operation phase c.2.failure? with
      | some e => ⟨c.1, some e, [event i v]⟩
      | none =>
        let rest := runHooks policy operation phase callOne event r c.1
        ⟨rest.value, rest.failure, event i v :: rest.events⟩

/-- Calls the hooks before an operation. -/
def runBefore (d : Dispatcher α β) (operation : String) (args : α) : HookRun α β α :=
  runHooks d.policy operation .before (fun h a => h.before operation a)
    (fun i a => .before i operation a) d.hooks.zipIdx args

/-- Calls the hooks after an operation. -/
def runAfter (d : Dispatcher α β) (operation : String) (args : α) (result : β) :
    HookRun α β β :=
  runHooks d.policy operation .after (fun h r => h.after operation args r)
    (fun i r => .after i operation args r) d.hooks.zipIdx result

/-- Runs an operation with the hooks around it. -/
def run [Monad m] (d : Dispatcher α β) (operation : String) (args : α)
    (ofError : HookError → ε) (f : α → m (Except ε β)) :
    m (Except ε β × List (HookEvent α β)) :=
  let b := d.runBefore operation args
  match b.failure with
  | some e => pure (.error (ofError e), b.events)
  | none => do
    let r ← f b.value
    match r with
    | .error e => pure (.error e, b.events ++ [.ran b.value])
    | .ok result =>
      let a := d.runAfter operation b.value result
      let events := b.events ++ .ran b.value :: a.events
      match a.failure with
      | some e => pure (.error (ofError e), events)
      | none => pure (.ok a.value, events)

end Dispatcher

end AccessGateway
