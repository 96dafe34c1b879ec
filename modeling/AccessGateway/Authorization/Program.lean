import AccessGateway.Authorization.Scope

/-
  Programs of tasks that run inside scopes. A task may do something that looks at the current
  scope, keep that scope for later, suspend itself, run a part of its program inside another scope,
  and start other tasks, to wait for them or not. A new task inherits no scope; it may be made to
  enter the scope that is current where it is started, or one that was kept. What a part of a
  program sees is the scope of the innermost part around it in its own task, so the results do not
  depend on how tasks take turns.
-/

namespace AccessGateway

/-- A step of a task, with actions of a type. -/
inductive Step (α : Type) where
  | act (a : α)
  /-- Keeps the current scope; the steps to come may depend on it. -/
  | look (next : Option Scope → List (Step α))
  | suspend
  /-- Runs the steps inside a scope. -/
  | enter (s : Scope) (body : List (Step α))
  /-- Runs the steps in a new task and waits for it. -/
  | spawn (body : List (Step α))
  /-- Runs the steps in a new task that enters the current scope, and waits for it. -/
  | spawnInside (body : List (Step α))
  /-- Runs each list of steps in a new task of its own, all at once, and waits for them. -/
  | spawnAll (bodies : List (List (Step α)))
  /-- Runs the steps in a new task that nobody waits for. -/
  | detach (body : List (Step α))
deriving Inhabited

/-- The result of a step. -/
inductive StepResult (β : Type) where
  | value (b : β)
  | nothing
  | list (rs : List (StepResult β))
deriving Inhabited

namespace Step

variable {α β : Type}

/-- The steps inside a scope, if there is one. -/
def within (scope : Option Scope) (body : List (Step α)) : List (Step α) :=
  match scope with
  | none => body
  | some s => [.enter s body]

mutual

/-- The results of a step in the scope that it sees. It is one, except that what follows from a
scope that is kept has the results of its own steps. -/
def eval (f : Option Scope → α → β) (scope : Option Scope) : Step α → List (StepResult β)
  | .act a => [.value (f scope a)]
  | .look next => evalList f scope (next scope)
  | .suspend => [.nothing]
  | .enter s body => [.list (evalList f (some s) body)]
  | .spawn body => [.list (evalList f none body)]
  | .spawnInside body => [.list (evalList f scope body)]
  | .spawnAll bodies => [.list (evalAll f bodies)]
  | .detach _ => [.nothing]

/-- The results of steps in the scope that they see. -/
def evalList (f : Option Scope → α → β) (scope : Option Scope) :
    List (Step α) → List (StepResult β)
  | [] => []
  | x :: r => eval f scope x ++ evalList f scope r

/-- The results of tasks that are started at once. -/
def evalAll (f : Option Scope → α → β) : List (List (Step α)) → List (StepResult β)
  | [] => []
  | b :: r => .list (evalList f none b) :: evalAll f r

end

end Step

end AccessGateway
