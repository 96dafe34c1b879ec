import AccessGateway.Authorization.Program

/-
  How tasks take turns. Workers give turns to tasks, and each worker has one slot for the scope that
  is current, which all the tasks share that it turns to. When a task that is inside a scope gets a
  turn, its scope is put into the slot, and when the turn ends the slot is given back as it was.
  `TaskMachine.poll` gives one task one turn by one worker, and any list of turns is a schedule;
  `TaskMachine.finish` gives turns in rounds until the program is done.
-/

namespace AccessGateway

/-- The tasks whose results a task waits for. -/
inductive Awaited where
  /-- All the results of one task. -/
  | whole (task : Nat)
  /-- The only result of one task. -/
  | only (task : Nat)
  /-- All the results of each of several tasks. -/
  | each (tasks : List Nat)
deriving DecidableEq, Repr

/-- What is left of a part of a program: the results so far, and the steps to come behind what
the task is at. -/
inductive Work (α β : Type) where
  | running (done : List (StepResult β)) (rest : List (Step α))
  /-- A part inside a scope is at work. -/
  | inside (s : Scope) (inner : Work α β) (done : List (StepResult β)) (rest : List (Step α))
  | waiting (w : Awaited) (done : List (StepResult β)) (rest : List (Step α))
deriving Inhabited

/-- What a turn leaves: the slot, the work, and the programs of new tasks. -/
structure Turn (α β : Type) where
  slot : Option Scope
  work : Work α β
  started : List (List (Step α))

/-- Tasks, and the slots of the workers. -/
structure TaskMachine (α β : Type) where
  slots : Nat → Option Scope
  tasks : List (Work α β)

variable {α β : Type}

/-- The results of all of several tasks, if they are finished. -/
def Awaited.all? (finished : Nat → Option (List (StepResult β))) :
    List Nat → Option (List (StepResult β))
  | [] => some []
  | i :: r => do
    let rs ← finished i
    let rest ← all? finished r
    some (.list rs :: rest)

/-- The result that a task waits for, if it is there. -/
def Awaited.result? (finished : Nat → Option (List (StepResult β))) :
    Awaited → Option (StepResult β)
  | .whole i => (finished i).map .list
  | .only i => (finished i).bind List.head?
  | .each is => (Awaited.all? finished is).map .list

namespace Work

/-- The results of work that is finished. -/
def results? : Work α β → Option (List (StepResult β))
  | running done [] => some done
  | _ => none

/-- Work that goes on behind a part inside a scope: the part becomes one result when it is
finished. -/
def leave (s : Scope) (inner : Work α β) (done : List (StepResult β)) (rest : List (Step α)) :
    Work α β :=
  match inner.results? with
  | some rs => running (done ++ [.list rs]) rest
  | none => inside s inner done rest

/-- One turn of a task, given the results of finished tasks and the number of the next new
one. -/
def poll (f : Option Scope → α → β) (finished : Nat → Option (List (StepResult β))) (next : Nat)
    (slot : Option Scope) : Work α β → Turn α β
  | running done [] => ⟨slot, running done [], []⟩
  | running done (.act a :: rest) => ⟨slot, running (done ++ [.value (f slot a)]) rest, []⟩
  | running done (.look next :: rest) => ⟨slot, running done (next slot ++ rest), []⟩
  | running done (.suspend :: rest) => ⟨slot, running (done ++ [.nothing]) rest, []⟩
  | running done (.enter s body :: rest) => ⟨slot, inside s (running [] body) done rest, []⟩
  | running done (.spawn body :: rest) => ⟨slot, waiting (.whole next) done rest, [body]⟩
  | running done (.spawnInside body :: rest) =>
    let w := if slot.isSome then Awaited.only next else .whole next
    ⟨slot, waiting w done rest, [Step.within slot body]⟩
  | running done (.spawnAll bodies :: rest) =>
    ⟨slot, waiting (.each (List.range' next bodies.length)) done rest, bodies⟩
  | running done (.detach body :: rest) => ⟨slot, running (done ++ [.nothing]) rest, [body]⟩
  | inside s inner done rest =>
    let turn := inner.poll f finished next (some s)
    ⟨slot, leave s turn.work done rest, turn.started⟩
  | waiting w done rest =>
    match w.result? finished with
    | none => ⟨slot, waiting w done rest, []⟩
    | some r => ⟨slot, running (done ++ [r]) rest, []⟩

end Work

namespace TaskMachine

/-- Tasks that are about to run their programs. -/
def start (programs : List (List (Step α))) : TaskMachine α β :=
  ⟨fun _ => none, programs.map (.running [])⟩

/-- The results of a task, if it is finished. -/
def finished (m : TaskMachine α β) (i : Nat) : Option (List (StepResult β)) :=
  m.tasks[i]?.bind Work.results?

/-- Gives a task a turn by a worker. New tasks come behind the others. -/
def poll (f : Option Scope → α → β) (m : TaskMachine α β) (worker i : Nat) : TaskMachine α β :=
  match m.tasks[i]? with
  | none => m
  | some w =>
    let turn := w.poll f m.finished m.tasks.length (m.slots worker)
    ⟨fun k => if k = worker then turn.slot else m.slots k,
      m.tasks.set i turn.work ++ turn.started.map (.running [])⟩

/-- Gives turns in the order of a schedule, which names the worker and the task of each turn. -/
def run (f : Option Scope → α → β) (m : TaskMachine α β) (schedule : List (Nat × Nat)) :
    TaskMachine α β :=
  schedule.foldl (fun m x => m.poll f x.1 x.2) m

/-- Gives every task a turn by one worker. -/
def round (f : Option Scope → α → β) (m : TaskMachine α β) : TaskMachine α β :=
  m.run f ((List.range m.tasks.length).map fun i => (0, i))

/-- Gives turns in a number of rounds. -/
def rounds (f : Option Scope → α → β) : Nat → TaskMachine α β → TaskMachine α β
  | 0, m => m
  | n + 1, m => rounds f n (m.round f)

end TaskMachine

namespace Step

mutual

/-- The number of rounds that a step takes at most in the scope that it sees. -/
def cost (scope : Option Scope) : Step α → Nat
  | .act _ => 1
  | .look next => costs scope (next scope) + 1
  | .suspend => 1
  | .enter s body => costs (some s) body + 3
  | .spawn body => costs none body + 3
  | .spawnInside body => costs scope body + 6
  | .spawnAll bodies => costsOfAll bodies + 3
  | .detach body => costs none body + 2

/-- The number of rounds that steps take at most in the scope that they see. -/
def costs (scope : Option Scope) : List (Step α) → Nat
  | [] => 0
  | x :: r => cost scope x + costs scope r

/-- The number of rounds that programs take at most. -/
def costsOfAll : List (List (Step α)) → Nat
  | [] => 0
  | b :: r => costs none b + costsOfAll r

end

end Step

/-- The results of a program whose tasks take turns in rounds. -/
def TaskMachine.finish (f : Option Scope → α → β) (program : List (Step α)) :
    Option (List (StepResult β)) :=
  (rounds f (Step.costs none program) (start [program])).finished 0

end AccessGateway
