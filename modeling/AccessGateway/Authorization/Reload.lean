import AccessGateway.Authorization.Policy
import AccessGateway.Authorization.Source

/-
  Policies that are loaded again while they are in use. An authorizer keeps the policy of the
  last load that both read and compiled; a load that fails changes nothing. A reload is a `load`
  and, if it succeeds, a `store` of the policy.
-/

namespace AccessGateway

/-- Why a policy was not loaded. -/
inductive LoadError where
  | configuration (e : ConfigurationError)
  | policy (e : PolicyError)
deriving DecidableEq, Repr

namespace LoadError

/-- The text of a load error. -/
def message : LoadError → String
  | configuration e => e.message
  | policy e => e.message

/-- The text of a load error and of the errors behind it. -/
def chain : LoadError → List String
  | configuration e => e.chain
  | policy e => e.chain

end LoadError

/-- Decides by the policy that is active. -/
structure Authorizer where
  active : Policy

namespace Authorizer

/-- The policy of what a source answered. -/
def load (answer : SourceAnswer) : Except LoadError Policy :=
  match answer with
  | .error e => .error (.configuration e)
  | .ok c =>
    match Policy.compile c with
    | .error e => .error (.policy e)
    | .ok p => .ok p

/-- The authorizer with the first policy. -/
def start (answer : SourceAnswer) : Except LoadError Authorizer := (load answer).map fun p => ⟨p⟩

/-- The authorizer with another policy. -/
def store (_ : Authorizer) (p : Policy) : Authorizer := ⟨p⟩

/-- Loads the policy again. Answers the number of its grants. -/
def reload (a : Authorizer) (answer : SourceAnswer) : Except LoadError Nat × Authorizer :=
  match load answer with
  | .error e => (.error e, a)
  | .ok p => (.ok p.size, a.store p)

/-- Whether the active policy allows a question. -/
def isAllowed (a : Authorizer) (c : AuthorizationContext) : Bool := a.active.allows c

end Authorizer

/-- Something done with an authorizer whose source changes. -/
inductive ReloadStep where
  | source (answer : SourceAnswer)
  | reload
  | snapshot
  | check (c : AuthorizationContext)
  | checkSnapshot (n : Nat) (c : AuthorizationContext)
  | size

/-- What a step answers. -/
inductive ReloadAnswer where
  | done
  | grants (n : Nat)
  | failed (e : LoadError)
  | number (n : Nat)
  | allowed (b : Bool)
  | noSnapshot

/-- An authorizer, what its source answers now, and the policies that were taken out of it. -/
structure ReloadState where
  source : SourceAnswer
  authorizer : Authorizer
  snapshots : List Policy

namespace ReloadState

/-- The state before the first step. -/
def start (source : SourceAnswer) : Except LoadError ReloadState :=
  (Authorizer.start source).map fun a => ⟨source, a, []⟩

/-- One step. -/
def step (s : ReloadState) : ReloadStep → ReloadAnswer × ReloadState
  | .source answer => (.done, { s with source := answer })
  | .reload =>
    let r := s.authorizer.reload s.source
    let answer :=
      match r.1 with
      | .ok n => ReloadAnswer.grants n
      | .error e => .failed e
    (answer, { s with authorizer := r.2 })
  | .snapshot =>
    (.number s.snapshots.length, { s with snapshots := s.snapshots ++ [s.authorizer.active] })
  | .check c => (.allowed (s.authorizer.isAllowed c), s)
  | .checkSnapshot n c =>
    match s.snapshots[n]? with
    | some p => (.allowed (p.allows c), s)
    | none => (.noSnapshot, s)
  | .size => (.number s.authorizer.active.size, s)

/-- The answers of steps done in order, and the state behind them. -/
def run (s : ReloadState) : List ReloadStep → List ReloadAnswer × ReloadState
  | [] => ([], s)
  | x :: r =>
    let y := s.step x
    let z := run y.2 r
    (y.1 :: z.1, z.2)

end ReloadState

end AccessGateway
