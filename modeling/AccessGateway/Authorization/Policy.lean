import AccessGateway.Authorization.Action
import AccessGateway.Authorization.Configuration

/-
  Compiled policies. A policy is a finite set of grants (user, resource type, action), and
  a question is allowed if its grant is in the set: there are no wildcards, and the id of the
  resource plays no part. `compile` looks at every role first, held or not, and at the users
  afterwards.
-/

namespace AccessGateway

/-- A user may do an action on resources of a type. -/
structure Grant where
  user : String
  resourceType : String
  action : String
deriving DecidableEq, Inhabited, Repr

/-- The grant that a question asks for. -/
def AuthorizationContext.grant (c : AuthorizationContext) : Grant :=
  ⟨c.user, c.resource.type, c.action⟩

/-- A set of grants. -/
structure Policy where
  grants : List Grant
  distinct : grants.Nodup

/-- Why a configuration is no policy. -/
inductive PolicyError where
  | malformedAction (role text : String)
  | unknownRole (user role : String)
deriving DecidableEq, Repr

namespace PolicyError

/-- The text of a policy error. -/
def message : PolicyError → String
  | malformedAction role text =>
    "role '" ++ role ++ "' grants malformed action: " ++ RoleAction.malformed text
  | unknownRole user role => "user '" ++ user ++ "' references unknown role '" ++ role ++ "'"

/-- The text of a policy error and of the errors behind it. -/
def chain : PolicyError → List String
  | malformedAction role text =>
    [(malformedAction role text).message, RoleAction.malformed text]
  | unknownRole user role => [(unknownRole user role).message]

end PolicyError

namespace Policy

/-- The list with each grant kept once, at its last place. -/
def dropRepeats : List Grant → List Grant
  | [] => []
  | g :: r => if g ∈ dropRepeats r then dropRepeats r else g :: dropRepeats r

theorem mem_dropRepeats {g : Grant} {gs : List Grant} : g ∈ dropRepeats gs ↔ g ∈ gs := by
  induction gs with
  | nil => rfl
  | cons h r ih =>
    simp only [dropRepeats]
    split
    · next hm =>
      rw [ih, List.mem_cons]
      constructor
      · exact Or.inr
      · rintro (rfl | h')
        · exact ih.1 hm
        · exact h'
    · rw [List.mem_cons, List.mem_cons, ih]

theorem nodup_dropRepeats (gs : List Grant) : (dropRepeats gs).Nodup := by
  induction gs with
  | nil => exact List.nodup_nil
  | cons g r ih =>
    simp only [dropRepeats]
    split
    · exact ih
    · next h => exact List.nodup_cons.2 ⟨h, ih⟩

/-- The policy of a list of grants. -/
def ofGrants (gs : List Grant) : Policy := ⟨dropRepeats gs, nodup_dropRepeats gs⟩

/-- The number of grants. -/
def size (p : Policy) : Nat := p.grants.length

/-- Whether nothing is granted. -/
def isEmpty (p : Policy) : Bool := p.grants.isEmpty

/-- Whether a question is allowed. -/
def allows (p : Policy) (c : AuthorizationContext) : Bool := decide (c.grant ∈ p.grants)

/-- The actions that a role writes. -/
def roleActions (role : String) : List String → Except PolicyError (List RoleAction)
  | [] => .ok []
  | s :: r =>
    match RoleAction.parse s with
    | .error e => .error (.malformedAction role e.text)
    | .ok a => (roleActions role r).map (a :: ·)

/-- The actions of every role. -/
def roleTable : List (String × Role) → Except PolicyError (List (String × List RoleAction))
  | [] => .ok []
  | (name, role) :: r =>
    match roleActions name role.actions with
    | .error e => .error e
    | .ok as => (roleTable r).map ((name, as) :: ·)

/-- What the users are granted through their roles. -/
def userGrants (roles : List (String × List RoleAction)) :
    List UserEntry → Except PolicyError (List Grant)
  | [] => .ok []
  | u :: r =>
    match u.role with
    | none => userGrants roles r
    | some role =>
      match Entries.get? role roles with
      | none => .error (.unknownRole u.id role)
      | some as =>
        (userGrants roles r).map (as.map (fun a => ⟨u.id, a.resourceType, a.action⟩) ++ ·)

/-- The policy of a configuration. -/
def compile (c : AuthorizationConfig) : Except PolicyError Policy :=
  match roleTable c.roles.entries with
  | .error e => .error e
  | .ok roles => (userGrants roles c.users).map ofGrants

end Policy

end AccessGateway
