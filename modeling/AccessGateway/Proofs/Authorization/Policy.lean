import AccessGateway.Authorization.Policy
import AccessGateway.Proofs.Authorization.Action
import AccessGateway.Proofs.Outcome
import Mathlib.Data.Set.Card

/-
  What a compiled policy allows. `AuthorizationConfig.Grants` says what a configuration grants
  without compiling it: an entry of the user holds a role that is defined and writes the grant.
  `compile` follows it exactly (`mem_grants_of_compile`): the roles are read first, then every
  user entry gives the grants of its role. Nothing is lost to repetition and nothing is added, so
  the size of a policy is the number of grants (`encard_grants`).
-/

namespace AccessGateway

/-- A configuration grants a user an action on a type of resource: an entry of the user holds a
role that is defined and writes the grant. -/
def AuthorizationConfig.Grants (c : AuthorizationConfig) (g : Grant) : Prop :=
  ∃ u ∈ c.users, u.id = g.user ∧ ∃ name, u.role = some name ∧
    ∃ role, c.roles.get? name = some role ∧ g.resourceType ++ ":" ++ g.action ∈ role.actions

namespace Policy

/-! ## Roles -/

theorem roleActions_eq_ok_iff {name : String} {texts : List String} {actions : List RoleAction} :
    roleActions name texts = .ok actions ↔
      texts = actions.map RoleAction.render ∧ ∀ a ∈ actions, a.WellFormed := by
  induction texts generalizing actions with
  | nil => cases actions <;> simp [roleActions]
  | cons s r ih =>
    unfold roleActions
    constructor
    · intro h
      split at h
      · cases h
      · next a ha =>
        obtain ⟨as, hr, rfl⟩ := Outcome.map_eq_ok_iff.1 h
        obtain ⟨hs, hwf⟩ := RoleAction.parse_eq_ok_iff.1 ha
        obtain ⟨htexts, hall⟩ := ih.1 hr
        refine ⟨by rw [List.map_cons, ← hs, ← htexts], ?_⟩
        exact List.forall_mem_cons.2 ⟨hwf, hall⟩
    · rintro ⟨htexts, hall⟩
      cases actions with
      | nil => simp at htexts
      | cons a as =>
        obtain ⟨hs, hr⟩ := List.cons.inj htexts
        obtain ⟨hwf, hall⟩ := List.forall_mem_cons.1 hall
        rw [RoleAction.parse_eq_ok_iff.2 ⟨hs, hwf⟩, ih.2 ⟨hr, hall⟩]
        rfl

/-- An action is read from a role exactly if the role writes it. -/
theorem mem_roleActions {name t a : String} {texts : List String} {actions : List RoleAction}
    (h : roleActions name texts = .ok actions) :
    (⟨t, a⟩ : RoleAction) ∈ actions ↔ t ++ ":" ++ a ∈ texts := by
  obtain ⟨rfl, hwf⟩ := roleActions_eq_ok_iff.1 h
  constructor
  · exact List.mem_map_of_mem
  · intro hm
    obtain ⟨x, hx, htext⟩ := List.mem_map.1 hm
    have hparse : RoleAction.parse (t ++ ":" ++ a) = .ok x :=
      RoleAction.parse_eq_ok_iff.2 ⟨htext.symm, hwf x hx⟩
    rwa [← RoleAction.eq_of_parse_parts hparse]

theorem get?_roleTable {roles : List (String × Role)} {table : List (String × List RoleAction)}
    (h : roleTable roles = .ok table) (name : String) (actions : List RoleAction) :
    Entries.get? name table = some actions ↔
      ∃ role, Entries.get? name roles = some role ∧ roleActions name role.actions = .ok actions := by
  induction roles generalizing table with
  | nil =>
    obtain rfl := Except.ok.inj h
    simp [Entries.get?]
  | cons e r ih =>
    unfold roleTable at h
    split at h
    · cases h
    · next as has =>
      obtain ⟨rest, hrest, rfl⟩ := Outcome.map_eq_ok_iff.1 h
      by_cases hname : name = e.1
      · subst hname
        simp [Entries.get?, has]
      · simp only [Entries.get?, if_neg hname]
        exact ih hrest

/-- Every role of a table that is read has its actions read. -/
theorem roleActions_of_get? {roles : List (String × Role)}
    {table : List (String × List RoleAction)} {name : String} {role : Role}
    (h : roleTable roles = .ok table) (hrole : Entries.get? name roles = some role) :
    ∃ actions, roleActions name role.actions = .ok actions := by
  induction roles generalizing table with
  | nil => cases hrole
  | cons e r ih =>
    unfold roleTable at h
    split at h
    · cases h
    · next as has =>
      obtain ⟨rest, hrest, -⟩ := Outcome.map_eq_ok_iff.1 h
      by_cases hname : name = e.1
      · subst hname
        simp only [Entries.get?, if_true, Option.some.injEq] at hrole
        exact ⟨as, hrole ▸ has⟩
      · simp only [Entries.get?, if_neg hname] at hrole
        exact ih hrest hrole

/-! ## Users -/

theorem mem_userGrants {table : List (String × List RoleAction)} {users : List UserEntry}
    {grants : List Grant} (h : userGrants table users = .ok grants) (g : Grant) :
    g ∈ grants ↔ ∃ u ∈ users, u.id = g.user ∧ ∃ name, u.role = some name ∧
      ∃ actions, Entries.get? name table = some actions ∧
        (⟨g.resourceType, g.action⟩ : RoleAction) ∈ actions := by
  induction users generalizing grants with
  | nil =>
    obtain rfl := Except.ok.inj h
    simp
  | cons u r ih =>
    rw [List.exists_mem_cons_iff]
    unfold userGrants at h
    split at h
    · next hrole =>
      rw [ih h]
      simp [hrole]
    · next name hrole =>
      split at h
      · cases h
      · next actions hactions =>
        obtain ⟨rest, hrest, rfl⟩ := Outcome.map_eq_ok_iff.1 h
        rw [List.mem_append, ih hrest]
        refine or_congr_left ?_
        simp only [hrole, Option.some.injEq, exists_eq_left', hactions, List.mem_map]
        constructor
        · rintro ⟨a, ha, rfl⟩
          exact ⟨rfl, ha⟩
        · rintro ⟨hid, ha⟩
          exact ⟨_, ha, by rw [hid]⟩

/-- The grants of two lists of users are those of the first and then those of the second. -/
theorem userGrants_append (table : List (String × List RoleAction)) (us vs : List UserEntry) :
    userGrants table (us ++ vs) =
      match userGrants table us with
      | .error e => .error e
      | .ok gs => (userGrants table vs).map (gs ++ ·) := by
  induction us with
  | nil => cases h : userGrants table vs <;> simp [userGrants, h, Except.map]
  | cons u r ih =>
    simp only [List.cons_append, userGrants]
    split
    · exact ih
    · split
      · rfl
      · rw [ih]
        cases userGrants table r with
        | error e => rfl
        | ok gs => cases userGrants table vs <;> simp [Except.map]

/-! ## Policies -/

theorem compile_eq_ok_iff {c : AuthorizationConfig} {p : Policy} :
    compile c = .ok p ↔ ∃ table grants, roleTable c.roles.entries = .ok table ∧
      userGrants table c.users = .ok grants ∧ ofGrants grants = p := by
  unfold compile
  constructor
  · intro h
    split at h
    · cases h
    · next table htable =>
      obtain ⟨grants, hgrants, hp⟩ := Outcome.map_eq_ok_iff.1 h
      exact ⟨table, grants, htable, hgrants, hp⟩
  · rintro ⟨table, grants, htable, hgrants, hp⟩
    rw [htable]
    exact Outcome.map_eq_ok_iff.2 ⟨grants, hgrants, hp⟩

theorem mem_ofGrants {g : Grant} {gs : List Grant} : g ∈ (ofGrants gs).grants ↔ g ∈ gs :=
  mem_dropRepeats

theorem mem_grants_of_compile {c : AuthorizationConfig} {p : Policy} (h : compile c = .ok p)
    (g : Grant) : g ∈ p.grants ↔ c.Grants g := by
  obtain ⟨table, grants, htable, hgrants, rfl⟩ := compile_eq_ok_iff.1 h
  rw [mem_ofGrants, mem_userGrants hgrants]
  refine exists_congr fun u => and_congr_right fun _ => and_congr_right fun _ =>
    exists_congr fun name => and_congr_right fun _ => ?_
  constructor
  · rintro ⟨actions, hget, hmem⟩
    obtain ⟨role, hrole, hactions⟩ := (get?_roleTable htable name actions).1 hget
    exact ⟨role, hrole, (mem_roleActions hactions).1 hmem⟩
  · rintro ⟨role, hrole, hmem⟩
    obtain ⟨actions, hactions⟩ := roleActions_of_get? htable hrole
    exact ⟨actions, (get?_roleTable htable name actions).2 ⟨role, hrole, hactions⟩,
      (mem_roleActions hactions).2 hmem⟩

theorem allows_iff_mem (p : Policy) (q : AuthorizationContext) :
    p.allows q = true ↔ q.grant ∈ p.grants := by
  simp [allows]

/-- The grants of a policy are counted without repetition. -/
theorem encard_grants (p : Policy) : {g | g ∈ p.grants}.encard = p.size := by
  rw [← List.coe_toFinset, Set.encard_coe_eq_coe_finsetCard,
    List.toFinset_card_of_nodup p.distinct]
  rfl

/-- Users that are compiled apart are allowed together what they are allowed as one list. -/
theorem allows_append {c : AuthorizationConfig} {p : Policy} {us vs : List UserEntry}
    (h : compile c = .ok p) (husers : c.users = us ++ vs) :
    ∃ p₁ p₂, compile { c with users := us } = .ok p₁ ∧ compile { c with users := vs } = .ok p₂ ∧
      ∀ q, p.allows q = (p₁.allows q || p₂.allows q) := by
  obtain ⟨table, grants, htable, hgrants, rfl⟩ := compile_eq_ok_iff.1 h
  rw [husers, userGrants_append] at hgrants
  split at hgrants
  · cases hgrants
  · next gs hgs =>
    obtain ⟨hs, hhs, rfl⟩ := Outcome.map_eq_ok_iff.1 hgrants
    refine ⟨ofGrants gs, ofGrants hs, ?_, ?_, ?_⟩
    · exact compile_eq_ok_iff.2 ⟨table, gs, htable, hgs, rfl⟩
    · exact compile_eq_ok_iff.2 ⟨table, hs, htable, hhs, rfl⟩
    · intro q
      simp only [allows, mem_ofGrants, List.mem_append, Bool.decide_or]

/-- A compiled policy allows exactly what its configuration grants, and its size is the number of
grants. -/
theorem compile_grants_exactly {c : AuthorizationConfig} {p : Policy} (h : compile c = .ok p) :
    (∀ q : AuthorizationContext, p.allows q = true ↔
      ∃ u ∈ c.users, u.id = q.user ∧ ∃ name, u.role = some name ∧
        ∃ role, c.roles.get? name = some role ∧
          q.resource.type ++ ":" ++ q.action ∈ role.actions) ∧
    (∀ (q : AuthorizationContext) (id : Option String),
      p.allows { q with resource := { q.resource with id := id } } = p.allows q) ∧
    (∀ us vs, c.users = us ++ vs → ∃ p₁ p₂,
      compile { c with users := us } = .ok p₁ ∧ compile { c with users := vs } = .ok p₂ ∧
        ∀ q, p.allows q = (p₁.allows q || p₂.allows q)) ∧
    {g : Grant | c.Grants g}.encard = p.size := by
  refine ⟨?_, fun _ _ => rfl, fun us vs => allows_append h, ?_⟩
  · intro q
    rw [allows_iff_mem]
    exact mem_grants_of_compile h q.grant
  · rw [← encard_grants]
    exact congrArg Set.encard (Set.ext fun g => (mem_grants_of_compile h g).symm)

/-- A role that is shared and repeats itself, a user in two entries, and a user without a role. -/
def twoRoles : AuthorizationConfig where
  users := [⟨"ann", some "reader", []⟩, ⟨"ben", none, []⟩, ⟨"ann", some "writer", []⟩,
    ⟨"cid", some "reader", []⟩]
  roles := Table.ofList [("writer", ⟨["collection:add", "db:list"]⟩),
    ("reader", ⟨["db:list", "db:list"]⟩)]

theorem compile_grants_exactly_twoRoles : ∃ p, compile twoRoles = .ok p ∧
    p.allows ⟨"ann", ⟨"db", some "main"⟩, "list"⟩ = true ∧
    p.allows ⟨"ann", ⟨"collection", none⟩, "add"⟩ = true ∧
    p.allows ⟨"ben", ⟨"db", some "main"⟩, "list"⟩ = false ∧
    {g : Grant | twoRoles.Grants g}.encard = p.size := by
  obtain ⟨p, hp⟩ := Outcome.exists_of_isOk (x := compile twoRoles) (by decide)
  obtain ⟨hallows, -, -, hsize⟩ := compile_grants_exactly hp
  refine ⟨p, hp, (hallows _).2 ?_, (hallows _).2 ?_, ?_, hsize⟩
  · exact ⟨⟨"ann", some "reader", []⟩, by simp [twoRoles], rfl, "reader", rfl,
      ⟨["db:list", "db:list"]⟩, by decide, by decide⟩
  · exact ⟨⟨"ann", some "writer", []⟩, by simp [twoRoles], rfl, "writer", rfl,
      ⟨["collection:add", "db:list"]⟩, by decide, by decide⟩
  · rw [Bool.eq_false_iff]
    intro h
    obtain ⟨u, hu, hid, name, hrole, -⟩ := (hallows _).1 h
    simp only [twoRoles, List.mem_cons, List.not_mem_nil, or_false] at hu
    rcases hu with rfl | rfl | rfl | rfl <;> simp at hid hrole

end Policy

end AccessGateway
