import AccessGateway.Proofs.Authorization.Policy

/-
  Which configurations are no policy, and what is said of them. Compiling goes through the roles in
  the order of their names and then through the users in the order of the list, and the first fault
  ends it (`roleTable_eq_error_iff`, `userGrants_eq_error_iff`). So a malformed action of any role,
  held or not, is told rather than an unknown role of a user (`compile_refuses_exactly`).
-/

namespace AccessGateway

namespace AuthorizationConfig

/-- Some role writes a text that is no action. -/
def HasMalformed (c : AuthorizationConfig) : Prop :=
  ∃ name role, c.roles.get? name = some role ∧ ∃ text ∈ role.actions, ¬ RoleAction.IsWritten text

/-- Some user holds a role that is not defined. -/
def HasUnknown (c : AuthorizationConfig) : Prop :=
  ∃ u ∈ c.users, ∃ name, u.role = some name ∧ name ∉ c.roles.keys

/-- The first text that is no action of the first role, in the order of the names, that writes
one. -/
structure FirstMalformed (c : AuthorizationConfig) (name text : String) : Prop where
  malformed : ¬ RoleAction.IsWritten text
  here : ∃ role front back, c.roles.get? name = some role ∧ role.actions = front ++ text :: back ∧
    ∀ s ∈ front, RoleAction.IsWritten s
  below : ∀ other role, c.roles.get? other = some role → other < name →
    ∀ s ∈ role.actions, RoleAction.IsWritten s

/-- The first user of the list that holds a role which is not defined, and that role. -/
structure FirstUnknown (c : AuthorizationConfig) (user name : String) : Prop where
  unknown : name ∉ c.roles.keys
  here : ∃ front u back, c.users = front ++ u :: back ∧ u.id = user ∧ u.role = some name ∧
    ∀ w ∈ front, ∀ role, w.role = some role → role ∈ c.roles.keys

end AuthorizationConfig

namespace Policy

variable {c : AuthorizationConfig} {e : PolicyError}

/-! ## Roles -/

/-- The action of one text of a role. -/
def textAction (name text : String) : Except PolicyError RoleAction :=
  match RoleAction.parse text with
  | .error refusal => .error (.malformedAction name refusal.text)
  | .ok a => .ok a

theorem exists_textAction_iff {name text : String} :
    (∃ a, textAction name text = .ok a) ↔ RoleAction.IsWritten text := by
  rw [← RoleAction.exists_parse_iff, textAction]
  cases RoleAction.parse text <;> simp

theorem textAction_eq_error_iff {name text : String} :
    textAction name text = .error e ↔
      ¬ RoleAction.IsWritten text ∧ e = .malformedAction name text := by
  rw [← RoleAction.exists_parse_iff, textAction]
  cases hparse : RoleAction.parse text with
  | error refusal => simp [RoleAction.text_of_error hparse, eq_comm]
  | ok a => simp

theorem through_roleActions (name : String) :
    Outcome.Through (roleActions name) (textAction name) List.cons where
  nil := ⟨[], rfl⟩
  cons text r := by
    rw [roleActions, textAction]
    cases RoleAction.parse text <;> rfl

theorem exists_roleActions_iff {name : String} {texts : List String} :
    (∃ actions, roleActions name texts = .ok actions) ↔
      ∀ text ∈ texts, RoleAction.IsWritten text := by
  simp only [(through_roleActions name).exists_eq_ok_iff, exists_textAction_iff]

theorem through_roleTable : Outcome.Through roleTable
    (fun x => (roleActions x.1 x.2.actions).map fun actions => (x.1, actions)) List.cons where
  nil := ⟨[], rfl⟩
  cons x r := by
    rw [roleTable]
    cases roleActions x.1 x.2.actions <;> rfl

theorem exists_roleTable_iff :
    (∃ table, roleTable c.roles.entries = .ok table) ↔ ¬ c.HasMalformed := by
  simp only [through_roleTable.exists_eq_ok_iff, Outcome.exists_map_eq_ok_iff,
    exists_roleActions_iff, AuthorizationConfig.HasMalformed, Table.get?_eq_some_iff, not_exists,
    not_and, not_not, Prod.forall]

/-- Of the roles, the first malformed text of the first that has one is told. -/
theorem roleTable_eq_error_iff :
    roleTable c.roles.entries = .error e ↔
      ∃ name text, c.FirstMalformed name text ∧ e = .malformedAction name text := by
  simp only [through_roleTable.eq_error_iff, Outcome.map_eq_error_iff,
    Outcome.exists_map_eq_ok_iff, exists_roleActions_iff]
  constructor
  · rintro ⟨front, ⟨name, role⟩, back, hentries, hfront, hrole⟩
    obtain ⟨before, text, after, hactions, hbefore, htext⟩ :=
      (through_roleActions name).eq_error_iff.1 hrole
    obtain ⟨hmalformed, rfl⟩ := textAction_eq_error_iff.1 htext
    have hget : c.roles.get? name = some role := by
      rw [Table.get?_eq_some_iff, hentries]
      exact List.mem_append_right _ List.mem_cons_self
    refine ⟨name, text, ⟨hmalformed, ⟨role, before, after, hget, hactions, fun s hs =>
      exists_textAction_iff.1 (hbefore s hs)⟩, fun other r hother hlt => ?_⟩, rfl⟩
    exact hfront (other, r) ((Table.mem_front_iff hentries).2 ⟨hother, hlt⟩)
  · rintro ⟨name, text, ⟨hmalformed, ⟨role, before, after, hget, hactions, hbefore⟩, hbelow⟩, rfl⟩
    obtain ⟨front, back, hentries⟩ := List.append_of_mem (Table.get?_eq_some_iff.1 hget)
    refine ⟨front, (name, role), back, hentries, fun y hy => ?_, ?_⟩
    · obtain ⟨hother, hlt⟩ := (Table.mem_front_iff hentries).1 hy
      exact hbelow y.1 y.2 hother hlt
    · rw [(through_roleActions name).eq_error_iff]
      exact ⟨before, text, after, hactions, fun s hs => exists_textAction_iff.2 (hbefore s hs),
        textAction_eq_error_iff.2 ⟨hmalformed, rfl⟩⟩

/-- The roles that are read are those that are defined. -/
theorem names_roleTable {roles : List (String × Role)} {table : List (String × List RoleAction)}
    (h : roleTable roles = .ok table) : Entries.names table = Entries.names roles := by
  induction roles generalizing table with
  | nil =>
    obtain rfl := Except.ok.inj h
    rfl
  | cons x r ih =>
    unfold roleTable at h
    split at h
    · cases h
    · obtain ⟨rest, hrest, rfl⟩ := Outcome.map_eq_ok_iff.1 h
      exact congrArg (x.1 :: ·) (ih hrest)

/-! ## Users -/

section Users

variable {table : List (String × List RoleAction)} {u : UserEntry}

/-- What one user is granted. -/
def entryGrants (table : List (String × List RoleAction)) (u : UserEntry) :
    Except PolicyError (List Grant) :=
  match u.role with
  | none => .ok []
  | some role =>
    match Entries.get? role table with
    | none => .error (.unknownRole u.id role)
    | some actions => .ok (actions.map fun a => ⟨u.id, a.resourceType, a.action⟩)

theorem exists_entryGrants_iff :
    (∃ grants, entryGrants table u = .ok grants) ↔
      ∀ role, u.role = some role → role ∈ Entries.names table := by
  unfold entryGrants
  cases u.role with
  | none => simp
  | some role =>
    simp only [← Entries.get?_isSome_iff, Option.some.injEq, forall_eq']
    cases Entries.get? role table <;> simp

theorem entryGrants_eq_error_iff :
    entryGrants table u = .error e ↔
      ∃ role, u.role = some role ∧ role ∉ Entries.names table ∧ e = .unknownRole u.id role := by
  unfold entryGrants
  cases u.role with
  | none => simp
  | some role =>
    simp only [← Entries.get?_eq_none_iff, Option.some.injEq, exists_eq_left']
    cases Entries.get? role table <;> simp [eq_comm]

theorem through_userGrants (table : List (String × List RoleAction)) :
    Outcome.Through (userGrants table) (entryGrants table) (· ++ ·) where
  nil := ⟨[], rfl⟩
  cons u r := by
    rw [userGrants, entryGrants]
    cases u.role with
    | none => cases userGrants table r <;> rfl
    | some role =>
      dsimp only
      cases Entries.get? role table <;> rfl

theorem exists_userGrants_iff (h : roleTable c.roles.entries = .ok table) :
    (∃ grants, userGrants table c.users = .ok grants) ↔ ¬ c.HasUnknown := by
  have hnames : Entries.names table = c.roles.keys := names_roleTable h
  simp only [(through_userGrants table).exists_eq_ok_iff, exists_entryGrants_iff, hnames,
    AuthorizationConfig.HasUnknown, not_exists, not_and, not_not]

/-- Of the users, the first that holds a role which is not defined is told, with the role. -/
theorem userGrants_eq_error_iff (h : roleTable c.roles.entries = .ok table) :
    userGrants table c.users = .error e ↔
      ∃ user name, c.FirstUnknown user name ∧ e = .unknownRole user name := by
  have hnames : Entries.names table = c.roles.keys := names_roleTable h
  simp only [(through_userGrants table).eq_error_iff, exists_entryGrants_iff,
    entryGrants_eq_error_iff, hnames]
  constructor
  · rintro ⟨front, u, back, husers, hfront, name, hrole, hunknown, rfl⟩
    exact ⟨u.id, name, ⟨hunknown, front, u, back, husers, rfl, hrole, hfront⟩, rfl⟩
  · rintro ⟨-, name, ⟨hunknown, front, u, back, husers, rfl, hrole, hfront⟩, rfl⟩
    exact ⟨front, u, back, husers, hfront, name, hrole, hunknown, rfl⟩

end Users

/-! ## Configurations -/

theorem compile_eq_error_iff :
    compile c = .error e ↔
      (∃ name text, c.FirstMalformed name text ∧ e = .malformedAction name text) ∨
      (¬ c.HasMalformed ∧ ∃ user name, c.FirstUnknown user name ∧ e = .unknownRole user name) := by
  unfold compile
  cases hroles : roleTable c.roles.entries with
  | error fault =>
    have hmalformed : c.HasMalformed := by
      by_contra hnone
      obtain ⟨table, htable⟩ := exists_roleTable_iff.2 hnone
      rw [hroles] at htable
      cases htable
    rw [← roleTable_eq_error_iff, hroles]
    simp [hmalformed]
  | ok table =>
    have hnone : ¬ c.HasMalformed := exists_roleTable_iff.1 ⟨table, hroles⟩
    rw [← roleTable_eq_error_iff, ← userGrants_eq_error_iff hroles, hroles]
    simp [hnone, Outcome.map_eq_error_iff]

theorem exists_compile_eq_ok_iff :
    (∃ p, compile c = .ok p) ↔ ¬ c.HasMalformed ∧ ¬ c.HasUnknown := by
  rw [← exists_roleTable_iff]
  unfold compile
  cases hroles : roleTable c.roles.entries with
  | error fault => simp
  | ok table => simp [Outcome.exists_map_eq_ok_iff, exists_userGrants_iff hroles]

/-- A configuration is no policy exactly if some role, held or not, writes a text that is no action,
or some user holds a role that is not defined. If both are so the malformed action is told. What is
told is the first malformed text of the first role with one in the order of the names, or if there
is none the first user of the list with an undefined role, and that role. -/
theorem compile_refuses_exactly (c : AuthorizationConfig) :
    ((∃ e, compile c = .error e) ↔ c.HasMalformed ∨ c.HasUnknown) ∧
    ((∃ name text, compile c = .error (.malformedAction name text)) ↔ c.HasMalformed) ∧
    (∀ name text, compile c = .error (.malformedAction name text) ↔ c.FirstMalformed name text) ∧
    ∀ user name, compile c = .error (.unknownRole user name) ↔
      ¬ c.HasMalformed ∧ c.FirstUnknown user name := by
  have hfirst : ∀ name text,
      compile c = .error (.malformedAction name text) ↔ c.FirstMalformed name text := by
    intro name text
    rw [compile_eq_error_iff]
    simp
  have hunknown : ∀ user name, compile c = .error (.unknownRole user name) ↔
      ¬ c.HasMalformed ∧ c.FirstUnknown user name := by
    intro user name
    rw [compile_eq_error_iff]
    simp
  refine ⟨?_, ?_, hfirst, hunknown⟩
  · rw [← not_iff_not, not_or, ← exists_compile_eq_ok_iff]
    cases compile c <;> simp
  · constructor
    · rintro ⟨name, text, h⟩
      obtain ⟨hmalformed, ⟨role, front, back, hget, hactions, -⟩, -⟩ := (hfirst name text).1 h
      refine ⟨name, role, hget, text, ?_, hmalformed⟩
      rw [hactions]
      exact List.mem_append_right _ List.mem_cons_self
    · intro h
      cases hc : compile c with
      | ok p => exact absurd h (exists_compile_eq_ok_iff.1 ⟨p, hc⟩).1
      | error e =>
        cases e with
        | malformedAction name text => exact ⟨name, text, rfl⟩
        | unknownRole user name => exact absurd h ((hunknown user name).1 hc).1

end Policy

end AccessGateway
