import Mathlib.Data.Finmap
import AccessGateway.Proofs.Collections.Call

/-
  The service as a finite map from names to lists of records. As long as the hooks are not noticed
  and every call is allowed, what a call answers is what the map answers (`Answered`) and what it
  leaves in the store is what the map becomes (`onHoldings`). `step` is one call, `after` a run of
  any length from the empty store. The records under a name can also be told from the answers
  alone: they are those that the successful adds brought since the collection was last created
  (`recordsSince`).
-/

namespace AccessGateway

/-- What the collections hold, by name. -/
abbrev Holdings := Finmap fun _ : String => List Json

/-- The store holds under every name what the map says. -/
def Holdings.Describes (m : Holdings) (s : Store) : Prop := ∀ n, s.get? n = m.lookup n

namespace Holdings.Describes

variable {m : Holdings} {s : Store}

theorem insert (h : m.Describes s) (name : String) (records : List Json) :
    Holdings.Describes (m.insert name records) (s.insert name records) := by
  intro n
  rw [Table.get?_insert]
  by_cases hn : n = name
  · rw [if_pos hn, hn, Finmap.lookup_insert]
  · rw [if_neg hn, Finmap.lookup_insert_of_ne _ hn]
    exact h n

theorem erase (h : m.Describes s) (name : String) :
    Holdings.Describes (m.erase name) (s.erase name) := by
  intro n
  rw [Table.get?_erase]
  by_cases hn : n = name
  · rw [if_pos hn, hn, Finmap.lookup_erase]
  · rw [if_neg hn, Finmap.lookup_erase_ne hn]
    exact h n

theorem mem_keys_iff (h : m.Describes s) (n : String) : n ∈ s.keys ↔ n ∈ m := by
  rw [← Table.contains_iff_mem_keys, ← Finmap.lookup_isSome, ← h n]
  rfl

end Holdings.Describes

/-- The six things that can be asked of the service. -/
inductive CollectionCommand where
  | list
  | create (name : String)
  | get (name : String)
  | delete (name : String)
  | add (name : String) (records : List Json)
  | count (name : String)

namespace CollectionCommand

/-- The call of the service. -/
def call : CollectionCommand → CollectionCall
  | list => .list
  | create name => .on .create name
  | get name => .on .get name
  | delete name => .on .delete name
  | add name records => .add name records
  | count name => .on .count name

/-- A command that its guard lets run: outside any scope, or in one whose provider says yes. -/
def AllowedIn (c : CollectionCommand) (scope : Option Scope) : Prop :=
  ∀ x, scope = some x → x.provider (c.call.operation.guard.question x c.call.args) = .ok true

/-- What a command makes of the map. -/
def onHoldings (m : Holdings) : CollectionCommand → Holdings
  | create name =>
    match m.lookup name with
    | none => m.insert name []
    | some _ => m
  | delete name =>
    match m.lookup name with
    | none => m
    | some _ => m.erase name
  | add name records =>
    match m.lookup name with
    | none => m
    | some old => m.insert name (old ++ records)
  | _ => m

/-- The result is the one that the map has for a command. -/
def Answered (m : Holdings) : CollectionCommand → Except ServiceError Json → Prop
  | list, r => ∃ names : List String, r = .ok (Json.ofTexts names) ∧
      names.Pairwise (fun a b => a < b) ∧ ∀ n, n ∈ names ↔ n ∈ m
  | create name, r =>
    match m.lookup name with
    | none => r = .ok (.object [("database", .text defaultDatabase), ("name", .text name)])
    | some _ => r = .error (.store (.alreadyExists name))
  | get name, r =>
    match m.lookup name with
    | none => r = .error (.store (.notFound name))
    | some records => r = .ok (.object [("count", Json.ofNat records.length),
        ("database", .text defaultDatabase), ("name", .text name)])
  | delete name, r =>
    match m.lookup name with
    | none => r = .error (.store (.notFound name))
    | some _ => r = .ok (.object [("deleted", .text name)])
  | add name records, r =>
    match m.lookup name with
    | none => r = .error (.store (.notFound name))
    | some _ => r = .ok (.object [("added", Json.ofNat records.length)])
  | count name, r =>
    match m.lookup name with
    | none => r = .error (.store (.notFound name))
    | some records => r = .ok (Json.ofNat records.length)

/-! ## One command -/

variable {c : CollectionCommand} {m : Holdings} {s : Store} {hooks : CollectionHooks}
  {scope : Option Scope}

/-- On a store that the map describes, a command answers what the map answers and leaves a store
that the map describes again. -/
theorem answered_apply (h : m.Describes s) (c : CollectionCommand) :
    c.Answered m ((s.apply c.call.operation c.call.args).1.mapError .store) ∧
      (c.onHoldings m).Describes (s.apply c.call.operation c.call.args).2 := by
  cases c with
  | list => exact ⟨⟨s.keys, rfl, s.keys_ascending, h.mem_keys_iff⟩, h⟩
  | create name =>
    simp only [Answered, onHoldings, call, CollectionCall.on, Store.apply_named]
    cases hn : m.lookup name with
    | none =>
      rw [Store.applyTo_of_none ((h name).trans hn)]
      exact ⟨rfl, h.insert name []⟩
    | some old =>
      rw [Store.applyTo_of_some ((h name).trans hn)]
      exact ⟨rfl, h⟩
  | get name | count name =>
    simp only [Answered, onHoldings, call, CollectionCall.on, Store.apply_named]
    cases hn : m.lookup name with
    | none =>
      rw [Store.applyTo_of_none ((h name).trans hn)]
      exact ⟨rfl, h⟩
    | some old =>
      rw [Store.applyTo_of_some ((h name).trans hn)]
      exact ⟨rfl, h⟩
  | delete name =>
    simp only [Answered, onHoldings, call, CollectionCall.on, Store.apply_named]
    cases hn : m.lookup name with
    | none =>
      rw [Store.applyTo_of_none ((h name).trans hn)]
      exact ⟨rfl, h⟩
    | some old =>
      rw [Store.applyTo_of_some ((h name).trans hn)]
      exact ⟨rfl, h.erase name⟩
  | add name records =>
    simp only [Answered, onHoldings, call, CollectionCall.add, Store.apply_named]
    cases hn : m.lookup name with
    | none =>
      rw [Store.applyTo_of_none ((h name).trans hn)]
      exact ⟨rfl, h⟩
    | some old =>
      rw [Store.applyTo_of_some ((h name).trans hn)]
      exact ⟨rfl, h.insert name (old ++ records)⟩

theorem run_call (hhooks : hooks.Unnoticed) (hc : c.AllowedIn scope) (s : Store) :
    (c.call.run hooks scope s).result =
        (s.apply c.call.operation c.call.args).1.mapError .store ∧
      (c.call.run hooks scope s).store = (s.apply c.call.operation c.call.args).2 := by
  refine CollectionCall.run_of_unnoticed hhooks ?_ s
  cases scope with
  | none => rfl
  | some x => exact (Guard.check_scope_eq_ok_iff _ x _).2 (hc x rfl)

end CollectionCommand

/-! ## Runs -/

/-- A command that was run, and its result. -/
abbrev Exchange := CollectionCommand × Except ServiceError Json

/-- The records that the successful adds to a collection brought since it was last created. The
latest exchange comes first. -/
def recordsSince (name : String) : List Exchange → List Json
  | [] => []
  | (.create n, .ok _) :: past => if n = name then [] else recordsSince name past
  | (.add n records, .ok _) :: past =>
    if n = name then recordsSince name past ++ records else recordsSince name past
  | _ :: past => recordsSince name past

/-- What the map holds are the records that the past tells of. -/
def Holdings.RecordedIn (m : Holdings) (past : List Exchange) : Prop :=
  ∀ name records, m.lookup name = some records → records = recordsSince name past

namespace Holdings.RecordedIn

variable {m : Holdings} {past past' : List Exchange} {name : String} {new : List Json}

/-- An exchange that puts records under a name and is of no other collection. -/
theorem insert (h : m.RecordedIn past) (hname : recordsSince name past' = new)
    (hother : ∀ n, n ≠ name → recordsSince n past' = recordsSince n past) :
    Holdings.RecordedIn (m.insert name new) past' := by
  intro n records hlookup
  by_cases hn : n = name
  · rw [hn, Finmap.lookup_insert] at hlookup
    rw [hn, hname]
    exact (Option.some.inj hlookup).symm
  · rw [Finmap.lookup_insert_of_ne _ hn] at hlookup
    rw [hother n hn]
    exact h n records hlookup

theorem erase (h : m.RecordedIn past) (name : String) :
    Holdings.RecordedIn (m.erase name) past := by
  intro n records hlookup
  by_cases hn : n = name
  · rw [hn, Finmap.lookup_erase] at hlookup
    cases hlookup
  · rw [Finmap.lookup_erase_ne hn] at hlookup
    exact h n records hlookup

/-- With the answer of the map to a command, the past tells of what the map becomes. -/
theorem onHoldings {c : CollectionCommand} {r : Except ServiceError Json}
    (h : m.RecordedIn past) (hr : c.Answered m r) :
    (c.onHoldings m).RecordedIn ((c, r) :: past) := by
  cases c with
  | list | get name | count name => exact h
  | create name =>
    simp only [CollectionCommand.Answered, CollectionCommand.onHoldings] at hr ⊢
    cases hname : m.lookup name with
    | none =>
      simp only [hname] at hr ⊢
      subst hr
      exact h.insert (by simp [recordsSince]) fun n hn => by simp [recordsSince, Ne.symm hn]
    | some old =>
      simp only [hname] at hr ⊢
      subst hr
      exact h
  | delete name =>
    simp only [CollectionCommand.onHoldings]
    cases m.lookup name with
    | none => exact h
    | some old => exact h.erase name
  | add name new =>
    simp only [CollectionCommand.Answered, CollectionCommand.onHoldings] at hr ⊢
    cases hname : m.lookup name with
    | none =>
      simp only [hname] at hr ⊢
      subst hr
      exact h
    | some old =>
      simp only [hname] at hr ⊢
      subst hr
      refine h.insert ?_ fun n hn => by simp [recordsSince, Ne.symm hn]
      simp [recordsSince, h name old hname]

end Holdings.RecordedIn

/-- A store and the exchanges that led to it, the latest first. -/
structure Session where
  store : Store
  past : List Exchange

namespace Session

/-- The session of a service that nobody has called. -/
def fresh : Session := ⟨Table.empty, []⟩

/-- The session after one more command. -/
def step (hooks : CollectionHooks) (s : Session) (x : CollectionCommand × Option Scope) : Session :=
  let r := x.1.call.run hooks x.2 s.store
  ⟨r.store, (x.1, r.result) :: s.past⟩

/-- The session after commands, each in its own scope or outside any. -/
def after (hooks : CollectionHooks) (commands : List (CollectionCommand × Option Scope)) :
    Session :=
  commands.foldl (step hooks) fresh

/-- The map describes the store, and the past tells of what it holds. -/
structure Follows (s : Session) (m : Holdings) : Prop where
  describes : m.Describes s.store
  recorded : m.RecordedIn s.past

variable {hooks : CollectionHooks} {s : Session} {m : Holdings}
  {x : CollectionCommand × Option Scope} {commands : List (CollectionCommand × Option Scope)}

theorem follows_fresh : fresh.Follows ∅ :=
  ⟨fun _ => rfl, fun _ _ h => nomatch h⟩

theorem Follows.step (h : s.Follows m) (hhooks : hooks.Unnoticed) (hx : x.1.AllowedIn x.2) :
    x.1.Answered m (x.1.call.run hooks x.2 s.store).result ∧
      (s.step hooks x).Follows (x.1.onHoldings m) := by
  obtain ⟨hresult, hstore⟩ := CollectionCommand.run_call hhooks hx s.store
  obtain ⟨hanswered, hdescribes⟩ := CollectionCommand.answered_apply h.describes x.1
  rw [← hresult] at hanswered
  rw [← hstore] at hdescribes
  exact ⟨hanswered, hdescribes, h.recorded.onHoldings hanswered⟩

theorem Follows.foldl_step (h : s.Follows m) (hhooks : hooks.Unnoticed)
    (hcommands : ∀ x ∈ commands, x.1.AllowedIn x.2) :
    (commands.foldl (Session.step hooks) s).Follows
      (commands.foldl (fun m x => x.1.onHoldings m) m) := by
  -- The session and the map move together, so the induction is over both.
  induction commands generalizing s m with
  | nil => exact h
  | cons x rest ih =>
    obtain ⟨hx, hrest⟩ := List.forall_mem_cons.1 hcommands
    exact ih (h.step hhooks hx).2 hrest

/-- The map that commands make of the empty one. -/
def holdingsAfter (commands : List (CollectionCommand × Option Scope)) : Holdings :=
  commands.foldl (fun m x => x.1.onHoldings m) ∅

/-- After any commands on a fresh service that were let run, with hooks that nobody notices, the
store holds what the map holds, which are the records of the successful adds since each collection
was last created. The next command that is let run answers what the map answers to it, leaves what
the map becomes, and leaves the collections of all other names as they were. -/
theorem answered_after (hhooks : hooks.Unnoticed) (hcommands : ∀ x ∈ commands, x.1.AllowedIn x.2)
    {c : CollectionCommand} {scope : Option Scope} (hc : c.AllowedIn scope) :
    let s := after hooks commands
    let m := holdingsAfter commands
    let r := c.call.run hooks scope s.store
    m.Describes s.store ∧ m.RecordedIn s.past ∧ c.Answered m r.result ∧
      (c.onHoldings m).Describes r.store ∧
      ∀ n, c.call.args.collection ≠ some n → r.store.get? n = s.store.get? n := by
  intro s m r
  have hfollows : s.Follows m := follows_fresh.foldl_step hhooks hcommands
  obtain ⟨hanswered, hnext⟩ := hfollows.step (x := (c, scope)) hhooks hc
  refine ⟨hfollows.describes, hfollows.recorded, hanswered, hnext.describes, fun n hn => ?_⟩
  have hstore : r.store = (s.store.apply c.call.operation c.call.args).2 :=
    (CollectionCommand.run_call hhooks hc s.store).2
  rw [hstore]
  exact Store.get?_apply_of_ne hn s.store c.call.operation

/-- A hook that panics after every operation. -/
def brokenHook : Hook CollectionArgs Json :=
  ⟨"broken", fun _ _ => .wanted, fun _ args => (args, .completed),
    fun _ _ result => (result, .panicked none)⟩

/-- A hook that only watches and a broken one, whose panics are passed over. -/
def watchers : CollectionHooks := ⟨[.observer "logging", brokenHook], .isolate⟩

/-- A scope in which everything is allowed. -/
def openScope : Scope := ⟨⟨"POST", "/api/v1/collections", none⟩, fun _ => .ok true⟩

/-- A collection is filled, deleted, made anew and filled again. -/
def recreation : List (CollectionCommand × Option Scope) :=
  [(.create "a", none), (.add "a" [.null, .null], none), (.create "b", some openScope),
    (.delete "a", some openScope), (.add "a" [.null], none), (.create "a", none),
    (.add "a" [.text "x"], some openScope), (.create "a", none)]

/-- The records from before the collection was deleted do not come back. -/
theorem answered_after_recreation :
    watchers.Unnoticed ∧ (∀ x ∈ recreation, x.1.AllowedIn x.2) ∧
      (CollectionCommand.count "a").AllowedIn (some openScope) ∧
      ((CollectionCommand.count "a").call.run watchers (some openScope)
        (after watchers recreation).store).result = .ok (Json.ofNat 1) := by
  have hhooks : watchers.Unnoticed := by
    intro h hmem operation
    refine ⟨?_, fun hpolicy => absurd hpolicy (by decide)⟩
    rw [watchers, List.mem_pair] at hmem
    rcases hmem with rfl | rfl
    · exact ⟨fun _ _ => rfl, fun _ _ _ => rfl⟩
    · exact ⟨fun _ _ => rfl, fun _ _ _ => rfl⟩
  have hopen : ∀ c : CollectionCommand, c.AllowedIn (some openScope) := by
    rintro c x ⟨⟩
    rfl
  have hscopes : ∀ x ∈ recreation, x.2 = none ∨ x.2 = some openScope := by simp [recreation]
  have hcommands : ∀ x ∈ recreation, x.1.AllowedIn x.2 := by
    intro x hx
    rcases hscopes x hx with hnone | hsome
    · rw [hnone]
      exact fun _ h => nomatch h
    · rw [hsome]
      exact hopen x.1
  have hheld : (holdingsAfter recreation).lookup "a" = some [.text "x"] := by rfl
  have hanswered := (answered_after hhooks hcommands (hopen (.count "a"))).2.2.1
  simp only [CollectionCommand.Answered, hheld] at hanswered
  exact ⟨hhooks, hcommands, hopen _, hanswered⟩

end Session

end AccessGateway
