import AccessGateway.Proofs.Collections.Call
import Mathlib.Logic.Function.Basic
import Mathlib.Data.List.Nodup

/-
  Calls of one service that are under way at the same time. A call takes four turns: its guard, the
  hooks before, the operation on the store under the lock, and the hooks behind it. Four turns in a
  row are a run of the call (`turns_eq_run`). Any list of calls is a schedule. The journal has the
  operations on the store in the order of time, and running the calls one after another in this
  order gives their results and the store (`Consistent.after`, `Store.Leads.serially`). What the
  operations do to one collection is read off the journal: it is created again only behind a
  deletion (`Store.Leads.deletes_between`), and until then it keeps what was added
  (`Store.Leads.get?_of_added`).
-/

namespace AccessGateway

/-- A call and the scope in which it is made. -/
structure ScopedCall where
  call : CollectionCall
  scope : Option Scope

namespace ScopedCall

variable {hooks : CollectionHooks} {c : ScopedCall} {args : CollectionArgs}

/-- What the guard says of a call. -/
def verdict (c : ScopedCall) : Except AuthorizationError Unit :=
  (c.call.operation.guard.check c.scope c.call.args).1

/-- What the hooks before the operation leave. -/
def before (hooks : CollectionHooks) (c : ScopedCall) : HookRun CollectionArgs Json CollectionArgs :=
  hooks.runBefore c.call.operation.name c.call.args

/-- The result of a call whose operation on the store answered something. -/
def result (hooks : CollectionHooks) (c : ScopedCall) (args : CollectionArgs) :
    Except StoreError Json → Except ServiceError Json
  | .error e => .error (.store e)
  | .ok v => hooks.settled c.call.operation.name args .hook v

/-- Runs a call on a store, with nothing in between. -/
def run (hooks : CollectionHooks) (c : ScopedCall) (s : Store) :
    Except ServiceError Json × Store :=
  ((c.call.run hooks c.scope s).result, (c.call.run hooks c.scope s).store)

/-- The guard lets a call run and no hook ends it before the operation, which gets these
arguments. -/
structure Reaches (hooks : CollectionHooks) (c : ScopedCall) (args : CollectionArgs) : Prop where
  verdict : c.verdict = .ok ()
  failure : (c.before hooks).failure = none
  value : (c.before hooks).value = args

theorem Reaches.run (h : c.Reaches hooks args) (s : Store) :
    c.run hooks s =
      (c.result hooks args (s.apply c.call.operation args).1, (s.apply c.call.operation args).2) := by
  obtain ⟨hverdict, hfailure, rfl⟩ := h
  simp only [ScopedCall.verdict, before] at hverdict hfailure
  simp only [ScopedCall.run, CollectionCall.run_eq, hverdict, hfailure, before]
  cases (s.apply c.call.operation (hooks.runBefore c.call.operation.name c.call.args).value).1 with
  | error e => rfl
  | ok v => rfl

theorem run_of_refused {e : AuthorizationError} (h : c.verdict = .error e)
    (hooks : CollectionHooks) (s : Store) :
    c.run hooks s = (.error (.authorization e), s) := by
  simp only [run, CollectionCall.run_of_refused h]

theorem run_of_stopped {e : HookError} (hverdict : c.verdict = .ok ())
    (h : (c.before hooks).failure = some e) (s : Store) : c.run hooks s = (.error (.hook e), s) := by
  simp only [verdict, before] at hverdict h
  simp only [run, CollectionCall.run_eq, hverdict, h]

/-- An operation that failed is a call that failed. One that succeeded is a call that succeeded,
unless a hook behind it failed and ended the call. -/
theorem result_eq (hooks : CollectionHooks) (c : ScopedCall) (args : CollectionArgs)
    (answer : Except StoreError Json) :
    (∃ e, answer = .error e ∧ c.result hooks args answer = .error (.store e)) ∨
      answer.isOk = true ∧ ((∃ v, c.result hooks args answer = .ok v) ∨
        ∃ x, c.result hooks args answer = .error (.hook x) ∧ x.phase = .after ∧
          hooks.policy = .propagate) := by
  cases answer with
  | error e => exact Or.inl ⟨e, rfl, rfl⟩
  | ok v =>
    refine Or.inr ⟨rfl, ?_⟩
    rw [result, Dispatcher.settled]
    split
    · next x hx =>
      obtain ⟨hpolicy, hphase⟩ := Dispatcher.policy_of_failure_runHooks hx
      exact Or.inr ⟨x, rfl, hphase, hpolicy⟩
    · exact Or.inl ⟨_, rfl⟩

end ScopedCall

variable {ι : Type}

/-- Runs calls one after another. Gives their results and the store that they leave. -/
def serially (hooks : CollectionHooks) (calls : ι → ScopedCall) :
    Store → List ι → List (ι × Except ServiceError Json) × Store
  | s, [] => ([], s)
  | s, i :: r =>
    let x := (calls i).run hooks s
    let rest := serially hooks calls x.2 r
    ((i, x.1) :: rest.1, rest.2)

/-! ## Operations one after another -/

/-- An operation that a call did on the store, the arguments that it got and its answer. -/
structure StoreStep (ι : Type) where
  call : ι
  operation : CollectionOperation
  args : CollectionArgs
  answer : Except StoreError Json

/-- The step is an operation on a collection that succeeded. -/
def StoreStep.Does (x : StoreStep ι) (op : CollectionOperation) (name : String) : Prop :=
  x.operation = op ∧ x.args.collection = some name ∧ x.answer.isOk = true

instance (x : StoreStep ι) (op : CollectionOperation) (name : String) :
    Decidable (x.Does op name) :=
  inferInstanceAs (Decidable (_ ∧ _ ∧ _))

/-- The records that a step brings to a collection. -/
def StoreStep.brings (x : StoreStep ι) (name : String) : List Json :=
  if x.Does .add name then x.args.records else []

theorem StoreStep.Does.apply_eq {x : StoreStep ι} {op : CollectionOperation} {name : String}
    (hx : x.Does op name) (s : Store) :
    s.apply x.operation x.args = s.applyTo op name x.args.records := by
  obtain ⟨i, operation, ⟨collection, records⟩, answer⟩ := x
  obtain ⟨rfl, rfl, -⟩ := hx
  exact Store.apply_named s operation name records

/-- Steps that answer what they do lead from a store to another. -/
inductive Store.Leads : Store → List (StoreStep ι) → Store → Prop
  | nil (s : Store) : Leads s [] s
  | cons {s t : Store} {x : StoreStep ι} {steps : List (StoreStep ι)} :
    (s.apply x.operation x.args).1 = x.answer → Leads (s.apply x.operation x.args).2 steps t →
      Leads s (x :: steps) t

namespace Store

variable {s t : Store} {x y : StoreStep ι} {steps more later : List (StoreStep ι)} {name : String}
  {old : List Json}

theorem Leads.append {u : Store} (h : Leads s steps t) (hmore : Leads t more u) :
    Leads s (steps ++ more) u := by
  induction h with
  | nil s => exact hmore
  | cons hanswer _ ih => exact .cons hanswer (ih hmore)

theorem Leads.split (h : Leads s (steps ++ more) t) :
    ∃ u, Leads s steps u ∧ Leads u more t := by
  induction steps generalizing s with
  | nil => exact ⟨s, .nil s, h⟩
  | cons x steps ih =>
    cases h with
    | cons hanswer hrest =>
      obtain ⟨u, hsteps, hmore⟩ := ih hrest
      exact ⟨u, .cons hanswer hsteps, hmore⟩

/-- Only a deletion takes records out of a collection. -/
theorem get?_apply_of_some (hs : s.get? name = some old)
    (hanswer : (s.apply x.operation x.args).1 = x.answer) (hx : ¬x.Does .delete name) :
    (s.apply x.operation x.args).2.get? name = some (old ++ x.brings name) := by
  obtain ⟨i, op, ⟨collection, records⟩, answer⟩ := x
  by_cases hname : collection = some name
  · subst hname
    simp only [apply_named, applyTo_of_some hs] at hanswer ⊢
    cases op with
    | delete =>
      subst hanswer
      exact absurd ⟨rfl, rfl, rfl⟩ hx
    | add =>
      subst hanswer
      rw [StoreStep.brings, if_pos ⟨rfl, rfl, rfl⟩]
      simp only [Table.get?_insert, if_pos]
    | _ => simpa [StoreStep.brings, StoreStep.Does] using hs
  · have hbrings : StoreStep.brings ⟨i, op, ⟨collection, records⟩, answer⟩ name = [] :=
      if_neg fun h => hname h.2.1
    rw [hbrings, List.append_nil]
    exact (get?_apply_of_ne hname s op).trans hs

theorem get?_apply_of_create (hx : x.Does .create name)
    (hanswer : (s.apply x.operation x.args).1 = x.answer) :
    s.get? name = none ∧ (s.apply x.operation x.args).2.get? name = some [] := by
  have hok := hx.2.2
  rw [← hanswer] at hok
  rw [hx.apply_eq] at hok ⊢
  cases hs : s.get? name with
  | none =>
    rw [applyTo_of_none hs]
    exact ⟨rfl, by simp only [Table.get?_insert, if_pos]⟩
  | some old =>
    rw [applyTo_of_some hs] at hok
    cases hok

theorem get?_of_add (hx : x.Does .add name)
    (hanswer : (s.apply x.operation x.args).1 = x.answer) : ∃ old, s.get? name = some old := by
  have hok := hx.2.2
  rw [← hanswer, hx.apply_eq] at hok
  cases hs : s.get? name with
  | none =>
    rw [applyTo_of_none hs] at hok
    cases hok
  | some old => exact ⟨old, rfl⟩

/-- A collection that nobody deletes keeps its records and gets those that are added, in the order
of the steps. -/
theorem Leads.get? (h : Leads s steps t) (hs : s.get? name = some old)
    (hsteps : ∀ x ∈ steps, ¬x.Does .delete name) :
    t.get? name = some (old ++ steps.flatMap fun x => x.brings name) := by
  induction h generalizing old with
  | nil s => rw [List.flatMap_nil, List.append_nil, hs]
  | cons hanswer _ ih =>
    obtain ⟨hx, hrest⟩ := List.forall_mem_cons.1 hsteps
    rw [ih (get?_apply_of_some hs hanswer hx) hrest, List.flatMap_cons, List.append_assoc]

/-- Between two steps that create one collection there is one that deletes it. -/
theorem Leads.deletes_between (h : Leads s (steps ++ x :: more ++ y :: later) t)
    (hx : x.Does .create name) (hy : y.Does .create name) :
    ∃ z ∈ more, z.Does .delete name := by
  -- Otherwise the collection of the first step is still there when the second one comes.
  by_contra hnone
  have hkept : ∀ z ∈ more, ¬z.Does .delete name := fun z hz hd => hnone ⟨z, hz, hd⟩
  rw [List.append_assoc] at h
  obtain ⟨u, -, hu⟩ := h.split
  cases hu with
  | cons hanswer hrest =>
    obtain ⟨w, hmore, hw⟩ := hrest.split
    have hthere := hmore.get? (get?_apply_of_create hx hanswer).2 hkept
    cases hw with
    | cons hagain _ =>
      have hgone := (get?_apply_of_create hy hagain).1
      rw [hgone] at hthere
      cases hthere

/-- What a step added to a collection that nobody deletes afterwards is in it in the end. -/
theorem Leads.get?_of_added (h : Leads s (steps ++ x :: more) t) (hx : x.Does .add name)
    (hmore : ∀ z ∈ more, ¬z.Does .delete name) :
    ∃ old, t.get? name = some (old ++ x.args.records ++ more.flatMap fun z => z.brings name) := by
  obtain ⟨u, -, hu⟩ := h.split
  cases hu with
  | cons hanswer hrest =>
    obtain ⟨old, hold⟩ := get?_of_add hx hanswer
    have hkeeps : ¬x.Does .delete name := fun hd => nomatch hx.1.symm.trans hd.1
    have hnext := get?_apply_of_some hold hanswer hkeeps
    rw [StoreStep.brings, if_pos hx] at hnext
    exact ⟨old, hrest.get? hnext hmore⟩

/-- Calls that do these steps when they run one after another. -/
theorem Leads.serially {hooks : CollectionHooks} {calls : ι → ScopedCall} (h : Leads s steps t)
    (hsteps : ∀ x ∈ steps, (calls x.call).call.operation = x.operation ∧
      (calls x.call).Reaches hooks x.args) :
    AccessGateway.serially hooks calls s (steps.map StoreStep.call) =
      (steps.map fun x => (x.call, (calls x.call).result hooks x.args x.answer), t) := by
  induction h with
  | nil s => rfl
  | cons hanswer _ ih =>
    obtain ⟨⟨hop, hreaches⟩, hrest⟩ := List.forall_mem_cons.1 hsteps
    rw [List.map_cons, AccessGateway.serially, hreaches.run, hop, hanswer]
    simp only [ih hrest, List.map_cons]

end Store

/-! ## Calls that take turns -/

/-- How far a call has come. -/
inductive CallStage where
  | ready
  | allowed
  | prepared (args : CollectionArgs)
  | done (args : CollectionArgs) (answer : Except StoreError Json)
  | finished (result : Except ServiceError Json)

/-- A store, how far each call has come, and the operations that were done on the store. -/
structure Calls (ι : Type) where
  store : Store
  stage : ι → CallStage
  journal : List (StoreStep ι)

namespace Calls

variable {hooks : CollectionHooks} {calls : ι → ScopedCall} {m n : Calls ι} {s : Store} {i j : ι}
  {es : List ι}

/-- Calls on a store before the first turn. -/
def start (s : Store) : Calls ι := ⟨s, fun _ => .ready, []⟩

/-- The calls in the order of their operations on the store. -/
def order (m : Calls ι) : List ι := m.journal.map StoreStep.call

/-! ## What the journal says -/

/-- A call that has come to a stage is in the journal or not. -/
def Fits (hooks : CollectionHooks) (c : ScopedCall) (i : ι) (journal : List (StoreStep ι)) :
    CallStage → Prop
  | .ready => i ∉ journal.map StoreStep.call
  | .allowed => i ∉ journal.map StoreStep.call ∧ c.verdict = .ok ()
  | .prepared args => i ∉ journal.map StoreStep.call ∧ c.Reaches hooks args
  | .done args answer => ∃ x ∈ journal, x.call = i ∧ x.args = args ∧ x.answer = answer
  | .finished result =>
    (i ∉ journal.map StoreStep.call ∧ ∃ e, result = .error e ∧ ∀ t, c.run hooks t = (.error e, t)) ∨
      ∃ x ∈ journal, x.call = i ∧ result = c.result hooks x.args x.answer

theorem not_mem_append {journal : List (StoreStep ι)} {x : StoreStep ι}
    (h : i ∉ journal.map StoreStep.call) (hx : x.call ≠ i) :
    i ∉ (journal ++ [x]).map StoreStep.call := by
  rw [List.map_append, List.mem_append]
  rintro (hmem | hmem)
  · exact h hmem
  · exact hx (List.mem_singleton.1 hmem).symm

/-- What another call did changes nothing for this one. -/
theorem Fits.append {c : ScopedCall} {journal : List (StoreStep ι)} {stage : CallStage}
    {x : StoreStep ι} (h : Fits hooks c i journal stage) (hx : x.call ≠ i) :
    Fits hooks c i (journal ++ [x]) stage := by
  cases stage with
  | ready => exact not_mem_append h hx
  | allowed => exact ⟨not_mem_append h.1 hx, h.2⟩
  | prepared args => exact ⟨not_mem_append h.1 hx, h.2⟩
  | done args answer =>
    obtain ⟨y, hy, hcall⟩ := h
    exact ⟨y, List.mem_append_left _ hy, hcall⟩
  | finished result =>
    rcases h with ⟨hmem, hstops⟩ | ⟨y, hy, hcall⟩
    · exact Or.inl ⟨not_mem_append hmem hx, hstops⟩
    · exact Or.inr ⟨y, List.mem_append_left _ hy, hcall⟩

/-- How the journal, the store and the stages go together. -/
structure Consistent (hooks : CollectionHooks) (calls : ι → ScopedCall) (s : Store)
    (m : Calls ι) : Prop where
  leads : Store.Leads s m.journal m.store
  once : m.order.Nodup
  reached : ∀ x ∈ m.journal,
    (calls x.call).call.operation = x.operation ∧ (calls x.call).Reaches hooks x.args
  fits : ∀ i, Fits hooks (calls i) i m.journal (m.stage i)

theorem consistent_start (hooks : CollectionHooks) (calls : ι → ScopedCall) (s : Store) :
    Consistent hooks calls s (start s) where
  leads := .nil s
  once := List.nodup_nil
  reached := fun _ h => nomatch h
  fits := fun _ => List.not_mem_nil

/-- A call that its guard refuses never comes to the store. -/
theorem Consistent.not_mem_of_refused {e : AuthorizationError} (h : Consistent hooks calls s m)
    (hi : (calls i).verdict = .error e) : i ∉ m.order := by
  intro hmem
  obtain ⟨x, hx, rfl⟩ := List.mem_map.1 hmem
  have hallowed := (h.reached x hx).2.verdict
  rw [hi] at hallowed
  cases hallowed

/-- A step is the only one of its call, so the result of the call goes with it. -/
theorem Consistent.result {x : StoreStep ι} {result : Except ServiceError Json}
    (h : Consistent hooks calls s m) (hx : x ∈ m.journal)
    (hstage : m.stage x.call = .finished result) :
    result = (calls x.call).result hooks x.args x.answer := by
  have hfits := h.fits x.call
  rw [hstage] at hfits
  rcases hfits with ⟨hmem, -⟩ | ⟨y, hy, hcall, hresult⟩
  · exact absurd (List.mem_map_of_mem hx) hmem
  · obtain rfl : y = x := List.inj_on_of_nodup_map h.once hy hx hcall
    exact hresult

/-! ## One turn -/

section Turns

variable [DecidableEq ι]

/-- A call comes to a stage. -/
def enter (m : Calls ι) (i : ι) (x : CallStage) : Calls ι :=
  { m with stage := Function.update m.stage i x }

/-- A call does its operation on the store. -/
def take (m : Calls ι) (i : ι) (op : CollectionOperation) (args : CollectionArgs) : Calls ι where
  store := (m.store.apply op args).2
  stage := Function.update m.stage i (.done args (m.store.apply op args).1)
  journal := m.journal ++ [⟨i, op, args, (m.store.apply op args).1⟩]

/-- One turn of a call. -/
def turn (hooks : CollectionHooks) (calls : ι → ScopedCall) (m : Calls ι) (i : ι) : Calls ι :=
  match m.stage i with
  | .ready =>
    match (calls i).verdict with
    | .error e => m.enter i (.finished (.error (.authorization e)))
    | .ok () => m.enter i .allowed
  | .allowed =>
    match ((calls i).before hooks).failure with
    | some e => m.enter i (.finished (.error (.hook e)))
    | none => m.enter i (.prepared ((calls i).before hooks).value)
  | .prepared args => m.take i (calls i).call.operation args
  | .done args answer => m.enter i (.finished ((calls i).result hooks args answer))
  | .finished _ => m

/-- The state behind some turns. -/
def after (hooks : CollectionHooks) (calls : ι → ScopedCall) (m : Calls ι) (es : List ι) :
    Calls ι := es.foldl (turn hooks calls) m

@[simp] theorem stage_enter_self (m : Calls ι) (i : ι) (x : CallStage) :
    (m.enter i x).stage i = x := by
  simp [enter]

theorem stage_enter_of_ne (h : j ≠ i) (m : Calls ι) (x : CallStage) :
    (m.enter i x).stage j = m.stage j := by
  simp [enter, h]

@[simp] theorem stage_take_self (m : Calls ι) (i : ι) (op : CollectionOperation)
    (args : CollectionArgs) :
    (m.take i op args).stage i = .done args (m.store.apply op args).1 := by
  simp [take]

theorem stage_take_of_ne (h : j ≠ i) (m : Calls ι) (op : CollectionOperation)
    (args : CollectionArgs) : (m.take i op args).stage j = m.stage j := by
  simp [take, h]

/-- What one turn of a call can do. -/
inductive Happens (hooks : CollectionHooks) (calls : ι → ScopedCall) (m : Calls ι) (i : ι) :
    Calls ι → Prop
  | refused {e : AuthorizationError} : m.stage i = .ready → (calls i).verdict = .error e →
    Happens hooks calls m i (m.enter i (.finished (.error (.authorization e))))
  | allowed : m.stage i = .ready → (calls i).verdict = .ok () →
    Happens hooks calls m i (m.enter i .allowed)
  | stopped {e : HookError} : m.stage i = .allowed →
    ((calls i).before hooks).failure = some e →
    Happens hooks calls m i (m.enter i (.finished (.error (.hook e))))
  | prepared : m.stage i = .allowed → ((calls i).before hooks).failure = none →
    Happens hooks calls m i (m.enter i (.prepared ((calls i).before hooks).value))
  | takes {args : CollectionArgs} : m.stage i = .prepared args →
    Happens hooks calls m i (m.take i (calls i).call.operation args)
  | settles {args : CollectionArgs} {answer : Except StoreError Json} :
    m.stage i = .done args answer →
    Happens hooks calls m i (m.enter i (.finished ((calls i).result hooks args answer)))
  | idle {result : Except ServiceError Json} : m.stage i = .finished result →
    Happens hooks calls m i m

theorem happens_turn (hooks : CollectionHooks) (calls : ι → ScopedCall) (m : Calls ι) (i : ι) :
    Happens hooks calls m i (m.turn hooks calls i) := by
  unfold turn
  cases hstage : m.stage i with
  | ready =>
    cases hverdict : (calls i).verdict with
    | error e => exact .refused hstage hverdict
    | ok _ => exact .allowed hstage hverdict
  | allowed =>
    simp only
    cases hfailure : ((calls i).before hooks).failure with
    | some e => exact .stopped hstage hfailure
    | none => exact .prepared hstage hfailure
  | prepared args => exact .takes hstage
  | done args answer => exact .settles hstage
  | finished result => exact .idle hstage

theorem Happens.stage_of_ne (hturn : Happens hooks calls m i n) (hj : j ≠ i) :
    n.stage j = m.stage j := by
  cases hturn with
  | idle => rfl
  | takes => exact stage_take_of_ne hj m _ _
  | refused | allowed | stopped | prepared | settles => exact stage_enter_of_ne hj m _

theorem turn_of_finished {result : Except ServiceError Json} (h : m.stage i = .finished result) :
    m.turn hooks calls i = m := by
  rw [turn, h]

/-- Four turns in a row are a run of the call. -/
theorem turns_eq_run (hooks : CollectionHooks) (calls : ι → ScopedCall)
    (h : m.stage i = .ready) :
    (m.after hooks calls [i, i, i, i]).stage i = .finished ((calls i).run hooks m.store).1 ∧
      (m.after hooks calls [i, i, i, i]).store = ((calls i).run hooks m.store).2 := by
  simp only [after, List.foldl_cons, List.foldl_nil]
  cases hverdict : (calls i).verdict with
  | error e =>
    have hfirst : m.turn hooks calls i = m.enter i (.finished (.error (.authorization e))) := by
      simp only [turn, h, hverdict]
    simp only [hfirst, turn_of_finished (stage_enter_self m i _),
      ScopedCall.run_of_refused hverdict, stage_enter_self]
    exact ⟨trivial, rfl⟩
  | ok _ =>
    have hfirst : m.turn hooks calls i = m.enter i .allowed := by
      simp only [turn, h, hverdict]
    rw [hfirst]
    cases hfailure : ((calls i).before hooks).failure with
    | some e =>
      have hsecond : (m.enter i .allowed).turn hooks calls i =
          (m.enter i .allowed).enter i (.finished (.error (.hook e))) := by
        simp only [turn, stage_enter_self, hfailure]
      simp only [hsecond, turn_of_finished (stage_enter_self _ i _),
        ScopedCall.run_of_stopped hverdict hfailure, stage_enter_self]
      exact ⟨trivial, rfl⟩
    | none =>
      have hreaches : (calls i).Reaches hooks ((calls i).before hooks).value :=
        ⟨hverdict, hfailure, rfl⟩
      have hsecond : (m.enter i .allowed).turn hooks calls i =
          (m.enter i .allowed).enter i (.prepared ((calls i).before hooks).value) := by
        simp only [turn, stage_enter_self, hfailure]
      rw [hsecond, hreaches.run]
      simp only [turn, stage_enter_self, stage_take_self]
      exact ⟨rfl, rfl⟩

theorem Consistent.enter {x : CallStage} (h : Consistent hooks calls s m)
    (hx : Fits hooks (calls i) i m.journal x) : Consistent hooks calls s (m.enter i x) where
  leads := h.leads
  once := h.once
  reached := h.reached
  fits := by
    intro j
    by_cases hj : j = i
    · subst hj
      rw [stage_enter_self]
      exact hx
    · rw [stage_enter_of_ne hj]
      exact h.fits j

theorem Consistent.take {args : CollectionArgs} (h : Consistent hooks calls s m)
    (hfresh : i ∉ m.order) (hreaches : (calls i).Reaches hooks args) :
    Consistent hooks calls s (m.take i (calls i).call.operation args) where
  leads := h.leads.append (.cons rfl (.nil _))
  once := by
    simp only [order, Calls.take, List.map_append]
    rw [List.nodup_append]
    refine ⟨h.once, List.nodup_singleton _, ?_⟩
    rintro j hj _ hnew rfl
    obtain rfl : j = i := List.mem_singleton.1 hnew
    exact hfresh hj
  reached := by
    intro x hx
    rcases List.mem_append.1 hx with hx | hx
    · exact h.reached x hx
    · obtain rfl := List.mem_singleton.1 hx
      exact ⟨rfl, hreaches⟩
  fits := by
    intro j
    by_cases hj : j = i
    · subst hj
      rw [stage_take_self]
      exact ⟨_, List.mem_append_right _ List.mem_cons_self, rfl, rfl, rfl⟩
    · rw [stage_take_of_ne hj]
      exact (h.fits j).append (Ne.symm hj)

theorem Consistent.happens (h : Consistent hooks calls s m) (hturn : Happens hooks calls m i n) :
    Consistent hooks calls s n := by
  have hfits := h.fits i
  cases hturn with
  | refused hstage hverdict =>
    rw [hstage] at hfits
    exact h.enter (Or.inl ⟨hfits, _, rfl, ScopedCall.run_of_refused hverdict hooks⟩)
  | allowed hstage hverdict =>
    rw [hstage] at hfits
    exact h.enter ⟨hfits, hverdict⟩
  | stopped hstage hfailure =>
    rw [hstage] at hfits
    exact h.enter (Or.inl ⟨hfits.1, _, rfl, ScopedCall.run_of_stopped hfits.2 hfailure⟩)
  | prepared hstage hfailure =>
    rw [hstage] at hfits
    exact h.enter ⟨hfits.1, hfits.2, hfailure, rfl⟩
  | takes hstage =>
    rw [hstage] at hfits
    exact h.take hfits.1 hfits.2
  | settles hstage =>
    rw [hstage] at hfits
    obtain ⟨x, hx, hcall, rfl, rfl⟩ := hfits
    exact h.enter (Or.inr ⟨x, hx, hcall, rfl⟩)
  | idle => exact h

theorem Consistent.after (h : Consistent hooks calls s m) (es : List ι) :
    Consistent hooks calls s (m.after hooks calls es) := by
  induction es generalizing m with
  | nil => exact h
  | cons i es ih => exact ih (h.happens (happens_turn hooks calls m i))

/-! ## Turns one after another -/

theorem stage_of_finished {result : Except ServiceError Json} (h : m.stage j = .finished result)
    (hturn : Happens hooks calls m i n) : n.stage j = .finished result := by
  by_cases hj : j = i
  · subst hj
    cases hturn with
    | idle => exact h
    | refused hstage | allowed hstage | stopped hstage | prepared hstage | takes hstage
    | settles hstage =>
      rw [h] at hstage
      cases hstage
  · exact (hturn.stage_of_ne hj).trans h

/-- The journal grows at its end only, by the operation of the call whose turn it is. -/
theorem journal_of_happens (hturn : Happens hooks calls m i n) :
    n.journal = m.journal ∨ (∀ result, m.stage i ≠ .finished result) ∧
      ∃ x : StoreStep ι, x.call = i ∧ n.journal = m.journal ++ [x] := by
  cases hturn with
  | takes hstage =>
    refine Or.inr ⟨fun result h => ?_, _, rfl, rfl⟩
    rw [hstage] at h
    cases h
  | _ => exact Or.inl rfl

/-- What comes to the journal later are operations of calls that had a turn later and had not yet
finished. -/
theorem journal_after (hooks : CollectionHooks) (calls : ι → ScopedCall) (m : Calls ι)
    (es : List ι) :
    ∃ later, (m.after hooks calls es).journal = m.journal ++ later ∧
      ∀ x ∈ later, x.call ∈ es ∧ ∀ result, m.stage x.call ≠ .finished result := by
  induction es generalizing m with
  | nil => exact ⟨[], (List.append_nil _).symm, fun _ h => nomatch h⟩
  | cons i es ih =>
    have hturn := happens_turn hooks calls m i
    obtain ⟨later, hlater, hcalls⟩ := ih (m.turn hooks calls i)
    -- A call that has finished stays so, hence one that comes later had not finished before either.
    have hthen : ∀ x ∈ later, x.call ∈ i :: es ∧ ∀ result, m.stage x.call ≠ .finished result :=
      fun x hx => ⟨List.mem_cons_of_mem i (hcalls x hx).1, fun result h =>
        (hcalls x hx).2 result (stage_of_finished h hturn)⟩
    rcases journal_of_happens hturn with hsame | ⟨hopen, x, rfl, hnext⟩
    · exact ⟨later, hlater.trans (by rw [hsame]), hthen⟩
    · refine ⟨x :: later, hlater.trans (by rw [hnext, List.append_assoc]; rfl), ?_⟩
      intro y hy
      rcases List.mem_cons.1 hy with rfl | hy
      · exact ⟨List.mem_cons_self, hopen⟩
      · exact hthen y hy

/-! ## How many turns a call needs -/

/-- The number of turns that a call has had, at the least. -/
def turnsOf : CallStage → Nat
  | .ready => 0
  | .allowed => 1
  | .prepared _ => 2
  | .done _ _ => 3
  | .finished _ => 4

theorem turnsOf_happens (hturn : Happens hooks calls m i n) (j : ι) :
    min 4 (turnsOf (m.stage j) + if i == j then 1 else 0) ≤ turnsOf (n.stage j) := by
  by_cases hj : j = i
  · subst hj
    cases hturn with
    | refused hstage | allowed hstage | stopped hstage | prepared hstage | settles hstage =>
      rw [hstage, stage_enter_self]
      simp [turnsOf]
    | takes hstage =>
      rw [hstage, stage_take_self]
      simp [turnsOf]
    | idle hstage =>
      rw [hstage]
      simp [turnsOf]
  · rw [hturn.stage_of_ne hj, if_neg (by simpa using Ne.symm hj)]
    exact Nat.min_le_right _ _

theorem turnsOf_after (hooks : CollectionHooks) (calls : ι → ScopedCall) (m : Calls ι) (i : ι)
    (es : List ι) :
    min 4 (turnsOf (m.stage i) + es.count i) ≤ turnsOf ((m.after hooks calls es).stage i) := by
  induction es generalizing m with
  | nil => exact Nat.min_le_right _ _
  | cons j es ih =>
    have hfirst := turnsOf_happens (happens_turn hooks calls m j) i
    have hrest := ih (m.turn hooks calls j)
    rw [List.count_cons]
    show _ ≤ turnsOf (((m.turn hooks calls j).after hooks calls es).stage i)
    omega

theorem finished_of_count (hooks : CollectionHooks) (calls : ι → ScopedCall) (m : Calls ι)
    (h : 4 ≤ es.count i) : ∃ result, (m.after hooks calls es).stage i = .finished result := by
  have hturns := turnsOf_after hooks calls m i es
  cases hstage : (m.after hooks calls es).stage i with
  | finished result => exact ⟨result, rfl⟩
  | _ =>
    rw [hstage] at hturns
    simp only [turnsOf] at hturns
    omega

/-! ## What holds of every schedule -/

/-- In whatever order calls take their turns, each one comes to an end in four turns, and what they
answer and leave is what they answer and leave when they run one after another in the order of
their operations on the store. A call that does no operation, such as one that its guard refuses,
changes nothing wherever it runs. A call that has finished stands before those that begin later.
Of the calls that create one collection at most one succeeds between two deletions, and the records
of an add that succeeded are in the collection until it is deleted. -/
theorem serially_after (hooks : CollectionHooks) (calls : ι → ScopedCall) (s : Store)
    (es : List ι) :
    let m := (start s).after hooks calls es
    let alone := serially hooks calls s m.order
    (∀ i, 4 ≤ es.count i → ∃ result, m.stage i = .finished result) ∧
    m.order.Nodup ∧
    m.store = alone.2 ∧
    (∀ i result, m.stage i = .finished result →
      (i ∈ m.order → (i, result) ∈ alone.1) ∧
      (i ∉ m.order → ∃ e, result = .error e ∧ ∀ t, (calls i).run hooks t = (.error e, t))) ∧
    (∀ i e, (calls i).verdict = .error e → i ∉ m.order) ∧
    (∀ fs, ∃ later, (m.after hooks calls fs).order = m.order ++ later ∧
      ∀ i ∈ later, i ∈ fs ∧ ∀ result, m.stage i ≠ .finished result) ∧
    (∀ x ∈ m.journal, (calls x.call).call.operation = x.operation ∧
      (calls x.call).Reaches hooks x.args ∧
      ∀ result, m.stage x.call = .finished result →
        (∃ e, x.answer = .error e ∧ result = .error (.store e)) ∨
          x.answer.isOk = true ∧ ((∃ v, result = .ok v) ∨
            ∃ e, result = .error (.hook e) ∧ e.phase = .after ∧ hooks.policy = .propagate)) ∧
    (∀ name before x between y rest, m.journal = before ++ x :: between ++ y :: rest →
      x.Does .create name → y.Does .create name → ∃ z ∈ between, z.Does .delete name) ∧
    ∀ name before x rest, m.journal = before ++ x :: rest → x.Does .add name →
      (∀ z ∈ rest, ¬z.Does .delete name) → ∃ old, m.store.get? name =
        some (old ++ x.args.records ++ rest.flatMap fun z => z.brings name) := by
  intro m alone
  have h : Consistent hooks calls s m := (consistent_start hooks calls s).after es
  have halone : alone =
      (m.journal.map fun x => (x.call, (calls x.call).result hooks x.args x.answer), m.store) :=
    h.leads.serially h.reached
  refine ⟨fun i => finished_of_count hooks calls (start s), h.once, ?_, ?_, ?_, ?_, ?_, ?_, ?_⟩
  · rw [halone]
  · intro i result hstage
    refine ⟨fun hmem => ?_, fun hmem => ?_⟩
    · obtain ⟨x, hx, rfl⟩ := List.mem_map.1 hmem
      rw [halone, h.result hx hstage]
      exact List.mem_map_of_mem hx
    · have hfits := h.fits i
      rw [hstage] at hfits
      rcases hfits with ⟨-, hstops⟩ | ⟨x, hx, rfl, -⟩
      · exact hstops
      · exact absurd (List.mem_map_of_mem hx) hmem
  · exact fun i e => h.not_mem_of_refused
  · intro fs
    obtain ⟨later, hlater, hcalls⟩ := journal_after hooks calls m fs
    refine ⟨later.map StoreStep.call, ?_, ?_⟩
    · rw [order, hlater, List.map_append]
      rfl
    · intro i hi
      obtain ⟨x, hx, rfl⟩ := List.mem_map.1 hi
      exact hcalls x hx
  · intro x hx
    obtain ⟨hop, hreaches⟩ := h.reached x hx
    refine ⟨hop, hreaches, fun result hstage => ?_⟩
    rw [h.result hx hstage]
    exact ScopedCall.result_eq hooks (calls x.call) x.args x.answer
  · intro name before x between y rest hjournal
    have hleads := h.leads
    rw [hjournal] at hleads
    exact hleads.deletes_between
  · intro name before x rest hjournal
    have hleads := h.leads
    rw [hjournal] at hleads
    exact hleads.get?_of_added

/-- Two calls that create one collection pass the guard and the hooks side by side. One succeeds. -/
example :
    let m := (start Table.empty).after ⟨[.observer "logging"], .isolate⟩
      (fun _ : Fin 2 => ⟨.on .create "a", none⟩) [0, 1, 0, 1, 1, 0, 0, 1]
    (m.order, m.store.keys, m.stage 0) =
      ([1, 0], ["a"], .finished (.error (.store (.alreadyExists "a")))) := by rfl

end Turns

end Calls

end AccessGateway
