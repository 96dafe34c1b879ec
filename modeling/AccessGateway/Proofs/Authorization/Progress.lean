import AccessGateway.Proofs.Authorization.Tasks

/-
  Tasks that get turns come to an end. A turn of a task that can go on makes what is left to do
  less, for a step pays for the tasks that it starts (`Work.cost_poll_lt`); any other turn changes
  nothing (`Work.poll_of_idle`). A task waits only for tasks that it has started, and those stand
  behind it (`TaskMachine.WaitsBehind`); so if no task can go on, the last ones are finished, and
  with them those that wait for them (`TaskMachine.Follows.finished_of_idle`). Enough rounds of
  turns, in any order and by any workers, therefore finish every task with the results of its
  program (`TaskMachine.finished_of_rounds`).
-/

namespace AccessGateway

variable {α β : Type}

/-! ## What is left to do -/

namespace Step

theorem costs_append (scope : Option Scope) (a b : List (Step α)) :
    costs scope (a ++ b) = costs scope a + costs scope b := by
  induction a with
  | nil => exact (Nat.zero_add _).symm
  | cons x a ih =>
    show cost scope x + costs scope (a ++ b) = cost scope x + costs scope a + costs scope b
    rw [ih, Nat.add_assoc]

theorem cost_pos (scope : Option Scope) (x : Step α) : 0 < cost scope x := by
  cases x <;> simp [cost]

/-- A task that enters the scope of its starter costs little more than its steps do there. -/
theorem costs_within_le (scope : Option Scope) (body : List (Step α)) :
    costs none (within scope body) ≤ costs scope body + 3 := by
  cases scope with
  | none => exact Nat.le_add_right _ _
  | some s => exact Nat.le_refl _

end Step

namespace Work

/-- The number of turns that are left to work at most, in the scope that it sees. -/
def cost (scope : Option Scope) : Work α β → Nat
  | running _ rest => Step.costs scope rest
  | inside s inner _ rest => inner.cost (some s) + 1 + Step.costs scope rest
  | waiting _ _ rest => 1 + Step.costs scope rest

/-- The number of turns that are left to tasks at most. -/
def costOfAll : List (Work α β) → Nat
  | [] => 0
  | w :: ws => w.cost none + costOfAll ws

/-- What work waits for, in any part that it is at. -/
def awaits? : Work α β → Option Awaited
  | running _ _ => none
  | inside _ inner _ _ => inner.awaits?
  | waiting a _ _ => some a

/-- Work that a turn has nothing to do for: it is finished, or waits for what is not there. -/
def Idle (finished : Nat → Option (List (StepResult β))) (w : Work α β) : Prop :=
  w.results? ≠ none ∨ ∃ a, w.awaits? = some a ∧ a.result? finished = none

variable {f : Option Scope → α → β} {finished : Nat → Option (List (StepResult β))} {next : Nat}

theorem eq_running_of_results? {w : Work α β} {rs : List (StepResult β)}
    (h : w.results? = some rs) : w = running rs [] := by
  unfold results? at h
  split at h
  · obtain rfl := Option.some.inj h
    rfl
  · cases h

theorem results?_of_awaits? {w : Work α β} {a : Awaited} (h : w.awaits? = some a) :
    w.results? = none := by
  cases hrs : w.results? with
  | none => rfl
  | some rs =>
    rw [eq_running_of_results? hrs] at h
    cases h

theorem results?_of_cost_eq_zero {scope : Option Scope} {w : Work α β}
    (h : w.cost scope = 0) : w.results? ≠ none := by
  cases w with
  | running done rest =>
    cases rest with
    | nil => exact Option.some_ne_none done
    | cons x rest =>
      have hcost : Step.cost scope x + Step.costs scope rest = 0 := h
      have := Step.cost_pos scope x
      omega
  | inside s inner done rest =>
    have hcost : inner.cost (some s) + 1 + Step.costs scope rest = 0 := h
    omega
  | waiting a done rest =>
    have hcost : 1 + Step.costs scope rest = 0 := h
    omega

theorem awaits?_leave (s : Scope) (inner : Work α β) (done : List (StepResult β))
    (rest : List (Step α)) : (leave s inner done rest).awaits? = inner.awaits? := by
  unfold leave
  split
  · next rs hrs =>
    rw [eq_running_of_results? hrs]
    rfl
  · rfl

theorem cost_leave_le (scope : Option Scope) (s : Scope) (inner : Work α β)
    (done : List (StepResult β)) (rest : List (Step α)) :
    (leave s inner done rest).cost scope ≤ inner.cost (some s) + 1 + Step.costs scope rest := by
  unfold leave
  split
  · exact Nat.le_add_left _ _
  · exact Nat.le_refl _

variable (f next) in
/-- A turn leaves work as it is that it has nothing to do for. -/
theorem poll_of_idle {w : Work α β} (h : w.Idle finished) (slot : Option Scope) :
    w.poll f finished next slot = ⟨slot, w, []⟩ := by
  induction w generalizing slot with
  | running done rest =>
    cases rest with
    | nil => rfl
    | cons x rest =>
      obtain hdone | ⟨a, ha, -⟩ := h
      · exact absurd rfl hdone
      · cases ha
  | inside s inner done rest ih =>
    obtain hdone | ⟨a, ha, hthere⟩ := h
    · exact absurd rfl hdone
    · have hinner : inner.Idle finished := .inr ⟨a, ha, hthere⟩
      have hresults : inner.results? = none := results?_of_awaits? (a := a) ha
      simp only [poll, ih hinner, leave, hresults]
  | waiting b done rest =>
    obtain hdone | ⟨a, ha, hthere⟩ := h
    · exact absurd rfl hdone
    · obtain rfl := Option.some.inj ha
      simp only [poll, hthere]

variable (f next) in
/-- Any other turn makes what is left to do less, with the programs of the new tasks. -/
theorem cost_poll_lt {w : Work α β} (h : ¬ w.Idle finished) (scope : Option Scope) :
    (w.poll f finished next scope).work.cost scope +
      Step.costsOfAll (w.poll f finished next scope).started < w.cost scope := by
  induction w generalizing scope with
  | running done rest =>
    cases rest with
    | nil => exact absurd (.inl (Option.some_ne_none done)) h
    | cons x rest =>
      cases x with
      | look next =>
        simp only [poll, cost, Step.costs, Step.cost, Step.costsOfAll, Step.costs_append]
        omega
      | spawnInside body =>
        have := Step.costs_within_le scope body
        simp only [poll, cost, Step.costs, Step.cost, Step.costsOfAll]
        omega
      | _ =>
        simp only [poll, cost, Step.costs, Step.cost, Step.costsOfAll]
        omega
  | inside s inner done rest ih =>
    cases hresults : inner.results? with
    | some rs =>
      -- The part was finished when it was entered, and the turn leaves it.
      have hdone : inner.results? ≠ none := by simp [hresults]
      simp only [poll, poll_of_idle f next (.inl hdone), leave, hresults, cost, Step.costsOfAll]
      omega
    | none =>
      have hinner : ¬ inner.Idle finished := by
        rintro (hdone | hwaits)
        · exact hdone hresults
        · exact h (.inr hwaits)
      have hless := ih hinner (some s)
      have hleave := cost_leave_le scope s (inner.poll f finished next (some s)).work done rest
      simp only [poll, cost]
      omega
  | waiting a done rest =>
    cases hresult : a.result? finished with
    | none => exact absurd (.inr ⟨a, rfl, hresult⟩) h
    | some r =>
      simp only [poll, hresult, cost, Step.costsOfAll]
      omega

theorem costOfAll_append (ws more : List (Work α β)) :
    costOfAll (ws ++ more) = costOfAll ws + costOfAll more := by
  induction ws with
  | nil => exact (Nat.zero_add _).symm
  | cons w ws ih =>
    show w.cost none + costOfAll (ws ++ more) = w.cost none + costOfAll ws + costOfAll more
    rw [ih, Nat.add_assoc]

theorem costOfAll_running (programs : List (List (Step α))) :
    costOfAll (programs.map (running (β := β) [])) = Step.costsOfAll programs := by
  induction programs with
  | nil => rfl
  | cons p programs ih =>
    show Step.costs none p + costOfAll (programs.map (running [])) =
      Step.costs none p + Step.costsOfAll programs
    rw [ih]

theorem costOfAll_set {ws : List (Work α β)} {i : Nat} {w : Work α β} (hw : ws[i]? = some w)
    (v : Work α β) : costOfAll (ws.set i v) + w.cost none = costOfAll ws + v.cost none := by
  induction ws generalizing i with
  | nil => cases hw
  | cons u ws ih =>
    cases i with
    | zero =>
      obtain rfl := Option.some.inj hw
      simp only [List.set_cons_zero, costOfAll]
      omega
    | succ i =>
      have hrest := ih (i := i) hw
      simp only [List.set_cons_succ, costOfAll]
      omega

theorem cost_le_costOfAll {ws : List (Work α β)} {w : Work α β} (hw : w ∈ ws) :
    w.cost none ≤ costOfAll ws := by
  obtain ⟨before, after, rfl⟩ := List.append_of_mem hw
  simp only [costOfAll_append, costOfAll]
  omega

end Work

/-! ## What tasks wait for -/

/-- The tasks that are waited for. -/
def Awaited.tasks : Awaited → List Nat
  | .whole i => [i]
  | .only i => [i]
  | .each is => is

namespace Awaited

variable {g g' : Nat → Option (List (StepResult β))}

theorem all?_congr {is : List Nat} (h : ∀ i ∈ is, g i = g' i) : all? g is = all? g' is := by
  induction is with
  | nil => rfl
  | cons i is ih =>
    simp only [all?, h i List.mem_cons_self, ih fun j hj => h j (List.mem_cons_of_mem i hj)]

theorem result?_congr {a : Awaited} (h : ∀ i ∈ a.tasks, g i = g' i) :
    a.result? g = a.result? g' := by
  cases a with
  | whole i => simp only [result?, h i (List.mem_singleton_self i)]
  | only i => simp only [result?, h i (List.mem_singleton_self i)]
  | each is =>
    have hall : all? g is = all? g' is := all?_congr h
    rw [result?, result?, hall]

end Awaited

namespace Work

variable {f : Option Scope → α → β} {finished : Nat → Option (List (StepResult β))} {next : Nat}
  {ps : List (List (Step α))} {scope slot : Option Scope} {p : List (Step α)} {w : Work α β}
  {a : Awaited}

/-- What work waits for is there when the tasks are finished. -/
theorem Follows.awaits (h : w.Follows f ps scope p) (ha : w.awaits? = some a) :
    ∃ r, a.result? (Step.outcomes f ps) = some r := by
  induction h with
  | running => cases ha
  | inside _ _ ih => exact ih ha
  | waiting hr =>
    obtain rfl := Option.some.inj ha
    exact ⟨_, hr⟩

/-- Work that starts to wait does so for tasks that it starts. -/
theorem awaits?_poll (ha : (w.poll f finished next slot).work.awaits? = some a) :
    w.awaits? = some a ∨ ∀ i ∈ a.tasks, next ≤ i := by
  induction w generalizing slot with
  | running done rest =>
    cases rest with
    | nil => cases ha
    | cons x rest =>
      right
      cases x with
      | act | look | suspend | enter | detach => cases ha
      | spawn body =>
        obtain rfl := Option.some.inj ha
        intro i hi
        exact Nat.le_of_eq (List.mem_singleton.1 hi).symm
      | spawnInside body =>
        obtain rfl := Option.some.inj ha
        intro i hi
        split at hi
        all_goals exact Nat.le_of_eq (List.mem_singleton.1 hi).symm
      | spawnAll bodies =>
        obtain rfl := Option.some.inj ha
        intro i hi
        exact (List.mem_range'_1.1 hi).1
  | inside s inner done rest ih =>
    rw [poll, awaits?_leave] at ha
    exact ih ha
  | waiting b done rest =>
    rw [poll] at ha
    split at ha
    · exact .inl ha
    · cases ha

end Work

/-! ## Rounds -/

namespace TaskMachine

/-- The number of turns that are left to the tasks at most. -/
def left (m : TaskMachine α β) : Nat := Work.costOfAll m.tasks

/-- A task has nothing to do in a turn. -/
def Idle (m : TaskMachine α β) (i : Nat) : Prop :=
  ∀ w, m.tasks[i]? = some w → w.Idle m.finished

/-- Every task waits for tasks behind it only. -/
def WaitsBehind (m : TaskMachine α β) : Prop :=
  ∀ (i : Nat) w a, m.tasks[i]? = some w → w.awaits? = some a → ∀ j ∈ a.tasks, i < j

variable {f : Option Scope → α → β} {programs ps : List (List (Step α))} {m : TaskMachine α β}

theorem left_start (programs : List (List (Step α))) :
    (start (β := β) programs).left = Step.costsOfAll programs :=
  Work.costOfAll_running programs

/-- Nothing happens in a turn of a task that has nothing to do. -/
theorem poll_of_idle (hslots : ∀ worker, m.slots worker = none) {i : Nat} (h : m.Idle i)
    (worker : Nat) : m.poll f worker i = m := by
  cases hw : m.tasks[i]? with
  | none => exact poll_of_none hw worker
  | some w =>
    have hslot : (fun k => if k = worker then none else m.slots k) = m.slots := by
      funext k
      rw [hslots k, ite_self]
    obtain ⟨hi, rfl⟩ := List.getElem?_eq_some_iff.1 hw
    simp only [poll, hw, hslots worker, Work.poll_of_idle f m.tasks.length (h _ hw), hslot,
      List.set_getElem_self, List.map_nil, List.append_nil]

/-- Any other turn makes what is left to do less. -/
theorem left_poll_lt (hslots : ∀ worker, m.slots worker = none) {i : Nat} (h : ¬ m.Idle i)
    (worker : Nat) : (m.poll f worker i).left < m.left := by
  obtain ⟨w, hidle⟩ := Classical.not_forall.1 h
  obtain ⟨hw, hidle⟩ := Classical.not_imp.1 hidle
  have hless := Work.cost_poll_lt f m.tasks.length hidle none
  have hset := Work.costOfAll_set hw (w.poll f m.finished m.tasks.length none).work
  simp only [poll, hw, hslots worker, left, Work.costOfAll_append, Work.costOfAll_running]
  omega

theorem waitsBehind_start (programs : List (List (Step α))) :
    (start (β := β) programs).WaitsBehind := by
  intro i w a hw ha
  have hw' : (programs.map (Work.running (β := β) []))[i]? = some w := hw
  obtain ⟨p, -, rfl⟩ := List.mem_map.1 (List.mem_of_getElem? hw')
  cases ha

theorem WaitsBehind.poll (h : m.WaitsBehind) (worker i : Nat) :
    (m.poll f worker i).WaitsBehind := by
  cases hw : m.tasks[i]? with
  | none => rwa [poll_of_none hw]
  | some w =>
    intro j w' a hw' ha
    obtain ⟨rfl, rfl⟩ | ⟨-, hold⟩ | ⟨-, p, -, rfl⟩ := cases_of_poll hw hw'
    · obtain hold | hnew := Work.awaits?_poll ha
      · exact h j w a hw hold
      · have hj := (List.getElem?_eq_some_iff.1 hw).1
        exact fun k hk => Nat.lt_of_lt_of_le hj (hnew k hk)
    · exact h j w' a hold ha
    · -- A new task has not begun to wait.
      cases ha

theorem WaitsBehind.run (h : m.WaitsBehind) (schedule : List (Nat × Nat)) :
    (m.run f schedule).WaitsBehind := by
  induction schedule generalizing m with
  | nil => exact h
  | cons x schedule ih => exact ih (h.poll x.1 x.2)

/-- If no task has anything to do, every task is finished with the results of its program. -/
theorem Follows.finished_of_idle (h : m.Follows f programs ps) (hwaits : m.WaitsBehind)
    (hidle : ∀ i, m.Idle i) (i : Nat) : m.finished i = Step.outcomes f ps i := by
  -- The last tasks come first: a task waits for tasks behind it only, and those are finished.
  induction hn : ps.length - i using Nat.strongRecOn generalizing i with
  | _ n ih =>
    by_cases hi : i < ps.length
    · have hw := List.getElem?_eq_getElem (h.length ▸ hi)
      obtain hdone | ⟨a, ha, hthere⟩ := hidle i _ hw
      · obtain ⟨rs, hrs⟩ := Option.ne_none_iff_exists'.1 hdone
        have hfinished : m.finished i = some rs := Option.bind_eq_some_iff.2 ⟨_, hw, hrs⟩
        rw [hfinished, h.finished i rs hfinished]
      · obtain ⟨r, hr⟩ := (h.works i _ _ (List.getElem?_eq_getElem hi) hw).awaits ha
        have hsame : a.result? m.finished = a.result? (Step.outcomes f ps) := by
          refine Awaited.result?_congr fun j hj => ?_
          have hij := hwaits i _ a hw ha j hj
          exact ih (ps.length - j) (by omega) j rfl
        rw [hsame, hr] at hthere
        cases hthere
    · have hi' : ¬ i < m.tasks.length := h.length ▸ hi
      simp only [TaskMachine.finished, Step.outcomes, List.getElem?_eq_none (Nat.le_of_not_lt hi),
        List.getElem?_eq_none (Nat.le_of_not_lt hi'), Option.bind_none, Option.map_none]

/-- A schedule that gives a number of rounds, and any turns behind them. In a round, every task
that is there when it begins gets a turn, by any worker and in any order. -/
inductive GivesRounds (f : Option Scope → α → β) :
    Nat → TaskMachine α β → List (Nat × Nat) → Prop
  | zero {m : TaskMachine α β} {schedule : List (Nat × Nat)} : GivesRounds f 0 m schedule
  | succ {n : Nat} {m : TaskMachine α β} {turns schedule : List (Nat × Nat)} :
    (∀ i < m.tasks.length, ∃ worker, (worker, i) ∈ turns) →
    GivesRounds f n (m.run f turns) schedule → GivesRounds f (n + 1) m (turns ++ schedule)

theorem run_append (f : Option Scope → α → β) (m : TaskMachine α β)
    (turns schedule : List (Nat × Nat)) :
    m.run f (turns ++ schedule) = (m.run f turns).run f schedule :=
  List.foldl_append

theorem idle_of_length_le {i : Nat} (hi : m.tasks.length ≤ i) : m.Idle i := by
  intro w hw
  rw [List.getElem?_eq_none hi] at hw
  cases hw

/-- When no task has anything to do, nothing happens any more. -/
theorem run_of_idle (hslots : ∀ worker, m.slots worker = none) (hidle : ∀ i, m.Idle i)
    (schedule : List (Nat × Nat)) : m.run f schedule = m := by
  induction schedule with
  | nil => rfl
  | cons x schedule ih =>
    show (m.poll f x.1 x.2).run f schedule = m
    rw [poll_of_idle hslots (hidle x.2) x.1, ih]

/-- Turns make what is left to do less, unless no task that gets one has anything to do. -/
theorem Follows.left_run (h : m.Follows f programs ps) (turns : List (Nat × Nat)) :
    (m.run f turns).left < m.left ∨ m.run f turns = m ∧ ∀ x ∈ turns, m.Idle x.2 := by
  induction turns generalizing m ps with
  | nil => exact .inr ⟨rfl, fun x hx => absurd hx List.not_mem_nil⟩
  | cons x turns ih =>
    show ((m.poll f x.1 x.2).run f turns).left < m.left ∨
      (m.poll f x.1 x.2).run f turns = m ∧ ∀ y ∈ x :: turns, m.Idle y.2
    by_cases hx : m.Idle x.2
    · rw [poll_of_idle h.slots hx x.1]
      obtain hless | ⟨hsame, hidle⟩ := ih h
      · exact .inl hless
      · refine .inr ⟨hsame, ?_⟩
        intro y hy
        obtain rfl | hy := List.mem_cons.1 hy
        · exact hx
        · exact hidle y hy
    · left
      have hless := left_poll_lt (f := f) h.slots hx x.1
      obtain ⟨more, hpoll⟩ := h.poll x.1 x.2
      obtain hrest | ⟨hsame, -⟩ := ih hpoll
      · exact Nat.lt_trans hrest hless
      · rwa [hsame]

/-- As many rounds as there is left to do leave no task with anything to do. -/
theorem Follows.idle_of_rounds {n : Nat} {schedule : List (Nat × Nat)}
    (hrounds : GivesRounds f n m schedule) (h : m.Follows f programs ps) (hleft : m.left ≤ n) :
    ∀ i, (m.run f schedule).Idle i := by
  induction hrounds generalizing ps with
  | @zero m schedule =>
    have hidle : ∀ i, m.Idle i := by
      intro i w hw
      have hcost := Work.cost_le_costOfAll (List.mem_of_getElem? hw)
      exact .inl (Work.results?_of_cost_eq_zero (Nat.le_zero.1 (Nat.le_trans hcost hleft)))
    rwa [run_of_idle h.slots hidle]
  | @succ n m turns schedule hturns _ ih =>
    rw [run_append]
    obtain hless | ⟨hsame, hidle⟩ := h.left_run turns
    · obtain ⟨more, hrun⟩ := h.run turns
      exact ih hrun (by omega)
    · have hall : ∀ i, m.Idle i := by
        intro i
        by_cases hi : i < m.tasks.length
        · obtain ⟨worker, hmem⟩ := hturns i hi
          exact hidle _ hmem
        · exact idle_of_length_le (Nat.le_of_not_lt hi)
      rwa [hsame, run_of_idle h.slots hall]

/-- As many rounds as the programs cost finish every task with the results of its program. -/
theorem finished_of_rounds {schedule : List (Nat × Nat)}
    (hrounds : GivesRounds f (Step.costsOfAll programs) (start programs) schedule)
    (h : ((start programs).run f schedule).Follows f programs ps) (i : Nat) :
    ((start programs).run f schedule).finished i = Step.outcomes f ps i := by
  have hleft := Nat.le_of_eq (left_start (β := β) programs)
  have hidle := (follows_start f programs).idle_of_rounds hrounds hleft
  have hwaits := (waitsBehind_start (β := β) programs).run (f := f) schedule
  exact h.finished_of_idle hwaits hidle i

/-- One worker that turns to the tasks in their order, again and again, gives any number of
rounds. -/
theorem exists_givesRounds (f : Option Scope → α → β) (n : Nat) (m : TaskMachine α β) :
    ∃ schedule, GivesRounds f n m schedule ∧ rounds f n m = m.run f schedule := by
  induction n generalizing m with
  | zero => exact ⟨[], .zero, rfl⟩
  | succ n ih =>
    obtain ⟨schedule, hgives, hrounds⟩ := ih (m.round f)
    refine ⟨(List.range m.tasks.length).map (fun i => (0, i)) ++ schedule, .succ ?_ hgives, ?_⟩
    · intro i hi
      exact ⟨0, List.mem_map.2 ⟨i, List.mem_range.2 hi, rfl⟩⟩
    · rw [run_append]
      exact hrounds

/-- Any program comes to an end, with its results, when its tasks take turns in rounds. -/
theorem finish_eq (f : Option Scope → α → β) (program : List (Step α)) :
    finish f program = some (Step.evalList f none program) := by
  obtain ⟨schedule, hgives, hrounds⟩ :=
    exists_givesRounds f (Step.costs none program) (start [program])
  obtain ⟨more, h⟩ := (follows_start f [program]).run schedule
  rw [finish, hrounds, finished_of_rounds hgives h 0]
  rfl

/-- The scope of a request for a path. -/
def scopeOf (path : String) : Scope := ⟨⟨"GET", path, none⟩, fun _ => .ok true⟩

/-- A scope that is kept is entered again by a task that is started in another scope. -/
example : finish (fun scope (_ : Unit) => scope.map fun s => s.request.path)
    [.enter (scopeOf "/a") [.look fun kept => [.enter (scopeOf "/b")
      [.spawn (Step.within kept [.act ()]), .spawnAll [[.suspend, .act ()],
        [.enter (scopeOf "/c") [.act ()]]], .act ()], .act ()]], .act ()] =
    some [.list [.list [.list [.list [.value (some "/a")]],
      .list [.list [.nothing, .value none], .list [.list [.value (some "/c")]]],
      .value (some "/b")], .value (some "/a")], .value none] := by rfl

end TaskMachine

end AccessGateway
