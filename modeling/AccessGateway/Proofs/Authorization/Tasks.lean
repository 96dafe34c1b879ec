import AccessGateway.Authorization.Tasks

/-
  What tasks see of scopes, whatever the order in which they take turns. `Step.evalList` gives the
  results of a program from its text alone: an action sees the scope of the innermost part around it
  in its own task. A task of the machine keeps to the program that it was started with
  (`Work.Follows`): the results so far, followed by those of the steps to come, are the results of
  the program. One turn keeps this up (`Work.Follows.poll`) and gives the slot back as it was
  (`Work.slot_poll`), so every schedule does (`TaskMachine.Follows.run`). What a task has done at
  any time is therefore the beginning of what its program gives (`Work.Follows.begins`), and all of
  it when the task is finished (`Work.Follows.eq_of_results?`).
-/

namespace AccessGateway

variable {α β : Type}

/-! ## Programs -/

namespace Step

mutual

/-- The programs of the tasks that a step starts in the scope that it sees. -/
def starts (scope : Option Scope) : Step α → List (List (Step α))
  | .act _ => []
  | .look next => startsList scope (next scope)
  | .suspend => []
  | .enter s body => startsList (some s) body
  | .spawn body => [body]
  | .spawnInside body => [within scope body]
  | .spawnAll bodies => bodies
  | .detach body => [body]

/-- The programs of the tasks that steps start in the scope that they see. -/
def startsList (scope : Option Scope) : List (Step α) → List (List (Step α))
  | [] => []
  | x :: r => starts scope x ++ startsList scope r

end

theorem evalList_append (f : Option Scope → α → β) (scope : Option Scope) (a b : List (Step α)) :
    evalList f scope (a ++ b) = evalList f scope a ++ evalList f scope b := by
  induction a with
  | nil => rfl
  | cons x a ih =>
    show eval f scope x ++ evalList f scope (a ++ b) = _
    rw [ih, ← List.append_assoc]
    rfl

theorem startsList_append (scope : Option Scope) (a b : List (Step α)) :
    startsList scope (a ++ b) = startsList scope a ++ startsList scope b := by
  induction a with
  | nil => rfl
  | cons x a ih =>
    show starts scope x ++ startsList scope (a ++ b) = _
    rw [ih, ← List.append_assoc]
    rfl

/-- A task that enters a scope, if there is one, has the results of its steps in that scope. -/
theorem evalList_within (f : Option Scope → α → β) (scope : Option Scope) (body : List (Step α)) :
    evalList f none (within scope body) =
      if scope.isSome then [.list (evalList f scope body)] else evalList f scope body := by
  cases scope <;> rfl

/-- A program has come to some results, with steps to come that give the others and start no tasks
but those of the program. -/
structure Leads (f : Option Scope → α → β) (scope : Option Scope) (p : List (Step α))
    (done : List (StepResult β)) (rest : List (Step α)) : Prop where
  results : evalList f scope p = done ++ evalList f scope rest
  started : startsList scope rest ⊆ startsList scope p

namespace Leads

variable {f : Option Scope → α → β} {scope : Option Scope} {p rest : List (Step α)}
  {done : List (StepResult β)} {x : Step α}

theorem refl (f : Option Scope → α → β) (scope : Option Scope) (p : List (Step α)) :
    Leads f scope p [] p := ⟨rfl, List.Subset.refl _⟩

theorem step (h : Leads f scope p done (x :: rest)) :
    Leads f scope p (done ++ eval f scope x) rest := by
  constructor
  · rw [h.results, List.append_assoc]
    rfl
  · exact List.Subset.trans (List.subset_append_right _ _) h.started

theorem look {next : Option Scope → List (Step α)}
    (h : Leads f scope p done (.look next :: rest)) :
    Leads f scope p done (next scope ++ rest) := by
  constructor
  · rw [h.results, evalList_append]
    rfl
  · rw [startsList_append]
    exact h.started

/-- The tasks of the next step are tasks of the program. -/
theorem starts (h : Leads f scope p done (x :: rest)) :
    starts scope x ⊆ startsList scope p :=
  List.Subset.trans (List.subset_append_left _ _) h.started

theorem eq_of_nil (h : Leads f scope p done []) : done = evalList f scope p := by
  rw [h.results]
  exact (List.append_nil done).symm

end Leads

end Step

/-! ## Results so far -/

/-- Results that others begin with. The last of them may be a list that is itself only begun. -/
inductive StepResult.Begins : List (StepResult β) → List (StepResult β) → Prop
  | nil {rs : List (StepResult β)} : Begins [] rs
  | cons {r : StepResult β} {rs ss : List (StepResult β)} : Begins rs ss →
    Begins (r :: rs) (r :: ss)
  | part {rs ss rest : List (StepResult β)} : Begins rs ss → Begins [.list rs] (.list ss :: rest)

theorem StepResult.Begins.append_left {rs ss : List (StepResult β)} (h : Begins rs ss)
    (done : List (StepResult β)) : Begins (done ++ rs) (done ++ ss) := by
  induction done with
  | nil => exact h
  | cons r done ih => exact .cons ih

theorem StepResult.begins_append (rs ss : List (StepResult β)) : Begins rs (rs ++ ss) := by
  have h : Begins (rs ++ []) (rs ++ ss) := Begins.nil.append_left rs
  rwa [List.append_nil] at h

/-- The results of work so far, those of a part that is at work as a list behind the others. -/
def Work.soFar : Work α β → List (StepResult β)
  | .running done _ => done
  | .inside _ inner done _ => done ++ [.list inner.soFar]
  | .waiting _ done _ => done

/-! ## Waiting -/

namespace Awaited

variable {g g' : Nat → Option (List (StepResult β))}

theorem all?_mono (hg : ∀ i rs, g i = some rs → g' i = some rs) {tasks : List Nat}
    {rs : List (StepResult β)} (h : all? g tasks = some rs) : all? g' tasks = some rs := by
  induction tasks generalizing rs with
  | nil => exact h
  | cons i tasks ih =>
    simp only [all?, Option.bind_eq_bind, Option.bind_eq_some_iff] at h ⊢
    obtain ⟨first, hfirst, others, hothers, hrs⟩ := h
    exact ⟨first, hg i first hfirst, others, ih hothers, hrs⟩

/-- A result that is there stays the same when more tasks are finished. -/
theorem result?_mono (hg : ∀ i rs, g i = some rs → g' i = some rs) {w : Awaited}
    {r : StepResult β} (h : w.result? g = some r) : w.result? g' = some r := by
  cases w with
  | whole i =>
    obtain ⟨rs, hrs, rfl⟩ := Option.map_eq_some_iff.1 h
    exact Option.map_eq_some_iff.2 ⟨rs, hg i rs hrs, rfl⟩
  | only i =>
    obtain ⟨rs, hrs, hr⟩ := Option.bind_eq_some_iff.1 h
    exact Option.bind_eq_some_iff.2 ⟨rs, hg i rs hrs, hr⟩
  | each tasks =>
    obtain ⟨rs, hrs, rfl⟩ := Option.map_eq_some_iff.1 h
    exact Option.map_eq_some_iff.2 ⟨rs, all?_mono hg hrs, rfl⟩

end Awaited

/-- What tasks come to that were started with programs. -/
def Step.outcomes (f : Option Scope → α → β) (ps : List (List (Step α))) (i : Nat) :
    Option (List (StepResult β)) := ps[i]?.map (evalList f none)

namespace Step

variable {f : Option Scope → α → β} {ps : List (List (Step α))}

theorem outcomes_append {i : Nat} {rs : List (StepResult β)} (h : outcomes f ps i = some rs)
    (more : List (List (Step α))) : outcomes f (ps ++ more) i = some rs := by
  obtain ⟨p, hp, rfl⟩ := Option.map_eq_some_iff.1 h
  refine Option.map_eq_some_iff.2 ⟨p, ?_, rfl⟩
  have hi : i < ps.length := (List.getElem?_eq_some_iff.1 hp).1
  rw [List.getElem?_append_left hi, hp]

theorem outcomes_length (f : Option Scope → α → β) (ps : List (List (Step α)))
    (p : List (Step α)) (more : List (List (Step α))) :
    outcomes f (ps ++ p :: more) ps.length = some (evalList f none p) := by
  unfold outcomes
  rw [List.getElem?_append_right (Nat.le_refl _), Nat.sub_self]
  rfl

/-- Tasks that are started at once come to what their programs give. -/
theorem all?_outcomes (f : Option Scope → α → β) (ps bodies : List (List (Step α))) :
    Awaited.all? (outcomes f (ps ++ bodies)) (List.range' ps.length bodies.length) =
      some (evalAll f bodies) := by
  induction bodies generalizing ps with
  | nil => rfl
  | cons p bodies ih =>
    have hrest := ih (ps ++ [p])
    rw [List.append_assoc, List.length_append] at hrest
    rw [List.length_cons, List.range'_succ]
    simp only [Awaited.all?, Option.bind_eq_bind, outcomes_length, Option.bind_some]
    rw [show Awaited.all? (outcomes f (ps ++ p :: bodies))
      (List.range' (ps.length + 1) bodies.length) = some (evalAll f bodies) from hrest]
    rfl

end Step

/-! ## One turn -/

namespace Work

/-- Work on a program in the scope that it sees: the results so far and the steps to come are those
of the program, in every part that is at work. -/
inductive Follows (f : Option Scope → α → β) (ps : List (List (Step α))) :
    Option Scope → List (Step α) → Work α β → Prop
  | running {scope : Option Scope} {p : List (Step α)} {done : List (StepResult β)}
    {rest : List (Step α)} : Step.Leads f scope p done rest →
    Follows f ps scope p (.running done rest)
  | inside {scope : Option Scope} {p body : List (Step α)} {s : Scope} {inner : Work α β}
    {done : List (StepResult β)} {rest : List (Step α)} :
    Step.Leads f scope p done (.enter s body :: rest) → Follows f ps (some s) body inner →
    Follows f ps scope p (.inside s inner done rest)
  | waiting {scope : Option Scope} {p : List (Step α)} {w : Awaited} {r : StepResult β}
    {done : List (StepResult β)} {rest : List (Step α)} :
    w.result? (Step.outcomes f ps) = some r → Step.Leads f scope p (done ++ [r]) rest →
    Follows f ps scope p (.waiting w done rest)

variable {f : Option Scope → α → β} {ps : List (List (Step α))} {scope : Option Scope}
  {p : List (Step α)} {w : Work α β}

theorem Follows.append (h : w.Follows f ps scope p) (more : List (List (Step α))) :
    w.Follows f (ps ++ more) scope p := by
  induction h with
  | running hleads => exact .running hleads
  | inside hleads _ ih => exact .inside hleads ih
  | waiting hr hleads =>
    refine .waiting (Awaited.result?_mono ?_ hr) hleads
    intro i rs hrs
    exact Step.outcomes_append hrs more

/-- What is finished has the results of its program. -/
theorem Follows.eq_of_results? {rs : List (StepResult β)} (h : w.Follows f ps scope p)
    (hrs : w.results? = some rs) : rs = Step.evalList f scope p := by
  cases h with
  | running hleads =>
    unfold results? at hrs
    split at hrs
    · next hwork =>
      obtain ⟨rfl, rfl⟩ := Work.running.inj hwork
      obtain rfl := Option.some.inj hrs
      exact hleads.eq_of_nil
    · cases hrs
  | inside => cases hrs
  | waiting => cases hrs

/-- What has been done so far is the beginning of what the program gives. -/
theorem Follows.begins (h : w.Follows f ps scope p) :
    StepResult.Begins w.soFar (Step.evalList f scope p) := by
  induction h with
  | running hleads =>
    rw [hleads.results]
    exact StepResult.begins_append _ _
  | inside hleads _ ih =>
    rw [hleads.results]
    exact (StepResult.Begins.part ih).append_left _
  | waiting _ hleads =>
    rw [hleads.results, List.append_assoc]
    exact StepResult.begins_append _ _

/-- Work that goes on behind a part inside a scope. -/
theorem Follows.leave {s : Scope} {inner : Work α β} {body rest : List (Step α)}
    {done : List (StepResult β)} (hleads : Step.Leads f scope p done (.enter s body :: rest))
    (h : inner.Follows f ps (some s) body) :
    (leave s inner done rest).Follows f ps scope p := by
  unfold Work.leave
  cases hrs : inner.results? with
  | none => exact .inside hleads h
  | some rs =>
    rw [h.eq_of_results? hrs]
    exact .running hleads.step

variable (f) in
/-- A turn gives the slot back as it was. -/
theorem slot_poll (finished : Nat → Option (List (StepResult β))) (next : Nat)
    (slot : Option Scope) (w : Work α β) : (w.poll f finished next slot).slot = slot := by
  cases w with
  | running done rest =>
    cases rest with
    | nil => rfl
    | cons x rest => cases x <;> rfl
  | inside s inner done rest => rfl
  | waiting w done rest =>
    simp only [poll]
    split <;> rfl

/-- With the scope that the work sees in the slot, a turn keeps to the program, and the tasks that
it starts are tasks of the program. -/
theorem Follows.poll {finished : Nat → Option (List (StepResult β))}
    (h : w.Follows f ps scope p)
    (hfinished : ∀ i rs, finished i = some rs → Step.outcomes f ps i = some rs) :
    (w.poll f finished ps.length scope).work.Follows f
        (ps ++ (w.poll f finished ps.length scope).started) scope p ∧
      (w.poll f finished ps.length scope).started ⊆ Step.startsList scope p := by
  induction h with
  | @running scope p done rest hleads =>
    cases rest with
    | nil => exact ⟨.running hleads, List.nil_subset _⟩
    | cons x rest =>
      have hstarts := hleads.starts
      have hstep := hleads.step
      cases x with
      | act a => exact ⟨.running hstep, List.nil_subset _⟩
      | look next => exact ⟨.running hleads.look, List.nil_subset _⟩
      | suspend => exact ⟨.running hstep, List.nil_subset _⟩
      | enter s body => exact ⟨.inside hleads (.running (.refl f _ body)), List.nil_subset _⟩
      | spawn body =>
        refine ⟨.waiting ?_ hstep, hstarts⟩
        exact congrArg (Option.map StepResult.list) (Step.outcomes_length f ps body [])
      | spawnInside body =>
        refine ⟨.waiting ?_ hstep, hstarts⟩
        have hbody := Step.outcomes_length f ps (Step.within scope body) []
        rw [Step.evalList_within] at hbody
        cases scope with
        | none => exact congrArg (Option.map StepResult.list) hbody
        | some s => exact congrArg (Option.bind · List.head?) hbody
      | spawnAll bodies =>
        refine ⟨.waiting ?_ hstep, hstarts⟩
        exact congrArg (Option.map StepResult.list) (Step.all?_outcomes f ps bodies)
      | detach body => exact ⟨.running hstep, hstarts⟩
  | @inside scope p body s inner done rest hleads _ ih =>
    obtain ⟨hinner, hstarted⟩ := ih
    exact ⟨.leave hleads hinner, List.Subset.trans hstarted hleads.starts⟩
  | @waiting scope p a r done rest hr hleads =>
    simp only [Work.poll]
    cases hthere : a.result? finished with
    | none => exact ⟨(Follows.waiting hr hleads).append _, List.nil_subset _⟩
    | some r' =>
      have hsame := Awaited.result?_mono hfinished hthere
      obtain rfl := Option.some.inj (hsame.symm.trans hr)
      exact ⟨.running hleads, List.nil_subset _⟩

end Work

/-! ## Schedules -/

namespace TaskMachine

/-- A machine whose tasks keep to their programs: the first ones to those it was started with, and
every other one to a program that a task before it starts. No slot is taken between turns. -/
structure Follows (f : Option Scope → α → β) (programs ps : List (List (Step α)))
    (m : TaskMachine α β) : Prop where
  slots : ∀ worker, m.slots worker = none
  first : programs <+: ps
  length : ps.length = m.tasks.length
  origin : ∀ (j : Nat) p, programs.length ≤ j → ps[j]? = some p →
    ∃ (i : Nat) (q : List (Step α)), i < j ∧ ps[i]? = some q ∧ p ∈ Step.startsList none q
  works : ∀ (i : Nat) p w, ps[i]? = some p → m.tasks[i]? = some w → w.Follows f ps none p

variable {f : Option Scope → α → β} {programs ps : List (List (Step α))} {m : TaskMachine α β}

theorem follows_start (f : Option Scope → α → β) (programs : List (List (Step α))) :
    (start (β := β) programs).Follows f programs programs where
  slots := fun _ => rfl
  first := List.prefix_rfl
  length := (List.length_map _).symm
  origin := by
    intro j p hj hp
    have hlt := (List.getElem?_eq_some_iff.1 hp).1
    omega
  works := by
    intro i p w hp hw
    have hw' : (programs.map (Work.running (β := β) []))[i]? = some w := hw
    rw [List.getElem?_map, hp] at hw'
    obtain rfl := Option.some.inj hw'
    exact .running (.refl f none p)

/-- Tasks that are finished came to what their programs give. -/
theorem Follows.finished (h : m.Follows f programs ps) (i : Nat) (rs : List (StepResult β))
    (hrs : m.finished i = some rs) : Step.outcomes f ps i = some rs := by
  obtain ⟨w, hw, hresults⟩ := Option.bind_eq_some_iff.1 hrs
  have hi : i < ps.length := h.length ▸ (List.getElem?_eq_some_iff.1 hw).1
  have hp := List.getElem?_eq_getElem hi
  rw [(h.works i _ w hp hw).eq_of_results? hresults, Step.outcomes, hp]
  rfl

theorem poll_of_none {i : Nat} (hw : m.tasks[i]? = none) (worker : Nat) :
    m.poll f worker i = m := by
  simp only [TaskMachine.poll, hw]

/-- A task that is there behind a turn is the one that got it, or another one as it was, or one
that the turn has started. -/
theorem cases_of_poll {worker i j : Nat} {w w' : Work α β} (hw : m.tasks[i]? = some w)
    (hw' : (m.poll f worker i).tasks[j]? = some w') :
    let turn := w.poll f m.finished m.tasks.length (m.slots worker)
    (j = i ∧ w' = turn.work) ∨ (j < m.tasks.length ∧ m.tasks[j]? = some w') ∨
      (m.tasks.length ≤ j ∧
        ∃ p, turn.started[j - m.tasks.length]? = some p ∧ w' = .running [] p) := by
  intro turn
  unfold TaskMachine.poll at hw'
  simp only [hw] at hw'
  by_cases hj : j < m.tasks.length
  · rw [List.getElem?_append_left (by simpa using hj)] at hw'
    by_cases hij : i = j
    · subst hij
      rw [List.getElem?_set_self hj] at hw'
      exact .inl ⟨rfl, (Option.some.inj hw').symm⟩
    · rw [List.getElem?_set_ne hij] at hw'
      exact .inr (.inl ⟨hj, hw'⟩)
  · rw [List.getElem?_append_right (by simpa using hj), List.length_set, List.getElem?_map] at hw'
    obtain ⟨p, hp, rfl⟩ := Option.map_eq_some_iff.1 hw'
    exact .inr (.inr ⟨Nat.le_of_not_lt hj, p, hp, rfl⟩)

/-- A turn keeps every task to its program. -/
theorem Follows.poll (h : m.Follows f programs ps) (worker i : Nat) :
    ∃ more, (m.poll f worker i).Follows f programs (ps ++ more) := by
  cases hw : m.tasks[i]? with
  | none => exact ⟨[], by rwa [poll_of_none hw, List.append_nil]⟩
  | some w =>
    have hi : i < ps.length := h.length ▸ (List.getElem?_eq_some_iff.1 hw).1
    have hp := List.getElem?_eq_getElem hi
    have hslot := Work.slot_poll f m.finished m.tasks.length none w
    have hcases := fun j w' => @cases_of_poll _ _ f m worker i j w w' hw
    obtain ⟨hwork, hstarted⟩ := (h.works i _ w hp hw).poll h.finished
    rw [h.length] at hwork hstarted
    simp only [h.slots worker] at hcases
    generalize hturn : w.poll f m.finished m.tasks.length none = turn at hwork hstarted hslot hcases
    have hpoll : m.poll f worker i = ⟨fun k => if k = worker then turn.slot else m.slots k,
        m.tasks.set i turn.work ++ turn.started.map (.running [])⟩ := by
      simp only [TaskMachine.poll, hw, h.slots worker, hturn]
    refine ⟨turn.started, ?_, ?_, ?_, ?_, ?_⟩
    · intro k
      rw [hpoll]
      show (if k = worker then turn.slot else m.slots k) = none
      rw [hslot, h.slots k, ite_self]
    · exact h.first.trans (List.prefix_append ps turn.started)
    · rw [hpoll]
      simp [h.length]
    · intro j p hj hjp
      by_cases hjlt : j < ps.length
      · rw [List.getElem?_append_left hjlt] at hjp
        obtain ⟨k, q, hkj, hq, hmem⟩ := h.origin j p hj hjp
        refine ⟨k, q, hkj, ?_, hmem⟩
        rw [List.getElem?_append_left (by omega), hq]
      · rw [List.getElem?_append_right (by omega)] at hjp
        refine ⟨i, ps[i], by omega, ?_, hstarted (List.mem_of_getElem? hjp)⟩
        rw [List.getElem?_append_left hi, hp]
    · intro j p w' hjp hjw
      obtain ⟨rfl, rfl⟩ | ⟨hjlt, hold⟩ | ⟨hjge, q, hq, rfl⟩ := hcases j w' hjw
      · rw [List.getElem?_append_left hi, hp] at hjp
        obtain rfl := Option.some.inj hjp
        exact hwork
      · rw [List.getElem?_append_left (h.length ▸ hjlt)] at hjp
        exact (h.works j p w' hjp hold).append turn.started
      · rw [List.getElem?_append_right (h.length ▸ hjge), h.length, hq] at hjp
        obtain rfl := Option.some.inj hjp
        exact .running (.refl f none q)

theorem Follows.run (h : m.Follows f programs ps) (schedule : List (Nat × Nat)) :
    ∃ more, (m.run f schedule).Follows f programs (ps ++ more) := by
  induction schedule generalizing m ps with
  | nil => exact ⟨[], by rwa [List.append_nil]⟩
  | cons x schedule ih =>
    obtain ⟨more, hpoll⟩ := h.poll x.1 x.2
    obtain ⟨rest, hrun⟩ := ih hpoll
    exact ⟨more ++ rest, by rwa [← List.append_assoc]⟩

end TaskMachine

end AccessGateway
