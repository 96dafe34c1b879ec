import AccessGateway.Provider.Registry

/-
  What a registry holds after factories were registered in it one after another. A call is refused
  exactly if its name is taken under its kind (`enter_of_contains`, `enter_of_fresh`), so that a run
  keeps the first registration under a kind and a name and drops the others (`find?_run`). `Holds`
  puts together what can be seen of a registry and of the answers to the calls on it, and every
  registry that was empty at first holds its calls.
-/

namespace AccessGateway

variable {τ : Type} {Factory : τ → Type} {ε : Type}

/-- A registration is under a kind and a name. -/
def Registration.Under (c : Registration Factory) (kind : CapabilityKind) (name : String) : Prop :=
  c.kind = kind ∧ c.name = name

/-- The first registration, of some in order, under a kind and a name. -/
def Registration.First (cs : List (Registration Factory)) (kind : CapabilityKind) (name : String)
    (c : Registration Factory) : Prop :=
  ∃ before later, cs = before ++ c :: later ∧ c.Under kind name ∧
    ∀ b ∈ before, ¬ b.Under kind name

namespace Registry

open Registration (First)

variable {r : Registry Factory} {kind : CapabilityKind} {name : String}
  {c : Registration Factory} {cs ds : List (Registration Factory)}

/-- Registers the factory of a registration. -/
def enter (r : Registry Factory) (c : Registration Factory) :
    Except (RegistryError ε) (Registry Factory) :=
  r.register ⟨c.kind, c.provider⟩ c.name c.factory

/-- Registers factories in order. Gives the answers and the registry at the end; a call that fails
gives no registry, and the next one goes on with the one that was there. -/
def run (ε : Type) (r : Registry Factory) :
    List (Registration Factory) → List (Except (RegistryError ε) Unit) × Registry Factory
  | [] => ([], r)
  | c :: cs =>
    match r.enter c with
    | .error e => (.error e :: (run ε r cs).1, (run ε r cs).2)
    | .ok s => (.ok () :: (run ε s cs).1, (run ε s cs).2)

/-! ## Look-ups -/

theorem find?_eq_some_iff {f : Registration Factory} :
    r.find? kind name = some f ↔ First r.registrations kind name f := by
  have hkey : ∀ c : Registration Factory,
      (decide (c.kind = kind) && decide (c.name = name)) = true ↔ c.Under kind name := by
    simp [Registration.Under]
  unfold find? First
  simp only [List.find?_eq_some_iff_append, Bool.not_eq_true', ← Bool.not_eq_true, hkey]
  constructor
  · rintro ⟨hf, before, later, hsplit, hbefore⟩
    exact ⟨before, later, hsplit, hf, hbefore⟩
  · rintro ⟨before, later, hsplit, hf, hbefore⟩
    exact ⟨hf, before, later, hsplit, hbefore⟩

theorem contains_iff :
    r.contains kind name = true ↔ ∃ c ∈ r.registrations, c.Under kind name := by
  unfold contains find? Registration.Under
  simp

theorem resolve_of_find? [DecidableEq τ] {f : Registration Factory}
    (h : r.find? kind name = some f) :
    r.resolve (ε := ε) ⟨kind, f.provider⟩ name = .ok f.factory := by
  unfold resolve
  simp only [h]
  rfl

theorem resolve_of_other_type [DecidableEq τ] {f : Registration Factory} {t : τ}
    (h : r.find? kind name = some f) (ht : t ≠ f.provider) :
    r.resolve (ε := ε) ⟨kind, t⟩ name = .error (.capabilityMismatch kind name) := by
  unfold resolve
  simp only [h, dif_neg (Ne.symm ht)]

theorem resolve_of_not_contains [DecidableEq τ] {t : τ} (h : ¬ r.contains kind name = true) :
    r.resolve (ε := ε) ⟨kind, t⟩ name = .error (.unknownProvider kind name) := by
  have hnone : r.find? kind name = none := by simpa [contains] using h
  unfold resolve
  simp only [hnone]

/-- A name that is taken under the kind is refused. -/
theorem enter_of_contains (h : r.contains c.kind c.name = true) :
    r.enter (ε := ε) c = .error (.duplicateProvider c.kind c.name) := if_pos h

/-- A name that is free under the kind goes behind the others. -/
theorem enter_of_fresh (h : ¬ r.contains c.kind c.name = true) :
    r.enter (ε := ε) c = .ok ⟨r.registrations ++ [c]⟩ := if_neg h

/-! ## Runs -/

theorem run_cons_of_contains (h : r.contains c.kind c.name = true) (cs) :
    r.run ε (c :: cs) =
      (.error (.duplicateProvider c.kind c.name) :: (r.run ε cs).1, (r.run ε cs).2) := by
  rw [run, enter_of_contains h]

theorem run_cons_of_fresh (h : ¬ r.contains c.kind c.name = true) (cs) :
    r.run ε (c :: cs) = (.ok () :: (run ε ⟨r.registrations ++ [c]⟩ cs).1,
      (run ε ⟨r.registrations ++ [c]⟩ cs).2) := by
  rw [run, enter_of_fresh h]

theorem run_append (r : Registry Factory) (cs ds : List (Registration Factory)) :
    r.run ε (cs ++ ds) =
      ((r.run ε cs).1 ++ ((r.run ε cs).2.run ε ds).1, ((r.run ε cs).2.run ε ds).2) := by
  induction cs generalizing r with
  | nil => rfl
  | cons c cs ih =>
    by_cases h : r.contains c.kind c.name = true
    · rw [List.cons_append, run_cons_of_contains h, run_cons_of_contains h, ih]
      rfl
    · rw [List.cons_append, run_cons_of_fresh h, run_cons_of_fresh h, ih]
      rfl

theorem length_run (r : Registry Factory) (cs : List (Registration Factory)) :
    (r.run ε cs).1.length = cs.length := by
  induction cs generalizing r with
  | nil => rfl
  | cons c cs ih =>
    by_cases h : r.contains c.kind c.name = true
    · rw [run_cons_of_contains h]
      exact congrArg (· + 1) (ih r)
    · rw [run_cons_of_fresh h]
      exact congrArg (· + 1) (ih _)

/-- The answer to a call is that of the registry which the calls before it leave. -/
theorem getElem?_run (r : Registry Factory) (cs : List (Registration Factory))
    (c : Registration Factory) (ds : List (Registration Factory)) :
    (r.run ε (cs ++ c :: ds)).1[cs.length]? =
      some (((r.run ε cs).2.enter c).map fun _ => ()) := by
  rw [run_append, List.getElem?_append_right (Nat.le_of_eq (length_run r cs)), length_run,
    Nat.sub_self]
  by_cases h : (r.run ε cs).2.contains c.kind c.name = true
  · rw [run_cons_of_contains h, enter_of_contains h]
    rfl
  · rw [run_cons_of_fresh h, enter_of_fresh h]
    rfl

theorem find?_append (cs bs : List (Registration Factory)) :
    find? ⟨cs ++ bs⟩ kind name = (find? ⟨cs⟩ kind name).or (find? ⟨bs⟩ kind name) :=
  List.find?_append

/-- What is found after a run is what was found before it, or else the first call of the name. -/
theorem find?_run (r : Registry Factory) (cs : List (Registration Factory)) :
    (r.run ε cs).2.find? kind name = (r.find? kind name).or (find? ⟨cs⟩ kind name) := by
  induction cs generalizing r with
  | nil => rw [run, find?, find?, List.find?_nil, Option.or_none]
  | cons c cs ih =>
    have hcons : find? ⟨c :: cs⟩ kind name =
        (find? ⟨[c]⟩ kind name).or (find? ⟨cs⟩ kind name) :=
      find?_append [c] cs
    by_cases h : r.contains c.kind c.name = true
    · rw [run_cons_of_contains h, ih, hcons]
      by_cases hc : c.Under kind name
      · obtain ⟨rfl, rfl⟩ := hc
        obtain ⟨f, hf⟩ := Option.isSome_iff_exists.1 h
        rw [hf]
        rfl
      · have hnone : find? ⟨[c]⟩ kind name = none := by
          unfold Registration.Under at hc
          simpa [find?] using hc
        rw [hnone, Option.none_or]
    · rw [run_cons_of_fresh h, ih, hcons, find?_append, Option.or_assoc]

theorem find?_run_empty (cs : List (Registration Factory)) :
    ((empty : Registry Factory).run ε cs).2.find? kind name = find? ⟨cs⟩ kind name := by
  rw [find?_run, empty, find?, List.find?_nil, Option.none_or]

theorem contains_run_empty (cs : List (Registration Factory)) :
    ((empty : Registry Factory).run ε cs).2.contains kind name = true ↔
      ∃ b ∈ cs, b.Under kind name := by
  rw [contains, find?_run_empty]
  exact contains_iff (r := ⟨cs⟩)

theorem exists_first_iff :
    (∃ f, First cs kind name f) ↔ ∃ b ∈ cs, b.Under kind name := by
  rw [← contains_iff (r := ⟨cs⟩), contains, Option.isSome_iff_exists]
  exact exists_congr fun f => (find?_eq_some_iff (r := ⟨cs⟩)).symm

theorem size_run (r : Registry Factory) (cs : List (Registration Factory)) :
    (r.run ε cs).2.size = r.size + (r.run ε cs).1.countP Except.isOk := by
  induction cs generalizing r with
  | nil => rfl
  | cons c cs ih =>
    by_cases h : r.contains c.kind c.name = true
    · rw [run_cons_of_contains h, ih, List.countP_cons]
      rfl
    · have hsize : size ⟨r.registrations ++ [c]⟩ = r.size + 1 := List.length_append
      rw [run_cons_of_fresh h, ih, List.countP_cons, hsize]
      simp only [Except.isOk, Except.toBool, if_true]
      omega

theorem mem_names_iff : name ∈ r.names kind ↔ r.contains kind name = true := by
  rw [names, Table.mem_keys_ofList, contains_iff, Entries.names, List.map_map, List.mem_map]
  refine exists_congr fun c => ?_
  simp [Registration.Under, and_assoc]

/-! ## What a registry holds -/

/-- Before a place in a run, a call under a kind and a name succeeded. -/
def TakenBefore (cs : List (Registration Factory)) (answers : List (Except (RegistryError ε) Unit))
    (i : Nat) (kind : CapabilityKind) (name : String) : Prop :=
  ∃ j < i, ∃ b, cs[j]? = some b ∧ b.Under kind name ∧ answers[j]? = some (.ok ())

/-- What can be seen of the answers to some calls and of the registry that they leave. -/
structure Holds [DecidableEq τ] (cs : List (Registration Factory))
    (answers : List (Except (RegistryError ε) Unit)) (r : Registry Factory) : Prop where
  /-- A call is refused exactly if one before it took its name. -/
  refused : ∀ (i : Nat) (c : Registration Factory), cs[i]? = some c →
    (answers[i]? = some (.error (.duplicateProvider c.kind c.name)) ↔
      TakenBefore cs answers i c.kind c.name)
  /-- Every other call succeeds. -/
  accepted : ∀ (i : Nat) (c : Registration Factory), cs[i]? = some c →
    (answers[i]? = some (.ok ()) ↔ ¬ TakenBefore cs answers i c.kind c.name)
  /-- Without a call that is refused, the others are answered the same and leave the same. -/
  omitted : ∀ before c later e, cs = before ++ c :: later →
    answers[before.length]? = some (.error e) →
      empty.run ε (before ++ later) = (answers.eraseIdx before.length, r)
  /-- The first call under a kind and a name is found by whoever asks for its type of provider. -/
  resolved : ∀ kind name f, First cs kind name f →
    r.resolve (ε := ε) ⟨kind, f.provider⟩ name = .ok f.factory
  /-- Whoever asks for another type of provider is told so. -/
  mismatched : ∀ kind name f t, First cs kind name f → t ≠ f.provider →
    r.resolve (ε := ε) ⟨kind, t⟩ name = .error (.capabilityMismatch kind name)
  /-- A name that no call has under the kind is unknown. -/
  unknown : ∀ kind name t, (∀ b ∈ cs, ¬ b.Under kind name) →
    r.resolve (ε := ε) ⟨kind, t⟩ name = .error (.unknownProvider kind name)
  /-- A name is there exactly if there is a first call that has it. -/
  contained : ∀ kind name, r.contains kind name = true ↔ ∃ f, First cs kind name f
  /-- The names under a kind are listed once each, in ascending order. -/
  listed : ∀ kind, (r.names kind).Pairwise (fun a b => a < b) ∧
    ∀ name, name ∈ r.names kind ↔ ∃ b ∈ cs, b.Under kind name
  /-- There are as many factories as calls that succeeded. -/
  counted : r.size = answers.countP Except.isOk

theorem answer_of_taken {b : Registration Factory} (hb : b ∈ cs) (h : b.Under c.kind c.name) :
    (empty.run ε (cs ++ c :: ds)).1[cs.length]? =
      some (.error (.duplicateProvider c.kind c.name)) := by
  have hcontains := (contains_run_empty (ε := ε) cs).2 ⟨b, hb, h⟩
  rw [getElem?_run, enter_of_contains hcontains]
  rfl

theorem answer_of_free (h : ∀ b ∈ cs, ¬ b.Under c.kind c.name) :
    (empty.run ε (cs ++ c :: ds)).1[cs.length]? = some (.ok ()) := by
  have hcontains : ¬ (empty.run ε cs).2.contains c.kind c.name = true := by
    rw [contains_run_empty]
    rintro ⟨b, hb, hunder⟩
    exact h b hb hunder
  rw [getElem?_run, enter_of_fresh hcontains]
  rfl

/-- A name that a call has is taken, for the first call that has it succeeds. -/
theorem takenBefore_iff :
    TakenBefore (cs ++ c :: ds) (empty.run ε (cs ++ c :: ds)).1 cs.length kind name ↔
      ∃ b ∈ cs, b.Under kind name := by
  constructor
  · rintro ⟨j, hj, b, hb, hunder, -⟩
    rw [List.getElem?_append_left hj] at hb
    exact ⟨b, List.mem_of_getElem? hb, hunder⟩
  · intro h
    obtain ⟨f, before, later, rfl, ⟨rfl, rfl⟩, hbefore⟩ := exists_first_iff.2 h
    have hanswer : (empty.run ε (before ++ f :: (later ++ c :: ds))).1[before.length]? =
        some (.ok ()) := answer_of_free hbefore
    rw [List.append_assoc, List.cons_append]
    refine ⟨before.length, ?_, f, ?_, ⟨rfl, rfl⟩, hanswer⟩
    · simp
    · simp

/-- One call in a run: it is refused if a call before it took its name, and succeeds if none
did. -/
theorem answer_cases {i : Nat} (hc : cs[i]? = some c) :
    (TakenBefore cs (empty.run ε cs).1 i c.kind c.name ∧
        (empty.run ε cs).1[i]? = some (.error (.duplicateProvider c.kind c.name))) ∨
      (¬ TakenBefore cs (empty.run ε cs).1 i c.kind c.name ∧
        (empty.run ε cs).1[i]? = some (.ok ())) := by
  obtain ⟨before, later, rfl, rfl⟩ : ∃ before later, cs = before ++ c :: later ∧
      before.length = i := by
    obtain ⟨hi, rfl⟩ := List.getElem?_eq_some_iff.1 hc
    exact ⟨cs.take i, cs.drop (i + 1), by simp, List.length_take_of_le (Nat.le_of_lt hi)⟩
  rw [takenBefore_iff]
  by_cases h : ∃ b ∈ before, b.Under c.kind c.name
  · obtain ⟨b, hb, hunder⟩ := h
    exact .inl ⟨⟨b, hb, hunder⟩, answer_of_taken hb hunder⟩
  · exact .inr ⟨h, answer_of_free fun b hb hunder => h ⟨b, hb, hunder⟩⟩

/-- A call that is refused might as well not have been made. -/
theorem run_of_refused {e : RegistryError ε}
    (h : (empty.run ε (cs ++ c :: ds)).1[cs.length]? = some (.error e)) :
    empty.run ε (cs ++ ds) =
      ((empty.run ε (cs ++ c :: ds)).1.eraseIdx cs.length, (empty.run ε (cs ++ c :: ds)).2) := by
  have hlength := length_run (ε := ε) empty cs
  by_cases hcontains : (empty.run ε cs).2.contains c.kind c.name = true
  · rw [run_append, run_append, run_cons_of_contains hcontains, ← hlength,
      List.eraseIdx_append_of_length_le (Nat.le_refl _), Nat.sub_self]
    rfl
  · rw [getElem?_run, enter_of_fresh hcontains] at h
    cases h

/-- A registry that was empty holds what was registered in it. -/
theorem holds_run [DecidableEq τ] (cs : List (Registration Factory)) :
    Holds cs (empty.run ε cs).1 (empty.run ε cs).2 := by
  have hfind : ∀ kind name f, First cs kind name f →
      (empty.run ε cs).2.find? kind name = some f := by
    intro kind name f hf
    rw [find?_run_empty]
    exact find?_eq_some_iff.2 hf
  refine ⟨?_, ?_, ?_, ?_, ?_, ?_, ?_, ?_, ?_⟩
  · intro i c hc
    rcases answer_cases (ε := ε) hc with ⟨htaken, hanswer⟩ | ⟨htaken, hanswer⟩
    · simp [htaken, hanswer]
    · simp [htaken, hanswer]
  · intro i c hc
    rcases answer_cases (ε := ε) hc with ⟨htaken, hanswer⟩ | ⟨htaken, hanswer⟩
    · simp [htaken, hanswer]
    · simp [htaken, hanswer]
  · rintro before c later e rfl he
    exact run_of_refused he
  · intro kind name f hf
    exact resolve_of_find? (hfind kind name f hf)
  · intro kind name f t hf ht
    exact resolve_of_other_type (hfind kind name f hf) ht
  · intro kind name t h
    refine resolve_of_not_contains ?_
    rw [contains_run_empty]
    rintro ⟨b, hb, hunder⟩
    exact h b hb hunder
  · intro kind name
    rw [contains_run_empty, exists_first_iff]
  · intro kind
    refine ⟨Table.keys_ascending _, fun name => ?_⟩
    rw [mem_names_iff, contains_run_empty]
  · rw [size_run]
    exact Nat.zero_add _

/-- A name can stand under two kinds, and a second call under one of them changes nothing. -/
example :
    let x := (empty : Registry fun _ : Bool => Nat).run Unit
      [⟨.authn, "a", true, 1⟩, ⟨.authz, "a", true, 2⟩, ⟨.authn, "a", false, 3⟩]
    x.1 = [.ok (), .ok (), .error (.duplicateProvider .authn "a")] ∧
      x.2.resolve (ε := Unit) ⟨.authn, true⟩ "a" = .ok 1 ∧
      x.2.resolve (ε := Unit) ⟨.authn, false⟩ "a" = .error (.capabilityMismatch .authn "a") ∧
      x.2.names .authz = ["a"] := ⟨rfl, rfl, rfl, rfl⟩

end Registry

end AccessGateway
