import AccessGateway.Text.Blank
import Mathlib.Data.List.DropRight

/-
  What is left of a text without the characters of a class at its ends, said without the way in
  which `trimBy` finds it: a part that neither begins nor ends with such a character and has nothing
  else around it (`IsTrimmed`). A text has one such part, and `trimBy` finds it
  (`trimBy_eq_iff`); it is empty exactly if the text is nothing but characters of the class
  (`trimBy_eq_nil_iff`).
-/

namespace AccessGateway

/-- A part of a text that neither begins nor ends with a character of a class and has nothing but
characters of the class around it. -/
structure IsTrimmed (p : Char → Bool) (text core : List Char) : Prop where
  around : ∃ front back, text = front ++ core ++ back ∧ (∀ c ∈ front, p c = true) ∧
    ∀ c ∈ back, p c = true
  first : ∀ c, core.head? = some c → p c = false
  last : ∀ c, core.getLast? = some c → p c = false

variable {p : Char → Bool} {text core : List Char}

theorem isTrimmed_trimBy (p : Char → Bool) (text : List Char) :
    IsTrimmed p text (trimBy p text) := by
  have htrim : trimBy p text = (text.dropWhile p).rdropWhile p := rfl
  refine ⟨⟨text.takeWhile p, (text.dropWhile p).rtakeWhile p, ?_, ?_, ?_⟩,
    fun c => head?_trimBy, fun c => getLast?_trimBy⟩
  · rw [htrim, List.append_assoc, List.rdropWhile_append_rtakeWhile,
      List.takeWhile_append_dropWhile]
  · intro c hc
    exact List.mem_takeWhile_imp hc
  · intro c hc
    exact List.mem_rtakeWhile_imp hc

theorem trimBy_eq_nil_iff : trimBy p text = [] ↔ ∀ c ∈ text, p c = true := by
  constructor
  · intro h c hc
    obtain ⟨⟨front, back, htext, hfront, hback⟩, -, -⟩ := isTrimmed_trimBy p text
    rw [htext, h, List.append_nil, List.mem_append] at hc
    exact hc.elim (hfront c) (hback c)
  · intro h
    rw [trimBy, List.dropWhile_eq_nil_iff.2 h]
    rfl

/-- Other characters all stay. -/
theorem mem_trimBy_iff {c : Char} (hc : p c = false) : c ∈ trimBy p text ↔ c ∈ text := by
  obtain ⟨⟨front, back, htext, hfront, hback⟩, -, -⟩ := isTrimmed_trimBy p text
  conv_rhs => rw [htext]
  rw [List.mem_append, List.mem_append]
  constructor
  · exact fun h => .inl (.inr h)
  · rintro ((h | h) | h)
    · exact absurd (hfront c h) (by simp [hc])
    · exact h
    · exact absurd (hback c h) (by simp [hc])

theorem trimBy_eq_iff : trimBy p text = core ↔ IsTrimmed p text core := by
  constructor
  · rintro rfl
    exact isTrimmed_trimBy p text
  · rintro ⟨⟨front, back, rfl, hfront, hback⟩, first, last⟩
    cases core with
    | nil =>
      rw [trimBy_eq_nil_iff, List.append_nil]
      exact List.forall_mem_append.2 ⟨hfront, hback⟩
    | cons c r =>
      have hstart : (front ++ c :: r ++ back).dropWhile p = c :: r ++ back := by
        rw [List.append_assoc, List.dropWhile_append_of_pos hfront]
        exact dropWhile_eq_self first
      have hback' : ∀ d ∈ back.reverse, p d = true := fun d hd =>
        hback d (List.mem_reverse.1 hd)
      have hend : (c :: r).reverse.dropWhile p = (c :: r).reverse :=
        dropWhile_eq_self fun d hd => last d (by rwa [List.head?_reverse] at hd)
      rw [trimBy, hstart, List.reverse_append, List.dropWhile_append_of_pos hback', hend,
        List.reverse_reverse]

theorem isTrimmed_trim (text : List Char) : IsTrimmed isBlank text (trim text) :=
  isTrimmed_trimBy isBlank text

theorem trim_eq_nil_iff : trim text = [] ↔ ∀ c ∈ text, isBlank c = true := trimBy_eq_nil_iff

theorem trim_eq_iff : trim text = core ↔ IsTrimmed isBlank text core := trimBy_eq_iff

end AccessGateway
