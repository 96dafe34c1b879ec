/-
  White space and trimming. A blank is a character with the Unicode property White_Space;
  `trim` removes the blanks at both ends and nothing else: what is left starts and ends with no
  blank (`head?_trim`, `getLast?_trim`), and a text without blanks at its ends stays as it is
  (`trim_eq_self`).
-/

namespace AccessGateway

/-- The characters with the property White_Space. -/
def isBlank (c : Char) : Bool :=
  ('\t' ≤ c && c ≤ '\r') || c == ' ' || c.toNat == 0x85 || c.toNat == 0xA0 ||
  c.toNat == 0x1680 || (0x2000 ≤ c.toNat && c.toNat ≤ 0x200A) || c.toNat == 0x2028 ||
  c.toNat == 0x2029 || c.toNat == 0x202F || c.toNat == 0x205F || c.toNat == 0x3000

/-- The list without the characters of a class at its start and at its end. -/
def trimBy (p : Char → Bool) (cs : List Char) : List Char :=
  ((cs.dropWhile p).reverse.dropWhile p).reverse

/-- The list without the blanks at its ends. -/
def trim (cs : List Char) : List Char := trimBy isBlank cs

/-- The text without the blanks at its ends. -/
def trimText (s : String) : String := String.ofList (trim s.toList)

theorem dropWhile_eq_self {p : Char → Bool} {cs : List Char}
    (h : ∀ c, cs.head? = some c → p c = false) : cs.dropWhile p = cs := by
  cases cs with
  | nil => rfl
  | cons c r => simp [h c rfl]

theorem trimBy_eq_self {p : Char → Bool} {cs : List Char}
    (first : ∀ c, cs.head? = some c → p c = false)
    (last : ∀ c, cs.getLast? = some c → p c = false) : trimBy p cs = cs := by
  unfold trimBy
  rw [dropWhile_eq_self first, dropWhile_eq_self, List.reverse_reverse]
  intro c h
  exact last c (by simpa using h)

theorem trim_eq_self {cs : List Char} (first : ∀ c, cs.head? = some c → isBlank c = false)
    (last : ∀ c, cs.getLast? = some c → isBlank c = false) : trim cs = cs :=
  trimBy_eq_self first last

@[simp] theorem trim_nil : trim [] = [] := rfl

theorem head?_dropWhile {p : Char → Bool} {cs : List Char} {c : Char}
    (h : (cs.dropWhile p).head? = some c) : p c = false := by
  induction cs with
  | nil => simp at h
  | cons d r ih =>
    by_cases hd : p d = true
    · exact ih (by simpa [List.dropWhile_cons, hd] using h)
    · simp only [List.dropWhile_cons, hd] at h
      simp at h
      subst h
      simpa using hd

theorem getLast?_trimBy {p : Char → Bool} {cs : List Char} {c : Char}
    (h : (trimBy p cs).getLast? = some c) : p c = false := by
  unfold trimBy at h
  rw [List.getLast?_reverse] at h
  exact head?_dropWhile h

theorem getLast?_trim {cs : List Char} {c : Char} (h : (trim cs).getLast? = some c) :
    isBlank c = false := getLast?_trimBy h

theorem getLast?_dropWhile {p : Char → Bool} {cs : List Char} (h : cs.dropWhile p ≠ []) :
    (cs.dropWhile p).getLast? = cs.getLast? := by
  induction cs with
  | nil => simp at h
  | cons d r ih =>
    by_cases hd : p d = true
    · simp only [List.dropWhile_cons, hd, if_true] at h ⊢
      rw [ih h]
      cases r with
      | nil => simp at h
      | cons e r => simp [List.getLast?_cons_cons]
    · simp [hd]

theorem head?_trimBy {p : Char → Bool} {cs : List Char} {c : Char}
    (h : (trimBy p cs).head? = some c) : p c = false := by
  unfold trimBy at h
  rw [List.head?_reverse] at h
  by_cases hne : (cs.dropWhile p).reverse.dropWhile p = []
  · rw [hne] at h
    simp at h
  · rw [getLast?_dropWhile hne, List.getLast?_reverse] at h
    exact head?_dropWhile h

theorem head?_trim {cs : List Char} {c : Char} (h : (trim cs).head? = some c) :
    isBlank c = false := head?_trimBy h

end AccessGateway
