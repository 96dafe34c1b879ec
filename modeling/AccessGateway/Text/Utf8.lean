/-
  UTF-8. `encode` writes characters as octets. Reading goes one octet at a time through a small
  machine (`State`): it knows how many octets the character still owes and between which bounds
  the next one must lie, so over-long forms, surrogates and values above U+10FFFF are refused at
  the first octet that rules them out. What was read up to a refusal is one invalid part;
  `decode?` fails on any invalid part and `decodeLossy` puts U+FFFD in its place.
-/

namespace AccessGateway.Utf8

abbrev Octets := List UInt8

/-- The octets of a character. -/
def encodeChar (c : Char) : Octets :=
  let n := c.toNat
  if n < 0x80 then [UInt8.ofNat n]
  else if n < 0x800 then [UInt8.ofNat (0xC0 + n / 0x40), UInt8.ofNat (0x80 + n % 0x40)]
  else if n < 0x10000 then
    [UInt8.ofNat (0xE0 + n / 0x1000), UInt8.ofNat (0x80 + n / 0x40 % 0x40),
      UInt8.ofNat (0x80 + n % 0x40)]
  else
    [UInt8.ofNat (0xF0 + n / 0x40000), UInt8.ofNat (0x80 + n / 0x1000 % 0x40),
      UInt8.ofNat (0x80 + n / 0x40 % 0x40), UInt8.ofNat (0x80 + n % 0x40)]

/-- The octets of a list of characters. -/
def encode (cs : List Char) : Octets := cs.flatMap encodeChar

/-- The octets of a text. -/
def ofText (s : String) : Octets := encode s.toList

/-- Inside a character: the octets still owed, the bounds of the next one and the value of the
bits read so far. -/
structure State where
  owed : Nat
  least : Nat
  most : Nat
  value : Nat
deriving DecidableEq

/-- What an octet between two characters starts. -/
inductive Start where
  | whole (c : Char)
  | inside (s : State)
  | invalid
deriving DecidableEq

/-- The first octet of a character. -/
def start (b : UInt8) : Start :=
  let n := b.toNat
  if n < 0x80 then .whole (Char.ofNat n)
  else if n < 0xC2 then .invalid
  else if n < 0xE0 then .inside ⟨1, 0x80, 0xBF, n - 0xC0⟩
  else if n = 0xE0 then .inside ⟨2, 0xA0, 0xBF, 0⟩
  else if n = 0xED then .inside ⟨2, 0x80, 0x9F, 0xD⟩
  else if n < 0xF0 then .inside ⟨2, 0x80, 0xBF, n - 0xE0⟩
  else if n = 0xF0 then .inside ⟨3, 0x90, 0xBF, 0⟩
  else if n < 0xF4 then .inside ⟨3, 0x80, 0xBF, n - 0xF0⟩
  else if n = 0xF4 then .inside ⟨3, 0x80, 0x8F, 4⟩
  else .invalid

/-- The characters of a list of octets, `none` for each invalid part. The state is that of the
character being read, if any. An octet that a character cannot go on with ends an invalid part
and is then looked at as the start of the next one. -/
def scan : Option State → Octets → List (Option Char)
  | none, [] => []
  | some _, [] => [none]
  | none, b :: bs =>
    match start b with
    | .whole c => some c :: scan none bs
    | .inside s => scan (some s) bs
    | .invalid => none :: scan none bs
  | some s, b :: bs =>
    if s.least ≤ b.toNat ∧ b.toNat ≤ s.most then
      let value := s.value * 0x40 + (b.toNat - 0x80)
      if s.owed ≤ 1 then some (Char.ofNat value) :: scan none bs
      else scan (some ⟨s.owed - 1, 0x80, 0xBF, value⟩) bs
    else
      match start b with
      | .whole c => none :: some c :: scan none bs
      | .inside s => none :: scan (some s) bs
      | .invalid => none :: none :: scan none bs

/-- The characters, if there is no invalid part. -/
def decode? (bs : Octets) : Option (List Char) := (scan none bs).mapM id

/-- The characters, with U+FFFD for each invalid part. -/
def decodeLossy (bs : Octets) : List Char :=
  (scan none bs).map fun c => c.getD (Char.ofNat 0xFFFD)

theorem toNat_valid (c : Char) : c.toNat < 0xD800 ∨ (0xDFFF < c.toNat ∧ c.toNat < 0x110000) := by
  simpa [Nat.isValidChar, UInt32.isValidChar] using c.valid

theorem scan_encodeChar (c : Char) (bs : Octets) :
    scan none (encodeChar c ++ bs) = some c :: scan none bs := by
  have h := toNat_valid c
  have hc : Char.ofNat c.toNat = c := Char.ofNat_toNat c
  unfold encodeChar
  generalize c.toNat = n at h hc
  have octet : ∀ k, k < 256 → (UInt8.ofNat k).toNat = k := fun k hk => by
    simp [Nat.mod_eq_of_lt hk]
  subst hc
  dsimp only
  split
  · next h1 => simp [scan, start, octet n (by omega), h1]
  · split
    · next h1 h2 =>
      have a := octet (0xC0 + n / 0x40) (by omega)
      have b := octet (0x80 + n % 0x40) (by omega)
      have e : (0xC0 + n / 0x40 - 0xC0) * 0x40 + (0x80 + n % 0x40 - 0x80) = n := by omega
      simp only [List.cons_append, List.nil_append, scan, start, a, b]
      rw [if_neg (by omega), if_neg (by omega), if_pos (by omega)]
      simp only
      rw [if_pos (by omega), e]
      simp
    · split
      · next h1 h2 h3 =>
        have a := octet (0xE0 + n / 0x1000) (by omega)
        have b := octet (0x80 + n / 0x40 % 0x40) (by omega)
        have d := octet (0x80 + n % 0x40) (by omega)
        simp only [List.cons_append, List.nil_append, scan, start, a, b, d]
        rw [if_neg (by omega), if_neg (by omega), if_neg (by omega)]
        by_cases he : 0xE0 + n / 0x1000 = 0xE0
        · have e : (0 * 0x40 + (0x80 + n / 0x40 % 0x40 - 0x80)) * 0x40 +
              (0x80 + n % 0x40 - 0x80) = n := by omega
          rw [if_pos he]
          simp only
          rw [if_pos (by omega), if_neg (by omega), if_pos (by omega), e]
          simp
        · by_cases hd : 0xE0 + n / 0x1000 = 0xED
          · have e : (0xD * 0x40 + (0x80 + n / 0x40 % 0x40 - 0x80)) * 0x40 +
                (0x80 + n % 0x40 - 0x80) = n := by omega
            rw [if_neg he, if_pos hd]
            simp only
            rw [if_pos (by omega), if_neg (by omega), if_pos (by omega), e]
            simp
          · have e : ((0xE0 + n / 0x1000 - 0xE0) * 0x40 + (0x80 + n / 0x40 % 0x40 - 0x80)) * 0x40 +
                (0x80 + n % 0x40 - 0x80) = n := by omega
            rw [if_neg he, if_neg hd, if_pos (by omega)]
            simp only
            rw [if_pos (by omega), if_neg (by omega), if_pos (by omega), e]
            simp
      · next h1 h2 h3 =>
        have a := octet (0xF0 + n / 0x40000) (by omega)
        have b := octet (0x80 + n / 0x1000 % 0x40) (by omega)
        have d := octet (0x80 + n / 0x40 % 0x40) (by omega)
        have f := octet (0x80 + n % 0x40) (by omega)
        simp only [List.cons_append, List.nil_append, scan, start, a, b, d, f]
        rw [if_neg (by omega), if_neg (by omega), if_neg (by omega), if_neg (by omega),
          if_neg (by omega), if_neg (by omega)]
        by_cases he : 0xF0 + n / 0x40000 = 0xF0
        · have e : ((0 * 0x40 + (0x80 + n / 0x1000 % 0x40 - 0x80)) * 0x40 +
              (0x80 + n / 0x40 % 0x40 - 0x80)) * 0x40 + (0x80 + n % 0x40 - 0x80) = n := by omega
          rw [if_pos he]
          simp only
          rw [if_pos (by omega), if_neg (by omega), if_pos (by omega), if_neg (by omega),
            if_pos (by omega), if_pos (by omega), e]
        · by_cases hd : 0xF0 + n / 0x40000 < 0xF4
          · have e : (((0xF0 + n / 0x40000 - 0xF0) * 0x40 + (0x80 + n / 0x1000 % 0x40 - 0x80)) *
                0x40 + (0x80 + n / 0x40 % 0x40 - 0x80)) * 0x40 + (0x80 + n % 0x40 - 0x80) = n := by
              omega
            rw [if_neg he, if_pos hd]
            simp only
            rw [if_pos (by omega), if_neg (by omega), if_pos (by omega), if_neg (by omega),
              if_pos (by omega), if_pos (by omega), e]
          · have e : ((4 * 0x40 + (0x80 + n / 0x1000 % 0x40 - 0x80)) * 0x40 +
                (0x80 + n / 0x40 % 0x40 - 0x80)) * 0x40 + (0x80 + n % 0x40 - 0x80) = n := by omega
            rw [if_neg he, if_neg hd, if_pos (by omega)]
            simp only
            rw [if_pos (by omega), if_neg (by omega), if_pos (by omega), if_neg (by omega),
              if_pos (by omega), if_pos (by omega), e]

theorem scan_encode (cs : List Char) : scan none (encode cs) = cs.map some := by
  induction cs with
  | nil => rfl
  | cons c r ih =>
    simp only [encode, List.flatMap_cons, List.map_cons] at ih ⊢
    rw [scan_encodeChar, ih]

theorem decode?_encode (cs : List Char) : decode? (encode cs) = some cs := by
  rw [decode?, scan_encode]
  induction cs with
  | nil => rfl
  | cons c r ih => simp [List.mapM_cons, ih]

theorem decodeLossy_encode (cs : List Char) : decodeLossy (encode cs) = cs := by
  rw [decodeLossy, scan_encode, List.map_map]
  induction cs with
  | nil => rfl
  | cons c r ih => simp_all

/-- The number of octets of a list of characters. -/
def size (cs : List Char) : Nat := (encode cs).length

end AccessGateway.Utf8
