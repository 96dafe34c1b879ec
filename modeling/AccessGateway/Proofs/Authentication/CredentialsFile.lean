import AccessGateway.Proofs.Authentication.Verification
import AccessGateway.Proofs.Text.Lines

/-
  Users of a credentials file and users of the configuration itself. A file that writes users line
  by line, with blank lines and comments in between (`Writes`), stands for the same users as a
  configuration that lists them (`ofConfig_of_written`). A line that is neither blank nor a comment
  and has no colon is reported by its number, all lines before it counted
  (`readLines_of_malformed`).
-/

namespace AccessGateway.BasicAuth

/-- A line with nobody in it: it is blank, or a comment, which may be indented. -/
def HoldsNobody (line : List Char) : Prop :=
  (∀ c ∈ line, isBlank c = true) ∨
    ∃ front rest, line = front ++ '#' :: rest ∧ ∀ c ∈ front, isBlank c = true

/-- The line of a name and a password. -/
def userLine (u : String × String) : List Char := u.1.toList ++ ':' :: u.2.toList

/-- A name and a password that are read from their line as they are. That they hold no line feed
goes without saying where the text is made of lines. -/
structure FitsLine (u : String × String) : Prop where
  name_ne_empty : u.1 ≠ ""
  colon_notMem : ':' ∉ u.1.toList
  name_first : ∀ c, u.1.toList.head? = some c → c ≠ '#' ∧ isBlank c = false
  password_last : ∀ c, u.2.toList.getLast? = some c → isBlank c = false

/-- Lines write users if each user has its line, in order, and the other lines hold nobody. -/
inductive Writes : List (List Char) → List (String × String) → Prop
  | nil : Writes [] []
  | skip {l : List Char} {ls : List (List Char)} {us : List (String × String)}
    (hl : HoldsNobody l) (h : Writes ls us) : Writes (l :: ls) us
  | user {u : String × String} {ls : List (List Char)} {us : List (String × String)}
    (h : Writes ls us) : Writes (userLine u :: ls) (u :: us)

/-! ## Lines -/

theorem head?_trim_eq_number_iff {l : List Char} : (trim l).head? = some '#' ↔
    ∃ front rest, l = front ++ '#' :: rest ∧ ∀ c ∈ front, isBlank c = true := by
  obtain ⟨before, after, hl, hbefore, -⟩ := (isTrimmed_trim l).around
  constructor
  · intro h
    obtain ⟨r, hr⟩ := List.head?_eq_some_iff.1 h
    exact ⟨before, r ++ after, by rw [hl, hr]; simp, hbefore⟩
  · rintro ⟨front, rest, hcut, hfront⟩
    have hnumber : isBlank '#' = false := by decide
    -- both cuts show what is left of the line behind its first blanks
    have hrest : l.dropWhile isBlank = '#' :: rest := by
      rw [hcut, List.dropWhile_append_of_pos hfront, List.dropWhile_cons_of_neg (by simp [hnumber])]
    rw [hl, List.append_assoc, List.dropWhile_append_of_pos hbefore] at hrest
    have hmem : '#' ∈ trim l := (mem_trimBy_iff hnumber).2 (by rw [hcut]; simp)
    obtain ⟨c, r, hcons⟩ := List.exists_cons_of_ne_nil (List.ne_nil_of_mem hmem)
    have hc : isBlank c = false := head?_trim (by rw [hcons, List.head?_cons])
    rw [hcons, List.cons_append, List.dropWhile_cons_of_neg (by simp [hc])] at hrest
    rw [hcons, List.head?_cons, (List.cons.inj hrest).1]

theorem isIgnored_trim_iff {l : List Char} : isIgnored (trim l) = true ↔ HoldsNobody l := by
  rw [isIgnored_eq_true_iff, trim_eq_nil_iff, head?_trim_eq_number_iff]
  rfl

theorem isMalformed_iff_of_line {l : List Char} :
    IsMalformed l ↔ ¬ HoldsNobody l ∧ ':' ∉ l := by
  rw [isMalformed_iff, splitOnce_eq_none_iff, ← isIgnored_trim_iff, Bool.not_eq_true, trim,
    mem_trimBy_iff (by decide)]

/-- Blanks around lines do not matter. -/
theorem readLines_congr {path : String} {n : Nat} {ls ms : List (List Char)}
    (h : ls.map trim = ms.map trim) : readLines path n ls = readLines path n ms := by
  induction ls generalizing n ms with
  | nil =>
    obtain rfl := List.map_eq_nil_iff.1 h.symm
    rfl
  | cons l r ih =>
    obtain ⟨m, s, rfl, hl, hr⟩ := List.map_eq_cons_iff.1 h.symm
    rw [readLines, readLines, hl, ih hr.symm]

/-- The first malformed line is reported, all lines before it counted. -/
theorem readLines_of_malformed {path : String} {n : Nat} {front back : List (List Char)}
    {l : List Char} (hfront : ∀ k ∈ front, ¬ IsMalformed k) (hl : IsMalformed l) :
    readLines path n (front ++ l :: back) = .error (.malformedLine path (n + front.length)) := by
  induction front generalizing n with
  | nil =>
    obtain ⟨hignored, hsplit⟩ := isMalformed_iff.1 hl
    simp [readLines, hignored, hsplit]
  | cons k front ih =>
    obtain ⟨hk, hrest⟩ := List.forall_mem_cons.1 hfront
    have hnumber : n + (k :: front).length = n + 1 + front.length := by
      rw [List.length_cons]
      omega
    rw [List.cons_append, readLines, ih hrest, hnumber]
    split
    · rfl
    · next hignored =>
      split
      · next hsplit => exact absurd (isMalformed_iff.2 ⟨Bool.eq_false_iff.2 hignored, hsplit⟩) hk
      · rfl

/-! ## Users -/

theorem FitsLine.trim_userLine {u : String × String} (h : FitsLine u) :
    trim (userLine u) = userLine u := by
  obtain ⟨c, r, hcons⟩ :=
    List.exists_cons_of_ne_nil (mt String.toList_eq_nil_iff.1 h.name_ne_empty)
  refine trim_eq_self (fun d hd => ?_) (fun d hd => ?_)
  · rw [userLine, hcons, List.cons_append, List.head?_cons] at hd
    obtain rfl := Option.some.inj hd
    exact (h.name_first c (by rw [hcons, List.head?_cons])).2
  · rw [userLine, List.getLast?_append, List.getLast?_cons, Option.some_or] at hd
    obtain rfl := Option.some.inj hd
    cases hlast : u.2.toList.getLast? with
    | none => decide
    | some e => exact h.password_last e hlast

theorem FitsLine.lineUser?_userLine {u : String × String} (h : FitsLine u) :
    lineUser? (userLine u) = some (.plain u.1 u.2) := by
  have hignored : isIgnored (userLine u) = false := by
    rw [Bool.eq_false_iff, ne_eq, isIgnored_eq_true_iff, not_or]
    obtain ⟨c, r, hcons⟩ :=
      List.exists_cons_of_ne_nil (mt String.toList_eq_nil_iff.1 h.name_ne_empty)
    rw [userLine, hcons]
    refine ⟨by simp, fun hhead => ?_⟩
    exact (h.name_first c (by rw [hcons, List.head?_cons])).1 (Option.some.inj hhead)
  have hsplit : splitOnce ':' (userLine u) = some (u.1.toList, u.2.toList) :=
    splitOnce_eq_some_iff.2 ⟨rfl, h.colon_notMem⟩
  rw [lineUser?, h.trim_userLine, hignored, hsplit]
  simp

/-- Lines that write users are read as these users. -/
theorem readLines_of_writes {path : String} {n : Nat} {ls : List (List Char)}
    {us : List (String × String)} (hus : ∀ u ∈ us, FitsLine u) (h : Writes ls us) :
    readLines path n ls = .ok (us.map fun u => .plain u.1 u.2) := by
  rw [readLines_eq_ok_iff]
  induction h with
  | nil => simp
  | skip hl h ih =>
    obtain ⟨hwellFormed, husers⟩ := ih hus
    refine ⟨List.forall_mem_cons.2 ⟨?_, hwellFormed⟩, ?_⟩
    · exact fun hmalformed => (isMalformed_iff_of_line.1 hmalformed).1 hl
    · rw [List.filterMap_cons, lineUser?, if_pos (isIgnored_trim_iff.2 hl)]
      exact husers
  | @user u ls us h ih =>
    obtain ⟨hu, hrest⟩ := List.forall_mem_cons.1 hus
    obtain ⟨hwellFormed, husers⟩ := ih hrest
    refine ⟨List.forall_mem_cons.2 ⟨?_, hwellFormed⟩, ?_⟩
    · exact fun hmalformed => (isMalformed_iff_of_line.1 hmalformed).2 (by simp [userLine])
    · rw [List.filterMap_cons, hu.lineUser?_userLine, List.map_cons, husers]

/-! ## Configurations -/

theorem ofConfig_of_readText {files : Files} {path text : String}
    (hread : files.readText path = .ok text) (inline : List BasicUser) :
    ofConfig files ⟨inline, some path⟩ =
      match readLines path 1 (lines text.toList) with
      | .error e => .error e
      | .ok more => ofConfig files ⟨inline ++ more, none⟩ := by
  cases hlines : readLines path 1 (lines text.toList) with
  | error e => simp only [ofConfig, fileUsers, readFile, hread, hlines]
  | ok more => simp only [ofConfig, fileUsers, readFile, hread, hlines, List.append_nil]

/-- A credentials file that can be read is made of some lines. If they write users, the
configuration with the file is the same service as the one with these users in its own list, or is
refused for the same reason. If one of them is malformed, the configuration is refused with the
number of the first such line among all lines of the file. -/
theorem ofConfig_of_written {files : Files} {path text : String}
    (hread : files.readText path = .ok text) :
    (∃ ls, MadeOf text.toList ls) ∧
    ∀ ls, MadeOf text.toList ls →
      (∀ us, (∀ u ∈ us, FitsLine u) → Writes ls us → ∀ inline,
        ofConfig files ⟨inline, some path⟩ =
          ofConfig files ⟨inline ++ us.map fun u => .plain u.1 u.2, none⟩) ∧
      (∀ front l back, ls = front ++ l :: back → (∀ k ∈ front, HoldsNobody k ∨ ':' ∈ k) →
        ¬ HoldsNobody l → ':' ∉ l → ∀ inline, ∃ e,
          ofConfig files ⟨inline, some path⟩ = .error e ∧
          e.chain = ["invalid credentials at " ++ path ++ ":" ++ toString (front.length + 1) ++
            ": expected 'username:password'"]) := by
  refine ⟨exists_madeOf text.toList, fun ls hls => ⟨?_, ?_⟩⟩
  · intro us hus hwrites inline
    rw [ofConfig_of_readText hread, readLines_congr (map_trim_lines hls),
      readLines_of_writes hus hwrites]
  · rintro front l back rfl hfront hl hcolon inline
    have hwellFormed : ∀ k ∈ front, ¬ IsMalformed k := fun k hk hmalformed =>
      (hfront k hk).elim (isMalformed_iff_of_line.1 hmalformed).1
        (isMalformed_iff_of_line.1 hmalformed).2
    refine ⟨.malformedLine path (1 + front.length), ?_, by rw [Nat.add_comm]; rfl⟩
    rw [ofConfig_of_readText hread, readLines_congr (map_trim_lines hls),
      readLines_of_malformed hwellFormed (isMalformed_iff_of_line.2 ⟨hl, hcolon⟩)]

/-- A file with lines of both kinds of ends, and one in which the fourth line is malformed. -/
def mixedFiles : Files :=
  ⟨[(["users"], Utf8.ofText "\t# users\r\n\nann:p:w\r\n \r\nben :\n"),
    (["broken"], Utf8.ofText "\r\n#\nann:p\n ann \r\nben")], []⟩

theorem ofConfig_of_written_mixed :
    ofConfig mixedFiles ⟨[], some "users"⟩ =
      ofConfig mixedFiles ⟨[.plain "ann" "p:w", .plain "ben " ""], none⟩ ∧
    ∃ e, ofConfig mixedFiles ⟨[], some "broken"⟩ = .error e ∧
      e.chain = ["invalid credentials at broken:4: expected 'username:password'"] := by
  constructor
  · have hread : mixedFiles.readText "users" = .ok "\t# users\r\n\nann:p:w\r\n \r\nben :\n" := by
      decide
    have hlines : MadeOf "\t# users\r\n\nann:p:w\r\n \r\nben :\n".toList
        ["\t# users".toList, [], userLine ("ann", "p:w"), [' '], userLine ("ben ", "")] :=
      .returnFeed (l := "\t# users".toList) (by decide) <| .feed (l := []) (by decide) <|
        .returnFeed (l := userLine ("ann", "p:w")) (by decide) <|
        .returnFeed (l := [' ']) (by decide) <|
        .feed (l := userLine ("ben ", "")) (by decide) .nil
    refine ((ofConfig_of_written hread).2 _ hlines).1 [("ann", "p:w"), ("ben ", "")] ?_ ?_ []
    · refine List.forall_mem_cons.2 ⟨?_, List.forall_mem_singleton.2 ?_⟩
      · exact ⟨by decide, by decide, fun c hc => Option.some.inj hc ▸ by decide,
          fun c hc => Option.some.inj hc ▸ by decide⟩
      · exact ⟨by decide, by decide, fun c hc => Option.some.inj hc ▸ by decide, nofun⟩
    · have hcomment : HoldsNobody "\t# users".toList :=
        .inr ⟨['\t'], " users".toList, by decide, List.forall_mem_singleton.2 (by decide)⟩
      have hempty : HoldsNobody [] := .inl (List.forall_mem_nil _)
      have hblank : HoldsNobody [' '] := .inl (List.forall_mem_singleton.2 (by decide))
      exact .skip hcomment (.skip hempty (.user (.skip hblank (.user .nil))))
  · have hread : mixedFiles.readText "broken" = .ok "\r\n#\nann:p\n ann \r\nben" := by
      decide
    have hlines : MadeOf "\r\n#\nann:p\n ann \r\nben".toList
        [[], ['#'], "ann:p".toList, " ann ".toList, "ben".toList] :=
      .returnFeed (l := []) (by decide) <| .feed (l := ['#']) (by decide) <|
        .feed (l := "ann:p".toList) (by decide) <| .returnFeed (l := " ann ".toList) (by decide) <|
        .last (l := "ben".toList) (by decide) (by decide)
    refine ((ofConfig_of_written hread).2 _ hlines).2 [[], ['#'], "ann:p".toList] " ann ".toList
      ["ben".toList] rfl ?_ ?_ (by decide) []
    · simp only [← isIgnored_trim_iff]
      decide
    · rw [← isIgnored_trim_iff]
      decide

end AccessGateway.BasicAuth
