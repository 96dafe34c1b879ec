import AccessGateway.Proofs.Text.Trimming
import AccessGateway.Text.Split

/-
  The lines of a text. A text is made of lines if they stand in it in order, each but perhaps the
  last with an end of its own (`MadeOf`); every text is made of some lines (`exists_madeOf`).
  `lines` finds them, up to carriage returns behind them, which trimming removes (`map_trim_lines`).
-/

namespace AccessGateway

/-- A text is made of lines: each of them ends with a line feed or with a carriage return and a line
feed, and the last one may end with the text. -/
inductive MadeOf : List Char → List (List Char) → Prop
  | nil : MadeOf [] []
  | last {l : List Char} (hne : l ≠ []) (hl : '\n' ∉ l) : MadeOf l [l]
  | feed {l text : List Char} {ls : List (List Char)} (hl : '\n' ∉ l) (h : MadeOf text ls) :
    MadeOf (l ++ '\n' :: text) (l :: ls)
  | returnFeed {l text : List Char} {ls : List (List Char)} (hl : '\n' ∉ l) (h : MadeOf text ls) :
    MadeOf (l ++ '\r' :: '\n' :: text) (l :: ls)

theorem exists_madeOf (text : List Char) : ∃ ls, MadeOf text ls := by
  induction text with
  | nil => exact ⟨[], .nil⟩
  | cons c r ih =>
    obtain ⟨ls, hr⟩ := ih
    by_cases hc : c = '\n'
    · rw [hc]
      exact ⟨[] :: ls, .feed List.not_mem_nil hr⟩
    · have hfront : ∀ l : List Char, '\n' ∉ l → '\n' ∉ c :: l := fun l hl hmem =>
        (List.mem_cons.1 hmem).elim (fun h => hc h.symm) hl
      cases hr with
      | nil => exact ⟨[[c]], .last (by simp) (hfront [] List.not_mem_nil)⟩
      | last hne hl => exact ⟨[c :: r], .last (by simp) (hfront r hl)⟩
      | feed hl h => exact ⟨_ :: _, .feed (hfront _ hl) h⟩
      | returnFeed hl h => exact ⟨_ :: _, .returnFeed (hfront _ hl) h⟩

theorem dropReturn_append_return (l : List Char) : dropReturn (l ++ ['\r']) = l := by
  rw [dropReturn, List.reverse_append]
  exact List.reverse_reverse l

theorem trim_dropReturn (l : List Char) : trim (dropReturn l) = trim l := by
  unfold dropReturn
  split
  · next r hr =>
    have hl : l = r.reverse ++ ['\r'] := by
      rw [← List.reverse_reverse l, hr, List.reverse_cons]
    have hcore := isTrimmed_trim r.reverse
    obtain ⟨front, back, htext, hfront, hback⟩ := hcore.around
    refine (trim_eq_iff.2 ⟨⟨front, back ++ ['\r'], ?_, hfront, ?_⟩, hcore.first, hcore.last⟩).symm
    · rw [hl, ← List.append_assoc, ← htext]
    · exact List.forall_mem_append.2 ⟨hback, by simp [show isBlank '\r' = true by decide]⟩
  · rfl

theorem lines_append_feed {l : List Char} (hl : '\n' ∉ l) (text : List Char) :
    lines (l ++ '\n' :: text) = dropReturn l :: lines text := by
  obtain ⟨p, ps, htext⟩ := exists_pieces '\n' text
  rw [lines, pieces_append_sep hl, htext, endedLines, lines, htext]

theorem lines_of_feed_notMem {l : List Char} (hne : l ≠ []) (hl : '\n' ∉ l) : lines l = [l] := by
  rw [lines, pieces_of_notMem hl, endedLines, if_neg (by simpa using hne)]

/-- The lines that are found are those that the text is made of. -/
theorem map_trim_lines {text : List Char} {ls : List (List Char)} (h : MadeOf text ls) :
    (lines text).map trim = ls.map trim := by
  induction h with
  | nil => rfl
  | last hne hl => rw [lines_of_feed_notMem hne hl]
  | feed hl h ih => rw [lines_append_feed hl, List.map_cons, List.map_cons, trim_dropReturn, ih]
  | @returnFeed l text ls hl h ih =>
    have hreturn : '\n' ∉ l ++ ['\r'] := by simp [hl]
    have hcut : l ++ '\r' :: '\n' :: text = (l ++ ['\r']) ++ '\n' :: text := by simp
    rw [hcut, lines_append_feed hreturn, dropReturn_append_return, List.map_cons, List.map_cons, ih]

end AccessGateway
