import StoryExports.Proofs.Indentation
import StoryExports.Proofs.Occurrences

/-!
# Content

Taking the common indentation off a text takes blanks only. The indentation is counted in bytes, and
its least count is cut off lines whose own blanks may have other sizes: such a cut ends among the
blanks of the line, or inside one of them, and then all of them go.
-/
namespace StoryExports.Text

/-- The characters of a text that are not blank, in order. -/
def content (t : Text) : Text := t.filter fun c => !isBlank c

/-! ### Content of parts -/

section Content

variable {t u line : Text} {ls : List Text}

theorem content_append (t u : Text) : content (t ++ u) = content t ++ content u :=
  List.filter_append ..

theorem content_eq_nil_iff : content t = [] ↔ isAllBlank t = true := by
  simp [content, isAllBlank]

theorem isAllBlank_eq_of_content (h : content t = content u) : isAllBlank t = isAllBlank u := by
  rw [Bool.eq_iff_iff, ← content_eq_nil_iff, ← content_eq_nil_iff, h]

theorem content_blank_append (h : isAllBlank t = true) : content (t ++ u) = content u := by
  rw [content_append, content_eq_nil_iff.mpr h, List.nil_append]

theorem content_append_blank (h : isAllBlank u = true) : content (t ++ u) = content t := by
  rw [content_append, content_eq_nil_iff.mpr h, List.append_nil]

theorem content_trimStart (t : Text) : content (trimStart t) = content t := by
  obtain ⟨u, hblank, ht⟩ := exists_append_trimStart t
  rw [← content_blank_append hblank, ht]

theorem content_trimEnd (t : Text) : content (trimEnd t) = content t := by
  obtain ⟨u, hblank, ht⟩ := exists_trimEnd_append t
  rw [← content_append_blank hblank, ht]

theorem content_trim (t : Text) : content (trim t) = content t := by
  rw [trim, content_trimEnd, content_trimStart]

theorem content_join (ls : List Text) : content (join ['\n'] ls) = ls.flatMap content := by
  induction ls with
  | nil => rfl
  | cons l ls ih =>
    cases ls with
    | nil => exact (List.append_nil _).symm
    | cons l' ls =>
      rw [List.flatMap_cons, ← ih, join_cons_cons, content_append, content_append_blank rfl]

theorem content_lines_go (current t : Text) :
    (lines.go current t).flatMap content = content (current.reverse ++ t) := by
  induction t generalizing current with
  | nil => cases current <;> simp [lines.go, content]
  | cons c t ih =>
    rw [lines_go_cons]
    split
    next hc =>
      obtain ⟨u, hblank, hcurrent⟩ := exists_lineRead_append current
      have hbreak : content ('\n' :: t) = content t := content_blank_append (t := ['\n']) rfl
      rw [List.flatMap_cons, ih, List.reverse_nil, List.nil_append, hc, content_append, hbreak,
        hcurrent, content_append_blank hblank]
    next => rw [ih, List.reverse_cons, List.append_assoc, List.singleton_append]

/-- The line ends are blank. -/
theorem content_lines (t : Text) : (lines t).flatMap content = content t := content_lines_go [] t

end Content

/-! ### Cuts among the blanks -/

section Cuts

variable {line before rest : Text} {ls : List Text} {n : Nat}

theorem indentation_eq_bytes (line : Text) :
    indentation line = bytes (line.takeWhile isBlank) := by
  have hsplit : line.takeWhile isBlank ++ trimStart line = line := List.takeWhile_append_dropWhile
  have hbytes := congrArg bytes hsplit
  rw [bytes_append] at hbytes
  rw [indentation, ← hbytes, Nat.add_sub_cancel]

/-- A cut that is no longer than the leading blanks cuts off blanks only. -/
theorem isAllBlank_of_cut? (hcut : cut? n line = some (before, rest))
    (hn : n ≤ indentation line) : isAllBlank before = true := by
  obtain ⟨rfl, rfl⟩ := append_eq_of_cut? hcut
  rw [indentation_eq_bytes] at hn
  have hall : isAllBlank ((before ++ rest).takeWhile isBlank) = true := List.all_takeWhile
  -- Both are beginnings of the line, so the shorter one begins the other.
  obtain ⟨more, h⟩ : before <+: (before ++ rest).takeWhile isBlank :=
    prefix_of_bytes_le (List.prefix_append before rest) (List.takeWhile_prefix _) hn
  rw [← h, isAllBlank_append] at hall
  exact (Bool.and_eq_true_iff.mp hall).1

theorem commonIndentation_le (hline : line ∈ ls) (hsolid : isAllBlank line = false) :
    commonIndentation ls ≤ indentation line :=
  (commonIndentation_min ls).1 _
    (List.mem_map_of_mem (List.mem_filter.mpr ⟨hline, by simp [hsolid]⟩))

theorem content_outdent (h : isAllBlank line = false → n ≤ indentation line) :
    content (outdent n line) = content line := by
  cases hline : isAllBlank line with
  | true => rw [outdent, if_pos hline, content_eq_nil_iff.mpr hline]; rfl
  | false =>
    rw [outdent, if_neg (by simp [hline])]
    split
    next before rest hcut =>
      have hblank := isAllBlank_of_cut? hcut (h hline)
      obtain ⟨rfl, -⟩ := append_eq_of_cut? hcut
      exact (content_blank_append hblank).symm
    next => exact content_trimStart line

theorem content_outdented (ls : List Text) :
    (outdented ls).flatMap content = ls.flatMap content := by
  cases ls with
  | nil => rfl
  | cons first rest =>
    have hrest : rest.map (fun l => content (outdent (commonIndentation rest) l)) =
        rest.map content :=
      List.map_congr_left fun l hl => content_outdent (commonIndentation_le hl)
    rw [outdented, List.flatMap_cons, List.flatMap_cons, content_trimStart, List.flatMap_map,
      List.flatMap_def, hrest, List.flatMap_def]

theorem content_dedent (t : Text) : content (dedent t) = content t := by
  rw [dedent_eq, content_trim, content_join, content_outdented, content_lines]

end Cuts

/-! ### Blank lines -/

/-- Empty, or with a character that is not blank. -/
def EmptyOrSolid (line : Text) : Prop := line = [] ∨ isAllBlank line = false

section BlankLines

variable {t u line : Text} {ls : List Text}

theorem EmptyOrSolid.of_append_blank (hu : isAllBlank u = true) (h : EmptyOrSolid (t ++ u)) :
    EmptyOrSolid t := by
  rcases h with h | h
  · exact .inl (List.append_eq_nil_iff.mp h).1
  · exact .inr (by simpa [isAllBlank_append, hu] using h)

theorem EmptyOrSolid.of_blank_append (ht : isAllBlank t = true) (h : EmptyOrSolid (t ++ u)) :
    EmptyOrSolid u := by
  rcases h with h | h
  · exact .inl (List.append_eq_nil_iff.mp h).2
  · exact .inr (by simpa [isAllBlank_append, ht] using h)

theorem emptyOrSolid_trimStart (t : Text) : EmptyOrSolid (trimStart t) := by
  cases h : trimStart t with
  | nil => exact .inl rfl
  | cons c u => exact .inr (by simp [isAllBlank, not_isBlank_of_trimStart h])

theorem emptyOrSolid_outdented (ls : List Text) : ∀ l ∈ outdented ls, EmptyOrSolid l := by
  cases ls with
  | nil => simp [outdented]
  | cons first rest =>
    rw [outdented, List.forall_mem_cons, List.forall_mem_map]
    refine ⟨emptyOrSolid_trimStart first, fun l hl => ?_⟩
    cases hblank : isAllBlank l with
    | true => exact .inl (if_pos hblank)
    | false =>
      have hcontent := content_outdent (commonIndentation_le hl)
      exact .inr ((isAllBlank_eq_of_content hcontent).trans hblank)

/-- Blanks at the end of a text have no part in the rows before, and none in what else the last row
holds. -/
theorem emptyOrSolid_rows_of_append_blank (hu : isAllBlank u = true)
    (h : ∀ row ∈ rows (t ++ u), EmptyOrSolid row) : ∀ row ∈ rows t, EmptyOrSolid row := by
  obtain ⟨before, last, first, after, ht, hfirst, hboth⟩ := rows_append t u
  rw [hboth, List.forall_mem_append, List.forall_mem_cons] at h
  rw [ht, List.forall_mem_append, List.forall_mem_singleton]
  have hblank : isAllBlank first = true := isAllBlank_of_mem_rows hu (by simp [hfirst])
  exact ⟨h.1, h.2.1.of_append_blank hblank⟩

theorem emptyOrSolid_rows_of_blank_append (ht : isAllBlank t = true)
    (h : ∀ row ∈ rows (t ++ u), EmptyOrSolid row) : ∀ row ∈ rows u, EmptyOrSolid row := by
  obtain ⟨before, last, first, after, hlast, hu, hboth⟩ := rows_append t u
  rw [hboth, List.forall_mem_append, List.forall_mem_cons] at h
  rw [hu, List.forall_mem_cons]
  have hblank : isAllBlank last = true := isAllBlank_of_mem_rows ht (by simp [hlast])
  exact ⟨h.2.1.of_blank_append hblank, h.2.2⟩

theorem emptyOrSolid_rows_trim (h : ∀ row ∈ rows t, EmptyOrSolid row) :
    ∀ row ∈ rows (trim t), EmptyOrSolid row := by
  obtain ⟨front, hfront, ht⟩ := exists_append_trimStart t
  obtain ⟨back, hback, hstart⟩ := exists_trimEnd_append (trimStart t)
  rw [← ht] at h
  have hrows := emptyOrSolid_rows_of_blank_append hfront h
  rw [← hstart] at hrows
  exact emptyOrSolid_rows_of_append_blank hback hrows

theorem emptyOrSolid_rows_dedent (t : Text) : ∀ row ∈ rows (dedent t), EmptyOrSolid row := by
  rw [dedent_eq]
  apply emptyOrSolid_rows_trim
  cases h : outdented (lines t) with
  | nil => exact fun row hrow => .inl (List.mem_singleton.mp hrow)
  | cons l ls =>
    have hbreaks := not_mem_outdented fun l hl => not_mem_of_mem_lines (t := t) hl
    rw [h] at hbreaks
    rw [rows_join (by simp) hbreaks, ← h]
    exact emptyOrSolid_outdented _

/-- A line is a row, or a row without the `\r` of its line end. -/
theorem exists_row_of_mem_lines_go {current : Text} (hcurrent : '\n' ∉ current)
    (h : line ∈ lines.go current t) :
    ∃ row ∈ rows (current.reverse ++ t), ∃ u, isAllBlank u = true ∧ row = line ++ u := by
  induction t generalizing current with
  | nil =>
    rw [List.append_nil, rows_of_not_mem (by simpa using hcurrent)]
    cases current with
    | nil => cases h
    | cons c current =>
      obtain rfl : line = (c :: current).reverse := List.mem_singleton.mp h
      exact ⟨_, List.mem_singleton_self _, [], rfl, (List.append_nil _).symm⟩
  | cons c t ih =>
    rw [lines_go_cons] at h
    by_cases hc : c = '\n'
    · rw [hc, rows_append_break (by simpa using hcurrent)]
      rw [if_pos hc, List.mem_cons] at h
      rcases h with rfl | h
      · exact ⟨_, List.mem_cons_self, exists_lineRead_append current⟩
      · obtain ⟨row, hrow, hline⟩ := ih (by simp) h
        exact ⟨row, List.mem_cons_of_mem _ hrow, hline⟩
    · rw [if_neg hc] at h
      simpa using ih (by simp [hcurrent, Ne.symm hc]) h

theorem exists_row_of_mem_lines (h : line ∈ lines t) :
    ∃ row ∈ rows t, ∃ u, isAllBlank u = true ∧ row = line ++ u :=
  exists_row_of_mem_lines_go (by simp) h

end BlankLines

/-! ### Ends of a trimmed text -/

theorem not_isBlank_head_trimStart (t : Text) : ∀ c ∈ (trimStart t).head?, isBlank c = false := by
  cases h : trimStart t with
  | nil => simp
  | cons c u => simpa using not_isBlank_of_trimStart h

theorem not_isBlank_head_trim (t : Text) : ∀ c ∈ (trim t).head?, isBlank c = false := by
  intro c hc
  obtain ⟨u, -, ht⟩ := exists_trimEnd_append (trimStart t)
  have hhead : (trimEnd (trimStart t) ++ u).head? = some c := by
    rw [List.head?_append, show (trimEnd (trimStart t)).head? = some c from hc, Option.some_or]
  rw [ht] at hhead
  exact not_isBlank_head_trimStart t c hhead

theorem not_isBlank_last_trim (t : Text) : ∀ c ∈ (trim t).getLast?, isBlank c = false := by
  rw [trim, trimEnd, List.getLast?_reverse]
  exact not_isBlank_head_trimStart _

/-- No content is lost and none comes in, and the blanks that are left stand next to content in
their line. -/
theorem dedent_keeps_content (t : Text) :
    content (dedent t) = content t ∧
      (∀ c ∈ (dedent t).head?, isBlank c = false) ∧
      (∀ c ∈ (dedent t).getLast?, isBlank c = false) ∧
      ∀ line ∈ lines (dedent t), line = [] ∨ ∃ c ∈ line, isBlank c = false := by
  refine ⟨content_dedent t, not_isBlank_head_trim _, not_isBlank_last_trim _, fun line hline => ?_⟩
  obtain ⟨row, hrow, u, hblank, rfl⟩ := exists_row_of_mem_lines hline
  refine ((emptyOrSolid_rows_dedent t _ hrow).of_append_blank hblank).imp id fun h => ?_
  simpa [isAllBlank] using h

-- Two bytes end inside the ideographic space, so the line that it indents loses it whole.
example : dedent "\n  a\n\u3000b\r\n \t\n   c".toList = "a\nb\n\n c".toList := by decide

end StoryExports.Text
