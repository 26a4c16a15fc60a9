import StoryExports.Proofs.Cuts
import StoryExports.Text.Dedent

/-!
# Relative indentation

The common indentation is taken off all lines, and the text is trimmed as a whole after that. So the
first line that is not blank comes to the margin, wherever it stood, while all others keep their
distance to one another. The lines of a text are compared with the rows between its line feeds,
which follow concatenation.
-/
namespace StoryExports.Text

/-- The spaces at the front of a line. -/
def leadingSpaces (line : Text) : Nat := (line.takeWhile (· == ' ')).length

/-- The leading spaces of the lines that are not blank. -/
def indentsOf (ls : List Text) : List Nat := (ls.filter fun l => !l.isAllBlank).map leadingSpaces

/-- The leading spaces of the lines of a text that are not blank. -/
def indents (t : Text) : List Nat := indentsOf t.lines

/-- The parts of a text between its line feeds. -/
def rows (t : Text) : List Text := t.splitOn (· == '\n')

/-! ### Rows -/

section Rows

variable {t u line : Text} {c : Char}

theorem rows_cons_break (t : Text) : rows ('\n' :: t) = [] :: rows t := rfl

theorem rows_ne_nil (t : Text) : rows t ≠ [] := by
  cases t with
  | nil => simp [rows, splitOn]
  | cons c t =>
    rw [rows, splitOn]
    split
    · simp
    · split <;> simp

theorem rows_cons (hc : c ≠ '\n') (t : Text) :
    ∃ row more, rows t = row :: more ∧ rows (c :: t) = (c :: row) :: more := by
  obtain ⟨row, more, h⟩ := List.exists_cons_of_ne_nil (rows_ne_nil t)
  refine ⟨row, more, h, ?_⟩
  rw [rows] at h
  simp [rows, splitOn, hc, h]

/-- Two texts together have the rows of both, with the last row of the one and the first row of the
other in one row. -/
theorem rows_append (t u : Text) : ∃ before last first after,
    rows t = before ++ [last] ∧ rows u = first :: after ∧
      rows (t ++ u) = before ++ (last ++ first) :: after := by
  induction t with
  | nil =>
    obtain ⟨first, after, h⟩ := List.exists_cons_of_ne_nil (rows_ne_nil u)
    exact ⟨[], [], first, after, rfl, h, h⟩
  | cons c t ih =>
    obtain ⟨before, last, first, after, ht, hu, htu⟩ := ih
    by_cases hc : c = '\n'
    · subst hc
      exact ⟨[] :: before, last, first, after, by rw [rows_cons_break, ht, List.cons_append], hu,
        by rw [List.cons_append, rows_cons_break, htu, List.cons_append]⟩
    · obtain ⟨row, more, hrow, hcons⟩ := rows_cons hc t
      obtain ⟨row', more', hrow', hcons'⟩ := rows_cons hc (t ++ u)
      rw [ht] at hrow
      rw [htu] at hrow'
      rw [List.cons_append, hcons, hcons']
      cases before with
      | nil =>
        cases hrow
        cases hrow'
        exact ⟨[], c :: last, first, after, rfl, hu, rfl⟩
      | cons b before =>
        cases hrow
        cases hrow'
        exact ⟨_ :: before, last, first, after, rfl, hu, rfl⟩

theorem splitOn_of_forall {p : Char → Bool} (h : ∀ c ∈ line, p c = false) :
    splitOn p line = [line] := by
  induction line with
  | nil => rfl
  | cons c line ih =>
    rw [List.forall_mem_cons] at h
    rw [splitOn, if_neg (by simp [h.1]), ih h.2]

theorem rows_of_not_mem (h : '\n' ∉ line) : rows line = [line] :=
  splitOn_of_forall fun _ hc => beq_false_of_ne fun heq => h (heq ▸ hc)

theorem rows_append_break (h : '\n' ∉ line) (t : Text) :
    rows (line ++ '\n' :: t) = line :: rows t := by
  obtain ⟨before, last, first, after, hline, ht, hboth⟩ := rows_append line ('\n' :: t)
  rw [rows_of_not_mem h] at hline
  rw [rows_cons_break] at ht
  obtain ⟨rfl, rfl⟩ : before = [] ∧ last = line := by
    cases before with
    | nil => exact ⟨rfl, by simpa using hline.symm⟩
    | cons b before => simp at hline
  cases ht
  rw [hboth, List.nil_append, List.append_nil]

theorem join_cons_cons (separator p q : Text) (parts : List Text) :
    join separator (p :: q :: parts) = p ++ separator ++ join separator (q :: parts) := by
  simp [join]

theorem rows_join {parts : List Text} (hne : parts ≠ []) (h : ∀ p ∈ parts, '\n' ∉ p) :
    rows (join ['\n'] parts) = parts := by
  induction parts with
  | nil => exact absurd rfl hne
  | cons p parts ih =>
    rw [List.forall_mem_cons] at h
    cases parts with
    | nil => exact rows_of_not_mem h.1
    | cons q parts =>
      rw [join_cons_cons, List.append_assoc, List.singleton_append, rows_append_break h.1,
        ih (by simp) h.2]

theorem mem_of_mem_rows {row : Text} (hrow : row ∈ rows t) (hc : c ∈ row) : c ∈ t := by
  induction t generalizing row with
  | nil =>
    obtain rfl : row = [] := by simpa [rows, splitOn] using hrow
    cases hc
  | cons d t ih =>
    by_cases hd : d = '\n'
    · rw [hd, rows_cons_break, List.mem_cons] at hrow
      rcases hrow with rfl | hrow
      · cases hc
      · exact List.mem_cons_of_mem _ (ih hrow hc)
    · obtain ⟨first, more, ht, hcons⟩ := rows_cons hd t
      rw [hcons, List.mem_cons] at hrow
      rcases hrow with rfl | hrow
      · rcases List.mem_cons.mp hc with rfl | hc
        · exact List.mem_cons_self
        · exact List.mem_cons_of_mem _ (ih (by simp [ht]) hc)
      · exact List.mem_cons_of_mem _ (ih (by simp [ht, hrow]) hc)

end Rows

/-! ### Indents of rows -/

section Indents

variable {t u line : Text} {ls : List Text} {c : Char}

theorem isAllBlank_append : isAllBlank (t ++ u) = (isAllBlank t && isAllBlank u) := List.all_append

theorem isAllBlank_of_mem_rows {row : Text} (h : isAllBlank t = true) (hrow : row ∈ rows t) :
    isAllBlank row = true :=
  List.all_eq_true.mpr fun _ hc => List.all_eq_true.mp h _ (mem_of_mem_rows hrow hc)

theorem indentsOf_cons_blank (h : isAllBlank line = true) (ls : List Text) :
    indentsOf (line :: ls) = indentsOf ls := by
  simp [indentsOf, h]

theorem indentsOf_cons_solid (h : isAllBlank line = false) (ls : List Text) :
    indentsOf (line :: ls) = leadingSpaces line :: indentsOf ls := by
  simp [indentsOf, h]

theorem indentsOf_cons_eq {ls' : List Text} (h : indentsOf ls = indentsOf ls') :
    indentsOf (line :: ls) = indentsOf (line :: ls') := by
  cases hline : isAllBlank line with
  | true => rw [indentsOf_cons_blank hline, indentsOf_cons_blank hline, h]
  | false => rw [indentsOf_cons_solid hline, indentsOf_cons_solid hline, h]

theorem indentsOf_append (ls ls' : List Text) :
    indentsOf (ls ++ ls') = indentsOf ls ++ indentsOf ls' := by
  simp [indentsOf]

theorem indentsOf_eq_nil (h : ∀ l ∈ ls, isAllBlank l = true) : indentsOf ls = [] := by
  simpa [indentsOf] using h

/-- What follows the first character that is not blank has no part in the leading spaces. -/
theorem leadingSpaces_append (h : isAllBlank t = false) (u : Text) :
    leadingSpaces (t ++ u) = leadingSpaces t := by
  induction t with
  | nil => cases h
  | cons c t ih =>
    by_cases hc : c = ' '
    · subst hc
      have ht : isAllBlank t = false := h
      simpa [leadingSpaces] using ih ht
    · simp [leadingSpaces, hc]

theorem indentsOf_row_append (hu : isAllBlank u = true) (ls : List Text) :
    indentsOf ((t ++ u) :: ls) = indentsOf (t :: ls) := by
  cases ht : isAllBlank t with
  | true =>
    rw [indentsOf_cons_blank (by rw [isAllBlank_append, ht, hu]; rfl), indentsOf_cons_blank ht]
  | false =>
    rw [indentsOf_cons_solid (by rw [isAllBlank_append, ht]; rfl), indentsOf_cons_solid ht,
      leadingSpaces_append ht]

/-- The line whose characters were read, last one first: the `\r` of a line end is no part of it. -/
def lineRead (current : Text) : Text :=
  (match current with | '\r' :: rest => rest | _ => current).reverse

theorem lines_go_cons (current : Text) (c : Char) (t : Text) :
    lines.go current (c :: t) =
      if c = '\n' then lineRead current :: lines.go [] t else lines.go (c :: current) t := rfl

theorem exists_lineRead_append (current : Text) :
    ∃ u, isAllBlank u = true ∧ current.reverse = lineRead current ++ u := by
  unfold lineRead
  split
  · exact ⟨['\r'], rfl, List.reverse_cons⟩
  · exact ⟨[], rfl, (List.append_nil _).symm⟩

theorem indentsOf_lines_go (current t : Text) (h : '\n' ∉ current) :
    indentsOf (lines.go current t) = indentsOf (rows (current.reverse ++ t)) := by
  induction t generalizing current with
  | nil =>
    rw [List.append_nil, rows_of_not_mem (by simpa using h)]
    cases current with
    | nil => rfl
    | cons c current => rfl
  | cons c t ih =>
    rw [lines_go_cons]
    by_cases hc : c = '\n'
    · obtain ⟨u, hu, hcurrent⟩ := exists_lineRead_append current
      have hrest : indentsOf (lines.go [] t) = indentsOf (rows t) := ih [] (by simp)
      rw [if_pos hc, hc, rows_append_break (by simpa using h), hcurrent, indentsOf_row_append hu,
        indentsOf_cons_eq hrest]
    · rw [if_neg hc, ih (c :: current) (by simp [h, Ne.symm hc])]
      simp

theorem indents_eq (t : Text) : indents t = indentsOf (rows t) :=
  indentsOf_lines_go [] t (by simp)

theorem not_mem_of_mem_lines_go {current : Text} (hcurrent : '\n' ∉ current)
    (h : line ∈ lines.go current t) : '\n' ∉ line := by
  induction t generalizing current with
  | nil =>
    cases current with
    | nil => cases h
    | cons c current =>
      obtain rfl : line = (c :: current).reverse := List.mem_singleton.mp h
      rwa [List.mem_reverse]
  | cons c t ih =>
    rw [lines_go_cons] at h
    by_cases hc : c = '\n'
    · rw [if_pos hc, List.mem_cons] at h
      rcases h with rfl | h
      · obtain ⟨u, -, hread⟩ := exists_lineRead_append current
        have hnot : '\n' ∉ lineRead current ++ u := by rwa [← hread, List.mem_reverse]
        exact fun hmem => hnot (List.mem_append_left _ hmem)
      · exact ih (by simp) h
    · rw [if_neg hc] at h
      exact ih (by simp [hcurrent, Ne.symm hc]) h

theorem not_mem_of_mem_lines (h : line ∈ lines t) : '\n' ∉ line :=
  not_mem_of_mem_lines_go (by simp) h

end Indents

/-! ### Trimming -/

/-- Indents with the first line at the margin. -/
def firstAtMargin : List Nat → List Nat
  | [] => []
  | _ :: ns => 0 :: ns

/-- Trimming the front takes blanks only. -/
theorem exists_append_trimStart (t : Text) : ∃ u, isAllBlank u = true ∧ u ++ trimStart t = t :=
  ⟨t.takeWhile isBlank, List.all_takeWhile, List.takeWhile_append_dropWhile⟩

/-- Trimming the end takes blanks only. -/
theorem exists_trimEnd_append (t : Text) : ∃ u, isAllBlank u = true ∧ trimEnd t ++ u = t := by
  refine ⟨(t.reverse.takeWhile isBlank).reverse, ?_, ?_⟩
  · rw [isAllBlank, List.all_reverse, List.all_takeWhile]
  · rw [trimEnd, ← List.reverse_append, List.takeWhile_append_dropWhile, List.reverse_reverse]

theorem not_isBlank_of_trimStart {t u : Text} {c : Char} (h : trimStart t = c :: u) :
    isBlank c = false := by
  have hhead := List.head?_dropWhile_not isBlank t
  rw [show t.dropWhile isBlank = c :: u from h] at hhead
  simpa using hhead

theorem indentsOf_rows_append_blank {t u : Text} (hu : isAllBlank u = true) :
    indentsOf (rows (t ++ u)) = indentsOf (rows t) := by
  obtain ⟨before, last, first, after, ht, hfirst, hboth⟩ := rows_append t u
  have hblank : ∀ row ∈ first :: after, isAllBlank row = true := fun row hrow =>
    isAllBlank_of_mem_rows hu (hfirst ▸ hrow)
  rw [List.forall_mem_cons] at hblank
  rw [hboth, ht, indentsOf_append, indentsOf_append, indentsOf_row_append hblank.1]
  congr 1
  exact indentsOf_cons_eq (indentsOf_eq_nil hblank.2)

theorem indents_trimEnd (t : Text) : indents (trimEnd t) = indents t := by
  obtain ⟨u, hblank, hsplit⟩ := exists_trimEnd_append t
  rw [indents_eq, indents_eq, ← indentsOf_rows_append_blank hblank, hsplit]

theorem firstAtMargin_indentsOf_blank_append {t u : Text} (ht : isAllBlank t = true) :
    firstAtMargin (indentsOf (rows (t ++ u))) = firstAtMargin (indentsOf (rows u)) := by
  obtain ⟨before, last, first, after, hrows, hu, hboth⟩ := rows_append t u
  have hblank : ∀ row ∈ before ++ [last], isAllBlank row = true := fun row hrow =>
    isAllBlank_of_mem_rows ht (hrows ▸ hrow)
  rw [List.forall_mem_append, List.forall_mem_singleton] at hblank
  rw [hboth, hu, indentsOf_append, indentsOf_eq_nil hblank.1, List.nil_append]
  cases hfirst : isAllBlank first with
  | true =>
    rw [indentsOf_cons_blank hfirst, indentsOf_cons_blank (by
      rw [isAllBlank_append, hblank.2, hfirst]; rfl)]
  | false =>
    rw [indentsOf_cons_solid hfirst, indentsOf_cons_solid (by
      rw [isAllBlank_append, hfirst, Bool.and_false])]
    rfl

/-- A text that starts with a character that is not blank has its first line at the margin. -/
theorem firstAtMargin_of_solid {c : Char} (hc : isBlank c = false) (t : Text) :
    firstAtMargin (indentsOf (rows (c :: t))) = indentsOf (rows (c :: t)) := by
  have hbreak : c ≠ '\n' := by rintro rfl; cases hc
  have hspace : c ≠ ' ' := by rintro rfl; cases hc
  obtain ⟨row, more, -, hrows⟩ := rows_cons hbreak t
  rw [hrows, indentsOf_cons_solid (by simp [isAllBlank, hc])]
  simp [leadingSpaces, hspace, firstAtMargin]

theorem indents_trimStart (t : Text) : indents (trimStart t) = firstAtMargin (indents t) := by
  have hmargin : firstAtMargin (indentsOf (rows t)) =
      firstAtMargin (indentsOf (rows (trimStart t))) := by
    obtain ⟨u, hblank, hsplit⟩ := exists_append_trimStart t
    rw [← firstAtMargin_indentsOf_blank_append (u := trimStart t) hblank, hsplit]
  rw [indents_eq, indents_eq, hmargin]
  cases h : trimStart t with
  | nil => rfl
  | cons c u => exact (firstAtMargin_of_solid (not_isBlank_of_trimStart h) u).symm

theorem indents_trim (t : Text) : indents (trim t) = firstAtMargin (indents t) := by
  rw [trim, indents_trimEnd, indents_trimStart]

/-! ### The common indentation -/

/-- A line that starts with `n` spaces and goes on with a character that is not blank. -/
def Indented (n : Nat) (line : Text) : Prop :=
  ∃ c rest, line = List.replicate n ' ' ++ c :: rest ∧ isBlank c = false

namespace Indented

variable {n k : Nat} {line : Text}

theorem isAllBlank_eq (h : Indented n line) : isAllBlank line = false := by
  obtain ⟨c, rest, rfl, hc⟩ := h
  simp [isAllBlank, hc]

theorem leadingSpaces_eq (h : Indented n line) : leadingSpaces line = n := by
  obtain ⟨c, rest, rfl, hc⟩ := h
  have hspace : c ≠ ' ' := by rintro rfl; cases hc
  simp [leadingSpaces, List.takeWhile_append_of_pos, hspace]

theorem bytes_replicate (n : Nat) : bytes (List.replicate n ' ') = n := by
  induction n with
  | zero => rfl
  | succ n ih => rw [List.replicate_succ, bytes_cons, ih, Nat.add_comm]; rfl

theorem indentation_eq (h : Indented n line) : indentation line = n := by
  obtain ⟨c, rest, rfl, hc⟩ := h
  have htrim : trimStart (List.replicate n ' ' ++ c :: rest) = c :: rest := by
    rw [trimStart, List.dropWhile_append_of_pos (by simp; exact fun _ => rfl)]
    simp [hc]
  rw [indentation, htrim, bytes_append, bytes_replicate, Nat.add_sub_cancel]

theorem outdent (h : Indented n line) (hk : k ≤ n) : Indented (n - k) (line.outdent k) := by
  have hblank := h.isAllBlank_eq
  obtain ⟨c, rest, rfl, hc⟩ := h
  have hsplit : List.replicate n ' ' ++ c :: rest =
      List.replicate k ' ' ++ (List.replicate (n - k) ' ' ++ c :: rest) := by
    rw [← List.append_assoc, List.replicate_append_replicate, Nat.add_sub_cancel' hk]
  have hcut : cut? k (List.replicate n ' ' ++ c :: rest) =
      some (List.replicate k ' ', List.replicate (n - k) ' ' ++ c :: rest) := by
    have happend := cut?_append (List.replicate k ' ') (List.replicate (n - k) ' ' ++ c :: rest)
    rwa [bytes_replicate, ← hsplit] at happend
  exact ⟨c, rest, by simp [Text.outdent, hblank, hcut], hc⟩

end Indented

/-- A line that is not blank and whose leading blanks are spaces. -/
theorem indented_of_spaces {line : Text} (hsolid : isAllBlank line = false)
    (hspaces : ∀ c ∈ line.takeWhile isBlank, c = ' ') : Indented (leadingSpaces line) line := by
  have hsplit : line.takeWhile isBlank ++ line.dropWhile isBlank = line :=
    List.takeWhile_append_dropWhile
  have hfront : line.takeWhile isBlank = List.replicate (line.takeWhile isBlank).length ' ' :=
    List.eq_replicate_iff.mpr ⟨rfl, hspaces⟩
  cases hrest : line.dropWhile isBlank with
  | nil =>
    rw [hrest, List.append_nil] at hsplit
    rw [← hsplit, isAllBlank, List.all_takeWhile] at hsolid
    cases hsolid
  | cons c rest =>
    have hc : isBlank c = false := not_isBlank_of_trimStart hrest
    have hline : Indented (line.takeWhile isBlank).length line :=
      ⟨c, rest, by rw [← hfront, ← hrest, hsplit], hc⟩
    rwa [hline.leadingSpaces_eq]

section Outdent

variable {ls : List Text} {n : Nat}

/-- All lines that are not blank are indented with spaces. -/
def SpacesOnly (ls : List Text) : Prop :=
  ∀ l ∈ ls, isAllBlank l = false → ∀ c ∈ l.takeWhile isBlank, c = ' '

theorem spacesOnly_iff : SpacesOnly ls ↔
    (ls.all fun l => l.isAllBlank || (l.takeWhile isBlank).all (· == ' ')) = true := by
  simp only [SpacesOnly, List.all_eq_true, Bool.or_eq_true, beq_iff_eq]
  refine forall₂_congr fun l _ => ?_
  cases isAllBlank l <;> simp

instance (ls : List Text) : Decidable (SpacesOnly ls) := decidable_of_iff _ spacesOnly_iff.symm

theorem indentsOf_map_outdent (hspaces : SpacesOnly ls) (hn : ∀ k ∈ indentsOf ls, n ≤ k) :
    indentsOf (ls.map (outdent n)) = (indentsOf ls).map (· - n) := by
  induction ls with
  | nil => rfl
  | cons l ls ih =>
    have ih := ih fun l' hl' => hspaces l' (List.mem_cons_of_mem _ hl')
    rw [List.map_cons]
    cases hl : isAllBlank l with
    | true =>
      rw [indentsOf_cons_blank hl] at hn ⊢
      rw [outdent, if_pos hl, indentsOf_cons_blank rfl, ih hn]
    | false =>
      have hline := indented_of_spaces hl (hspaces l List.mem_cons_self hl)
      rw [indentsOf_cons_solid hl, List.forall_mem_cons] at hn
      have hout := hline.outdent hn.1
      rw [indentsOf_cons_solid hl, indentsOf_cons_solid hout.isAllBlank_eq, hout.leadingSpaces_eq,
        ih hn.2, List.map_cons]

theorem SpacesOnly.tail (h : SpacesOnly ls) : SpacesOnly ls.tail :=
  fun l hl => h l (List.mem_of_mem_tail hl)

/-- The common indentation is the least one of the lines that are not blank. -/
theorem commonIndentation_min (ls : List Text) :
    (∀ k ∈ (ls.filter fun l => !l.isAllBlank).map indentation, commonIndentation ls ≤ k) ∧
      ((ls.filter fun l => !l.isAllBlank).map indentation ≠ [] →
        commonIndentation ls ∈ (ls.filter fun l => !l.isAllBlank).map indentation) := by
  rw [commonIndentation]
  cases (ls.filter fun l => !l.isAllBlank).map indentation with
  | nil => simp
  | cons k ks =>
    have hmin : (k :: ks).min? = some (ks.foldl min k) := List.min?_cons'
    obtain ⟨hmem, hle⟩ := List.min?_eq_some_iff.mp hmin
    exact ⟨hle, fun _ => hmem⟩

/-- Where lines are indented with spaces, the common indentation is the least indent. -/
theorem commonIndentation_least (hspaces : SpacesOnly ls) :
    (∀ k ∈ indentsOf ls, commonIndentation ls ≤ k) ∧
      (indentsOf ls ≠ [] → commonIndentation ls ∈ indentsOf ls) := by
  have hindents : (ls.filter fun l => !l.isAllBlank).map indentation = indentsOf ls := by
    refine List.map_congr_left fun l hl => ?_
    obtain ⟨hmem, hsolid⟩ := List.mem_filter.mp hl
    have hsolid : isAllBlank l = false := by simpa using hsolid
    exact (indented_of_spaces hsolid (hspaces l hmem hsolid)).indentation_eq
  rw [← hindents]
  exact commonIndentation_min ls

end Outdent

/-! ### What is kept -/

theorem not_mem_outdent {line : Text} (h : '\n' ∉ line) (n : Nat) : '\n' ∉ outdent n line := by
  rw [outdent]
  split
  · simp
  · split
    · rename_i before rest hcut
      obtain ⟨happend, -⟩ := append_eq_of_cut? hcut
      exact fun hmem => h (happend ▸ List.mem_append_right _ hmem)
    · exact fun hmem => h ((List.dropWhile_sublist isBlank).subset hmem)

/-- The lines without their common indentation. The first line has no part in it. -/
def outdented : List Text → List Text
  | [] => []
  | first :: rest => trimStart first :: rest.map (outdent (commonIndentation rest))

theorem dedent_eq (t : Text) : dedent t = trim (join ['\n'] (outdented (lines t))) := rfl

theorem not_mem_outdented {ls : List Text} (h : ∀ l ∈ ls, '\n' ∉ l) :
    ∀ l ∈ outdented ls, '\n' ∉ l := by
  cases ls with
  | nil => exact h
  | cons first rest =>
    rw [List.forall_mem_cons] at h
    rw [outdented, List.forall_mem_cons, List.forall_mem_map]
    exact ⟨fun hmem => h.1 ((List.dropWhile_sublist isBlank).subset hmem),
      fun l hl => not_mem_outdent (h.2 l hl) _⟩

section Dedent

variable {t : Text}

theorem indents_eq_tail (hfirst : ∀ l ∈ t.lines.head?, isAllBlank l = true) :
    indents t = indentsOf t.lines.tail := by
  rw [indents]
  cases h : t.lines with
  | nil => rfl
  | cons first rest => exact indentsOf_cons_blank (hfirst first (by simp [h])) rest

/-- Every line loses the least indent, and then the first one all that is left of its own. -/
theorem indents_dedent (hfirst : ∀ l ∈ t.lines.head?, isAllBlank l = true)
    (hspaces : SpacesOnly t.lines) :
    t.dedent.indents =
      firstAtMargin (t.indents.map (· - commonIndentation t.lines.tail)) := by
  rw [indents_eq_tail hfirst, dedent_eq, indents_trim]
  congr 1
  have hbreaks := not_mem_outdented fun l hl => not_mem_of_mem_lines (t := t) hl
  cases h : t.lines with
  | nil => rfl
  | cons first rest =>
    have hrest : SpacesOnly rest := by simpa [h] using hspaces.tail
    have hblank : isAllBlank (trimStart first) = true :=
      List.all_eq_true.mpr fun c hc => List.all_eq_true.mp (hfirst first (by simp [h])) c
        ((List.dropWhile_sublist isBlank).subset hc)
    rw [h] at hbreaks
    rw [indents_eq, rows_join (by simp [outdented]) hbreaks, outdented,
      indentsOf_cons_blank hblank, List.tail_cons,
      indentsOf_map_outdent hrest (commonIndentation_least hrest).1]

end Dedent

/-- Two lists of indents have the same difference between any two of their lines. -/
structure KeepsDifferences (before after : List Nat) : Prop where
  length_eq : after.length = before.length
  difference_eq : ∀ {j k a b a' b' : Nat}, before[j]? = some a → before[k]? = some b →
    after[j]? = some a' → after[k]? = some b' → (a' : Int) - b' = a - b

theorem keepsDifferences_map_sub {ns : List Nat} {n : Nat} (h : ∀ k ∈ ns, n ≤ k) :
    KeepsDifferences ns (ns.map (· - n)) := by
  refine ⟨List.length_map _, fun {j k a b a' b'} hj hk hj' hk' => ?_⟩
  rw [List.getElem?_map, hj, Option.map_some, Option.some.injEq] at hj'
  rw [List.getElem?_map, hk, Option.map_some, Option.some.injEq] at hk'
  have ha := h a (List.mem_of_getElem? hj)
  have hb := h b (List.mem_of_getElem? hk)
  omega

theorem keepsDifferences_firstAtMargin_iff {ns : List Nat} {n : Nat} (h : ∀ k ∈ ns, n ≤ k)
    (hn : ns ≠ [] → n ∈ ns) :
    KeepsDifferences ns (firstAtMargin (ns.map (· - n))) ↔
      ∀ first ∈ ns.head?, ∀ k ∈ ns, first ≤ k := by
  cases ns with
  | nil => exact ⟨fun _ => by simp, fun _ => keepsDifferences_map_sub h⟩
  | cons first ns =>
    simp only [List.head?_cons, Option.mem_some_iff, forall_eq']
    constructor
    · intro hkeeps k hk
      refine Nat.le_trans (Nat.le_of_eq ?_) (h k hk)
      rcases List.mem_cons.mp (hn (by simp)) with heq | hmem
      · exact heq.symm
      · -- A later line has the least indent and comes to the margin, as the first one does.
        obtain ⟨j, hj⟩ := List.mem_iff_getElem?.mp hmem
        have hdiff : ((0 : Nat) : Int) - (0 : Nat) = (first : Int) - (n : Nat) :=
          hkeeps.difference_eq (j := 0) (k := j + 1) rfl hj rfl (by simp [firstAtMargin, hj])
        omega
    · intro hleast
      have hfirst : first - n = 0 := Nat.sub_eq_zero_of_le (hleast n (hn (by simp)))
      have hsame : firstAtMargin ((first :: ns).map (· - n)) = (first :: ns).map (· - n) := by
        rw [List.map_cons, hfirst]
        rfl
      rw [hsame]
      exact keepsDifferences_map_sub h

/-- All lines but the first one keep their distance, and the first one keeps it exactly if no line
is indented less. -/
theorem dedent_keeps_differences_iff {t : Text}
    (hfirst : ∀ l ∈ t.lines.head?, isAllBlank l = true) (hspaces : SpacesOnly t.lines) :
    KeepsDifferences t.indents.tail t.dedent.indents.tail ∧
      (KeepsDifferences t.indents t.dedent.indents ↔
        ∀ first ∈ t.indents.head?, ∀ n ∈ t.indents, first ≤ n) := by
  have htail := hspaces.tail
  rw [indents_dedent hfirst hspaces, indents_eq_tail hfirst]
  obtain ⟨hle, hmem⟩ := commonIndentation_least htail
  refine ⟨?_, keepsDifferences_firstAtMargin_iff hle hmem⟩
  generalize indentsOf t.lines.tail = ns at hle
  cases ns with
  | nil => exact keepsDifferences_map_sub hle
  | cons n ns => exact keepsDifferences_map_sub fun k hk => hle k (List.mem_cons_of_mem _ hk)

/-- Lines of markup, the first of them least indented, with a blank line and a `\r\n` in between. -/
def markup : Text := "\n  <a>\n\n      b\r\n    c\n  </a>\n ".toList

theorem dedent_markup :
    markup.indents = [2, 6, 4, 2] ∧ KeepsDifferences markup.indents markup.dedent.indents := by
  have hindents : markup.indents = [2, 6, 4, 2] := by decide
  exact ⟨hindents, (dedent_keeps_differences_iff (by decide) (by decide)).2.mpr (by
    rw [hindents]; decide)⟩

/-- The first line is indented more than the second one. -/
def hanging : Text := "\n    a\n  b".toList

theorem dedent_hanging :
    (∀ l ∈ hanging.lines.head?, isAllBlank l = true) ∧ SpacesOnly hanging.lines ∧
      hanging.indents = [4, 2] ∧ hanging.dedent.indents = [0, 0] ∧
      ¬ KeepsDifferences hanging.indents hanging.dedent.indents := by
  have hbefore : hanging.indents = [4, 2] := by decide
  have hafter : hanging.dedent.indents = [0, 0] := by decide
  refine ⟨by decide, by decide, hbefore, hafter, fun h => ?_⟩
  rw [hbefore, hafter] at h
  have hdiff := h.difference_eq (j := 0) (k := 1) rfl rfl rfl rfl
  cases hdiff

end StoryExports.Text
