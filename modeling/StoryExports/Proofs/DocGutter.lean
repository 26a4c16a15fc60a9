import Mathlib.Data.List.Basic
import StoryExports.Proofs.KeptContent
import StoryExports.Text.DocComment

/-!
# The gutter of documentation comments

A documentation comment is written with a star and a space before each line of its prose, and every
line may be indented in its own way. Reading takes off just this gutter: the blanks before the star
end at the star, one star and one space go, and what stands behind them is the prose as it was.
-/
namespace StoryExports.Text

/-- A line of a documentation comment: blanks, a star, a space and a line of prose. -/
structure GutterLine where
  indent : Text
  prose : Text
  indent_blank : isAllBlank indent = true
  indent_unbroken : '\n' ∉ indent
  prose_unbroken : '\n' ∉ prose
  prose_trimmed : ∀ c ∈ prose.getLast?, isBlank c = false

def GutterLine.text (l : GutterLine) : Text := l.indent ++ '*' :: ' ' :: l.prose

/-- The text between `/*` and `*/`: a star, the lines from the next one on, and blanks before the
closing sign. -/
def docComment (ls : List GutterLine) (tail : Text) : Text :=
  '*' :: '\n' :: ls.flatMap (fun l => l.text ++ ['\n']) ++ tail

/-- The prose has a first line, which starts with no blank, and its last line is not empty. -/
structure Framed (ls : List GutterLine) : Prop where
  ne_nil : ls ≠ []
  first : ∀ l ∈ ls.head?, l.prose ≠ [] ∧ ∀ c ∈ l.prose.head?, isBlank c = false
  last : ∀ l ∈ ls.getLast?, l.prose ≠ []

/-! ### Trimming between blanks -/

section Trim

variable {t u v : Text}

theorem trimStart_blank_append (hu : isAllBlank u = true)
    (ht : ∀ c ∈ t.head?, isBlank c = false) : trimStart (u ++ t) = t := by
  rw [trimStart, List.dropWhile_append_of_pos (List.all_eq_true.mp hu)]
  cases t with
  | nil => rfl
  | cons c t => exact List.dropWhile_cons_of_neg (by simp [ht c rfl])

theorem trimEnd_append_blank (hv : isAllBlank v = true)
    (ht : ∀ c ∈ t.getLast?, isBlank c = false) : trimEnd (t ++ v) = t := by
  have hback : trimStart (v.reverse ++ t.reverse) = t.reverse :=
    trimStart_blank_append (by rwa [isAllBlank, List.all_reverse]) (by rwa [List.head?_reverse])
  rw [trimEnd, List.reverse_append, show List.dropWhile isBlank _ = _ from hback,
    List.reverse_reverse]

/-- Trimming takes all blanks around a text that starts and ends with other characters. -/
theorem trim_between_blanks (hu : isAllBlank u = true) (hv : isAllBlank v = true) (hne : t ≠ [])
    (hhead : ∀ c ∈ t.head?, isBlank c = false) (hlast : ∀ c ∈ t.getLast?, isBlank c = false) :
    trim (u ++ (t ++ v)) = t := by
  have hfront : ∀ c ∈ (t ++ v).head?, isBlank c = false := by
    rwa [List.head?_append_of_ne_nil _ hne]
  rw [trim, trimStart_blank_append hu hfront, trimEnd_append_blank hv hlast]

end Trim

/-! ### Lines -/

section Lines

variable {t row : Text}

theorem lines_go_append (hrow : '\n' ∉ row) (current t : Text) :
    lines.go current (row ++ '\n' :: t) = lineRead (row.reverse ++ current) :: lines t := by
  induction row generalizing current with
  | nil => rfl
  | cons c row ih =>
    rw [List.mem_cons, not_or] at hrow
    rw [List.cons_append, lines_go_cons, if_neg (Ne.symm hrow.1), ih hrow.2, List.reverse_cons,
      List.append_assoc, List.singleton_append]

theorem lineRead_reverse (h : ∀ c ∈ t.getLast?, isBlank c = false ∨ c = ' ') :
    lineRead t.reverse = t := by
  unfold lineRead
  split
  next rest ht =>
    have hlast : t.getLast? = some '\r' := by rw [← List.head?_reverse, ht]; rfl
    rcases h _ hlast with h | h <;> cases h
  next => exact List.reverse_reverse t

/-- A line that ends with no carriage return is read as it is. -/
theorem lines_append_break (hrow : '\n' ∉ row)
    (hlast : ∀ c ∈ row.getLast?, isBlank c = false ∨ c = ' ') :
    lines (row ++ '\n' :: t) = row :: lines t := by
  rw [lines, lines_go_append hrow, List.append_nil, lineRead_reverse hlast]

theorem isAllBlank_of_mem_lines {line : Text} (h : isAllBlank t = true) (hline : line ∈ lines t) :
    isAllBlank line = true := by
  obtain ⟨row, hrow, u, -, rfl⟩ := exists_row_of_mem_lines hline
  have hblank := isAllBlank_of_mem_rows h hrow
  rw [isAllBlank_append, Bool.and_eq_true] at hblank
  exact hblank.1

end Lines

/-! ### Joined lines -/

section Join

variable {separator p : Text} {ps qs : List Text}

theorem join_append (hps : ps ≠ []) (hqs : qs ≠ []) :
    join separator (ps ++ qs) = join separator ps ++ separator ++ join separator qs := by
  induction ps with
  | nil => exact absurd rfl hps
  | cons p ps ih =>
    cases ps with
    | nil =>
      obtain ⟨q, qs, rfl⟩ := List.exists_cons_of_ne_nil hqs
      exact join_cons_cons ..
    | cons p' ps =>
      rw [List.cons_append, List.cons_append, join_cons_cons, join_cons_cons, ← List.cons_append,
        ih (by simp)]
      simp only [List.append_assoc]

theorem head?_join (hp : p ≠ []) : (join separator (p :: ps)).head? = p.head? := by
  cases ps with
  | nil => rfl
  | cons q ps =>
    rw [join_cons_cons, List.append_assoc, List.head?_append_of_ne_nil _ hp]

theorem getLast?_join (hp : p ≠ []) : (join separator (ps ++ [p])).getLast? = p.getLast? := by
  cases ps with
  | nil => rfl
  | cons q ps =>
    rw [join_append (by simp) (by simp)]
    exact List.getLast?_append_of_ne_nil _ hp

/-- Empty lines behind other lines add line feeds only. -/
theorem exists_join_append_empty (hps : ps ≠ []) (hqs : ∀ q ∈ qs, q = []) :
    ∃ v, isAllBlank v = true ∧ join ['\n'] (ps ++ qs) = join ['\n'] ps ++ v := by
  cases qs with
  | nil => exact ⟨[], rfl, by rw [List.append_nil, List.append_nil]⟩
  | cons q qs =>
    refine ⟨'\n' :: join ['\n'] (q :: qs), ?_, ?_⟩
    · rw [← content_eq_nil_iff, show content ('\n' :: _) = _ from content_join _,
        List.flatMap_eq_nil_iff]
      exact fun l hl => by rw [hqs l hl]; rfl
    · rw [join_append hps (by simp), List.append_assoc, List.singleton_append]

end Join

/-! ### The gutter -/

namespace GutterLine

variable (l : GutterLine)

theorem not_mem_text : '\n' ∉ l.text := by
  simp [text, l.indent_unbroken, l.prose_unbroken]

theorem last_text : ∀ c ∈ l.text.getLast?, isBlank c = false ∨ c = ' ' := by
  intro c hc
  rw [text] at hc
  cases h : l.prose with
  | nil => exact .inr (by simpa [h] using hc.symm)
  | cons d prose =>
    refine .inl (l.prose_trimmed c ?_)
    rw [h] at hc ⊢
    simpa using hc

theorem withoutGutter_text : withoutGutter l.text = l.prose := by
  have hstar : trimStart l.text = '*' :: ' ' :: l.prose :=
    trimStart_blank_append l.indent_blank (by simp; rfl)
  have hprose : trimEnd (l.prose ++ []) = l.prose := trimEnd_append_blank rfl l.prose_trimmed
  rw [List.append_nil] at hprose
  rw [withoutGutter, hstar]
  exact hprose

end GutterLine

theorem withoutGutter_of_isAllBlank {line : Text} (h : isAllBlank line = true) :
    withoutGutter line = [] := by
  have hempty : trimStart (line ++ []) = [] := trimStart_blank_append h (by simp)
  rw [List.append_nil] at hempty
  rw [withoutGutter, hempty]
  rfl

section Comment

variable {ls : List GutterLine} {tail : Text}

theorem lines_gutterLines (ls : List GutterLine) (tail : Text) :
    lines (ls.flatMap (fun l => l.text ++ ['\n']) ++ tail) =
      ls.map GutterLine.text ++ lines tail := by
  induction ls with
  | nil => rfl
  | cons l ls ih =>
    rw [List.flatMap_cons, List.append_assoc, List.append_assoc, List.singleton_append,
      lines_append_break l.not_mem_text l.last_text, ih, List.map_cons, List.cons_append]

/-- The lines that are read: an empty one, the prose, and the blanks of the end. -/
theorem withoutGutter_lines (ls : List GutterLine) (tail : Text) :
    (lines (dropOne '*' (docComment ls tail))).map withoutGutter =
      [[]] ++ (ls.map GutterLine.prose ++ (lines tail).map withoutGutter) := by
  have hstar : dropOne '*' (docComment ls tail) =
      [] ++ '\n' :: (ls.flatMap (fun l => l.text ++ ['\n']) ++ tail) := rfl
  have hproses : ls.map (fun l => withoutGutter l.text) = ls.map GutterLine.prose :=
    List.map_congr_left fun l _ => l.withoutGutter_text
  rw [hstar, lines_append_break (by simp) (by simp), lines_gutterLines, List.map_cons,
    List.map_append, List.map_map, ← hproses]
  rfl

theorem Framed.head_join (h : Framed ls) :
    join ['\n'] (ls.map GutterLine.prose) ≠ [] ∧
      ∀ c ∈ (join ['\n'] (ls.map GutterLine.prose)).head?, isBlank c = false := by
  obtain ⟨l, rest, rfl⟩ := List.exists_cons_of_ne_nil h.ne_nil
  obtain ⟨hsolid, hstart⟩ := h.first l rfl
  rw [List.map_cons, ← List.isSome_head?, head?_join hsolid]
  exact ⟨List.isSome_head?.mpr hsolid, hstart⟩

theorem Framed.last_join (h : Framed ls) :
    ∀ c ∈ (join ['\n'] (ls.map GutterLine.prose)).getLast?, isBlank c = false := by
  obtain ⟨front, l, rfl⟩ := (List.eq_nil_or_concat ls).resolve_left h.ne_nil
  rw [List.concat_eq_append] at h ⊢
  rw [List.map_append, List.map_singleton, getLast?_join (h.last l (by simp))]
  exact l.prose_trimmed

/-- The prose of a documentation comment is what was written behind the gutter, line by line. -/
theorem docProse_docComment (h : Framed ls) (htail : isAllBlank tail = true) :
    docProse (docComment ls tail) = join ['\n'] (ls.map GutterLine.prose) ∧
      rows (docProse (docComment ls tail)) = ls.map GutterLine.prose := by
  have hproses : ls.map GutterLine.prose ≠ [] := by simpa using h.ne_nil
  have hempty : ∀ q ∈ (lines tail).map withoutGutter, q = [] := List.forall_mem_map.mpr fun l hl =>
    withoutGutter_of_isAllBlank (isAllBlank_of_mem_lines htail hl)
  obtain ⟨v, hv, hjoin⟩ := exists_join_append_empty hproses hempty
  have hprose : docProse (docComment ls tail) = join ['\n'] (ls.map GutterLine.prose) := by
    rw [docProse, withoutGutter_lines,
      join_append (by simp) (List.append_ne_nil_of_left_ne_nil hproses _), hjoin]
    obtain ⟨hne, hhead⟩ := h.head_join
    exact trim_between_blanks (u := ['\n']) rfl hv hne hhead h.last_join
  refine ⟨hprose, ?_⟩
  rw [hprose, rows_join hproses]
  exact List.forall_mem_map.mpr fun l _ => l.prose_unbroken

end Comment

/-- A heading, an empty line, and an item with a star of its own that is indented. -/
def listComment : List GutterLine :=
  [⟨"   ".toList, "Sizes:".toList, rfl, by decide, by decide, by rintro _ ⟨⟩; rfl⟩,
    ⟨"\t\u3000".toList, [], rfl, by decide, by decide, by rintro _ ⟨⟩⟩,
    ⟨[], "  * small,\twide".toList, rfl, by decide, by decide, by rintro _ ⟨⟩; rfl⟩]

theorem framed_listComment : Framed listComment where
  ne_nil := List.cons_ne_nil _ _
  first := by
    rintro _ ⟨⟩
    exact ⟨List.cons_ne_nil _ _, by rintro _ ⟨⟩; rfl⟩
  last := by
    rintro _ ⟨⟩
    exact List.cons_ne_nil _ _

theorem docProse_listComment :
    Framed listComment ∧
      docProse (docComment listComment "\n \r".toList) = "Sizes:\n\n  * small,\twide".toList :=
  ⟨framed_listComment, (docProse_docComment framed_listComment rfl).1⟩

end StoryExports.Text
