import StoryExports.Proofs.Rendering

/-!
# A text rendered in parts

Where no edit reaches across a place in a text, the text before the place and the text behind it are
rendered one after the other, each with the edits that are made in it.
-/
namespace StoryExports.Edit

open Text (bytes bytes_nil bytes_cons)

variable {e : Edit} {edits es : List Edit} {pos : Nat} {t : Text}

theorem writtenAt_filter {keep : Edit → Bool}
    (h : ∀ e ∈ edits, keep e = false → e.span.start ≠ pos) :
    writtenAt (edits.filter keep) pos = writtenAt edits pos := by
  have hhere : ((edits.filter keep).filter fun e => e.span.start == pos) =
      edits.filter fun e => e.span.start == pos := by
    rw [List.filter_filter]
    refine List.filter_congr fun e he => ?_
    cases hkeep : keep e with
    | true => rw [Bool.and_true]
    | false => rw [Bool.and_false, beq_false_of_ne (h e he hkeep)]
  simp only [writtenAt, hhere]

theorem isCovered_filter {keep : Edit → Bool}
    (h : ∀ e ∈ edits, keep e = false → ¬(e.span.start ≤ pos ∧ pos < e.span.stop)) :
    isCovered (edits.filter keep) pos = isCovered edits pos := by
  rw [Bool.eq_iff_iff]
  simp only [isCovered, List.any_eq_true, List.mem_filter, Bool.and_eq_true, decide_eq_true_eq]
  constructor
  · rintro ⟨e, ⟨he, -⟩, hcovers⟩
    exact ⟨e, he, hcovers⟩
  · rintro ⟨e, he, hcovers⟩
    refine ⟨e, ⟨he, ?_⟩, hcovers⟩
    cases hkeep : keep e with
    | true => rfl
    | false => exact absurd hcovers (h e he hkeep)

/-- Edits before a text and behind it change nothing in it. -/
theorem render_filter {keep : Edit → Bool} (h : ∀ e ∈ edits, keep e = false →
      (e.span.start < pos ∧ e.span.stop ≤ pos) ∨ pos + bytes t < e.span.start) :
    render (edits.filter keep) pos t = render edits pos t := by
  induction t generalizing pos with
  | nil =>
    refine writtenAt_filter fun e he hkeep => ?_
    have := h e he hkeep
    simp only [bytes_nil] at this
    omega
  | cons c t ih =>
    have hc := c.utf8Size_pos
    simp only [bytes_cons] at h
    have hwritten : writtenAt (edits.filter keep) pos = writtenAt edits pos :=
      writtenAt_filter fun e he hkeep => by have := h e he hkeep; omega
    have hcovered : isCovered (edits.filter keep) pos = isCovered edits pos :=
      isCovered_filter fun e he hkeep => by have := h e he hkeep; omega
    rw [render, render, hwritten, hcovered, ih fun e he hkeep => by have := h e he hkeep; omega]

/-- Whether an edit is made before a place, or at it without taking anything away behind it. -/
def endsBy (place : Nat) (e : Edit) : Bool := e.span.stop ≤ place

/-- At a place that no edit reaches across, those that end there are insertions. -/
theorem writtenAt_split (hordered : ∀ e ∈ edits, e.span.start ≤ e.span.stop) :
    writtenAt edits pos = writtenAt (edits.filter (endsBy pos)) pos ++
      writtenAt (edits.filter (!endsBy pos ·)) pos := by
  have hkind : ∀ e ∈ edits, e.span.start = pos → e.isInsertion = endsBy pos e := by
    intro e he hstart
    have := hordered e he
    rw [Bool.eq_iff_iff, isInsertion_iff, endsBy, decide_eq_true_eq]
    omega
  have hsplit : ∀ keep : Edit → Bool,
      (((edits.filter keep).filter fun e => e.span.start == pos).filter fun e => e.isInsertion) =
        edits.filter (fun e => (endsBy pos e && keep e) && e.span.start == pos) ∧
      (((edits.filter keep).filter fun e => e.span.start == pos).filter fun e => !e.isInsertion) =
        edits.filter (fun e => (!endsBy pos e && keep e) && e.span.start == pos) := by
    intro keep
    simp only [List.filter_filter]
    constructor <;>
    · refine List.filter_congr fun e he => ?_
      by_cases hstart : e.span.start = pos
      · simp [hkind e he hstart, hstart]
      · simp [beq_false_of_ne hstart]
  have hall := hsplit fun _ => true
  simp only [List.filter_true] at hall
  unfold writtenAt
  simp only [hall, hsplit, Bool.and_self, Bool.and_true, Bool.not_and_self, Bool.and_not_self,
    Bool.false_and, List.filter_false, List.flatMap_nil, List.append_nil, List.nil_append]

/-- A text is rendered in two parts if no edit reaches from one into the other. -/
theorem render_split {a b : Text} (hordered : ∀ e ∈ edits, e.span.start ≤ e.span.stop)
    (hapart : ∀ e ∈ edits, e.span.stop ≤ pos + bytes a ∨ pos + bytes a ≤ e.span.start) :
    render edits pos (a ++ b) = render (edits.filter (endsBy (pos + bytes a))) pos a ++
      render (edits.filter (!endsBy (pos + bytes a) ·)) (pos + bytes a) b := by
  induction a generalizing pos with
  | nil =>
    rw [bytes_nil, Nat.add_zero] at hapart ⊢
    have hends : ∀ e ∈ edits, (!endsBy pos e) = false → e.span.start ≤ pos ∧ e.span.stop ≤ pos := by
      intro e he hends
      have := hordered e he
      simp only [endsBy, Bool.not_eq_false', decide_eq_true_eq] at hends
      omega
    cases b with
    | nil => exact writtenAt_split hordered
    | cons c b =>
      have hc := c.utf8Size_pos
      have hcovered : isCovered (edits.filter (!endsBy pos ·)) pos = isCovered edits pos :=
        isCovered_filter fun e he hkeep => by have := hends e he hkeep; omega
      have hrest : render (edits.filter (!endsBy pos ·)) (pos + c.utf8Size) b =
          render edits (pos + c.utf8Size) b :=
        render_filter fun e he hkeep => by have := hends e he hkeep; omega
      rw [List.nil_append, render, render, render, hcovered, hrest, writtenAt_split hordered,
        List.append_assoc]
  | cons c a ih =>
    have hc := c.utf8Size_pos
    rw [bytes_cons, ← Nat.add_assoc] at hapart ⊢
    have hlater : ∀ e ∈ edits, endsBy (pos + c.utf8Size + bytes a) e = false →
        pos < e.span.start := by
      intro e he hends
      have := hapart e he
      simp only [endsBy, decide_eq_false_iff_not] at hends
      omega
    have hwritten : writtenAt (edits.filter (endsBy (pos + c.utf8Size + bytes a))) pos =
        writtenAt edits pos :=
      writtenAt_filter fun e he hkeep => by have := hlater e he hkeep; omega
    have hcovered : isCovered (edits.filter (endsBy (pos + c.utf8Size + bytes a))) pos =
        isCovered edits pos :=
      isCovered_filter fun e he hkeep => by have := hlater e he hkeep; omega
    rw [List.cons_append, render, render, hwritten, hcovered, ih hapart]
    simp only [List.append_assoc]

/-- A text in which no edit is made stays as it is behind the others. -/
theorem render_append_untouched {x y : Text}
    (hordered : ∀ e ∈ edits, e.span.start ≤ e.span.stop)
    (hapart : ∀ e ∈ edits, e.span.stop ≤ pos + bytes x ∨ pos + bytes x + bytes y < e.span.start) :
    render edits pos (x ++ y) = render edits pos x ++ y := by
  have hbehind : ∀ e ∈ edits, endsBy (pos + bytes x) e = false →
      pos + bytes x + bytes y + 1 ≤ e.span.start := by
    intro e he hends
    have := hapart e he
    simp only [endsBy, decide_eq_false_iff_not] at hends
    omega
  have hlate : From (pos + bytes x + bytes y + 1) (edits.filter (!endsBy (pos + bytes x) ·)) := by
    intro e he
    obtain ⟨he, hends⟩ := List.mem_filter.mp he
    exact hbehind e he (by simpa using hends)
  have hsame : render (edits.filter (!endsBy (pos + bytes x) ·)) (pos + bytes x) y = y := by
    have hcopied := render_append (a := y) (fun e he => Nat.le_of_succ_le (hlate e he)) []
    rwa [List.append_nil, render, writtenAt_of_from hlate (Nat.lt_succ_self _), List.append_nil]
      at hcopied
  rw [render_split hordered fun e he => ?_, hsame, render_filter fun e he hends => ?_]
  · have := hbehind e he hends
    omega
  · have := hapart e he
    omega

/-- An insertion at the end is written behind all others. -/
theorem render_insertion_end {later : List Edit} (hins : e.isInsertion = true)
    (hend : e.span.start = pos + bytes t)
    (hothers : ∀ f ∈ es ++ later, f.span.start ≠ pos + bytes t) :
    render (es ++ e :: later) pos t = render (es ++ later) pos t ++ e.text := by
  induction t generalizing pos with
  | nil =>
    rw [bytes_nil, Nat.add_zero] at hend hothers
    have hnone : ∀ fs : List Edit, (∀ f ∈ fs, f.span.start ≠ pos) →
        (fs.filter fun f => f.span.start == pos) = [] := fun fs hfs =>
      List.filter_eq_nil_iff.mpr fun f hf => by simpa using hfs f hf
    obtain ⟨hes, hlater⟩ := List.forall_mem_append.mp hothers
    simp [render, writtenAt, hend, hins, hnone es hes, hnone later hlater, -List.filter_filter]
  | cons c t ih =>
    have hc := c.utf8Size_pos
    rw [bytes_cons, ← Nat.add_assoc] at hend hothers
    have hne : e.span.start ≠ pos := by omega
    have hwritten : writtenAt (es ++ e :: later) pos = writtenAt (es ++ later) pos := by
      simp [writtenAt, hne]
    have hcovered : isCovered (es ++ e :: later) pos = isCovered (es ++ later) pos := by
      have : ¬e.span.start ≤ pos := by omega
      simp [isCovered, this]
    rw [render, render, hwritten, hcovered, ih hend hothers]
    simp only [List.append_assoc]

section Around

variable {later : List Edit} {y z w a : Text}

/-- The edits of a text that loses its beginning and gets a new end. -/
def around (es : List Edit) (pos : Nat) (y z w a : Text) (later : List Edit) : List Edit :=
  es ++ ⟨⟨pos, pos + bytes y⟩, []⟩ ::
    ⟨⟨pos + bytes y + bytes z + bytes w, pos + bytes y + bytes z + bytes w⟩, a⟩ :: later

theorem mem_around (h : e ∈ around es pos y z w a later) :
    e ∈ es ++ later ∨ e.span = ⟨pos, pos + bytes y⟩ ∨
      e.span = ⟨pos + bytes y + bytes z + bytes w, pos + bytes y + bytes z + bytes w⟩ := by
  simp only [around, List.mem_append, List.mem_cons] at h ⊢
  rcases h with h | rfl | rfl | h
  · exact .inl (.inl h)
  · exact .inr (.inl rfl)
  · exact .inr (.inr rfl)
  · exact .inl (.inr h)

/-- Behind the beginning that goes, the other edits are made, and then the new end is written. -/
theorem render_around (hy : 0 < bytes y) (hz : 0 < bytes z)
    (hordered : ∀ e ∈ es ++ later, e.span.start ≤ e.span.stop)
    (hfrom : From (pos + bytes y + bytes z) (es ++ later))
    (hend : ∀ e ∈ es ++ later, e.span.start ≠ pos + bytes y + bytes z + bytes w) :
    render (around es pos y z w a later) pos (y ++ (z ++ w)) =
      z ++ (render (es ++ later) (pos + bytes y + bytes z) w ++ a) := by
  have hlate : ∀ e ∈ es ++ later, endsBy (pos + bytes y) e = false := by
    intro e he
    have := hordered e he
    have := hfrom e he
    simp only [endsBy, decide_eq_false_iff_not]
    omega
  obtain ⟨hes, hlater⟩ := List.forall_mem_append.mp hlate
  have hnone : ∀ fs : List Edit, (∀ f ∈ fs, endsBy (pos + bytes y) f = false) →
      fs.filter (endsBy (pos + bytes y)) = [] ∧ fs.filter (!endsBy (pos + bytes y) ·) = fs := by
    refine fun fs hfs => ⟨List.filter_eq_nil_iff.mpr fun f hf => by simp [hfs f hf],
      List.filter_eq_self.mpr fun f hf => by simp [hfs f hf]⟩
  have hcut : endsBy (pos + bytes y) ⟨⟨pos, pos + bytes y⟩, []⟩ = true := by simp [endsBy]
  have hadded : endsBy (pos + bytes y) ⟨⟨pos + bytes y + bytes z + bytes w,
      pos + bytes y + bytes z + bytes w⟩, a⟩ = false := by
    simp only [endsBy, decide_eq_false_iff_not]
    omega
  rw [render_split (fun e he => ?_) (fun e he => ?_)]
  · rw [around, List.filter_append, List.filter_append, List.filter_cons_of_pos hcut,
      List.filter_cons_of_neg (by simp [hadded]), List.filter_cons_of_neg (by simp [hcut]),
      List.filter_cons_of_pos (by simp [hadded]), (hnone es hes).1, (hnone es hes).2,
      (hnone later hlater).1, (hnone later hlater).2, List.nil_append]
    have hgone : render [⟨⟨pos, pos + bytes y⟩, []⟩] pos y = [] := by
      have hrange : render [⟨⟨pos, pos + bytes y⟩, []⟩] pos (y ++ []) =
          [] ++ render [] (pos + bytes y) [] :=
        render_range (by simp [isInsertion]; omega) (by simp [From]) rfl []
      simpa using hrange
    rw [hgone, List.nil_append, render_append,
      render_insertion_end (isInsertion_iff.mpr rfl) rfl hend]
    refine fun e he => ?_
    rcases List.mem_append.mp he with he | he
    · exact hfrom e (List.mem_append_left _ he)
    · rcases List.mem_cons.mp he with rfl | he
      · exact Nat.le_add_right _ _
      · exact hfrom e (List.mem_append_right _ he)
  · rcases mem_around he with he | he | he
    · exact hordered e he
    · simp [he]
    · simp [he]
  · rcases mem_around he with he | he | he
    · have := hfrom e he
      omega
    · simp [he]
    · simp only [he]
      omega

/-- The text before is rendered by itself, with those of the other edits that are made in it. -/
theorem render_append_around {x : Text} (hy : 0 < bytes y) (hz : 0 < bytes z)
    (hordered : ∀ e ∈ es ++ later, e.span.start ≤ e.span.stop)
    (hapart : ∀ e ∈ es ++ later, e.span.stop ≤ bytes x ∨
      (bytes x + bytes y + bytes z ≤ e.span.start ∧
        e.span.start < bytes x + bytes y + bytes z + bytes w)) :
    render (around es (bytes x) y z w a later) 0 (x ++ (y ++ (z ++ w))) =
      render (es ++ later) 0 x ++
        (z ++ (render (es ++ later) (bytes x + bytes y + bytes z) w ++ a)) := by
  have hcut : endsBy (bytes x) ⟨⟨bytes x, bytes x + bytes y⟩, []⟩ = false := by
    simp only [endsBy, decide_eq_false_iff_not]
    omega
  have hadded : endsBy (bytes x) ⟨⟨bytes x + bytes y + bytes z + bytes w,
      bytes x + bytes y + bytes z + bytes w⟩, a⟩ = false := by
    simp only [endsBy, decide_eq_false_iff_not]
    omega
  have hfirst : (around es (bytes x) y z w a later).filter (endsBy (bytes x)) =
      (es ++ later).filter (endsBy (bytes x)) := by
    rw [around, List.filter_append, List.filter_append, List.filter_cons_of_neg (by simp [hcut]),
      List.filter_cons_of_neg (by simp [hadded])]
  have hsecond : (around es (bytes x) y z w a later).filter (!endsBy (bytes x) ·) =
      around (es.filter (!endsBy (bytes x) ·)) (bytes x) y z w a
        (later.filter (!endsBy (bytes x) ·)) := by
    rw [around, List.filter_append, List.filter_cons_of_pos (by simp [hcut]),
      List.filter_cons_of_pos (by simp [hadded]), around]
  have hbehind : ∀ e ∈ es ++ later, endsBy (bytes x) e = false →
      bytes x + bytes y + bytes z ≤ e.span.start ∧
        e.span.start < bytes x + bytes y + bytes z + bytes w := by
    intro e he hends
    have := hapart e he
    simp only [endsBy, decide_eq_false_iff_not] at hends
    omega
  have hlate : ∀ e ∈ es.filter (!endsBy (bytes x) ·) ++ later.filter (!endsBy (bytes x) ·),
      e ∈ es ++ later ∧ endsBy (bytes x) e = false := by
    intro e he
    rw [← List.filter_append] at he
    simpa using List.mem_filter.mp he
  rw [render_split (fun e he => ?_) (fun e he => ?_), Nat.zero_add, hfirst, hsecond,
    render_around hy hz (fun e he => hordered e (hlate e he).1)
      (fun e he => (hbehind e (hlate e he).1 (hlate e he).2).1)
      (fun e he => by have := hbehind e (hlate e he).1 (hlate e he).2; omega),
    ← List.filter_append, render_filter fun e he hends => ?_, render_filter fun e he hends => ?_]
  · have := hordered e he
    have hends : e.span.stop ≤ bytes x := by simpa [endsBy] using hends
    omega
  · have := hbehind e he hends
    omega
  · rcases mem_around he with he | he | he
    · exact hordered e he
    · simp [he]
    · simp [he]
  · rcases mem_around he with he | he | he
    · have := hapart e he
      omega
    · simp [he]
    · simp only [he]
      omega

end Around

end StoryExports.Edit
