import StoryExports.Proofs.Overlaps

/-!
# The finished text

The edits are applied from the right to the left, each to a text that the ones before it have
changed already. The result is what a single walk from the left to the right gives: at each offset
the insertions in the order of their issue, then the replacement of a range that starts there, then
the character itself unless a range covers it.
-/
namespace StoryExports.Edit

open Text (bytes bytes_nil bytes_cons)

/-- What is written at an offset: the insertions in the order of their issue, then the replacement
of the range that starts there. -/
def writtenAt (edits : List Edit) (pos : Nat) : Text :=
  let here := edits.filter fun e => e.span.start == pos
  (here.filter fun e => e.isInsertion).flatMap (·.text) ++
    (here.filter fun e => !e.isInsertion).flatMap (·.text)

def isCovered (edits : List Edit) (pos : Nat) : Bool :=
  edits.any fun e => e.span.start ≤ pos && pos < e.span.stop

/-- Walk a text, whose first byte has the offset `pos`, from the left to the right. -/
def render (edits : List Edit) (pos : Nat) : Text → Text
  | [] => writtenAt edits pos
  | c :: cs =>
    writtenAt edits pos ++
      ((if isCovered edits pos then [] else [c]) ++ render edits (pos + c.utf8Size) cs)

def From (pos : Nat) (edits : List Edit) : Prop := ∀ e ∈ edits, pos ≤ e.span.start

section Walk

variable {e : Edit} {es : List Edit} {pos n : Nat}

theorem filter_start_of_from (h : From n es) (hlt : pos < n) :
    (es.filter fun e => e.span.start == pos) = [] := by
  refine List.filter_eq_nil_iff.mpr fun e he => ?_
  have := h e he
  simp only [beq_iff_eq]
  omega

theorem writtenAt_of_from (h : From n es) (hlt : pos < n) : writtenAt es pos = [] := by
  simp [writtenAt, filter_start_of_from h hlt, -List.filter_filter]

theorem isCovered_of_from (h : From n es) (hlt : pos < n) : isCovered es pos = false := by
  refine List.any_eq_false.mpr fun e he => ?_
  have := h e he
  simp only [Bool.and_eq_true, decide_eq_true_eq, not_and]
  omega

theorem writtenAt_cons_of_ne (h : e.span.start ≠ pos) :
    writtenAt (e :: es) pos = writtenAt es pos := by
  simp [writtenAt, h]

theorem writtenAt_cons_insertion (h : e.isInsertion = true) :
    writtenAt (e :: es) e.span.start = e.text ++ writtenAt es e.span.start := by
  simp [writtenAt, h]

theorem writtenAt_cons_range (h : e.isInsertion = false) (hes : From n es)
    (hlt : e.span.start < n) : writtenAt (e :: es) e.span.start = e.text := by
  have hnone : (es.filter fun f => f.span.start == e.span.start) = [] :=
    filter_start_of_from hes hlt
  simp [writtenAt, h, hnone, -List.filter_filter]

theorem render_append {a : Text} (h : From (pos + bytes a) es) (b : Text) :
    render es pos (a ++ b) = a ++ render es (pos + bytes a) b := by
  induction a generalizing pos with
  | nil => simp
  | cons c a ih =>
    have hc := c.utf8Size_pos
    rw [bytes_cons] at h ⊢
    rw [← Nat.add_assoc] at h ⊢
    have hlt : pos < pos + c.utf8Size + bytes a := by omega
    simp [render, writtenAt_of_from h hlt, isCovered_of_from h hlt, ih h]

theorem render_cons_of_passed (hstart : e.span.start < pos) (hstop : e.span.stop ≤ pos)
    (t : Text) : render (e :: es) pos t = render es pos t := by
  have hwritten : ∀ n, pos ≤ n → writtenAt (e :: es) n = writtenAt es n := fun n hn =>
    writtenAt_cons_of_ne (by omega)
  induction t generalizing pos with
  | nil => exact hwritten pos (Nat.le_refl _)
  | cons c t ih =>
    have hout : ¬pos < e.span.stop := by omega
    have hcovered : isCovered (e :: es) pos = isCovered es pos := by simp [isCovered, hout]
    rw [render, render, hwritten pos (Nat.le_refl _), hcovered,
      ih (by omega) (by omega) (fun n hn => hwritten n (by omega))]

/-- Behind its start, a range writes nothing until it ends. -/
theorem render_covered {m : Text} (hes : From e.span.stop es) (hstart : e.span.start < pos)
    (hstop : pos + bytes m = e.span.stop) (b : Text) :
    render (e :: es) pos (m ++ b) = render es e.span.stop b := by
  induction m generalizing pos with
  | nil =>
    rw [bytes_nil, Nat.add_zero] at hstop
    rw [List.nil_append, render_cons_of_passed hstart (by omega), hstop]
  | cons c m ih =>
    have hc := c.utf8Size_pos
    rw [bytes_cons] at hstop
    have hlt : pos < e.span.stop := by omega
    have hwritten : writtenAt (e :: es) pos = [] := by
      rw [writtenAt_cons_of_ne (by omega), writtenAt_of_from hes hlt]
    have hcovered : isCovered (e :: es) pos = true := by
      simp only [isCovered, List.any_cons, Bool.or_eq_true, Bool.and_eq_true, decide_eq_true_eq]
      omega
    rw [List.cons_append, render, hwritten, hcovered, ih (by omega) (by omega)]
    simp

/-- At its start, a range writes its text and nothing else until it ends. -/
theorem render_range {m : Text} (hins : e.isInsertion = false) (hes : From e.span.stop es)
    (hstop : e.span.start + bytes m = e.span.stop) (b : Text) :
    render (e :: es) e.span.start (m ++ b) = e.text ++ render es e.span.stop b := by
  cases m with
  | nil =>
    -- An edit that covers nothing is an insertion.
    have hne : e.span.start ≠ e.span.stop := by simpa [isInsertion] using hins
    simp only [bytes_nil] at hstop
    omega
  | cons c m =>
    have hc := c.utf8Size_pos
    rw [bytes_cons] at hstop
    have hlt : e.span.start < e.span.stop := by omega
    have hcovered : isCovered (e :: es) e.span.start = true := by simp [isCovered, hlt]
    rw [List.cons_append, render, writtenAt_cons_range hins hes hlt, hcovered,
      render_covered hes (by omega) (by omega)]
    simp

/-- At its place, an insertion writes its text before all that is written there. -/
theorem render_insertion (hins : e.isInsertion = true) (t : Text) :
    render (e :: es) e.span.start t = e.text ++ render es e.span.start t := by
  have hstop := isInsertion_iff.mp hins
  cases t with
  | nil => exact writtenAt_cons_insertion hins
  | cons c t =>
    have hc := c.utf8Size_pos
    have hcovered : isCovered (e :: es) e.span.start = isCovered es e.span.start := by
      simp [isCovered, ← hstop]
    rw [render, render, writtenAt_cons_insertion hins, hcovered,
      render_cons_of_passed (by omega) (by omega)]
    simp

@[simp] theorem render_nil (pos : Nat) (t : Text) : render [] pos t = t := by
  induction t generalizing pos with
  | nil => rfl
  | cons c t ih => simp [render, writtenAt, isCovered, ih]

/-- Edits behind the end of `e` leave all of the text up to there as it was, so the span of `e`
still has its ends between characters. -/
theorem Fits.exists_render {t : Text} (he : Fits t e) (hes : From e.span.stop es) :
    ∃ a m b, t = a ++ (m ++ b) ∧ bytes a = e.span.start ∧ bytes a + bytes m = e.span.stop ∧
      render es 0 t = a ++ (m ++ render es e.span.stop b) := by
  obtain ⟨a, m, b, rfl, hstart, hstop⟩ := Text.exists_parts he.start he.stop he.ordered
  have hcopied : render es 0 (a ++ m ++ b) = a ++ m ++ render es (0 + bytes (a ++ m)) b :=
    render_append (by simpa [hstop] using hes) b
  refine ⟨a, m, b, rfl, hstart, hstop, ?_⟩
  simpa [hstop] using hcopied

theorem Fits.of_render {t : Text} (he : Fits t e) (hes : From e.span.stop es) :
    Fits (render es 0 t) e := by
  obtain ⟨a, m, b, rfl, hstart, hstop, hrender⟩ := he.exists_render hes
  refine ⟨he.ordered, ?_, ?_⟩
  · rw [hrender, ← hstart]
    exact Text.isBoundary_append _ _
  · rw [hrender, ← hstop, ← Text.bytes_append, ← List.append_assoc]
    exact Text.isBoundary_append _ _

/-- Applying an edit to the text in which all edits behind it are done gives the text in which it
is done as well. -/
theorem Fits.replace_render {t : Text} (he : Fits t e) (hes : From e.span.stop es) :
    (render es 0 t).replace e.span e.text = render (e :: es) 0 t := by
  obtain ⟨a, m, b, rfl, hstart, hstop, hrender⟩ := he.exists_render hes
  have hfrom : From (0 + bytes a) (e :: es) := by
    have hordered := he.ordered
    refine List.forall_mem_cons.mpr ⟨by omega, fun f hf => ?_⟩
    have := hes f hf
    omega
  have hspan : e.span = ⟨bytes a, bytes a + bytes m⟩ := by rw [hstop, hstart]
  have hhere : e.text ++ render es e.span.stop b = render (e :: es) e.span.start (m ++ b) := by
    cases hins : e.isInsertion with
    | false => rw [render_range hins hes (by omega)]
    | true =>
      have hempty := isInsertion_iff.mp hins
      obtain rfl : m = [] := Text.eq_nil_of_bytes_eq_zero (by omega)
      rw [List.nil_append, render_insertion hins, hempty]
  calc (render es 0 (a ++ (m ++ b))).replace e.span e.text
      = (a ++ (m ++ render es e.span.stop b)).replace ⟨bytes a, bytes a + bytes m⟩ e.text := by
        rw [hrender, hspan]
    _ = a ++ (e.text ++ render es e.span.stop b) := Text.replace_parts ..
    _ = render (e :: es) 0 (a ++ (m ++ b)) := by
        rw [render_append hfrom, Nat.zero_add, hstart, hhere]

end Walk

def applyAll (edits : List Edit) (t : Text) : Text :=
  edits.foldr (fun e t => t.replace e.span e.text) t

theorem from_stop_of_apart {e : Edit} {es : List Edit} (h : (e :: es).Pairwise Apart) :
    From e.span.stop es :=
  (List.pairwise_cons.mp h).1

theorem applyAll_eq_render {t : Text} {edits : List Edit} (hfits : ∀ e ∈ edits, Fits t e)
    (hapart : edits.Pairwise Apart) : applyAll edits t = render edits 0 t := by
  -- The first edit is the last one to be applied, to a text in which all others are done.
  induction edits with
  | nil => simp [applyAll]
  | cons e es ih =>
    obtain ⟨he, hes⟩ := List.forall_mem_cons.mp hfits
    have hrest := ih hes (List.pairwise_cons.mp hapart).2
    calc applyAll (e :: es) t = (applyAll es t).replace e.span e.text := rfl
      _ = (render es 0 t).replace e.span e.text := by rw [hrest]
      _ = render (e :: es) 0 t := he.replace_render (from_stop_of_apart hapart)

/-- Every single step cuts the text it works on between characters. -/
theorem fits_applyAll {t : Text} {before after : List Edit} {e : Edit}
    (hfits : ∀ f ∈ before ++ e :: after, Fits t f)
    (hapart : (before ++ e :: after).Pairwise Apart) : Fits (applyAll after t) e := by
  have hrest := (List.pairwise_append.mp hapart).2.1
  rw [applyAll_eq_render (fun f hf => hfits f (by simp [hf])) (List.pairwise_cons.mp hrest).2]
  exact (hfits e (by simp)).of_render (from_stop_of_apart hrest)

section Issue

/-- Edits of one kind that start at one offset are in no order, so sorting keeps the order of their
issue. -/
theorem filter_sorted (b : Buffer) (kind : Bool) (pos : Nat) :
    (b.sorted.filter fun e => e.isInsertion == kind && e.span.start == pos) =
      b.edits.filter fun e => e.isInsertion == kind && e.span.start == pos := by
  refine filter_sortBy _ (fun x y hx hy => ?_) b.edits
  simp only [Bool.and_eq_true, beq_iff_eq] at hx hy
  refine le_iff.mpr (.inr ⟨by rw [hx.2, hy.2], ?_⟩)
  rw [hx.1, hy.1]
  cases kind <;> simp

theorem writtenAt_sorted (b : Buffer) (pos : Nat) :
    writtenAt b.sorted pos = writtenAt b.edits pos := by
  have hinsertions := filter_sorted b true pos
  have hranges := filter_sorted b false pos
  simp only [beq_true, beq_false] at hinsertions hranges
  simp only [writtenAt, List.filter_filter, hinsertions, hranges]

theorem isCovered_sorted (b : Buffer) (pos : Nat) :
    isCovered b.sorted pos = isCovered b.edits pos :=
  b.sorted_perm.any_eq

/-- The walk does not see in which order edits at different places were issued. -/
theorem render_sorted (b : Buffer) (pos : Nat) (t : Text) :
    render b.sorted pos t = render b.edits pos t := by
  induction t generalizing pos with
  | nil => exact writtenAt_sorted b pos
  | cons c t ih => rw [render, render, writtenAt_sorted, isCovered_sorted, ih]

end Issue

namespace Buffer

theorem Sound.finish_eq {b : Buffer} (h : b.Sound) (hfree : ClashFree b.edits) :
    b.finish = .ok (render b.edits 0 b.text) := by
  have hapart := h.sorted_apart_iff.mpr hfree
  have hnone := h.firstOverlap_sorted_eq_none_iff.mpr hapart
  have hrender := applyAll_eq_render (fun e he => h.fits_of_mem_sorted he) hapart
  rw [← render_sorted, ← hrender, finish, hnone]
  rfl

/-- Edits that do not clash are all applied, and each step replaces a part of the text as it is by
then: its ends are in order, in bounds and between characters. -/
theorem finish_eq_render (t : Text) (calls : List Call)
    (hfree : ClashFree (afterCalls t calls).edits) :
    (afterCalls t calls).finish = .ok (render (afterCalls t calls).edits 0 t) ∧
      ∀ before e after, (afterCalls t calls).sorted = before ++ e :: after →
        Fits (applyAll after t) e ∧ e.span.stop ≤ bytes (applyAll after t) := by
  have hsound := sound_afterCalls t calls
  have htext := text_afterCalls t calls
  constructor
  · rw [hsound.finish_eq hfree, htext]
  · intro before e after hsplit
    have hfits : ∀ f ∈ before ++ e :: after, Fits t f := by
      intro f hf
      rw [← hsplit] at hf
      exact htext ▸ hsound.fits_of_mem_sorted hf
    have hhere := fits_applyAll hfits (hsplit ▸ hsound.sorted_apart_iff.mpr hfree)
    exact ⟨hhere, Text.le_bytes_of_isBoundary hhere.stop⟩

/-- Two ranges that touch, insertions at the start of each, and a failed call inside a character. -/
def touchingCalls : List Call :=
  [.remove ⟨4, 6⟩, .insert 4 ['x'], .insert 2 ['b'], .replace ⟨6, 8⟩ ['ü'], .insert 6 ['y'],
    .insert 4 ['z'], .append ['!']]

theorem finish_touchingCalls :
    ClashFree (afterCalls "aé0123456".toList touchingCalls).edits ∧
      (afterCalls "aé0123456".toList touchingCalls).finish = .ok "aé0xzyü56!".toList := by
  have hfree : ClashFree (afterCalls "aé0123456".toList touchingCalls).edits := by decide
  exact ⟨hfree, (finish_eq_render _ _ hfree).1⟩

end Buffer

end StoryExports.Edit
