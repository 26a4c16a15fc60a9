import StoryExports.Proofs.Lists
import StoryExports.Proofs.Rendering

/-!
# The order of issue

A call that fails leaves no trace, and what a call records depends on the text and the call alone.
So the recorded edits follow from the calls that succeed. The finished text depends on their order
only among insertions at one offset: ranges that do not clash start at different offsets, and
whether two edits clash is no matter of order.
-/
namespace StoryExports.Edit

/-- What a call records when it succeeds. -/
def Call.edits (t : Text) : Call → List Edit
  | .insert pos new => [⟨⟨pos, pos⟩, new⟩]
  | .replace span new => [⟨span, new⟩]
  | .remove span => Buffer.removal span
  | .append new => [⟨⟨t.bytes, t.bytes⟩, new⟩]

/-- The insertions at an offset, the first issued first. -/
def insertionsAt (edits : List Edit) (pos : Nat) : List Edit :=
  edits.filter fun e => e.isInsertion && e.span.start == pos

/-- The ranges that start at an offset. -/
def rangesAt (edits : List Edit) (pos : Nat) : List Edit :=
  edits.filter fun e => !e.isInsertion && e.span.start == pos

theorem writtenAt_eq (edits : List Edit) (pos : Nat) :
    writtenAt edits pos =
      (insertionsAt edits pos).flatMap (·.text) ++ (rangesAt edits pos).flatMap (·.text) := by
  simp only [writtenAt, insertionsAt, rangesAt, List.filter_filter]

/-- Ranges with one start share their first byte. -/
theorem clash_of_rangesAt {edits : List Edit} {t : Text} (hfits : ∀ e ∈ edits, Fits t e) {pos : Nat}
    {a b : Edit} (ha : a ∈ rangesAt edits pos) (hb : b ∈ rangesAt edits pos) : Clash a b := by
  have hcovers : ∀ e ∈ rangesAt edits pos, e.span.Covers pos := by
    intro e he
    obtain ⟨hmem, hkind⟩ := List.mem_filter.mp he
    simp only [Bool.and_eq_true, Bool.not_eq_true', beq_iff_eq] at hkind
    have hordered := (hfits e hmem).ordered
    have hne : e.span.start ≠ e.span.stop := by simpa [isInsertion] using hkind.1
    simp only [Span.Covers]
    omega
  exact .inl ⟨pos, hcovers a ha, hcovers b hb⟩

theorem length_rangesAt_le_one {edits : List Edit} {t : Text} (hfits : ∀ e ∈ edits, Fits t e)
    (hfree : ClashFree edits) (pos : Nat) : (rangesAt edits pos).length ≤ 1 := by
  have hpairs : (rangesAt edits pos).Pairwise fun a b => ¬Clash a b := hfree.filter _
  have hclash : ∀ a ∈ rangesAt edits pos, ∀ b ∈ rangesAt edits pos, Clash a b :=
    fun a ha b hb => clash_of_rangesAt hfits ha hb
  generalize rangesAt edits pos = ranges at hpairs hclash
  cases ranges with
  | nil => simp
  | cons a rest =>
    cases rest with
    | nil => simp
    | cons b rest =>
      have hab := (List.pairwise_cons.mp hpairs).1 b (by simp)
      exact absurd (hclash a (by simp) b (by simp)) hab

section Reordered

variable {edits edits' : List Edit} {t : Text} (hfits : ∀ e ∈ edits, Fits t e)
  (hfree : ClashFree edits) (hperm : edits.Perm edits')
  (hinsertions : ∀ pos, insertionsAt edits pos = insertionsAt edits' pos)
include hfits hfree hperm hinsertions

theorem writtenAt_reordered (pos : Nat) : writtenAt edits pos = writtenAt edits' pos := by
  have hranges : rangesAt edits pos = rangesAt edits' pos :=
    eq_of_perm_of_length_le_one (hperm.filter _) (length_rangesAt_le_one hfits hfree pos)
  rw [writtenAt_eq, writtenAt_eq, hinsertions pos, hranges]

/-- The walk sees an order of edits only among insertions at one offset. -/
theorem render_reordered (pos : Nat) (u : Text) : render edits pos u = render edits' pos u := by
  have hwritten := writtenAt_reordered hfits hfree hperm hinsertions
  have hcovered : ∀ n, isCovered edits n = isCovered edits' n := fun n => hperm.any_eq
  induction u generalizing pos with
  | nil => exact hwritten pos
  | cons c u ih => rw [render, render, hwritten, hcovered, ih]

end Reordered

namespace Buffer

/-- The calls that succeed, in their order, when all calls are made one after the other. -/
def accepted (b : Buffer) : List Call → List Call
  | [] => []
  | c :: calls =>
    match b.call c with
    | .ok b' => c :: b'.accepted calls
    | .error _ => b.accepted calls

theorem recorded_of_call {b b' : Buffer} {c : Call} (h : b.call c = .ok b') :
    b' = b.recordAll (c.edits b.text) := by
  cases c with
  | insert pos new => exact (fits_of_replace h).2
  | replace span new => exact (fits_of_replace h).2
  | remove span =>
    simp only [call, remove] at h
    simp only [Call.edits, removal]
    split at h
    · rename_i hempty
      cases h
      rw [if_pos hempty, recordAll_nil]
    · rename_i hrange
      rw [if_neg hrange]
      exact (fits_of_replace h).2
  | append new => exact (fits_of_replace h).2

/-- The recorded edits are those of the calls that succeed. -/
theorem edits_foldl_afterCall (calls : List Call) (b : Buffer) :
    (calls.foldl afterCall b).edits =
      b.edits ++ (b.accepted calls).flatMap (Call.edits b.text) := by
  induction calls generalizing b with
  | nil => simp [accepted]
  | cons c calls ih =>
    rw [List.foldl_cons, ih, text_afterCall]
    cases hcall : b.call c with
    | error fault => simp [afterCall, accepted, hcall]
    | ok b' =>
      have hrecorded := recorded_of_call hcall
      simp [afterCall, accepted, hcall, hrecorded]

theorem edits_afterCalls (t : Text) (calls : List Call) :
    (afterCalls t calls).edits = ((ofText t).accepted calls).flatMap (Call.edits t) :=
  edits_foldl_afterCall calls (ofText t)

/-- Edits that clash are reported as an overlap. -/
theorem Sound.finish_of_clash {b : Buffer} (h : b.Sound) (hclash : ¬ClashFree b.edits) :
    ∃ span other, b.finish = .error (.overlap span other) := by
  rw [← h.sorted_apart_iff, ← h.firstOverlap_sorted_eq_none_iff] at hclash
  obtain ⟨⟨span, other⟩, hfound⟩ := Option.ne_none_iff_exists'.mp hclash
  exact ⟨span, other, by simp only [finish, hfound]⟩

/-- Two sequences of calls give the same text, or both fail with an overlap, if the same calls
succeed in them and the insertions at each offset come in the same order. -/
theorem finish_order_irrelevant (t : Text) (calls calls' : List Call)
    (hperm : ((ofText t).accepted calls).Perm ((ofText t).accepted calls'))
    (hinsertions : ∀ pos, insertionsAt (afterCalls t calls).edits pos =
      insertionsAt (afterCalls t calls').edits pos) :
    (∃ text, (afterCalls t calls).finish = .ok text ∧ (afterCalls t calls').finish = .ok text) ∨
      ((∃ span other, (afterCalls t calls).finish = .error (.overlap span other)) ∧
        ∃ span other, (afterCalls t calls').finish = .error (.overlap span other)) := by
  have hsound := sound_afterCalls t calls
  have hsound' := sound_afterCalls t calls'
  have hedits : (afterCalls t calls).edits.Perm (afterCalls t calls').edits := by
    rw [edits_afterCalls, edits_afterCalls]
    exact hperm.flatMap_right _
  by_cases hfree : ClashFree (afterCalls t calls).edits
  · have hfree' := hfree.perm hedits
    have hsame := render_reordered hsound hfree hedits hinsertions 0 t
    refine .inl ⟨render (afterCalls t calls).edits 0 t, ?_, ?_⟩
    · rw [hsound.finish_eq hfree, text_afterCalls]
    · rw [hsound'.finish_eq hfree', text_afterCalls, hsame]
  · have hfree' : ¬ClashFree (afterCalls t calls').edits := fun h => hfree (h.perm hedits.symm)
    exact .inr ⟨hsound.finish_of_clash hfree, hsound'.finish_of_clash hfree'⟩

/-- Three of these calls fail: one is past the end, one is inside a character, and one ends before
it starts. -/
def scatteredCalls : List Call :=
  [.insert 40 ['w'], .append ['!'], .insert 4 ['x'], .replace ⟨4, 2⟩ [], .replace ⟨6, 8⟩ ['ü'],
    .insert 2 ['b'], .insert 4 ['z'], .remove ⟨4, 6⟩, .remove ⟨5, 5⟩]

/-- The calls of `scatteredCalls` that succeed, in another order. -/
def gatheredCalls : List Call :=
  [.remove ⟨5, 5⟩, .remove ⟨4, 6⟩, .insert 4 ['x'], .insert 4 ['z'], .replace ⟨6, 8⟩ ['ü'],
    .append ['!']]

theorem finish_scatteredCalls :
    ((ofText "aé0123456".toList).accepted scatteredCalls).Perm
        ((ofText "aé0123456".toList).accepted gatheredCalls) ∧
      ∃ text, (afterCalls "aé0123456".toList scatteredCalls).finish = .ok text ∧
        (afterCalls "aé0123456".toList gatheredCalls).finish = .ok text := by
  have hperm : ((ofText "aé0123456".toList).accepted scatteredCalls).Perm
      ((ofText "aé0123456".toList).accepted gatheredCalls) := by decide
  have hinsertions : ∀ pos, insertionsAt (afterCalls "aé0123456".toList scatteredCalls).edits pos =
      insertionsAt (afterCalls "aé0123456".toList gatheredCalls).edits pos := by
    intro pos
    have hscattered : (afterCalls "aé0123456".toList scatteredCalls).edits =
        [⟨⟨10, 10⟩, ['!']⟩, ⟨⟨4, 4⟩, ['x']⟩, ⟨⟨6, 8⟩, ['ü']⟩, ⟨⟨4, 4⟩, ['z']⟩, ⟨⟨4, 6⟩, []⟩] := rfl
    have hgathered : (afterCalls "aé0123456".toList gatheredCalls).edits =
        [⟨⟨4, 6⟩, []⟩, ⟨⟨4, 4⟩, ['x']⟩, ⟨⟨4, 4⟩, ['z']⟩, ⟨⟨6, 8⟩, ['ü']⟩, ⟨⟨10, 10⟩, ['!']⟩] := rfl
    rw [hscattered, hgathered]
    by_cases hfour : 4 = pos
    · subst hfour
      rfl
    · simp [insertionsAt, isInsertion, List.filter_cons, hfour]
  rcases finish_order_irrelevant _ _ _ hperm hinsertions with hok | ⟨-, span, other, herror⟩
  · exact ⟨hperm, hok⟩
  · have hfine : (afterCalls "aé0123456".toList gatheredCalls).finish =
        .ok "aé0xzü56!".toList := rfl
    cases hfine.symm.trans herror

end Buffer

end StoryExports.Edit
