import StoryExports.Proofs.Cuts
import StoryExports.Edit.Buffer

/-!
# Recording edits

Whatever calls a buffer gets, it keeps its text, and every edit that it has recorded spans a part
of that text. A failed call leaves the buffer as it was.
-/
namespace StoryExports.Edit

inductive Call
  | insert (pos : Nat) (new : Text)
  | replace (span : Span) (new : Text)
  | remove (span : Span)
  | append (new : Text)
deriving DecidableEq, Repr

/-- The ends of the edit are boundaries of the text, in order. -/
structure Fits (t : Text) (e : Edit) : Prop where
  ordered : e.span.start ≤ e.span.stop
  start : t.isBoundary e.span.start = true
  stop : t.isBoundary e.span.stop = true

namespace Buffer

def call (b : Buffer) : Call → Except Fault Buffer
  | .insert pos new => b.insert pos new
  | .replace span new => b.replace span new
  | .remove span => b.remove span
  | .append new => b.append new

/-- The buffer after a call, failed or not. -/
def afterCall (b : Buffer) (c : Call) : Buffer :=
  match b.call c with
  | .ok changed => changed
  | .error _ => b

/-- The buffer of a text after a sequence of calls. -/
def afterCalls (t : Text) (calls : List Call) : Buffer := calls.foldl afterCall (ofText t)

def record (b : Buffer) (e : Edit) : Buffer := { b with edits := b.edits ++ [e] }

@[simp] theorem record_text (b : Buffer) (e : Edit) : (b.record e).text = b.text := rfl

@[simp] theorem record_edits (b : Buffer) (e : Edit) : (b.record e).edits = b.edits ++ [e] := rfl

theorem replace_of_fits {b : Buffer} {span : Span} {new : Text} (h : Fits b.text ⟨span, new⟩) :
    b.replace span new = .ok (b.record ⟨span, new⟩) := by
  have hstop := Text.le_bytes_of_isBoundary h.stop
  have hin : ¬(span.stop < span.start ∨ b.length < span.stop) := by
    have hordered := h.ordered
    simp only [length] at hordered hstop ⊢
    omega
  have hstart : b.text.isBoundary span.start = true := h.start
  have hend : b.text.isBoundary span.stop = true := h.stop
  simp [replace, hin, hstart, hend, record]

theorem fits_of_replace {b b' : Buffer} {span : Span} {new : Text}
    (h : b.replace span new = .ok b') : Fits b.text ⟨span, new⟩ ∧ b' = b.record ⟨span, new⟩ := by
  simp only [replace] at h
  split at h
  · cases h
  · rename_i hin
    split at h
    · cases h
    · rename_i hboundary
      simp only [Bool.or_eq_true, decide_eq_true_eq, not_or, Nat.not_lt] at hin
      simp only [Bool.not_eq_true', Bool.not_eq_false, Bool.and_eq_true] at hboundary
      cases h
      exact ⟨⟨hin.1, hboundary.1, hboundary.2⟩, rfl⟩

/-- All that a call can do. -/
theorem call_cases {b b' : Buffer} {c : Call} (h : b.call c = .ok b') :
    b' = b ∨ ∃ e, Fits b.text e ∧ b' = b.record e := by
  cases c with
  | insert pos new => exact .inr ⟨_, fits_of_replace h⟩
  | replace span new => exact .inr ⟨_, fits_of_replace h⟩
  | remove span =>
    simp only [call, remove] at h
    split at h
    · cases h
      exact .inl rfl
    · exact .inr ⟨_, fits_of_replace h⟩
  | append new => exact .inr ⟨_, fits_of_replace h⟩

theorem afterCall_cases (b : Buffer) (c : Call) :
    b.afterCall c = b ∨ ∃ e, Fits b.text e ∧ b.afterCall c = b.record e := by
  simp only [afterCall]
  split
  · rename_i changed hcall
    exact call_cases hcall
  · exact .inl rfl

/-- Every recorded edit fits the text. -/
def Sound (b : Buffer) : Prop := ∀ e ∈ b.edits, Fits b.text e

def recordAll (b : Buffer) (edits : List Edit) : Buffer := { b with edits := b.edits ++ edits }

@[simp] theorem recordAll_text (b : Buffer) (edits : List Edit) :
    (b.recordAll edits).text = b.text := rfl

@[simp] theorem recordAll_edits (b : Buffer) (edits : List Edit) :
    (b.recordAll edits).edits = b.edits ++ edits := rfl

@[simp] theorem recordAll_nil (b : Buffer) : b.recordAll [] = b := by simp [recordAll]

@[simp] theorem recordAll_recordAll (b : Buffer) (edits later : List Edit) :
    (b.recordAll edits).recordAll later = b.recordAll (edits ++ later) := by simp [recordAll]

theorem Sound.recordAll {b : Buffer} (h : b.Sound) {edits : List Edit}
    (hedits : ∀ e ∈ edits, Fits b.text e) : (b.recordAll edits).Sound := by
  intro e he
  rcases List.mem_append.mp he with he | he
  · exact h e he
  · exact hedits e he

theorem Sound.record {b : Buffer} (h : b.Sound) {e : Edit} (he : Fits b.text e) :
    (b.record e).Sound :=
  h.recordAll (List.forall_mem_singleton.mpr he)

theorem insert_of_fits {b : Buffer} {pos : Nat} {new : Text} (h : Fits b.text ⟨⟨pos, pos⟩, new⟩) :
    b.insert pos new = .ok (b.recordAll [⟨⟨pos, pos⟩, new⟩]) := replace_of_fits h

/-- What is recorded when a span is removed. -/
def removal (s : Span) : List Edit := if s.start = s.stop then [] else [⟨s, []⟩]

theorem span_of_mem_removal {s : Span} {e : Edit} (h : e ∈ removal s) : e.span = s := by
  simp only [removal] at h
  split at h
  · cases h
  · rw [List.mem_singleton.mp h]

theorem removal_pairwise {R : Edit → Edit → Prop} (s : Span) : (removal s).Pairwise R := by
  unfold removal
  split
  · exact .nil
  · exact List.pairwise_singleton _ _

theorem remove_of_fits {b : Buffer} {s : Span} (h : ∀ e ∈ removal s, Fits b.text e) :
    b.remove s = .ok (b.recordAll (removal s)) := by
  simp only [remove, removal] at h ⊢
  split
  · rw [recordAll_nil]
  · rename_i hne
    rw [if_neg hne] at h
    exact replace_of_fits (h _ (by simp))

theorem foldlM_remove_of_fits {b : Buffer} {spans : List Span}
    (h : ∀ e ∈ spans.flatMap removal, Fits b.text e) :
    spans.foldlM (fun b s => b.remove s) b = .ok (b.recordAll (spans.flatMap removal)) := by
  induction spans generalizing b with
  | nil => simp [pure, Except.pure]
  | cons s spans ih =>
    simp only [List.flatMap_cons, List.mem_append] at h
    rw [List.foldlM_cons, remove_of_fits fun e he => h e (.inl he)]
    have hrest := ih (b := b.recordAll (removal s)) fun e he => h e (.inr he)
    rw [recordAll_recordAll] at hrest
    exact hrest

theorem Sound.afterCall {b : Buffer} (h : b.Sound) (c : Call) : (b.afterCall c).Sound := by
  rcases afterCall_cases b c with hb | ⟨e, he, hb⟩
  · rwa [hb]
  · rw [hb]
    exact h.record he

theorem text_afterCall (b : Buffer) (c : Call) : (b.afterCall c).text = b.text := by
  rcases afterCall_cases b c with hb | ⟨e, -, hb⟩ <;> rw [hb]
  rfl

private theorem foldl_afterCall (calls : List Call) {b : Buffer} (h : b.Sound) :
    (calls.foldl afterCall b).Sound ∧ (calls.foldl afterCall b).text = b.text := by
  induction calls generalizing b with
  | nil => exact ⟨h, rfl⟩
  | cons c calls ih =>
    obtain ⟨hsound, htext⟩ := ih (h.afterCall c)
    exact ⟨hsound, htext.trans (text_afterCall b c)⟩

theorem sound_ofText (t : Text) : (ofText t).Sound := by
  intro e he
  cases he

theorem sound_afterCalls (t : Text) (calls : List Call) : (afterCalls t calls).Sound :=
  (foldl_afterCall calls (sound_ofText t)).1

@[simp] theorem text_afterCalls (t : Text) (calls : List Call) : (afterCalls t calls).text = t :=
  (foldl_afterCall calls (sound_ofText t)).2

end Buffer

end StoryExports.Edit
