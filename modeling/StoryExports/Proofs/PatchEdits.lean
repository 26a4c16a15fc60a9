import StoryExports.Outline.Patch
import StoryExports.Proofs.EditOrder
import StoryExports.Proofs.Layout
import StoryExports.Proofs.Recording

/-!
# The edits of a patch

A patch takes out spans and writes all that it adds in one place. Its edits stay between the braces
of the literal, away from each other and from the properties that remain.
-/
namespace StoryExports

namespace Edit

theorem not_clash_of_avoids {a b : Edit} (ha : a.span.start ≤ a.span.stop)
    (hb : b.span.start ≤ b.span.stop) (h : a.span.Avoids b.span) : ¬Clash a b := by
  rcases h with h | h
  · exact Apart.not_clash ha h
  · exact fun hclash => Apart.not_clash hb h hclash.symm

theorem clashFree_of_avoids {edits : List Edit}
    (hordered : ∀ e ∈ edits, e.span.start ≤ e.span.stop)
    (h : edits.Pairwise fun a b => a.span.Avoids b.span) : ClashFree edits :=
  h.imp_of_mem fun ha hb hab => not_clash_of_avoids (hordered _ ha) (hordered _ hb) hab

end Edit

namespace Patch

section Merging

/-- What holds of all spans and is kept when overlapping spans are joined holds of the result. -/
theorem forall_mergeFrom {P : Span → Prop}
    (hjoin : ∀ a b : Span, P a → P b → a.start ≤ b.start → b.start < a.stop →
      P ⟨a.start, max a.stop b.stop⟩) {current : Span} {rest : List Span}
    (hsorted : (current :: rest).Pairwise fun a b => a.start ≤ b.start)
    (h : ∀ s ∈ current :: rest, P s) : ∀ s ∈ mergeFrom current rest, P s := by
  induction rest generalizing current with
  | nil => exact h
  | cons next rest ih =>
    obtain ⟨hcurrent, hrest⟩ := List.pairwise_cons.mp hsorted
    obtain ⟨h₀, h₁⟩ := List.forall_mem_cons.mp h
    simp only [mergeFrom]
    split
    · rename_i hlt
      have hfirst := hjoin current next h₀ (h₁ next (by simp)) (hcurrent next (by simp)) hlt
      refine ih (List.pairwise_cons.mpr ⟨?_, (List.pairwise_cons.mp hrest).2⟩)
        (List.forall_mem_cons.mpr ⟨hfirst, (List.forall_mem_cons.mp h₁).2⟩)
      exact fun s hs => hcurrent s (by simp [hs])
    · exact List.forall_mem_cons.mpr ⟨h₀, ih hrest h₁⟩

theorem pairwise_mergeFrom {current : Span} {rest : List Span}
    (hsorted : (current :: rest).Pairwise fun a b => a.start ≤ b.start) :
    (mergeFrom current rest).Pairwise fun a b => a.stop ≤ b.start := by
  induction rest generalizing current with
  | nil => exact List.pairwise_singleton _ _
  | cons next rest ih =>
    obtain ⟨hcurrent, hrest⟩ := List.pairwise_cons.mp hsorted
    simp only [mergeFrom]
    split
    · refine ih (List.pairwise_cons.mpr ⟨?_, (List.pairwise_cons.mp hrest).2⟩)
      exact fun s hs => hcurrent s (by simp [hs])
    · rename_i hle
      have hfrom : ∀ s ∈ mergeFrom next rest, next.start ≤ s.start := by
        refine forall_mergeFrom (fun a b ha _ _ _ => ha) hrest ?_
        exact List.forall_mem_cons.mpr ⟨Nat.le_refl _, (List.pairwise_cons.mp hrest).1⟩
      refine List.pairwise_cons.mpr ⟨fun s hs => ?_, ih hrest⟩
      have := hfrom s hs
      omega

/-- The spans of the removed properties, from left to right. -/
def spans (p : Patch) : List Span :=
  Edit.sortBy (fun a b => a.start ≤ b.start) <|
    p.removed.filterMap (removalSpan p.object.properties)

theorem removals_eq (p : Patch) : p.removals = mergeSpans p.spans := rfl

theorem spans_sorted (p : Patch) : p.spans.Pairwise fun a b => a.start ≤ b.start := by
  have hsorted : p.spans.Pairwise fun a b => decide (a.start ≤ b.start) = true :=
    Edit.sortBy_pairwise (by simp; omega) (by simp; omega) _
  simpa using hsorted

theorem mem_spans {p : Patch} {s : Span} :
    s ∈ p.spans ↔ ∃ i ∈ p.removed, removalSpan p.object.properties i = some s := by
  rw [spans, (Edit.sortBy_perm _).mem_iff, List.mem_filterMap]

theorem forall_removals {p : Patch} {P : Span → Prop}
    (hjoin : ∀ a b : Span, P a → P b → a.start ≤ b.start → b.start < a.stop →
      P ⟨a.start, max a.stop b.stop⟩)
    (h : ∀ i ∈ p.removed, ∀ s, removalSpan p.object.properties i = some s → P s) :
    ∀ s ∈ p.removals, P s := by
  have hspans : ∀ s ∈ p.spans, P s := by
    intro s hs
    obtain ⟨i, hi, hs⟩ := mem_spans.mp hs
    exact h i hi s hs
  have hsorted := p.spans_sorted
  rw [removals_eq]
  cases hcons : p.spans with
  | nil => exact fun s hs => nomatch hs
  | cons s spans =>
    rw [hcons] at hspans hsorted
    exact forall_mergeFrom hjoin hsorted hspans

theorem removals_pairwise (p : Patch) : p.removals.Pairwise fun a b => a.stop ≤ b.start := by
  have hsorted := p.spans_sorted
  rw [removals_eq]
  cases hcons : p.spans with
  | nil => exact .nil
  | cons s spans =>
    rw [hcons] at hsorted
    exact pairwise_mergeFrom hsorted

theorem removals_avoid {p : Patch} {u : Span} (hu : u.start ≤ u.stop)
    (h : ∀ i ∈ p.removed, ∀ s, removalSpan p.object.properties i = some s → s.Avoids u) :
    ∀ s ∈ p.removals, s.Avoids u := by
  refine forall_removals (fun a b ha hb hle hlt => ?_) h
  -- The second span starts inside the first one, so both lie on the same side of `u`.
  rcases ha with ha | ha
  · rcases hb with hb | hb
    · exact .inl (Nat.max_le.mpr ⟨ha, hb⟩)
    · omega
  · exact .inr ha

end Merging

section Removing

variable {t : Text} {o : Outline} {i : Nat} {s : Span}

theorem removalSpan_cases {ps : List (Property PropertyValue)} (h : removalSpan ps i = some s) :
    ∃ p, ps[i]? = some p ∧
      ((∃ next, ps[i + 1]? = some next ∧ s = ⟨p.span.start, next.span.start⟩) ∨
        (i = 0 ∧ s = p.span) ∨
        ∃ j before, i = j + 1 ∧ ps[i + 1]? = none ∧ ps[j]? = some before ∧
          s = ⟨before.span.stop, p.span.stop⟩) := by
  simp only [removalSpan] at h
  split at h
  · cases h
  · rename_i p hp
    refine ⟨p, hp, ?_⟩
    split at h
    · rename_i next hnext
      cases h
      exact .inl ⟨next, hnext, rfl⟩
    · rename_i hnone
      split at h
      · cases h
        exact .inr (.inl ⟨rfl, rfl⟩)
      · rename_i j
        obtain ⟨before, hbefore, rfl⟩ := Option.map_eq_some_iff.mp h
        exact .inr (.inr ⟨j, before, rfl, hnone, hbefore, rfl⟩)

theorem between_removalSpan (h : o.Braced t) (hs : removalSpan o.properties i = some s) :
    o.Between t s := by
  obtain ⟨p, hp, hcases⟩ := removalSpan_cases hs
  have hpb := h.between p (List.mem_of_getElem? hp)
  rcases hcases with ⟨next, hnext, rfl⟩ | ⟨-, rfl⟩ | ⟨j, before, rfl, -, hbefore, rfl⟩
  · have hnb := h.between next (List.mem_of_getElem? hnext)
    have hlt := h.stop_le_start hp hnext (by omega)
    exact ⟨Nat.le_trans hpb.ordered hlt, hpb.start, hnb.start, hpb.after,
      Nat.lt_of_le_of_lt hnb.ordered hnb.before⟩
  · exact hpb
  · have hbb := h.between before (List.mem_of_getElem? hbefore)
    have hlt := h.stop_le_start hbefore hp (by omega)
    exact ⟨Nat.le_trans hlt hpb.ordered, hbb.stop, hpb.stop,
      Nat.lt_of_lt_of_le hbb.after hbb.ordered, hpb.before⟩

/-- What goes with a property is no part of another one. -/
theorem removalSpan_avoids (h : o.Braced t) (hs : removalSpan o.properties i = some s) {j : Nat}
    {q : Property PropertyValue} (hq : o.properties[j]? = some q) (hne : j ≠ i) :
    s.Avoids q.span := by
  obtain ⟨p, hp, hcases⟩ := removalSpan_cases hs
  rcases hcases with ⟨next, hnext, rfl⟩ | ⟨rfl, rfl⟩ | ⟨k, before, rfl, hlast, hbefore, rfl⟩
  · rcases Nat.lt_or_ge j i with hlt | hge
    · exact .inr (h.stop_le_start hq hp hlt)
    · rcases Nat.eq_or_lt_of_le (show i + 1 ≤ j by omega) with rfl | hlt
      · obtain rfl : next = q := Option.some.inj (hnext.symm.trans hq)
        exact .inl (Nat.le_refl _)
      · have hnb := (h.between next (List.mem_of_getElem? hnext)).ordered
        exact .inl (Nat.le_trans hnb (h.stop_le_start hnext hq hlt))
  · exact .inl (h.stop_le_start hp hq (by omega))
  · -- The last property goes with what stands between it and the one before.
    have hj : j < k + 2 := by
      have := (List.getElem?_eq_some_iff.mp hq).1
      have := List.getElem?_eq_none_iff.mp hlast
      omega
    rcases Nat.lt_or_ge j k with hlt | hge
    · have hbb := (h.between before (List.mem_of_getElem? hbefore)).ordered
      exact .inr (Nat.le_trans (h.stop_le_start hq hbefore hlt) hbb)
    · obtain rfl : j = k := by omega
      obtain rfl : before = q := Option.some.inj (hbefore.symm.trans hq)
      exact .inr (Nat.le_refl _)

theorem first_le_start (h : o.Braced t) {first q : Property PropertyValue} {j : Nat}
    (hfirst : o.properties.head? = some first) (hq : o.properties[j]? = some q) :
    first.span.start ≤ q.span.start := by
  rw [List.head?_eq_getElem?] at hfirst
  rcases Nat.eq_zero_or_pos j with rfl | hpos
  · obtain rfl : first = q := Option.some.inj (hfirst.symm.trans hq)
    exact Nat.le_refl _
  · have hordered := (h.between first (List.mem_of_getElem? hfirst)).ordered
    exact Nat.le_trans hordered (h.stop_le_start hfirst hq hpos)

theorem first_le_removalSpan (h : o.Braced t) (hs : removalSpan o.properties i = some s)
    {first : Property PropertyValue} (hfirst : o.properties.head? = some first) :
    first.span.start ≤ s.start := by
  obtain ⟨p, hp, hcases⟩ := removalSpan_cases hs
  rcases hcases with ⟨next, -, rfl⟩ | ⟨-, rfl⟩ | ⟨j, before, -, -, hbefore, rfl⟩
  · exact first_le_start h hfirst hp
  · exact first_le_start h hfirst hp
  · have hbb := (h.between before (List.mem_of_getElem? hbefore)).ordered
    exact Nat.le_trans (first_le_start h hfirst hbefore) hbb

end Removing

section Adding

variable {t : Text} {p : Patch} {pos : Nat} {text : Text}

/-- The places where a patch adds: after the last property that remains, before the first one if
none remains, or before the right brace if there is none. -/
theorem addition_cases (h : p.addition = some (pos, text)) :
    (∃ j q, p.object.properties[j]? = some q ∧ j ∉ p.removed ∧ pos = q.span.stop) ∨
      (∃ first, p.object.properties.head? = some first ∧ pos = first.span.start) ∨
      (p.object.properties = [] ∧ pos = p.object.span.stop - 1) := by
  simp only [addition] at h
  split at h
  · cases h
  · split at h
    · rename_i last _ hlast
      cases h
      obtain ⟨⟨q, j⟩, hmem, rfl⟩ := List.mem_map.mp (List.mem_of_getLast? hlast)
      obtain ⟨hmem, hstays⟩ := List.mem_filter.mp hmem
      refine .inl ⟨j, q, List.mem_zipIdx_iff_getElem?.mp hmem, ?_, rfl⟩
      simpa using hstays
    · rename_i first _ hfirst
      cases h
      exact .inr (.inl ⟨first, hfirst, rfl⟩)
    · rename_i _ hnone
      cases h
      exact .inr (.inr ⟨List.head?_eq_none_iff.mp hnone, rfl⟩)

theorem between_addition (h : p.object.Braced t) (hadd : p.addition = some (pos, text)) :
    p.object.Between t ⟨pos, pos⟩ := by
  rcases addition_cases hadd with ⟨j, q, hq, -, rfl⟩ | ⟨first, hfirst, rfl⟩ | ⟨-, rfl⟩
  · have hqb := h.between q (List.mem_of_getElem? hq)
    exact ⟨Nat.le_refl _, hqb.stop, hqb.stop, Nat.lt_of_lt_of_le hqb.after hqb.ordered, hqb.before⟩
  · have hfb := h.between first (List.mem_of_head? hfirst)
    exact ⟨Nat.le_refl _, hfb.start, hfb.start, hfb.after,
      Nat.lt_of_le_of_lt hfb.ordered hfb.before⟩
  · exact h.closing

theorem removals_avoid_addition (h : p.object.Braced t) (hadd : p.addition = some (pos, text)) :
    ∀ s ∈ p.removals, s.Avoids ⟨pos, pos⟩ := by
  refine removals_avoid (Nat.le_refl _) fun i hi s hs => ?_
  rcases addition_cases hadd with ⟨j, q, hq, hstays, rfl⟩ | ⟨first, hfirst, rfl⟩ | ⟨-, rfl⟩
  · have hordered := (h.between q (List.mem_of_getElem? hq)).ordered
    have hne : j ≠ i := fun heq => hstays (heq ▸ hi)
    exact (removalSpan_avoids h hs hq hne).mono (.refl _) ⟨hordered, Nat.le_refl _⟩
  · exact .inr (first_le_removalSpan h hs hfirst)
  · have hbefore := (between_removalSpan h hs).before
    exact .inl (by simp only; omega)

theorem addition_avoids (h : p.object.Braced t) (hadd : p.addition = some (pos, text)) {k : Nat}
    {q : Property PropertyValue} (hq : p.object.properties[k]? = some q) :
    Span.Avoids ⟨pos, pos⟩ q.span := by
  rcases addition_cases hadd with ⟨j, last, hlast, -, rfl⟩ | ⟨first, hfirst, rfl⟩ | ⟨hnil, -⟩
  · rcases Nat.lt_trichotomy j k with hlt | rfl | hgt
    · exact .inl (h.stop_le_start hlast hq hlt)
    · obtain rfl : last = q := Option.some.inj (hlast.symm.trans hq)
      exact .inr (Nat.le_refl _)
    · have hordered := (h.between last (List.mem_of_getElem? hlast)).ordered
      exact .inr (Nat.le_trans (h.stop_le_start hq hlast hgt) hordered)
  · exact .inl (first_le_start h hfirst hq)
  · simp [hnil] at hq

end Adding

/-- The edits that a patch records. -/
def edits (p : Patch) : List Edit :=
  p.removals.flatMap Edit.Buffer.removal ++
    p.addition.toList.map fun (pos, text) => ⟨⟨pos, pos⟩, text⟩

theorem mem_edits_cases {p : Patch} {e : Edit} (h : e ∈ p.edits) :
    e.span ∈ p.removals ∨ ∃ pos, p.addition = some (pos, e.text) ∧ e.span = ⟨pos, pos⟩ := by
  rcases List.mem_append.mp h with h | h
  · obtain ⟨s, hs, he⟩ := List.mem_flatMap.mp h
    rw [Edit.Buffer.span_of_mem_removal he]
    exact .inl hs
  · obtain ⟨⟨pos, text⟩, hadd, rfl⟩ := List.mem_map.mp h
    exact .inr ⟨pos, Option.mem_toList.mp hadd, rfl⟩

section Edits

variable {t : Text} {p : Patch}

/-- The edits of a patch stay between the braces. -/
theorem between_edits (h : p.object.Braced t) {e : Edit} (he : e ∈ p.edits) :
    p.object.Between t e.span := by
  rcases mem_edits_cases he with hmem | ⟨pos, hadd, hspan⟩
  · refine forall_removals (fun a b ha hb hle hlt => ?_)
      (fun i _ s hs => between_removalSpan h hs) e.span hmem
    -- A joined span has ends of the spans it is made of.
    rcases Nat.le_total a.stop b.stop with hstop | hstop
    · rw [Nat.max_eq_right hstop]
      exact ⟨Nat.le_trans hle hb.ordered, ha.start, hb.stop, ha.after, hb.before⟩
    · rw [Nat.max_eq_left hstop]
      exact ha
  · rw [hspan]
    exact between_addition h hadd

/-- The edits of a patch stay away from the properties that remain. -/
theorem edits_avoid_property (h : p.object.Braced t) {e : Edit} (he : e ∈ p.edits) {j : Nat}
    {q : Property PropertyValue} (hq : p.object.properties[j]? = some q) (hstays : j ∉ p.removed) :
    e.span.Avoids q.span := by
  rcases mem_edits_cases he with hmem | ⟨pos, hadd, hspan⟩
  · have hordered := (h.between q (List.mem_of_getElem? hq)).ordered
    refine removals_avoid hordered (fun i hi s hs => ?_) e.span hmem
    exact removalSpan_avoids h hs hq fun heq => hstays (heq ▸ hi)
  · rw [hspan]
    exact addition_avoids h hadd hq

theorem insertion_of_mem_edits (hremoved : p.removed = []) {e : Edit} (he : e ∈ p.edits) :
    e.span.start = e.span.stop := by
  rcases mem_edits_cases he with hmem | ⟨pos, -, hspan⟩
  · simp [removals, hremoved, Edit.sortBy, mergeSpans] at hmem
  · rw [hspan]

theorem edits_avoid (h : p.object.Braced t) :
    p.edits.Pairwise fun a b => a.span.Avoids b.span := by
  refine List.pairwise_append.mpr ⟨?_, ?_, ?_⟩
  · refine List.pairwise_flatMap.mpr ⟨fun s _ => Edit.Buffer.removal_pairwise s, ?_⟩
    refine p.removals_pairwise.imp fun hab a ha b hb => ?_
    rw [Edit.Buffer.span_of_mem_removal ha, Edit.Buffer.span_of_mem_removal hb]
    exact .inl hab
  · cases p.addition with
    | none => exact .nil
    | some addition => exact List.pairwise_singleton _ _
  · intro a ha b hb
    obtain ⟨s, hs, ha⟩ := List.mem_flatMap.mp ha
    obtain ⟨⟨pos, text⟩, hadd, rfl⟩ := List.mem_map.mp hb
    rw [Edit.Buffer.span_of_mem_removal ha]
    exact removals_avoid_addition h (Option.mem_toList.mp hadd) s hs

theorem write_of_fits {b : Edit.Buffer} (h : ∀ e ∈ p.edits, Edit.Fits b.text e) :
    p.write b = .ok (b.recordAll p.edits) := by
  simp only [edits, List.mem_append] at h
  simp only [write, Edit.Buffer.foldlM_remove_of_fits fun e he => h e (.inl he), bind, Except.bind]
  cases hadd : p.addition with
  | none => simp [edits, hadd, pure, Except.pure]
  | some addition =>
    obtain ⟨pos, text⟩ := addition
    have hfits : Edit.Fits b.text ⟨⟨pos, pos⟩, text⟩ := h _ (.inr (by simp [hadd]))
    have hinsert := Edit.Buffer.insert_of_fits
      (b := b.recordAll (p.removals.flatMap Edit.Buffer.removal)) hfits
    simpa [edits, hadd] using hinsert

end Edits

end Patch

theorem Patches.flush_of_fits {ps : Patches} {b : Edit.Buffer}
    (h : ∀ e ∈ ps.flatMap Patch.edits, Edit.Fits b.text e) :
    ps.flush b = .ok (b.recordAll (ps.flatMap Patch.edits)) := by
  induction ps generalizing b with
  | nil => simp [flush, pure, Except.pure]
  | cons p ps ih =>
    simp only [List.flatMap_cons, List.mem_append] at h
    have hrest := ih (b := b.recordAll p.edits) fun e he => h e (.inr he)
    rw [Edit.Buffer.recordAll_recordAll] at hrest
    rw [flush, List.foldlM_cons, Patch.write_of_fits fun e he => h e (.inl he)]
    exact hrest

end StoryExports
