import Mathlib.Data.List.InsertIdx
import StoryExports.Proofs.ClosingCommas
import StoryExports.Proofs.ListEdits
import StoryExports.Proofs.Lists
import StoryExports.Proofs.RemovedSpans

/-!
# Patches of lists in braces

A patch may take out any of the properties of a literal. What it leaves is a list in braces again,
but for the commas in front of the right brace: those of the last gap stay, and where a property
stays and the two last ones go, the comma after that property stays with them. A patch that takes
out one property at most, and no only one without adding another, makes a list as it should be.
-/
namespace StoryExports

open Text

namespace NewValue

theorem render_eq_join (entries : List (Text × NewValue)) :
    render entries = join ", ".toList (entries.map renderEntry) := by
  induction entries with
  | nil => simp [render, join]
  | cons e entries ih =>
    cases entries with
    | nil => simp [render, join]
    | cons f entries =>
      rw [render, ih]
      · rfl
      · simp

theorem renderEntry_ne_nil (e : Text × NewValue) : renderEntry e ≠ [] := by
  obtain ⟨key, value⟩ := e
  cases value with
  | literal code => simp [renderEntry]
  | object entries => simp [renderEntry]

end NewValue

namespace Patch

variable {p : Patch} {k : Nat}

theorem remaining_eq_without (p : Patch) :
    p.remaining = without p.removed 0 p.object.properties := rfl

theorem remaining_of_singleton (h : p.removed = [k]) :
    p.remaining = p.object.properties.eraseIdx k := by
  have herased := without_add (k := k) (n := 0) p.object.properties
  rw [Nat.zero_add] at herased
  rw [remaining_eq_without, h, herased]

/-- What a patch puts at an offset. -/
def putAt (p : Patch) (n : Nat) : Text :=
  match p.addition with
  | some (pos, text) => if n = pos then text else []
  | none => []

theorem putAt_of_added_nil (h : p.added = []) (n : Nat) : p.putAt n = [] := by
  simp [putAt, addition, h]

theorem putAt_of_addition {pos : Nat} {text : Text} (h : p.addition = some (pos, text)) (n : Nat) :
    p.putAt n = if n = pos then text else [] := by
  rw [putAt, h]

/-- The texts of the properties that a patch adds. -/
def entries (p : Patch) : List Text := p.added.map NewValue.renderEntry

theorem entries_ne_nil (p : Patch) : ∀ x ∈ p.entries, x ≠ [] := by
  intro x hx
  obtain ⟨e, -, rfl⟩ := List.mem_map.mp hx
  exact NewValue.renderEntry_ne_nil e

/-- What is added follows the last property that remains. -/
theorem putAt_last {last : Property PropertyValue} (h : p.remaining.getLast? = some last)
    (n : Nat) : p.putAt n = if n = last.span.stop then following p.entries else [] := by
  by_cases hadded : p.added = []
  · rw [putAt_of_added_nil hadded]
    simp [following, entries, hadded]
  · have haddition : p.addition =
        some (last.span.stop, ", ".toList ++ NewValue.render p.added) := by
      simp [addition, hadded, h]
    have hentries : p.entries ≠ [] := by simpa [entries] using hadded
    rw [putAt_of_addition haddition, following_eq hentries, NewValue.render_eq_join]
    rfl

theorem putAt_first {first : Property PropertyValue} (h : p.remaining = [])
    (hfirst : p.object.properties.head? = some first) (hadded : p.added ≠ []) (n : Nat) :
    p.putAt n = if n = first.span.start then join ", ".toList p.entries else [] := by
  have haddition : p.addition = some (first.span.start, NewValue.render p.added) := by
    simp [addition, hadded, h, hfirst]
  rw [putAt_of_addition haddition, NewValue.render_eq_join]
  rfl

theorem putAt_empty (h : p.object.properties = []) (hadded : p.added ≠ []) (n : Nat) :
    p.putAt n = if n = p.object.span.stop - 1 then ' ' :: join ", ".toList p.entries ++ [' ']
      else [] := by
  have haddition :
      p.addition = some (p.object.span.stop - 1, ' ' :: NewValue.render p.added ++ [' ']) := by
    simp [addition, hadded, h, remaining]
  rw [putAt_of_addition haddition, NewValue.render_eq_join]
  rfl

end Patch

/-- Outside of the properties of a literal, a copy makes the changes of a patch. -/
structure PatchedAt (cut : Nat → Bool) (put : Nat → Text) (p : Patch) : Prop where
  put_eq : ∀ n, p.object.span.Inside n → (∀ q ∈ p.object.properties, ¬q.span.Inside n) →
    put n = p.putAt n
  cut_iff : ∀ n, p.object.span.Inside n → (∀ q ∈ p.object.properties, ¬q.span.Inside n) →
    (cut n = true ↔ ∃ r ∈ p.removals, r.Covers n)
  gone_cut : ∀ r ∈ p.removals, ∀ n, r.Covers n → cut n = true
  gone_put : ∀ r ∈ p.removals, ∀ n, r.Inside n → put n = []

section Patched

variable {cut : Nat → Bool} {put : Nat → Text} {p : Patch} {t : Text}

/-- The properties that a patch takes out are those whose start is cut. -/
theorem PatchedAt.cut_start_iff (h : PatchedAt cut put p) (hbraced : p.object.Braced t) {j : Nat}
    {q : Property PropertyValue} (hq : p.object.properties[j]? = some q)
    (hlt : q.span.start < q.span.stop) : cut q.span.start = true ↔ j ∈ p.removed := by
  have hbetween := hbraced.between q (List.mem_of_getElem? hq)
  have hcovers : q.span.Covers q.span.start := ⟨Nat.le_refl _, hlt⟩
  have hfree : ∀ x ∈ p.object.properties, ¬x.span.Inside q.span.start := by
    intro x hx ⟨hstart, hstop⟩
    obtain ⟨i, hi⟩ := List.mem_iff_getElem?.mp hx
    rcases Nat.lt_trichotomy i j with hij | rfl | hij
    · have hle := hbraced.stop_le_start hi hq hij
      omega
    · obtain rfl : x = q := Option.some.inj (hi.symm.trans hq)
      omega
    · have hle := hbraced.stop_le_start hq hi hij
      omega
  rw [h.cut_iff _ ⟨hbetween.after, Nat.lt_trans hlt hbetween.before⟩ hfree]
  constructor
  · rintro ⟨r, hr, hgone⟩
    by_contra hstays
    have haway := Patch.removals_avoid hbetween.ordered (fun i hi s hs =>
      Patch.removalSpan_avoids hbraced hs hq fun heq => hstays (heq ▸ hi)) r hr
    exact haway.not_covers hgone hcovers
  · intro hj
    obtain ⟨s, hs, hwithin⟩ := Patch.exists_removalSpan hbraced hq
    obtain ⟨r, hr, hjoined⟩ := Patch.exists_within_removals hj hs
    exact ⟨r, hr, hcovers.mono (hwithin.trans hjoined)⟩

/-- The right brace stays. -/
theorem PatchedAt.cut_right (h : PatchedAt cut put p) (hbraced : p.object.Braced t) :
    cut (p.object.span.stop - 1) = false := by
  have hfree : ∀ q ∈ p.object.properties, ¬q.span.Inside (p.object.span.stop - 1) := by
    intro q hq hinside
    have := (hbraced.between q hq).before
    have := hinside.2
    omega
  have hinside : p.object.span.Inside (p.object.span.stop - 1) :=
    ⟨hbraced.closing.after, hbraced.closing.before⟩
  rw [Bool.eq_false_iff, Ne, h.cut_iff _ hinside hfree, Patch.exists_covers_removals_iff]
  rintro ⟨i, -, s, hs, hcovers⟩
  have := (Patch.between_removalSpan hbraced hs).before
  have := hcovers.2
  omega

theorem not_inside_of_spans {most a : Nat} {l : BraceList most}
    (hspans : l.spans a = p.object.properties.map (·.span)) {n : Nat}
    (h : ∀ q ∈ l.spans a, ¬q.Inside n) : ∀ q ∈ p.object.properties, ¬q.span.Inside n :=
  fun q hq => h q.span (hspans ▸ List.mem_map_of_mem hq)

end Patched

/-- A patch of the literal that is the list at `a`. -/
structure PatchedList (cut : Nat → Bool) (put : Nat → Text) (t : Text) (p : Patch) {most : Nat}
    (a : Nat) (l : BraceList most) : Prop where
  patched : PatchedAt cut put p
  braced : p.object.Braced t
  spans : l.spans a = p.object.properties.map (·.span)
  span : p.object.span = ⟨a, a + bytes l.text⟩

namespace PatchedList

variable {cut : Nat → Bool} {put : Nat → Text} {t : Text} {p : Patch} {most a n : Nat}
  {l : BraceList most} {u w : List (Text × Text)} {i j : Text × Text}

theorem length_eq (h : PatchedList cut put t p a l) :
    l.items.length = p.object.properties.length := by
  simpa [BraceList.spans] using congrArg List.length h.spans

theorem exists_property (h : PatchedList cut put t p a l) (hitems : l.items = u ++ i :: w) :
    ∃ q, p.object.properties[u.length]? = some q ∧
      q.span = ⟨l.first a + bytes (itemsText u), l.first a + bytes (itemsText u) + bytes i.1⟩ := by
  have hspan : (l.spans a)[u.length]? =
      some ⟨l.first a + bytes (itemsText u), l.first a + bytes (itemsText u) + bytes i.1⟩ := by
    rw [l.spans_eq, hitems, itemSpans_append, List.getElem?_append_right (by simp)]
    simp [itemSpans]
  rw [h.spans, List.getElem?_map] at hspan
  exact Option.map_eq_some_iff.mp hspan

/-- The gap after an item lies between the braces, and in no property. -/
theorem free (h : PatchedList cut put t p a l) (hitems : l.items = u ++ i :: w)
    (hn : l.first a + bytes (itemsText u) + bytes i.1 ≤ n)
    (hle : n ≤ l.first a + bytes (itemsText u) + bytes i.1 + bytes i.2) :
    p.object.span.Inside n ∧ ∀ q ∈ p.object.properties, ¬q.span.Inside n := by
  have hend := bytes_text_eq l a
  have hfirst := l.lt_first a
  have hbytes : bytes (itemsText l.items) =
      bytes (itemsText u) + (bytes i.1 + (bytes i.2 + bytes (itemsText w))) := by simp [hitems]
  refine ⟨h.span ▸ ⟨by simp only; omega, by simp only; omega⟩, not_inside_of_spans h.spans ?_⟩
  refine not_inside_spans (v := [i]) (w := w) hitems (by omega) ?_ (not_inside_of_gap hn hle)
  simp
  omega

theorem image_gone (h : PatchedList cut put t p a l) (hitems : l.items = u ++ i :: w)
    (hgone : u.length ∈ p.removed) : image cut put (l.first a + bytes (itemsText u)) i.1 = [] := by
  obtain ⟨q, hq, hspan⟩ := h.exists_property hitems
  obtain ⟨s, hs, hwithin⟩ := Patch.exists_removalSpan h.braced hq
  obtain ⟨r, hr, hjoined⟩ := Patch.exists_within_removals hgone hs
  obtain ⟨hstart, hstop⟩ := hwithin.trans hjoined
  simp only [hspan] at hstart hstop
  exact image_uniform true (fun n hn hlt => h.patched.gone_put r hr n ⟨by omega, by omega⟩)
    fun n hn hlt => h.patched.gone_cut r hr n ⟨by omega, by omega⟩

/-- The gap between two items goes with the first one, or with the second one if it is the last. -/
theorem cut_between (h : PatchedList cut put t p a l) (hitems : l.items = u ++ i :: j :: w)
    (hn : l.first a + bytes (itemsText u) + bytes i.1 ≤ n)
    (hlt : n < l.first a + bytes (itemsText u) + bytes i.1 + bytes i.2) :
    cut n = true ↔ u.length ∈ p.removed ∨ (u.length + 1 ∈ p.removed ∧ w = []) := by
  obtain ⟨hinside, hfree⟩ := h.free hitems hn (Nat.le_of_lt hlt)
  obtain ⟨q, hq, hspan⟩ := h.exists_property hitems
  obtain ⟨q', hq', hspan'⟩ := h.exists_property (u := u ++ [i]) (i := j) (w := w) (by simp [hitems])
  have hend : p.object.properties[u.length + 2]? = none ↔ w = [] := by
    rw [List.getElem?_eq_none_iff, ← h.length_eq, hitems, ← List.length_eq_zero_iff]
    simp
  rw [List.length_append, List.length_singleton] at hq'
  have hstart : q'.span.start = l.first a + bytes (itemsText u) + bytes i.1 + bytes i.2 := by
    rw [hspan']
    simp [Nat.add_assoc]
  rw [h.patched.cut_iff n hinside hfree, Patch.covered_between_iff h.braced hq hq'
    (by rw [hspan]; exact hn) (by rw [hstart]; exact hlt), hend]

theorem cut_after (h : PatchedList cut put t p a l) (hitems : l.items = u ++ [i])
    (hn : l.first a + bytes (itemsText u) + bytes i.1 ≤ n)
    (hle : n ≤ l.first a + bytes (itemsText u) + bytes i.1 + bytes i.2) : cut n = false := by
  obtain ⟨hinside, hfree⟩ := h.free hitems hn hle
  obtain ⟨q, hq, hspan⟩ := h.exists_property hitems
  have hlast : p.object.properties[u.length + 1]? = none := by
    rw [List.getElem?_eq_none_iff, ← h.length_eq, hitems]
    simp
  rw [Bool.eq_false_iff, Ne, h.patched.cut_iff n hinside hfree]
  exact Patch.not_covered_after h.braced hq hlast (by rw [hspan]; exact hn)

theorem image_ne_nil (h : PatchedList cut put t p a l) (hitems : l.items = u ++ i :: w)
    (hstays : u.length ∉ p.removed) :
    image cut put (l.first a + bytes (itemsText u)) i.1 ≠ [] := by
  have hi : i.1 ≠ [] := l.separated.ne_nil i (by simp [hitems])
  have hpos : 0 < bytes i.1 := bytes_pos hi
  obtain ⟨q, hq, hspan⟩ := h.exists_property hitems
  have hcut := h.patched.cut_start_iff h.braced hq (by rw [hspan]; simp only; omega)
  rw [hspan] at hcut
  exact Text.image_ne_nil (Bool.eq_false_iff.mpr fun hgone => hstays (hcut.mp hgone)) hi

/-- The items that stay before another one are items with a comma after them. -/
theorem forall_without (h : PatchedList cut put t p a l) (hitems : l.items = u ++ i :: w) :
    ∀ k ∈ without p.removed 0 (kept cut put (l.first a) u), k.1 ≠ [] ∧ commas? k.2 = some 1 := by
  induction u using List.reverseRecOn generalizing i w with
  | nil => exact fun k hk => nomatch hk
  | append_singleton u j ih =>
    rw [List.append_assoc, List.singleton_append] at hitems
    rw [kept_append, without_append, length_kept, Nat.zero_add, kept, kept]
    refine List.forall_mem_append.mpr ⟨ih hitems, fun k hk => ?_⟩
    by_cases hgone : u.length ∈ p.removed
    · rw [without_singleton_of_mem _ hgone] at hk
      cases hk
    · rw [without_singleton_of_not_mem _ hgone] at hk
      rw [List.mem_singleton.mp hk]
      exact ⟨h.image_ne_nil hitems hgone, (hitems ▸ l.separated).gap.2⟩

section Put

variable {point : Nat} {text : Text} (h : PatchedList cut put t p a l)
  (hput : ∀ n, p.putAt n = if n = point then text else [])
include h hput

theorem put_gap (hitems : l.items = u ++ i :: w)
    (hn : l.first a + bytes (itemsText u) + bytes i.1 ≤ n)
    (hle : n ≤ l.first a + bytes (itemsText u) + bytes i.1 + bytes i.2) :
    put n = if n = point then text else [] := by
  obtain ⟨hinside, hfree⟩ := h.free hitems hn hle
  rw [h.patched.put_eq n hinside hfree, hput]

/-- A gap stays or goes as a whole, behind what is put at its start. -/
theorem weave_gap (hitems : l.items = u ++ i :: w) (gone : Bool)
    (hcut : ∀ n, l.first a + bytes (itemsText u) + bytes i.1 ≤ n →
      n < l.first a + bytes (itemsText u) + bytes i.1 + bytes i.2 → cut n = gone)
    (hpoint : point ≤ l.first a + bytes (itemsText u) + bytes i.1 ∨
      l.first a + bytes (itemsText u) + bytes i.1 + bytes i.2 < point) :
    weave cut put (l.first a + bytes (itemsText u) + bytes i.1) i.2 =
      put (l.first a + bytes (itemsText u) + bytes i.1) ++ if gone then [] else i.2 := by
  refine weave_uniform gone (fun n hn hle => ?_) hcut
  rw [h.put_gap hput hitems (Nat.le_of_lt hn) hle, if_neg (by omega)]

/-- Up to an item that stays, the gap after an item goes with it. -/
theorem itemsText_woven_before (hitems : l.items = u ++ w)
    (hstays : ∃ k, u.length ≤ k ∧ k < l.items.length ∧ k ∉ p.removed)
    (hpoint : l.first a + bytes (itemsText u) < point) :
    itemsText (woven cut put (l.first a) u) =
      itemsText (without p.removed 0 (kept cut put (l.first a) u)) := by
  induction u using List.reverseRecOn generalizing w with
  | nil => rfl
  | append_singleton u i ih =>
    obtain ⟨k, hle, hlt, hk⟩ := hstays
    rw [List.length_append, List.length_singleton] at hle
    rw [List.append_assoc, List.singleton_append] at hitems
    obtain ⟨j, w, rfl⟩ : ∃ j w', w = j :: w' := by
      refine List.exists_cons_of_ne_nil fun hnil => ?_
      rw [hitems, hnil, List.length_append, List.length_singleton] at hlt
      omega
    have hbytes : bytes (itemsText (u ++ [i])) = bytes (itemsText u) + bytes i.1 + bytes i.2 := by
      simp [Nat.add_assoc]
    have hbefore := ih hitems ⟨k, by omega, hlt, hk⟩ (by omega)
    have hnone : put (l.first a + bytes (itemsText u) + bytes i.1) = [] := by
      rw [h.put_gap hput hitems (Nat.le_refl _) (Nat.le_add_right _ _), if_neg (by omega)]
    rw [woven_append, kept_append, without_append, itemsText_append, itemsText_append, hbefore]
    congr 1
    rw [length_kept, Nat.zero_add, woven, kept, woven, kept]
    by_cases hgone : u.length ∈ p.removed
    · have hgap := h.weave_gap hput hitems true
        (fun n hn hlt => (h.cut_between hitems hn hlt).mpr (.inl hgone)) (.inr (by omega))
      rw [without_singleton_of_mem _ hgone, h.image_gone hitems hgone, hgap, hnone]
      rfl
    · -- The next item may be the last one, but then it is the one that stays.
      have hgap := h.weave_gap hput hitems false (fun n hn hlt' => by
        rw [Bool.eq_false_iff, Ne, h.cut_between hitems hn hlt']
        rintro (hmem | ⟨hmem, rfl⟩)
        · exact hgone hmem
        · rw [hitems] at hlt
          simp only [List.length_append, List.length_cons, List.length_nil] at hlt
          exact hk (show k = u.length + 1 by omega ▸ hmem)) (.inr (by omega))
      rw [without_singleton_of_not_mem _ hgone, hgap, hnone]
      rfl

/-- Of items that all go, the last gap is left. -/
theorem itemsText_woven_after {v : List (Text × Text)} {z : Text × Text}
    (hitems : l.items = u ++ (v ++ [z]))
    (hgone : ∀ k, u.length ≤ k → k < l.items.length → k ∈ p.removed)
    (hpoint : point ≤ l.first a + bytes (itemsText u)) :
    itemsText (woven cut put (l.first a + bytes (itemsText u)) (v ++ [z])) = z.2 := by
  have hne := l.separated.ne_nil
  induction v generalizing u with
  | nil =>
    have hz : 0 < bytes z.1 := bytes_pos (hne z (by simp [hitems]))
    have hgap := h.weave_gap hput hitems false
      (fun n hn hlt => h.cut_after hitems hn (Nat.le_of_lt hlt)) (.inl (by omega))
    have hnone : put (l.first a + bytes (itemsText u) + bytes z.1) = [] := by
      rw [h.put_gap hput hitems (Nat.le_refl _) (Nat.le_add_right _ _), if_neg (by omega)]
    rw [List.nil_append, woven, woven,
      h.image_gone hitems (hgone _ (Nat.le_refl _) (by simp [hitems])), hgap, hnone]
    simp
  | cons y v ih =>
    have hy : 0 < bytes y.1 := bytes_pos (hne y (by simp [hitems]))
    have hmem : u.length ∈ p.removed := hgone _ (Nat.le_refl _) (by simp [hitems])
    obtain ⟨j, w, hrest⟩ : ∃ j w, v ++ [z] = j :: w := List.exists_cons_of_ne_nil (by simp)
    have hsplit : l.items = u ++ y :: j :: w := by rw [hitems, List.cons_append, hrest]
    have hgap := h.weave_gap hput hsplit true
      (fun n hn hlt => (h.cut_between hsplit hn hlt).mpr (.inl hmem)) (.inl (by omega))
    have hnone : put (l.first a + bytes (itemsText u) + bytes y.1) = [] := by
      rw [h.put_gap hput hsplit (Nat.le_refl _) (Nat.le_add_right _ _), if_neg (by omega)]
    have htail := ih (u := u ++ [y]) (by simp [hitems])
      (fun k hle hlt => hgone k (by simp at hle; omega) hlt) (by simp; omega)
    have hbytes : l.first a + bytes (itemsText (u ++ [y])) =
        l.first a + bytes (itemsText u) + bytes y.1 + bytes y.2 := by simp [Nat.add_assoc]
    rw [hbytes] at htail
    rw [List.cons_append, woven, h.image_gone hsplit hmem, hgap, hnone]
    simp [htail]

end Put

/-- Behind the last item that stays come the new ones, and then what is left of the gaps. -/
theorem itemsText_woven_stays {v : List (Text × Text)} {trailing : Nat}
    (h : PatchedList cut put t p a l) (hitems : l.items = u ++ i :: v)
    (hput : ∀ n, p.putAt n = if n = l.first a + bytes (itemsText u) + bytes i.1 then
      following p.entries else [])
    (hstays : u.length ∉ p.removed)
    (hgone : ∀ k, u.length < k → k < l.items.length → k ∈ p.removed)
    (htrailing : ∀ u' z, l.items = u' ++ [z] → commas? z.2 = some trailing) :
    ∃ tail, commas? tail = some (if 2 ≤ v.length then trailing + 1 else trailing) ∧
      itemsText (woven cut put (l.first a) l.items) =
        itemsText (extended p.entries (without p.removed 0 (kept cut put (l.first a) u) ++
          [(image cut put (l.first a + bytes (itemsText u)) i.1, tail)])) := by
  have hi : 0 < bytes i.1 := bytes_pos (l.separated.ne_nil i (by simp [hitems]))
  have hbefore := h.itemsText_woven_before hput hitems
    ⟨u.length, Nat.le_refl _, by simp [hitems], hstays⟩ (by omega)
  have hfollowing : put (l.first a + bytes (itemsText u) + bytes i.1) = following p.entries := by
    rw [h.put_gap hput hitems (Nat.le_refl _) (Nat.le_add_right _ _), if_pos rfl]
  -- What is left of the gaps is found from the copies of the gap of this item and of the others.
  suffices htail : ∃ tail, commas? tail = some (if 2 ≤ v.length then trailing + 1 else trailing) ∧
      weave cut put (l.first a + bytes (itemsText u) + bytes i.1) i.2 ++
        itemsText (woven cut put (l.first a + bytes (itemsText u) + bytes i.1 + bytes i.2) v) =
          following p.entries ++ tail by
    obtain ⟨tail, hcommas, htail⟩ := htail
    refine ⟨tail, hcommas, ?_⟩
    rw [extended_append _ (by simp), itemsText_append, ← hbefore, hitems, woven_append,
      itemsText_append, woven, itemsText_cons, htail, extended, itemsText_chain]
  have hafter : ∀ v' z, v = v' ++ [z] → itemsText (woven cut put
      (l.first a + bytes (itemsText u) + bytes i.1 + bytes i.2) v) = z.2 := by
    rintro v' z rfl
    have hwoven := h.itemsText_woven_after hput (u := u ++ [i]) (v := v') (z := z)
      (by simp [hitems]) (fun k hle hlt => hgone k (by simp at hle; omega) hlt) (by simp; omega)
    simpa [Nat.add_assoc] using hwoven
  rcases List.eq_nil_or_concat' v with rfl | ⟨v, z, rfl⟩
  · have hgap := h.weave_gap hput hitems false
      (fun n hn hlt => h.cut_after hitems hn (Nat.le_of_lt hlt)) (.inl (Nat.le_refl _))
    exact ⟨i.2, htrailing u i hitems, by rw [hgap, hfollowing]; simp [woven]⟩
  · have hz : commas? z.2 = some trailing := htrailing (u ++ i :: v) z (by simp [hitems])
    rw [hafter v z rfl]
    cases v with
    | nil =>
      have hgap := h.weave_gap hput hitems true (fun n hn hlt => (h.cut_between hitems hn hlt).mpr
        (.inr ⟨hgone _ (Nat.lt_succ_self _) (by simp [hitems]), rfl⟩)) (.inl (Nat.le_refl _))
      exact ⟨z.2, hz, by rw [hgap, hfollowing]; simp⟩
    | cons y v =>
      have hgap := h.weave_gap hput hitems false (fun n hn hlt => by
        rw [Bool.eq_false_iff, Ne, h.cut_between hitems hn hlt]
        simp [hstays]) (.inl (Nat.le_refl _))
      refine ⟨i.2 ++ z.2, ?_, by rw [hgap, hfollowing]; simp⟩
      rw [if_pos (by simp), Nat.add_comm]
      exact commas?_append (hitems ▸ l.separated).gap.2 hz

theorem weave_opening (h : PatchedList cut put t p a l) {point : Nat} {text : Text}
    (hput : ∀ n, p.putAt n = if n = point then text else []) (hpoint : l.first a ≤ point) :
    weave cut put (a + 1) l.opening = l.opening ++ if point = l.first a then text else [] := by
  have hend := bytes_text_eq l a
  have hfirst : l.first a = a + 1 + bytes l.opening := rfl
  have hfree : ∀ n, a < n → n ≤ l.first a →
      p.object.span.Inside n ∧ ∀ q ∈ p.object.properties, ¬q.span.Inside n := by
    intro n hn hle
    refine ⟨h.span ▸ ⟨hn, by simp only; omega⟩, not_inside_of_spans h.spans fun q hq hinside => ?_⟩
    have hstart := (itemSpans_bounds hq).1
    have := hinside.1
    omega
  have hquiet : ∀ n, a + 1 ≤ n → n < a + 1 + bytes l.opening → cut n = false ∧ put n = [] := by
    intro n hn hlt
    obtain ⟨hinside, hout⟩ := hfree n (by omega) (by omega)
    refine ⟨?_, by rw [h.patched.put_eq n hinside hout, hput, if_neg (by omega)]⟩
    rw [Bool.eq_false_iff, Ne, h.patched.cut_iff n hinside hout]
    refine Patch.not_covered_before h.braced fun q hq => ?_
    have hspan : q.span ∈ itemSpans (l.first a) l.items := by
      rw [← l.spans_eq, h.spans]
      exact List.mem_map_of_mem hq
    have := (itemSpans_bounds hspan).1
    omega
  have hcopied := weave_copied hquiet []
  obtain ⟨hinside, hout⟩ := hfree (l.first a) (l.lt_first a) (Nat.le_refl _)
  have hlast : put (l.first a) = if point = l.first a then text else [] := by
    rw [h.patched.put_eq _ hinside hout, hput]
    simp only [eq_comm]
  rw [List.append_nil] at hcopied
  rw [hcopied, ← hlast]
  rfl

end PatchedList

/-- The commas in front of the right brace once a patch is written. Where a property stays and the
two last ones go, the comma after it is one of them. -/
def Patch.closing (p : Patch) (trailing : Nat) : Nat :=
  if p.remaining ≠ [] ∧ p.object.properties.length - 2 ∈ p.removed ∧
      p.object.properties.length - 1 ∈ p.removed then trailing + 1
  else trailing

/-- Whether a comma in front of the right brace is one too many once a patch is written: no property
is left and none is added, or one stays and the two last ones go. -/
def Patch.OverClosed (p : Patch) : Prop :=
  (p.remaining = [] ∧ p.added = []) ∨
    p.remaining ≠ [] ∧ p.object.properties.length - 2 ∈ p.removed ∧
      p.object.properties.length - 1 ∈ p.removed

theorem Patch.closed_iff (p : Patch) {trailing : Nat} (h : trailing ≤ 1) :
    (p.closing trailing ≤ 1 ∧ (p.remaining = [] ∧ p.added = [] → p.closing trailing = 0)) ↔
      ¬(trailing = 1 ∧ p.OverClosed) := by
  unfold closing OverClosed
  split
  · rename_i hstays
    constructor
    · rintro ⟨hle, -⟩ ⟨hone, -⟩
      omega
    · intro hnot
      have hne : trailing ≠ 1 := fun hone => hnot ⟨hone, .inr hstays⟩
      exact ⟨by omega, fun hempty => absurd hempty.1 hstays.1⟩
  · rename_i hother
    constructor
    · rintro ⟨-, hnone⟩ ⟨hone, hempty | hstays⟩
      · have := hnone hempty
        omega
      · exact hother hstays
    · intro hnot
      refine ⟨h, fun hempty => ?_⟩
      have hne : trailing ≠ 1 := fun hone => hnot ⟨hone, .inl hempty⟩
      omega

namespace PatchedList

variable {cut : Nat → Bool} {put : Nat → Text} {t before after : Text} {p : Patch}
  {most trailing : Nat} {l : BraceList most} (h : PatchedList cut put t p (bytes before) l)
  (ht : before ++ (l.text ++ after) = t) (hleft : cut (bytes before) = false)
  (hright : cut (bytes before + bytes l.text - 1) = false)
include h ht

omit ht in
/-- The properties that stay end with the last one that does. -/
theorem exists_last_remaining {u v : List (Text × Text)} {i : Text × Text}
    (hitems : l.items = u ++ i :: v) (hstays : u.length ∉ p.removed)
    (hgone : ∀ k, u.length < k → k < l.items.length → k ∈ p.removed) :
    ∃ rest q, p.remaining = rest ++ [q] ∧
      q.span = ⟨l.first (bytes before) + bytes (itemsText u),
        l.first (bytes before) + bytes (itemsText u) + bytes i.1⟩ := by
  obtain ⟨q, hq, hspan⟩ := h.exists_property hitems
  obtain ⟨hlt, rfl⟩ := List.getElem?_eq_some_iff.mp hq
  have htake : (p.object.properties.take u.length).length = u.length := by
    rw [List.length_take]
    omega
  have hafter : ∀ k < (p.object.properties.drop (u.length + 1)).length,
      0 + (p.object.properties.take u.length).length + 1 + k ∈ p.removed := by
    intro k hk
    rw [List.length_drop, ← h.length_eq] at hk
    exact hgone _ (by omega) (by omega)
  refine ⟨without p.removed 0 (p.object.properties.take u.length), _, ?_, hspan⟩
  rw [Patch.remaining_eq_without, ← without_split (by rwa [htake, Nat.zero_add]) hafter]
  simp

omit ht in
theorem closing_eq {u v : List (Text × Text)} {i : Text × Text}
    (hitems : l.items = u ++ i :: v) (hstays : u.length ∉ p.removed)
    (hgone : ∀ k, u.length < k → k < l.items.length → k ∈ p.removed) :
    p.closing trailing = if 2 ≤ v.length then trailing + 1 else trailing := by
  obtain ⟨rest, q, hremaining, -⟩ := h.exists_last_remaining hitems hstays hgone
  have hlength : l.items.length = u.length + (v.length + 1) := by simp [hitems]
  have hiff : (p.remaining ≠ [] ∧ p.object.properties.length - 2 ∈ p.removed ∧
      p.object.properties.length - 1 ∈ p.removed) ↔ 2 ≤ v.length := by
    rw [← h.length_eq, hlength]
    constructor
    · rintro ⟨-, htwo, hone⟩
      by_contra hlt
      obtain hzero | hsingle : v.length = 0 ∨ v.length = 1 := by omega
      · exact hstays (by simpa [hzero] using hone)
      · exact hstays (by simpa [hsingle] using htwo)
    · intro hle
      exact ⟨by rw [hremaining]; simp, hgone _ (by omega) (by omega),
        hgone _ (by omega) (by omega)⟩
  simp only [Patch.closing, hiff]

/-- The copies of the properties that stay. -/
theorem copies_eq :
    ((without p.removed 0 (kept cut put (l.first (bytes before)) l.items)).map fun i => some i.1) =
      p.remaining.map fun q => copyOf cut put t q.span := by
  have hcopies : ((kept cut put (l.first (bytes before)) l.items).map (·.1)).map some = _ :=
    copies_of_list ht
  rw [h.spans, List.map_map, List.map_map] at hcopies
  rw [Patch.remaining_eq_without, map_without, map_without]
  exact congrArg _ hcopies

include hleft hright

/-- The last property that stays is known. -/
theorem hasListWith_stays {u v : List (Text × Text)} {i : Text × Text}
    (hitems : l.items = u ++ i :: v) (hstays : u.length ∉ p.removed)
    (hgone : ∀ k, u.length < k → k < l.items.length → k ∈ p.removed)
    (htrailing : ∀ u' z, l.items = u' ++ [z] → commas? z.2 = some trailing) :
    HasListWith cut put t (p.closing trailing) (bytes before)
      ((p.remaining.map fun q => copyOf cut put t q.span) ++ p.entries.map some) := by
  have hi : 0 < bytes i.1 := bytes_pos (l.separated.ne_nil i (by simp [hitems]))
  obtain ⟨rest, q, hremaining, hspan⟩ := h.exists_last_remaining hitems hstays hgone
  have hlast : p.remaining.getLast? = some q := by rw [hremaining, List.getLast?_concat]
  have hput := Patch.putAt_last hlast
  simp only [hspan] at hput
  obtain ⟨tail, htail, hwoven⟩ := h.itemsText_woven_stays hitems hput hstays hgone htrailing
  have hopening := h.weave_opening hput (by omega)
  rw [if_neg (by omega), List.append_nil] at hopening
  have hlist := hasListWith_extended ht hleft hright hopening hwoven (h.forall_without hitems)
    (h.image_ne_nil hitems hstays) htail p.entries_ne_nil
  have hkept : without p.removed 0 (kept cut put (l.first (bytes before)) l.items) =
      without p.removed 0 (kept cut put (l.first (bytes before)) u) ++
        [(image cut put (l.first (bytes before) + bytes (itemsText u)) i.1, i.2)] := by
    rw [hitems, kept_append, kept]
    refine without_split (by simpa using hstays) fun k hk => hgone _ ?_ ?_
    · simp
      omega
    · simp at hk
      simp [hitems]
      omega
  rw [h.closing_eq hitems hstays hgone, ← h.copies_eq ht, hkept]
  simpa using hlist

/-- No property is left, and none is added. -/
theorem hasListWith_nothing (hremaining : p.remaining = []) (hadded : p.added = [])
    {gap : Text} (hwoven : itemsText (woven cut put (l.first (bytes before)) l.items) = gap)
    (hgap : commas? gap = some trailing) :
    HasListWith cut put t (p.closing trailing) (bytes before) [] := by
  have hopening : weave cut put (bytes before + 1) l.opening = l.opening := by
    have hput : ∀ n, p.putAt n = if n = l.first (bytes before) then [] else [] := fun n => by
      simp [Patch.putAt_of_added_nil hadded]
    have hweave := h.weave_opening hput (Nat.le_refl _)
    simpa using hweave
  have hclosing : p.closing trailing = 0 + trailing := by simp [Patch.closing, hremaining]
  rw [hclosing]
  exact hasListWith_empty ht hleft hright (by rw [hopening, hwoven])
    (commas?_append l.opening_free hgap)

omit h in
/-- No property is left, and others are added. -/
theorem hasListWith_added (hremaining : p.remaining = []) (hadded : p.added ≠ [])
    {opening last : Text} (hfree : commas? opening = some 0) (hlast : commas? last = some trailing)
    (hbody : weave cut put (bytes before + 1) l.opening ++
      itemsText (woven cut put (l.first (bytes before)) l.items) =
        opening ++ (join ", ".toList p.entries ++ last)) :
    HasListWith cut put t (p.closing trailing) (bytes before) (p.entries.map some) := by
  have hclosing : p.closing trailing = trailing := by simp [Patch.closing, hremaining]
  obtain ⟨x, rest, hentries⟩ : ∃ x rest, p.entries = x :: rest :=
    List.exists_cons_of_ne_nil (by simpa [Patch.entries] using hadded)
  obtain ⟨u, y, hchain⟩ := chain_concat last x rest
  have hne := p.entries_ne_nil
  rw [hentries, join_cons_eq, List.append_assoc, ← itemsText_chain] at hbody
  rw [hentries] at hne
  have hlist := hasListWith_copy ht hleft hright
    ⟨opening, chain last (x :: rest), hfree, separated_chain hlast (Nat.le_refl trailing) hne⟩ hbody
    hchain hlast
  rw [hclosing, hentries]
  have hitems := congrArg (List.map some) (map_chain last (x :: rest))
  rw [List.map_map] at hitems
  rwa [← hitems]

/-- All properties go. -/
theorem hasListWith_gone {v : List (Text × Text)} {z : Text × Text} (hitems : l.items = v ++ [z])
    (hgone : ∀ k < l.items.length, k ∈ p.removed) (htrailing : commas? z.2 = some trailing) :
    HasListWith cut put t (p.closing trailing) (bytes before) (p.entries.map some) := by
  have hremaining : p.remaining = [] := without_eq_nil fun k hk => by
    rw [← h.length_eq] at hk
    simpa using hgone k hk
  have hwoven : ∀ {point text}, (∀ n, p.putAt n = if n = point then text else []) →
      point ≤ l.first (bytes before) →
      itemsText (woven cut put (l.first (bytes before)) l.items) = z.2 := by
    intro point text hput hpoint
    have hafter := h.itemsText_woven_after hput (u := []) (v := v) (z := z) hitems
      (fun k _ hk => hgone k hk) (by simpa using hpoint)
    rw [hitems]
    simpa using hafter
  by_cases hadded : p.added = []
  · have hput : ∀ n, p.putAt n = if n = l.first (bytes before) then [] else [] := fun n => by
      simp [Patch.putAt_of_added_nil hadded]
    have hnothing := hwoven hput (Nat.le_refl _)
    have hentries : p.entries = [] := by simp [Patch.entries, hadded]
    rw [hentries]
    exact h.hasListWith_nothing ht hleft hright hremaining hadded hnothing htrailing
  · obtain ⟨i, w, hcons⟩ : ∃ i w, l.items = i :: w :=
      List.exists_cons_of_ne_nil (by simp [hitems])
    obtain ⟨q, hq, hspan⟩ := h.exists_property (u := []) hcons
    have hput := Patch.putAt_first hremaining ((List.head?_eq_getElem? ..).trans hq) hadded
    have hstart : q.span.start = l.first (bytes before) := by simp [hspan]
    rw [hstart] at hput
    refine hasListWith_added ht hleft hright hremaining hadded l.opening_free htrailing ?_
    rw [h.weave_opening hput (Nat.le_refl _), if_pos rfl, hwoven hput (Nat.le_refl _),
      List.append_assoc]

/-- There are no properties. -/
theorem hasListWith_fresh (hitems : l.items = []) :
    HasListWith cut put t (p.closing 0) (bytes before) (p.entries.map some) := by
  have hproperties : p.object.properties = [] := by
    rw [← List.length_eq_zero_iff, ← h.length_eq, hitems]
    rfl
  have hremaining : p.remaining = [] := by simp [Patch.remaining, hproperties]
  have hwoven : itemsText (woven cut put (l.first (bytes before)) l.items) = [] := by
    rw [hitems]
    rfl
  by_cases hadded : p.added = []
  · have hentries : p.entries = [] := by simp [Patch.entries, hadded]
    rw [hentries]
    exact h.hasListWith_nothing ht hleft hright hremaining hadded hwoven rfl
  · have hput := Patch.putAt_empty hproperties hadded
    have hstop : p.object.span.stop - 1 = l.first (bytes before) := by
      rw [h.span, bytes_text_eq, hitems]
      simp
    rw [hstop] at hput
    have hblank : commas? [' '] = some 0 := rfl
    refine hasListWith_added ht hleft hright hremaining hadded (commas?_blank l.opening_free)
      hblank ?_
    rw [h.weave_opening hput (Nat.le_refl _), if_pos rfl, hwoven]
    simp

/-- A patched literal is a list of the properties that stay and of what is added, and the commas in
front of its right brace are known. -/
theorem hasListWith (hnone : l.items = [] → trailing = 0)
    (htrailing : ∀ u z, l.items = u ++ [z] → commas? z.2 = some trailing) :
    HasListWith cut put t (p.closing trailing) (bytes before)
      ((p.remaining.map fun q => copyOf cut put t q.span) ++ p.entries.map some) := by
  rcases exists_last_without p.removed l.items with hgone | ⟨u, i, v, hitems, hstays, hgone⟩
  · have hremaining : p.remaining = [] := without_eq_nil fun k hk => by
      rw [← h.length_eq] at hk
      simpa using hgone k hk
    rw [hremaining, List.map_nil, List.nil_append]
    rcases List.eq_nil_or_concat' l.items with hnil | ⟨v, z, hitems⟩
    · rw [hnone hnil]
      exact h.hasListWith_fresh ht hleft hright hnil
    · exact h.hasListWith_gone ht hleft hright hitems hgone (htrailing v z hitems)
  · exact h.hasListWith_stays ht hleft hright hitems hstays hgone htrailing

end PatchedList

section Whole

variable {cut : Nat → Bool} {put : Nat → Text} {p : Patch} {t : Text} {most trailing : Nat}

/-- A copy that makes the changes of a patch has a list of the properties that stay and of what is
added. -/
theorem PatchedAt.hasListWith (h : PatchedAt cut put p) (hbraced : p.object.Braced t)
    (ht : LaidOut t most p.object.span (p.object.properties.map (·.span)))
    (hclosing : closing? t p.object.span (p.object.properties.map (·.span)) = some trailing)
    (hleft : cut p.object.span.start = false) :
    HasListWith cut put t (p.closing trailing) p.object.span.start
      ((p.remaining.map fun q => copyOf cut put t q.span) ++
        p.added.map fun e => some (NewValue.renderEntry e)) := by
  obtain ⟨n, hn, -, hnone⟩ := ht.exists_closing
  obtain rfl : n = trailing := Option.some.inj (hn.closing.symm.trans hclosing)
  obtain ⟨before, after, l, hparts, hspan, hspans⟩ := ht.exists_list
  have hlist : PatchedList cut put t p (bytes before) l := ⟨h, hbraced, hspans, hspan⟩
  have hentries : p.entries.map some = p.added.map fun e => some (NewValue.renderEntry e) := by
    rw [Patch.entries, List.map_map]
    rfl
  have hright := h.cut_right hbraced
  rw [hspan] at hleft hright
  rw [← hspans, hspan] at hclosing
  rw [hspan, ← hentries]
  refine hlist.hasListWith hparts hleft hright (fun hnil => hnone ?_) fun u z hitems => ?_
  · rw [← hspans, BraceList.spans, hnil]
    rfl
  · rw [← hclosing, l.closing?_eq hparts hitems]

theorem Patch.closing_of_toList {k : Option Nat} (hremoved : p.removed = k.toList) :
    p.closing trailing = trailing := by
  rw [closing, if_neg]
  rintro ⟨hne, htwo, hone⟩
  rw [hremoved, Option.mem_toList] at htwo hone
  obtain hindex := Option.some.inj (Option.mem_def.mp htwo ▸ Option.mem_def.mp hone)
  refine hne (without_eq_nil fun i hi => ?_)
  rw [hremoved, Option.mem_toList, Option.mem_def.mp hone]
  exact congrArg some (by omega)

/-- Where one property goes at most, and no only one without another in its place, the list is as it
should be. -/
theorem PatchedAt.hasList (h : PatchedAt cut put p) (hbraced : p.object.Braced t)
    (ht : LaidOut t most p.object.span (p.object.properties.map (·.span)))
    (hleft : cut p.object.span.start = false) {k : Option Nat} (hremoved : p.removed = k.toList)
    (hk : ∀ i ∈ k, p.remaining = [] → p.added ≠ []) :
    HasList cut put t most p.object.span.start
      ((p.remaining.map fun q => copyOf cut put t q.span) ++
        p.added.map fun e => some (NewValue.renderEntry e)) := by
  obtain ⟨n, hn, hle, hnone⟩ := ht.exists_closing
  obtain ⟨s, spans, hlanding, hcloses, hslices⟩ := h.hasListWith hbraced ht hn.closing hleft
  rw [Patch.closing_of_toList hremoved] at hcloses
  refine ⟨s, spans, hlanding, hcloses.laidOut_iff.mpr ⟨hle, fun hnil => hnone ?_⟩, hslices⟩
  -- Without items nothing is added and no property stays, so none has been there.
  rw [hnil, List.map_nil, eq_comm, List.append_eq_nil_iff, List.map_eq_nil_iff,
    List.map_eq_nil_iff] at hslices
  obtain ⟨hremaining, hadded⟩ := hslices
  cases k with
  | some i => exact absurd hadded (hk i rfl hremaining)
  | none =>
    have hall : p.remaining = p.object.properties := by simp [Patch.remaining, hremoved]
    rw [← hall, hremaining]
    rfl

end Whole

end StoryExports
