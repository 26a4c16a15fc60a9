import StoryExports.Proofs.Untouched

/-!
# What is taken out with properties

The spans that go with several properties may overlap, and are joined then. Joining changes nothing
about what is covered. So of the text between two properties nothing stays if the first of them
goes, or if the second one goes and is the last. What stands before the first property or after the
last one always stays.
-/
namespace StoryExports

namespace Outline.Braced

variable {t : Text} {o : Outline} {i j : Nat} {p q : Property PropertyValue}

theorem start_le_start (h : o.Braced t) (hp : o.properties[i]? = some p)
    (hq : o.properties[j]? = some q) (hij : i ≤ j) : p.span.start ≤ q.span.start := by
  rcases Nat.eq_or_lt_of_le hij with rfl | hlt
  · obtain rfl : p = q := Option.some.inj (hp.symm.trans hq)
    exact Nat.le_refl _
  · have hordered := (h.between p (List.mem_of_getElem? hp)).ordered
    exact Nat.le_trans hordered (h.stop_le_start hp hq hlt)

theorem stop_le_stop (h : o.Braced t) (hp : o.properties[i]? = some p)
    (hq : o.properties[j]? = some q) (hij : i ≤ j) : p.span.stop ≤ q.span.stop := by
  rcases Nat.eq_or_lt_of_le hij with rfl | hlt
  · obtain rfl : p = q := Option.some.inj (hp.symm.trans hq)
    exact Nat.le_refl _
  · have hordered := (h.between q (List.mem_of_getElem? hq)).ordered
    exact Nat.le_trans (h.stop_le_start hp hq hlt) hordered

end Outline.Braced

namespace Patch

section Merging

variable {current s : Span} {rest : List Span} {n : Nat}

/-- Every span is a part of one that it is joined with. -/
theorem exists_within_mergeFrom (hsorted : (current :: rest).Pairwise fun a b => a.start ≤ b.start)
    (hs : s ∈ current :: rest) : ∃ r ∈ mergeFrom current rest, s.Within r := by
  induction rest generalizing current s with
  | nil =>
    obtain rfl := List.mem_singleton.mp hs
    exact ⟨s, List.mem_singleton_self s, .refl s⟩
  | cons next rest ih =>
    obtain ⟨hcurrent, hrest⟩ := List.pairwise_cons.mp hsorted
    simp only [mergeFrom]
    split
    · have hjoined : (⟨current.start, max current.stop next.stop⟩ :: rest).Pairwise
          fun a b => a.start ≤ b.start :=
        List.pairwise_cons.mpr ⟨fun a ha => hcurrent a (by simp [ha]),
          (List.pairwise_cons.mp hrest).2⟩
      have hnext := hcurrent next (by simp)
      have hboth : s.Within ⟨current.start, max current.stop next.stop⟩ ∨ s ∈ rest := by
        rcases List.mem_cons.mp hs with rfl | hs
        · exact .inl ⟨Nat.le_refl _, Nat.le_max_left _ _⟩
        · rcases List.mem_cons.mp hs with rfl | hs
          · exact .inl ⟨hnext, Nat.le_max_right _ _⟩
          · exact .inr hs
      rcases hboth with hwithin | hs
      · obtain ⟨r, hr, hjoin⟩ := ih hjoined List.mem_cons_self
        exact ⟨r, hr, hwithin.trans hjoin⟩
      · exact ih hjoined (List.mem_cons_of_mem _ hs)
    · rcases List.mem_cons.mp hs with rfl | hs
      · exact ⟨s, List.mem_cons_self, .refl s⟩
      · obtain ⟨r, hr, hwithin⟩ := ih hrest hs
        exact ⟨r, List.mem_cons_of_mem _ hr, hwithin⟩

theorem exists_within_removals {p : Patch} {i : Nat} (hi : i ∈ p.removed)
    (hs : removalSpan p.object.properties i = some s) : ∃ r ∈ p.removals, s.Within r := by
  have hsorted := p.spans_sorted
  have hmem : s ∈ p.spans := mem_spans.mpr ⟨i, hi, hs⟩
  rw [removals_eq]
  cases hcons : p.spans with
  | nil =>
    rw [hcons] at hmem
    cases hmem
  | cons first spans =>
    rw [hcons] at hmem hsorted
    exact exists_within_mergeFrom hsorted hmem

/-- The text that is taken out is what goes with one of the properties. -/
theorem exists_covers_removals_iff {p : Patch} : (∃ r ∈ p.removals, r.Covers n) ↔
    ∃ i ∈ p.removed, ∃ s, removalSpan p.object.properties i = some s ∧ s.Covers n := by
  constructor
  · rintro ⟨r, hr, hcovers⟩
    refine forall_removals (P := fun r => r.Covers n → ∃ i ∈ p.removed, ∃ s,
      removalSpan p.object.properties i = some s ∧ s.Covers n) (fun a b ha hb hle hlt hn => ?_)
      (fun i hi s hs hn => ⟨i, hi, s, hs, hn⟩) r hr hcovers
    obtain ⟨hstart, hstop⟩ := hn
    by_cases hfirst : n < a.stop
    · exact ha ⟨hstart, hfirst⟩
    · exact hb ⟨by omega, by simp only at hstop; omega⟩
  · rintro ⟨i, hi, s, hs, hcovers⟩
    obtain ⟨r, hr, hwithin⟩ := exists_within_removals hi hs
    exact ⟨r, hr, hcovers.mono hwithin⟩

end Merging

section Gaps

variable {t : Text} {o : Outline} {i k n : Nat} {q q' : Property PropertyValue} {s : Span}

/-- What goes with a property covers the text between two others if it starts with the first, or if
it ends with the second. -/
theorem removalSpan_covers_between (h : o.Braced t) (hq : o.properties[i]? = some q)
    (hq' : o.properties[i + 1]? = some q') (hn : q.span.stop ≤ n) (hlt : n < q'.span.start)
    (hs : removalSpan o.properties k = some s) :
    s.Covers n ↔ k = i ∨ (k = i + 1 ∧ o.properties[i + 2]? = none) := by
  have hordered := (h.between q (List.mem_of_getElem? hq)).ordered
  have hordered' := (h.between q' (List.mem_of_getElem? hq')).ordered
  constructor
  · rintro ⟨hstart, hstop⟩
    obtain ⟨p, hp, ⟨next, hnext, rfl⟩ | ⟨rfl, rfl⟩ | ⟨j, before, rfl, hlast, hbefore, rfl⟩⟩ :=
      removalSpan_cases hs
    · rcases Nat.lt_trichotomy k i with hki | hki | hki
      · have := h.start_le_start hnext hq hki
        simp only at hstop
        omega
      · exact .inl hki
      · have := h.start_le_start hq' hp hki
        simp only at hstart
        omega
    · have := h.stop_le_stop hp hq (Nat.zero_le i)
      omega
    · have hi := (List.getElem?_eq_some_iff.mp hq').1
      have hj := List.getElem?_eq_none_iff.mp hlast
      rcases Nat.eq_or_lt_of_le (show i ≤ j by omega) with rfl | hij
      · exact .inr ⟨rfl, hlast⟩
      · have := h.start_le_start hq' hbefore hij
        have := (h.between before (List.mem_of_getElem? hbefore)).ordered
        simp only at hstart
        omega
  · rintro (rfl | ⟨rfl, hlast⟩)
    · rw [removalSpan, hq] at hs
      simp only [hq', Option.some.injEq] at hs
      subst hs
      exact ⟨by simp only; omega, hlt⟩
    · rw [removalSpan, hq'] at hs
      simp only [hlast, hq, Option.map_some, Option.some.injEq] at hs
      subst hs
      exact ⟨hn, by simp only; omega⟩

theorem removalSpan_stop_le (h : o.Braced t) (hq : o.properties[i]? = some q)
    (hlast : o.properties[i + 1]? = none) (hs : removalSpan o.properties k = some s) :
    s.stop ≤ q.span.stop := by
  have hend := List.getElem?_eq_none_iff.mp hlast
  have hordered := (h.between q (List.mem_of_getElem? hq)).ordered
  have hle : ∀ j p, o.properties[j]? = some p → j ≤ i := fun j p hp => by
    have := (List.getElem?_eq_some_iff.mp hp).1
    omega
  obtain ⟨p, hp, ⟨next, hnext, rfl⟩ | ⟨-, rfl⟩ | ⟨j, before, rfl, -, -, rfl⟩⟩ :=
    removalSpan_cases hs
  · exact Nat.le_trans (h.start_le_start hnext hq (hle _ _ hnext)) hordered
  · exact h.stop_le_stop hp hq (hle _ _ hp)
  · exact h.stop_le_stop hp hq (hle _ _ hp)

variable {p : Patch}

theorem covered_between_iff (h : p.object.Braced t) (hq : p.object.properties[i]? = some q)
    (hq' : p.object.properties[i + 1]? = some q') (hn : q.span.stop ≤ n)
    (hlt : n < q'.span.start) : (∃ r ∈ p.removals, r.Covers n) ↔
      i ∈ p.removed ∨ (i + 1 ∈ p.removed ∧ p.object.properties[i + 2]? = none) := by
  rw [exists_covers_removals_iff]
  constructor
  · rintro ⟨k, hk, s, hs, hcovers⟩
    rcases (removalSpan_covers_between h hq hq' hn hlt hs).mp hcovers with rfl | ⟨rfl, hlast⟩
    · exact .inl hk
    · exact .inr ⟨hk, hlast⟩
  · rintro (hi | ⟨hi, hlast⟩)
    · obtain ⟨s, hs, -⟩ := exists_removalSpan h hq
      exact ⟨i, hi, s, hs, (removalSpan_covers_between h hq hq' hn hlt hs).mpr (.inl rfl)⟩
    · obtain ⟨s, hs, -⟩ := exists_removalSpan h hq'
      exact ⟨_, hi, s, hs, (removalSpan_covers_between h hq hq' hn hlt hs).mpr (.inr ⟨rfl, hlast⟩)⟩

theorem not_covered_after (h : p.object.Braced t) (hq : p.object.properties[i]? = some q)
    (hlast : p.object.properties[i + 1]? = none) (hn : q.span.stop ≤ n) :
    ¬∃ r ∈ p.removals, r.Covers n := by
  rw [exists_covers_removals_iff]
  rintro ⟨k, -, s, hs, hcovers⟩
  exact absurd hcovers.2 (Nat.not_lt.mpr (Nat.le_trans (removalSpan_stop_le h hq hlast hs) hn))

theorem not_covered_before (h : p.object.Braced t)
    (hq : ∀ q ∈ p.object.properties, n < q.span.start) : ¬∃ r ∈ p.removals, r.Covers n := by
  rw [exists_covers_removals_iff]
  rintro ⟨k, -, s, hs, hcovers⟩
  obtain ⟨q, hk, -⟩ := removalSpan_cases hs
  obtain ⟨first, hfirst⟩ := Option.isSome_iff_exists.mp
    (List.isSome_head?.mpr (List.ne_nil_of_mem (List.mem_of_getElem? hk)))
  have hle := first_le_removalSpan h hs hfirst
  have := hq first (List.mem_of_head? hfirst)
  have := hcovers.1
  omega

end Gaps

end Patch

end StoryExports
