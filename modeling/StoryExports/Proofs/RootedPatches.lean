import StoryExports.Proofs.PatchEdits
import StoryExports.Proofs.PatchTable

/-!
# Patches below one literal

Where all changes are made on one literal, a patch belongs to that literal or to one below a
property that stays, and only the former loses properties. So the edits of two such patches do not
meet.
-/
namespace StoryExports

/-- The patch of a literal that loses the properties at the places `gone` at most, or of a literal
below a property that it keeps. -/
structure Patch.Rooted (o : Outline) (gone : Nat → Prop) (p : Patch) : Prop where
  object : p.object = o ∨ ∃ q ∈ o.properties, (∀ j, o.properties[j]? = some q → ¬gone j) ∧
    p.object ∈ q.outlines
  removed : ∀ i ∈ p.removed, p.object = o ∧ gone i

namespace Patch.Rooted

variable {t : Text} {o : Outline} {gone : Nat → Prop} {p q : Patch}

theorem mem_outlines (h : p.Rooted o gone) : p.object ∈ o.outlines := by
  rcases h.object with heq | ⟨r, hr, -, hmem⟩
  · rw [heq]
    exact o.self_mem_outlines
  · exact List.mem_cons_of_mem o (Outline.mem_outlinesIn.mpr ⟨r, hr, hmem⟩)

theorem removed_eq_nil (h : p.Rooted o gone) (hne : p.object ≠ o) : p.removed = [] :=
  List.eq_nil_iff_forall_not_mem.mpr fun i hi => hne (h.removed i hi).1

/-- Edits of the literal do not meet those of a literal below: that one lies in a property that is
not taken out. -/
theorem root_avoids (hnested : o.Nested t) (hp : p.Rooted o gone) (hq : q.Rooted o gone)
    (hroot : p.object = o) (hbelow : q.object ≠ o) {e f : Edit} (he : e ∈ p.edits)
    (hf : f ∈ q.edits) : e.span.Avoids f.span := by
  rcases hq.object with heq | ⟨r, hr, hstays, hmem⟩
  · exact absurd heq hbelow
  obtain ⟨j, hj⟩ := List.mem_iff_getElem?.mp hr
  have hbraced : p.object.Braced t := hroot ▸ hnested.braced
  have haway := edits_avoid_property hbraced he (hroot ▸ hj)
    fun hremoved => hstays j hj (hp.removed j hremoved).2
  have hinside := (between_edits (hnested _ hq.mem_outlines) hf).within
  exact haway.mono (.refl _) (hinside.trans (hnested.within_property hr hmem))

theorem avoids (hnested : o.Nested t) (hp : p.Rooted o gone) (hq : q.Rooted o gone)
    (hne : p.object.span.start ≠ q.object.span.start) {e f : Edit} (he : e ∈ p.edits)
    (hf : f ∈ q.edits) : e.span.Avoids f.span := by
  by_cases hroot : p.object = o <;> by_cases hroot' : q.object = o
  · rw [hroot, hroot'] at hne
    exact absurd rfl hne
  · exact root_avoids hnested hp hq hroot hroot' he hf
  · exact (root_avoids hnested hq hp hroot' hroot hf he).symm
  · exact Span.avoids_of_empty (insertion_of_mem_edits (hp.removed_eq_nil hroot) he)
      (insertion_of_mem_edits (hq.removed_eq_nil hroot') hf)

end Patch.Rooted

namespace Patches

variable {t : Text} {ps : Patches} (hbraced : ∀ p ∈ ps, p.object.Braced t)
include hbraced

theorem edits_fit : ∀ e ∈ ps.flatMap Patch.edits, Edit.Fits t e := by
  intro e he
  obtain ⟨p, hp, he⟩ := List.mem_flatMap.mp he
  have hbetween := Patch.between_edits (hbraced p hp) he
  exact ⟨hbetween.ordered, hbetween.start, hbetween.stop⟩

/-- The edits of all patches stay away from each other if those of any two patches do. -/
theorem Ordered.edits_avoid (h : ps.Ordered)
    (havoids : ∀ p ∈ ps, ∀ q ∈ ps, p.object.span.start ≠ q.object.span.start →
      ∀ e ∈ p.edits, ∀ f ∈ q.edits, e.span.Avoids f.span) :
    (ps.flatMap Patch.edits).Pairwise fun a b => a.span.Avoids b.span := by
  refine List.pairwise_flatMap.mpr ⟨fun p hp => Patch.edits_avoid (hbraced p hp), ?_⟩
  exact h.imp_of_mem fun hp hq hlt => havoids _ hp _ hq (Nat.ne_of_lt hlt)

end Patches

end StoryExports
