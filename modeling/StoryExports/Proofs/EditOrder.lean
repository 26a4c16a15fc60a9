import Mathlib.Data.List.Sort
import StoryExports.Edit.Apply

/-!
# Clashes and the order of edits

Whether edits get in each other's way is a matter of pairs and does not depend on any order. Among
edits sorted from left to right, the pairs that do not clash are those where the first edit ends
before the second one starts.
-/
namespace StoryExports

/-- The bytes that a span covers. -/
def Span.Covers (s : Span) (n : Nat) : Prop := s.start ≤ n ∧ n < s.stop

namespace Edit

section Sorting

variable {α : Type} {le : α → α → Bool}

theorem sortBy_eq_insertionSort (xs : List α) :
    sortBy le xs = xs.insertionSort fun a b => le a b = true := by
  induction xs with
  | nil => rfl
  | cons x xs ih =>
    rw [List.insertionSort_cons_eq_take_drop, ← ih]
    simp [sortBy]

theorem sortBy_perm (xs : List α) : (sortBy le xs).Perm xs := by
  rw [sortBy_eq_insertionSort]
  exact List.perm_insertionSort _ xs

theorem sortBy_pairwise (total : ∀ a b, le a b || le b a)
    (trans : ∀ a b c, le a b → le b c → le a c) (xs : List α) :
    (sortBy le xs).Pairwise fun a b => le a b := by
  have : Std.Total fun a b => le a b = true := ⟨fun a b => by simpa using total a b⟩
  have : IsTrans α fun a b => le a b = true := ⟨trans⟩
  rw [sortBy_eq_insertionSort]
  exact List.pairwise_insertionSort _ xs

/-- Sorting is stable: a selection whose members may all stand before each other keeps its
order. -/
theorem filter_sortBy (p : α → Bool) (h : ∀ a b, p a → p b → le a b) (xs : List α) :
    (sortBy le xs).filter p = xs.filter p := by
  have hpairs : (xs.filter p).Pairwise fun a b => le a b = true := by
    refine List.pairwise_of_forall_mem_list fun a ha b hb => ?_
    exact h a b (List.of_mem_filter ha) (List.of_mem_filter hb)
  have hkept : (xs.filter p).Sublist (sortBy le xs) := by
    rw [sortBy_eq_insertionSort]
    exact List.sublist_insertionSort hpairs List.filter_sublist
  have hsub : (xs.filter p).Sublist ((sortBy le xs).filter p) := by simpa using hkept.filter p
  exact (hsub.eq_of_length ((sortBy_perm xs).filter p).length_eq.symm).symm

end Sorting

theorem isInsertion_iff {e : Edit} : e.isInsertion = true ↔ e.span.start = e.span.stop := by
  simp [isInsertion]

theorem le_iff {a b : Edit} :
    le a b = true ↔ a.span.start < b.span.start ∨
      a.span.start = b.span.start ∧ (a.isInsertion = true ∨ b.isInsertion = false) := by
  simp [le]

theorem start_le_of_le {a b : Edit} (h : le a b) : a.span.start ≤ b.span.start := by
  rcases le_iff.mp h with h | ⟨h, -⟩ <;> omega

theorem le_total (a b : Edit) : le a b || le b a := by
  simp only [Bool.or_eq_true, le_iff]
  rcases Nat.lt_trichotomy a.span.start b.span.start with h | h | h
  · exact .inl (.inl h)
  · cases a.isInsertion <;> cases b.isInsertion <;> simp [h]
  · exact .inr (.inl h)

theorem le_trans (a b c : Edit) (hab : le a b) (hbc : le b c) : le a c := by
  rw [le_iff] at hab hbc ⊢
  rcases hab with hab | ⟨hab, hkind⟩
  · have := start_le_of_le (le_iff.mpr hbc)
    exact .inl (by omega)
  · rw [hab]
    rcases hbc with hbc | ⟨hbc, hkind'⟩
    · exact .inl hbc
    · refine .inr ⟨hbc, ?_⟩
      rcases hkind with ha | hb
      · exact .inl ha
      · exact .inr (by simpa [hb] using hkind')

/-- Two ranges clash when they share a byte, and an insertion clashes with a range when it lies
strictly inside it. Insertions do not clash with each other. -/
def Clash (a b : Edit) : Prop :=
  (∃ n, a.span.Covers n ∧ b.span.Covers n) ∨
    (a.isInsertion ∧ b.span.start < a.span.start ∧ a.span.start < b.span.stop) ∨
    (b.isInsertion ∧ a.span.start < b.span.start ∧ b.span.start < a.span.stop)

theorem Clash.symm {a b : Edit} (h : Clash a b) : Clash b a := by
  rcases h with ⟨n, ha, hb⟩ | h | h
  · exact .inl ⟨n, hb, ha⟩
  · exact .inr (.inr h)
  · exact .inr (.inl h)

theorem exists_covers_iff {s t : Span} :
    (∃ n, s.Covers n ∧ t.Covers n) ↔ max s.start t.start < min s.stop t.stop := by
  constructor
  · rintro ⟨n, hs, ht⟩
    simp only [Span.Covers] at hs ht
    omega
  · intro h
    exact ⟨max s.start t.start, by simp only [Span.Covers]; omega⟩

instance (a b : Edit) : Decidable (Clash a b) :=
  decidable_of_iff
    (max a.span.start b.span.start < min a.span.stop b.span.stop ∨
      (a.isInsertion ∧ b.span.start < a.span.start ∧ a.span.start < b.span.stop) ∨
      (b.isInsertion ∧ a.span.start < b.span.start ∧ b.span.start < a.span.stop))
    (or_congr_left exists_covers_iff.symm)

def ClashFree (edits : List Edit) : Prop := edits.Pairwise fun a b => ¬Clash a b

instance (edits : List Edit) : Decidable (ClashFree edits) :=
  inferInstanceAs (Decidable (edits.Pairwise fun a b => ¬Clash a b))

theorem ClashFree.perm {xs ys : List Edit} (h : ClashFree xs) (hp : xs.Perm ys) : ClashFree ys :=
  (hp.pairwise_iff fun hab hba => hab hba.symm).mp h

/-- The first edit ends before the second one starts. -/
def Apart (a b : Edit) : Prop := a.span.stop ≤ b.span.start

theorem Apart.not_clash {a b : Edit} (ha : a.span.start ≤ a.span.stop) (h : Apart a b) :
    ¬Clash a b := by
  simp only [Apart] at h
  rintro (⟨n, hna, hnb⟩ | ⟨hins, h₁, h₂⟩ | ⟨hins, h₁, h₂⟩)
  · simp only [Span.Covers] at hna hnb
    omega
  · omega
  · omega

/-- The order of a range and an insertion with one start matters here: the insertion comes first,
or it would look as if it were inside. -/
theorem apart_of_not_clash {a b : Edit} (hb : b.span.start ≤ b.span.stop) (hle : le a b)
    (h : ¬Clash a b) : Apart a b := by
  refine Nat.le_of_not_lt fun hn => ?_
  have hstart := start_le_of_le hle
  by_cases hins : b.isInsertion
  · rcases le_iff.mp hle with hlt | ⟨heq, ha | hb'⟩
    · exact h (.inr (.inr ⟨hins, hlt, hn⟩))
    · have := isInsertion_iff.mp ha
      omega
    · simp [hins] at hb'
  · have hne : b.span.start ≠ b.span.stop := fun heq => hins (isInsertion_iff.mpr heq)
    exact h (.inl ⟨b.span.start, ⟨hstart, hn⟩, ⟨Nat.le_refl _, by omega⟩⟩)

end Edit

end StoryExports
