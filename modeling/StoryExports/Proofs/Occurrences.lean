import StoryExports.Proofs.Cuts
import StoryExports.Template.Script

/-!
# Occurrences of a text

A part occurs in a text after each beginning `a` such that `a ++ part` is a beginning too. The
beginnings of one text are ordered, so the first occurrence is the one after the least of them, and
the last occurrence the one after the greatest.
-/
namespace StoryExports

namespace Text

variable {t part rest : Text}

theorem stripStart?_eq_some_iff : t.stripStart? part = some rest ↔ t = part ++ rest := by
  induction part generalizing t with
  | nil => simp [stripStart?]
  | cons p part ih =>
    cases t with
    | nil => simp [stripStart?]
    | cons c t =>
      by_cases hc : c = p
      · simp [stripStart?, hc, ih]
      · simp [stripStart?, hc]

theorem startsWith_iff : t.startsWith part = true ↔ part <+: t := by
  rw [startsWith, Option.isSome_iff_exists]
  exact exists_congr fun _ => stripStart?_eq_some_iff.trans eq_comm

theorem contains_iff : t.contains part = true ↔ part <:+: t := by
  induction t with
  | nil => simp [contains]
  | cons c t ih => rw [contains, Bool.or_eq_true, startsWith_iff, ih, List.infix_cons_iff]

/-- Of two beginnings of a text the one with fewer bytes begins the other. -/
theorem prefix_of_bytes_le {a b : Text} (ha : a <+: t) (hb : b <+: t) (h : bytes a ≤ bytes b) :
    a <+: b := by
  rcases List.prefix_or_prefix_of_prefix ha hb with hab | ⟨m, rfl⟩
  · exact hab
  · have hm : m = [] := eq_nil_of_bytes_eq_zero (by simp at h; omega)
    simp [hm]

end Text

namespace Template

open Text (bytes startsWith_iff)

variable {t part : Text} {n : Nat}

/-- The part occurs in the text right after the beginning `a`. -/
def OccursAfter (part t a : Text) : Prop := a ++ part <+: t

theorem OccursAfter.cons_iff {c : Char} {a : Text} :
    OccursAfter part (c :: t) (c :: a) ↔ OccursAfter part t a := by
  simp [OccursAfter]

/-- An occurrence in a text is at its front or inside the text after its first character. -/
theorem OccursAfter.of_cons {c : Char} {a : Text} (h : OccursAfter part (c :: t) a) :
    (a = [] ∧ part <+: c :: t) ∨ ∃ a', a = c :: a' ∧ OccursAfter part t a' := by
  cases a with
  | nil => exact .inl ⟨rfl, h⟩
  | cons d a =>
    obtain rfl : d = c := (List.cons_prefix_cons.mp h).1
    exact .inr ⟨a, rfl, cons_iff.mp h⟩

theorem firstOccurrence?_eq_some_iff :
    firstOccurrence? t part = some n ↔
      ∃ a, OccursAfter part t a ∧ bytes a = n ∧ ∀ a', OccursAfter part t a' → a <+: a' := by
  induction t generalizing n with
  | nil =>
    rw [firstOccurrence?]
    by_cases h : part = []
    · simp [h, OccursAfter, Text.startsWith, Text.stripStart?, eq_comm]
    · have hstart : ¬ Text.startsWith [] part = true := fun hpart =>
        h (List.prefix_nil.mp (startsWith_iff.mp hpart))
      simp [hstart, OccursAfter, h]
  | cons c t ih =>
    rw [firstOccurrence?]
    by_cases h : Text.startsWith (c :: t) part = true
    · rw [if_pos h, Option.some.injEq]
      have hfront : OccursAfter part (c :: t) [] := startsWith_iff.mp h
      constructor
      · rintro rfl
        exact ⟨[], hfront, rfl, fun a' _ => List.nil_prefix⟩
      · rintro ⟨a, -, rfl, hleast⟩
        rw [List.prefix_nil.mp (hleast [] hfront)]
        rfl
    · rw [if_neg h]
      have hinside : ∀ {a}, OccursAfter part (c :: t) a →
          ∃ a', a = c :: a' ∧ OccursAfter part t a' := fun ha =>
        ha.of_cons.resolve_left fun hfront => h (startsWith_iff.mpr hfront.2)
      simp only [Option.map_eq_some_iff, ih]
      constructor
      · rintro ⟨_, ⟨a, ha, rfl, hleast⟩, rfl⟩
        refine ⟨c :: a, OccursAfter.cons_iff.mpr ha, rfl, fun a' ha' => ?_⟩
        obtain ⟨b, rfl, hb⟩ := hinside ha'
        exact List.cons_prefix_cons.mpr ⟨rfl, hleast b hb⟩
      · rintro ⟨a, ha, rfl, hleast⟩
        obtain ⟨b, rfl, hb⟩ := hinside ha
        refine ⟨bytes b, ⟨b, hb, rfl, fun b' hb' => ?_⟩, rfl⟩
        exact (List.cons_prefix_cons.mp (hleast (c :: b') (OccursAfter.cons_iff.mpr hb'))).2

theorem lastOccurrence?_eq_none_iff (hpart : part ≠ []) :
    lastOccurrence? t part = none ↔ ∀ a, ¬ OccursAfter part t a := by
  induction t with
  | nil => simp [lastOccurrence?, OccursAfter, hpart]
  | cons c t ih =>
    rw [lastOccurrence?]
    cases hlast : lastOccurrence? t part with
    | some n =>
      have hsome : ¬ ∀ a, ¬ OccursAfter part t a := fun h => by
        rw [ih.mpr h] at hlast
        cases hlast
      simp only [reduceCtorEq, false_iff]
      exact fun h => hsome fun a ha => h (c :: a) (OccursAfter.cons_iff.mpr ha)
    | none =>
      have hnone := ih.mp hlast
      by_cases h : Text.startsWith (c :: t) part = true
      · rw [if_pos h]
        simp only [reduceCtorEq, false_iff]
        exact fun hno => hno [] (startsWith_iff.mp h)
      · rw [if_neg h]
        simp only [true_iff]
        intro a ha
        rcases ha.of_cons with ⟨-, hfront⟩ | ⟨a', -, ha'⟩
        · exact h (startsWith_iff.mpr hfront)
        · exact hnone a' ha'

theorem lastOccurrence?_eq_some_iff (hpart : part ≠ []) :
    lastOccurrence? t part = some n ↔
      ∃ a, OccursAfter part t a ∧ bytes a = n ∧ ∀ a', OccursAfter part t a' → a' <+: a := by
  induction t generalizing n with
  | nil => simp [lastOccurrence?, OccursAfter, hpart]
  | cons c t ih =>
    rw [lastOccurrence?]
    cases hlast : lastOccurrence? t part with
    | some m =>
      -- The text after the first character has a last occurrence, which is the last one here too.
      obtain ⟨b, hb, rfl, hgreatest⟩ := ih.mp hlast
      have hgreatest' : ∀ a', OccursAfter part (c :: t) a' → a' <+: c :: b := fun a' ha' => by
        rcases ha'.of_cons with ⟨rfl, -⟩ | ⟨b', rfl, hb'⟩
        · exact List.nil_prefix
        · exact List.cons_prefix_cons.mpr ⟨rfl, hgreatest b' hb'⟩
      rw [Option.some.injEq]
      constructor
      · rintro rfl
        exact ⟨c :: b, OccursAfter.cons_iff.mpr hb, rfl, hgreatest'⟩
      · rintro ⟨a, ha, rfl, ha'⟩
        have heq : c :: b = a := (ha' _ (OccursAfter.cons_iff.mpr hb)).eq_of_length_le
          (hgreatest' a ha).length_le
        rw [← heq]
        rfl
    | none =>
      have hnone := (lastOccurrence?_eq_none_iff hpart).mp hlast
      have hfront : ∀ {a}, OccursAfter part (c :: t) a → a = [] := fun ha =>
        (ha.of_cons.resolve_right fun ⟨a', _, ha'⟩ => hnone a' ha').1
      by_cases h : Text.startsWith (c :: t) part = true
      · rw [if_pos h, Option.some.injEq]
        constructor
        · rintro rfl
          exact ⟨[], startsWith_iff.mp h, rfl, fun a' ha' => hfront ha' ▸ List.nil_prefix⟩
        · rintro ⟨a, ha, rfl, -⟩
          rw [hfront ha]
          rfl
      · rw [if_neg h]
        simp only [reduceCtorEq, false_iff]
        rintro ⟨a, ha, -⟩
        have ha' := ha
        rw [hfront ha] at ha'
        exact h (startsWith_iff.mpr ha')

end Template

end StoryExports
