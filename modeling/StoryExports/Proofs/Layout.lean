import StoryExports.Proofs.Places

/-!
# How literals lie in a text

The properties of a literal stand between its braces, one after the other, and a literal that is the
value of a property lies in that property. It follows that literals in different properties lie
apart, and that no two literals of a tree start at one offset.
-/
namespace StoryExports

namespace Span

def Within (s u : Span) : Prop := u.start ≤ s.start ∧ s.stop ≤ u.stop

/-- One of the spans ends before the other one starts. -/
def Avoids (s u : Span) : Prop := s.stop ≤ u.start ∨ u.stop ≤ s.start

instance (s u : Span) : Decidable (s.Within u) := inferInstanceAs (Decidable (_ ∧ _))

instance (s u : Span) : Decidable (s.Avoids u) := inferInstanceAs (Decidable (_ ∨ _))

variable {s s' u u' : Span}

theorem Within.refl (s : Span) : s.Within s := ⟨Nat.le_refl _, Nat.le_refl _⟩

theorem Within.trans (h : s.Within s') (h' : s'.Within u) : s.Within u :=
  ⟨Nat.le_trans h'.1 h.1, Nat.le_trans h.2 h'.2⟩

theorem Avoids.symm (h : s.Avoids u) : u.Avoids s := Or.symm h

theorem Avoids.mono (h : s'.Avoids u') (hs : s.Within s') (hu : u.Within u') : s.Avoids u := by
  rcases h with h | h
  · exact .inl (Nat.le_trans hs.2 (Nat.le_trans h hu.1))
  · exact .inr (Nat.le_trans hu.2 (Nat.le_trans h hs.1))

theorem avoids_of_empty (hs : s.start = s.stop) (hu : u.start = u.stop) : s.Avoids u := by
  unfold Avoids
  omega

theorem Avoids.start_ne (h : s.Avoids u) (hs : s.start < s.stop) (hu : u.start < u.stop) :
    s.start ≠ u.start := by
  rcases h with h | h <;> omega

end Span

/-- Where the value of a property stands, if it is a literal. -/
def PropertyValue.span? : PropertyValue → Option Span
  | .object span _ => some span
  | .string _ => none
  | .other => none

namespace Outline

/-- The span lies between the braces of the literal, its ends at boundaries of the text. -/
structure Between (t : Text) (o : Outline) (s : Span) : Prop where
  ordered : s.start ≤ s.stop
  start : t.isBoundary s.start = true
  stop : t.isBoundary s.stop = true
  after : o.span.start < s.start
  before : s.stop < o.span.stop

instance (t : Text) (o : Outline) (s : Span) : Decidable (o.Between t s) :=
  decidable_of_iff (s.start ≤ s.stop ∧ t.isBoundary s.start = true ∧ t.isBoundary s.stop = true ∧
      o.span.start < s.start ∧ s.stop < o.span.stop)
    ⟨fun ⟨h₁, h₂, h₃, h₄, h₅⟩ => ⟨h₁, h₂, h₃, h₄, h₅⟩,
      fun h => ⟨h.ordered, h.start, h.stop, h.after, h.before⟩⟩

theorem Between.within {t : Text} {o : Outline} {s : Span} (h : o.Between t s) :
    s.Within o.span :=
  ⟨Nat.le_of_lt h.after, Nat.le_of_lt h.before⟩

/-- A literal in braces. -/
structure Braced (t : Text) (o : Outline) : Prop where
  /-- There is room before the right brace. -/
  closing : o.Between t ⟨o.span.stop - 1, o.span.stop - 1⟩
  between : ∀ p ∈ o.properties, o.Between t p.span
  ordered : o.properties.Pairwise fun p q => p.span.stop ≤ q.span.start
  values : ∀ p ∈ o.properties, ∀ s ∈ p.value.span?, s.Within p.span

instance (t : Text) (o : Outline) : Decidable (o.Braced t) :=
  decidable_of_iff (o.Between t ⟨o.span.stop - 1, o.span.stop - 1⟩ ∧
      (∀ p ∈ o.properties, o.Between t p.span) ∧
      (o.properties.Pairwise fun p q => p.span.stop ≤ q.span.start) ∧
      ∀ p ∈ o.properties, ∀ s ∈ p.value.span?, s.Within p.span)
    ⟨fun ⟨h₁, h₂, h₃, h₄⟩ => ⟨h₁, h₂, h₃, h₄⟩,
      fun h => ⟨h.closing, h.between, h.ordered, h.values⟩⟩

/-- A literal and all literals inside it are in braces. -/
def Nested (t : Text) (o : Outline) : Prop := ∀ x ∈ o.outlines, x.Braced t

instance (t : Text) (o : Outline) : Decidable (o.Nested t) :=
  inferInstanceAs (Decidable (∀ x ∈ o.outlines, x.Braced t))

theorem Braced.start_lt_stop {t : Text} {o : Outline} (h : o.Braced t) :
    o.span.start < o.span.stop := Nat.lt_trans h.closing.after h.closing.before

theorem Braced.stop_le_start {t : Text} {o : Outline} (h : o.Braced t) {i j : Nat}
    {p q : Property PropertyValue} (hp : o.properties[i]? = some p)
    (hq : o.properties[j]? = some q) (hij : i < j) : p.span.stop ≤ q.span.start := by
  obtain ⟨hi, rfl⟩ := List.getElem?_eq_some_iff.mp hp
  obtain ⟨hj, rfl⟩ := List.getElem?_eq_some_iff.mp hq
  exact List.pairwise_iff_getElem.mp h.ordered i j hi hj hij

theorem Braced.value_within {t : Text} {o : Outline} (h : o.Braced t) {p : Property PropertyValue}
    (hp : p ∈ o.properties) {v : Outline} (hv : p.value = .object v.span v.properties) :
    v.span.Within p.span :=
  h.values p hp v.span (by rw [hv]; rfl)

theorem exists_value {p : Property PropertyValue} {x : Outline} (hx : x ∈ p.outlines) :
    ∃ o : Outline, p.value = .object o.span o.properties ∧ x ∈ o.outlines := by
  obtain ⟨key, span, value⟩ := p
  cases value with
  | object s ps => exact ⟨⟨s, ps⟩, rfl, hx⟩
  | string text => cases hx
  | other => cases hx

theorem sizeOf_value {o v : Outline} {p : Property PropertyValue} (hp : p ∈ o.properties)
    (hv : p.value = .object v.span v.properties) : sizeOf v < sizeOf o := by
  obtain ⟨span, properties⟩ := o
  obtain ⟨key, pspan, value⟩ := p
  obtain ⟨vspan, vproperties⟩ := v
  have hlt := List.sizeOf_lt_of_mem hp
  subst hv
  simp only [Property.mk.sizeOf_spec, PropertyValue.object.sizeOf_spec, Outline.mk.sizeOf_spec]
    at hlt ⊢
  omega

/-- Induction from the values of the properties to the literal. -/
theorem value_induction {motive : Outline → Prop}
    (step : ∀ o : Outline, (∀ p ∈ o.properties, ∀ v : Outline,
      p.value = .object v.span v.properties → motive v) → motive o) (o : Outline) : motive o :=
  step o fun p hp v hv =>
    have := sizeOf_value hp hv
    value_induction step v
termination_by sizeOf o

namespace Nested

variable {t : Text} {o : Outline}

theorem braced (h : o.Nested t) : o.Braced t := h o o.self_mem_outlines

theorem value (h : o.Nested t) {p : Property PropertyValue} (hp : p ∈ o.properties) {v : Outline}
    (hv : p.value = .object v.span v.properties) : v.Nested t :=
  fun x hx => h x (outlines_subset hp hv hx)

theorem within (h : o.Nested t) {x : Outline} (hx : x ∈ o.outlines) : x.span.Within o.span := by
  induction o using value_induction with
  | step o ih =>
    rcases List.mem_cons.mp hx with rfl | hx
    · exact .refl _
    · obtain ⟨p, hp, hx⟩ := mem_outlinesIn.mp hx
      obtain ⟨v, hv, hx⟩ := exists_value hx
      have hvalue := (h.braced.value_within hp hv).trans (h.braced.between p hp).within
      exact (ih p hp v hv (h.value hp hv) hx).trans hvalue

theorem within_property (h : o.Nested t) {p : Property PropertyValue} (hp : p ∈ o.properties)
    {x : Outline} (hx : x ∈ p.outlines) : x.span.Within p.span := by
  obtain ⟨v, hv, hx⟩ := exists_value hx
  exact ((h.value hp hv).within hx).trans (h.braced.value_within hp hv)

end Nested

/-- Literals in regions that lie apart start at different offsets. -/
theorem nodup_starts_flatMap {α : Type} {xs : List α} {f : α → List Outline} {region : α → Span}
    (hin : ∀ a ∈ xs, ∀ o ∈ f a, o.span.start < o.span.stop ∧ o.span.Within (region a))
    (hnodup : ∀ a ∈ xs, ((f a).map (·.span.start)).Nodup)
    (hapart : xs.Pairwise fun a b => (region a).Avoids (region b)) :
    ((xs.flatMap f).map (·.span.start)).Nodup := by
  rw [List.map_flatMap, List.nodup_iff_pairwise_ne, List.pairwise_flatMap]
  refine ⟨hnodup, hapart.imp_of_mem fun {a b} ha hb hab => ?_⟩
  simp only [List.mem_map]
  rintro _ ⟨x, hx, rfl⟩ _ ⟨y, hy, rfl⟩
  obtain ⟨hx, hxa⟩ := hin a ha x hx
  obtain ⟨hy, hyb⟩ := hin b hb y hy
  exact (hab.mono hxa hyb).start_ne hx hy

theorem Nested.unshared {t : Text} {o : Outline} (h : o.Nested t) : o.Unshared := by
  induction o using value_induction with
  | step o ih =>
    refine List.nodup_cons.mpr ⟨fun hmem => ?_, ?_⟩
    · -- The properties stand behind the left brace, where the literal starts.
      obtain ⟨x, hx, hstart⟩ := List.mem_map.mp hmem
      obtain ⟨p, hp, hx⟩ := mem_outlinesIn.mp hx
      have hstart : x.span.start = o.span.start := hstart
      have hafter := (h.braced.between p hp).after
      have hwithin := (h.within_property hp hx).1
      omega
    · rw [outlinesIn_eq]
      refine nodup_starts_flatMap (fun p hp x hx => ?_) (fun p hp => ?_)
        (h.braced.ordered.imp fun hpq => .inl hpq)
      · have hmem : x ∈ o.outlines := List.mem_cons_of_mem o (mem_outlinesIn.mpr ⟨p, hp, hx⟩)
        exact ⟨(h x hmem).start_lt_stop, h.within_property hp hx⟩
      · cases hv : p.outlines with
        | nil => exact .nil
        | cons x xs =>
          obtain ⟨v, hvalue, -⟩ := exists_value (hv ▸ List.mem_cons_self)
          rw [← hv, outlines_of_object hvalue]
          exact ih p hp v hvalue (h.value hp hvalue)

end Outline

end StoryExports
