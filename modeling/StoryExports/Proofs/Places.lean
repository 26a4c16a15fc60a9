import StoryExports.Outline.Basic
import Mathlib.Data.List.Pairwise

/-!
# Paths through literals

Where a path of keys leads in the literals of the author, and which literals there are.
-/
namespace StoryExports

mutual

/-- The literals in a value, from the left to the right. -/
def PropertyValue.outlines : PropertyValue → List Outline
  | .object span properties => ⟨span, properties⟩ :: outlinesIn properties
  | .string _ => []
  | .other => []

def outlinesIn : List (Property PropertyValue) → List Outline
  | [] => []
  | p :: ps => Property.outlines p ++ outlinesIn ps

def Property.outlines : Property PropertyValue → List Outline
  | ⟨_, _, value⟩ => value.outlines

end

namespace Outline

/-- A literal with all literals inside it. -/
def outlines (o : Outline) : List Outline := o :: outlinesIn o.properties

theorem self_mem_outlines (o : Outline) : o ∈ o.outlines := by simp [outlines]

theorem mem_outlinesIn {o : Outline} {ps : List (Property PropertyValue)} :
    o ∈ outlinesIn ps ↔ ∃ p ∈ ps, o ∈ p.outlines := by
  induction ps with
  | nil => simp [outlinesIn]
  | cons p ps ih => simp [outlinesIn, ih]

theorem outlines_of_object {p : Property PropertyValue} {span : Span}
    {properties : List (Property PropertyValue)} (h : p.value = .object span properties) :
    p.outlines = outlines ⟨span, properties⟩ := by
  obtain ⟨key, pspan, value⟩ := p
  subst h
  rfl

theorem outlines_subset {o : Outline} {p : Property PropertyValue} {span : Span}
    {properties : List (Property PropertyValue)} (hp : p ∈ o.properties)
    (h : p.value = .object span properties) : outlines ⟨span, properties⟩ ⊆ o.outlines := by
  intro x hx
  refine List.mem_cons_of_mem o (mem_outlinesIn.mpr ⟨p, hp, ?_⟩)
  rwa [outlines_of_object h]

theorem mem_of_get? {o : Outline} {key : Text} {p : Property PropertyValue}
    (h : o.get? key = some p) : p ∈ o.properties ∧ p.key = some key :=
  ⟨List.mem_reverse.mp (List.mem_of_find?_eq_some h), by simpa using List.find?_some h⟩

/-- The property that the author has set at a path. -/
def property? (o : Outline) : List Text → Option (Property PropertyValue)
  | [] => none
  | [key] => o.get? key
  | key :: rest =>
    match o.get? key with
    | some ⟨_, _, .object span properties⟩ => property? ⟨span, properties⟩ rest
    | _ => none

/-- How far a path of keys can be followed through the literals of the author. -/
inductive Place
  /-- The path is empty. -/
  | itself
  /-- The author has set the path. -/
  | present (property : Property PropertyValue)
  /-- A literal does not have the first key of the rest of the path. -/
  | absent (object : Outline) (rest : List Text)
  /-- A property before the end of the path is not a literal. -/
  | blocked (property : Property PropertyValue)

def place (o : Outline) : List Text → Place
  | [] => .itself
  | key :: rest =>
    match o.get? key with
    | none => .absent o (key :: rest)
    | some p =>
      match rest with
      | [] => .present p
      | _ :: _ =>
        match p.value with
        | .object span properties => place ⟨span, properties⟩ rest
        | _ => .blocked p

/-- A missing key belongs to the literal itself or to one inside the property that the path enters
first. -/
theorem place_absent_cases {o object : Outline} {path rest : List Text}
    (h : o.place path = .absent object rest) :
    (object = o ∧ rest = path ∧ path ≠ []) ∨
      ∃ key tail p span properties, path = key :: tail ∧ o.get? key = some p ∧
        p.value = .object span properties ∧
        place ⟨span, properties⟩ tail = .absent object rest := by
  cases path with
  | nil => cases h
  | cons key tail =>
    cases hget : o.get? key with
    | none =>
      simp only [place, hget, Place.absent.injEq] at h
      exact .inl ⟨h.1.symm, h.2.symm, by simp⟩
    | some p =>
      cases tail with
      | nil => simp [place, hget] at h
      | cons next tail =>
        cases hvalue : p.value with
        | object span properties =>
          rw [place, hget] at h
          simp only [hvalue] at h
          exact .inr ⟨key, _, p, span, properties, rfl, hget, hvalue, h⟩
        | string s => simp [place, hget, hvalue] at h
        | other => simp [place, hget, hvalue] at h

theorem mem_of_place_absent {o object : Outline} {path rest : List Text}
    (h : o.place path = .absent object rest) :
    object ∈ o.outlines ∧ rest ≠ [] ∧ rest <:+ path := by
  induction path generalizing o with
  | nil => cases h
  | cons first others ih =>
    rcases place_absent_cases h with ⟨rfl, rfl, hne⟩ | ⟨key, tail, p, span, properties, hpath, hget,
      hvalue, hnested⟩
    · exact ⟨self_mem_outlines _, hne, List.suffix_refl _⟩
    · cases hpath
      obtain ⟨hmem, hne, hsuffix⟩ := ih hnested
      exact ⟨outlines_subset (mem_of_get? hget).1 hvalue hmem, hne,
        hsuffix.trans (List.suffix_cons _ _)⟩

theorem object_of_place_absent {o object : Outline} {path rest : List Text} {key : Text}
    (hkey : path.head? = some key) (h : o.place path = .absent object rest) :
    object = o ∨ ∃ p, o.get? key = some p ∧ object ∈ p.outlines := by
  rcases place_absent_cases h with ⟨rfl, -, -⟩ | ⟨first, tail, p, span, properties, rfl, hget,
    hvalue, hnested⟩
  · exact .inl rfl
  · obtain rfl : first = key := Option.some.inj hkey
    refine .inr ⟨p, hget, ?_⟩
    rw [outlines_of_object hvalue]
    exact (mem_of_place_absent hnested).1

theorem getElem?_of_position? {o : Outline} {key : Text} {i : Nat} (h : o.position? key = some i) :
    ∃ p, o.properties[i]? = some p ∧ p.key = some key := by
  obtain ⟨k, hk, rfl⟩ := Option.map_eq_some_iff.mp h
  obtain ⟨hlt, hp, -⟩ := List.findIdx?_eq_some_iff_getElem.mp hk
  rw [List.length_reverse] at hlt
  refine ⟨o.properties.reverse[k], ?_, by simpa using hp⟩
  rw [List.getElem_reverse, List.getElem?_eq_getElem]

theorem place_ne_itself {o : Outline} {path : List Text} (h : path ≠ []) :
    o.place path ≠ .itself := by
  fun_induction place o path with
  | case1 => exact absurd rfl h
  | case2 => simp
  | case3 => simp
  | case4 o key p hget next rest span properties hvalue ih => exact ih (by simp)
  | case5 => simp

theorem outlinesIn_eq (ps : List (Property PropertyValue)) :
    outlinesIn ps = ps.flatMap Property.outlines := by
  induction ps with
  | nil => rfl
  | cons p ps ih => simp [outlinesIn, ih]

/-- The literals inside `o`, itself included, start at different offsets. -/
def Unshared (o : Outline) : Prop := (o.outlines.map (·.span.start)).Nodup

theorem Unshared.not_mem {o : Outline} (h : o.Unshared) {p : Property PropertyValue}
    (hp : p ∈ o.properties) : o ∉ p.outlines := by
  intro hmem
  have hhead := (List.nodup_cons.mp h).1
  exact hhead (List.mem_map.mpr ⟨o, mem_outlinesIn.mpr ⟨p, hp, hmem⟩, rfl⟩)

theorem Unshared.eq_of_mem {o object : Outline} (h : o.Unshared) {p q : Property PropertyValue}
    (hp : p ∈ o.properties) (hq : q ∈ o.properties) (hop : object ∈ p.outlines)
    (hoq : object ∈ q.outlines) : p = q := by
  have htail := (List.nodup_cons.mp h).2
  rw [outlinesIn_eq, List.map_flatMap, List.nodup_iff_pairwise_ne, List.pairwise_flatMap] at htail
  have hsymm : Std.Symm fun a b : Property PropertyValue =>
      ∀ m ∈ a.outlines.map (·.span.start), ∀ n ∈ b.outlines.map (·.span.start), m ≠ n :=
    ⟨fun a b hab m hm n hn heq => hab n hn m hm heq.symm⟩
  by_contra hne
  exact htail.2.forall hp hq hne _ (List.mem_map_of_mem hop) _ (List.mem_map_of_mem hoq) rfl

theorem Unshared.nested {o : Outline} (h : o.Unshared) {p : Property PropertyValue} {span : Span}
    {properties : List (Property PropertyValue)} (hp : p ∈ o.properties)
    (hvalue : p.value = .object span properties) : Unshared ⟨span, properties⟩ := by
  have htail := (List.nodup_cons.mp h).2
  rw [outlinesIn_eq, List.map_flatMap, List.nodup_iff_pairwise_ne, List.pairwise_flatMap] at htail
  have hnested := htail.1 p hp
  rwa [outlines_of_object hvalue] at hnested

/-- Only one path leads to a missing key of a literal. -/
theorem Unshared.place_injective {o object : Outline} (h : o.Unshared)
    {path path' rest : List Text} (hpath : o.place path = .absent object rest)
    (hpath' : o.place path' = .absent object rest) : path = path' := by
  induction path generalizing o path' with
  | nil => cases hpath
  | cons first others ih =>
    rcases place_absent_cases hpath with ⟨hself, hrest, -⟩ | ⟨key, tail, p, span, properties,
      hsplit, hget, hvalue, hnested⟩ <;>
    rcases place_absent_cases hpath' with ⟨hself', hrest', -⟩ | ⟨key', tail', p', span',
      properties', rfl, hget', hvalue', hnested'⟩
    · exact hrest.symm.trans hrest'
    · have hmem := (mem_of_place_absent hnested').1
      rw [← outlines_of_object hvalue', hself] at hmem
      exact absurd hmem (h.not_mem (mem_of_get? hget').1)
    · have hmem := (mem_of_place_absent hnested).1
      rw [← outlines_of_object hvalue, hself'] at hmem
      exact absurd hmem (h.not_mem (mem_of_get? hget).1)
    · cases hsplit
      have hmem := (mem_of_place_absent hnested).1
      have hmem' := (mem_of_place_absent hnested').1
      rw [← outlines_of_object hvalue] at hmem
      rw [← outlines_of_object hvalue'] at hmem'
      obtain ⟨hp, hkey⟩ := mem_of_get? hget
      obtain ⟨hp', hkey'⟩ := mem_of_get? hget'
      -- Both paths enter the property that holds the literal, so they start with its key.
      obtain rfl := h.eq_of_mem hp hp' hmem hmem'
      obtain rfl : first = key' := Option.some.inj (hkey.symm.trans hkey')
      cases hvalue.symm.trans hvalue'
      rw [ih (h.nested hp hvalue) hnested hnested']

theorem property?_eq (o : Outline) (path : List Text) :
    o.property? path = match o.place path with
      | .present p => some p
      | _ => none := by
  fun_induction place o path with
  | case1 => rfl
  | case2 o key rest hget => cases rest <;> simp [property?, hget]
  | case3 o key p hget => simp [property?, hget]
  | case4 o key p hget next rest span properties hvalue ih =>
    obtain ⟨pkey, pspan, value⟩ := p
    subst hvalue
    simp [property?, hget, ih]
  | case5 o key p hget next rest hvalue =>
    obtain ⟨pkey, pspan, value⟩ := p
    cases value with
    | object span properties => exact absurd rfl (hvalue span properties)
    | string s => simp [property?, hget]
    | other => simp [property?, hget]

end Outline

end StoryExports
