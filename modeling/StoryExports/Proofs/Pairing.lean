import Mathlib.Data.Nat.Find
import StoryExports.Proofs.Passes

/-!
# Stories paired by position

The stories of both sides are compared from the last position to the first. So they are paired
exactly if no two names at one position differ, and otherwise the last such position is reported.
-/
namespace StoryExports

namespace Story

section Backward

variable {α β : Type} {nameA : α → Option Text} {nameB : β → Option Text} {position : Nat}

/-- Two stories agree unless both have a name and the names differ. -/
def Agree (nameA : α → Option Text) (nameB : β → Option Text) (pair : α × β) : Prop :=
  ∀ x y, nameA pair.1 = some x → nameB pair.2 = some y → x = y

theorem pairBackward_of_agree {zs : List (α × β)} (h : ∀ z ∈ zs, Agree nameA nameB z) :
    pairBackward nameA nameB position zs = .ok zs.reverse := by
  induction zs generalizing position with
  | nil => rfl
  | cons z zs ih =>
    obtain ⟨hz, hzs⟩ := List.forall_mem_cons.mp h
    simp only [pairBackward, ih hzs, List.reverse_cons]
    cases hA : nameA z.1 with
    | none => rfl
    | some x =>
      cases hB : nameB z.2 with
      | none => rfl
      | some y =>
        obtain rfl := hz x y hA hB
        exact if_pos rfl

/-- Of several names that differ, those at the last position are reported. -/
theorem pairBackward_of_differ {before after : List (α × β)} {z : α × β} {x y : Text}
    (hx : nameA z.1 = some x) (hy : nameB z.2 = some y) (hne : x ≠ y)
    (hafter : ∀ z ∈ after, Agree nameA nameB z) :
    pairBackward nameA nameB position (before ++ z :: after) =
      .error (.name (position + before.length + 1) x y) := by
  induction before generalizing position with
  | nil =>
    simp only [List.nil_append, pairBackward, pairBackward_of_agree hafter, hx, hy]
    exact if_neg hne
  | cons w before ih =>
    have hposition : position + 1 + before.length = position + (w :: before).length := by
      rw [List.length_cons]
      omega
    simp only [List.cons_append, pairBackward, ih, hposition]
    rfl

end Backward

end Story

namespace Transform

open Story

variable {file : Text} {template : List TemplateStory} {compiled : List CompiledStory}

/-- At a position both sides have a name, and the names differ. -/
def NamesDiffer (template : List TemplateStory) (compiled : List CompiledStory) (i : Nat)
    (x y : Text) : Prop :=
  template[i]?.bind (·.name) = some x ∧ compiled[i]?.bind (·.name) = some y ∧ x ≠ y

theorem namesDiffer_iff {i : Nat} {x y : Text} : NamesDiffer template compiled i x y ↔
    ∃ z, (template.zip compiled)[i]? = some z ∧ z.1.name = some x ∧ z.2.name = some y ∧ x ≠ y := by
  simp only [NamesDiffer, Option.bind_eq_some_iff, List.getElem?_zip_eq_some]
  constructor
  · rintro ⟨⟨a, ha, hx⟩, ⟨b, hb, hy⟩, hne⟩
    exact ⟨(a, b), ⟨ha, hb⟩, hx, hy, hne⟩
  · rintro ⟨z, ⟨ha, hb⟩, hx, hy, hne⟩
    exact ⟨⟨z.1, ha, hx⟩, ⟨z.2, hb, hy⟩, hne⟩

theorem agree_iff : (∀ z ∈ template.zip compiled, Agree (·.name) (·.name) z) ↔
    ∀ i x y, ¬NamesDiffer template compiled i x y := by
  simp only [namesDiffer_iff, List.mem_iff_getElem?, Agree]
  constructor
  · rintro h i x y ⟨z, hz, hx, hy, hne⟩
    exact hne (h z ⟨i, hz⟩ x y hx hy)
  · rintro h z ⟨i, hz⟩ x y hx hy
    by_contra hne
    exact h i x y ⟨z, hz, hx, hy, hne⟩

theorem pairs_of_agree (hlength : template.length = compiled.length)
    (h : ∀ z ∈ template.zip compiled, Agree (·.name) (·.name) z) :
    pairs file template compiled = .ok (template.zip compiled).reverse := by
  simp only [pairs, correlate, if_pos hlength, pairBackward_of_agree h]

/-- The last position at which the names differ is reported. -/
theorem pairs_of_differ (hlength : template.length = compiled.length) {i : Nat} {x y : Text}
    (h : NamesDiffer template compiled i x y)
    (hlast : ∀ j x y, NamesDiffer template compiled j x y → j ≤ i) :
    pairs file template compiled = .error (.storyCorrelationMismatch file (.name (i + 1) x y)) := by
  obtain ⟨z, hz, hx, hy, hne⟩ := namesDiffer_iff.mp h
  obtain ⟨hi, rfl⟩ := List.getElem?_eq_some_iff.mp hz
  have hafter : ∀ w ∈ (template.zip compiled).drop (i + 1), Agree (·.name) (·.name) w := by
    intro w hw x' y' hx' hy'
    obtain ⟨j, hj⟩ := List.mem_iff_getElem?.mp hw
    rw [List.getElem?_drop] at hj
    by_contra hne'
    have := hlast _ x' y' (namesDiffer_iff.mpr ⟨w, hj, hx', hy', hne'⟩)
    omega
  have hreport : pairBackward (·.name) (·.name) 0 ((template.zip compiled).take i ++ _) = _ :=
    pairBackward_of_differ hx hy hne hafter
  rw [← List.drop_eq_getElem_cons hi, List.take_append_drop, List.length_take,
    Nat.min_eq_left (Nat.le_of_lt hi), Nat.zero_add] at hreport
  simp only [pairs, correlate, if_pos hlength, hreport]

/-- Where some names differ there is a last position at which they do. -/
theorem exists_last_differ {i : Nat} {x y : Text} (h : NamesDiffer template compiled i x y) :
    ∃ i x y, NamesDiffer template compiled i x y ∧
      ∀ j x y, NamesDiffer template compiled j x y → j ≤ i := by
  have hbound : ∀ j x y, NamesDiffer template compiled j x y → j ≤ template.length := by
    rintro j x y ⟨hx, -⟩
    obtain ⟨a, ha, -⟩ := Option.bind_eq_some_iff.mp hx
    exact Nat.le_of_lt (List.getElem?_eq_some_iff.mp ha).1
  classical
  obtain ⟨x', y', hlast⟩ := Nat.findGreatest_spec (P := fun j => ∃ x y, _)
    (hbound i x y h) ⟨x, y, h⟩
  exact ⟨_, x', y', hlast, fun j x y hj =>
    Nat.le_findGreatest (hbound j x y hj) ⟨x, y, hj⟩⟩

/-- Stories are paired by position or not at all. -/
theorem pairs_by_position (file : Text) (template : List TemplateStory)
    (compiled : List CompiledStory) :
    ((∃ found, pairs file template compiled = .ok found) ↔
      template.length = compiled.length ∧ ∀ i x y, ¬NamesDiffer template compiled i x y) ∧
    (∀ found, pairs file template compiled = .ok found →
      found.unzip = (template.reverse, compiled.reverse)) ∧
    (template.length ≠ compiled.length → pairs file template compiled =
      .error (.storyCorrelationMismatch file (.count template.length compiled.length))) ∧
    (template.length = compiled.length → (∃ i x y, NamesDiffer template compiled i x y) →
      ∃ i x y, NamesDiffer template compiled i x y ∧
        (∀ j x y, NamesDiffer template compiled j x y → j ≤ i) ∧
        pairs file template compiled =
          .error (.storyCorrelationMismatch file (.name (i + 1) x y))) := by
  refine ⟨⟨?_, ?_⟩, fun found hfound => ?_, fun hlength => ?_, fun hlength ⟨_, _, _, h⟩ => ?_⟩
  · rintro ⟨found, hfound⟩
    have hlength := (pairs_eq_ok hfound).1
    refine ⟨hlength, fun i x y h => ?_⟩
    obtain ⟨i, x, y, hdiffer, hlast⟩ := exists_last_differ h
    cases hfound.symm.trans (pairs_of_differ hlength hdiffer hlast)
  · rintro ⟨hlength, h⟩
    exact ⟨_, pairs_of_agree hlength (agree_iff.mpr h)⟩
  · obtain ⟨hlength, rfl⟩ := pairs_eq_ok hfound
    rw [List.unzip_eq_map, List.map_reverse, List.map_reverse,
      List.map_fst_zip (Nat.le_of_eq hlength), List.map_snd_zip (Nat.le_of_eq hlength.symm)]
  · simp only [pairs, correlate, if_neg hlength]
  · obtain ⟨i, x, y, hdiffer, hlast⟩ := exists_last_differ h
    exact ⟨i, x, y, hdiffer, hlast, pairs_of_differ hlength hdiffer hlast⟩

/-- Three stories of a template, the last one without a name. -/
def namedTemplate : List TemplateStory :=
  [some ['A'], some ['B'], none].map fun name => ⟨name, [], none, none, ⟨0, 0⟩⟩

def renamedCalls : List CompiledStory :=
  [some ['X'], some ['Y'], some ['Z']].map fun name => ⟨name, ⟨⟨0, 0⟩, []⟩, ⟨0, 0⟩⟩

theorem pairs_renamedCalls :
    NamesDiffer namedTemplate renamedCalls 0 ['A'] ['X'] ∧
      pairs ['f'] namedTemplate renamedCalls =
        .error (.storyCorrelationMismatch ['f'] (.name 2 ['B'] ['Y'])) := by
  have hfirst : NamesDiffer namedTemplate renamedCalls 0 ['A'] ['X'] := ⟨rfl, rfl, by decide⟩
  have hsecond : NamesDiffer namedTemplate renamedCalls 1 ['B'] ['Y'] := ⟨rfl, rfl, by decide⟩
  obtain ⟨-, -, -, hreport⟩ := pairs_by_position ['f'] namedTemplate renamedCalls
  obtain ⟨i, x, y, ⟨hx, hy, -⟩, hlast, hpairs⟩ := hreport rfl ⟨0, _, _, hfirst⟩
  refine ⟨hfirst, ?_⟩
  match i, hlast 1 _ _ hsecond with
  | 1, _ =>
    cases hx
    cases hy
    exact hpairs
  | 2, _ => cases hx
  | _ + 3, _ => cases hx

end Transform

end StoryExports
