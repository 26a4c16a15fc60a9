import StoryExports.Proofs.NewEntries
import StoryExports.Proofs.PatchTable
import StoryExports.Proofs.Places

/-!
# Objects with the properties added to them

What a path of keys leads to, once the author's properties and the added ones are seen together. The
author's come first: where a literal has a key, nothing that is added to it is looked at.
-/
namespace StoryExports

/-- What stands at a path: a property of the author, or an added value. -/
inductive Found
  | author (property : Property PropertyValue)
  | added (value : NewValue)

namespace Patch

/-- Add a value to a patch, unless there is one at the path. -/
def add (p : Patch) (path : List Text) (code : Text) : Patch :=
  { p with added := (NewValue.insert p.added path code).1 }

/-- Take a property out, once. -/
def drop (p : Patch) (i : Nat) : Patch :=
  if p.removed.contains i then p else { p with removed := p.removed ++ [i] }

@[simp] theorem add_object (p : Patch) (path : List Text) (code : Text) :
    (p.add path code).object = p.object := rfl

@[simp] theorem add_removed (p : Patch) (path : List Text) (code : Text) :
    (p.add path code).removed = p.removed := rfl

@[simp] theorem drop_object (p : Patch) (i : Nat) : (p.drop i).object = p.object := by
  unfold drop
  split <;> rfl

@[simp] theorem drop_added (p : Patch) (i : Nat) : (p.drop i).added = p.added := by
  unfold drop
  split <;> rfl

end Patch

namespace Patches

open Outline (Place)

/-- What a path leads to: each key is looked up in the literal of the author and, where it is absent
there, in the entries that are added to that literal. -/
def overlay (ps : Patches) (o : Outline) : List Text → Option Found
  | [] => none
  | key :: rest =>
    match o.get? key with
    | none => (NewValue.get? (ps.addedTo o) (key :: rest)).map .added
    | some p =>
      match rest with
      | [] => some (.author p)
      | _ :: _ =>
        match p.value with
        | .object span properties => overlay ps ⟨span, properties⟩ rest
        | _ => none

theorem overlay_eq (ps : Patches) (o : Outline) (path : List Text) :
    ps.overlay o path = match o.place path with
      | .itself => none
      | .present p => some (.author p)
      | .absent object rest => (NewValue.get? (ps.addedTo object) rest).map .added
      | .blocked _ => none := by
  induction path generalizing o with
  | nil => rfl
  | cons key rest ih =>
    cases hget : o.get? key with
    | none => simp [Outline.place, hget, overlay]
    | some p =>
      cases rest with
      | nil => simp [Outline.place, hget, overlay]
      | cons next rest =>
        cases hvalue : p.value with
        | object span properties =>
          simpa [Outline.place, hget, hvalue, overlay] using ih ⟨span, properties⟩
        | string s => simp [Outline.place, hget, hvalue, overlay]
        | other => simp [Outline.place, hget, hvalue, overlay]

theorem overlay_of_property? {ps : Patches} {o : Outline} {path : List Text}
    {property : Property PropertyValue} (h : o.property? path = some property) :
    ps.overlay o path = some (.author property) := by
  rw [Outline.property?_eq] at h
  rw [overlay_eq]
  split at h
  · rename_i p hplace
    cases h
    simp [hplace]
  · cases h

/-- The effect of `set` on the patch at an offset. -/
def setAt (o : Outline) (path : List Text) (code : Text) (n : Nat) (q : Option Patch) :
    Option Patch :=
  match o.place path with
  | .absent object rest =>
    if n = object.span.start then some ((q.getD ⟨object, [], []⟩).add rest code) else q
  | _ => q

theorem setAt_of_absent {o object : Outline} {path rest : List Text}
    (h : o.place path = .absent object rest) (code : Text) (n : Nat) (q : Option Patch) :
    setAt o path code n q =
      if n = object.span.start then some ((q.getD ⟨object, [], []⟩).add rest code) else q := by
  simp [setAt, h]

/-- The effect of `remove` on the patch at an offset. -/
def removeAt (o : Outline) (key : Text) (n : Nat) (q : Option Patch) : Option Patch :=
  match o.position? key with
  | some i => if n = o.span.start then some ((q.getD ⟨o, [], []⟩).drop i) else q
  | none => q

/-- A value is added where the literals of the author end, unless they hold the whole path. -/
theorem setBelow_spec (ps : Patches) (o : Outline) (walked path : List Text) (code : Text) :
    match o.place path with
    | .itself | .present _ => ps.setBelow o walked path code = .ok (ps, false)
    | .absent object rest =>
      let added := NewValue.insert (ps.addedTo object) rest code
      ps.setBelow o walked path code =
        .ok (ps.modify object fun p => { p with added := added.1 }, added.2)
    | .blocked p => ∃ keys,
        ps.setBelow o walked path code = .error (.notAnObject keys p.span.start) := by
  induction path generalizing o walked with
  | nil => rfl
  | cons key rest ih =>
    cases hget : o.get? key with
    | none => simp [Outline.place, hget, setBelow]
    | some p =>
      cases rest with
      | nil => simp [Outline.place, hget, setBelow]
      | cons next rest =>
        cases hvalue : p.value with
        | object span properties =>
          simpa [Outline.place, hget, hvalue, setBelow] using ih ⟨span, properties⟩ (key :: walked)
        | string s => simp [Outline.place, hget, hvalue, setBelow]
        | other => simp [Outline.place, hget, hvalue, setBelow]

theorem not_blocked_of_set {ps : Patches} {o : Outline} {path : List Text} {code : Text}
    {result : Patches × Bool} (h : ps.set o path code = .ok result) (p : Property PropertyValue) :
    o.place path ≠ .blocked p := by
  intro hplace
  have hspec := setBelow_spec ps o [] path code
  simp only [hplace] at hspec
  obtain ⟨keys, hspec⟩ := hspec
  simp [set, hspec] at h

/-- Setting a path updates the table at one offset at most. -/
theorem Ordered.set {ps ps' : Patches} (hps : ps.Ordered) {o : Outline} {path : List Text}
    {code : Text} {changed : Bool} (h : ps.set o path code = .ok (ps', changed)) :
    ps'.Ordered ∧ ∀ n, ps'.at? n = setAt o path code n (ps.at? n) := by
  have hspec := setBelow_spec ps o [] path code
  simp only [Patches.set] at h
  cases hplace : o.place path with
  | itself =>
    simp only [hplace, h, Except.ok.injEq, Prod.mk.injEq] at hspec
    exact ⟨hspec.1 ▸ hps, fun n => by simp [hspec.1, setAt, hplace]⟩
  | present p =>
    simp only [hplace, h, Except.ok.injEq, Prod.mk.injEq] at hspec
    exact ⟨hspec.1 ▸ hps, fun n => by simp [hspec.1, setAt, hplace]⟩
  | absent object rest =>
    simp only [hplace, h, Except.ok.injEq, Prod.mk.injEq] at hspec
    have hobject : ∀ p : Patch, { p with
        added := (NewValue.insert (ps.addedTo object) rest code).1 }.object = p.object :=
      fun _ => rfl
    rw [hspec.1]
    refine ⟨hps.modify hobject, fun n => ?_⟩
    rw [hps.at?_modify hobject, setAt_of_absent hplace]
    by_cases hn : n = object.span.start
    · subst hn
      rw [if_pos rfl, if_pos rfl, addedTo_eq]
      cases ps.at? object.span.start <;> rfl
    · rw [if_neg hn, if_neg hn]
  | blocked p =>
    simp only [hplace, h] at hspec
    obtain ⟨keys, hspec⟩ := hspec
    cases hspec

theorem Ordered.remove {ps : Patches} (hps : ps.Ordered) (o : Outline) (key : Text) :
    (ps.remove o key).1.Ordered ∧
      ∀ n, (ps.remove o key).1.at? n = removeAt o key n (ps.at? n) := by
  simp only [Patches.remove, removeAt]
  cases o.position? key with
  | none => exact ⟨hps, fun _ => rfl⟩
  | some i => exact ⟨hps.modify fun p => p.drop_object i, hps.at?_modify fun p => p.drop_object i⟩

/-- The offsets at which the patches of a literal and of the literals inside it can be. -/
def starts (o : Outline) : List Nat := o.outlines.map (·.span.start)

theorem setAt_of_not_mem {o : Outline} {n : Nat} (h : n ∉ starts o) (path : List Text)
    (code : Text) (q : Option Patch) : setAt o path code n q = q := by
  simp only [setAt]
  split
  · rename_i object rest hplace
    have hmem := (Outline.mem_of_place_absent hplace).1
    rw [if_neg fun hn => h (List.mem_map.mpr ⟨object, hmem, hn.symm⟩)]
  · rfl

theorem removeAt_of_not_mem {o : Outline} {n : Nat} (h : n ∉ starts o) (key : Text)
    (q : Option Patch) : removeAt o key n q = q := by
  simp only [removeAt]
  split
  · rw [if_neg fun hn => h (List.mem_map.mpr ⟨o, o.self_mem_outlines, hn.symm⟩)]
  · rfl

end Patches

end StoryExports
