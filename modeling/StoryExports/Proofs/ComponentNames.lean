import Mathlib.Data.List.Forall2
import Mathlib.Data.List.TakeWhile
import StoryExports.Proofs.Capitals
import StoryExports.Proofs.Indentation
import StoryExports.Proofs.Occurrences

/-!
# Names of components

The name of a component can be declared, and as a module id it names itself. It depends on the path
of the module only: a query or a fragment has no part in it, and `\` separates directories as `/`
does.
-/
namespace StoryExports.Name

/-- A path with some of its `/` turned into `\`. -/
def Backslashed (path path' : Text) : Prop :=
  List.Forall₂ (fun c d => d = c ∨ c = '/' ∧ d = '\\') path path'

/-! ### Paths of ids -/

section Paths

variable {path path' query : Text} {mark : Char}

/-- Whether a character neither starts a query nor a fragment. -/
def inPath (c : Char) : Bool := c != '?' && c != '#'

/-- An id up to its query or fragment, with `/` between directories. -/
def slashedPath (id : Text) : Text :=
  (id.takeWhile inPath).map fun c => if c = '\\' then '/' else c

theorem idPath_eq (id : Text) : idPath id =
    (Text.stripStart? (slashedPath id) "file://".toList).getD (slashedPath id) := rfl

theorem component?_congr {id id' : Text} (h : slashedPath id = slashedPath id') :
    component? id = component? id' := by
  rw [component?, component?, idPath_eq, idPath_eq, h]

theorem inPath_of_not_mem (hquery : '?' ∉ path) (hfragment : '#' ∉ path) :
    ∀ c ∈ path, inPath c = true := by
  intro c hc
  have hc₁ : c ≠ '?' := by rintro rfl; exact hquery hc
  have hc₂ : c ≠ '#' := by rintro rfl; exact hfragment hc
  simp [inPath, hc₁, hc₂]

theorem slashedPath_append (hpath : ∀ c ∈ path, inPath c = true) (hmark : inPath mark = false) :
    slashedPath (path ++ mark :: query) = slashedPath path := by
  rw [slashedPath, slashedPath, List.takeWhile_append_of_pos hpath,
    List.takeWhile_cons_of_neg (by simp [hmark]), List.append_nil,
    List.takeWhile_eq_self_iff.mpr hpath]

theorem Backslashed.slashedPath_eq (h : Backslashed path path') :
    slashedPath path' = slashedPath path := by
  induction h with
  | nil => rfl
  | @cons c d path path' hcd _ ih =>
    unfold slashedPath at ih ⊢
    rcases hcd with rfl | ⟨rfl, rfl⟩
    · rw [List.takeWhile_cons, List.takeWhile_cons]
      split
      · rw [List.map_cons, List.map_cons, ih]
      · rfl
    · exact congrArg ('/' :: ·) ih

end Paths

/-! ### Names as ids -/

section Names

variable {name : Text}

/-- A name has no character that has a meaning in a path. -/
theorem not_mem_of_isIdentifier (h : isIdentifier name = true) {c : Char}
    (hc : isNamePart c = false) : c ∉ name := fun hmem => by
  rw [isNamePart_of_isIdentifier h c hmem] at hc
  cases hc

theorem slashedPath_of_isIdentifier (h : isIdentifier name = true) : slashedPath name = name := by
  have hpath : name.takeWhile inPath = name := List.takeWhile_eq_self_iff.mpr
    (inPath_of_not_mem (not_mem_of_isIdentifier h rfl) (not_mem_of_isIdentifier h rfl))
  have hslashes : ∀ c ∈ name, (if c = '\\' then '/' else c) = c := fun c hc => by
    rw [if_neg (by rintro rfl; exact not_mem_of_isIdentifier h rfl hc)]
  rw [slashedPath, hpath, List.map_congr_left hslashes, List.map_id']

theorem idPath_of_isIdentifier (h : isIdentifier name = true) : idPath name = name := by
  rw [idPath_eq, slashedPath_of_isIdentifier h]
  cases hstrip : Text.stripStart? name "file://".toList with
  | none => rfl
  | some rest =>
    rw [Text.stripStart?_eq_some_iff] at hstrip
    have hcolon : ':' ∈ name := by simp [hstrip]
    exact absurd hcolon (not_mem_of_isIdentifier h rfl)

theorem stripEnd?_of_isIdentifier (h : isIdentifier name = true) :
    name.stripEnd? ".svelte".toList = none := by
  refine Option.map_eq_none_iff.mpr (Option.eq_none_iff_forall_ne_some.mpr fun rest hrest => ?_)
  rw [Text.stripStart?_eq_some_iff, List.reverse_eq_iff] at hrest
  have hdot : '.' ∈ name := by simp [hrest]
  exact not_mem_of_isIdentifier h rfl hdot

theorem Capitalised.componentStem_eq (h : Capitalised name) : componentStem name = name := by
  have hparts : Text.splitOn (· == '/') name = [name] := Text.splitOn_of_forall fun _ hc =>
    beq_false_of_ne fun heq => not_mem_of_isIdentifier h.identifier rfl (heq ▸ hc)
  have hindex : name ≠ "index".toList := by
    rintro rfl
    cases h.capital 'i' rfl
  unfold componentStem
  rw [hparts, List.reverse_singleton]
  simp only [stripEnd?_of_isIdentifier h.identifier, Option.getD_none, if_neg hindex]

/-- A capitalised name that has more than underscores names itself. -/
theorem Capitalised.component?_eq (h : Capitalised name) (hsolid : ∃ c ∈ name, c ≠ '_') :
    component? name = some name := by
  have hparts := isNamePart_of_isIdentifier h.identifier
  have hkept : ∀ c ∈ name, (if isNamePart c then c else '_') = c := fun c hc => if_pos (hparts c hc)
  have hnot : name.all (· == '_') = false := by simpa using hsolid
  rw [component?, idPath_of_isIdentifier h.identifier, h.componentStem_eq]
  cases name with
  | nil => cases h.identifier
  | cons c rest =>
    have hupper : upperCase c = [c] := upperCase_of_not_isLower
      (toNat_lt_of_isNamePart (hparts c List.mem_cons_self)) (h.capital c rfl)
    simp only [hupper, List.singleton_append, List.map_congr_left hkept, List.map_id', hnot,
      guardDigit_of_isIdentifier h.identifier, Bool.false_eq_true, if_false]

/-- The name that is made of a stem: every character that no name can hold becomes `_`. -/
def spelled (stem : Text) : Text := stem.map fun c => if isNamePart c then c else '_'

theorem isNamePart_of_mem_spelled {stem : Text} : ∀ c ∈ spelled stem, isNamePart c = true := by
  refine List.forall_mem_map.mpr fun c _ => ?_
  split
  · assumption
  · rfl

theorem not_isLower_head_spelled (first : Char) (rest : Text) :
    ∀ c ∈ (spelled (upperCase first ++ rest)).head?, c.isLower = false := by
  obtain ⟨d, more, hupper⟩ := List.exists_cons_of_ne_nil (upperCase_ne_nil first)
  have hd : d.isLower = false := not_isLower_of_mem_upperCase (hupper ▸ List.mem_cons_self)
  rw [hupper]
  rintro _ ⟨⟩
  show (if isNamePart d then d else '_').isLower = false
  split
  · exact hd
  · rfl

theorem mem_guardDigit {c : Char} (h : c ∈ name) : c ∈ guardDigit name := by
  cases name with
  | nil => exact h
  | cons d rest =>
    rw [guardDigit]
    split
    · exact List.mem_cons_of_mem _ h
    · exact h

/-- The name of a component is capitalised and has more than underscores. -/
theorem capitalised_of_component? {id : Text} (h : component? id = some name) :
    Capitalised name ∧ ∃ c ∈ name, c ≠ '_' := by
  rw [component?] at h
  split at h
  next => cases h
  next first rest hstem =>
    obtain ⟨hsolid, hname⟩ : ¬(spelled (upperCase first ++ rest)).all (· == '_') = true ∧
        some (guardDigit (spelled (upperCase first ++ rest))) = some name :=
      Option.ite_none_left_eq_some.mp h
    cases hname
    obtain ⟨c, hc, hne⟩ : ∃ c ∈ spelled (upperCase first ++ rest), c ≠ '_' := by simpa using hsolid
    exact ⟨capitalised_guardDigit (List.ne_nil_of_mem hc) isNamePart_of_mem_spelled
      (not_isLower_head_spelled first rest), c, mem_guardDigit hc, hne⟩

end Names

/-- The name of a component can be declared and names itself, and no query, fragment or separator of
directories changes it. -/
theorem component?_declarable :
    (∀ id name, component? id = some name →
      isBindable name = true ∧ component? name = some name) ∧
    (∀ path query, '?' ∉ path → '#' ∉ path →
      component? (path ++ '?' :: query) = component? path ∧
        component? (path ++ '#' :: query) = component? path) ∧
    ∀ path path', Backslashed path path' → component? path' = component? path := by
  refine ⟨fun id name h => ?_, fun path query hquery hfragment => ?_, fun path path' h => ?_⟩
  · obtain ⟨hcapital, hsolid⟩ := capitalised_of_component? h
    exact ⟨hcapital.isBindable, hcapital.component?_eq hsolid⟩
  · have hpath := inPath_of_not_mem hquery hfragment
    exact ⟨component?_congr (slashedPath_append hpath rfl),
      component?_congr (slashedPath_append hpath rfl)⟩
  · exact component?_congr h.slashedPath_eq

/-- One `/` turned into `\`. -/
theorem backslashed_append (before after : Text) :
    Backslashed (before ++ '/' :: after) (before ++ '\\' :: after) := by
  have hsame : ∀ t : Text, Backslashed t t := fun t => List.forall₂_same.mpr fun _ _ => .inl rfl
  exact List.rel_append (hsame before) (.cons (.inr ⟨rfl, rfl⟩) (hsame after))

/-- An id whose stem starts with a letter that becomes two, and holds characters of no name. -/
def sharpId : Text := "file:/".toList ++ '/' :: "/c/ßx-1.stories.svelte".toList

theorem component?_sharpId :
    component? sharpId = some "SSx_1_stories".toList ∧
      isBindable "SSx_1_stories".toList = true ∧
      component? "SSx_1_stories".toList = some "SSx_1_stories".toList ∧
      component? (sharpId ++ '#' :: "/a?b".toList) = component? sharpId ∧
      component? ("file:/".toList ++ '\\' :: "/c/ßx-1.stories.svelte".toList) =
        component? sharpId := by
  have hname : component? sharpId = some "SSx_1_stories".toList := rfl
  obtain ⟨hnames, hqueries, hseparators⟩ := component?_declarable
  obtain ⟨hbindable, hself⟩ := hnames _ _ hname
  exact ⟨hname, hbindable, hself, (hqueries _ _ (by decide) (by decide)).2,
    hseparators _ _ (backslashed_append _ _)⟩

end StoryExports.Name
