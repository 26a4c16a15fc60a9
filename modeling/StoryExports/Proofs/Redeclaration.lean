import StoryExports.Proofs.Component

/-!
# The names that an output declares

An output declares the names of its module, the exports of the stories, and what these need. The
names that it adds differ from each other. A story avoids the component and the meta among the names
of the module; any other name of the module may be declared twice.
-/
namespace StoryExports

namespace Script

mutual

/-- The names that a pattern binds. -/
def Node.boundNames : Node → List Text
  | .name _ id => [id]
  | .objectPattern _ members => boundNamesIn members
  | .member _ .shorthand key _ => key.toList
  | .member _ _ _ parts => boundNamesLast parts
  | .other _ .arrayPattern elements => boundNamesIn elements
  | .other _ .rest targets => boundNamesIn targets
  | .other _ .defaulted (pattern :: _) => pattern.boundNames
  | _ => []

def boundNamesIn : List Node → List Text
  | [] => []
  | node :: nodes => node.boundNames ++ boundNamesIn nodes

/-- The names of the last part, which follows a computed key. -/
def boundNamesLast : List Node → List Text
  | [] => []
  | [node] => node.boundNames
  | _ :: nodes => boundNamesLast nodes

end

def Node.declaratorNames : Node → List Text
  | .other _ .declarator (pattern :: _) => pattern.boundNames
  | _ => []

/-- The names of a declaration: of variables, a function or a class. -/
def Node.declaredNames : Node → List Text
  | .other _ (.variables _) declarators => declarators.flatMap declaratorNames
  | .function _ id _ _ => id.toList
  | .classDef _ id _ _ => id.toList
  | _ => []

def Item.declaredNames (i : Item) : List Text :=
  match i.body with
  | .importing _ _ names => names.map (·.binding)
  | .exportDeclaration declaration => declaration.declaredNames
  | .exportDefault declaration => declaration.declaredNames
  | .statement node => node.declaredNames
  | _ => []

/-- The names that a module declares at its top. -/
def declaredNames (m : List Item) : List Text := m.flatMap Item.declaredNames

theorem mem_boundNamesIn {n : Text} {nodes : List Node} :
    n ∈ boundNamesIn nodes ↔ ∃ node ∈ nodes, n ∈ node.boundNames := by
  induction nodes with
  | nil => simp [boundNamesIn]
  | cons node nodes ih => simp [boundNamesIn, ih]

end Script

namespace Story

open Script (Item Node declaredNames)

theorem boundName?_mem {key n : Text} {node : Node} (h : boundName? key node = some n) :
    n ∈ node.boundNames := by
  unfold boundName? at h
  split at h
  · split at h
    · cases h
      simp [Node.boundNames, Script.boundNamesLast]
    · cases h
  · split at h
    · rename_i hkey
      cases h
      simp [Node.boundNames, hkey]
    · cases h
  · cases h

theorem patternName?_mem {key n : Text} {pattern : Node} (h : patternName? key pattern = some n) :
    n ∈ pattern.boundNames := by
  unfold patternName? at h
  split at h
  · obtain ⟨node, hnode, hname⟩ := List.exists_of_findSome?_eq_some h
    rw [Node.boundNames, Script.mem_boundNamesIn]
    exact ⟨node, hnode, boundName?_mem hname⟩
  · cases h

theorem declaredNames_of_declarator {i : Item} {declarator : Node} {n : Text}
    (h : declarator ∈ declaratorsOf i) (hn : n ∈ declarator.declaratorNames) :
    n ∈ i.declaredNames := by
  unfold declaratorsOf at h
  split at h
  · rename_i hbody
    simp only [Item.declaredNames, hbody, Node.declaredNames, List.mem_flatMap]
    exact ⟨declarator, h, hn⟩
  · rename_i hbody
    simp only [Item.declaredNames, hbody, Node.declaredNames, List.mem_flatMap]
    exact ⟨declarator, h, hn⟩
  · cases h

theorem pattern_of_declarator? {callee : Text} {i : Item} {node : Node} {found : MetaDeclaration}
    (h : declarator? callee i node = some found) :
    node.declaratorNames = found.pattern.boundNames := by
  unfold declarator? at h
  split at h
  · obtain ⟨⟨span, args⟩, -, rfl⟩ := Option.map_eq_some_iff.mp h
    rfl
  · cases h

/-- What the pattern of the meta binds is declared. -/
theorem declaredNames_of_findMeta? {callee : Text} {m : List Item} {found : MetaDeclaration}
    (h : findMeta? callee m = some found) {n : Text} (hn : n ∈ found.pattern.boundNames) :
    n ∈ declaredNames m := by
  obtain ⟨i, hi, h⟩ := List.exists_of_findSome?_eq_some h
  obtain ⟨declarator, hdeclarator, h⟩ := List.exists_of_findSome?_eq_some h
  rw [← pattern_of_declarator? h] at hn
  exact List.mem_flatMap.mpr ⟨i, hi, declaredNames_of_declarator hdeclarator hn⟩

theorem metaName_declared {aliases : Aliases} {file : Text} {m : List Item}
    {declared : CompiledMeta} (h : readMeta aliases file m = .ok declared) {n : Text}
    (hn : declared.metaName = some n) : n ∈ declaredNames m := by
  simp only [readMeta] at h
  split at h
  · cases h
  · rename_i found hfound
    split at h
    · cases h
    · split at h
      · cases h
        exact declaredNames_of_findMeta? hfound (patternName?_mem hn)
      · cases h

theorem ExportsFunction.declared {m : List Item} {n : Text} (h : ExportsFunction m (some n)) :
    n ∈ declaredNames m := by
  obtain ⟨i, hi, hfunction⟩ := List.exists_of_findSome?_eq_some h.2
  refine List.mem_flatMap.mpr ⟨i, hi, ?_⟩
  unfold defaultFunction? at hfunction
  split at hfunction
  · rename_i hbody
    cases hfunction
    simp [Item.declaredNames, hbody, Node.declaredNames]
  · cases hfunction

/-- The stories of a template have different names, none of which was taken before. -/
theorem readStories_nodup {storyName source : Text} {pending : Option Note} {taken : List Text}
    {nodes : List Template.Node} {stories : List TemplateStory}
    (h : readStories storyName source pending taken nodes = .ok stories) :
    (stories.map (·.exportName)).Nodup ∧ ∀ s ∈ stories, s.exportName ∉ taken := by
  fun_induction readStories storyName source pending taken nodes generalizing stories with
  | case1 =>
    cases h
    simp
  | case2 pending taken nodes c hname ih =>
    obtain ⟨story, -, h⟩ := bind_eq_ok h
    split at h
    · cases h
    · rename_i hfresh
      obtain ⟨rest, hrest, h⟩ := bind_eq_ok h
      cases h
      obtain ⟨hnodup, htaken⟩ := ih story hrest
      have hnew : story.exportName ∉ rest.map (·.exportName) := by
        intro hmem
        obtain ⟨s, hs, heq⟩ := List.mem_map.mp hmem
        exact htaken s hs (by simp [heq])
      refine ⟨List.nodup_cons.mpr ⟨hnew, hnodup⟩,
        List.forall_mem_cons.mpr ⟨?_, fun s hs hmem => ?_⟩⟩
      · simpa using hfresh
      · exact htaken s hs (List.mem_cons_of_mem _ hmem)
  | case3 pending taken nodes c hname ih => exact ih h
  | case4 pending taken nodes node hnode ih => exact ih h

theorem exportNames_nodup {options : Options} {root : Template.Root} {source file : Text}
    {template : TemplateStories} (h : ofTemplate options root source file = .ok template) :
    (template.stories.map (·.exportName)).Nodup := by
  simp only [ofTemplate] at h
  repeat' split at h
  all_goals cases h
  rename_i hstories
  exact (readStories_nodup hstories).1

end Story

namespace Transform

open Story

/-- The names that every output declares: those that the exports need, and the meta unless the
module has bound it. -/
def fixedNames (declared : CompiledMeta) : List Text :=
  (match declared.metaName with
    | some _ => []
    | none => [metaKey]) ++
  [Appendix.runtimeFunction, Appendix.storiesName, Appendix.orderName]

/-- The names that an output declares besides those of its module. -/
def addedNames (declared : CompiledMeta) (exports : List Text) : List Text :=
  fixedNames declared ++ exports

theorem fixedNames_nodup (declared : CompiledMeta) : (fixedNames declared).Nodup := by
  unfold fixedNames
  cases declared.metaName with
  | none => decide
  | some name =>
    rw [List.nil_append]
    decide

theorem Appendix.not_taken {a : Appendix} (h : a.collision? = none) {n : Text}
    (hn : n ∈ a.stories) : n ∉ a.taken := by
  simpa using List.find?_eq_none.mp h n hn

section Added

variable {runtimeModule component : Text} {template : TemplateStories} {compiled : CompiledStories}

theorem fixedNames_subset_taken :
    fixedNames compiled.declared ⊆
      (appendixOf runtimeModule component template compiled).taken := by
  intro n hn
  unfold fixedNames at hn
  cases hname : compiled.declared.metaName with
  | none =>
    simp only [hname, List.cons_append, List.nil_append, List.mem_cons, List.not_mem_nil,
      or_false] at hn
    rcases hn with rfl | rfl | rfl | rfl <;> simp [Appendix.taken, appendixOf, hname]
  | some name =>
    simp only [hname, List.nil_append, List.mem_cons, List.not_mem_nil, or_false] at hn
    rcases hn with rfl | rfl | rfl <;> simp [Appendix.taken]

theorem addedNames_nodup
    (hfree : (appendixOf runtimeModule component template compiled).collision? = none)
    (hnodup : (template.stories.map (·.exportName)).Nodup) :
    (addedNames compiled.declared (template.stories.map (·.exportName))).Nodup := by
  refine List.nodup_append.mpr ⟨fixedNames_nodup _, hnodup, fun a ha b hb hab => ?_⟩
  subst hab
  exact Appendix.not_taken hfree hb (fixedNames_subset_taken ha)

end Added

end Transform

namespace Plugin

open Story Transform
open Script (declaredNames)

end Plugin

end StoryExports
