import StoryExports.Proofs.Outputs

/-!
# The component of an output

The runtime is given the component by its name. A module has an output only if its one default
export is a function with a body. The name is that of the function; where the function has none, it
is made from the file, and then nothing declares it.
-/
namespace StoryExports

namespace Transform.Appendix

theorem join_lines_infix (a : Appendix) (code : Text) :
    Text.join ['\n'] a.lines ++ ['\n'] <:+: a.textAfter code := by
  simp only [textAfter]
  split
  · exact List.infix_refl _
  · exact (List.suffix_cons _ _).isInfix

theorem runtimeLine_eq (a : Appendix) :
    a.runtimeLine = "const __stories = createRuntimeStories(".toList ++ a.component ++
      ", ".toList ++ a.metaName ++ ");".toList := by
  have hcall : "const ".toList ++ storiesName ++ " = ".toList ++ runtimeFunction ++ ['('] =
    "const __stories = createRuntimeStories(".toList := rfl
  unfold runtimeLine
  rw [← hcall]
  simp only [List.append_assoc, List.cons_append, List.nil_append]

/-- The call of the runtime has a line for itself. -/
theorem runtimeLine_infix (a : Appendix) (code : Text) :
    '\n' :: a.runtimeLine ++ ['\n'] <:+: a.textAfter code := by
  have hlines : Text.join ['\n'] a.lines =
      ('\n' :: a.importLine) ++ ('\n' :: a.runtimeLine ++ ['\n']) ++
        Text.join ['\n'] ([a.defaultLine] ++ a.stories.map storyLine ++ [a.orderLine]) := by
    simp [lines, Text.join]
  have hline : '\n' :: a.runtimeLine ++ ['\n'] <:+: Text.join ['\n'] a.lines := by
    rw [hlines]
    exact List.infix_append _ _ _
  exact hline.trans ((List.prefix_append _ _).isInfix.trans (a.join_lines_infix code))

end Transform.Appendix

namespace Story

open Script (Item Node)

/-- The name of a function with a body that an item exports as the default. -/
def defaultFunction? (i : Item) : Option (Option Text) :=
  match i.body with
  | .exportDefault (.function _ name _ (some _)) => some name
  | _ => none

/-- The only default export of a module is a function with a body. -/
def ExportsFunction (m : List Item) (name : Option Text) : Prop :=
  defaultCount m = 1 ∧ m.findSome? defaultFunction? = some name

instance (m : List Item) (name : Option Text) : Decidable (ExportsFunction m name) :=
  inferInstanceAs (Decidable (_ ∧ _))

section Reading

variable {options : Options} {file : Text} {m : List Item}

theorem findDefault_eq_ok {span : Span} {declaration : Node}
    (h : findDefault file m = .ok (span, declaration)) :
    defaultCount m = 1 ∧ m.findSome? defaultDeclaration? = some (span, declaration) := by
  simp only [findDefault] at h
  split at h
  · cases h
  · rename_i hcount
    split at h
    · rename_i found hfound
      cases h
      exact ⟨hcount, hfound⟩
    · cases h
  · cases h

theorem body_of_defaultDeclaration? {i : Item} {span : Span} {declaration : Node}
    (h : defaultDeclaration? i = some (span, declaration)) :
    i.body = .exportDefault declaration := by
  unfold defaultDeclaration? at h
  split at h
  · cases h
    assumption
  · cases h

theorem defaultFunction?_eq_none {i : Item} (h : defaultDeclaration? i = none) :
    defaultFunction? i = none := by
  unfold defaultFunction?
  split
  · rename_i hbody
    simp [defaultDeclaration?, hbody] at h
  · rfl

theorem readComponent_eq_ok {span : Span} {declaration : Node} {component : DefaultExport}
    {body : List Node} (h : readComponent file span declaration = .ok (component, body)) :
    ∃ s params, declaration = .function s component.functionName params (some body) := by
  unfold readComponent at h
  split at h
  · cases h
    exact ⟨_, _, rfl⟩
  · cases h
  · cases h

theorem ofCompiled_eq_ok {compiled : CompiledStories}
    (h : ofCompiled options m file = .ok compiled) :
    ∃ span declaration body, findDefault file m = .ok (span, declaration) ∧
      readMeta (Aliases.ofModule options m) file m = .ok compiled.declared ∧
      readComponent file span declaration = .ok (compiled.component, body) := by
  simp only [ofCompiled] at h
  split at h
  · cases h
  · obtain ⟨⟨span, declaration⟩, hdefault, h⟩ := bind_eq_ok h
    obtain ⟨declared, hdeclared, h⟩ := bind_eq_ok h
    obtain ⟨⟨component, body⟩, hcomponent, h⟩ := bind_eq_ok h
    split at h
    · cases h
      exact ⟨span, declaration, body, hdefault, hdeclared, hcomponent⟩
    · cases h

theorem exportsFunction_of_ofCompiled {compiled : CompiledStories}
    (h : ofCompiled options m file = .ok compiled) :
    ExportsFunction m compiled.component.functionName := by
  obtain ⟨span, declaration, body, hdefault, -, hcomponent⟩ := ofCompiled_eq_ok h
  obtain ⟨hcount, hfound⟩ := findDefault_eq_ok hdefault
  obtain ⟨s, params, rfl⟩ := readComponent_eq_ok hcomponent
  obtain ⟨before, i, after, hsplit, hi, hbefore⟩ := List.findSome?_eq_some_iff.mp hfound
  refine ⟨hcount, List.findSome?_eq_some_iff.mpr ⟨before, i, after, hsplit, ?_, fun j hj => ?_⟩⟩
  · simp [defaultFunction?, body_of_defaultDeclaration? hi]
  · exact defaultFunction?_eq_none (hbefore j hj)

end Reading

end Story

namespace Plugin

open Story Transform

/-- A file that exports a class. -/
def classFile : Input :=
  { storiesFile ['A'] "One".toList with compiled := "export default class A\x7b\x7d".toList }

end Plugin

end StoryExports
