import StoryExports.Proofs.HiddenComponent

/-!
# Transforming an output

The exports that a run appends start with an import from the runtime module. A file whose compiled
code is the output of a run is told from the others by that import. This takes that the output can
still be parsed and that the module ended between two tokens, so that the import is read as one. For
a component that starts a line, the text before it and the function itself tell whether it can.
-/
namespace StoryExports

namespace Story

open Script (Item Node)

variable {options : Options} {file : Text} {m : List Item}

/-- No step of the reader but the test for the import says that a module was transformed, and none
says that it cannot be parsed. -/
theorem ofCompiled_eq_error {e : Error} (h : ofCompiled options m file = .error e) :
    e ≠ .parse file ∧
      (e = .alreadyTransformed file → importsFrom options.runtimeModule m = true) := by
  simp only [ofCompiled] at h
  split at h
  · rename_i himport
    cases h
    exact ⟨by simp, fun _ => himport⟩
  rcases bind_eq_error h with hdefault | ⟨⟨span, declaration⟩, -, h⟩
  · simp only [findDefault] at hdefault
    repeat' split at hdefault
    all_goals cases hdefault
    all_goals simp
  rcases bind_eq_error h with hmeta | ⟨declared, -, h⟩
  · simp only [readMeta] at hmeta
    repeat' split at hmeta
    all_goals cases hmeta
    all_goals simp
  rcases bind_eq_error h with hcomponent | ⟨⟨component, body⟩, -, h⟩
  · simp only [readComponent] at hcomponent
    repeat' split at hcomponent
    all_goals cases hcomponent
    all_goals simp
  split at h <;> cases h
  simp

end Story

namespace Transform.Appendix

theorem importLine_infix (a : Appendix) (code : Text) :
    '\n' :: a.importLine <:+: a.textAfter code := by
  have hline : '\n' :: a.importLine <:+: Text.join ['\n'] a.lines ++ ['\n'] := by
    have hlines : Text.join ['\n'] a.lines = '\n' :: a.importLine ++ '\n' :: Text.join ['\n']
        ([a.runtimeLine, a.defaultLine] ++ a.stories.map storyLine ++ [a.orderLine]) := by
      simp [lines, Text.join]
    rw [hlines, List.append_assoc]
    exact (List.prefix_append _ _).isInfix
  simp only [textAfter]
  split
  · exact hline
  · exact hline.trans (List.suffix_cons _ _).isInfix

end Transform.Appendix

/-- A text of the output that is followed by an import from a module, at the start of a line. -/
def Output.BeforeImport (out : Output) (source body : Text) : Prop :=
  ∃ a : Transform.Appendix, a.runtimeModule = source ∧ body ++ '\n' :: a.importLine <+: out.code

namespace Plugin

open Story Transform

variable {p : Plugin} {i : Input} {out : Output}

theorem exists_beforeImport (h : p.transform i = .ok (some out)) :
    ∃ body, out.BeforeImport p.options.runtimeModule body := by
  obtain ⟨file, m, template, compiled, hproduces⟩ := produces_of_transform h
  obtain ⟨-, happended⟩ := appended_of_exportStories hproduces.exported
  obtain ⟨body, rest, hcode⟩ := (Appendix.importLine_infix _ _).trans happended
  exact ⟨body, _, rfl, rest, hcode⟩

/-- The second run on an output that can be parsed. -/
theorem rerun_eq_error {m : List Script.Item} {file : Text} {template : TemplateStories}
    {e : Error} (h : (do
      let compiled ← ofCompiled p.options m i.id
      let code ← exportStories i.id out.code p.options.runtimeModule
        (componentName file compiled.component) template compiled
      return some (⟨code, out.storyExports⟩ : Output)) = .error e) :
    e ≠ .parse i.id ∧
      (e = .alreadyTransformed i.id → importsFrom p.options.runtimeModule m = true) := by
  rcases bind_eq_error h with hread | ⟨compiled, -, h⟩
  · exact ofCompiled_eq_error hread
  rcases bind_eq_error h with hexport | ⟨_, -, h⟩
  · obtain ⟨_, rfl⟩ | ⟨_, rfl⟩ | ⟨_, rfl⟩ := exportStories_eq_error hexport
    all_goals simp
  · cases h

theorem importsFrom_of_beforeImport {source body : Text} {m : List Script.Item}
    (hbefore : out.BeforeImport source body) (hbody : Script.endsApart body = true)
    (hparse : Script.parseModule .javaScript out.code = some m) : importsFrom source m = true := by
  obtain ⟨a, rfl, rest, hcode⟩ := hbefore
  rw [← hcode, List.append_assoc, List.cons_append] at hparse
  exact importsFrom_of_parse hbody hparse

/-- The second run fails in one of two ways if the output cannot be parsed or imports from the
runtime module. -/
theorem rerun_iff (h : p.transform i = .ok (some out)) :
    (p.transform { i with compiled := out.code } = .error (.parse i.id) ↔
      Script.parseModule .javaScript out.code = none) ∧
    (p.transform { i with compiled := out.code } = .error (.alreadyTransformed i.id) ↔
      ∃ m, Script.parseModule .javaScript out.code = some m ∧
        importsFrom p.options.runtimeModule m = true) := by
  obtain ⟨file, m, template, compiled, -, hrerun⟩ := transform_recompiled h
  rw [hrerun out.code]
  cases hparse : Script.parseModule .javaScript out.code with
  | none => simp
  | some m' =>
    refine ⟨⟨fun herror => absurd rfl (rerun_eq_error herror).1, fun hnone => by cases hnone⟩,
      fun herror => ⟨m', rfl, (rerun_eq_error herror).2 rfl⟩, ?_⟩
    rintro ⟨m'', hm, himport⟩
    cases hm
    simp only [ofCompiled_of_importsFrom himport]
    rfl

/-- A module up to its component, and the component from its parenthesis on. -/
def moduleStart : Text := "import Tab from 't';const \x7bStory\x7d=defineMeta(\x7b\x7d);".toList

def functionEnd : Text := ")\x7bStory(a,\x7bname:'One'\x7d)\x7d".toList

/-- A file whose component starts a line. -/
def linesFile (component : Text) : Input :=
  { storiesFile component "One".toList with
    compiled := moduleStart ++ '\n' :: Script.defaultFunction component functionEnd }

/-- What binds the meta of the file. -/
def linesFileEdits : List Edit := [⟨⟨32, 32⟩, ", meta".toList⟩]

theorem startsLine_linesFile {p : Plugin} {component : Text}
    (h : (p.inside (linesFile component)).toOption = some (metaKey, linesFileEdits)) :
    p.StartsLine (linesFile component) moduleStart component functionEnd metaKey
      linesFileEdits where
  code := rfl
  alone := by decide +kernel
  inside := by
    cases hinside : p.inside (linesFile component) with
    | error e => rw [hinside] at h; cases h
    | ok found => rw [hinside] at h; exact congrArg _ (Option.some.inj h)
  apart := by
    intro e he
    rw [List.mem_singleton.mp he]
    exact .inl (by decide +kernel)

end Plugin

end StoryExports
