import StoryExports.Proofs.AppendixItems
import StoryExports.Proofs.DefaultExports
import StoryExports.Proofs.EditPlan
import StoryExports.Proofs.JoinedTexts
import StoryExports.Proofs.ParsedStories
import StoryExports.Proofs.RenderedParts

/-!
# A component at the start of a line

Where the component is a function at the start of a line and the text before it stands alone, the
output of a run is the text before it, the function without its keywords and the appended exports,
with the edits inside of the module made in both texts. A function with a name can be read there,
and one without cannot.
-/
namespace StoryExports

namespace Transform

open Story Edit Script

variable {file runtimeModule component : Text} {template : TemplateStories}
  {compiled : CompiledStories} {ps : Patches}

/-- What a run changes in the literals of a module. -/
def literalPatches (file : Text) (template : TemplateStories) (compiled : CompiledStories) :
    Except Error Patches := do
  let stories ← pairs file template.stories compiled.stories
  let d ← stories.foldlM (Draft.describeStory file) (Draft.ofCode [])
  let d ← stories.foldlM (Draft.moveSource file) d
  let d ← d.describeComponent file template.declared compiled.declared
  return d.patches

theorem Planned.literalPatches_eq
    (h : Planned file runtimeModule component template compiled ps) :
    literalPatches file template compiled = .ok ps := by
  obtain ⟨stories, d₁, d₂, d₃, hpairs, hdescribe, hmove, hcomponent, rfl, -⟩ := h
  simp only [literalPatches, hpairs, hdescribe, hmove, hcomponent, bind, Except.bind]
  rfl

/-- The edits of a run inside of the module. -/
def innerEdits (compiled : CompiledStories) (ps : Patches) : List Edit :=
  metaEdits compiled.declared ++ ps.flatMap Patch.edits

section Line

variable {before name rest : Text}

theorem line_eq (before name rest : Text) :
    before ++ '\n' :: defaultFunction name rest =
      (before ++ ['\n']) ++ ("export default ".toList ++ (plainFunction name [] ++ rest)) := by
  rw [plainFunction_append, List.append_assoc, List.nil_append]
  rfl

theorem bytes_line (before name rest : Text) :
    (before ++ '\n' :: defaultFunction name rest).bytes =
      (before ++ ['\n']).bytes + Text.bytes "export default ".toList +
        (plainFunction name []).bytes + rest.bytes := by
  rw [line_eq]
  simp only [Text.bytes_append]
  omega

theorem bytes_plainFunction_pos (name : Text) : 0 < (plainFunction name []).bytes := by
  unfold plainFunction
  rw [Text.bytes_append]
  exact Nat.add_pos_left (by decide) _

/-- The keywords before the function go, the exports come behind the module, and all other edits are
made before the function or behind its first parenthesis. -/
theorem render_runEdits
    (hstart : compiled.component.span.start = (before ++ ['\n']).bytes)
    (hkeyword : compiled.component.declarationStart =
      (before ++ '\n' :: "export default ".toList).bytes)
    (hordered : ∀ e ∈ innerEdits compiled ps, e.span.start ≤ e.span.stop)
    (hapart : ∀ e ∈ innerEdits compiled ps, e.span.stop ≤ before.bytes ∨
      ((before ++ '\n' :: defaultFunction name []).bytes ≤ e.span.start ∧
        e.span.start < (before ++ '\n' :: defaultFunction name rest).bytes)) :
    render (runEdits runtimeModule component template compiled ps
        (before ++ '\n' :: defaultFunction name rest)) 0
        (before ++ '\n' :: defaultFunction name rest) =
      render (innerEdits compiled ps) 0 before ++ '\n' :: plainFunction name
        (render (innerEdits compiled ps) (before ++ '\n' :: defaultFunction name []).bytes rest ++
          (appendixOf runtimeModule component template compiled).textAfter
            (before ++ '\n' :: defaultFunction name rest)) := by
  have hkeywords : 0 < Text.bytes "export default ".toList := by decide
  have hlines : (before ++ '\n' :: "export default ".toList).bytes =
      (before ++ ['\n']).bytes + Text.bytes "export default ".toList := by
    rw [← Text.bytes_append, List.append_assoc]
    rfl
  have hremoval : Buffer.removal (exportSpan compiled.component) =
      [⟨⟨(before ++ ['\n']).bytes,
        (before ++ ['\n']).bytes + Text.bytes "export default ".toList⟩, []⟩] := by
    rw [Buffer.removal, exportSpan, hstart, hkeyword, hlines,
      if_neg (Nat.ne_of_lt (Nat.lt_add_of_pos_right hkeywords))]
  have hhead := bytes_line before name []
  have hend := bytes_line before name rest
  have hbreak : (before ++ ['\n']).bytes = before.bytes + 1 := Text.bytes_append _ _
  rw [show Text.bytes [] = 0 from rfl, Nat.add_zero] at hhead
  rw [hhead, hend] at hapart
  have hedits : runEdits runtimeModule component template compiled ps
      (before ++ '\n' :: defaultFunction name rest) =
        around (metaEdits compiled.declared) (before ++ ['\n']).bytes "export default ".toList
          (plainFunction name []) rest ((appendixOf runtimeModule component template
            compiled).textAfter (before ++ '\n' :: defaultFunction name rest))
          (ps.flatMap Patch.edits) := by
    rw [runEdits, frame, hremoval, hend, around, List.append_assoc, List.append_assoc]
    rfl
  generalize (appendixOf runtimeModule component template compiled).textAfter
    (before ++ '\n' :: defaultFunction name rest) = appendix at hedits ⊢
  rw [hhead, hedits, line_eq, render_append_around hkeywords (bytes_plainFunction_pos name) hordered
    fun e he => ?_]
  · rw [show metaEdits compiled.declared ++ ps.flatMap Patch.edits = innerEdits compiled ps
      from rfl, render_append_untouched hordered fun e he => ?_, List.append_assoc,
      plainFunction_append]
    · rfl
    · have := hapart e he
      have : Text.bytes ['\n'] = 1 := rfl
      omega
  · have := hapart e he
    omega

end Line

end Transform

namespace Plugin

open Story Transform Edit Script

variable {p : Plugin} {i : Input} {out : Output} {before name rest metaName : Text}
  {edits : List Edit}

/-- What a run does inside of a module: the name that the meta has then, and the edits. -/
def inside (p : Plugin) (i : Input) : Except Error (Text × List Edit) := do
  let m ← match parseModule .javaScript i.compiled with
    | some m => .ok m
    | none => .error (.parse i.id)
  let source ← preprocess i.id i.source i.preprocessor
  let root ← Template.parse i.unit i.tree source i.id
  let template ← ofTemplate p.options root source i.id
  let compiled ← ofCompiled p.options m i.id
  let patches ← literalPatches i.id template compiled
  return (compiled.declared.metaName.getD metaKey, innerEdits compiled patches)

/-- The component of a file is a function at the start of a line, behind a text that stands alone.
No edit inside of the module touches the start of the function. -/
structure StartsLine (p : Plugin) (i : Input) (before name rest metaName : Text)
    (edits : List Edit) : Prop where
  code : i.compiled = before ++ '\n' :: defaultFunction name rest
  alone : standsAlone before = true
  inside : p.inside i = .ok (metaName, edits)
  apart : ∀ e ∈ edits, e.span.stop ≤ before.bytes ∨
    ((before ++ '\n' :: defaultFunction name []).bytes ≤ e.span.start ∧
      e.span.start < i.compiled.bytes)

/-- The edits that are looked at are those of the run. -/
theorem planned_of_inside (h : p.transform i = .ok (some out))
    (hinside : p.inside i = .ok (metaName, edits)) :
    ∃ file m template compiled ps, p.Produces i out file m template compiled ∧
      Planned i.id p.options.runtimeModule (componentName file compiled.component) template
        compiled ps ∧
      compiled.declared.metaName.getD metaKey = metaName ∧ innerEdits compiled ps = edits := by
  obtain ⟨file, m, source, root, template, compiled, hsource, hroot, htemplate, hproduces⟩ :=
    steps_of_transform h
  obtain ⟨ps, hplanned, -⟩ := planned_of_exportStories hproduces.exported
  simp only [inside, hproduces.parsed, hsource, hroot, htemplate, hproduces.compiled_read,
    hplanned.literalPatches_eq, bind, Except.bind] at hinside
  cases hinside
  exact ⟨file, m, template, compiled, ps, hproduces, hplanned, rfl, rfl⟩

/-- The component that is read is the function at the start of the line. -/
theorem component_of_startsLine {tokens : List Token} {e : Token} {m : List Item}
    {compiled : CompiledStories} (h : StandsAlone before tokens e)
    (hparse : parseModule .javaScript (before ++ '\n' :: defaultFunction name rest) = some m)
    (hcompiled : ofCompiled p.options m i.id = .ok compiled) :
    compiled.component.span.start = (before ++ ['\n']).bytes ∧
      compiled.component.declarationStart = (before ++ '\n' :: "export default ".toList).bytes ∧
      (Name.isBindable name = true → compiled.component.functionName = some name) := by
  obtain ⟨j, hj, span, id, params, body, hbody, hstart, hkeyword, hname⟩ :=
    h.exists_defaultFunction hparse
  obtain ⟨⟨k, hk, span', params', body', hbody', hspan, hdeclaration, -⟩, -⟩ :=
    parts_of_ofCompiled hcompiled
  have hone := (exportsFunction_of_ofCompiled hcompiled).1
  rw [← ncard_defaultPlaces] at hone
  obtain rfl := eq_of_exportDefault hone hj hk hbody hbody'
  rw [hbody] at hbody'
  cases hbody'
  exact ⟨hspan ▸ hstart, hdeclaration ▸ hkeyword, hname⟩

/-- The output is the text before the function, the function without its keywords, and the appended
exports. -/
theorem StartsLine.code_eq (hline : p.StartsLine i before name rest metaName edits)
    (h : p.transform i = .ok (some out)) :
    ∃ a : Appendix, a.runtimeModule = p.options.runtimeModule ∧ a.metaName = metaName ∧
      (Name.isBindable name = true → a.component = name) ∧
      (∀ story ∈ a.stories, Name.isBindable story = true) ∧
      out.code = render edits 0 before ++ '\n' :: plainFunction name
        (render edits (before ++ '\n' :: defaultFunction name []).bytes rest ++
          a.textAfter i.compiled) := by
  obtain ⟨file, m, template, compiled, ps, hproduces, hplanned, rfl, rfl⟩ :=
    planned_of_inside h hline.inside
  obtain ⟨tokens, e, halone⟩ := exists_of_standsAlone hline.alone
  obtain ⟨root, source, htemplate⟩ := hproduces.template_read
  obtain ⟨hstart, hkeyword, hname⟩ := component_of_startsLine halone
    (hline.code ▸ hproduces.parsed) hproduces.compiled_read
  refine ⟨appendixOf p.options.runtimeModule (componentName file compiled.component) template
    compiled, rfl, rfl, fun hbindable => ?_, fun story hstory => ?_, ?_⟩
  · show compiled.component.functionName.getD file = name
    rw [hname hbindable]
    rfl
  · obtain ⟨s, hs, rfl⟩ := List.mem_map.mp hstory
    exact (exports_of_ofTemplate htemplate).2 s hs
  · obtain ⟨ps', hplanned', hfits, -, hout⟩ := planned_of_exportStories hproduces.exported
    obtain rfl := hplanned.unique hplanned'
    have hordered : ∀ e ∈ innerEdits compiled ps, e.span.start ≤ e.span.stop := by
      intro e he
      refine (hfits e ?_).ordered
      simp only [innerEdits, List.mem_append] at he
      simp only [runEdits, frame, List.mem_append]
      tauto
    have hapart := hline.apart
    rw [hline.code] at hapart hout ⊢
    rw [hout, render_runEdits hstart hkeyword hordered hapart]

/-- The output of a component without a name cannot be read. -/
theorem StartsLine.parse_unnamed (hline : p.StartsLine i before [] rest metaName edits)
    (h : p.transform i = .ok (some out)) (halone : standsAlone (render edits 0 before) = true) :
    parseModule .javaScript out.code = none := by
  obtain ⟨a, -, -, -, -, hcode⟩ := hline.code_eq h
  obtain ⟨tokens, e, halone⟩ := exists_of_standsAlone halone
  rw [hcode, halone.parse_unnamed]

/-- The output of a component with a name can be read, up to the appended import and behind it. -/
theorem StartsLine.parse_named (hline : p.StartsLine i before name rest metaName edits)
    (h : p.transform i = .ok (some out)) (hname : Name.isBindable name = true)
    (hmeta : Name.isBindable metaName = true)
    (hbefore : standsAlone (render edits 0 before) = true)
    (hfunction : standsAlone (defaultFunction name (render edits
      (before ++ '\n' :: defaultFunction name []).bytes rest)) = true) :
    ∃ m, parseModule .javaScript out.code = some m ∧
      importsFrom p.options.runtimeModule m = true := by
  obtain ⟨a, hmodule, rfl, hcomponent, hstories, hcode⟩ := hline.code_eq h
  obtain ⟨tokens, e, hbefore⟩ := exists_of_standsAlone hbefore
  obtain ⟨tokens', e', hfunction⟩ := exists_of_standsAlone hfunction
  obtain ⟨u, hu, hwritten⟩ := Appendix.written_textAfter ((hcomponent hname).symm ▸ hname) hmeta
    hstories i.compiled
  rw [hu] at hcode hwritten
  obtain ⟨items, is, hparse, his⟩ := hbefore.parse_named hfunction hname hwritten ⟨_, rfl⟩
    a.length_lineToks fun n => .of_forall₂ (Appendix.readsItems rfl a)
  refine ⟨items ++ is, by rw [hcode, hparse], ?_⟩
  have hbodies := Appendix.map_eq_of_means (List.forall₂_map_left_iff.mp his)
  rw [importsFrom, List.any_append, Bool.or_eq_true]
  exact .inr (hmodule ▸ Appendix.importsFrom_of_bodies hbodies)

end Plugin

end StoryExports
