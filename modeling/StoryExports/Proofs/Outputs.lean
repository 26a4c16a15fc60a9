import StoryExports.Plugin
import StoryExports.Proofs.Failures

/-!
# What an output comes from

A module has an output only if every step before it succeeded. Whatever a run records, the text of
the module stays and no edit is lost, so the exports that it appends are in the output.
-/
namespace StoryExports

namespace Edit

theorem writtenAt_suffix_render (edits : List Edit) (pos : Nat) (t : Text) :
    writtenAt edits (pos + t.bytes) <:+ render edits pos t := by
  induction t generalizing pos with
  | nil => exact List.suffix_refl _
  | cons c t ih =>
    have hrest := ih (pos + c.utf8Size)
    rw [Nat.add_assoc, ← Text.bytes_cons] at hrest
    rw [render, ← List.append_assoc]
    exact hrest.trans (List.suffix_append _ _)

theorem infix_writtenAt {edits : List Edit} {e : Edit} (he : e ∈ edits)
    (hins : e.isInsertion = true) : e.text <:+: writtenAt edits e.span.start := by
  have hhere : e ∈ (edits.filter fun f => f.span.start == e.span.start).filter fun f =>
      f.isInsertion := by simp [he, hins]
  obtain ⟨before, after, hsplit⟩ := List.append_of_mem hhere
  rw [writtenAt, hsplit, List.flatMap_append, List.flatMap_cons]
  exact ⟨_, _, by simp only [List.append_assoc]; rfl⟩

namespace Buffer

/-- The text stays, and edits that fit it are added behind the others. -/
structure Grows (b b' : Buffer) : Prop where
  text : b'.text = b.text
  edits : b.edits <+: b'.edits
  sound : b.Sound → b'.Sound

variable {b b' b'' : Buffer}

theorem Grows.refl (b : Buffer) : Grows b b := ⟨rfl, List.prefix_refl _, id⟩

theorem Grows.trans (h : Grows b b') (h' : Grows b' b'') : Grows b b'' :=
  ⟨h'.text.trans h.text, h.edits.trans h'.edits, fun hb => h'.sound (h.sound hb)⟩

theorem Grows.of_call {c : Call} (h : b.call c = .ok b') : Grows b b' := by
  rcases call_cases h with rfl | ⟨e, he, rfl⟩
  · exact .refl _
  · exact ⟨rfl, List.prefix_append _ _, fun hb => hb.record he⟩

theorem Grows.foldlM {α : Type} {step : Buffer → α → Except Fault Buffer}
    (hstep : ∀ b x b', step b x = .ok b' → Grows b b') {xs : List α}
    (h : xs.foldlM step b = .ok b') : Grows b b' := by
  induction xs generalizing b with
  | nil =>
    cases h
    exact .refl _
  | cons x xs ih =>
    rw [List.foldlM_cons] at h
    obtain ⟨next, hx, hrest⟩ := bind_eq_ok h
    exact (hstep b x next hx).trans (ih hrest)

theorem Sound.eq_of_finish (hb : b.Sound) {t : Text} (h : b.finish = .ok t) :
    t = render b.edits 0 b.text := by
  cases hoverlap : firstOverlap none b.sorted with
  | some found => simp [finish, hoverlap] at h
  | none =>
    have hfree := hb.sorted_apart_iff.mp (hb.firstOverlap_sorted_eq_none_iff.mp hoverlap)
    rw [hb.finish_eq hfree] at h
    exact (Except.ok.inj h).symm

end Buffer

end Edit

theorem Patch.grows_of_write {p : Patch} {b b' : Edit.Buffer} (h : p.write b = .ok b') :
    b.Grows b' := by
  obtain ⟨removed, hremoved, h⟩ := bind_eq_ok h
  have hgrows : b.Grows removed :=
    .foldlM (fun b s b' hs => .of_call (c := .remove s) hs) hremoved
  split at h
  · rename_i pos text _
    exact hgrows.trans (.of_call (c := .insert pos text) h)
  · cases h
    exact hgrows

theorem Patches.grows_of_flush {ps : Patches} {b b' : Edit.Buffer} (h : ps.flush b = .ok b') :
    b.Grows b' :=
  .foldlM (fun _ _ _ hp => Patch.grows_of_write hp) h

namespace Transform

open Story Edit

theorem edited_eq_ok {α : Type} {x : Except Fault α} {a : α} (h : edited x = .ok a) :
    x = .ok a := by
  cases x with
  | error e => cases h
  | ok b =>
    cases h
    rfl

namespace Draft

variable {d d' : Draft}

theorem grows_of_bindMeta {declared : CompiledMeta} {name : Text}
    (h : d.bindMeta declared = .ok (d', name)) :
    d.buffer.Grows d'.buffer ∧ name = declared.metaName.getD metaKey := by
  simp only [bindMeta] at h
  split at h
  · rename_i hname
    cases h
    exact ⟨.refl _, by rw [hname]; rfl⟩
  · rename_i hname
    obtain ⟨buffer, hinsert, h⟩ := bind_eq_ok h
    cases h
    refine ⟨.of_call (c := .insert _ _) (edited_eq_ok hinsert), ?_⟩
    rw [hname]
    rfl

theorem grows_of_hideComponent {component : DefaultExport}
    (h : d.hideComponent component = .ok d') : d.buffer.Grows d'.buffer := by
  obtain ⟨buffer, hremove, h⟩ := bind_eq_ok h
  cases h
  exact .of_call (c := .remove _) (edited_eq_ok hremove)

/-- What is recorded as an insertion at the end is in the finished text. -/
theorem infix_of_finish {out text : Text} (hsound : d.buffer.Sound)
    (hmem : ⟨⟨d.buffer.text.bytes, d.buffer.text.bytes⟩, text⟩ ∈ d.buffer.edits)
    (h : d.finish = .ok out) : text <:+: out := by
  obtain ⟨b, hflush, hfinish⟩ := bind_eq_ok h
  have hgrows := Patches.grows_of_flush (edited_eq_ok hflush)
  have hend := writtenAt_suffix_render b.edits 0 b.text
  rw [← (hgrows.sound hsound).eq_of_finish (edited_eq_ok hfinish), Nat.zero_add, hgrows.text]
    at hend
  exact (infix_writtenAt (hgrows.edits.subset hmem) (isInsertion_iff.mpr rfl)).trans hend.isInfix

end Draft

section Run

variable {file code runtimeModule component : Text} {template : TemplateStories}
  {compiled : CompiledStories}

/-- The exports that a run appends. -/
def appendixOf (runtimeModule component : Text) (template : TemplateStories)
    (compiled : CompiledStories) : Appendix :=
  ⟨runtimeModule, component, compiled.declared.metaName.getD metaKey,
    template.stories.map (·.exportName)⟩

theorem appended_of_passes {d : Draft}
    (h : passes file code runtimeModule component template compiled = .ok d) :
    (appendixOf runtimeModule component template compiled).collision? = none ∧
      d.buffer.text = code ∧ d.buffer.Sound ∧
      ⟨⟨code.bytes, code.bytes⟩,
        (appendixOf runtimeModule component template compiled).textAfter code⟩ ∈
          d.buffer.edits := by
  obtain ⟨stories, d₁, d₂, d₃, metaName, d₄, d₅, -, hdescribe, hmove, hbind, hcomponent, hhide,
    happend⟩ := passes_eq_ok h
  obtain ⟨hbuffer, hordered⟩ := buffer_of_stories hdescribe hmove
  obtain ⟨hbound, rfl⟩ := Draft.grows_of_bindMeta hbind
  have hsame := (Draft.Updates.describeComponent
    (Draft.bindMeta_eq_ok hbind ▸ hordered) hcomponent).buffer
  have hgrows : (Buffer.ofText code).Grows d₅.buffer :=
    (hbuffer ▸ hbound).trans (hsame ▸ Draft.grows_of_hideComponent hhide)
  have htext : d₅.buffer.text = code := hgrows.text
  have hfree : (appendixOf runtimeModule component template compiled).collision? = none := by
    simp only [appendExports] at happend
    split at happend
    · cases happend
    · assumption
  have hlast := appendExports_eq_ok happend
  rw [Draft.append_eq, htext] at hlast
  cases hlast
  have hend := Text.isBoundary_bytes code
  refine ⟨hfree, htext, ?_, by simp [appendixOf]⟩
  refine (hgrows.sound (Buffer.sound_ofText code)).record ?_
  rw [htext]
  exact ⟨Nat.le_refl _, hend, hend⟩

/-- A run that succeeds has appended its exports, and no story has a name that they need. -/
theorem appended_of_exportStories {out : Text}
    (h : exportStories file code runtimeModule component template compiled = .ok out) :
    (appendixOf runtimeModule component template compiled).collision? = none ∧
      (appendixOf runtimeModule component template compiled).textAfter code <:+: out := by
  rw [exportStories_eq] at h
  obtain ⟨d, hd, hfinish⟩ := bind_eq_ok h
  obtain ⟨hfree, rfl, hsound, hmem⟩ := appended_of_passes hd
  exact ⟨hfree, Draft.infix_of_finish hsound hmem hfinish⟩

end Run

end Transform

namespace Plugin

open Story Transform

/-- The steps from a file to its output. -/
structure Produces (p : Plugin) (i : Input) (out : Output) (file : Text) (m : List Script.Item)
    (template : TemplateStories) (compiled : CompiledStories) : Prop where
  handled : p.handles i.id = true
  named : Name.component? i.id = some file
  parsed : Script.parseModule .javaScript i.compiled = some m
  template_read : ∃ root source, ofTemplate p.options root source i.id = .ok template
  compiled_read : ofCompiled p.options m i.id = .ok compiled
  exported : exportStories i.id i.compiled p.options.runtimeModule
    (componentName file compiled.component) template compiled = .ok out.code
  listed : out.storyExports = template.stories.map (·.exportName)

variable {p : Plugin} {i : Input}

/-- All that a transformation without an error can be, with the template that it read. -/
theorem transform_steps {result : Option Output} (h : p.transform i = .ok result) :
    (p.handles i.id = false ∧ result = none) ∨
      ∃ out file m source root template compiled, result = some out ∧
        preprocess i.id i.source i.preprocessor = .ok source ∧
        Template.parse i.unit i.tree source i.id = .ok root ∧
        ofTemplate p.options root source i.id = .ok template ∧
        p.Produces i out file m template compiled := by
  unfold transform at h
  split at h
  · rename_i hhandled
    cases h
    exact .inl ⟨by simpa using hhandled, rfl⟩
  · rename_i hhandled
    refine .inr ?_
    cases hfile : Name.component? i.id with
    | none =>
      rw [hfile] at h
      cases h
    | some file =>
      simp only [hfile] at h
      obtain ⟨_, ⟨⟩, h⟩ := bind_eq_ok h
      cases hm : Script.parseModule .javaScript i.compiled with
      | none =>
        rw [hm] at h
        cases h
      | some m =>
        simp only [hm] at h
        obtain ⟨_, ⟨⟩, h⟩ := bind_eq_ok h
        obtain ⟨source, hsource, h⟩ := bind_eq_ok h
        obtain ⟨root, hroot, h⟩ := bind_eq_ok h
        obtain ⟨template, htemplate, h⟩ := bind_eq_ok h
        obtain ⟨compiled, hcompiled, h⟩ := bind_eq_ok h
        obtain ⟨code, hcode, h⟩ := bind_eq_ok h
        cases h
        exact ⟨_, file, m, source, root, template, compiled, rfl, hsource, hroot, htemplate,
          by simpa using hhandled, hfile, hm, ⟨root, source, htemplate⟩, hcompiled, hcode, rfl⟩

theorem transform_eq_ok {result : Option Output} (h : p.transform i = .ok result) :
    (p.handles i.id = false ∧ result = none) ∨
      ∃ out file m template compiled, result = some out ∧
        p.Produces i out file m template compiled := by
  rcases transform_steps h with hskipped | ⟨out, file, m, _, _, template, compiled, hsome, -, -, -,
    hproduces⟩
  · exact .inl hskipped
  · exact .inr ⟨out, file, m, template, compiled, hsome, hproduces⟩

/-- The steps to an output, with the template that was read. -/
theorem steps_of_transform {out : Output} (h : p.transform i = .ok (some out)) :
    ∃ file m source root template compiled,
      preprocess i.id i.source i.preprocessor = .ok source ∧
      Template.parse i.unit i.tree source i.id = .ok root ∧
      ofTemplate p.options root source i.id = .ok template ∧
      p.Produces i out file m template compiled := by
  rcases transform_steps h with ⟨-, hnone⟩ | ⟨out', file, m, source, root, template, compiled,
    hsome, hsteps⟩
  · cases hnone
  · cases hsome
    exact ⟨file, m, source, root, template, compiled, hsteps⟩

theorem produces_of_transform {out : Output} (h : p.transform i = .ok (some out)) :
    ∃ file m template compiled, p.Produces i out file m template compiled := by
  obtain ⟨file, m, _, _, template, compiled, -, -, -, hproduces⟩ := steps_of_transform h
  exact ⟨file, m, template, compiled, hproduces⟩

/-- A file with one story. The name of the component may be empty, that of the story has three
letters. -/
def storiesFile (component story : Text) : Input where
  id := "Tab.stories.svelte".toList
  compiled := "import Tab from 't';".toList ++ "const \x7bStory\x7d=defineMeta(\x7b\x7d);".toList ++
    "export default function ".toList ++ component ++ "()\x7bStory(a,\x7bname:'".toList ++ story ++
    "'\x7d)\x7d".toList
  source := "<script module>".toList ++ "const \x7bStory\x7d=defineMeta(\x7b\x7d)".toList ++
    "</script><Story name='".toList ++ story ++ "'/>".toList
  preprocessor := none
  tree := "\x7b\"fragment\":\x7b\"nodes\":[\x7b".toList ++
    "\"type\":\"Component\",\"name\":\"Story\",".toList ++ "\"start\":52,\"end\":71,".toList ++
    "\"attributes\":[\x7b\"type\":\"Attribute\",".toList ++
    "\"name\":\"name\",\"start\":59,\"end\":69,".toList ++
    "\"value\":[\x7b\"type\":\"Text\",\"data\":\"".toList ++ story ++
    "\",\"start\":65,\"end\":68\x7d]\x7d]\x7d]\x7d,".toList ++
    "\"module\":\x7b\"start\":0,\"end\":52,".toList ++
    "\"attributes\":[\x7b\"type\":\"Attribute\",".toList ++
    "\"name\":\"module\",\"start\":8,\"end\":14,".toList ++ "\"value\":true\x7d]\x7d\x7d".toList
  unit := .byte

/-- Whether a file has an output under the standard options that passes a check. -/
def outputs (check : Plugin → Output → Bool) (i : Input) : Bool :=
  match read [] with
  | .ok p =>
    match p.transform i with
    | .ok (some out) => check p out
    | _ => false
  | .error _ => false

theorem exists_of_outputs {check : Plugin → Output → Bool} {i : Input}
    (h : outputs check i = true) :
    ∃ p out, read [] = .ok p ∧ p.transform i = .ok (some out) ∧ check p out = true := by
  unfold outputs at h
  split at h
  · rename_i p hp
    split at h
    · rename_i out hout
      exact ⟨p, out, hp, hout, h⟩
    · cases h
  · cases h

/-- A check on what is read from the module of a file. -/
def onCompiled (i : Input) (check : List Script.Item → CompiledStories → Bool) (p : Plugin) :
    Bool :=
  match Script.parseModule .javaScript i.compiled with
  | some m =>
    match ofCompiled p.options m i.id with
    | .ok compiled => check m compiled
    | .error _ => false
  | none => false

theorem exists_of_onCompiled {i : Input} {check : List Script.Item → CompiledStories → Bool}
    {p : Plugin} (h : onCompiled i check p = true) :
    ∃ m compiled, Script.parseModule .javaScript i.compiled = some m ∧
      ofCompiled p.options m i.id = .ok compiled ∧ check m compiled = true := by
  unfold onCompiled at h
  split at h
  · rename_i m hm
    split at h
    · rename_i compiled hcompiled
      exact ⟨m, compiled, hm, hcompiled, h⟩
    · cases h
  · cases h

theorem exists_storiesFile_output :
    ∃ p out, read [] = .ok p ∧ p.transform (storiesFile ['A'] "One".toList) = .ok (some out) ∧
      out.storyExports = ["One".toList] := by
  have hcheck : outputs (fun _ out => out.storyExports == ["One".toList])
      (storiesFile ['A'] "One".toList) = true := by decide +kernel
  obtain ⟨p, out, hp, hout, hnames⟩ := exists_of_outputs hcheck
  exact ⟨p, out, hp, hout, eq_of_beq hnames⟩

end Plugin

end StoryExports
