import StoryExports.Proofs.Outputs

/-!
# The plan of a run

What a run changes in the literals, and the offsets of its edits, follow from the parts of the
module and the template. The text only decides whether the edits can be made: a run succeeds exactly
when its plan is made, all edits fit the text and no two of them clash.
-/
namespace StoryExports

namespace Edit.Buffer

variable {b b' b'' : Buffer}

/-- The edits fit the text, and they are recorded behind the others. -/
structure Records (b : Buffer) (edits : List Edit) (b' : Buffer) : Prop where
  fits : ∀ e ∈ edits, Fits b.text e
  recorded : b' = b.recordAll edits

theorem Records.text {edits : List Edit} (h : b.Records edits b') : b'.text = b.text := by
  rw [h.recorded, recordAll_text]

theorem Records.nil (b : Buffer) : b.Records [] b := ⟨by simp, by simp⟩

theorem Records.append {edits later : List Edit} (h : b.Records edits b')
    (h' : b'.Records later b'') : b.Records (edits ++ later) b'' := by
  refine ⟨fun e he => ?_, by rw [h'.recorded, h.recorded, recordAll_recordAll]⟩
  rcases List.mem_append.mp he with he | he
  · exact h.fits e he
  · exact h.text ▸ h'.fits e he

theorem records_of_insert {pos : Nat} {new : Text} (h : b.insert pos new = .ok b') :
    b.Records [⟨⟨pos, pos⟩, new⟩] b' := by
  obtain ⟨hfits, rfl⟩ := fits_of_replace h
  exact ⟨by simpa using hfits, rfl⟩

theorem records_of_remove {s : Span} (h : b.remove s = .ok b') : b.Records (removal s) b' := by
  simp only [remove] at h
  split at h
  · rename_i hempty
    cases h
    rw [removal, if_pos hempty]
    exact .nil b
  · rename_i hrange
    obtain ⟨hfits, rfl⟩ := fits_of_replace h
    rw [removal, if_neg hrange]
    exact ⟨by simpa using hfits, rfl⟩

theorem records_of_foldlM {α : Type} {step : Buffer → α → Except Fault Buffer}
    {edits : α → List Edit} (hstep : ∀ b x b', step b x = .ok b' → b.Records (edits x) b')
    {xs : List α} (h : xs.foldlM step b = .ok b') : b.Records (xs.flatMap edits) b' := by
  induction xs generalizing b with
  | nil =>
    cases h
    exact .nil _
  | cons x xs ih =>
    rw [List.foldlM_cons] at h
    obtain ⟨next, hx, hrest⟩ := bind_eq_ok h
    exact (hstep b x next hx).append (ih hrest)

theorem Sound.of_finish (hb : b.Sound) {t : Text} (h : b.finish = .ok t) :
    ClashFree b.edits ∧ t = render b.edits 0 b.text := by
  refine ⟨?_, hb.eq_of_finish h⟩
  cases hoverlap : firstOverlap none b.sorted with
  | some found => simp [finish, hoverlap] at h
  | none => exact hb.sorted_apart_iff.mp (hb.firstOverlap_sorted_eq_none_iff.mp hoverlap)

end Edit.Buffer

theorem Patch.records_of_write {p : Patch} {b b' : Edit.Buffer} (h : p.write b = .ok b') :
    b.Records p.edits b' := by
  obtain ⟨removed, hremoved, h⟩ := bind_eq_ok h
  have hrecords := Edit.Buffer.records_of_foldlM
    (fun _ _ _ hs => Edit.Buffer.records_of_remove hs) hremoved
  unfold edits
  split at h
  · rename_i hadd
    rw [hadd]
    exact hrecords.append (Edit.Buffer.records_of_insert h)
  · rename_i hadd
    cases h
    rw [hadd]
    exact hrecords.append (.nil _)

theorem Patches.records_of_flush {ps : Patches} {b b' : Edit.Buffer} (h : ps.flush b = .ok b') :
    b.Records (ps.flatMap Patch.edits) b' :=
  Edit.Buffer.records_of_foldlM (fun _ _ _ hp => Patch.records_of_write hp) h

namespace Transform

open Story Edit

namespace Draft

variable {d d' : Draft}

theorem records_of_bindMeta {declared : CompiledMeta} {name : Text}
    (h : d.bindMeta declared = .ok (d', name)) :
    d.buffer.Records (metaEdits declared) d'.buffer := by
  cases hname : declared.metaName with
  | some found =>
    simp only [bindMeta, hname] at h
    simp only [metaEdits, hname]
    cases h
    exact .nil _
  | none =>
    simp only [bindMeta, hname] at h
    simp only [metaEdits, hname]
    obtain ⟨buffer, hinsert, h⟩ := bind_eq_ok h
    cases h
    exact Buffer.records_of_insert (edited_eq_ok hinsert)

theorem records_of_hideComponent {component : DefaultExport}
    (h : d.hideComponent component = .ok d') :
    d.buffer.Records (Buffer.removal (exportSpan component)) d'.buffer := by
  obtain ⟨buffer, hremove, h⟩ := bind_eq_ok h
  cases h
  exact Buffer.records_of_remove (edited_eq_ok hremove)

/-- The step works on the patches and does not look at the text or its edits. -/
def Blind {α : Type} (step : Draft → α → Except Error Draft) : Prop :=
  ∀ b b' ps x, step ⟨b', ps⟩ x = (step ⟨b, ps⟩ x).map fun d => ⟨b', d.patches⟩

theorem setText_blind (file : Text) (o : Outline) (path : List Text) (text : Text)
    (b b' : Buffer) (ps : Patches) :
    setText ⟨b', ps⟩ file o path text =
      (setText ⟨b, ps⟩ file o path text).map fun d => ⟨b', d.patches⟩ := by
  simp only [setText]
  split <;> rfl

theorem describeStory_blind (file : Text) : Blind (describeStory file) := by
  intro b b' ps pair
  simp only [describeStory]
  split
  · exact setText_blind ..
  · rfl

theorem moveSource_blind (file : Text) : Blind (moveSource file) := by
  intro b b' ps pair
  simp only [moveSource]
  split
  · exact setText_blind ..
  · rfl

theorem describeComponent_blind (file : Text) (template : TemplateMeta) :
    Blind fun d compiled => describeComponent d file template compiled := by
  intro b b' ps compiled
  simp only [describeComponent]
  split
  · exact setText_blind ..
  · rfl

theorem Blind.foldlM {α : Type} {step : Draft → α → Except Error Draft} (h : Blind step)
    (xs : List α) (b b' : Buffer) (ps : Patches) :
    xs.foldlM step ⟨b', ps⟩ = (xs.foldlM step ⟨b, ps⟩).map fun d => ⟨b', d.patches⟩ := by
  induction xs generalizing b ps with
  | nil => rfl
  | cons x xs ih =>
    rw [List.foldlM_cons, List.foldlM_cons, h b b' ps x]
    cases hx : step ⟨b, ps⟩ x with
    | error e => rfl
    | ok d => exact ih d.buffer d.patches

/-- From a run of a blind step with one buffer to the run with another. -/
theorem Blind.ok {α : Type} {step : Draft → α → Except Error Draft} (h : Blind step)
    {x : α} {d d' : Draft} (hx : step d x = .ok d') (b : Buffer) :
    step ⟨b, d.patches⟩ x = .ok ⟨b, d'.patches⟩ := by
  rw [h d.buffer b d.patches x, hx]
  rfl

theorem Blind.foldlM_ok {α : Type} {step : Draft → α → Except Error Draft} (h : Blind step)
    {xs : List α} {d d' : Draft} (hxs : xs.foldlM step d = .ok d') (b : Buffer) :
    xs.foldlM step ⟨b, d.patches⟩ = .ok ⟨b, d'.patches⟩ := by
  rw [h.foldlM xs d.buffer b d.patches, hxs]
  rfl

end Draft

section Plan

variable {file code runtimeModule component out : Text} {template : TemplateStories}
  {compiled : CompiledStories} {ps : Patches}

/-- The patches of a run are made, and no story has a name that is taken. -/
def Planned (file runtimeModule component : Text) (template : TemplateStories)
    (compiled : CompiledStories) (ps : Patches) : Prop :=
  ∃ stories d₁ d₂ d₃, pairs file template.stories compiled.stories = .ok stories ∧
    stories.foldlM (Draft.describeStory file) (Draft.ofCode []) = .ok d₁ ∧
    stories.foldlM (Draft.moveSource file) d₁ = .ok d₂ ∧
    d₂.describeComponent file template.declared compiled.declared = .ok d₃ ∧
    d₃.patches = ps ∧ (appendixOf runtimeModule component template compiled).collision? = none

theorem Planned.unique {qs : Patches}
    (h : Planned file runtimeModule component template compiled ps)
    (h' : Planned file runtimeModule component template compiled qs) : ps = qs := by
  obtain ⟨stories, d₁, d₂, d₃, hpairs, hdescribe, hmove, hcomponent, rfl, -⟩ := h
  obtain ⟨stories', d₁', d₂', d₃', hpairs', hdescribe', hmove', hcomponent', rfl, -⟩ := h'
  cases hpairs.symm.trans hpairs'
  cases hdescribe.symm.trans hdescribe'
  cases hmove.symm.trans hmove'
  cases hcomponent.symm.trans hcomponent'
  rfl

/-- The patches of a run come out the same over an empty text. -/
theorem Planned.of_passes {d : Draft}
    (h : passes file code runtimeModule component template compiled = .ok d) :
    Planned file runtimeModule component template compiled d.patches := by
  obtain ⟨hfree, -⟩ := appended_of_passes h
  obtain ⟨stories, d₁, d₂, d₃, metaName, d₄, d₅, hpairs, hdescribe, hmove, hbind, hcomponent, hhide,
    happend⟩ := passes_eq_ok h
  have hdescribe' := (Draft.describeStory_blind file).foldlM_ok hdescribe (.ofText [])
  have hmove' := (Draft.moveSource_blind file).foldlM_ok hmove (.ofText [])
  have hcomponent' := (Draft.describeComponent_blind file template.declared).ok hcomponent
    (.ofText [])
  rw [Draft.bindMeta_eq_ok hbind] at hcomponent'
  have hpatches : d.patches = d₄.patches := by
    rw [Draft.append_eq_ok (appendExports_eq_ok happend), Draft.hideComponent_eq_ok hhide]
  exact ⟨stories, _, _, _, hpairs, hdescribe', hmove', hcomponent', hpatches.symm, hfree⟩

/-- All edits of a run on a text. -/
def runEdits (runtimeModule component : Text) (template : TemplateStories)
    (compiled : CompiledStories) (ps : Patches) (code : Text) : List Edit :=
  frame compiled code ((appendixOf runtimeModule component template compiled).textAfter code) ++
    ps.flatMap Patch.edits

theorem planned_of_exportStories
    (h : exportStories file code runtimeModule component template compiled = .ok out) :
    ∃ ps, Planned file runtimeModule component template compiled ps ∧
      let edits := runEdits runtimeModule component template compiled ps code
      (∀ e ∈ edits, Fits code e) ∧ ClashFree edits ∧ out = render edits 0 code := by
  rw [exportStories_eq] at h
  obtain ⟨d, hpasses, hfinish⟩ := bind_eq_ok h
  refine ⟨d.patches, .of_passes hpasses, ?_⟩
  obtain ⟨stories, d₁, d₂, d₃, metaName, d₄, d₅, -, hdescribe, hmove, hbind, hcomponent, hhide,
    happend⟩ := passes_eq_ok hpasses
  obtain ⟨hbuffer, hordered⟩ := buffer_of_stories hdescribe hmove
  -- The edits are recorded one after the other.
  have hsame : d₄.buffer = d₃.buffer :=
    (Draft.Updates.describeComponent (Draft.bindMeta_eq_ok hbind ▸ hordered) hcomponent).buffer
  have hframe := (Draft.records_of_bindMeta hbind).append
    (hsame ▸ Draft.records_of_hideComponent hhide)
  obtain ⟨-, rfl⟩ := Draft.grows_of_bindMeta hbind
  have hlast := appendExports_eq_ok happend
  have htext : d₅.buffer.text = code := by rw [hframe.text, hbuffer]; rfl
  rw [Draft.append_eq, htext] at hlast
  cases hlast
  obtain ⟨b, hflush, hfinish⟩ := bind_eq_ok hfinish
  have hend := Text.isBoundary_bytes code
  have happended : d₅.buffer.Records [⟨⟨code.bytes, code.bytes⟩,
      (appendixOf runtimeModule component template compiled).textAfter code⟩]
      (d₅.buffer.recordAll _) :=
    ⟨by simpa [htext] using ⟨Nat.le_refl _, hend, hend⟩, rfl⟩
  have hrecords := (hframe.append happended).append
    (Patches.records_of_flush (edited_eq_ok hflush))
  rw [hbuffer] at hrecords
  have hb : b = ⟨code, runEdits runtimeModule component template compiled d₅.patches code⟩ := by
    rw [hrecords.recorded]
    rfl
  have hsound : b.Sound := by
    rw [hb]
    exact hrecords.fits
  obtain ⟨hclash, hout⟩ := hsound.of_finish (edited_eq_ok hfinish)
  rw [hb] at hclash hout
  exact ⟨hrecords.fits, hclash, hout⟩

/-- The part of a run that makes the edits. -/
def editing (compiled : CompiledStories) (a : Appendix) (ps : Patches) (code : Text) :
    Except Error Text := do
  let (d, _) ← Draft.bindMeta ⟨.ofText code, ps⟩ compiled.declared
  let d ← d.hideComponent compiled.component
  let d ← d.append (a.textAfter code)
  d.finish

theorem exportStories_eq_editing (h : Planned file runtimeModule component template compiled ps)
    (code : Text) :
    exportStories file code runtimeModule component template compiled =
      editing compiled (appendixOf runtimeModule component template compiled) ps code := by
  obtain ⟨stories, d₁, d₂, d₃, hpairs, hdescribe, hmove, hcomponent, rfl, hfree⟩ := h
  have hdescribe' : stories.foldlM (Draft.describeStory file) (Draft.ofCode code) = .ok _ :=
    (Draft.describeStory_blind file).foldlM_ok hdescribe (.ofText code)
  have hmove' := (Draft.moveSource_blind file).foldlM_ok hmove (.ofText code)
  have hcomponent' := (Draft.describeComponent_blind file template.declared).ok hcomponent
  have hbind : ∀ ps, (Draft.bindMeta ⟨.ofText code, ps⟩ compiled.declared) =
      (Draft.bindMeta ⟨.ofText code, []⟩ compiled.declared).map
        fun (d, name) => (⟨d.buffer, ps⟩, name) := fun ps => by
    simp only [Draft.bindMeta]
    split
    · rfl
    · cases edited ((Buffer.ofText code).insert compiled.declared.insertAt
        (Draft.metaBinding compiled.declared.joining)) <;> rfl
  unfold exportStories editing
  simp only [hpairs, bind, Except.bind, hdescribe', hmove', hbind d₂.patches, hbind d₃.patches]
  cases hmeta : Draft.bindMeta ⟨.ofText code, []⟩ compiled.declared with
  | error e => rfl
  | ok found =>
    obtain ⟨d, name⟩ := found
    obtain ⟨hgrows, rfl⟩ := Draft.grows_of_bindMeta hmeta
    simp only [Except.map, hcomponent']
    cases hhide : Draft.hideComponent ⟨d.buffer, d₃.patches⟩ compiled.component with
    | error e => rfl
    | ok hidden =>
      have htext : hidden.buffer.text = code :=
        (Draft.grows_of_hideComponent hhide).text.trans hgrows.text
      have hnone : Appendix.collision? ⟨runtimeModule, component,
          compiled.declared.metaName.getD metaKey, template.stories.map (·.exportName)⟩ =
            none := hfree
      simp only [appendExports, hnone, htext]
      rfl

theorem edited_eq_error {α : Type} {x : Except Fault α} {e : Error} (h : edited x = .error e) :
    ∃ fault, e = .edit fault := by
  cases x with
  | ok a => cases h
  | error fault =>
    cases h
    exact ⟨fault, rfl⟩

namespace Draft

variable {d : Draft} {e : Error}

theorem bindMeta_eq_error {declared : CompiledMeta} (h : d.bindMeta declared = .error e) :
    ∃ fault, e = .edit fault := by
  simp only [bindMeta] at h
  split at h
  · cases h
  · rcases bind_eq_error h with hinsert | ⟨_, -, h⟩
    · exact edited_eq_error hinsert
    · cases h

theorem hideComponent_eq_error {component : DefaultExport}
    (h : d.hideComponent component = .error e) : ∃ fault, e = .edit fault := by
  rcases bind_eq_error h with hremove | ⟨_, -, h⟩
  · exact edited_eq_error hremove
  · cases h

theorem finish_eq_error (h : d.finish = .error e) : ∃ fault, e = .edit fault := by
  rcases bind_eq_error h with hflush | ⟨_, -, hfinish⟩
  · exact edited_eq_error hflush
  · exact edited_eq_error hfinish

end Draft

theorem editing_eq_error {a : Appendix} {e : Error} (h : editing compiled a ps code = .error e) :
    ∃ fault, e = .edit fault := by
  rcases bind_eq_error h with hbind | ⟨⟨d₁, name⟩, -, h⟩
  · exact Draft.bindMeta_eq_error hbind
  rcases bind_eq_error h with hhide | ⟨d₂, -, h⟩
  · exact Draft.hideComponent_eq_error hhide
  rw [Draft.append_eq] at h
  rcases bind_eq_error h with happend | ⟨d₃, -, hfinish⟩
  · cases happend
  · exact Draft.finish_eq_error hfinish

/-- A run refuses the stories, refuses a node or fails in its edits. -/
theorem exportStories_eq_error {e : Error}
    (h : exportStories file code runtimeModule component template compiled = .error e) :
    (∃ reason, e = .storyCorrelationMismatch file reason) ∨
      (∃ cause, e = .unexpectedNode file cause) ∨ ∃ fault, e = .edit fault := by
  rcases bind_eq_error h with hpairs | ⟨stories, -, h⟩
  · exact .inl (pairs_eq_error hpairs)
  refine .inr ?_
  rcases bind_eq_error h with hfold | ⟨d₁, -, h⟩
  · obtain ⟨_, _, hstep⟩ := exists_error_of_foldlM hfold
    exact .inl (Draft.describeStory_eq_error hstep)
  rcases bind_eq_error h with hfold | ⟨d₂, -, h⟩
  · obtain ⟨_, _, hstep⟩ := exists_error_of_foldlM hfold
    exact .inl (Draft.moveSource_eq_error hstep)
  rcases bind_eq_error h with hbind | ⟨⟨d₃, name⟩, -, h⟩
  · exact .inr (Draft.bindMeta_eq_error hbind)
  rcases bind_eq_error h with hcomponent | ⟨d₄, -, h⟩
  · exact .inl (Draft.describeComponent_eq_error hcomponent)
  rcases bind_eq_error h with hhide | ⟨d₅, -, h⟩
  · exact .inr (Draft.hideComponent_eq_error hhide)
  rcases bind_eq_error h with happend | ⟨d₆, -, hfinish⟩
  · exact .inl (appendExports_eq_error happend)
  · exact .inr (Draft.finish_eq_error hfinish)

/-- Once a run is planned, it can fail only in its edits. -/
theorem exportStories_cases (h : Planned file runtimeModule component template compiled ps)
    (code : Text) :
    (∃ out, exportStories file code runtimeModule component template compiled = .ok out) ∨
      ∃ fault, exportStories file code runtimeModule component template compiled =
        .error (.edit fault) := by
  rw [exportStories_eq_editing h]
  cases hresult :
    editing compiled (appendixOf runtimeModule component template compiled) ps code with
  | ok out => exact .inl ⟨out, rfl⟩
  | error e =>
    obtain ⟨fault, rfl⟩ := editing_eq_error hresult
    exact .inr ⟨fault, rfl⟩

theorem exportStories_of_planned
    (h : Planned file runtimeModule component template compiled ps)
    (hfits : ∀ e ∈ runEdits runtimeModule component template compiled ps code, Fits code e)
    (hclash : ClashFree (runEdits runtimeModule component template compiled ps code)) :
    exportStories file code runtimeModule component template compiled =
      .ok (render (runEdits runtimeModule component template compiled ps code) 0 code) := by
  rw [exportStories_eq_editing h]
  have hframe : ∀ e ∈ frame compiled code
      ((appendixOf runtimeModule component template compiled).textAfter code), Fits code e :=
    fun e he => hfits e (List.mem_append_left _ he)
  obtain ⟨name, hbind⟩ := Draft.bindMeta_of_fits (d := ⟨.ofText code, ps⟩)
    fun e he => hframe e (List.mem_append_left _ (List.mem_append_left _ he))
  have hhide := Draft.hideComponent_of_fits
    (d := ⟨(Buffer.ofText code).recordAll (metaEdits compiled.declared), ps⟩)
    fun e he => hframe e (List.mem_append_left _ (List.mem_append_right _ he))
  simp only [editing, hbind, bind, Except.bind, hhide, Draft.append_eq]
  have hbuffer : (((Buffer.ofText code).recordAll (metaEdits compiled.declared)).recordAll
      (Buffer.removal (exportSpan compiled.component))).recordAll [⟨⟨code.bytes, code.bytes⟩,
        (appendixOf runtimeModule component template compiled).textAfter code⟩] =
      ⟨code, frame compiled code
        ((appendixOf runtimeModule component template compiled).textAfter code)⟩ := rfl
  exact (Draft.finish_eq (d := ⟨_, ps⟩) hbuffer hfits hclash).2

end Plan

end Transform

namespace Plugin

open Story Transform

/-- A file that has an output goes through the same steps with another compiled module, from the
parser on. -/
theorem transform_recompiled {p : Plugin} {i : Input} {out : Output}
    (h : p.transform i = .ok (some out)) :
    ∃ file m template compiled, p.Produces i out file m template compiled ∧
      ∀ t, p.transform { i with compiled := t } =
        match Script.parseModule .javaScript t with
        | none => .error (.parse i.id)
        | some m => do
          let compiled ← ofCompiled p.options m i.id
          let code ← exportStories i.id t p.options.runtimeModule
            (componentName file compiled.component) template compiled
          return some ⟨code, out.storyExports⟩ := by
  obtain ⟨file, m, source, root, template, compiled, hsource, hroot, htemplate, hproduces⟩ :=
    steps_of_transform h
  refine ⟨file, m, template, compiled, hproduces, fun t => ?_⟩
  unfold transform
  rw [hproduces.listed, if_neg (by simp [hproduces.handled])]
  simp only [hproduces.named]
  cases Script.parseModule .javaScript t with
  | none => rfl
  | some m' => simp [hsource, hroot, htemplate, bind, Except.bind]

end Plugin

end StoryExports
