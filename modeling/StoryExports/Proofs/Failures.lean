import StoryExports.Proofs.JointEdits

/-!
# What can make a run fail

The passes refuse stories that do not pair up, paths through something that is no literal, and names
that are taken. In a module whose parts are well placed nothing else makes a run fail: every edit is
recorded, and all of them can be applied.
-/
namespace StoryExports.Transform

open Story Patches Edit

namespace Draft

variable {d : Draft}

theorem bindMeta_of_fits {declared : CompiledMeta}
    (h : ∀ e ∈ metaEdits declared, Fits d.buffer.text e) :
    ∃ name, d.bindMeta declared =
      .ok (⟨d.buffer.recordAll (metaEdits declared), d.patches⟩, name) := by
  unfold bindMeta metaEdits at *
  cases hname : declared.metaName with
  | some name => exact ⟨name, by simp⟩
  | none =>
    have hfits := h ⟨⟨declared.insertAt, declared.insertAt⟩, metaBinding declared.joining⟩
      (by simp [hname])
    exact ⟨metaKey, by simp only [Buffer.insert_of_fits hfits]; rfl⟩

theorem hideComponent_of_fits {component : DefaultExport}
    (h : ∀ e ∈ Buffer.removal (exportSpan component), Fits d.buffer.text e) :
    d.hideComponent component =
      .ok ⟨d.buffer.recordAll (Buffer.removal (exportSpan component)), d.patches⟩ := by
  have hremove := Buffer.remove_of_fits h
  simp only [exportSpan] at hremove
  simp only [hideComponent, hremove]
  rfl

theorem append_eq (d : Draft) (text : Text) :
    d.append text = .ok ⟨d.buffer.recordAll
      [⟨⟨d.buffer.text.bytes, d.buffer.text.bytes⟩, text⟩], d.patches⟩ := by
  have hend := Text.isBoundary_bytes d.buffer.text
  have hfits : Fits d.buffer.text ⟨⟨d.buffer.length, d.buffer.length⟩, text⟩ :=
    ⟨Nat.le_refl _, hend, hend⟩
  simp only [append, Buffer.append, Buffer.insert_of_fits hfits]
  rfl

theorem finish_eq {code : Text} {edits : List Edit} (hbuffer : d.buffer = ⟨code, edits⟩)
    (hfits : ∀ e ∈ edits ++ d.patches.flatMap Patch.edits, Fits code e)
    (hfree : ClashFree (edits ++ d.patches.flatMap Patch.edits)) :
    d.patches.flush d.buffer = .ok ⟨code, edits ++ d.patches.flatMap Patch.edits⟩ ∧
      d.finish = .ok (render (edits ++ d.patches.flatMap Patch.edits) 0 code) := by
  have hflush : d.patches.flush d.buffer =
      .ok ⟨code, edits ++ d.patches.flatMap Patch.edits⟩ := by
    rw [hbuffer]
    exact flush_of_fits fun e he => hfits e (List.mem_append_right _ he)
  have hfinish := Buffer.Sound.finish_eq (b := ⟨code, edits ++ d.patches.flatMap Patch.edits⟩)
    hfits hfree
  refine ⟨hflush, ?_⟩
  simp only [finish, hflush]
  change edited (Buffer.finish _) = _
  rw [hfinish]
  rfl

end Draft

theorem appendExports_eq_error {file : Text} {a : Appendix} {d : Draft} {e : Error}
    (h : appendExports file a d = .error e) : ∃ cause, e = .unexpectedNode file cause := by
  simp only [appendExports] at h
  split at h
  · cases h
    exact ⟨_, rfl⟩
  · rw [Draft.append_eq] at h
    cases h

section Run

variable {file code runtimeModule component : Text} {template : TemplateStories}
  {compiled : CompiledStories}

theorem buffer_of_stories {stories : List (TemplateStory × CompiledStory)} {d₁ d₂ : Draft}
    (hdescribe : stories.foldlM (Draft.describeStory file) (Draft.ofCode code) = .ok d₁)
    (hmove : stories.foldlM (Draft.moveSource file) d₁ = .ok d₂) :
    d₂.buffer = .ofText code ∧ d₂.patches.Ordered := by
  have h₁ := Draft.Updates.describeStories ordered_nil hdescribe
  have h₂ := Draft.Updates.moveSources h₁.ordered hmove
  exact ⟨h₂.buffer.trans h₁.buffer, h₂.ordered⟩

/-- Binding the meta and hiding the component cannot fail. -/
theorem frame_recorded (h : WellPlaced code compiled) {d : Draft}
    (hbuffer : d.buffer = .ofText code) (hordered : d.patches.Ordered) :
    ∃ d₁ name, d.bindMeta compiled.declared = .ok (d₁, name) ∧
      ∀ d₂, d₁.describeComponent file template.declared compiled.declared = .ok d₂ →
        ∃ d₃, d₂.hideComponent compiled.component = .ok d₃ ∧
          d₃.buffer = ⟨code, metaEdits compiled.declared ++
            Buffer.removal (exportSpan compiled.component)⟩ := by
  have hmeta : ∀ e ∈ metaEdits compiled.declared, Fits d.buffer.text e := fun e he => by
    rw [hbuffer]
    exact h.fits_frame [] (List.mem_append_left _ (List.mem_append_left _ he))
  obtain ⟨name, hbind⟩ := Draft.bindMeta_of_fits hmeta
  refine ⟨_, name, hbind, fun d₂ hcomponent => ?_⟩
  have hbuffer₂ := (Draft.Updates.describeComponent
    (d := ⟨d.buffer.recordAll (metaEdits compiled.declared), d.patches⟩) hordered hcomponent).buffer
  have hexport : ∀ e ∈ Buffer.removal (exportSpan compiled.component),
      Fits d₂.buffer.text e := fun e he => by
    rw [hbuffer₂, hbuffer]
    exact h.fits_frame [] (List.mem_append_left _ (List.mem_append_right _ he))
  refine ⟨_, Draft.hideComponent_of_fits hexport, ?_⟩
  simp [hbuffer₂, hbuffer, Buffer.recordAll, Buffer.ofText]

theorem buffer_of_passes (h : WellPlaced code compiled) {d : Draft}
    (hd : passes file code runtimeModule component template compiled = .ok d) :
    ∃ appendix, d.buffer = ⟨code, frame compiled code appendix⟩ := by
  obtain ⟨stories, d₁, d₂, d₃, metaName, d₄, d₅, -, hdescribe, hmove, hbind, hcomponent, hhide,
    happend⟩ := passes_eq_ok hd
  obtain ⟨hbuffer, hordered⟩ := buffer_of_stories hdescribe hmove
  obtain ⟨d₃', name, hbind', hrest⟩ := frame_recorded h hbuffer hordered
  cases hbind.symm.trans hbind'
  obtain ⟨d₅', hhide', hframe⟩ := hrest d₄ hcomponent
  cases hhide.symm.trans hhide'
  have happend := appendExports_eq_ok happend
  rw [Draft.append_eq, hframe] at happend
  cases happend
  exact ⟨_, rfl⟩

/-- The passes fail only where they refuse something. -/
theorem passes_eq_error (h : WellPlaced code compiled) {e : Error}
    (he : passes file code runtimeModule component template compiled = .error e) :
    (∃ reason, e = .storyCorrelationMismatch file reason) ∨
      ∃ cause, e = .unexpectedNode file cause := by
  rcases bind_eq_error he with hpairs | ⟨stories, -, he⟩
  · exact .inl (pairs_eq_error hpairs)
  refine .inr ?_
  rcases bind_eq_error he with hfold | ⟨d₁, hdescribe, he⟩
  · obtain ⟨_, _, hstep⟩ := exists_error_of_foldlM hfold
    exact Draft.describeStory_eq_error hstep
  rcases bind_eq_error he with hfold | ⟨d₂, hmove, he⟩
  · obtain ⟨_, _, hstep⟩ := exists_error_of_foldlM hfold
    exact Draft.moveSource_eq_error hstep
  -- The steps that record edits cannot fail, so what is left is the component and the exports.
  obtain ⟨hbuffer, hordered⟩ := buffer_of_stories hdescribe hmove
  obtain ⟨d₃, name, hbind, hrest⟩ := frame_recorded h hbuffer hordered
  rcases bind_eq_error he with hfail | ⟨_, hbind', he⟩
  · cases hbind.symm.trans hfail
  cases hbind.symm.trans hbind'
  rcases bind_eq_error he with hfail | ⟨d₄, hcomponent, he⟩
  · exact Draft.describeComponent_eq_error hfail
  obtain ⟨d₅, hhide, -⟩ := hrest d₄ hcomponent
  rcases bind_eq_error he with hfail | ⟨_, hhide', he⟩
  · cases hhide.symm.trans hfail
  exact appendExports_eq_error he

theorem finish_of_passes (h : WellPlaced code compiled) {d : Draft}
    (hd : passes file code runtimeModule component template compiled = .ok d) :
    ∃ appendix, let edits := frame compiled code appendix ++ d.patches.flatMap Patch.edits
      (∀ e ∈ edits, Fits code e) ∧ ClashFree edits ∧
        d.patches.flush d.buffer = .ok ⟨code, edits⟩ ∧ d.finish = .ok (render edits 0 code) := by
  obtain ⟨appendix, hbuffer⟩ := buffer_of_passes h hd
  obtain ⟨hfits, hfree⟩ := h.joint (patches_of_passes hd).1
    (fun p hp => owned_of_passes hd h.distinct hp) appendix
  exact ⟨appendix, hfits, hfree, Draft.finish_eq hbuffer hfits hfree⟩

theorem refused_of_exportStories (h : WellPlaced code compiled) {e : Error}
    (he : exportStories file code runtimeModule component template compiled = .error e) :
    (∃ reason, e = .storyCorrelationMismatch file reason) ∨
      ∃ cause, e = .unexpectedNode file cause := by
  rw [exportStories_eq] at he
  rcases bind_eq_error he with hpasses | ⟨d, hd, hfinish⟩
  · exact passes_eq_error h hpasses
  · obtain ⟨appendix, -, -, -, hok⟩ := finish_of_passes h hd
    cases hok.symm.trans hfinish

theorem exportStories_ne_edit (h : WellPlaced code compiled) (fault : Edit.Fault) :
    exportStories file code runtimeModule component template compiled ≠ .error (.edit fault) := by
  intro hfault
  rcases refused_of_exportStories h hfault with ⟨reason, hreason⟩ | ⟨cause, hcause⟩
  · cases hreason
  · cases hcause

/-- In a well placed module no run fails in its edits: it fails only where the passes refuse
something, and otherwise all edits are in bounds, at boundaries and free of clashes. -/
theorem exportStories_never_fails_editing (file code runtimeModule component : Text)
    (template : TemplateStories) (compiled : CompiledStories) (h : WellPlaced code compiled) :
    (∀ fault, exportStories file code runtimeModule component template compiled ≠
      .error (.edit fault)) ∧
    (∀ e, exportStories file code runtimeModule component template compiled = .error e →
      (∃ reason, e = .storyCorrelationMismatch file reason) ∨
        ∃ cause, e = .unexpectedNode file cause) ∧
    ∀ d, passes file code runtimeModule component template compiled = .ok d →
      ∃ appendix, let edits := frame compiled code appendix ++ d.patches.flatMap Patch.edits
        (∀ e ∈ edits, Fits code e) ∧ ClashFree edits ∧
          d.patches.flush d.buffer = .ok ⟨code, edits⟩ ∧
          exportStories file code runtimeModule component template compiled =
            .ok (render edits 0 code) := by
  refine ⟨exportStories_ne_edit h, fun e he => refused_of_exportStories h he, fun d hd => ?_⟩
  obtain ⟨appendix, hfits, hfree, hflush, hok⟩ := finish_of_passes h hd
  refine ⟨appendix, hfits, hfree, hflush, ?_⟩
  rw [exportStories_eq, hd]
  exact hok

end Run

theorem exportStories_sample_not_stopped :
    WellPlaced sampleCode sampleCompiled ∧
      (∀ fault, exportStories ['f'] sampleCode ['r'] ['A'] sampleTemplate sampleCompiled ≠
        .error (.edit fault)) ∧
      ∃ text, exportStories ['f'] sampleCode ['r'] ['A'] sampleTemplate sampleCompiled =
        .ok text := by
  have hplaced : WellPlaced sampleCode sampleCompiled := by constructor <;> decide +kernel
  obtain ⟨d, hd⟩ := passes_sample
  obtain ⟨hedit, -, hok⟩ := exportStories_never_fails_editing ['f'] sampleCode ['r'] ['A']
    sampleTemplate sampleCompiled hplaced
  obtain ⟨appendix, -, -, -, htext⟩ := hok d hd
  exact ⟨hplaced, hedit, _, htext⟩

end StoryExports.Transform
