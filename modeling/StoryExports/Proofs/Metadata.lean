import StoryExports.Proofs.StoryPatches

/-!
# Metadata reaches its call

The comment and the source of a story end up below the properties of the compiled call at the same
position, and the note above the meta below its argument, unless the author has set these paths. No
other literal is changed.
-/
namespace StoryExports.Transform

open Story Patches

/-- A text stands at a path, or the property that the author has set there. -/
def Lands (ps : Patches) (o : Outline) (path : List Text) (text : Text) : Prop :=
  match o.property? path with
  | some property => ps.overlay o path = some (.author property)
  | none => ps.overlay o path = some (.added (.literal (Json.quote text)))

theorem lands_of_absent {ps : Patches} {o : Outline} {path : List Text} {text : Text}
    (hpath : path ≠ [])
    (hopen : ∀ p, o.place path ≠ .blocked p)
    (habsent : ∀ object rest, o.place path = .absent object rest →
      ∃ p, ps.at? object.span.start = some p ∧
        NewValue.get? p.added rest = some (.literal (Json.quote text))) : Lands ps o path text := by
  unfold Lands
  rw [Outline.property?_eq, overlay_eq]
  cases hplace : o.place path with
  | itself => exact absurd hplace (Outline.place_ne_itself hpath)
  | present p => rfl
  | absent object rest =>
    obtain ⟨p, hat, hget⟩ := habsent object rest hplace
    simp [addedTo_eq, hat, hget]
  | blocked p => exact absurd hplace (hopen p)

/-- The positions of the properties that are taken out of a literal. -/
def removedFrom (o : Outline) (ps : Patches) : List Nat := removedIn (ps.at? o.span.start)

/-- What the template says about the stories and the meta has reached the compiled module. -/
structure Delivered (template : TemplateStories) (compiled : CompiledStories) (ps : Patches) :
    Prop where
  /-- The comment of a story stands in the call at the same position. -/
  description : ∀ (i : Nat) (t : TemplateStory) (c : CompiledStory),
    template.stories[i]? = some t → compiled.stories[i]? = some c →
    ∀ comment, t.comment = some comment → Lands ps c.properties storyDescription comment.text
  /-- So does its source. -/
  source : ∀ (i : Nat) (t : TemplateStory) (c : CompiledStory),
    template.stories[i]? = some t → compiled.stories[i]? = some c →
    ∀ code, t.source = some code → Lands ps c.properties storySource code
  /-- Nothing else is added to the call. -/
  only : ∀ (i : Nat) (t : TemplateStory) (c : CompiledStory),
    template.stories[i]? = some t → compiled.stories[i]? = some c →
    ∀ path value, ps.overlay c.properties path = some (.added (.literal value)) →
      (path = storyDescription ∧ ∃ comment, t.comment = some comment ∧
        value = Json.quote comment.text) ∨
      (path = storySource ∧ ∃ code, t.source = some code ∧ value = Json.quote code)
  /-- The literals of a story without either have no patch. -/
  untouched : ∀ (i : Nat) (t : TemplateStory) (c : CompiledStory),
    template.stories[i]? = some t → compiled.stories[i]? = some c →
    t.comment = none → t.source = none →
    ∀ o ∈ c.properties.outlines, ∀ p ∈ ps, p.object.span.start ≠ o.span.start
  /-- The note above the meta stands in its argument, unless it is empty. -/
  component : ∀ note, template.declared.description = some note → note.text ≠ [] →
    Lands ps compiled.declared.argument componentDescription note.text
  /-- Nothing else is added to the argument. -/
  component_only : ∀ path value,
    ps.overlay compiled.declared.argument path = some (.added (.literal value)) →
    path = componentDescription ∧ ∃ note, template.declared.description = some note ∧
      note.text ≠ [] ∧ value = Json.quote note.text
  /-- Every path that the author has set leads where it did. -/
  kept : ∀ o ∈ outlinesOf compiled, ∀ path property, o.property? path = some property →
    ps.overlay o path = some (.author property)
  /-- Only the `source` of a story is taken out, and only if the template gives one. -/
  removed : ∀ o ∈ outlinesOf compiled, ∀ k, k ∈ removedFrom o ps ↔
    ∃ (i : Nat) (t : TemplateStory) (c : CompiledStory),
      template.stories[i]? = some t ∧ compiled.stories[i]? = some c ∧ t.source.isSome ∧
      o = c.properties ∧ c.properties.position? sourceKey = some k

section Delivery

variable {file code runtimeModule component : Text} {template : TemplateStories}
  {compiled : CompiledStories} {d : Draft}

theorem story_open (h : passes file code runtimeModule component template compiled = .ok d)
    {t : TemplateStory} {c : CompiledStory}
    (hpair : (t, c) ∈ template.stories.zip compiled.stories) (p : Property PropertyValue) :
    (t.comment.isSome → c.properties.place storyDescription ≠ .blocked p) ∧
      (t.source.isSome → c.properties.place storySource ≠ .blocked p) := by
  obtain ⟨stories, d₁, d₂, -, -, -, -, hpairs, hdescribe, hmove, -⟩ := passes_eq_ok h
  obtain ⟨-, rfl⟩ := pairs_eq_ok hpairs
  constructor
  · intro hsome
    obtain ⟨comment, hcomment⟩ := Option.isSome_iff_exists.mp hsome
    obtain ⟨a, b, hstep⟩ := exists_step_of_foldlM hdescribe (List.mem_reverse.mpr hpair)
    simp only [Draft.describeStory, hcomment] at hstep
    exact Draft.not_blocked_of_setText hstep p
  · intro hsome
    obtain ⟨source, hsource⟩ := Option.isSome_iff_exists.mp hsome
    obtain ⟨a, b, hstep⟩ := exists_step_of_foldlM hmove (List.mem_reverse.mpr hpair)
    simp only [Draft.moveSource, hsource] at hstep
    exact Draft.not_blocked_of_setText hstep p

theorem component_open (h : passes file code runtimeModule component template compiled = .ok d)
    {note : Note} (hnote : template.declared.description = some note) (htext : note.text ≠ [])
    (p : Property PropertyValue) :
    compiled.declared.argument.place componentDescription ≠ .blocked p := by
  obtain ⟨-, -, -, d₃, -, d₄, -, -, -, -, -, hcomponent, -⟩ := passes_eq_ok h
  have hfilter : template.declared.description.filter (fun n => !n.text.isEmpty) = some note := by
    simp [hnote, Option.filter, htext]
  simp only [Draft.describeComponent, hfilter] at hcomponent
  exact Draft.not_blocked_of_setText hcomponent p

theorem patch_of_overlay {ps : Patches} {o : Outline} {path : List Text} {value : Text}
    (h : ps.overlay o path = some (.added (.literal value))) :
    ∃ object rest p, o.place path = .absent object rest ∧ ps.at? object.span.start = some p ∧
      NewValue.get? p.added rest = some (.literal value) := by
  rw [overlay_eq] at h
  cases hplace : o.place path with
  | itself => simp [hplace] at h
  | present p => simp [hplace] at h
  | blocked p => simp [hplace] at h
  | absent object rest =>
    simp only [hplace, addedTo_eq] at h
    cases hat : ps.at? object.span.start with
    | none => simp [hat, NewValue.get?_nil] at h
    | some p => exact ⟨object, rest, p, rfl, hat, by simpa [hat] using h⟩

theorem story_only (h : passes file code runtimeModule component template compiled = .ok d)
    (hdistinct : Distinct compiled) {t : TemplateStory} {c : CompiledStory}
    (hpair : (t, c) ∈ template.stories.zip compiled.stories) {path : List Text} {value : Text}
    (hvalue : d.patches.overlay c.properties path = some (.added (.literal value))) :
    (path = storyDescription ∧ ∃ comment, t.comment = some comment ∧
        value = Json.quote comment.text) ∨
      (path = storySource ∧ ∃ code, t.source = some code ∧ value = Json.quote code) := by
  have hc := (List.of_mem_zip hpair).2
  have hunshared := hdistinct.unshared_story hc
  obtain ⟨object, rest, p, hplace, hat, hget⟩ := patch_of_overlay hvalue
  have hmem := (Outline.mem_of_place_absent hplace).1
  -- The literal that was changed is the one that the path of the change leads to.
  have hsame : ∀ {path' object'}, c.properties.place path' = .absent object' rest →
      object.span.start = object'.span.start → path = path' := by
    intro path' object' hplace' hstart
    have hmem' := (Outline.mem_of_place_absent hplace').1
    obtain rfl := hdistinct.eq_of_start (mem_outlinesOf_story hc hmem)
      (mem_outlinesOf_story hc hmem') hstart
    exact hunshared.place_injective hplace hplace'
  rw [at?_story h hdistinct hpair hmem] at hat
  rcases literal_of_moveAt hat hget with ⟨comment, object', hcomment, hplace', hstart, rfl⟩ |
    ⟨source, object', hsource, hplace', hstart, rfl⟩
  · exact .inl ⟨hsame hplace' hstart, comment, hcomment, rfl⟩
  · exact .inr ⟨hsame hplace' hstart, source, hsource, rfl⟩

theorem argument_only (h : passes file code runtimeModule component template compiled = .ok d)
    (hdistinct : Distinct compiled) {path : List Text} {value : Text}
    (hvalue : d.patches.overlay compiled.declared.argument path =
      some (.added (.literal value))) :
    path = componentDescription ∧ ∃ note, template.declared.description = some note ∧
      note.text ≠ [] ∧ value = Json.quote note.text := by
  obtain ⟨object, rest, p, hplace, hat, hget⟩ := patch_of_overlay hvalue
  have hmem := (Outline.mem_of_place_absent hplace).1
  rw [at?_component h hdistinct hmem, componentAt] at hat
  cases hnote : template.declared.description.filter fun n => !n.text.isEmpty with
  | none => simp [hnote] at hat
  | some note =>
    simp only [hnote] at hat
    obtain ⟨hdescription, htext⟩ := Option.filter_eq_some_iff.mp hnote
    rcases literal_of_setAt hat hget with ⟨p, hnone, -⟩ | ⟨object', hplace', hstart, rfl⟩
    · cases hnone
    · have hmem' := (Outline.mem_of_place_absent hplace').1
      obtain rfl := hdistinct.eq_of_start (List.mem_append_right _ hmem)
        (List.mem_append_right _ hmem') hstart
      exact ⟨hdistinct.unshared_argument.place_injective hplace hplace', note, hdescription,
        by simpa using htext, rfl⟩

theorem mem_removedFrom_iff (h : passes file code runtimeModule component template compiled = .ok d)
    (hdistinct : Distinct compiled) {o : Outline} (ho : o ∈ outlinesOf compiled) (k : Nat) :
    k ∈ removedFrom o d.patches ↔
      ∃ (i : Nat) (t : TemplateStory) (c : CompiledStory),
        template.stories[i]? = some t ∧ compiled.stories[i]? = some c ∧ t.source.isSome ∧
        o = c.properties ∧ c.properties.position? sourceKey = some k := by
  constructor
  · intro hk
    rcases List.mem_append.mp ho with hstory | hargument
    · obtain ⟨c, hc, hmem⟩ := List.mem_flatMap.mp hstory
      obtain ⟨i, hi⟩ := List.mem_iff_getElem?.mp hc
      obtain ⟨t, ht⟩ : ∃ t, template.stories[i]? = some t := by
        have hlt := (List.getElem?_eq_some_iff.mp hi).1
        exact ⟨_, List.getElem?_eq_getElem (length_of_passes h ▸ hlt)⟩
      rw [removedFrom, at?_story h hdistinct (mem_zip_of_getElem? ht hi) hmem,
        removedIn_moveAt] at hk
      split at hk
      · rename_i hcond
        have hroot := mem_outlinesOf_story hc c.properties.self_mem_outlines
        exact ⟨i, t, c, ht, hi, hcond.1, hdistinct.eq_of_start ho hroot hcond.2,
          Option.mem_toList.mp hk⟩
      · cases hk
    · rw [removedFrom, at?_component h hdistinct hargument, removedIn_componentAt] at hk
      cases hk
  · rintro ⟨i, t, c, ht, hc, hsource, rfl, hk⟩
    rw [removedFrom, at?_story h hdistinct (mem_zip_of_getElem? ht hc)
      c.properties.self_mem_outlines, removedIn_moveAt, if_pos ⟨hsource, rfl⟩]
    exact Option.mem_toList.mpr hk

/-- When the passes succeed, every story of the template has its compiled call, and what the
template says reaches that call and no other literal. -/
theorem metadata_delivered
    (h : passes file code runtimeModule component template compiled = .ok d)
    (hdistinct : Distinct compiled) :
    template.stories.length = compiled.stories.length ∧
      Delivered template compiled d.patches := by
  refine ⟨length_of_passes h, ?description, ?source, ?only, ?untouched, ?component,
    ?component_only, ?kept, ?removed⟩
  case description =>
    intro i t c ht hc comment hcomment
    have hpair := mem_zip_of_getElem? ht hc
    refine lands_of_absent (by decide) (fun p => (story_open h hpair p).1 (by simp [hcomment])) ?_
    intro object rest hplace
    rw [at?_story h hdistinct hpair (Outline.mem_of_place_absent hplace).1]
    exact description_landed hcomment hplace
  case source =>
    intro i t c ht hc source hsource
    have hpair := mem_zip_of_getElem? ht hc
    refine lands_of_absent (by decide) (fun p => (story_open h hpair p).2 (by simp [hsource])) ?_
    intro object rest hplace
    rw [at?_story h hdistinct hpair (Outline.mem_of_place_absent hplace).1]
    exact source_landed hsource hplace
  case only =>
    intro i t c ht hc path value hvalue
    exact story_only h hdistinct (mem_zip_of_getElem? ht hc) hvalue
  case untouched =>
    intro i t c ht hc hcomment hsource o ho p hp heq
    have hat := (patches_of_passes h).1.at?_of_mem hp
    rw [heq, at?_story h hdistinct (mem_zip_of_getElem? ht hc) ho] at hat
    simp [moveAt, describeAt, hcomment, hsource] at hat
  case component =>
    intro note hnote htext
    refine lands_of_absent (by decide) (component_open h hnote htext) ?_
    intro object rest hplace
    rw [at?_component h hdistinct (Outline.mem_of_place_absent hplace).1]
    exact component_landed hnote htext hplace
  case component_only => exact fun path value hvalue => argument_only h hdistinct hvalue
  case kept => exact fun o _ path property hproperty => overlay_of_property? hproperty
  case removed => exact fun o ho k => mem_removedFrom_iff h hdistinct ho k

theorem metadata_delivered_sample :
    ∃ d, passes ['f'] sampleCode ['r'] ['A'] sampleTemplate sampleCompiled = .ok d ∧
      Distinct sampleCompiled ∧ Delivered sampleTemplate sampleCompiled d.patches := by
  obtain ⟨d, hd⟩ := passes_sample
  have hdistinct : Distinct sampleCompiled := by decide
  exact ⟨d, hd, hdistinct, (metadata_delivered hd hdistinct).2⟩

end Delivery

end StoryExports.Transform
