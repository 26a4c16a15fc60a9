import StoryExports.Proofs.RootedPatches
import StoryExports.Proofs.StoryPatches

/-!
# Which literals are patched

A patch of a story belongs to the properties of its call or to a literal below their `parameters`,
and only the former loses a property, which is the `source`. So the edits of one call do not meet.
-/
namespace StoryExports.Transform

open Story Patches

def parametersKey : Text := "parameters".toList

/-- A literal that a path through `parameters` can lead to. -/
def Reaches (o object : Outline) : Prop :=
  object = o ∨ ∃ p, o.get? parametersKey = some p ∧ object ∈ p.outlines

theorem Reaches.mem_outlines {o object : Outline} (h : Reaches o object) : object ∈ o.outlines := by
  rcases h with rfl | ⟨p, hget, hmem⟩
  · exact object.self_mem_outlines
  · have hp := (Outline.mem_of_get? hget).1
    exact List.mem_cons_of_mem o (Outline.mem_outlinesIn.mpr ⟨p, hp, hmem⟩)

section Objects

variable {o : Outline} {n : Nat} {q : Option Patch} {p : Patch}

theorem object_of_setAt {path : List Text} {code : Text} (h : setAt o path code n q = some p) :
    (∃ p₀, q = some p₀ ∧ p.object = p₀.object) ∨ ∃ rest, o.place path = .absent p.object rest := by
  unfold setAt at h
  split at h
  · rename_i object rest hplace
    split at h
    · cases h
      cases q with
      | none => exact .inr ⟨rest, hplace⟩
      | some p₀ => exact .inl ⟨p₀, rfl, rfl⟩
    · exact .inl ⟨p, h, rfl⟩
  · exact .inl ⟨p, h, rfl⟩

theorem object_of_removeAt {key : Text} (h : removeAt o key n q = some p) :
    (∃ p₀, q = some p₀ ∧ p.object = p₀.object) ∨ p.object = o := by
  unfold removeAt at h
  split at h
  · split at h
    · cases h
      cases q with
      | none => exact .inr (by simp)
      | some p₀ => exact .inl ⟨p₀, rfl, by simp⟩
    · exact .inl ⟨p, h, rfl⟩
  · exact .inl ⟨p, h, rfl⟩

variable {t : TemplateStory} {c : CompiledStory}

theorem reaches_of_describeAt (h : describeAt (t, c) n none = some p) :
    Reaches c.properties p.object := by
  unfold describeAt at h
  cases hcomment : t.comment with
  | none => simp [hcomment] at h
  | some comment =>
    simp only [hcomment] at h
    rcases object_of_setAt h with ⟨p₀, hnone, -⟩ | ⟨rest, hplace⟩
    · cases hnone
    · exact Outline.object_of_place_absent rfl hplace

theorem reaches_of_moveAt (h : moveAt (t, c) n (describeAt (t, c) n none) = some p) :
    Reaches c.properties p.object := by
  unfold moveAt at h
  cases hsource : t.source with
  | none =>
    simp only [hsource] at h
    exact reaches_of_describeAt h
  | some source =>
    simp only [hsource] at h
    rcases object_of_setAt h with ⟨p₁, hremove, hobject⟩ | ⟨rest, hplace⟩
    · rcases object_of_removeAt hremove with ⟨p₂, hdescribe, hobject₁⟩ | hroot
      · rw [hobject, hobject₁]
        exact reaches_of_describeAt hdescribe
      · exact .inl (hobject.trans hroot)
    · exact Outline.object_of_place_absent rfl hplace

theorem object_of_componentAt {template : TemplateMeta} {compiled : CompiledMeta}
    (h : componentAt template compiled n none = some p) :
    p.object ∈ compiled.argument.outlines := by
  unfold componentAt at h
  cases hnote : template.description.filter fun note => !note.text.isEmpty with
  | none => simp [hnote] at h
  | some note =>
    simp only [hnote] at h
    rcases object_of_setAt h with ⟨p₀, hnone, -⟩ | ⟨rest, hplace⟩
    · cases hnone
    · exact (Outline.mem_of_place_absent hplace).1

theorem removed_of_componentAt {template : TemplateMeta} {compiled : CompiledMeta}
    (h : componentAt template compiled n none = some p) : p.removed = [] := by
  have hremoved := removedIn_componentAt template compiled (n := n)
  rw [h] at hremoved
  exact hremoved

end Objects

/-- What a patch of a story can be. -/
structure StoryPatch (c : CompiledStory) (p : Patch) : Prop where
  object : Reaches c.properties p.object
  removed : ∀ i ∈ p.removed, p.object = c.properties ∧ c.properties.position? sourceKey = some i

/-- What is taken out has another key than the `parameters`. -/
theorem StoryPatch.rooted {c : CompiledStory} {p : Patch} (h : StoryPatch c p) :
    p.Rooted c.properties fun i => c.properties.position? sourceKey = some i where
  object := by
    refine h.object.imp_right fun ⟨property, hget, hmem⟩ => ?_
    obtain ⟨hproperty, hkey⟩ := Outline.mem_of_get? hget
    refine ⟨property, hproperty, fun j hj hposition => ?_, hmem⟩
    obtain ⟨other, hother, hsource⟩ := Outline.getElem?_of_position? hposition
    obtain rfl : other = property := Option.some.inj (hother.symm.trans hj)
    have hkeys : some parametersKey = some sourceKey := hkey.symm.trans hsource
    exact absurd hkeys (by decide)
  removed := h.removed

/-- What a patch can belong to: a story, or the argument of the meta, which loses nothing. -/
def Owned (compiled : CompiledStories) (p : Patch) : Prop :=
  (∃ c ∈ compiled.stories, StoryPatch c p) ∨
    (p.object ∈ compiled.declared.argument.outlines ∧ p.removed = [])

section Run

variable {file code runtimeModule component : Text} {template : TemplateStories}
  {compiled : CompiledStories} {d : Draft}

theorem exists_pair (h : passes file code runtimeModule component template compiled = .ok d)
    {c : CompiledStory} (hc : c ∈ compiled.stories) :
    ∃ t, (t, c) ∈ template.stories.zip compiled.stories := by
  rw [← List.map_snd_zip (Nat.le_of_eq (length_of_passes h).symm)] at hc
  obtain ⟨⟨t, c'⟩, hpair, rfl⟩ := List.mem_map.mp hc
  exact ⟨t, hpair⟩

/-- A patch is what the passes leave at a literal of one story, or at one of the meta. -/
theorem planned_of_passes (h : passes file code runtimeModule component template compiled = .ok d)
    (hdistinct : Distinct compiled) {p : Patch} (hp : p ∈ d.patches) :
    (∃ t c, (t, c) ∈ template.stories.zip compiled.stories ∧
      moveAt (t, c) p.object.span.start (describeAt (t, c) p.object.span.start none) = some p) ∨
    componentAt template.declared compiled.declared p.object.span.start none = some p := by
  have hat := (patches_of_passes h).1.at?_of_mem hp
  by_cases hstory : ∃ c ∈ compiled.stories, p.object.span.start ∈ starts c.properties
  · obtain ⟨c, hc, hstart⟩ := hstory
    obtain ⟨o, ho, hstart⟩ := List.mem_map.mp hstart
    obtain ⟨t, hpair⟩ := exists_pair h hc
    rw [← hstart, at?_story h hdistinct hpair ho, hstart] at hat
    exact .inl ⟨t, c, hpair, hat⟩
  · have hnone : ∀ s ∈ compiled.stories, p.object.span.start ∉ starts s.properties :=
      fun s hs hmem => hstory ⟨s, hs, hmem⟩
    rw [(patches_of_passes h).2, plannedAt_component hnone] at hat
    exact .inr hat

theorem object_eq_of_moveAt (hdistinct : Distinct compiled) {t : TemplateStory}
    {c : CompiledStory} (hc : c ∈ compiled.stories) {n : Nat} {p : Patch}
    (h : moveAt (t, c) n (describeAt (t, c) n none) = some p)
    (hstart : p.object.span.start = c.properties.span.start) : p.object = c.properties :=
  hdistinct.eq_of_start (mem_outlinesOf_story hc (reaches_of_moveAt h).mem_outlines)
    (mem_outlinesOf_story hc c.properties.self_mem_outlines) hstart

theorem storyPatch_of_moveAt (hdistinct : Distinct compiled) {t : TemplateStory}
    {c : CompiledStory} (hc : c ∈ compiled.stories) {p : Patch}
    (h : moveAt (t, c) p.object.span.start (describeAt (t, c) p.object.span.start none) = some p) :
    StoryPatch c p := by
  refine ⟨reaches_of_moveAt h, fun i hi => ?_⟩
  have hremoved := removedIn_moveAt (t, c) (n := p.object.span.start)
  rw [h] at hremoved
  rw [show p.removed = _ from hremoved] at hi
  split at hi
  · rename_i hcond
    exact ⟨object_eq_of_moveAt hdistinct hc h hcond.2, Option.mem_toList.mp hi⟩
  · cases hi

theorem owned_of_passes (h : passes file code runtimeModule component template compiled = .ok d)
    (hdistinct : Distinct compiled) {p : Patch} (hp : p ∈ d.patches) : Owned compiled p := by
  rcases planned_of_passes h hdistinct hp with ⟨t, c, hpair, hmove⟩ | hcomponent
  · have hc := (List.of_mem_zip hpair).2
    exact .inl ⟨c, hc, storyPatch_of_moveAt hdistinct hc hmove⟩
  · exact .inr ⟨object_of_componentAt hcomponent, removed_of_componentAt hcomponent⟩

end Run

end StoryExports.Transform
