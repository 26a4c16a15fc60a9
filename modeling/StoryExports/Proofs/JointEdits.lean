import StoryExports.Proofs.Owners
import StoryExports.Proofs.Rendering

/-!
# The edits of a run

When the parts of a module lie in its text as a parser finds them, all edits of a run fit the text
and none meets another: they are made in regions that lie apart, and inside one call the literal
that loses a property does not lose the one that holds the other literals.
-/
namespace StoryExports.Transform

open Story Patches Edit

/-- Where the parts of a compiled module lie. -/
structure WellPlaced (t : Text) (m : CompiledStories) : Prop where
  /-- The component function comes after the keywords that export it. -/
  declaration : m.component.span.start ≤ m.component.declarationStart ∧
    m.component.declarationStart ≤ m.component.span.stop
  component_start : t.isBoundary m.component.span.start = true
  declaration_start : t.isBoundary m.component.declarationStart = true
  /-- The calls are in the component function, none of them in another. -/
  calls : ∀ s ∈ m.stories, s.span.Within ⟨m.component.declarationStart, m.component.span.stop⟩
  calls_apart : m.stories.Pairwise fun a b => a.span.Avoids b.span
  properties : ∀ s ∈ m.stories, s.properties.span.Within s.span ∧ s.properties.Nested t
  argument : m.declared.argument.Nested t
  argument_apart : m.declared.argument.span.Avoids m.component.span
  /-- A new member of the pattern goes into the pattern. -/
  joining : Span.Within ⟨m.declared.insertAt, m.declared.insertAt⟩ m.declared.patternSpan
  joining_boundary : t.isBoundary m.declared.insertAt = true
  pattern_apart : m.declared.patternSpan.Avoids m.component.span

instance (t : Text) (m : CompiledStories) : Decidable (WellPlaced t m) :=
  decidable_of_iff ((m.component.span.start ≤ m.component.declarationStart ∧
        m.component.declarationStart ≤ m.component.span.stop) ∧
      t.isBoundary m.component.span.start = true ∧
      t.isBoundary m.component.declarationStart = true ∧
      (∀ s ∈ m.stories, s.span.Within ⟨m.component.declarationStart, m.component.span.stop⟩) ∧
      (m.stories.Pairwise fun a b => a.span.Avoids b.span) ∧
      (∀ s ∈ m.stories, s.properties.span.Within s.span ∧ s.properties.Nested t) ∧
      m.declared.argument.Nested t ∧ m.declared.argument.span.Avoids m.component.span ∧
      Span.Within ⟨m.declared.insertAt, m.declared.insertAt⟩ m.declared.patternSpan ∧
      t.isBoundary m.declared.insertAt = true ∧
      m.declared.patternSpan.Avoids m.component.span)
    ⟨fun ⟨h₁, h₂, h₃, h₄, h₅, h₆, h₇, h₈, h₉, h₁₀, h₁₁⟩ =>
        ⟨h₁, h₂, h₃, h₄, h₅, h₆, h₇, h₈, h₉, h₁₀, h₁₁⟩,
      fun h => ⟨h.declaration, h.component_start, h.declaration_start, h.calls, h.calls_apart,
        h.properties, h.argument, h.argument_apart, h.joining, h.joining_boundary,
        h.pattern_apart⟩⟩

namespace WellPlaced

variable {t : Text} {m : CompiledStories}

theorem within_call (h : WellPlaced t m) {s : CompiledStory} (hs : s ∈ m.stories) {o : Outline}
    (ho : o ∈ s.properties.outlines) : o.span.Within s.span :=
  ((h.properties s hs).2.within ho).trans (h.properties s hs).1

theorem within_function (h : WellPlaced t m) {s : CompiledStory} (hs : s ∈ m.stories) {o : Outline}
    (ho : o ∈ s.properties.outlines) :
    o.span.Within ⟨m.component.declarationStart, m.component.span.stop⟩ :=
  (h.within_call hs ho).trans (h.calls s hs)

theorem function_within (h : WellPlaced t m) :
    Span.Within ⟨m.component.declarationStart, m.component.span.stop⟩ m.component.span :=
  ⟨h.declaration.1, Nat.le_refl _⟩

theorem distinct (h : WellPlaced t m) : Distinct m := by
  unfold Distinct outlinesOf
  rw [List.map_append, List.nodup_append]
  refine ⟨?_, h.argument.unshared, ?_⟩
  · refine Outline.nodup_starts_flatMap (fun s hs o ho => ?_) (fun s hs => ?_) h.calls_apart
    · exact ⟨((h.properties s hs).2 o ho).start_lt_stop, h.within_call hs ho⟩
    · exact (h.properties s hs).2.unshared
  · simp only [List.mem_map, List.mem_flatMap]
    rintro _ ⟨x, ⟨s, hs, hx⟩, rfl⟩ _ ⟨y, hy, rfl⟩
    have hfar := h.argument_apart.mono (h.argument.within hy)
      ((h.within_function hs hx).trans h.function_within)
    exact hfar.symm.start_ne ((h.properties s hs).2 x hx).start_lt_stop
      (h.argument y hy).start_lt_stop

end WellPlaced

/-- What binding the meta records. -/
def metaEdits (declared : CompiledMeta) : List Edit :=
  match declared.metaName with
  | some _ => []
  | none => [⟨⟨declared.insertAt, declared.insertAt⟩, Draft.metaBinding declared.joining⟩]

theorem span_of_mem_metaEdits {declared : CompiledMeta} {e : Edit} (h : e ∈ metaEdits declared) :
    e.span = ⟨declared.insertAt, declared.insertAt⟩ := by
  unfold metaEdits at h
  split at h
  · cases h
  · rw [List.mem_singleton.mp h]

/-- The keywords that export the component. -/
def exportSpan (component : DefaultExport) : Span :=
  ⟨component.span.start, component.declarationStart⟩

/-- The edits outside of the literals. -/
def frame (m : CompiledStories) (code appendix : Text) : List Edit :=
  metaEdits m.declared ++ Buffer.removal (exportSpan m.component) ++
    [⟨⟨code.bytes, code.bytes⟩, appendix⟩]

theorem mem_frame_cases {m : CompiledStories} {code appendix : Text} {e : Edit}
    (h : e ∈ frame m code appendix) :
    e.span = ⟨m.declared.insertAt, m.declared.insertAt⟩ ∨ e.span = exportSpan m.component ∨
      e.span = ⟨code.bytes, code.bytes⟩ := by
  simp only [frame, List.mem_append, List.mem_singleton] at h
  rcases h with (h | h) | rfl
  · exact .inl (span_of_mem_metaEdits h)
  · exact .inr (.inl (Buffer.span_of_mem_removal h))
  · exact .inr (.inr rfl)

namespace WellPlaced

variable {code : Text} {m : CompiledStories}

theorem fits_frame (h : WellPlaced code m) (appendix : Text) {e : Edit}
    (he : e ∈ frame m code appendix) : Fits code e := by
  obtain ⟨span, text⟩ := e
  rcases mem_frame_cases he with rfl | rfl | rfl
  · exact ⟨Nat.le_refl _, h.joining_boundary, h.joining_boundary⟩
  · exact ⟨h.declaration.1, h.component_start, h.declaration_start⟩
  · exact ⟨Nat.le_refl _, Text.isBoundary_bytes code, Text.isBoundary_bytes code⟩

theorem joining_avoids_export (h : WellPlaced code m) :
    Span.Avoids ⟨m.declared.insertAt, m.declared.insertAt⟩ (exportSpan m.component) :=
  h.pattern_apart.mono h.joining ⟨Nat.le_refl _, h.declaration.2⟩

theorem export_avoids_end (h : WellPlaced code m) :
    (exportSpan m.component).Avoids ⟨code.bytes, code.bytes⟩ :=
  .inl (Text.le_bytes_of_isBoundary h.declaration_start)

theorem frame_avoids (h : WellPlaced code m) (appendix : Text) :
    (frame m code appendix).Pairwise fun a b => a.span.Avoids b.span := by
  unfold frame
  rw [List.pairwise_append, List.pairwise_append]
  refine ⟨⟨?_, Buffer.removal_pairwise _, fun a ha b hb => ?_⟩, List.pairwise_singleton _ _,
    fun a ha b hb => ?_⟩
  · unfold metaEdits
    split
    · exact .nil
    · exact List.pairwise_singleton _ _
  · rw [span_of_mem_metaEdits ha, Buffer.span_of_mem_removal hb]
    exact h.joining_avoids_export
  · rw [List.mem_singleton.mp hb]
    rcases List.mem_append.mp ha with ha | ha
    · rw [span_of_mem_metaEdits ha]
      exact Span.avoids_of_empty rfl rfl
    · rw [Buffer.span_of_mem_removal ha]
      exact h.export_avoids_end

theorem braced (h : WellPlaced code m) {p : Patch} (hp : Owned m p) : p.object.Braced code := by
  rcases hp with ⟨c, hc, hp⟩ | ⟨hp, -⟩
  · exact (h.properties c hc).2 _ hp.object.mem_outlines
  · exact h.argument _ hp

theorem between (h : WellPlaced code m) {p : Patch} (hp : Owned m p) {e : Edit}
    (he : e ∈ p.edits) : p.object.Between code e.span :=
  Patch.between_edits (h.braced hp) he

theorem edit_within_call (h : WellPlaced code m) {c : CompiledStory} (hc : c ∈ m.stories)
    {p : Patch} (hp : StoryPatch c p) {e : Edit} (he : e ∈ p.edits) : e.span.Within c.span :=
  (h.between (.inl ⟨c, hc, hp⟩) he).within.trans (h.within_call hc hp.object.mem_outlines)

theorem edit_within_argument (h : WellPlaced code m) {p : Patch}
    (hp : p.object ∈ m.declared.argument.outlines) {e : Edit} (he : e ∈ p.edits) :
    e.span.Within m.declared.argument.span :=
  (Patch.between_edits (h.argument _ hp) he).within.trans (h.argument.within hp)

theorem call_avoids_argument (h : WellPlaced code m) {c : CompiledStory} (hc : c ∈ m.stories) :
    c.span.Avoids m.declared.argument.span :=
  h.argument_apart.symm.mono ((h.calls c hc).trans h.function_within) (.refl _)

theorem patches_avoid (h : WellPlaced code m) {p q : Patch} (hp : Owned m p) (hq : Owned m q)
    (hne : p.object.span.start ≠ q.object.span.start) {e f : Edit} (he : e ∈ p.edits)
    (hf : f ∈ q.edits) : e.span.Avoids f.span := by
  rcases hp with ⟨c, hc, hp⟩ | ⟨hp, hnil⟩ <;> rcases hq with ⟨c', hc', hq⟩ | ⟨hq, hnil'⟩
  · by_cases hsame : c = c'
    · subst hsame
      exact hp.rooted.avoids (h.properties c hc).2 hq.rooted hne he hf
    · have hsymm : Std.Symm fun a b : CompiledStory => a.span.Avoids b.span :=
        ⟨fun _ _ hab => hab.symm⟩
      exact (h.calls_apart.forall hc hc' hsame).mono (h.edit_within_call hc hp he)
        (h.edit_within_call hc' hq hf)
  · exact (h.call_avoids_argument hc).mono (h.edit_within_call hc hp he)
      (h.edit_within_argument hq hf)
  · exact (h.call_avoids_argument hc').symm.mono (h.edit_within_argument hp he)
      (h.edit_within_call hc' hq hf)
  · -- Nothing is taken out of the argument, and insertions do not meet.
    exact Span.avoids_of_empty (Patch.insertion_of_mem_edits hnil he)
      (Patch.insertion_of_mem_edits hnil' hf)

theorem frame_avoids_patch (h : WellPlaced code m) {appendix : Text} {p : Patch} (hp : Owned m p)
    {e f : Edit} (he : e ∈ frame m code appendix) (hf : f ∈ p.edits) : e.span.Avoids f.span := by
  have hbound := Text.le_bytes_of_isBoundary (h.between hp hf).stop
  rcases mem_frame_cases he with hspan | hspan | hspan <;> rw [hspan]
  · rcases hp with ⟨c, hc, hp⟩ | ⟨hp, hnil⟩
    · exact h.pattern_apart.mono h.joining
        ((h.edit_within_call hc hp hf).trans ((h.calls c hc).trans h.function_within))
    · exact Span.avoids_of_empty rfl (Patch.insertion_of_mem_edits hnil hf)
  · rcases hp with ⟨c, hc, hp⟩ | ⟨hp, -⟩
    · exact .inl ((h.edit_within_call hc hp hf).trans (h.calls c hc)).1
    · exact h.argument_apart.symm.mono ⟨Nat.le_refl _, h.declaration.2⟩
        (h.edit_within_argument hp hf)
  · exact .inr hbound

/-- All edits of a run fit the text, and no two of them clash. -/
theorem joint (h : WellPlaced code m) {ps : Patches} (hordered : ps.Ordered)
    (howned : ∀ p ∈ ps, Owned m p) (appendix : Text) :
    (∀ e ∈ frame m code appendix ++ ps.flatMap Patch.edits, Fits code e) ∧
      ClashFree (frame m code appendix ++ ps.flatMap Patch.edits) := by
  have hbraced : ∀ p ∈ ps, p.object.Braced code := fun p hp => h.braced (howned p hp)
  have hfits : ∀ e ∈ frame m code appendix ++ ps.flatMap Patch.edits, Fits code e :=
    List.forall_mem_append.mpr ⟨fun e he => h.fits_frame appendix he, edits_fit hbraced⟩
  refine ⟨hfits, clashFree_of_avoids (fun e he => (hfits e he).ordered) ?_⟩
  refine List.pairwise_append.mpr ⟨h.frame_avoids appendix, ?_, fun e he f hf => ?_⟩
  · exact hordered.edits_avoid hbraced fun p hp q hq hne e he f hf =>
      h.patches_avoid (howned p hp) (howned q hq) hne he hf
  · obtain ⟨p, hp, hf⟩ := List.mem_flatMap.mp hf
    exact h.frame_avoids_patch (howned p hp) he hf

end WellPlaced

end StoryExports.Transform
