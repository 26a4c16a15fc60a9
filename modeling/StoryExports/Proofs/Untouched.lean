import StoryExports.Proofs.Failures

/-!
# What a run leaves alone

A run cuts out the keywords that export the component and the `source` of some calls. It puts text
between braces and at the end. All other text is copied in its order, and a call about which the
template says nothing is copied as a whole.
-/
namespace StoryExports

namespace Span

/-- Strictly between the ends, so between the braces of what is in braces. -/
def Inside (s : Span) (n : Nat) : Prop := s.start < n ∧ n < s.stop

instance (s : Span) (n : Nat) : Decidable (s.Inside n) := inferInstanceAs (Decidable (_ ∧ _))

variable {s u : Span} {n : Nat}

theorem Inside.covers (h : s.Inside n) : s.Covers n := ⟨Nat.le_of_lt h.1, h.2⟩

theorem Inside.mono (h : s.Inside n) (hs : s.Within u) : u.Inside n :=
  ⟨Nat.lt_of_le_of_lt hs.1 h.1, Nat.lt_of_lt_of_le h.2 hs.2⟩

theorem Covers.mono (h : s.Covers n) (hs : s.Within u) : u.Covers n :=
  ⟨Nat.le_trans hs.1 h.1, Nat.lt_of_lt_of_le h.2 hs.2⟩

theorem not_covers_of_empty (pos : Nat) : ¬Covers ⟨pos, pos⟩ n := fun h =>
  Nat.lt_irrefl _ (Nat.lt_of_le_of_lt h.1 h.2)

theorem Avoids.not_covers (h : s.Avoids u) (hs : s.Covers n) : ¬u.Covers n := by
  intro hu
  obtain ⟨hs₁, hs₂⟩ := hs
  obtain ⟨hu₁, hu₂⟩ := hu
  rcases h with h | h <;> omega

end Span

namespace Text

/-- Copy a text, whose first byte has the offset `pos`: write `put n` at each offset `n`, and leave
out the characters that start at an offset in `cut`. -/
def weave (cut : Nat → Bool) (put : Nat → Text) (pos : Nat) : Text → Text
  | [] => put pos
  | c :: cs =>
    put pos ++ ((if cut pos then [] else [c]) ++ weave cut put (pos + c.utf8Size) cs)

section Weave

variable {cut : Nat → Bool} {put : Nat → Text}

theorem exists_weave_append (cut : Nat → Bool) (put : Nat → Text) (a b : Text) (pos : Nat) :
    ∃ x, weave cut put pos (a ++ b) = x ++ weave cut put (pos + bytes a) b := by
  induction a generalizing pos with
  | nil => exact ⟨[], by simp⟩
  | cons c a ih =>
    obtain ⟨x, hx⟩ := ih (pos + c.utf8Size)
    refine ⟨put pos ++ ((if cut pos then [] else [c]) ++ x), ?_⟩
    simp [weave, hx, Nat.add_assoc]

theorem weave_copied {pos : Nat} {m : Text}
    (h : ∀ n, pos ≤ n → n < pos + bytes m → cut n = false ∧ put n = []) (b : Text) :
    weave cut put pos (m ++ b) = m ++ weave cut put (pos + bytes m) b := by
  induction m generalizing pos with
  | nil => simp
  | cons c m ih =>
    have hc := c.utf8Size_pos
    rw [bytes_cons] at h
    obtain ⟨hcut, hput⟩ := h pos (Nat.le_refl _) (by omega)
    have hrest : weave cut put (pos + c.utf8Size) (m ++ b) = _ :=
      ih fun n hn hlt => h n (by omega) (by omega)
    simp [weave, hcut, hput, hrest, Nat.add_assoc]

/-- A part of the text in which nothing is cut and nothing put is a part of the copy. -/
theorem slice_infix_weave {t : Text} {s : Span} (hstart : t.isBoundary s.start = true)
    (hstop : t.isBoundary s.stop = true) (hle : s.start ≤ s.stop)
    (h : ∀ n, s.Covers n → cut n = false ∧ put n = []) :
    ∃ part, t.slice? s = some part ∧ part <:+: t.weave cut put 0 := by
  obtain ⟨a, m, b, rfl, ha, hm⟩ := exists_parts hstart hstop hle
  have hspan : s = ⟨bytes a, bytes a + bytes m⟩ := by rw [hm, ha]
  obtain ⟨x, hx⟩ := exists_weave_append cut put a (m ++ b) 0
  refine ⟨m, hspan ▸ slice?_parts a m b, x, weave cut put (0 + bytes a + bytes m) b, ?_⟩
  rw [hx, weave_copied fun n hn hlt => h n ⟨by omega, by omega⟩, List.append_assoc]

end Weave

end Text

namespace Edit

theorem render_eq_weave (edits : List Edit) (pos : Nat) (t : Text) :
    render edits pos t = t.weave (isCovered edits) (writtenAt edits) pos := by
  induction t generalizing pos with
  | nil => rfl
  | cons c t ih => rw [render, Text.weave, ih]

theorem isCovered_iff {edits : List Edit} {n : Nat} :
    isCovered edits n = true ↔ ∃ e ∈ edits, e.span.Covers n := by
  simp [isCovered, Span.Covers]

theorem exists_of_writtenAt {edits : List Edit} {n : Nat} (h : writtenAt edits n ≠ []) :
    ∃ e ∈ edits, e.span.start = n ∧ e.text ≠ [] := by
  by_contra hnone
  refine h ?_
  have hempty : ∀ e ∈ edits, e.span.start = n → e.text = [] := fun e he hstart =>
    Classical.byContradiction fun htext => hnone ⟨e, he, hstart, htext⟩
  simp only [writtenAt, List.append_eq_nil_iff, List.flatMap_eq_nil_iff, List.mem_filter,
    beq_iff_eq]
  exact ⟨fun e he => hempty e he.1.1 he.1.2, fun e he => hempty e he.1.1 he.1.2⟩

theorem Buffer.mem_removal_iff {s : Span} {e : Edit} :
    e ∈ removal s ↔ s.start ≠ s.stop ∧ e = ⟨s, []⟩ := by
  unfold removal
  split <;> simp_all

end Edit

namespace Patch

variable {p : Patch} {n : Nat}

/-- Only what is taken out is covered. -/
theorem exists_covers_edits_iff :
    (∃ e ∈ p.edits, e.span.Covers n) ↔ ∃ s ∈ p.removals, s.Covers n := by
  constructor
  · rintro ⟨e, he, hcovers⟩
    rcases mem_edits_cases he with hmem | ⟨pos, -, hspan⟩
    · exact ⟨e.span, hmem, hcovers⟩
    · exact absurd (hspan ▸ hcovers) (Span.not_covers_of_empty pos)
  · rintro ⟨s, hs, hcovers⟩
    have hne : s.start ≠ s.stop := Nat.ne_of_lt (Nat.lt_of_le_of_lt hcovers.1 hcovers.2)
    refine ⟨⟨s, []⟩, List.mem_append_left _ (List.mem_flatMap.mpr ⟨s, hs, ?_⟩), hcovers⟩
    exact Edit.Buffer.mem_removal_iff.mpr ⟨hne, rfl⟩

theorem removals_of_toList {i : Option Nat} (h : p.removed = i.toList) :
    p.removals = (i.bind (removalSpan p.object.properties)).toList := by
  cases i with
  | none => simp [removals, h, Edit.sortBy, mergeSpans]
  | some i =>
    cases hspan : removalSpan p.object.properties i <;>
      simp [removals, h, hspan, Edit.sortBy, mergeSpans, mergeFrom]

variable {t : Text} {o : Outline} {i : Nat} {property : Property PropertyValue}

theorem exists_removalSpan (h : o.Braced t) (hp : o.properties[i]? = some property) :
    ∃ s, removalSpan o.properties i = some s ∧ property.span.Within s := by
  simp only [removalSpan, hp]
  split
  · rename_i next hnext
    exact ⟨_, rfl, Nat.le_refl _, h.stop_le_start hp hnext (Nat.lt_succ_self i)⟩
  · cases i with
    | zero => exact ⟨_, rfl, .refl _⟩
    | succ j =>
      obtain ⟨hlt, -⟩ := List.getElem?_eq_some_iff.mp hp
      have hbefore := List.getElem?_eq_getElem (Nat.lt_of_succ_lt hlt)
      simp only [hbefore, Option.map_some]
      exact ⟨_, rfl, h.stop_le_start hbefore hp (Nat.lt_succ_self j), Nat.le_refl _⟩

end Patch

namespace Transform

open Story Patches Edit

/-- What goes with the `source` of a call. -/
def sourceSpan? (o : Outline) : Option Span :=
  (o.position? sourceKey).bind (Patch.removalSpan o.properties)

/-- The `source` goes with text that lies between the braces and belongs to no other property. -/
structure TakesSource (t : Text) (o : Outline) (i : Nat) (s : Span) : Prop where
  between : o.Between t s
  property : ∀ p, o.properties[i]? = some p → p.span.Within s
  others : ∀ j p, o.properties[j]? = some p → j ≠ i → s.Avoids p.span

theorem exists_sourceSpan {t : Text} {o : Outline} (h : o.Braced t) {i : Nat}
    (hi : o.position? sourceKey = some i) :
    ∃ s, sourceSpan? o = some s ∧ TakesSource t o i s := by
  obtain ⟨property, hproperty, -⟩ := Outline.getElem?_of_position? hi
  obtain ⟨s, hs, hwithin⟩ := Patch.exists_removalSpan h hproperty
  refine ⟨s, by simp [sourceSpan?, hi, hs], Patch.between_removalSpan h hs, fun p hp => ?_,
    fun j p hp hne => Patch.removalSpan_avoids h hs hp hne⟩
  obtain rfl : property = p := Option.some.inj (hproperty.symm.trans hp)
  exact hwithin

theorem between_sourceSpan {t : Text} {o : Outline} (h : o.Braced t) {s : Span}
    (hs : sourceSpan? o = some s) : o.Between t s := by
  obtain ⟨i, -, hs⟩ := Option.bind_eq_some_iff.mp hs
  exact Patch.between_removalSpan h hs

/-- The calls end between characters, and a new member of the pattern goes between its braces. -/
structure Delimited (t : Text) (m : CompiledStories) : Prop extends WellPlaced t m where
  call_ends : ∀ s ∈ m.stories, t.isBoundary s.span.start = true ∧ t.isBoundary s.span.stop = true
  joining_inside : m.declared.patternSpan.Inside m.declared.insertAt

instance (t : Text) (m : CompiledStories) : Decidable (Delimited t m) :=
  decidable_of_iff (WellPlaced t m ∧
      (∀ s ∈ m.stories, t.isBoundary s.span.start = true ∧ t.isBoundary s.span.stop = true) ∧
      m.declared.patternSpan.Inside m.declared.insertAt)
    ⟨fun ⟨h₁, h₂, h₃⟩ => ⟨h₁, h₂, h₃⟩, fun h => ⟨h.toWellPlaced, h.call_ends, h.joining_inside⟩⟩

/-- Where a run may change the text of a module: `cut` are the offsets that it leaves out, and
`put` is what it writes. -/
structure Changes (template : TemplateStories) (compiled : CompiledStories) (code : Text)
    (cut : Nat → Bool) (put : Nat → Text) : Prop where
  /-- What goes are the keywords that export the component and the `source` of the calls for which
  the template has one. -/
  cut_iff : ∀ n, cut n = true ↔ (exportSpan compiled.component).Covers n ∨
    ∃ t c s, (t, c) ∈ template.stories.zip compiled.stories ∧ t.source.isSome ∧
      sourceSpan? c.properties = some s ∧ s.Covers n
  /-- What comes stands at the end, or between the braces of the pattern, of the argument of the
  meta or of a call that has a comment or a source in the template. -/
  put_inside : ∀ n, put n ≠ [] → n = code.bytes ∨ compiled.declared.patternSpan.Inside n ∨
    compiled.declared.argument.span.Inside n ∨
    ∃ t c, (t, c) ∈ template.stories.zip compiled.stories ∧
      (t.comment.isSome ∨ t.source.isSome) ∧ c.properties.span.Inside n

theorem told_of_moveAt {t : TemplateStory} {c : CompiledStory} {n : Nat} {p : Patch}
    (h : moveAt (t, c) n (describeAt (t, c) n none) = some p) :
    t.comment.isSome ∨ t.source.isSome := by
  cases hcomment : t.comment with
  | some comment => exact .inl rfl
  | none =>
    cases hsource : t.source with
    | some source => exact .inr rfl
    | none => simp [moveAt, describeAt, hcomment, hsource] at h

section Frame

variable {code appendix : Text} {m : CompiledStories} {n : Nat}

theorem exists_covers_frame_iff (code appendix : Text) :
    (∃ e ∈ frame m code appendix, e.span.Covers n) ↔ (exportSpan m.component).Covers n := by
  constructor
  · rintro ⟨e, he, hcovers⟩
    rcases mem_frame_cases he with hspan | hspan | hspan <;> rw [hspan] at hcovers
    · exact absurd hcovers (Span.not_covers_of_empty _)
    · exact hcovers
    · exact absurd hcovers (Span.not_covers_of_empty _)
  · intro hcovers
    have hne := Nat.ne_of_lt (Nat.lt_of_le_of_lt hcovers.1 hcovers.2)
    refine ⟨⟨exportSpan m.component, []⟩, ?_, hcovers⟩
    simp only [frame, List.mem_append]
    exact .inl (.inr (Buffer.mem_removal_iff.mpr ⟨hne, rfl⟩))

theorem start_of_mem_frame {e : Edit} (he : e ∈ frame m code appendix) (htext : e.text ≠ []) :
    e.span.start = m.declared.insertAt ∨ e.span.start = code.bytes := by
  simp only [frame, List.mem_append, List.mem_singleton] at he
  rcases he with (he | he) | rfl
  · exact .inl (by rw [span_of_mem_metaEdits he])
  · rw [(Buffer.mem_removal_iff.mp he).2] at htext
    exact absurd rfl htext
  · exact .inr rfl

end Frame

section Run

variable {file code runtimeModule component : Text} {template : TemplateStories}
  {compiled : CompiledStories} {d : Draft}

/-- The patch of the properties of a call takes out their `source`. -/
theorem exists_patch_of_source
    (h : passes file code runtimeModule component template compiled = .ok d)
    (hdistinct : Distinct compiled) {t : TemplateStory} {c : CompiledStory}
    (hpair : (t, c) ∈ template.stories.zip compiled.stories) (hsource : t.source.isSome)
    {i : Nat} (hi : c.properties.position? sourceKey = some i) :
    ∃ p ∈ d.patches, p.object = c.properties ∧ p.removed = [i] := by
  have hat := at?_story h hdistinct hpair c.properties.self_mem_outlines
  have hremoved := removedIn_moveAt (t, c) (n := c.properties.span.start)
  rw [← hat, if_pos ⟨hsource, rfl⟩, hi] at hremoved
  cases hp : d.patches.at? c.properties.span.start with
  | none => simp [hp, removedIn] at hremoved
  | some p =>
    rw [hp] at hremoved
    have hmem : p ∈ d.patches := List.mem_of_find?_eq_some hp
    have hstart : p.object.span.start = c.properties.span.start := by
      simpa using List.find?_some hp
    have hc := (List.of_mem_zip hpair).2
    rw [hp] at hat
    exact ⟨p, hmem, object_eq_of_moveAt hdistinct hc hat.symm hstart, hremoved⟩

theorem source_of_mem_removals (hdistinct : Distinct compiled) {t : TemplateStory}
    {c : CompiledStory} (hc : c ∈ compiled.stories) {p : Patch}
    (h : moveAt (t, c) p.object.span.start (describeAt (t, c) p.object.span.start none) = some p)
    {s : Span} (hs : s ∈ p.removals) : t.source.isSome ∧ sourceSpan? c.properties = some s := by
  have hremoved := removedIn_moveAt (t, c) (n := p.object.span.start)
  rw [h] at hremoved
  split at hremoved
  · rename_i hcond
    rw [Patch.removals_of_toList hremoved, object_eq_of_moveAt hdistinct hc h hcond.2] at hs
    exact ⟨hcond.1, Option.mem_toList.mp hs⟩
  · rw [Patch.removals_of_toList (i := none) hremoved] at hs
    cases hs

theorem exists_covers_patches_iff
    (h : passes file code runtimeModule component template compiled = .ok d)
    (hdistinct : Distinct compiled) {n : Nat} :
    (∃ e ∈ d.patches.flatMap Patch.edits, e.span.Covers n) ↔
      ∃ t c s, (t, c) ∈ template.stories.zip compiled.stories ∧ t.source.isSome ∧
        sourceSpan? c.properties = some s ∧ s.Covers n := by
  constructor
  · rintro ⟨e, he, hcovers⟩
    obtain ⟨p, hp, he⟩ := List.mem_flatMap.mp he
    obtain ⟨s, hs, hcovers⟩ := Patch.exists_covers_edits_iff.mp ⟨e, he, hcovers⟩
    rcases planned_of_passes h hdistinct hp with ⟨t, c, hpair, hmove⟩ | hcomponent
    · obtain ⟨hsource, hspan⟩ :=
        source_of_mem_removals hdistinct (List.of_mem_zip hpair).2 hmove hs
      exact ⟨t, c, s, hpair, hsource, hspan, hcovers⟩
    · have hremoved := removed_of_componentAt hcomponent
      rw [Patch.removals_of_toList (i := none) hremoved] at hs
      cases hs
  · rintro ⟨t, c, s, hpair, hsource, hs, hcovers⟩
    obtain ⟨i, hi, hspan⟩ := Option.bind_eq_some_iff.mp hs
    obtain ⟨p, hp, hobject, hremoved⟩ := exists_patch_of_source h hdistinct hpair hsource hi
    have hmem : s ∈ p.removals := by
      rw [Patch.removals_of_toList (i := some i) hremoved, hobject]
      simp [hspan]
    obtain ⟨e, he, hcovers⟩ := Patch.exists_covers_edits_iff.mpr ⟨s, hmem, hcovers⟩
    exact ⟨e, List.mem_flatMap.mpr ⟨p, hp, he⟩, hcovers⟩

/-- The edits of the literals stay between braces. -/
theorem inside_of_patches (hplaced : WellPlaced code compiled)
    (h : passes file code runtimeModule component template compiled = .ok d) {e : Edit}
    (he : e ∈ d.patches.flatMap Patch.edits) :
    compiled.declared.argument.span.Inside e.span.start ∨
      ∃ t c, (t, c) ∈ template.stories.zip compiled.stories ∧
        (t.comment.isSome ∨ t.source.isSome) ∧ c.properties.span.Inside e.span.start := by
  obtain ⟨p, hp, he⟩ := List.mem_flatMap.mp he
  have hbetween := hplaced.between (owned_of_passes h hplaced.distinct hp) he
  have hinside : p.object.span.Inside e.span.start :=
    ⟨hbetween.after, Nat.lt_of_le_of_lt hbetween.ordered hbetween.before⟩
  rcases planned_of_passes h hplaced.distinct hp with ⟨t, c, hpair, hmove⟩ | hcomponent
  · have hnested := (hplaced.properties c (List.of_mem_zip hpair).2).2
    have hobject := (reaches_of_moveAt hmove).mem_outlines
    exact .inr ⟨t, c, hpair, told_of_moveAt hmove, hinside.mono (hnested.within hobject)⟩
  · exact .inl (hinside.mono (hplaced.argument.within (object_of_componentAt hcomponent)))

theorem isCovered_of_passes
    (h : passes file code runtimeModule component template compiled = .ok d)
    (hdistinct : Distinct compiled) (appendix : Text) (n : Nat) :
    isCovered (frame compiled code appendix ++ d.patches.flatMap Patch.edits) n = true ↔
      (exportSpan compiled.component).Covers n ∨
        ∃ t c s, (t, c) ∈ template.stories.zip compiled.stories ∧ t.source.isSome ∧
          sourceSpan? c.properties = some s ∧ s.Covers n := by
  rw [isCovered_iff, ← exists_covers_patches_iff h hdistinct,
    ← exists_covers_frame_iff code appendix]
  simp only [List.mem_append, or_and_right, exists_or]

theorem changes_of_passes (hplaced : Delimited code compiled)
    (h : passes file code runtimeModule component template compiled = .ok d) (appendix : Text) :
    Changes template compiled code
      (isCovered (frame compiled code appendix ++ d.patches.flatMap Patch.edits))
      (writtenAt (frame compiled code appendix ++ d.patches.flatMap Patch.edits)) where
  cut_iff := isCovered_of_passes h hplaced.distinct appendix
  put_inside n hput := by
    obtain ⟨e, he, rfl, htext⟩ := exists_of_writtenAt hput
    rcases List.mem_append.mp he with he | he
    · rcases start_of_mem_frame he htext with hstart | hend
      · rw [hstart]
        exact .inr (.inl hplaced.joining_inside)
      · exact .inl hend
    · exact .inr (.inr (inside_of_patches hplaced.toWellPlaced h he))

theorem WellPlaced.pairs_apart (h : WellPlaced code compiled)
    (hlength : template.stories.length = compiled.stories.length)
    {x y : TemplateStory × CompiledStory} (hx : x ∈ template.stories.zip compiled.stories)
    (hy : y ∈ template.stories.zip compiled.stories) (hne : x ≠ y) : x.2.span.Avoids y.2.span := by
  have hpairs := h.calls_apart
  rw [← List.map_snd_zip (Nat.le_of_eq hlength.symm), List.pairwise_map] at hpairs
  have hsymm : Std.Symm fun a b : TemplateStory × CompiledStory => a.2.span.Avoids b.2.span :=
    ⟨fun _ _ hab => hab.symm⟩
  exact hpairs.forall hx hy hne

/-- The keywords that export the component stand before its calls. -/
theorem WellPlaced.not_exported (h : WellPlaced code compiled) {c : CompiledStory}
    (hc : c ∈ compiled.stories) {n : Nat} (hn : c.span.Covers n) :
    ¬(exportSpan compiled.component).Covers n := by
  intro hexport
  exact absurd hexport.2 (Nat.not_lt.mpr (Nat.le_trans (h.calls c hc).1 hn.1))

/-- Nothing is cut from a call about which the template says nothing, and nothing is put in it. -/
theorem Changes.untouched {cut : Nat → Bool} {put : Nat → Text}
    (h : Changes template compiled code cut put) (hplaced : Delimited code compiled)
    (hlength : template.stories.length = compiled.stories.length) {t : TemplateStory}
    {c : CompiledStory} (hpair : (t, c) ∈ template.stories.zip compiled.stories)
    (hcomment : t.comment = none) (hsource : t.source = none) {n : Nat} (hn : c.span.Covers n) :
    cut n = false ∧ put n = [] := by
  have hc := (List.of_mem_zip hpair).2
  have hcomponent := hn.mono ((hplaced.calls c hc).trans hplaced.function_within)
  -- A call that is told something is another one, so it lies apart.
  have hother : ∀ t' c', (t', c') ∈ template.stories.zip compiled.stories →
      t'.comment.isSome ∨ t'.source.isSome → ¬c'.properties.span.Covers n := by
    intro t' c' hpair' htold hcovers
    have hne : (t, c) ≠ (t', c') := by
      rintro ⟨⟩
      simp [hcomment, hsource] at htold
    have happart := hplaced.pairs_apart hlength hpair hpair' hne
    have hwithin := (hplaced.properties c' (List.of_mem_zip hpair').2).1
    exact happart.not_covers hn (hcovers.mono hwithin)
  constructor
  · rw [Bool.eq_false_iff]
    intro hcut
    rcases (h.cut_iff n).mp hcut with hexport | ⟨t', c', s, hpair', hsome, hs, hcovers⟩
    · exact hplaced.not_exported hc hn hexport
    · have hbraced := (hplaced.properties c' (List.of_mem_zip hpair').2).2.braced
      exact hother t' c' hpair' (.inr hsome)
        (hcovers.mono (between_sourceSpan hbraced hs).within)
  · by_contra hput
    rcases h.put_inside n hput with rfl | hpattern | hargument | ⟨t', c', hpair', htold, hinside⟩
    · have hend := Text.le_bytes_of_isBoundary (hplaced.call_ends c hc).2
      exact absurd hn.2 (Nat.not_lt.mpr hend)
    · exact hplaced.pattern_apart.not_covers hpattern.covers hcomponent
    · exact hplaced.argument_apart.not_covers hargument.covers hcomponent
    · exact hother t' c' hpair' htold hinside.covers

/-- The output of a run is the text of the module with the changes that the template asks for, and
without any other. -/
theorem exportStories_leaves_rest (file code runtimeModule component out : Text)
    (template : TemplateStories) (compiled : CompiledStories) (h : Delimited code compiled)
    (hout : exportStories file code runtimeModule component template compiled = .ok out) :
    ∃ cut put, Changes template compiled code cut put ∧ out = code.weave cut put 0 ∧
      (∀ t c, (t, c) ∈ template.stories.zip compiled.stories → t.source.isSome →
        ∀ i, c.properties.position? sourceKey = some i →
          ∃ s, sourceSpan? c.properties = some s ∧ TakesSource code c.properties i s) ∧
      ∀ t c, (t, c) ∈ template.stories.zip compiled.stories → t.comment = none →
        t.source = none → ∃ call, code.slice? c.span = some call ∧ call <:+: out := by
  rw [exportStories_eq] at hout
  obtain ⟨d, hpasses, hfinish⟩ := bind_eq_ok hout
  obtain ⟨appendix, -, -, -, hrender⟩ := finish_of_passes h.toWellPlaced hpasses
  have hchanges := changes_of_passes h hpasses appendix
  rw [hrender, render_eq_weave] at hfinish
  cases hfinish
  refine ⟨_, _, hchanges, rfl, fun t c hpair _ i hi => ?_, fun t c hpair hcomment hsource => ?_⟩
  · exact exists_sourceSpan (h.properties c (List.of_mem_zip hpair).2).2.braced hi
  · have hc := (List.of_mem_zip hpair).2
    obtain ⟨hwithin, hnested⟩ := h.properties c hc
    have hle : c.span.start ≤ c.span.stop :=
      Nat.le_trans hwithin.1 (Nat.le_trans (Nat.le_of_lt hnested.braced.start_lt_stop) hwithin.2)
    obtain ⟨hstart, hstop⟩ := h.call_ends c hc
    refine Text.slice_infix_weave hstart hstop hle fun n hn => ?_
    exact hchanges.untouched h (length_of_passes hpasses) hpair hcomment hsource hn

end Run

theorem exportStories_sample_leaves_rest :
    ∃ m compiled out, Script.parseModule .javaScript sampleCode = some m ∧
      ofCompiled .standard m ['f'] = .ok compiled ∧ Delimited sampleCode compiled ∧
      exportStories ['f'] sampleCode ['r'] ['A'] sampleTemplate compiled = .ok out ∧
      "Story(c,\x7b\x7d)".toList <:+: out := by
  have hcheck : (Script.parseModule .javaScript sampleCode).any (fun m =>
      (ofCompiled .standard m ['f']).toOption.any fun compiled =>
        (exportStories ['f'] sampleCode ['r'] ['A'] sampleTemplate compiled).isOk &&
        decide (Delimited sampleCode compiled ∧
          compiled.stories[2]?.bind (sampleCode.slice? ·.span) =
            some "Story(c,\x7b\x7d)".toList)) = true := by
    decide +kernel
  obtain ⟨m, hm, hcheck⟩ := (Option.any_eq_true _ _).mp hcheck
  obtain ⟨compiled, hcompiled, hcheck⟩ := (Option.any_eq_true _ _).mp hcheck
  obtain ⟨hok, hcheck⟩ := Bool.and_eq_true_iff.mp hcheck
  obtain ⟨hplaced, hslice⟩ := of_decide_eq_true hcheck
  obtain ⟨out, hout⟩ := exists_of_isOk hok
  obtain ⟨c, hc, hslice⟩ := Option.bind_eq_some_iff.mp hslice
  obtain ⟨cut, put, -, -, -, hcalls⟩ := exportStories_leaves_rest ['f'] sampleCode ['r'] ['A'] out
    sampleTemplate compiled hplaced hout
  obtain ⟨call, hcall, hinfix⟩ := hcalls _ c (mem_zip_of_getElem? rfl hc) rfl rfl
  cases hslice.symm.trans hcall
  exact ⟨m, compiled, out, hm, eq_ok_of_toOption hcompiled, hplaced, hout, hinfix⟩

end Transform

end StoryExports
