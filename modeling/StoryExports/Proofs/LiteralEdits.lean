import StoryExports.Proofs.PatchedLists

/-!
# The edits at one literal

Of two literals of a module, one lies in a property of the other, or they lie apart. So what a run
changes between the braces of a literal, outside of its properties, is what the patch of this
literal changes: the edits of the other literals lie in its properties or outside of its braces,
unless the literal goes as a whole.
-/
namespace StoryExports

namespace Span

/-- The offset lies in the span or at one of its ends. -/
def Touches (s : Span) (n : Nat) : Prop := s.start ≤ n ∧ n ≤ s.stop

variable {s u : Span} {n : Nat}

theorem Covers.touches (h : s.Covers n) : s.Touches n := ⟨h.1, Nat.le_of_lt h.2⟩

theorem Avoids.not_touches (h : s.Avoids u) (hn : u.Inside n) : ¬s.Touches n := by
  intro ⟨hstart, hstop⟩
  obtain ⟨hu₁, hu₂⟩ := hn
  rcases h with h | h <;> omega

end Span

namespace Outline

variable {t : Text} {root x y : Outline}

/-- One of the literals lies in a property of the other, or they lie apart. -/
def ApartOrWithin (x y : Outline) : Prop :=
  x.span.Avoids y.span ∨ (∃ q ∈ x.properties, y.span.Within q.span) ∨
    ∃ q ∈ y.properties, x.span.Within q.span

theorem ApartOrWithin.symm (h : ApartOrWithin x y) : ApartOrWithin y x := by
  rcases h with h | h | h
  · exact .inl h.symm
  · exact .inr (.inr h)
  · exact .inr (.inl h)

theorem Nested.apartOrWithin (h : root.Nested t) (hx : x ∈ root.outlines)
    (hy : y ∈ root.outlines) (hne : x ≠ y) : ApartOrWithin x y := by
  induction root using value_induction with
  | step root ih =>
    have hroot : ∀ z ∈ outlinesIn root.properties, ApartOrWithin root z := by
      intro z hz
      obtain ⟨p, hp, hz⟩ := mem_outlinesIn.mp hz
      exact .inr (.inl ⟨p, hp, h.within_property hp hz⟩)
    rcases List.mem_cons.mp hx with rfl | hx <;> rcases List.mem_cons.mp hy with rfl | hy
    · exact absurd rfl hne
    · exact hroot y hy
    · exact (hroot x hx).symm
    · obtain ⟨p, hp, hx⟩ := mem_outlinesIn.mp hx
      obtain ⟨q, hq, hy⟩ := mem_outlinesIn.mp hy
      by_cases hpq : p = q
      · subst hpq
        obtain ⟨v, hv, hx⟩ := exists_value hx
        rw [outlines_of_object hv] at hy
        exact ih p hp v hv (h.value hp hv) hx hy
      · have hordered := h.braced.ordered.imp (S := fun p q => p.span.Avoids q.span) fun h => .inl h
        have hsymm : Std.Symm fun a b : Property PropertyValue => a.span.Avoids b.span :=
          ⟨fun _ _ hab => hab.symm⟩
        exact .inl ((hordered.forall hp hq hpq).mono (h.within_property hp hx)
          (h.within_property hq hy))

theorem place_of_missing {o : Outline} {k : Text} (h : o.get? k = none) (rest : List Text) :
    o.place (k :: rest) = .absent o (k :: rest) := by
  rw [place, h]

end Outline

namespace Edit

theorem writtenAt_congr {xs ys : List Edit} {n : Nat}
    (h : (xs.filter fun e => e.span.start == n) = ys.filter fun e => e.span.start == n) :
    writtenAt xs n = writtenAt ys n := by
  simp only [writtenAt, h]

theorem writtenAt_append_of_textless {xs ys : List Edit} (h : ∀ e ∈ xs, e.text = []) (n : Nat) :
    writtenAt (xs ++ ys) n = writtenAt ys n := by
  have hnone : ∀ P Q : Edit → Bool, ((xs.filter P).filter Q).flatMap (·.text) = [] :=
    fun P Q => List.flatMap_eq_nil_iff.mpr fun e he =>
      h e (List.mem_filter.mp (List.mem_filter.mp he).1).1
  simp only [writtenAt, List.filter_append, List.flatMap_append, hnone, List.nil_append]

theorem writtenAt_insertion (pos n : Nat) (text : Text) :
    writtenAt [⟨⟨pos, pos⟩, text⟩] n = if n = pos then text else [] := by
  have hinsertion : isInsertion ⟨⟨pos, pos⟩, text⟩ = true := isInsertion_iff.mpr rfl
  by_cases hn : n = pos
  · subst hn
    simp [writtenAt, hinsertion]
  · have hne : pos ≠ n := Ne.symm hn
    simp [writtenAt, hn, hne]

/-- Nothing is written inside of what is taken out, because the edits do not clash. -/
theorem writtenAt_inside_removal {t : Text} {edits : List Edit} (hfits : ∀ e ∈ edits, Fits t e)
    (hclash : ClashFree edits) {r : Span} (hr : ⟨r, []⟩ ∈ edits) {n : Nat} (hn : r.Inside n) :
    writtenAt edits n = [] := by
  by_contra hput
  obtain ⟨e, he, rfl, htext⟩ := exists_of_writtenAt hput
  have hsymm : Std.Symm fun a b : Edit => ¬Clash a b := ⟨fun _ _ hab hba => hab hba.symm⟩
  have hfar := hclash.forall he hr fun heq => htext (by rw [heq])
  by_cases hempty : e.span.start = e.span.stop
  · exact hfar (.inr (.inl ⟨isInsertion_iff.mpr hempty, hn.1, hn.2⟩))
  · have hlt := Nat.lt_of_le_of_ne (hfits e he).ordered hempty
    exact hfar (.inl ⟨e.span.start, ⟨Nat.le_refl _, hlt⟩, hn.covers⟩)

end Edit

theorem Patch.writtenAt_edits (p : Patch) (n : Nat) : Edit.writtenAt p.edits n = p.putAt n := by
  have htextless : ∀ e ∈ p.removals.flatMap Edit.Buffer.removal, e.text = [] := by
    intro e he
    obtain ⟨s, -, he⟩ := List.mem_flatMap.mp he
    rw [(Edit.Buffer.mem_removal_iff.mp he).2]
  rw [edits, Edit.writtenAt_append_of_textless htextless]
  unfold putAt
  cases p.addition with
  | none => rfl
  | some addition => exact Edit.writtenAt_insertion addition.1 n addition.2

section Remaining

variable {cut : Nat → Bool} {put : Nat → Text} {p : Patch} {t : Text}

theorem PatchedAt.remaining_eq (h : PatchedAt cut put p) (hbraced : p.object.Braced t)
    (hnonempty : ∀ q ∈ p.object.properties, q.span.start < q.span.stop) :
    p.remaining = p.object.properties.filter fun q => !cut q.span.start := by
  have hsame : ∀ x ∈ p.object.properties.zipIdx,
      (!p.removed.contains x.2) = (!cut x.1.span.start) := by
    intro ⟨q, j⟩ hx
    have hq := List.mem_zipIdx_iff_getElem?.mp hx
    have hiff := h.cut_start_iff hbraced hq (hnonempty q (List.mem_of_getElem? hq))
    rw [Bool.eq_iff_iff, Bool.not_eq_true', Bool.not_eq_true', ← Bool.not_eq_true,
      ← Bool.not_eq_true, List.contains_iff_mem, hiff]
  have hfst := List.zipIdx_map_fst 0 p.object.properties
  rw [Patch.remaining, List.filter_congr hsame]
  nth_rewrite 2 [← hfst]
  rw [List.filter_map]
  rfl

end Remaining

/-- The edits of the patch of another literal stay away from the gaps of a literal, unless that
literal lies in a property that the patch takes out. -/
theorem Outline.ApartOrWithin.not_touches {t : Text} {o : Outline} {p : Patch}
    (h : ApartOrWithin o p.object) (hlt : o.span.start < o.span.stop) (hbraced : p.object.Braced t)
    (hstays : ∀ r ∈ p.removals, ¬r.Covers o.span.start) {n : Nat} (hn : o.span.Inside n)
    (hfree : ∀ q ∈ o.properties, ¬q.span.Inside n) {e : Edit} (he : e ∈ p.edits) :
    ¬e.span.Touches n := by
  have hbetween := Patch.between_edits hbraced he
  rcases h with hapart | ⟨q, hq, hwithin⟩ | ⟨q, hq, hwithin⟩
  · exact (hapart.symm.mono hbetween.within (.refl _)).not_touches hn
  · intro htouches
    refine hfree q hq ⟨?_, ?_⟩
    · exact Nat.lt_of_le_of_lt hwithin.1 (Nat.lt_of_lt_of_le hbetween.after htouches.1)
    · exact Nat.lt_of_le_of_lt htouches.2 (Nat.lt_of_lt_of_le hbetween.before hwithin.2)
  · obtain ⟨j, hj⟩ := List.mem_iff_getElem?.mp hq
    by_cases hgone : j ∈ p.removed
    · -- All of the property is taken out, the literal with it.
      obtain ⟨s, hs, hproperty⟩ := Patch.exists_removalSpan hbraced hj
      obtain ⟨r, hr, hjoined⟩ := Patch.exists_within_removals hgone hs
      have hall := (hwithin.trans hproperty).trans hjoined
      exact absurd ⟨hall.1, Nat.lt_of_lt_of_le hlt hall.2⟩ (hstays r hr)
    · have haway := Patch.edits_avoid_property hbraced he hj hgone
      exact (haway.mono (.refl _) hwithin).not_touches hn

namespace Patches

/-- The patch of a literal. Where the table has none, it changes nothing. -/
def patchOf (ps : Patches) (o : Outline) : Patch := (ps.at? o.span.start).getD ⟨o, [], []⟩

variable {ps : Patches} {o : Outline}

/-- Where no other patch has an edit with a property, the edits with it are those of one patch. -/
theorem Ordered.filter_edits (h : ps.Ordered) {P : Edit → Bool}
    (hothers : ∀ p ∈ ps, p.object.span.start ≠ o.span.start → ∀ e ∈ p.edits, P e = false) :
    (ps.flatMap Patch.edits).filter P = (ps.patchOf o).edits.filter P := by
  have hnone : ∀ qs : List Patch, (∀ q ∈ qs, q ∈ ps ∧ q.object.span.start ≠ o.span.start) →
      (qs.flatMap Patch.edits).filter P = [] := by
    intro qs hqs
    refine List.filter_eq_nil_iff.mpr fun e he => ?_
    obtain ⟨q, hq, he⟩ := List.mem_flatMap.mp he
    simp [hothers q (hqs q hq).1 (hqs q hq).2 e he]
  unfold patchOf
  cases hat : ps.at? o.span.start with
  | none =>
    have hmissing : ∀ p ∈ ps, p.object.span.start ≠ o.span.start := by
      simpa [at?] using hat
    rw [hnone ps fun p hp => ⟨hp, hmissing p hp⟩]
    rfl
  | some p =>
    have hp : p ∈ ps := List.mem_of_find?_eq_some hat
    have hstart : p.object.span.start = o.span.start := by simpa using List.find?_some hat
    obtain ⟨before, after, hsplit⟩ := List.append_of_mem hp
    have hpairs := h
    unfold Ordered at hpairs
    rw [hsplit, List.pairwise_append, List.pairwise_cons] at hpairs
    have hbefore : ∀ q ∈ before, q ∈ ps ∧ q.object.span.start ≠ o.span.start := fun q hq =>
      ⟨by simp [hsplit, hq], hstart ▸ Nat.ne_of_lt (hpairs.2.2 q hq p (by simp))⟩
    have hafter : ∀ q ∈ after, q ∈ ps ∧ q.object.span.start ≠ o.span.start := fun q hq =>
      ⟨by simp [hsplit, hq], hstart ▸ Nat.ne_of_gt (hpairs.2.1.1 q hq)⟩
    rw [hsplit, List.flatMap_append, List.flatMap_cons, List.filter_append, List.filter_append,
      hnone before hbefore, hnone after hafter]
    simp

theorem patchOf_cases (ps : Patches) (o : Outline) :
    (ps.patchOf o ∈ ps ∧ (ps.patchOf o).object.span.start = o.span.start) ∨
      ps.patchOf o = ⟨o, [], []⟩ := by
  unfold patchOf
  cases hat : ps.at? o.span.start with
  | none => exact .inr rfl
  | some p => exact .inl ⟨List.mem_of_find?_eq_some hat, by simpa using List.find?_some hat⟩

theorem mem_edits_of_patchOf {e : Edit} (he : e ∈ (ps.patchOf o).edits) :
    e ∈ ps.flatMap Patch.edits := by
  rcases patchOf_cases ps o with ⟨hmem, -⟩ | hempty
  · exact List.mem_flatMap.mpr ⟨_, hmem, he⟩
  · rw [hempty] at he
    exact absurd he (by simp [Patch.edits, Patch.removals, Patch.addition, Edit.sortBy,
      Patch.mergeSpans])

theorem Ordered.patchOf_of_mem (h : ps.Ordered) {p : Patch} (hp : p ∈ ps) (ho : p.object = o) :
    ps.patchOf o = p := by
  rw [patchOf, ← ho, h.at?_of_mem hp, Option.getD_some]

section Patched

open Edit

variable {t : Text} {others edits : List Edit} (h : ps.Ordered)
  (hedits : edits = others ++ ps.flatMap Patch.edits) (hfits : ∀ e ∈ edits, Fits t e)
  (hothers : ∀ e ∈ others, ∀ n, o.span.Inside n → (∀ q ∈ o.properties, ¬q.span.Inside n) →
    ¬e.span.Touches n)
  (hpatches : ∀ p ∈ ps, p.object ≠ o → ∀ e ∈ p.edits, ∀ n, o.span.Inside n →
    (∀ q ∈ o.properties, ¬q.span.Inside n) → ¬e.span.Touches n)
include h hedits hothers hpatches

theorem Ordered.mem_patchOf_of_touches {n : Nat} (hn : o.span.Inside n)
    (hfree : ∀ q ∈ o.properties, ¬q.span.Inside n) {e : Edit} (he : e ∈ edits)
    (htouches : e.span.Touches n) : e ∈ (ps.patchOf o).edits := by
  rw [hedits] at he
  rcases List.mem_append.mp he with he | he
  · exact absurd htouches (hothers e he n hn hfree)
  · obtain ⟨p, hp, he⟩ := List.mem_flatMap.mp he
    by_cases hobject : p.object = o
    · rwa [h.patchOf_of_mem hp hobject]
    · exact absurd htouches (hpatches p hp hobject e he n hn hfree)

include hfits

theorem Ordered.writtenAt_patchOf {n : Nat} (hn : o.span.Inside n)
    (hfree : ∀ q ∈ o.properties, ¬q.span.Inside n) :
    writtenAt edits n = (ps.patchOf o).putAt n := by
  have htouches : ∀ e ∈ edits, e.span.start = n → e.span.Touches n := fun e he hstart =>
    ⟨Nat.le_of_eq hstart, hstart ▸ (hfits e he).ordered⟩
  have hnone : others.filter (fun e => e.span.start == n) = [] := by
    refine List.filter_eq_nil_iff.mpr fun e he hstart => ?_
    exact hothers e he n hn hfree
      (htouches e (hedits ▸ List.mem_append_left _ he) (beq_iff_eq.mp hstart))
  rw [← Patch.writtenAt_edits]
  refine writtenAt_congr ?_
  rw [hedits, List.filter_append, hnone, List.nil_append]
  refine h.filter_edits fun p hp hother e he => ?_
  have hmem : e ∈ ps.flatMap Patch.edits := List.mem_flatMap.mpr ⟨p, hp, he⟩
  refine beq_eq_false_iff_ne.mpr fun hstart => ?_
  exact hpatches p hp (fun heq => hother (heq ▸ rfl)) e he n hn hfree
    (htouches e (hedits ▸ List.mem_append_right _ hmem) hstart)

/-- Where all other edits stay away from the gaps of a literal, its patch makes the changes
there. -/
theorem Ordered.patchedAt (hclash : ClashFree edits) (hobject : (ps.patchOf o).object = o) :
    PatchedAt (isCovered edits) (writtenAt edits) (ps.patchOf o) := by
  have hown : ∀ e ∈ (ps.patchOf o).edits, e ∈ edits := fun e he => by
    rw [hedits]
    exact List.mem_append_right _ (mem_edits_of_patchOf he)
  have hgone : ∀ r ∈ (ps.patchOf o).removals, ∀ n, r.Covers n → isCovered edits n = true := by
    intro r hr n hcovers
    obtain ⟨e, he, hcovers⟩ := Patch.exists_covers_edits_iff.mpr ⟨r, hr, hcovers⟩
    exact isCovered_iff.mpr ⟨e, hown e he, hcovers⟩
  constructor
  · intro n hn hfree
    rw [hobject] at hn hfree
    exact h.writtenAt_patchOf hedits hfits hothers hpatches hn hfree
  · intro n hn hfree
    rw [hobject] at hn hfree
    refine ⟨fun hcut => ?_, fun ⟨r, hr, hcovers⟩ => hgone r hr n hcovers⟩
    obtain ⟨e, he, hcovers⟩ := isCovered_iff.mp hcut
    have hmem := h.mem_patchOf_of_touches hedits hothers hpatches hn hfree he hcovers.touches
    exact Patch.exists_covers_edits_iff.mp ⟨e, hmem, hcovers⟩
  · exact hgone
  · intro r hr n hinside
    have hne : r.start ≠ r.stop := Nat.ne_of_lt (Nat.lt_trans hinside.1 hinside.2)
    refine writtenAt_inside_removal hfits hclash (hown _ ?_) hinside
    refine List.mem_append_left _ (List.mem_flatMap.mpr ⟨r, hr, ?_⟩)
    exact Buffer.mem_removal_iff.mpr ⟨hne, rfl⟩

end Patched

end Patches

namespace Transform

open Story Patches Edit Outline Text

section Placed

variable {code : Text} {m : CompiledStories}

theorem mem_outlinesOf {o : Outline} : o ∈ outlinesOf m ↔
    (∃ c ∈ m.stories, o ∈ c.properties.outlines) ∨ o ∈ m.declared.argument.outlines := by
  rw [outlinesOf, List.mem_append, List.mem_flatMap]

theorem WellPlaced.braced_of_mem (h : WellPlaced code m) {o : Outline} (ho : o ∈ outlinesOf m) :
    o.Braced code := by
  rcases mem_outlinesOf.mp ho with ⟨c, hc, ho⟩ | ho
  · exact (h.properties c hc).2 o ho
  · exact h.argument o ho

theorem Owned.mem_outlinesOf {p : Patch} (h : Owned m p) : p.object ∈ outlinesOf m := by
  rcases h with ⟨c, hc, hp⟩ | ⟨hp, -⟩
  · exact mem_outlinesOf_story hc hp.object.mem_outlines
  · exact List.mem_append_right _ hp

theorem WellPlaced.apartOrWithin (h : WellPlaced code m) {x y : Outline} (hx : x ∈ outlinesOf m)
    (hy : y ∈ outlinesOf m) (hne : x ≠ y) : ApartOrWithin x y := by
  rcases mem_outlinesOf.mp hx with ⟨c, hc, hx⟩ | hx <;>
    rcases mem_outlinesOf.mp hy with ⟨c', hc', hy⟩ | hy
  · by_cases hsame : c = c'
    · subst hsame
      exact (h.properties c hc).2.apartOrWithin hx hy hne
    · have hsymm : Std.Symm fun a b : CompiledStory => a.span.Avoids b.span :=
        ⟨fun _ _ hab => hab.symm⟩
      exact .inl ((h.calls_apart.forall hc hc' hsame).mono (h.within_call hc hx)
        (h.within_call hc' hy))
  · exact .inl ((h.call_avoids_argument hc).mono (h.within_call hc hx) (h.argument.within hy))
  · exact .inl ((h.call_avoids_argument hc').symm.mono (h.argument.within hx)
      (h.within_call hc' hy))
  · exact h.argument.apartOrWithin hx hy hne

/-- The keywords that export the component, the end of the text and a new member of the pattern
lie apart from all literals. -/
theorem WellPlaced.frame_not_touches (h : WellPlaced code m)
    (hpattern : m.declared.patternSpan.Avoids m.declared.argument.span) {o : Outline}
    (ho : o ∈ outlinesOf m) (hend : o.span.stop ≤ code.bytes) {n : Nat} (hn : o.span.Inside n)
    {appendix : Text} {e : Edit} (he : e ∈ frame m code appendix) : ¬e.span.Touches n := by
  have hexport : (exportSpan m.component).Within m.component.span :=
    ⟨Nat.le_refl _, h.declaration.2⟩
  rcases mem_frame_cases he with hspan | hspan | hspan <;> rw [hspan]
  · rcases mem_outlinesOf.mp ho with ⟨c, hc, ho⟩ | ho
    · have hwithin := (h.within_function hc ho).trans h.function_within
      exact (h.pattern_apart.mono h.joining hwithin).not_touches hn
    · exact (hpattern.mono h.joining (h.argument.within ho)).not_touches hn
  · rcases mem_outlinesOf.mp ho with ⟨c, hc, ho⟩ | ho
    · exact Span.Avoids.not_touches (.inl (h.within_function hc ho).1) hn
    · exact (h.argument_apart.symm.mono hexport (h.argument.within ho)).not_touches hn
  · exact Span.Avoids.not_touches (.inr hend) hn

/-- The edits of the patch of another literal stay away, unless the literal is taken out. -/
theorem WellPlaced.patch_not_touches (h : WellPlaced code m) {p : Patch} (hp : Owned m p)
    {o : Outline} (ho : o ∈ outlinesOf m) (hne : o ≠ p.object)
    (hstays : ∀ r ∈ p.removals, ¬r.Covers o.span.start) {n : Nat} (hn : o.span.Inside n)
    (hfree : ∀ q ∈ o.properties, ¬q.span.Inside n) {e : Edit} (he : e ∈ p.edits) :
    ¬e.span.Touches n :=
  (h.apartOrWithin ho hp.mem_outlinesOf hne).not_touches (h.braced_of_mem ho).start_lt_stop
    (h.braced hp) hstays hn hfree he

end Placed

section Run

variable {file code runtimeModule component : Text} {template : TemplateStories}
  {compiled : CompiledStories} {d : Draft}

/-- Where the `source` is the only property of a call, there are no `parameters`, so the source of
the story has to be added here. -/
theorem added_of_only_source {t : TemplateStory} {c : CompiledStory} {source : Text}
    (hsource : t.source = some source) {property : Property PropertyValue}
    (honly : c.properties.properties = [property]) (hkey : property.key = some sourceKey)
    {p : Patch} (hmove : moveAt (t, c) c.properties.span.start
      (describeAt (t, c) c.properties.span.start none) = some p) : p.added ≠ [] := by
  have hmissing : c.properties.get? parametersKey = none := by
    simp only [get?, honly, List.reverse_cons, List.reverse_nil, List.nil_append]
    refine List.find?_eq_none.mpr fun q hq => ?_
    rw [List.mem_singleton.mp hq, hkey]
    decide
  have hplace : c.properties.place storySource = .absent c.properties storySource :=
    place_of_missing (k := parametersKey) hmissing _
  obtain ⟨p', hmove', hget⟩ := source_landed hsource hplace
  cases hmove.symm.trans hmove'
  intro hadded
  rw [hadded, NewValue.get?_nil] at hget
  cases hget

/-- What a patch takes out is one property at most, and where it is the only one, the patch adds
another. -/
theorem removed_of_passes (h : passes file code runtimeModule component template compiled = .ok d)
    (hdistinct : Distinct compiled) {p : Patch} (hp : p ∈ d.patches) :
    ∃ k : Option Nat, p.removed = k.toList ∧ ∀ i ∈ k, p.remaining = [] → p.added ≠ [] := by
  rcases planned_of_passes h hdistinct hp with ⟨t, c, hpair, hmove⟩ | hcomponent
  · have hremoved := removedIn_moveAt (t, c) (n := p.object.span.start)
    rw [hmove] at hremoved
    split at hremoved
    · rename_i hcond
      have hobject := object_eq_of_moveAt hdistinct (List.of_mem_zip hpair).2 hmove hcond.2
      refine ⟨c.properties.position? sourceKey, hremoved, fun i hi hnone => ?_⟩
      obtain ⟨property, hproperty, hkey⟩ := getElem?_of_position? hi
      obtain ⟨source, hsource⟩ := Option.isSome_iff_exists.mp hcond.1
      have hsingle : p.removed = [i] := by
        rw [show p.removed = _ from hremoved, show _ = some i from hi]
        rfl
      rw [Patch.remaining_of_singleton hsingle, hobject] at hnone
      rw [hcond.2] at hmove
      exact added_of_only_source hsource (eq_singleton_of_eraseIdx hproperty hnone) hkey hmove
    · exact ⟨none, hremoved, fun i hi => absurd hi (by simp)⟩
  · exact ⟨none, removed_of_componentAt hcomponent, fun i hi => absurd hi (by simp)⟩

theorem object_of_patchOf (h : passes file code runtimeModule component template compiled = .ok d)
    (hdistinct : Distinct compiled) {o : Outline} (ho : o ∈ outlinesOf compiled) :
    (d.patches.patchOf o).object = o := by
  rcases patchOf_cases d.patches o with ⟨hmem, hstart⟩ | hempty
  · exact hdistinct.eq_of_start (owned_of_passes h hdistinct hmem).mem_outlinesOf ho hstart
  · rw [hempty]

section Edits

variable {edits : List Edit} {appendix : Text} {o : Outline} {n : Nat}
  (hplaced : WellPlaced code compiled)
  (hpattern : compiled.declared.patternSpan.Avoids compiled.declared.argument.span)
  (h : passes file code runtimeModule component template compiled = .ok d)
  (hedits : edits = frame compiled code appendix ++ d.patches.flatMap Patch.edits)
  (hfits : ∀ e ∈ edits, Fits code e) (ho : o ∈ outlinesOf compiled)
  (hstays : isCovered edits o.span.start = false)
include hplaced h hedits ho hstays

/-- Between the braces of a literal that stays, outside of its properties, no other literal is
edited. -/
theorem others_not_touch (hn : o.span.Inside n) (hfree : ∀ q ∈ o.properties, ¬q.span.Inside n)
    {p : Patch} (hp : p ∈ d.patches) (hne : p.object ≠ o) {e : Edit} (he : e ∈ p.edits) :
    ¬e.span.Touches n := by
  refine hplaced.patch_not_touches (owned_of_passes h hplaced.distinct hp) ho (Ne.symm hne)
    (fun r hr hcovers => ?_) hn hfree he
  obtain ⟨f, hf, hcovers⟩ := Patch.exists_covers_edits_iff.mpr ⟨r, hr, hcovers⟩
  have hmem : f ∈ edits := by
    rw [hedits]
    exact List.mem_append_right _ (List.mem_flatMap.mpr ⟨p, hp, hf⟩)
  rw [isCovered_iff.mpr ⟨f, hmem, hcovers⟩] at hstays
  cases hstays

include hpattern hfits

/-- Between the braces of a literal, outside of its properties, a run makes the changes of the patch
of this literal. -/
theorem patchedAt_of_passes (hclash : ClashFree edits) (hend : o.span.stop ≤ code.bytes) :
    PatchedAt (isCovered edits) (writtenAt edits) (d.patches.patchOf o) := by
  refine (patches_of_passes h).1.patchedAt hedits hfits (fun e he n hn _ => ?_)
    (fun p hp hne e he n hn hfree => ?_) hclash (object_of_patchOf h hplaced.distinct ho)
  · exact hplaced.frame_not_touches hpattern ho hend hn he
  · exact others_not_touch hplaced h hedits ho hstays hn hfree hp hne he

end Edits

theorem removed_of_patchOf (h : passes file code runtimeModule component template compiled = .ok d)
    (hdistinct : Distinct compiled) (o : Outline) :
    ∃ k : Option Nat, (d.patches.patchOf o).removed = k.toList ∧
      ∀ i ∈ k, (d.patches.patchOf o).remaining = [] → (d.patches.patchOf o).added ≠ [] := by
  rcases patchOf_cases d.patches o with ⟨hmem, -⟩ | hempty
  · exact removed_of_passes h hdistinct hmem
  · exact ⟨none, by rw [hempty]; rfl, fun i hi => absurd hi (by simp)⟩

/-- A literal that stays is a list in the output: the properties that stay, and then those that are
added. -/
theorem hasList_of_passes (hplaced : WellPlaced code compiled)
    (hpattern : compiled.declared.patternSpan.Avoids compiled.declared.argument.span)
    (h : passes file code runtimeModule component template compiled = .ok d) {edits : List Edit}
    {appendix : Text} (hedits : edits = frame compiled code appendix ++
      d.patches.flatMap Patch.edits)
    (hfits : ∀ e ∈ edits, Fits code e) (hclash : ClashFree edits) {o : Outline}
    (ho : o ∈ outlinesOf compiled) (hlist : LaidOut code 1 o.span (o.properties.map (·.span)))
    (hstays : isCovered edits o.span.start = false) :
    HasList (isCovered edits) (writtenAt edits) code 1 o.span.start
      (((o.properties.filter fun q => !isCovered edits q.span.start).map fun q =>
          copyOf (isCovered edits) (writtenAt edits) code q.span) ++
        (d.patches.addedTo o).map fun e => some (NewValue.renderEntry e)) := by
  have hpatched :=
    patchedAt_of_passes hplaced hpattern h hedits hfits ho hstays hclash hlist.stop_le
  have hobject := object_of_patchOf h hplaced.distinct ho
  have hbraced := hplaced.braced_of_mem ho
  obtain ⟨k, hremoved, hk⟩ := removed_of_patchOf h hplaced.distinct o
  have hadded : d.patches.addedTo o = (d.patches.patchOf o).added := by
    rw [addedTo_eq, patchOf]
    cases d.patches.at? o.span.start <;> rfl
  have hremaining := hpatched.remaining_eq (hobject.symm ▸ hbraced)
    (fun q hq => hlist.start_lt_stop q.span (List.mem_map_of_mem (hobject ▸ hq)))
  have hlisted := hpatched.hasList (hobject.symm ▸ hbraced) (hobject.symm ▸ hlist)
    (hobject.symm ▸ hstays) hremoved hk
  rwa [hremaining, hobject, ← hadded] at hlisted

end Run

end Transform

end StoryExports
