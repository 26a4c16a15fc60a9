import StoryExports.Proofs.Component
import StoryExports.Proofs.LiteralEdits

/-!
# Lists stay separated

The literals and the pattern of a module are lists in braces. In the output of a run they are lists
again, with one comma between any two items: the properties that remain are followed by those that
are added, and the pattern gains the member that binds the meta.
-/
namespace StoryExports

open Text

section Joining

variable {cut : Nat → Bool} {put : Nat → Text} {most a point : Nat} {l : BraceList most}
  {text : Text}

/-- The edits of a list from which nothing is left out. -/
theorem editedAt_of_uncut (hcut : ∀ n, a ≤ n → n < a + bytes l.text → cut n = false)
    (hput : ∀ n, a < n → n < a + bytes l.text → put n = if n = point then text else [])
    (stop : Nat) : EditedAt cut put a l point text ⟨stop, stop⟩ where
  put_eq n hn hlt _ := hput n hn hlt
  cut_iff n hn hlt _ := by simp [hcut n (Nat.le_of_lt hn) hlt, Span.not_covers_of_empty]
  gone_cut n hn := absurd hn (Span.not_covers_of_empty stop)
  gone_put n hn := absurd (Nat.lt_trans hn.1 hn.2) (Nat.lt_irrefl _)

theorem kept_eq_self {pos : Nat} {items : List (Text × Text)}
    (hcut : ∀ n, pos ≤ n → n < pos + bytes (itemsText items) → cut n = false)
    (hput : ∀ q ∈ itemSpans pos items, ∀ n, q.Inside n → put n = []) :
    kept cut put pos items = items := by
  induction items generalizing pos with
  | nil => rfl
  | cons i items ih =>
    rw [itemsText_cons, bytes_append, bytes_append] at hcut
    obtain ⟨hfirst, hrest⟩ := List.forall_mem_cons.mp hput
    have himage : image cut put pos i.1 = i.1 :=
      image_uniform false (fun n hn hlt => hfirst n ⟨hn, hlt⟩)
        fun n hn hlt => hcut n hn (by omega)
    rw [kept, himage, ih (fun n hn hlt => hcut n (by omega) (by omega)) hrest]

/-- Items are copied as they are where nothing is put inside them. -/
theorem kept_of_uncut (hcut : ∀ n, a ≤ n → n < a + bytes l.text → cut n = false)
    (hput : ∀ n, a < n → n < a + bytes l.text → put n = if n = point then text else [])
    (hpoint : ∀ q ∈ l.spans a, ¬q.Inside point) :
    kept cut put (l.first a) l.items = l.items := by
  have hend := bytes_text_eq l a
  have hfirst := l.lt_first a
  refine kept_eq_self (fun n hn hlt => hcut n (by omega) (by omega)) fun q hq n hn => ?_
  obtain ⟨hstart, -, hstop⟩ := itemSpans_bounds hq
  obtain ⟨hlow, hhigh⟩ := hn
  rw [hput n (by omega) (by omega), if_neg]
  rintro rfl
  exact hpoint q hq ⟨hlow, hhigh⟩

/-- Items after the last one, or none. -/
theorem copiedAs_after {added : List Text}
    (hcut : ∀ n, a ≤ n → n < a + bytes l.text → cut n = false)
    (hput : ∀ n, a < n → n < a + bytes l.text →
      put n = if n = lastStop (l.first a) l.items then following added else [])
    (hitems : l.items ≠ []) (hadded : ∀ x ∈ added, x ≠ []) :
    CopiedAs cut put a l (l.items.map (·.1) ++ added) := by
  have hkept := kept_of_uncut hcut hput fun q hq hinside =>
    absurd hinside.2 (Nat.not_lt.mpr (stop_le_lastStop hq))
  have hcopied := (editedAt_of_uncut hcut hput _).appended hitems rfl (Nat.le_refl _) hadded
  rwa [hkept] at hcopied

/-- An item before the last one. -/
theorem copiedAs_before {u : List (Text × Text)} {i : Text × Text} {x : Text}
    (hcut : ∀ n, a ≤ n → n < a + bytes l.text → cut n = false)
    (hput : ∀ n, a < n → n < a + bytes l.text →
      put n = if n = l.first a + bytes (itemsText u) then x ++ ", ".toList else [])
    (hitems : l.items = u ++ [i]) (hx : x ≠ []) :
    CopiedAs cut put a l (u.map (·.1) ++ [x, i.1]) := by
  have hkept := kept_of_uncut hcut hput <|
    not_inside_spans (v := []) (w := [i]) hitems (Nat.le_refl _) (by simp)
      fun q hq => absurd hq List.not_mem_nil
  rw [hitems, kept_append] at hkept
  obtain ⟨hbefore, hafter⟩ := List.append_inj hkept (by simp)
  have hlast : image cut put (l.first a + bytes (itemsText u)) i.1 = i.1 :=
    congrArg Prod.fst (List.cons.inj hafter).1
  have hcopied := (editedAt_of_uncut hcut hput _).joined_before hitems rfl (Nat.le_refl _) hx
  rwa [hbefore, hlast] at hcopied

end Joining

namespace Story

open Script (Item Node)

def isRest : Node → Bool
  | .member _ .spread _ _ => true
  | _ => false

/-- Whether the last member of a pattern takes what is left. -/
def endsInRest (members : List Node) : Bool := members.getLast?.any isRest

/-- How many commas may come after the last member of a pattern: none after the one that takes what
is left. -/
def lastCommas (members : List Node) : Nat := if endsInRest members then 0 else 1

/-- Members with a new one: before the last member if it takes what is left, or else after it. -/
def withMember {α : Type} (rest : Bool) (x : α) (xs : List α) : List α :=
  if rest then xs.dropLast ++ x :: xs.getLast?.toList else xs ++ [x]

def membersOf : Node → List Node
  | .objectPattern _ members => members
  | _ => []

/-- The members of the pattern that takes the results of the meta. -/
def metaMembers (aliases : Aliases) (m : List Item) : List Node :=
  ((findMeta? (aliases.resolve .defineMeta) m).map fun found => membersOf found.pattern).getD []

theorem joiningPoint_of_readMeta {aliases : Aliases} {file : Text} {m : List Item}
    {declared : CompiledMeta} (h : readMeta aliases file m = .ok declared) :
    joiningPoint declared.patternSpan (metaMembers aliases m) =
      (declared.insertAt, declared.joining) := by
  unfold readMeta at h
  split at h
  · cases h
  · rename_i found hfound
    split at h
    · cases h
    · split at h
      · rename_i hpattern
        cases h
        simp only [metaMembers, hfound, Option.map_some, Option.getD_some, hpattern, membersOf]
        rfl
      · cases h

/-- The three ways to join a pattern. -/
theorem joiningPoint_cases (s : Span) (members : List Node) :
    (members = [] ∧ endsInRest members = false ∧ joiningPoint s members = (s.stop - 1, .empty)) ∨
      ∃ before last, members = before ++ [last] ∧
        ((endsInRest members = true ∧
            joiningPoint s members = (last.span.start, .beforeRest)) ∨
          endsInRest members = false ∧ joiningPoint s members = (last.span.stop, .afterLast)) := by
  rcases List.eq_nil_or_concat' members with rfl | ⟨before, last, rfl⟩
  · exact .inl ⟨rfl, rfl, rfl⟩
  · refine .inr ⟨before, last, rfl, ?_⟩
    simp only [endsInRest, joiningPoint, List.getLast?_append, List.getLast?_singleton,
      Option.some_or, Option.any_some]
    unfold isRest
    split <;> simp [Node.span]

end Story

section Pattern

open Story Transform
open Script (Node)

variable {cut : Nat → Bool} {put : Nat → Text} {most : Nat} {t : Text} {s : Span}
  {members : List Node}

/-- A list of members in parts, with what is known of a copy that leaves nothing out. -/
theorem exists_list_of_members (put : Nat → Text) (ht : LaidOut t most s (members.map (·.span)))
    (hcut : ∀ n, s.Covers n → cut n = false) :
    ∃ (a : Nat) (l : BraceList most), s = ⟨a, a + bytes l.text⟩ ∧
      l.spans a = members.map (·.span) ∧
      (members.map fun q => t.slice? q.span) = l.items.map (some ∘ (·.1)) ∧
      ∀ items, CopiedAs cut put a l items → HasList cut put t most a (items.map some) := by
  obtain ⟨before, after, l, hparts, rfl, hspans⟩ := ht.exists_list
  have hslices := l.slices hparts
  rw [hspans, List.map_map] at hslices
  have hend := bytes_text_eq l (bytes before)
  have hfirst := l.lt_first (bytes before)
  refine ⟨bytes before, l, rfl, hspans, hslices, fun items => ?_⟩
  exact hasList_copy hparts (hcut _ ⟨Nat.le_refl _, by simp only; omega⟩)
    (hcut _ ⟨by simp only; omega, by simp only; omega⟩)

/-- A copy that changes nothing in a list of members has the same list. -/
theorem hasList_unchanged (ht : LaidOut t most s (members.map (·.span)))
    (hcut : ∀ n, s.Covers n → cut n = false) (hput : ∀ n, s.Inside n → put n = []) :
    HasList cut put t most s.start (members.map fun q => t.slice? q.span) := by
  obtain ⟨a, l, rfl, -, hslices, hcopy⟩ := exists_list_of_members put ht hcut
  have hcut : ∀ n, a ≤ n → n < a + bytes l.text → cut n = false :=
    fun n hn hlt => hcut n ⟨hn, hlt⟩
  have hput : ∀ point n, a < n → n < a + bytes l.text → put n = if n = point then [] else [] := by
    intro point n hn hlt
    rw [hput n ⟨hn, hlt⟩, ite_self]
  have hcopied : CopiedAs cut put a l (l.items.map (·.1)) := by
    by_cases hitems : l.items = []
    · rw [hitems]
      exact (editedAt_of_uncut hcut (hput (l.first a)) (l.first a)).empty hitems (Nat.le_refl _)
        (Nat.le_refl _)
    · have hall : CopiedAs cut put a l (_ ++ []) :=
        copiedAs_after hcut (hput _) hitems fun x hx => absurd hx List.not_mem_nil
      rwa [List.append_nil] at hall
  have hlist := hcopy _ hcopied
  rwa [List.map_map, ← hslices] at hlist

/-- A copy that binds the meta in a pattern has one member more. -/
theorem hasList_joined (ht : LaidOut t most s (members.map (·.span)))
    (hcut : ∀ n, s.Covers n → cut n = false)
    (hput : ∀ n, s.Inside n → put n = if n = (joiningPoint s members).1 then
      Draft.metaBinding (joiningPoint s members).2 else []) :
    HasList cut put t most s.start
      (withMember (endsInRest members) (some metaKey) (members.map fun q => t.slice? q.span)) := by
  obtain ⟨a, l, rfl, hspans, hslices, hcopy⟩ := exists_list_of_members put ht hcut
  have hcut : ∀ n, a ≤ n → n < a + bytes l.text → cut n = false :=
    fun n hn hlt => hcut n ⟨hn, hlt⟩
  have hput : ∀ n, a < n → n < a + bytes l.text → _ := fun n hn hlt => hput n ⟨hn, hlt⟩
  have hkey : metaKey ≠ [] := by decide
  have hkeys : ∀ x ∈ [metaKey], x ≠ [] := fun x hx => List.mem_singleton.mp hx ▸ hkey
  have hlength : l.items.length = members.length := by
    simpa [BraceList.spans] using congrArg List.length hspans
  rw [hslices]
  rcases joiningPoint_cases ⟨a, a + bytes l.text⟩ members with
    ⟨rfl, hrest, hjoining⟩ | ⟨init, last, rfl, hlast⟩
  · have hitems : l.items = [] := List.length_eq_zero_iff.mp hlength
    have hpoint : a + bytes l.text - 1 = l.first a := by simp [bytes_text_eq, hitems]
    rw [hjoining] at hput
    have hfilled : CopiedAs cut put a l [metaKey] :=
      (editedAt_of_uncut hcut hput _).filled hitems hpoint rfl (Nat.le_refl _)
        (List.cons_ne_nil _ _) hkeys
    rw [hrest, hitems]
    exact hcopy _ hfilled
  obtain ⟨u, i, hitems⟩ : ∃ u i, l.items = u ++ [i] := by
    rcases List.eq_nil_or_concat' l.items with hnil | hconcat
    · simp [hnil] at hlength
    · exact hconcat
  have hspan : last.span = ⟨l.first a + bytes (itemsText u),
      l.first a + bytes (itemsText u) + bytes i.1⟩ := by
    rw [l.spans_eq, hitems, itemSpans_append, List.map_append] at hspans
    exact (List.cons.inj (List.append_inj' hspans rfl).2).1.symm
  rcases hlast with ⟨hrest, hjoining⟩ | ⟨hrest, hjoining⟩ <;> rw [hjoining, hspan] at hput
  · have hcopied := hcopy _ (copiedAs_before hcut hput hitems hkey)
    rw [hrest, hitems]
    simpa [withMember] using hcopied
  · have hstop : l.first a + bytes (itemsText u) + bytes i.1 = lastStop (l.first a) l.items := by
      rw [hitems, lastStop_append _ _ _ (List.cons_ne_nil _ _)]
      rfl
    rw [hstop] at hput
    have hcopied : HasList _ _ _ _ _ ((_ ++ [metaKey]).map some) :=
      hcopy _ (copiedAs_after hcut hput (by simp [hitems]) hkeys)
    rw [hrest]
    simpa [withMember] using hcopied

end Pattern

namespace Transform

open Story Patches Edit

section Run

variable {file code runtimeModule component : Text} {template : TemplateStories}
  {compiled : CompiledStories} {d : Draft}

/-- What a run puts between the braces of the pattern. -/
def metaText (declared : CompiledMeta) : Text :=
  match declared.metaName with
  | some _ => []
  | none => Draft.metaBinding declared.joining

theorem writtenAt_metaEdits (declared : CompiledMeta) (n : Nat) :
    writtenAt (metaEdits declared) n = if n = declared.insertAt then metaText declared else [] := by
  unfold metaEdits metaText
  cases declared.metaName with
  | some name => exact (ite_self _).symm
  | none => exact writtenAt_insertion declared.insertAt n _

theorem WellPlaced.patch_avoids_pattern (hplaced : WellPlaced code compiled)
    (hpattern : compiled.declared.patternSpan.Avoids compiled.declared.argument.span) {p : Patch}
    (hp : Owned compiled p) {e : Edit} (he : e ∈ p.edits) :
    e.span.Avoids compiled.declared.patternSpan := by
  rcases hp with ⟨c, hc, hp⟩ | ⟨hp, -⟩
  · have hwithin := (hplaced.edit_within_call hc hp he).trans
      ((hplaced.calls c hc).trans hplaced.function_within)
    exact hplaced.pattern_apart.symm.mono hwithin (.refl _)
  · exact hpattern.symm.mono (hplaced.edit_within_argument hp he) (.refl _)

/-- Between the braces of the pattern, a run puts what binds the meta. -/
theorem writtenAt_pattern (hplaced : WellPlaced code compiled)
    (hpattern : compiled.declared.patternSpan.Avoids compiled.declared.argument.span)
    (h : passes file code runtimeModule component template compiled = .ok d) (appendix : Text)
    (hend : compiled.declared.patternSpan.stop ≤ code.bytes) {n : Nat}
    (hn : compiled.declared.patternSpan.Inside n) :
    writtenAt (frame compiled code appendix ++ d.patches.flatMap Patch.edits) n =
      if n = compiled.declared.insertAt then metaText compiled.declared else [] := by
  rw [← writtenAt_metaEdits]
  refine writtenAt_congr ?_
  have hexport : (Buffer.removal (exportSpan compiled.component)).filter
      (fun e => e.span.start == n) = [] := by
    refine List.filter_eq_nil_iff.mpr fun e he hstart => ?_
    obtain ⟨hne, rfl⟩ := Buffer.mem_removal_iff.mp he
    have hlt := Nat.lt_of_le_of_ne hplaced.declaration.1 hne
    have hstart : (exportSpan compiled.component).start = n := beq_iff_eq.mp hstart
    have hcovers : (exportSpan compiled.component).Covers n := hstart ▸ ⟨Nat.le_refl _, hlt⟩
    exact hplaced.pattern_apart.not_covers hn.covers
      (hcovers.mono ⟨Nat.le_refl _, hplaced.declaration.2⟩)
  have happendix : [(⟨⟨code.bytes, code.bytes⟩, appendix⟩ : Edit)].filter
      (fun e => e.span.start == n) = [] := by
    have hlt := hn.2
    exact List.filter_eq_nil_iff.mpr fun e he => by
      rw [List.mem_singleton.mp he, beq_iff_eq]
      simp only
      omega
  have hpatches : (d.patches.flatMap Patch.edits).filter (fun e => e.span.start == n) = [] := by
    refine List.filter_eq_nil_iff.mpr fun e he hstart => ?_
    obtain ⟨p, hp, he⟩ := List.mem_flatMap.mp he
    have howned := owned_of_passes h hplaced.distinct hp
    have hordered := (hplaced.between howned he).ordered
    rw [beq_iff_eq] at hstart
    exact (hplaced.patch_avoids_pattern hpattern howned he).not_touches hn
      ⟨Nat.le_of_eq hstart, hstart ▸ hordered⟩
  rw [frame, List.filter_append, List.filter_append, List.filter_append, hexport, happendix,
    hpatches]
  simp

/-- Nothing is cut from the pattern. -/
theorem Changes.pattern_uncut {cut : Nat → Bool} {put : Nat → Text}
    (h : Changes template compiled code cut put) (hplaced : WellPlaced code compiled) {n : Nat}
    (hn : compiled.declared.patternSpan.Covers n) : cut n = false := by
  rw [Bool.eq_false_iff]
  intro hcut
  refine hplaced.pattern_apart.not_covers hn ?_
  rcases (h.cut_iff n).mp hcut with hexport | ⟨t, c, s, hpair, -, hs, hcovers⟩
  · exact hexport.mono ⟨Nat.le_refl _, hplaced.declaration.2⟩
  · have hc := (List.of_mem_zip hpair).2
    have hwithin := (between_sourceSpan (hplaced.properties c hc).2.braced hs).within
    have hobject := hplaced.within_function hc c.properties.self_mem_outlines
    exact hcovers.mono (hwithin.trans (hobject.trans hplaced.function_within))

/-- The members of the pattern after a run: one more, unless the meta has a name already. -/
def boundMembers (declared : CompiledMeta) (members : List Script.Node)
    (texts : List (Option Text)) : List (Option Text) :=
  if declared.metaName.isSome then texts
  else withMember (endsInRest members) (some metaKey) texts

theorem hasList_pattern (hplaced : WellPlaced code compiled)
    (hpattern : compiled.declared.patternSpan.Avoids compiled.declared.argument.span)
    (h : passes file code runtimeModule component template compiled = .ok d) {appendix : Text}
    {cut : Nat → Bool} (hcut : ∀ n, compiled.declared.patternSpan.Covers n → cut n = false)
    {members : List Script.Node} {most : Nat}
    (hjoining : joiningPoint compiled.declared.patternSpan members =
      (compiled.declared.insertAt, compiled.declared.joining))
    (hlist : LaidOut code most compiled.declared.patternSpan (members.map (·.span))) :
    HasList cut (writtenAt (frame compiled code appendix ++ d.patches.flatMap Patch.edits)) code
      most compiled.declared.patternSpan.start
      (boundMembers compiled.declared members (members.map fun q => code.slice? q.span)) := by
  have hput := fun n hn =>
    writtenAt_pattern (n := n) hplaced hpattern h appendix hlist.stop_le hn
  unfold boundMembers
  unfold metaText at hput
  cases hname : compiled.declared.metaName with
  | some name =>
    simp only [hname, ite_self] at hput
    exact hasList_unchanged hlist hcut hput
  | none =>
    simp only [hname] at hput
    refine hasList_joined hlist hcut fun n hn => ?_
    rw [hput n hn, hjoining]

/-- The lists in braces of a module stay separated. Where the module has literals and a pattern with
one comma between any two items, the output has them as well. A literal that is not cut as a whole
has the properties that are not cut, in their order, and then those that are added. The pattern has
its members, and one more unless the meta has a name already. -/
theorem exportStories_keeps_lists_separated (options : Options) (m : List Script.Item)
    (file code runtimeModule component out : Text) (template : TemplateStories)
    (compiled : CompiledStories) (hcompiled : ofCompiled options m file = .ok compiled)
    (hplaced : Delimited code compiled)
    (hpattern : compiled.declared.patternSpan.Avoids compiled.declared.argument.span)
    (hliterals : ∀ o ∈ outlinesOf compiled, LaidOut code 1 o.span (o.properties.map (·.span)))
    (hmembers : LaidOut code (lastCommas (metaMembers (Aliases.ofModule options m) m))
      compiled.declared.patternSpan ((metaMembers (Aliases.ofModule options m) m).map (·.span)))
    (hout : exportStories file code runtimeModule component template compiled = .ok out) :
    ∃ d cut put, passes file code runtimeModule component template compiled = .ok d ∧
      Changes template compiled code cut put ∧ out = code.weave cut put 0 ∧
      (∀ o ∈ outlinesOf compiled, cut o.span.start = false →
        HasList cut put code 1 o.span.start
          (((o.properties.filter fun q => !cut q.span.start).map fun q =>
              copyOf cut put code q.span) ++
            (d.patches.addedTo o).map fun e => some (NewValue.renderEntry e))) ∧
      HasList cut put code (lastCommas (metaMembers (Aliases.ofModule options m) m))
        compiled.declared.patternSpan.start
        (boundMembers compiled.declared (metaMembers (Aliases.ofModule options m) m)
          ((metaMembers (Aliases.ofModule options m) m).map fun q => code.slice? q.span)) := by
  rw [exportStories_eq] at hout
  obtain ⟨d, hpasses, hfinish⟩ := bind_eq_ok hout
  obtain ⟨appendix, hfits, hclash, -, hrender⟩ := finish_of_passes hplaced.toWellPlaced hpasses
  have hchanges := changes_of_passes hplaced hpasses appendix
  obtain ⟨_, _, _, -, hdeclared, -⟩ := ofCompiled_eq_ok hcompiled
  rw [hrender, render_eq_weave] at hfinish
  cases hfinish
  refine ⟨d, _, _, hpasses, hchanges, rfl, fun o ho hstays => ?_, ?_⟩
  · exact hasList_of_passes hplaced.toWellPlaced hpattern hpasses rfl hfits hclash ho
      (hliterals o ho) hstays
  · exact hasList_pattern hplaced.toWellPlaced hpattern hpasses
      (fun n hn => hchanges.pattern_uncut hplaced.toWellPlaced hn)
      (joiningPoint_of_readMeta hdeclared) hmembers

end Run

theorem exportStories_sample_separated :
    ∃ m compiled out, Script.parseModule .javaScript sampleCode = some m ∧
      ofCompiled .standard m ['f'] = .ok compiled ∧ Delimited sampleCode compiled ∧
      exportStories ['f'] sampleCode ['r'] ['A'] sampleTemplate compiled = .ok out ∧
      ∃ s spans, LaidOut out 1 s spans ∧
        spans.map out.slice? = [some "Story".toList, some "meta".toList] := by
  have hcheck : (Script.parseModule .javaScript sampleCode).any (fun m =>
      (ofCompiled .standard m ['f']).toOption.any fun compiled =>
        (exportStories ['f'] sampleCode ['r'] ['A'] sampleTemplate compiled).isOk &&
        decide (Delimited sampleCode compiled ∧
          compiled.declared.patternSpan.Avoids compiled.declared.argument.span ∧
          (∀ o ∈ outlinesOf compiled,
            LaidOut sampleCode 1 o.span (o.properties.map (·.span))) ∧
          LaidOut sampleCode (lastCommas (metaMembers (Aliases.ofModule .standard m) m))
            compiled.declared.patternSpan
            ((metaMembers (Aliases.ofModule .standard m) m).map (·.span)) ∧
          lastCommas (metaMembers (Aliases.ofModule .standard m) m) = 1 ∧
          boundMembers compiled.declared (metaMembers (Aliases.ofModule .standard m) m)
            ((metaMembers (Aliases.ofModule .standard m) m).map fun q =>
              sampleCode.slice? q.span) = [some "Story".toList, some "meta".toList])) = true := by
    decide +kernel
  obtain ⟨m, hm, hcheck⟩ := (Option.any_eq_true _ _).mp hcheck
  obtain ⟨compiled, hcompiled, hcheck⟩ := (Option.any_eq_true _ _).mp hcheck
  obtain ⟨hok, hcheck⟩ := Bool.and_eq_true_iff.mp hcheck
  obtain ⟨hplaced, hpattern, hliterals, hmembers, hcommas, hbound⟩ := of_decide_eq_true hcheck
  obtain ⟨out, hout⟩ := exists_of_isOk hok
  obtain ⟨d, cut, put, -, -, rfl, -, s, spans, -, hlist, hslices⟩ :=
    exportStories_keeps_lists_separated .standard m ['f'] sampleCode ['r'] ['A'] out sampleTemplate
      compiled (eq_ok_of_toOption hcompiled) hplaced hpattern hliterals hmembers hout
  rw [hcommas] at hlist
  exact ⟨m, compiled, _, hm, eq_ok_of_toOption hcompiled, hplaced, hout, s, spans, hlist,
    hslices.trans hbound⟩

end Transform

end StoryExports
