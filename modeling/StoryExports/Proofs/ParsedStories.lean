import StoryExports.Proofs.Component
import StoryExports.Proofs.OutermostCalls
import StoryExports.Proofs.Untouched

/-!
# The parts of a parsed module

What is read from a compiled module lies in its text as the edits of a run need it: the literals in
their braces, the calls in the component function, and the meta outside of it. So the conditions
`WellPlaced` and `Delimited` hold of every module that comes out of the parser.
-/
namespace StoryExports

open Script (Item Node parseModule withoutMark)

section Literals

variable {t : Text} {n : Node}

theorem propertiesOf_eq_map (ms : List Node) : propertiesOf ms = ms.map propertyOf := by
  induction ms with
  | nil => rfl
  | cons m ms ih => rw [propertiesOf, ih, List.map_cons]

theorem span_propertyOf (n : Node) : (propertyOf n).span = n.span := by
  cases n with
  | member span form key parts => cases form <;> rfl
  | _ => rfl

theorem mem_of_lastValue {parts : List Node} {span : Span}
    {properties : List (Property PropertyValue)}
    (h : lastValue parts = .object span properties) :
    ∃ members, Node.object span members ∈ parts ∧ properties = propertiesOf members := by
  induction parts with
  | nil => cases h
  | cons n ns ih =>
    cases ns with
    | nil =>
      rw [lastValue, PropertyValue.ofNode.eq_def] at h
      split at h
      · cases h
        exact ⟨_, List.mem_singleton_self _, rfl⟩
      · cases h
      · cases h
    | cons n' ns =>
      rw [lastValue] at h
      · obtain ⟨members, hmem, hproperties⟩ := ih h
        exact ⟨members, List.mem_cons_of_mem _ hmem, hproperties⟩
      · exact List.cons_ne_nil _ _

/-- A literal that is the value of a property is a part of the property. -/
theorem mem_of_propertyOf {span : Span} {properties : List (Property PropertyValue)}
    (h : (propertyOf n).value = .object span properties) :
    ∃ members, Node.object span members ∈ n.parts ∧ properties = propertiesOf members := by
  cases n with
  | member place form key parts =>
    cases form with
    | pair => exact mem_of_lastValue h
    | _ => cases h
  | _ => cases h

theorem value_within (h : n.Placed (t.isBoundary · = true)) {s : Span}
    (hs : s ∈ (propertyOf n).value.span?) : s.Within n.span := by
  cases hvalue : (propertyOf n).value with
  | object span properties =>
    rw [hvalue] at hs
    cases hs
    obtain ⟨members, hmem, -⟩ := mem_of_propertyOf hvalue
    exact (h.of_in (.part hmem .self)).2
  | string text =>
    rw [hvalue] at hs
    cases hs
  | other =>
    rw [hvalue] at hs
    cases hs

theorem braced_of_placed {span : Span} {members : List Node}
    (h : (Node.object span members).Placed (t.isBoundary · = true)) :
    Outline.Braced t ⟨span, propertiesOf members⟩ := by
  cases h with
  | mk start stop closing proper room_le placed inside ordered =>
    have hroom : span.start + 1 ≤ span.stop - 1 := room_le
    refine ⟨⟨Nat.le_refl _, closing, closing, ?_, ?_⟩, ?_, ?_, ?_⟩
    · show span.start < span.stop - 1
      omega
    · show span.stop - 1 < span.stop
      omega
    · intro p hp
      rw [propertiesOf_eq_map] at hp
      obtain ⟨m, hm, rfl⟩ := List.mem_map.mp hp
      rw [span_propertyOf]
      obtain ⟨hstart, hstop, -, hlt, -⟩ := placed m hm
      have hinside : span.start + 1 ≤ m.span.start ∧ m.span.stop ≤ span.stop - 1 := inside m hm
      exact ⟨Nat.le_of_lt hlt, hstart, hstop, hinside.1, by show m.span.stop < span.stop; omega⟩
    · rw [propertiesOf_eq_map, List.pairwise_map]
      simp only [span_propertyOf]
      exact ordered
    · intro p hp s hs
      rw [propertiesOf_eq_map] at hp
      obtain ⟨m, hm, rfl⟩ := List.mem_map.mp hp
      rw [span_propertyOf]
      exact value_within (placed m hm) hs

/-- A literal and the literals in it are in braces. -/
theorem nested_of_placed (h : n.Placed (t.isBoundary · = true)) :
    (∀ o, Outline.ofNode? n = some o → o.Nested t) ∧
      ∀ x ∈ (propertyOf n).outlines, x.Braced t := by
  induction h with
  | @mk n start stop closing proper room_le placed inside ordered ih =>
    have hplaced : n.Placed (t.isBoundary · = true) :=
      ⟨start, stop, closing, proper, room_le, placed, inside, ordered⟩
    constructor
    · intro o ho x hx
      unfold Outline.ofNode? at ho
      split at ho
      · cases ho
        rcases List.mem_cons.mp hx with rfl | hx
        · exact braced_of_placed hplaced
        · obtain ⟨p, hp, hx⟩ := Outline.mem_outlinesIn.mp hx
          rw [propertiesOf_eq_map] at hp
          obtain ⟨m, hm, rfl⟩ := List.mem_map.mp hp
          exact (ih m hm).2 x hx
      · cases ho
    · intro x hx
      obtain ⟨o, hvalue, hx⟩ := Outline.exists_value hx
      obtain ⟨members, hmem, hproperties⟩ := mem_of_propertyOf hvalue
      refine (ih _ hmem).1 o ?_ x hx
      rw [Outline.ofNode?, ← hproperties]

/-- The outline of a literal that stands in a text. -/
def Outline.StandsIn (t : Text) (o : Outline) : Prop :=
  ∃ n : Node, Outline.ofNode? n = some o ∧ n.Placed (t.isBoundary · = true)

theorem Outline.StandsIn.nested {o : Outline} (h : o.StandsIn t) : o.Nested t := by
  obtain ⟨n, ho, hplaced⟩ := h
  exact (nested_of_placed hplaced).1 o ho

/-- Every property takes up some text. -/
theorem Outline.StandsIn.start_lt_stop {o : Outline} (h : o.StandsIn t)
    {p : Property PropertyValue} (hp : p ∈ o.properties) : p.span.start < p.span.stop := by
  obtain ⟨n, ho, hplaced⟩ := h
  unfold Outline.ofNode? at ho
  split at ho
  · cases ho
    rw [propertiesOf_eq_map] at hp
    obtain ⟨m, hm, rfl⟩ := List.mem_map.mp hp
    rw [span_propertyOf]
    exact (hplaced.row.placed m hm).start_lt_stop
  · cases ho

end Literals

namespace Story

variable {options : Options} {file code : Text} {m : List Item} {compiled : CompiledStories}

/-- The function that holds the stories, and the meta. -/
theorem parts_of_ofCompiled (h : ofCompiled options m file = .ok compiled) :
    (∃ i ∈ m, ∃ span params body, i.body = .exportDefault
      (.function span compiled.component.functionName params (some body)) ∧
      compiled.component.span = i.span ∧ compiled.component.declarationStart = span.start ∧
      storyCallsIn compiled.declared.storyName body = .ok compiled.stories) ∧
    readMeta (Aliases.ofModule options m) file m = .ok compiled.declared := by
  simp only [ofCompiled] at h
  split at h
  · cases h
  · obtain ⟨⟨span, declaration⟩, hdefault, h⟩ := bind_eq_ok h
    obtain ⟨declared, hdeclared, h⟩ := bind_eq_ok h
    obtain ⟨⟨component, body⟩, hcomponent, h⟩ := bind_eq_ok h
    split at h
    · rename_i stories hstories
      cases h
      refine ⟨?_, hdeclared⟩
      obtain ⟨-, hfound⟩ := findDefault_eq_ok hdefault
      obtain ⟨i, hi, hdefault⟩ := List.exists_of_findSome?_eq_some hfound
      have hbody := body_of_defaultDeclaration? hdefault
      simp only [defaultDeclaration?, hbody, Option.some.injEq, Prod.mk.injEq] at hdefault
      obtain ⟨rfl, -⟩ := hdefault
      obtain ⟨s, params, hfunction⟩ := readComponent_eq_ok hcomponent
      have hread : (⟨i.span, s.start, component.functionName⟩ : DefaultExport) = component := by
        rw [hfunction] at hcomponent
        exact congrArg Prod.fst (Except.ok.inj hcomponent)
      exact ⟨i, hi, s, params, body, hfunction ▸ hbody, (congrArg (·.span) hread).symm,
        (congrArg (·.declarationStart) hread).symm, hstories⟩
    · cases h

theorem in_of_mem_declaratorsOf {i : Item} {d : Node} (h : d ∈ declaratorsOf i) :
    d.In i.node ∧ ∀ declaration, i.body ≠ .exportDefault declaration := by
  have hin : ∀ n, i.body.nodes = [n] → d ∈ n.parts → d.In i.node := fun n hn hd =>
    .part (show n ∈ i.body.nodes by rw [hn]; exact List.mem_singleton_self n) (.part hd .self)
  unfold declaratorsOf at h
  split at h
  · rename_i span ds hbody
    exact ⟨hin (.other span (.variables false) ds) (by rw [hbody]; rfl) h,
      fun _ => by rw [hbody]; exact nofun⟩
  · rename_i span ds hbody
    exact ⟨hin (.other span (.variables false) ds) (by rw [hbody]; rfl) h,
      fun _ => by rw [hbody]; exact nofun⟩
  · cases h

theorem declarator?_eq_some {callee : Text} {i : Item} {d : Node} {found : MetaDeclaration}
    (h : declarator? callee i d = some found) :
    found.pattern.In d ∧ ∀ n ∈ found.args, n.In d := by
  unfold declarator? at h
  split at h
  · rename_i pattern value
    obtain ⟨⟨span, args⟩, hcall, rfl⟩ := Option.map_eq_some_iff.mp h
    refine ⟨.part (by simp [Node.parts]) .self, fun n hn => ?_⟩
    refine .part (p := value) (by simp [Node.parts]) (.part ?_ .self)
    exact mem_parts_of_callTo? hcall hn
  · cases h

/-- The declaration of the meta stands in an item of its own. -/
theorem parts_of_readMeta {aliases : Aliases} {declared : CompiledMeta}
    (h : readMeta aliases file m = .ok declared) :
    ∃ i ∈ m, (∀ d, i.body ≠ .exportDefault d) ∧
      (∃ n, n.In i.node ∧ Outline.ofNode? n = some declared.argument) ∧
      ∃ members, (Node.objectPattern declared.patternSpan members).In i.node ∧
        (declared.insertAt, declared.joining) = joiningPoint declared.patternSpan members := by
  unfold readMeta at h
  split at h
  · cases h
  · rename_i found hfound
    split at h
    · cases h
    · rename_i argument hargument
      split at h
      · rename_i span members hpattern
        cases h
        obtain ⟨i, hi, hfound⟩ := List.exists_of_findSome?_eq_some hfound
        obtain ⟨d, hd, hdeclarator⟩ := List.exists_of_findSome?_eq_some hfound
        obtain ⟨hin, hbody⟩ := in_of_mem_declaratorsOf hd
        obtain ⟨hpatternIn, hargs⟩ := declarator?_eq_some hdeclarator
        obtain ⟨n, hn, ho⟩ := Option.bind_eq_some_iff.mp hargument
        refine ⟨i, hi, hbody, ⟨n, (hargs n (List.mem_of_head? hn)).trans hin, ho⟩, members,
          ((hpattern ▸ hpatternIn).trans hin), rfl⟩
      · cases h

/-- A new member of a pattern goes between its braces. -/
theorem joiningPoint_inside {t : Text} {span : Span} {members : List Node}
    (h : (Node.objectPattern span members).Placed (t.isBoundary · = true)) :
    t.isBoundary (joiningPoint span members).1 = true ∧
      span.Inside (joiningPoint span members).1 := by
  cases h with
  | mk start stop closing proper room_le placed inside ordered =>
    have hroom : span.start + 1 ≤ span.stop - 1 := room_le
    have hmember : ∀ n ∈ members, t.isBoundary n.span.start = true ∧
        t.isBoundary n.span.stop = true ∧ span.Inside n.span.start ∧ span.Inside n.span.stop := by
      intro n hn
      obtain ⟨hstart, hstop, -, hlt, -⟩ := placed n hn
      have hinside : span.start + 1 ≤ n.span.start ∧ n.span.stop ≤ span.stop - 1 := inside n hn
      exact ⟨hstart, hstop, ⟨by omega, by omega⟩, by omega, by omega⟩
    unfold joiningPoint
    split
    · refine ⟨closing, ?_, ?_⟩
      · show span.start < span.stop - 1
        omega
      · show span.stop - 1 < span.stop
        omega
    · rename_i s _ _ hlast
      obtain ⟨hstart, -, hinside, -⟩ := hmember _ (List.mem_of_getLast? hlast)
      exact ⟨hstart, hinside⟩
    · rename_i last _ hlast
      obtain ⟨-, hstop, -, hinside⟩ := hmember _ (List.mem_of_getLast? hlast)
      exact ⟨hstop, hinside⟩

theorem apart_of_row {B : Nat → Prop} {lo hi : Nat} {i j : Item}
    (h : Node.Row B lo hi (m.map Item.node)) (hi : i ∈ m) (hj : j ∈ m) (hne : i ≠ j) :
    i.span.Avoids j.span := by
  have hpairs : m.Pairwise fun i j => i.span.Avoids j.span :=
    (List.pairwise_map.mp h.ordered).imp fun hle => .inl hle
  have hsymm : Std.Symm fun i j : Item => i.span.Avoids j.span := ⟨fun _ _ h => h.symm⟩
  exact hpairs.forall hi hj hne

theorem exists_call_of_mem {callee : Text} {calls : List Node} {stories : List CompiledStory}
    (h : List.Forall₂ (IsStory callee) calls stories) {s : CompiledStory} (hs : s ∈ stories) :
    ∃ call ∈ calls, IsStory callee call s := by
  induction h with
  | nil => cases hs
  | @cons call s' _ _ hcall _ ih =>
    rcases List.mem_cons.mp hs with rfl | hs
    · exact ⟨call, List.mem_cons_self, hcall⟩
    · obtain ⟨call', hmem, hcall'⟩ := ih hs
      exact ⟨call', List.mem_cons_of_mem _ hmem, hcall'⟩

/-- The story calls of a function body lie in the body, and their properties in them. -/
theorem stories_placed {t callee : Text} {lo hi : Nat} {body : List Node}
    {stories : List CompiledStory} (hrow : Node.Row (t.isBoundary · = true) lo hi body)
    (h : storyCallsIn callee body = .ok stories) :
    (stories.Pairwise fun a b => a.span.Avoids b.span) ∧ ∀ s ∈ stories,
      s.span.Within ⟨lo, hi⟩ ∧
      (t.isBoundary s.span.start = true ∧ t.isBoundary s.span.stop = true) ∧
      s.properties.span.Within s.span ∧ s.properties.StandsIn t := by
  have houtcome : Outcome callee body (storyCallsIn callee body) :=
    outcome_of_row hrow fun p hp => outcome_of_placed (hrow.placed p hp)
  rw [h] at houtcome
  obtain ⟨calls, hcalls⟩ := houtcome
  refine ⟨(pairwise_stories_iff hcalls.read Span.Avoids).mpr hcalls.apart, fun s hs => ?_⟩
  obtain ⟨call, hcall, hspan, ⟨members, ⟨place, args, hargs, hobject⟩, hproperties⟩, -⟩ :=
    exists_call_of_mem hcalls.read hs
  obtain ⟨hplaced, hinside⟩ := isOutermost_placed hrow ((hcalls.mem_iff call).mp hcall)
  have hin : (Node.object s.properties.span members).In call :=
    .part (mem_parts_of_callTo? hargs (List.mem_of_getElem? hobject)) .self
  obtain ⟨hliteral, hwithin⟩ := hplaced.of_in hin
  rw [hspan]
  refine ⟨hinside, ?_, hwithin, _, ?_, hliteral⟩
  · obtain ⟨hstart, hstop, -⟩ := hplaced
    exact ⟨hstart, hstop⟩
  · rw [Outline.ofNode?, ← hproperties]

/-- What is read from a module lies in its text as the edits need it. -/
theorem delimited_of_parse (hparse : parseModule .javaScript code = some m)
    (h : ofCompiled options m file = .ok compiled) :
    Transform.Delimited (withoutMark code) compiled ∧
      ∀ s ∈ compiled.stories, s.properties.StandsIn (withoutMark code) := by
  obtain ⟨stop, hrow⟩ := Script.exists_row_of_parseModule hparse
  have hitem : ∀ i ∈ m, i.node.Placed ((withoutMark code).isBoundary · = true) :=
    fun i hi => hrow.placed i.node (List.mem_map_of_mem hi)
  obtain ⟨⟨i, hi, span, params, body, hbody, hspan, hstart, hstories⟩, hmeta⟩ :=
    parts_of_ofCompiled h
  obtain ⟨j, hj, hother, ⟨argument, hargument, ho⟩, members, hpattern, hjoining⟩ :=
    parts_of_readMeta hmeta
  have hfunction : (Node.function span compiled.component.functionName params (some body)).In
      i.node := by
    refine .part ?_ .self
    show _ ∈ i.body.nodes
    rw [hbody]
    exact List.mem_singleton_self _
  have hapart : j.span.Avoids i.span :=
    apart_of_row hrow hj hi fun heq => hother _ (heq ▸ hbody)
  obtain ⟨hfunctionPlaced, hfunctionWithin⟩ := (hitem i hi).of_in hfunction
  obtain ⟨hargumentPlaced, hargumentWithin⟩ := (hitem j hj).of_in hargument
  obtain ⟨hpatternPlaced, hpatternWithin⟩ := (hitem j hj).of_in hpattern
  obtain ⟨hboundary, hinside⟩ := joiningPoint_inside hpatternPlaced
  rw [← hjoining] at hboundary hinside
  obtain ⟨hcalls, hstory⟩ := stories_placed hfunctionPlaced.row.right hstories
  have hfunctionSpan : Span.Within span i.span := hfunctionWithin
  have hargumentSpan : argument.span = compiled.declared.argument.span := by
    unfold Outline.ofNode? at ho
    split at ho
    · exact congrArg Outline.span (Option.some.inj ho)
    · cases ho
  refine ⟨⟨⟨?_, ?_, ?_, ?_, hcalls, ?_, ?_, ?_, ?_, hboundary, ?_⟩, ?_, hinside⟩,
    fun s hs => (hstory s hs).2.2.2⟩
  · rw [hspan, hstart]
    have hlt : span.start < span.stop := hfunctionPlaced.start_lt_stop
    exact ⟨hfunctionSpan.1, Nat.le_trans (Nat.le_of_lt hlt) hfunctionSpan.2⟩
  · obtain ⟨hitemStart, -⟩ := hitem i hi
    rw [hspan]
    exact hitemStart
  · obtain ⟨hfunctionStart, -⟩ := hfunctionPlaced
    rw [hstart]
    exact hfunctionStart
  · intro s hs
    rw [hspan, hstart]
    exact (hstory s hs).1.trans ⟨Nat.le_refl _, hfunctionSpan.2⟩
  · exact fun s hs => ⟨(hstory s hs).2.2.1, (hstory s hs).2.2.2.nested⟩
  · exact (nested_of_placed hargumentPlaced).1 _ ho
  · rw [hspan]
    exact hapart.mono (hargumentSpan ▸ hargumentWithin) (.refl _)
  · exact ⟨Nat.le_of_lt hinside.1, Nat.le_of_lt hinside.2⟩
  · rw [hspan]
    exact hapart.mono hpatternWithin (.refl _)
  · exact fun s hs => (hstory s hs).2.1

end Story

end StoryExports
