import StoryExports.Proofs.EditPlan
import StoryExports.Proofs.ParsedStories
import StoryExports.Proofs.StoryNotes
import StoryExports.Proofs.UniqueKeys

/-!
# The source that moves

An element with a `source` attribute shows its own code, so the property `source` goes from the call
of the story. A key stands for the last property that has it, and it is this one that goes. Earlier
properties with the same key stay in the call, as they are, and none is added.
-/
namespace StoryExports

namespace Outline

variable {o : Outline} {key : Text} {i k : Nat}

/-- No property behind the position `k` has the key. -/
def IsLast (o : Outline) (key : Text) (k : Nat) : Prop :=
  ∀ j p, o.properties[j]? = some p → p.key = some key → j ≤ k

theorem isLast_of_position? (h : o.position? key = some i) : o.IsLast key i := by
  intro j p hp hkey
  obtain ⟨r, hr, rfl⟩ := Option.map_eq_some_iff.mp h
  obtain ⟨hlt, -, hbefore⟩ := List.findIdx?_eq_some_iff_getElem.mp hr
  obtain ⟨hj, rfl⟩ := List.getElem?_eq_some_iff.mp hp
  rw [List.length_reverse] at hlt
  -- From behind, a later property comes before the one that is found.
  by_contra hle
  have hfirst := hbefore (o.properties.length - 1 - j) (by omega)
  simp only [List.getElem_reverse, Nat.sub_sub_self (Nat.le_sub_one_of_lt hj)] at hfirst
  simp [hkey] at hfirst

theorem position?_eq_some_iff {p : Property PropertyValue} (hp : o.properties[k]? = some p)
    (hkey : p.key = some key) : o.position? key = some k ↔ o.IsLast key k := by
  refine ⟨isLast_of_position?, fun hlast => ?_⟩
  cases hposition : o.position? key with
  | none =>
    have hnone := List.findIdx?_eq_none_iff.mp (Option.map_eq_none_iff.mp hposition)
    have hmem := List.mem_reverse.mpr (List.mem_of_getElem? hp)
    simpa [hkey] using hnone p hmem
  | some i =>
    obtain ⟨found, hfound, hfoundKey⟩ := getElem?_of_position? hposition
    have hle := hlast i found hfound hfoundKey
    rw [Nat.le_antisymm hle (isLast_of_position? hposition k p hp hkey)]

end Outline

namespace Story

/-- A story has code of its own exactly if its element has a `source`. -/
theorem isSome_of_sourceCode {c : Template.Component} {source exportName : Text}
    {code : Option Text} (h : sourceCode c source exportName = .ok code) :
    code.isSome = (c.attribute? "source".toList).isSome := by
  unfold sourceCode at h
  split at h
  · rename_i hnone
    cases h
    rw [hnone]
    rfl
  · rename_i hsome
    rw [hsome]
    cases hmarkup : childrenMarkup c source with
    | error e =>
      rw [hmarkup] at h
      cases h
    | ok markup =>
      rw [hmarkup] at h
      cases h
      rfl
  · rename_i hsome
    rw [hsome]
    split at h
    · cases h
      rfl
    · cases h

theorem source_of_readStory {c : Template.Component} {source : Text} {comment : Option Note}
    {story : TemplateStory} (h : readStory c source comment = .ok story) :
    story.source.isSome = (c.attribute? "source".toList).isSome := by
  obtain ⟨title, -, h⟩ := bind_eq_ok h
  obtain ⟨exportName, -, h⟩ := bind_eq_ok h
  split at h
  · cases h
  · obtain ⟨code, hcode, h⟩ := bind_eq_ok h
    cases h
    exact isSome_of_sourceCode hcode

theorem map_storyPlaces (storyName : Text) (n : Nat) (nodes : List Template.Node) :
    (storyPlaces storyName n nodes).map (·.1) = storyElements storyName nodes := by
  induction nodes generalizing n with
  | nil => rfl
  | cons node nodes ih =>
    cases node with
    | component c =>
      by_cases hname : c.name = storyName
      · rw [storyPlaces_cons_story hname, List.map_cons, ih]
        simp [storyElements, hname]
      · rw [storyPlaces_cons_other (fun d hd => by cases hd; exact hname), ih]
        simp [storyElements, hname]
    | _ =>
      rw [storyPlaces_cons_other (fun d hd => by cases hd), ih]
      rfl

/-- The stories of a template with code of their own are those whose elements have a `source`. -/
theorem sources_of_ofTemplate {options : Options} {root : Template.Root} {source file : Text}
    {template : TemplateStories} (h : ofTemplate options root source file = .ok template) :
    List.Forall₂ (fun e s => s.source.isSome = (e.attribute? "source".toList).isSome)
      (storyElements template.declared.storyName root.nodes) template.stories := by
  simp only [ofTemplate] at h
  repeat' split at h
  all_goals cases h
  rename_i hstories
  obtain ⟨hall, -⟩ := (readStories_eq_ok_iff waits_nil).mp hstories
  rw [← map_storyPlaces _ 0, List.forall₂_map_left_iff]
  exact hall.imp fun _ _ hread => source_of_readStory hread

end Story

namespace Transform

open Story Patches Edit

/-- Of the properties with the key `source`, the last one lies in the text that goes, and all others
lie apart from it. -/
theorem covers_sourceSpan_iff {t : Text} {o : Outline} (h : o.Braced t) {k n : Nat}
    {p : Property PropertyValue} (hp : o.properties[k]? = some p) (hkey : p.key = some sourceKey)
    (hn : p.span.Covers n) :
    (∃ s, sourceSpan? o = some s ∧ s.Covers n) ↔ o.IsLast sourceKey k := by
  rw [← Outline.position?_eq_some_iff hp hkey]
  constructor
  · rintro ⟨s, hs, hcovers⟩
    obtain ⟨i, hi, -⟩ := Option.bind_eq_some_iff.mp hs
    obtain ⟨s', hs', htakes⟩ := exists_sourceSpan h hi
    cases hs.symm.trans hs'
    rcases eq_or_ne k i with rfl | hne
    · exact hi
    · exact absurd hn ((htakes.others k p hp hne).not_covers hcovers)
  · intro hk
    obtain ⟨s, hs, htakes⟩ := exists_sourceSpan h hk
    exact ⟨s, hs, hn.mono (htakes.property p hp)⟩

/-- A patch adds no key that the author has written. -/
def Fresh (o : Outline) (q : Option Patch) : Prop :=
  ∀ p, q = some p → ∀ e ∈ p.added, ∀ a ∈ o.properties, a.key ≠ some e.1

theorem Fresh.setAt {o : Outline} {q : Option Patch} (h : Fresh o q) (ho : o.Unshared)
    (path : List Text) (code : Text) : Fresh o (setAt o path code o.span.start q) := by
  cases hplace : o.place path with
  | absent object rest =>
    rw [setAt_of_absent hplace]
    split
    · rename_i hstart
      obtain ⟨hobject, hne, -⟩ := Outline.mem_of_place_absent hplace
      obtain rfl : o = object := ho.eq_of_start o.self_mem_outlines hobject hstart
      obtain ⟨key, rest, rfl⟩ := List.exists_cons_of_ne_nil hne
      rintro p ⟨⟩ e he
      rcases NewValue.key_of_mem_insert he with heq | hold
      · rw [heq]
        exact Outline.key_ne_of_get? (Outline.get?_of_place_absent hplace)
      · obtain ⟨f, hf, hkey⟩ := List.mem_map.mp hold
        rw [← hkey]
        cases q with
        | none => cases hf
        | some before => exact h before rfl f hf
    · exact h
  | _ => simpa only [Patches.setAt, hplace] using h

theorem Fresh.removeAt {o : Outline} {q : Option Patch} (h : Fresh o q) (key : Text) (n : Nat) :
    Fresh o (removeAt o key n q) := by
  unfold Patches.removeAt
  split
  · split
    · rintro p ⟨⟩ e he
      rw [Patch.drop_added] at he
      cases q with
      | none => cases he
      | some before => exact h before rfl e he
    · exact h
  · exact h

theorem fresh_of_moveAt (t : TemplateStory) {c : CompiledStory} (hc : c.properties.Unshared) :
    Fresh c.properties (moveAt (t, c) c.properties.span.start
      (describeAt (t, c) c.properties.span.start none)) := by
  have hnone : Fresh c.properties none := fun p hp => by cases hp
  have hdescribed : Fresh c.properties (describeAt (t, c) c.properties.span.start none) := by
    unfold describeAt
    cases t.comment with
    | none => exact hnone
    | some comment => exact hnone.setAt hc _ _
  unfold moveAt
  cases t.source with
  | none => exact hdescribed
  | some source => exact (hdescribed.removeAt sourceKey _).setAt hc _ _

section Run

variable {file code runtimeModule component text : Text} {template : TemplateStories}
  {compiled : CompiledStories} {d : Draft}

/-- What a run leaves out of the properties of a call with the key `source`. The text in which the
module is placed and the one that is edited may differ in a mark. -/
theorem isCovered_source_iff (hplaced : Delimited text compiled)
    (h : passes file code runtimeModule component template compiled = .ok d) (appendix : Text)
    {t : TemplateStory} {c : CompiledStory}
    (hpair : (t, c) ∈ template.stories.zip compiled.stories) {k n : Nat}
    {p : Property PropertyValue} (hp : c.properties.properties[k]? = some p)
    (hkey : p.key = some sourceKey) (hn : p.span.Covers n) :
    isCovered (frame compiled code appendix ++ d.patches.flatMap Patch.edits) n = true ↔
      t.source.isSome ∧ c.properties.IsLast sourceKey k := by
  have hc := (List.of_mem_zip hpair).2
  obtain ⟨hwithin, hnested⟩ := hplaced.properties c hc
  have hproperties : c.properties.span.Covers n :=
    hn.mono (hnested.braced.between p (List.mem_of_getElem? hp)).within
  have hcall : c.span.Covers n := hproperties.mono hwithin
  rw [isCovered_of_passes h hplaced.distinct, ← covers_sourceSpan_iff hnested.braced hp hkey hn]
  constructor
  · rintro (hexport | ⟨t', c', s, hpair', hsource, hs, hcovers⟩)
    · exact absurd hexport (hplaced.not_exported hc hcall)
    -- What is taken out of another call lies in that call.
    rcases eq_or_ne (t, c) (t', c') with heq | hne
    · cases heq
      exact ⟨hsource, s, hs, hcovers⟩
    · obtain ⟨hwithin', hnested'⟩ := hplaced.properties c' (List.of_mem_zip hpair').2
      have hother := hcovers.mono ((between_sourceSpan hnested'.braced hs).within.trans hwithin')
      have hapart := hplaced.pairs_apart (length_of_passes h) hpair hpair' hne
      exact absurd hother (hapart.not_covers hcall)
  · rintro ⟨hsource, s, hs, hcovers⟩
    exact .inr ⟨t, c, s, hpair, hsource, hs, hcovers⟩

/-- A patch of the properties of a call adds no key that they have. -/
theorem fresh_of_passes (h : passes file code runtimeModule component template compiled = .ok d)
    (hdistinct : Distinct compiled) {t : TemplateStory} {c : CompiledStory}
    (hpair : (t, c) ∈ template.stories.zip compiled.stories) {change : Patch}
    (hchange : change ∈ d.patches) (hobject : change.object = c.properties) :
    ∀ e ∈ change.added, ∀ a ∈ c.properties.properties, a.key ≠ some e.1 := by
  have hat := (patches_of_passes h).1.at?_of_mem hchange
  rw [hobject, at?_story h hdistinct hpair c.properties.self_mem_outlines] at hat
  exact fresh_of_moveAt t (hdistinct.unshared_story (List.of_mem_zip hpair).2) change hat

/-- The output of a run follows from the patches of its passes. -/
theorem exists_passes_of_exportStories {out : Text}
    (h : exportStories file code runtimeModule component template compiled = .ok out) :
    ∃ d, passes file code runtimeModule component template compiled = .ok d ∧
      Planned file runtimeModule component template compiled d.patches ∧
      out = render (runEdits runtimeModule component template compiled d.patches code) 0 code := by
  obtain ⟨ps, hplanned, -, -, hout⟩ := planned_of_exportStories h
  rw [exportStories_eq] at h
  obtain ⟨d, hpasses, -⟩ := bind_eq_ok h
  cases hplanned.unique (.of_passes hpasses)
  exact ⟨d, hpasses, hplanned, hout⟩

end Run

end Transform

namespace Plugin

open Story Transform Edit

/-- A file with one story, whose element has a `source` and whose call has two. -/
def repeatedSource : Input where
  id := "Tab.stories.svelte".toList
  compiled := "const \x7bStory\x7d=defineMeta(\x7b\x7d);".toList ++
    "export default function A()\x7b".toList ++
    "Story(a,\x7bname:'One',source:1,source:2\x7d)\x7d".toList
  source := "<script module>const \x7bStory\x7d=defineMeta(\x7b\x7d)</script>".toList ++
    "<Story name='One' source='x'/>".toList
  preprocessor := none
  tree := "\x7b\"fragment\":\x7b\"nodes\":[\x7b".toList ++
    "\"type\":\"Component\",\"name\":\"Story\",".toList ++ "\"start\":52,\"end\":82,".toList ++
    "\"attributes\":[\x7b\"type\":\"Attribute\",".toList ++
    "\"name\":\"name\",\"start\":59,\"end\":69,".toList ++
    "\"value\":[\x7b\"type\":\"Text\",\"data\":\"One\",".toList ++
    "\"start\":65,\"end\":68\x7d]\x7d,".toList ++
    "\x7b\"type\":\"Attribute\",\"name\":\"source\",".toList ++
    "\"start\":70,\"end\":80,".toList ++
    "\"value\":[\x7b\"type\":\"Text\",\"data\":\"x\",".toList ++
    "\"start\":78,\"end\":79\x7d]\x7d]\x7d]\x7d,".toList ++
    "\"module\":\x7b\"start\":0,\"end\":52,".toList ++
    "\"attributes\":[\x7b\"type\":\"Attribute\",".toList ++
    "\"name\":\"module\",\"start\":8,\"end\":14,".toList ++ "\"value\":true\x7d]\x7d\x7d".toList
  unit := .byte

/-- The keys and places of the properties of the first call. -/
def firstCall? (p : Plugin) (i : Input) : Option (List (Option Text × Span)) := do
  let m ← Script.parseModule .javaScript i.compiled
  let compiled ← (ofCompiled p.options m i.id).toOption
  let c ← compiled.stories[0]?
  return c.properties.properties.map fun q => (q.key, q.span)

/-- Whether the element of the first story has a `source`. -/
def firstSource? (p : Plugin) (i : Input) : Option Bool := do
  let root ← (Template.parse i.unit i.tree i.source i.id).toOption
  let template ← (ofTemplate p.options root i.source i.id).toOption
  let e ← (storyElements template.declared.storyName root.nodes)[0]?
  return (e.attribute? "source".toList).isSome

theorem exists_repeatedSource_output :
    ∃ p out, read [] = .ok p ∧ p.transform repeatedSource = .ok (some out) ∧
      firstCall? p repeatedSource = some [(some "name".toList, ⟨66, 76⟩),
        (some sourceKey, ⟨77, 85⟩), (some sourceKey, ⟨86, 94⟩)] ∧
      firstSource? p repeatedSource = some true ∧
      "Story(a,\x7bname:'One',source:1, parameters:".toList <:+: out.code := by
  have hcheck : outputs (fun p out => decide (
      firstCall? p repeatedSource = some [(some "name".toList, ⟨66, 76⟩),
        (some sourceKey, ⟨77, 85⟩), (some sourceKey, ⟨86, 94⟩)] ∧
      firstSource? p repeatedSource = some true ∧
      "Story(a,\x7bname:'One',source:1, parameters:".toList <:+: out.code))
      repeatedSource = true := by decide +kernel
  obtain ⟨p, out, hp, hout, hchecked⟩ := exists_of_outputs hcheck
  exact ⟨p, out, hp, hout, of_decide_eq_true hchecked⟩

end Plugin

end StoryExports
