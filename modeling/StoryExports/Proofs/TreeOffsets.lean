import StoryExports.Proofs.Lists
import StoryExports.Proofs.UnitOffsets
import StoryExports.Template.Offsets

/-!
# Conversion of the offsets of a tree

A conversion reaches every span of a tree and nothing else: it succeeds when it succeeds at both
ends of every span, and the result is the tree with other spans. With offsets that count UTF-16
units this gives the exact condition under which a tree belongs to a text.
-/
namespace StoryExports.Template

/-! ### The spans of a tree -/

def ValuePart.mapSpans (g : Span → Span) : ValuePart → ValuePart
  | .text s data => .text (g s) data
  | .expression s tree => .expression (g s) tree

def AttributeValue.spans : AttributeValue → List Span
  | .flag _ => []
  | .sequence parts => parts.map ValuePart.span
  | .single part => [part.span]

def AttributeValue.mapSpans (g : Span → Span) : AttributeValue → AttributeValue
  | .flag b => .flag b
  | .sequence parts => .sequence (parts.map (·.mapSpans g))
  | .single part => .single (part.mapSpans g)

def AttributeNode.spans : AttributeNode → List Span
  | .plain a => a.span :: a.value.spans
  | .other => []

def AttributeNode.mapSpans (g : Span → Span) : AttributeNode → AttributeNode
  | .plain a => .plain ⟨g a.span, a.name, a.value.mapSpans g⟩
  | .other => .other

def Component.spans (c : Component) : List Span :=
  c.span :: c.attributes.flatMap AttributeNode.spans ++ c.children.getD []

def Component.mapSpans (g : Span → Span) (c : Component) : Component :=
  ⟨g c.span, c.name, c.attributes.map (·.mapSpans g), c.children.map (·.map g)⟩

def Node.spans : Node → List Span
  | .comment s _ => [s]
  | .text s _ => [s]
  | .component c => c.spans
  | .other => []

def Node.mapSpans (g : Span → Span) : Node → Node
  | .comment s data => .comment (g s) data
  | .text s data => .text (g s) data
  | .component c => .component (c.mapSpans g)
  | .other => .other

def Script.spans (s : Script) : List Span := s.span :: s.attributes.flatMap AttributeNode.spans

def Script.mapSpans (g : Span → Span) (s : Script) : Script :=
  ⟨g s.span, s.context, s.attributes.map (·.mapSpans g)⟩

def scriptSpans : Option Script → List Span
  | some s => s.spans
  | none => []

/-- The spans of the nodes at the top, of their attributes and children, and of both scripts. -/
def Root.spans (r : Root) : List Span :=
  r.nodes.flatMap Node.spans ++ scriptSpans r.instanceScript ++ scriptSpans r.moduleScript

/-- The tree with other spans and all else as it was. -/
def Root.mapSpans (g : Span → Span) (r : Root) : Root :=
  ⟨r.nodes.map (·.mapSpans g), r.instanceScript.map (·.mapSpans g),
    r.moduleScript.map (·.mapSpans g)⟩

/-- The ends of all spans of a tree. -/
def Root.offsets (r : Root) : List Nat := r.spans.flatMap fun s => [s.start, s.stop]

/-- The tree with other offsets and all else as it was. -/
def Root.mapOffsets (g : Nat → Nat) (r : Root) : Root :=
  r.mapSpans fun s => ⟨g s.start, g s.stop⟩

/-! ### What a conversion does -/

section Convert

variable {f : Nat → Option Nat}

/-- Both ends of the span can be converted. -/
def Reached (f : Nat → Option Nat) (s : Span) : Prop := (f s.start).isSome ∧ (f s.stop).isSome

/-- The span with both ends converted. -/
def convertedSpan (f : Nat → Option Nat) (s : Span) : Span :=
  ⟨(f s.start).getD 0, (f s.stop).getD 0⟩

theorem convertSpan_eq_some_iff (s s' : Span) :
    convertSpan f s = some s' ↔ Reached f s ∧ s' = convertedSpan f s := by
  obtain ⟨start, stop⟩ := s
  cases hstart : f start <;> cases hstop : f stop <;>
    simp [convertSpan, Reached, convertedSpan, hstart, hstop, eq_comm]

theorem ValuePart.convert_eq_some_iff (p q : ValuePart) :
    p.convert f = some q ↔ Reached f p.span ∧ q = p.mapSpans (convertedSpan f) := by
  cases p with
  | text s data =>
    simp only [convert, span, mapSpans, Option.bind_eq_bind, Option.bind_eq_some_iff,
      convertSpan_eq_some_iff, Option.pure_def, Option.some.injEq]
    grind
  | expression s tree =>
    simp only [convert, span, mapSpans, Option.bind_eq_bind, Option.bind_eq_some_iff,
      convertSpan_eq_some_iff, Option.pure_def, Option.some.injEq]
    grind

theorem AttributeValue.convert_eq_some_iff (v w : AttributeValue) :
    v.convert f = some w ↔ (∀ s ∈ v.spans, Reached f s) ∧ w = v.mapSpans (convertedSpan f) := by
  cases v with
  | flag b => simp [convert, spans, mapSpans, eq_comm]
  | sequence parts =>
    simp only [convert, spans, mapSpans, Option.bind_eq_bind, Option.bind_eq_some_iff,
      mapM_eq_some_iff ValuePart.convert_eq_some_iff, Option.pure_def, Option.some.injEq,
      List.forall_mem_map]
    grind
  | single part =>
    simp only [convert, spans, mapSpans, Option.bind_eq_bind, Option.bind_eq_some_iff,
      ValuePart.convert_eq_some_iff, Option.pure_def, Option.some.injEq, List.mem_singleton]
    grind

theorem AttributeNode.convert_eq_some_iff (a b : AttributeNode) :
    a.convert f = some b ↔ (∀ s ∈ a.spans, Reached f s) ∧ b = a.mapSpans (convertedSpan f) := by
  cases a with
  | plain a =>
    simp only [convert, spans, mapSpans, Option.bind_eq_bind, Option.bind_eq_some_iff,
      convertSpan_eq_some_iff, AttributeValue.convert_eq_some_iff, Option.pure_def,
      Option.some.injEq, List.forall_mem_cons]
    grind
  | other => simp [convert, spans, mapSpans, eq_comm]

theorem attributes_eq_some_iff (as bs : List AttributeNode) :
    as.mapM (·.convert f) = some bs ↔
      (∀ s ∈ as.flatMap AttributeNode.spans, Reached f s) ∧
        bs = as.map (·.mapSpans (convertedSpan f)) := by
  rw [mapM_eq_some_iff AttributeNode.convert_eq_some_iff]
  grind

theorem Component.convert_eq_some_iff (c d : Component) :
    c.convert f = some d ↔ (∀ s ∈ c.spans, Reached f s) ∧ d = c.mapSpans (convertedSpan f) := by
  obtain ⟨span, name, attributes, children⟩ := c
  have hspans := mapM_eq_some_iff (convertSpan_eq_some_iff (f := f))
  cases children with
  | none =>
    simp only [convert, spans, mapSpans, Option.bind_eq_bind, Option.bind_eq_some_iff,
      convertSpan_eq_some_iff, attributes_eq_some_iff, Option.pure_def, Option.some.injEq,
      Option.getD_none, List.append_nil, List.forall_mem_cons, Option.map_none]
    grind
  | some children =>
    simp only [convert, spans, mapSpans, Option.bind_eq_bind, Option.bind_eq_some_iff,
      Option.map_eq_some_iff, convertSpan_eq_some_iff, attributes_eq_some_iff, hspans,
      Option.pure_def, Option.some.injEq, Option.getD_some, List.cons_append,
      List.forall_mem_cons, List.forall_mem_append, Option.map_some]
    grind

theorem Node.convert_eq_some_iff (n m : Node) :
    n.convert f = some m ↔ (∀ s ∈ n.spans, Reached f s) ∧ m = n.mapSpans (convertedSpan f) := by
  cases n with
  | comment s data =>
    simp only [convert, spans, mapSpans, Option.bind_eq_bind, Option.bind_eq_some_iff,
      convertSpan_eq_some_iff, Option.pure_def, Option.some.injEq, List.mem_singleton]
    grind
  | text s data =>
    simp only [convert, spans, mapSpans, Option.bind_eq_bind, Option.bind_eq_some_iff,
      convertSpan_eq_some_iff, Option.pure_def, Option.some.injEq, List.mem_singleton]
    grind
  | component c =>
    simp only [convert, spans, mapSpans, Option.bind_eq_bind, Option.bind_eq_some_iff,
      Component.convert_eq_some_iff, Option.pure_def, Option.some.injEq]
    grind
  | other => simp [convert, spans, mapSpans, eq_comm]

theorem Script.convert_eq_some_iff (s t : Script) :
    s.convert f = some t ↔ (∀ u ∈ s.spans, Reached f u) ∧ t = s.mapSpans (convertedSpan f) := by
  simp only [convert, spans, mapSpans, Option.bind_eq_bind, Option.bind_eq_some_iff,
    convertSpan_eq_some_iff, attributes_eq_some_iff, Option.pure_def, Option.some.injEq,
    List.forall_mem_cons]
  grind

theorem convertScript_eq_some_iff (s t : Option Script) :
    convertScript f s = some t ↔
      (∀ u ∈ scriptSpans s, Reached f u) ∧ t = s.map (·.mapSpans (convertedSpan f)) := by
  cases s with
  | none => simp [convertScript, scriptSpans, eq_comm]
  | some s =>
    simp only [convertScript, scriptSpans, Option.map_eq_some_iff, Script.convert_eq_some_iff,
      Option.map_some]
    grind

theorem Root.convert_spans_iff (r r' : Root) :
    r.convert f = some r' ↔ (∀ s ∈ r.spans, Reached f s) ∧ r' = r.mapSpans (convertedSpan f) := by
  simp only [convert, spans, mapSpans, Option.bind_eq_bind, Option.bind_eq_some_iff,
    mapM_eq_some_iff Node.convert_eq_some_iff, convertScript_eq_some_iff, Option.pure_def,
    Option.some.injEq, List.forall_mem_append, List.forall_mem_flatMap]
  grind

theorem Root.reached_iff (r : Root) :
    (∀ s ∈ r.spans, Reached f s) ↔ ∀ u ∈ r.offsets, (f u).isSome := by
  simp only [offsets, List.forall_mem_flatMap, List.forall_mem_cons, Reached]
  simp

/-- A conversion succeeds if it succeeds at every offset, and then it changes the offsets and
nothing else. -/
theorem Root.convert_eq_some_iff (r r' : Root) :
    r.convert f = some r' ↔
      (∀ u ∈ r.offsets, (f u).isSome) ∧ r' = r.mapOffsets fun u => (f u).getD 0 := by
  rw [convert_spans_iff, reached_iff]
  rfl

theorem Root.converted_of_reached {r : Root} (h : ∀ u ∈ r.offsets, (f u).isSome) (file : Text) :
    r.converted f file = .ok (r.mapOffsets fun u => (f u).getD 0) := by
  simp [converted, (r.convert_eq_some_iff _).mpr ⟨h, rfl⟩]

theorem Root.converted_of_not_reached {r : Root} (h : ¬∀ u ∈ r.offsets, (f u).isSome)
    (file : Text) : r.converted f file = .error (.unexpectedNode file .templateOffsets) := by
  have hnone : r.convert f = none := by
    refine Option.eq_none_iff_forall_ne_some.mpr fun r' hr' => ?_
    exact h ((r.convert_eq_some_iff r').mp hr').1
  simp [converted, hnone]

end Convert

open Text (UnitPlace)

section Exact

variable {source : Text} {r : Root}

/-- Every offset of the tree is the length, in code units, of a beginning of the text. -/
def Root.InText (source : Text) (r : Root) : Prop :=
  ∀ u ∈ r.offsets, ∃ a b, a ++ b = source ∧ a.units = u

theorem Root.inText_iff :
    r.InText source ↔ ∀ u ∈ r.offsets, (source.byteOffset? u).isSome := by
  refine forall₂_congr fun u _ => ?_
  simp only [Option.isSome_iff_exists, Text.byteOffset?_eq_some_iff]
  constructor
  · rintro ⟨a, b, hab, hu⟩
    exact ⟨_, a, b, hab, hu, rfl⟩
  · rintro ⟨n, a, b, hab, hu, -⟩
    exact ⟨a, b, hab, hu⟩

theorem Root.place_of_inText (h : r.InText source) {u : Nat} (hu : u ∈ r.offsets) (n : Nat) :
    UnitPlace source u n ↔ n = (source.byteOffset? u).getD 0 := by
  obtain ⟨m, hm⟩ := Option.isSome_iff_exists.mp (inText_iff.mp h u hu)
  have hplace := Text.byteOffset?_eq_some_iff.mp hm
  rw [hm, Option.getD_some]
  constructor
  · intro hn
    exact hn.unique hplace
  · rintro rfl
    exact hplace

/-- In a text that is not all ASCII, a tree is converted exactly when all its offsets are ends of
beginnings of the text. Each of them becomes the length of that beginning in bytes, nothing else
changes, and the order of the offsets stays. Any other tree fails the file. -/
theorem Root.toBytes_exact (source file : Text) (r : Root) (hwide : ∃ c ∈ source, 128 ≤ c.toNat) :
    ((∃ r', r.toBytes source file = .ok r') ↔
      ∀ u ∈ r.offsets, ∃ a b, a ++ b = source ∧ a.units = u) ∧
    (∀ r', r.toBytes source file = .ok r' → ∃ g : Nat → Nat, r' = r.mapOffsets g ∧
      (∀ u ∈ r.offsets, ∀ n, UnitPlace source u n ↔ n = g u) ∧
      ∀ u ∈ r.offsets, ∀ v ∈ r.offsets, u < v → g u < g v) ∧
    ((¬∀ u ∈ r.offsets, ∃ a b, a ++ b = source ∧ a.units = u) →
      r.toBytes source file = .error (.unexpectedNode file .templateOffsets)) := by
  have hascii := Text.isAscii_eq_false_iff.mpr hwide
  have hconverted : r.toBytes source file =
      r.converted (fun u => source.byteOffset? u) file := by simp [toBytes, hascii]
  have hfail : ¬r.InText source →
      r.toBytes source file = .error (.unexpectedNode file .templateOffsets) := fun h => by
    rw [hconverted, converted_of_not_reached (mt inText_iff.mpr h)]
  have hok : r.InText source → r.toBytes source file =
      .ok (r.mapOffsets fun u => (source.byteOffset? u).getD 0) := fun h => by
    rw [hconverted, converted_of_reached (inText_iff.mp h)]
  have hin : ∀ r', r.toBytes source file = .ok r' → r.InText source := fun r' hr' =>
    Classical.byContradiction fun hout => by
      rw [hfail hout] at hr'
      cases hr'
  refine ⟨⟨fun ⟨r', hr'⟩ => hin r' hr', fun h => ⟨_, hok h⟩⟩, fun r' hr' => ?_, hfail⟩
  have htext := hin r' hr'
  rw [hok htext] at hr'
  cases hr'
  refine ⟨_, rfl, fun u hu n => place_of_inText htext hu n, fun u hu v hv huv => ?_⟩
  exact ((place_of_inText htext hu _).mpr rfl).lt ((place_of_inText htext hv _).mpr rfl) huv

/-- A tree of a text with characters of two and of four bytes. `stop` is the end of a name. -/
def wideTree (stop : Nat) : Root where
  nodes := [.comment ⟨0, 1⟩ [], .component ⟨⟨1, 4⟩, ['A'],
    [.plain ⟨⟨1, 4⟩, ['n'], .sequence [.text ⟨1, stop⟩ []]⟩, .other], some [⟨3, 4⟩]⟩, .other]
  instanceScript := none
  moduleScript := some ⟨⟨3, 4⟩, [], [.plain ⟨⟨0, 4⟩, ['m'], .flag true⟩]⟩

def wideSource : Text := "é😀b".toList

theorem Root.toBytes_wideTree :
    (∃ c ∈ wideSource, 128 ≤ c.toNat) ∧
    (∃ g, (wideTree 3).toBytes wideSource ['f'] = .ok ((wideTree 3).mapOffsets g) ∧
      g 1 = 2 ∧ g 3 = 6) ∧
    (wideTree 2).toBytes wideSource ['f'] =
      .error (.unexpectedNode ['f'] .templateOffsets) := by
  have hwide : ∃ c ∈ wideSource, 128 ≤ c.toNat := ⟨'é', by decide, by decide⟩
  obtain ⟨hiff, hgood, -⟩ := (wideTree 3).toBytes_exact wideSource ['f'] hwide
  obtain ⟨-, -, hbad⟩ := (wideTree 2).toBytes_exact wideSource ['f'] hwide
  obtain ⟨r', hr'⟩ := hiff.mpr (inText_iff.mpr (by decide))
  obtain ⟨g, rfl, hplaces, -⟩ := hgood r' hr'
  have hone := (hplaces 1 (by decide) 2).mp ⟨['é'], ['😀', 'b'], by decide, by decide, by decide⟩
  have hthree := (hplaces 3 (by decide) 6).mp ⟨['é', '😀'], ['b'], by decide, by decide, by decide⟩
  exact ⟨hwide, ⟨g, hr', hone.symm, hthree.symm⟩,
    hbad fun h => absurd (inText_iff.mp h) (by decide)⟩

end Exact

/-! ### ASCII texts -/

section Unchanged

variable {g : Span → Span}

theorem ValuePart.mapSpans_eq_self {p : ValuePart} (h : g p.span = p.span) :
    p.mapSpans g = p := by
  cases p <;> simp_all [mapSpans, span]

theorem AttributeNode.mapSpans_eq_self {a : AttributeNode} (h : ∀ s ∈ a.spans, g s = s) :
    a.mapSpans g = a := by
  cases a with
  | plain a =>
    obtain ⟨span, name, value⟩ := a
    simp only [spans, List.forall_mem_cons] at h
    cases value with
    | flag b => simp [mapSpans, AttributeValue.mapSpans, h.1]
    | sequence parts =>
      have hparts : parts.map (·.mapSpans g) = parts := map_eq_self fun p hp =>
        ValuePart.mapSpans_eq_self (h.2 p.span (List.mem_map_of_mem hp))
      simp [mapSpans, AttributeValue.mapSpans, h.1, hparts]
    | single part =>
      have hpart : part.mapSpans g = part :=
        ValuePart.mapSpans_eq_self (h.2 part.span (List.mem_singleton_self _))
      simp [mapSpans, AttributeValue.mapSpans, h.1, hpart]
  | other => rfl

theorem attributes_mapSpans_eq_self {as : List AttributeNode}
    (h : ∀ s ∈ as.flatMap AttributeNode.spans, g s = s) : as.map (·.mapSpans g) = as :=
  map_eq_self fun a ha => AttributeNode.mapSpans_eq_self fun s hs =>
    h s (List.mem_flatMap.mpr ⟨a, ha, hs⟩)

theorem Node.mapSpans_eq_self {n : Node} (h : ∀ s ∈ n.spans, g s = s) : n.mapSpans g = n := by
  cases n with
  | comment s data => simp [mapSpans, h s (by simp [spans])]
  | text s data => simp [mapSpans, h s (by simp [spans])]
  | component c =>
    obtain ⟨span, name, attributes, children⟩ := c
    simp only [spans, Component.spans, List.cons_append, List.forall_mem_cons,
      List.forall_mem_append] at h
    obtain ⟨hspan, hattributes, hchildren⟩ := h
    have hlist : children.map (·.map g) = children := by
      cases children with
      | none => rfl
      | some children => exact congrArg some (map_eq_self hchildren)
    simp [mapSpans, Component.mapSpans, hspan, hlist, attributes_mapSpans_eq_self hattributes]
  | other => rfl

theorem script_mapSpans_eq_self {s : Option Script} (h : ∀ u ∈ scriptSpans s, g u = u) :
    s.map (·.mapSpans g) = s := by
  cases s with
  | none => rfl
  | some s =>
    simp only [scriptSpans, Script.spans, List.forall_mem_cons] at h
    simp [Script.mapSpans, h.1, attributes_mapSpans_eq_self h.2]

/-- A conversion that leaves every offset alone leaves the tree alone. -/
theorem Root.mapOffsets_eq_self {r : Root} {g : Nat → Nat} (h : ∀ u ∈ r.offsets, g u = u) :
    r.mapOffsets g = r := by
  have hspans : ∀ s ∈ r.spans, (⟨g s.start, g s.stop⟩ : Span) = s := fun s hs => by
    have hends : ∀ u ∈ [s.start, s.stop], g u = u := fun u hu =>
      h u (List.mem_flatMap.mpr ⟨s, hs, hu⟩)
    rw [hends s.start (by simp), hends s.stop (by simp)]
  simp only [spans, List.forall_mem_append] at hspans
  obtain ⟨⟨hnodes, hinstance⟩, hmodule⟩ := hspans
  have hlist := map_eq_self fun n hn => Node.mapSpans_eq_self fun s hs =>
    hnodes s (List.mem_flatMap.mpr ⟨n, hn, hs⟩)
  simp only [mapOffsets, mapSpans, hlist, script_mapSpans_eq_self hinstance,
    script_mapSpans_eq_self hmodule]

end Unchanged

section Table

variable {source : Text}

theorem Root.reached_of_ascii (h : source.isAscii = true) (r : Root) :
    (∀ u ∈ r.offsets, (source.byteOffset? u).isSome) ↔ ∀ u ∈ r.offsets, u ≤ source.bytes := by
  refine forall₂_congr fun u _ => ?_
  rw [Text.byteOffset?_of_ascii h]
  split <;> simp_all

/-- The shortcut for ASCII texts agrees with the conversion by a table unless an offset lies past
the end of the text. Then the shortcut returns the tree, where the table fails the file. -/
theorem Root.toBytes_eq_converted_iff (source file : Text) (r : Root) :
    (r.toBytes source file = r.converted source.tableOffset? file ↔
      (source.isAscii = true → ∀ u ∈ r.offsets, u ≤ source.bytes)) ∧
    (source.isAscii = true → (∃ u ∈ r.offsets, source.bytes < u) →
      r.toBytes source file = .ok r ∧
        r.converted source.tableOffset? file =
          .error (.unexpectedNode file .templateOffsets)) := by
  have htable : source.tableOffset? = fun u => source.byteOffset? u := funext source.tableOffset?_eq
  rw [htable]
  cases hascii : source.isAscii with
  | false => simp [toBytes, hascii]
  | true =>
    have hshort : r.toBytes source file = .ok r := by simp [toBytes, hascii]
    have hpast : (¬∀ u ∈ r.offsets, u ≤ source.bytes) →
        r.converted (fun u => source.byteOffset? u) file =
          .error (.unexpectedNode file .templateOffsets) := fun h =>
      converted_of_not_reached (mt (reached_of_ascii hascii r).mp h) file
    rw [hshort]
    refine ⟨⟨fun heq _ => ?_, fun h => ?_⟩, fun _ ⟨u, hu, hlt⟩ => ⟨rfl, hpast fun h => ?_⟩⟩
    · exact Classical.byContradiction fun hout => by
        rw [hpast hout] at heq
        cases heq
    · have hbound := h rfl
      rw [converted_of_reached ((reached_of_ascii hascii r).mpr hbound), mapOffsets_eq_self]
      intro u hu
      simp [Text.byteOffset?_of_ascii hascii, hbound u hu]
    · exact Nat.lt_irrefl _ (Nat.lt_of_lt_of_le hlt (h u hu))

/-- A text of one letter, and a tree that goes on behind it. -/
theorem Root.toBytes_past_end :
    let r : Root := ⟨[.text ⟨0, 2⟩ []], none, none⟩
    r.toBytes ['a'] ['f'] = .ok r ∧
      r.converted (Text.tableOffset? ['a']) ['f'] =
        .error (.unexpectedNode ['f'] .templateOffsets) := by
  exact ⟨rfl, rfl⟩

end Table

end StoryExports.Template
