import StoryExports.Proofs.BraceLists
import StoryExports.Proofs.Occurrences

/-!
# The code of a script element

The code of a script stands between the first `>` after its attributes and the last `</` of the
element. Wherever a span is found, it can be cut out of the source; and in an element that is an
opening tag, code and a closing tag it is the span of the code, whatever the code holds. The offsets
come from a tree that may not belong to the source, so the end of the attributes is taken only where
it splits no character.
-/
namespace StoryExports.Template

open Text (bytes bytes_append bytes_cons)

namespace Script

variable {s : Script} {source before tag code closing after : Text} {span : Span}

/-! ### The end of the attributes -/

/-- The end of the attributes is the greatest of their ends, or the start of the element. -/
theorem attributesEnd_spec (s : Script) :
    (s.attributesEnd = 0 ∨
      ∃ a ∈ plainAttributes s.attributes, a.span.stop = s.span.start + s.attributesEnd) ∧
    ∀ a ∈ plainAttributes s.attributes, a.span.stop ≤ s.span.start + s.attributesEnd := by
  generalize hends : (plainAttributes s.attributes).filterMap (fun a =>
    if s.span.start ≤ a.span.stop then some (a.span.stop - s.span.start) else none) = ends
  have hmax : (0 :: ends).max? = some s.attributesEnd := by
    rw [List.max?_cons', attributesEnd, hends]
  have hmem : ∀ n, n ∈ ends ↔ ∃ a ∈ plainAttributes s.attributes,
      s.span.start ≤ a.span.stop ∧ a.span.stop - s.span.start = n := by
    intro n
    simp only [← hends, List.mem_filterMap, Option.ite_none_right_eq_some, Option.some.injEq]
  obtain ⟨hattained, hgreatest⟩ := List.max?_eq_some_iff.mp hmax
  refine ⟨(List.mem_cons.mp hattained).imp_right fun h => ?_, fun a ha => ?_⟩
  · obtain ⟨a, ha, hle, hend⟩ := (hmem _).mp h
    exact ⟨a, ha, by omega⟩
  · rcases Nat.lt_or_ge a.span.stop s.span.start with hlt | hle
    · omega
    · have := hgreatest _ (List.mem_cons_of_mem _ ((hmem _).mpr ⟨a, ha, hle, rfl⟩))
      omega

/-! ### What a found span is made of -/

theorem utf8Size_gt : Char.utf8Size '>' = 1 := rfl

theorem contentSpan?_eq (s : Script) (source : Text) :
    s.contentSpan? source = (source.slice? s.span).bind fun element =>
      (element.cut? s.attributesEnd).bind fun p => (firstOccurrence? p.2 ['>']).bind fun opened =>
        (lastOccurrence? element ['<', '/']).bind fun closed =>
          (guard (s.attributesEnd + opened + 1 ≤ closed) : Option Unit).bind fun _ =>
            some ⟨s.span.start + (s.attributesEnd + opened + 1), s.span.start + closed⟩ := rfl

theorem contentSpan?_eq_some_iff :
    s.contentSpan? source = some span ↔ ∃ element attributes rest opened closed,
      source.slice? s.span = some element ∧
      element.cut? s.attributesEnd = some (attributes, rest) ∧
      firstOccurrence? rest ['>'] = some opened ∧
      lastOccurrence? element ['<', '/'] = some closed ∧ s.attributesEnd + opened + 1 ≤ closed ∧
      span = ⟨s.span.start + (s.attributesEnd + opened + 1), s.span.start + closed⟩ := by
  rw [contentSpan?_eq]
  constructor
  · intro h
    obtain ⟨element, helement, h⟩ := Option.bind_eq_some_iff.mp h
    obtain ⟨⟨attributes, rest⟩, hcut, h⟩ := Option.bind_eq_some_iff.mp h
    obtain ⟨opened, hopened, h⟩ := Option.bind_eq_some_iff.mp h
    obtain ⟨closed, hclosed, h⟩ := Option.bind_eq_some_iff.mp h
    by_cases hle : s.attributesEnd + opened + 1 ≤ closed
    · rw [show (guard (s.attributesEnd + opened + 1 ≤ closed) : Option Unit) = some () from
        if_pos hle, Option.bind_some, Option.some.injEq] at h
      exact ⟨element, attributes, rest, opened, closed, helement, hcut, hopened, hclosed, hle,
        h.symm⟩
    · rw [show (guard (s.attributesEnd + opened + 1 ≤ closed) : Option Unit) = none from
        if_neg hle] at h
      cases h
  · rintro ⟨element, attributes, rest, opened, closed, helement, hcut, hopened, hclosed, hle, rfl⟩
    rw [helement, Option.bind_some, hcut, Option.bind_some, hopened, Option.bind_some, hclosed,
      Option.bind_some, show (guard (s.attributesEnd + opened + 1 ≤ closed) : Option Unit) = some ()
        from if_pos hle, Option.bind_some]

/-- The span can be cut out of the source and lies in the element, right after a `>` and right
before a `</`. -/
structure HoldsCode (s : Script) (source : Text) (span : Span) : Prop where
  ordered : s.span.start ≤ span.start ∧ span.start ≤ span.stop ∧ span.stop ≤ s.span.stop
  within : span.stop ≤ source.bytes
  boundaries : source.isBoundary span.start = true ∧ source.isBoundary span.stop = true
  between : ∃ before code after, source = before ++ '>' :: (code ++ '<' :: '/' :: after) ∧
    span.start = bytes before + 1 ∧ source.slice? span = some code

theorem holdsCode_of_parts (hstart : s.span.start ≤ bytes before)
    (hstop : bytes before + 1 + bytes code ≤ s.span.stop) :
    s.HoldsCode (before ++ '>' :: (code ++ '<' :: '/' :: after))
      ⟨bytes before + 1, bytes before + 1 + bytes code⟩ := by
  have hslice : Text.slice? ⟨bytes before + 1, bytes before + 1 + bytes code⟩
      (before ++ '>' :: (code ++ '<' :: '/' :: after)) = some code :=
    Text.slice?_of_parts (a := before ++ ['>']) (b := '<' :: '/' :: after) (by simp)
      (by rw [bytes_append]; rfl)
  have hboundaries := Text.isBoundary_of_slice? hslice
  exact ⟨⟨Nat.le_succ_of_le hstart, Nat.le_add_right _ _, hstop⟩,
    Text.le_bytes_of_isBoundary hboundaries.2, hboundaries, before, code, after, rfl, rfl, hslice⟩

theorem holdsCode_of_contentSpan? (h : s.contentSpan? source = some span) :
    s.HoldsCode source span := by
  obtain ⟨element, attributes, rest, opened, closed, helement, hcut, hopened, hclosed, hle, rfl⟩ :=
    contentSpan?_eq_some_iff.mp h
  obtain ⟨before, after, rfl, hspan⟩ := Text.parts_of_slice? helement
  obtain ⟨rfl, hattributes⟩ := Text.append_eq_of_cut? hcut
  obtain ⟨tag, ⟨more, rfl⟩, rfl, -⟩ := firstOccurrence?_eq_some_iff.mp hopened
  obtain ⟨inner, hinner, rfl, -⟩ := (lastOccurrence?_eq_some_iff (by simp)).mp hclosed
  -- Both `>` and `</` are found in the element, and the bytes tell which of them comes first.
  have hopening : attributes ++ (tag ++ ['>']) <+: inner := by
    refine Text.prefix_of_bytes_le (t := attributes ++ (tag ++ ['>'] ++ more)) ⟨more, by simp⟩
      ((List.prefix_append inner _).trans hinner) ?_
    simp only [bytes_append, hattributes]
    exact hle
  obtain ⟨code, rfl⟩ := hopening
  obtain ⟨last, hlast⟩ := hinner
  have hsource : before ++ (attributes ++ (tag ++ ['>'] ++ more) ++ after) =
      (before ++ attributes ++ tag) ++ '>' :: (code ++ '<' :: '/' :: (last ++ after)) := by
    rw [← hlast]
    simp
  have hinside : bytes (attributes ++ (tag ++ ['>']) ++ code) ≤
      bytes (attributes ++ (tag ++ ['>'] ++ more)) := by
    simp only [← hlast, bytes_append]
    omega
  have hfound : (⟨s.span.start + (s.attributesEnd + bytes tag + 1),
      s.span.start + bytes (attributes ++ (tag ++ ['>']) ++ code)⟩ : Span) =
      ⟨bytes (before ++ attributes ++ tag) + 1, bytes (before ++ attributes ++ tag) + 1 +
        bytes code⟩ := by
    simp [hspan, hattributes, utf8Size_gt, Nat.add_assoc]
  rw [hsource, hfound]
  refine holdsCode_of_parts (by simp [hspan]) ?_
  simp only [hspan, bytes_append, bytes_cons, Text.bytes_nil, utf8Size_gt] at hinside ⊢
  omega

/-! ### The code between two tags -/

/-- The script is an opening tag, code and a closing tag. The attributes end in the opening tag,
whose last `>` is its only one after them, and the closing tag has no `</` but at its front. -/
structure StandsIn (s : Script) (source before tag code closing after : Text) : Prop where
  source_eq : source = before ++ (tag ++ '>' :: (code ++ closing) ++ after)
  span_eq : s.span =
    ⟨bytes before, bytes before + bytes (tag ++ '>' :: (code ++ closing))⟩
  attribute_le : ∀ a ∈ plainAttributes s.attributes,
    bytes before ≤ a.span.stop ∧ a.span.stop ≤ bytes before + bytes tag
  covered : ∀ u v, tag = u ++ '>' :: v →
    ∃ a ∈ plainAttributes s.attributes, bytes before + bytes u < a.span.stop
  closes : ['<', '/'] <+: closing
  closes_once : ∀ u, u ++ ['<', '/'] <+: closing → u = []

/-- The greatest end of an attribute splits no character of the source. -/
def EndsWhole (s : Script) (source : Text) : Prop :=
  ∀ a ∈ plainAttributes s.attributes,
    (∀ b ∈ plainAttributes s.attributes, b.span.stop ≤ a.span.stop) →
      source.isBoundary a.span.stop = true

namespace StandsIn

variable (h : s.StandsIn source before tag code closing after)
include h

theorem slice_eq : source.slice? s.span = some (tag ++ '>' :: (code ++ closing)) :=
  Text.slice?_of_parts h.source_eq.symm h.span_eq

theorem attributesEnd_le : s.attributesEnd ≤ bytes tag := by
  have hstart : s.span.start = bytes before := congrArg Span.start h.span_eq
  rcases (attributesEnd_spec s).1 with hzero | ⟨a, ha, hend⟩
  · omega
  · have := (h.attribute_le a ha).2
    omega

/-- Where the greatest end splits no character, it cuts the opening tag. -/
theorem exists_cut (hwhole : s.EndsWhole source) :
    ∃ u v, tag = u ++ v ∧ bytes u = s.attributesEnd := by
  have hstart : s.span.start = bytes before := congrArg Span.start h.span_eq
  have hboundary : source.isBoundary (bytes before + s.attributesEnd) = true := by
    obtain ⟨hattained, hgreatest⟩ := attributesEnd_spec s
    rcases hattained with hzero | ⟨a, ha, hend⟩
    · rw [hzero, Nat.add_zero, h.source_eq]
      exact Text.isBoundary_append before _
    · rw [← hstart, ← hend]
      exact hwhole a ha fun b hb => hend ▸ hgreatest b hb
  obtain ⟨u', rest, hu', hbytes⟩ := Text.isBoundary_iff.mp hboundary
  have hprefix : u' <+: before ++ tag :=
    Text.prefix_of_bytes_le ⟨rest, hu'⟩
      ⟨'>' :: (code ++ closing) ++ after, by simp [h.source_eq]⟩
      (by rw [hbytes, bytes_append]; exact Nat.add_le_add_left h.attributesEnd_le _)
  obtain ⟨u, rfl⟩ : before <+: u' :=
    Text.prefix_of_bytes_le ⟨tag ++ '>' :: (code ++ closing) ++ after, by simp [h.source_eq]⟩
      ⟨rest, hu'⟩ (by rw [hbytes]; exact Nat.le_add_right _ _)
  obtain ⟨v, hv⟩ := (List.prefix_append_right_inj before).mp hprefix
  exact ⟨u, v, hv.symm, by rw [bytes_append] at hbytes; omega⟩

theorem firstOccurrence?_after {u v : Text} (htag : tag = u ++ v)
    (hu : bytes u = s.attributesEnd) :
    firstOccurrence? (v ++ '>' :: (code ++ closing)) ['>'] = some (bytes v) := by
  refine firstOccurrence?_eq_some_iff.mpr ⟨v, ⟨code ++ closing, by simp⟩, rfl, fun a' ha' => ?_⟩
  rcases List.prefix_or_prefix_of_prefix (List.prefix_append v ('>' :: (code ++ closing)))
    ((List.prefix_append a' _).trans ha') with hva | ⟨w, rfl⟩
  · exact hva
  · cases w with
    | nil => simp
    | cons c w =>
      -- An earlier `>` would stand in the tag, so before the end of some attribute.
      obtain rfl : '>' = c := by simpa [OccursAfter] using ha'
      obtain ⟨a, ha, hlt⟩ := h.covered (u ++ a') w (by simp [htag])
      have hle := (attributesEnd_spec s).2 a ha
      rw [h.span_eq, bytes_append] at *
      simp only at hle
      omega

theorem lastOccurrence?_eq :
    lastOccurrence? (tag ++ '>' :: (code ++ closing)) ['<', '/'] =
      some (bytes (tag ++ '>' :: code)) := by
  have hsplit : tag ++ '>' :: (code ++ closing) = (tag ++ '>' :: code) ++ closing := by simp
  rw [hsplit]
  refine (lastOccurrence?_eq_some_iff (by simp)).mpr ⟨tag ++ '>' :: code,
    (List.prefix_append_right_inj _).mpr h.closes, rfl, fun a' ha' => ?_⟩
  rcases List.prefix_or_prefix_of_prefix ((List.prefix_append a' _).trans ha')
    (List.prefix_append (tag ++ '>' :: code) closing) with ha | ⟨u, rfl⟩
  · exact ha
  · -- An occurrence after the code is one in the closing tag.
    rw [OccursAfter, List.append_assoc] at ha'
    have hu : u = [] := h.closes_once u ((List.prefix_append_right_inj _).mp ha')
    simp [hu]

theorem contentSpan?_eq_code (hwhole : s.EndsWhole source) :
    s.contentSpan? source =
      some ⟨bytes before + bytes tag + 1, bytes before + bytes tag + 1 + bytes code⟩ := by
  obtain ⟨u, v, htag, hu⟩ := h.exists_cut hwhole
  have hcut : Text.cut? s.attributesEnd (tag ++ '>' :: (code ++ closing)) =
      some (u, v ++ '>' :: (code ++ closing)) := by
    rw [← hu, htag, List.append_assoc]
    exact Text.cut?_append u _
  refine contentSpan?_eq_some_iff.mpr ⟨_, u, _, _, _, h.slice_eq, hcut,
    h.firstOccurrence?_after htag hu, h.lastOccurrence?_eq, ?_, ?_⟩
  · simp only [htag, bytes_append, bytes_cons, utf8Size_gt]
    omega
  · simp only [h.span_eq, htag, ← hu, bytes_append, bytes_cons, utf8Size_gt, Nat.add_assoc]

theorem contentSpan?_eq_none (hsplit : ¬ s.EndsWhole source) : s.contentSpan? source = none := by
  refine Option.eq_none_iff_forall_ne_some.mpr fun span hspan => hsplit fun a ha hgreatest => ?_
  obtain ⟨element, attributes, rest, -, -, helement, hcut, -⟩ := contentSpan?_eq_some_iff.mp hspan
  obtain ⟨before', after', hsource, hs⟩ := Text.parts_of_slice? helement
  obtain ⟨rfl, hbytes⟩ := Text.append_eq_of_cut? hcut
  -- The greatest end is where the element was cut.
  have hend : a.span.stop = bytes (before' ++ attributes) := by
    obtain ⟨hattained, hle⟩ := attributesEnd_spec s
    have hle := hle a ha
    have hge := (h.attribute_le a ha).1
    rw [h.span_eq] at hs
    injection hs with hs
    rw [bytes_append, hbytes]
    rw [h.span_eq] at hle
    simp only at hle
    rcases hattained with hzero | ⟨b, hb, hbend⟩
    · omega
    · have := hgreatest b hb
      rw [h.span_eq] at hbend
      simp only at hbend
      omega
  rw [hend, ← hsource, List.append_assoc, ← List.append_assoc before']
  exact Text.isBoundary_append _ _

end StandsIn

/-- A found span can be cut out of the source, lies in the element and has `>` before it and `</`
after it. In an element made of an opening tag, code and a closing tag it is the span of the code,
unless the greatest end of an attribute splits a character: then nothing is found. -/
theorem contentSpan?_exact (s : Script) (source : Text) :
    (∀ span, s.contentSpan? source = some span → s.HoldsCode source span) ∧
    ∀ before tag code closing after, s.StandsIn source before tag code closing after →
      (s.EndsWhole source → s.contentSpan? source =
        some ⟨bytes before + bytes tag + 1, bytes before + bytes tag + 1 + bytes code⟩) ∧
      (¬ s.EndsWhole source → s.contentSpan? source = none) :=
  ⟨fun _ => holdsCode_of_contentSpan?, fun _ _ _ _ _ h =>
    ⟨h.contentSpan?_eq_code, h.contentSpan?_eq_none⟩⟩

/-- A closing tag without another `<`. -/
theorem eq_nil_of_prefix_closing {u rest : Text} (hrest : '<' ∉ rest)
    (h : u ++ ['<', '/'] <+: '<' :: '/' :: rest) : u = [] := by
  cases u with
  | nil => rfl
  | cons c u =>
    have hsub := (List.cons_prefix_cons.mp h).2.subset (show '<' ∈ u ++ ['<', '/'] by simp)
    simp [hrest] at hsub

/-- A script after another character, with a `>` in its attribute and tags in its code. -/
def genericScript : Script :=
  ⟨⟨2, 41⟩, [], [.plain ⟨⟨10, 25⟩, "generics".toList, .sequence [.text ⟨20, 24⟩ "A<B>".toList]⟩]⟩

def genericSource : Text := "é<script generics=\"A<B>\">a</b>c</script>!".toList

theorem genericScript_standsIn :
    genericScript.StandsIn genericSource "é".toList "<script generics=\"A<B>\"".toList
      "a</b>c".toList "</script>".toList "!".toList := by
  refine ⟨by decide, by decide, by decide, fun u v huv => ?_, by decide, fun u hu =>
    eq_nil_of_prefix_closing (by decide) hu⟩
  -- The attribute ends where the tag does.
  have hbytes := congrArg bytes huv
  rw [bytes_append, bytes_cons, utf8Size_gt,
    show bytes "<script generics=\"A<B>\"".toList = 23 from rfl] at hbytes
  exact ⟨_, List.mem_singleton_self _, show bytes "é".toList + bytes u < 25 by
    rw [show bytes "é".toList = 2 from rfl]; omega⟩

/-- A script whose attribute ends in the middle of a character. -/
def splitScript : Script := ⟨⟨0, 21⟩, [], [.plain ⟨⟨8, 9⟩, "é".toList, .flag true⟩]⟩

def splitSource : Text := "<script é>x</script>".toList

theorem splitScript_standsIn :
    splitScript.StandsIn splitSource [] "<script é".toList "x".toList "</script>".toList [] := by
  refine ⟨by decide, by decide, by decide, fun u v huv => ?_, by decide, fun u hu =>
    eq_nil_of_prefix_closing (by decide) hu⟩
  have hmem : '>' ∈ "<script é".toList := huv ▸ by simp
  exact absurd hmem (by decide)

theorem contentSpan?_genericScript :
    (genericScript.contentSpan? genericSource = some ⟨26, 32⟩ ∧
      genericScript.HoldsCode genericSource ⟨26, 32⟩) ∧
    ¬ splitScript.EndsWhole splitSource ∧ splitScript.contentSpan? splitSource = none := by
  have hwhole : genericScript.EndsWhole genericSource := by
    simp only [EndsWhole]
    decide
  have hsplit : ¬ splitScript.EndsWhole splitSource := by
    simp only [EndsWhole]
    decide
  obtain ⟨hholds, hcode⟩ := contentSpan?_exact genericScript genericSource
  have hspan := (hcode _ _ _ _ _ genericScript_standsIn).1 hwhole
  exact ⟨⟨hspan, hholds _ hspan⟩, hsplit,
    ((contentSpan?_exact splitScript splitSource).2 _ _ _ _ _ splitScript_standsIn).2 hsplit⟩

/-- Between two tags, and still nothing is found. -/
theorem contentSpan?_splitScript :
    splitScript.StandsIn splitSource [] "<script é".toList "x".toList "</script>".toList [] ∧
      splitScript.contentSpan? splitSource ≠ some ⟨11, 12⟩ :=
  ⟨splitScript_standsIn, by decide⟩

end Script

end StoryExports.Template
