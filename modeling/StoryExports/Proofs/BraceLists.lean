import StoryExports.Proofs.Cuts
import StoryExports.Script.Character

/-!
# Lists in braces

A literal or a pattern is a left brace, items with gaps around them, and a right brace. A gap holds
blanks, comments and commas: none before the first item, one between two items, and at most a given
number after the last one. A text has such a list at given spans exactly if it is made of its parts.
-/
namespace StoryExports

namespace Text

section Slices

variable {t a b m : Text} {s : Span}

theorem slice?_of_parts (ht : a ++ (m ++ b) = t) (hs : s = ⟨bytes a, bytes a + bytes m⟩) :
    t.slice? s = some m := by
  subst ht hs
  exact slice?_parts a m b

theorem bytes_pos (h : t ≠ []) : 0 < bytes t :=
  Nat.pos_of_ne_zero fun hzero => h (eq_nil_of_bytes_eq_zero hzero)

theorem parts_of_slice? (h : t.slice? s = some m) :
    ∃ a b, a ++ (m ++ b) = t ∧ s = ⟨bytes a, bytes a + bytes m⟩ := by
  obtain ⟨start, stop⟩ := s
  rw [slice?_eq] at h
  obtain ⟨_, hguard, h⟩ := Option.bind_eq_some_iff.mp h
  obtain ⟨⟨a, rest⟩, hcut, h⟩ := Option.bind_eq_some_iff.mp h
  obtain ⟨⟨m', b⟩, hcut', hm⟩ := Option.bind_eq_some_iff.mp h
  obtain ⟨rfl, rfl⟩ := append_eq_of_cut? hcut
  obtain ⟨hrest, hbytes⟩ := append_eq_of_cut? hcut'
  have hle : bytes a ≤ stop := by
    refine Nat.le_of_not_lt fun hlt => ?_
    rw [show (guard (bytes a ≤ stop) : Option Unit) = none from if_neg (Nat.not_le.mpr hlt)]
      at hguard
    cases hguard
  cases hm
  exact ⟨a, b, congrArg (a ++ ·) hrest, by rw [hbytes, Nat.add_sub_cancel' hle]⟩

/-- A slice that starts after a part of the text continues it. -/
theorem rest_of_slice? {rest : Text} {stop : Nat}
    (h : slice? ⟨bytes a, stop⟩ (a ++ rest) = some m) :
    ∃ b, rest = m ++ b ∧ stop = bytes a + bytes m := by
  obtain ⟨a', b, happ, hs⟩ := parts_of_slice? h
  injection hs with hstart hstop
  have hcut := cut?_append a rest
  rw [← happ, hstart, cut?_append] at hcut
  cases hcut
  exact ⟨b, rfl, hstop⟩

theorem isBoundary_of_slice? (h : t.slice? s = some m) :
    t.isBoundary s.start = true ∧ t.isBoundary s.stop = true := by
  obtain ⟨a, b, rfl, rfl⟩ := parts_of_slice? h
  refine ⟨isBoundary_append a _, ?_⟩
  have hstop := isBoundary_append (a ++ m) b
  rwa [List.append_assoc, bytes_append] at hstop

theorem exists_slice? (hstart : t.isBoundary s.start = true) (hstop : t.isBoundary s.stop = true)
    (hle : s.start ≤ s.stop) : ∃ m, t.slice? s = some m := by
  obtain ⟨a, m, b, rfl, ha, hm⟩ := exists_parts hstart hstop hle
  exact ⟨m, slice?_of_parts rfl (by rw [hm, ha])⟩

end Slices

end Text

/-- Where a character of a gap stands: outside of comments, after a slash, in a comment up to the
end of the line, in a block comment, or after a star in one. -/
inductive GapState
  | between
  | slash
  | line
  | block
  | star
deriving DecidableEq, Repr

namespace GapState

/-- The state after a character, and whether the character is a comma between items. -/
def step : GapState → Char → Option (GapState × Nat)
  | .between, c =>
    if c = ',' then some (.between, 1)
    else if c = '/' then some (.slash, 0)
    else if Script.isSpace c || Script.isLineBreak c then some (.between, 0)
    else none
  | .slash, c => if c = '/' then some (.line, 0) else if c = '*' then some (.block, 0) else none
  | .line, c => some (if Script.isLineBreak c then .between else .line, 0)
  | .block, c => some (if c = '*' then .star else .block, 0)
  | .star, c => some (if c = '/' then .between else if c = '*' then .star else .block, 0)

/-- The number of commas in the rest of a gap, all comments of which are closed. -/
def commas? (state : GapState) : Text → Option Nat
  | [] => if state = .between then some 0 else none
  | c :: cs => (state.step c).bind fun next => (next.1.commas? cs).map (next.2 + ·)

theorem commas?_append {state : GapState} {g g' : Text} {m n : Nat}
    (hg : state.commas? g = some m) (hg' : commas? .between g' = some n) :
    state.commas? (g ++ g') = some (m + n) := by
  induction g generalizing state m with
  | nil =>
    simp only [commas?] at hg
    split at hg
    · rename_i hbetween
      cases hg
      rw [hbetween, Nat.zero_add]
      exact hg'
    · cases hg
  | cons c g ih =>
    obtain ⟨next, hnext, hrest⟩ := Option.bind_eq_some_iff.mp hg
    obtain ⟨k, hk, rfl⟩ := Option.map_eq_some_iff.mp hrest
    simp [commas?, hnext, ih hk, Nat.add_assoc]

end GapState

namespace Text

/-- The number of commas in a gap. A text that is no gap has none. -/
def commas? (g : Text) : Option Nat := GapState.between.commas? g

theorem commas?_append {g g' : Text} {m n : Nat} (hg : commas? g = some m)
    (hg' : commas? g' = some n) : commas? (g ++ g') = some (m + n) :=
  GapState.commas?_append hg hg'

theorem commas?_blank {g : Text} {n : Nat} (h : commas? g = some n) :
    commas? (g ++ [' ']) = some n := commas?_append (n := 0) h rfl

/-- The commas of the gap at a span. -/
def gap? (t : Text) (s : Span) : Option Nat := (t.slice? s).bind commas?

end Text

open Text

/-- What stands from `pos`, the end of an item, to `stop`: a gap, and the items that are left. -/
def Follows (t : Text) (most stop pos : Nat) : List Span → Prop
  | [] => ∃ n, gap? t ⟨pos, stop⟩ = some n ∧ n ≤ most
  | s :: rest => gap? t ⟨pos, s.start⟩ = some 1 ∧ s.start < s.stop ∧ Follows t most stop s.stop rest

/-- What stands from `pos`, the end of the left brace, to `stop`. -/
def Begins (t : Text) (most stop pos : Nat) : List Span → Prop
  | [] => gap? t ⟨pos, stop⟩ = some 0
  | s :: rest => gap? t ⟨pos, s.start⟩ = some 0 ∧ s.start < s.stop ∧ Follows t most stop s.stop rest

/-- A list in braces stands at a span of a text, its items at the given spans, with at most `most`
commas after the last one. -/
structure LaidOut (t : Text) (most : Nat) (s : Span) (items : List Span) : Prop where
  left : t.slice? ⟨s.start, s.start + 1⟩ = some ['\x7b']
  right : t.slice? ⟨s.stop - 1, s.stop⟩ = some ['\x7d']
  gaps : Begins t most (s.stop - 1) (s.start + 1) items

instance decidableFollows (t : Text) (most stop pos : Nat) (items : List Span) :
    Decidable (Follows t most stop pos items) :=
  match items with
  | [] => decidable_of_iff ((gap? t ⟨pos, stop⟩).any (· ≤ most) = true) (by
      simp [Follows, Option.any_eq_true])
  | s :: rest =>
    have := decidableFollows t most stop s.stop rest
    inferInstanceAs (Decidable (_ ∧ _ ∧ _))

instance (t : Text) (most stop pos : Nat) (items : List Span) :
    Decidable (Begins t most stop pos items) :=
  match items with
  | [] => inferInstanceAs (Decidable (_ = _))
  | _ :: _ => inferInstanceAs (Decidable (_ ∧ _ ∧ _))

instance (t : Text) (most : Nat) (s : Span) (items : List Span) :
    Decidable (LaidOut t most s items) :=
  decidable_of_iff (t.slice? ⟨s.start, s.start + 1⟩ = some ['\x7b'] ∧
      t.slice? ⟨s.stop - 1, s.stop⟩ = some ['\x7d'] ∧
      Begins t most (s.stop - 1) (s.start + 1) items)
    ⟨fun ⟨h₁, h₂, h₃⟩ => ⟨h₁, h₂, h₃⟩, fun h => ⟨h.left, h.right, h.gaps⟩⟩

/-- The items, each with the gap after it, are separated by commas. -/
def Separated (most : Nat) : List (Text × Text) → Prop
  | [] => True
  | [i] => i.1 ≠ [] ∧ ∃ n, commas? i.2 = some n ∧ n ≤ most
  | i :: j :: rest => i.1 ≠ [] ∧ commas? i.2 = some 1 ∧ Separated most (j :: rest)

/-- The text of items and the gaps after them. -/
def itemsText (items : List (Text × Text)) : Text := items.flatMap fun i => i.1 ++ i.2

/-- The spans of the items, the first of which stands at `pos`. -/
def itemSpans (pos : Nat) : List (Text × Text) → List Span
  | [] => []
  | i :: rest => ⟨pos, pos + bytes i.1⟩ :: itemSpans (pos + bytes i.1 + bytes i.2) rest

/-- The parts of a list in braces: the gap before the first item, and the items with the gaps after
them. -/
structure BraceList (most : Nat) where
  opening : Text
  items : List (Text × Text)
  opening_free : commas? opening = some 0
  separated : Separated most items

namespace BraceList

variable {most : Nat}

/-- What stands between the braces. -/
def body (b : BraceList most) : Text := b.opening ++ itemsText b.items

def text (b : BraceList most) : Text := '\x7b' :: (b.body ++ ['\x7d'])

/-- The spans of the items in a text that has the list at `pos`. -/
def spans (b : BraceList most) (pos : Nat) : List Span :=
  itemSpans (pos + 1 + bytes b.opening) b.items

end BraceList

@[simp] theorem itemsText_nil : itemsText [] = [] := rfl

@[simp] theorem itemsText_cons (i : Text × Text) (items : List (Text × Text)) :
    itemsText (i :: items) = i.1 ++ (i.2 ++ itemsText items) := by
  simp [itemsText]

@[simp] theorem itemsText_append (items items' : List (Text × Text)) :
    itemsText (items ++ items') = itemsText items ++ itemsText items' := by
  simp [itemsText]

theorem itemSpans_append (pos : Nat) (items items' : List (Text × Text)) :
    itemSpans pos (items ++ items') =
      itemSpans pos items ++ itemSpans (pos + bytes (itemsText items)) items' := by
  induction items generalizing pos with
  | nil => rfl
  | cons i items ih => simp [itemSpans, ih, Nat.add_assoc]

@[simp] theorem length_itemSpans (pos : Nat) (items : List (Text × Text)) :
    (itemSpans pos items).length = items.length := by
  induction items generalizing pos with
  | nil => rfl
  | cons i items ih => simp [itemSpans, ih]

section Parts

variable {most : Nat}

theorem Separated.ne_nil {items : List (Text × Text)} (h : Separated most items) :
    ∀ i ∈ items, i.1 ≠ [] := by
  induction items with
  | nil => exact fun i hi => absurd hi List.not_mem_nil
  | cons i items ih =>
    cases items with
    | nil => exact fun j hj => List.mem_singleton.mp hj ▸ h.1
    | cons j rest => exact List.forall_mem_cons.mpr ⟨h.1, ih h.2.2⟩

/-- The texts of the items stand at their spans. -/
theorem slices_of_parts {t a b : Text} {items : List (Text × Text)}
    (ht : a ++ (itemsText items ++ b) = t) :
    (itemSpans (bytes a) items).map t.slice? = items.map fun i => some i.1 := by
  induction items generalizing a with
  | nil => rfl
  | cons i items ih =>
    have hfirst : t.slice? ⟨bytes a, bytes a + bytes i.1⟩ = some i.1 :=
      slice?_of_parts (b := i.2 ++ (itemsText items ++ b)) (by rw [← ht]; simp) rfl
    have hrest := ih (a := a ++ (i.1 ++ i.2)) (by rw [← ht]; simp)
    rw [bytes_append, bytes_append, ← Nat.add_assoc] at hrest
    rw [itemSpans, List.map_cons, List.map_cons, hfirst, hrest]

theorem gap?_of_parts {t a g b : Text} {s : Span} (ht : a ++ (g ++ b) = t)
    (hs : s = ⟨bytes a, bytes a + bytes g⟩) : gap? t s = commas? g := by
  rw [gap?, slice?_of_parts ht hs]
  rfl

theorem follows_of_parts {t a b : Text} {i : Text × Text} {rest : List (Text × Text)}
    (ht : a ++ (itemsText (i :: rest) ++ b) = t) (h : Separated most (i :: rest)) :
    Follows t most (bytes a + bytes (itemsText (i :: rest))) (bytes a + bytes i.1)
      (itemSpans (bytes a + bytes i.1 + bytes i.2) rest) := by
  have hgap : ∀ stop, stop = bytes a + bytes i.1 + bytes i.2 →
      gap? t ⟨bytes a + bytes i.1, stop⟩ = commas? i.2 := fun stop hstop =>
    gap?_of_parts (a := a ++ i.1) (b := itemsText rest ++ b) (by rw [← ht]; simp)
      (by rw [hstop, bytes_append])
  induction rest generalizing a i with
  | nil =>
    obtain ⟨n, hn, hle⟩ := h.2
    exact ⟨n, (hgap _ (by simp [Nat.add_assoc])).trans hn, hle⟩
  | cons j rest ih =>
    obtain ⟨-, hcomma, hrest⟩ := h
    have hj : j.1 ≠ [] := hrest.ne_nil j (by simp)
    have hpos : 0 < bytes j.1 := bytes_pos hj
    have hfollows := ih (a := a ++ (i.1 ++ i.2)) (i := j) (by rw [← ht]; simp) hrest
      fun stop hstop => gap?_of_parts (a := a ++ (i.1 ++ (i.2 ++ j.1))) (b := itemsText rest ++ b)
        (by rw [← ht]; simp) (by simp only [hstop, bytes_append, Nat.add_assoc])
    refine ⟨(hgap _ rfl).trans hcomma, by simp only; omega, ?_⟩
    simpa [Nat.add_assoc] using hfollows

end Parts

namespace BraceList

variable {most : Nat} {t a b : Text}

theorem bytes_text (l : BraceList most) : bytes l.text = 1 + bytes l.body + 1 := by
  have hleft : ('\x7b').utf8Size = 1 := rfl
  have hright : ('\x7d').utf8Size = 1 := rfl
  rw [text, bytes_cons, bytes_append, bytes_cons, hleft, hright, bytes_nil, Nat.add_assoc]

/-- A text that is made of the parts of a list has the list. -/
theorem laidOut (l : BraceList most) (ht : a ++ (l.text ++ b) = t) :
    LaidOut t most ⟨bytes a, bytes a + bytes l.text⟩ (l.spans (bytes a)) where
  left := slice?_of_parts (b := l.body ++ '\x7d' :: b) (by rw [← ht]; simp [text]) rfl
  right := by
    refine slice?_of_parts (a := a ++ '\x7b' :: l.body) (b := b) (by rw [← ht]; simp [text]) ?_
    rw [bytes_text, bytes_append, bytes_cons]
    have hleft : ('\x7b').utf8Size = 1 := rfl
    congr 1
  gaps := by
    have hleft : ('\x7b').utf8Size = 1 := rfl
    have hopening : ∀ stop, stop = bytes a + 1 + bytes l.opening →
        gap? t ⟨bytes a + 1, stop⟩ = some 0 := fun stop hstop =>
      (gap?_of_parts (a := a ++ ['\x7b']) (b := itemsText l.items ++ '\x7d' :: b)
        (by rw [← ht]; simp [text, body]) (by simp [hstop, hleft])).trans l.opening_free
    have hstop : bytes a + bytes l.text - 1 =
        bytes a + 1 + bytes l.opening + bytes (itemsText l.items) := by
      rw [bytes_text, body, bytes_append]
      omega
    simp only [hstop, spans]
    have hseparated := l.separated
    cases hitems : l.items with
    | nil => exact hopening _ (by simp)
    | cons i rest =>
      rw [hitems] at hseparated
      have hi : i.1 ≠ [] := hseparated.ne_nil i (by simp)
      have hpos : 0 < bytes i.1 := bytes_pos hi
      have hfollows := follows_of_parts (t := t) (a := a ++ '\x7b' :: l.opening)
        (b := '\x7d' :: b) (by rw [← ht]; simp [text, body, hitems]) hseparated
      refine ⟨hopening _ rfl, by simp only; omega, ?_⟩
      simpa [hleft, Nat.add_assoc, Nat.add_comm 1] using hfollows

theorem slices (l : BraceList most) (ht : a ++ (l.text ++ b) = t) :
    (l.spans (bytes a)).map t.slice? = l.items.map fun i => some i.1 := by
  have hleft : ('\x7b').utf8Size = 1 := rfl
  have hparts : (a ++ '\x7b' :: l.opening) ++ (itemsText l.items ++ '\x7d' :: b) = t := by
    rw [← ht]
    simp [text, body]
  simpa [spans, hleft, Nat.add_assoc] using slices_of_parts hparts

end BraceList

section Reading

variable {most stop : Nat} {t : Text}

theorem exists_gap {a rest : Text} {n : Nat} (ht : a ++ rest = t)
    (h : gap? t ⟨bytes a, stop⟩ = some n) :
    ∃ g b, rest = g ++ b ∧ stop = bytes a + bytes g ∧ commas? g = some n := by
  subst ht
  obtain ⟨g, hslice, hcommas⟩ := Option.bind_eq_some_iff.mp h
  obtain ⟨b, hrest, hstop⟩ := rest_of_slice? hslice
  exact ⟨g, b, hrest, hstop, hcommas⟩

theorem boundary_of_gap? {s : Span} {n : Nat} (h : gap? t s = some n) :
    t.isBoundary s.start = true := by
  obtain ⟨g, hslice, -⟩ := Option.bind_eq_some_iff.mp h
  exact (isBoundary_of_slice? hslice).1

theorem Follows.boundary {pos : Nat} {spans : List Span} (h : Follows t most stop pos spans) :
    t.isBoundary pos = true := by
  cases spans with
  | nil =>
    obtain ⟨n, hn, -⟩ := h
    exact boundary_of_gap? hn
  | cons s rest => exact boundary_of_gap? h.1

/-- The item at a span, which more follows. -/
theorem exists_item {a rest : Text} {s : Span} {spans : List Span} (ht : a ++ rest = t)
    (hstart : s.start = bytes a) (hlt : s.start < s.stop) (h : Follows t most stop s.stop spans) :
    ∃ x b, rest = x ++ b ∧ s.stop = bytes a + bytes x ∧ x ≠ [] := by
  have hboundary : t.isBoundary s.start = true := by
    rw [← ht, hstart]
    exact isBoundary_append a rest
  obtain ⟨x, hslice⟩ := exists_slice? hboundary h.boundary (Nat.le_of_lt hlt)
  rw [← ht, show s = ⟨bytes a, s.stop⟩ by rw [← hstart]] at hslice
  obtain ⟨b, hrest, hstop⟩ := rest_of_slice? hslice
  refine ⟨x, b, hrest, hstop, ?_⟩
  rintro rfl
  rw [bytes_nil] at hstop
  omega

theorem exists_items {a x rest : Text} {spans : List Span} (ht : a ++ (x ++ rest) = t)
    (hx : x ≠ []) (h : Follows t most stop (bytes a + bytes x) spans) :
    ∃ items b, x ++ rest = itemsText items ++ b ∧ stop = bytes a + bytes (itemsText items) ∧
      itemSpans (bytes a) items = ⟨bytes a, bytes a + bytes x⟩ :: spans ∧ Separated most items := by
  induction spans generalizing a x rest with
  | nil =>
    obtain ⟨n, hn, hle⟩ := h
    rw [← bytes_append] at hn
    obtain ⟨g, b, rfl, hstop, hcommas⟩ := exists_gap (by rw [← ht, List.append_assoc]) hn
    exact ⟨[(x, g)], b, by simp, by simp [hstop, Nat.add_assoc], rfl, hx, n, hcommas, hle⟩
  | cons s spans ih =>
    obtain ⟨hgap, hlt, hfollows⟩ := h
    rw [← bytes_append] at hgap
    obtain ⟨g, b, rfl, hstart, hcommas⟩ := exists_gap (by rw [← ht, List.append_assoc]) hgap
    have hparts : (a ++ x ++ g) ++ b = t := by rw [← ht]; simp
    rw [← bytes_append] at hstart
    obtain ⟨y, b, rfl, hstop, hy⟩ := exists_item hparts hstart hlt hfollows
    rw [hstop] at hfollows
    obtain ⟨items, b', happ, hend, hspans, hseparated⟩ := ih hparts hy hfollows
    have hs : s = ⟨bytes (a ++ x ++ g), bytes (a ++ x ++ g) + bytes y⟩ := by rw [← hstop, ← hstart]
    refine ⟨(x, g) :: items, b', by simp [happ], by simp [hend, Nat.add_assoc], ?_, ?_⟩
    · rw [itemSpans, hs, ← hspans, bytes_append, bytes_append]
    · cases items with
      | nil => cases hspans
      | cons j items => exact ⟨hx, hcommas, hseparated⟩

/-- A text that has a list is made of the parts of the list. -/
theorem LaidOut.exists_list {s : Span} {spans : List Span} (h : LaidOut t most s spans) :
    ∃ (a b : Text) (l : BraceList most), a ++ (l.text ++ b) = t ∧
      s = ⟨bytes a, bytes a + bytes l.text⟩ ∧ l.spans (bytes a) = spans := by
  have hleft : ('\x7b').utf8Size = 1 := rfl
  obtain ⟨a, rest, ht, hs⟩ := parts_of_slice? h.left
  injection hs with hstart
  have hopen : bytes (a ++ ['\x7b']) = s.start + 1 := by simp [hstart, hleft]
  rw [← List.append_assoc] at ht
  -- Once the parts up to the right brace are known, the brace itself follows.
  suffices hparts : ∃ (l : BraceList most) (b : Text), rest = l.body ++ b ∧
      s.stop - 1 = bytes (a ++ ['\x7b'] ++ l.body) ∧ l.spans (bytes a) = spans by
    obtain ⟨l, b, rfl, hstop, hspans⟩ := hparts
    have hright := h.right
    rw [hstop, ← ht, ← List.append_assoc] at hright
    obtain ⟨b', rfl, hend⟩ := rest_of_slice? hright
    refine ⟨a, b', l, by rw [← ht]; simp [BraceList.text], ?_, hspans⟩
    obtain ⟨start, stop⟩ := s
    simp only at hstart hend
    have hright : ('\x7d').utf8Size = 1 := rfl
    have hbytes : bytes (a ++ ['\x7b'] ++ l.body) + bytes ['\x7d'] =
        bytes a + (1 + bytes l.body + 1) := by simp [hleft, hright, Nat.add_assoc]
    rw [hstart, hend, BraceList.bytes_text, hbytes]
  have hgaps := h.gaps
  rw [← hopen] at hgaps
  cases spans with
  | nil =>
    obtain ⟨g, b, rfl, hstop, hcommas⟩ := exists_gap ht hgaps
    exact ⟨⟨g, [], hcommas, trivial⟩, b, by simp [BraceList.body],
      by simp [BraceList.body, hstop, Nat.add_assoc], rfl⟩
  | cons first spans =>
    obtain ⟨hgap, hlt, hfollows⟩ := hgaps
    obtain ⟨g, b, rfl, hfirst, hcommas⟩ := exists_gap ht hgap
    have hparts : (a ++ ['\x7b'] ++ g) ++ b = t := by rw [← ht]; simp
    rw [← bytes_append] at hfirst
    obtain ⟨x, b, rfl, hstop, hx⟩ := exists_item hparts hfirst hlt hfollows
    rw [hstop] at hfollows
    obtain ⟨items, b', happ, hend, hspans, hseparated⟩ := exists_items hparts hx hfollows
    have hspan : first = ⟨bytes (a ++ ['\x7b'] ++ g), bytes (a ++ ['\x7b'] ++ g) + bytes x⟩ := by
      rw [← hstop, ← hfirst]
    refine ⟨⟨g, items, hcommas, hseparated⟩, b', by simp [BraceList.body, happ], ?_, ?_⟩
    · rw [hend]
      simp [BraceList.body, Nat.add_assoc]
    · rw [hspan, ← hspans]
      simp [BraceList.spans, hleft, Nat.add_assoc]

theorem LaidOut.stop_le {s : Span} {spans : List Span} (h : LaidOut t most s spans) :
    s.stop ≤ bytes t :=
  le_bytes_of_isBoundary (isBoundary_of_slice? h.right).2

theorem Follows.start_lt_stop {pos : Nat} {spans : List Span} (h : Follows t most stop pos spans) :
    ∀ q ∈ spans, q.start < q.stop := by
  induction spans generalizing pos with
  | nil => exact fun q hq => absurd hq List.not_mem_nil
  | cons s spans ih => exact List.forall_mem_cons.mpr ⟨h.2.1, ih h.2.2⟩

theorem LaidOut.start_lt_stop {s : Span} {spans : List Span} (h : LaidOut t most s spans) :
    ∀ q ∈ spans, q.start < q.stop := by
  have hgaps := h.gaps
  cases spans with
  | nil => exact fun q hq => absurd hq List.not_mem_nil
  | cons first spans => exact List.forall_mem_cons.mpr ⟨hgaps.2.1, hgaps.2.2.start_lt_stop⟩

end Reading

end StoryExports
