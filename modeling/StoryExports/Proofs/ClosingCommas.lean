import StoryExports.Proofs.ListCopies

/-!
# Commas in front of the right brace

A list in braces may end with commas. How many there are is read off its text, and a list is as it
should be if these are few enough, and none where there is no item.
-/
namespace StoryExports

open Text

/-- Where the last of the items ends. -/
def lastEnd (pos : Nat) : List Span → Nat
  | [] => pos
  | s :: rest => lastEnd s.stop rest

/-- How many commas stand in front of the right brace, after the last item if there is one. -/
def closing? (t : Text) (s : Span) (items : List Span) : Option Nat :=
  gap? t ⟨lastEnd (s.start + 1) items, s.stop - 1⟩

/-- A list in braces, but with exactly `n` commas in front of the right brace. -/
structure ClosesWith (t : Text) (n : Nat) (s : Span) (items : List Span) : Prop where
  left : t.slice? ⟨s.start, s.start + 1⟩ = some ['\x7b']
  right : t.slice? ⟨s.stop - 1, s.stop⟩ = some ['\x7d']
  listed : items ≠ [] → LaidOut t n s items
  closing : closing? t s items = some n

section Closing

variable {t : Text} {s : Span} {items : List Span} {most n : Nat}

theorem Follows.mono {stop pos : Nat} (h : Follows t most stop pos items) (hle : most ≤ n) :
    Follows t n stop pos items := by
  induction items generalizing pos with
  | nil =>
    obtain ⟨k, hk, hmost⟩ := h
    exact ⟨k, hk, Nat.le_trans hmost hle⟩
  | cons q items ih => exact ⟨h.1, h.2.1, ih h.2.2⟩

theorem LaidOut.mono (h : LaidOut t most s items) (hle : most ≤ n) : LaidOut t n s items where
  left := h.left
  right := h.right
  gaps := by
    have hgaps := h.gaps
    cases items with
    | nil => exact hgaps
    | cons q items => exact ⟨hgaps.1, hgaps.2.1, hgaps.2.2.mono hle⟩

/-- The commas after the last item are counted, and no more of them are needed. -/
theorem Follows.exists_closing {stop pos : Nat} (h : Follows t most stop pos items) :
    ∃ n, gap? t ⟨lastEnd pos items, stop⟩ = some n ∧ n ≤ most ∧ Follows t n stop pos items := by
  induction items generalizing pos with
  | nil =>
    obtain ⟨n, hn, hle⟩ := h
    exact ⟨n, hn, hle, n, hn, Nat.le_refl n⟩
  | cons q items ih =>
    obtain ⟨n, hn, hle, hrest⟩ := ih h.2.2
    exact ⟨n, hn, hle, h.1, h.2.1, hrest⟩

theorem LaidOut.exists_closing (h : LaidOut t most s items) :
    ∃ n, ClosesWith t n s items ∧ n ≤ most ∧ (items = [] → n = 0) := by
  have hgaps := h.gaps
  cases items with
  | nil =>
    exact ⟨0, ⟨h.left, h.right, fun hne => absurd rfl hne, hgaps⟩, Nat.zero_le _, fun _ => rfl⟩
  | cons q items =>
    obtain ⟨n, hn, hle, hrest⟩ := hgaps.2.2.exists_closing
    exact ⟨n, ⟨h.left, h.right, fun _ => ⟨h.left, h.right, hgaps.1, hgaps.2.1, hrest⟩, hn⟩, hle,
      fun hnil => nomatch hnil⟩

/-- A list is as it should be if it has commas in front of the right brace only after an item, and
few enough of them. -/
theorem ClosesWith.laidOut_iff (h : ClosesWith t n s items) :
    LaidOut t most s items ↔ n ≤ most ∧ (items = [] → n = 0) := by
  constructor
  · intro hlist
    obtain ⟨k, hk, hle, hnil⟩ := hlist.exists_closing
    obtain rfl : k = n := Option.some.inj (hk.closing.symm.trans h.closing)
    exact ⟨hle, hnil⟩
  · rintro ⟨hle, hnil⟩
    by_cases hitems : items = []
    · obtain rfl := hnil hitems
      subst hitems
      exact ⟨h.left, h.right, h.closing⟩
    · exact (h.listed hitems).mono hle

end Closing

section Parts

variable {t a b : Text} {n : Nat}

theorem lastEnd_itemSpans (pos pos' : Nat) (u : List (Text × Text)) (i : Text × Text) :
    lastEnd pos' (itemSpans pos (u ++ [i])) = pos + bytes (itemsText u) + bytes i.1 := by
  induction u generalizing pos pos' with
  | nil => rfl
  | cons j u ih => simp [itemSpans, lastEnd, ih, Nat.add_assoc]

theorem BraceList.closing?_eq {most : Nat} (l : BraceList most) (ht : a ++ (l.text ++ b) = t)
    {u : List (Text × Text)} {i : Text × Text} (hitems : l.items = u ++ [i]) :
    closing? t ⟨bytes a, bytes a + bytes l.text⟩ (l.spans (bytes a)) = commas? i.2 := by
  have hsize : ('\x7b').utf8Size = 1 := rfl
  have hbefore : bytes (a ++ '\x7b' :: (l.opening ++ (itemsText u ++ i.1))) =
      l.first (bytes a) + bytes (itemsText u) + bytes i.1 := by
    simp [BraceList.first, hsize, Nat.add_assoc]
  have hgap := gap?_of_parts (t := t) (a := a ++ '\x7b' :: (l.opening ++ (itemsText u ++ i.1)))
    (g := i.2) (b := '\x7d' :: b) (by rw [← ht]; simp [BraceList.text, BraceList.body, hitems]) rfl
  have hend : l.first (bytes a) + bytes (itemsText u) + bytes i.1 + bytes i.2 =
      bytes a + bytes l.text - 1 := by
    have := bytes_text_eq l (bytes a)
    simp [hitems] at this
    omega
  rw [hbefore, hend] at hgap
  rw [closing?, BraceList.spans_eq, hitems, lastEnd_itemSpans]
  exact hgap

/-- The last gap of a list that has items is known from its parts. -/
theorem BraceList.closesWith (l : BraceList n) (ht : a ++ (l.text ++ b) = t)
    {u : List (Text × Text)} {i : Text × Text} (hitems : l.items = u ++ [i])
    (hn : commas? i.2 = some n) :
    ClosesWith t n ⟨bytes a, bytes a + bytes l.text⟩ (l.spans (bytes a)) where
  left := (l.laidOut ht).left
  right := (l.laidOut ht).right
  listed _ := l.laidOut ht
  closing := (l.closing?_eq ht hitems).trans hn

/-- Braces with a gap between them. -/
theorem closesWith_empty {g : Text} (ht : a ++ ('\x7b' :: (g ++ '\x7d' :: b)) = t)
    (hn : commas? g = some n) : ClosesWith t n ⟨bytes a, bytes a + (1 + bytes g + 1)⟩ [] where
  left := slice?_of_parts (a := a) (b := g ++ '\x7d' :: b) (by rw [← ht]; simp) rfl
  right := by
    have hsize : ('\x7b').utf8Size = 1 := rfl
    refine slice?_of_parts (a := a ++ '\x7b' :: g) (b := b) (by rw [← ht]; simp) ?_
    rw [bytes_append, bytes_cons, hsize]
    congr 1
  listed hne := absurd rfl hne
  closing := by
    have hsize : ('\x7b').utf8Size = 1 := rfl
    refine (gap?_of_parts (a := a ++ ['\x7b']) (g := g) (b := '\x7d' :: b) (by rw [← ht]; simp)
      ?_).trans hn
    simp only [bytes_append, bytes_cons, bytes_nil, hsize, lastEnd]
    congr 1
    omega

end Parts

section Gaps

variable {most n : Nat} {u w : List (Text × Text)} {i j : Text × Text}

theorem Separated.gap (h : Separated most (u ++ i :: j :: w)) :
    i.1 ≠ [] ∧ commas? i.2 = some 1 := by
  induction u with
  | nil => exact ⟨h.1, h.2.1⟩
  | cons k u ih =>
    rw [List.cons_append, separated_cons (by simp)] at h
    exact ih h.2.2

theorem separated_concat (h : ∀ k ∈ u, k.1 ≠ [] ∧ commas? k.2 = some 1) (hi : i.1 ≠ [])
    (hn : commas? i.2 = some n) : Separated n (u ++ [i]) := by
  induction u with
  | nil => exact ⟨hi, n, hn, Nat.le_refl n⟩
  | cons k u ih =>
    obtain ⟨hk, hrest⟩ := List.forall_mem_cons.mp h
    rw [List.cons_append, separated_cons (by simp)]
    exact ⟨hk.1, hk.2, ih hrest⟩

theorem chain_concat (last : Text) (x : Text) (added : List Text) :
    ∃ u y, chain last (x :: added) = u ++ [(y, last)] := by
  induction added generalizing x with
  | nil => exact ⟨[], x, rfl⟩
  | cons y added ih =>
    obtain ⟨u, z, hu⟩ := ih y
    exact ⟨(x, ", ".toList) :: u, z, by rw [chain, hu, List.cons_append]⟩

end Gaps

section Copies

variable {cut : Nat → Bool} {put : Nat → Text} {most n : Nat} {t a b body : Text}
  {l : BraceList most}

/-- Where the text has something at `start`, its copy has a list in braces with the given items and
`n` commas in front of the right brace. -/
def HasListWith (cut : Nat → Bool) (put : Nat → Text) (t : Text) (n start : Nat)
    (items : List (Option Text)) : Prop :=
  ∃ s spans, landing cut put t start = some s.start ∧ ClosesWith (t.weave cut put 0) n s spans ∧
    spans.map (t.weave cut put 0).slice? = items

theorem hasListWith_copy (ht : a ++ (l.text ++ b) = t) (hleft : cut (bytes a) = false)
    (hright : cut (bytes a + bytes l.text - 1) = false) (l' : BraceList n)
    (hbody : weave cut put (bytes a + 1) l.opening ++
      itemsText (woven cut put (l.first (bytes a)) l.items) = l'.body)
    {u : List (Text × Text)} {i : Text × Text} (hitems : l'.items = u ++ [i])
    (hn : commas? i.2 = some n) :
    HasListWith cut put t n (bytes a) (l'.items.map fun i => some i.1) := by
  obtain ⟨rest, hrest⟩ := exists_copied_braces ht hleft hright hbody
  have hparts : weave cut put 0 a ++ (l'.text ++ rest) = t.weave cut put 0 := by
    rw [← hrest]
    simp [BraceList.text]
  refine ⟨_, _, ?_, l'.closesWith hparts hitems hn, l'.slices hparts⟩
  rw [landing, ← ht, cut?_append]
  rfl

theorem hasListWith_empty (ht : a ++ (l.text ++ b) = t) (hleft : cut (bytes a) = false)
    (hright : cut (bytes a + bytes l.text - 1) = false)
    (hbody : weave cut put (bytes a + 1) l.opening ++
      itemsText (woven cut put (l.first (bytes a)) l.items) = body)
    (hn : commas? body = some n) : HasListWith cut put t n (bytes a) [] := by
  obtain ⟨rest, hrest⟩ := exists_copied_braces ht hleft hright hbody
  refine ⟨_, _, ?_, closesWith_empty hrest hn, rfl⟩
  rw [landing, ← ht, cut?_append]
  rfl

/-- The copy has items, then new ones, and then a gap. -/
theorem hasListWith_extended (ht : a ++ (l.text ++ b) = t) (hleft : cut (bytes a) = false)
    (hright : cut (bytes a + bytes l.text - 1) = false)
    (hopening : weave cut put (bytes a + 1) l.opening = l.opening)
    {items : List (Text × Text)} {x tail : Text} {added : List Text}
    (hwoven : itemsText (woven cut put (l.first (bytes a)) l.items) =
      itemsText (extended added (items ++ [(x, tail)])))
    (hitems : ∀ k ∈ items, k.1 ≠ [] ∧ commas? k.2 = some 1) (hx : x ≠ [])
    (htail : commas? tail = some n) (hadded : ∀ y ∈ added, y ≠ []) :
    HasListWith cut put t n (bytes a)
      ((items.map fun i => some i.1) ++ some x :: added.map some) := by
  have hseparated : Separated n (items ++ [(x, tail)]) := separated_concat hitems hx htail
  obtain ⟨u, y, hchain⟩ := chain_concat tail x added
  have hlast : extended added (items ++ [(x, tail)]) = items ++ u ++ [(y, tail)] := by
    rw [extended_append added (List.cons_ne_nil _ _), extended, hchain, List.append_assoc]
  have hlist := hasListWith_copy ht hleft hright
    ⟨l.opening, _, l.opening_free, separated_extended hseparated hadded⟩
    (by rw [hopening, hwoven]; rfl) hlast htail
  have hmap : (extended added (items ++ [(x, tail)])).map (fun i => some i.1) =
      (items.map fun i => some i.1) ++ some x :: added.map some := by
    have hne : items ++ [(x, tail)] ≠ [] := by simp
    have hfst := congrArg (List.map some) (map_extended added hne)
    simpa [Function.comp_def] using hfst
  rwa [← hmap]

end Copies

end StoryExports
