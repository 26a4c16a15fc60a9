import StoryExports.Proofs.BraceLists
import StoryExports.Proofs.Untouched

/-!
# Copying lists in braces

A copy of a text writes something at some offsets and leaves out some characters. A list in braces
is copied item by item and gap by gap: what is put at the ends of an item belongs to the gaps. Where
the copies of the parts make up a list again, the copy of the text has that list.
-/
namespace StoryExports

namespace Text

section Copy

variable {cut : Nat → Bool} {put : Nat → Text}

/-- Copy a text without what is put at its end. -/
def copy (cut : Nat → Bool) (put : Nat → Text) (pos : Nat) : Text → Text
  | [] => []
  | c :: cs => put pos ++ ((if cut pos then [] else [c]) ++ copy cut put (pos + c.utf8Size) cs)

/-- Copy a text without what is put at its ends. -/
def image (cut : Nat → Bool) (put : Nat → Text) (pos : Nat) : Text → Text
  | [] => []
  | c :: cs => (if cut pos then [] else [c]) ++ copy cut put (pos + c.utf8Size) cs

/-- What a copy makes of a part of the text. -/
def copyOf (cut : Nat → Bool) (put : Nat → Text) (t : Text) (s : Span) : Option Text :=
  (t.slice? s).map (image cut put s.start)

/-- Where a copy has what stands at an offset of the text. -/
def landing (cut : Nat → Bool) (put : Nat → Text) (t : Text) (n : Nat) : Option Nat :=
  (t.cut? n).map fun parts => bytes (weave cut put 0 parts.1)

theorem weave_append (pos : Nat) (a b : Text) :
    weave cut put pos (a ++ b) = copy cut put pos a ++ weave cut put (pos + bytes a) b := by
  induction a generalizing pos with
  | nil => simp [copy]
  | cons c a ih => simp [copy, weave, ih, Nat.add_assoc]

theorem weave_eq (pos : Nat) (t : Text) :
    weave cut put pos t = copy cut put pos t ++ put (pos + bytes t) := by
  have happ : weave cut put pos (t ++ []) = _ := weave_append pos t []
  rwa [List.append_nil] at happ

theorem copy_eq {t : Text} (pos : Nat) (h : t ≠ []) :
    copy cut put pos t = put pos ++ image cut put pos t := by
  cases t with
  | nil => exact absurd rfl h
  | cons c t => rfl

/-- What is put before an item belongs to the gap before it, and what is put after it to the
rest. -/
theorem weave_item {x : Text} (hx : x ≠ []) (pos : Nat) (g rest : Text) :
    weave cut put pos (g ++ (x ++ rest)) = weave cut put pos g ++
      (image cut put (pos + bytes g) x ++ weave cut put (pos + bytes g + bytes x) rest) := by
  rw [weave_append, weave_append, copy_eq _ hx, weave_eq pos g]
  simp only [List.append_assoc]

/-- Where all is cut or nothing is, and nothing is put. -/
theorem copy_uniform (gone : Bool) {pos : Nat} {t : Text}
    (hput : ∀ n, pos ≤ n → n < pos + bytes t → put n = [])
    (hcut : ∀ n, pos ≤ n → n < pos + bytes t → cut n = gone) :
    copy cut put pos t = if gone then [] else t := by
  induction t generalizing pos with
  | nil => simp [copy]
  | cons c t ih =>
    have hc := c.utf8Size_pos
    rw [bytes_cons] at hput hcut
    have hrest : copy cut put (pos + c.utf8Size) t = _ :=
      ih (fun n hn hlt => hput n (by omega) (by omega)) fun n hn hlt => hcut n (by omega) (by omega)
    rw [copy, hput pos (Nat.le_refl _) (by omega), hcut pos (Nat.le_refl _) (by omega), hrest]
    cases gone <;> rfl

theorem image_uniform (gone : Bool) {pos : Nat} {t : Text}
    (hput : ∀ n, pos < n → n < pos + bytes t → put n = [])
    (hcut : ∀ n, pos ≤ n → n < pos + bytes t → cut n = gone) :
    image cut put pos t = if gone then [] else t := by
  cases t with
  | nil => simp [image]
  | cons c t =>
    have hc := c.utf8Size_pos
    rw [bytes_cons] at hput hcut
    have hrest : copy cut put (pos + c.utf8Size) t = if gone then [] else t :=
      copy_uniform gone (fun n hn hlt => hput n (by omega) (by omega))
        fun n hn hlt => hcut n (by omega) (by omega)
    rw [image, hcut pos (Nat.le_refl _) (by omega), hrest]
    cases gone <;> rfl

theorem weave_uniform (gone : Bool) {pos : Nat} {t : Text}
    (hput : ∀ n, pos < n → n ≤ pos + bytes t → put n = [])
    (hcut : ∀ n, pos ≤ n → n < pos + bytes t → cut n = gone) :
    weave cut put pos t = put pos ++ if gone then [] else t := by
  have himage : image cut put pos t = if gone then [] else t :=
    image_uniform gone (fun n hn hlt => hput n hn (Nat.le_of_lt hlt)) hcut
  cases t with
  | nil => simp [weave]
  | cons c t =>
    have hend : put (pos + bytes (c :: t)) = [] := by
      have hc := c.utf8Size_pos
      exact hput _ (by rw [bytes_cons]; omega) (Nat.le_refl _)
    rw [weave_eq, copy_eq pos (List.cons_ne_nil c t), himage, hend, List.append_nil]

theorem image_ne_nil {pos : Nat} {t : Text} (h : cut pos = false) (ht : t ≠ []) :
    image cut put pos t ≠ [] := by
  cases t with
  | nil => exact absurd rfl ht
  | cons c t => simp [image, h]

end Copy

end Text

open Text

/-- What a copy makes of items and the gaps after them. -/
def woven (cut : Nat → Bool) (put : Nat → Text) (pos : Nat) :
    List (Text × Text) → List (Text × Text)
  | [] => []
  | i :: rest => (image cut put pos i.1, weave cut put (pos + bytes i.1) i.2) ::
      woven cut put (pos + bytes i.1 + bytes i.2) rest

/-- The items of a copy, with the gaps as they were. -/
def kept (cut : Nat → Bool) (put : Nat → Text) (pos : Nat) :
    List (Text × Text) → List (Text × Text)
  | [] => []
  | i :: rest => (image cut put pos i.1, i.2) :: kept cut put (pos + bytes i.1 + bytes i.2) rest

/-- New items with commas between them. The gap `last` comes after the last one. -/
def chain (last : Text) : List Text → List (Text × Text)
  | [] => []
  | [x] => [(x, last)]
  | x :: y :: rest => (x, ", ".toList) :: chain last (y :: rest)

/-- Items and new ones after them. The last gap comes after the last new item. -/
def extended (added : List Text) : List (Text × Text) → List (Text × Text)
  | [] => []
  | [i] => chain i.2 (i.1 :: added)
  | i :: j :: rest => i :: extended added (j :: rest)

/-- The text that new items bring when they follow others. -/
def following (added : List Text) : Text := added.flatMap (", ".toList ++ ·)

/-- Where the last item ends. -/
def lastStop (pos : Nat) : List (Text × Text) → Nat
  | [] => pos
  | [i] => pos + bytes i.1
  | i :: j :: rest => lastStop (pos + bytes i.1 + bytes i.2) (j :: rest)

section Lists

variable {cut : Nat → Bool} {put : Nat → Text} {most : Nat}

theorem woven_append (pos : Nat) (items items' : List (Text × Text)) :
    woven cut put pos (items ++ items') =
      woven cut put pos items ++ woven cut put (pos + bytes (itemsText items)) items' := by
  induction items generalizing pos with
  | nil => rfl
  | cons i items ih => simp [woven, ih, Nat.add_assoc]

theorem kept_append (pos : Nat) (items items' : List (Text × Text)) :
    kept cut put pos (items ++ items') =
      kept cut put pos items ++ kept cut put (pos + bytes (itemsText items)) items' := by
  induction items generalizing pos with
  | nil => rfl
  | cons i items ih => simp [kept, ih, Nat.add_assoc]

theorem kept_ne_nil {pos : Nat} {items : List (Text × Text)} (h : items ≠ []) :
    kept cut put pos items ≠ [] := by
  cases items with
  | nil => exact absurd rfl h
  | cons i items => simp [kept]

@[simp] theorem length_kept (pos : Nat) (items : List (Text × Text)) :
    (kept cut put pos items).length = items.length := by
  induction items generalizing pos with
  | nil => rfl
  | cons i items ih => simp [kept, ih]

theorem join_cons_eq (x : Text) (added : List Text) :
    join ", ".toList (x :: added) = x ++ following added := by
  induction added generalizing x with
  | nil => simp [join, following]
  | cons y added ih =>
    rw [join, ih y]
    · simp [following]
    · simp

theorem following_eq {added : List Text} (h : added ≠ []) :
    following added = ", ".toList ++ join ", ".toList added := by
  cases added with
  | nil => exact absurd rfl h
  | cons x added => rw [join_cons_eq, following, List.flatMap_cons, List.append_assoc]; rfl

theorem itemsText_chain {last : Text} (x : Text) (added : List Text) :
    itemsText (chain last (x :: added)) = x ++ (following added ++ last) := by
  induction added generalizing x with
  | nil => simp [chain, following]
  | cons y added ih => simp [chain, ih, following]

theorem map_chain (last : Text) (added : List Text) : (chain last added).map (·.1) = added := by
  induction added with
  | nil => rfl
  | cons x added ih =>
    cases added with
    | nil => rfl
    | cons y added => rw [chain, List.map_cons, ih]

theorem separated_chain {last : Text} {added : List Text} {n : Nat}
    (hlast : commas? last = some n) (hle : n ≤ most) (h : ∀ x ∈ added, x ≠ []) :
    Separated most (chain last added) := by
  induction added with
  | nil => trivial
  | cons x added ih =>
    obtain ⟨hx, hrest⟩ := List.forall_mem_cons.mp h
    cases added with
    | nil => exact ⟨hx, n, hlast, hle⟩
    | cons y added =>
      have htail := ih hrest
      cases added with
      | nil => exact ⟨hx, rfl, htail⟩
      | cons z added => exact ⟨hx, rfl, htail⟩

theorem extended_append {items items' : List (Text × Text)} (added : List Text) (h : items' ≠ []) :
    extended added (items ++ items') = items ++ extended added items' := by
  induction items with
  | nil => rfl
  | cons i items ih =>
    cases hrest : items ++ items' with
    | nil => exact absurd (List.append_eq_nil_iff.mp hrest).2 h
    | cons j rest => rw [List.cons_append, hrest, extended, ← hrest, ih, List.cons_append]

theorem map_extended {items : List (Text × Text)} (added : List Text) (h : items ≠ []) :
    (extended added items).map (·.1) = items.map (·.1) ++ added := by
  induction items with
  | nil => exact absurd rfl h
  | cons i items ih =>
    cases items with
    | nil => simp [extended, map_chain]
    | cons j rest => rw [extended, List.map_cons, ih (List.cons_ne_nil j rest)]; rfl

theorem separated_extended {items : List (Text × Text)} {added : List Text}
    (h : Separated most items) (hadded : ∀ x ∈ added, x ≠ []) :
    Separated most (extended added items) := by
  induction items with
  | nil => trivial
  | cons i items ih =>
    cases items with
    | nil =>
      obtain ⟨hi, n, hn, hle⟩ := h
      exact separated_chain hn hle (List.forall_mem_cons.mpr ⟨hi, hadded⟩)
    | cons j rest =>
      obtain ⟨hi, hcomma, hrest⟩ := h
      have htail := ih hrest
      rw [extended]
      cases hextended : extended added (j :: rest) with
      | nil =>
        have hlength := congrArg List.length (map_extended added (List.cons_ne_nil j rest))
        rw [hextended] at hlength
        simp at hlength
      | cons k others =>
        rw [hextended] at htail
        exact ⟨hi, hcomma, htail⟩

theorem separated_cons {i : Text × Text} {rest : List (Text × Text)} (h : rest ≠ []) :
    Separated most (i :: rest) ↔ i.1 ≠ [] ∧ commas? i.2 = some 1 ∧ Separated most rest := by
  cases rest with
  | nil => exact absurd rfl h
  | cons j rest => exact Iff.rfl

/-- Only the gaps count, as long as there are items. -/
theorem Separated.congr {items items' : List (Text × Text)} (h : Separated most items)
    (hgaps : items'.map (·.2) = items.map (·.2)) (hne : ∀ i ∈ items', i.1 ≠ []) :
    Separated most items' := by
  induction items generalizing items' with
  | nil =>
    rw [List.map_eq_nil_iff.mp hgaps]
    trivial
  | cons i items ih =>
    cases items' with
    | nil => trivial
    | cons i' items' =>
      obtain ⟨hi, hrest⟩ := List.forall_mem_cons.mp hne
      injection hgaps with hgap hgaps
      have hgap : i'.2 = i.2 := hgap
      cases items with
      | nil =>
        obtain rfl : items' = [] := List.map_eq_nil_iff.mp hgaps
        exact ⟨hi, by rw [hgap]; exact h.2⟩
      | cons j items =>
        have hcons : items' ≠ [] := by
          rintro rfl
          cases hgaps
        rw [separated_cons (List.cons_ne_nil _ _)] at h
        exact (separated_cons hcons).mpr ⟨hi, by rw [hgap]; exact h.2.1, ih h.2.2 hgaps hrest⟩

theorem Separated.insert {u : List (Text × Text)} {i : Text × Text} {x : Text} (hx : x ≠ [])
    (h : Separated most (u ++ [i])) : Separated most (u ++ [(x, ", ".toList), i]) := by
  induction u with
  | nil => exact ⟨hx, rfl, h⟩
  | cons k u ih =>
    rw [List.cons_append, separated_cons (by simp)] at h ⊢
    exact ⟨h.1, h.2.1, ih h.2.2⟩

theorem itemSpans_bounds {pos : Nat} {items : List (Text × Text)} {q : Span}
    (hq : q ∈ itemSpans pos items) :
    pos ≤ q.start ∧ q.start ≤ q.stop ∧ q.stop ≤ pos + bytes (itemsText items) := by
  induction items generalizing pos with
  | nil => cases hq
  | cons i items ih =>
    rw [itemsText_cons, bytes_append, bytes_append]
    rcases List.mem_cons.mp hq with rfl | hq
    · exact ⟨Nat.le_refl _, by simp only; omega, by simp only; omega⟩
    · have hrest := ih hq
      exact ⟨by omega, hrest.2.1, by omega⟩

theorem le_lastStop (pos : Nat) (items : List (Text × Text)) : pos ≤ lastStop pos items := by
  induction items generalizing pos with
  | nil => exact Nat.le_refl _
  | cons i items ih =>
    cases items with
    | nil => exact Nat.le_add_right _ _
    | cons j rest =>
      have hrest := ih (pos + bytes i.1 + bytes i.2)
      rw [lastStop]
      omega

theorem lt_lastStop (pos : Nat) {i : Text × Text} (rest : List (Text × Text)) (hi : i.1 ≠ []) :
    pos < lastStop pos (i :: rest) := by
  have hpos : 0 < bytes i.1 := bytes_pos hi
  cases rest with
  | nil => exact Nat.lt_add_of_pos_right hpos
  | cons j rest =>
    have hle := le_lastStop (pos + bytes i.1 + bytes i.2) (j :: rest)
    rw [lastStop]
    omega

theorem stop_le_lastStop {pos : Nat} {items : List (Text × Text)} {q : Span}
    (hq : q ∈ itemSpans pos items) : q.stop ≤ lastStop pos items := by
  induction items generalizing pos with
  | nil => cases hq
  | cons i items ih =>
    cases items with
    | nil =>
      obtain rfl := List.mem_singleton.mp hq
      exact Nat.le_refl _
    | cons j rest =>
      rcases List.mem_cons.mp hq with rfl | hq
      · have hle := le_lastStop (pos + bytes i.1 + bytes i.2) (j :: rest)
        simp only [lastStop]
        omega
      · exact ih hq

theorem lastStop_le (pos : Nat) (items : List (Text × Text)) :
    lastStop pos items ≤ pos + bytes (itemsText items) := by
  induction items generalizing pos with
  | nil => simp [lastStop]
  | cons i items ih =>
    cases items with
    | nil => simp [lastStop]
    | cons j rest =>
      have hrest := ih (pos + bytes i.1 + bytes i.2)
      rw [lastStop, itemsText_cons, bytes_append, bytes_append]
      omega

theorem lastStop_append (pos : Nat) (items items' : List (Text × Text)) (h : items' ≠ []) :
    lastStop pos (items ++ items') = lastStop (pos + bytes (itemsText items)) items' := by
  induction items generalizing pos with
  | nil => rfl
  | cons i items ih =>
    cases hrest : items ++ items' with
    | nil => exact absurd (List.append_eq_nil_iff.mp hrest).2 h
    | cons j rest =>
      rw [List.cons_append, hrest, lastStop, ← hrest, ih]
      simp [Nat.add_assoc]

/-- Nothing is cut in the gaps between items, and nothing is put there but at `point`. -/
structure Quiet (cut : Nat → Bool) (put : Nat → Text) (point pos : Nat)
    (items : List (Text × Text)) : Prop where
  put_eq : ∀ n, pos ≤ n → n ≤ pos + bytes (itemsText items) →
    (∀ q ∈ itemSpans pos items, ¬q.Inside n) → n ≠ point → put n = []
  cut_eq : ∀ n, pos ≤ n → n < pos + bytes (itemsText items) →
    (∀ q ∈ itemSpans pos items, ¬q.Inside n) → cut n = false

section Gaps

variable {point pos : Nat} {i : Text × Text} {rest : List (Text × Text)}

/-- No item is around an offset in the gap after the first one. -/
theorem not_inside_of_gap {n : Nat} (hn : pos + bytes i.1 ≤ n)
    (hle : n ≤ pos + bytes i.1 + bytes i.2) : ∀ q ∈ itemSpans pos (i :: rest), ¬q.Inside n := by
  intro q hq hinside
  obtain ⟨hstart, hstop⟩ := hinside
  rcases List.mem_cons.mp hq with rfl | hq
  · exact absurd hstop (Nat.not_lt.mpr hn)
  · have := (itemSpans_bounds hq).1
    omega

theorem Quiet.tail (h : Quiet cut put point pos (i :: rest)) :
    Quiet cut put point (pos + bytes i.1 + bytes i.2) rest := by
  have hfirst : ∀ n, pos + bytes i.1 + bytes i.2 ≤ n →
      (∀ q ∈ itemSpans (pos + bytes i.1 + bytes i.2) rest, ¬q.Inside n) →
      ∀ q ∈ itemSpans pos (i :: rest), ¬q.Inside n := by
    intro n hn hrest
    refine List.forall_mem_cons.mpr ⟨fun hinside => ?_, hrest⟩
    have := hinside.2
    simp only at this
    omega
  have hbytes : bytes (itemsText (i :: rest)) = bytes i.1 + bytes i.2 + bytes (itemsText rest) := by
    simp [Nat.add_assoc]
  constructor
  · intro n hn hle hrest hne
    exact h.put_eq n (by omega) (by omega) (hfirst n hn hrest) hne
  · intro n hn hlt hrest
    exact h.cut_eq n (by omega) (by omega) (hfirst n hn hrest)

/-- The gap after the first item is copied behind what is put at its start. -/
theorem Quiet.weave_gap (h : Quiet cut put point pos (i :: rest))
    (hpoint : point ≤ pos + bytes i.1 ∨ pos + bytes i.1 + bytes i.2 < point) :
    weave cut put (pos + bytes i.1) i.2 = put (pos + bytes i.1) ++ i.2 := by
  have hbytes : bytes (itemsText (i :: rest)) = bytes i.1 + bytes i.2 + bytes (itemsText rest) := by
    simp [Nat.add_assoc]
  refine weave_uniform false (fun n hn hle => ?_) fun n hn hlt => ?_
  · exact h.put_eq n (by omega) (by omega) (not_inside_of_gap (by omega) hle) (by omega)
  · exact h.cut_eq n (by omega) (by omega) (not_inside_of_gap hn (by omega))

theorem Quiet.cut_start (h : Quiet cut put point pos (i :: rest)) (hi : i.1 ≠ []) :
    cut pos = false := by
  have hpos : 0 < bytes i.1 := bytes_pos hi
  refine h.cut_eq pos (Nat.le_refl _) (by simp; omega) fun q hq hinside => ?_
  have hbounds := (itemSpans_bounds hq).1
  have hstart := hinside.1
  omega

end Gaps

/-- A copy of a list that is quiet up to the end of its last item, where new items are put. -/
theorem itemsText_woven {pos : Nat} {items : List (Text × Text)} {added : List Text}
    (hitems : items ≠ []) (hne : ∀ i ∈ items, i.1 ≠ [])
    (h : Quiet cut put (lastStop pos items) pos items)
    (hlast : put (lastStop pos items) = following added) :
    itemsText (woven cut put pos items) = itemsText (extended added (kept cut put pos items)) := by
  induction items generalizing pos with
  | nil => exact absurd rfl hitems
  | cons i items ih =>
    cases items with
    | nil =>
      have hgap := h.weave_gap (.inl (Nat.le_refl _))
      rw [show lastStop pos [i] = pos + bytes i.1 from rfl] at hlast
      simp only [woven, kept, extended, itemsText_chain, itemsText_cons, itemsText_nil, hgap, hlast,
        List.append_nil]
    | cons j rest =>
      obtain ⟨-, hrest⟩ := List.forall_mem_cons.mp hne
      have hlt := lt_lastStop (pos + bytes i.1 + bytes i.2) rest (hrest j (by simp))
      have hgap := h.weave_gap (.inr hlt)
      have hput : put (pos + bytes i.1) = [] :=
        h.put_eq _ (by omega) (by simp)
          (not_inside_of_gap (Nat.le_refl _) (Nat.le_add_right _ _)) (by rw [lastStop]; omega)
      have htail := ih (List.cons_ne_nil j rest) hrest h.tail hlast
      rw [woven, itemsText_cons, hgap, hput, htail]
      simp only [kept, extended, itemsText_cons, List.nil_append]

/-- A copy of items where something is put behind the last gap. -/
theorem itemsText_woven_end {pos : Nat} {items : List (Text × Text)} (hitems : items ≠ [])
    (hne : ∀ i ∈ items, i.1 ≠ [])
    (h : Quiet cut put (pos + bytes (itemsText items)) pos items) :
    itemsText (woven cut put pos items) =
      itemsText (kept cut put pos items) ++ put (pos + bytes (itemsText items)) := by
  induction items generalizing pos with
  | nil => exact absurd rfl hitems
  | cons i items ih =>
    cases items with
    | nil =>
      have hbytes : pos + bytes (itemsText [i]) = pos + bytes i.1 + bytes i.2 := by
        simp [Nat.add_assoc]
      rw [hbytes] at h ⊢
      have hquiet : ∀ n, pos + bytes i.1 ≤ n → n < pos + bytes i.1 + bytes i.2 →
          cut n = false ∧ put n = [] := by
        intro n hn hlt
        have hfree : ∀ q ∈ itemSpans pos [i], ¬q.Inside n :=
          not_inside_of_gap hn (Nat.le_of_lt hlt)
        exact ⟨h.cut_eq n (by omega) (by omega) hfree,
          h.put_eq n (by omega) (by omega) hfree (by omega)⟩
      have hgap := weave_copied hquiet []
      rw [List.append_nil] at hgap
      simp [woven, kept, hgap, weave]
    | cons j rest =>
      obtain ⟨-, hrest⟩ := List.forall_mem_cons.mp hne
      have hpos := bytes_pos (hrest j (by simp))
      have hbytes : pos + bytes (itemsText (i :: j :: rest)) =
          pos + bytes i.1 + bytes i.2 + bytes (itemsText (j :: rest)) := by simp [Nat.add_assoc]
      have hlt : 0 < bytes (itemsText (j :: rest)) := by
        rw [itemsText_cons, bytes_append]
        omega
      have hput : put (pos + bytes i.1) = [] :=
        h.put_eq _ (by omega) (by omega)
          (not_inside_of_gap (Nat.le_refl _) (Nat.le_add_right _ _)) (by omega)
      have hgap := h.weave_gap (.inr (by omega))
      have htail := h.tail
      rw [hbytes] at htail ⊢
      rw [woven, itemsText_cons, hgap, hput, ih (List.cons_ne_nil j rest) hrest htail]
      simp [kept]

theorem map_snd_kept (pos : Nat) (items : List (Text × Text)) :
    (kept cut put pos items).map (·.2) = items.map (·.2) := by
  induction items generalizing pos with
  | nil => rfl
  | cons i items ih => rw [kept, List.map_cons, List.map_cons, ih]

/-- An item whose first character stays is still an item. -/
theorem ne_nil_of_kept {pos point : Nat} {items : List (Text × Text)}
    (hne : ∀ i ∈ items, i.1 ≠ []) (h : Quiet cut put point pos items) :
    ∀ i ∈ kept cut put pos items, i.1 ≠ [] := by
  induction items generalizing pos with
  | nil => exact fun i hi => absurd hi List.not_mem_nil
  | cons i items ih =>
    obtain ⟨hi, hrest⟩ := List.forall_mem_cons.mp hne
    exact List.forall_mem_cons.mpr ⟨image_ne_nil (h.cut_start hi) hi, ih hrest h.tail⟩

/-- What a copy makes of items between a gap and a further text. -/
theorem weave_items {items : List (Text × Text)} (hne : ∀ i ∈ items, i.1 ≠ []) {z : Text}
    (hz : z ≠ []) (pos : Nat) (g rest : Text) :
    weave cut put pos (g ++ (itemsText items ++ (z ++ rest))) = weave cut put pos g ++
      (itemsText (woven cut put (pos + bytes g) items) ++
        (image cut put (pos + bytes g + bytes (itemsText items)) z ++
          weave cut put (pos + bytes g + bytes (itemsText items) + bytes z) rest)) := by
  induction items generalizing pos g with
  | nil => exact weave_item hz pos g rest
  | cons i items ih =>
    obtain ⟨hi, hrest⟩ := List.forall_mem_cons.mp hne
    have hfirst : weave cut put pos (g ++ (i.1 ++ (i.2 ++ (itemsText items ++ (z ++ rest))))) = _ :=
      weave_item hi pos g _
    rw [ih hrest] at hfirst
    simpa [woven, Nat.add_assoc] using hfirst

theorem copyOf_parts {t a x b : Text} (ht : a ++ (x ++ b) = t) :
    copyOf cut put t ⟨bytes a, bytes a + bytes x⟩ = some (image cut put (bytes a) x) := by
  rw [copyOf, slice?_of_parts ht rfl]
  rfl

/-- The copies of the items, told by their spans. -/
theorem copies_of_parts {t a b : Text} {items : List (Text × Text)}
    (ht : a ++ (itemsText items ++ b) = t) :
    (itemSpans (bytes a) items).map (copyOf cut put t) =
      (kept cut put (bytes a) items).map fun i => some i.1 := by
  induction items generalizing a with
  | nil => rfl
  | cons i items ih =>
    have hfirst : copyOf cut put t ⟨bytes a, bytes a + bytes i.1⟩ = _ :=
      copyOf_parts (b := i.2 ++ (itemsText items ++ b)) (by rw [← ht]; simp)
    have hrest := ih (a := a ++ (i.1 ++ i.2)) (by rw [← ht]; simp)
    rw [bytes_append, bytes_append, ← Nat.add_assoc] at hrest
    rw [itemSpans, kept, List.map_cons, List.map_cons, hfirst, hrest]

/-- Where the first item of the list at `a` stands. -/
def BraceList.first (l : BraceList most) (a : Nat) : Nat := a + 1 + bytes l.opening

theorem BraceList.spans_eq (l : BraceList most) (a : Nat) :
    l.spans a = itemSpans (l.first a) l.items := rfl

theorem BraceList.lt_first (l : BraceList most) (a : Nat) : a < l.first a := by
  rw [first]
  omega

theorem bytes_text_eq (l : BraceList most) (a : Nat) :
    a + bytes l.text = l.first a + bytes (itemsText l.items) + 1 := by
  rw [l.bytes_text, BraceList.body, bytes_append, BraceList.first]
  omega

/-- The copies of the items of a list, told by their spans. -/
theorem copies_of_list {t a b : Text} {l : BraceList most} (ht : a ++ (l.text ++ b) = t) :
    ((kept cut put (l.first (bytes a)) l.items).map (·.1)).map some =
      (l.spans (bytes a)).map (copyOf cut put t) := by
  have hsize : ('\x7b').utf8Size = 1 := rfl
  have hparts : (a ++ '\x7b' :: l.opening) ++ (itemsText l.items ++ '\x7d' :: b) = t := by
    rw [← ht]
    simp [BraceList.text, BraceList.body]
  have hfirst : bytes (a ++ '\x7b' :: l.opening) = l.first (bytes a) := by
    simp [BraceList.first, hsize, Nat.add_assoc]
  have hcopies : (itemSpans _ l.items).map (copyOf cut put t) = _ := copies_of_parts hparts
  rw [hfirst, ← l.spans_eq] at hcopies
  rw [List.map_map]
  exact hcopies.symm

/-- A copy of the list at `pos` is a list with the given items. -/
def CopiedAs (cut : Nat → Bool) (put : Nat → Text) (pos : Nat) (l : BraceList most)
    (items : List Text) : Prop :=
  ∃ l' : BraceList most, l'.items.map (·.1) = items ∧
    weave cut put (pos + 1) l.opening ++
      itemsText (woven cut put (pos + 1 + bytes l.opening) l.items) = l'.body

/-- Where the text has something at `start`, its copy has a list in braces with the given items. -/
def HasList (cut : Nat → Bool) (put : Nat → Text) (t : Text) (most start : Nat)
    (items : List (Option Text)) : Prop :=
  ∃ s spans, landing cut put t start = some s.start ∧ LaidOut (t.weave cut put 0) most s spans ∧
    spans.map (t.weave cut put 0).slice? = items

/-- Between the braces, the copy has what the copies of the parts make up. -/
theorem exists_copied_braces {t a b body : Text} {l : BraceList most}
    (ht : a ++ (l.text ++ b) = t) (hleft : cut (bytes a) = false)
    (hright : cut (bytes a + bytes l.text - 1) = false)
    (hbody : weave cut put (bytes a + 1) l.opening ++
      itemsText (woven cut put (l.first (bytes a)) l.items) = body) :
    ∃ rest, weave cut put 0 a ++ ('\x7b' :: (body ++ '\x7d' :: rest)) = t.weave cut put 0 := by
  have hsize : ('\x7b').utf8Size = 1 := rfl
  have hend : bytes a + bytes l.text - 1 =
      bytes a + 1 + bytes l.opening + bytes (itemsText l.items) := by
    rw [l.bytes_text, BraceList.body, bytes_append]
    omega
  have hinner : weave cut put (bytes a + 1) (l.opening ++ (itemsText l.items ++ (['\x7d'] ++ b))) =
      body ++ ('\x7d' :: weave cut put
        (bytes a + 1 + bytes l.opening + bytes (itemsText l.items) + bytes ['\x7d']) b) := by
    rw [weave_items l.separated.ne_nil (List.cons_ne_nil _ _), ← List.append_assoc,
      ← BraceList.first, hbody, image, BraceList.first, ← hend, hright]
    rfl
  have htext : a ++ (['\x7b'] ++ (l.opening ++ (itemsText l.items ++ (['\x7d'] ++ b)))) = t := by
    rw [← ht]
    simp [BraceList.text, BraceList.body]
  refine ⟨weave cut put
    (bytes a + 1 + bytes l.opening + bytes (itemsText l.items) + bytes ['\x7d']) b, ?_⟩
  rw [← htext, weave_item (List.cons_ne_nil _ _), Nat.zero_add, image, hleft]
  simp only [bytes_cons, bytes_nil, hsize, Nat.add_zero] at hinner ⊢
  rw [hinner]
  simp [copy]

/-- The copy of a text has what the copy of a list is. -/
theorem hasList_copy {t a b : Text} {l : BraceList most} {items : List Text}
    (ht : a ++ (l.text ++ b) = t) (hleft : cut (bytes a) = false)
    (hright : cut (bytes a + bytes l.text - 1) = false)
    (h : CopiedAs cut put (bytes a) l items) :
    HasList cut put t most (bytes a) (items.map some) := by
  obtain ⟨l', rfl, hbody⟩ := h
  obtain ⟨rest, hrest⟩ := exists_copied_braces ht hleft hright hbody
  have hparts : weave cut put 0 a ++ (l'.text ++ rest) = t.weave cut put 0 := by
    rw [← hrest]
    simp [BraceList.text]
  refine ⟨_, _, ?_, l'.laidOut hparts, ?_⟩
  · rw [landing, ← ht, cut?_append]
    rfl
  · rw [l'.slices hparts, List.map_map]
    rfl

end Lists

end StoryExports
