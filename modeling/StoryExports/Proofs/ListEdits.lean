import StoryExports.Proofs.ListCopies

/-!
# Edits of lists in braces

The copy of a list in braces is a list again if new items come with a comma after the last one,
before the last one with a comma after them, or without a comma where there is no item.
-/
namespace StoryExports

open Text

section Cases

variable {cut : Nat → Bool} {put : Nat → Text} {most a point : Nat} {l : BraceList most}
  {text : Text} {r : Span}

/-- Outside of the items of the list at `a`, the text of `r` is left out and `text` is put at
`point`. -/
structure EditedAt (cut : Nat → Bool) (put : Nat → Text) (a : Nat) (l : BraceList most)
    (point : Nat) (text : Text) (r : Span) : Prop where
  put_eq : ∀ n, a < n → n < a + bytes l.text → (∀ q ∈ l.spans a, ¬q.Inside n) →
    put n = if n = point then text else []
  cut_iff : ∀ n, a < n → n < a + bytes l.text → (∀ q ∈ l.spans a, ¬q.Inside n) →
    (cut n = true ↔ r.Covers n)
  gone_cut : ∀ n, r.Covers n → cut n = true
  gone_put : ∀ n, r.Inside n → put n = []

theorem not_inside_spans {u v w : List (Text × Text)} (hitems : l.items = u ++ (v ++ w)) {n : Nat}
    (hn : l.first a + bytes (itemsText u) ≤ n)
    (hle : n ≤ l.first a + bytes (itemsText u) + bytes (itemsText v))
    (hv : ∀ q ∈ itemSpans (l.first a + bytes (itemsText u)) v, ¬q.Inside n) :
    ∀ q ∈ l.spans a, ¬q.Inside n := by
  intro q hq hinside
  rw [BraceList.spans, hitems, itemSpans_append, itemSpans_append, List.mem_append,
    List.mem_append] at hq
  rcases hq with hq | hq | hq
  · have hstop := (itemSpans_bounds hq).2.2
    have := hinside.2
    simp only [BraceList.first] at hn
    omega
  · exact hv q hq hinside
  · have hstart := (itemSpans_bounds hq).1
    have := hinside.1
    simp only [BraceList.first] at hle
    omega

theorem EditedAt.quiet (h : EditedAt cut put a l point text r) {u v w : List (Text × Text)}
    (hitems : l.items = u ++ (v ++ w))
    (hr : r.stop ≤ l.first a + bytes (itemsText u) ∨
      l.first a + bytes (itemsText u) + bytes (itemsText v) ≤ r.start) :
    Quiet cut put point (l.first a + bytes (itemsText u)) v := by
  have hend := bytes_text_eq l a
  have hbytes := congrArg (fun items => bytes (itemsText items)) hitems
  simp only [itemsText_append, bytes_append] at hbytes
  have hfirst := l.lt_first a
  constructor
  · intro n hn hle hv hne
    rw [h.put_eq n (by omega) (by omega) (not_inside_spans hitems hn hle hv), if_neg hne]
  · intro n hn hlt hv
    rw [Bool.eq_false_iff]
    intro hcut
    have hcovers := (h.cut_iff n (by omega) (by omega)
      (not_inside_spans hitems hn (Nat.le_of_lt hlt) hv)).mp hcut
    obtain ⟨hstart, hstop⟩ := hcovers
    omega

/-- What stands in the gap before the first item. -/
theorem EditedAt.opening (h : EditedAt cut put a l point text r) {n : Nat} (hn : a < n)
    (hle : n ≤ l.first a) : put n = (if n = point then text else []) ∧
      (cut n = true ↔ r.Covers n) := by
  have hend := bytes_text_eq l a
  have hfree : ∀ q ∈ l.spans a, ¬q.Inside n := by
    intro q hq hinside
    have hbounds := (itemSpans_bounds hq).1
    have := hinside.1
    simp only [BraceList.first] at hle
    omega
  exact ⟨h.put_eq n hn (by omega) hfree, h.cut_iff n hn (by omega) hfree⟩

theorem EditedAt.weave_opening (h : EditedAt cut put a l point text r)
    (hr : l.first a ≤ r.start) (hpoint : l.first a ≤ point) :
    weave cut put (a + 1) l.opening = l.opening ++ put (l.first a) := by
  have hquiet : ∀ n, a + 1 ≤ n → n < a + 1 + bytes l.opening → cut n = false ∧ put n = [] := by
    intro n hn hlt
    have hlt : n < l.first a := hlt
    obtain ⟨hput, hcut⟩ := h.opening (Nat.lt_of_succ_le hn) (Nat.le_of_lt hlt)
    rw [if_neg (by omega)] at hput
    refine ⟨Bool.eq_false_iff.mpr fun hgone => ?_, hput⟩
    have := (hcut.mp hgone).1
    omega
  have hcopied := weave_copied hquiet []
  rwa [List.append_nil] at hcopied

/-- Items that are copied, with others of the same gaps after them, are separated as before. -/
theorem separated_kept {u w w' : List (Text × Text)} {pos : Nat} (h : Separated most (u ++ w))
    (hquiet : Quiet cut put point pos u) (hgaps : w'.map (·.2) = w.map (·.2))
    (hne : ∀ i ∈ w', i.1 ≠ []) : Separated most (kept cut put pos u ++ w') := by
  refine h.congr (by simp only [List.map_append, map_snd_kept, hgaps]) fun k hk => ?_
  rcases List.mem_append.mp hk with hk | hk
  · exact ne_nil_of_kept (fun k hk => h.ne_nil k (by simp [hk])) hquiet k hk
  · exact hne k hk

variable {added : List Text}

/-- The copy is a list if its items are one that new items follow. -/
theorem EditedAt.copiedAs_extended (h : EditedAt cut put a l point text r)
    {items : List (Text × Text)} (hpoint : l.first a < point) (hr : l.first a ≤ r.start)
    (hitems : items ≠ []) (hseparated : Separated most items) (hadded : ∀ x ∈ added, x ≠ [])
    (hwoven : itemsText (woven cut put (l.first a) l.items) = itemsText (extended added items)) :
    CopiedAs cut put a l (items.map (·.1) ++ added) := by
  have hopening : put (l.first a) = [] := by
    rw [(h.opening (l.lt_first a) (Nat.le_refl _)).1, if_neg (Nat.ne_of_lt hpoint)]
  refine ⟨⟨l.opening, extended added items, l.opening_free, separated_extended hseparated hadded⟩,
    map_extended added hitems, ?_⟩
  rw [h.weave_opening hr (Nat.le_of_lt hpoint), hopening, List.append_nil]
  exact congrArg (l.opening ++ ·) hwoven

/-- New items follow the last one. -/
theorem EditedAt.appended (h : EditedAt cut put a l point (following added) r)
    (hitems : l.items ≠ []) (hpoint : point = lastStop (l.first a) l.items)
    (hr : l.first a + bytes (itemsText l.items) ≤ r.start) (hadded : ∀ x ∈ added, x ≠ []) :
    CopiedAs cut put a l ((kept cut put (l.first a) l.items).map (·.1) ++ added) := by
  subst hpoint
  have hne := l.separated.ne_nil
  have hend := bytes_text_eq l a
  have hfirst := l.lt_first a
  have hlt : l.first a < lastStop (l.first a) l.items := by
    obtain ⟨i, rest, hcons⟩ := List.exists_cons_of_ne_nil hitems
    rw [hcons]
    exact lt_lastStop _ rest (hne i (by simp [hcons]))
  have hle := lastStop_le (l.first a) l.items
  have hquiet : Quiet cut put (lastStop (l.first a) l.items) (l.first a) l.items :=
    h.quiet (u := []) (w := []) (by simp) (.inr hr)
  have hput : put (lastStop (l.first a) l.items) = following added := by
    rw [h.put_eq _ (by omega) (by omega) fun q hq hinside => ?_, if_pos rfl]
    exact absurd hinside.2 (Nat.not_lt.mpr (stop_le_lastStop hq))
  have hseparated : Separated most (kept cut put (l.first a) l.items) :=
    l.separated.congr (map_snd_kept _ _) (ne_nil_of_kept hne hquiet)
  exact h.copiedAs_extended hlt (by omega) (kept_ne_nil hitems) hseparated hadded
    (itemsText_woven hitems hne hquiet hput)

/-- Without items, new ones stand between blanks. -/
theorem EditedAt.filled (h : EditedAt cut put a l point text r) (hitems : l.items = [])
    (hpoint : point = l.first a) (htext : text = ' ' :: join ", ".toList added ++ [' '])
    (hr : l.first a ≤ r.start) (hsome : added ≠ []) (hadded : ∀ x ∈ added, x ≠ []) :
    CopiedAs cut put a l added := by
  subst hpoint
  have hfirst := l.lt_first a
  have hput : put (l.first a) = text := by rw [(h.opening hfirst (Nat.le_refl _)).1, if_pos rfl]
  refine ⟨⟨l.opening ++ [' '], chain [' '] added, commas?_blank l.opening_free,
    separated_chain (n := 0) rfl (Nat.zero_le _) hadded⟩, map_chain _ _, ?_⟩
  obtain ⟨x, rest, rfl⟩ := List.exists_cons_of_ne_nil hsome
  rw [h.weave_opening hr (Nat.le_refl _), hput, htext, hitems, join_cons_eq, BraceList.body,
    itemsText_chain]
  simp [woven]

/-- Nothing happens to a list without items. -/
theorem EditedAt.empty (h : EditedAt cut put a l point [] r) (hitems : l.items = [])
    (hpoint : l.first a ≤ point) (hr : l.first a ≤ r.start) : CopiedAs cut put a l [] := by
  have hfirst := l.lt_first a
  have hput : put (l.first a) = [] := by simp [(h.opening hfirst (Nat.le_refl _)).1]
  refine ⟨⟨l.opening, [], l.opening_free, trivial⟩, rfl, ?_⟩
  rw [h.weave_opening hr hpoint, hput, hitems]
  simp [woven, BraceList.body]

/-- A new item stands before the last one. -/
theorem EditedAt.joined_before {x : Text} (h : EditedAt cut put a l point (x ++ ", ".toList) r)
    {u : List (Text × Text)} {i : Text × Text} (hitems : l.items = u ++ [i])
    (hpoint : point = l.first a + bytes (itemsText u))
    (hr : l.first a + bytes (itemsText l.items) ≤ r.start) (hx : x ≠ []) :
    CopiedAs cut put a l (((kept cut put (l.first a) u).map (·.1)) ++
      [x, image cut put (l.first a + bytes (itemsText u)) i.1]) := by
  subst hpoint
  have hne := l.separated.ne_nil
  have hend := bytes_text_eq l a
  have hfirst := l.lt_first a
  have hi : i.1 ≠ [] := hne i (by simp [hitems])
  have hpos : 0 < bytes i.1 := bytes_pos hi
  have hbytes : bytes (itemsText l.items) = bytes (itemsText u) + (bytes i.1 + bytes i.2) := by
    simp [hitems]
  have hbefore : Quiet cut put (l.first a + bytes (itemsText u)) (l.first a) u :=
    h.quiet (u := []) (w := [i]) hitems (.inr (by simp; omega))
  have hafter : Quiet cut put (l.first a + bytes (itemsText u))
      (l.first a + bytes (itemsText u)) [i] :=
    h.quiet (w := []) hitems (.inr (by simp; omega))
  have hput : put (l.first a + bytes (itemsText u)) = x ++ ", ".toList := by
    rw [h.put_eq _ (by omega) (by omega) ?_, if_pos rfl]
    exact not_inside_spans (v := []) (w := [i]) hitems (Nat.le_refl _) (by simp)
      fun q hq => absurd hq List.not_mem_nil
  have hgap : weave cut put (l.first a + bytes (itemsText u) + bytes i.1) i.2 = i.2 := by
    have hstop : put (l.first a + bytes (itemsText u) + bytes i.1) = [] :=
      hafter.put_eq _ (by omega) (by simp)
        (not_inside_of_gap (Nat.le_refl _) (Nat.le_add_right _ _)) (by omega)
    rw [hafter.weave_gap (.inl (by omega)), hstop, List.nil_append]
  have hseparated : Separated most (kept cut put (l.first a) u ++
      [(x, ", ".toList), (image cut put (l.first a + bytes (itemsText u)) i.1, i.2)]) := by
    have hinserted : Separated most (u ++ [(x, ", ".toList), i]) :=
      (hitems ▸ l.separated).insert hx
    refine separated_kept hinserted hbefore rfl fun k hk => ?_
    rcases List.mem_cons.mp hk with rfl | hk
    · exact hx
    · rw [List.mem_singleton.mp hk]
      exact image_ne_nil (hafter.cut_start hi) hi
  have hbody : put (l.first a) ++ itemsText (woven cut put (l.first a) u) =
      itemsText (kept cut put (l.first a) u) ++ (x ++ ", ".toList) := by
    by_cases hu : u = []
    · subst hu
      rw [show l.first a + bytes (itemsText []) = l.first a by simp] at hput
      simp [woven, kept, hput]
    · have hlt : 0 < bytes (itemsText u) := by
        obtain ⟨k, rest, rfl⟩ := List.exists_cons_of_ne_nil hu
        have hk : 0 < bytes k.1 := bytes_pos (hne k (by simp [hitems]))
        rw [itemsText_cons, bytes_append]
        omega
      have hopening : put (l.first a) = [] := by
        rw [(h.opening hfirst (Nat.le_refl _)).1, if_neg (by omega)]
      rw [hopening, List.nil_append,
        itemsText_woven_end hu (fun k hk => hne k (by simp [hitems, hk])) hbefore, hput]
  refine ⟨⟨l.opening, _, l.opening_free, hseparated⟩, by simp, ?_⟩
  rw [h.weave_opening (by omega) (by omega), hitems, ← BraceList.first, woven_append,
    itemsText_append, List.append_assoc, ← List.append_assoc (put (l.first a)), hbody]
  simp [woven, hgap, BraceList.body]

end Cases

end StoryExports
