import StoryExports.Proofs.EditOrder
import StoryExports.Proofs.Recording

/-!
# The overlap check

The check goes through the edits from left to right and compares each one with the last range
before it. It finds a clash exactly when some two edits clash: as long as none is found, the last
range has the greatest end of all ranges so far, so no longer range hides behind it.
-/
namespace StoryExports.Edit.Buffer

theorem sorted_perm (b : Buffer) : b.sorted.Perm b.edits := sortBy_perm b.edits

theorem sorted_pairwise (b : Buffer) : b.sorted.Pairwise fun a b => le a b :=
  sortBy_pairwise le_total le_trans b.edits

theorem Sound.fits_of_mem_sorted {b : Buffer} (h : b.Sound) {e : Edit} (he : e ∈ b.sorted) :
    Fits b.text e :=
  h e (b.sorted_perm.mem_iff.mp he)

/-- How an edit runs into the last range before it. -/
def runsInto (range : Option Span) (e : Edit) : Option (Span × Span) :=
  match range with
  | none => none
  | some r =>
    if e.isInsertion then
      if r.start < e.span.start && e.span.start < r.stop then some (e.span, r) else none
    else if e.span.start < r.stop then some (e.span, r) else none

/-- The last range, once an edit has been passed. -/
def rangeAfter (range : Option Span) (e : Edit) : Option Span :=
  if e.isInsertion then range else some e.span

theorem firstOverlap_cons (range : Option Span) (e : Edit) (es : List Edit) :
    firstOverlap range (e :: es) =
      (runsInto range e).or (firstOverlap (rangeAfter range e) es) := by
  cases range with
  | none => rfl
  | some r =>
    by_cases hins : e.isInsertion = true
    · by_cases hinto : (r.start < e.span.start && e.span.start < r.stop) = true <;>
        simp only [firstOverlap, runsInto, rangeAfter, hins, hinto] <;> rfl
    · by_cases hinto : e.span.start < r.stop <;>
        simp only [firstOverlap, runsInto, rangeAfter, hins, hinto] <;> rfl

theorem runsInto_eq_some {range : Option Span} {e : Edit} {span other : Span}
    (h : runsInto range e = some (span, other)) :
    range = some other ∧ e.span = span ∧ e.span.start < other.stop ∧
      (e.isInsertion = true → other.start < e.span.start) := by
  cases range with
  | none => cases h
  | some r =>
    simp only [runsInto] at h
    cases hins : e.isInsertion with
    | true =>
      simp only [hins, if_true, Option.ite_none_right_eq_some, Bool.and_eq_true,
        decide_eq_true_eq, Option.some.injEq, Prod.mk.injEq] at h
      obtain ⟨⟨hstart, hstop⟩, rfl, rfl⟩ := h
      exact ⟨rfl, rfl, hstop, fun _ => hstart⟩
    | false =>
      simp only [hins, Bool.false_eq_true, if_false, Option.ite_none_right_eq_some,
        Option.some.injEq, Prod.mk.injEq] at h
      obtain ⟨hstop, rfl, rfl⟩ := h
      exact ⟨rfl, rfl, hstop, fun hfalse => by cases hfalse⟩

def Follows (range : Option Span) (e : Edit) : Prop :=
  ∀ r, range = some r → r.start < e.span.start ∨ r.start = e.span.start ∧ e.isInsertion = false

def Clears (range : Option Span) (e : Edit) : Prop := ∀ r, range = some r → r.stop ≤ e.span.start

theorem runsInto_eq_none_iff {range : Option Span} {e : Edit} (h : Follows range e) :
    runsInto range e = none ↔ Clears range e := by
  cases range with
  | none => simp [runsInto, Clears]
  | some r =>
    cases hins : e.isInsertion with
    | false => simp [runsInto, Clears, hins]
    | true =>
      have hlt : r.start < e.span.start := by simpa [hins] using h r rfl
      simp [runsInto, Clears, hins, hlt]

theorem follows_rangeAfter {range : Option Span} {e f : Edit} (h : Follows range f)
    (hle : le e f) : Follows (rangeAfter range e) f := by
  intro r hr
  cases hins : e.isInsertion with
  | true => exact h r (by simpa [rangeAfter, hins] using hr)
  | false =>
    obtain rfl : e.span = r := by simpa [rangeAfter, hins] using hr
    simpa [hins] using le_iff.mp hle

/-- Passing an edit that starts after the last range, the new last range has the greatest end: what
starts after it starts after the old one too. -/
theorem clears_rangeAfter_iff {range : Option Span} {e f : Edit} {t : Text} (he : Fits t e)
    (hclear : Clears range e) (hle : le e f) :
    Clears (rangeAfter range e) f ↔ Clears range f ∧ Apart e f := by
  have hstart := start_le_of_le hle
  have hordered := he.ordered
  cases hins : e.isInsertion with
  | true =>
    have hstop := isInsertion_iff.mp hins
    have hapart : Apart e f := by
      simp only [Apart]
      omega
    simp [rangeAfter, hins, hapart]
  | false =>
    have hrange : Apart e f → Clears range f := by
      intro hapart r hr
      have := hclear r hr
      simp only [Apart] at hapart
      omega
    constructor
    · intro h
      have hapart : Apart e f := h e.span (by simp [rangeAfter, hins])
      exact ⟨hrange hapart, hapart⟩
    · rintro ⟨-, hapart⟩ r hr
      obtain rfl : e.span = r := by simpa [rangeAfter, hins] using hr
      exact hapart

/-- The check passes sorted edits exactly when each one ends before the next ones start. -/
theorem firstOverlap_eq_none_iff {t : Text} {range : Option Span} {es : List Edit}
    (hfits : ∀ e ∈ es, Fits t e) (hsorted : es.Pairwise fun a b => le a b)
    (hrange : ∀ e ∈ es, Follows range e) :
    firstOverlap range es = none ↔ (∀ e ∈ es, Clears range e) ∧ es.Pairwise Apart := by
  -- On the edits, for every last range that all of them follow.
  induction es generalizing range with
  | nil => simp [firstOverlap]
  | cons e es ih =>
    obtain ⟨hle, hsorted⟩ := List.pairwise_cons.mp hsorted
    rw [firstOverlap_cons, Option.or_eq_none_iff, runsInto_eq_none_iff (hrange e (by simp)),
      ih (fun f hf => hfits f (by simp [hf])) hsorted
        (fun f hf => follows_rangeAfter (hrange f (by simp [hf])) (hle f hf)),
      List.pairwise_cons, List.forall_mem_cons]
    have hstep : Clears range e → ∀ f ∈ es,
        (Clears (rangeAfter range e) f ↔ Clears range f ∧ Apart e f) := fun hclear f hf =>
      clears_rangeAfter_iff (hfits e (by simp)) hclear (hle f hf)
    constructor
    · rintro ⟨hclear, hafter, hpairs⟩
      have hboth := fun f hf => (hstep hclear f hf).mp (hafter f hf)
      exact ⟨⟨hclear, fun f hf => (hboth f hf).1⟩, fun f hf => (hboth f hf).2, hpairs⟩
    · rintro ⟨⟨hclear, hclears⟩, hapart, hpairs⟩
      exact ⟨hclear, fun f hf => (hstep hclear f hf).mpr ⟨hclears f hf, hapart f hf⟩, hpairs⟩

theorem Sound.firstOverlap_sorted_eq_none_iff {b : Buffer} (h : b.Sound) :
    firstOverlap none b.sorted = none ↔ b.sorted.Pairwise Apart := by
  have hnone : ∀ e ∈ b.sorted, Follows none e := by
    intro e _ r hr
    cases hr
  rw [firstOverlap_eq_none_iff (fun e he => h.fits_of_mem_sorted he) b.sorted_pairwise hnone]
  simp [Clears]

/-- Sorted edits do not clash exactly when they are apart, one after the other. -/
theorem Sound.sorted_apart_iff {b : Buffer} (h : b.Sound) :
    b.sorted.Pairwise Apart ↔ ClashFree b.edits := by
  have hpairs : b.sorted.Pairwise Apart ↔ ClashFree b.sorted := by
    constructor
    · intro hapart
      refine hapart.imp_of_mem fun ha _ hab => hab.not_clash ?_
      exact (h.fits_of_mem_sorted ha).ordered
    · intro hfree
      refine (hfree.and b.sorted_pairwise).imp_of_mem fun _ hb hab => ?_
      exact apart_of_not_clash (h.fits_of_mem_sorted hb).ordered hab.2 hab.1
  rw [hpairs]
  exact ⟨fun hfree => hfree.perm b.sorted_perm, fun hfree => hfree.perm b.sorted_perm.symm⟩

theorem firstOverlap_eq_some {range : Option Span} {es : List Edit} {span other : Span}
    (h : firstOverlap range es = some (span, other)) :
    ∃ before e after, es = before ++ e :: after ∧
      e.span = span ∧ e.span.start < other.stop ∧
      (e.isInsertion = true → other.start < e.span.start) ∧
      (range = some other ∨ ∃ r ∈ before, r.span = other) := by
  induction es generalizing range with
  | nil => cases h
  | cons e es ih =>
    rw [firstOverlap_cons, Option.or_eq_some_iff] at h
    rcases h with hhere | ⟨-, hthere⟩
    · obtain ⟨hrange, hspan, hstop, hstart⟩ := runsInto_eq_some hhere
      exact ⟨[], e, es, rfl, hspan, hstop, hstart, .inl hrange⟩
    · obtain ⟨before, f, after, rfl, hspan, hstop, hstart, hfrom⟩ := ih hthere
      refine ⟨e :: before, f, after, rfl, hspan, hstop, hstart, ?_⟩
      rcases hfrom with hrange | ⟨r, hr, hother⟩
      · cases hins : e.isInsertion with
        | true => exact .inl (by simpa [rangeAfter, hins] using hrange)
        | false =>
          have hother : e.span = other := by simpa [rangeAfter, hins] using hrange
          exact .inr ⟨e, by simp, hother⟩
      · exact .inr ⟨r, by simp [hr], hother⟩

/-- Two of the edits, recorded one apart from the other, stand in a relation. -/
def SomeTwo (R : Edit → Edit → Prop) (edits : List Edit) : Prop :=
  ∃ i j : Fin edits.length, i ≠ j ∧ R edits[i] edits[j]

theorem someTwo_iff_not_pairwise {R : Edit → Edit → Prop} {edits : List Edit} :
    SomeTwo R edits ↔ ¬edits.Pairwise fun a b => ¬(R a b ∨ R b a) := by
  rw [List.pairwise_iff_getElem]
  constructor
  · rintro ⟨i, j, hne, hij⟩ hnone
    rcases Nat.lt_or_gt_of_ne (Fin.val_ne_of_ne hne) with hlt | hlt
    · exact hnone i j i.isLt j.isLt hlt (.inl hij)
    · exact hnone j i j.isLt i.isLt hlt (.inr hij)
  · intro hsome
    refine Classical.byContradiction fun hno => hsome fun i j hi hj hlt hor => hno ?_
    rcases hor with hij | hji
    · exact ⟨⟨i, hi⟩, ⟨j, hj⟩, Fin.ne_of_lt hlt, hij⟩
    · exact ⟨⟨j, hj⟩, ⟨i, hi⟩, (Fin.ne_of_lt hlt).symm, hji⟩

theorem someTwo_clash_iff {edits : List Edit} : SomeTwo Clash edits ↔ ¬ClashFree edits := by
  have hsymm : ∀ a b, ¬(Clash a b ∨ Clash b a) ↔ ¬Clash a b := fun a b =>
    not_congr ⟨fun h => h.elim id Clash.symm, .inl⟩
  simp only [someTwo_iff_not_pairwise, hsymm, ClashFree]

theorem SomeTwo.perm {R : Edit → Edit → Prop} {xs ys : List Edit} (h : SomeTwo R xs)
    (hp : xs.Perm ys) : SomeTwo R ys := by
  rw [someTwo_iff_not_pairwise] at h ⊢
  rwa [← hp.pairwise_iff fun hab hba => hab hba.symm]

/-- The check never accuses two edits that do not clash. -/
theorem Sound.someTwo_of_firstOverlap {b : Buffer} (h : b.Sound) {span other : Span}
    (hfound : firstOverlap none b.sorted = some (span, other)) :
    SomeTwo (fun e r => e.span = span ∧ r.span = other ∧ Clash e r) b.edits := by
  obtain ⟨before, e, after, hsplit, hspan, hstop, hstart, hfrom⟩ := firstOverlap_eq_some hfound
  -- The check starts without a range, so the one it names is that of an earlier edit.
  obtain ⟨r, hr, rfl⟩ : ∃ r ∈ before, r.span = other := by simpa using hfrom
  have hsorted := b.sorted_pairwise
  rw [hsplit, List.pairwise_append] at hsorted
  have hle := start_le_of_le (hsorted.2.2 r hr e (by simp))
  have hclash : Clash e r := by
    cases hins : e.isInsertion with
    | true => exact .inr (.inl ⟨hins, hstart hins, hstop⟩)
    | false =>
      have hfits := h.fits_of_mem_sorted (show e ∈ b.sorted by simp [hsplit])
      have hne : e.span.start ≠ e.span.stop := fun heq => by simp [isInsertion, heq] at hins
      have hordered := hfits.ordered
      exact .inl ⟨e.span.start, ⟨Nat.le_refl _, by omega⟩, ⟨hle, hstop⟩⟩
  refine SomeTwo.perm ?_ b.sorted_perm
  rw [someTwo_iff_not_pairwise, hsplit, List.pairwise_append]
  rintro ⟨-, -, hnone⟩
  exact hnone r hr e (by simp) (.inr ⟨hspan, rfl, hclash⟩)

/-- `finish` fails exactly when two recorded edits clash, and the overlap it reports is one of
those clashes. -/
theorem finish_fails_iff_clash (t : Text) (calls : List Call) :
    ((∃ fault, (afterCalls t calls).finish = .error fault) ↔
        SomeTwo Clash (afterCalls t calls).edits) ∧
      ∀ fault, (afterCalls t calls).finish = .error fault →
        SomeTwo (fun a b => fault = .overlap a.span b.span ∧ Clash a b)
          (afterCalls t calls).edits := by
  have hsound := sound_afterCalls t calls
  generalize afterCalls t calls = b at hsound
  rw [someTwo_clash_iff, ← hsound.sorted_apart_iff, ← hsound.firstOverlap_sorted_eq_none_iff]
  simp only [finish]
  split
  · rename_i span other hfound
    refine ⟨by simp [hfound], ?_⟩
    rintro fault hfault
    cases hfault
    obtain ⟨i, j, hne, hspan, hother, hclash⟩ := hsound.someTwo_of_firstOverlap hfound
    exact ⟨i, j, hne, by rw [hspan, hother], hclash⟩
  · rename_i hnone
    refine ⟨by simp [hnone], ?_⟩
    rintro fault hfault
    cases hfault

end StoryExports.Edit.Buffer
