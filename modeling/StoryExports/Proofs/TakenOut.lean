import StoryExports.Proofs.FirstValue
import StoryExports.Proofs.LiteralEdits

/-!
# Taking properties out

Properties are taken out of a literal and paths are set below it, none of them through a property
that goes. Written into the text, all of this succeeds. The literal then holds the properties that
stay, each with all of its text, and after them what is added. There is one comma between any two of
them, but the commas in front of the right brace may be one too many, or stand there alone.
-/
namespace StoryExports

namespace Patches

open Transform (removedIn removedIn_setAt object_of_setAt object_of_removeAt)

/-- The effect of a call on the patch at an offset. -/
def Call.effect (n : Nat) (q : Option Patch) : Call → Option Patch
  | .set object path code => setAt object path code n q
  | .remove object key => removeAt object key n q

/-- The place of the property that a call takes out of a literal. -/
def Call.taken? (x : Outline) : Call → Option Nat
  | .remove object key => if x.span.start = object.span.start then object.position? key else none
  | .set _ _ _ => none

/-- The places of the properties that calls take out of a literal. -/
def takenOut (calls : List Call) (x : Outline) : List Nat := calls.filterMap (Call.taken? x)

section Calls

variable {ps : Patches} {o x : Outline} {calls : List Call}

theorem setAt_of_error {path : List Text} {code : Text} {e : Unexpected}
    (h : ps.set o path code = .error e) (n : Nat) (q : Option Patch) :
    setAt o path code n q = q := by
  have hspec := setBelow_spec ps o [] path code
  simp only [Patches.set] at h
  cases hplace : o.place path with
  | itself => simp [hplace, h] at hspec
  | present p => simp [hplace, h] at hspec
  | absent object rest => simp [hplace, h] at hspec
  | blocked p => simp [setAt, hplace]

theorem Ordered.at?_afterCall (h : ps.Ordered) (c : Call) (n : Nat) :
    (ps.afterCall c).at? n = c.effect n (ps.at? n) := by
  cases c with
  | set object path code =>
    simp only [Patches.afterCall, Call.effect]
    split
    · rename_i hset
      exact (h.set hset).2 n
    · rename_i hset
      rw [setAt_of_error hset]
  | remove object key => exact (h.remove object key).2 n

/-- The table after calls is found offset by offset. -/
theorem at?_afterCalls (calls : List Call) (n : Nat) :
    (afterCalls calls).at? n = calls.foldl (fun q c => c.effect n q) none := by
  have hrun : ∀ ps : Patches, ps.Ordered → (calls.foldl Patches.afterCall ps).at? n =
      calls.foldl (fun q c => c.effect n q) (ps.at? n) := by
    induction calls with
    | nil => exact fun ps _ => rfl
    | cons c calls ih =>
      intro ps h
      rw [List.foldl_cons, List.foldl_cons, ih _ (h.afterCall c), h.at?_afterCall c n]
  exact hrun [] ordered_nil

theorem mem_removedIn_effect (c : Call) (q : Option Patch) (i : Nat) :
    i ∈ removedIn (c.effect x.span.start q) ↔ i ∈ removedIn q ∨ c.taken? x = some i := by
  cases c with
  | set object path code => simp [Call.effect, Call.taken?]
  | remove object key =>
    simp only [Call.effect, Call.taken?, removeAt]
    cases object.position? key with
    | none => simp
    | some j =>
      by_cases hstart : x.span.start = object.span.start
      · simp only [if_pos hstart]
        cases q with
        | none => simp [removedIn, Patch.drop, eq_comm]
        | some p =>
          by_cases hj : j ∈ p.removed
          · simp only [removedIn, Patch.drop, hj, List.contains_iff_mem, Option.map_some,
              Option.getD_some, if_pos, Option.some.injEq]
            exact ⟨.inl, fun h => h.elim id fun heq => heq ▸ hj⟩
          · simp [removedIn, Patch.drop, hj, eq_comm]
      · simp [if_neg hstart]

/-- A patch takes out exactly what the calls take out. -/
theorem mem_removedIn_afterCalls (calls : List Call) (x : Outline) (i : Nat) :
    i ∈ removedIn ((afterCalls calls).at? x.span.start) ↔ i ∈ takenOut calls x := by
  have hrun : ∀ q, i ∈ removedIn (calls.foldl (fun q c => c.effect x.span.start q) q) ↔
      i ∈ removedIn q ∨ i ∈ takenOut calls x := by
    induction calls with
    | nil => simp [takenOut]
    | cons c calls ih =>
      intro q
      rw [List.foldl_cons, ih, mem_removedIn_effect, or_assoc]
      simp [takenOut]
  rw [at?_afterCalls, hrun]
  simp [removedIn]

theorem mem_removed_patchOf {i : Nat} :
    i ∈ ((afterCalls calls).patchOf x).removed ↔ i ∈ takenOut calls x := by
  rw [← mem_removedIn_afterCalls, patchOf, removedIn]
  cases (afterCalls calls).at? x.span.start <;> rfl

theorem exists_call_of_mem_takenOut (hcalls : ∀ c ∈ calls, c.object = o) {i : Nat}
    (hi : i ∈ takenOut calls x) : x.span.start = o.span.start ∧
      ∃ key, Call.remove o key ∈ calls ∧ o.position? key = some i := by
  obtain ⟨c, hc, htaken⟩ := List.mem_filterMap.mp hi
  have hobject := hcalls c hc
  cases c with
  | set object path code => cases htaken
  | remove object key =>
    obtain rfl : object = o := hobject
    simp only [Call.taken?] at htaken
    split at htaken
    · rename_i hstart
      exact ⟨hstart, key, hc, htaken⟩
    · cases htaken

/-- A patch belongs to the literal that the calls are made on, or to one below the first key of a
path. -/
theorem object_afterCalls (hcalls : ∀ c ∈ calls, c.object = o) {p : Patch}
    (hp : p ∈ afterCalls calls) : p.object = o ∨ ∃ key rest code q,
      Call.set o (key :: rest) code ∈ calls ∧ o.get? key = some q ∧ p.object ∈ q.outlines := by
  have hat := (ordered_afterCalls calls).at?_of_mem hp
  rw [at?_afterCalls] at hat
  refine List.foldlRecOn (motive := fun q : Option Patch => ∀ p ∈ q, p.object = o ∨
    ∃ key rest code q, Call.set o (key :: rest) code ∈ calls ∧ o.get? key = some q ∧
      p.object ∈ q.outlines) calls _ (fun p hp => by cases hp) (fun q hq c hc p hp => ?_) p hat
  have hobject := hcalls c hc
  cases c with
  | set object path code =>
    obtain rfl : object = o := hobject
    rcases object_of_setAt hp with ⟨p₀, rfl, hsame⟩ | ⟨rest, hplace⟩
    · rw [hsame]
      exact hq p₀ rfl
    · cases path with
      | nil => cases hplace
      | cons key others =>
        rcases Outline.object_of_place_absent rfl hplace with heq | ⟨r, hget, hmem⟩
        · exact .inl heq
        · exact .inr ⟨key, others, code, r, hc, hget, hmem⟩
  | remove object key =>
    obtain rfl : object = o := hobject
    rcases object_of_removeAt hp with ⟨p₀, rfl, hsame⟩ | hsame
    · rw [hsame]
      exact hq p₀ rfl
    · exact .inl hsame

end Calls

/-- A literal that is not taken out: the one that the calls are made on, or one below a property
that stays. -/
def Stays (o : Outline) (calls : List Call) (x : Outline) : Prop :=
  x = o ∨ ∃ j q, o.properties[j]? = some q ∧ j ∉ takenOut calls o ∧ x ∈ q.outlines

section Run

open Edit Outline

variable {t : Text} {o x : Outline} {calls : List Call} (hnested : o.Nested t)
  (hcalls : ∀ c ∈ calls, c.object = o)
  (hkeys : ∀ key rest code, Call.set o (key :: rest) code ∈ calls → Call.remove o key ∉ calls)

theorem Stays.mem_outlines (h : Stays o calls x) : x ∈ o.outlines := by
  rcases h with rfl | ⟨j, q, hq, -, hx⟩
  · exact x.self_mem_outlines
  · exact List.mem_cons_of_mem o (mem_outlinesIn.mpr ⟨q, List.mem_of_getElem? hq, hx⟩)

include hnested hcalls

theorem consistent_afterCalls : (afterCalls calls).Consistent o :=
  afterCalls_consistent o hnested.unshared calls fun c hc => hcalls c hc ▸ o.self_mem_outlines

theorem object_patchOf (hx : x ∈ o.outlines) : ((afterCalls calls).patchOf x).object = x :=
  ((consistent_afterCalls hnested hcalls).patch hnested.unshared hx).2

include hkeys

/-- No path enters a property that goes, so all patches lie below what stays. -/
theorem rooted_afterCalls {p : Patch} (hp : p ∈ afterCalls calls) :
    p.Rooted o (· ∈ takenOut calls o) where
  object := by
    refine (object_afterCalls hcalls hp).imp_right fun ⟨key, rest, code, q, hset, hget, hmem⟩ => ?_
    obtain ⟨hq, hkey⟩ := mem_of_get? hget
    refine ⟨q, hq, fun j hj htaken => ?_, hmem⟩
    obtain ⟨-, other, hremove, hposition⟩ := exists_call_of_mem_takenOut hcalls htaken
    obtain ⟨r, hr, hother⟩ := getElem?_of_position? hposition
    obtain rfl : r = q := Option.some.inj (hr.symm.trans hj)
    obtain rfl : key = other := Option.some.inj (hkey.symm.trans hother)
    exact hkeys key rest code hset hremove
  removed := by
    intro i hi
    have hat := (ordered_afterCalls calls).at?_of_mem hp
    have htaken : i ∈ takenOut calls p.object := by
      rw [← mem_removedIn_afterCalls, hat]
      exact hi
    have hmem := ((consistent_afterCalls hnested hcalls).patches p hp).object
    have hstart := (exists_call_of_mem_takenOut hcalls htaken).1
    have heq := hnested.unshared.eq_of_start hmem o.self_mem_outlines hstart
    exact ⟨heq, heq ▸ htaken⟩

/-- All edits fit the text, and no two of them clash. -/
theorem joint_afterCalls :
    (∀ e ∈ (afterCalls calls).flatMap Patch.edits, Fits t e) ∧
      ClashFree ((afterCalls calls).flatMap Patch.edits) := by
  have hrooted : ∀ p ∈ afterCalls calls, _ := fun p hp =>
    rooted_afterCalls hnested hcalls hkeys hp
  have hbraced : ∀ p ∈ afterCalls calls, p.object.Braced t := fun p hp =>
    hnested _ (hrooted p hp).mem_outlines
  have hfits := edits_fit hbraced
  refine ⟨hfits, clashFree_of_avoids (fun e he => (hfits e he).ordered) ?_⟩
  exact (ordered_afterCalls calls).edits_avoid hbraced fun p hp q hq hne e he f hf =>
    (hrooted p hp).avoids hnested (hrooted q hq) hne he hf

/-- Only the literal that the calls are made on loses text. -/
theorem isCovered_afterCalls_iff {n : Nat} :
    isCovered ((afterCalls calls).flatMap Patch.edits) n = true ↔
      ∃ r ∈ ((afterCalls calls).patchOf o).removals, r.Covers n := by
  rw [isCovered_iff, ← Patch.exists_covers_edits_iff]
  constructor
  · rintro ⟨e, he, hcovers⟩
    obtain ⟨p, hp, he⟩ := List.mem_flatMap.mp he
    have hrooted := rooted_afterCalls hnested hcalls hkeys hp
    by_cases hobject : p.object = o
    · rw [(ordered_afterCalls calls).patchOf_of_mem hp hobject]
      exact ⟨e, he, hcovers⟩
    · have hempty := Patch.insertion_of_mem_edits (hrooted.removed_eq_nil hobject) he
      have hstart := hcovers.1
      have hstop := hcovers.2
      omega
  · rintro ⟨e, he, hcovers⟩
    exact ⟨e, mem_edits_of_patchOf he, hcovers⟩

/-- Nothing of a property that stays is taken out. -/
theorem not_covered_of_stays {j : Nat} {q : Property PropertyValue}
    (hq : o.properties[j]? = some q) (hj : j ∉ takenOut calls o) {n : Nat} (hn : q.span.Covers n) :
    isCovered ((afterCalls calls).flatMap Patch.edits) n = false := by
  have hobject := object_patchOf hnested hcalls o.self_mem_outlines
  have hbraced := hnested.braced
  rw [Bool.eq_false_iff, Ne, isCovered_afterCalls_iff hnested hcalls hkeys]
  rintro ⟨r, hr, hcovers⟩
  have hstays : j ∉ ((afterCalls calls).patchOf o).removed := fun hmem =>
    hj (mem_removed_patchOf.mp hmem)
  have haway := Patch.removals_avoid (hbraced.between q (List.mem_of_getElem? hq)).ordered
    (fun i hi s hs => Patch.removalSpan_avoids hbraced (hobject ▸ hs) hq fun heq =>
      hstays (heq ▸ hi)) r hr
  exact haway.not_covers hcovers hn

/-- Nothing is taken out at the left brace of a literal that stays, or before it. -/
theorem not_covered_start (hx : Stays o calls x) :
    isCovered ((afterCalls calls).flatMap Patch.edits) x.span.start = false := by
  have hlt := (hnested x hx.mem_outlines).start_lt_stop
  rcases hx with rfl | ⟨j, q, hq, hj, hx⟩
  · rw [Bool.eq_false_iff, Ne, isCovered_iff]
    rintro ⟨e, he, hcovers⟩
    obtain ⟨p, hp, he⟩ := List.mem_flatMap.mp he
    have hmem := (rooted_afterCalls hnested hcalls hkeys hp).mem_outlines
    have hafter := (Patch.between_edits (hnested _ hmem) he).after
    have hwithin := (hnested.within hmem).1
    have := hcovers.1
    omega
  · have hwithin := hnested.within_property (List.mem_of_getElem? hq) hx
    exact not_covered_of_stays hnested hcalls hkeys hq hj
      ⟨hwithin.1, Nat.lt_of_lt_of_le hlt hwithin.2⟩

theorem patchedAt_afterCalls (hx : Stays o calls x) :
    PatchedAt (isCovered ((afterCalls calls).flatMap Patch.edits))
      (writtenAt ((afterCalls calls).flatMap Patch.edits)) ((afterCalls calls).patchOf x) := by
  obtain ⟨hfits, hclash⟩ := joint_afterCalls hnested hcalls hkeys
  have hmem := hx.mem_outlines
  have hlt := (hnested x hmem).start_lt_stop
  have hedits : (afterCalls calls).flatMap Patch.edits =
      [] ++ (afterCalls calls).flatMap Patch.edits := rfl
  refine (ordered_afterCalls calls).patchedAt hedits hfits
    (fun e he => absurd he List.not_mem_nil) (fun p hp hne e he n hn hfree => ?_) hclash
    (object_patchOf hnested hcalls hmem)
  have hrooted := rooted_afterCalls hnested hcalls hkeys hp
  refine (hnested.apartOrWithin hmem hrooted.mem_outlines (Ne.symm hne)).not_touches hlt
    (hnested _ hrooted.mem_outlines) (fun r hr hcovers => ?_) hn hfree he
  obtain ⟨f, hf, hcovers⟩ := Patch.exists_covers_edits_iff.mpr ⟨r, hr, hcovers⟩
  have hcut := not_covered_start hnested hcalls hkeys hx
  rw [isCovered_iff.mpr ⟨f, List.mem_flatMap.mpr ⟨p, hp, hf⟩, hcovers⟩] at hcut
  cases hcut

end Run

/-- What calls amount to for a literal: the properties that go, and the entries that come. -/
def planOf (calls : List Call) (x : Outline) : Patch :=
  ⟨x, takenOut calls x, (afterCalls calls).addedTo x⟩

/-- The text of a property that stays: all that the author wrote, and nothing else if no literal in
it has new entries. -/
def KeptAs (t : Text) (o : Outline) (calls : List Call) (q : Property PropertyValue) (y : Text) :
    Prop :=
  ∃ m, t.slice? q.span = some m ∧ m.Sublist y ∧
    ((∀ z ∈ o.outlines, z.span.Within q.span → (afterCalls calls).addedTo z = []) → y = m)

section Plan

open Edit Outline Text

variable {t : Text} {o x : Outline} {calls : List Call}

theorem addedTo_eq_patchOf :
    (afterCalls calls).addedTo x = ((afterCalls calls).patchOf x).added := by
  rw [addedTo_eq, patchOf]
  cases (afterCalls calls).at? x.span.start <;> rfl

theorem remaining_patchOf (hobject : ((afterCalls calls).patchOf x).object = x) :
    ((afterCalls calls).patchOf x).remaining = (planOf calls x).remaining := by
  rw [Patch.remaining_eq_without, hobject, without_congr fun i => mem_removed_patchOf]
  rfl

theorem closing_patchOf (hobject : ((afterCalls calls).patchOf x).object = x) (trailing : Nat) :
    ((afterCalls calls).patchOf x).closing trailing = (planOf calls x).closing trailing := by
  simp only [Patch.closing, remaining_patchOf hobject, hobject, mem_removed_patchOf]
  rfl

theorem sublist_copy {cut : Nat → Bool} {put : Nat → Text} {pos : Nat} {m : Text}
    (h : ∀ n, pos ≤ n → n < pos + bytes m → cut n = false) : m.Sublist (copy cut put pos m) := by
  induction m generalizing pos with
  | nil => exact List.nil_sublist _
  | cons c m ih =>
    have hc := c.utf8Size_pos
    rw [bytes_cons] at h
    have hrest : m.Sublist (copy cut put (pos + c.utf8Size) m) :=
      ih fun n hn hlt => h n (by omega) (by omega)
    rw [copy, h pos (Nat.le_refl _) (by omega)]
    exact (hrest.cons_cons c).trans (List.sublist_append_right _ _)

theorem sublist_image {cut : Nat → Bool} {put : Nat → Text} {pos : Nat} {m : Text}
    (h : ∀ n, pos ≤ n → n < pos + bytes m → cut n = false) : m.Sublist (image cut put pos m) := by
  cases m with
  | nil => exact List.nil_sublist _
  | cons c m =>
    have hc := c.utf8Size_pos
    rw [bytes_cons] at h
    rw [image, h pos (Nat.le_refl _) (by omega)]
    exact (sublist_copy fun n hn hlt => h n (by omega) (by omega)).cons_cons c

variable (hnested : o.Nested t) (hcalls : ∀ c ∈ calls, c.object = o)
  (hkeys : ∀ key rest code, Call.set o (key :: rest) code ∈ calls → Call.remove o key ∉ calls)
include hnested hcalls hkeys

/-- Nothing of a property that stays is taken out, whichever literal it belongs to. -/
theorem not_covered_property (hx : Stays o calls x) {q : Property PropertyValue}
    (hq : q ∈ (planOf calls x).remaining) {n : Nat} (hn : q.span.Covers n) :
    isCovered ((afterCalls calls).flatMap Patch.edits) n = false := by
  obtain ⟨⟨q, j⟩, hmem, rfl⟩ := List.mem_map.mp hq
  obtain ⟨hmem, hstays⟩ := List.mem_filter.mp hmem
  have hj : x.properties[j]? = some q := List.mem_zipIdx_iff_getElem?.mp hmem
  rcases hx with rfl | ⟨i, r, hr, hi, hx⟩
  · have hstays : j ∉ takenOut calls x := by simpa [planOf] using hstays
    exact not_covered_of_stays hnested hcalls hkeys hj hstays hn
  · have hx' : Stays o calls x := .inr ⟨i, r, hr, hi, hx⟩
    have hwithin := ((hnested x hx'.mem_outlines).between q (List.mem_of_getElem? hj)).within
    exact not_covered_of_stays hnested hcalls hkeys hr hi
      (hn.mono (hwithin.trans (hnested.within_property (List.mem_of_getElem? hr) hx)))

/-- Nothing is put into a property where no literal in it has new entries. -/
theorem writtenAt_property (hx : x ∈ o.outlines) {q : Property PropertyValue}
    (hq : q ∈ x.properties)
    (hnone : ∀ z ∈ o.outlines, z.span.Within q.span → (afterCalls calls).addedTo z = []) {n : Nat}
    (hn : q.span.Inside n) : writtenAt ((afterCalls calls).flatMap Patch.edits) n = [] := by
  by_contra hput
  obtain ⟨e, he, rfl, htext⟩ := exists_of_writtenAt hput
  obtain ⟨p, hp, he⟩ := List.mem_flatMap.mp he
  have hrooted := rooted_afterCalls hnested hcalls hkeys hp
  have hbraced := hnested _ hrooted.mem_outlines
  have hbetween := Patch.between_edits hbraced he
  have hqwithin := ((hnested x hx).between q hq).within
  -- The edit is the addition of its patch, which stays out of the properties of its literal.
  obtain ⟨pos, haddition, hspan⟩ :
      ∃ pos, p.addition = some (pos, e.text) ∧ e.span = ⟨pos, pos⟩ := by
    rcases List.mem_append.mp he with he | he
    · obtain ⟨s, -, he⟩ := List.mem_flatMap.mp he
      rw [(Buffer.mem_removal_iff.mp he).2] at htext
      exact absurd rfl htext
    · obtain ⟨⟨pos, text⟩, hadd, rfl⟩ := List.mem_map.mp he
      exact ⟨pos, Option.mem_toList.mp hadd, rfl⟩
  have haway : ∀ r ∈ p.object.properties, ¬r.span.Inside e.span.start := by
    intro r hr hinside
    obtain ⟨j, hj⟩ := List.mem_iff_getElem?.mp hr
    have := Patch.addition_avoids hbraced haddition hj
    rw [hspan] at hinside
    obtain ⟨hstart, hstop⟩ := hinside
    rcases this with h | h <;> simp only at h hstart hstop <;> omega
  by_cases hsame : p.object = x
  · exact haway q (hsame ▸ hq) hn
  rcases hnested.apartOrWithin hrooted.mem_outlines hx hsame with hapart | ⟨r, hr, hwithin⟩ |
    ⟨r, hr, hwithin⟩
  · have hinside : x.span.Inside e.span.start :=
      ⟨Nat.lt_of_le_of_lt hqwithin.1 hn.1, Nat.lt_of_lt_of_le hn.2 hqwithin.2⟩
    exact (hapart.mono hbetween.within (.refl _)).not_touches hinside
      ⟨Nat.le_refl _, hbetween.ordered⟩
  · exact haway r hr ⟨Nat.lt_of_le_of_lt (Nat.le_trans hwithin.1 hqwithin.1) hn.1,
      Nat.lt_of_lt_of_le hn.2 (Nat.le_trans hqwithin.2 hwithin.2)⟩
  · by_cases hrq : r = q
    · subst hrq
      have hadded := hnone _ hrooted.mem_outlines hwithin
      rw [addedTo_eq, (ordered_afterCalls calls).at?_of_mem hp] at hadded
      have hadded : p.added = [] := hadded
      simp [Patch.addition, hadded] at haddition
    · have hordered := (hnested x hx).ordered.imp (S := fun r q => r.span.Avoids q.span)
        fun h => .inl h
      have hsymm : Std.Symm fun a b : Property PropertyValue => a.span.Avoids b.span :=
        ⟨fun _ _ hab => hab.symm⟩
      exact ((hordered.forall hr hq hrq).mono (hbetween.within.trans hwithin) (.refl _)).not_touches
        hn ⟨Nat.le_refl _, hbetween.ordered⟩

theorem keptAs_copyOf (hx : Stays o calls x) {q : Property PropertyValue}
    (hq : q ∈ (planOf calls x).remaining) :
    ∃ y, copyOf (isCovered ((afterCalls calls).flatMap Patch.edits))
      (writtenAt ((afterCalls calls).flatMap Patch.edits)) t q.span = some y ∧
        KeptAs t o calls q y := by
  have hmem : q ∈ x.properties := by
    obtain ⟨⟨q, j⟩, hmem, rfl⟩ := List.mem_map.mp hq
    exact List.fst_mem_of_mem_zipIdx (List.mem_filter.mp hmem).1
  have hbetween := (hnested x hx.mem_outlines).between q hmem
  obtain ⟨m, hm⟩ := exists_slice? hbetween.start hbetween.stop hbetween.ordered
  obtain ⟨a, b, -, hspan⟩ := parts_of_slice? hm
  have hstop : q.span.stop = q.span.start + bytes m := by rw [hspan]
  have hcut : ∀ n, q.span.start ≤ n → n < q.span.start + bytes m →
      isCovered ((afterCalls calls).flatMap Patch.edits) n = false := fun n hn hlt =>
    not_covered_property hnested hcalls hkeys hx hq ⟨hn, by omega⟩
  refine ⟨_, by rw [copyOf, hm, Option.map_some], m, hm, sublist_image hcut, fun hnone => ?_⟩
  exact image_uniform false (fun n hn hlt => writtenAt_property hnested hcalls hkeys hx.mem_outlines
    hmem hnone ⟨hn, by omega⟩) hcut

/-- The literal that the calls are made on stays where it is. -/
theorem landing_afterCalls {n : Nat}
    (h : landing (isCovered ((afterCalls calls).flatMap Patch.edits))
      (writtenAt ((afterCalls calls).flatMap Patch.edits)) t o.span.start = some n) :
    n = o.span.start := by
  obtain ⟨⟨before, after⟩, hcut, rfl⟩ := Option.map_eq_some_iff.mp h
  obtain ⟨-, hbytes⟩ := append_eq_of_cut? hcut
  have hafter : ∀ e ∈ (afterCalls calls).flatMap Patch.edits, o.span.start < e.span.start := by
    intro e he
    obtain ⟨p, hp, he⟩ := List.mem_flatMap.mp he
    have hmem := (rooted_afterCalls hnested hcalls hkeys hp).mem_outlines
    exact Nat.lt_of_le_of_lt (hnested.within hmem).1
      (Patch.between_edits (hnested _ hmem) he).after
  have hput : ∀ n ≤ o.span.start, writtenAt ((afterCalls calls).flatMap Patch.edits) n = [] := by
    intro n hn
    by_contra hput
    obtain ⟨e, he, rfl, -⟩ := exists_of_writtenAt hput
    exact absurd (hafter e he) (Nat.not_lt.mpr hn)
  have hweave : weave (isCovered ((afterCalls calls).flatMap Patch.edits))
      (writtenAt ((afterCalls calls).flatMap Patch.edits)) 0 before = _ :=
    weave_uniform false (fun n _ hle => hput n (by omega)) fun n _ hlt => by
      rw [Bool.eq_false_iff, Ne, isCovered_iff]
      rintro ⟨e, he, hcovers⟩
      have := hafter e he
      have := hcovers.1
      omega
  rw [hput 0 (Nat.zero_le _)] at hweave
  rw [hweave]
  exact hbytes

theorem finish_afterCalls :
    ∃ b, (afterCalls calls).flush (.ofText t) = .ok b ∧
      b.finish = .ok (t.weave (isCovered ((afterCalls calls).flatMap Patch.edits))
        (writtenAt ((afterCalls calls).flatMap Patch.edits)) 0) := by
  obtain ⟨hfits, hclash⟩ := joint_afterCalls hnested hcalls hkeys
  have hfinish := ((Buffer.sound_ofText t).recordAll hfits).finish_eq hclash
  rw [render_eq_weave] at hfinish
  exact ⟨_, flush_of_fits hfits, hfinish⟩

end Plan

/-- The literal `{a:{x:0},b:1,c:2,d:3,}`, in parentheses. -/
def wideText : Text := "(\x7ba:\x7bx:0\x7d,b:1,c:2,d:3,\x7d)".toList

def wideTree : Outline :=
  ⟨⟨1, 23⟩, [⟨some ['a'], ⟨2, 9⟩, .object ⟨4, 9⟩ [⟨some ['x'], ⟨5, 8⟩, .other⟩]⟩,
    ⟨some ['b'], ⟨10, 13⟩, .other⟩, ⟨some ['c'], ⟨14, 17⟩, .other⟩,
    ⟨some ['d'], ⟨18, 21⟩, .other⟩]⟩

/-- Properties are taken out of a literal, and paths are set that enter none of them. Then all edits
can be written. Every literal that stays holds the properties that stay, with all of their text, and
after them the entries that are added, with one comma between any two of them. The commas in front
of its right brace are known, and they are as they should be but where one stood there before, and
either nothing is left or the two last properties go and another one stays. -/
theorem flush_laidOut_iff (t : Text) (o : Outline) (calls : List Call) (hnested : o.Nested t)
    (hcalls : ∀ c ∈ calls, c.object = o)
    (hkeys : ∀ key rest code, Call.set o (key :: rest) code ∈ calls →
      Call.remove o key ∉ calls) :
    ∃ b out, (afterCalls calls).flush (.ofText t) = .ok b ∧ b.finish = .ok out ∧
      ∀ x trailing, Stays o calls x → LaidOut t 1 x.span (x.properties.map (·.span)) →
        closing? t x.span (x.properties.map (·.span)) = some trailing →
        ∃ s spans texts, (x = o → s.start = o.span.start) ∧
          ClosesWith out ((planOf calls x).closing trailing) s spans ∧
          spans.map out.slice? = (texts ++ (planOf calls x).entries).map some ∧
          List.Forall₂ (KeptAs t o calls) (planOf calls x).remaining texts ∧
          (LaidOut out 1 s spans ↔ ¬(trailing = 1 ∧ (planOf calls x).OverClosed)) := by
  obtain ⟨b, hflush, hfinish⟩ := finish_afterCalls hnested hcalls hkeys
  refine ⟨b, _, hflush, hfinish, fun x trailing hx hlist hclosing => ?_⟩
  have hobject : ((afterCalls calls).patchOf x).object = x :=
    object_patchOf hnested hcalls hx.mem_outlines
  have hle : trailing ≤ 1 := by
    obtain ⟨n, hn, hle, -⟩ := hlist.exists_closing
    obtain rfl : n = trailing := Option.some.inj (hn.closing.symm.trans hclosing)
    exact hle
  obtain ⟨texts, htexts, hkept⟩ := exists_forall₂_of_forall fun q hq =>
    keptAs_copyOf hnested hcalls hkeys hx hq
  have hpatched := patchedAt_afterCalls hnested hcalls hkeys hx
  have hstart := not_covered_start hnested hcalls hkeys hx
  have hbraced := hnested x hx.mem_outlines
  rw [← hobject] at hbraced hlist hclosing hstart
  obtain ⟨s, spans, hlanding, hcloses, hslices⟩ :=
    hpatched.hasListWith hbraced hlist hclosing hstart
  rw [remaining_patchOf hobject, htexts, ← addedTo_eq_patchOf] at hslices
  rw [closing_patchOf hobject] at hcloses
  rw [hobject] at hlanding
  have hitems : spans = [] ↔ (planOf calls x).remaining = [] ∧ (planOf calls x).added = [] := by
    have hlength := congrArg List.length hslices
    have hsame := hkept.length_eq
    simp only [List.length_map, List.length_append] at hlength
    rw [← List.length_eq_zero_iff, ← List.length_eq_zero_iff, ← List.length_eq_zero_iff, hsame,
      hlength, Nat.add_eq_zero_iff]
    rfl
  refine ⟨s, spans, texts, ?_, hcloses, ?_, hkept, ?_⟩
  · rintro rfl
    exact landing_afterCalls hnested hcalls hkeys hlanding
  · rw [List.map_append, Patch.entries, List.map_map]
    exact hslices
  · rw [hcloses.laidOut_iff, hitems, Patch.closed_iff _ hle]

/-- The two last properties go, and entries are added to the literal and to one in it. -/
def wideCalls : List Call :=
  [.remove wideTree ['d'], .set wideTree [['a'], ['y']] ['9'], .remove wideTree ['c'],
    .set wideTree [['e']] ['5'], .remove wideTree ['d']]

theorem flush_wideCalls : wideTree.Nested wideText ∧ (∀ c ∈ wideCalls, c.object = wideTree) ∧
    LaidOut wideText 1 wideTree.span (wideTree.properties.map (·.span)) ∧
    closing? wideText wideTree.span (wideTree.properties.map (·.span)) = some 1 ∧
    ∃ b out, (afterCalls wideCalls).flush (.ofText wideText) = .ok b ∧ b.finish = .ok out ∧
      out = "(\x7ba:\x7bx:0, y: 9\x7d,b:1, e: 5,,\x7d)".toList ∧
      ∃ s spans, ClosesWith out 2 s spans ∧ ¬LaidOut out 1 s spans := by
  have hnested : wideTree.Nested wideText := by decide +kernel
  have hcalls : ∀ c ∈ wideCalls, c.object = wideTree := by
    simp [wideCalls, Call.object]
  have hkeys : ∀ key rest code, Call.set wideTree (key :: rest) code ∈ wideCalls →
      Call.remove wideTree key ∉ wideCalls := by
    intro key rest code hset hremove
    simp only [wideCalls, List.mem_cons, List.not_mem_nil, reduceCtorEq, or_false, false_or,
      Call.set.injEq, Call.remove.injEq, true_and, List.cons.injEq] at hset hremove
    rcases hset with ⟨⟨rfl, -⟩, -⟩ | ⟨⟨rfl, -⟩, -⟩ <;> simp at hremove
  have hlist : LaidOut wideText 1 wideTree.span (wideTree.properties.map (·.span)) := by
    decide +kernel
  have hclosing : closing? wideText wideTree.span (wideTree.properties.map (·.span)) = some 1 := by
    decide +kernel
  obtain ⟨b, out, hflush, hfinish, hall⟩ :=
    flush_laidOut_iff wideText wideTree wideCalls hnested hcalls hkeys
  have hout : ((afterCalls wideCalls).flush (.ofText wideText)).bind Edit.Buffer.finish =
      .ok "(\x7ba:\x7bx:0, y: 9\x7d,b:1, e: 5,,\x7d)".toList := by
    decide +kernel
  rw [hflush] at hout
  obtain ⟨s, spans, texts, -, hcloses, -, -, hiff⟩ := hall wideTree 1 (.inl rfl) hlist hclosing
  have hover : (planOf wideCalls wideTree).OverClosed := by
    refine .inr ⟨?_, ?_, ?_⟩ <;> decide +kernel
  have hcount : (planOf wideCalls wideTree).closing 1 = 2 := by decide +kernel
  rw [hcount] at hcloses
  refine ⟨hnested, hcalls, hlist, hclosing, b, out, hflush, hfinish, ?_, s, spans, hcloses, ?_⟩
  · exact Except.ok.inj (hfinish.symm.trans hout)
  · exact fun hlaid => hiff.mp hlaid ⟨rfl, hover⟩

/-- The literal `{a:1,}`, in parentheses. -/
def loneText : Text := "(\x7ba:1,\x7d)".toList

def loneTree : Outline := ⟨⟨1, 7⟩, [⟨some ['a'], ⟨2, 5⟩, .other⟩]⟩

/-- The comma after the only property is left alone between the braces. -/
theorem flush_lone_comma : loneTree.Nested loneText ∧
    LaidOut loneText 1 loneTree.span (loneTree.properties.map (·.span)) ∧
    ((afterCalls [.remove loneTree ['a']]).flush (.ofText loneText)).bind Edit.Buffer.finish =
      .ok "(\x7b,\x7d)".toList ∧
    ¬LaidOut "(\x7b,\x7d)".toList 1 ⟨1, 4⟩ [] := by
  refine ⟨?_, ?_, ?_, ?_⟩ <;> decide +kernel

end Patches

end StoryExports
