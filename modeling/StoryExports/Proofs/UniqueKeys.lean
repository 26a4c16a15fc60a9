import StoryExports.Proofs.Layout
import StoryExports.Proofs.Overlay
import Mathlib.Data.List.Nodup

/-!
# No key is written twice

Paths may be set below the literals of a tree and properties taken out of them in any order, also
paths that meet or repeat each other. The entries that a patch adds have different keys at every
level all the same, and none of them has a key that the author has written in that literal.
-/
namespace StoryExports

namespace NewValue

/-- At every level the keys differ, and no object is empty. -/
inductive Keyed : List (Text × NewValue) → Prop
  | intro {entries : List (Text × NewValue)} (distinct : (entries.map (·.1)).Nodup)
      (nonempty : ∀ key children, (key, .object children) ∈ entries → children ≠ [])
      (below : ∀ key children, (key, .object children) ∈ entries → Keyed children) :
      Keyed entries

variable {entries children : List (Text × NewValue)} {key : Text}

theorem Keyed.distinct (h : Keyed entries) : (entries.map (·.1)).Nodup := by
  obtain ⟨hdistinct, -, -⟩ := h
  exact hdistinct

theorem Keyed.object (h : Keyed entries) (hmem : (key, .object children) ∈ entries) :
    children ≠ [] ∧ Keyed children := by
  obtain ⟨-, hnonempty, hbelow⟩ := h
  exact ⟨hnonempty key children hmem, hbelow key children hmem⟩

theorem Keyed.of_objects (hdistinct : (entries.map (·.1)).Nodup)
    (h : ∀ key children, (key, .object children) ∈ entries → children ≠ [] ∧ Keyed children) :
    Keyed entries :=
  .intro hdistinct (fun key children hmem => (h key children hmem).1)
    fun key children hmem => (h key children hmem).2

theorem keyed_nil : Keyed [] := .of_objects .nil fun _ _ hmem => nomatch hmem

theorem find?_eq_none_iff : find? key entries = none ↔ key ∉ entries.map (·.1) := by
  simp only [find?, Option.map_eq_none_iff, List.find?_eq_none, beq_iff_eq, List.mem_map,
    not_exists, not_and]

theorem mem_of_find? {value : NewValue} (h : find? key entries = some value) :
    (key, value) ∈ entries := by
  obtain ⟨⟨found, value'⟩, hfind, rfl⟩ := Option.map_eq_some_iff.mp h
  obtain rfl : found = key := by simpa using List.find?_some hfind
  exact List.mem_of_find?_eq_some hfind

theorem keys_update (key : Text) (value : NewValue) (entries : List (Text × NewValue)) :
    (update key value entries).map (·.1) = entries.map (·.1) := by
  induction entries with
  | nil => rfl
  | cons e es ih =>
    simp only [update]
    split
    · rename_i heq
      simp [heq]
    · simp [ih]

theorem mem_update {value : NewValue} {e : Text × NewValue} (h : e ∈ update key value entries) :
    e = (key, value) ∨ e ∈ entries := by
  induction entries with
  | nil => cases h
  | cons f fs ih =>
    simp only [update] at h
    split at h
    · rcases List.mem_cons.mp h with rfl | h
      · exact .inl rfl
      · exact .inr (List.mem_cons_of_mem f h)
    · rcases List.mem_cons.mp h with rfl | h
      · exact .inr List.mem_cons_self
      · exact (ih h).imp_right (List.mem_cons_of_mem f)

/-- A new key comes last. -/
theorem Keyed.append (h : Keyed entries) (hnone : find? key entries = none) {value : NewValue}
    (hvalue : ∀ children, value = .object children → children ≠ [] ∧ Keyed children) :
    Keyed (entries ++ [(key, value)]) := by
  refine .of_objects ?_ fun other children hmem => ?_
  · rw [List.map_append, List.nodup_append]
    refine ⟨h.distinct, by simp, fun a ha b hb heq => ?_⟩
    obtain rfl : b = key := by simpa using hb
    exact find?_eq_none_iff.mp hnone (heq ▸ ha)
  · rcases List.mem_append.mp hmem with hmem | hmem
    · exact h.object hmem
    · cases List.mem_singleton.mp hmem
      exact hvalue children rfl

theorem Keyed.update (h : Keyed entries) (hnonempty : children ≠ []) (hchildren : Keyed children) :
    Keyed (update key (.object children) entries) := by
  refine .of_objects (by rw [keys_update]; exact h.distinct) fun other others hmem => ?_
  rcases mem_update hmem with heq | hmem
  · cases heq
    exact ⟨hnonempty, hchildren⟩
  · exact h.object hmem

theorem insert_ne_nil {path : List Text} (h : path ≠ []) (entries : List (Text × NewValue))
    (code : Text) : (insert entries path code).1 ≠ [] := by
  obtain ⟨key, rest, rfl⟩ := List.exists_cons_of_ne_nil h
  -- Whatever happened, the first key can be found.
  intro hnil
  have hfound : find? key (insert entries (key :: rest) code).1 ≠ none := by
    cases rest with
    | nil =>
      simp only [insert]
      split
      · rename_i value hvalue
        simp [hvalue]
      · rename_i hnone
        simp [find?_append, hnone]
    | cons next rest =>
      cases hentered : entered? key entries with
      | some children => simp [(insert_of_entered hentered next rest code).1]
      | none =>
        rw [insert_of_not_entered hentered]
        intro hnone
        simp [entered?, hnone] at hentered
  exact hfound (by rw [hnil, find?_nil])

theorem Keyed.insert (h : Keyed entries) (path : List Text) (code : Text) :
    Keyed (insert entries path code).1 := by
  -- On the path: below its first key stands either a tree that is keyed already or a new one.
  induction path generalizing entries with
  | nil => exact h
  | cons key rest ih =>
    cases rest with
    | nil =>
      simp only [NewValue.insert]
      split
      · exact h
      · rename_i hnone
        refine h.append hnone fun children hliteral => ?_
        cases hliteral
    | cons next rest =>
      simp only [NewValue.insert]
      split
      · rename_i children hfound
        obtain ⟨-, hchildren⟩ := h.object (mem_of_find? hfound)
        exact h.update (insert_ne_nil (by simp) children code) (ih hchildren)
      · exact h
      · rename_i hnone
        refine h.append hnone fun children heq => ?_
        cases heq
        exact ⟨insert_ne_nil (by simp) [] code, ih keyed_nil⟩

/-- Only the first key of the path can be new among the entries. -/
theorem key_of_mem_insert {rest : List Text} {code : Text} {e : Text × NewValue}
    (h : e ∈ (insert entries (key :: rest) code).1) :
    e.1 = key ∨ e.1 ∈ entries.map (·.1) := by
  by_cases heq : key = e.1
  · exact .inl heq.symm
  · refine .inr (Classical.byContradiction fun hnew => ?_)
    have hnone : find? e.1 (insert entries (key :: rest) code).1 = none := by
      rw [find?_insert_of_ne heq, find?_eq_none_iff.mpr hnew]
    rw [find?_eq_none_iff] at hnone
    exact hnone (List.mem_map_of_mem h)

end NewValue

namespace Outline

theorem key_ne_of_get? {o : Outline} {key : Text} (h : o.get? key = none) :
    ∀ q ∈ o.properties, q.key ≠ some key := by
  intro q hq
  simpa using List.find?_eq_none.mp h q (List.mem_reverse.mpr hq)

theorem get?_of_place_absent {o object : Outline} {path rest : List Text} {key : Text}
    (h : o.place path = .absent object (key :: rest)) : object.get? key = none := by
  induction path generalizing o with
  | nil => cases h
  | cons first others ih =>
    simp only [place] at h
    split at h
    · rename_i hget
      cases h
      exact hget
    · split at h
      · cases h
      · split at h
        · exact ih h
        · cases h

theorem mem_outlines_trans {tree o x : Outline} (ho : o ∈ tree.outlines) (hx : x ∈ o.outlines) :
    x ∈ tree.outlines := by
  induction tree using value_induction with
  | step tree ih =>
    rcases List.mem_cons.mp ho with rfl | ho
    · exact hx
    · obtain ⟨p, hp, ho⟩ := mem_outlinesIn.mp ho
      obtain ⟨v, hv, ho⟩ := exists_value ho
      exact outlines_subset hp hv (ih p hp v hv ho)

theorem Unshared.eq_of_start {tree a b : Outline} (h : tree.Unshared) (ha : a ∈ tree.outlines)
    (hb : b ∈ tree.outlines) (heq : a.span.start = b.span.start) : a = b :=
  List.inj_on_of_nodup_map h ha hb heq

theorem lt_length_of_position? {o : Outline} {key : Text} {i : Nat}
    (h : o.position? key = some i) : i < o.properties.length := by
  obtain ⟨p, hp, -⟩ := getElem?_of_position? h
  exact (List.getElem?_eq_some_iff.mp hp).1

end Outline

/-- A patch of one of the literals of a tree that writes no key twice. -/
structure Patch.Consistent (tree : Outline) (p : Patch) : Prop where
  object : p.object ∈ tree.outlines
  keyed : NewValue.Keyed p.added
  /-- No added key is one of the author's. -/
  fresh : ∀ e ∈ p.added, ∀ q ∈ p.object.properties, q.key ≠ some e.1
  removed_nodup : p.removed.Nodup
  removed_valid : ∀ i ∈ p.removed, i < p.object.properties.length

namespace Patch.Consistent

variable {tree object : Outline} {p : Patch}

theorem empty (h : object ∈ tree.outlines) : Consistent tree ⟨object, [], []⟩ where
  object := h
  keyed := NewValue.keyed_nil
  fresh := fun _ he => nomatch he
  removed_nodup := .nil
  removed_valid := fun _ hi => nomatch hi

theorem add (h : p.Consistent tree) {rest : List Text} {key : Text}
    (habsent : p.object.get? key = none) (code : Text) :
    (p.add (key :: rest) code).Consistent tree where
  object := h.object
  keyed := h.keyed.insert (key :: rest) code
  fresh := by
    intro e he
    rcases NewValue.key_of_mem_insert he with heq | hold
    · rw [heq]
      exact Outline.key_ne_of_get? habsent
    · obtain ⟨f, hf, hkey⟩ := List.mem_map.mp hold
      rw [← hkey]
      exact h.fresh f hf
  removed_nodup := h.removed_nodup
  removed_valid := h.removed_valid

theorem drop (h : p.Consistent tree) {i : Nat} (hi : i < p.object.properties.length) :
    (p.drop i).Consistent tree := by
  unfold Patch.drop
  split
  · exact h
  · rename_i hnew
    have hnew : i ∉ p.removed := by simpa using hnew
    refine ⟨h.object, h.keyed, h.fresh, ?_, fun j hj => ?_⟩
    · rw [List.nodup_append]
      refine ⟨h.removed_nodup, by simp, fun a ha b hb heq => hnew ?_⟩
      rwa [← List.mem_singleton.mp hb, ← heq]
    · rcases List.mem_append.mp hj with hj | hj
      · exact h.removed_valid j hj
      · rw [List.mem_singleton.mp hj]
        exact hi

end Patch.Consistent

namespace Patches

/-- Patches of the literals of a tree, one for each at most. -/
structure Consistent (tree : Outline) (ps : Patches) : Prop where
  ordered : ps.Ordered
  patches : ∀ p ∈ ps, p.Consistent tree

variable {tree o : Outline} {ps ps' : Patches}

theorem start_of_at? {n : Nat} {p : Patch} (h : ps.at? n = some p) :
    p ∈ ps ∧ p.object.span.start = n :=
  ⟨List.mem_of_find?_eq_some h, by simpa using List.find?_some h⟩

/-- The patch that a change starts from: the one that is there, or an empty one. -/
theorem Consistent.patch (h : ps.Consistent tree) (htree : tree.Unshared)
    (ho : o ∈ tree.outlines) :
    ((ps.at? o.span.start).getD ⟨o, [], []⟩).Consistent tree ∧
      ((ps.at? o.span.start).getD ⟨o, [], []⟩).object = o := by
  cases hat : ps.at? o.span.start with
  | none => exact ⟨.empty ho, rfl⟩
  | some p =>
    obtain ⟨hp, hstart⟩ := start_of_at? hat
    exact ⟨h.patches p hp, htree.eq_of_start (h.patches p hp).object ho hstart⟩

theorem Consistent.set (h : ps.Consistent tree) (htree : tree.Unshared) (ho : o ∈ tree.outlines)
    {path : List Text} {code : Text} {changed : Bool}
    (hset : ps.set o path code = .ok (ps', changed)) : ps'.Consistent tree := by
  obtain ⟨hordered, hat⟩ := h.ordered.set hset
  refine ⟨hordered, fun p hp => ?_⟩
  have hhere := hordered.at?_of_mem hp
  rw [hat, setAt] at hhere
  split at hhere
  · rename_i object rest hplace
    obtain ⟨hobject, hne, -⟩ := Outline.mem_of_place_absent hplace
    obtain ⟨key, rest, rfl⟩ := List.exists_cons_of_ne_nil hne
    split at hhere
    · rename_i hstart
      obtain ⟨hpatch, heq⟩ := h.patch htree (Outline.mem_outlines_trans ho hobject)
      rw [hstart, Option.some.injEq] at hhere
      rw [← hhere]
      exact hpatch.add (heq.symm ▸ Outline.get?_of_place_absent hplace) code
    · exact h.patches p (start_of_at? hhere).1
  · exact h.patches p (start_of_at? hhere).1

theorem Consistent.remove (h : ps.Consistent tree) (htree : tree.Unshared)
    (ho : o ∈ tree.outlines) (key : Text) : (ps.remove o key).1.Consistent tree := by
  obtain ⟨hordered, hat⟩ := h.ordered.remove o key
  refine ⟨hordered, fun p hp => ?_⟩
  have hhere := hordered.at?_of_mem hp
  rw [hat, removeAt] at hhere
  split at hhere
  · rename_i i hposition
    split at hhere
    · rename_i hstart
      obtain ⟨hpatch, heq⟩ := h.patch htree ho
      rw [hstart, Option.some.injEq] at hhere
      rw [← hhere]
      exact hpatch.drop (heq.symm ▸ Outline.lt_length_of_position? hposition)
    · exact h.patches p (start_of_at? hhere).1
  · exact h.patches p (start_of_at? hhere).1

inductive Call
  | set (object : Outline) (path : List Text) (code : Text)
  | remove (object : Outline) (key : Text)

/-- The literal that a call is made on. -/
def Call.object : Call → Outline
  | .set object _ _ => object
  | .remove object _ => object

/-- The patches after a call, failed or not. -/
def afterCall (ps : Patches) : Call → Patches
  | .set object path code =>
    match ps.set object path code with
    | .ok (changed, _) => changed
    | .error _ => ps
  | .remove object key => (ps.remove object key).1

def afterCalls (calls : List Call) : Patches := calls.foldl afterCall []

theorem Consistent.afterCall (h : ps.Consistent tree) (htree : tree.Unshared) {c : Call}
    (hc : c.object ∈ tree.outlines) : (ps.afterCall c).Consistent tree := by
  cases c with
  | set object path code =>
    simp only [Patches.afterCall]
    split
    · rename_i hset
      exact h.set htree hc hset
    · exact h
  | remove object key => exact h.remove htree hc key

/-- After any calls on the literals of a tree, successful or not, every literal has one patch at
most, and no patch writes a key twice. -/
theorem afterCalls_consistent (tree : Outline) (htree : tree.Unshared) (calls : List Call)
    (hcalls : ∀ c ∈ calls, c.object ∈ tree.outlines) : (afterCalls calls).Consistent tree := by
  have hrun : ∀ ps : Patches, ps.Consistent tree → (calls.foldl afterCall ps).Consistent tree := by
    induction calls with
    | nil => exact fun ps h => h
    | cons c calls ih =>
      obtain ⟨hc, hcalls⟩ := List.forall_mem_cons.mp hcalls
      exact fun ps h => ih hcalls _ (h.afterCall htree hc)
  exact hrun [] ⟨ordered_nil, fun p hp => nomatch hp⟩

/-- The literal `{a:{b:0},source:1}`. -/
def meetingTree : Outline :=
  ⟨⟨0, 18⟩, [⟨some ['a'], ⟨1, 8⟩, .object ⟨3, 8⟩ [⟨some ['b'], ⟨4, 7⟩, .other⟩]⟩,
    ⟨some "source".toList, ⟨9, 17⟩, .other⟩]⟩

def meetingValue : Outline := ⟨⟨3, 8⟩, [⟨some ['b'], ⟨4, 7⟩, .other⟩]⟩

/-- Paths that end inside, at or behind an earlier one, a path through a number, and properties
that are taken out twice or are not there. -/
def meetingCalls : List Call :=
  [.set meetingTree [['a'], ['c'], ['d']] ['1'], .set meetingTree [['a'], ['c']] ['2'],
    .set meetingTree [['a'], ['c'], ['d'], ['e']] ['3'],
    .set meetingTree [['a'], ['b'], ['x']] ['4'], .set meetingTree [['p'], ['q']] ['5'],
    .remove meetingTree "source".toList, .set meetingTree [['p'], ['r']] ['6'],
    .remove meetingTree "source".toList, .remove meetingTree ['p'],
    .set meetingValue [['z']] ['7']]

theorem afterCalls_meetingCalls :
    meetingTree.Unshared ∧ (∀ c ∈ meetingCalls, c.object ∈ meetingTree.outlines) ∧
      (afterCalls meetingCalls).Consistent meetingTree ∧
      (afterCalls meetingCalls).map (fun p => (p.removed, NewValue.render p.added)) =
        [([1], "p: \x7b q: 5, r: 6 \x7d".toList), ([], "c: \x7b d: 1 \x7d, z: 7".toList)] := by
  have htree : meetingTree.Unshared := by
    unfold Outline.Unshared
    decide
  have hcalls : ∀ c ∈ meetingCalls, c.object ∈ meetingTree.outlines := by
    simp [meetingCalls, Call.object, meetingTree, meetingValue, Outline.outlines, outlinesIn,
      Property.outlines, PropertyValue.outlines]
  exact ⟨htree, hcalls, afterCalls_consistent meetingTree htree meetingCalls hcalls,
    by decide +kernel⟩

end Patches

end StoryExports
