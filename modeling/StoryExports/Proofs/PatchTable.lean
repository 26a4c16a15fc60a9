import StoryExports.Outline.Patch

/-!
# Patches as a table

Patches are kept in the order of the literals they belong to, one for each literal. So they are a
table from offsets to patches, and a change to the patch of one literal is an update of the table at
one offset.
-/
namespace StoryExports.Patches

/-- The patch of the literal that starts at an offset. -/
def at? (ps : Patches) (n : Nat) : Option Patch := ps.find? fun p => p.object.span.start == n

/-- Every literal has one patch at most, and the patches stand in the order of their literals. -/
def Ordered (ps : Patches) : Prop :=
  List.Pairwise (fun p q => p.object.span.start < q.object.span.start) ps

@[simp] theorem at?_nil (n : Nat) : at? [] n = none := rfl

theorem ordered_nil : Ordered [] := .nil

theorem at?_cons (p : Patch) (ps : Patches) (n : Nat) :
    at? (p :: ps) n = if p.object.span.start = n then some p else at? ps n := by
  by_cases h : p.object.span.start = n <;> simp [at?, h]

theorem at?_eq_none_of_lt {ps : Patches} {n : Nat} (h : ∀ p ∈ ps, n < p.object.span.start) :
    ps.at? n = none := by
  refine List.find?_eq_none.mpr fun p hp => ?_
  have := h p hp
  simp only [beq_iff_eq]
  omega

theorem Ordered.at?_of_mem {ps : Patches} (h : ps.Ordered) {p : Patch} (hp : p ∈ ps) :
    ps.at? p.object.span.start = some p := by
  induction ps with
  | nil => cases hp
  | cons q ps ih =>
    obtain ⟨hq, hps⟩ := List.pairwise_cons.mp h
    rw [at?_cons]
    rcases List.mem_cons.mp hp with rfl | hp
    · simp
    · have hlt := hq p hp
      rw [if_neg (by omega), ih hps hp]

theorem addedTo_eq (object : Outline) (ps : Patches) :
    ps.addedTo object = ((ps.at? object.span.start).map (·.added)).getD [] := by
  simp only [addedTo, at?]
  cases ps.find? fun p => p.object.span.start == object.span.start <;> rfl

section Modify

variable {object : Outline} {f : Patch → Patch} (hf : ∀ p, (f p).object = p.object)
include hf

theorem start_mem_modify {ps : Patches} {q : Patch} (hq : q ∈ ps.modify object f) :
    q.object.span.start = object.span.start ∨
      ∃ p ∈ ps, p.object.span.start = q.object.span.start := by
  induction ps with
  | nil =>
    obtain rfl := List.mem_singleton.mp hq
    exact .inl (by rw [hf])
  | cons p ps ih =>
    simp only [modify] at hq
    split at hq
    · rcases List.mem_cons.mp hq with rfl | hq
      · exact .inl (by rw [hf])
      · exact .inr ⟨q, hq, rfl⟩
    · split at hq
      · rcases List.mem_cons.mp hq with rfl | hq
        · exact .inr ⟨p, by simp, by rw [hf]⟩
        · exact .inr ⟨q, by simp [hq], rfl⟩
      · rcases List.mem_cons.mp hq with rfl | hq
        · exact .inr ⟨q, by simp, rfl⟩
        · rcases ih hq with h | ⟨r, hr, h⟩
          · exact .inl h
          · exact .inr ⟨r, by simp [hr], h⟩

theorem Ordered.modify {ps : Patches} (h : ps.Ordered) : (ps.modify object f).Ordered := by
  induction ps with
  | nil => exact List.pairwise_singleton _ _
  | cons p ps ih =>
    obtain ⟨hp, hps⟩ := List.pairwise_cons.mp h
    simp only [Patches.modify]
    split
    · rename_i hlt
      refine List.pairwise_cons.mpr ⟨fun q hq => ?_, h⟩
      rw [hf]
      rcases List.mem_cons.mp hq with rfl | hq
      · exact hlt
      · exact Nat.lt_trans hlt (hp q hq)
    · rename_i hle
      split
      · refine List.pairwise_cons.mpr ⟨fun q hq => ?_, hps⟩
        rw [hf]
        exact hp q hq
      · rename_i hne
        refine List.pairwise_cons.mpr ⟨fun q hq => ?_, ih hps⟩
        rcases start_mem_modify hf hq with hq | ⟨r, hr, hq⟩
        · omega
        · rw [← hq]
          exact hp r hr

/-- A change to the patch of a literal is an update of the table where the literal starts. -/
theorem Ordered.at?_modify {ps : Patches} (h : ps.Ordered) (n : Nat) :
    (ps.modify object f).at? n =
      if n = object.span.start then some (f ((ps.at? n).getD ⟨object, [], []⟩)) else ps.at? n := by
  induction ps with
  | nil =>
    simp only [Patches.modify, at?_cons, hf, at?_nil, Option.getD_none, eq_comm]
  | cons p ps ih =>
    obtain ⟨hp, hps⟩ := List.pairwise_cons.mp h
    simp only [Patches.modify]
    split
    · rename_i hlt
      rw [at?_cons, hf]
      by_cases hn : n = object.span.start
      · -- The literal comes before all others, so the table has nothing for it yet.
        have hnone : at? (p :: ps) n = none := at?_eq_none_of_lt fun q hq => by
          rcases List.mem_cons.mp hq with rfl | hq
          · omega
          · have := hp q hq
            omega
        subst hn
        simp [hnone]
      · simp [hn, Ne.symm hn]
    · split
      · rename_i heq
        rw [at?_cons, at?_cons, hf, ← heq]
        by_cases hn : n = object.span.start
        · simp [hn]
        · simp [hn, Ne.symm hn]
      · rename_i hne
        rw [at?_cons, at?_cons, ih hps]
        by_cases hn : p.object.span.start = n
        · simp [hn, show n ≠ object.span.start by omega]
        · simp [hn]

end Modify

end StoryExports.Patches
