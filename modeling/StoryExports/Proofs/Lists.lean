import Mathlib.Data.List.Forall2
import Mathlib.Data.List.Induction
import Mathlib.Data.Set.Card

/-!
# Lists

General facts: maps and folds, lists with an element less, the elements that are left when the
places of others are removed, and the number of places where an element has a property.
-/
namespace StoryExports

variable {α β : Type}

/-! ### Maps and folds -/

theorem map_eq_self {f : α → α} {xs : List α} (h : ∀ x ∈ xs, f x = x) :
    xs.map f = xs := by
  simpa using List.map_congr_left h

theorem mapM_eq_some_iff {convert : α → Option α} {reached : α → Prop} {map : α → α}
    (h : ∀ x y, convert x = some y ↔ reached x ∧ y = map x) (xs ys : List α) :
    xs.mapM convert = some ys ↔ (∀ x ∈ xs, reached x) ∧ ys = xs.map map := by
  induction xs generalizing ys with
  | nil => simp [eq_comm]
  | cons x xs ih =>
    simp only [List.mapM_cons, Option.bind_eq_bind, Option.bind_eq_some_iff, Option.pure_def,
      Option.some.injEq, h, ih, List.forall_mem_cons, List.map_cons]
    constructor
    · rintro ⟨_, ⟨hx, rfl⟩, _, ⟨hxs, rfl⟩, rfl⟩
      exact ⟨⟨hx, hxs⟩, rfl⟩
    · rintro ⟨⟨hx, hxs⟩, rfl⟩
      exact ⟨_, ⟨hx, rfl⟩, _, ⟨hxs, rfl⟩, rfl⟩

theorem exists_forall₂_of_forall {f : α → Option β} {R : α → β → Prop} {xs : List α}
    (h : ∀ a ∈ xs, ∃ y, f a = some y ∧ R a y) :
    ∃ ys, xs.map f = ys.map some ∧ List.Forall₂ R xs ys := by
  induction xs with
  | nil => exact ⟨[], rfl, .nil⟩
  | cons a xs ih =>
    obtain ⟨⟨y, hy, hR⟩, hrest⟩ := List.forall_mem_cons.mp h
    obtain ⟨ys, hys, hall⟩ := ih hrest
    exact ⟨y :: ys, by rw [List.map_cons, hy, hys, List.map_cons], .cons hR hall⟩

theorem foldl_eq_self {f : β → α → β} {xs : List α} (h : ∀ x ∈ xs, ∀ q, f q x = q)
    (q : β) : xs.foldl f q = q := by
  induction xs with
  | nil => rfl
  | cons x xs ih =>
    rw [List.foldl_cons, h x (by simp), ih fun y hy => h y (by simp [hy])]

/-- Where all other elements do nothing, a fold is one step. -/
theorem foldl_reverse_of_split {f : β → α → β} {before after : List α} {x : α}
    (hbefore : ∀ y ∈ before, ∀ q, f q y = q) (hafter : ∀ y ∈ after, ∀ q, f q y = q) (q : β) :
    (before ++ x :: after).reverse.foldl f q = f q x := by
  rw [List.reverse_append, List.reverse_cons, List.foldl_append, List.foldl_append,
    foldl_eq_self fun y hy => hafter y (List.mem_reverse.mp hy), List.foldl_cons, List.foldl_nil,
    foldl_eq_self fun y hy => hbefore y (List.mem_reverse.mp hy)]

/-! ### Short lists -/

/-- Lists of one element at most have no order. -/
theorem eq_of_perm_of_length_le_one {xs ys : List α} (h : xs.Perm ys)
    (hlength : xs.length ≤ 1) : xs = ys := by
  cases xs with
  | nil => exact h.nil_eq
  | cons x rest =>
    obtain rfl : rest = [] := by
      apply List.eq_nil_of_length_eq_zero
      simp only [List.length_cons] at hlength
      omega
    exact List.singleton_perm.mp h

theorem eq_singleton_of_eraseIdx {xs : List α} {i : Nat} {x : α} (hx : xs[i]? = some x)
    (h : xs.eraseIdx i = []) : xs = [x] := by
  obtain ⟨hlt, -⟩ := List.getElem?_eq_some_iff.mp hx
  have hlength := List.length_eraseIdx_of_lt hlt
  rw [h, List.length_nil] at hlength
  obtain ⟨only, rfl⟩ := List.length_eq_one_iff.mp (show xs.length = 1 by omega)
  obtain rfl : i = 0 := by simpa using hlt
  simpa using hx

/-! ### Removed places -/

/-- The elements whose places, counted from `n` on, are not removed. -/
def without (removed : List Nat) (n : Nat) (xs : List α) : List α :=
  ((xs.zipIdx n).filter fun x => !removed.contains x.2).map (·.1)

section Without

variable {removed : List Nat} {n k : Nat}

theorem without_append (xs ys : List α) : without removed n (xs ++ ys) =
    without removed n xs ++ without removed (n + xs.length) ys := by
  simp [without, List.zipIdx_append]

theorem without_singleton_of_mem (x : α) (h : n ∈ removed) : without removed n [x] = [] := by
  simp [without, h]

theorem without_singleton_of_not_mem (x : α) (h : n ∉ removed) : without removed n [x] = [x] := by
  simp [without, h]

theorem without_congr {removed' : List Nat}
    (h : ∀ i, i ∈ removed ↔ i ∈ removed') (n : Nat) (xs : List α) :
    without removed n xs = without removed' n xs := by
  have hsame : (fun x : α × Nat => !removed.contains x.2) = fun x => !removed'.contains x.2 := by
    funext x
    rw [Bool.eq_iff_iff]
    simp [h]
  rw [without, without, hsame]

theorem without_add (xs : List α) : without [n + k] n xs = xs.eraseIdx k := by
  induction xs generalizing n k with
  | nil => rfl
  | cons x xs ih =>
    cases k with
    | zero =>
      have hrest : without [n + 0] (n + 1) xs = xs := by
        rw [without, List.filter_eq_self.mpr, List.zipIdx_map_fst]
        intro y hy
        have := (List.mem_zipIdx hy).1
        simp
        omega
      rw [show x :: xs = [x] ++ xs from rfl, without_append,
        without_singleton_of_mem _ (by simp), List.length_singleton, hrest]
      rfl
    | succ k =>
      have hrest := ih (k := k) (n := n + 1)
      rw [show n + 1 + k = n + (k + 1) by omega] at hrest
      rw [show x :: xs = [x] ++ xs from rfl, without_append,
        without_singleton_of_not_mem _ (by simp), List.length_singleton, hrest]
      rfl

theorem without_eq_nil {xs : List α} (h : ∀ k < xs.length, n + k ∈ removed) :
    without removed n xs = [] := by
  rw [without, List.map_eq_nil_iff, List.filter_eq_nil_iff]
  intro ⟨x, k⟩ hx
  obtain ⟨hle, hlt, -⟩ := List.mem_zipIdx hx
  have hmem := h (k - n) (by omega)
  rw [Nat.add_sub_cancel' hle] at hmem
  simp [hmem]

/-- Of a list, the elements up to the last one that stays are left. -/
theorem without_split {x : α} {xs ys : List α} (hx : n + xs.length ∉ removed)
    (hys : ∀ k < ys.length, n + xs.length + 1 + k ∈ removed) :
    without removed n (xs ++ x :: ys) = without removed n xs ++ [x] := by
  rw [without_append, ← List.singleton_append, without_append, without_singleton_of_not_mem _ hx,
    List.length_singleton, without_eq_nil hys, List.append_nil]

theorem map_without (f : α → β) (xs : List α) :
    (without removed n xs).map f = without removed n (xs.map f) := by
  simp [without, List.zipIdx_map, List.filter_map, Function.comp_def]

/-- Where one element stays, there is a last one that does. -/
theorem exists_last_without (removed : List Nat) (xs : List α) : (∀ k < xs.length, k ∈ removed) ∨
    ∃ u x v, xs = u ++ x :: v ∧ u.length ∉ removed ∧
      ∀ k, u.length < k → k < xs.length → k ∈ removed := by
  induction xs using List.reverseRecOn with
  | nil => exact .inl fun k hk => absurd hk (Nat.not_lt_zero k)
  | append_singleton xs x ih =>
    by_cases hx : xs.length ∈ removed
    · have hextend : ∀ {P : Nat → Prop}, (∀ k, P k → k < xs.length → k ∈ removed) →
          ∀ k, P k → k < (xs ++ [x]).length → k ∈ removed := by
        intro P hall k hP hk
        rw [List.length_append, List.length_singleton] at hk
        rcases Nat.lt_succ_iff_lt_or_eq.mp hk with hlt | rfl
        · exact hall k hP hlt
        · exact hx
      rcases ih with hall | ⟨u, y, v, rfl, hy, hall⟩
      · exact .inl fun k hk => hextend (P := fun _ => True) (fun k _ => hall k) k trivial hk
      · exact .inr ⟨u, y, v ++ [x], by simp, hy, hextend hall⟩
    · refine .inr ⟨xs, x, [], rfl, hx, fun k hlt hk => ?_⟩
      rw [List.length_append, List.length_singleton] at hk
      omega

end Without

/-! ### Numbers of places -/

theorem getElem?_append_singleton_eq_some_iff {xs : List α} {x y : α} {k : Nat} :
    (xs ++ [y])[k]? = some x ↔ xs[k]? = some x ∨ k = xs.length ∧ y = x := by
  grind

theorem encard_indices (xs : List α) (p : α → Bool) :
    {k : Nat | ∃ x, xs[k]? = some x ∧ p x = true}.encard = ((xs.filter p).length : ℕ∞) := by
  induction xs using List.reverseRecOn with
  | nil => simp
  | append_singleton xs y ih =>
    have hsplit : {k : Nat | ∃ x, (xs ++ [y])[k]? = some x ∧ p x = true} =
        {k | ∃ x, xs[k]? = some x ∧ p x = true} ∪ {k | k = xs.length ∧ p y = true} := by
      ext k
      simp only [getElem?_append_singleton_eq_some_iff, Set.mem_ofPred_eq, Set.mem_union]
      grind
    have hapart : Disjoint {k : Nat | ∃ x, xs[k]? = some x ∧ p x = true}
        {k | k = xs.length ∧ p y = true} := by
      refine Set.disjoint_left.mpr ?_
      rintro _ ⟨x, hx, -⟩ ⟨rfl, -⟩
      simp at hx
    rw [hsplit, Set.encard_union_eq hapart, ih]
    cases hy : p y with
    | true => simp [hy]
    | false => simp [hy]

end StoryExports
