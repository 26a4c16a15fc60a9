import StoryExports.Proofs.Lists
import StoryExports.Story.Compiled

/-!
# The default exports of a module

A default is exported by a declaration, by a value, or by a name in a list that other modules see as
`default`, and one list may do so more than once. The places where a default is exported are defined
here on their own, and their number is the count that decides whether a module has its one default.
-/
namespace StoryExports

open Script (Item ItemBody ExportedName ModuleName Node)

/-- Other modules see an exported name under `name`: written as a word or as a string, on its own,
after `as`, or for all of another module. -/
inductive Script.ExportedName.SeenAs (name : Text) : ExportedName → Prop
  | word : SeenAs name (.named (.word name) none)
  | string : SeenAs name (.named (.string name) none)
  | asWord (original : ModuleName) : SeenAs name (.named original (some (.word name)))
  | asString (original : ModuleName) : SeenAs name (.named original (some (.string name)))
  | wholeWord : SeenAs name (.whole (.word name))
  | wholeString : SeenAs name (.whole (.string name))

theorem Script.ExportedName.seenAs_iff {n : ExportedName} {name : Text} :
    n.SeenAs name ↔ n.outside.text = name := by
  constructor
  · rintro (_ | _ | _ | _ | _ | _)
    all_goals rfl
  · rintro rfl
    match n with
    | .named (.word _) none => exact .word
    | .named (.string _) none => exact .string
    | .named original (some (.word _)) => exact .asWord original
    | .named original (some (.string _)) => exact .asString original
    | .whole (.word _) => exact .wholeWord
    | .whole (.string _) => exact .wholeString

namespace Story

/-- A default export of an item, with its position where the item exports several names. -/
inductive ExportsDefault : ItemBody → Nat → Prop
  | declaration (node : Node) : ExportsDefault (.exportDefault node) 0
  | value (node : Node) : ExportsDefault (.exportDefaultValue node) 0
  | name {names : List ExportedName} {k : Nat} {n : ExportedName} (hn : names[k]? = some n)
      (hdefault : n.SeenAs "default".toList) : ExportsDefault (.exportNames names) k

/-- The places where a module exports a default: an item, and a position in it. -/
def defaultPlaces (m : List Item) : Set (Nat × Nat) :=
  {place | ∃ i, m[place.1]? = some i ∧ ExportsDefault i.body place.2}

/-! ### Their number -/

theorem encard_exportsDefault (i : Item) :
    {k | ExportsDefault i.body k}.encard = (defaultExports i : ℕ∞) := by
  obtain ⟨span, leading, body⟩ := i
  cases body with
  | exportDefault node =>
    have hone : {k | ExportsDefault (.exportDefault node) k} = {0} :=
      Set.ext fun k => ⟨fun h => by cases h; rfl, fun h => h ▸ .declaration node⟩
    rw [hone, Set.encard_singleton]
    rfl
  | exportDefaultValue node =>
    have hone : {k | ExportsDefault (.exportDefaultValue node) k} = {0} :=
      Set.ext fun k => ⟨fun h => by cases h; rfl, fun h => h ▸ .value node⟩
    rw [hone, Set.encard_singleton]
    rfl
  | exportNames names =>
    rw [defaultExports, ← encard_indices]
    congr 1
    ext k
    simp only [Set.mem_ofPred_eq, beq_iff_eq, ← ExportedName.seenAs_iff]
    refine ⟨fun h => ?_, fun ⟨_, hn, h⟩ => .name hn h⟩
    cases h with
    | name hn h => exact ⟨_, hn, h⟩
  | _ =>
    rw [Set.encard_eq_zero.mpr (Set.eq_empty_of_forall_notMem fun k h => by cases h)]
    rfl

theorem defaultCount_append_singleton (m : List Item) (i : Item) :
    defaultCount (m ++ [i]) = defaultCount m + defaultExports i := by
  simp [defaultCount]

theorem defaultPlaces_append_singleton (m : List Item) (i : Item) :
    defaultPlaces (m ++ [i]) =
      defaultPlaces m ∪ (fun k => (m.length, k)) '' {k | ExportsDefault i.body k} := by
  ext ⟨j, k⟩
  simp only [defaultPlaces, getElem?_append_singleton_eq_some_iff, Set.mem_ofPred_eq, Set.mem_union,
    Set.mem_image, Prod.mk.injEq]
  grind

theorem encard_defaultPlaces (m : List Item) :
    (defaultPlaces m).encard = (defaultCount m : ℕ∞) := by
  induction m using List.reverseRecOn with
  | nil => simp [defaultPlaces, defaultCount]
  | append_singleton m i ih =>
    have hapart : Disjoint (defaultPlaces m)
        ((fun k => (m.length, k)) '' {k | ExportsDefault i.body k}) := by
      refine Set.disjoint_left.mpr ?_
      rintro _ ⟨i', hi', -⟩ ⟨k, -, rfl⟩
      simp at hi'
    rw [defaultPlaces_append_singleton, Set.encard_union_eq hapart, ih,
      (Prod.mk_right_injective m.length).encard_image, encard_exportsDefault,
      defaultCount_append_singleton, Nat.cast_add]

theorem finite_defaultPlaces (m : List Item) : (defaultPlaces m).Finite :=
  Set.finite_of_encard_eq_coe (encard_defaultPlaces m)

theorem ncard_defaultPlaces (m : List Item) : (defaultPlaces m).ncard = defaultCount m := by
  rw [Set.ncard_def, encard_defaultPlaces, ENat.toNat_natCast]

/-! ### The one default -/

variable {file : Text} {m : List Item}

theorem defaultDeclaration?_eq_some_iff {i : Item} {found : Span × Node} :
    defaultDeclaration? i = some found ↔ i.body = .exportDefault found.2 ∧ i.span = found.1 := by
  obtain ⟨span, leading, body⟩ := i
  cases body with
  | exportDefault node => simp [defaultDeclaration?, Prod.ext_iff, and_comm]
  | _ => simp [defaultDeclaration?]

theorem findDefault_of_none (h : (defaultPlaces m).ncard = 0) :
    findDefault file m = .error (.missingDefaultExport file) := by
  rw [ncard_defaultPlaces] at h
  simp [findDefault, h]

theorem findDefault_of_many (h : 1 < (defaultPlaces m).ncard) :
    findDefault file m = .error (.multipleDefaultExports file (defaultPlaces m).ncard) := by
  rw [ncard_defaultPlaces] at h ⊢
  obtain ⟨n, hn⟩ := Nat.exists_eq_add_of_le' h
  simp [findDefault, hn]

/-- Two declarations that are exported as the default are one if there is one default. -/
theorem eq_of_exportDefault {i j : Item} {node node' : Node} (hone : (defaultPlaces m).ncard = 1)
    (hi : i ∈ m) (hj : j ∈ m) (hibody : i.body = .exportDefault node)
    (hjbody : j.body = .exportDefault node') : i = j := by
  obtain ⟨place, hplace⟩ := Set.ncard_eq_one.mp hone
  obtain ⟨k, hk⟩ := List.mem_iff_getElem?.mp hi
  obtain ⟨l, hl⟩ := List.mem_iff_getElem?.mp hj
  have hkplace : (k, 0) ∈ defaultPlaces m := ⟨i, hk, hibody ▸ .declaration node⟩
  have hlplace : (l, 0) ∈ defaultPlaces m := ⟨j, hl, hjbody ▸ .declaration node'⟩
  rw [hplace, Set.mem_singleton_iff] at hkplace hlplace
  obtain rfl : k = l := congrArg Prod.fst (hkplace.trans hlplace.symm)
  exact Option.some.inj (hk.symm.trans hl)

theorem findDefault_of_declaration {i : Item} {node : Node} (hone : (defaultPlaces m).ncard = 1)
    (hi : i ∈ m) (hbody : i.body = .exportDefault node) :
    findDefault file m = .ok (i.span, node) := by
  have hfound : m.findSome? defaultDeclaration? = some (i.span, node) := by
    have hdeclaration : defaultDeclaration? i = some (i.span, node) :=
      defaultDeclaration?_eq_some_iff.mpr ⟨hbody, rfl⟩
    have hsome : (m.findSome? defaultDeclaration?).isSome = true :=
      List.findSome?_isSome_iff.mpr ⟨i, hi, by rw [hdeclaration, Option.isSome_some]⟩
    obtain ⟨found, hfound⟩ := Option.isSome_iff_exists.mp hsome
    obtain ⟨j, hj, hjfound⟩ := List.exists_of_findSome?_eq_some hfound
    obtain ⟨hjbody, hjspan⟩ := defaultDeclaration?_eq_some_iff.mp hjfound
    obtain rfl := eq_of_exportDefault hone hi hj hbody hjbody
    obtain rfl : node = found.2 := by simpa [hbody] using hjbody
    rw [hfound, hjspan]
  rw [ncard_defaultPlaces] at hone
  simp [findDefault, hone, hfound]

theorem findDefault_of_no_declaration (hone : (defaultPlaces m).ncard = 1)
    (h : ∀ i ∈ m, ∀ node, i.body ≠ .exportDefault node) :
    findDefault file m = .error (.unexpectedNode file .defaultNotFunction) := by
  have hfound : m.findSome? defaultDeclaration? = none := by
    refine List.findSome?_eq_none_iff.mpr fun i hi => Option.eq_none_iff_forall_ne_some.mpr ?_
    exact fun found hfound => h i hi _ (defaultDeclaration?_eq_some_iff.mp hfound).1
  rw [ncard_defaultPlaces] at hone
  simp [findDefault, hone, hfound]

/-- A module has no default, too many of them, or one; the one is found if it is a declaration. -/
theorem findDefault_exact (file : Text) (m : List Item) :
    (defaultPlaces m).Finite ∧
    (findDefault file m = .error (.missingDefaultExport file) ↔ (defaultPlaces m).ncard = 0) ∧
    (∀ count, findDefault file m = .error (.multipleDefaultExports file count) ↔
      1 < (defaultPlaces m).ncard ∧ count = (defaultPlaces m).ncard) ∧
    ((defaultPlaces m).ncard = 1 →
      (∀ i ∈ m, ∀ node, i.body = .exportDefault node → findDefault file m = .ok (i.span, node)) ∧
      ((∀ i ∈ m, ∀ node, i.body ≠ .exportDefault node) →
        findDefault file m = .error (.unexpectedNode file .defaultNotFunction))) := by
  refine ⟨finite_defaultPlaces m, ?_⟩
  rcases Nat.lt_trichotomy (defaultPlaces m).ncard 1 with hlt | hone | hmany
  · have hnone : (defaultPlaces m).ncard = 0 := Nat.lt_one_iff.mp hlt
    rw [findDefault_of_none hnone]
    simp [hnone]
  · refine ⟨?_, ?_, fun _ => ⟨fun i hi node => findDefault_of_declaration hone hi,
      findDefault_of_no_declaration hone⟩⟩
    all_goals
      by_cases h : ∃ i ∈ m, ∃ node, i.body = .exportDefault node
      · obtain ⟨i, hi, node, hbody⟩ := h
        simp [findDefault_of_declaration hone hi hbody, hone]
      · simp [findDefault_of_no_declaration hone (by simpa using h), hone]
  · rw [findDefault_of_many hmany]
    refine ⟨⟨fun h => ?_, fun h => ?_⟩, fun count => ?_, fun h => absurd h (Nat.ne_of_gt hmany)⟩
    · cases h
    · omega
    · simp [hmany, eq_comm]

/-- Defaults under several spellings in two lists of names. -/
def listedDefaults : List Item :=
  [⟨default, [], .exportNames [.named (.word "a".toList) none,
      .named (.word "a".toList) (some (.string "default".toList)),
      .named (.string "default".toList) none]⟩,
    ⟨default, [], .exportAll⟩,
    ⟨default, [], .exportNames [.whole (.word "default".toList)]⟩]

/-- One default, which is no declaration. -/
def listedDefault : List Item :=
  [⟨default, [], .exportDeclaration default⟩,
    ⟨default, [], .exportNames [.named (.word "default".toList) (some (.word "a".toList)),
      .named (.word "a".toList) (some (.word "default".toList))]⟩]

/-- One default, which is a declaration, among other exports. -/
def declaredDefault : List Item :=
  [⟨default, [], .exportNames [.named (.word "a".toList) none]⟩,
    ⟨⟨3, 9⟩, [], .exportDefault default⟩]

theorem findDefault_listed :
    ((defaultPlaces listedDefaults).ncard = 3 ∧
      findDefault [] listedDefaults = .error (.multipleDefaultExports [] 3)) ∧
    ((defaultPlaces listedDefault).ncard = 1 ∧
      findDefault [] listedDefault = .error (.unexpectedNode [] .defaultNotFunction)) ∧
    (defaultPlaces declaredDefault).ncard = 1 ∧
      findDefault [] declaredDefault = .ok (⟨3, 9⟩, default) := by
  have hthree : (defaultPlaces listedDefaults).ncard = 3 := by rw [ncard_defaultPlaces]; rfl
  have hlisted : (defaultPlaces listedDefault).ncard = 1 := by rw [ncard_defaultPlaces]; rfl
  have hdeclared : (defaultPlaces declaredDefault).ncard = 1 := by rw [ncard_defaultPlaces]; rfl
  refine ⟨⟨hthree, ?_⟩, ⟨hlisted, ?_⟩, hdeclared, ?_⟩
  · exact ((findDefault_exact [] listedDefaults).2.2.1 3).mpr (by rw [hthree]; decide)
  · exact ((findDefault_exact [] listedDefault).2.2.2 hlisted).2 (by simp [listedDefault])
  · exact ((findDefault_exact [] declaredDefault).2.2.2 hdeclared).1
      ⟨⟨3, 9⟩, [], .exportDefault default⟩ (by simp [declaredDefault]) default rfl

end Story

end StoryExports
