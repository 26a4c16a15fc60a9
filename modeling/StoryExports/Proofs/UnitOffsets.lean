import StoryExports.Proofs.Cuts
import StoryExports.Text.Units

/-!
# UTF-16 offsets as beginnings of a text

A code unit offset and a byte offset belong together when one beginning of the text is that long in
both counts. A beginning is determined by its length in either count, so each offset of one kind
stands for at most one of the other, and the order of the offsets is kept.
-/
namespace StoryExports.Text

@[simp] theorem units_nil : units [] = 0 := rfl

@[simp] theorem units_cons (c : Char) (t : Text) : units (c :: t) = unitSize c + units t := rfl

@[simp] theorem units_append (a b : Text) : units (a ++ b) = units a + units b := by
  induction a with
  | nil => simp
  | cons c a ih => simp [ih, Nat.add_assoc]

theorem unitSize_pos (c : Char) : 0 < unitSize c := by
  unfold unitSize
  split <;> decide

/-- Some beginning of the text has `u` code units and `n` bytes. -/
def UnitPlace (t : Text) (u n : Nat) : Prop := ∃ a b, a ++ b = t ∧ units a = u ∧ bytes a = n

theorem byteOffset?_append (a b : Text) : byteOffset? (units a) (a ++ b) = some (bytes a) := by
  induction a with
  | nil => simp [byteOffset?]
  | cons c a ih =>
    have hc := unitSize_pos c
    obtain ⟨n, hn⟩ : ∃ n, unitSize c + units a = n + 1 := ⟨unitSize c + units a - 1, by omega⟩
    have hle : unitSize c ≤ n + 1 := by omega
    have hrest : n + 1 - unitSize c = units a := by omega
    simp [hn, byteOffset?, hle, hrest, ih]

theorem unitPlace_of_byteOffset? {t : Text} {u n : Nat} (h : byteOffset? u t = some n) :
    UnitPlace t u n := by
  induction t generalizing u n with
  | nil =>
    cases u with
    | zero => exact ⟨[], [], rfl, rfl, by simpa [byteOffset?] using h⟩
    | succ u => simp [byteOffset?] at h
  | cons c t ih =>
    cases u with
    | zero => exact ⟨[], c :: t, rfl, rfl, by simpa [byteOffset?] using h⟩
    | succ u =>
      simp only [byteOffset?] at h
      split at h
      · obtain ⟨m, hm, rfl⟩ := Option.map_eq_some_iff.mp h
        obtain ⟨a, b, rfl, hunits, rfl⟩ := ih hm
        exact ⟨c :: a, b, rfl, by simp only [units_cons]; omega, rfl⟩
      · cases h

theorem byteOffset?_eq_some_iff {t : Text} {u n : Nat} :
    byteOffset? u t = some n ↔ UnitPlace t u n := by
  refine ⟨unitPlace_of_byteOffset?, ?_⟩
  rintro ⟨a, b, rfl, rfl, rfl⟩
  exact byteOffset?_append a b

theorem UnitPlace.unique {t : Text} {u m n : Nat} (hm : UnitPlace t u m) (hn : UnitPlace t u n) :
    m = n :=
  Option.some.inj ((byteOffset?_eq_some_iff.mpr hm).symm.trans (byteOffset?_eq_some_iff.mpr hn))

/-- Of two beginnings, the one with more code units has more bytes. -/
theorem UnitPlace.lt {t : Text} {u v m n : Nat} (hm : UnitPlace t u m) (hn : UnitPlace t v n)
    (huv : u < v) : m < n := by
  obtain ⟨a, b, rfl, rfl, rfl⟩ := hm
  obtain ⟨a', b', heq, rfl, rfl⟩ := hn
  rcases List.append_eq_append_iff.mp heq with ⟨d, rfl, -⟩ | ⟨d, rfl, -⟩
  · -- The second beginning is part of the first one, so it cannot have more units.
    simp only [units_append] at huv
    omega
  · cases d with
    | nil => simp at huv
    | cons c d =>
      have hc := c.utf8Size_pos
      simp only [bytes_append, bytes_cons]
      omega

/-- The byte offset of every code unit and of the end. The second unit of a character has none.
`pos` is the offset of the text. -/
def unitTable (pos : Nat) : Text → List (Option Nat)
  | [] => [some pos]
  | c :: cs =>
    some pos ::
      if unitSize c = 2 then none :: unitTable (pos + c.utf8Size) cs
      else unitTable (pos + c.utf8Size) cs

/-- The byte offset that the table has for a code unit. -/
def tableOffset? (t : Text) (u : Nat) : Option Nat := (unitTable 0 t)[u]?.join

theorem unitTable_getElem? (t : Text) (pos u : Nat) :
    (unitTable pos t)[u]?.join = (byteOffset? u t).map (pos + ·) := by
  induction t generalizing pos u with
  | nil => cases u <;> simp [unitTable, byteOffset?]
  | cons c t ih =>
    cases u with
    | zero => simp [unitTable, byteOffset?]
    | succ u =>
      simp only [unitTable, byteOffset?, List.getElem?_cons_succ]
      by_cases hc : unitSize c = 2
      · -- The first unit after the start of the character lies inside it.
        cases u with
        | zero => simp [hc]
        | succ u =>
          simp only [hc, if_true, List.getElem?_cons_succ, ih]
          simp [Function.comp_def, Nat.add_assoc]
      · have hone : unitSize c = 1 := by
          unfold unitSize at hc ⊢
          split at hc <;> simp_all
        simp only [hone, if_neg (show ¬(1 : Nat) = 2 by decide), ih]
        simp [Function.comp_def, Nat.add_assoc]

theorem tableOffset?_eq (t : Text) (u : Nat) : t.tableOffset? u = t.byteOffset? u := by
  simp [tableOffset?, unitTable_getElem?]

theorem sizes_of_ascii {c : Char} (h : c.toNat < 128) : c.utf8Size = 1 ∧ unitSize c = 1 := by
  have hbytes : c.utf8Size = 1 :=
    Char.utf8Size_eq_one_iff.mpr (UInt32.le_iff_toNat_le.mpr (Nat.le_of_lt_succ h))
  have hunit : c.toNat < 0x10000 := by omega
  exact ⟨hbytes, by simp [unitSize, hunit]⟩

/-- In an ASCII text both counts agree, up to the end. -/
theorem byteOffset?_of_ascii {t : Text} (h : isAscii t = true) (u : Nat) :
    byteOffset? u t = if u ≤ bytes t then some u else none := by
  induction t generalizing u with
  | nil => cases u <;> simp [byteOffset?]
  | cons c t ih =>
    obtain ⟨hc, ht⟩ : c.toNat < 128 ∧ isAscii t = true := by
      simpa [isAscii] using h
    obtain ⟨hbytes, hunits⟩ := sizes_of_ascii hc
    cases u with
    | zero => simp [byteOffset?]
    | succ u =>
      simp only [byteOffset?, hunits, hbytes, bytes_cons, Nat.add_sub_cancel, ih ht]
      by_cases hu : u ≤ bytes t
      · have hle : u + 1 ≤ 1 + bytes t := by omega
        simp [hu, hle, Nat.add_comm]
      · have hlt : ¬u + 1 ≤ 1 + bytes t := by omega
        simp [hu, hlt]

theorem isAscii_eq_false_iff {t : Text} : isAscii t = false ↔ ∃ c ∈ t, 128 ≤ c.toNat := by
  simp [isAscii]

end StoryExports.Text
