import StoryExports.Name.Derived
import StoryExports.Proofs.Identifiers

/-!
# Capitals

Upper-casing leaves no ASCII letter in lower case, also where one character becomes several. All
reserved words start with such a letter, so a name that starts with an upper-cased character is none
of them.
-/
namespace StoryExports

/-! ### Upper-casing -/

section UpperCase

variable {c d : Char} {n : Nat} {image : List Nat} {run : CaseRun}

theorem isLower_iff : c.isLower = true ↔ 97 ≤ c.toNat ∧ c.toNat ≤ 122 := by
  change (decide (c.val ≥ 97) && decide (c.val ≤ 122)) = true ↔ _
  rw [Bool.and_eq_true, decide_eq_true_eq, decide_eq_true_eq]
  exact Iff.rfl

/-- A number outside the lower-case letters is no lower-case letter, be it a character or not. -/
theorem isLower_ofNat (h : n < 97 ∨ 122 < n) : (Char.ofNat n).isLower = false := by
  rw [← Bool.not_eq_true, isLower_iff]
  by_cases hvalid : n.isValidChar
  · rw [show Char.ofNat n = Char.ofNatAux n hvalid from dif_pos hvalid]
    change ¬(97 ≤ n ∧ n ≤ 122)
    omega
  · rw [show Char.ofNat n = ⟨0, .inl (by decide)⟩ from dif_neg hvalid]
    decide

theorem toUpper_ascii (hc : c.toNat < 128) :
    c.toUpper = if c.isLower then Char.ofNat (c.toNat - 32) else c := by
  have hascii : ∀ n < 128, (Char.ofNat n).toUpper =
      if (Char.ofNat n).isLower then Char.ofNat (n - 32) else Char.ofNat n := by
    decide +kernel
  have h := hascii c.toNat hc
  rwa [Char.ofNat_toNat] at h

theorem upperCaseSequences_all : ∀ entry ∈ upperCaseSequences,
    128 ≤ entry.1 ∧ entry.2 ≠ [] ∧ ∀ n ∈ entry.2, n < 97 ∨ 122 < n := by
  decide +kernel

/-- The first run is the one of the ASCII letters. -/
theorem upperCaseRuns_all : ∀ run ∈ upperCaseRuns,
    (run.first = 97 ∧ run.last = 122 ∧ run.image = 65 ∨ 128 ≤ run.first) ∧
      (run.image + (run.last - run.first) < 97 ∨ 122 < run.image) := by
  decide +kernel

theorem mem_of_lookup_upperCaseSequences (h : upperCaseSequences.lookup n = some image) :
    (n, image) ∈ upperCaseSequences := by
  obtain ⟨before, after, heq, -⟩ := List.lookup_eq_some_iff.mp h
  simp [heq]

theorem bounds_of_find_upperCaseRuns (h : upperCaseRuns.find? (·.covers n) = some run) :
    run ∈ upperCaseRuns ∧ run.first ≤ n ∧ n ≤ run.last := by
  have hcovers := List.find?_some h
  simp only [CaseRun.covers, Bool.and_eq_true, decide_eq_true_eq] at hcovers
  exact ⟨List.mem_of_find?_eq_some h, hcovers.1⟩

theorem exists_run_of_isLower (h : c.isLower = true) :
    ∃ run, upperCaseRuns.find? (·.covers c.toNat) = some run := by
  refine Option.ne_none_iff_exists'.mp fun hnone => ?_
  have hletters := List.find?_eq_none.mp hnone _ List.mem_cons_self
  simp [CaseRun.covers, isLower_iff.mp h, Nat.mod_one] at hletters

theorem upperCase_ne_nil (c : Char) : upperCase c ≠ [] := by
  rw [upperCase]
  split
  next image himage =>
    have hne := (upperCaseSequences_all _ (mem_of_lookup_upperCaseSequences himage)).2.1
    simpa using hne
  next => split <;> simp

theorem not_isLower_of_mem_upperCase (h : d ∈ upperCase c) : d.isLower = false := by
  rw [upperCase] at h
  split at h
  next image himage =>
    obtain ⟨n, hn, rfl⟩ := List.mem_map.mp h
    exact isLower_ofNat
      ((upperCaseSequences_all _ (mem_of_lookup_upperCaseSequences himage)).2.2 n hn)
  next =>
    split at h
    next run hrun =>
      obtain rfl := List.mem_singleton.mp h
      obtain ⟨hmem, hbounds⟩ := bounds_of_find_upperCaseRuns hrun
      have hrange := (upperCaseRuns_all run hmem).2
      exact isLower_ofNat (by rw [CaseRun.apply]; omega)
    next hnone =>
      obtain rfl := List.mem_singleton.mp h
      refine Bool.eq_false_iff.mpr fun hlower => ?_
      obtain ⟨run, hrun⟩ := exists_run_of_isLower hlower
      cases hnone.symm.trans hrun

/-- On ASCII characters only the letters change. -/
theorem upperCase_ascii (hc : c.toNat < 128) : upperCase c = [c.toUpper] := by
  have hsequence : upperCaseSequences.lookup c.toNat = none := by
    refine List.lookup_eq_none_iff.mpr fun entry hentry => bne_iff_ne.mpr ?_
    have hkey := (upperCaseSequences_all entry hentry).1
    omega
  rw [upperCase, hsequence]
  cases hrun : upperCaseRuns.find? (·.covers c.toNat) with
  | none =>
    have hlower : ¬c.isLower = true := fun hlower => by
      obtain ⟨run, h⟩ := exists_run_of_isLower hlower
      cases hrun.symm.trans h
    rw [toUpper_ascii hc, if_neg hlower]
  | some run =>
    obtain ⟨hmem, hbounds⟩ := bounds_of_find_upperCaseRuns hrun
    have hletters := (upperCaseRuns_all run hmem).1
    have hlower : c.isLower = true := isLower_iff.mpr (by omega)
    have himage : run.apply c.toNat = c.toNat - 32 := by rw [CaseRun.apply]; omega
    simp only [himage, toUpper_ascii hc, hlower, if_true]

theorem upperCase_of_not_isLower (hc : c.toNat < 128) (hlower : c.isLower = false) :
    upperCase c = [c] := by
  rw [upperCase_ascii hc, toUpper_ascii hc, if_neg (by simp [hlower])]

end UpperCase

/-! ### Capitalised names -/

namespace Name

/-- A name that starts with no lower-case letter. -/
structure Capitalised (name : Text) : Prop where
  identifier : isIdentifier name = true
  capital : ∀ c ∈ name.head?, c.isLower = false

theorem reservedWords_lower :
    (reservedWords.all fun word => word.head?.any Char.isLower) = true := rfl

variable {name : Text}

theorem Capitalised.isBindable (h : Capitalised name) : isBindable name = true := by
  have hfree : name ∉ reservedWords := by
    intro hmem
    have hlower := List.all_eq_true.mp reservedWords_lower _ hmem
    obtain ⟨c, hc, hlower⟩ := (Option.any_eq_true _ _).mp hlower
    exact absurd hlower (by simp [h.capital c hc])
  simp [Name.isBindable, h.identifier, hfree]

theorem capitalised_guardDigit (hne : name ≠ []) (hparts : ∀ c ∈ name, isNamePart c = true)
    (hcapital : ∀ c ∈ name.head?, c.isLower = false) : Capitalised (guardDigit name) := by
  obtain ⟨c, rest, rfl⟩ := List.exists_cons_of_ne_nil hne
  rw [guardDigit]
  split
  next => exact ⟨by simpa [isIdentifier, isNameStart] using hparts, by rintro _ ⟨⟩; rfl⟩
  next hdigit =>
    rw [List.forall_mem_cons] at hparts
    refine ⟨?_, hcapital⟩
    rw [isIdentifier, isNameStart_of_isNamePart hparts.1 (by simpa using hdigit), Bool.true_and,
      List.all_eq_true]
    exact hparts.2

theorem guardDigit_of_isIdentifier (h : isIdentifier name = true) : guardDigit name = name := by
  have hparts := isNamePart_of_isIdentifier h
  cases name with
  | nil => rfl
  | cons c rest =>
    have hascii := toNat_lt_of_isNamePart (hparts c List.mem_cons_self)
    have hstart : isNameStart c = true := (Bool.and_eq_true_iff.mp h).1
    rw [guardDigit, if_neg (by simp [not_isAsciiDigit_of_isNameStart hascii hstart])]

end Name

end StoryExports
