import StoryExports.Name.Identifier

/-!
# Characters of names

All characters of a name are ASCII characters, and the first one is no digit.
-/
namespace StoryExports.Name

variable {c : Char} {name : Text}

theorem toNat_lt_of_isNamePart (h : isNamePart c = true) : c.toNat < 128 := by
  simp only [isNamePart, isAsciiLetter, isAsciiDigit, Bool.or_eq_true, Bool.and_eq_true,
    decide_eq_true_eq, beq_iff_eq, Char.le_def, UInt32.le_iff_toNat_le] at h
  rcases h with (((h | h) | h) | rfl) | rfl
  · exact Nat.lt_of_le_of_lt h.2 (by decide)
  · exact Nat.lt_of_le_of_lt h.2 (by decide)
  · exact Nat.lt_of_le_of_lt h.2 (by decide)
  · decide
  · decide

theorem isNameStart_of_isNamePart (h : isNamePart c = true) (hdigit : isAsciiDigit c = false) :
    isNameStart c = true := by
  simpa [isNamePart, isNameStart, hdigit] using h

theorem not_isAsciiDigit_of_isNameStart (hc : c.toNat < 128) (h : isNameStart c = true) :
    isAsciiDigit c = false := by
  have hascii : ∀ n < 128, isNameStart (Char.ofNat n) = true →
      isAsciiDigit (Char.ofNat n) = false := by
    decide +kernel
  rw [← Char.ofNat_toNat c] at h ⊢
  exact hascii c.toNat hc h

theorem isNamePart_of_isIdentifier (h : isIdentifier name = true) :
    ∀ c ∈ name, isNamePart c = true := by
  cases name with
  | nil => exact fun c hc => absurd hc (List.not_mem_nil)
  | cons first rest =>
    obtain ⟨hfirst, hrest⟩ := Bool.and_eq_true_iff.mp h
    refine List.forall_mem_cons.mpr ⟨?_, List.all_eq_true.mp hrest⟩
    simp only [isNameStart, isNamePart, Bool.or_eq_true] at hfirst ⊢
    rcases hfirst with (h | h) | h <;> simp [h]

end StoryExports.Name
