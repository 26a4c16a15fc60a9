import StoryExports.Text.Basic

/-!
# Cuts of a text

A byte offset is a boundary exactly when the text splits there, and two boundaries in order split
it into three parts. Facts about offsets become facts about concatenation.
-/
namespace StoryExports.Text

@[simp] theorem bytes_nil : bytes [] = 0 := rfl

@[simp] theorem bytes_cons (c : Char) (t : Text) : bytes (c :: t) = c.utf8Size + bytes t := rfl

@[simp] theorem bytes_append (a b : Text) : bytes (a ++ b) = bytes a + bytes b := by
  induction a with
  | nil => simp
  | cons c a ih => simp [ih, Nat.add_assoc]

theorem eq_nil_of_bytes_eq_zero {t : Text} (h : bytes t = 0) : t = [] := by
  cases t with
  | nil => rfl
  | cons c t =>
    have hc := c.utf8Size_pos
    simp only [bytes_cons] at h
    omega

@[simp] theorem cut?_zero (t : Text) : cut? 0 t = some ([], t) := by
  cases t <;> simp [cut?]

theorem cut?_append (a b : Text) : cut? (bytes a) (a ++ b) = some (a, b) := by
  induction a with
  | nil => simp
  | cons c a ih =>
    have hc := c.utf8Size_pos
    obtain ⟨n, hn⟩ : ∃ n, c.utf8Size + bytes a = n + 1 := ⟨c.utf8Size + bytes a - 1, by omega⟩
    have hle : c.utf8Size ≤ n + 1 := by omega
    have hrest : n + 1 - c.utf8Size = bytes a := by omega
    simp [hn, cut?, hle, hrest, ih]

theorem append_eq_of_cut? {n : Nat} {t a b : Text} (h : cut? n t = some (a, b)) :
    a ++ b = t ∧ bytes a = n := by
  induction t generalizing n a with
  | nil =>
    cases n with
    | zero => simp_all
    | succ n => simp [cut?] at h
  | cons c t ih =>
    cases n with
    | zero => simp_all
    | succ n =>
      simp only [cut?] at h
      split at h
      · obtain ⟨⟨before, after⟩, hcut, heq⟩ := Option.map_eq_some_iff.mp h
        cases heq
        obtain ⟨happ, hlen⟩ := ih hcut
        exact ⟨by simp [happ], by simp only [bytes_cons]; omega⟩
      · cases h

theorem isBoundary_iff {n : Nat} {t : Text} :
    isBoundary n t = true ↔ ∃ a b, a ++ b = t ∧ bytes a = n := by
  constructor
  · intro h
    obtain ⟨⟨a, b⟩, hcut⟩ := Option.isSome_iff_exists.mp h
    exact ⟨a, b, append_eq_of_cut? hcut⟩
  · rintro ⟨a, b, rfl, rfl⟩
    simp [isBoundary, cut?_append]

theorem isBoundary_append (a b : Text) : isBoundary (bytes a) (a ++ b) = true :=
  isBoundary_iff.mpr ⟨a, b, rfl, rfl⟩

@[simp] theorem isBoundary_bytes (t : Text) : isBoundary (bytes t) t = true := by
  simpa using isBoundary_append t []

theorem le_bytes_of_isBoundary {n : Nat} {t : Text} (h : isBoundary n t = true) :
    n ≤ bytes t := by
  obtain ⟨a, b, rfl, rfl⟩ := isBoundary_iff.mp h
  simp

/-- Two boundaries in order split a text into the parts before, between and after them. -/
theorem exists_parts {t : Text} {start stop : Nat} (hstart : isBoundary start t = true)
    (hstop : isBoundary stop t = true) (hle : start ≤ stop) :
    ∃ a m b, a ++ (m ++ b) = t ∧ bytes a = start ∧ bytes a + bytes m = stop := by
  obtain ⟨a, rest, rfl, rfl⟩ := isBoundary_iff.mp hstart
  obtain ⟨a', b, heq, rfl⟩ := isBoundary_iff.mp hstop
  rcases List.append_eq_append_iff.mp heq with ⟨m, ha, hb⟩ | ⟨m, ha, hb⟩
  · -- The second cut is not after the first one, so nothing lies between them.
    have hm : m = [] := by
      apply eq_nil_of_bytes_eq_zero
      rw [ha, bytes_append] at hle
      omega
    subst hm
    exact ⟨a, [], rest, by simp, rfl, by simp [ha]⟩
  · exact ⟨a, m, b, by simp [hb], rfl, by simp [ha]⟩

theorem replace_parts (a m b new : Text) :
    replace (a ++ (m ++ b)) ⟨bytes a, bytes a + bytes m⟩ new = a ++ (new ++ b) := by
  have hstop : cut? (bytes a + bytes m) (a ++ (m ++ b)) = some (a ++ m, b) := by
    simpa using cut?_append (a ++ m) b
  simp [replace, cut?_append, hstop]

theorem slice?_eq (s : Span) (t : Text) :
    slice? s t = (guard (s.start ≤ s.stop) : Option Unit).bind fun _ =>
      (cut? s.start t).bind fun p => (cut? (s.stop - s.start) p.2).bind fun q => some q.1 := rfl

theorem slice?_parts (a m b : Text) :
    slice? ⟨bytes a, bytes a + bytes m⟩ (a ++ (m ++ b)) = some m := by
  have hguard : (guard (bytes a ≤ bytes a + bytes m) : Option Unit) = some () :=
    if_pos (Nat.le_add_right _ _)
  rw [slice?_eq, hguard, cut?_append, Option.bind_some, Option.bind_some, Nat.add_sub_cancel_left,
    cut?_append, Option.bind_some]

end StoryExports.Text
