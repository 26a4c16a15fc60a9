import StoryExports.Outline.Patch

/-!
# Entries to add

Added entries form a tree, in which a path of keys leads to at most one value. The first value of a
path stays, and paths that do not lead through each other do not get in each other's way.
-/
namespace StoryExports

namespace NewValue

/-- The value at a path among added entries. -/
def get? (entries : List (Text × NewValue)) : List Text → Option NewValue
  | [] => none
  | [key] => find? key entries
  | key :: rest =>
    match find? key entries with
    | some (.object children) => get? children rest
    | _ => none

variable {entries : List (Text × NewValue)} {key : Text}

@[simp] theorem find?_nil (key : Text) : find? key [] = none := rfl

theorem find?_cons (e : Text × NewValue) (es : List (Text × NewValue)) (key : Text) :
    find? key (e :: es) = if e.1 = key then some e.2 else find? key es := by
  by_cases h : e.1 = key <;> simp [find?, h]

theorem find?_append (es : List (Text × NewValue)) (key other : Text) (value : NewValue) :
    find? other (es ++ [(key, value)]) =
      (find? other es).or (if key = other then some value else none) := by
  induction es with
  | nil => rw [List.nil_append, find?_cons, find?_nil, Option.none_or]
  | cons e es ih =>
    rw [List.cons_append, find?_cons, find?_cons, ih]
    split <;> simp

theorem find?_update {old : NewValue} (h : find? key entries = some old) (value : NewValue)
    (other : Text) :
    find? other (update key value entries) =
      if key = other then some value else find? other entries := by
  induction entries with
  | nil => cases h
  | cons e es ih =>
    rw [find?_cons] at h
    by_cases hkey : e.1 = key
    · simp only [update, hkey, if_true, find?_cons]
      split <;> rfl
    · rw [if_neg hkey] at h
      simp only [update, hkey, if_false, find?_cons, ih h]
      by_cases hother : e.1 = other
      · simp [hother, show key ≠ other from fun heq => hkey (hother.trans heq.symm)]
      · simp [hother]

theorem insert_nil_changed {path : List Text} (h : path ≠ []) (code : Text) :
    (insert [] path code).2 = true := by
  cases path with
  | nil => exact absurd rfl h
  | cons key rest => cases rest <;> rfl

theorem get?_nil (path : List Text) : get? [] path = none := by
  cases path with
  | nil => rfl
  | cons key rest => cases rest <;> rfl

theorem get?_congr {es es' : List (Text × NewValue)} {first : Text}
    (h : find? first es = find? first es') (others : List Text) :
    get? es (first :: others) = get? es' (first :: others) := by
  cases others <;> simp only [get?, h]

theorem find?_insert_of_ne {first : Text} (h : key ≠ first) (rest : List Text) (code : Text) :
    find? first (insert entries (key :: rest) code).1 = find? first entries := by
  cases rest with
  | nil =>
    simp only [insert]
    split
    · rfl
    · simp [find?_append, h]
  | cons next rest =>
    simp only [insert]
    split
    · rename_i children hfound
      simp [find?_update hfound, h]
    · rfl
    · simp [find?_append, h]

/-- The entries below a key, if it can be entered. A key that is not there has none yet. -/
def entered? (key : Text) (entries : List (Text × NewValue)) : Option (List (Text × NewValue)) :=
  match find? key entries with
  | none => some []
  | some (.object children) => some children
  | some (.literal _) => none

section Entered

variable {children : List (Text × NewValue)}

theorem insert_of_not_entered (h : entered? key entries = none) (next : Text) (rest : List Text)
    (code : Text) : insert entries (key :: next :: rest) code = (entries, false) := by
  unfold entered? at h
  split at h
  · cases h
  · cases h
  · rename_i hfound
    simp [insert, hfound]

theorem insert_of_entered (h : entered? key entries = some children) (next : Text)
    (rest : List Text) (code : Text) :
    find? key (insert entries (key :: next :: rest) code).1 =
        some (.object (insert children (next :: rest) code).1) ∧
      (insert entries (key :: next :: rest) code).2 =
        (insert children (next :: rest) code).2 := by
  unfold entered? at h
  split at h
  · rename_i hfound
    cases h
    simp [insert, hfound, find?_append, insert_nil_changed]
  · rename_i hfound
    cases h
    simp [insert, hfound, find?_update hfound]
  · cases h

theorem get?_of_entered (h : entered? key entries = some children) (next : Text)
    (rest : List Text) :
    get? entries (key :: next :: rest) = get? children (next :: rest) := by
  unfold entered? at h
  split at h
  · rename_i hfound
    cases h
    simp [get?, hfound, get?_nil]
  · rename_i hfound
    cases h
    simp [get?, hfound]
  · cases h

theorem get?_insert_of_entered (h : entered? key entries = some children) (next second : Text)
    (rest others : List Text) (code : Text) :
    get? (insert entries (key :: next :: rest) code).1 (key :: second :: others) =
      get? (insert children (next :: rest) code).1 (second :: others) := by
  simp [get?, (insert_of_entered h next rest code).1]

end Entered

theorem get?_insert_self {path : List Text} {code : Text}
    (h : (insert entries path code).2 = true) :
    get? (insert entries path code).1 path = some (.literal code) := by
  induction path generalizing entries with
  | nil => cases h
  | cons key rest ih =>
    cases rest with
    | nil =>
      simp only [insert] at h ⊢
      split at h
      · cases h
      · rename_i hnone
        simp [get?, find?_append, hnone]
    | cons next rest =>
      cases hentered : entered? key entries with
      | none =>
        rw [insert_of_not_entered hentered] at h
        cases h
      | some children =>
        rw [(insert_of_entered hentered next rest code).2] at h
        rw [get?_insert_of_entered hentered]
        exact ih h

theorem get?_insert_of_literal {path other : List Text} {code old : Text}
    (h : get? entries other = some (.literal old)) :
    get? (insert entries path code).1 other = some (.literal old) := by
  induction path generalizing entries other with
  | nil => exact h
  | cons key rest ih =>
    cases other with
    | nil => cases h
    | cons first others =>
      by_cases hkey : key = first
      · subst hkey
        cases rest with
        | nil =>
          cases hfound : find? key entries with
          | none => cases others <;> simp [get?, hfound] at h
          | some value => simpa [insert, hfound] using h
        | cons next rest =>
          cases hentered : entered? key entries with
          | none => rwa [insert_of_not_entered hentered]
          | some children =>
            cases others with
            | nil =>
              have hfound : find? key entries = some (.literal old) := h
              simp [entered?, hfound] at hentered
            | cons second others =>
              rw [get?_of_entered hentered] at h
              rw [get?_insert_of_entered hentered]
              exact ih h
      · rwa [get?_congr (find?_insert_of_ne hkey rest code)]

/-- No other value appears. -/
theorem get?_insert_cases {path other : List Text} {code found : Text}
    (h : get? (insert entries path code).1 other = some (.literal found)) :
    get? entries other = some (.literal found) ∨ other = path ∧ found = code := by
  induction path generalizing entries other with
  | nil => exact .inl h
  | cons key rest ih =>
    cases other with
    | nil => cases h
    | cons first others =>
      by_cases hkey : key = first
      · subst hkey
        cases rest with
        | nil =>
          cases hfound : find? key entries with
          | none => cases others <;> simp_all [insert, get?, find?_append]
          | some value => exact .inl (by simpa [insert, hfound] using h)
        | cons next rest =>
          cases hentered : entered? key entries with
          | none =>
            rw [insert_of_not_entered hentered] at h
            exact .inl h
          | some children =>
            cases others with
            | nil =>
              -- What the path goes through is an object.
              have hfound := (insert_of_entered hentered next rest code).1
              simp [get?, hfound] at h
            | cons second others =>
              rw [get?_insert_of_entered hentered] at h
              rcases ih h with hold | ⟨heq, hcode⟩
              · exact .inl ((get?_of_entered hentered second others).trans hold)
              · exact .inr ⟨by rw [heq], hcode⟩
      · rw [get?_congr (find?_insert_of_ne hkey rest code)] at h
        exact .inl h

/-- Two paths, none of which leads through the other, can both be added. -/
theorem insert_insert_changed {path other : List Text} {code old : Text} (hpath : path ≠ [])
    (hother : other ≠ []) (hbelow : ¬other <+: path) (habove : ¬path <+: other) :
    (insert (insert [] other old).1 path code).2 = true := by
  induction other generalizing path with
  | nil => exact absurd rfl hother
  | cons key rest ih =>
    obtain ⟨first, others, rfl⟩ := List.exists_cons_of_ne_nil hpath
    by_cases hkey : key = first
    · subst hkey
      cases rest with
      | nil => exact absurd ⟨others, rfl⟩ hbelow
      | cons next rest =>
        cases others with
        | nil => exact absurd ⟨next :: rest, rfl⟩ habove
        | cons second others =>
          have hchanged : (insert (insert [] (next :: rest) old).1 (second :: others) code).2 :=
            ih (by simp) (by simp) (by simpa using hbelow) (by simpa using habove)
          simp [insert, find?_cons, hchanged]
    · have hnone : find? first (insert [] (key :: rest) old).1 = none := by
        rw [find?_insert_of_ne hkey, find?_nil]
      cases others with
      | nil => simp [insert, hnone]
      | cons second others => simp [insert, hnone]

end NewValue

end StoryExports
