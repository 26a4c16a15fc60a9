import StoryExports.Proofs.UniqueKeys

/-!
# The first value of a path stays

The author's properties and the added ones are seen together. Setting a path fails exactly where a
property of the author that is no literal stands in its way. Otherwise it changes something exactly
where the path leads to nothing yet and through objects only, and then what stood at a path before
stands there still.
-/
namespace StoryExports

/-- Whether more can be added below what stands at a path. -/
def Found.IsObject : Found → Prop
  | .author p => p.value.span? ≠ none
  | .added (.object _) => True
  | .added (.literal _) => False

/-- `q` goes a part of the way that `path` goes. -/
def Above (q path : List Text) : Prop := q <+: path ∧ q ≠ path

theorem not_above_nil (q : List Text) : ¬Above q [] :=
  fun h => h.2 (List.prefix_nil.mp h.1)

theorem above_cons_iff {q rest : List Text} {key : Text} :
    Above q (key :: rest) ↔ q = [] ∨ ∃ below, q = key :: below ∧ Above below rest := by
  unfold Above
  rw [List.prefix_cons_iff]
  constructor
  · rintro ⟨rfl | ⟨below, rfl, hbelow⟩, hne⟩
    · exact .inl rfl
    · exact .inr ⟨below, rfl, hbelow, fun heq => hne (by rw [heq])⟩
  · rintro (rfl | ⟨below, rfl, hbelow, hne⟩)
    · exact ⟨.inl rfl, by simp⟩
    · exact ⟨.inr ⟨below, rfl, hbelow⟩, fun heq => hne (List.cons.inj heq).2⟩

namespace NewValue

variable {entries : List (Text × NewValue)} {path : List Text} {code : Text}

theorem literal_of_not_entered {key : Text} (h : entered? key entries = none) :
    ∃ old, find? key entries = some (.literal old) := by
  unfold entered? at h
  split at h
  · cases h
  · cases h
  · rename_i old hfound
    exact ⟨old, hfound⟩

/-- A value is added where nothing stands yet and the way there leads through objects. -/
theorem insert_changed_iff :
    (insert entries path code).2 = true ↔ path ≠ [] ∧ get? entries path = none ∧
      ∀ q old, Above q path → get? entries q ≠ some (.literal old) := by
  induction path generalizing entries with
  | nil => simp [insert]
  | cons key rest ih =>
    cases rest with
    | nil =>
      cases hfound : find? key entries with
      | some value => simp [insert, get?, hfound]
      | none =>
        simp only [insert, hfound, get?, true_iff]
        refine ⟨by simp, trivial, fun q old hq hold => ?_⟩
        rcases above_cons_iff.mp hq with rfl | ⟨below, -, hbelow⟩
        · cases hold
        · exact not_above_nil below hbelow
    | cons next rest =>
      cases hentered : entered? key entries with
      | none =>
        obtain ⟨old, hold⟩ := literal_of_not_entered hentered
        rw [insert_of_not_entered hentered]
        simp only [Bool.false_eq_true, false_iff, not_and]
        exact fun _ _ hway => hway [key] old ⟨⟨next :: rest, rfl⟩, by simp⟩ hold
      | some children =>
        rw [(insert_of_entered hentered next rest code).2, ih, get?_of_entered hentered]
        -- The first key leads to an object, so only what stands below it can be in the way.
        refine and_congr (by simp) (and_congr_right fun _ => ⟨fun hway q old hq hold => ?_,
          fun hway q old hq hold => ?_⟩)
        · rcases above_cons_iff.mp hq with rfl | ⟨below, rfl, hbelow⟩
          · cases hold
          · cases below with
            | nil =>
              have hold : find? key entries = some (.literal old) := hold
              simp [entered?, hold] at hentered
            | cons second others =>
              rw [get?_of_entered hentered] at hold
              exact hway _ old hbelow hold
        · cases q with
          | nil => cases hold
          | cons second others =>
            rw [← get?_of_entered hentered] at hold
            exact hway _ old (above_cons_iff.mpr (.inr ⟨_, rfl, hq⟩)) hold

theorem update_self {key : Text} {value : NewValue} (h : find? key entries = some value) :
    update key value entries = entries := by
  induction entries with
  | nil => rfl
  | cons e es ih =>
    rw [find?_cons] at h
    rw [update]
    split
    · rename_i hkey
      rw [if_pos hkey] at h
      cases h
      rw [← hkey]
    · rename_i hkey
      rw [if_neg hkey] at h
      rw [ih h]

theorem insert_of_unchanged (h : (insert entries path code).2 = false) :
    (insert entries path code).1 = entries := by
  induction path generalizing entries with
  | nil => rfl
  | cons key rest ih =>
    cases rest with
    | nil =>
      simp only [insert] at h ⊢
      split at h
      · rfl
      · cases h
    | cons next rest =>
      simp only [insert] at h ⊢
      split at h
      · rename_i hfound
        rw [ih h, update_self hfound]
      · rfl
      · cases h

/-- What stands at a path stays, but an object may get more entries. -/
theorem get?_insert_of_some {other : List Text} {value : NewValue}
    (h : get? entries other = some value) (path : List Text) (code : Text) :
    get? (insert entries path code).1 other = some value ∨
      ∃ old new, value = .object old ∧
        get? (insert entries path code).1 other = some (.object new) := by
  induction path generalizing entries other with
  | nil => exact .inl h
  | cons key rest ih =>
    cases other with
    | nil => cases h
    | cons first others =>
      by_cases hkey : key = first
      · subst hkey
        cases rest with
        | nil =>
          cases hfound : find? key entries with
          | none => cases others <;> simp [get?, hfound] at h
          | some found => exact .inl (by simpa [insert, hfound] using h)
        | cons next rest =>
          cases hentered : entered? key entries with
          | none =>
            rw [insert_of_not_entered hentered]
            exact .inl h
          | some children =>
            cases others with
            | nil =>
              have hfound : find? key entries = some value := h
              cases value with
              | literal old => simp [entered?, hfound] at hentered
              | object old =>
                exact .inr ⟨old, _, rfl, (insert_of_entered hentered next rest code).1⟩
            | cons second others =>
              rw [get?_of_entered hentered] at h
              rw [get?_insert_of_entered hentered]
              exact ih h
      · rw [get?_congr (find?_insert_of_ne hkey rest code)]
        exact .inl h

end NewValue

namespace Outline

/-- The property at `q`, on the way of `path`, is no literal. -/
structure Blocks (o : Outline) (path q : List Text) (p : Property PropertyValue) : Prop where
  above : Above q path
  found : o.property? q = some p
  no_object : p.value.span? = none

variable {o : Outline} {key : Text} {p : Property PropertyValue}

theorem property?_of_missing (h : o.get? key = none) (rest : List Text) :
    o.property? (key :: rest) = none := by
  cases rest <;> simp [property?, h]

theorem property?_of_object (h : o.get? key = some p) {v : Outline}
    (hv : p.value = .object v.span v.properties) (next : Text) (rest : List Text) :
    o.property? (key :: next :: rest) = v.property? (next :: rest) := by
  obtain ⟨k, span, value⟩ := p
  subst hv
  simp [property?, h]

theorem property?_of_no_object (h : o.get? key = some p) (hp : p.value.span? = none) (next : Text)
    (rest : List Text) : o.property? (key :: next :: rest) = none := by
  obtain ⟨k, span, value⟩ := p
  cases value with
  | object s ps => cases hp
  | string s => simp [property?, h]
  | other => simp [property?, h]

theorem not_blocks_of_missing (h : o.get? key = none) {rest q : List Text} :
    ¬o.Blocks (key :: rest) q p := by
  rintro ⟨habove, hfound, -⟩
  rcases above_cons_iff.mp habove with rfl | ⟨below, rfl, -⟩
  · cases hfound
  · rw [property?_of_missing h] at hfound
    cases hfound

theorem not_blocks_singleton {q : List Text} : ¬o.Blocks [key] q p := by
  rintro ⟨habove, hfound, -⟩
  rcases above_cons_iff.mp habove with rfl | ⟨below, -, hbelow⟩
  · cases hfound
  · exact not_above_nil below hbelow

/-- A path that enters a literal is blocked where the rest of it is. -/
theorem blocks_of_object (h : o.get? key = some p) {v : Outline}
    (hv : p.value = .object v.span v.properties) {rest q : List Text}
    {r : Property PropertyValue} :
    o.Blocks (key :: rest) q r ↔ ∃ below, q = key :: below ∧ v.Blocks rest below r := by
  constructor
  · rintro ⟨habove, hfound, hno⟩
    rcases above_cons_iff.mp habove with rfl | ⟨below, rfl, hbelow⟩
    · cases hfound
    · refine ⟨below, rfl, hbelow, ?_, hno⟩
      cases below with
      | nil =>
        obtain rfl : p = r := Option.some.inj (h.symm.trans hfound)
        rw [hv] at hno
        cases hno
      | cons next rest => rwa [property?_of_object h hv] at hfound
  · rintro ⟨below, rfl, hbelow, hfound, hno⟩
    refine ⟨above_cons_iff.mpr (.inr ⟨below, rfl, hbelow⟩), ?_, hno⟩
    cases below with
    | nil => cases hfound
    | cons next rest => rwa [property?_of_object h hv]

theorem blocks_of_no_object (h : o.get? key = some p) (hp : p.value.span? = none) {next : Text}
    {rest q : List Text} {r : Property PropertyValue} :
    o.Blocks (key :: next :: rest) q r ↔ q = [key] ∧ r = p := by
  constructor
  · rintro ⟨habove, hfound, -⟩
    rcases above_cons_iff.mp habove with rfl | ⟨below, rfl, -⟩
    · cases hfound
    · cases below with
      | nil => exact ⟨rfl, Option.some.inj (hfound.symm.trans h)⟩
      | cons second others =>
        rw [property?_of_no_object h hp] at hfound
        cases hfound
  · rintro ⟨rfl, rfl⟩
    exact ⟨⟨⟨next :: rest, rfl⟩, by simp⟩, h, hp⟩

end Outline

namespace Patches

variable {ps ps' : Patches} {o : Outline} {path : List Text} {code : Text}

/-- A path cannot be set exactly if a property on its way is no literal, and the cause names the
way to that property. -/
theorem setBelow_eq_error_iff {walked : List Text} {e : Unexpected} :
    ps.setBelow o walked path code = .error e ↔
      ∃ q p, o.Blocks path q p ∧ e = .notAnObject (walked.reverse ++ q) p.span.start := by
  induction path generalizing o walked with
  | nil =>
    simp only [setBelow, reduceCtorEq, false_iff, not_exists, not_and]
    exact fun q p hblocks => absurd hblocks.above (not_above_nil q)
  | cons key rest ih =>
    cases hget : o.get? key with
    | none =>
      simp only [setBelow, hget, reduceCtorEq, false_iff, not_exists, not_and]
      exact fun q p hblocks => absurd hblocks (Outline.not_blocks_of_missing hget)
    | some p =>
      cases rest with
      | nil =>
        simp only [setBelow, hget, reduceCtorEq, false_iff, not_exists, not_and]
        exact fun q p hblocks => absurd hblocks Outline.not_blocks_singleton
      | cons next rest =>
        have hblocked : p.value.span? = none →
            (.error (.notAnObject (key :: walked).reverse p.span.start) =
                (.error e : Except Unexpected (Patches × Bool)) ↔
              ∃ q r, o.Blocks (key :: next :: rest) q r ∧
                e = .notAnObject (walked.reverse ++ q) r.span.start) := by
          intro hno
          simp [Outline.blocks_of_no_object hget hno, eq_comm]
        cases hvalue : p.value with
        | object span properties =>
          have hentered : p.value = .object (Outline.mk span properties).span properties := hvalue
          rw [setBelow, hget]
          simp only [hvalue]
          rw [ih]
          constructor
          · rintro ⟨q, r, hblocks, rfl⟩
            exact ⟨key :: q, r, (Outline.blocks_of_object hget hentered).mpr ⟨q, rfl, hblocks⟩,
              by simp⟩
          · rintro ⟨q, r, hblocks, rfl⟩
            obtain ⟨below, rfl, hbelow⟩ := (Outline.blocks_of_object hget hentered).mp hblocks
            exact ⟨below, r, hbelow, by simp⟩
        | string s =>
          simpa [setBelow, hget, hvalue] using hblocked (by rw [hvalue]; rfl)
        | other =>
          simpa [setBelow, hget, hvalue] using hblocked (by rw [hvalue]; rfl)

theorem set_eq_error_iff {e : Unexpected} :
    ps.set o path code = .error e ↔
      ∃ q p, o.Blocks path q p ∧ e = .notAnObject q p.span.start := by
  have hbelow : ps.setBelow o [] path code = .error e ↔ _ := setBelow_eq_error_iff
  simpa [set] using hbelow

/-- The way to a missing key of a literal leads through objects if the way from there does. -/
theorem objects_above_iff {object : Outline} {rest : List Text}
    (h : o.place path = .absent object rest) :
    (∀ q v, Above q path → ps.overlay o q = some v → v.IsObject) ↔
      ∀ q old, Above q rest → NewValue.get? (ps.addedTo object) q ≠ some (.literal old) := by
  induction path generalizing o with
  | nil => cases h
  | cons first others ih =>
    rcases Outline.place_absent_cases h with ⟨rfl, rfl, -⟩ | ⟨key, tail, p, span, properties, hpath,
      hget, hvalue, hnested⟩
    · have hadded : ∀ below, ps.overlay object (first :: below) =
          (NewValue.get? (ps.addedTo object) (first :: below)).map .added := by
        intro below
        rw [overlay, Outline.get?_of_place_absent h]
      constructor
      · intro hway q old hq hold
        rcases above_cons_iff.mp hq with rfl | ⟨below, rfl, hbelow⟩
        · cases hold
        · exact hway _ (.added (.literal old)) hq (by rw [hadded, hold]; rfl)
      · intro hway q v hq hv
        rcases above_cons_iff.mp hq with rfl | ⟨below, rfl, hbelow⟩
        · cases hv
        · rw [hadded] at hv
          obtain ⟨value, hvalue, rfl⟩ := Option.map_eq_some_iff.mp hv
          cases value with
          | literal old => exact absurd hvalue (hway _ old hq)
          | object children => trivial
    · cases hpath
      rw [← ih hnested]
      have hbelow : ∀ next rest, ps.overlay o (first :: next :: rest) =
          ps.overlay ⟨span, properties⟩ (next :: rest) := by
        intro next rest
        rw [overlay, hget]
        simp only [hvalue]
      constructor
      · intro hway q v hq hv
        cases q with
        | nil => cases hv
        | cons next rest =>
          rw [← hbelow] at hv
          exact hway _ v (above_cons_iff.mpr (.inr ⟨_, rfl, hq⟩)) hv
      · intro hway q v hq hv
        rcases above_cons_iff.mp hq with rfl | ⟨below, rfl, habove⟩
        · cases hv
        · cases below with
          | nil =>
            obtain rfl : .author p = v := by simpa [overlay, hget] using hv
            simp [Found.IsObject, hvalue, PropertyValue.span?]
          | cons next rest =>
            rw [hbelow] at hv
            exact hway _ v habove hv

/-- A value is set where nothing stands yet and the way there leads through objects. -/
theorem changed_iff {changed : Bool} (h : ps.set o path code = .ok (ps', changed)) :
    changed = true ↔ path ≠ [] ∧ ps.overlay o path = none ∧
      ∀ q v, Above q path → ps.overlay o q = some v → v.IsObject := by
  have hspec := setBelow_spec ps o [] path code
  simp only [set] at h
  cases hplace : o.place path with
  | itself =>
    simp only [hplace, h, Except.ok.injEq, Prod.mk.injEq] at hspec
    have hnil : path = [] := by
      by_contra hne
      exact Outline.place_ne_itself hne hplace
    simp [hspec.2, hnil]
  | present p =>
    simp only [hplace, h, Except.ok.injEq, Prod.mk.injEq] at hspec
    simp [hspec.2, overlay_eq, hplace]
  | absent object rest =>
    simp only [hplace, h, Except.ok.injEq, Prod.mk.injEq] at hspec
    obtain ⟨-, hne, hsuffix⟩ := Outline.mem_of_place_absent hplace
    have hpath : path ≠ [] := by
      rintro rfl
      exact hne (List.suffix_nil.mp hsuffix)
    have hhere : ps.overlay o path = none ↔ NewValue.get? (ps.addedTo object) rest = none := by
      simp [overlay_eq, hplace]
    rw [hspec.2, NewValue.insert_changed_iff, objects_above_iff hplace, hhere]
    exact and_congr_left fun _ => iff_of_true hne hpath
  | blocked p =>
    simp only [hplace, h] at hspec
    obtain ⟨keys, hspec⟩ := hspec
    cases hspec

theorem Ordered.modify_self {object : Outline} {f : Patch → Patch} (h : ps.Ordered)
    {p : Patch} (hp : ps.at? object.span.start = some p) (hf : f p = p) :
    ps.modify object f = ps := by
  induction ps with
  | nil => cases hp
  | cons q ps ih =>
    obtain ⟨hq, hps⟩ := List.pairwise_cons.mp h
    rw [at?_cons] at hp
    rw [Patches.modify]
    by_cases hstart : q.object.span.start = object.span.start
    · rw [if_pos hstart] at hp
      cases hp
      rw [if_neg (by omega), if_pos hstart.symm, hf]
    · rw [if_neg hstart] at hp
      have hlt : q.object.span.start < object.span.start := by
        obtain ⟨hmem, hpstart⟩ := start_of_at? hp
        exact hpstart ▸ hq p hmem
      rw [if_neg (by omega), if_neg (by omega), ih hps hp]

/-- Where nothing is added, the patches are the same. -/
theorem Ordered.eq_of_unchanged (hps : ps.Ordered)
    (h : ps.set o path code = .ok (ps', false)) : ps' = ps := by
  have hspec := setBelow_spec ps o [] path code
  simp only [Patches.set] at h
  cases hplace : o.place path with
  | itself =>
    simp only [hplace, h, Except.ok.injEq, Prod.mk.injEq] at hspec
    exact hspec.1
  | present p =>
    simp only [hplace, h, Except.ok.injEq, Prod.mk.injEq] at hspec
    exact hspec.1
  | absent object rest =>
    simp only [hplace, h, Except.ok.injEq, Prod.mk.injEq] at hspec
    have hsame := NewValue.insert_of_unchanged hspec.2.symm
    have hne := (Outline.mem_of_place_absent hplace).2.1
    rw [hspec.1, hsame]
    -- Something is there already, so the literal has a patch.
    cases hat : ps.at? object.span.start with
    | none =>
      have hadded : ps.addedTo object = [] := by simp [addedTo_eq, hat]
      rw [hadded] at hspec
      rw [NewValue.insert_nil_changed hne] at hspec
      cases hspec.2
    | some p =>
      have hadded : ps.addedTo object = p.added := by simp [addedTo_eq, hat]
      exact hps.modify_self hat (by rw [hadded])
  | blocked p =>
    simp only [hplace, h] at hspec
    obtain ⟨keys, hspec⟩ := hspec
    cases hspec

/-- What is added to a literal after a path was set. -/
theorem Ordered.addedTo_set (hps : ps.Ordered) {changed : Bool}
    (h : ps.set o path code = .ok (ps', changed)) (x : Outline) :
    ps'.addedTo x = ps.addedTo x ∨ ∃ rest, ps'.addedTo x =
      (NewValue.insert (ps.addedTo x) rest code).1 := by
  obtain ⟨-, hat⟩ := hps.set h
  rw [addedTo_eq, addedTo_eq, hat, setAt]
  split
  · rename_i object rest hplace
    split
    · refine .inr ⟨rest, ?_⟩
      cases ps.at? x.span.start <;> rfl
    · exact .inl rfl
  · exact .inl rfl

/-- What stood at a path stands there still, but an object may have more entries. -/
theorem Ordered.overlay_set (hps : ps.Ordered) {changed : Bool}
    (h : ps.set o path code = .ok (ps', changed)) {x : Outline} {q : List Text} {v : Found}
    (hv : ps.overlay x q = some v) :
    ∃ v', ps'.overlay x q = some v' ∧ (v' = v ∨ v.IsObject ∧ v'.IsObject) := by
  rw [overlay_eq] at hv ⊢
  cases hplace : x.place q with
  | itself => simp [hplace] at hv
  | present p =>
    simp only [hplace, Option.some.injEq] at hv
    exact ⟨v, by rw [← hv], .inl rfl⟩
  | blocked p => simp [hplace] at hv
  | absent object rest =>
    simp only [hplace] at hv ⊢
    obtain ⟨value, hvalue, rfl⟩ := Option.map_eq_some_iff.mp hv
    rcases hps.addedTo_set h object with hsame | ⟨added, hinsert⟩
    · exact ⟨.added value, by rw [hsame, hvalue]; rfl, .inl rfl⟩
    · rw [hinsert]
      rcases NewValue.get?_insert_of_some hvalue added code with hkept | ⟨old, new, rfl, hnew⟩
      · exact ⟨.added value, by rw [hkept]; rfl, .inl rfl⟩
      · exact ⟨.added (.object new), by rw [hnew]; rfl, .inr ⟨trivial, trivial⟩⟩

/-- A value that was set stands at its path. -/
theorem Ordered.overlay_of_changed (hps : ps.Ordered)
    (h : ps.set o path code = .ok (ps', true)) :
    ps'.overlay o path = some (.added (.literal code)) := by
  have hspec := setBelow_spec ps o [] path code
  obtain ⟨-, hat⟩ := hps.set h
  simp only [Patches.set] at h
  cases hplace : o.place path with
  | itself => simp [hplace, h] at hspec
  | present p => simp [hplace, h] at hspec
  | absent object rest =>
    simp only [hplace, h, Except.ok.injEq, Prod.mk.injEq] at hspec
    have hadded : ps'.addedTo object = (NewValue.insert (ps.addedTo object) rest code).1 := by
      rw [addedTo_eq, addedTo_eq, hat, setAt_of_absent hplace, if_pos rfl]
      cases ps.at? object.span.start <;> rfl
    simp [overlay_eq, hplace, hadded, NewValue.get?_insert_self hspec.2.symm]
  | blocked p =>
    simp only [hplace, h] at hspec
    obtain ⟨keys, hspec⟩ := hspec
    cases hspec

theorem Ordered.afterCall (hps : ps.Ordered) (c : Call) : (ps.afterCall c).Ordered := by
  cases c with
  | set object path code =>
    simp only [Patches.afterCall]
    split
    · rename_i hset
      exact (hps.set hset).1
    · exact hps
  | remove object key => exact (hps.remove object key).1

theorem ordered_afterCalls (calls : List Call) : (afterCalls calls).Ordered := by
  have hrun : ∀ ps : Patches, ps.Ordered → (calls.foldl Patches.afterCall ps).Ordered := by
    induction calls with
    | nil => exact fun ps h => h
    | cons c calls ih => exact fun ps h => ih _ (h.afterCall c)
  exact hrun [] ordered_nil

/-- After any calls, a path is set for good by the first call that can. The call fails exactly where
a property of the author on the way is no literal, and it names that property. Otherwise it adds the
value exactly where nothing stands at the path and only objects on the way, and then all that stood
at any path of any literal stays, but objects may grow. A call that adds nothing changes nothing. -/
theorem set_first_value (calls : List Call) (o : Outline) (path : List Text) (code : Text) :
    (∀ e, (afterCalls calls).set o path code = .error e ↔
      ∃ q p, o.Blocks path q p ∧ e = .notAnObject q p.span.start) ∧
    ((∀ q p, ¬o.Blocks path q p) →
      ∃ ps changed, (afterCalls calls).set o path code = .ok (ps, changed) ∧
        (changed = true ↔ path ≠ [] ∧ (afterCalls calls).overlay o path = none ∧
          ∀ q v, Above q path → (afterCalls calls).overlay o q = some v → v.IsObject)) ∧
    (∀ ps, (afterCalls calls).set o path code = .ok (ps, true) →
      ps.overlay o path = some (.added (.literal code)) ∧
      ∀ x q v, (afterCalls calls).overlay x q = some v →
        ∃ v', ps.overlay x q = some v' ∧ (v' = v ∨ v.IsObject ∧ v'.IsObject)) ∧
    ((∀ ps, (afterCalls calls).set o path code ≠ .ok (ps, true)) →
      (afterCalls calls).afterCall (.set o path code) = afterCalls calls) := by
  have hordered := ordered_afterCalls calls
  refine ⟨fun e => set_eq_error_iff, fun hopen => ?_, fun ps hset => ?_, fun hnot => ?_⟩
  · cases hset : (afterCalls calls).set o path code with
    | error e =>
      obtain ⟨q, p, hblocks, -⟩ := set_eq_error_iff.mp hset
      exact absurd hblocks (hopen q p)
    | ok result => exact ⟨result.1, result.2, rfl, changed_iff hset⟩
  · exact ⟨hordered.overlay_of_changed hset, fun x q v hv => hordered.overlay_set hset hv⟩
  · simp only [afterCall]
    split
    · rename_i ps changed hset
      cases changed with
      | true => exact absurd hset (hnot ps)
      | false => exact hordered.eq_of_unchanged hset
    · rfl

end Patches

end StoryExports
