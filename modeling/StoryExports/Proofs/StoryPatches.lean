import StoryExports.Proofs.Lists
import StoryExports.Proofs.Passes

/-!
# The patches of a story

Literals that start at different offsets do not share a patch. So what the passes leave at the
literals of a story depends on that story alone, and it is the comment and the source of the story,
each at the end of its path.
-/
namespace StoryExports.Transform

open Story Patches

/-- The literals that a compiled module shows: those of its story calls and of the meta. -/
def outlinesOf (compiled : CompiledStories) : List Outline :=
  compiled.stories.flatMap (fun s => s.properties.outlines) ++ compiled.declared.argument.outlines

/-- No two literals start at one offset. -/
def Distinct (compiled : CompiledStories) : Prop :=
  ((outlinesOf compiled).map (·.span.start)).Nodup

instance (compiled : CompiledStories) : Decidable (Distinct compiled) :=
  inferInstanceAs (Decidable (List.Nodup _))

section Local

variable {template : TemplateStories} {compiled : CompiledStories} {n : Nat}

theorem describeAt_of_not_mem {pair : TemplateStory × CompiledStory}
    (h : n ∉ starts pair.2.properties) (q : Option Patch) : describeAt pair n q = q := by
  unfold describeAt
  cases pair.1.comment with
  | some comment => exact setAt_of_not_mem h _ _ q
  | none => rfl

theorem moveAt_of_not_mem {pair : TemplateStory × CompiledStory}
    (h : n ∉ starts pair.2.properties) (q : Option Patch) : moveAt pair n q = q := by
  unfold moveAt
  cases pair.1.source with
  | some code =>
    change setAt _ _ _ n (removeAt _ _ n q) = q
    rw [removeAt_of_not_mem h, setAt_of_not_mem h]
  | none => rfl

theorem componentAt_of_not_mem {declared : TemplateMeta} {argument : CompiledMeta}
    (h : n ∉ starts argument.argument) (q : Option Patch) :
    componentAt declared argument n q = q := by
  unfold componentAt
  cases declared.description.filter fun note => !note.text.isEmpty with
  | some note => exact setAt_of_not_mem h _ _ q
  | none => rfl

theorem Distinct.starts (h : Distinct compiled) :
    (compiled.stories.flatMap fun s => starts s.properties).Nodup ∧
      ∀ s ∈ compiled.stories, ∀ n ∈ starts s.properties, n ∉ starts compiled.declared.argument := by
  unfold Distinct outlinesOf at h
  rw [List.map_append, List.map_flatMap, List.nodup_append] at h
  refine ⟨h.1, fun s hs n hn hmem => ?_⟩
  exact h.2.2 n (List.mem_flatMap.mpr ⟨s, hs, hn⟩) n hmem rfl

theorem Distinct.pairwise (h : Distinct compiled) :
    compiled.stories.Pairwise fun a b => ∀ n ∈ Patches.starts a.properties,
      n ∉ Patches.starts b.properties := by
  have hpairs := (List.pairwise_flatMap.mp h.starts.1).2
  exact hpairs.imp fun hab n hn hmem => hab n hn n hmem rfl

theorem Distinct.eq_of_start (h : Distinct compiled) {a b : Outline} (ha : a ∈ outlinesOf compiled)
    (hb : b ∈ outlinesOf compiled) (heq : a.span.start = b.span.start) : a = b :=
  List.inj_on_of_nodup_map h ha hb heq

theorem mem_outlinesOf_story {c : CompiledStory} (hc : c ∈ compiled.stories) {o : Outline}
    (ho : o ∈ c.properties.outlines) : o ∈ outlinesOf compiled :=
  List.mem_append_left _ (List.mem_flatMap.mpr ⟨c, hc, ho⟩)

theorem start_mem_starts {o object : Outline} (h : object ∈ o.outlines) :
    object.span.start ∈ starts o :=
  List.mem_map.mpr ⟨object, h, rfl⟩

theorem Distinct.not_mem_starts (h : Distinct compiled) {o : Outline}
    (ho : o ∈ compiled.declared.argument.outlines) :
    ∀ s ∈ compiled.stories, o.span.start ∉ Patches.starts s.properties := fun s hs hmem =>
  h.starts.2 s hs _ hmem (start_mem_starts ho)

theorem mem_zip_of_getElem? {i : Nat} {t : TemplateStory} {c : CompiledStory}
    (ht : template.stories[i]? = some t) (hc : compiled.stories[i]? = some c) :
    (t, c) ∈ template.stories.zip compiled.stories :=
  List.mem_of_getElem? (List.getElem?_zip_eq_some.mpr ⟨ht, hc⟩)

/-- At the literals of a story only that story is at work. -/
theorem plannedAt_story (hdistinct : Distinct compiled)
    (hlength : template.stories.length = compiled.stories.length) {t : TemplateStory}
    {c : CompiledStory} (hpair : (t, c) ∈ template.stories.zip compiled.stories)
    (hn : n ∈ starts c.properties) :
    plannedAt template compiled n = moveAt (t, c) n (describeAt (t, c) n none) := by
  have hpairs : (template.stories.zip compiled.stories).Pairwise fun a b =>
      ∀ n ∈ starts a.2.properties, n ∉ starts b.2.properties := by
    have hpairs := hdistinct.pairwise
    rwa [← List.map_snd_zip (Nat.le_of_eq hlength.symm), List.pairwise_map] at hpairs
  have hargument := hdistinct.starts.2 c (List.of_mem_zip hpair).2 n hn
  obtain ⟨before, after, hsplit⟩ := List.append_of_mem hpair
  rw [hsplit, List.pairwise_append, List.pairwise_cons] at hpairs
  -- All other stories have their literals at other offsets.
  have hbefore : ∀ y ∈ before, n ∉ starts y.2.properties := fun y hy hmem =>
    hpairs.2.2 y hy (t, c) (by simp) n hmem hn
  have hafter : ∀ y ∈ after, n ∉ starts y.2.properties := fun y hy => hpairs.2.1.1 y hy n hn
  simp only [plannedAt, hsplit]
  rw [foldl_reverse_of_split (fun y hy q => describeAt_of_not_mem (hbefore y hy) q)
      (fun y hy q => describeAt_of_not_mem (hafter y hy) q),
    foldl_reverse_of_split (fun y hy q => moveAt_of_not_mem (hbefore y hy) q)
      (fun y hy q => moveAt_of_not_mem (hafter y hy) q),
    componentAt_of_not_mem hargument]

/-- Where no story has a literal, only the meta is at work. -/
theorem plannedAt_component (hn : ∀ s ∈ compiled.stories, n ∉ starts s.properties) :
    plannedAt template compiled n = componentAt template.declared compiled.declared n none := by
  have hpairs : ∀ y ∈ (template.stories.zip compiled.stories).reverse,
      n ∉ starts y.2.properties := fun y hy =>
    hn y.2 (List.of_mem_zip (List.mem_reverse.mp hy)).2
  simp only [plannedAt]
  rw [foldl_eq_self fun y hy q => describeAt_of_not_mem (hpairs y hy) q,
    foldl_eq_self fun y hy q => moveAt_of_not_mem (hpairs y hy) q]

end Local

section Entries

variable {o : Outline} {path : List Text} {n : Nat}

/-- What has been added to a patch stays in it. -/
def Keeps (p p' : Patch) : Prop :=
  ∀ path code, NewValue.get? p.added path = some (.literal code) →
    NewValue.get? p'.added path = some (.literal code)

theorem exists_setAt_some (code : Text) (p : Patch) :
    ∃ p', setAt o path code n (some p) = some p' ∧ Keeps p p' := by
  unfold setAt
  split
  · rename_i object rest _
    split
    · exact ⟨_, rfl, fun _ _ h => NewValue.get?_insert_of_literal h⟩
    · exact ⟨p, rfl, fun _ _ h => h⟩
  · exact ⟨p, rfl, fun _ _ h => h⟩

theorem exists_removeAt_some (key : Text) (p : Patch) :
    ∃ p', removeAt o key n (some p) = some p' ∧ p'.added = p.added := by
  unfold removeAt
  split
  · split
    · exact ⟨_, rfl, p.drop_added _⟩
    · exact ⟨p, rfl, rfl⟩
  · exact ⟨p, rfl, rfl⟩

theorem exists_moveAt_some (pair : TemplateStory × CompiledStory) (p : Patch) :
    ∃ p', moveAt pair n (some p) = some p' ∧ Keeps p p' := by
  unfold moveAt
  cases pair.1.source with
  | none => exact ⟨p, rfl, fun _ _ h => h⟩
  | some code =>
    obtain ⟨p₁, h₁, hadded⟩ := exists_removeAt_some sourceKey p
    obtain ⟨p₂, h₂, hkeeps⟩ := exists_setAt_some (Json.quote code) p₁
    refine ⟨p₂, ?_, fun path code h => hkeeps path code (by rwa [hadded])⟩
    change setAt _ _ _ n (removeAt _ _ n (some p)) = some p₂
    rw [h₁, h₂]

theorem setAt_none {object : Outline} {rest : List Text} (h : o.place path = .absent object rest)
    (code : Text) :
    ∃ p, setAt o path code object.span.start none = some p ∧
      p.added = (NewValue.insert [] rest code).1 ∧
      NewValue.get? p.added rest = some (.literal code) := by
  have hrest := (Outline.mem_of_place_absent h).2.1
  rw [setAt_of_absent h, if_pos rfl]
  exact ⟨_, rfl, rfl, NewValue.get?_insert_self (NewValue.insert_nil_changed hrest code)⟩

variable {t : TemplateStory} {c : CompiledStory}

theorem description_landed {comment : Note} (hcomment : t.comment = some comment)
    {object : Outline} {rest : List Text}
    (h : c.properties.place storyDescription = .absent object rest) :
    ∃ p, moveAt (t, c) object.span.start (describeAt (t, c) object.span.start none) = some p ∧
      NewValue.get? p.added rest = some (.literal (Json.quote comment.text)) := by
  obtain ⟨p, hset, -, hget⟩ := setAt_none h (Json.quote comment.text)
  have hdescribe : describeAt (t, c) object.span.start none = some p := by
    simpa [describeAt, hcomment] using hset
  obtain ⟨p', hmove, hkeeps⟩ := exists_moveAt_some (t, c) p
  exact ⟨p', by rw [hdescribe, hmove], hkeeps _ _ hget⟩

theorem component_landed {template : TemplateMeta} {compiled : CompiledMeta} {note : Note}
    (hnote : template.description = some note) (htext : note.text ≠ []) {object : Outline}
    {rest : List Text} (h : compiled.argument.place componentDescription = .absent object rest) :
    ∃ p, componentAt template compiled object.span.start none = some p ∧
      NewValue.get? p.added rest = some (.literal (Json.quote note.text)) := by
  obtain ⟨p, hset, -, hget⟩ := setAt_none h (Json.quote note.text)
  refine ⟨p, ?_, hget⟩
  simpa [componentAt, hnote, Option.filter, htext] using hset

theorem mem_of_suffix_concat {a : Text} {init rest : List Text} (h : rest <:+ init ++ [a])
    (hne : rest ≠ []) : a ∈ rest := by
  rcases List.suffix_concat_iff.mp h with hnil | ⟨rest', rfl, -⟩
  · exact absurd hnil hne
  · simp

/-- Ends of two paths do not lead through each other if the last keys are foreign to the other
path. -/
theorem not_prefix_of_last (init : List Text) (a : Text) {path rest rest' : List Text}
    (h : rest <:+ init ++ [a]) (hne : rest ≠ []) (h' : rest' <:+ path) (ha : a ∉ path) :
    ¬rest <+: rest' := fun hbegin =>
  ha (h'.subset (hbegin.subset (mem_of_suffix_concat h hne)))

theorem added_removeAt (key : Text) (q : Option Patch) (object : Outline) :
    ((removeAt o key n q).getD ⟨object, [], []⟩).added = (q.getD ⟨object, [], []⟩).added := by
  unfold removeAt
  split
  · split
    · cases q <;> simp
    · rfl
  · rfl

theorem added_describeAt (object : Outline) :
    ((describeAt (t, c) n none).getD ⟨object, [], []⟩).added = [] ∨
      ∃ rest code, rest ≠ [] ∧ rest <:+ storyDescription ∧
        ((describeAt (t, c) n none).getD ⟨object, [], []⟩).added =
          (NewValue.insert [] rest code).1 := by
  unfold describeAt
  cases hcomment : t.comment with
  | none => exact .inl rfl
  | some comment =>
    simp only [setAt]
    split
    · rename_i object' rest hplace
      obtain ⟨-, hne, hsuffix⟩ := Outline.mem_of_place_absent hplace
      split
      · exact .inr ⟨rest, _, hne, hsuffix, rfl⟩
      · exact .inl rfl
    · exact .inl rfl

theorem source_landed {source : Text} (hsource : t.source = some source) {object : Outline}
    {rest : List Text} (h : c.properties.place storySource = .absent object rest) :
    ∃ p, moveAt (t, c) object.span.start (describeAt (t, c) object.span.start none) = some p ∧
      NewValue.get? p.added rest = some (.literal (Json.quote source)) := by
  obtain ⟨-, hne, hsuffix⟩ := Outline.mem_of_place_absent h
  simp only [moveAt, hsource]
  rw [setAt_of_absent h, if_pos rfl]
  refine ⟨_, rfl, NewValue.get?_insert_self ?_⟩
  rw [added_removeAt]
  rcases added_describeAt object with hnil | ⟨rest', code, hne', hsuffix', hadded⟩
  · rw [hnil]
    exact NewValue.insert_nil_changed hne _
  · -- Both paths go through `parameters.docs`, but each ends in a key that the other lacks.
    rw [hadded]
    refine NewValue.insert_insert_changed hne hne' ?_ ?_
    · exact not_prefix_of_last storyDescription.dropLast "story".toList hsuffix' hne' hsuffix
        (by decide)
    · exact not_prefix_of_last storySource.dropLast "code".toList hsuffix hne hsuffix'
        (by decide)

theorem literal_of_setAt {rest : List Text} {code found : Text} {q : Option Patch} {p' : Patch}
    (h : setAt o path code n q = some p')
    (hget : NewValue.get? p'.added rest = some (.literal found)) :
    (∃ p, q = some p ∧ NewValue.get? p.added rest = some (.literal found)) ∨
      ∃ object, o.place path = .absent object rest ∧ n = object.span.start ∧ found = code := by
  unfold setAt at h
  split at h
  · rename_i object rest' hplace
    split at h
    · rename_i hn
      cases h
      rcases NewValue.get?_insert_cases hget with hold | ⟨rfl, hcode⟩
      · cases q with
        | none =>
          rw [Option.getD_none, NewValue.get?_nil] at hold
          cases hold
        | some p => exact .inl ⟨p, rfl, hold⟩
      · exact .inr ⟨object, hplace, hn, hcode⟩
    · exact .inl ⟨p', h, hget⟩
  · exact .inl ⟨p', h, hget⟩

theorem literal_of_removeAt {key : Text} {rest : List Text} {found : Text} {q : Option Patch}
    {p' : Patch} (h : removeAt o key n q = some p')
    (hget : NewValue.get? p'.added rest = some (.literal found)) :
    ∃ p, q = some p ∧ NewValue.get? p.added rest = some (.literal found) := by
  cases q with
  | some p =>
    obtain ⟨p'', hp'', hadded⟩ := exists_removeAt_some (o := o) (n := n) key p
    obtain rfl : p'' = p' := Option.some.inj (hp''.symm.trans h)
    exact ⟨p, rfl, hadded ▸ hget⟩
  | none =>
    have hadded := added_removeAt (o := o) (n := n) key none o
    rw [h, Option.getD_some, Option.getD_none] at hadded
    rw [hadded, NewValue.get?_nil] at hget
    cases hget

theorem literal_of_describeAt {rest : List Text} {found : Text} {p : Patch}
    (h : describeAt (t, c) n none = some p)
    (hget : NewValue.get? p.added rest = some (.literal found)) :
    ∃ comment object, t.comment = some comment ∧
      c.properties.place storyDescription = .absent object rest ∧ n = object.span.start ∧
      found = Json.quote comment.text := by
  unfold describeAt at h
  cases hcomment : t.comment with
  | none => simp [hcomment] at h
  | some comment =>
    simp only [hcomment] at h
    rcases literal_of_setAt h hget with ⟨p, hnone, -⟩ | ⟨object, hplace, hn, hfound⟩
    · cases hnone
    · exact ⟨comment, object, rfl, hplace, hn, hfound⟩

/-- Nothing but the comment and the source of a story is added to its literals. -/
theorem literal_of_moveAt {rest : List Text} {found : Text} {p : Patch}
    (h : moveAt (t, c) n (describeAt (t, c) n none) = some p)
    (hget : NewValue.get? p.added rest = some (.literal found)) :
    (∃ comment object, t.comment = some comment ∧
      c.properties.place storyDescription = .absent object rest ∧ n = object.span.start ∧
      found = Json.quote comment.text) ∨
    ∃ source object, t.source = some source ∧
      c.properties.place storySource = .absent object rest ∧ n = object.span.start ∧
      found = Json.quote source := by
  unfold moveAt at h
  cases hsource : t.source with
  | none =>
    simp only [hsource] at h
    exact .inl (literal_of_describeAt h hget)
  | some source =>
    simp only [hsource] at h
    rcases literal_of_setAt h hget with ⟨p₁, hremove, hget₁⟩ | ⟨object, hplace, hn, hfound⟩
    · obtain ⟨p₂, hdescribe, hget₂⟩ := literal_of_removeAt hremove hget₁
      exact .inl (literal_of_describeAt hdescribe hget₂)
    · exact .inr ⟨source, object, rfl, hplace, hn, hfound⟩

def removedIn (q : Option Patch) : List Nat := (q.map (·.removed)).getD []

@[simp] theorem removedIn_setAt (code : Text) (q : Option Patch) :
    removedIn (setAt o path code n q) = removedIn q := by
  unfold setAt
  split
  · split
    · cases q <;> rfl
    · rfl
  · rfl

theorem removedIn_removeAt (key : Text) {q : Option Patch} (h : removedIn q = []) :
    removedIn (removeAt o key n q) =
      if n = o.span.start then (o.position? key).toList else [] := by
  unfold removeAt
  split
  · rename_i i hi
    split
    · cases q with
      | none => simp [removedIn, Patch.drop, hi]
      | some p =>
        have hp : p.removed = [] := h
        simp [removedIn, Patch.drop, hp, hi]
    · exact h
  · rename_i hi
    simp [hi, h]

theorem removedIn_describeAt (pair : TemplateStory × CompiledStory) :
    removedIn (describeAt pair n none) = [] := by
  unfold describeAt
  cases pair.1.comment with
  | some comment => exact removedIn_setAt _ none
  | none => rfl

theorem removedIn_componentAt (template : TemplateMeta) (compiled : CompiledMeta) :
    removedIn (componentAt template compiled n none) = [] := by
  unfold componentAt
  cases template.description.filter fun note => !note.text.isEmpty with
  | some note => exact removedIn_setAt _ none
  | none => rfl

/-- A story takes its `source` out if the template gives one, and nothing else. -/
theorem removedIn_moveAt (pair : TemplateStory × CompiledStory) :
    removedIn (moveAt pair n (describeAt pair n none)) =
      if pair.1.source.isSome ∧ n = pair.2.properties.span.start then
        (pair.2.properties.position? sourceKey).toList
      else [] := by
  have hnone := removedIn_describeAt pair (n := n)
  unfold moveAt
  cases pair.1.source with
  | some code => simp [removedIn_removeAt sourceKey hnone]
  | none => simpa using hnone

end Entries

section Run

variable {file code runtimeModule component : Text} {template : TemplateStories}
  {compiled : CompiledStories} {d : Draft}

theorem at?_story (h : passes file code runtimeModule component template compiled = .ok d)
    (hdistinct : Distinct compiled) {t : TemplateStory} {c : CompiledStory}
    (hpair : (t, c) ∈ template.stories.zip compiled.stories) {o : Outline}
    (ho : o ∈ c.properties.outlines) :
    d.patches.at? o.span.start =
      moveAt (t, c) o.span.start (describeAt (t, c) o.span.start none) := by
  rw [(patches_of_passes h).2,
    plannedAt_story hdistinct (length_of_passes h) hpair (start_mem_starts ho)]

theorem at?_component (h : passes file code runtimeModule component template compiled = .ok d)
    (hdistinct : Distinct compiled) {o : Outline}
    (ho : o ∈ compiled.declared.argument.outlines) :
    d.patches.at? o.span.start =
      componentAt template.declared compiled.declared o.span.start none := by
  rw [(patches_of_passes h).2, plannedAt_component (hdistinct.not_mem_starts ho)]

theorem Distinct.unshared_story (h : Distinct compiled) {c : CompiledStory}
    (hc : c ∈ compiled.stories) : c.properties.Unshared :=
  (List.pairwise_flatMap.mp h.starts.1).1 c hc

theorem Distinct.unshared_argument (h : Distinct compiled) :
    compiled.declared.argument.Unshared := by
  unfold Distinct outlinesOf at h
  rw [List.map_append, List.nodup_append] at h
  exact h.2.1

end Run

end StoryExports.Transform
