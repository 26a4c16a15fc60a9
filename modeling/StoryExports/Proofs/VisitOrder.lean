import StoryExports.Proofs.StoryPatches

/-!
# The order of visits

Two passes visit the stories, the last one first. Whether a visit succeeds depends on its story
alone, and visits to different stories change the table of patches at different offsets. So each
pass may visit the stories in any order: the table after it is the same, and all that follows is
made from the table.
-/
namespace StoryExports

/-- Two runs agree when both give one result, or both fail. -/
def Agree {ε α : Type} (x y : Except ε α) : Prop :=
  (∃ a, x = .ok a ∧ y = .ok a) ∨ ∃ e e', x = .error e ∧ y = .error e'

theorem Agree.refl {ε α : Type} (x : Except ε α) : Agree x x := by
  cases x with
  | ok a => exact .inl ⟨a, rfl, rfl⟩
  | error e => exact .inr ⟨e, e, rfl, rfl⟩

theorem Agree.bind {ε α β : Type} {x y : Except ε α} {f g : α → Except ε β} (h : Agree x y)
    (hrest : ∀ a, x = .ok a → Agree (f a) (g a)) : Agree (x >>= f) (y >>= g) := by
  rcases h with ⟨a, rfl, rfl⟩ | ⟨e, e', rfl, rfl⟩
  · exact hrest a rfl
  · exact .inr ⟨e, e', rfl, rfl⟩

namespace Patches

theorem Ordered.mem_iff {ps : Patches} (h : ps.Ordered) {p : Patch} :
    p ∈ ps ↔ ps.at? p.object.span.start = some p :=
  ⟨h.at?_of_mem, List.mem_of_find?_eq_some⟩

theorem Ordered.nodup {ps : Patches} (h : ps.Ordered) : ps.Nodup := by
  refine List.Pairwise.imp (fun {p q} hlt heq => ?_) h
  rw [heq] at hlt
  exact Nat.lt_irrefl _ hlt

/-- Patches are the same when they are the same at each offset. -/
theorem Ordered.ext {ps qs : Patches} (hps : ps.Ordered) (hqs : qs.Ordered)
    (h : ∀ n, ps.at? n = qs.at? n) : ps = qs := by
  have hperm : List.Perm ps qs := by
    refine (List.perm_ext_iff_of_nodup hps.nodup hqs.nodup).mpr fun p => ?_
    rw [hps.mem_iff, hqs.mem_iff, h]
  refine List.Perm.eq_of_pairwise (fun p q _ _ hpq hqp => ?_) hps hqs hperm
  exact absurd hpq (Nat.not_lt_of_gt hqp)

/-- Whether a path can be set has nothing to do with the patches. -/
theorem exists_set_iff (ps : Patches) (o : Outline) (path : List Text) (code : Text) :
    (∃ result, ps.set o path code = .ok result) ↔ ∀ p, o.place path ≠ .blocked p := by
  constructor
  · rintro ⟨result, hset⟩
    exact not_blocked_of_set hset
  · intro hopen
    have hspec := setBelow_spec ps o [] path code
    cases hplace : o.place path with
    | itself =>
      simp only [hplace] at hspec
      exact ⟨_, hspec⟩
    | present p =>
      simp only [hplace] at hspec
      exact ⟨_, hspec⟩
    | absent object rest =>
      simp only [hplace] at hspec
      exact ⟨_, hspec⟩
    | blocked p => exact absurd hplace (hopen p)

end Patches

namespace Transform

open Story Patches

namespace Draft

/-- Every step succeeds for the elements that satisfy `P`, whatever the draft is. -/
def SucceedsOn {α : Type} (step : Draft → α → Except Error Draft) (P : α → Prop) : Prop :=
  ∀ d x, (∃ d', step d x = .ok d') ↔ P x

theorem setText_succeeds_iff (d : Draft) (file : Text) (o : Outline) (path : List Text)
    (text : Text) :
    (∃ d', d.setText file o path text = .ok d') ↔ ∀ p, o.place path ≠ .blocked p := by
  rw [← exists_set_iff d.patches o path (Json.quote text)]
  simp only [setText]
  cases hset : d.patches.set o path (Json.quote text) with
  | ok result => exact ⟨fun _ => ⟨result, rfl⟩, fun _ => ⟨_, rfl⟩⟩
  | error cause =>
    constructor
    · rintro ⟨d', hd'⟩
      cases hd'
    · rintro ⟨result, hresult⟩
      cases hresult

theorem describeStory_succeeds (file : Text) :
    SucceedsOn (describeStory file) fun x => x.1.comment.isSome →
      ∀ p, x.2.properties.place storyDescription ≠ .blocked p := by
  intro d x
  cases hcomment : x.1.comment with
  | none => simp [describeStory, hcomment]
  | some comment => simp [describeStory, hcomment, setText_succeeds_iff]

theorem moveSource_succeeds (file : Text) :
    SucceedsOn (moveSource file) fun x => x.1.source.isSome →
      ∀ p, x.2.properties.place storySource ≠ .blocked p := by
  intro d x
  cases hsource : x.1.source with
  | none => simp [moveSource, hsource]
  | some source => simp [moveSource, hsource, setText_succeeds_iff]

theorem SucceedsOn.foldlM {α : Type} {step : Draft → α → Except Error Draft} {P : α → Prop}
    (h : SucceedsOn step P) (xs : List α) (d : Draft) :
    (∃ d', xs.foldlM step d = .ok d') ↔ ∀ x ∈ xs, P x := by
  induction xs generalizing d with
  | nil => simp [pure, Except.pure]
  | cons x xs ih =>
    rw [List.foldlM_cons, List.forall_mem_cons, ← h d x]
    constructor
    · rintro ⟨d', hd'⟩
      obtain ⟨next, hstep, hrest⟩ := bind_eq_ok hd'
      exact ⟨⟨next, hstep⟩, (ih next).mp ⟨d', hrest⟩⟩
    · rintro ⟨⟨next, hstep⟩, hall⟩
      rw [hstep]
      exact (ih next).mpr hall

end Draft

/-- No literal of a story starts where a literal of another one does. -/
def StoriesApart (stories : List CompiledStory) : Prop :=
  stories.Pairwise fun a b => ∀ n ∈ starts a.properties, n ∉ starts b.properties

instance (stories : List CompiledStory) : Decidable (StoriesApart stories) :=
  inferInstanceAs (Decidable (stories.Pairwise _))

section Visits

variable {stories visited : List (TemplateStory × CompiledStory)}
  {f : TemplateStory × CompiledStory → Nat → Option Patch → Option Patch}

theorem apart_of_ne (h : StoriesApart (stories.map (·.2))) {x y : TemplateStory × CompiledStory}
    (hx : x ∈ stories) (hy : y ∈ stories) (hne : x ≠ y) (n : Nat) :
    n ∉ starts x.2.properties ∨ n ∉ starts y.2.properties := by
  have hpairs : stories.Pairwise fun a b =>
      ∀ n, n ∉ starts a.2.properties ∨ n ∉ starts b.2.properties := by
    refine (List.pairwise_map.mp h).imp fun {a b} hab n => ?_
    by_cases hn : n ∈ starts a.2.properties
    · exact .inr (hab n hn)
    · exact .inl hn
  have hsymm : Std.Symm fun a b : TemplateStory × CompiledStory =>
      ∀ n, n ∉ starts a.2.properties ∨ n ∉ starts b.2.properties :=
    ⟨fun a b hab n => (hab n).symm⟩
  exact hpairs.forall hx hy hne n

/-- At one offset only one story is at work, so the visits may come in any order. -/
theorem foldl_visits (hf : ∀ x n, n ∉ starts x.2.properties → ∀ q, f x n q = q)
    (h : StoriesApart (stories.map (·.2))) (hperm : visited.Perm stories) (n : Nat)
    (q : Option Patch) :
    visited.foldl (fun q x => f x n q) q = stories.foldl (fun q x => f x n q) q := by
  refine (hperm.symm.foldl_eq' (fun x hx y hy q => ?_) q).symm
  by_cases hxy : x = y
  · rw [hxy]
  · rcases apart_of_ne h hx hy hxy n with hn | hn
    · rw [hf x n hn, hf x n hn]
    · rw [hf y n hn, hf y n hn]

theorem patches_of_visits {d d₁ d₂ : Draft}
    (hf : ∀ x n, n ∉ starts x.2.properties → ∀ q, f x n q = q)
    (h : StoriesApart (stories.map (·.2))) (hperm : visited.Perm stories)
    (h₁ : Draft.Updates (fun n q => stories.foldl (fun q x => f x n q) q) d d₁)
    (h₂ : Draft.Updates (fun n q => visited.foldl (fun q x => f x n q) q) d d₂) : d₁ = d₂ := by
  obtain ⟨b₁, ps₁⟩ := d₁
  obtain ⟨b₂, ps₂⟩ := d₂
  obtain rfl : b₁ = b₂ := h₁.buffer.trans h₂.buffer.symm
  have hps : ps₁ = ps₂ := by
    refine Ordered.ext h₁.ordered h₂.ordered fun n => ?_
    rw [h₁.at? n, h₂.at? n, foldl_visits hf h hperm]
  rw [hps]

/-- A pass gives one draft in all orders of its visits, or it fails in all of them. -/
theorem pass_visits {step : Draft → TemplateStory × CompiledStory → Except Error Draft}
    {P : TemplateStory × CompiledStory → Prop} (hstep : Draft.SucceedsOn step P)
    (hupdates : ∀ {xs : List (TemplateStory × CompiledStory)} {d d' : Draft}, d.patches.Ordered →
      xs.foldlM step d = .ok d' →
        Draft.Updates (fun n q => xs.foldl (fun q x => f x n q) q) d d')
    (hf : ∀ x n, n ∉ starts x.2.properties → ∀ q, f x n q = q)
    (h : StoriesApart (stories.map (·.2))) (hperm : visited.Perm stories) {d : Draft}
    (hd : d.patches.Ordered) : Agree (stories.foldlM step d) (visited.foldlM step d) := by
  have hsame : (∀ x ∈ stories, P x) ↔ ∀ x ∈ visited, P x :=
    ⟨fun hall x hx => hall x (hperm.mem_iff.mp hx), fun hall x hx => hall x (hperm.mem_iff.mpr hx)⟩
  rw [← hstep.foldlM stories d, ← hstep.foldlM visited d] at hsame
  cases hstories : stories.foldlM step d with
  | ok d₁ =>
    obtain ⟨d₂, hvisited⟩ := hsame.mp ⟨d₁, hstories⟩
    obtain rfl := patches_of_visits hf h hperm (hupdates hd hstories) (hupdates hd hvisited)
    exact .inl ⟨d₁, rfl, hvisited⟩
  | error e =>
    cases hvisited : visited.foldlM step d with
    | ok d₂ =>
      obtain ⟨d₁, hd₁⟩ := hsame.mpr ⟨d₂, hvisited⟩
      cases hstories.symm.trans hd₁
    | error e' => exact .inr ⟨e, e', rfl, rfl⟩

end Visits

/-- A run in which the passes visit the stories in given orders. -/
def exportVisiting (file code runtimeModule component : Text) (template : TemplateStories)
    (compiled : CompiledStories) (described moved : List (TemplateStory × CompiledStory)) :
    Except Error Text := do
  let d ← described.foldlM (Draft.describeStory file) (Draft.ofCode code)
  let d ← moved.foldlM (Draft.moveSource file) d
  let (d, metaName) ← d.bindMeta compiled.declared
  let d ← d.describeComponent file template.declared compiled.declared
  let d ← d.hideComponent compiled.component
  let d ← appendExports file
    ⟨runtimeModule, component, metaName, template.stories.map (·.exportName)⟩ d
  d.finish

section Run

variable {file code runtimeModule component : Text} {template : TemplateStories}
  {compiled : CompiledStories} {stories described moved : List (TemplateStory × CompiledStory)}

theorem exportStories_eq_visiting
    (h : pairs file template.stories compiled.stories = .ok stories) :
    exportStories file code runtimeModule component template compiled =
      exportVisiting file code runtimeModule component template compiled stories stories := by
  rw [exportStories, h]
  rfl

theorem storiesApart_of_pairs (h : pairs file template.stories compiled.stories = .ok stories)
    (hapart : StoriesApart compiled.stories) : StoriesApart (stories.map (·.2)) := by
  obtain ⟨hlength, rfl⟩ := pairs_eq_ok h
  have hsymm : ∀ {a b : CompiledStory}, (∀ n ∈ starts a.properties, n ∉ starts b.properties) →
      ∀ n ∈ starts b.properties, n ∉ starts a.properties := fun hab n hb ha => hab n ha hb
  rw [List.map_reverse, List.map_snd_zip (Nat.le_of_eq hlength.symm)]
  exact List.pairwise_reverse.mpr (hapart.imp hsymm)

/-- Whatever orders the two passes visit the stories in, the run has the output of the run that
visits the last story first, or both fail. -/
theorem visit_order_irrelevant
    (hpairs : pairs file template.stories compiled.stories = .ok stories)
    (hapart : StoriesApart compiled.stories) (hdescribed : described.Perm stories)
    (hmoved : moved.Perm stories) :
    Agree (exportStories file code runtimeModule component template compiled)
      (exportVisiting file code runtimeModule component template compiled described moved) := by
  have hstories := storiesApart_of_pairs hpairs hapart
  have hstart : (Draft.ofCode code).patches.Ordered := ordered_nil
  rw [exportStories_eq_visiting hpairs]
  refine Agree.bind (pass_visits (Draft.describeStory_succeeds file) Draft.Updates.describeStories
    (fun _ _ => describeAt_of_not_mem) hstories hdescribed hstart) fun d₁ h₁ => ?_
  have hordered := (Draft.Updates.describeStories hstart h₁).ordered
  -- From the second pass on both runs go on from one draft.
  refine Agree.bind (pass_visits (Draft.moveSource_succeeds file) Draft.Updates.moveSources
    (fun _ _ => moveAt_of_not_mem) hstories hmoved hordered) fun d₂ _ => ?_
  exact Agree.refl _

/-- The stories of the sample, as a run visits them. -/
def sampleStories : List (TemplateStory × CompiledStory) :=
  (sampleTemplate.stories.zip sampleCompiled.stories).reverse

theorem visit_order_sample :
    (exportStories ['f'] sampleCode ['r'] ['A'] sampleTemplate sampleCompiled).isOk = true ∧
      Agree (exportStories ['f'] sampleCode ['r'] ['A'] sampleTemplate sampleCompiled)
        (exportVisiting ['f'] sampleCode ['r'] ['A'] sampleTemplate sampleCompiled
          sampleStories.reverse (sampleStories.drop 1 ++ sampleStories.take 1)) :=
  ⟨by decide +kernel,
    visit_order_irrelevant (show pairs _ _ _ = .ok sampleStories from rfl) (by decide)
      (List.reverse_perm _) List.perm_append_comm⟩

end Run

end Transform

end StoryExports
