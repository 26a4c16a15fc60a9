import StoryExports.Proofs.Overlay
import StoryExports.Transform

/-!
# What the passes do to the patches

A pass over the stories changes the table of patches at the offsets of the literals it visits, and
nothing else. The table after all passes is therefore known offset by offset.
-/
namespace StoryExports

theorem bind_eq_ok {ε α β : Type} {x : Except ε α} {f : α → Except ε β} {b : β}
    (h : x >>= f = .ok b) : ∃ a, x = .ok a ∧ f a = .ok b := by
  cases x with
  | error e => cases h
  | ok a => exact ⟨a, rfl, h⟩

theorem bind_eq_error {ε α β : Type} {x : Except ε α} {f : α → Except ε β} {e : ε}
    (h : x >>= f = .error e) : x = .error e ∨ ∃ a, x = .ok a ∧ f a = .error e := by
  cases x with
  | error e' =>
    cases h
    exact .inl rfl
  | ok a => exact .inr ⟨a, rfl, h⟩

theorem exists_of_isOk {ε α : Type} {x : Except ε α} (h : x.isOk = true) : ∃ a, x = .ok a := by
  cases x with
  | error e => cases h
  | ok a => exact ⟨a, rfl⟩

theorem eq_ok_of_toOption {ε α : Type} {x : Except ε α} {a : α} (h : x.toOption = some a) :
    x = .ok a := by
  cases x with
  | error e => cases h
  | ok b =>
    cases h
    rfl

theorem exists_step_of_foldlM {ε σ α : Type} {step : σ → α → Except ε σ} {xs : List α} {s s' : σ}
    (h : xs.foldlM step s = .ok s') {x : α} (hx : x ∈ xs) : ∃ a b, step a x = .ok b := by
  induction xs generalizing s with
  | nil => cases hx
  | cons y ys ih =>
    rw [List.foldlM_cons] at h
    obtain ⟨a, hstep, hrest⟩ := bind_eq_ok h
    rcases List.mem_cons.mp hx with rfl | hx
    · exact ⟨s, a, hstep⟩
    · exact ih hrest hx

theorem exists_error_of_foldlM {ε σ α : Type} {step : σ → α → Except ε σ} {xs : List α} {s : σ}
    {e : ε} (h : xs.foldlM step s = .error e) : ∃ a x, step a x = .error e := by
  induction xs generalizing s with
  | nil => cases h
  | cons y ys ih =>
    rw [List.foldlM_cons] at h
    cases hstep : step s y with
    | error e' =>
      rw [hstep] at h
      cases h
      exact ⟨s, y, hstep⟩
    | ok a =>
      rw [hstep] at h
      exact ih h

namespace Story

theorem pairBackward_eq_ok {α β : Type} {nameA : α → Option Text} {nameB : β → Option Text}
    {position : Nat} {zs xs : List (α × β)} (h : pairBackward nameA nameB position zs = .ok xs) :
    xs = zs.reverse := by
  induction zs generalizing position xs with
  | nil =>
    cases h
    rfl
  | cons z zs ih =>
    obtain ⟨a, b⟩ := z
    obtain ⟨after, hafter, h⟩ := bind_eq_ok h
    have hrest := ih hafter
    split at h
    · split at h
      · cases h
        simp [hrest]
      · cases h
    · cases h
      simp [hrest]

theorem correlate_eq_ok {α β : Type} {nameA : α → Option Text} {nameB : β → Option Text}
    {as : List α} {bs : List β} {xs : List (α × β)} (h : correlate nameA nameB as bs = .ok xs) :
    as.length = bs.length ∧ xs = (as.zip bs).reverse := by
  simp only [correlate] at h
  split at h
  · rename_i hlength
    exact ⟨hlength, pairBackward_eq_ok h⟩
  · cases h

end Story

namespace Transform

open Story Patches

theorem pairs_eq_ok {file : Text} {template : List TemplateStory} {compiled : List CompiledStory}
    {stories : List (TemplateStory × CompiledStory)}
    (h : pairs file template compiled = .ok stories) :
    template.length = compiled.length ∧ stories = (template.zip compiled).reverse := by
  simp only [pairs] at h
  split at h
  · rename_i found hfound
    cases h
    exact correlate_eq_ok hfound
  · cases h

theorem pairs_eq_error {file : Text} {template : List TemplateStory}
    {compiled : List CompiledStory} {e : Error} (h : pairs file template compiled = .error e) :
    ∃ reason, e = .storyCorrelationMismatch file reason := by
  simp only [pairs] at h
  split at h
  · cases h
  · cases h
    exact ⟨_, rfl⟩

/-- The draft after all passes, before its edits are applied. -/
def passes (file code runtimeModule component : Text) (template : TemplateStories)
    (compiled : CompiledStories) : Except Error Draft := do
  let stories ← pairs file template.stories compiled.stories
  let d ← stories.foldlM (Draft.describeStory file) (Draft.ofCode code)
  let d ← stories.foldlM (Draft.moveSource file) d
  let (d, metaName) ← d.bindMeta compiled.declared
  let d ← d.describeComponent file template.declared compiled.declared
  let d ← d.hideComponent compiled.component
  appendExports file ⟨runtimeModule, component, metaName, template.stories.map (·.exportName)⟩ d

theorem exportStories_eq (file code runtimeModule component : Text) (template : TemplateStories)
    (compiled : CompiledStories) :
    exportStories file code runtimeModule component template compiled =
      passes file code runtimeModule component template compiled >>= Draft.finish := by
  simp only [exportStories, passes, bind_assoc]

namespace Draft

/-- From one draft to another the text and its edits stay, and the patch at each offset is changed
by `f`. -/
structure Updates (f : Nat → Option Patch → Option Patch) (d d' : Draft) : Prop where
  buffer : d'.buffer = d.buffer
  ordered : d'.patches.Ordered
  at? : ∀ n, d'.patches.at? n = f n (d.patches.at? n)

theorem Updates.refl {d : Draft} (h : d.patches.Ordered) : Updates (fun _ q => q) d d :=
  ⟨rfl, h, fun _ => rfl⟩

theorem Updates.trans {f g : Nat → Option Patch → Option Patch} {d d' d'' : Draft}
    (h : Updates f d d') (h' : Updates g d' d'') : Updates (fun n q => g n (f n q)) d d'' :=
  ⟨h'.buffer.trans h.buffer, h'.ordered, fun n => by rw [h'.at?, h.at?]⟩

/-- What every step of a pass does at an offset, the pass does one step after the other. -/
theorem Updates.foldlM {α : Type} {step : Draft → α → Except Error Draft}
    {f : α → Nat → Option Patch → Option Patch}
    (hstep : ∀ d x d', d.patches.Ordered → step d x = .ok d' → Updates (f x) d d')
    {xs : List α} {d d' : Draft} (hd : d.patches.Ordered) (h : xs.foldlM step d = .ok d') :
    Updates (fun n q => xs.foldl (fun q x => f x n q) q) d d' := by
  induction xs generalizing d with
  | nil =>
    cases h
    exact .refl hd
  | cons x xs ih =>
    rw [List.foldlM_cons] at h
    obtain ⟨a, hx, hrest⟩ := bind_eq_ok h
    have hfirst := hstep d x a hd hx
    exact hfirst.trans (ih hfirst.ordered hrest)

theorem Updates.setText {d d' : Draft} {file text : Text} {o : Outline} {path : List Text}
    (hd : d.patches.Ordered) (h : d.setText file o path text = .ok d') :
    Updates (setAt o path (Json.quote text)) d d' := by
  simp only [Draft.setText] at h
  split at h
  · rename_i patches changed hset
    cases h
    obtain ⟨hordered, hat⟩ := hd.set hset
    exact ⟨rfl, hordered, hat⟩
  · cases h

theorem not_blocked_of_setText {d d' : Draft} {file text : Text} {o : Outline} {path : List Text}
    (h : d.setText file o path text = .ok d') (p : Property PropertyValue) :
    o.place path ≠ .blocked p := by
  simp only [Draft.setText] at h
  split at h
  · rename_i patches changed hset
    exact not_blocked_of_set hset p
  · cases h

theorem setText_eq_error {d : Draft} {file text : Text} {o : Outline} {path : List Text}
    {e : Error} (h : d.setText file o path text = .error e) :
    ∃ cause, e = .unexpectedNode file cause := by
  simp only [setText] at h
  split at h
  · cases h
  · cases h
    exact ⟨_, rfl⟩

end Draft

/-- What describing a story does at each offset. -/
def describeAt (pair : TemplateStory × CompiledStory) : Nat → Option Patch → Option Patch :=
  match pair.1.comment with
  | some comment => setAt pair.2.properties storyDescription (Json.quote comment.text)
  | none => fun _ q => q

def moveAt (pair : TemplateStory × CompiledStory) : Nat → Option Patch → Option Patch :=
  match pair.1.source with
  | some code => fun n q =>
    setAt pair.2.properties storySource (Json.quote code) n
      (removeAt pair.2.properties sourceKey n q)
  | none => fun _ q => q

def componentAt (template : TemplateMeta) (compiled : CompiledMeta) :
    Nat → Option Patch → Option Patch :=
  match template.description.filter fun note => !note.text.isEmpty with
  | some note => setAt compiled.argument componentDescription (Json.quote note.text)
  | none => fun _ q => q

namespace Draft

variable {d d' : Draft} {file : Text}

theorem Updates.describeStory {pair : TemplateStory × CompiledStory} (hd : d.patches.Ordered)
    (h : d.describeStory file pair = .ok d') : Updates (describeAt pair) d d' := by
  unfold describeAt
  simp only [Draft.describeStory] at h
  cases hcomment : pair.1.comment with
  | some comment =>
    rw [hcomment] at h
    exact .setText hd h
  | none =>
    rw [hcomment] at h
    cases h
    exact .refl hd

theorem Updates.moveSource {pair : TemplateStory × CompiledStory} (hd : d.patches.Ordered)
    (h : d.moveSource file pair = .ok d') : Updates (moveAt pair) d d' := by
  unfold moveAt
  simp only [Draft.moveSource] at h
  cases hsource : pair.1.source with
  | some code =>
    rw [hsource] at h
    obtain ⟨hordered, hat⟩ := hd.remove pair.2.properties sourceKey
    have hremoved : Updates (removeAt pair.2.properties sourceKey) d
        ⟨d.buffer, (d.patches.remove pair.2.properties sourceKey).1⟩ := ⟨rfl, hordered, hat⟩
    exact hremoved.trans (.setText hordered h)
  | none =>
    rw [hsource] at h
    cases h
    exact .refl hd

theorem Updates.describeStories {xs : List (TemplateStory × CompiledStory)}
    (hd : d.patches.Ordered) (h : xs.foldlM (Draft.describeStory file) d = .ok d') :
    Updates (fun n q => xs.foldl (fun q x => describeAt x n q) q) d d' := by
  refine .foldlM (fun d x d' hd hx => ?_) hd h
  exact .describeStory hd hx

theorem Updates.moveSources {xs : List (TemplateStory × CompiledStory)}
    (hd : d.patches.Ordered) (h : xs.foldlM (Draft.moveSource file) d = .ok d') :
    Updates (fun n q => xs.foldl (fun q x => moveAt x n q) q) d d' := by
  refine .foldlM (fun d x d' hd hx => ?_) hd h
  exact .moveSource hd hx

theorem Updates.describeComponent {template : TemplateMeta} {compiled : CompiledMeta}
    (hd : d.patches.Ordered) (h : d.describeComponent file template compiled = .ok d') :
    Updates (componentAt template compiled) d d' := by
  unfold componentAt
  simp only [Draft.describeComponent] at h
  cases hnote : template.description.filter fun note => !note.text.isEmpty with
  | some note =>
    rw [hnote] at h
    exact .setText hd h
  | none =>
    rw [hnote] at h
    cases h
    exact .refl hd

theorem describeStory_eq_error {pair : TemplateStory × CompiledStory} {e : Error}
    (h : d.describeStory file pair = .error e) : ∃ cause, e = .unexpectedNode file cause := by
  simp only [describeStory] at h
  split at h
  · exact setText_eq_error h
  · cases h

theorem moveSource_eq_error {pair : TemplateStory × CompiledStory} {e : Error}
    (h : d.moveSource file pair = .error e) : ∃ cause, e = .unexpectedNode file cause := by
  simp only [moveSource] at h
  split at h
  · exact setText_eq_error h
  · cases h

theorem describeComponent_eq_error {template : TemplateMeta} {compiled : CompiledMeta} {e : Error}
    (h : d.describeComponent file template compiled = .error e) :
    ∃ cause, e = .unexpectedNode file cause := by
  simp only [describeComponent] at h
  split at h
  · exact setText_eq_error h
  · cases h

theorem bindMeta_eq_ok {compiled : CompiledMeta} {name : Text}
    (h : d.bindMeta compiled = .ok (d', name)) : d'.patches = d.patches := by
  simp only [bindMeta] at h
  split at h
  · cases h
    rfl
  · obtain ⟨buffer, -, h⟩ := bind_eq_ok h
    cases h
    rfl

theorem hideComponent_eq_ok {component : DefaultExport}
    (h : d.hideComponent component = .ok d') : d'.patches = d.patches := by
  obtain ⟨buffer, -, h⟩ := bind_eq_ok h
  cases h
  rfl

theorem append_eq_ok {text : Text} (h : d.append text = .ok d') : d'.patches = d.patches := by
  obtain ⟨buffer, -, h⟩ := bind_eq_ok h
  cases h
  rfl

end Draft

theorem appendExports_eq_ok {file : Text} {a : Appendix} {d d' : Draft}
    (h : appendExports file a d = .ok d') : d.append (a.textAfter d.buffer.text) = .ok d' := by
  simp only [appendExports] at h
  split at h
  · cases h
  · exact h

section Passes

variable {file code runtimeModule component : Text} {template : TemplateStories}
  {compiled : CompiledStories} {d : Draft}

/-- The steps of a successful run. -/
theorem passes_eq_ok (h : passes file code runtimeModule component template compiled = .ok d) :
    ∃ stories d₁ d₂ d₃ metaName d₄ d₅,
      pairs file template.stories compiled.stories = .ok stories ∧
      stories.foldlM (Draft.describeStory file) (Draft.ofCode code) = .ok d₁ ∧
      stories.foldlM (Draft.moveSource file) d₁ = .ok d₂ ∧
      d₂.bindMeta compiled.declared = .ok (d₃, metaName) ∧
      d₃.describeComponent file template.declared compiled.declared = .ok d₄ ∧
      d₄.hideComponent compiled.component = .ok d₅ ∧
      appendExports file
        ⟨runtimeModule, component, metaName, template.stories.map (·.exportName)⟩ d₅ = .ok d := by
  obtain ⟨stories, hpairs, h⟩ := bind_eq_ok h
  obtain ⟨d₁, hdescribe, h⟩ := bind_eq_ok h
  obtain ⟨d₂, hmove, h⟩ := bind_eq_ok h
  obtain ⟨⟨d₃, metaName⟩, hbind, h⟩ := bind_eq_ok h
  obtain ⟨d₄, hcomponent, h⟩ := bind_eq_ok h
  obtain ⟨d₅, hhide, h⟩ := bind_eq_ok h
  exact ⟨stories, d₁, d₂, d₃, metaName, d₄, d₅, hpairs, hdescribe, hmove, hbind, hcomponent,
    hhide, h⟩

theorem length_of_passes
    (h : passes file code runtimeModule component template compiled = .ok d) :
    template.stories.length = compiled.stories.length := by
  obtain ⟨stories, _, _, _, _, _, _, hpairs, _⟩ := passes_eq_ok h
  exact (pairs_eq_ok hpairs).1

/-- The patch at an offset after all passes. -/
def plannedAt (template : TemplateStories) (compiled : CompiledStories) (n : Nat) : Option Patch :=
  let stories := (template.stories.zip compiled.stories).reverse
  componentAt template.declared compiled.declared n
    (stories.foldl (fun q x => moveAt x n q) (stories.foldl (fun q x => describeAt x n q) none))

/-- The patches after all passes, offset by offset. -/
theorem patches_of_passes
    (h : passes file code runtimeModule component template compiled = .ok d) :
    d.patches.Ordered ∧ ∀ n, d.patches.at? n = plannedAt template compiled n := by
  obtain ⟨stories, d₁, d₂, d₃, metaName, d₄, d₅, hpairs, hdescribe, hmove, hbind, hcomponent, hhide,
    happend⟩ := passes_eq_ok h
  obtain ⟨-, rfl⟩ := pairs_eq_ok hpairs
  have h₀ : (Draft.ofCode code).patches.Ordered := ordered_nil
  have h₁ := Draft.Updates.describeStories h₀ hdescribe
  have h₂ := Draft.Updates.moveSources h₁.ordered hmove
  have h₃ := Draft.bindMeta_eq_ok hbind
  have h₄ := Draft.Updates.describeComponent (h₃ ▸ h₂.ordered) hcomponent
  -- The steps that record edits leave the patches alone.
  have h₅ : d.patches = d₄.patches :=
    (Draft.append_eq_ok (appendExports_eq_ok happend)).trans (Draft.hideComponent_eq_ok hhide)
  refine ⟨h₅ ▸ h₄.ordered, fun n => ?_⟩
  rw [h₅, h₄.at?, h₃, h₂.at?, h₁.at?]
  rfl

end Passes

/-- Three calls: one with a literal to enter, one with a `source` to move, one to leave alone. -/
def sampleCode : Text :=
  "const\x7bStory\x7d=defineMeta(\x7b\x7d);".toList ++
    "export default function A()\x7b".toList ++
    "Story(a,\x7bparameters:\x7b\x7d\x7d);".toList ++
    "Story(b,\x7bx:'é',source:0\x7d);".toList ++
    "Story(c,\x7b\x7d)\x7d".toList

def sampleCompiled : CompiledStories where
  aliases := .none
  declared := ⟨⟨13, 27⟩, ⟨5, 12⟩, ⟨⟨24, 26⟩, []⟩, none, 11, .afterLast, "Story".toList⟩
  component := ⟨⟨28, 120⟩, 43, some ['A']⟩
  stories := [
    ⟨none, ⟨⟨64, 79⟩, [⟨some "parameters".toList, ⟨65, 78⟩, .object ⟨76, 78⟩ []⟩]⟩, ⟨56, 80⟩⟩,
    ⟨none, ⟨⟨89, 106⟩, [⟨some ['x'], ⟨90, 96⟩, .string ['é']⟩,
      ⟨some sourceKey, ⟨97, 105⟩, .other⟩]⟩, ⟨81, 107⟩⟩,
    ⟨none, ⟨⟨116, 118⟩, []⟩, ⟨108, 119⟩⟩]

def sampleTemplate : TemplateStories where
  aliases := .none
  declared := ⟨"Story".toList, some ⟨"All".toList, ⟨0, 9⟩⟩, ⟨10, 20⟩⟩
  stories := [
    ⟨none, "One".toList, some ⟨"First".toList, ⟨30, 40⟩⟩, none, ⟨40, 50⟩⟩,
    ⟨none, "Two".toList, some ⟨"Second".toList, ⟨60, 70⟩⟩, some "<b/>".toList, ⟨70, 80⟩⟩,
    ⟨none, "Three".toList, none, none, ⟨80, 90⟩⟩]

theorem passes_sample :
    ∃ d, passes ['f'] sampleCode ['r'] ['A'] sampleTemplate sampleCompiled = .ok d := by
  have hok : (passes ['f'] sampleCode ['r'] ['A'] sampleTemplate sampleCompiled).isOk = true := by
    decide +kernel
  exact exists_of_isOk hok

end Transform

end StoryExports
