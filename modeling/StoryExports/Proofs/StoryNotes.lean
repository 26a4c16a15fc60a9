import Mathlib.Data.List.Forall2
import StoryExports.Proofs.StoryNames

/-!
# The comments of the stories

The stories of a template are read from the first node to the last one, with a comment in hand that
waits for the next story. Seen from a story, this is the comment right before it, with nothing but
blank text between them. So a comment belongs to one story at most.
-/
namespace StoryExports

/-- A text that is all blank. -/
def Template.Node.isBlankText : Template.Node → Bool
  | .text _ data => data.isAllBlank
  | _ => false

namespace Story

open Template (Node Component)

/-- What a comment says, if it says anything. -/
def noteOf? : Node → Option Note
  | .comment span data => if data.dedent = [] then none else some ⟨data.dedent, span⟩
  | _ => none

/-- The note right before a place, looked up from the nodes before it: blank text is skipped, and
what comes next has to be a comment. -/
def noteBefore (before : List Node) : Option Note :=
  (before.reverse.dropWhile Node.isBlankText).head?.bind noteOf?

/-- Where the comment in hand comes from, but for one that says nothing. -/
def Waits (before : List Node) (pending : Option Note) : Prop :=
  (pending.filter fun n => !n.text.isEmpty) = noteBefore before

/-- The story elements among nodes, each with its position. -/
def storyPlaces (storyName : Text) (n : Nat) (nodes : List Node) : List (Component × Nat) :=
  (nodes.zipIdx n).filterMap fun
    | (.component c, i) => if c.name = storyName then some (c, i) else none
    | _ => none

/-- The comment at `k` belongs to the element at `i`: it says something, and only blank text stands
between the two. -/
structure Describes (nodes : List Node) (k i : Nat) (note : Note) : Prop where
  before : k < i
  comment : ∃ data, nodes[k]? = some (.comment note.span data) ∧ data.dedent = note.text
  filled : note.text ≠ []
  between : ∀ j node, k < j → j < i → nodes[j]? = some node → node.isBlankText = true

section Scan

variable {before nodes : List Node} {pending : Option Note} {node : Node}

theorem noteBefore_blank (h : node.isBlankText = true) :
    noteBefore (before ++ [node]) = noteBefore before := by
  simp [noteBefore, h]

theorem noteBefore_solid (h : node.isBlankText = false) :
    noteBefore (before ++ [node]) = noteOf? node := by
  simp [noteBefore, h]

theorem waits_nil : Waits [] none := rfl

theorem waits_component (before : List Node) (c : Component) :
    Waits (before ++ [.component c]) none := by
  rw [Waits, noteBefore_solid rfl]
  rfl

/-- One step of the scan keeps the comment in hand that a look back finds. -/
theorem Waits.pendingAfter (h : Waits before pending) (hnode : ∀ c, node ≠ .component c) :
    Waits (before ++ [node]) (pendingAfter pending node) := by
  cases node with
  | comment span data =>
    rw [Waits, noteBefore_solid rfl]
    by_cases hdata : data.dedent = [] <;> simp [Story.pendingAfter, noteOf?, hdata]
  | text span data =>
    cases hdata : data.isAllBlank with
    | true =>
      rw [Waits, noteBefore_blank (by exact hdata), Story.pendingAfter, if_pos hdata]
      exact h
    | false =>
      rw [Waits, noteBefore_solid (by exact hdata), Story.pendingAfter, hdata]
      rfl
  | component c => exact absurd rfl (hnode c)
  | other =>
    rw [Waits, noteBefore_solid rfl]
    rfl

/-- A comment that says nothing is not read. -/
theorem readStory_filter (c : Component) (source : Text) (pending : Option Note) :
    readStory c source (pending.filter fun n => !n.text.isEmpty) = readStory c source pending := by
  simp only [readStory, Option.filter_filter, Bool.and_self]

end Scan

section Places

variable {storyName source : Text} {n : Nat} {before nodes : List Node} {taken : List Text}
  {pending : Option Note} {stories : List TemplateStory}

theorem storyPlaces_cons_story {c : Component} (h : c.name = storyName) :
    storyPlaces storyName n (.component c :: nodes) =
      (c, n) :: storyPlaces storyName (n + 1) nodes := by
  simp [storyPlaces, h]

theorem storyPlaces_cons_other {node : Node} (h : ∀ c, node = .component c → c.name ≠ storyName) :
    storyPlaces storyName n (node :: nodes) = storyPlaces storyName (n + 1) nodes := by
  cases node with
  | component c => simp [storyPlaces, h c rfl]
  | _ => rfl

theorem mem_storyPlaces {c : Component} {i : Nat} : (c, i) ∈ storyPlaces storyName 0 nodes ↔
    nodes[i]? = some (.component c) ∧ c.name = storyName := by
  simp only [storyPlaces, List.mem_filterMap, Prod.exists, List.mem_zipIdx_iff_getElem?]
  constructor
  · rintro ⟨node, j, hj, hplace⟩
    cases node with
    | component d =>
      by_cases hname : d.name = storyName
      · simp only [hname, if_true, Option.some.injEq, Prod.mk.injEq] at hplace
        obtain ⟨rfl, rfl⟩ := hplace
        exact ⟨hj, hname⟩
      · simp [hname] at hplace
    | _ => cases hplace
  · rintro ⟨hi, hname⟩
    exact ⟨_, i, hi, by simp [hname]⟩

theorem storyPlaces_sorted :
    ((storyPlaces storyName n nodes).map (·.2)).Pairwise (· < ·) := by
  have hplaces : ((storyPlaces storyName n nodes).map (·.2)).Sublist
      (List.range' n nodes.length) := by
    induction nodes generalizing n with
    | nil => exact .slnil
    | cons node nodes ih =>
      by_cases h : ∃ c, node = .component c ∧ c.name = storyName
      · obtain ⟨c, rfl, hname⟩ := h
        rw [storyPlaces_cons_story hname]
        exact ih.cons_cons n
      · rw [storyPlaces_cons_other fun c hc hname => h ⟨c, hc, hname⟩]
        exact ih.cons n
  exact List.Pairwise.sublist hplaces List.pairwise_lt_range'

/-- What is read at one place. -/
def ReadsAt (source : Text) (nodes : List Node) (place : Component × Nat) (story : TemplateStory) :
    Prop :=
  readStory place.1 source (noteBefore (nodes.take place.2)) = .ok story

theorem readStories_story {c : Component} (hname : c.name = storyName) :
    readStories storyName source pending taken (.component c :: nodes) = .ok stories ↔
      ∃ story rest, stories = story :: rest ∧ readStory c source pending = .ok story ∧
        story.exportName ∉ taken ∧
        readStories storyName source none (story.exportName :: taken) nodes = .ok rest := by
  simp only [readStories, hname, if_true]
  constructor
  · intro h
    obtain ⟨story, hstory, h⟩ := bind_eq_ok h
    split at h
    · cases h
    · rename_i hfree
      obtain ⟨rest, hrest, h⟩ := bind_eq_ok h
      cases h
      exact ⟨story, rest, rfl, hstory, by simpa using hfree, hrest⟩
  · rintro ⟨story, rest, rfl, hstory, hfree, hrest⟩
    have hfree : ¬taken.contains story.exportName = true := by simpa using hfree
    rw [hstory]
    refine (if_neg hfree).trans ?_
    rw [hrest]
    rfl

/-- A node that is no story leaves the comment in hand that a look back finds. -/
theorem exists_pending_of_other {node : Node} (h : Waits before pending)
    (hother : ∀ c, node = .component c → c.name ≠ storyName) :
    ∃ pending', Waits (before ++ [node]) pending' ∧
      readStories storyName source pending taken (node :: nodes) =
        readStories storyName source pending' taken nodes := by
  cases node with
  | component c =>
    refine ⟨none, waits_component before c, ?_⟩
    rw [readStories, if_neg (hother c rfl)]
  | comment span data => exact ⟨_, h.pendingAfter (fun c => by simp), rfl⟩
  | text span data => exact ⟨_, h.pendingAfter (fun c => by simp), rfl⟩
  | other => exact ⟨_, h.pendingAfter (fun c => by simp), rfl⟩

/-- The scan succeeds exactly if every story can be read by itself and no name comes twice. -/
theorem readStories_eq_ok_iff (h : Waits before pending) :
    readStories storyName source pending taken nodes = .ok stories ↔
      List.Forall₂ (ReadsAt source (before ++ nodes))
          (storyPlaces storyName before.length nodes) stories ∧
        (stories.map (·.exportName)).Nodup ∧ ∀ s ∈ stories, s.exportName ∉ taken := by
  induction nodes generalizing before pending taken stories with
  | nil =>
    constructor
    · rintro ⟨⟩
      exact ⟨.nil, .nil, fun s hs => absurd hs List.not_mem_nil⟩
    · rintro ⟨⟨⟩, -⟩
      rfl
  | cons node nodes ih =>
    by_cases hstory : ∃ c, node = .component c ∧ c.name = storyName
    · obtain ⟨c, rfl, hname⟩ := hstory
      have hplace : ∀ story, ReadsAt source (before ++ .component c :: nodes) (c, before.length)
          story ↔ readStory c source pending = .ok story := by
        intro story
        rw [ReadsAt, List.take_left, ← h, readStory_filter]
      have hrest : ∀ taken rest, readStories storyName source none taken nodes = .ok rest ↔ _ :=
        fun taken rest => ih (waits_component before c)
      simp only [List.length_append, List.length_singleton, ← List.append_cons] at hrest
      rw [readStories_story hname, storyPlaces_cons_story hname]
      constructor
      · rintro ⟨story, rest, rfl, hread, hfree, hscan⟩
        obtain ⟨hall, hnodup, hnew⟩ := (hrest _ _).mp hscan
        refine ⟨.cons ((hplace story).mpr hread) hall, List.nodup_cons.mpr ⟨fun hmem => ?_, hnodup⟩,
          List.forall_mem_cons.mpr ⟨hfree, fun s hs hmem => ?_⟩⟩
        · obtain ⟨s, hs, hname⟩ := List.mem_map.mp hmem
          exact hnew s hs (hname ▸ List.mem_cons_self)
        · exact hnew s hs (List.mem_cons_of_mem _ hmem)
      · rintro ⟨hall, hnodup, hnew⟩
        cases hall with
        | cons hread hall =>
          rename_i story rest
          obtain ⟨hfirst, hnodup⟩ := List.nodup_cons.mp hnodup
          obtain ⟨hfree, hnew⟩ := List.forall_mem_cons.mp hnew
          refine ⟨story, rest, rfl, (hplace story).mp hread, hfree,
            (hrest _ _).mpr ⟨hall, hnodup, fun s hs hmem => ?_⟩⟩
          rcases List.mem_cons.mp hmem with heq | hmem
          · exact hfirst (List.mem_map.mpr ⟨s, hs, heq⟩)
          · exact hnew s hs hmem
    · have hother : ∀ c, node = .component c → c.name ≠ storyName :=
        fun c hc hname => hstory ⟨c, hc, hname⟩
      obtain ⟨pending', hwaits, hskip⟩ := exists_pending_of_other h hother
      rw [hskip, ih hwaits, storyPlaces_cons_other hother, ← List.append_cons, List.length_append,
        List.length_singleton]

end Places

section LookBack

variable {nodes : List Node} {node : Node} {i k : Nat} {note : Note}

theorem noteOf?_eq_some : noteOf? node = some note ↔
    (∃ data, node = .comment note.span data ∧ data.dedent = note.text) ∧ note.text ≠ [] := by
  cases node with
  | comment span data =>
    obtain ⟨text, span'⟩ := note
    by_cases hdata : data.dedent = []
    · simp only [noteOf?, hdata, if_true, reduceCtorEq, false_iff]
      rintro ⟨⟨data', hcomment, hsame⟩, hfilled⟩
      cases hcomment
      exact hfilled (hsame.symm.trans hdata)
    · simp only [noteOf?, hdata, if_false, Option.some.injEq, Note.mk.injEq]
      constructor
      · rintro ⟨rfl, rfl⟩
        exact ⟨⟨data, rfl, rfl⟩, hdata⟩
      · rintro ⟨⟨data', hcomment, hsame⟩, -⟩
        cases hcomment
        exact ⟨hsame, rfl⟩
  | _ => simp [noteOf?]

theorem describes_succ (hnode : nodes[i]? = some node) :
    (∃ k, Describes nodes k (i + 1) note) ↔
      if node.isBlankText = true then ∃ k, Describes nodes k i note
      else noteOf? node = some note := by
  split
  · rename_i hblank
    constructor
    · rintro ⟨k, h⟩
      obtain ⟨data, hk, -⟩ := h.comment
      have hne : k ≠ i := by
        rintro rfl
        cases hnode.symm.trans hk
        cases hblank
      exact ⟨k, Nat.lt_of_le_of_ne (Nat.le_of_lt_succ h.before) hne, h.comment, h.filled,
        fun j n hkj hji => h.between j n hkj (Nat.lt_succ_of_lt hji)⟩
    · rintro ⟨k, h⟩
      refine ⟨k, Nat.lt_succ_of_lt h.before, h.comment, h.filled, fun j n hkj hji hj => ?_⟩
      rcases Nat.lt_succ_iff_lt_or_eq.mp hji with hji | rfl
      · exact h.between j n hkj hji hj
      · obtain rfl : node = n := Option.some.inj (hnode.symm.trans hj)
        exact hblank
  · rename_i hsolid
    rw [noteOf?_eq_some]
    constructor
    · rintro ⟨k, h⟩
      obtain rfl : k = i := by
        by_contra hne
        have hlt : k < i := Nat.lt_of_le_of_ne (Nat.le_of_lt_succ h.before) hne
        exact hsolid (h.between i node hlt (Nat.lt_succ_self i) hnode)
      obtain ⟨data, hk, hsame⟩ := h.comment
      exact ⟨⟨data, Option.some.inj (hnode.symm.trans hk), hsame⟩, h.filled⟩
    · rintro ⟨⟨data, rfl, hsame⟩, hfilled⟩
      exact ⟨i, Nat.lt_succ_self i, ⟨data, hnode, hsame⟩, hfilled, fun j n hij hji => by omega⟩

/-- Looking back finds the comment that belongs to a place. -/
theorem noteBefore_eq_some_iff (hi : i ≤ nodes.length) :
    noteBefore (nodes.take i) = some note ↔ ∃ k, Describes nodes k i note := by
  induction i with
  | zero =>
    refine ⟨fun h => ?_, fun ⟨k, h⟩ => absurd h.before (Nat.not_lt_zero k)⟩
    rw [List.take_zero] at h
    cases h
  | succ i ih =>
    rw [List.take_succ_eq_append_getElem hi, describes_succ (List.getElem?_eq_getElem hi)]
    split
    · rename_i hblank
      rw [noteBefore_blank hblank, ih (Nat.le_of_lt hi)]
    · rename_i hsolid
      rw [noteBefore_solid (Bool.eq_false_iff.mpr hsolid)]

/-- An element stands between the comment of a later one and all that is before it. -/
theorem Describes.after_component {c : Component} {j : Nat} (h : Describes nodes k i note)
    (hj : nodes[j]? = some (.component c)) (hji : j < i) : j < k := by
  rcases Nat.lt_trichotomy j k with hlt | rfl | hlt
  · exact hlt
  · obtain ⟨data, hcomment, -⟩ := h.comment
    cases hj.symm.trans hcomment
  · cases h.between j _ hlt hji hj

theorem noteBefore_filter (before : List Node) :
    ((noteBefore before).filter fun n => !n.text.isEmpty) = noteBefore before := by
  cases hnote : noteBefore before with
  | none => rfl
  | some note =>
    obtain ⟨node, -, hnode⟩ := Option.bind_eq_some_iff.mp hnote
    simp [(noteOf?_eq_some.mp hnode).2]

theorem parts_of_readStory {c : Component} {source : Text} {comment : Option Note}
    {story : TemplateStory} (h : readStory c source comment = .ok story) :
    story.span = c.span ∧ story.comment = comment.filter fun n => !n.text.isEmpty := by
  obtain ⟨name, -, h⟩ := bind_eq_ok h
  obtain ⟨exportName, -, h⟩ := bind_eq_ok h
  split at h
  · cases h
  · obtain ⟨code, -, h⟩ := bind_eq_ok h
    cases h
    exact ⟨rfl, rfl⟩

end LookBack

/-- The story that is read off the element at a place. Its comment is the one found by looking back,
and that is the one that belongs to the element. -/
structure StoryAt (source : Text) (nodes : List Node) (place : Component × Nat)
    (story : TemplateStory) : Prop where
  read : readStory place.1 source story.comment = .ok story
  span : story.span = place.1.span
  comment : story.comment = noteBefore (nodes.take place.2)
  comment_iff : ∀ note, story.comment = some note ↔ ∃ k, Describes nodes k place.2 note

theorem storyAt_of_readsAt {source : Text} {nodes : List Node} {place : Component × Nat}
    {story : TemplateStory} (hplace : place.2 ≤ nodes.length)
    (h : ReadsAt source nodes place story) : StoryAt source nodes place story := by
  obtain ⟨hspan, hcomment⟩ := parts_of_readStory h
  rw [noteBefore_filter] at hcomment
  refine ⟨hcomment ▸ h, hspan, hcomment, fun note => ?_⟩
  rw [hcomment, noteBefore_eq_some_iff hplace]

/-- The stories of a template are its elements with the name of stories, in their order. Each has
the comment right before its element, if there is one and it says something. The comment of a later
story stands behind every earlier one, so no comment belongs to two stories. -/
theorem readStories_exact (storyName source : Text) (nodes : List Node)
    (stories : List TemplateStory)
    (h : readStories storyName source none [] nodes = .ok stories) :
    List.Forall₂ (StoryAt source nodes) (storyPlaces storyName 0 nodes) stories ∧
      (∀ c i, (c, i) ∈ storyPlaces storyName 0 nodes ↔
        nodes[i]? = some (.component c) ∧ c.name = storyName) ∧
      ((storyPlaces storyName 0 nodes).map (·.2)).Pairwise (· < ·) ∧
      ∀ c i c' i' k note, (c, i) ∈ storyPlaces storyName 0 nodes →
        (c', i') ∈ storyPlaces storyName 0 nodes → i < i' → Describes nodes k i' note → i < k := by
  obtain ⟨hall, -, -⟩ := (readStories_eq_ok_iff waits_nil).mp h
  refine ⟨?_, fun c i => mem_storyPlaces, storyPlaces_sorted, ?_⟩
  · have hinside : ∀ place ∈ storyPlaces storyName 0 nodes, place.2 ≤ nodes.length := by
      intro place hplace
      have hnode := (mem_storyPlaces.mp hplace).1
      exact Nat.le_of_lt (List.getElem?_eq_some_iff.mp hnode).1
    refine ((List.forall₂_and_left _ _).mpr ⟨hinside, hall⟩).imp fun place story hread => ?_
    exact storyAt_of_readsAt hread.1 hread.2
  · intro c i c' i' k note hc _ hlt hdescribes
    exact hdescribes.after_component (mem_storyPlaces.mp hc).1 hlt

/-- An element `<Story name=…/>`. -/
def namedElement (name : Text) (span : Span) : Node :=
  .component ⟨span, Api.story.text,
    [.plain ⟨span, "name".toList, .single (.text span name)⟩], none⟩

/-- A comment and a story, a comment that other markup cuts off, and two stories in a row. -/
def commentedNodes : List Node :=
  [.comment ⟨0, 8⟩ ['a'], .text ⟨8, 9⟩ ['\n'], namedElement ['A'] ⟨9, 19⟩, .comment ⟨19, 27⟩ ['b'],
    .other, namedElement ['B'] ⟨30, 40⟩, namedElement ['C'] ⟨40, 50⟩]

theorem readStories_commentedNodes :
    ∃ stories, readStories Api.story.text [] none [] commentedNodes = .ok stories ∧
      stories.map (·.comment) = [some ⟨['a'], ⟨0, 8⟩⟩, none, none] := by
  obtain ⟨stories, hstories⟩ : ∃ stories,
      readStories Api.story.text [] none [] commentedNodes = .ok stories :=
    exists_of_isOk (by decide +kernel)
  obtain ⟨hall, -⟩ := readStories_exact Api.story.text [] commentedNodes stories hstories
  have hnotes : (storyPlaces Api.story.text 0 commentedNodes).map
      (fun place => noteBefore (commentedNodes.take place.2)) =
        [some ⟨['a'], ⟨0, 8⟩⟩, none, none] := by
    decide +kernel
  have hsame : List.Forall₂ (· = ·) (stories.map (·.comment))
      ((storyPlaces Api.story.text 0 commentedNodes).map
        fun place => noteBefore (commentedNodes.take place.2)) := by
    rw [List.forall₂_map_left_iff, List.forall₂_map_right_iff]
    exact hall.flip.imp fun _ _ h => h.comment
  rw [List.forall₂_eq_eq_eq] at hsame
  exact ⟨stories, hstories, hsame.trans hnotes⟩

end Story

end StoryExports
