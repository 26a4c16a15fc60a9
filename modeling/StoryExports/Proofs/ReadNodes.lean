import StoryExports.Proofs.NodePlaces

/-!
# Parsers that read nodes

`Reads` states as a triple what a parser reads: from where to where the cursor goes, and which nodes
stand in between. `Completes` is for a parser that is handed the start of a construct and nodes of
it. The rules below are for the parsers that the rules of the grammar are made of; a loop is known
by its step.
-/
namespace StoryExports.Script

open Std.Do

set_option mvcgen.warning false

namespace Parse

variable {α β : Type} {a b c c₀ : Cursor} {taken taken' : Bool} {start : Nat} {n : Node}
  {ns ms ms' : List Node}

attribute [grind →] Reading.trans

grind_pattern Reading.refl => Reading a a false []

theorem reading_name {id : Text} (h : Reading a b true []) :
    Reading a b true [.name ⟨floor a, b.lastEnd⟩ id] := h.node rfl rfl rfl

theorem reading_string {value : Text} (h : Reading a b true []) :
    Reading a b true [.string ⟨floor a, b.lastEnd⟩ value] := h.node rfl rfl rfl

theorem reading_member {form : MemberForm} {key : Option Text} (h : Reading a b true ns) :
    Reading a b true [.member ⟨floor a, b.lastEnd⟩ form key ns] := h.node rfl rfl rfl

theorem reading_call {callee : Node} (h : Reading a b true (callee :: ns)) :
    Reading a b true [.call ⟨floor a, b.lastEnd⟩ callee ns] := h.node rfl rfl rfl

theorem reading_function {id : Option Text} {body : Option (List Node)}
    (h : Reading a b true (ns ++ body.getD [])) :
    Reading a b true [.function ⟨floor a, b.lastEnd⟩ id ns body] := h.node rfl rfl rfl

theorem reading_classDef {id : Option Text} {parent : Option Node}
    (h : Reading a b true (parent.toList ++ ns)) :
    Reading a b true [.classDef ⟨floor a, b.lastEnd⟩ id parent ns] := h.node rfl rfl rfl

theorem reading_other {form : Form} (h : Reading a b true ns) :
    Reading a b true [.other ⟨floor a, b.lastEnd⟩ form ns] := h.node rfl rfl rfl

grind_pattern reading_name => Reading a b true [], Node.name ⟨floor a, b.lastEnd⟩ id
grind_pattern reading_string => Reading a b true [], Node.string ⟨floor a, b.lastEnd⟩ value
grind_pattern reading_member => Reading a b true ns, Node.member ⟨floor a, b.lastEnd⟩ form key ns
grind_pattern reading_call =>
  Reading a b true (callee :: ns), Node.call ⟨floor a, b.lastEnd⟩ callee ns
grind_pattern reading_function => Node.function ⟨floor a, b.lastEnd⟩ id ns body
grind_pattern reading_classDef => Node.classDef ⟨floor a, b.lastEnd⟩ id parent ns
grind_pattern reading_other => Reading a b true ns, Node.other ⟨floor a, b.lastEnd⟩ form ns

/-- What a rule has to read. It is told apart from what the parts of the rule read. -/
def Found (a b : Cursor) (taken : Bool) (nodes : List Node) : Prop := Reading a b taken nodes

@[grind ←]
theorem Reading.found (h : Reading a b taken ns) : Found a b taken ns := h

@[grind →]
theorem Reading.found_some (h : Reading a b taken ns) : Found a b false ns := by
  cases taken
  · exact h
  · exact h.weaken

@[grind ←]
theorem Reading.found_node (h : Reading a b false (n :: ns)) : Found a b true (n :: ns) := h.proper

/-- A parser that reads nodes. -/
abbrev Reads (c₀ : Cursor) (p : Parse α) (taken : α → Bool) (nodes : α → List Node) : Prop :=
  ⦃fun c => ⌜c = c₀⌝⦄ p ⦃⇓? r c => ⌜Reading c₀ c (taken r) (nodes r)⌝⦄

abbrev ReadsNode (c₀ : Cursor) (p : Parse Node) : Prop := Reads c₀ p (fun _ => true) fun n => [n]

theorem reads_of {p : Parse α} {taken : α → Bool} {nodes : α → List Node}
    (h : ⦃fun c => ⌜c = c₀⌝⦄ p ⦃⇓? r c => ⌜Found c₀ c (taken r) (nodes r)⌝⦄) :
    Reads c₀ p taken nodes := h

/-- What has been read since `start` becomes one node. -/
def Ends (start : Nat) (c₀ c : Cursor) (before after : List Node) : Prop :=
  ∀ a taken, Reading a c₀ taken before → floor a = start → Reading a c (!after.isEmpty) after

@[grind →]
theorem Ends.reading (h : Ends start c₀ c ns ms) (ha : Reading a c₀ taken ns)
    (hstart : floor a = start) : Reading a c (!ms.isEmpty) ms := h a taken ha hstart

@[grind →]
theorem Ends.reading_start (h : Ends (floor c₀) c₀ c [] ms) : Reading c₀ c (!ms.isEmpty) ms :=
  h c₀ false (.refl c₀) rfl

theorem Ends.nothing (h : Ends start c₀ c ns ms) : Ends start c₀ c ns [] :=
  fun a taken ha hstart => (h a taken ha hstart).left.found_some

/-- A parser of the rest of a construct, of which some nodes have been read before. -/
abbrev Completes (c₀ : Cursor) (start : Nat) (before : List Node) (p : Parse α)
    (after : α → List Node) : Prop :=
  ⦃fun c => ⌜c = c₀⌝⦄ p ⦃⇓? r c => ⌜Ends start c₀ c before (after r)⌝⦄

theorem completes_of {p : Parse α} {after : α → List Node}
    (h : ∀ a taken, Reading a c₀ (taken || !ns.isEmpty) ns → floor a = start →
      ⦃fun c => ⌜c = c₀⌝⦄ p ⦃⇓? r c => ⌜Found a c (!(after r).isEmpty) (after r)⌝⦄) :
    Completes c₀ start ns p after := by
  refine triple_iff.mpr fun c r c' hc hrun a taken ha hstart => ?_
  have ha' : Reading a c₀ (taken || !ns.isEmpty) ns := by
    cases ns with
    | nil => simpa using ha
    | cons n ns => simpa using ha.proper
  exact triple_iff.mp (h a taken ha' hstart) c r c' hc hrun

theorem advance_reads : Reads c₀ advance (fun _ => true) fun _ => [] := by
  refine triple_iff.mpr fun c t c' hc hrun => ?_
  subst hc
  unfold advance at hrun
  split at hrun
  · rename_i u ts htokens
    have hfront : front c = u := by simp [front, htokens]
    split at hrun
    · cases hrun
    · cases hrun
    · rename_i heof hinvalid
      cases hrun
      have hnext : next c = ⟨ts, t.span.stop⟩ := by simp [next, hfront, htokens]
      exact hnext ▸ Reading.next (hfront ▸ heof) (hfront ▸ hinvalid)
  · cases hrun

@[spec high]
theorem startPos_spec {Q : PostCond Nat (.arg Cursor (.except PUnit .pure))} :
    ⦃fun c => Q.1 (floor c) c⦄ startPos ⦃Q⦄ := by
  unfold startPos
  mvcgen

attribute [spec high] advance_reads

@[spec high]
theorem tok_reads (t : Tok) : Reads c₀ (tok t) (fun _ => true) fun _ => [] := by
  refine reads_of ?_
  unfold tok
  mvcgen [takeIf]
  all_goals grind -ring -linarith

@[spec high]
theorem eatTok_reads (t : Tok) : ⦃fun c => ⌜c = c₀⌝⦄ eatTok t
    ⦃⇓? r c => ⌜Reading c₀ c r [] ∧ (r = false → c = c₀)⌝⦄ := by
  unfold eatTok
  mvcgen
  all_goals grind -ring -linarith

@[spec high]
theorem name_reads : Reads c₀ name (fun _ => true) fun _ => [] := by
  refine reads_of ?_
  unfold name
  mvcgen
  all_goals grind -ring -linarith

@[spec high]
theorem anyWord_reads : Reads c₀ anyWord (fun _ => true) fun _ => [] := by
  refine reads_of ?_
  unfold anyWord
  mvcgen
  all_goals grind -ring -linarith

@[spec high]
theorem eatSemicolon_reads : Reads c₀ eatSemicolon (fun _ => false) fun _ => [] := by
  refine reads_of ?_
  unfold eatSemicolon
  mvcgen
  all_goals grind -ring -linarith

@[spec high]
theorem semicolon_reads : Reads c₀ semicolon (fun _ => false) fun _ => [] := by
  refine reads_of ?_
  unfold semicolon
  mvcgen
  all_goals grind -ring -linarith

theorem attempt_eq_some {p : Parse α} {r : Option α} (h : attempt p c₀ = some (r, c)) :
    (∃ x, r = some x ∧ p c₀ = some (x, c)) ∨ (r = none ∧ c = c₀) := by
  unfold attempt at h
  split at h
  · cases h
    exact .inl ⟨_, rfl, ‹_›⟩
  · cases h
    exact .inr ⟨rfl, rfl⟩

/-- The nodes of an attempt are dropped. -/
theorem attempt_skips {p : Parse α} {taken : α → Bool} {nodes : α → List Node}
    (h : Reads c₀ p taken nodes) : Reads c₀ (attempt p) (fun _ => false) fun _ => [] := by
  refine triple_iff.mpr fun c r c' hc hrun => ?_
  rcases attempt_eq_some hrun with ⟨x, -, hx⟩ | ⟨-, rfl⟩
  · exact Reading.found_some (Reading.left (triple_iff.mp h c x c' hc hx))
  · exact hc ▸ Reading.refl c'

theorem attempt_completes {p : Parse α} {after : α → List Node}
    (h : Completes c₀ start [] p after) :
    Completes c₀ start [] (attempt p) fun r => r.elim [] after := by
  refine completes_of fun a taken ha hstart => triple_iff.mpr fun c r c' hc hrun => ?_
  rcases attempt_eq_some hrun with ⟨x, rfl, hx⟩ | ⟨rfl, rfl⟩
  · exact triple_iff.mp h c x c' hc hx a _ ha hstart
  · exact Reading.found_some (hc ▸ ha)

/-- A step of a loop that collects nodes, the last one first. -/
def Grows (c₀ c : Cursor) (before after : List Node) : Prop :=
  ∃ nodes, Reading c₀ c false nodes ∧ after.reverse = before.reverse ++ nodes

@[grind ←]
theorem grows_of_same (h : Found c₀ c false []) : Grows c₀ c ns ns := ⟨[], h, by simp⟩

@[grind ←]
theorem grows_of_one (h : Found c₀ c false [n]) : Grows c₀ c ns (n :: ns) :=
  ⟨[n], h, by simp⟩

theorem Grows.reading (h : Grows c₀ c ms ns) : ∃ nodes, ns.reverse = ms.reverse ++ nodes ∧
    Reading c₀ c false nodes := by
  obtain ⟨nodes, hnodes, hreverse⟩ := h
  exact ⟨nodes, hreverse, hnodes⟩

grind_pattern Grows.reading => Grows c₀ c ms ns

/-- A loop that collects items, each with its node. -/
theorem repeating_collects {node : α → Node} {step : List α → Parse (List α ⊕ List α)}
    (h : ∀ xs c₀, ⦃fun c => ⌜c = c₀⌝⦄ step xs
      ⦃⇓? r c => ⌜Grows c₀ c (xs.map node) ((r.elim id id).map node)⌝⦄) (xs : List α) :
    ⦃fun c => ⌜c = c₀⌝⦄ repeating step xs
      ⦃⇓? ys c => ⌜Grows c₀ c (xs.map node) (ys.map node)⌝⦄ := by
  have hsteps : ⦃fun c => ⌜Grows c₀ c (xs.map node) (xs.map node)⌝⦄ repeating step xs
      ⦃⇓? ys c => ⌜Grows c₀ c (xs.map node) (ys.map node)⌝⦄ := by
    refine keeps_of_steps (I := fun ys c => Grows c₀ c (xs.map node) (ys.map node))
      (fun ys => ?_) xs
    refine triple_iff.mpr fun c r c' hc hrun => ?_
    obtain ⟨before, hreading, hbefore⟩ := hc
    obtain ⟨nodes, hnodes, hafter⟩ := triple_iff.mp (h ys c) c r c' rfl hrun
    have hgrows : Grows c₀ c' (xs.map node) ((r.elim id id).map node) :=
      ⟨before ++ nodes, Reading.trans hreading hnodes, by simpa [hbefore] using hafter⟩
    cases r <;> exact hgrows
  exact triple_iff.mpr fun c ys c' hc hrun =>
    triple_iff.mp hsteps c ys c' (grows_of_same (hc ▸ Reading.refl c)) hrun

@[spec high]
theorem repeating_grows {step : List Node → Parse (List Node ⊕ List Node)}
    (h : ∀ ns c₀, ⦃fun c => ⌜c = c₀⌝⦄ step ns ⦃⇓? r c => ⌜Grows c₀ c ns (r.elim id id)⌝⦄)
    (ms : List Node) :
    ⦃fun c => ⌜c = c₀⌝⦄ repeating step ms ⦃⇓? ns c => ⌜Grows c₀ c ms ns⌝⦄ := by
  simpa using @repeating_collects Node c₀ id step (by simpa using h) ms

/-- A loop that reads no nodes. -/
theorem repeating_passes {step : α → Parse (α ⊕ β)}
    (h : ∀ a c₀, ⦃fun c => ⌜c = c₀⌝⦄ step a ⦃⇓? _ c => ⌜Found c₀ c false []⌝⦄) (a : α) :
    Reads c₀ (repeating step a) (fun _ => false) fun _ => [] := by
  have hsteps : ⦃fun c => ⌜Reading c₀ c false []⌝⦄ repeating step a
      ⦃⇓? _ c => ⌜Reading c₀ c false []⌝⦄ := by
    refine keeps_of_steps (I := fun _ c => Reading c₀ c false []) (fun a => ?_) a
    refine triple_iff.mpr fun c r c' hc hrun => ?_
    have hnext := Reading.trans hc (triple_iff.mp (h a c) c r c' rfl hrun)
    cases r <;> exact hnext
  exact triple_iff.mpr fun c b c' hc hrun =>
    triple_iff.mp hsteps c b c' (hc ▸ Reading.refl c) hrun

@[spec high]
theorem repeating_skips {step : Unit → Parse (Unit ⊕ Unit)}
    (h : ∀ c₀, ⦃fun c => ⌜c = c₀⌝⦄ step () ⦃⇓? _ c => ⌜Found c₀ c false []⌝⦄) :
    Reads c₀ (repeating step ()) (fun _ => false) fun _ => [] :=
  repeating_passes (fun _ => h) ()

/-- A loop that goes on with one node. -/
theorem repeating_completes {step : α → Parse (α ⊕ Node)} {node : α → Node}
    (h : ∀ r c₀, Completes c₀ start [node r] (step r) fun r => [r.elim node id]) (r : α) :
    Completes c₀ start [node r] (repeating step r) fun n => [n] := by
  refine completes_of fun a taken ha hstart => ?_
  have hsteps : ⦃fun c => ⌜Reading a c true [node r]⌝⦄ repeating step r
      ⦃⇓? n c => ⌜Reading a c true [n]⌝⦄ := by
    refine keeps_of_steps (I := fun r c => Reading a c true [node r]) (fun r => ?_) r
    refine triple_iff.mpr fun c r' c' hc hrun => ?_
    have hends := triple_iff.mp (h r c) c r' c' rfl hrun a true hc hstart
    cases r' <;> exact hends
  exact triple_iff.mpr fun c n c' hc hrun =>
    triple_iff.mp hsteps c n c' (hc ▸ ha.proper) hrun

theorem repeating_node (start : Nat) {step : Node → Parse (Node ⊕ Node)}
    (h : ∀ n c₀ a, Reading a c₀ true [n] → floor a = start →
      ⦃fun c => ⌜c = c₀⌝⦄ step n ⦃⇓? r c => ⌜Found a c true [r.elim id id]⌝⦄) (n : Node) :
    Completes c₀ start [n] (repeating step n) fun n => [n] :=
  repeating_completes (fun n c₀ => completes_of fun a _ ha hstart => h n c₀ a ha.proper hstart) n

@[spec high]
theorem itemsTo_reads {close : Punct} {item : Parse Node} (h : ∀ c₀, ReadsNode c₀ item) :
    Reads c₀ (itemsTo close item) (fun _ => false) id := by
  refine reads_of ?_
  unfold itemsTo
  mvcgen [h]
  all_goals grind -ring -linarith

@[spec high]
theorem commaSeparated_reads {item : Parse Node} (h : ∀ c₀, ReadsNode c₀ item) :
    Reads c₀ (commaSeparated item) (fun _ => true) id := by
  refine reads_of ?_
  unfold commaSeparated
  mvcgen [h]
  all_goals grind -ring -linarith

@[spec high]
theorem commaList_reads {close : Punct} {item : Parse Node} (h : ∀ c₀, ReadsNode c₀ item) :
    Reads c₀ (commaList close item) (fun _ => false) id := by
  refine reads_of ?_
  unfold commaList
  mvcgen [h]
  all_goals grind -ring -linarith

theorem commaList_passes {close : Punct} {item : Parse α}
    (h : ∀ c₀, Reads c₀ item (fun _ => true) fun _ => []) :
    Reads c₀ (commaList close item) (fun _ => false) fun _ => [] := by
  refine reads_of ?_
  unfold commaList
  mvcgen [h, repeating_passes, -repeating_keeps]
  all_goals grind -ring -linarith

theorem eatTok_next (t : Tok) : ⦃fun c => ⌜c = c₀⌝⦄ eatTok t
    ⦃⇓? r c => ⌜if r then (front c₀).tok = t ∧ c = next c₀ else c = c₀⌝⦄ := by
  unfold eatTok
  mvcgen [-advance_reads]
  all_goals simp_all

/-- The items stand before the closing punctuator. -/
theorem commaList_closes {close : Punct} {item : Parse Node} (h : ∀ c₀, ReadsNode c₀ item) :
    ⦃fun c => ⌜c = c₀⌝⦄ commaList close item
      ⦃⇓? ns c => ⌜∃ b, Reading c₀ b false ns ∧ (front b).tok = .punct close ∧ c = next b⌝⦄ := by
  have hloop : ∀ step : List Node → Parse (List Node ⊕ List Node),
      (∀ ns c₁, ⦃fun c => ⌜c = c₁⌝⦄ step ns ⦃⇓? r c => ⌜r.elim (Grows c₁ c ns)
        fun ms => ms = ns ∧ (front c₁).tok = .punct close ∧ c = next c₁⌝⦄) →
      ⦃fun c => ⌜c = c₀⌝⦄ repeating step [] ⦃⇓? ns c => ⌜∃ b, Reading c₀ b false ns.reverse ∧
        (front b).tok = .punct close ∧ c = next b⌝⦄ := by
    intro step hstep
    have hsteps : ⦃fun c => ⌜Reading c₀ c false [].reverse⌝⦄ repeating step []
        ⦃⇓? ns c => ⌜∃ b, Reading c₀ b false ns.reverse ∧ (front b).tok = .punct close ∧
          c = next b⌝⦄ := by
      refine keeps_of_steps (I := fun ns c => Reading c₀ c false ns.reverse) (fun ns => ?_) []
      refine triple_iff.mpr fun c r c' hc hrun => ?_
      have hr := triple_iff.mp (hstep ns c) c r c' rfl hrun
      cases r with
      | inl ms =>
        obtain ⟨nodes, hnodes, hms⟩ := hr
        show Reading c₀ c' false ms.reverse
        exact hms ▸ Reading.trans hc hnodes
      | inr ms =>
        obtain ⟨rfl, hclose, hnext⟩ := hr
        exact ⟨c, hc, hclose, hnext⟩
    exact triple_iff.mpr fun c ns c' hc hrun =>
      triple_iff.mp hsteps c ns c' (hc ▸ Reading.refl c) hrun
  unfold commaList
  mvcgen [hloop, eatTok_next, h, -eatTok_reads, -eatTok_keeps, -repeating_grows, -repeating_keeps]
  all_goals grind -ring -linarith

/-- A node in braces. -/
theorem reading_braces (hopen : (front a).tok = .punct .lbrace)
    (h : Reading (next a) b false n.parts) (hclose : (front b).tok = .punct .rbrace)
    (hspan : n.span = ⟨floor a, (next b).lastEnd⟩)
    (hroom : n.room = ⟨n.span.start + 1, n.span.stop - 1⟩) : Reading a (next b) true [n] := by
  intro B ha
  have hopens := (front_sound ha).1
  have hab := h B (next_sound ha)
  have hcloses := (front_sound hab.sound).1
  have hstart : (next a).lastEnd = floor a + 1 := hopens.brace (.inl hopen)
  have hstop : (next b).lastEnd = floor b + 1 := hcloses.brace (.inr hclose)
  have hbehind := (front_sound (next_sound ha)).2
  have hfloor := (front_sound hab.sound).2
  have hlast := hab.last_le
  have hnext := (front_sound (next_sound hab.sound)).2
  have hstarts : n.room.start = floor a + 1 := by rw [hroom, hspan]
  have hstops : n.room.stop = floor b := by rw [hroom, hspan, hstop, Nat.add_sub_cancel]
  have hrow : Node.Row B n.room.start n.room.stop n.parts := by
    rw [hstarts, hstops]
    exact ⟨hab.row.placed, fun m hm => by have := hab.row.inside m hm; omega, hab.row.ordered⟩
  have hproper : floor a < (next b).lastEnd := by omega
  have hplaced : n.Placed B := hrow.placed_node (hspan ▸ hopens.start)
    (hspan ▸ (next_sound hab.sound).last) (hstops ▸ hcloses.start) (hspan ▸ hproper) (by omega)
  refine ⟨next_sound hab.sound, ?_, ?_, fun _ => by omega, .singleton hplaced ?_ ?_⟩
  · have := (front_sound ha).2
    omega
  · omega
  · rw [hspan]
  · rw [hspan]

end Parse

end StoryExports.Script
