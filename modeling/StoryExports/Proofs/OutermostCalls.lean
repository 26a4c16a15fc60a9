import Mathlib.Data.List.Forall2
import StoryExports.Proofs.Layout
import StoryExports.Proofs.Passes
import StoryExports.Proofs.TokenPlaces
import StoryExports.Story.Calls

/-!
# The outermost calls

The calls of the story component that stand in no other such call. They are found by a walk over the
tree, which goes through the parts of most nodes in the order of the text. It goes through the test
of a loop before the body that is written first, and through the members of a class before the class
that it extends. So all outermost calls are found, each once, but they are in the order of the text
only if no loop and no class of this kind has calls on both sides.
-/
namespace StoryExports

namespace Script.Node

variable {B : Nat → Prop} {m n : Node} {lo hi : Nat} {ns ms : List Node}

/-- The nodes of a tree. -/
inductive In (m : Node) : Node → Prop
  | self : In m m
  | part {n p : Node} (hp : p ∈ n.parts) (h : In m p) : In m n

theorem In.trans {k : Node} (h : k.In m) (h' : m.In n) : k.In n := by
  induction h' with
  | self => exact h
  | part hp _ ih => exact .part hp ih

theorem Placed.start_lt_stop (h : n.Placed B) : n.span.start < n.span.stop := by
  cases h
  assumption

theorem room_within (n : Node) : n.room.Within n.span := by
  cases n <;> simp [Span.Within, room, span]

theorem Placed.of_in (h : n.Placed B) (hm : m.In n) : m.Placed B ∧ m.span.Within n.span := by
  induction hm with
  | self => exact ⟨h, .refl _⟩
  | @part n p hp _ ih =>
    obtain ⟨hplaced, hwithin⟩ := ih (h.row.placed p hp)
    exact ⟨hplaced, hwithin.trans (Span.Within.trans (h.row.inside p hp) n.room_within)⟩

theorem Row.left (h : Row B lo hi (ns ++ ms)) : Row B lo hi ns where
  placed n hn := h.placed n (List.mem_append_left ms hn)
  inside n hn := h.inside n (List.mem_append_left ms hn)
  ordered := (List.pairwise_append.mp h.ordered).1

theorem Row.right (h : Row B lo hi (ns ++ ms)) : Row B lo hi ms where
  placed n hn := h.placed n (List.mem_append_right ns hn)
  inside n hn := h.inside n (List.mem_append_right ns hn)
  ordered := (List.pairwise_append.mp h.ordered).2.1

/-- The parts of a node on two sides. The walk goes through those that are written last first: the
test of a loop after its body, and the members of a class. -/
def sides : Node → List Node × List Node
  | .other _ .doWhile [body, test] => ([body], [test])
  | .classDef _ _ parent members => (parent.toList, members)
  | n => (n.parts, [])

theorem parts_eq_sides (n : Node) : n.parts = n.sides.1 ++ n.sides.2 := by
  unfold sides
  split
  · rfl
  · rfl
  · exact (List.append_nil _).symm

end Script.Node

namespace Story

open Script (Item Node parseModule)

variable {callee : Text} {B : Nat → Prop} {n p call : Node} {ns ms : List Node} {lo hi : Nat}

theorem storyCallsIn_append (callee : Text) (ns ms : List Node) :
    storyCallsIn callee (ns ++ ms) = (do
      let before ← storyCallsIn callee ns
      return before ++ (← storyCallsIn callee ms)) := by
  induction ns with
  | nil =>
    rw [List.nil_append, storyCallsIn]
    cases storyCallsIn callee ms <;> rfl
  | cons n ns ih =>
    rw [List.cons_append, storyCallsIn, storyCallsIn, ih]
    cases storyCalls callee n with
    | error e => rfl
    | ok first =>
      cases storyCallsIn callee ns with
      | error e => rfl
      | ok before =>
        cases storyCallsIn callee ms with
        | error e => rfl
        | ok after => exact congrArg Except.ok (List.append_assoc first before after).symm

theorem storyCallsIn_singleton (callee : Text) (n : Node) :
    storyCallsIn callee [n] = storyCalls callee n := by
  rw [storyCallsIn, storyCallsIn]
  cases storyCalls callee n with
  | error e => rfl
  | ok found => exact congrArg Except.ok (List.append_nil found)

theorem storyCalls_of_call {span : Span} {args : List Node}
    (h : callTo? callee n = some (span, args)) :
    storyCalls callee n = (readCall callee span args).map fun s => [s] := by
  unfold callTo? at h
  split at h
  · split at h <;> cases h
    simp [storyCalls, *]
  · cases h

/-- The walk through a node that is no call of the story component. -/
theorem storyCalls_of_not_call (h : callTo? callee n = none) :
    storyCalls callee n = storyCallsIn callee (n.sides.2 ++ n.sides.1) := by
  cases n with
  | name span id => rfl
  | string span value => rfl
  | object span members => simp [storyCalls, Node.sides, Node.parts]
  | objectPattern span members => simp [storyCalls, Node.sides, Node.parts]
  | member span form key parts => simp [storyCalls, Node.sides, Node.parts]
  | call span target args =>
    have hname : ∀ span id, storyCalls callee (.name span id) = .ok [] := fun _ _ => by
      rw [storyCalls]
    cases target with
    | name place id =>
      have hid : id ≠ callee := by simpa [callTo?] using h
      rw [storyCalls, if_neg hid]
      show _ = storyCallsIn callee (.name place id :: args)
      rw [storyCallsIn, hname]
      cases storyCallsIn callee args <;> rfl
    | _ =>
      rw [storyCalls]
      · rfl
      · exact fun _ _ => nofun
  | function span name params body =>
    cases body <;> simp [storyCalls, Node.sides, Node.parts, storyCallsIn_append]
  | classDef span name parent members =>
    cases parent <;> simp [storyCalls, Node.sides, storyCallsIn_append, storyCallsIn_singleton]
  | other span form parts =>
    unfold Node.sides
    split
    · rename_i heq
      cases heq
      rw [storyCalls, List.singleton_append, storyCallsIn, storyCallsIn_singleton]
    · cases ‹_ = _›
    · rename_i hloop _
      rw [storyCalls]
      · rfl
      · rintro body test rfl rfl
        exact hloop _ _ _ rfl

/-- A node that stands in a tree, in no call of the story component around it. -/
inductive Outer (callee : Text) (m : Node) : Node → Prop
  | self : Outer callee m m
  | part {n p : Node} (hn : callTo? callee n = none) (hp : p ∈ n.parts) (h : Outer callee m p) :
      Outer callee m n

/-- The outermost calls of the story component. -/
def IsOutermost (callee : Text) (ns : List Node) (call : Node) : Prop :=
  (callTo? callee call).isSome ∧ ∃ n ∈ ns, Outer callee call n

/-- A node that is gone through has calls on both of its sides. -/
def Crossed (callee : Text) (ns : List Node) : Prop :=
  ∃ n ∈ ns, ∃ m, Outer callee m n ∧ (∃ x, IsOutermost callee m.sides.1 x) ∧
    ∃ y, IsOutermost callee m.sides.2 y

/-- The object literal that a call passes as its second argument. -/
def Passes (callee : Text) (call : Node) (span : Span) (members : List Node) : Prop :=
  ∃ place args, callTo? callee call = some (place, args) ∧ args[1]? = some (.object span members)

/-- The story of a call. -/
def IsStory (callee : Text) (call : Node) (s : CompiledStory) : Prop :=
  s.span = call.span ∧ (∃ members, Passes callee call s.properties.span members ∧
    s.properties.properties = propertiesOf members) ∧
    s.name = s.properties.string? "name".toList

theorem isOutermost_append : IsOutermost callee (ns ++ ms) call ↔
    IsOutermost callee ns call ∨ IsOutermost callee ms call := by
  simp only [IsOutermost, List.mem_append]
  constructor
  · rintro ⟨hcall, n, hn | hn, h⟩
    · exact .inl ⟨hcall, n, hn, h⟩
    · exact .inr ⟨hcall, n, hn, h⟩
  · rintro (⟨hcall, n, hn, h⟩ | ⟨hcall, n, hn, h⟩)
    · exact ⟨hcall, n, .inl hn, h⟩
    · exact ⟨hcall, n, .inr hn, h⟩

theorem crossed_append : Crossed callee (ns ++ ms) ↔ Crossed callee ns ∨ Crossed callee ms := by
  simp only [Crossed, List.mem_append, or_and_right, exists_or]

theorem isOutermost_of_not_call (h : callTo? callee n = none) :
    IsOutermost callee [n] call ↔ IsOutermost callee n.parts call := by
  constructor
  · rintro ⟨hcall, m, hm, houter⟩
    obtain rfl := List.mem_singleton.mp hm
    cases houter with
    | self => simp [h] at hcall
    | part hn hp houter => exact ⟨hcall, _, hp, houter⟩
  · rintro ⟨hcall, p, hp, houter⟩
    exact ⟨hcall, n, List.mem_singleton_self n, .part h hp houter⟩

theorem crossed_of_not_call (h : callTo? callee n = none) :
    Crossed callee [n] ↔ Crossed callee n.parts ∨
      (∃ x, IsOutermost callee n.sides.1 x) ∧ ∃ y, IsOutermost callee n.sides.2 y := by
  constructor
  · rintro ⟨m, hm, k, houter, hsides⟩
    obtain rfl := List.mem_singleton.mp hm
    cases houter with
    | self => exact .inr hsides
    | part hn hp houter => exact .inl ⟨_, hp, k, houter, hsides⟩
  · rintro (⟨p, hp, k, houter, hsides⟩ | hsides)
    · exact ⟨n, List.mem_singleton_self n, k, .part h hp houter, hsides⟩
    · exact ⟨n, List.mem_singleton_self n, n, .self, hsides⟩

theorem Outer.to_in (h : Outer callee p n) : p.In n := by
  induction h with
  | self => exact .self
  | part _ hp _ ih => exact .part hp ih

theorem isOutermost_placed (h : Node.Row B lo hi ns) (hcall : IsOutermost callee ns call) :
    call.Placed B ∧ lo ≤ call.span.start ∧ call.span.stop ≤ hi := by
  obtain ⟨-, n, hn, houter⟩ := hcall
  obtain ⟨hplaced, hwithin⟩ := (h.placed n hn).of_in houter.to_in
  have hinside := h.inside n hn
  exact ⟨hplaced, Nat.le_trans hinside.1 hwithin.1, Nat.le_trans hwithin.2 hinside.2⟩

/-- Calls of nodes that stand before others. -/
theorem isOutermost_before (h : Node.Row B lo hi (ns ++ ms)) {x y : Node}
    (hx : IsOutermost callee ns x) (hy : IsOutermost callee ms y) : x.span.stop ≤ y.span.start := by
  obtain ⟨-, n, hn, hxn⟩ := hx
  obtain ⟨-, m, hm, hym⟩ := hy
  have hnm := (List.pairwise_append.mp h.ordered).2.2 n hn m hm
  have hx := ((h.placed n (List.mem_append_left _ hn)).of_in hxn.to_in).2
  have hy := ((h.placed m (List.mem_append_right _ hm)).of_in hym.to_in).2
  exact Nat.le_trans hx.2 (Nat.le_trans hnm hy.1)

/-- The stories are those of all outermost calls, each once. -/
structure Complete (callee : Text) (ns calls : List Node) (stories : List CompiledStory) :
    Prop where
  mem_iff : ∀ call, call ∈ calls ↔ IsOutermost callee ns call
  read : List.Forall₂ (IsStory callee) calls stories
  apart : calls.Pairwise fun x y => x.span.Avoids y.span
  ordered : (calls.Pairwise fun x y => x.span.stop ≤ y.span.start) ↔ ¬Crossed callee ns

/-- What a walk through nodes ends with: the stories of all outermost calls, or the first of these
calls that does not pass an object literal. -/
def Outcome (callee : Text) (ns : List Node) : Except Unexpected (List CompiledStory) → Prop
  | .error cause => ∃ call, IsOutermost callee ns call ∧
      (¬∃ span members, Passes callee call span members) ∧
      cause = .storyProps callee call.span.start
  | .ok stories => ∃ calls, Complete callee ns calls stories

theorem span_of_callTo? {span : Span} {args : List Node}
    (h : callTo? callee n = some (span, args)) : n.span = span := by
  unfold callTo? at h
  split at h
  · split at h <;> cases h
    rfl
  · cases h

theorem mem_parts_of_callTo? {span : Span} {args : List Node}
    (h : callTo? callee n = some (span, args)) (hp : p ∈ args) : p ∈ n.parts := by
  unfold callTo? at h
  split at h
  · split at h <;> cases h
    exact List.mem_cons_of_mem _ hp
  · cases h

theorem outcome_of_call {span : Span} {args : List Node}
    (h : callTo? callee n = some (span, args)) : Outcome callee [n] (storyCalls callee n) := by
  have honly : ∀ call, IsOutermost callee [n] call ↔ call = n := by
    intro call
    constructor
    · rintro ⟨-, m, hm, houter⟩
      obtain rfl := List.mem_singleton.mp hm
      cases houter with
      | self => rfl
      | part hn _ _ => simp [h] at hn
    · rintro rfl
      exact ⟨by simp [h], call, List.mem_singleton_self call, .self⟩
  have hspan := span_of_callTo? h
  rw [storyCalls_of_call h, readCall]
  cases hprops : args[1]?.bind Outline.ofNode? with
  | none =>
    refine ⟨n, (honly n).mpr rfl, ?_, by rw [hspan]⟩
    rintro ⟨place, members, span', args', hcall, harg⟩
    obtain ⟨rfl, rfl⟩ := Prod.mk.inj (Option.some.inj (h.symm.trans hcall))
    simp [harg, Outline.ofNode?] at hprops
  | some properties =>
    obtain ⟨arg, harg, hproperties⟩ := Option.bind_eq_some_iff.mp hprops
    unfold Outline.ofNode? at hproperties
    split at hproperties
    · cases hproperties
      refine ⟨[n], by simp [honly], .cons ⟨hspan.symm, ⟨_, ⟨span, args, h, harg⟩, rfl⟩, rfl⟩ .nil,
        List.pairwise_singleton _ _, ?_⟩
      refine iff_of_true (List.pairwise_singleton _ _) ?_
      rintro ⟨m, hm, k, houter, -, y, hy⟩
      obtain rfl := List.mem_singleton.mp hm
      cases houter with
      | self =>
        obtain ⟨-, p, hp, -⟩ := hy
        unfold callTo? at h
        split at h
        · simp [Node.sides] at hp
        · cases h
      | part hn _ _ => simp [h] at hn
    · cases hproperties

/-- A walk through nodes and then through others, which together make up a third list of nodes. -/
theorem outcome_join {all : List Node}
    (hmem : ∀ call, IsOutermost callee all call ↔
      IsOutermost callee ns call ∨ IsOutermost callee ms call)
    (hapart : ∀ x y, IsOutermost callee ns x → IsOutermost callee ms y → x.span.Avoids y.span)
    (hordered : ¬Crossed callee all ↔ ¬Crossed callee ns ∧ ¬Crossed callee ms ∧
      ∀ x y, IsOutermost callee ns x → IsOutermost callee ms y → x.span.stop ≤ y.span.start)
    (hns : Outcome callee ns (storyCallsIn callee ns))
    (hms : Outcome callee ms (storyCallsIn callee ms)) :
    Outcome callee all (storyCallsIn callee (ns ++ ms)) := by
  rw [storyCallsIn_append]
  cases hfirst : storyCallsIn callee ns with
  | error cause =>
    rw [hfirst] at hns
    obtain ⟨call, hcall, hcause⟩ := hns
    exact ⟨call, (hmem call).mpr (.inl hcall), hcause⟩
  | ok before =>
    rw [hfirst] at hns
    obtain ⟨xs, hxs⟩ := hns
    cases hsecond : storyCallsIn callee ms with
    | error cause =>
      rw [hsecond] at hms
      obtain ⟨call, hcall, hcause⟩ := hms
      exact ⟨call, (hmem call).mpr (.inr hcall), hcause⟩
    | ok after =>
      rw [hsecond] at hms
      obtain ⟨ys, hys⟩ := hms
      refine ⟨xs ++ ys, fun call => ?_, List.rel_append hxs.read hys.read, ?_, ?_⟩
      · rw [List.mem_append, hxs.mem_iff, hys.mem_iff, hmem]
      · refine List.pairwise_append.mpr ⟨hxs.apart, hys.apart, fun x hx y hy => ?_⟩
        exact hapart x y ((hxs.mem_iff x).mp hx) ((hys.mem_iff y).mp hy)
      · rw [List.pairwise_append, hxs.ordered, hys.ordered, hordered]
        simp only [hxs.mem_iff, hys.mem_iff]
        constructor
        · rintro ⟨h₁, h₂, h₃⟩
          exact ⟨h₁, h₂, fun x y hx hy => h₃ x hx y hy⟩
        · rintro ⟨h₁, h₂, h₃⟩
          exact ⟨h₁, h₂, fun x hx y hy => h₃ x y hx hy⟩

/-- A walk in the order of the text. -/
theorem outcome_of_row (h : Node.Row B lo hi ns)
    (hparts : ∀ p ∈ ns, Outcome callee [p] (storyCalls callee p)) :
    Outcome callee ns (storyCallsIn callee ns) := by
  induction ns with
  | nil =>
    refine ⟨[], by simp [IsOutermost], .nil, .nil, iff_of_true .nil ?_⟩
    rintro ⟨n, hn, -⟩
    cases hn
  | cons n ns ih =>
    have hrow : Node.Row B lo hi ([n] ++ ns) := h
    obtain ⟨hn, hns⟩ := List.forall_mem_cons.mp hparts
    have hbefore : ∀ x y, IsOutermost callee [n] x → IsOutermost callee ns y →
        x.span.stop ≤ y.span.start := fun x y => isOutermost_before hrow
    rw [← storyCallsIn_singleton] at hn
    refine @outcome_join callee [n] ns ([n] ++ ns) (fun call => isOutermost_append)
      (fun x y hx hy => ?_) ?_ hn (ih hrow.right hns)
    · exact .inl (hbefore x y hx hy)
    · rw [crossed_append, not_or]
      exact ⟨fun hcrossed => ⟨hcrossed.1, hcrossed.2, hbefore⟩, fun hcrossed =>
        ⟨hcrossed.1, hcrossed.2.1⟩⟩

/-- A walk that goes through the two sides of a node the other way round. -/
theorem outcome_of_placed (h : n.Placed B) : Outcome callee [n] (storyCalls callee n) := by
  induction h with
  | @mk n start stop closing proper room_le placed inside ordered ih =>
    cases hcall : callTo? callee n with
    | some found => exact outcome_of_call hcall
    | none =>
      have hrow : Node.Row B n.room.start n.room.stop (n.sides.1 ++ n.sides.2) :=
        n.parts_eq_sides ▸ ⟨placed, inside, ordered⟩
      have hparts : ∀ p ∈ n.sides.1 ++ n.sides.2, Outcome callee [p] (storyCalls callee p) :=
        n.parts_eq_sides ▸ ih
      have hbehind : ∀ x y, IsOutermost callee n.sides.2 x → IsOutermost callee n.sides.1 y →
          y.span.stop ≤ x.span.start := fun x y hx hy => isOutermost_before hrow hy hx
      rw [storyCalls_of_not_call hcall]
      refine outcome_join (fun call => ?_) (fun x y hx hy => .inr (hbehind x y hx hy)) ?_
        (outcome_of_row hrow.right fun p hp => hparts p (List.mem_append_right _ hp))
        (outcome_of_row hrow.left fun p hp => hparts p (List.mem_append_left _ hp))
      · rw [isOutermost_of_not_call hcall, n.parts_eq_sides, isOutermost_append, or_comm]
      · rw [crossed_of_not_call hcall, n.parts_eq_sides, crossed_append, not_or, not_or]
        constructor
        · rintro ⟨⟨hfirst, hsecond⟩, hsides⟩
          exact ⟨hsecond, hfirst, fun x y hx hy => absurd ⟨⟨y, hy⟩, x, hx⟩ hsides⟩
        · rintro ⟨hsecond, hfirst, hbefore⟩
          refine ⟨⟨hfirst, hsecond⟩, ?_⟩
          rintro ⟨⟨y, hy⟩, x, hx⟩
          have hx' := (isOutermost_placed hrow.right hx).1.start_lt_stop
          have hy' := (isOutermost_placed hrow.left hy).1.start_lt_stop
          have := hbehind x y hx hy
          have := hbefore x y hx hy
          omega

theorem spans_of_stories {calls : List Node} {stories : List CompiledStory}
    (h : List.Forall₂ (IsStory callee) calls stories) :
    stories.map CompiledStory.span = calls.map Node.span := by
  induction h with
  | nil => rfl
  | cons hstory _ ih => rw [List.map_cons, List.map_cons, hstory.1, ih]

theorem pairwise_stories_iff {calls : List Node} {stories : List CompiledStory}
    (h : List.Forall₂ (IsStory callee) calls stories) (R : Span → Span → Prop) :
    (stories.Pairwise fun a b => R a.span b.span) ↔ calls.Pairwise fun x y => R x.span y.span := by
  have hstories := List.pairwise_map (f := CompiledStory.span) (R := R) (l := stories)
  rw [← hstories, spans_of_stories h, List.pairwise_map]

/-- The body of a function in a module stands in the text of the module. -/
theorem row_of_function {code : Text} {items : List Item} {i : Item} {span : Span}
    {name : Option Text} {params body : List Node}
    (hparse : parseModule .javaScript code = some items) (hi : i ∈ items)
    (hfunction : (Node.function span name params (some body)).In i.node) :
    Node.Row ((Script.withoutMark code).isBoundary · = true) span.start span.stop body := by
  obtain ⟨stop, hrow⟩ := Script.exists_row_of_parseModule hparse
  have hplaced := hrow.placed i.node (List.mem_map_of_mem hi)
  exact (hplaced.of_in hfunction).1.row.right

/-- A call in the body of a loop and one in the test behind it. -/
def loopModule : Text :=
  "export default function A()\x7bdo Story(a,\x7b\x7d);while(Story(b,\x7b\x7d))\x7d".toList

/-- The body of the function that an item exports as the default. -/
def defaultBody? (i : Item) : Option (List Node) :=
  match i.body with
  | .exportDefault (.function _ _ _ body) => body
  | _ => none

theorem in_of_defaultBody? {i : Item} {body : List Node} (h : defaultBody? i = some body) :
    ∃ span name params, (Node.function span name params (some body)).In i.node := by
  unfold defaultBody? at h
  split at h
  · rename_i span name params _ hbody
    subst h
    have hpart : Node.function span name params (some body) ∈ i.node.parts := by
      simp [Item.node, Node.parts, hbody, Script.ItemBody.nodes]
    exact ⟨span, name, params, .part hpart .self⟩
  · cases h

theorem exists_loopModule_stories :
    ∃ items i span name params body stories, parseModule .javaScript loopModule = some items ∧
      i ∈ items ∧ (Node.function span name params (some body)).In i.node ∧
      storyCallsIn "Story".toList body = .ok stories ∧
      stories.map CompiledStory.span = [⟨49, 60⟩, ⟨31, 42⟩] ∧
      ¬stories.Pairwise fun a b => a.span.stop ≤ b.span.start := by
  have hcheck : ((parseModule .javaScript loopModule).bind (·.findSome? defaultBody?)).any
      (fun body => (storyCallsIn "Story".toList body).toOption.any fun stories =>
        stories.map CompiledStory.span == [⟨49, 60⟩, ⟨31, 42⟩]) = true := by decide +kernel
  obtain ⟨body, hbody, hcheck⟩ := (Option.any_eq_true _ _).mp hcheck
  obtain ⟨stories, hstories, hspans⟩ := (Option.any_eq_true _ _).mp hcheck
  obtain ⟨items, hparse, hfound⟩ := Option.bind_eq_some_iff.mp hbody
  obtain ⟨i, hi, hdefault⟩ := List.exists_of_findSome?_eq_some hfound
  obtain ⟨span, name, params, hfunction⟩ := in_of_defaultBody? hdefault
  have hspans := beq_iff_eq.mp hspans
  refine ⟨items, i, span, name, params, body, stories, hparse, hi, hfunction,
    eq_ok_of_toOption hstories, hspans, fun hordered => ?_⟩
  have hordered : (stories.map CompiledStory.span).Pairwise fun s u => s.stop ≤ u.start :=
    List.pairwise_map.mpr hordered
  rw [hspans] at hordered
  exact absurd hordered (by decide)

end Story

end StoryExports
