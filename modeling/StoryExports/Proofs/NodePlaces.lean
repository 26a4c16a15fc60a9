import StoryExports.Proofs.ImportBounds

/-!
# Where nodes stand

The parts of a node stand inside it, one after the other, and those of an object or of an object
pattern between its braces. `Placed` states this of a whole tree. `Reading` says that a parser has
gone from one cursor to another and has found trees that stand in between. What is read later stands
behind them, and all that is read since the start of a construct makes up its node.
-/
namespace StoryExports.Script

namespace Node

/-- The parts of a node, in the order of the text. -/
def parts : Node → List Node
  | .name _ _ | .string _ _ => []
  | .object _ members | .objectPattern _ members => members
  | .member _ _ _ parts => parts
  | .call _ callee args => callee :: args
  | .function _ _ params body => params ++ body.getD []
  | .classDef _ _ parent members => parent.toList ++ members
  | .other _ _ parts => parts

/-- Where the parts may stand. -/
def room : Node → Span
  | .object s _ | .objectPattern s _ => ⟨s.start + 1, s.stop - 1⟩
  | n => n.span

/-- A tree that lies in a text, with its ends at offsets that satisfy `B`. -/
inductive Placed (B : Nat → Prop) : Node → Prop
  | mk {n : Node} (start : B n.span.start) (stop : B n.span.stop) (closing : B n.room.stop)
      (proper : n.span.start < n.span.stop) (room_le : n.room.start ≤ n.room.stop)
      (placed : ∀ p ∈ n.parts, p.Placed B)
      (inside : ∀ p ∈ n.parts, n.room.start ≤ p.span.start ∧ p.span.stop ≤ n.room.stop)
      (ordered : n.parts.Pairwise fun p q => p.span.stop ≤ q.span.start) : n.Placed B

/-- Trees that stand one after the other between two offsets. -/
structure Row (B : Nat → Prop) (lo hi : Nat) (ns : List Node) : Prop where
  placed : ∀ n ∈ ns, n.Placed B
  inside : ∀ n ∈ ns, lo ≤ n.span.start ∧ n.span.stop ≤ hi
  ordered : ns.Pairwise fun m n => m.span.stop ≤ n.span.start

variable {B : Nat → Prop} {lo hi hi' : Nat} {n : Node} {ms ns : List Node}

theorem Placed.row (h : n.Placed B) : Row B n.room.start n.room.stop n.parts := by
  cases h with
  | mk _ _ _ _ _ placed inside ordered => exact ⟨placed, inside, ordered⟩

namespace Row

theorem nil : Row B lo hi [] := ⟨by simp, by simp, .nil⟩

theorem singleton (h : n.Placed B) (hlo : lo ≤ n.span.start) (hhi : n.span.stop ≤ hi) :
    Row B lo hi [n] where
  placed _ hm := List.mem_singleton.mp hm ▸ h
  inside _ hm := List.mem_singleton.mp hm ▸ ⟨hlo, hhi⟩
  ordered := List.pairwise_singleton _ _

/-- One row after the other. -/
theorem append {mid : Nat} (h : Row B lo hi ns) (h' : Row B mid hi' ms) (hlo : lo ≤ mid)
    (hmid : hi ≤ mid) (hhi : hi ≤ hi') : Row B lo hi' (ns ++ ms) where
  placed n hn := (List.mem_append.mp hn).elim (h.placed n) (h'.placed n)
  inside n hn := by
    rcases List.mem_append.mp hn with hn | hn
    · exact ⟨(h.inside n hn).1, Nat.le_trans (h.inside n hn).2 hhi⟩
    · exact ⟨Nat.le_trans hlo (h'.inside n hn).1, (h'.inside n hn).2⟩
  ordered := List.pairwise_append.mpr ⟨h.ordered, h'.ordered, fun m hm n hn =>
    Nat.le_trans (Nat.le_trans (h.inside m hm).2 hmid) (h'.inside n hn).1⟩

theorem placed_node (h : Row B n.room.start n.room.stop n.parts) (hstart : B n.span.start)
    (hstop : B n.span.stop) (hclosing : B n.room.stop) (hlt : n.span.start < n.span.stop)
    (hle : n.room.start ≤ n.room.stop) : n.Placed B :=
  ⟨hstart, hstop, hclosing, hlt, hle, h.placed, h.inside, h.ordered⟩

end Row

end Node

/-- A token that lies in a text. A brace is one byte long. -/
structure Token.Sound (B : Nat → Prop) (t : Token) : Prop where
  start : B t.span.start
  stop : B t.span.stop
  le : t.span.start ≤ t.span.stop
  proper : t.tok ≠ .eof → t.tok ≠ .invalid → t.span.start < t.span.stop
  brace : t.tok = .punct .lbrace ∨ t.tok = .punct .rbrace → t.span.stop = t.span.start + 1

/-- The tokens to come lie in a text, one after the other, behind the last token. -/
structure Cursor.Sound (B : Nat → Prop) (c : Cursor) : Prop where
  last : B c.lastEnd
  behind : ∀ t ∈ c.tokens, c.lastEnd ≤ t.span.start
  tokens : ∀ t ∈ c.tokens, t.Sound B
  ordered : c.tokens.Pairwise fun t u => t.span.stop ≤ u.span.start

namespace Parse

/-- Where the next token starts. -/
def floor (c : Cursor) : Nat := (front c).span.start

variable {B : Nat → Prop} {a b c : Cursor}

theorem front_sound (h : c.Sound B) : (front c).Sound B ∧ c.lastEnd ≤ floor c := by
  obtain ⟨tokens, lastEnd⟩ := c
  cases tokens with
  | nil =>
    refine ⟨⟨h.last, h.last, Nat.le_refl _, fun heof => absurd rfl heof, ?_⟩, Nat.le_refl _⟩
    rintro (hbrace | hbrace) <;> cases hbrace
  | cons t ts => exact ⟨h.tokens t List.mem_cons_self, h.behind t List.mem_cons_self⟩

theorem next_sound (h : c.Sound B) : (next c).Sound B := by
  obtain ⟨tokens, lastEnd⟩ := c
  cases tokens with
  | nil => exact h
  | cons t ts =>
    obtain ⟨hordered, hrest⟩ := List.pairwise_cons.mp h.ordered
    exact ⟨(h.tokens t List.mem_cons_self).stop, hordered,
      fun u hu => h.tokens u (List.mem_cons_of_mem _ hu), hrest⟩

/-- From the cursor `a` to the cursor `b` nodes are read, and a token is taken if `taken`. -/
structure ReadIn (B : Nat → Prop) (a b : Cursor) (taken : Bool) (nodes : List Node) : Prop where
  sound : b.Sound B
  last_le : a.lastEnd ≤ b.lastEnd
  floor_le : floor a ≤ floor b
  proper : taken = true → floor a < b.lastEnd
  row : Node.Row B (floor a) b.lastEnd nodes

/-- The same for every text in which the tokens may lie. -/
def Reading (a b : Cursor) (taken : Bool) (nodes : List Node) : Prop :=
  ∀ B, a.Sound B → ReadIn B a b taken nodes

namespace Reading

variable {taken taken' : Bool} {n : Node} {ns ms : List Node}

theorem refl (a : Cursor) : Reading a a false [] := fun _ ha =>
  ⟨ha, Nat.le_refl _, Nat.le_refl _, nofun, .nil⟩

theorem trans (h : Reading a b taken ns) (h' : Reading b c taken' ms) :
    Reading a c (taken || taken') (ns ++ ms) := by
  intro B ha
  have hab := h B ha
  have hbc := h' B hab.sound
  refine ⟨hbc.sound, Nat.le_trans hab.last_le hbc.last_le, Nat.le_trans hab.floor_le hbc.floor_le,
    fun htaken => ?_, ?_⟩
  · rcases Bool.or_eq_true_iff.mp htaken with htaken | htaken
    · exact Nat.lt_of_lt_of_le (hab.proper htaken) hbc.last_le
    · exact Nat.lt_of_le_of_lt hab.floor_le (hbc.proper htaken)
  · exact hab.row.append hbc.row hab.floor_le (front_sound hab.sound).2 hbc.last_le

/-- A token is taken. -/
theorem next (heof : (front a).tok ≠ .eof) (hinvalid : (front a).tok ≠ .invalid) :
    Reading a (next a) true [] := by
  intro B ha
  obtain ⟨hfront, hfloor⟩ := front_sound ha
  have hnext := next_sound ha
  exact ⟨hnext, Nat.le_trans hfloor hfront.le, Nat.le_trans hfront.le (front_sound hnext).2,
    fun _ => hfront.proper heof hinvalid, .nil⟩

/-- All that is read makes up a node. -/
theorem node (h : Reading a b true n.parts) (hstart : n.span.start = floor a)
    (hstop : n.span.stop = b.lastEnd) (hroom : n.room = n.span) : Reading a b true [n] := by
  intro B ha
  have hab := h B ha
  have hlt : n.span.start < n.span.stop := by
    rw [hstart, hstop]
    exact hab.proper rfl
  have hB : B n.span.stop := hstop ▸ hab.sound.last
  have hrow : Node.Row B n.room.start n.room.stop n.parts := by
    rw [hroom, hstart, hstop]
    exact hab.row
  have hplaced : n.Placed B := hrow.placed_node (hstart ▸ (front_sound ha).1.start) hB
    (hroom ▸ hB) hlt (hroom ▸ Nat.le_of_lt hlt)
  exact ⟨hab.sound, hab.last_le, hab.floor_le, hab.proper,
    .singleton hplaced (Nat.le_of_eq hstart.symm) (Nat.le_of_eq hstop)⟩

theorem left (h : Reading a b taken (ns ++ ms)) : Reading a b taken ns := by
  intro B ha
  have hab := h B ha
  exact ⟨hab.sound, hab.last_le, hab.floor_le, hab.proper,
    fun n hn => hab.row.placed n (List.mem_append_left ms hn),
    fun n hn => hab.row.inside n (List.mem_append_left ms hn),
    (List.pairwise_append.mp hab.row.ordered).1⟩

theorem weaken (h : Reading a b true ns) : Reading a b false ns := fun B ha =>
  ⟨(h B ha).sound, (h B ha).last_le, (h B ha).floor_le, nofun, (h B ha).row⟩

/-- A node takes up some text. -/
theorem proper (h : Reading a b taken (n :: ns)) : Reading a b true (n :: ns) := by
  intro B ha
  have hab := h B ha
  obtain ⟨hstart, hstop⟩ := hab.row.inside n List.mem_cons_self
  have hlt : n.span.start < n.span.stop := by
    cases hab.row.placed n List.mem_cons_self
    assumption
  exact ⟨hab.sound, hab.last_le, hab.floor_le, fun _ => by omega, hab.row⟩

end Reading

end Parse

end StoryExports.Script
