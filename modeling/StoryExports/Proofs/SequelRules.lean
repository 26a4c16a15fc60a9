import StoryExports.Proofs.Sequels

/-!
# Scripts with a sequel

Every rule for scripts without types does on a text with a sequel what it does on the text.
-/
namespace StoryExports.Script

open Parse

/-! ### What the rules ask about a tree -/

namespace Node

def isName : Node → Bool
  | .name _ _ => true
  | _ => false

def declares : Node → Bool
  | .other _ (.variables _) _ => true
  | _ => false

/-- Whether it may stand last in an object pattern. -/
def endsPattern : Node → Bool
  | .member _ .spread _ [target] => target.isName
  | .member _ .spread _ _ => false
  | _ => true

/-- All that the rules ask about a tree. -/
def traits (n : Node) : Bool × Bool × Bool × Bool × Bool :=
  (isTarget n, isBarePower n, n.isName, n.declares, n.endsPattern)

/-- Trees that no rule tells apart. -/
def Alike (n n' : Node) : Prop := n.traits = n'.traits

variable {n n' : Node}

theorem Alike.isTarget (h : n.Alike n') : Script.isTarget n = Script.isTarget n' :=
  congrArg (·.1) h

theorem Alike.isBarePower (h : n.Alike n') : Script.isBarePower n = Script.isBarePower n' :=
  congrArg (·.2.1) h

theorem Alike.isName (h : n.Alike n') : n.isName = n'.isName := congrArg (·.2.2.1) h

theorem Alike.declares (h : n.Alike n') : n.declares = n'.declares := congrArg (·.2.2.2.1) h

theorem Alike.endsPattern (h : n.Alike n') : n.endsPattern = n'.endsPattern :=
  congrArg (·.2.2.2.2) h

theorem Alike.paren (h : n.Alike n') (s s' : Span) :
    (Node.other s .paren [n]).Alike (.other s' .paren [n']) := by
  simp only [Alike, traits, Script.isTarget, h.isTarget]
  rfl

theorem Alike.spread (h : n.Alike n') (s s' : Span) (key key' : Option Text) :
    (Node.member s .spread key [n]).Alike (.member s' .spread key' [n']) := by
  simp only [Alike, traits, Node.endsPattern, h.isName]
  rfl

end Node

theorem restIsName_eq (members : List Node) :
    restIsName members = members.getLast?.all Node.endsPattern := by
  unfold restIsName
  split
  · rename_i h
    rw [h]
    rfl
  · rename_i span key parts hname h
    rw [h]
    rcases parts with _ | ⟨target, _ | ⟨_, _⟩⟩
    · rfl
    · cases target with
      | name => exact (hname _ _ rfl).elim
      | _ => rfl
    · rfl
  · rename_i hname hspread
    cases h : members.getLast? with
    | none => rfl
    | some n =>
      cases n with
      | member span form key parts =>
        cases form with
        | spread => exact absurd h (hspread _ _ _)
        | _ => rfl
      | _ => rfl

theorem restIsName_congr {ns ns' : List Node} (h : List.Forall₂ Node.Alike ns ns') :
    restIsName ns = restIsName ns' := by
  rw [restIsName_eq, restIsName_eq]
  induction h with
  | nil => rfl
  | cons hn h ih =>
    cases h with
    | nil => exact hn.endsPattern
    | cons => exact ih

/-- The constructs of a grammar ask for a token where a script has no types. -/
structure Grammar.Asks (g : Grammar) : Prop where
  assign {s : Scope} (hs : s.typed = false) : AsksToken (g.assign s)
  binary {s : Scope} (hs : s.typed = false) (level : Nat) : AsksToken (g.binary s level)
  unary {s : Scope} (hs : s.typed = false) : AsksToken (g.unary s)
  operand {s : Scope} (hs : s.typed = false) : AsksToken (g.operand s)
  construct {s : Scope} (hs : s.typed = false) : AsksToken (g.construct s)
  statement {s : Scope} (hs : s.typed = false) : AsksToken (g.statement s)
  binding {s : Scope} (hs : s.typed = false) : AsksToken (g.binding s)

/-- The second grammar does with a sequel what the first, which is strict, does without. -/
structure Grammar.Local (q : Sequel) (g g' : Grammar) : Prop where
  strict : g.lenient = false
  asks : g.Asks
  assign {s : Scope} (hs : s.typed = false) : Parse.Local q Node.Alike (g.assign s) (g'.assign s)
  binary {s : Scope} (hs : s.typed = false) (level : Nat) :
    Parse.Local q Node.Alike (g.binary s level) (g'.binary s level)
  unary {s : Scope} (hs : s.typed = false) : Parse.Local q Node.Alike (g.unary s) (g'.unary s)
  operand {s : Scope} (hs : s.typed = false) :
    Parse.Local q Node.Alike (g.operand s) (g'.operand s)
  construct {s : Scope} (hs : s.typed = false) :
    Parse.Local q Node.Alike (g.construct s) (g'.construct s)
  statement {s : Scope} (hs : s.typed = false) :
    Parse.Local q Node.Alike (g.statement s) (g'.statement s)
  binding {s : Scope} (hs : s.typed = false) :
    Parse.Local q Node.Alike (g.binding s) (g'.binding s)

variable {q : Sequel} {g g' : Grammar} {s : Scope}

/-! ### Patterns -/

section Rules

variable (hg : g.Local q g') (hs : s.typed = false)
include hs

theorem annotation_local : Local q Eq (s |> annotation g) (s |> annotation g') := by
  unfold annotation
  simp only [hs]
  exact .pure rfl

theorem optionalTypeParameters_local :
    Local q Eq (optionalTypeParameters g s) (optionalTypeParameters g' s) := by
  unfold optionalTypeParameters
  simp only [hs]
  exact (isPunct_local _).then fun _ => .pure rfl

include hg

theorem expression_local : Local q Node.Alike (expression g s) (expression g' s) := by
  unfold expression
  refine startPos_local.bind fun _ _ _ => ?_
  refine (commaSeparated_local (hg.assign hs)).bind fun es es' hes => ?_
  rcases hes with _ | ⟨he, _ | ⟨_, _⟩⟩
  · exact (spanFrom_local _ _).bind fun _ _ _ => .pure rfl
  · exact .pure he
  · exact (spanFrom_local _ _).bind fun _ _ _ => .pure rfl

theorem propertyKey_local :
    Local q (fun _ _ => True) (propertyKey g s) (propertyKey g' s) := by
  unfold propertyKey
  refine Local.of_peekTok (fun c d hcd => (anyWord_asks.bind _).localAt hcd) fun t _ => ?_
  split
  · exact advance_local.bind fun _ _ _ => .pure trivial
  · exact advance_local.bind fun _ _ _ => .pure trivial
  · exact advance_local.bind fun _ _ _ => .pure trivial
  · exact advance_local.bind fun _ _ _ => (expression_local (s := s.inner) hg hs).bind fun _ _ _ =>
      (punct_local _).then fun _ => .pure trivial
  · exact anyWord_local.then fun _ => .pure trivial

theorem statementsToBrace_local :
    Local q (fun _ _ => True) (statementsToBrace g s) (statementsToBrace g' s) := by
  unfold statementsToBrace
  refine (repeating_local (R := fun _ _ => True) (S := fun _ _ => True) (fun xs ys _ => ?_)
    trivial).bind fun _ _ _ => .pure trivial
  refine (eatPunct_local _).then fun b => .ite (.pure (.inr trivial)) ?_
  refine Local.of_peekTok (fun c d hcd => ?_) fun t ht => ?_
  · rw [hg.strict, if_neg (by simp)]
    exact ((hg.asks.statement hs).bind _).localAt hcd
  · rw [if_neg (by simp [ht]), if_neg (by simp [ht])]
    exact (hg.statement hs).bind fun _ _ _ => .pure (.inl trivial)

theorem block_local : Local q (fun _ _ => True) (block g s) (block g' s) :=
  (punct_local _).then fun _ => statementsToBrace_local hg hs

theorem initializer?_local :
    Local q (Option.Rel Node.Alike) (initializer? g s) (initializer? g' s) :=
  (eatPunct_local _).then fun _ =>
    .ite ((hg.assign hs).bind fun _ _ h => .pure (.some h)) (.pure .none)

theorem withDefault_local {start start' : Nat} {n n' : Node} (hn : n.Alike n') :
    Local q Node.Alike (withDefault start n g s) (withDefault start' n' g' s) := by
  unfold withDefault
  refine (initializer?_local hg hs).bind ?_
  rintro _ _ (⟨-⟩ | _)
  · exact (spanFrom_local _ _).bind fun _ _ _ => .pure rfl
  · exact .pure hn

theorem bindingElement_local : Local q Node.Alike (bindingElement g s) (bindingElement g' s) :=
  startPos_local.bind fun _ _ _ => (hg.binding hs).bind fun _ _ h =>
    withDefault_local (s := s.inner) hg hs h

theorem arrayPatternItems_local :
    Local q (fun _ _ => True) (arrayPatternItems g s) (arrayPatternItems g' s) := by
  unfold arrayPatternItems
  refine (repeating_local (R := fun _ _ => True) (S := fun _ _ => True) (fun xs ys _ => ?_)
    trivial).bind fun _ _ _ => .pure trivial
  refine (eatPunct_local _).then fun b => .ite (.pure (.inr trivial)) ?_
  refine (eatPunct_local _).then fun b => .ite (.pure (.inl trivial)) ?_
  refine startPos_local.bind fun _ _ _ => ?_
  refine Local.bind (R := fun _ _ => True) ((eatPunct_local _).then fun _ => .ite
    ((bindingElement_local hg hs).bind fun _ _ _ => (spanFrom_local _ _).bind fun _ _ _ =>
      .pure trivial) ((bindingElement_local hg hs).mono fun _ _ _ => trivial)) fun _ _ _ => ?_
  exact (isPunct_local _).then fun _ =>
    .ite ((punct_local _).then fun _ => .pure (.inl trivial)) (.pure (.inl trivial))

omit hs in
omit hg in
theorem propertyKey_asks : AsksToken (propertyKey g s) := .of_peekTok (anyWord_asks.bind _)

theorem objectPatternMember_local :
    Local q Node.Alike (objectPatternMember g s) (objectPatternMember g' s) := by
  unfold objectPatternMember
  refine startPos_local.bind fun _ _ _ => (eatPunct_local _).then fun _ => .ite ?_ ?_
  · exact (hg.binding hs).bind fun _ _ h => (spanFrom_local _ _).bind fun _ _ _ =>
      .pure (h.spread _ _ _ _)
  refine Local.of_peekTok (fun c d hcd => (propertyKey_asks.bind _).localAt hcd) fun t _ => ?_
  refine (propertyKey_local hg hs).bind fun _ _ _ => (eatPunct_local _).then fun _ => .ite ?_ ?_
  · exact (bindingElement_local hg hs).bind fun _ _ _ => (spanFrom_local _ _).bind fun _ _ _ =>
      .pure rfl
  · exact (guard_local _).then fun _ => (initializer?_local (s := s.inner) hg hs).bind
      fun _ _ _ => (spanFrom_local _ _).bind fun _ _ _ => .pure rfl

theorem bindingRule_local : Local q Node.Alike (bindingRule g s) (bindingRule g' s) := by
  unfold bindingRule
  refine startPos_local.bind fun _ _ _ => ?_
  refine Local.of_peekTok (fun c d hcd => (name_asks.bind _).localAt hcd) fun t _ => ?_
  split
  · exact advance_local.bind fun _ _ _ => (arrayPatternItems_local hg hs).bind fun _ _ _ =>
      (spanFrom_local _ _).bind fun _ _ _ => .pure rfl
  · refine advance_local.bind fun _ _ _ =>
      (commaList_local (objectPatternMember_local hg hs).inside).bind fun ns ns' hns => ?_
    rw [restIsName_congr hns]
    exact (guard_local _).then fun _ => (spanFrom_local _ _).bind fun _ _ _ => .pure rfl
  · exact name_local.then fun _ => (spanFrom_local _ _).bind fun _ _ _ => .pure rfl

theorem parameter_local : Local q (fun _ _ => True) (parameter g s) (parameter g' s) := by
  unfold parameter
  simp only [hs, Bool.false_and, Bool.false_eq_true, if_false]
  refine startPos_local.bind fun _ _ _ => (eatPunct_local _).then fun _ => .ite ?_ ?_
  · exact (hg.binding hs).bind fun _ _ h => (annotation_local hs).then fun _ =>
      (withDefault_local (s := s.inner) hg hs h).bind fun _ _ _ =>
      (spanFrom_local _ _).bind fun _ _ _ => .pure trivial
  · exact (isKeyword_local (by decide)).then fun _ => (hg.binding hs).bind fun _ _ h =>
      (annotation_local hs).then fun _ =>
      (withDefault_local (s := s.inner) hg hs h).mono fun _ _ _ => trivial

theorem parameters_local : Local q (fun _ _ => True) (parameters g s) (parameters g' s) :=
  (punct_local _).then fun _ => (commaList_local (parameter_local hg hs).inside).mono
    fun _ _ _ => trivial

/-! ### Functions and members -/

theorem functionBody_local (generator : Bool) :
    Local q (fun _ _ => True) (functionBody g s generator) (functionBody g' s generator) := by
  unfold functionBody
  simp only [hs]
  exact (isPunct_local _).then fun _ => .ite ((block_local (s := s.body generator) hg hs).bind
    fun _ _ _ => .pure trivial) .failure

theorem functionRest_local {start start' : Nat} {id id' : Option Text} (generator : Bool) :
    Local q Node.Alike (functionRest g s start id generator)
      (functionRest g' s start' id' generator) := by
  unfold functionRest
  simp only [hs, Bool.false_eq_true, if_false]
  exact (optionalTypeParameters_local hs).then fun _ =>
    (parameters_local (s := s.body generator) hg hs).bind fun _ _ _ =>
    (functionBody_local hg hs generator).bind fun _ _ _ =>
    (spanFrom_local _ _).bind fun _ _ _ => .pure rfl

theorem functionDefinition_local {start start' : Nat} (named : Bool) :
    Local q Node.Alike (functionDefinition g s start named)
      (functionDefinition g' s start' named) := by
  unfold functionDefinition
  refine (keyword_local _).then fun _ => (eatPunct_local _).then fun generator => ?_
  refine Local.then (isName_local.then fun _ => .ite (name_local.then fun _ => .pure rfl)
    (.pure rfl)) fun id => ?_
  exact (guard_local _).then fun _ => functionRest_local hg hs generator

theorem method_local (generator : Bool) :
    Local q Node.Alike (method g s generator) (method g' s generator) :=
  startPos_local.bind fun _ _ _ => functionRest_local hg hs generator

end Rules

/-! ### Modifiers

A word before the end of the text is no modifier, but before a sequel it may be one. It is the last
word of the text then, and the braces around the member never close. -/

/-- Whether a word is one of the modifiers, given the token after it. -/
def modifies (words : List String) (t next : Tok) : Bool :=
  match t with
  | .name id => words.any (·.toList == id) && !endsKey next
  | _ => false

theorem atModifier_apply (words : List String) (c : Cursor) :
    atModifier words c = some (modifies words (front c).tok (second c).tok, c) := by
  rw [atModifier, peekTok_bind]
  cases (front c).tok with
  | name id =>
    show (peekSecond >>= fun t => pure (words.any (·.toList == id) && !endsKey t.tok)) c = _
    rw [bind_apply, peekSecond_apply]
    rfl
  | _ => rfl

theorem modifies_eof (words : List String) (t : Tok) : modifies words t .eof = false := by
  cases t with
  | name id => exact Bool.and_false _
  | _ => rfl

theorem modifies_follows {c d : Cursor} (h : q.Follows c.tokens d.tokens)
    (hlast : (second c).tok = .eof → (front c).tok = .eof) (words : List String) :
    modifies words (front c).tok (second c).tok = modifies words (front d).tok (second d).tok := by
  rcases h.front with ⟨⟨htok, -⟩, hne⟩ | ⟨heof, hword⟩
  · rcases h.second hne with ⟨⟨hsecond, -⟩, -⟩ | ⟨hsecond, -⟩
    · rw [htok, hsecond]
    · exact absurd (hlast hsecond) hne
  · rw [heof, hword]
    rcases q.starts with hw | hw | hw <;> rw [hw] <;> rfl

/-- A parser that takes a word for a modifier or not. If it does not, it takes the last word and
stops at the end of the text. -/
theorem atModifier_local {α β : Type} {R : α → β → Prop} (words : List String) {x y : Parse α}
    {x' y' : Parse β} (hx : Local q R x x') (hy : Local q R y y') (hend : Leads OneLeft AtEnd y) :
    LocalInside q R (do if ← atModifier words then x else y)
      (do if ← atModifier words then x' else y') := by
  intro c d hcd a c' hrun hne
  by_cases hlast : (second c).tok = .eof → (front c).tok = .eof
  · refine LocalAt.look (atModifier_apply words c) (atModifier_apply words d) ?_ a c' hrun
    rw [modifies_follows hcd hlast]
    exact Local.ite hx hy c d hcd
  · obtain ⟨hsecond, hfront⟩ := Classical.not_imp.mp hlast
    rw [bind_apply, atModifier_apply, hsecond, modifies_eof] at hrun
    exact absurd (hend c a c' (hcd.last hfront hsecond) hrun) hne

section Members

variable (hasks : g.Asks) (hs : s.typed = false)
include hasks hs

theorem expression_asks : AsksToken (expression g s) :=
  .startPos fun _ => (commaSeparated_asks (hasks.assign hs)).bind _

theorem propertyKey_leads : Leads OneLeft AtEnd (propertyKey g s) := by
  refine Leads.peekTok.bind fun t => ?_
  split
  · exact advance_leads.bind fun _ => .pure _
  · exact advance_leads.bind fun _ => .pure _
  · exact advance_leads.bind fun _ => .pure _
  · exact advance_leads.bind fun _ => ((expression_asks (s := s.inner) hasks hs).bind _).leads
  · exact Leads.anyWord.bind fun _ => .pure _

theorem initializer?_leads : Leads AtEnd AtEnd (initializer? g s) :=
  (Leads.eatPunct_atEnd _).bind fun _ => .ite ((hasks.assign hs).bind _).leads (.pure _)

omit hasks in
theorem functionRest_asks (start : Nat) (id : Option Text) (generator : Bool) :
    AsksToken (functionRest g s start id generator) := by
  unfold functionRest optionalTypeParameters
  simp only [hs, Bool.false_and, Bool.false_eq_true, if_false, bind_assoc, pure_bind]
  exact .isPunct fun _ => ((punct_asks _).bind _).bind _

omit hasks in
theorem method_asks (generator : Bool) : AsksToken (method g s generator) :=
  .startPos fun _ => functionRest_asks hs _ _ _

end Members

section Objects

variable (hg : g.Local q g') (hs : s.typed = false)
include hg hs

theorem objectMember_local : LocalInside q Node.Alike (objectMember g s) (objectMember g' s) := by
  unfold objectMember
  refine startPos_local.bind_inside fun _ _ _ => (eatPunct_local _).then_inside fun _ =>
    .ite (Local.inside ?_) ?_
  · exact (hg.assign hs).bind fun _ _ h => (spanFrom_local _ _).bind fun _ _ _ =>
      .pure (h.spread _ _ _ _)
  refine (eatPunct_local _).then_inside fun _ => .ite (Local.inside ?_) ?_
  · exact (propertyKey_local hg hs).bind fun _ _ _ => (method_local hg hs true).bind
      fun _ _ _ => (spanFrom_local _ _).bind fun _ _ _ => .pure rfl
  refine atModifier_local _ ?_ ?_ ?_
  · refine (isWord_local _).then fun async => advance_local.bind fun _ _ _ => ?_
    refine .of_onFreshLine (fun b => .guard ?_) fun b => (guard_local _).then fun _ => ?_
    · cases async with
      | true => exact .eatPunct (propertyKey_asks.bind _)
      | false =>
        simp only [Bool.false_eq_true, if_false, pure_bind]
        exact propertyKey_asks.bind _
    · refine Local.then (.ite (eatPunct_local _) (.pure rfl)) fun generator => ?_
      exact (propertyKey_local hg hs).bind fun _ _ _ => (method_local hg hs _).bind
        fun _ _ _ => (spanFrom_local _ _).bind fun _ _ _ => .pure rfl
  · refine Local.of_peekTok (fun c d hcd => (propertyKey_asks.bind _).localAt hcd) fun t _ => ?_
    refine (propertyKey_local hg hs).bind fun _ _ _ => .of_peekTok_eq ⟨rfl, rfl, rfl⟩ fun u => ?_
    split
    · exact advance_local.bind fun _ _ _ => (hg.assign hs).bind fun _ _ _ =>
        (spanFrom_local _ _).bind fun _ _ _ => .pure rfl
    · exact (method_local hg hs _).bind fun _ _ _ =>
        (spanFrom_local _ _).bind fun _ _ _ => .pure rfl
    · exact (method_local hg hs _).bind fun _ _ _ =>
        (spanFrom_local _ _).bind fun _ _ _ => .pure rfl
    · exact (guard_local _).then fun _ => (initializer?_local hg hs).bind fun _ _ _ =>
        (spanFrom_local _ _).bind fun _ _ _ => .pure rfl
  · refine Leads.peekTok.bind fun t => (propertyKey_leads hg.asks hs).bind fun _ =>
      Leads.peekTok.bind fun u => ?_
    split
    · exact (advance_asks.bind _).leads
    · exact ((method_asks hs _).bind _).leads
    · exact ((method_asks hs _).bind _).leads
    · exact (Leads.guard _).bind fun _ => (initializer?_leads hg.asks hs).bind fun _ =>
        (Leads.spanFrom _).bind fun _ => .pure _

theorem objectLiteral_local : Local q Node.Alike (objectLiteral g s) (objectLiteral g' s) :=
  startPos_local.bind fun _ _ _ => (punct_local _).then fun _ =>
    (commaList_local (objectMember_local (s := s.inner) hg hs)).bind fun _ _ _ =>
    (spanFrom_local _ _).bind fun _ _ _ => .pure rfl

end Objects

/-! ### Classes -/

/-- Whether a token is a modifier of a class member, given the token after it. -/
def skipsModifier (typed : Bool) (t next : Token) : Bool :=
  let lineBound := match t.tok with
    | .name id => ["async", "accessor", "declare", "abstract"].any (·.toList == id)
    | _ => false
  let accessor := t.tok == .name "get".toList || t.tok == .name "set".toList
  let separate := next.freshLine && (lineBound || (accessor && next.tok == .punct .star))
  let staticBlock := t.tok == .name "static".toList && next.tok == .punct .lbrace
  modifies (memberModifiers typed) t.tok next.tok && !separate && !staticBlock

def modifierStep (s : Scope) (_ : Unit) : Parse (Unit ⊕ Unit) := do
  if skipsModifier s.typed (← peek) (← peekSecond) then
    let _ ← advance
    return .inl ()
  else return .inr ()

theorem skipMemberModifiers_eq (s : Scope) :
    skipMemberModifiers s = repeating (modifierStep s) () := by
  unfold skipMemberModifiers
  congr
  funext _ c
  unfold modifierStep
  simp only [bind_apply, peekSecond_apply, peekTok_apply, isWord_apply, atModifier_apply,
    peek_apply, Option.bind_some]
  cases htok : (front c).tok <;>
    simp only [pure_apply, Option.bind_some, skipsModifier, htok]

theorem skipsModifier_follows {c d : Cursor} (h : q.Follows c.tokens d.tokens)
    (hlast : (second c).tok = .eof → (front c).tok = .eof) (typed : Bool) :
    skipsModifier typed (front c) (second c) = skipsModifier typed (front d) (second d) := by
  rcases h.front with ⟨⟨htok, -⟩, hne⟩ | ⟨heof, hword⟩
  · rcases h.second hne with ⟨⟨hsecond, hfresh⟩, -⟩ | ⟨hsecond, -⟩
    · simp only [skipsModifier, htok, hsecond, hfresh]
    · exact absurd (hlast hsecond) hne
  · have hmodifies := modifies_follows h hlast (memberModifiers typed)
    have hnone : modifies (memberModifiers typed) (front c).tok (second c).tok = false := by
      rw [heof]
      rfl
    simp only [skipsModifier, ← hmodifies, hnone, Bool.false_and]

theorem iterate_modifierStep (s : Scope) (fuel : Nat) (c : Cursor) :
    iterate (modifierStep s) (fuel + 1) () c =
      if skipsModifier s.typed (front c) (second c) then
        (advance c).bind fun r => iterate (modifierStep s) fuel () r.2
      else some ((), c) := by
  simp only [iterate, modifierStep, bind_apply, peek_apply, peekSecond_apply, Option.bind_some]
  split
  · rw [bind_apply]
    cases advance c <;> rfl
  · rfl

/-- The modifiers end at the same place, or before the last word of the text. -/
theorem skipMemberModifiers_follows {c d c' : Cursor} (h : q.Follows c.tokens d.tokens)
    (hrun : skipMemberModifiers s c = some ((), c')) :
    (∃ d', skipMemberModifiers s d = some ((), d') ∧ q.Follows c'.tokens d'.tokens) ∨
      OneLeft c' := by
  rw [skipMemberModifiers_eq] at hrun ⊢
  suffices hiterate : ∀ fuel fuel' c d, fuel ≤ fuel' → q.Follows c.tokens d.tokens →
      iterate (modifierStep s) fuel () c = some ((), c') →
      (∃ d', iterate (modifierStep s) fuel' () d = some ((), d') ∧ q.Follows c'.tokens d'.tokens) ∨
        OneLeft c' from
    hiterate _ _ c d (Nat.succ_le_succ h.length_le) h hrun
  intro fuel
  induction fuel with
  | zero => rintro _ _ _ _ _ ⟨⟩
  | succ fuel ih =>
    intro fuel' c d hfuel hcd hrun
    obtain ⟨fuel', rfl⟩ : ∃ k, fuel' = k + 1 := Nat.exists_eq_succ_of_ne_zero (by omega)
    rw [iterate_modifierStep] at hrun ⊢
    by_cases hlast : (second c).tok = .eof → (front c).tok = .eof
    · rw [← skipsModifier_follows hcd hlast]
      split at hrun
      · rename_i hskips
        obtain ⟨⟨t, c₁⟩, ht, hrun⟩ := Option.bind_eq_some_iff.mp hrun
        obtain ⟨t', d₁, ht', -, hcd₁⟩ := advance_local c d hcd t c₁ ht
        rw [if_pos hskips, ht']
        exact ih fuel' c₁ d₁ (by omega) hcd₁ hrun
      · rename_i hskips
        cases hrun
        exact .inl ⟨d, if_neg hskips, hcd⟩
    · obtain ⟨hsecond, hfront⟩ := Classical.not_imp.mp hlast
      have hskips : skipsModifier s.typed (front c) (second c) = false := by
        simp only [skipsModifier, hsecond, modifies_eof, Bool.false_and]
      rw [if_neg (by simp [hskips])] at hrun
      cases hrun
      exact .inr (hcd.last hfront hsecond)

theorem skipMemberModifiers_local {α β : Type} {R : α → β → Prop} {y : Parse α} {y' : Parse β}
    (hy : Local q R y y') (hend : Leads OneLeft AtEnd y) :
    LocalInside q R (do skipMemberModifiers s; y) (do skipMemberModifiers s; y') := by
  intro c d hcd a c' hrun hne
  obtain ⟨⟨_, c₁⟩, hskip, hrest⟩ := Option.bind_eq_some_iff.mp hrun
  rcases skipMemberModifiers_follows hcd hskip with ⟨d₁, hd₁, hcd₁⟩ | hone
  · obtain ⟨b, d', hb, h⟩ := hy c₁ d₁ hcd₁ a c' hrest
    exact ⟨b, d', by rw [bind_apply, hd₁]; exact hb, h⟩
  · exact absurd (hend c₁ a c' hone hrest) hne

section Classes

theorem atIndexSignature_eq (hs : s.typed = false) : atIndexSignature s = pure false := by
  funext c
  rw [atIndexSignature]
  simp [hs, isPunct, peekTok_apply, peekSecond_apply, peekThird_apply]

theorem classKey_asks : AsksToken (classKey g s) := .of_peekTok propertyKey_asks

theorem classKey_leads (hasks : g.Asks) (hs : s.typed = false) :
    Leads OneLeft AtEnd (classKey g s) := by
  refine Leads.peekTok.bind fun t => ?_
  split
  · exact advance_leads.bind fun _ => .pure _
  · exact propertyKey_leads hasks hs

theorem skipMemberModifiers_atEnd {c : Cursor} (hc : AtEnd c) :
    skipMemberModifiers s c = some ((), c) := by
  have heof : (front c).tok = .eof := hc
  rw [skipMemberModifiers_eq, repeating, iterate_modifierStep, if_neg]
  simp [skipsModifier, modifies, heof]

theorem classMember_asks (hs : s.typed = false) : AsksToken (classMember g s) := by
  unfold classMember
  simp only [hs, atIndexSignature_eq hs, Bool.false_and, Bool.or_false, Bool.false_eq_true,
    if_false, pure_bind]
  refine .startPos fun _ c hc => ?_
  rw [bind_apply, skipMemberModifiers_atEnd hc]
  refine AsksToken.look (fun c => ⟨_, isWord_apply _ c⟩) (fun _ =>
    .look (fun c => ⟨_, peekSecond_apply c⟩) fun _ => .ite (advance_asks.bind _) ?_) c hc
  exact .eatPunct (classKey_asks.bind _)

variable (hg : g.Local q g') (hs : s.typed = false)
include hg hs

theorem classKey_local : Local q (fun _ _ => True) (classKey g s) (classKey g' s) := by
  unfold classKey
  refine Local.of_peekTok_eq ⟨rfl, rfl, rfl⟩ fun t => ?_
  split
  · exact advance_local.bind fun _ _ _ => .pure trivial
  · exact propertyKey_local hg hs

theorem classMember_local : LocalInside q Node.Alike (classMember g s) (classMember g' s) := by
  unfold classMember annotation
  simp only [hs, atIndexSignature_eq hs, Bool.false_and, Bool.or_false, Bool.false_eq_true,
    if_false, pure_bind]
  refine startPos_local.bind_inside fun _ _ _ => skipMemberModifiers_local ?_ ?_
  · intro c d hcd
    refine .look (isWord_apply _ c) (isWord_apply _ d)
      (.look (peekSecond_apply c) (peekSecond_apply d) ?_)
    rw [hcd.and_second (P := (· == .name "static".toList)) (Q := (·.tok == .punct .lbrace)) rfl
      ⟨rfl, rfl, rfl⟩ fun _ _ h => h.beq_punct _]
    refine Local.ite ?_ ?_ c d hcd
    · exact advance_local.bind fun _ _ _ => (block_local (s := s.body false) hg hs).bind
        fun _ _ _ => (spanFrom_local _ _).bind fun _ _ _ => .pure rfl
    refine (eatPunct_local _).then fun _ => (classKey_local hg hs).bind fun _ _ _ =>
      (isPunct_local _).then fun _ => (isPunct_local _).then fun _ => .ite ?_ ?_
    · exact (method_local hg hs _).bind fun _ _ _ =>
        (spanFrom_local _ _).bind fun _ _ _ => .pure rfl
    · exact (initializer?_local (s := s.body false) hg hs).bind fun _ _ _ =>
        semicolon_local.then fun _ => (spanFrom_local _ _).bind fun _ _ _ => .pure rfl
  · refine (Leads.look fun c => ⟨_, isWord_apply _ c⟩).bind fun _ =>
      (Leads.look fun c => ⟨_, peekSecond_apply c⟩).bind fun _ => .ite ?_ ?_
    · exact advance_leads.bind fun _ => ((punct_asks _).bind _).bind _ |>.leads
    refine .eatPunct_bind (classKey_asks.bind _).leads ?_
    refine (classKey_leads hg.asks hs).bind fun _ => (Leads.isPunct _).bind fun _ =>
      (Leads.isPunct _).bind fun _ => .ite ((method_asks hs _).bind _).leads ?_
    exact (initializer?_leads (s := s.body false) hg.asks hs).bind fun _ =>
      Leads.semicolon.bind fun _ => (Leads.spanFrom _).bind fun _ => .pure _

theorem classMembers_local :
    Local q (fun _ _ => True) (classMembers g s) (classMembers g' s) := by
  unfold classMembers
  refine (repeating_local_of_step (R := fun _ _ => True) (S := fun _ _ => True) (fun acc => ?_)
    (fun xs ys _ => ?_) trivial).bind fun _ _ _ => .pure trivial
  · exact .eatPunct (.eatPunct ((classMember_asks hs).bind _))
  · refine (eatPunct_local _).then_step fun _ => .ite (Local.step (.pure (.inr trivial))) ?_
    refine (eatPunct_local _).then_step fun _ => .ite (Local.step (.pure (.inl trivial))) ?_
    exact (classMember_local hg hs).inl fun _ _ _ => trivial

theorem classDefinition_local {start start' : Nat} (named : Bool) :
    Local q Node.Alike (classDefinition g s start named) (classDefinition g' s start' named) := by
  unfold classDefinition
  simp only [hs, Bool.and_false, Bool.not_false, Bool.and_true, Bool.false_eq_true, if_false]
  refine (keyword_local _).then fun _ => (isWord_local _).then fun _ => ?_
  refine peekSecond_local.bind fun _ _ _ => ?_
  refine Local.then (isName_local.then fun _ => .ite (name_local.then fun _ => .pure rfl)
    (.pure rfl)) fun id => ?_
  refine (guard_local _).then fun _ => (optionalTypeParameters_local hs).then fun _ => ?_
  refine Local.bind (R := fun _ _ => True) ((eatKeyword_local (by decide)).then fun _ =>
    .ite ((hg.operand (s := s.inner) hs).bind fun _ _ _ => .pure trivial) (.pure trivial))
    fun _ _ _ => ?_
  exact (punct_local _).then fun _ => (classMembers_local (s := s.inner) hg hs).bind fun _ _ _ =>
    (spanFrom_local _ _).bind fun _ _ _ => .pure rfl

end Classes

end StoryExports.Script
