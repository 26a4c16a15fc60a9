import StoryExports.Proofs.ReadNodes

/-!
# The parser places its trees

Each rule of the grammar of JavaScript reads nodes that stand in the text one after the other, and
the parts of each inside it. There is one triple for each rule, as in `ImportBounds`; the rules
inside are those of a grammar that has the property already. At the end stand the items of a whole
module.
-/
namespace StoryExports.Script

open Std.Do

set_option mvcgen.warning false

open Parse

/-- A grammar of JavaScript whose rules place their trees. -/
structure Grammar.Places (g : Grammar) : Prop where
  assign {s : Scope} {c₀ : Cursor} : s.typed = false → ReadsNode c₀ (g.assign s)
  binary {s : Scope} {level : Nat} {c₀ : Cursor} : s.typed = false → ReadsNode c₀ (g.binary s level)
  unary {s : Scope} {c₀ : Cursor} : s.typed = false → ReadsNode c₀ (g.unary s)
  operand {s : Scope} {c₀ : Cursor} : s.typed = false → ReadsNode c₀ (g.operand s)
  construct {s : Scope} {c₀ : Cursor} : s.typed = false → ReadsNode c₀ (g.construct s)
  statement {s : Scope} {c₀ : Cursor} : s.typed = false → ReadsNode c₀ (g.statement s)
  binding {s : Scope} {c₀ : Cursor} : s.typed = false → ReadsNode c₀ (g.binding s)

attribute [spec high] Grammar.Places.assign Grammar.Places.binary Grammar.Places.unary
  Grammar.Places.operand Grammar.Places.construct Grammar.Places.statement Grammar.Places.binding

attribute [grind =] Scope.inner_typed Scope.body_typed

variable {g : Grammar} {s : Scope} {c₀ : Cursor}

@[spec high]
theorem expression_reads (hg : g.Places) (hs : s.typed = false) :
    ReadsNode c₀ (expression g s) := by
  refine reads_of ?_
  unfold expression
  mvcgen
  all_goals grind -ring -linarith

/-- A word is no computed key. -/
@[spec high]
theorem propertyKey_reads (hg : g.Places) (hs : s.typed = false) :
    ⦃fun c => ⌜c = c₀⌝⦄ propertyKey g s
      ⦃⇓? key c => ⌜Reading c₀ c true key.computed ∧
        ((wordOf? (front c₀).tok).isSome = true → key.computed = [])⌝⦄ := by
  unfold propertyKey
  mvcgen
  all_goals grind -ring -linarith [wordOf?]

@[spec high]
theorem statementsToBrace_reads (hg : g.Places) (hs : s.typed = false) :
    Reads c₀ (statementsToBrace g s) (fun _ => false) id := by
  refine reads_of ?_
  unfold statementsToBrace
  mvcgen
  all_goals grind -ring -linarith

@[spec high]
theorem block_reads (hg : g.Places) (hs : s.typed = false) :
    Reads c₀ (block g s) (fun _ => true) id := by
  refine reads_of ?_
  unfold block
  mvcgen
  all_goals grind -ring -linarith

@[spec high]
theorem initializer?_reads (hg : g.Places) (hs : s.typed = false) :
    Reads c₀ (initializer? g s) (fun _ => false) Option.toList := by
  refine reads_of ?_
  unfold initializer?
  mvcgen
  all_goals grind -ring -linarith

@[spec high]
theorem withDefault_completes (hg : g.Places) (hs : s.typed = false) (start : Nat)
    (pattern : Node) :
    Completes c₀ start [pattern] (withDefault start pattern g s) fun n => [n] := by
  refine completes_of fun a taken ha hstart => ?_
  unfold withDefault
  mvcgen
  all_goals grind -ring -linarith

@[spec high]
theorem bindingElement_reads (hg : g.Places) (hs : s.typed = false) :
    ReadsNode c₀ (bindingElement g s) := by
  refine reads_of ?_
  unfold bindingElement
  mvcgen
  all_goals grind -ring -linarith

@[spec high]
theorem arrayPatternItems_reads (hg : g.Places) (hs : s.typed = false) :
    Reads c₀ (arrayPatternItems g s) (fun _ => false) id := by
  refine reads_of ?_
  unfold arrayPatternItems
  mvcgen
  all_goals grind -ring -linarith

@[spec high]
theorem objectPatternMember_reads (hg : g.Places) (hs : s.typed = false) :
    ReadsNode c₀ (objectPatternMember g s) := by
  refine reads_of ?_
  unfold objectPatternMember
  mvcgen
  all_goals grind -ring -linarith

@[spec high]
theorem parameter_reads (hg : g.Places) (hs : s.typed = false) :
    ReadsNode c₀ (parameter g s) := by
  refine reads_of ?_
  unfold parameter
  mvcgen
  all_goals grind -ring -linarith

@[spec high]
theorem parameters_reads (hg : g.Places) (hs : s.typed = false) :
    Reads c₀ (parameters g s) (fun _ => true) id := by
  refine reads_of ?_
  unfold parameters
  mvcgen
  all_goals grind -ring -linarith

@[spec high]
theorem functionBody_reads (hg : g.Places) (hs : s.typed = false) (generator : Bool) :
    Reads c₀ (functionBody g s generator) (fun _ => true) fun body => body.getD [] := by
  refine reads_of ?_
  unfold functionBody
  mvcgen
  all_goals grind -ring -linarith

@[spec high]
theorem functionRest_completes (hg : g.Places) (hs : s.typed = false) (start : Nat)
    (id : Option Text) (generator : Bool) :
    Completes c₀ start [] (functionRest g s start id generator) fun n => [n] := by
  refine completes_of fun a taken ha hstart => ?_
  unfold functionRest
  mvcgen
  all_goals grind -ring -linarith

@[spec high]
theorem functionDefinition_completes (hg : g.Places) (hs : s.typed = false) (start : Nat)
    (named : Bool) :
    Completes c₀ start [] (functionDefinition g s start named) fun n => [n] := by
  refine completes_of fun a taken ha hstart => ?_
  unfold functionDefinition
  mvcgen
  all_goals grind -ring -linarith

@[spec high]
theorem method_reads (hg : g.Places) (hs : s.typed = false) (generator : Bool) :
    ReadsNode c₀ (method g s generator) := by
  refine reads_of ?_
  unfold method
  mvcgen
  all_goals grind -ring -linarith

@[spec high]
theorem atModifier_spec (words : List String) :
    ⦃fun c => ⌜c = c₀⌝⦄ atModifier words ⦃⇓? _ c => ⌜c = c₀⌝⦄ := by
  unfold atModifier
  mvcgen

@[spec high]
theorem objectMember_reads (hg : g.Places) (hs : s.typed = false) :
    ReadsNode c₀ (objectMember g s) := by
  refine reads_of ?_
  unfold objectMember
  mvcgen
  all_goals grind -ring -linarith

@[spec high]
theorem skipMemberModifiers_reads :
    Reads c₀ (skipMemberModifiers s) (fun _ => false) fun _ => [] := by
  refine reads_of ?_
  unfold skipMemberModifiers
  mvcgen
  all_goals subst_vars
  all_goals first | exact Reading.refl _ | exact Reading.weaken ‹_› | exact id

@[spec high]
theorem classKey_reads (hg : g.Places) (hs : s.typed = false) :
    Reads c₀ (classKey g s) (fun _ => true) Key.computed := by
  refine reads_of ?_
  unfold classKey
  mvcgen
  all_goals grind -ring -linarith

@[spec high]
theorem classMember_reads (hg : g.Places) (hs : s.typed = false) :
    ReadsNode c₀ (classMember g s) := by
  refine reads_of ?_
  unfold classMember
  mvcgen
  all_goals grind -ring -linarith

@[spec high]
theorem classMembers_reads (hg : g.Places) (hs : s.typed = false) :
    Reads c₀ (classMembers g s) (fun _ => false) id := by
  refine reads_of ?_
  unfold classMembers
  mvcgen
  all_goals grind -ring -linarith

@[spec high]
theorem classDefinition_completes (hg : g.Places) (hs : s.typed = false) (start : Nat)
    (named : Bool) :
    Completes c₀ start [] (classDefinition g s start named) fun n => [n] := by
  refine completes_of fun a taken ha hstart => ?_
  -- Types are read in typed scripts only.
  unfold classDefinition
  simp only [hs, Bool.false_eq_true, if_false, Bool.and_false]
  mvcgen
  all_goals grind -ring -linarith

@[spec high]
theorem spreadable_reads (hg : g.Places) (hs : s.typed = false) :
    ReadsNode c₀ (spreadable g s) := by
  refine reads_of ?_
  unfold spreadable
  mvcgen
  all_goals grind -ring -linarith

@[spec high]
theorem arguments_reads (hg : g.Places) (hs : s.typed = false) :
    Reads c₀ (arguments g s) (fun _ => true) id := by
  refine reads_of ?_
  unfold arguments
  mvcgen
  all_goals grind -ring -linarith

@[spec high]
theorem templateHoles_reads (hg : g.Places) (hs : s.typed = false) (tagged : Bool) :
    Reads c₀ (templateHoles g s tagged) (fun _ => true) id := by
  refine reads_of ?_
  unfold templateHoles
  mvcgen
  all_goals grind -ring -linarith

@[spec high]
theorem arrayLiteral_reads (hg : g.Places) (hs : s.typed = false) :
    ReadsNode c₀ (arrayLiteral g s) := by
  refine reads_of ?_
  unfold arrayLiteral
  mvcgen
  all_goals grind -ring -linarith

@[spec high]
theorem importExpression_reads (hg : g.Places) (hs : s.typed = false) :
    ReadsNode c₀ (importExpression g s) := by
  refine reads_of ?_
  unfold importExpression
  mvcgen
  all_goals grind -ring -linarith

@[spec high]
theorem parenthesized_reads (hg : g.Places) (hs : s.typed = false) :
    ReadsNode c₀ (parenthesized g s) := by
  refine reads_of ?_
  unfold parenthesized
  mvcgen
  all_goals grind -ring -linarith

@[spec high]
theorem objectLiteral_reads (hg : g.Places) (hs : s.typed = false) :
    ReadsNode c₀ (objectLiteral g s) := by
  refine reads_of ?_
  unfold objectLiteral
  mvcgen [tok, takeIf, commaList_closes, -tok_reads, -tok_spec, -advance_reads, -commaList_reads,
    -commaList_keeps]
  all_goals try grind -ring -linarith
  rename_i h₀ hopen members c hmembers
  obtain ⟨b, hread, hclose, rfl⟩ := hmembers
  subst h₀
  exact reading_braces (by simpa using hopen) hread hclose rfl rfl

@[spec high]
theorem bindingRule_reads (hg : g.Places) (hs : s.typed = false) :
    ReadsNode c₀ (bindingRule g s) := by
  refine reads_of ?_
  unfold bindingRule
  mvcgen [commaList_closes, -advance_reads, -commaList_reads, -commaList_keeps]
  all_goals try grind -ring -linarith [Reading.next]
  rename_i h₀ hopen members c hmembers hrest
  obtain ⟨b, hread, hclose, rfl⟩ := hmembers
  subst h₀
  exact reading_braces hopen hread hclose rfl rfl

@[spec high]
theorem primary_reads (hg : g.Places) (hs : s.typed = false) :
    ReadsNode c₀ (primary g s) := by
  refine reads_of ?_
  unfold primary
  mvcgen
  all_goals grind -ring -linarith

@[spec high]
theorem accessName_reads :
    Reads c₀ (accessName) (fun _ => true) fun _ => [] := by
  refine reads_of ?_
  unfold accessName
  mvcgen
  all_goals grind -ring -linarith

@[spec high]
theorem constructed_reads (hg : g.Places) (hs : s.typed = false) :
    ReadsNode c₀ (constructed g s) := by
  refine reads_of ?_
  have hloop := fun c => @repeating_node c (floor c₀)
  unfold constructed
  simp only [hs, Bool.false_eq_true, if_false, Bool.false_and]
  mvcgen [hloop, -repeating_keeps]
  all_goals grind -ring -linarith

@[spec high]
theorem constructRule_reads (hg : g.Places) (hs : s.typed = false) :
    ReadsNode c₀ (constructRule g s) := by
  refine reads_of ?_
  unfold constructRule
  mvcgen
  all_goals grind -ring -linarith

@[spec high]
theorem suffix_completes (hg : g.Places) (hs : s.typed = false) (start : Nat) (node : Node)
    (chained : Bool) :
    Completes c₀ start [node] (suffix g s start (node, chained)) fun r =>
      [r.elim Prod.fst id] := by
  refine completes_of fun a taken ha hstart => ?_
  unfold suffix
  simp only [hs, Bool.false_eq_true, if_false, Bool.false_and]
  mvcgen
  all_goals grind -ring -linarith

@[spec high]
theorem suffixes_completes (hg : g.Places) (hs : s.typed = false) (start : Nat) (node : Node)
    (chained : Bool) :
    Completes c₀ start [node] (repeating (suffix g s start) (node, chained)) fun n => [n] :=
  @repeating_completes (Node × Bool) c₀ start (suffix g s start) Prod.fst
    (fun (n, chained) _ => suffix_completes hg hs start n chained) (node, chained)

@[spec high]
theorem operandRule_reads (hg : g.Places) (hs : s.typed = false) :
    ReadsNode c₀ (operandRule g s) := by
  refine reads_of ?_
  unfold operandRule
  mvcgen
  all_goals grind -ring -linarith

@[spec high]
theorem postfixed_reads (hg : g.Places) (hs : s.typed = false) :
    ReadsNode c₀ (postfixed g s) := by
  refine reads_of ?_
  unfold postfixed
  mvcgen
  all_goals grind -ring -linarith

@[spec high]
theorem unaryRule_reads (hg : g.Places) (hs : s.typed = false) :
    ReadsNode c₀ (unaryRule g s) := by
  refine reads_of ?_
  unfold unaryRule
  mvcgen
  all_goals grind -ring -linarith

@[spec high]
theorem binaryRest_completes (hg : g.Places) (hs : s.typed = false) (level start : Nat)
    (node : Node) :
    Completes c₀ start [node] (binaryRest g s level start node) fun r =>
      [r.elim id id] := by
  refine completes_of fun a taken ha hstart => ?_
  unfold binaryRest
  mvcgen
  all_goals grind -ring -linarith

@[spec high]
theorem binaryRests_completes (hg : g.Places) (hs : s.typed = false) (level start : Nat)
    (node : Node) :
    Completes c₀ start [node] (repeating (binaryRest g s level start) node) fun n => [n] :=
  repeating_completes (fun n _ => binaryRest_completes hg hs level start n) node

@[spec high]
theorem binaryRule_reads (hg : g.Places) (hs : s.typed = false) (level : Nat) :
    ReadsNode c₀ (binaryRule g s level) := by
  refine reads_of ?_
  unfold binaryRule
  mvcgen
  all_goals grind -ring -linarith

@[spec high]
theorem arrowBody_reads (hg : g.Places) (hs : s.typed = false) :
    Reads c₀ (arrowBody g s) (fun _ => true) id := by
  refine reads_of ?_
  unfold arrowBody
  mvcgen
  all_goals grind -ring -linarith

@[spec high]
theorem arrowMark_reads :
    Reads c₀ (arrowMark) (fun _ => true) fun _ => [] := by
  refine reads_of ?_
  unfold arrowMark
  mvcgen
  all_goals grind -ring -linarith

@[spec high]
theorem plainArrow_completes (hg : g.Places) (hs : s.typed = false) (start : Nat) :
    Completes c₀ start [] (plainArrow g s start) fun n => [n] := by
  refine completes_of fun a taken ha hstart => ?_
  unfold plainArrow
  mvcgen
  all_goals grind -ring -linarith

@[spec high]
theorem nameArrow_completes (hg : g.Places) (hs : s.typed = false) (start : Nat) :
    Completes c₀ start [] (nameArrow g s start) fun n => [n] := by
  refine completes_of fun a taken ha hstart => ?_
  unfold nameArrow
  mvcgen
  all_goals grind -ring -linarith

@[spec high]
theorem parenArrow?_completes (hg : g.Places) (hs : s.typed = false) (start : Nat) :
    Completes c₀ start [] (parenArrow? g s start) Option.toList := by
  refine completes_of fun a taken ha hstart => ?_
  unfold parenArrow?
  simp only [hs, Bool.false_eq_true, if_false, Bool.false_and]
  mvcgen
  all_goals grind -ring -linarith

@[spec high]
theorem arrow?_reads (hg : g.Places) (hs : s.typed = false) :
    Reads c₀ (arrow? g s) (fun _ => false) Option.toList := by
  refine reads_of ?_
  have hasync : ∀ start c₁, ⦃fun c => ⌜c = c₁⌝⦄
      attempt (do let _ ← advance; parenArrow? g s start)
      ⦃⇓? r c => ⌜Ends start c₁ c [] [] ∧ ∀ n, r = some (some n) → Ends start c₁ c [] [n]⌝⦄ := by
    intro start c₁
    have hcompletes : Completes c₁ start [] (attempt (do let _ ← advance; parenArrow? g s start))
        fun r => r.elim [] Option.toList := by
      refine attempt_completes (completes_of fun a taken ha hstart => ?_)
      mvcgen
      all_goals grind -ring -linarith
    refine triple_iff.mpr fun c r c' hc hrun => ?_
    have hends := triple_iff.mp hcompletes c r c' hc hrun
    exact ⟨hends.nothing, by rintro n rfl; exact hends⟩
  unfold arrow?
  mvcgen [hasync, -attempt_keeps]
  all_goals grind -ring -linarith

@[spec high]
theorem yieldExpression_reads (hg : g.Places) (hs : s.typed = false) :
    ReadsNode c₀ (yieldExpression g s) := by
  refine reads_of ?_
  unfold yieldExpression
  mvcgen
  all_goals grind -ring -linarith

@[spec high]
theorem conditional_completes (hg : g.Places) (hs : s.typed = false) (start : Nat) (test : Node) :
    Completes c₀ start [test] (conditional g s start test) fun n => [n] := by
  refine completes_of fun a taken ha hstart => ?_
  unfold conditional
  mvcgen
  all_goals grind -ring -linarith

@[spec high]
theorem assignRule_reads (hg : g.Places) (hs : s.typed = false) :
    ReadsNode c₀ (assignRule g s) := by
  refine reads_of ?_
  unfold assignRule
  mvcgen
  all_goals grind -ring -linarith

@[spec high]
theorem declarator_reads (hg : g.Places) (hs : s.typed = false) (inHead : Bool) :
    ReadsNode c₀ (declarator g s inHead) := by
  refine reads_of ?_
  unfold declarator
  mvcgen
  all_goals grind -ring -linarith

@[spec high]
theorem skipToEnd_reads (hg : g.Places) (hs : s.typed = false) :
    Reads c₀ (skipToEnd g s) (fun _ => false) fun _ => [] := by
  refine reads_of ?_
  have hskip : ∀ c, Reads c (attempt (expression g s)) (fun _ => false) fun _ => [] :=
    fun c => attempt_skips (expression_reads hg hs)
  unfold skipToEnd
  mvcgen [hskip, -attempt_keeps]
  all_goals grind -ring -linarith

@[spec high]
theorem variableStatement_completes (hg : g.Places) (hs : s.typed = false) (start : Nat) :
    Completes c₀ start [] (variableStatement g s start) fun n => [n] := by
  refine completes_of fun a taken ha hstart => ?_
  unfold variableStatement
  mvcgen
  all_goals grind -ring -linarith

@[spec high]
theorem usingStatement_completes (hg : g.Places) (hs : s.typed = false) (start : Nat) :
    Completes c₀ start [] (usingStatement g s start) fun n => [n] := by
  refine completes_of fun a taken ha hstart => ?_
  unfold usingStatement
  mvcgen
  all_goals grind -ring -linarith

@[spec high]
theorem condition_reads (hg : g.Places) (hs : s.typed = false) :
    ReadsNode c₀ (condition g s) := by
  refine reads_of ?_
  unfold condition
  mvcgen
  all_goals grind -ring -linarith

@[spec high]
theorem bodyStatement_reads (hg : g.Places) (hs : s.typed = false) :
    ReadsNode c₀ (bodyStatement g s) := by
  refine reads_of ?_
  unfold bodyStatement
  mvcgen
  all_goals grind -ring -linarith

@[spec high]
theorem ifStatement_completes (hg : g.Places) (hs : s.typed = false) (start : Nat) :
    Completes c₀ start [] (ifStatement g s start) fun n => [n] := by
  refine completes_of fun a taken ha hstart => ?_
  unfold ifStatement
  mvcgen
  all_goals grind -ring -linarith

@[spec high]
theorem whileStatement_completes (hg : g.Places) (hs : s.typed = false) (start : Nat) :
    Completes c₀ start [] (whileStatement g s start) fun n => [n] := by
  refine completes_of fun a taken ha hstart => ?_
  unfold whileStatement
  mvcgen
  all_goals grind -ring -linarith

@[spec high]
theorem doStatement_completes (hg : g.Places) (hs : s.typed = false) (start : Nat) :
    Completes c₀ start [] (doStatement g s start) fun n => [n] := by
  refine completes_of fun a taken ha hstart => ?_
  unfold doStatement
  mvcgen
  all_goals grind -ring -linarith

@[spec high]
theorem atDisposingLoop_spec :
    ⦃fun c => ⌜c = c₀⌝⦄ atDisposingLoop s ⦃⇓? _ c => ⌜c = c₀⌝⦄ := by
  unfold atDisposingLoop
  mvcgen

@[spec high]
theorem forStart_reads (hg : g.Places) (hs : s.typed = false) :
    Reads c₀ (forStart g s) (fun _ => false) id := by
  refine reads_of ?_
  unfold forStart
  mvcgen
  all_goals grind -ring -linarith

@[spec high]
theorem forRest_reads (hg : g.Places) (hs : s.typed = false) (first : List Node) :
    Reads c₀ (forRest g s first) (fun _ => true) id := by
  refine reads_of ?_
  unfold forRest
  mvcgen
  all_goals grind -ring -linarith

@[spec high]
theorem forStatement_completes (hg : g.Places) (hs : s.typed = false) (start : Nat) :
    Completes c₀ start [] (forStatement g s start) fun n => [n] := by
  refine completes_of fun a taken ha hstart => ?_
  unfold forStatement
  mvcgen
  all_goals grind -ring -linarith

@[spec high]
theorem switchCase_reads (hg : g.Places) (hs : s.typed = false) :
    ReadsNode c₀ (switchCase g s) := by
  refine reads_of ?_
  unfold switchCase
  mvcgen
  all_goals grind -ring -linarith

@[spec high]
theorem switchStatement_completes (hg : g.Places) (hs : s.typed = false) (start : Nat) :
    Completes c₀ start [] (switchStatement g s start) fun n => [n] := by
  refine completes_of fun a taken ha hstart => ?_
  unfold switchStatement
  mvcgen
  all_goals grind -ring -linarith

@[spec high]
theorem blockNode_reads (hg : g.Places) (hs : s.typed = false) :
    ReadsNode c₀ (blockNode g s) := by
  refine reads_of ?_
  unfold blockNode
  mvcgen
  all_goals grind -ring -linarith

@[spec high]
theorem catchBinding_reads (hg : g.Places) (hs : s.typed = false) :
    Reads c₀ (catchBinding g s) (fun _ => false) id := by
  refine reads_of ?_
  unfold catchBinding
  mvcgen
  all_goals grind -ring -linarith

@[spec high]
theorem tryStatement_completes (hg : g.Places) (hs : s.typed = false) (start : Nat) :
    Completes c₀ start [] (tryStatement g s start) fun n => [n] := by
  refine completes_of fun a taken ha hstart => ?_
  unfold tryStatement
  mvcgen
  all_goals grind -ring -linarith

@[spec high]
theorem jumpStatement_completes (start : Nat) :
    Completes c₀ start [] (jumpStatement start) fun n => [n] := by
  refine completes_of fun a taken ha hstart => ?_
  unfold jumpStatement
  mvcgen
  all_goals grind -ring -linarith

@[spec high]
theorem returnStatement_completes (hg : g.Places) (hs : s.typed = false) (start : Nat) :
    Completes c₀ start [] (returnStatement g s start) fun n => [n] := by
  refine completes_of fun a taken ha hstart => ?_
  unfold returnStatement
  mvcgen
  all_goals grind -ring -linarith

@[spec high]
theorem throwStatement_completes (hg : g.Places) (hs : s.typed = false) (start : Nat) :
    Completes c₀ start [] (throwStatement g s start) fun n => [n] := by
  refine completes_of fun a taken ha hstart => ?_
  unfold throwStatement
  mvcgen
  all_goals grind -ring -linarith

@[spec high]
theorem expressionStatement_completes (hg : g.Places) (hs : s.typed = false) (start : Nat) :
    Completes c₀ start [] (expressionStatement g s start) fun n => [n] := by
  refine completes_of fun a taken ha hstart => ?_
  unfold expressionStatement
  mvcgen
  all_goals grind -ring -linarith

@[spec high]
theorem labelledStatement_completes (hg : g.Places) (hs : s.typed = false) (start : Nat) :
    Completes c₀ start [] (labelledStatement g s start) fun n => [n] := by
  refine completes_of fun a taken ha hstart => ?_
  unfold labelledStatement
  mvcgen
  all_goals grind -ring -linarith

@[spec high]
theorem declaration?_reads (hg : g.Places) (hs : s.typed = false) :
    Reads c₀ (declaration? g s) (fun _ => false) Option.toList := by
  refine reads_of ?_
  unfold declaration?
  mvcgen
  all_goals grind -ring -linarith

@[spec high]
theorem disposal?_reads (hg : g.Places) (hs : s.typed = false) :
    Reads c₀ (disposal? g s) (fun _ => false) Option.toList := by
  refine reads_of ?_
  unfold disposal?
  mvcgen
  all_goals grind -ring -linarith

@[spec high]
theorem statementRule_reads (hg : g.Places) (hs : s.typed = false) :
    ReadsNode c₀ (statementRule g s) := by
  refine reads_of ?_
  unfold statementRule
  mvcgen
  all_goals grind -ring -linarith

/-- The nodes of an item. -/
def ItemBody.nodes : ItemBody → List Node
  | .exportDeclaration n | .exportDefault n | .exportDefaultValue n | .statement n => [n]
  | _ => []

attribute [grind =] ItemBody.nodes

/-- An item as one node. -/
def Item.node (i : Item) : Node := .other i.span .block i.body.nodes

attribute [grind =] Item.node

@[spec high]
theorem moduleName_reads : Reads c₀ moduleName (fun _ => true) fun _ => [] := by
  refine reads_of ?_
  unfold moduleName
  mvcgen
  all_goals grind -ring -linarith

@[spec high]
theorem sourceString_reads : Reads c₀ sourceString (fun _ => true) fun _ => [] := by
  refine reads_of ?_
  unfold sourceString
  mvcgen
  all_goals grind -ring -linarith

@[spec high]
theorem importSpecifier_reads (hs : s.typed = false) :
    Reads c₀ (importSpecifier s) (fun _ => true) fun _ => [] := by
  refine reads_of ?_
  unfold importSpecifier
  mvcgen
  all_goals grind -ring -linarith

@[spec high]
theorem importClause_reads (hs : s.typed = false) :
    Reads c₀ (importClause s) (fun _ => false) fun _ => [] := by
  refine reads_of ?_
  unfold importClause
  mvcgen [commaList_passes, -commaList_keeps]
  all_goals grind -ring -linarith

@[spec high]
theorem importItem_reads (hs : s.typed = false) :
    Reads c₀ (importItem g s) (fun _ => true) ItemBody.nodes := by
  refine reads_of ?_
  unfold importItem
  mvcgen
  all_goals grind -ring -linarith

@[spec high]
theorem exportSpecifier_reads (hs : s.typed = false) :
    Reads c₀ (exportSpecifier s) (fun _ => true) fun _ => [] := by
  refine reads_of ?_
  unfold exportSpecifier
  mvcgen
  all_goals grind -ring -linarith

@[spec high]
theorem exportBraces_reads (hs : s.typed = false) :
    Reads c₀ (exportBraces g s) (fun _ => true) ItemBody.nodes := by
  refine reads_of ?_
  unfold exportBraces
  mvcgen [commaList_passes, -commaList_keeps]
  all_goals grind -ring -linarith

@[spec high]
theorem exportStar_reads (hs : s.typed = false) :
    Reads c₀ (exportStar g s) (fun _ => true) ItemBody.nodes := by
  refine reads_of ?_
  unfold exportStar
  mvcgen
  all_goals grind -ring -linarith

@[spec high]
theorem exportDefaultItem_reads (hg : g.Places) (hs : s.typed = false) :
    Reads c₀ (exportDefaultItem g s) (fun _ => true) ItemBody.nodes := by
  refine reads_of ?_
  simp only [exportDefaultItem, hs, Bool.false_and, Bool.false_eq_true, if_false]
  mvcgen
  all_goals grind -ring -linarith

@[spec high]
theorem exportItem_reads (hg : g.Places) (hs : s.typed = false) :
    Reads c₀ (exportItem g s) (fun _ => true) ItemBody.nodes := by
  refine reads_of ?_
  simp only [exportItem, hs, Bool.false_and, Bool.false_eq_true, if_false]
  mvcgen
  all_goals grind -ring -linarith

theorem reading_item {a b : Cursor} {i : Item} (h : Reading a b true i.body.nodes)
    (hspan : i.span = ⟨floor a, b.lastEnd⟩) : Reading a b true [i.node] :=
  h.node (show i.span.start = floor a by rw [hspan])
    (show i.span.stop = b.lastEnd by rw [hspan]) rfl

theorem item_reads (hg : g.Places) (hs : s.typed = false) :
    Reads c₀ (item g s) (fun _ => true) fun i => [i.node] := by
  refine reads_of ?_
  unfold item
  mvcgen
  all_goals
    subst_vars
    exact reading_item ‹_› rfl

theorem items_reads (hg : g.Places) (hs : s.typed = false) :
    Reads c₀ (items g s) (fun _ => false) (List.map Item.node) := by
  refine reads_of ?_
  have hloop := fun c => @repeating_collects Item c Item.node
  have hitem := fun c => @item_reads g s c hg hs
  unfold items
  mvcgen [hloop, hitem, -repeating_keeps]
  all_goals grind -ring -linarith [List.map_reverse]

theorem Grammar.Places.step (hg : g.Places) : g.step.Places where
  assign hs := assignRule_reads hg hs
  binary hs := binaryRule_reads hg hs _
  unary hs := unaryRule_reads hg hs
  operand hs := operandRule_reads hg hs
  construct hs := constructRule_reads hg hs
  statement hs := statementRule_reads hg hs
  binding hs := bindingRule_reads hg hs

theorem Grammar.nested_places (depth : Nat) : (Grammar.nested depth).Places := by
  induction depth with
  | zero => constructor <;> exact fun _ => triple_iff.mpr fun _ _ _ _ h => by cases h
  | succ depth ih => exact ih.step

/-- The items of a module stand one after the other in its text. -/
theorem exists_row_of_parseTokens {B : Nat → Prop} {tokens : List Token} {items : List Item}
    (hsound : Cursor.Sound B ⟨tokens, 0⟩) (h : parseTokens .javaScript tokens = some items) :
    ∃ stop, Node.Row B 0 stop (items.map Item.node) := by
  obtain ⟨⟨items', c⟩, hrun, rfl⟩ := Option.map_eq_some_iff.mp h
  have hreads := triple_iff.mp (items_reads (Grammar.nested_places _) rfl) _ _ _ rfl hrun
  obtain ⟨hplaced, hinside, hordered⟩ := (hreads B hsound).row
  exact ⟨c.lastEnd, hplaced, fun n hn => ⟨Nat.zero_le _, (hinside n hn).2⟩, hordered⟩

end StoryExports.Script
