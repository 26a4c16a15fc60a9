import StoryExports.Proofs.ImportStart

/-!
# No item goes across an import

Every rule of the grammar of JavaScript stops before an import or fails, and so does each item of a
module. There is one triple for each rule, which knows the rules that it calls by their triples; the
rules inside are those of a grammar that has the property already.
-/
namespace StoryExports.Script

open Std.Do

set_option mvcgen.warning false

open Parse

namespace Scope

@[simp] theorem inner_typed (s : Scope) : s.inner.typed = s.typed := rfl

@[simp] theorem body_typed (s : Scope) (generator : Bool) :
    (s.body generator).typed = s.typed := rfl

end Scope

/-- A grammar of JavaScript that reads across no import. -/
structure Grammar.Keeps (i : ImportStart) (g : Grammar) : Prop where
  assign {s : Scope} : s.typed = false → Parse.Keeps i (g.assign s)
  binary {s : Scope} {level : Nat} : s.typed = false → Parse.Keeps i (g.binary s level)
  unary {s : Scope} : s.typed = false → Parse.Keeps i (g.unary s)
  operand {s : Scope} : s.typed = false → Parse.Keeps i (g.operand s)
  construct {s : Scope} : s.typed = false → Parse.Keeps i (g.construct s)
  statement {s : Scope} : s.typed = false → Parse.Keeps i (g.statement s)
  binding {s : Scope} : s.typed = false → Parse.Keeps i (g.binding s)

attribute [spec] Grammar.Keeps.assign Grammar.Keeps.binary Grammar.Keeps.unary
  Grammar.Keeps.operand Grammar.Keeps.construct Grammar.Keeps.statement Grammar.Keeps.binding

variable {i : ImportStart} {g : Grammar} {s : Scope}

@[spec]
theorem expression_keeps (hg : g.Keeps i) (hs : s.typed = false) :
    Keeps i (expression g s) := by
  unfold expression
  mvcgen
  all_goals simp_all

@[spec]
theorem annotation_spec (hs : s.typed = false)
    {Q : PostCond Unit (.arg Cursor (.except PUnit .pure))} :
    ⦃fun c => Q.1 () c⦄ annotation g s ⦃Q⦄ :=
  look_spec fun c => by
    unfold annotation
    simp [hs, pure, StateT.pure]

@[spec]
theorem optionalTypeParameters_spec (hs : s.typed = false)
    {Q : PostCond Unit (.arg Cursor (.except PUnit .pure))} :
    ⦃fun c => Q.1 () c⦄ optionalTypeParameters g s ⦃Q⦄ := by
  unfold optionalTypeParameters
  mvcgen
  all_goals simp_all

@[spec]
theorem propertyKey_spec (hg : g.Keeps i) (hs : s.typed = false) :
    ⦃fun c => ⌜i.At false c⌝⦄ propertyKey g s ⦃⇓? _ c => ⌜i.At true c⌝⦄ := by
  unfold propertyKey
  mvcgen
  all_goals simp_all

@[spec]
theorem statementsToBrace_keeps (hg : g.Keeps i) (hs : s.typed = false) :
    Keeps i (statementsToBrace g s) := by
  unfold statementsToBrace
  mvcgen

@[spec]
theorem block_keeps (hg : g.Keeps i) (hs : s.typed = false) :
    Keeps i (block g s) := by
  unfold block
  mvcgen
  all_goals simp_all

/-- An initial value may follow a name. -/
theorem initializer?_spec (hg : g.Keeps i) (hs : s.typed = false) :
    ⦃fun c => ⌜i.At true c⌝⦄ initializer? g s ⦃⇓? _ c => ⌜i.At true c⌝⦄ := by
  have heat := eatTok_named i (.punct .eq) (by simp) (by simp)
  unfold initializer?
  mvcgen [heat, -eatTok_keeps]
  all_goals simp_all

@[spec]
theorem initializer?_keeps (hg : g.Keeps i) (hs : s.typed = false) :
    Keeps i (initializer? g s) := by
  unfold initializer?
  mvcgen

@[spec]
theorem withDefault_keeps (hg : g.Keeps i) (hs : s.typed = false) (start : Nat) (pattern : Node) :
    Keeps i (withDefault start pattern g s) := by
  unfold withDefault
  mvcgen

@[spec]
theorem bindingElement_keeps (hg : g.Keeps i) (hs : s.typed = false) :
    Keeps i (bindingElement g s) := by
  unfold bindingElement
  mvcgen
  all_goals simp_all

@[spec]
theorem arrayPatternItems_keeps (hg : g.Keeps i) (hs : s.typed = false) :
    Keeps i (arrayPatternItems g s) := by
  unfold arrayPatternItems
  mvcgen
  all_goals simp_all

@[spec]
theorem objectPatternMember_spec (hg : g.Keeps i) (hs : s.typed = false) :
    ⦃fun c => ⌜i.At false c⌝⦄ objectPatternMember g s ⦃⇓? _ c => ⌜i.At true c⌝⦄ := by
  have hdots := eatTok_keeps (i := i) (.punct .ellipsis) (by simp)
  have hcolon := eatTok_named i (.punct .colon) (by simp) (by simp)
  unfold objectPatternMember
  mvcgen [hdots, hcolon, initializer?_spec, -eatTok_keeps, -initializer?_keeps]
  all_goals simp_all

@[spec]
theorem bindingRule_keeps (hg : g.Keeps i) (hs : s.typed = false) :
    Keeps i (bindingRule g s) := by
  unfold bindingRule
  mvcgen
  all_goals simp_all

@[spec]
theorem parameter_keeps (hg : g.Keeps i) (hs : s.typed = false) :
    Keeps i (parameter g s) := by
  unfold parameter
  mvcgen
  all_goals simp_all

@[spec]
theorem parameters_spec (hg : g.Keeps i) (hs : s.typed = false) :
    ⦃fun c => ⌜i.At true c⌝⦄ parameters g s ⦃⇓? _ c => ⌜i.At false c⌝⦄ := by
  unfold parameters
  mvcgen
  all_goals simp_all

@[spec]
theorem functionBody_keeps (hg : g.Keeps i) (hs : s.typed = false) (generator : Bool) :
    Keeps i (functionBody g s generator) := by
  unfold functionBody
  mvcgen
  all_goals simp_all

@[spec]
theorem functionRest_spec (hg : g.Keeps i) (hs : s.typed = false) (start : Nat) (id : Option Text)
    (generator : Bool) :
    ⦃fun c => ⌜i.At true c⌝⦄ functionRest g s start id generator ⦃⇓? _ c => ⌜i.At false c⌝⦄ := by
  unfold functionRest
  mvcgen
  all_goals simp_all

@[spec]
theorem functionDefinition_keeps (hg : g.Keeps i) (hs : s.typed = false) (start : Nat)
    (named : Bool) : Keeps i (functionDefinition g s start named) := by
  unfold functionDefinition
  mvcgen
  all_goals simp_all

@[spec]
theorem method_spec (hg : g.Keeps i) (hs : s.typed = false) (generator : Bool) :
    ⦃fun c => ⌜i.At true c⌝⦄ method g s generator ⦃⇓? _ c => ⌜i.At false c⌝⦄ := by
  unfold method
  mvcgen

attribute [spec] atModifier atIndexSignature

@[spec]
theorem objectMember_spec (hg : g.Keeps i) (hs : s.typed = false) :
    ⦃fun c => ⌜i.At false c⌝⦄ objectMember g s ⦃⇓? _ c => ⌜i.At true c⌝⦄ := by
  unfold objectMember
  mvcgen [initializer?_spec, -initializer?_keeps]
  all_goals simp_all

@[spec]
theorem objectLiteral_keeps (hg : g.Keeps i) (hs : s.typed = false) :
    Keeps i (objectLiteral g s) := by
  unfold objectLiteral
  mvcgen
  all_goals simp_all

@[spec]
theorem skipMemberModifiers_keeps :
    Keeps i (skipMemberModifiers s) := by
  unfold skipMemberModifiers
  mvcgen
  all_goals simp_all
  grind

@[spec]
theorem classKey_spec (hg : g.Keeps i) (hs : s.typed = false) :
    ⦃fun c => ⌜i.At false c⌝⦄ classKey g s ⦃⇓? _ c => ⌜i.At true c⌝⦄ := by
  unfold classKey
  mvcgen
  all_goals simp_all

@[spec]
theorem classMember_keeps (hg : g.Keeps i) (hs : s.typed = false) :
    Keeps i (classMember g s) := by
  unfold classMember
  mvcgen [initializer?_spec, -initializer?_keeps]
  all_goals simp_all

@[spec]
theorem classMembers_keeps (hg : g.Keeps i) (hs : s.typed = false) :
    Keeps i (classMembers g s) := by
  unfold classMembers
  mvcgen

@[spec]
theorem classDefinition_keeps (hg : g.Keeps i) (hs : s.typed = false) (start : Nat) (named : Bool) :
    Keeps i (classDefinition g s start named) := by
  unfold classDefinition
  mvcgen
  all_goals simp_all

@[spec]
theorem spreadable_keeps (hg : g.Keeps i) (hs : s.typed = false) :
    Keeps i (spreadable g s) := by
  unfold spreadable
  mvcgen
  all_goals simp_all

@[spec]
theorem arguments_spec (hg : g.Keeps i) (hs : s.typed = false) :
    ⦃fun c => ⌜i.At true c⌝⦄ arguments g s ⦃⇓? _ c => ⌜i.At false c⌝⦄ := by
  unfold arguments
  mvcgen
  all_goals simp_all

@[spec]
theorem templateHoles_keeps (hg : g.Keeps i) (hs : s.typed = false) (tagged : Bool) :
    Keeps i (templateHoles g s tagged) := by
  unfold templateHoles
  mvcgen
  all_goals simp_all

@[spec]
theorem arrayLiteral_keeps (hg : g.Keeps i) (hs : s.typed = false) :
    Keeps i (arrayLiteral g s) := by
  unfold arrayLiteral
  mvcgen
  all_goals simp_all

@[spec]
theorem importExpression_keeps (hg : g.Keeps i) (hs : s.typed = false) :
    Keeps i (importExpression g s) := by
  have hdot := eatTok_named i (.punct .dot) (by simp) (by simp)
  unfold importExpression
  mvcgen [hdot, -eatTok_keeps]
  all_goals simp_all

@[spec]
theorem parenthesized_keeps (hg : g.Keeps i) (hs : s.typed = false) :
    Keeps i (parenthesized g s) := by
  unfold parenthesized
  mvcgen
  all_goals simp_all

@[spec]
theorem primary_keeps (hg : g.Keeps i) (hs : s.typed = false) :
    Keeps i (primary g s) := by
  unfold primary
  mvcgen
  all_goals simp_all

@[spec]
theorem accessName_spec : ⦃fun c => ⌜i.Inside c⌝⦄ accessName ⦃⇓? _ c => ⌜i.At false c⌝⦄ := by
  unfold accessName
  mvcgen [anyWord_inside, -anyWord_spec]
  all_goals simp_all [at_next_of_inside]

@[spec]
theorem constructed_keeps (hg : g.Keeps i) (hs : s.typed = false) :
    Keeps i (constructed g s) := by
  unfold constructed
  mvcgen
  all_goals simp_all

@[spec]
theorem constructRule_keeps (hg : g.Keeps i) (hs : s.typed = false) :
    Keeps i (constructRule g s) := by
  unfold constructRule
  mvcgen
  all_goals simp_all

@[spec]
theorem suffix_keeps (hg : g.Keeps i) (hs : s.typed = false) (start : Nat) (a : Node × Bool) :
    Keeps i (suffix g s start a) := by
  obtain ⟨node, chained⟩ := a
  unfold suffix
  mvcgen
  all_goals simp_all

@[spec]
theorem operandRule_keeps (hg : g.Keeps i) (hs : s.typed = false) :
    Keeps i (operandRule g s) := by
  unfold operandRule
  mvcgen
  all_goals simp_all

@[spec]
theorem postfixed_keeps (hg : g.Keeps i) (hs : s.typed = false) :
    Keeps i (postfixed g s) := by
  unfold postfixed
  mvcgen
  all_goals simp_all

@[spec]
theorem unaryRule_keeps (hg : g.Keeps i) (hs : s.typed = false) :
    Keeps i (unaryRule g s) := by
  unfold unaryRule
  mvcgen
  all_goals simp_all

theorem ne_import_of_bindingLevel {t : Tok} {level : Nat} (h : bindingLevel s t = some level) :
    t ≠ .keyword .kwImport := by
  rintro rfl
  cases h

@[spec]
theorem binaryRest_keeps (hg : g.Keeps i) (hs : s.typed = false) (level start : Nat) (node : Node) :
    Keeps i (binaryRest g s level start node) := by
  unfold binaryRest
  mvcgen
  all_goals simp_all
  exact at_next ‹_› (ne_import_of_bindingLevel ‹_›)

@[spec]
theorem binaryRule_keeps (hg : g.Keeps i) (hs : s.typed = false) (level : Nat) :
    Keeps i (binaryRule g s level) := by
  unfold binaryRule
  mvcgen
  all_goals simp_all

@[spec]
theorem arrowBody_keeps (hg : g.Keeps i) (hs : s.typed = false) :
    Keeps i (arrowBody g s) := by
  unfold arrowBody
  mvcgen

@[spec]
theorem arrowMark_keeps :
    Keeps i arrowMark := by
  unfold arrowMark
  mvcgen
  all_goals simp_all

@[spec]
theorem plainArrow_keeps (hg : g.Keeps i) (hs : s.typed = false) (start : Nat) :
    Keeps i (plainArrow g s start) := by
  unfold plainArrow
  mvcgen
  all_goals simp_all

@[spec]
theorem nameArrow_keeps (hg : g.Keeps i) (hs : s.typed = false) (start : Nat) :
    Keeps i (nameArrow g s start) := by
  unfold nameArrow
  mvcgen

@[spec]
theorem parenArrow?_keeps (hg : g.Keeps i) (hs : s.typed = false) (start : Nat) :
    Keeps i (parenArrow? g s start) := by
  unfold parenArrow?
  mvcgen
  all_goals simp_all

@[spec]
theorem arrow?_keeps (hg : g.Keeps i) (hs : s.typed = false) :
    Keeps i (arrow? g s) := by
  have hasync : ∀ start, ⦃fun c => ⌜i.At false c ∧ (front c).tok = .name "async".toList⌝⦄
      attempt (do let _ ← advance; parenArrow? g s start) ⦃⇓? _ c => ⌜i.At false c⌝⦄ := by
    refine fun start => attempt_spec ?_
    mvcgen
    all_goals simp_all
  unfold arrow?
  mvcgen [hasync, -attempt_keeps]
  all_goals simp_all

@[spec]
theorem yieldExpression_keeps (hg : g.Keeps i) (hs : s.typed = false) :
    Keeps i (yieldExpression g s) := by
  unfold yieldExpression
  mvcgen
  all_goals simp_all

@[spec]
theorem conditional_keeps (hg : g.Keeps i) (hs : s.typed = false) (start : Nat) (test : Node) :
    Keeps i (conditional g s start test) := by
  unfold conditional
  mvcgen
  all_goals simp_all

@[spec]
theorem assignRule_keeps (hg : g.Keeps i) (hs : s.typed = false) :
    Keeps i (assignRule g s) := by
  unfold assignRule
  mvcgen
  all_goals simp_all

@[spec]
theorem declarator_keeps (hg : g.Keeps i) (hs : s.typed = false) (inHead : Bool) :
    Keeps i (declarator g s inHead) := by
  unfold declarator
  mvcgen
  all_goals simp_all

@[spec]
theorem skipToEnd_keeps (hg : g.Keeps i) (hs : s.typed = false) :
    Keeps i (skipToEnd g s) := by
  unfold skipToEnd
  mvcgen
  all_goals simp_all

@[spec]
theorem variableStatement_spec (hg : g.Keeps i) (hs : s.typed = false) (start : Nat) :
    ⦃fun c => ⌜i.At false c ∧ (front c).tok ≠ .keyword .kwImport⌝⦄ variableStatement g s start
      ⦃⇓? _ c => ⌜i.At false c⌝⦄ := by
  unfold variableStatement
  mvcgen
  all_goals simp_all

@[spec]
theorem usingStatement_keeps (hg : g.Keeps i) (hs : s.typed = false) (start : Nat) :
    Keeps i (usingStatement g s start) := by
  unfold usingStatement
  mvcgen
  all_goals simp_all

@[spec]
theorem condition_keeps (hg : g.Keeps i) (hs : s.typed = false) :
    Keeps i (condition g s) := by
  unfold condition
  mvcgen
  all_goals simp_all

@[spec]
theorem bodyStatement_keeps (hg : g.Keeps i) (hs : s.typed = false) :
    Keeps i (bodyStatement g s) := by
  unfold bodyStatement
  mvcgen

@[spec]
theorem ifStatement_keeps (hg : g.Keeps i) (hs : s.typed = false) (start : Nat) :
    Keeps i (ifStatement g s start) := by
  unfold ifStatement
  mvcgen
  all_goals simp_all

@[spec]
theorem whileStatement_spec (hg : g.Keeps i) (hs : s.typed = false) (start : Nat) :
    ⦃fun c => ⌜i.At false c ∧ (front c).tok ≠ .keyword .kwImport⌝⦄ whileStatement g s start
      ⦃⇓? _ c => ⌜i.At false c⌝⦄ := by
  unfold whileStatement
  mvcgen
  all_goals simp_all

@[spec]
theorem doStatement_keeps (hg : g.Keeps i) (hs : s.typed = false) (start : Nat) :
    Keeps i (doStatement g s start) := by
  unfold doStatement
  mvcgen
  all_goals simp_all

@[spec]
theorem atDisposingLoop_keeps :
    Keeps i (atDisposingLoop s) := by
  unfold atDisposingLoop
  mvcgen

@[spec]
theorem forStart_keeps (hg : g.Keeps i) (hs : s.typed = false) :
    Keeps i (forStart g s) := by
  unfold forStart
  mvcgen
  all_goals simp_all +zetaDelta
  exact at_next ‹_› (by rcases ‹_ ∨ _› with (h | h) | ⟨h, -⟩ <;> simp [h])

@[spec]
theorem forRest_keeps (hg : g.Keeps i) (hs : s.typed = false) (first : List Node) :
    Keeps i (forRest g s first) := by
  unfold forRest
  mvcgen
  all_goals simp_all

@[spec]
theorem forStatement_keeps (hg : g.Keeps i) (hs : s.typed = false) (start : Nat) :
    Keeps i (forStatement g s start) := by
  unfold forStatement
  mvcgen
  all_goals simp_all

@[spec]
theorem switchCase_keeps (hg : g.Keeps i) (hs : s.typed = false) :
    Keeps i (switchCase g s) := by
  unfold switchCase
  mvcgen
  all_goals simp_all

@[spec]
theorem switchStatement_keeps (hg : g.Keeps i) (hs : s.typed = false) (start : Nat) :
    Keeps i (switchStatement g s start) := by
  unfold switchStatement
  mvcgen
  all_goals simp_all

@[spec]
theorem blockNode_keeps (hg : g.Keeps i) (hs : s.typed = false) :
    Keeps i (blockNode g s) := by
  unfold blockNode
  mvcgen

@[spec]
theorem catchBinding_keeps (hg : g.Keeps i) (hs : s.typed = false) :
    Keeps i (catchBinding g s) := by
  unfold catchBinding
  mvcgen
  all_goals simp_all

@[spec]
theorem tryStatement_keeps (hg : g.Keeps i) (hs : s.typed = false) (start : Nat) :
    Keeps i (tryStatement g s start) := by
  unfold tryStatement
  mvcgen
  all_goals simp_all

@[spec]
theorem jumpStatement_spec (start : Nat) :
    ⦃fun c => ⌜i.At false c ∧ (front c).tok ≠ .keyword .kwImport⌝⦄ jumpStatement start
      ⦃⇓? _ c => ⌜i.At false c⌝⦄ := by
  unfold jumpStatement
  mvcgen
  all_goals simp_all

@[spec]
theorem returnStatement_keeps (hg : g.Keeps i) (hs : s.typed = false) (start : Nat) :
    Keeps i (returnStatement g s start) := by
  unfold returnStatement
  mvcgen
  all_goals simp_all

@[spec]
theorem throwStatement_keeps (hg : g.Keeps i) (hs : s.typed = false) (start : Nat) :
    Keeps i (throwStatement g s start) := by
  unfold throwStatement
  mvcgen
  all_goals simp_all

@[spec]
theorem expressionStatement_keeps (hg : g.Keeps i) (hs : s.typed = false) (start : Nat) :
    Keeps i (expressionStatement g s start) := by
  unfold expressionStatement
  mvcgen
  all_goals simp_all

@[spec]
theorem labelledStatement_keeps (hg : g.Keeps i) (hs : s.typed = false) (start : Nat) :
    Keeps i (labelledStatement g s start) := by
  unfold labelledStatement
  mvcgen
  all_goals simp_all

@[spec]
theorem opening?_spec (hs : s.typed = false)
    {Q : PostCond (Option Opening) (.arg Cursor (.except PUnit .pure))} :
    ⦃fun c => Q.1 none c⦄ opening? s ⦃Q⦄ :=
  look_spec fun c => by simp [opening?, hs, pure, StateT.pure]

@[spec]
theorem declaration?_keeps (hg : g.Keeps i) (hs : s.typed = false) :
    Keeps i (declaration? g s) := by
  unfold declaration?
  mvcgen
  all_goals simp_all

@[spec]
theorem disposal?_keeps (hg : g.Keeps i) (hs : s.typed = false) :
    Keeps i (disposal? g s) := by
  unfold disposal?
  mvcgen
  all_goals simp_all +zetaDelta

@[spec]
theorem statementRule_keeps (hg : g.Keeps i) (hs : s.typed = false) :
    Keeps i (statementRule g s) := by
  unfold statementRule
  mvcgen
  all_goals simp_all

@[spec]
theorem moduleName_spec :
    ⦃fun c => ⌜i.At false c⌝⦄ moduleName ⦃⇓? _ c => ⌜i.At true c⌝⦄ := by
  unfold moduleName
  mvcgen
  all_goals simp_all

@[spec]
theorem sourceString_keeps :
    Keeps i sourceString := by
  unfold sourceString
  mvcgen
  all_goals simp_all

@[spec]
theorem importAttributes_spec (hs : s.typed = false)
    {Q : PostCond Unit (.arg Cursor (.except PUnit .pure))} :
    ⦃fun c => Q.1 () c⦄ importAttributes g s ⦃Q⦄ := by
  unfold importAttributes
  mvcgen [-objectLiteral_keeps]
  all_goals simp_all

@[spec]
theorem atTypeMark_spec (hs : s.typed = false)
    {Q : PostCond Bool (.arg Cursor (.except PUnit .pure))} :
    ⦃fun c => Q.1 false c⦄ atTypeMark s ⦃Q⦄ := by
  unfold atTypeMark
  mvcgen
  all_goals simp_all

@[spec]
theorem atTypeImport_spec (hs : s.typed = false)
    {Q : PostCond Bool (.arg Cursor (.except PUnit .pure))} :
    ⦃fun c => Q.1 false c⦄ atTypeImport s ⦃Q⦄ := by
  unfold atTypeImport
  mvcgen
  all_goals simp_all

attribute [spec] atImportExpression

@[spec]
theorem importSpecifier_spec (hs : s.typed = false) :
    ⦃fun c => ⌜i.At false c⌝⦄ importSpecifier s ⦃⇓? _ c => ⌜i.At true c⌝⦄ := by
  unfold importSpecifier
  mvcgen [eatTok, -eatTok_keeps]
  all_goals simp_all

@[spec]
theorem importClause_keeps (hs : s.typed = false) :
    Keeps i (importClause s) := by
  unfold importClause
  mvcgen
  all_goals simp_all

theorem importItem_spec (hs : s.typed = false) :
    ⦃fun c => ⌜i.Inside c⌝⦄ importItem g s ⦃⇓? _ c => ⌜i.At false c⌝⦄ := by
  unfold importItem
  mvcgen [tok, takeIf, -tok_spec]
  all_goals simp_all [at_next_of_inside]
  exact at_true (at_next (at_next_of_inside ‹_›) (by simp_all))

@[spec]
theorem exportSpecifier_spec (hs : s.typed = false) :
    ⦃fun c => ⌜i.At false c⌝⦄ exportSpecifier s ⦃⇓? _ c => ⌜i.At true c⌝⦄ := by
  unfold exportSpecifier
  mvcgen [eatTok, -eatTok_keeps]
  all_goals simp_all

@[spec]
theorem exportBraces_keeps (hs : s.typed = false) :
    Keeps i (exportBraces g s) := by
  unfold exportBraces
  mvcgen
  all_goals simp_all

@[spec]
theorem exportStar_keeps (hs : s.typed = false) :
    Keeps i (exportStar g s) := by
  unfold exportStar
  mvcgen
  all_goals simp_all

@[spec]
theorem exportDefaultItem_keeps (hg : g.Keeps i) (hs : s.typed = false) :
    Keeps i (exportDefaultItem g s) := by
  simp only [exportDefaultItem, hs, Bool.false_and, Bool.false_eq_true, if_false]
  mvcgen
  all_goals simp_all

@[spec]
theorem exportItem_keeps (hg : g.Keeps i) (hs : s.typed = false) :
    Keeps i (exportItem g s) := by
  simp only [exportItem, hs, Bool.false_and, Bool.false_eq_true, if_false]
  mvcgen
  all_goals simp_all

theorem item_spec (hg : g.Keeps i) (hs : s.typed = false) :
    ⦃fun c => ⌜i.Inside c⌝⦄ item g s ⦃⇓? _ c => ⌜i.At false c⌝⦄ := by
  unfold item
  mvcgen [importItem_spec]
  all_goals simp_all [at_of_inside]

theorem Grammar.Keeps.step (hg : g.Keeps i) : g.step.Keeps i where
  assign hs := assignRule_keeps hg hs
  binary hs := binaryRule_keeps hg hs _
  unary hs := unaryRule_keeps hg hs
  operand hs := operandRule_keeps hg hs
  construct hs := constructRule_keeps hg hs
  statement hs := statementRule_keeps hg hs
  binding hs := bindingRule_keeps hg hs

theorem Grammar.nested_keeps (i : ImportStart) (depth : Nat) : (Grammar.nested depth).Keeps i := by
  induction depth with
  | zero => constructor <;> exact fun _ => triple_iff.mpr fun _ _ _ _ h => by cases h
  | succ depth ih => exact ih.step

end StoryExports.Script
