import StoryExports.Script.Node

/-!
# Outlines of object literals

An outline tells where the properties stand, and what is known of their values.
-/
namespace StoryExports

/-- A property. Its key is absent for spreads, computed keys and big integers. -/
structure Property (α : Type) where
  key : Option Text
  span : Span
  value : α
deriving Repr

/-- What is known of the value of a property. -/
inductive PropertyValue
  | object (span : Span) (properties : List (Property PropertyValue))
  | string (value : Text)
  | other
deriving Repr

structure Outline where
  span : Span
  properties : List (Property PropertyValue)
deriving Repr

mutual

def PropertyValue.ofNode : Script.Node → PropertyValue
  | .object span members => .object span (propertiesOf members)
  | .string _ value => .string value
  | _ => .other

def propertiesOf : List Script.Node → List (Property PropertyValue)
  | [] => []
  | m :: ms => propertyOf m :: propertiesOf ms

def propertyOf : Script.Node → Property PropertyValue
  | .member span .pair key parts => ⟨key, span, lastValue parts⟩
  | .member span .shorthand key _ => ⟨key, span, .other⟩
  | .member span .method key _ => ⟨key, span, .other⟩
  | .member span .spread key _ => ⟨key, span, .other⟩
  | node => ⟨none, node.span, .other⟩

def lastValue : List Script.Node → PropertyValue
  | [] => .other
  | [node] => PropertyValue.ofNode node
  | _ :: nodes => lastValue nodes

end

namespace Outline

/-- The outline of a node that is an object literal. -/
def ofNode? : Script.Node → Option Outline
  | .object span members => some ⟨span, propertiesOf members⟩
  | _ => none

/-- The property that a key stands for: the last one. -/
def get? (o : Outline) (key : Text) : Option (Property PropertyValue) :=
  o.properties.reverse.find? fun p => p.key == some key

/-- The position of the last property with a key. -/
def position? (o : Outline) (key : Text) : Option Nat :=
  (o.properties.reverse.findIdx? fun p => p.key == some key).map
    fun i => o.properties.length - 1 - i

/-- The string that a key stands for. -/
def string? (o : Outline) (key : Text) : Option Text :=
  match o.get? key with
  | some ⟨_, _, .string s⟩ => some s
  | _ => none

end Outline

end StoryExports
