import StoryExports.Character.CategoryTable
import StoryExports.Character.Table

/-! # General categories -/
namespace StoryExports.Character

def categoryRuns : List (Nat × Text) := runs categoryTable

/-- The category of a code point, as its two letters. -/
def category (n : Nat) : Text :=
  match runOf n (0, "Cn".toList) categoryRuns with
  | (start, ['L', '~']) => if (n - start) % 2 == 0 then ['L', 'u'] else ['L', 'l']
  | (_, code) => code

/-- Whether a code point is in a category, given by two letters, in one of a group of categories,
given by one letter, or a cased letter, `LC`. -/
def inCategory (code : Text) (n : Nat) : Bool :=
  if code = "LC".toList then ["Lu", "Ll", "Lt"].any fun c => category n == c.toList
  else (category n).take code.length == code

/-- The categories and their names, in small letters. No text holds a surrogate, so their category
has no name here. -/
def categoryNames : List (String × List String) := [
  ("C", ["c", "other"]), ("Cc", ["cc", "control", "cntrl"]), ("Cf", ["cf", "format"]),
  ("Cn", ["cn", "unassigned"]), ("Co", ["co", "privateuse"]), ("L", ["l", "letter"]),
  ("LC", ["lc", "casedletter"]), ("Ll", ["ll", "lowercaseletter"]),
  ("Lm", ["lm", "modifierletter"]), ("Lo", ["lo", "otherletter"]),
  ("Lt", ["lt", "titlecaseletter"]), ("Lu", ["lu", "uppercaseletter"]),
  ("M", ["m", "mark", "combiningmark"]), ("Mc", ["mc", "spacingmark"]),
  ("Me", ["me", "enclosingmark"]), ("Mn", ["mn", "nonspacingmark"]), ("N", ["n", "number"]),
  ("Nd", ["nd", "decimalnumber", "digit"]), ("Nl", ["nl", "letternumber"]),
  ("No", ["no", "othernumber"]), ("P", ["p", "punctuation", "punct"]),
  ("Pc", ["pc", "connectorpunctuation"]), ("Pd", ["pd", "dashpunctuation"]),
  ("Pe", ["pe", "closepunctuation"]), ("Pf", ["pf", "finalpunctuation"]),
  ("Pi", ["pi", "initialpunctuation"]), ("Po", ["po", "otherpunctuation"]),
  ("Ps", ["ps", "openpunctuation"]), ("S", ["s", "symbol"]), ("Sc", ["sc", "currencysymbol"]),
  ("Sk", ["sk", "modifiersymbol"]), ("Sm", ["sm", "mathsymbol"]), ("So", ["so", "othersymbol"]),
  ("Z", ["z", "separator"]), ("Zl", ["zl", "lineseparator"]),
  ("Zp", ["zp", "paragraphseparator"]), ("Zs", ["zs", "spaceseparator"])]

/-- The code points of the category with a name. -/
def categoryNamed? (name : Text) : Option (Nat → Bool) :=
  if name = "any".toList then some fun _ => true
  else if name = "assigned".toList then some fun n => category n != "Cn".toList
  else if name = "ascii".toList then some fun n => n < 128
  else (categoryNames.find? fun (_, names) => names.any (·.toList == name)).map
    fun (code, _) => inCategory code.toList

end StoryExports.Character
