import StoryExports.Character.ScriptTable
import StoryExports.Character.Table

/-! # Scripts of code points -/
namespace StoryExports.Character

def scriptRuns : List (Nat × Text) := runs scriptTable

/-- The script of a code point, as its code of four letters. -/
def script (n : Nat) : Text := (runOf n (0, "Zzzz".toList) scriptRuns).2

def scriptExtensions : List ((Nat × Nat) × List Text) :=
  (pairs (entries scriptExtensionTable)).map fun (r, codes) =>
    (range r, Text.splitOn (· == '+') codes)

/-- The scripts that use a code point. -/
def scriptsOf (n : Nat) : List Text :=
  match scriptExtensions.find? fun (r, _) => inRanges n [r] with
  | some (_, codes) => codes
  | none => [script n]

/-- A name in small letters and without low lines. -/
def plainName (t : Text) : Text := (t.filter (· != '_')).map Char.toLower

/-- The code of the script with a name. -/
def scriptNamed? (name : Text) : Option Text := do
  let names ← (scriptNameTable.map fun row => Text.splitOn (· == ' ') row.toList).find?
    fun names => names.any fun n => plainName n == name
  names.head?

end StoryExports.Character
