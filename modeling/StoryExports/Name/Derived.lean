import StoryExports.Name.Identifier
import StoryExports.Text.UpperCase

/-!
# Derived names

The component name of a module id, and the export name of a story title.
-/
namespace StoryExports.Name

/-- Put `_` before a name that starts with a digit. -/
def guardDigit : Text → Text
  | [] => []
  | c :: cs => if isAsciiDigit c then '_' :: c :: cs else c :: cs

/-- The path of a module id: no query or fragment, `/` between directories, no `file://`. -/
def idPath (id : Text) : Text :=
  let path : Text := (id.takeWhile fun c => c != '?' && c != '#').map
    fun c => if c = '\\' then '/' else c
  (path.stripStart? "file://".toList).getD path

/-- The last part of a path without `.svelte`; for `index`, the directory it stands in, if that
is named and is not `src`. -/
def componentStem (path : Text) : Text :=
  match (Text.splitOn (· == '/') path).reverse with
  | [] => []
  | base :: directories =>
    let stem := (base.stripEnd? ".svelte".toList).getD base
    if stem = "index".toList then
      match directories with
      | directory :: _ =>
        if directory.isEmpty || directory = "src".toList then stem else directory
      | [] => stem
    else stem

/-- The name that the compiler gives the component of a module: the capitalised stem with `_` for
every character that no name can hold. There is none if nothing but `_` is left. -/
def component? (id : Text) : Option Text :=
  match componentStem (idPath id) with
  | [] => none
  | first :: rest =>
    let name := (upperCase first ++ rest).map fun c => if isNamePart c then c else '_'
    if name.all (· == '_') then none else some (guardDigit name)

/-- Capitalise the first letter of every maximal run of ASCII letters and digits, and drop all
else. `inWord` says whether the character before belongs to a run. -/
def pascalCase (inWord : Bool) : Text → Text
  | [] => []
  | c :: cs =>
    if isAsciiLetter c || isAsciiDigit c then
      if inWord then c :: pascalCase true cs else upperCase c ++ pascalCase true cs
    else pascalCase false cs

/-- The export name of a story title, if the title has an ASCII letter or digit. -/
def storyExport? (title : Text) : Option Text :=
  match pascalCase false title with
  | [] => none
  | name => some (guardDigit name)

end StoryExports.Name
