import StoryExports.Character.Category
import StoryExports.Character.PropertyTable
import StoryExports.Character.Script

/-! # Properties of code points by name -/
namespace StoryExports.Character

def inCategories (codes : List String) (n : Nat) : Bool :=
  let code := category n
  codes.any (·.toList == code)

def otherAlphabetic : List (Nat × Nat) := ranges otherAlphabeticTable

def otherLowercase : List (Nat × Nat) := ranges otherLowercaseTable

def otherUppercase : List (Nat × Nat) := ranges otherUppercaseTable

def otherMath : List (Nat × Nat) := ranges otherMathTable

def otherGraphemeExtend : List (Nat × Nat) := ranges otherGraphemeExtendTable

def otherCaseIgnorable : List (Nat × Nat) := ranges otherCaseIgnorableTable

def isLowercase (n : Nat) : Bool := inCategories ["Ll"] n || inRanges n otherLowercase

def isUppercase (n : Nat) : Bool := inCategories ["Lu"] n || inRanges n otherUppercase

/-- Letters and letter numbers. -/
def isLetterLike (n : Nat) : Bool := inCategories ["Lu", "Ll", "Lt", "Lm", "Lo", "Nl"] n

def isAlphabetic (n : Nat) : Bool :=
  isLetterLike n || inRanges n otherLowercase || inRanges n otherUppercase ||
    inRanges n otherAlphabetic

def isDecimalDigit (n : Nat) : Bool := inCategories ["Nd"] n

def isAlphanumeric (n : Nat) : Bool := isAlphabetic n || inCategories ["Nd", "Nl", "No"] n

def isJoinControl (n : Nat) : Bool := n == 0x200C || n == 0x200D

/-- Letters, marks, digits, and what joins them to words. -/
def isWord (n : Nat) : Bool :=
  isAlphabetic n || inCategories ["Mn", "Mc", "Me", "Nd", "Pc"] n || isJoinControl n

def isWhiteSpace (n : Nat) : Bool :=
  inRanges n [(9, 13), (0x20, 0x20), (0x85, 0x85), (0xA0, 0xA0), (0x1680, 0x1680),
    (0x2000, 0x200A), (0x2028, 0x2029), (0x202F, 0x202F), (0x205F, 0x205F), (0x3000, 0x3000)]

def isIdStart (n : Nat) : Bool :=
  n != 0x2E2F && (isLetterLike n ||
    inRanges n [(0x1885, 0x1886), (0x2118, 0x2118), (0x212E, 0x212E), (0x309B, 0x309C)])

def isIdContinue (n : Nat) : Bool :=
  isIdStart n || inCategories ["Mn", "Mc", "Nd", "Pc"] n ||
    inRanges n [(0xB7, 0xB7), (0x387, 0x387), (0x1369, 0x1371), (0x19DA, 0x19DA)]

/-- Code points that normal forms take apart, so that names with them are not stable. -/
def isUnstableId (n : Nat) : Bool :=
  inRanges n [(0x37A, 0x37A), (0x309B, 0x309C), (0xFC5E, 0xFC63), (0xFDFA, 0xFDFB)] ||
    (0xFE70 ≤ n && n ≤ 0xFE7E && n % 2 == 0)

def isXidContinue (n : Nat) : Bool := isIdContinue n && !isUnstableId n

def isXidStart (n : Nat) : Bool :=
  isIdStart n && !isUnstableId n &&
    !inRanges n [(0xE33, 0xE33), (0xEB3, 0xEB3), (0xFF9E, 0xFF9F)]

def isCased (n : Nat) : Bool := isLowercase n || isUppercase n || inCategories ["Lt"] n

def isCaseIgnorable (n : Nat) : Bool :=
  inCategories ["Mn", "Me", "Cf", "Lm", "Sk"] n || inRanges n otherCaseIgnorable

def isMath (n : Nat) : Bool := inCategories ["Sm"] n || inRanges n otherMath

def isGraphemeExtend (n : Nat) : Bool :=
  inCategories ["Me", "Mn"] n || inRanges n otherGraphemeExtend

def isGraphemeBase (n : Nat) : Bool :=
  !inCategories ["Cc", "Cf", "Cs", "Co", "Cn", "Zl", "Zp"] n && !isGraphemeExtend n

/-- Properties that follow from others, by their names in small letters. -/
def derivedProperties : List (List String × (Nat → Bool)) := [
  (["alpha", "alphabetic"], isAlphabetic), (["lower", "lowercase"], isLowercase),
  (["upper", "uppercase"], isUppercase), (["math"], isMath), (["ids", "idstart"], isIdStart),
  (["idc", "idcontinue"], isIdContinue), (["xids", "xidstart"], isXidStart),
  (["xidc", "xidcontinue"], isXidContinue), (["cased"], isCased),
  (["ci", "caseignorable"], isCaseIgnorable), (["grext", "graphemeextend"], isGraphemeExtend),
  (["grbase", "graphemebase"], isGraphemeBase)]

/-- The code points with a property of their own table. -/
def listedProperty? (name : Text) : Option (Nat → Bool) :=
  (propertyTable.find? fun (names, _) => (Text.splitOn (· == ' ') names.toList).contains name).map
    fun (_, table) => let rs := ranges table; fun n => inRanges n rs

/-- The code points with a property that a code point has or has not. -/
def binaryProperty? (name : Text) : Option (Nat → Bool) :=
  match derivedProperties.find? fun (names, _) => names.any (·.toList == name) with
  | some (_, property) => some property
  | none => listedProperty? name

/-- A name as it is compared: blanks, low lines and hyphens do not count, nor does case, nor `is`
in front. The name `isc` keeps its front. -/
def normalName (t : Text) : Text :=
  let (stripped, rest) := match t with
    | a :: b :: rest =>
      if (a == 'i' || a == 'I') && (b == 's' || b == 'S') then (true, rest) else (false, t)
    | t => (false, t)
  let name := (rest.filter fun c => !(c == ' ' || c == '_' || c == '-') && c.toNat < 128).map
    Char.toLower
  if stripped && name == ['c'] then "isc".toList else name

/-- What a single name stands for: a property, a category or a script. -/
def named? (name : Text) : Option (Nat → Bool) :=
  let name := normalName name
  match binaryProperty? name with
  | some property => some property
  | none =>
    match categoryNamed? name with
    | some property => some property
    | none => (scriptNamed? name).map fun code n => script n == code

/-- What a property and its value stand for. -/
def valued? (property value : Text) : Option (Nat → Bool) :=
  let property := normalName property
  let value := normalName value
  if property = "gc".toList || property = "generalcategory".toList then categoryNamed? value
  else if property = "sc".toList || property = "script".toList then
    (scriptNamed? value).map fun code n => script n == code
  else if property = "scx".toList || property = "scriptextensions".toList then
    (scriptNamed? value).map fun code n => (scriptsOf n).contains code
  else none

end StoryExports.Character
