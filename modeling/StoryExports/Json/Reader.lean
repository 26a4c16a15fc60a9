import StoryExports.Decimal.Double
import StoryExports.Json.Value
import StoryExports.Script.Character

/-!
# Reading JSON

Nothing but white space may stand around the value.
-/
namespace StoryExports.Json

open Script (digitBelow? isDigit scalar?)

def isJsonSpace (c : Char) : Bool := c == ' ' || c == '\n' || c == '\t' || c == '\r'

def skipSpace (cs : Text) : Text := cs.dropWhile isJsonSpace

/-- Four hexadecimal digits. -/
def readHex : Text → Option (Nat × Text)
  | a :: b :: c :: d :: rest => do
    let a ← digitBelow? 16 a
    let b ← digitBelow? 16 b
    let c ← digitBelow? 16 c
    let d ← digitBelow? 16 d
    return (a * 4096 + b * 256 + c * 16 + d, rest)
  | _ => none

def isHighSurrogate (n : Nat) : Bool := 0xD800 ≤ n && n ≤ 0xDBFF

def isLowSurrogate (n : Nat) : Bool := 0xDC00 ≤ n && n ≤ 0xDFFF

/-- The character that two halves of a surrogate pair make. -/
def joinSurrogates (high low : Nat) : Option Char :=
  scalar? (0x10000 + (high - 0xD800) * 0x400 + (low - 0xDC00))

/-- A piece of a string, given the text after a backslash. A half of a surrogate pair is no
character. -/
def readEscape : Text → Option (Option Char × Text)
  | '"' :: cs => some (some '"', cs)
  | '\\' :: cs => some (some '\\', cs)
  | '/' :: cs => some (some '/', cs)
  | 'b' :: cs => some (some '\x08', cs)
  | 'f' :: cs => some (some '\x0c', cs)
  | 'n' :: cs => some (some '\n', cs)
  | 'r' :: cs => some (some '\r', cs)
  | 't' :: cs => some (some '\t', cs)
  | 'u' :: cs => do
    let (n, rest) ← readHex cs
    if isHighSurrogate n then
      match rest with
      | '\\' :: 'u' :: more =>
        let (low, after) ← readHex more
        if isLowSurrogate low then return (joinSurrogates n low, after)
        else return (none, rest)
      | _ => return (none, rest)
    else return (scalar? n, rest)
  | _ => none

/-- A string, given the text after its opening quote. It has a text if all its pieces are
characters. -/
def readString : Nat → Text → Option (Option Text × Text)
  | 0, _ => none
  | _ + 1, [] => none
  | fuel + 1, c :: cs =>
    if c = '"' then some (some [], cs)
    else if c = '\\' then do
      let (piece, rest) ← readEscape cs
      let (tail, rest) ← readString fuel rest
      return (do return (← piece) :: (← tail), rest)
    else if c.toNat < 0x20 then none
    else do
      let (tail, rest) ← readString fuel cs
      return (tail.map (c :: ·), rest)

/-- The digits at the front and the text after them. There is at least one. -/
def readDigits (cs : Text) : Option (List Nat × Text) :=
  let digits := (cs.takeWhile isDigit).filterMap (digitBelow? 10)
  if digits.isEmpty then none else some (digits, cs.dropWhile isDigit)

def naturalOf (digits : List Nat) : Nat := digits.foldl (fun n d => n * 10 + d) 0

/-- The digits before the point: no zero leads others. -/
def readWhole : Text → Option (List Nat × Text)
  | '0' :: cs => if cs.head?.any isDigit then none else some ([0], cs)
  | cs => readDigits cs

def readFraction : Text → Option (List Nat × Text)
  | '.' :: cs => readDigits cs
  | cs => some ([], cs)

def readExponent : Text → Option (Option Int × Text)
  | c :: cs =>
    if c = 'e' || c = 'E' then
      let (negative, cs) := match cs with
        | '+' :: cs => (false, cs)
        | '-' :: cs => (true, cs)
        | cs => (false, cs)
      (readDigits cs).map fun (digits, rest) =>
        (some (if negative then -(naturalOf digits : Int) else naturalOf digits), rest)
    else some (none, c :: cs)
  | [] => some (none, [])

def readNumber (cs : Text) : Option (JsonNumber × Text) := do
  let (negative, cs) := match cs with
    | '-' :: cs => (true, cs)
    | cs => (false, cs)
  let (whole, cs) ← readWhole cs
  let (fraction, cs) ← readFraction cs
  let (exponent, cs) ← readExponent cs
  let plain := !negative && fraction.isEmpty && exponent.isNone
  if plain && naturalOf whole < Nat.pow 2 64 then return (.natural (naturalOf whole), cs)
  else
    let value := Decimal.Double.ofDecimal (naturalOf (whole ++ fraction))
      (exponent.getD 0 - fraction.length)
    return (if value = .infinite then .tooLarge else .real, cs)

/-- A word of JSON. -/
def readWord (word : String) (value : Json) (cs : Text) : Option (Json × Text) :=
  (Text.stripStart? cs word.toList).map fun rest => (value, rest)

mutual

/-- A value, with white space before it. -/
def readValue : Nat → Text → Option (Json × Text)
  | 0, _ => none
  | fuel + 1, cs =>
    match skipSpace cs with
    | [] => none
    | '"' :: rest => (readString (rest.length + 1) rest).map fun (s, rest) => (.string s, rest)
    | '[' :: rest =>
      match skipSpace rest with
      | ']' :: rest => some (.array [], rest)
      | _ => (readItems fuel rest).map fun (items, rest) => (.array items, rest)
    | '\x7b' :: rest =>
      match skipSpace rest with
      | '\x7d' :: rest => some (.object [], rest)
      | _ => (readFields fuel rest).map fun (fields, rest) => (.object fields, rest)
    | 'n' :: rest => readWord "null" .null ('n' :: rest)
    | 't' :: rest => readWord "true" (.bool true) ('t' :: rest)
    | 'f' :: rest => readWord "false" (.bool false) ('f' :: rest)
    | rest => (readNumber rest).map fun (n, rest) => (.number n, rest)

/-- The items of an array that has some, and its right bracket. -/
def readItems : Nat → Text → Option (List Json × Text)
  | 0, _ => none
  | fuel + 1, cs =>
    match readValue fuel cs with
    | none => none
    | some (item, rest) =>
      match skipSpace rest with
      | ',' :: rest => (readItems fuel rest).map fun (items, rest) => (item :: items, rest)
      | ']' :: rest => some ([item], rest)
      | _ => none

/-- The fields of an object that has some, and its right brace. -/
def readFields : Nat → Text → Option (List (Option Text × Json) × Text)
  | 0, _ => none
  | fuel + 1, cs =>
    match skipSpace cs with
    | '"' :: rest =>
      match readString (rest.length + 1) rest with
      | none => none
      | some (key, rest) =>
        match skipSpace rest with
        | ':' :: rest =>
          match readValue fuel rest with
          | none => none
          | some (value, rest) =>
            match skipSpace rest with
            | ',' :: rest =>
              (readFields fuel rest).map fun (fields, rest) => ((key, value) :: fields, rest)
            | '\x7d' :: rest => some ([(key, value)], rest)
            | _ => none
        | _ => none
    | _ => none

end

/-- Read a text that holds one JSON value. -/
def read? (t : Text) : Option Json :=
  match readValue (2 * t.length + 2) t with
  | some (value, rest) => if (skipSpace rest).isEmpty then some value else none
  | none => none

end StoryExports.Json
