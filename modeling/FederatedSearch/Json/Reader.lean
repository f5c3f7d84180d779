import FederatedSearch.Json.Basic
import FederatedSearch.WordRange

/-!
# Reading JSON text

The reader is strict: no comments, no trailing commas, nothing after the value. It yields a
`Json.Draft`, which keeps the members of objects in their order, repeated keys included, and
marks numbers and strings that have the right form but no value: a number beyond the range of
doubles, and a string with half a surrogate pair. A draft without such marks, not nested too
deeply, is a value (`Draft.toJson?`).
-/

namespace FederatedSearch

namespace Json

/-- What a JSON text says, before repeated keys are merged and values are checked. -/
inductive Draft
  | null
  | bool (value : Bool)
  | number (value : Option Number)
  | string (value : Option String)
  | array (items : List Draft)
  | object (members : List (Option String × Draft))
  deriving Inhabited

/-! ## Numbers -/

/-- The parts of a number as written: digits before and after the point, and the exponent. -/
structure NumberText where
  negative : Bool
  whole : List Nat
  fraction : List Nat
  exponent : Option (Bool × List Nat)

namespace NumberText

/-- The greatest significand that is kept. -/
def significandLimit : Nat := WordRange.greatestUnsigned

/-- The greatest exponent that is computed with. -/
def exponentLimit : Nat := 2147483647

/-- Appends digits to a significand for as long as it stays within the limit; the digits that
are left over come second. -/
def absorb (significand : Nat) : List Nat → Nat × List Nat
  | [] => (significand, [])
  | digit :: rest =>
    if significand * 10 + digit ≤ significandLimit then absorb (significand * 10 + digit) rest
    else (significand, digit :: rest)

/-- A double from a significand and a decimal exponent, by one rounded multiplication or
division by a power of ten. Exponents below the range of doubles are approached in steps; none
when the result is beyond the range. -/
def scale (x : Double) (exponent : Int) : Option Double :=
  if exponent.natAbs ≤ 308 then
    let power := Double.ofDecimal false 1 exponent.natAbs
    if 0 ≤ exponent then
      let product := x.mul power
      if product.isFinite then some product else none
    else some (x.div power)
  else if x.magnitude = 0 then some x
  else if 0 ≤ exponent then none
  else scale (x.div (Double.ofDecimal false 1 308)) (exponent + 308)
termination_by exponent.natAbs
decreasing_by omega

/-- The value of decimal digits. -/
def digitsValue (digits : List Nat) : Nat :=
  digits.foldl (fun n d => n * 10 + d) 0

/-- The value of a number text: an integer when there is neither fraction nor exponent and it
fits into 64 bits, and a double otherwise. `-0` is a double. -/
def value (t : NumberText) : Option Number :=
  let (whole, dropped) := absorb 0 t.whole
  let signed (x : Double) : Number := .double (if t.negative then -x else x)
  let toDouble (significand : Nat) (exponent : Int) : Option Number :=
    (scale (Double.ofNat significand) exponent).map signed
  if dropped.isEmpty && t.fraction.isEmpty && t.exponent.isNone then
    if !t.negative then some (.integer whole)
    else if whole = 0 ∨ -(whole : Int) < WordRange.least then
      some (signed (Double.ofNat whole))
    else some (.integer (-(whole : Int)))
  else
    let (significand, left) := absorb whole t.fraction
    let exponent : Int := dropped.length - (t.fraction.length - left.length : Nat)
    match t.exponent with
    | none => toDouble significand exponent
    | some (negative, digits) =>
      let shift := digitsValue digits
      if exponentLimit < shift then
        if significand = 0 ∨ negative then some (signed ⟨false, 0⟩) else none
      else toDouble significand (if negative then exponent - shift else exponent + shift)

end NumberText

/-- The value of a decimal digit. -/
def digitValue (c : Char) : Nat := c.toNat - 48

/-- Whether a character is a decimal digit. -/
def isDigit (c : Char) : Bool := '0' ≤ c && c ≤ '9'

/-- The leading decimal digits and what follows them. -/
def spanDigits (text : List Char) : List Nat × List Char :=
  ((text.takeWhile isDigit).map digitValue, text.dropWhile isDigit)

/-- The exponent of a number, if one follows. -/
def readExponent (text : List Char) : Option (Option (Bool × List Nat) × List Char) :=
  match text with
  | c :: rest =>
    if c = 'e' ∨ c = 'E' then
      let (negative, rest) := match rest with
        | '-' :: more => (true, more)
        | '+' :: more => (false, more)
        | _ => (false, rest)
      let (digits, rest) := spanDigits rest
      if digits.isEmpty then none else some (some (negative, digits), rest)
    else some (none, text)
  | [] => some (none, [])

/-- Reads a number: no leading zeros, and digits on both sides of the point. -/
def readNumber (text : List Char) : Option (NumberText × List Char) :=
  let (negative, text) := match text with
    | '-' :: rest => (true, rest)
    | _ => (false, text)
  let (whole, text) := spanDigits text
  if whole.isEmpty || (whole.head? == some 0 && whole.length > 1) then none
  else
    let fraction : Option (List Nat × List Char) := match text with
      | '.' :: rest =>
        let (digits, rest) := spanDigits rest
        if digits.isEmpty then none else some (digits, rest)
      | _ => some ([], text)
    match fraction with
    | none => none
    | some (fraction, text) =>
      match readExponent text with
      | none => none
      | some (exponent, text) => some (⟨negative, whole, fraction, exponent⟩, text)

/-! ## Strings -/

/-- A piece of a string: a character, or a code unit given by its number. -/
inductive Piece
  | char (c : Char)
  | codeUnit (n : Nat)

/-- The value of a hexadecimal digit. -/
def hexValue? (c : Char) : Option Nat :=
  if '0' ≤ c ∧ c ≤ '9' then some (c.toNat - 48)
  else if 'a' ≤ c ∧ c ≤ 'f' then some (c.toNat - 87)
  else if 'A' ≤ c ∧ c ≤ 'F' then some (c.toNat - 55)
  else none

/-- The value of four hexadecimal digits. -/
def hexQuad? (a b c d : Char) : Option Nat := do
  return (((← hexValue? a) * 16 + (← hexValue? b)) * 16 + (← hexValue? c)) * 16 + (← hexValue? d)

/-- The character that a backslash and a letter stand for. -/
def simpleEscape? (c : Char) : Option Char :=
  if c = '"' ∨ c = '\\' ∨ c = '/' then some c
  else if c = 'b' then some (Char.ofNat 8)
  else if c = 'f' then some (Char.ofNat 12)
  else if c = 'n' then some '\n'
  else if c = 'r' then some '\r'
  else if c = 't' then some '\t'
  else none

/-- The pieces of a string up to its closing quote, and what follows it. -/
def readPieces : List Char → Option (List Piece × List Char)
  | [] => none
  | '"' :: rest => some ([], rest)
  | '\\' :: 'u' :: a :: b :: c :: d :: rest => do
    let unit ← hexQuad? a b c d
    let (pieces, rest) ← readPieces rest
    return (.codeUnit unit :: pieces, rest)
  | '\\' :: c :: rest => do
    let char ← simpleEscape? c
    let (pieces, rest) ← readPieces rest
    return (.char char :: pieces, rest)
  | c :: rest =>
    if c.toNat < 32 ∨ c = '\\' then none
    else do
      let (pieces, rest) ← readPieces rest
      return (.char c :: pieces, rest)

/-- The characters of a string; none when half of a surrogate pair stands alone. -/
def assemble : List Piece → Option (List Char)
  | [] => some []
  | .char c :: rest => (assemble rest).map (c :: ·)
  | .codeUnit n :: rest =>
    if n < 0xD800 ∨ 0xDFFF < n then (assemble rest).map (Char.ofNat n :: ·)
    else if 0xDC00 ≤ n then none
    else match rest with
      | .codeUnit m :: rest =>
        if 0xDC00 ≤ m ∧ m ≤ 0xDFFF then
          (assemble rest).map (Char.ofNat (0x10000 + (n - 0xD800) * 1024 + (m - 0xDC00)) :: ·)
        else none
      | _ => none

/-- Reads a string after its opening quote. -/
def readString (text : List Char) : Option (Option String × List Char) :=
  (readPieces text).map fun (pieces, rest) => ((assemble pieces).map String.ofList, rest)

/-! ## Values -/

/-- Whether a character may stand between the words of a text. -/
def isBlank (c : Char) : Bool :=
  c == ' ' || c == '\n' || c == '\t' || c == '\r'

/-- What follows the blanks at the start of a text. -/
def skipBlanks (text : List Char) : List Char :=
  text.dropWhile isBlank

/-- What follows a word at the start of a text. -/
def dropWord (word : List Char) (text : List Char) : Option (List Char) :=
  if word.isPrefixOf text then some (text.drop word.length) else none

mutual

/-- Reads a value. Every nested call is on a shorter text, so `fuel` may be its length. -/
def readValue (fuel : Nat) (text : List Char) : Option (Draft × List Char) :=
  match fuel with
  | 0 => none
  | fuel + 1 =>
    match skipBlanks text with
    | [] => none
    | '"' :: rest => (readString rest).map fun (s, rest) => (.string s, rest)
    | '[' :: rest =>
      match skipBlanks rest with
      | ']' :: rest => some (.array [], rest)
      | _ => (readItems fuel rest).map fun (items, rest) => (.array items, rest)
    | c :: rest =>
      if c.toNat = 0x7B then
        match skipBlanks rest with
        | [] => none
        | d :: more =>
          if d.toNat = 0x7D then some (.object [], more)
          else (readMembers fuel rest).map fun (members, rest) => (.object members, rest)
      else if c = 'n' then (dropWord ['u', 'l', 'l'] rest).map (Draft.null, ·)
      else if c = 't' then (dropWord ['r', 'u', 'e'] rest).map (Draft.bool true, ·)
      else if c = 'f' then (dropWord ['a', 'l', 's', 'e'] rest).map (Draft.bool false, ·)
      else (readNumber (c :: rest)).map fun (n, rest) => (.number n.value, rest)

/-- Reads the items of an array up to its closing bracket. -/
def readItems (fuel : Nat) (text : List Char) : Option (List Draft × List Char) :=
  match fuel with
  | 0 => none
  | fuel + 1 =>
    match readValue fuel text with
    | none => none
    | some (item, rest) =>
      match skipBlanks rest with
      | ']' :: rest => some ([item], rest)
      | ',' :: rest => (readItems fuel rest).map fun (items, rest) => (item :: items, rest)
      | _ => none

/-- Reads the members of an object up to its closing brace. -/
def readMembers (fuel : Nat) (text : List Char) :
    Option (List (Option String × Draft) × List Char) :=
  match fuel with
  | 0 => none
  | fuel + 1 =>
    match skipBlanks text with
    | '"' :: rest =>
      match readString rest with
      | none => none
      | some (key, rest) =>
        match skipBlanks rest with
        | ':' :: rest =>
          match readValue fuel rest with
          | none => none
          | some (value, rest) =>
            match skipBlanks rest with
            | ',' :: rest =>
              (readMembers fuel rest).map fun (members, rest) => ((key, value) :: members, rest)
            | c :: rest => if c.toNat = 0x7D then some ([(key, value)], rest) else none
            | [] => none
        | _ => none
    | _ => none

end

namespace Draft

/-- Reads a whole text. -/
def ofText? (text : String) : Option Draft :=
  match readValue (2 * text.length + 2) text.toList with
  | some (draft, rest) => if (skipBlanks rest).isEmpty then some draft else none
  | none => none

mutual

/-- The value of a draft that is nested at most `depth` levels deep. -/
def toJson? (depth : Nat) : Draft → Option Json
  | .null => some .null
  | .bool b => some (.bool b)
  | .number n => n.map .number
  | .string s => s.map .string
  | .array items => if depth = 0 then none else (itemsToJson? (depth - 1) items).map .array
  | .object members =>
    if depth = 0 then none else (membersToJson? (depth - 1) members).map ofMembers

/-- The values of the items of an array. -/
def itemsToJson? (depth : Nat) : List Draft → Option (List Json)
  | [] => some []
  | item :: rest => do return (← toJson? depth item) :: (← itemsToJson? depth rest)

/-- The values of the members of an object, in their order. -/
def membersToJson? (depth : Nat) : List (Option String × Draft) → Option (List (String × Json))
  | [] => some []
  | (key, value) :: rest => do
    return (← key, ← toJson? depth value) :: (← membersToJson? depth rest)

end

end Draft

/-- How many levels deep a value may be nested. -/
def depthLimit : Nat := 127

/-- Reads a JSON text. -/
def ofText? (text : String) : Option Json := do
  (← Draft.ofText? text).toJson? depthLimit

end Json

end FederatedSearch
