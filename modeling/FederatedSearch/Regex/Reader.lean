import FederatedSearch.Regex.Syntax

/-!
# Reading patterns

The notation of patterns: literals and escapes, bracketed classes with the set operations `&&`,
`--` and `~~`, groups with and without a name, alternatives, repetitions, anchors, and the flags
`i`, `m`, `s`, `U` and `x`, which hold up to the end of the group they are set in. A text that is
not of this form has no pattern. Classes of Unicode properties (`\p` and `\P`) and the flags `R` and
`-u` are left out: texts with them have a pattern, but none here.
-/

namespace FederatedSearch.Regex

/-- How the following part of a pattern is to be read. -/
structure Flags where
  ignoreCase : Bool := false
  multiLine : Bool := false
  dotMatchesNewline : Bool := false
  swapGreed : Bool := false
  verbose : Bool := false
  deriving DecidableEq, Repr, Inhabited

/-- What is left to read, the flags in force, and the groups opened so far. -/
structure Reading where
  rest : List Char
  flags : Flags
  groups : Nat
  names : List (String × Nat)
  deriving Repr, Inhabited

/-- Skips white space and comments, which patterns may contain only under the flag `x`. -/
def skipVerbose : Nat → List Char → List Char
  | 0, text => text
  | fuel + 1, text =>
    match text.dropWhile Text.isWhitespace with
    | '#' :: rest => skipVerbose fuel (rest.dropWhile (· != '\n'))
    | rest => rest

/-- Skips what the flags in force say has no meaning. -/
def skip (verbose : Bool) (text : List Char) : List Char :=
  if verbose then skipVerbose text.length text else text

namespace Reading

/-- Goes on with `rest`. -/
def at_ (r : Reading) (rest : List Char) : Reading :=
  { r with rest }

/-- Skips what has no meaning under the flags in force. -/
def skipped (r : Reading) : Reading :=
  r.at_ (skip r.flags.verbose r.rest)

end Reading

/-- The characters with a meaning of their own. -/
def isMeta (c : Char) : Bool :=
  ['\\', '.', '+', '*', '?', '(', ')', '|', '[', ']', Char.ofNat 0x7B, Char.ofNat 0x7D, '^', '$',
    '#', '&', '-', '~'].contains c

/-- The characters that a backslash may stand before without giving them a meaning. -/
def isEscapable (c : Char) : Bool :=
  c.val < 128 &&
    !(Text.isAsciiLetter c || Text.isAsciiDigit c || c == '<' || c == '>')

/-- The value of a hexadecimal digit. -/
def hexDigit? (c : Char) : Option Nat :=
  if '0' ≤ c ∧ c ≤ '9' then some (c.toNat - 48)
  else if 'a' ≤ c ∧ c ≤ 'f' then some (c.toNat - 87)
  else if 'A' ≤ c ∧ c ≤ 'F' then some (c.toNat - 55)
  else none

/-- The number that hexadecimal digits stand for. -/
def hexNumber? (digits : List Char) : Option Nat :=
  if digits.isEmpty then none
  else digits.foldlM (fun n c => (hexDigit? c).map (n * 16 + ·)) 0

/-- The character with a code point. -/
def charOf? (code : Nat) : Option Char :=
  if code < 0xD800 ∨ (0xDFFF < code ∧ code < 0x110000) then some (Char.ofNat code) else none

/-- Reads the digits of a hexadecimal escape: `width` of them, or any number in braces. -/
def readHex (width : Nat) (text : List Char) : Option (Char × List Char) :=
  match text with
  | [] => none
  | c :: rest =>
    if c = Char.ofNat 0x7B then
      match rest.dropWhile (· != Char.ofNat 0x7D) with
      | [] => none
      | _ :: after => do
        let code ← hexNumber? (rest.takeWhile (· != Char.ofNat 0x7D))
        return (← charOf? code, after)
    else if (text.take width).length < width then none
    else do
      let code ← hexNumber? (text.take width)
      return (← charOf? code, text.drop width)

/-- What one item of a pattern or of a class may be. -/
inductive Item
  | char (c : Char)
  | set (s : CharSet)
  | anchor (a : Anchor)

/-- Whether a character may stand in the name of a word boundary. -/
def isBoundaryNameChar (c : Char) : Bool :=
  Text.isAsciiLetter c || c == '-'

/-- The boundary that is named in braces after `\b`, if the braces hold a name. -/
def readBoundary (text : List Char) : Option (Anchor × List Char) :=
  match text with
  | c :: d :: rest =>
    if c = Char.ofNat 0x7B ∧ isBoundaryNameChar d then
      let name := String.ofList ((d :: rest).takeWhile isBoundaryNameChar)
      match (d :: rest).dropWhile isBoundaryNameChar with
      | e :: after =>
        if e ≠ Char.ofNat 0x7D then none
        else if name = "start" then some (.wordStart, after)
        else if name = "end" then some (.wordEnd, after)
        else if name = "start-half" then some (.wordStartHalf, after)
        else if name = "end-half" then some (.wordEndHalf, after)
        else none
      | [] => none
    else some (.wordBoundary, text)
  | [c] => if c = Char.ofNat 0x7B then none else some (.wordBoundary, text)
  | [] => some (.wordBoundary, text)

/-- Reads what follows a backslash. -/
def readEscape (text : List Char) : Option (Item × List Char) :=
  match text with
  | [] => none
  | c :: rest =>
    if isMeta c ∨ isEscapable c then some (.char c, rest)
    else match c with
      | 'x' => (readHex 2 rest).map fun (c, rest) => (.char c, rest)
      | 'u' => (readHex 4 rest).map fun (c, rest) => (.char c, rest)
      | 'U' => (readHex 8 rest).map fun (c, rest) => (.char c, rest)
      | 'd' => some (.set .digit, rest)
      | 'D' => some (.set (.compl .digit), rest)
      | 's' => some (.set .space, rest)
      | 'S' => some (.set (.compl .space), rest)
      | 'w' => some (.set .word, rest)
      | 'W' => some (.set (.compl .word), rest)
      | 'a' => some (.char (Char.ofNat 7), rest)
      | 'f' => some (.char (Char.ofNat 12), rest)
      | 't' => some (.char '\t', rest)
      | 'n' => some (.char '\n', rest)
      | 'r' => some (.char '\r', rest)
      | 'v' => some (.char (Char.ofNat 11), rest)
      | 'A' => some (.anchor .textStart, rest)
      | 'z' => some (.anchor .textEnd, rest)
      | 'B' => some (.anchor .notWordBoundary, rest)
      | '<' => some (.anchor .wordStart, rest)
      | '>' => some (.anchor .wordEnd, rest)
      | 'b' => (readBoundary rest).map fun (a, rest) => (.anchor a, rest)
      | _ => none

/-! ## Classes -/

/-- A set, closed under letter case if that is asked for. -/
def foldIf (ignoreCase : Bool) (s : CharSet) : CharSet :=
  if ignoreCase then .folded s else s

/-- The ASCII classes that may be named inside a bracketed class. -/
def asciiClass? (name : String) : Option CharSet :=
  let lower := CharSet.range 'a' 'z'
  let upper := CharSet.range 'A' 'Z'
  let digits := CharSet.range '0' '9'
  let alpha := CharSet.union upper lower
  if name = "alnum" then some (.union digits alpha)
  else if name = "alpha" then some alpha
  else if name = "ascii" then some (.range (Char.ofNat 0) (Char.ofNat 0x7F))
  else if name = "blank" then some (.union (.single '\t') (.single ' '))
  else if name = "cntrl" then
    some (.union (.range (Char.ofNat 0) (Char.ofNat 0x1F)) (.single (Char.ofNat 0x7F)))
  else if name = "digit" then some digits
  else if name = "graph" then some (.range '!' '~')
  else if name = "lower" then some lower
  else if name = "print" then some (.range ' ' '~')
  else if name = "punct" then
    some (.unions [.range '!' '/', .range ':' '@', .range '[' (Char.ofNat 96),
      .range (Char.ofNat 0x7B) '~'])
  else if name = "space" then
    some (.union (.range '\t' '\r') (.single ' '))
  else if name = "upper" then some upper
  else if name = "word" then some (.unions [digits, alpha, .single '_'])
  else if name = "xdigit" then some (.unions [digits, .range 'A' 'F', .range 'a' 'f'])
  else none

/-- Reads the name of an ASCII class after its opening bracket. -/
def readAsciiClass (text : List Char) : Option (CharSet × List Char) :=
  match text with
  | ':' :: rest =>
    let (negated, rest) := match rest with
      | '^' :: more => (true, more)
      | _ => (false, rest)
    match rest.dropWhile (· != ':') with
    | ':' :: ']' :: after =>
      (asciiClass? (String.ofList (rest.takeWhile (· != ':')))).map fun s =>
        (if negated then .compl s else s, after)
    | _ => none
  | _ => none

/-- The operations on the sets that stand side by side in a class. -/
inductive SetOperation
  | inter
  | diff
  | symmDiff

/-- The set that an operation makes of two. -/
def SetOperation.apply (ignoreCase : Bool) (left right : CharSet) : SetOperation → CharSet
  | inter => .inter (foldIf ignoreCase left) (foldIf ignoreCase right)
  | diff => .diff (foldIf ignoreCase left) (foldIf ignoreCase right)
  | symmDiff => .symmDiff (foldIf ignoreCase left) (foldIf ignoreCase right)

/-- What has been read of a class: the set before the last operation, that operation, and the
items after it. -/
structure ClassReading where
  pending : Option (CharSet × SetOperation)
  items : CharSet

/-- The set that has been read so far. -/
def ClassReading.close (ignoreCase : Bool) (r : ClassReading) : CharSet :=
  match r.pending with
  | some (left, operation) => operation.apply ignoreCase left r.items
  | none => r.items

/-- Reads one item of a class. -/
def readClassItem (text : List Char) : Option (Item × List Char) :=
  match text with
  | '\\' :: rest => readEscape rest
  | c :: rest => some (.char c, rest)
  | [] => none

/-- The set of a class item that stands alone. Anchors have no place in a class. -/
def Item.toSet? : Item → Option CharSet
  | char c => some (.single c)
  | set s => some s
  | anchor _ => none

/-- Reads an item of a class, or a range between two characters. -/
def readClassRange (verbose : Bool) (text : List Char) : Option (CharSet × List Char) := do
  let (item, rest) ← readClassItem text
  match skip verbose rest with
  | '-' :: after =>
    match skip verbose after with
    | ']' :: _ => return (← item.toSet?, '-' :: after)
    | '-' :: _ => return (← item.toSet?, '-' :: after)
    | [] => none
    | more =>
      let (last, rest) ← readClassItem more
      match item, last with
      | .char c, .char d => if c ≤ d then some (.range c d, rest) else none
      | _, _ => none
  | [] => none
  | rest => return (← item.toSet?, rest)

/-- Reads the dashes and the closing bracket that stand for themselves at the start of a class. -/
def readClassStart (verbose : Bool) : Nat → Bool → CharSet → List Char → CharSet × List Char
  | 0, _, items, text => (items, text)
  | fuel + 1, dashes, items, text =>
    match skip verbose text with
    | '-' :: rest => readClassStart verbose fuel true (.union items (.single '-')) rest
    | ']' :: rest => if dashes then (items, ']' :: rest) else (.union items (.single ']'), rest)
    | rest => (items, rest)

mutual

/-- Reads a class after its opening bracket. -/
def readClass (flags : Flags) : Nat → List Char → Option (CharSet × List Char)
  | 0, _ => none
  | fuel + 1, text =>
    let (negated, text) := match skip flags.verbose text with
      | '^' :: rest => (true, rest)
      | rest => (false, rest)
    let (items, text) := readClassStart flags.verbose text.length false .none text
    match readClassBody flags fuel ⟨none, items⟩ text with
    | none => none
    | some (s, rest) =>
      let s := foldIf flags.ignoreCase s
      some (if negated then .compl s else s, rest)

/-- Reads the items of a class up to its closing bracket. -/
def readClassBody (flags : Flags) : Nat → ClassReading → List Char → Option (CharSet × List Char)
  | 0, _, _ => none
  | fuel + 1, r, text =>
    let continueWith (operation : SetOperation) (rest : List Char) :=
      readClassBody flags fuel ⟨some (r.close flags.ignoreCase, operation), .none⟩ rest
    match skip flags.verbose text with
    | [] => none
    | '[' :: rest =>
      match readAsciiClass rest with
      | some (s, rest) => readClassBody flags fuel { r with items := .union r.items s } rest
      | none =>
        match readClass flags fuel rest with
        | some (s, rest) => readClassBody flags fuel { r with items := .union r.items s } rest
        | none => none
    | ']' :: rest => some (r.close flags.ignoreCase, rest)
    | '&' :: '&' :: rest => continueWith .inter rest
    | '-' :: '-' :: rest => continueWith .diff rest
    | '~' :: '~' :: rest => continueWith .symmDiff rest
    | c :: rest =>
      match readClassRange flags.verbose (c :: rest) with
      | some (s, rest) => readClassBody flags fuel { r with items := .union r.items s } rest
      | none => none

end

/-! ## Repetitions -/

/-- Reads a number between blanks. -/
def readCount (verbose : Bool) (text : List Char) : Option Nat × List Char :=
  let text := text.dropWhile Text.isWhitespace
  let digits := text.takeWhile Text.isAsciiDigit
  let rest := skip verbose (text.dropWhile Text.isAsciiDigit)
  let rest := rest.dropWhile Text.isWhitespace
  let value := digits.foldl (fun n c => n * 10 + (c.toNat - 48)) 0
  (if digits.isEmpty ∨ 4294967296 ≤ value then none else some value, rest)

/-- Reads the bounds of a repetition after its opening brace. -/
def readBounds (verbose : Bool) (text : List Char) : Option ((Nat × Option Nat) × List Char) :=
  let (least, text) := readCount verbose text
  let bounds : Option ((Nat × Option Nat) × List Char) := match least, text with
    | some n, ',' :: rest =>
      match skip verbose rest with
      | [] => none
      | c :: more =>
        if c = Char.ofNat 0x7D then some ((n, none), c :: more)
        else match readCount verbose (c :: more) with
          | (some m, rest) => if n ≤ m then some ((n, some m), rest) else none
          | (none, _) => none
    | some n, rest => some ((n, some n), rest)
    | none, _ => none
  match bounds with
  | some (range, c :: rest) => if c = Char.ofNat 0x7D then some (range, rest) else none
  | _ => none

/-- Reads the question mark that makes a repetition lazy. -/
def readLazy (verbose : Bool) (text : List Char) : Bool × List Char :=
  match skip verbose text with
  | '?' :: rest => (true, rest)
  | _ => (false, text)

/-! ## Groups -/

/-- Sets one flag. -/
def Flags.set? (flags : Flags) (value : Bool) (letter : Char) : Option Flags :=
  match letter with
  | 'i' => some { flags with ignoreCase := value }
  | 'm' => some { flags with multiLine := value }
  | 's' => some { flags with dotMatchesNewline := value }
  | 'U' => some { flags with swapGreed := value }
  | 'x' => some { flags with verbose := value }
  | 'u' => if value then some flags else none
  | _ => none

/-- Reads flags up to the character that ends them, a colon or a closing parenthesis. Each flag
and the minus sign may occur once, and flags must follow the minus sign. -/
def readFlags (flags : Flags) (used : List Char) (value dangling : Bool) :
    List Char → Option (Flags × Bool × Char × List Char)
  | [] => none
  | c :: rest =>
    if c = ':' ∨ c = ')' then
      if dangling then none else some (flags, used.isEmpty, c, rest)
    else if used.contains c then none
    else if c = '-' then readFlags flags (c :: used) false true rest
    else match flags.set? value c with
      | some flags => readFlags flags (c :: used) value false rest
      | none => none

/-- Whether a character may stand in the name of a group, at its start or after it. -/
def isGroupNameChar (first : Bool) (c : Char) : Bool :=
  c == '_' ||
    if first then Text.isAlphabetic c
    else c == '.' || c == '[' || c == ']' || Text.isAlphanumeric c

/-- Reads the name of a group up to its closing angle bracket. -/
def readGroupName (text : List Char) : Option (String × List Char) :=
  match text.takeWhile (· != '>'), text.dropWhile (· != '>') with
  | c :: more, _ :: after =>
    if isGroupNameChar true c && more.all (isGroupNameChar false) then
      some (String.ofList (c :: more), after)
    else none
  | _, _ => none

/-! ## Patterns -/

/-- The pattern of a character, a set or an anchor under flags. -/
def Item.toPattern (flags : Flags) : Item → Pattern
  | char c => .one (if flags.ignoreCase then .caseless c else .single c)
  | set s => .one s
  | anchor a => .anchor a

/-- Reads an item that stands outside of classes and groups. -/
def readItem (flags : Flags) (text : List Char) : Option (Pattern × List Char) :=
  match text with
  | [] => none
  | '\\' :: rest => (readEscape rest).map fun (item, rest) => (item.toPattern flags, rest)
  | '.' :: rest => some (.one (if flags.dotMatchesNewline then .all else .anyInLine), rest)
  | '^' :: rest => some (.anchor (if flags.multiLine then .lineStart else .textStart), rest)
  | '$' :: rest => some (.anchor (if flags.multiLine then .lineEnd else .textEnd), rest)
  | c :: rest => some ((Item.char c).toPattern flags, rest)

/-- Repeats the last of the parts read so far, which come in reverse. Flags cannot be repeated,
nor can nothing. -/
def repeatLast (parts : List (Option Pattern)) (flags : Flags) (least : Nat) (most : Option Nat)
    (isLazy : Bool) : Option (List (Option Pattern)) :=
  match parts with
  | some last :: before =>
    some (some (.rounds last least most (isLazy == flags.swapGreed)) :: before)
  | _ => none

/-- The sequence of the parts read so far, which come in reverse. -/
def joinParts (parts : List (Option Pattern)) : Pattern :=
  .sequence (parts.reverse.filterMap id)

mutual

/-- Reads alternatives up to the end of their group. -/
def readAlternatives : Nat → Reading → Option (List Pattern × Reading)
  | 0, _ => none
  | fuel + 1, r =>
    match readParts fuel [] r with
    | none => none
    | some (first, r) =>
      match r.rest with
      | '|' :: rest =>
        match readAlternatives fuel (r.at_ rest) with
        | some (more, r) => some (first :: more, r)
        | none => none
      | _ => some ([first], r)

/-- Reads the parts of one alternative. -/
def readParts : Nat → List (Option Pattern) → Reading → Option (Pattern × Reading)
  | 0, _, _ => none
  | fuel + 1, parts, r =>
    let r := r.skipped
    let repeated (least : Nat) (most : Option Nat) (rest : List Char) :=
      let (isLazy, rest) := readLazy r.flags.verbose rest
      match repeatLast parts r.flags least most isLazy with
      | some parts => readParts fuel parts (r.at_ rest)
      | none => none
    match r.rest with
    | [] => some (joinParts parts, r)
    | '|' :: _ => some (joinParts parts, r)
    | ')' :: _ => some (joinParts parts, r)
    | '*' :: rest => repeated 0 none rest
    | '+' :: rest => repeated 1 none rest
    | '?' :: rest => repeated 0 (some 1) rest
    | '[' :: rest =>
      match readClass r.flags (2 * rest.length + 2) rest with
      | some (s, rest) => readParts fuel (some (.one s) :: parts) (r.at_ rest)
      | none => none
    | '(' :: rest =>
      match readGroup fuel (r.at_ rest) with
      | some (part, r) => readParts fuel (part :: parts) r
      | none => none
    | c :: rest =>
      if c = Char.ofNat 0x7B then
        match readBounds r.flags.verbose rest with
        | some ((least, most), rest) => repeated least most rest
        | none => none
      else
        match readItem r.flags (c :: rest) with
        | some (part, rest) => readParts fuel (some part :: parts) (r.at_ rest)
        | none => none

/-- Reads a group after its opening parenthesis. Flags that stand alone yield no pattern. -/
def readGroup : Nat → Reading → Option (Option Pattern × Reading)
  | 0, _ => none
  | fuel + 1, r =>
    let r := r.skipped
    let named (rest : List Char) : Option (Option Pattern × Reading) :=
      match readGroupName rest with
      | none => none
      | some (name, rest) =>
        if (r.names.lookup name).isSome then none
        else
          let index := r.groups + 1
          readGroupBody fuel (some index) r.flags
            { r with rest, groups := index, names := (name, index) :: r.names }
    match r.rest with
    | '?' :: 'P' :: '<' :: rest => named rest
    | '?' :: '<' :: '=' :: _ => none
    | '?' :: '<' :: '!' :: _ => none
    | '?' :: '<' :: rest => named rest
    | '?' :: rest =>
      match readFlags r.flags [] true false rest with
      | none => none
      | some (flags, noFlags, last, rest) =>
        if last = ')' then
          if noFlags then none else some (none, { r with rest, flags })
        else readGroupBody fuel none r.flags { r with rest, flags }
    | rest =>
      let index := r.groups + 1
      readGroupBody fuel (some index) r.flags { r with rest, groups := index }

/-- Reads what a group holds up to its closing parenthesis, after which the flags from before it
hold again. -/
def readGroupBody : Nat → Option Nat → Flags → Reading → Option (Option Pattern × Reading)
  | 0, _, _, _ => none
  | fuel + 1, index, outer, r =>
    match readAlternatives fuel r with
    | none => none
    | some (branches, r) =>
      match r.rest with
      | ')' :: rest =>
        let inner := Pattern.choice branches
        let pattern := match index with
          | some n => Pattern.group n inner
          | none => inner
        some (some pattern, { r with rest, flags := outer })
      | _ => none

end

end FederatedSearch.Regex

namespace FederatedSearch

/-- Reads a pattern under initial flags. -/
def Regex.read? (flags : Regex.Flags) (text : String) : Option Regex :=
  match Regex.readAlternatives (4 * text.length + 4) ⟨text.toList, flags, 0, []⟩ with
  | some (branches, r) =>
    if r.rest.isEmpty then some ⟨Regex.Pattern.choice branches, r.names⟩ else none
  | none => none

/-- Reads a pattern. -/
def Regex.ofText? (text : String) : Option Regex :=
  Regex.read? {} text

/-- Reads a pattern that takes no notice of letter case. -/
def Regex.ofTextIgnoringCase? (text : String) : Option Regex :=
  Regex.read? { ignoreCase := true } text

end FederatedSearch
