import FederatedSearch.Query.Token
import FederatedSearch.Text.CharClass
import FederatedSearch.WordRange

/-!
# From text to tokens

A text is cut into tokens from left to right; white space between them is passed over. Each
step cuts a token and a nonempty stretch of characters off the front of the text, so the tokens
tile the text.
-/

namespace FederatedSearch

namespace Lexer

/-- A token cut off the front of a text: the characters it takes and those that are left. -/
structure Cut where
  token : Token
  lexeme : List Char
  rest : List Char

/-- The bytes that characters take in UTF-8. -/
def byteLength : List Char → Nat
  | [] => 0
  | c :: rest => c.utf8Size + byteLength rest

/-- The value of decimal digits. -/
def digitsValue (digits : List Char) : Nat :=
  digits.foldl (fun n c => n * 10 + (c.toNat - 48)) 0

/-- The token of a whole number, which has to fit into 64 bits with its sign. -/
def integerToken (negative : Bool) (digits : List Char) : Token :=
  let value : Int := if negative then -(digitsValue digits : Int) else digitsValue digits
  if WordRange.isSigned value then .integer value else .illegal

/-- The token of a number with a fraction. -/
def floatToken (negative : Bool) (whole fraction : List Char) : Token :=
  .float (Double.ofDecimal negative (digitsValue (whole ++ fraction)) (-(fraction.length : Int)))

/-- Cuts a number whose sign has been passed. A point belongs to the number only when a digit
follows it. -/
def cutNumber (negative : Bool) (text : List Char) : Cut :=
  let sign := if negative then ['-'] else []
  let whole := text.takeWhile Text.isAsciiDigit
  match text.dropWhile Text.isAsciiDigit with
  | '.' :: c :: rest =>
    if Text.isAsciiDigit c then
      let fraction := (c :: rest).takeWhile Text.isAsciiDigit
      ⟨floatToken negative whole fraction, sign ++ whole ++ '.' :: fraction,
        (c :: rest).dropWhile Text.isAsciiDigit⟩
    else ⟨integerToken negative whole, sign ++ whole, '.' :: c :: rest⟩
  | rest => ⟨integerToken negative whole, sign ++ whole, rest⟩

/-- The text of a string up to its closing quote, and what follows that quote. A backslash takes
the next character with it, and two quotes do not end the string. -/
def spanString (quote : Char) : List Char → Option (List Char × List Char)
  | [] => none
  | ['\\'] => none
  | '\\' :: c :: rest => (spanString quote rest).map fun (raw, after) => ('\\' :: c :: raw, after)
  | [c] => if c = quote then some ([], []) else none
  | c :: d :: rest =>
    if c = quote then
      if d = quote then (spanString quote rest).map fun (raw, after) => (c :: d :: raw, after)
      else some ([], d :: rest)
    else (spanString quote (d :: rest)).map fun (raw, after) => (c :: raw, after)

/-- Cuts a string whose opening quote has been passed. -/
def cutString (quote : Char) (text : List Char) : Cut :=
  match spanString quote text with
  | some (raw, rest) => ⟨.string (String.ofList raw), quote :: raw ++ [quote], rest⟩
  | none => ⟨.illegal, quote :: text, []⟩

/-- The quote of names. -/
def nameQuote : Char := Char.ofNat 96

/-- Cuts a quoted name whose opening quote has been passed. -/
def cutQuotedName (text : List Char) : Cut :=
  let name := text.takeWhile (· != nameQuote)
  match text.dropWhile (· != nameQuote) with
  | [] => ⟨.illegal, nameQuote :: text, []⟩
  | _ :: rest => ⟨.identifier (String.ofList name), nameQuote :: name ++ [nameQuote], rest⟩

/-- Whether a word may start with a character. -/
def isWordStart (c : Char) : Bool :=
  Text.isAlphabetic c || c == '_'

/-- Whether a word may go on with a character. -/
def isWordPart (c : Char) : Bool :=
  Text.isAlphanumeric c || c == '_' || c == '-' || c == '.'

/-- The token of a word: a keyword or a name. -/
def wordToken (word : List Char) : Token :=
  match Keyword.ofWord? word with
  | some k => .keyword k
  | none => .identifier (String.ofList word)

/-- Cuts a word that starts with `c`. -/
def cutWord (c : Char) (rest : List Char) : Cut :=
  let word := c :: rest.takeWhile isWordPart
  ⟨wordToken word, word, rest.dropWhile isWordPart⟩

/-- Cuts a symbol of one character. -/
def cutSymbol (s : Symbol) (c : Char) (rest : List Char) : Cut :=
  ⟨.symbol s, [c], rest⟩

/-- Cuts the token off the front of a text that starts with `c`, which is no white space. -/
def cut (c : Char) (rest : List Char) : Cut :=
  match c with
  | '=' => cutSymbol .eq c rest
  | '(' => cutSymbol .lparen c rest
  | ')' => cutSymbol .rparen c rest
  | ',' => cutSymbol .comma c rest
  | '*' => cutSymbol .star c rest
  | '<' =>
    match rest with
    | '=' :: rest => ⟨.symbol .lte, ['<', '='], rest⟩
    | '>' :: rest => ⟨.symbol .notEq, ['<', '>'], rest⟩
    | _ => cutSymbol .lt c rest
  | '>' =>
    match rest with
    | '=' :: rest => ⟨.symbol .gte, ['>', '='], rest⟩
    | _ => cutSymbol .gt c rest
  | '!' =>
    match rest with
    | '=' :: rest => ⟨.symbol .notEq, ['!', '='], rest⟩
    | _ => ⟨.illegal, [c], rest⟩
  | _ =>
    if c = '\'' ∨ c = '"' then cutString c rest
    else if c = nameQuote then cutQuotedName rest
    else if c = '-' ∧ (rest.head?.any Text.isAsciiDigit) = true then cutNumber true rest
    else if Text.isAsciiDigit c then cutNumber false (c :: rest)
    else if isWordStart c then cutWord c rest
    else ⟨.illegal, [c], rest⟩

/-- The tokens of a text that begins at the given byte. Every step passes over a character, so
`fuel` may be the length of the text. -/
def tokensFrom : (fuel : Nat) → (start : Nat) → List Char → List PlacedToken
  | 0, _, _ => []
  | _, _, [] => []
  | fuel + 1, start, c :: rest =>
    if Text.isWhitespace c then tokensFrom fuel (start + c.utf8Size) rest
    else
      let piece := cut c rest
      let stop := start + byteLength piece.lexeme
      ⟨piece.token, ⟨start, stop⟩⟩ :: tokensFrom fuel stop piece.rest

end Lexer

/-- The tokens of a query text. -/
def tokens (text : String) : List PlacedToken :=
  Lexer.tokensFrom text.length 0 text.toList

end FederatedSearch
