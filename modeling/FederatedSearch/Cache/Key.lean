import FederatedSearch.Text.CharClass
import FederatedSearch.Text.LetterCase

/-!
# Cache keys

A search is remembered under its trimmed text, in which the timestamps of time ranges are rounded
down to ten minutes, so that a search that is repeated within one such window has the same key.
Only timestamps between the quotes of a range are rounded, and only their last digit of the
minutes and their seconds change.
-/

namespace FederatedSearch

namespace CacheKey

/-! ## Timestamps -/

/-- Whether a character may stand at a place of a timestamp: `d` marks a digit, `T` a capital T
or a blank, and any other mark stands for itself. -/
def fits (mark c : Char) : Bool :=
  if mark = 'd' then Text.isDigit c
  else if mark = 'T' then c == 'T' || c == ' '
  else c == mark

/-- Whether a text starts with characters that fit some marks. -/
def startsWith : List Char → List Char → Bool
  | [], _ => true
  | _ :: _, [] => false
  | mark :: marks, c :: text => fits mark c && startsWith marks text

/-- The form of a timestamp up to its seconds. -/
def timestampMarks : List Char :=
  ['d', 'd', 'd', 'd', '-', 'd', 'd', '-', 'd', 'd', 'T', 'd', 'd', ':', 'd', 'd', ':', 'd', 'd']

/-- How many characters of a timestamp rounding keeps. -/
def keptLength : Nat := 15

/-- What takes the place of the last digit of the minutes and of the seconds. -/
def roundedTail : List Char := ['0', ':', '0', '0']

/-- Rounds the timestamps of a text, from the left; timestamps do not overlap. -/
def roundTimestamps : List Char → List Char
  | [] => []
  | c :: rest =>
    if startsWith timestampMarks (c :: rest) then
      (c :: rest).take keptLength ++ roundedTail ++
        roundTimestamps (rest.drop (timestampMarks.length - 1))
    else c :: roundTimestamps rest
termination_by text => text.length
decreasing_by
  all_goals simp only [List.length_drop, List.length_cons]; omega

/-! ## Time ranges -/

/-- What follows a word at the start of a text, whatever the case of the letters in the text. The
word is given in lower case. -/
def dropWord : List Char → List Char → Option (List Char)
  | [], text => some text
  | _ :: _, [] => none
  | w :: word, c :: text => if Text.asciiLower c = w then dropWord word text else none

/-- What follows the white space at the start of a text, of which there has to be some. -/
def dropBlanks : List Char → Option (List Char)
  | [] => none
  | c :: text => if Text.isWhitespace c then some (text.dropWhile Text.isWhitespace) else none

/-- What follows the next quote. -/
def dropToQuote : List Char → Option (List Char)
  | [] => none
  | c :: text => if c = '\'' then some text else dropToQuote text

/-- What follows a quoted text at the start of a text. -/
def dropQuoted : List Char → Option (List Char)
  | '\'' :: text => dropToQuote text
  | _ => none

/-- What follows a range of the time field at the start of a text: the name of the field, BETWEEN,
and two quoted bounds with AND in between. -/
def dropRange (text : List Char) : Option (List Char) := do
  let text ← dropWord ['d', 'a', 't', 'e', 't', 'i', 'm', 'e'] text
  let text ← dropBlanks text
  let text ← dropWord ['b', 'e', 't', 'w', 'e', 'e', 'n'] text
  let text ← dropBlanks text
  let text ← dropQuoted text
  let text ← dropBlanks text
  let text ← dropWord ['a', 'n', 'd'] text
  let text ← dropBlanks text
  dropQuoted text

/-- A word is passed over character by character. -/
theorem length_of_dropWord {word text rest : List Char} (h : dropWord word text = some rest) :
    rest.length + word.length = text.length := by
  induction word generalizing text with
  | nil => simp_all [dropWord]
  | cons w word ih =>
    cases text with
    | nil => simp [dropWord] at h
    | cons c text =>
      simp only [dropWord] at h
      split at h
      · have := ih h
        simp only [List.length_cons]
        omega
      · simp at h

/-- Passing over white space shortens a text. -/
theorem length_of_dropBlanks {text rest : List Char} (h : dropBlanks text = some rest) :
    rest.length < text.length := by
  cases text with
  | nil => simp [dropBlanks] at h
  | cons c text =>
    simp only [dropBlanks] at h
    split at h
    · simp only [Option.some.injEq] at h
      subst h
      have := (List.dropWhile_sublist (l := text) Text.isWhitespace).length_le
      simp only [List.length_cons]
      omega
    · simp at h

/-- Passing over a text up to a quote shortens it. -/
theorem length_of_dropToQuote {text rest : List Char} (h : dropToQuote text = some rest) :
    rest.length < text.length := by
  induction text with
  | nil => simp [dropToQuote] at h
  | cons c text ih =>
    simp only [dropToQuote] at h
    split at h
    · simp_all
    · have := ih h
      simp only [List.length_cons]
      omega

/-- Passing over a quoted text shortens a text. -/
theorem length_of_dropQuoted {text rest : List Char} (h : dropQuoted text = some rest) :
    rest.length < text.length := by
  unfold dropQuoted at h
  split at h
  · have := length_of_dropToQuote h
    simp only [List.length_cons]
    omega
  · simp at h

/-- A range takes up a part of the text. -/
theorem length_of_dropRange {text rest : List Char} (h : dropRange text = some rest) :
    rest.length < text.length := by
  simp only [dropRange, Option.bind_eq_bind, Option.bind_eq_some_iff] at h
  obtain ⟨_, h1, _, h2, _, h3, _, h4, _, h5, _, h6, _, h7, _, h8, h9⟩ := h
  have := length_of_dropWord h1
  have := length_of_dropBlanks h2
  have := length_of_dropWord h3
  have := length_of_dropBlanks h4
  have := length_of_dropQuoted h5
  have := length_of_dropBlanks h6
  have := length_of_dropWord h7
  have := length_of_dropBlanks h8
  have := length_of_dropQuoted h9
  omega

/-- Rounds the timestamps in the time ranges of a text, from the left; ranges do not overlap. -/
def roundRanges : List Char → List Char
  | [] => []
  | c :: rest =>
    match _h : dropRange (c :: rest) with
    | some after =>
      roundTimestamps ((c :: rest).take (rest.length + 1 - after.length)) ++ roundRanges after
    | none => c :: roundRanges rest
termination_by text => text.length
decreasing_by
  · exact length_of_dropRange (by assumption)
  · simp

end CacheKey

/-- The key of a query text. -/
def cacheKey (text : String) : String :=
  String.ofList (CacheKey.roundRanges (Text.trim text.toList))

end FederatedSearch
