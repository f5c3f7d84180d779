import FederatedSearch.Record
import FederatedSearch.Regex.Matching
import FederatedSearch.Regex.Reader

/-!
# Filters of document stores

A filter document is read once and then decides on records. A field is compared with a value by
equality, unless the value is a nonempty object of which every key starts with a dollar sign:
then each of its members is a condition. Numbers compare by value, other values only with values
of their own kind. A field that is absent satisfies no condition but the negative ones. How patterns
are read is a parameter (`PatternReader`), since `Regex.ofText?` knows a part of their notation.
-/

namespace FederatedSearch

namespace Document

/-- A condition on the value of a field. -/
inductive Condition
  | eq (value : Json)
  | ne (value : Json)
  | lt (bound : Json)
  | gt (bound : Json)
  | lte (bound : Json)
  | gte (bound : Json)
  | isIn (values : List Json)
  | notIn (values : List Json)
  | presence (wanted : Bool)
  /-- A pattern that has been read, by the texts that it matches. -/
  | regex (isMatch : String → Bool)
  | not (conditions : List Condition)
  deriving Inhabited

/-- A filter that has been read. -/
inductive Filter
  | all (filters : List Filter)
  | any (filters : List Filter)
  | field (path : String) (conditions : List Condition)
  deriving Inhabited

/-- Why a document is no filter. -/
inductive FilterError
  | notObject (found : Json)
  | unknownTopLevel (operator : String)
  | notList
  | unknownOperator (operator : String)
  | notArray (found : Json)
  | patternNotString (found : Json)
  | badPattern

/-- The message for a document that is no filter. -/
def FilterError.message : FilterError → String
  | notObject found => "filter must be an object, got " ++ found.compact
  | unknownTopLevel operator => "unknown top-level operator " ++ operator
  | notList => "$and/$or expect an array"
  | unknownOperator operator => "unknown operator " ++ operator
  | notArray found => "expected an array, got " ++ found.compact
  | patternNotString found => "$regex expects a string, got " ++ found.compact
  | badPattern => "regex parse error"

/-! ## Reading filters -/

/-- Whether a key is the name of an operator. -/
def isOperator (key : String) : Bool :=
  key.toList.head? == some '$'

/-- Whether the members of an object are conditions. -/
def isOperatorObject (members : List (String × Json)) : Bool :=
  !members.isEmpty && members.all fun member => isOperator member.1

/-- The values of an array. -/
def arrayOf : Json → Except FilterError (List Json)
  | .array items => .ok items
  | found => .error (.notArray found)

/-- Whether options ask to take no notice of letter case. -/
def ignoresCase : Option Json → Bool
  | some (.string options) => options.toList.contains 'i'
  | _ => false

/-- How the text of a pattern is read, with notice of letter case or without it: the texts that the
pattern matches, if there is one. -/
class PatternReader where
  read : (ignoreCase : Bool) → String → Option (String → Bool)

/-- The notation that this library reads. -/
instance PatternReader.standard : PatternReader where
  read ignoreCase text :=
    (if ignoreCase then Regex.ofTextIgnoringCase? text else Regex.ofText? text).map Regex.isMatch

variable [PatternReader]

/-- What a pattern with its options matches. -/
def regexOf (pattern : Json) (options : Option Json) : Except FilterError (String → Bool) :=
  match pattern with
  | .string text =>
    match PatternReader.read (ignoresCase options) text with
    | some isMatch => .ok isMatch
    | none => .error .badPattern
  | found => .error (.patternNotString found)

mutual

/-- The conditions that the value of a field stands for. -/
def conditionsOf : Json → Except FilterError (List Condition)
  | .object members =>
    if isOperatorObject members then operatorConditions (members.lookup "$options") members
    else .ok [.eq (.object members)]
  | value => .ok [.eq value]

/-- The conditions of operators, of which `$options` only goes with `$regex`. -/
def operatorConditions (options : Option Json) :
    List (String × Json) → Except FilterError (List Condition)
  | [] => .ok []
  | (operator, operand) :: rest => do
    if operator = "$options" then operatorConditions options rest
    else
      let condition ←
        if operator = "$eq" then pure (.eq operand)
        else if operator = "$ne" then pure (.ne operand)
        else if operator = "$lt" then pure (.lt operand)
        else if operator = "$gt" then pure (.gt operand)
        else if operator = "$lte" then pure (.lte operand)
        else if operator = "$gte" then pure (.gte operand)
        else if operator = "$in" then Condition.isIn <$> arrayOf operand
        else if operator = "$nin" then Condition.notIn <$> arrayOf operand
        else if operator = "$exists" then pure (.presence (operand.bool?.getD true))
        else if operator = "$regex" then Condition.regex <$> regexOf operand options
        else if operator = "$not" then Condition.not <$> conditionsOf operand
        else throw (.unknownOperator operator)
      return condition :: (← operatorConditions options rest)

end

/-- Several filters that have to hold together; a single one is itself. -/
def Filter.both : List Filter → Filter
  | [only] => only
  | filters => .all filters

mutual

/-- Reads a filter. -/
def Filter.ofJson : Json → Except FilterError Filter
  | .object members => Filter.both <$> Filter.clausesOf members
  | found => .error (.notObject found)

/-- Reads the filters of an array. -/
def Filter.listOf : Json → Except FilterError (List Filter)
  | .array items => Filter.itemsOf items
  | _ => .error .notList

/-- Reads filters one after the other. -/
def Filter.itemsOf : List Json → Except FilterError (List Filter)
  | [] => .ok []
  | item :: rest => do return (← Filter.ofJson item) :: (← Filter.itemsOf rest)

/-- Reads the members of a filter. -/
def Filter.clausesOf : List (String × Json) → Except FilterError (List Filter)
  | [] => .ok []
  | (key, value) :: rest => do
    let clause ←
      if key = "$and" then Filter.all <$> Filter.listOf value
      else if key = "$or" then Filter.any <$> Filter.listOf value
      else if isOperator key then throw (.unknownTopLevel key)
      else Filter.field key <$> conditionsOf value
    return clause :: (← Filter.clausesOf rest)

end

/-! ## Deciding on records -/

/-- Equality of a stored value with a wanted one: numbers by value, all else exactly. -/
def valuesEqual : Json → Json → Bool
  | .number m, .number n => m.toDouble.equal n.toDouble
  | a, b => a.equal b

/-- The order of two values of one kind: numbers, strings or truth values. -/
def compareValues : Json → Json → Option Ordering
  | .number m, .number n => some (m.toDouble.order n.toDouble)
  | .string s, .string t => some (compare s t)
  | .bool a, .bool b => some (compare a b)
  | _, _ => none

/-- The order of an optional value and a bound. -/
def compareWith (value : Option Json) (bound : Json) : Option Ordering :=
  value.bind (compareValues · bound)

/-- Whether a value is present and one of some others. -/
def isAmong (value : Option Json) (values : List Json) : Bool :=
  match value with
  | some v => values.any (valuesEqual v)
  | none => false

mutual

/-- Whether a value satisfies a condition. -/
def Condition.holds (value : Option Json) : Condition → Bool
  | .eq wanted => isAmong value [wanted]
  | .ne wanted => !isAmong value [wanted]
  | .lt bound => compareWith value bound == some .lt
  | .gt bound => compareWith value bound == some .gt
  | .lte bound => compareWith value bound == some .lt || compareWith value bound == some .eq
  | .gte bound => compareWith value bound == some .gt || compareWith value bound == some .eq
  | .isIn values => isAmong value values
  | .notIn values => !isAmong value values
  | .presence wanted => value.isSome == wanted
  | .regex isMatch =>
    match value with
    | some (.string s) => isMatch s
    | _ => false
  | .not conditions => !Condition.allHold value conditions

/-- Whether a value satisfies all of some conditions. -/
def Condition.allHold (value : Option Json) : List Condition → Bool
  | [] => true
  | condition :: rest => condition.holds value && Condition.allHold value rest

end

mutual

/-- Whether a record passes a filter. -/
def Filter.matches (record : Record) : Filter → Bool
  | .all filters => Filter.allMatch record filters
  | .any filters => Filter.anyMatches record filters
  | .field path conditions => Condition.allHold (record.lookup path) conditions

/-- Whether a record passes all of some filters. -/
def Filter.allMatch (record : Record) : List Filter → Bool
  | [] => true
  | filter :: rest => filter.matches record && Filter.allMatch record rest

/-- Whether a record passes one of some filters. -/
def Filter.anyMatches (record : Record) : List Filter → Bool
  | [] => false
  | filter :: rest => filter.matches record || Filter.anyMatches record rest

end

end Document

end FederatedSearch
