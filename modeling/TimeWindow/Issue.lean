import TimeWindow.Json.Basic

/-!
# Issues

What is wrong with one field of a request body, a query or a configuration:
where it stands, which rule it breaks, and the text of the rule when the rule is
the service's own.
-/

namespace TimeWindow

namespace Issue

inductive Rule where
  | missing
  | extraForbidden
  | dateTimeType
  | dateTimeParsing
  | dateTimeFromDateParsing
  | stringType
  | stringUnicode
  | stringTooShort
  | integerType
  | integerParsing
  | integerParsingSize
  | integerFromDouble
  | finiteNumber
  | boolType
  | boolParsing
  | doubleType
  | doubleParsing
  | greaterThan
  | greaterThanEqual
  | lessThanEqual
  | modelAttributesType
  | jsonInvalid
  | valueError
  deriving DecidableEq, Repr

def Rule.label : Rule → String
  | .missing => "missing"
  | .extraForbidden => "extra_forbidden"
  | .dateTimeType => "datetime_type"
  | .dateTimeParsing => "datetime_parsing"
  | .dateTimeFromDateParsing => "datetime_from_date_parsing"
  | .stringType => "string_type"
  | .stringUnicode => "string_unicode"
  | .stringTooShort => "string_too_short"
  | .integerType => "int_type"
  | .integerParsing => "int_parsing"
  | .integerParsingSize => "int_parsing_size"
  | .integerFromDouble => "int_from_float"
  | .finiteNumber => "finite_number"
  | .boolType => "bool_type"
  | .boolParsing => "bool_parsing"
  | .doubleType => "float_type"
  | .doubleParsing => "float_parsing"
  | .greaterThan => "greater_than"
  | .greaterThanEqual => "greater_than_equal"
  | .lessThanEqual => "less_than_equal"
  | .modelAttributesType => "model_attributes_type"
  | .jsonInvalid => "json_invalid"
  | .valueError => "value_error"

/-- One step of the way to a field: a name, or a position in a text. -/
inductive Place where
  | name (s : String)
  | index (n : Nat)
  deriving DecidableEq, Repr

end Issue

structure Issue where
  location : List Issue.Place
  rule : Issue.Rule
  message : Option String := none
  deriving DecidableEq, Repr

namespace Issue

def ofText (location : List Place) (text : String) : Issue :=
  { location, rule := .valueError, message := some ("Value error, " ++ text) }

def within (outer : List Place) (i : Issue) : Issue :=
  { i with location := outer ++ i.location }

end Issue

end TimeWindow
