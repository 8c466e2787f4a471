import Gazetteer.Json.Basic
import Gazetteer.Number.IntegerText
import Gazetteer.Time.Reader
import Gazetteer.Url.Basic
import Gazetteer.Validation.Pattern

/-!
# What can be wrong with a value

A value that breaks a rule gives rise to an `Issue`: the path to the offending part, the cause, and
the part itself.  A `Rejection` is a non-empty list of issues of one record, named by the record's
kind.

* `Cause.kind`, `Cause.message`, `Cause.context`: the three ways in which answers tell a cause;
* `Issue.under`: an issue of a part as an issue of the whole;
* `Rejection.message`: the head line of a rejection.
-/

namespace Gazetteer.Validation

open Number

/-- **A rule that a value breaks.** -/
inductive Cause where
  | missing
  | textExpected
  /-- A text that is torn. -/
  | textUnreadable
  | tooShort (least : Nat)
  | tooLong (greatest : Nat)
  | mismatch (pattern : Pattern)
  | listExpected
  | tooFewItems (least count : Nat)
  | integerExpected
  | integerUnreadable
  | integerTooLong
  | fractional
  | notFinite
  | below (least : Int)
  | above (greatest : Int)
  | flagExpected
  | flagUnreadable
  /-- A word other than the given ones. -/
  | unknownWord (words : List String)
  /-- Something other than a record of the given kind. -/
  | recordExpected (kind : String)
  | attributesExpected
  | momentExpected
  | noMoment (fault : MomentFault)
  | addressExpected
  | addressUnreadable (fault : AddressFault)
  | foreignScheme
  /-- A value refused for a reason of its own. -/
  | refused (reason : String)
  | unknownField
  /-- A text that is no JSON text. -/
  | malformed (reason : String)
  deriving DecidableEq, Repr

/-- The noun in the number that its count asks for. -/
def counted (count : Nat) (noun : String) : String :=
  natText count ++ " " ++ noun ++ (if count = 1 then "" else "s")

/-- Words between quotes as an enumeration in a sentence. -/
def wordsText : List String → String
  | [] => ""
  | [w] => "'" ++ w ++ "'"
  | [v, w] => "'" ++ v ++ "' or '" ++ w ++ "'"
  | v :: ws => "'" ++ v ++ "', " ++ wordsText ws

namespace Cause

/-- The name of the rule that is broken. -/
def kind : Cause → String
  | missing => "missing"
  | textExpected => "string_type"
  | textUnreadable => "string_unicode"
  | tooShort _ => "string_too_short"
  | tooLong _ => "string_too_long"
  | mismatch _ => "string_pattern_mismatch"
  | listExpected => "list_type"
  | tooFewItems .. => "too_short"
  | integerExpected => "int_type"
  | integerUnreadable => "int_parsing"
  | integerTooLong => "int_parsing_size"
  | fractional => "int_from_float"
  | notFinite => "finite_number"
  | below _ => "greater_than_equal"
  | above _ => "less_than_equal"
  | flagExpected => "bool_type"
  | flagUnreadable => "bool_parsing"
  | unknownWord _ => "enum"
  | recordExpected _ => "model_type"
  | attributesExpected => "model_attributes_type"
  | momentExpected => "datetime_type"
  | noMoment (.unreadable _) => "datetime_from_date_parsing"
  | noMoment _ => "datetime_parsing"
  | addressExpected => "url_type"
  | addressUnreadable _ => "url_parsing"
  | foreignScheme => "url_scheme"
  | refused _ => "value_error"
  | unknownField => "extra_forbidden"
  | malformed _ => "json_invalid"

/-- **What is wrong, in a sentence.** -/
def message : Cause → String
  | missing => "Field required"
  | textExpected => "Input should be a valid string"
  | textUnreadable =>
    "Input should be a valid string, unable to parse raw data as a unicode string"
  | tooShort least => "String should have at least " ++ counted least "character"
  | tooLong greatest => "String should have at most " ++ counted greatest "character"
  | mismatch pattern => "String should match pattern '" ++ pattern.text ++ "'"
  | listExpected => "Input should be a valid list"
  | tooFewItems least count =>
    "List should have at least " ++ counted least "item" ++ " after validation, not "
      ++ natText count
  | integerExpected => "Input should be a valid integer"
  | integerUnreadable => "Input should be a valid integer, unable to parse string as an integer"
  | integerTooLong => "Unable to parse input string as an integer, exceeded maximum size"
  | fractional => "Input should be a valid integer, got a number with a fractional part"
  | notFinite => "Input should be a finite number"
  | below least => "Input should be greater than or equal to " ++ intText least
  | above greatest => "Input should be less than or equal to " ++ intText greatest
  | flagExpected => "Input should be a valid boolean"
  | flagUnreadable => "Input should be a valid boolean, unable to interpret input"
  | unknownWord words => "Input should be " ++ wordsText words
  | recordExpected kind => "Input should be a valid dictionary or instance of " ++ kind
  | attributesExpected => "Input should be a valid dictionary or object to extract fields from"
  | momentExpected => "Input should be a valid datetime"
  | noMoment (.unreadable fault) => "Input should be a valid datetime or date, " ++ fault.message
  | noMoment fault => "Input should be a valid datetime, " ++ fault.message
  | addressExpected => "URL input should be a string or URL"
  | addressUnreadable fault => "Input should be a valid URL, " ++ fault.message
  | foreignScheme => "URL scheme should be 'http' or 'https'"
  | refused reason => "Value error, " ++ reason
  | unknownField => "Extra inputs are not permitted"
  | malformed _ => "JSON decode error"

/-- The particulars of a cause, if it has any. -/
def context : Cause → Option Json
  | tooShort least => some (.object [("min_length", .int least)])
  | tooLong greatest => some (.object [("max_length", .int greatest)])
  | mismatch pattern => some (.object [("pattern", .text pattern.text)])
  | tooFewItems least count =>
    some (.object [("field_type", .text "List"), ("min_length", .int least),
      ("actual_length", .int count)])
  | below least => some (.object [("ge", .int least)])
  | above greatest => some (.object [("le", .int greatest)])
  | malformed reason => some (.object [("error", .text reason)])
  | _ => none

end Cause

/-- A step from a value to one of its parts. -/
inductive Step where
  | field (name : String)
  /-- A field that is not kept under its own name, by the code points of the name. -/
  | misnamed (name : List Nat)
  | item (index : Nat)
  deriving DecidableEq, Repr

/-- The step to a field, given what is kept of it. -/
def Step.toField (name : String) : Json → Step
  | .misnamed points _ => .misnamed points
  | _ => .field name

/-- A step in an answer. -/
def Step.json : Step → Json
  | .field name => .text name
  | .misnamed points => .ofPoints points
  | .item index => .int index

/-- **One thing that is wrong with a value.** -/
structure Issue where
  path : List Step
  cause : Cause
  /-- The offending part. -/
  input : Json
  deriving Repr

namespace Issue

/-- An issue of a part as an issue of the whole. -/
def under (step : Step) (i : Issue) : Issue := { i with path := step :: i.path }

/-- An issue with what is told of the offending part. -/
def encoded (i : Issue) : Issue := { i with input := i.input.encoded }

/-- An issue in short: the kind, the path and the message. -/
def brief (i : Issue) : Json :=
  .object [("type", .text i.cause.kind), ("loc", .array (i.path.map Step.json)),
    ("msg", .text i.cause.message)]

/-- An issue in full: with the offending part and the particulars. -/
def json (i : Issue) : Json :=
  .object ([("type", .text i.cause.kind), ("loc", .array (i.path.map Step.json)),
    ("msg", .text i.cause.message), ("input", i.input)]
    ++ (match i.cause.context with
      | some particulars => [("ctx", particulars)]
      | none => []))

end Issue

/-- **The refusal of a record.** -/
structure Rejection where
  /-- The kind of the record. -/
  kind : String
  issues : List Issue
  deriving Repr

/-- The head line of a refusal. -/
def Rejection.message (r : Rejection) : String :=
  counted r.issues.length "validation error" ++ " for " ++ r.kind

end Gazetteer.Validation
