/-
# Faults

Everything that can go wrong, by its cause, with the one place that words the
messages. Some causes lie in what the user asked for (a language that does
not exist, an entry without an index); these are answered as a bad request,
the others as a failure.

Key definitions: `Fault`, `Fault.message`, `Fault.isBadInput`.
-/
import TwinQuery.Document.Display

namespace TwinQuery

/-- Why a file operation failed. -/
inductive FileProblem where
  | notFound
  | alreadyThere
  | notDirectory
  | isDirectory
  | nameTooLong
deriving DecidableEq

/-- The number and wording of a failed file operation. -/
def FileProblem.message : FileProblem → Text
  | .notFound => "[Errno 2] No such file or directory"
  | .alreadyThere => "[Errno 17] File exists"
  | .notDirectory => "[Errno 20] Not a directory"
  | .isDirectory => "[Errno 21] Is a directory"
  | .nameTooLong => "[Errno 36] File name too long"

/-- Where and why bytes are not UTF-8. -/
structure BadBytes where
  first : Nat
  position : Nat
  last : Nat
  reason : Text
deriving DecidableEq

/-- The wording for bytes that are not UTF-8. -/
def BadBytes.message (b : BadBytes) : Text :=
  if b.last = b.position then
    "'utf-8' codec can't decode byte 0x" ++ Text.hex 2 b.first ++ " in position " ++
      Text.ofNat b.position ++ ": " ++ b.reason
  else
    "'utf-8' codec can't decode bytes in position " ++ Text.ofNat b.position ++ "-" ++
      Text.ofNat b.last ++ ": " ++ b.reason

/-- What is wrong with a reference document. -/
inductive ReferenceProblem where
  | missing
  | unreadable (detail : Text)
  | noSection (name : Text)
  | badEntry (name : Text)
deriving DecidableEq

/-- A cause of failure. -/
inductive Fault where
  /-- No conversion leads from one language to the other. -/
  | unsupportedConversion (source target : Text)
  /-- The language is neither SPL nor KQL. -/
  | unsupportedLanguage (name : Text)
  /-- A reference document cannot be used. -/
  | reference (path : Text) (problem : ReferenceProblem)
  /-- The query is not a text. -/
  | queryNotText (kind : Kind)
  /-- An entry of a table mapping has no index. -/
  | entryWithoutIndex (table : Text)
  /-- A table mapping has no default entry. -/
  | noDefaultEntry
  /-- Something other than an object is given for a table mapping. -/
  | mappingNotObject (kind : Kind)
  /-- A section of the settings is no object. -/
  | sectionNotObject (kind : Kind)
  /-- The name of a table in a mapping is not a text. -/
  | tableNotText (kind : Kind)
  /-- A path is not a text. -/
  | pathNotText (kind : Kind)
  /-- A path is given as bytes. -/
  | pathIsBytes
  /-- A number of days is not a number. -/
  | daysNotNumber (kind : Kind)
  /-- A number of days is too large for an interval. -/
  | daysOutOfRange (days : Int)
  /-- A number of days is too large even to be counted. -/
  | daysUncountable
  /-- A number of days is infinite. -/
  | daysInfinite
  /-- A number of days is not a number. -/
  | daysNan
  /-- A date lies beyond the calendar. -/
  | dateOutOfRange
  /-- A year is beyond the calendar. -/
  | yearOutOfRange (year : Int)
  /-- There is no such month. -/
  | monthOutOfRange
  /-- The month has no such day. -/
  | dayOutOfRange
  /-- There is no such hour of a day. -/
  | hourOutOfRange
  /-- There is no such minute of an hour. -/
  | minuteOutOfRange
  /-- There is no such second of a minute. -/
  | secondOutOfRange
  /-- An offset from universal time is a day or more. -/
  | offsetOutOfRange (offset : Int)
  /-- A time stamp without an offset is compared with one that has an offset. -/
  | missingOffset
  /-- A search keyword is not a text. -/
  | keywordNotText (kind : Kind)
  /-- A list or an object is used as a key. -/
  | notAKey (kind : Kind)
  /-- A name that is null or bytes is laid out in a column. -/
  | noColumn (kind : Kind)
  /-- A key has no JSON notation. -/
  | keyNotJson (kind : Kind)
  /-- A file operation failed. -/
  | file (problem : FileProblem) (path : Text)
  /-- A path has a name with a null character, or another that no file can have. -/
  | nullInPath
  /-- A file does not hold UTF-8. -/
  | badBytes (found : BadBytes)
  /-- A file does not hold JSON. -/
  | badJson
  /-- A file does not hold YAML. -/
  | badYaml
  /-- A node of YAML stands too deep inside others. -/
  | nodeTooDeep
  /-- A list in JSON stands too deep inside others. -/
  | listTooDeep
  /-- An object in JSON stands too deep inside others. -/
  | objectTooDeep
  /-- The code of a character is beyond the last one. -/
  | codeOutOfRange
  /-- The code of a character has more than 31 bits. -/
  | codeUncountable
  /-- A text is not an integer to a base. -/
  | notInteger (base : Nat) (t : Text)
  /-- An integer has too many decimal digits; their number, if it was to be
  read. -/
  | integerTooLong (digits : Option Nat)
  /-- A text is not a number. -/
  | notNumber (t : Text)
  /-- There is no text where a number should be. -/
  | emptyNumber
  /-- A text is not the word for a truth value. -/
  | notTruthWord (t : Text)
  /-- A text is not a date or a time stamp. -/
  | notStamp

namespace Fault

/-- The wording of a fault. -/
def message : Fault → Text
  | unsupportedConversion source target =>
    "Unsupported translation: " ++ source ++ " to " ++ target
  | unsupportedLanguage name => "Unsupported language: " ++ name
  | reference path .missing => "Reference data not found: " ++ path
  | reference path (.unreadable detail) =>
    "Could not parse reference data " ++ path ++ ": " ++ detail
  | reference path (.noSection name) =>
    "Reference data " ++ path ++ " has no '" ++ name ++ "' mapping"
  | reference path (.badEntry name) =>
    "Invalid entry '" ++ name ++ "' in " ++ path ++ ": expected an object"
  | queryNotText kind => "query must be a string, got " ++ kind.name
  | entryWithoutIndex table => "Mapping for table '" ++ table ++ "' must define an 'index'"
  | noDefaultEntry => "Table mapping must contain a 'default' entry"
  | mappingNotObject kind => "'" ++ kind.name ++ "' object has no attribute 'items'"
  | sectionNotObject kind => "'" ++ kind.name ++ "' object has no attribute 'get'"
  | tableNotText kind => "'" ++ kind.name ++ "' object has no attribute 'lower'"
  | pathNotText kind => "expected str, bytes or os.PathLike object, not " ++ kind.shortName
  | pathIsBytes =>
    "argument should be a str object or an os.PathLike object returning str, not <class 'bytes'>"
  | daysNotNumber kind => "unsupported type for timedelta days component: " ++ kind.name
  | daysOutOfRange days => "days=" ++ Text.ofInt days ++ "; must have magnitude <= 999999999"
  | daysUncountable => "Python int too large to convert to C int"
  | daysInfinite => "cannot convert float infinity to integer"
  | daysNan => "cannot convert float NaN to integer"
  | dateOutOfRange => "date value out of range"
  | yearOutOfRange year => "year " ++ Text.ofInt year ++ " is out of range"
  | monthOutOfRange => "month must be in 1..12"
  | dayOutOfRange => "day is out of range for month"
  | hourOutOfRange => "hour must be in 0..23"
  | minuteOutOfRange => "minute must be in 0..59"
  | secondOutOfRange => "second must be in 0..59"
  | offsetOutOfRange offset =>
    "offset must be a timedelta strictly between -timedelta(hours=24) and " ++
      "timedelta(hours=24), not " ++ intervalLiteral offset ++ "."
  | missingOffset => "can't subtract offset-naive and offset-aware datetimes"
  | keywordNotText kind => "sequence item 0: expected str instance, " ++ kind.name ++ " found"
  | notAKey kind => "unhashable type: '" ++ kind.name ++ "'"
  | noColumn kind => "unsupported format string passed to " ++ kind.name ++ ".__format__"
  | keyNotJson kind => "keys must be str, int, float, bool or None, not " ++ kind.shortName
  | file problem path => problem.message ++ ": " ++ path.quoted
  | nullInPath => "embedded null byte"
  | badBytes found => found.message
  | badJson => "invalid JSON"
  | badYaml => "invalid YAML"
  | nodeTooDeep => "maximum recursion depth exceeded"
  | listTooDeep =>
    "maximum recursion depth exceeded while decoding a JSON array from a unicode string"
  | objectTooDeep =>
    "maximum recursion depth exceeded while decoding a JSON object from a unicode string"
  | codeOutOfRange => "chr() arg not in range(0x110000)"
  | codeUncountable => "Python int too large to convert to C int"
  | notInteger base t =>
    "invalid literal for int() with base " ++ Text.ofNat base ++ ": " ++ t.quoted.take 200
  | integerTooLong digits =>
    "Exceeds the limit (4300 digits) for integer string conversion" ++
      (match digits with
       | some n => ": value has " ++ Text.ofNat n ++ " digits"
       | none => []) ++
      "; use sys.set_int_max_str_digits() to increase the limit"
  | notNumber t => "could not convert string to float: " ++ t.quoted
  | emptyNumber => "string index out of range"
  | notTruthWord t => t.quoted
  | notStamp => "'NoneType' object has no attribute 'groupdict'"

/-- Whether the cause lies in the values that were given, rather than in their
kind or in the surroundings. -/
def isBadInput : Fault → Bool
  | unsupportedConversion _ _ => true
  | unsupportedLanguage _ => true
  | entryWithoutIndex _ => true
  | noDefaultEntry => true
  | daysNan => true
  | yearOutOfRange _ => true
  | monthOutOfRange => true
  | dayOutOfRange => true
  | hourOutOfRange => true
  | minuteOutOfRange => true
  | secondOutOfRange => true
  | offsetOutOfRange _ => true
  | codeOutOfRange => true
  | notInteger _ _ => true
  | integerTooLong _ => true
  | notNumber _ => true
  | nullInPath => true
  | badBytes _ => true
  | _ => false

end Fault

end TwinQuery
