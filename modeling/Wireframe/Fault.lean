import Wireframe.Element.Kind
import Wireframe.Json.Value
import Wireframe.Number.Numeral

/-!
# Faults

Everything that can keep the generator from its work, as causes; the wording is in
`Fault.message` alone.
-/
namespace Wireframe

/-- A step into a document: a field or an index. -/
inductive Step where
  | field (name : Text)
  | index (i : Nat)
  deriving DecidableEq

/-- What is wrong with one value of a document. -/
inductive Problem where
  | missing
  | notText
  | notUnicode
  | notNumber
  | unreadableNumber
  | notWhole
  | unreadableWhole
  | fractional
  | notFinite
  | tooManyDigits
  | notFlag
  | unreadableFlag
  | notList
  | tooShort (required actual : Nat)
  | tooLong (allowed actual : Nat)
  | below (least : Nat)
  | above (most : Nat)
  | notAbove (bound : Nat)
  | notAmong (choices : List Text)
  | notObject (expected : Text)
  | noImageSize
  deriving DecidableEq

/-- A problem and where it is. -/
structure FieldError where
  location : List Step
  problem : Problem
  deriving DecidableEq

/-- What keeps a field of a message from being filled in. -/
inductive FillFault where
  /-- The message makes no sense, or a format. -/
  | malformed (reason : Text)
  /-- No value of that name was given, or there is no such member in one. -/
  | missingName (name : Text)
  | missingPosition (index : Nat)
  /-- An object has members by name only. -/
  | missingNumber (n : Nat)
  /-- An item that lies beyond the end of a list or text. -/
  | beyondEnd (holder : Text)
  /-- Items of a list or text are counted, not named. -/
  | notCounted (reason : Text)
  | noItems (holder : Text)
  | noPart (holder name : Text)
  | noFormats (type : Text)
  /-- A whole number that is to be written as a code point and is none. -/
  | notCodePoint (n : Int)
  /-- A whole number beyond the range of the format. -/
  | tooLarge
  deriving DecidableEq

/-- What stands on the command line without a value and is used all the same. -/
inductive Valueless where
  | strategy
  | rowThreshold
  | limit
  | output
  deriving DecidableEq

inductive Fault where
  /-- An image of no positive width or height. -/
  | emptyImage
  /-- A box in pixels without the size of its image. -/
  | missingImageSize
  | unknownStrategy (given : Text)
  | missingTemplates (kinds : List Kind)
  /-- A value that is no part of a layout, as it is shown. -/
  | strayNode (shown : Text)
  /-- A whole number beyond the binary64 range, where a binary64 number is needed. -/
  | wholeTooLarge
  /-- A whole number that cannot be written for its length. -/
  | tooManyDigits
  /-- A document with too many brackets inside one another. -/
  | tooDeep (holder : Json.Holder)
  | emptyCanvas
  | thresholdOutOfRange
  /-- A configured strategy, which the message gives without quotes. -/
  | unknownConfiguredStrategy (given : Text)
  | confidenceOutOfRange
  | negativeLimit
  | unreadableDocument (source : Text)
  | invalidDocument (source : Option Text) (errors : List FieldError)
  | unknownLevel (given : Text)
  | valueless (flag : Valueless)
  /-- A field of a message cannot be filled in. -/
  | unfilled (fault : FillFault)
  /-- A path or a text cannot be encoded; the run of surrogates `first` to `last` is at fault. -/
  | unencodable (t : Text) (first last : Nat)
  /-- A path that holds the code point zero. -/
  | nullInPath
  /-- A directory without a path. -/
  | emptyPath

namespace Problem

/-- A list of choices in prose, the last one after the word or. -/
def choiceText : List Text → Text
  | [] => []
  | [a] => a
  | [a, b] => .concat [a, " or ", b]
  | a :: rest => .concat [a, ", ", choiceText rest]

/-- The code that tells the problems apart. -/
def code : Problem → Text
  | missing => "missing"
  | notText => "string_type"
  | notUnicode => "string_unicode"
  | notNumber => "float_type"
  | unreadableNumber => "float_parsing"
  | notWhole => "int_type"
  | unreadableWhole => "int_parsing"
  | fractional => "int_from_float"
  | notFinite => "finite_number"
  | tooManyDigits => "int_parsing_size"
  | notFlag => "bool_type"
  | unreadableFlag => "bool_parsing"
  | notList => "list_type"
  | tooShort .. => "too_short"
  | tooLong .. => "too_long"
  | below _ => "greater_than_equal"
  | above _ => "less_than_equal"
  | notAbove _ => "greater_than"
  | notAmong _ => "literal_error"
  | notObject _ => "model_type"
  | noImageSize => "value_error"

def message : Problem → Text
  | missing => "Field required"
  | notText => "Input should be a valid string"
  | notUnicode =>
    "Input should be a valid string, unable to parse raw data as a unicode string"
  | notNumber => "Input should be a valid number"
  | unreadableNumber => "Input should be a valid number, unable to parse string as a number"
  | notWhole => "Input should be a valid integer"
  | unreadableWhole => "Input should be a valid integer, unable to parse string as an integer"
  | fractional => "Input should be a valid integer, got a number with a fractional part"
  | notFinite => "Input should be a finite number"
  | tooManyDigits => "Unable to parse input string as an integer, exceeded maximum size"
  | notFlag => "Input should be a valid boolean"
  | unreadableFlag => "Input should be a valid boolean, unable to interpret input"
  | notList => "Input should be a valid list"
  | tooShort required actual =>
    .concat ["List should have at least ", .ofNat required, " items after validation, not ",
      .ofNat actual]
  | tooLong allowed actual =>
    .concat ["List should have at most ", .ofNat allowed, " items after validation, not ",
      .ofNat actual]
  | below least => .concat ["Input should be greater than or equal to ", .ofNat least]
  | above most => .concat ["Input should be less than or equal to ", .ofNat most]
  | notAbove bound => .concat ["Input should be greater than ", .ofNat bound]
  | notAmong choices => .concat ["Input should be ", choiceText (choices.map Text.quoted)]
  | notObject expected =>
    .concat ["Input should be a valid dictionary or instance of ", expected]
  | noImageSize => "Value error, pixel_xyxy detections require image_width and image_height"

end Problem

namespace FillFault

def message : FillFault → Text
  | malformed reason => reason
  | missingName name => name.quoted
  | missingPosition index =>
    .concat ["Replacement index ", .ofNat index, " out of range for positional args tuple"]
  | missingNumber n => .ofNat n
  | beyondEnd holder => .concat [holder, " index out of range"]
  | notCounted reason => reason
  | noItems holder => .concat [holder, " is not subscriptable"]
  | noPart holder name => .concat [holder, " has no attribute ", name.quoted]
  | noFormats type => .concat ["unsupported format string passed to ", type, ".__format__"]
  | notCodePoint n =>
    if -0x8000000000000000 ≤ n && n < 0x8000000000000000 then "%c arg not in range(0x110000)"
    else "Python int too large to convert to C long"
  | tooLarge => "int too large to convert to float"

end FillFault

def Valueless.message : Valueless → Text
  | strategy => "'list' object has no attribute 'strip'"
  | rowThreshold => "'<' not supported between instances of 'float' and 'list'"
  | limit => "'>' not supported between instances of 'int' and 'list'"
  | output => "expected str, bytes or os.PathLike object, not list"

namespace Fault

/-- The message after the name of its source, if there is one and it is not empty. -/
def ofSource (source : Option Text) (message : Text) : Text :=
  match source with
  | some (c :: rest) => .concat [c :: rest, ": ", message]
  | _ => message

/-- The positions of a run of code points, in a message. -/
def unencodableMessage (t : Text) (first last : Nat) : Text :=
  if first = last then
    .concat ["'utf-8' codec can't encode character '\\u", .paddedHex 4 (t.getD first 0),
      "' in position ", .ofNat first, ": surrogates not allowed"]
  else
    .concat ["'utf-8' codec can't encode characters in position ", .ofNat first, "-", .ofNat last,
      ": surrogates not allowed"]

def message : Fault → Text
  | emptyImage => "Image dimensions must be positive"
  | missingImageSize => "pixel_xyxy boxes need image_width and image_height"
  | unknownStrategy given => .concat ["Unknown row strategy: ", given.quoted]
  | missingTemplates kinds =>
    .concat ["No widget template registered for: ", .join ", " (kinds.map Kind.constantName)]
  | strayNode shown => .concat ["Not a layout node: ", shown]
  | wholeTooLarge => "int too large to convert to float"
  | tooManyDigits =>
    .concat ["Exceeds the limit (", .ofNat Numeral.digitLimit, " digits) for integer string ",
      "conversion; use sys.set_int_max_str_digits() to increase the limit"]
  | tooDeep holder =>
    .concat ["maximum recursion depth exceeded while decoding a JSON ", holder.name,
      " from a unicode string"]
  | emptyCanvas => "Reference canvas dimensions must be positive"
  | thresholdOutOfRange => "Row threshold must be between 0 and 1"
  | unknownConfiguredStrategy given => .concat ["Unknown row strategy: ", given]
  | confidenceOutOfRange => "Minimum confidence must be between 0 and 1"
  | negativeLimit => "Preview limit and column gap cannot be negative"
  | unreadableDocument source => ofSource (some source) "could not read detection document"
  | invalidDocument source errors =>
    ofSource source
      (.concat ["invalid detection document (", .ofNat errors.length, " errors)"])
  | unknownLevel given => .concat ["Level '", given, "' does not exist"]
  | valueless flag => flag.message
  | unfilled fault => fault.message
  | unencodable t first last => unencodableMessage t first last
  | nullInPath => "embedded null byte"
  | emptyPath => "[Errno 2] No such file or directory: ''"

end Fault

end Wireframe
