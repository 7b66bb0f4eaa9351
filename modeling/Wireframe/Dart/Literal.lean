import Wireframe.Text.Digits

/-!
# Dart string literals

A text stands in source between single quotes. Backslash, quote and dollar sign are escaped by a
backslash, line feed, carriage return and tab by their letters, and a surrogate by its number in
braces, because source is written in UTF-8. All else stands for itself.

`decode` reads the escapes back. Main statement: `decode_escape`, decoding undoes escaping.
-/
namespace Wireframe

namespace DartLiteral

def quote : Nat := 0x27
def backslash : Nat := 0x5C
def dollar : Nat := 0x24

/-- How a code point stands in a literal. -/
def escapeOne (c : Nat) : Text :=
  if c = backslash || c = quote || c = dollar then [backslash, c]
  else if c = CodePoint.lineFeed then "\\n"
  else if c = CodePoint.carriageReturn then "\\r"
  else if c = CodePoint.tab then "\\t"
  else if CodePoint.isSurrogate c then .concat ["\\u\x7b", .upperHex4 c, "\x7d"]
  else [c]

def escape (t : Text) : Text := t.flatMap escapeOne

/-- The literal of a text. -/
def encode (t : Text) : Text := .concat [[quote], escape t, [quote]]

/-! ## Reading back -/

/-- Where a reader of escapes stands. -/
inductive Position where
  | plain
  /-- After a backslash. -/
  | escaped
  /-- Before the brace of a number. -/
  | beforeNumber
  /-- Inside the braces, with the value so far. -/
  | inNumber (value : Nat)
  deriving DecidableEq

/-- What an escaped code point other than `u` stands for. -/
def escapeValue (c : Nat) : Nat :=
  if c = 0x6E then CodePoint.lineFeed
  else if c = 0x72 then CodePoint.carriageReturn
  else if c = 0x74 then CodePoint.tab
  else c

/-- The text that the rest of a body stands for; `none` where an escape is unfinished. -/
def decodeFrom : Position → Text → Option Text
  | .plain, [] => some []
  | _, [] => none
  | .plain, c :: rest =>
    if c = backslash then decodeFrom .escaped rest else (decodeFrom .plain rest).map (c :: ·)
  | .escaped, c :: rest =>
    if c = 0x75 then decodeFrom .beforeNumber rest
    else (decodeFrom .plain rest).map (escapeValue c :: ·)
  | .beforeNumber, c :: rest => if c = 0x7B then decodeFrom (.inNumber 0) rest else none
  | .inNumber value, c :: rest =>
    if c = 0x7D then (decodeFrom .plain rest).map (value :: ·)
    else match Text.hexValue? c with
      | some digit => decodeFrom (.inNumber (16 * value + digit)) rest
      | none => none

/-- The text that the body of a literal stands for. -/
def decode (body : Text) : Option Text := decodeFrom .plain body

theorem hexValue_upperHexDigit {d : Nat} (h : d < 16) :
    Text.hexValue? (Text.upperHexDigit d) = some d := by
  revert d; decide

theorem upperHexDigit_ne_brace {d : Nat} (h : d < 16) : Text.upperHexDigit d ≠ 0x7D := by
  revert d; decide

theorem decodeFrom_number {c : Nat} (h : c < 0x10000) (rest : Text) :
    decodeFrom (.inNumber 0) (Text.upperHex4 c ++ 0x7D :: rest) =
      (decodeFrom .plain rest).map (c :: ·) := by
  have e : 16 * (16 * (16 * (16 * 0 + c / 0x1000 % 16) + c / 0x100 % 16) + c / 0x10 % 16) + c % 16
      = c := by omega
  have m (n : Nat) : n % 16 < 16 := Nat.mod_lt _ (by decide)
  simp only [Text.upperHex4, List.map_cons, List.map_nil, List.cons_append, List.nil_append,
    decodeFrom, hexValue_upperHexDigit (m _), upperHexDigit_ne_brace (m _), if_false, e, if_true]

theorem decodeFrom_escapeOne (c : Nat) (rest : Text) :
    decodeFrom .plain (escapeOne c ++ rest) = (decodeFrom .plain rest).map (c :: ·) := by
  unfold escapeOne
  split
  · rename_i h
    simp only [Bool.or_eq_true, decide_eq_true_eq] at h
    rcases h with (rfl | rfl) | rfl <;> simp [decodeFrom, escapeValue, backslash, quote, dollar]
  split
  · subst_vars; simp [Text.ofString, decodeFrom, escapeValue, backslash]
  split
  · subst_vars; simp [Text.ofString, decodeFrom, escapeValue, backslash]
  split
  · subst_vars; simp [Text.ofString, decodeFrom, escapeValue, backslash]
  split
  · rename_i h
    have hc : c < 0x10000 := by simp [CodePoint.isSurrogate] at h; omega
    have := decodeFrom_number hc rest
    simpa [Text.concat, Text.ofString, decodeFrom, backslash] using this
  · rename_i h _ _ _ _
    have hb : c ≠ backslash := fun e => h (by simp [e])
    simp [decodeFrom, hb]

theorem decodeFrom_escape (t rest : Text) :
    decodeFrom .plain (escape t ++ rest) = (decodeFrom .plain rest).map (t ++ ·) := by
  induction t with
  | nil => simp [escape]
  | cons c t ih =>
    have : escape (c :: t) ++ rest = escapeOne c ++ (escape t ++ rest) := by simp [escape]
    rw [this, decodeFrom_escapeOne, ih, Option.map_map]
    rfl

theorem decode_escape (t : Text) : decode (escape t) = some t := by
  have := decodeFrom_escape t []
  simpa [decode, decodeFrom] using this

end DartLiteral

end Wireframe
