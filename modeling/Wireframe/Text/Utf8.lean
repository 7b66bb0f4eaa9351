import Wireframe.Text.Basic

/-!
# UTF-8

Octets are bytes. Decoding accepts the shortest form of each code point only, and no surrogate;
encoding fails at the first surrogate.

Names of files are octets that need not be UTF-8. In the text of a path an octet that is part of no
code point is written as a surrogate, from `0xDC80` on.

Main statement: `exists_encode`, a text without surrogates has octets.
-/
namespace Wireframe

abbrev Octets := List UInt8

namespace Utf8

/-! ## Encoding -/

/-- The octets of one code point; a surrogate has none. -/
def encodeOne (c : Nat) : Option Octets :=
  if c < 0x80 then some [c.toUInt8]
  else if c < 0x800 then some [(0xC0 + c / 0x40).toUInt8, (0x80 + c % 0x40).toUInt8]
  else if CodePoint.isSurrogate c then none
  else if c < 0x10000 then
    some [(0xE0 + c / 0x1000).toUInt8, (0x80 + c / 0x40 % 0x40).toUInt8, (0x80 + c % 0x40).toUInt8]
  else some [(0xF0 + c / 0x40000).toUInt8, (0x80 + c / 0x1000 % 0x40).toUInt8,
    (0x80 + c / 0x40 % 0x40).toUInt8, (0x80 + c % 0x40).toUInt8]

/-- The octets of one code point of a path. -/
def encodePathOne (c : Nat) : Option Octets :=
  if CodePoint.isStrayOctet c then some [(c - 0xDC00).toUInt8] else encodeOne c

/-- The octets of a text whose code points have those that `one` gives them. -/
def encodeBy (one : Nat → Option Octets) : Text → Option Octets
  | [] => some []
  | c :: rest => do return (← one c) ++ (← encodeBy one rest)

def encode (t : Text) : Option Octets := encodeBy encodeOne t

def encodePath (t : Text) : Option Octets := encodeBy encodePathOne t

/-- The positions of the first code point of a text that is `barred` and of the last surrogate that
stands in a row with it. -/
def surrogateRun? (barred : Nat → Bool) (t : Text) : Option (Nat × Nat) :=
  let first := (t.takeWhile (!barred ·)).length
  let count := ((t.drop first).takeWhile CodePoint.isSurrogate).length
  if count = 0 then none else some (first, first + count - 1)

/-! ## Decoding -/

/-- The last six bits of an octet that continues a code point. -/
def continuation? (b : UInt8) : Option Nat :=
  if b.toNat / 0x40 = 2 then some (b.toNat % 0x40) else none

/-- The code point that octets start with and how many of them it takes, if they start with one. -/
def first? : Octets → Option (Nat × Nat)
  | [] => none
  | a :: rest =>
    if a.toNat < 0x80 then some (a.toNat, 1)
    else if 0xC2 ≤ a.toNat && a.toNat < 0xE0 then
      match rest with
      | b :: _ => do return (a.toNat % 0x20 * 0x40 + (← continuation? b), 2)
      | _ => none
    else if 0xE0 ≤ a.toNat && a.toNat < 0xF0 then
      match rest with
      | b :: c :: _ => do
        let value := (a.toNat % 0x10 * 0x40 + (← continuation? b)) * 0x40 + (← continuation? c)
        if value < 0x800 || CodePoint.isSurrogate value then none else some (value, 3)
      | _ => none
    else if 0xF0 ≤ a.toNat && a.toNat < 0xF5 then
      match rest with
      | b :: c :: d :: _ => do
        let value := ((a.toNat % 0x08 * 0x40 + (← continuation? b)) * 0x40 +
          (← continuation? c)) * 0x40 + (← continuation? d)
        if value < 0x10000 || 0x10FFFF < value then none else some (value, 4)
      | _ => none
    else none

/-- The code points of octets of which the first `taken` belong to a code point that has been read.
An octet that is part of none is read as `stray` says. -/
def decodeBy (stray : UInt8 → Option Nat) : Nat → Octets → Option Text
  | _, [] => some []
  | taken + 1, _ :: rest => decodeBy stray taken rest
  | 0, a :: rest => match first? (a :: rest) with
    | some (c, count) => (decodeBy stray (count - 1) rest).map (c :: ·)
    | none => do return (← stray a) :: (← decodeBy stray 0 rest)

/-- The code points of a sequence of octets, if it is well formed. -/
def decode (octets : Octets) : Option Text := decodeBy (fun _ => none) 0 octets

/-- The text of the name of a file. -/
def decodeName (octets : Octets) : Option Text :=
  decodeBy (fun a => some (0xDC00 + a.toNat)) 0 octets

/-- The text that is read for the name of a file which a text gives: octets that make up a code
point are this code point. -/
def asRead (name : Text) : Text := ((encodePath name).bind decodeName).getD name

/-! ## Lemmas -/

theorem exists_encodeOne {c : Nat} (h : CodePoint.isSurrogate c = false) :
    ∃ octets, encodeOne c = some octets := by
  simp only [encodeOne, h, Bool.false_eq_true, if_false]
  split
  · exact ⟨_, rfl⟩
  · split
    · exact ⟨_, rfl⟩
    · split <;> exact ⟨_, rfl⟩

theorem exists_encode {t : Text} (h : ∀ c ∈ t, CodePoint.isSurrogate c = false) :
    ∃ octets, encode t = some octets := by
  unfold encode
  induction t with
  | nil => exact ⟨[], rfl⟩
  | cons c rest ih =>
    obtain ⟨first, hfirst⟩ := exists_encodeOne (h c List.mem_cons_self)
    obtain ⟨others, hothers⟩ := ih fun d hd => h d (List.mem_cons_of_mem c hd)
    refine ⟨first ++ others, ?_⟩
    rw [encodeBy, hfirst, hothers]
    rfl

end Utf8

end Wireframe
