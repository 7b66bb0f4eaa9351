import Wireframe.Text.DigitTable

/-!
# Flags

How the arguments of a command are told apart. A flag has names that start with dashes: with two
dashes its value follows after an equals sign or as the next argument, and any initial part of the
name that no other flag shares will do; with one dash and a letter the value may follow at once.
Two dashes alone end the flags. All else is an operand: what does not start with a dash, a dash
alone, negative numbers, and what holds a space.

Arguments are read from left to right, and the first that asks for help or makes no sense ends the
reading. An argument that merely has no meaning is passed over: help may still be asked for after
it.

Main statement: `meaning_eq_operand`, an argument without a dash at its start is an operand.
-/
namespace Wireframe

namespace CommandLine

def dash : Nat := 0x2D
def equals : Nat := 0x3D

/-- The argument that ends the flags. -/
def terminator : Text := [dash, dash]

/-- What comes of reading arguments. -/
inductive Reading (α : Type) where
  | read (a : α)
  /-- Help is asked for. -/
  | help
  /-- The arguments make no sense. -/
  | misuse
  deriving DecidableEq

namespace Reading

variable {α β : Type}

def bind : Reading α → (α → Reading β) → Reading β
  | read a, f => f a
  | help, _ => help
  | misuse, _ => misuse

instance : Monad Reading where
  pure := read
  bind := bind

end Reading

/-- What is chosen with a flag. -/
inductive Choice (α : Type) where
  | absent
  /-- The flag is there without a value. -/
  | void
  | value (a : α)
  deriving DecidableEq

def Choice.value? {α : Type} : Choice α → Option α
  | value a => some a
  | _ => none

/-- What a flag does to the choices `σ` of a command. -/
inductive Effect (σ : Type) where
  | help
  /-- Takes a value, which may be no good. -/
  | set (choose : Text → σ → Option σ)

structure Flag (σ : Type) where
  names : List Text
  effect : Effect σ

namespace Flag

def help {σ : Type} : Flag σ := ⟨["-h", "--help"], .help⟩

/-- The flag of a choice. Two dashes that are written with it stand for no value. That is a defect
of the option reader, of the versions before it was mended: later ones take the two dashes for the
value. -/
def choice {σ α : Type} (names : List Text) (read : Text → Option α) (put : Choice α → σ → σ) :
    Flag σ where
  names := names
  effect := .set fun value chosen =>
    if value = terminator then some (put .void chosen)
    else (read value).map fun a => put (.value a) chosen

end Flag

/-- What an argument is. -/
inductive Meaning (σ : Type) where
  | operand
  /-- A flag and the value that is written with it. -/
  | flag (f : Flag σ) (value : Option Text)
  /-- What may be short for several flags. -/
  | ambiguous
  | unknown

variable {σ : Type}

/-! ## Meanings -/

def named? (flags : List (Flag σ)) (name : Text) : Option (Flag σ) :=
  flags.find? (·.names.contains name)

/-- The flags that a name may be short for. -/
def abbreviated (flags : List (Flag σ)) (name : Text) : List (Flag σ) :=
  flags.filter fun f => f.names.any fun full => name.isPrefixOf full

def isDigit (c : Nat) : Bool := (CodePoint.digitValue? c).isSome

/-- Whether a text consists of digits, and a point before the last of them perhaps. -/
def isUnsignedNumber (t : Text) : Bool :=
  match Text.cut 0x2E t with
  | (whole, none) => !whole.isEmpty && whole.all isDigit
  | (whole, some part) => whole.all isDigit && !part.isEmpty && part.all isDigit

/-- Whether an argument is a negative number; a line feed may end it. -/
def isNegativeNumber (arg : Text) : Bool :=
  let rest := arg.drop 1
  arg.head? = some dash && (isUnsignedNumber rest ||
    (rest.getLast? = some CodePoint.lineFeed && isUnsignedNumber rest.dropLast))

/-- What an argument is that starts with a dash and is no name of a flag as it stands. -/
def meaningOfDashed (flags : List (Flag σ)) (arg : Text) : Meaning σ :=
  let (name, value) := Text.cut equals arg
  match named? flags name, value with
  | some f, some value => .flag f (some value)
  | _, _ =>
    let candidates :=
      if terminator.isPrefixOf arg then (abbreviated flags name).map (·, value)
      else (named? flags (arg.take 2)).toList.map (·, some (arg.drop 2))
    match candidates with
    | [(f, value)] => .flag f value
    | _ :: _ :: _ => .ambiguous
    | [] => if isNegativeNumber arg || arg.contains CodePoint.space then .operand else .unknown

/-- What an argument before the end of the flags is. -/
def meaning (flags : List (Flag σ)) (arg : Text) : Meaning σ :=
  if arg.head? ≠ some dash then .operand
  else match named? flags arg with
    | some f => .flag f none
    | none => if arg.length = 1 then .operand else meaningOfDashed flags arg

def isOperand (flags : List (Flag σ)) (arg : Text) : Bool :=
  arg ≠ terminator && match meaning flags arg with
    | .operand => true
    | _ => false

def isAmbiguous (flags : List (Flag σ)) (arg : Text) : Bool :=
  match meaning flags arg with
  | .ambiguous => true
  | _ => false

/-- Whether letters make sense that follow another letter after one dash, before the arguments
`rest`: each names a flag, and one that takes a value is the last, with its value behind it. -/
def isCluster (flags : List (Flag σ)) (rest : List Text) : Text → Bool
  | [] => true
  | c :: letters => match named? flags [dash, c] with
    | none => false
    | some f => match f.effect with
      | .help => isCluster flags rest letters
      | .set _ => !letters.isEmpty || rest.head?.any (isOperand flags)

/-! ## Reading -/

/-- How many operands a command takes. -/
inductive Arity where
  | none
  | one
  /-- One, to which all arguments after it belong. -/
  | oneAndRest
  deriving DecidableEq

/-- What is given with the arguments of a command. -/
structure Given (σ : Type) where
  chosen : σ
  operands : List Text
  /-- Whether there is an argument without a meaning. -/
  hasStray : Bool

namespace Given

/-- With the argument passed over. -/
def withStray (g : Given σ) : Given σ := { g with hasStray := true }

/-- With the operand `arg`, and with `rest` passed over. -/
def withOperand (g : Given σ) (arg : Text) (rest : List Text) : Given σ :=
  { g with operands := [arg], hasStray := g.hasStray || !rest.isEmpty }

/-- With the arguments `rest` after the end of the flags. -/
def withEnd (arity : Arity) (g : Given σ) (rest : List Text) : Given σ :=
  match arity, g.operands, rest with
  | .oneAndRest, _, rest => { g with operands := terminator :: rest }
  | .one, [], arg :: rest => g.withOperand arg rest
  | _, _, _ => g.withStray

/-- The choices and the operands, if no argument is without a meaning. -/
def whole (g : Given σ) : Reading (σ × List Text) :=
  if g.hasStray then .misuse else .read (g.chosen, g.operands)

end Given

/-- Reads arguments after those that gave `g`. The end of the flags may stand right before or right
after the operand. -/
def readFrom (flags : List (Flag σ)) (arity : Arity) (g : Given σ) : List Text → Reading (Given σ)
  | [] => .read g
  | arg :: rest =>
    if arg = terminator then .read (g.withEnd arity rest)
    else match meaning flags arg with
      | .operand => match arity, g.operands with
        | .oneAndRest, _ => .read { g with operands := arg :: rest }
        | .one, [] =>
          if rest.head? = some terminator then .read (g.withOperand arg (rest.drop 1))
          else readFrom flags arity (g.withOperand arg []) rest
        | _, _ => readFrom flags arity g.withStray rest
      | .unknown | .ambiguous => readFrom flags arity g.withStray rest
      | .flag f value => match f.effect, value with
        | .help, none => .help
        | .help, some letters =>
          if !terminator.isPrefixOf arg && !letters.isEmpty && isCluster flags rest letters then
            .help
          else .misuse
        | .set choose, some value => match choose value g.chosen with
          | some chosen => readFrom flags arity { g with chosen } rest
          | none => .misuse
        | .set choose, none => match rest with
          | [] => .misuse
          | value :: rest =>
            if isOperand flags value then
              match choose value g.chosen with
              | some chosen => readFrom flags arity { g with chosen } rest
              | none => .misuse
            else .misuse

/-- Reads the arguments of a command. It makes no sense that one before the end of the flags may be
short for several of them, wherever it stands. -/
def read (flags : List (Flag σ)) (arity : Arity) (chosen : σ) (args : List Text) :
    Reading (Given σ) :=
  if (args.takeWhile (· ≠ terminator)).any (isAmbiguous flags) then .misuse
  else readFrom flags arity ⟨chosen, [], false⟩ args

/-! ## Lemmas -/

theorem meaning_eq_operand (flags : List (Flag σ)) {arg : Text} (h : arg.head? ≠ some dash) :
    meaning flags arg = .operand := by
  simp [meaning, h]

end CommandLine

end Wireframe
