/-
What `echo` and `printf` print: escapes with a backslash, and formats.
-/
import ProofBatch.Shell.Bytes

namespace ProofBatch.Shell

-- ================================================================ escapes

/-- The letters after a backslash and the bytes that they stand for. -/
def escapes : List (Char × Char) :=
  [('a', '\x07'), ('b', '\x08'), ('e', '\x1b'), ('f', '\x0c'), ('n', '\n'),
   ('r', '\r'),
   ('t', '\t'), ('v', '\x0b'), ('\\', '\\')]

def isOctal (c : Char) : Bool :=
  '0' ≤ c && c ≤ '7'

/-- The number that digits stand for. -/
def valueOf (base : Nat) (digits : Bytes) : Nat :=
  digits.foldl (fun n c => n * base
    + (if c.isDigit then c.toNat - 48 else c.toLower.toNat - 87)) 0

/-- What stands after a backslash: the bytes it stands for, and how many
characters that takes. A number has up to three octal digits, or, where numbers
are `zeroLed`, a zero and up to three more. A backslash without a meaning
stands for itself. -/
def escape (zeroLed : Bool) (rest : Bytes) : Bytes × Nat :=
  let number (lead : Nat) : Bytes × Nat :=
    let digits := ((rest.drop lead).take 3).takeWhile isOctal
    ([Char.ofNat (valueOf 8 digits % 256)], lead + digits.length)
  match rest with
  | [] => (['\\'], 0)
  | c :: _ =>
    if zeroLed && c == '0' then number 1
    else if isOctal c then number 0
    else
      match escapes.lookup c with
      | some d => ([d], 1)
      | none => (['\\'], 0)

/-- A text with its escapes replaced, after the next `skip` characters; where
numbers are `zeroLed`, an escaped `c` ends all output, which is the second part
of the answer. -/
def unescape (zeroLed : Bool) : Nat → Bytes → Bytes × Bool
  | _, [] => ([], false)
  | skip + 1, _ :: rest => unescape zeroLed skip rest
  | 0, c :: rest =>
    if c ≠ '\\' then
      let (out, ended) := unescape zeroLed 0 rest
      (c :: out, ended)
    else if zeroLed && rest.head? == some 'c' then ([], true)
    else
      let (first, used) := escape zeroLed rest
      let (out, ended) := unescape zeroLed used rest
      (first ++ out, ended)

/-- What `echo` prints. -/
def echoText (arguments : List Bytes) : Bytes :=
  let (newline, words) := match arguments with
    | ['-', 'n'] :: rest => (false, rest)
    | _ => (true, arguments)
  let (out, ended) := unescape true 0 ([' '].intercalate words)
  out ++ if newline && !ended then ['\n'] else []

-- ================================================================ formats

/-- How an argument is printed. -/
structure Conversion where
  /-- Put the filling after the text. -/
  left : Bool
  /-- Fill with zeros. -/
  zeros : Bool
  width : Nat
  /-- The most bytes of a text. -/
  most : Option Nat
  letter : Char
  deriving Repr

/-- A part of a format. -/
inductive FormatPart where
  | text (bytes : Bytes)
  | argument (conversion : Conversion)
  /-- A conversion that there is not; nothing is printed from there on. -/
  | unknown (directive : Bytes)
  deriving Repr

/-- The conversion after a `%`, and how many characters it takes. -/
def conversionAt (rest : Bytes) : Option (Conversion × Nat) :=
  let flags := rest.takeWhile fun c => ['#', '-', '+', ' ', '0'].contains c
  let rest₁ := rest.drop flags.length
  let width := rest₁.takeWhile Char.isDigit
  let rest₂ := rest₁.drop width.length
  let most := match rest₂ with
    | '.' :: more => '.' :: more.takeWhile Char.isDigit
    | _ => []
  match rest₂.drop most.length with
  | letter :: _ =>
    if ['b', 'c', 'd', 'i', 'o', 's', 'u', 'x', 'X'].contains letter then
      some ({ left := flags.contains '-', zeros := flags.contains '0'
              width := valueOf 10 width
              most :=
                if most.isEmpty then none else some (valueOf 10 most.tail)
              letter },
        flags.length + width.length + most.length + 1)
    else none
  | [] => none

/-- The parts of a format, after the next `skip` characters. -/
def formatParts : Nat → Bytes → List FormatPart
  | _, [] => []
  | skip + 1, _ :: rest => formatParts skip rest
  | 0, c :: rest =>
    if c = '\\' then
      let (bytes, used) := escape false rest
      .text bytes :: formatParts used rest
    else if c ≠ '%' then .text [c] :: formatParts 0 rest
    else if rest.head? = some '%' then .text ['%'] :: formatParts 1 rest
    else
      match conversionAt rest with
      | some (conversion, used) =>
        .argument conversion :: formatParts used rest
      | none =>
        [.unknown ('%' :: rest.takeWhile fun d => d != '\n' && d != ' ')]

/-- How much of an argument is a number. -/
inductive Numeric where
  | all
  | part
  | none
  deriving DecidableEq, Repr

/-- The number that an argument begins with, and how much of it that is. -/
def numberOf (bytes : Bytes) : Int × Numeric :=
  let (negative, digits) := match bytes with
    | '-' :: rest => (true, rest)
    | '+' :: rest => (false, rest)
    | _ => (false, bytes)
  let (base, digits) := match digits with
    | '0' :: 'x' :: rest => (16, rest)
    | '0' :: c :: rest => (8, c :: rest)
    | _ => (10, digits)
  let good := digits.takeWhile fun c =>
    if base = 16 then c.isDigit || ('a' ≤ c.toLower && c.toLower ≤ 'f')
    else if base = 8 then isOctal c else c.isDigit
  let size : Int := valueOf base good
  let extent : Numeric :=
    if bytes.isEmpty then .all
    else if good.isEmpty then .none
    else if good.length = digits.length then .all
    else .part
  (if negative then -size else size, extent)

/-- What is wrong with an argument that should be a number. -/
def numericProblem (argument : Bytes) : Numeric → List String
  | .all => []
  | .part => [toText argument ++ ": not completely converted"]
  | .none => [toText argument ++ ": expected numeric value"]

/-- How far the printing of a format has come. -/
structure Printed where
  out : Bytes := []
  /-- The arguments that are left. -/
  arguments : List Bytes
  /-- What is to be said about the arguments and the format. -/
  problems : List String := []
  /-- Whether nothing more is printed. -/
  ended : Bool := false
  /-- Whether that is because of the format. -/
  refused : Bool := false

/-- How many numbers fit into a machine word. -/
def wordSize : Nat :=
  Nat.pow 2 64

/-- Print a number. -/
def numeral (letter : Char) (n : Int) : Bytes :=
  let bits := (n % wordSize).toNat
  match letter with
  | 'o' => Nat.toDigits 8 bits
  | 'x' => Nat.toDigits 16 bits
  | 'X' => (Nat.toDigits 16 bits).map Char.toUpper
  | 'u' => Nat.toDigits 10 bits
  | _ => (toString n).toList

/-- Print one part of a format. -/
def Printed.add (p : Printed) (part : FormatPart) : Printed :=
  if p.ended then p
  else
    match part with
    | .text bytes => { p with out := p.out ++ bytes }
    | .unknown directive =>
      { p with
        problems := p.problems ++ [toText directive ++ ": invalid directive"]
        ended := true
        refused := true }
    | .argument c =>
      let given := p.arguments.head?.getD []
      let p := { p with arguments := p.arguments.tail }
      let isNumber := !(['b', 'c', 's'].contains c.letter)
      let (body, problems, ended) := match c.letter with
        | 'b' => let (out, ended) := unescape true 0 given; (out, [], ended)
        | 'c' => (given.take 1, [], false)
        | 's' => (given, [], false)
        | letter =>
          let (n, extent) := numberOf given
          (numeral letter n, numericProblem given extent, false)
      let body := match c.most with
        | some n =>
          if isNumber then List.replicate (n - body.length) '0' ++ body
          else body.take n
        | none => body
      let filling := List.replicate (c.width - body.length)
        (if c.zeros && isNumber && !c.left then '0' else ' ')
      { p with
        out := p.out ++ if c.left then body ++ filling else filling ++ body
        problems := p.problems ++ problems
        ended }

/-- Print a format again and again until no argument is left. A format that
takes no argument is printed once. -/
def Printed.rounds (parts : List FormatPart) : Nat → Printed → Printed
  | 0, p => p
  | budget + 1, p =>
    let q := parts.foldl Printed.add p
    if q.ended || q.arguments.isEmpty
      || q.arguments.length == p.arguments.length then q
    else rounds parts budget q

/-- What `printf` prints. -/
def formatted (format : Bytes) (arguments : List Bytes) : Printed :=
  Printed.rounds (formatParts 0 format) (arguments.length + 1) { arguments }

end ProofBatch.Shell
