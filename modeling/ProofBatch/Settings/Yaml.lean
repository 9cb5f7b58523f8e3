/-
YAML as a format for settings: a mapping with one key for each setting.

A setting whose value is missing, or a plain null, is not given. A text may be
written in any way. A number has to be plain (a tag makes no difference, and a
literal block tagged as an integer is as good); it may have a plus sign and be
written with base 2, 8 or 16. The restriction is one of its words, or one of
them as a tag before nothing.
-/
import ProofBatch.Settings.File
import ProofBatch.Yaml.Document

namespace ProofBatch.FileSettings

open ProofBatch.Yaml

-- ================================================================ values

/-- Whether a text is a null. -/
def isNull (text : String) : Bool :=
  text == "~" || text == "null" || text == "Null" || text == "NULL"

/-- The tag of a null. -/
def nullTag : String :=
  "tag:yaml.org,2002:null"

/-- The tag of an integer. -/
def intTag : String :=
  "tag:yaml.org,2002:int"

/-- Read a value that may be missing. -/
def optional {α : Type} (read : Scalar → Except Problem α) (s : Scalar) :
    Except Problem (Option α) :=
  if s.style ≠ .plain then (read s).map some
  else
    match s.tag with
    | none =>
      if s.text.isEmpty || isNull s.text then .ok none else (read s).map some
    | some tag =>
      if tag ≠ nullTag then (read s).map some
      else if isNull s.text then .ok none
      else .error "a value is no null"

/-- Read a text. -/
def readText (s : Scalar) : Except Problem String :=
  .ok s.text

/-- The value of a digit, letters counting from ten. -/
def digitValue? (base : Nat) (c : Char) : Option Nat :=
  (hexValue? c).filter (· < base)

/-- The number that digits stand for. -/
def digitsValue? (base : Nat) (digits : List Char) : Option Nat :=
  if digits.isEmpty then none
  else digits.foldlM (fun n c => (digitValue? base c).map (n * base + ·)) 0

/-- The marks of the bases that are not ten. -/
def bases : List (Char × Nat) :=
  [('x', 16), ('o', 8), ('b', 2)]

/-- The greatest number that a setting may have. -/
def maxNumber : Nat :=
  Nat.pow 2 64 - 1

/-- The number that a text stands for. A plus sign may come first. In base ten,
zero has one digit and no other number begins with it. -/
def natural? (text : List Char) : Option Nat :=
  let unsigned := match text with
    | '+' :: rest => rest
    | _ => text
  let value := match unsigned with
    | '0' :: mark :: digits =>
      match List.lookup mark bases with
      | some base => digitsValue? base digits
      | none => none
    | digits => digitsValue? 10 digits
  value.filter (· ≤ maxNumber)

/-- Read a number. -/
def readNumber (s : Scalar) : Except Problem Nat :=
  if s.style = .plain ∨ (s.style = .literal ∧ s.tag = some intTag) then
    match natural? s.text.toList with
    | some n => .ok n
    | none => .error "a value is no number"
  else .error "a value is no number"

/-- Read a restriction. -/
def readRestriction (s : Scalar) : Except Problem Restriction :=
  match s.tag.filter (·.toList.head? = some '!') with
  | some tag =>
    match Restriction.ofWord? (.ofList (tag.toList.drop 1)) with
    | some r =>
      if s.style = .plain ∧ (s.text.isEmpty ∨ isNull s.text) then .ok r
      else .error "a value is no null"
    | none => .error "an unknown restriction"
  | none =>
    match Restriction.ofWord? s.text with
    | some r => .ok r
    | none => .error "an unknown restriction"

-- ================================================================ settings

/-- Add the setting of one key. -/
def add (file : FileSettings) (key : String) (s : Scalar) :
    Except Problem FileSettings :=
  match key with
  | "proof_marker" => do return { file with marker := ← optional readText s }
  | "project_name" => do return { file with project := ← optional readText s }
  | "restrict_expensive_jobs" =>
    do return { file with restriction := ← optional readRestriction s }
  | "expensive_jobs_parallelism" =>
    do return { file with expensiveJobs := ← optional readNumber s }
  | "configure_jobs" =>
    do return { file with configureJobs := ← optional readNumber s }
  | "parallel_jobs" =>
    do return { file with parallelJobs := ← optional readNumber s }
  | "litani" =>
    do return { file with litani := (← optional readText s).map Path.mk }
  | _ => .error "an unknown key"

/-- Add the settings of several keys, each of which must be given once. -/
def addAll (file : FileSettings) (before : List String) :
    List (Scalar × Scalar) → Except Problem FileSettings
  | [] => .ok file
  | (key, value) :: rest =>
    if before.contains key.text then .error "a key is given twice"
    else
      match file.add key.text value with
      | .ok file => file.addAll (key.text :: before) rest
      | .error e => .error e

/-- The settings in a text, whatever their values. -/
def yaml : SettingsFormat := fun text => do
  match (← Document.parse text).scalars? with
  | some entries => addAll {} [] entries
  | none => throw "a key or a value is no scalar"

end ProofBatch.FileSettings
