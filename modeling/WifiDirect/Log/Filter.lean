import WifiDirect.Log
import WifiDirect.Text.Blank
import WifiDirect.Text.Split

/-!
# Log filters

A filter is a list of directives between commas. A directive is a threshold for all records, or for
those of a target, those with a field, or those of a target with a field. The most specific of the
directives for a record decides whether it is kept (`decisive?`, `keeps`).
-/

namespace WifiDirect.Log

/-- How much is kept: the number of levels, counted from the most important one, which is that of
errors. -/
abbrev Threshold := Nat

/-- The least threshold that keeps a level. -/
def Threshold.ofLevel : Level → Threshold
  | .warn => 2
  | .info => 3
  | .debug => 4
  | .trace => 5

/-- The thresholds by name, the first of which keeps nothing. -/
def thresholdNames : List String :=
  ["off", "error", "warn", "info", "debug", "trace"]

/-- The number that a word writes, which may have a plus sign and zeros in front. -/
def number? (word : List Char) : Option Nat :=
  let digits := if word.head? = some '+' then word.tail else word
  if digits ≠ [] ∧ digits.all Char.isDigit then some (Nat.ofDigitChars 10 digits 0) else none

/-- The threshold that a word names, in letters of either case or by its number. -/
def threshold? (word : List Char) : Option Threshold :=
  match number? word with
  | some n => if n < thresholdNames.length then some n else none
  | none =>
    let lower := String.ofList (word.map Char.toLower)
    thresholdNames.findIdx? (· == lower)

/-- A rule for the records whose targets begin with `target` and that have the field, if one is
named. -/
structure Directive where
  target : List Char
  field? : Option (List Char)
  threshold : Threshold
  deriving DecidableEq, Repr

/-! ### Reading -/

/-- Whether a target may begin with a character. -/
def beginsTarget (c : Char) : Bool :=
  c.isAlphanum || c == '_' || c == ':' || c == '-'

/-- Whether a target ends before a character. -/
def endsTarget (c : Char) : Bool :=
  c == '=' || c == '['

/-- The threshold behind an equals sign. Where none is written, all is kept. -/
def writtenThreshold? (word : List Char) : Option Threshold :=
  if word = [] then some (Threshold.ofLevel .trace) else threshold? word

/-- A field in braces and brackets, and what follows it. A directive for the inside of a span, which
no record is in, or for one value of a field is none for records. -/
def bracketedField? : List Char → Option (List Char × List Char)
  | '[' :: '{' :: cs =>
    match Text.splitOnce? '}' cs with
    | some (field, ']' :: rest) => if field = [] ∨ '=' ∈ field then none else some (field, rest)
    | _ => none
  | _ => none

/-- The threshold behind a field. Where none is written, all is kept, and blanks may follow. -/
def fieldThreshold? : List Char → Option Threshold
  | '=' :: word => writtenThreshold? word
  | rest => if rest.all Text.isBlank then some (Threshold.ofLevel .trace) else none

/-- The directive that a text writes. A word that names no threshold is a target, of which all is
kept. -/
def directive? (cs : List Char) : Option Directive :=
  let target := cs.takeWhile (!endsTarget ·)
  if target.head?.any (!beginsTarget ·) then none
  else
    match cs.dropWhile (!endsTarget ·) with
    | [] =>
      if target = [] then none
      else
        match threshold? target with
        | some threshold => some ⟨[], none, threshold⟩
        | none => some ⟨target, none, Threshold.ofLevel .trace⟩
    | '=' :: word =>
      if target = [] then none else (writtenThreshold? word).map (⟨target, none, ·⟩)
    | rest => do
      let (field, rest) ← bracketedField? rest
      return ⟨target, some field, ← fieldThreshold? rest⟩

/-- The directives of a filter. What writes none is passed over. -/
def directives (filter : String) : List Directive :=
  (Text.split ',' filter.toList).filterMap directive?

/-! ### Deciding -/

/-- Whether a directive is for a record of a target. -/
def Directive.isFor (d : Directive) (target : String) (r : LogRecord) : Bool :=
  d.target.isPrefixOf target.toList && d.field?.all (r.hasField <| String.ofList ·)

/-- Whether a field makes a directive less specific than another does. Of two fields the one that
comes first in order does. -/
def isLessSpecificField : Option (List Char) → Option (List Char) → Bool
  | none, some _ => true
  | some a, some b => a < b
  | _, none => false

/-- Whether a directive is less specific than another for the same record: first by the length of
the target, then by the field. -/
def Directive.isLessSpecific (a b : Directive) : Bool :=
  a.target.length < b.target.length ||
    (a.target.length == b.target.length && isLessSpecificField a.field? b.field?)

/-- The more specific of two directives, the later one where both are. -/
def moreSpecific (best? : Option Directive) (d : Directive) : Option Directive :=
  match best? with
  | some best => if d.isLessSpecific best then some best else some d
  | none => some d

/-- The directive that decides on a record. -/
def decisive? (filter target : String) (r : LogRecord) : Option Directive :=
  ((directives filter).filter (·.isFor target r)).foldl moreSpecific none

/-- **Whether a filter keeps a record of a target.** No record is kept by default. -/
def keeps (filter target : String) (r : LogRecord) : Bool :=
  (decisive? filter target r).any fun d => Threshold.ofLevel r.level ≤ d.threshold

end WifiDirect.Log
