import AdmissionControl.Journal
import AdmissionControl.Text.Digits
import AdmissionControl.Text.Split

namespace AdmissionControl.Journal

open Text

-- The least serious events that are still written, if any are.
inductive Threshold where
  | off
  | error
  | warn
  | info
  | debug
  | trace
deriving DecidableEq

namespace Threshold

def name : Threshold → String
  | .off => "off"
  | .error => "error"
  | .warn => "warn"
  | .info => "info"
  | .debug => "debug"
  | .trace => "trace"

-- From the quietest to the most talkative.
def all : List Threshold := [.off, .error, .warn, .info, .debug, .trace]

-- A threshold is given by its name, in letters of either case, or by its place
-- in the list of all of them.
def ofChars? (cs : List Char) : Option Threshold :=
  match natOfSigned? cs with
  | some place => all[place]?
  | none => all.find? fun threshold => threshold.name.toList = cs.map Char.toLower

def admits : Threshold → Severity → Bool
  | .off, _ => false
  | .error, severity => severity = .error
  | .warn, severity => severity = .error ∨ severity = .warn
  | .info, severity => severity ≠ .debug
  | .debug, _ | .trace, _ => true

end Threshold

-- A rule sets the threshold of all targets that begin with a name. One that is
-- bound to a span of work says nothing about what happens outside of it.
structure Rule where
  targets : List Char := []
  threshold : Threshold := .trace
  boundToSpan : Bool := false
deriving DecidableEq

inductive RuleError where
  | malformed
  | unknownThreshold
deriving DecidableEq

def RuleError.message : RuleError → String
  | .malformed => "invalid filter directive"
  | .unknownThreshold =>
    "error parsing level filter: expected one of \"off\", \"error\", \"warn\", \"info\", " ++
      "\"debug\", \"trace\", or a number 0-5"

namespace Rule

-- What stands behind the equals sign. Nothing there admits everything.
def thresholdPart (cs : List Char) : Except RuleError Threshold :=
  if cs.isEmpty then .ok .trace
  else (Threshold.ofChars? cs).elim (.error .unknownThreshold) .ok

-- What stands behind the bracket that opens a span: its name, perhaps its
-- fields in braces, the bracket that closes it, and perhaps a threshold.
def spanPart (cs : List Char) : Except RuleError Threshold := do
  let rest ←
    match cs.dropWhile fun c => c ≠ ']' ∧ c ≠ '\x7b' with
    | ']' :: rest => .ok rest
    | '\x7b' :: fields =>
      match cutAt? '\x7d' fields with
      | some (_ :: _, ']' :: rest) => .ok rest
      | _ => .error .malformed
    | _ => .error .malformed
  match rest with
  | [] => .ok .trace
  | '=' :: threshold => thresholdPart threshold
  | _ => .error .malformed

-- A lone word is a threshold for every target if it can be read as one.
def parse (cs : List Char) : Except RuleError Rule := do
  let targets := cs.takeWhile fun c => c ≠ '=' ∧ c ≠ '['
  match cs.head?, cs.drop targets.length with
  | some '[', _ :: span => return { threshold := ← spanPart span, boundToSpan := true }
  | some c, rest =>
    if c.isAlphanum ∨ c = '-' ∨ c = ':' ∨ c = '_' then
      match rest, Threshold.ofChars? cs with
      | '=' :: threshold, _ => return { targets, threshold := ← thresholdPart threshold }
      | _ :: span, _ => return { targets, threshold := ← spanPart span, boundToSpan := true }
      | [], some threshold => return { threshold }
      | [], none => return { targets }
    else .error .malformed
  | none, _ => .error .malformed

end Rule

abbrev Rules := List Rule

namespace Rules

-- The rules are divided by commas.
def pieces (text : String) : List (List Char) :=
  (splitOnChar ',' text.toList).filter (!·.isEmpty)

-- Without any rule only errors are written.
def ofRules (rules : List Rule) : Rules :=
  if rules.isEmpty then [{ threshold := .error }] else rules

-- The rules of a text in which each of them is well formed.
def parse? (text : String) : Option Rules :=
  ((pieces text).mapM fun piece => (Rule.parse piece).toOption).map ofRules

-- The well-formed rules, and those that are passed over.
def parseLenient (text : String) : Rules × List (List Char × RuleError) :=
  let results := (pieces text).map fun piece => (piece, Rule.parse piece)
  (ofRules (results.filterMap fun (_, result) => result.toOption),
    results.filterMap fun (piece, result) =>
      match result with
      | .ok _ => none
      | .error error => some (piece, error))

-- The rule with the longest name decides, and among equals the last.
def deciding? (target : List Char) (rules : Rules) : Option Rule :=
  (rules.filter fun rule => !rule.boundToSpan && rule.targets.isPrefixOf target).foldl
    (fun best rule =>
      if (best.map (·.targets.length)).any (rule.targets.length < ·) then best else some rule)
    none

def admits (rules : Rules) (target : String) (severity : Severity) : Bool :=
  (rules.deciding? target.toList).any (·.threshold.admits severity)

end Rules

end AdmissionControl.Journal
