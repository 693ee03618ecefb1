import Songbook.Pattern.Basic
import Songbook.Session.Log
import Songbook.Text.Blank
import Songbook.Text.Case

/-!
# Choosing messages

Which messages of the log are shown. A filter is a list of rules between commas: a severity, the
beginning of a topic, or both with an equals sign between them; after a slash may stand a pattern
that messages must match somewhere. Of the rules for a topic the longest counts.
-/

namespace Songbook

/-- Greater is more talkative. -/
def Severity.rank : Severity → Nat
  | .error => 1
  | .warning => 2
  | .info => 3
  | .debug => 4
  | .trace => 5

namespace CommandLine

/-- Shows the messages of topics that begin with `topic` up to a rank. -/
structure LogRule where
  topic : Option String
  rank : Nat
deriving DecidableEq, Repr

namespace LogRule

/-- The length of the topic that a rule is for. -/
def length (r : LogRule) : Nat := (r.topic.getD "").utf8ByteSize

/-- The rule is for the topic. -/
def covers (r : LogRule) (topic : String) : Bool :=
  (r.topic.getD "").toList.isPrefixOf topic.toList

end LogRule

structure LogFilter where
  rules : List LogRule
  pattern : Option Pattern.Expression
deriving DecidableEq, Repr

namespace LogFilter

/-- The names of ranks, in any letter case. -/
def rank? (s : String) : Option Nat :=
  match Text.lower s with
  | "off" => some 0
  | "error" => some 1
  | "warn" => some 2
  | "info" => some 3
  | "debug" => some 4
  | "trace" => some 5
  | _ => none

/-- Reads one rule; a rule that makes no sense is given back. -/
def readRule (s : String) : Except String LogRule :=
  match Text.pieces (· == '=') s.toList with
  | [part] =>
    match rank? (String.ofList part) with
    | some rank => .ok ⟨none, rank⟩
    | none => .ok ⟨some (String.ofList part), Severity.trace.rank⟩
  | [topic, part] =>
    let level := Text.trim (String.ofList part)
    if level.isEmpty then .ok ⟨some (String.ofList topic), Severity.trace.rank⟩
    else match rank? level with
      | some rank => .ok ⟨some (String.ofList topic), rank⟩
      | none => .error level
  | _ => .error s

/-- Adds a rule in place of one with the same topic. -/
def addRule (rules : List LogRule) (r : LogRule) : List LogRule :=
  if rules.any (·.topic == r.topic) then rules.map fun q => if q.topic == r.topic then r else q
  else rules ++ [r]

/-- Reads the rules between commas, and the ones that make no sense. -/
def readRules (s : List Char) : List LogRule × List String :=
  let parts := (Text.pieces (· == ',') s).map fun p => Text.trim (String.ofList p)
  (parts.filter (!·.isEmpty)).foldl (fun (rules, bad) part =>
    match readRule part with
    | .ok r => (addRule rules r, bad)
    | .error e => (rules, bad ++ [e])) ([], [])

/-- Only errors are shown when no rule says anything else. -/
def ofRules (rules : List LogRule) (pattern : Option Pattern.Expression) : LogFilter :=
  ⟨if rules.isEmpty then [⟨none, Severity.error.rank⟩] else rules, pattern⟩

/-- How something in a filter that makes no sense is reported. -/
def complaint (what : String) : String := "warning: invalid " ++ what ++ ", ignoring it\n"

/-- How a rule that makes no sense is reported. -/
def ruleComplaint (rule : String) : String := complaint ("logging spec '" ++ rule ++ "'")

/-- Reads a filter, with a complaint for each part that makes no sense. -/
def read (s : String) : LogFilter × List String :=
  match Text.pieces (· == '/') s.toList with
  | [rules] =>
    let (rules, bad) := readRules rules
    (ofRules rules none, bad.map ruleComplaint)
  | [rules, pattern] =>
    let (rules, bad) := readRules rules
    let pattern := String.ofList pattern
    match Pattern.compile pattern with
    | .ok e => (ofRules rules (some e), bad.map ruleComplaint)
    | .error r =>
      (ofRules rules none,
        bad.map ruleComplaint ++ [complaint ("regex filter - " ++ r.message pattern)])
  | _ => (ofRules [] none, [complaint ("logging spec '" ++ s ++ "' (too many '/'s)")])

/-- The longer of two rules, the second if they are equally long. -/
def longer (best : Option LogRule) (r : LogRule) : Option LogRule :=
  match best with
  | some b => if b.length ≤ r.length then some r else some b
  | none => some r

/-- The rule that counts for a topic: the longest, and the last of those. -/
def ruleFor? (f : LogFilter) (topic : String) : Option LogRule :=
  (f.rules.filter (·.covers topic)).foldl longer none

/-- The message is to be shown. -/
def shows (f : LogFilter) (severity : Severity) (topic message : String) : Bool :=
  match f.ruleFor? topic with
  | some r => severity.rank ≤ r.rank && f.pattern.all (·.foundIn message)
  | none => false

end LogFilter

end CommandLine

end Songbook
