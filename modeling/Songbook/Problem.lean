import Songbook.Markup.Token
import Songbook.Text.Quoted

/-!
# Problems and faults

A problem is something wrong in the input that is reported with its place; the construct is then
skipped or applied in part. A fault ends the run.
-/

namespace Songbook

/-- Why a chord definition is refused. -/
inductive DefinitionFlaw where
  | noFingering
  | baseWithoutValue
  | noFrets
  | unexpected (word : String)
  | tooFewFrets (found : Nat)
  | badFret (word : String)
  | badBase (word : String)
  | outOfRange (base : Nat)
deriving DecidableEq, Repr

namespace DefinitionFlaw

def message : DefinitionFlaw → String
  | .noFingering => "no fingering given"
  | .baseWithoutValue => "base-fret without value"
  | .noFrets => "no frets given"
  | .unexpected word => "unexpected " ++ Text.quoted word
  | .tooFewFrets found => "expected 6 frets, found " ++ toString found
  | .badFret word => "bad fret value " ++ Text.quoted word
  | .badBase word => "bad base fret " ++ Text.quoted word
  | .outOfRange base => "fret out of range above base fret " ++ toString base

end DefinitionFlaw

/-- Something wrong in the input. A directive is named by its keyword. -/
inductive Problem where
  | nestedChord
  | unmatchedChordClose
  | unmatchedDirectiveClose
  | directiveInChord
  | unterminatedDirective
  | unterminatedChord
  | bufferOverflow (token : Markup.Token)
  | notADirective
  | unknownDirective (name : String)
  | missingArgument (directive : String)
  | invalidValue (directive value : String)
  | relativeSizeNotEnabled (directive : String)
  | extensionsDisabled (directive : String)
  | startupOnly (directive : String)
  | notInStartup (directive : String)
  | unsupported (directive : String)
  | unimplemented (directive : String)
  | emptyComment
  | notInChorus
  | alreadyInTab
  | notInTab
  | alreadyInBlock
  | notInBlock
  | alreadyMultiColumn
  | notMultiColumn
  | unknownPaperType (name : String)
  | invalidForm (reason : String)
  | transpose (chord : String)
  | unknownChordRoot (chord : String)
  | invalidChordDefinition (chord : String) (flaw : DefinitionFlaw)
  | ungridable (chord : String) (span : Nat)
  | notice (text : String)
deriving DecidableEq, Repr

namespace Problem

def message : Problem → String
  | .nestedChord => "opening a chord within a chord"
  | .unmatchedChordClose => "']' found with no matching '['"
  | .unmatchedDirectiveClose => "'\x7d' found with no matching '\x7b'"
  | .directiveInChord => "directive opened inside a chord"
  | .unterminatedDirective => "line ends while in a directive"
  | .unterminatedChord => "line ends while in a chord"
  | .bufferOverflow token => "buffer overflow in " ++ token.describe
  | .notADirective => "line is not a directive"
  | .unknownDirective name => "invalid directive: [" ++ name ++ "]"
  | .missingArgument directive => "missing argument for " ++ directive
  | .invalidValue directive value => "invalid value for " ++ directive ++ ": " ++ Text.quoted value
  | .relativeSizeNotEnabled directive => "relative sizing is an extended feature: " ++ directive
  | .extensionsDisabled directive => "extended commands not enabled: " ++ directive
  | .startupOnly directive => directive ++ " directive can only be used in a configuration file"
  | .notInStartup directive => directive ++ " makes no sense in a configuration file"
  | .unsupported directive => "unsupported directive: [" ++ directive ++ "]"
  | .unimplemented directive => "unimplemented directive: [" ++ directive ++ "]"
  | .emptyComment => "null comment"
  | .notInChorus => "not in a chorus"
  | .alreadyInTab => "already in a tablature"
  | .notInTab => "not in a tablature"
  | .alreadyInBlock => "already in a block"
  | .notInBlock => "not in a block"
  | .alreadyMultiColumn => "already in multiple column mode"
  | .notMultiColumn => "not in multiple column mode"
  | .unknownPaperType name => "page type " ++ name ++ " is not supported"
  | .invalidForm reason => "invalid form specification: " ++ reason
  | .transpose chord => "don't know how to transpose [" ++ chord ++ "]"
  | .unknownChordRoot chord => "unrecognized chord name [" ++ chord ++ "]"
  | .invalidChordDefinition chord flaw =>
    "invalid definition of chord " ++ chord ++ ": " ++ flaw.message
  | .ungridable chord span =>
    "chord " ++ chord ++ " spans " ++ toString span ++ " frets and cannot be fitted in the grid"
  | .notice text => text

end Problem

/-- A problem and where it was found. -/
structure Diagnostic where
  file : String
  line : Nat
  problem : Problem
deriving DecidableEq, Repr

def Diagnostic.message (d : Diagnostic) : String :=
  d.file ++ ":" ++ toString d.line ++ ": " ++ d.problem.message

/-- What ends a run. -/
inductive Fault where
  /-- The device refused a drawing. -/
  | device (reason : String)
  | unknownPaperType (name : String)
  /-- A directive's text was cut inside a character. -/
  | brokenCharacter
deriving DecidableEq, Repr

def Fault.message : Fault → String
  | .device reason => "render error: " ++ reason
  | .unknownPaperType name => "page type " ++ name ++ " is not supported"
  | .brokenCharacter => "text is cut inside a character"

end Songbook
