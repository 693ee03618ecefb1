import Songbook.Decimal.Integer
import Songbook.Directive.Keyword
import Songbook.Length
import Songbook.Problem
import Songbook.Style.Font

/-!
# Directives

A directive is a keyword with its arguments understood. `Directive.read` checks the arguments; what
a directive does is said where the session applies it.
-/

namespace Songbook

/-- A font size: a number, or a change when it is written with a sign. -/
inductive SizeArgument where
  | absolute (points : Int)
  | relative (delta : Int)
deriving DecidableEq, Repr

inductive CommentStyle where
  | shaded
  | italic
  | boxed
deriving DecidableEq, Repr

/-- The extents of a form as they are given. -/
structure FormSpec (L : Type) where
  name : String
  top : L
  width : L
  left : L
  bottom : L
deriving Repr

inductive Directive (L : Type) where
  | startOfChorus
  | endOfChorus
  | font (slot : FontSlot) (family : String)
  | size (slot : FontSlot) (size : SizeArgument)
  | comment (style : CommentStyle) (text : String)
  | newSong
  | title (text : String)
  | subtitle (text : String)
  | define (args : String)
  | chord (args : String)
  | grid (on : Bool)
  | newPage
  | newPhysicalPage
  | startOfTab
  | endOfTab
  | columnBreak
  | columns (count : Nat)
  | twoColumn (on : Bool)
  | oldDefine
  | newDefine
  | startOfBlock (label : String)
  | endOfBlock
  | bridge (keyword : Keyword)
  | indent (keyword : Keyword)
  | autoSpace (on : Bool)
  | paperType (name : String)
  | formSpec (spec : FormSpec L)
  | conditionalBreak (lines : Nat)
  | setIndent (points : Int)
  | extensions (on : Bool)
  | version (version : Int)
deriving Repr

namespace Directive

/-- The first word of the arguments, which must be there. -/
def readWord (k : Keyword) (args : String) : Except Problem String :=
  match Text.words args with
  | word :: _ => .ok word
  | [] => .error (.missingArgument k.name)

/-- The first word, or nothing. -/
def firstWord (args : String) : String := (Text.words args).headD ""

def readSize (k : Keyword) (args : String) : Except Problem SizeArgument := do
  let word ← readWord k args
  let value := Decimal.leadingInteger word
  if value = 0 then .error (.invalidValue k.name word)
  else match word.toList with
    | '+' :: _ | '-' :: _ => .ok (.relative value)
    | _ => .ok (.absolute value)

/-- A number from `least` on. -/
def readCount (k : Keyword) (args : String) (least : Int) : Except Problem Nat :=
  let word := firstWord args
  let value := Decimal.leadingInteger word
  if value < least then .error (.invalidValue k.name word) else .ok value.toNat

/-- The number that the arguments begin with. -/
def readNumber (args : String) : Int := Decimal.leadingInteger (firstWord args)

variable {L : Type} [Length L]

/-- One extent of a form: its length and the words after it. -/
def readExtent (form what : String) : List String → Except Problem (L × List String)
  | [] => .error (.invalidForm (form ++ ": no " ++ what))
  | word :: rest =>
    match (Decimal.Numeral.read? word).bind Length.ofNumeral? with
    | some length => .ok (length, rest)
    | none => .error (.invalidForm (form ++ ": bad " ++ what ++ " " ++ Text.quoted word))

/-- A name and four extents; further words are passed over. -/
def readForm (args : String) : Except Problem (FormSpec L) :=
  match Text.words args with
  | [] => .error (.missingArgument "form_spec")
  | word :: words => do
    let name := Text.lower word
    let (top, words) ← readExtent name "top extent" words
    let (width, words) ← readExtent name "width extent" words
    let (left, words) ← readExtent name "left margin" words
    let (bottom, _) ← readExtent name "bottom margin" words
    return ⟨name, top, width, left, bottom⟩

/-- Reads the arguments of a keyword. -/
def read (k : Keyword) (args : String) : Except Problem (Directive L) :=
  let text := Text.trim args
  match k with
  | .startOfChorus => .ok .startOfChorus
  | .endOfChorus => .ok .endOfChorus
  | .textFont => (readWord k args).map (.font .text)
  | .chordFont => (readWord k args).map (.font .chord)
  | .tabFont => (readWord k args).map (.font .tab)
  | .commentFont => (readWord k args).map (.font .comment)
  | .commentItalicFont => (readWord k args).map (.font .commentItalic)
  | .textSize => (readSize k args).map (.size .text)
  | .chordSize => (readSize k args).map (.size .chord)
  | .tabSize => (readSize k args).map (.size .tab)
  | .commentSize => (readSize k args).map (.size .comment)
  | .commentItalicSize => (readSize k args).map (.size .commentItalic)
  | .comment => .ok (.comment .shaded text)
  | .commentItalic => .ok (.comment .italic text)
  | .commentBox => .ok (.comment .boxed text)
  | .newSong => .ok .newSong
  | .title => .ok (.title text)
  | .subtitle => .ok (.subtitle text)
  | .define => .ok (.define text)
  | .chord => .ok (.chord text)
  | .noGrid => .ok (.grid false)
  | .grid => .ok (.grid true)
  | .newPage => .ok .newPage
  | .newPhysicalPage => .ok .newPhysicalPage
  | .startOfTab => .ok .startOfTab
  | .endOfTab => .ok .endOfTab
  | .columnBreak => .ok .columnBreak
  | .columns => (readCount k args 2).map .columns
  | .twoColumnOn => .ok (.twoColumn true)
  | .twoColumnOff => .ok (.twoColumn false)
  | .oldDefine => .ok .oldDefine
  | .newDefine => .ok .newDefine
  | .startOfBlock => .ok (.startOfBlock text)
  | .endOfBlock => .ok .endOfBlock
  | .startOfBridge | .endOfBridge => .ok (.bridge k)
  | .startOfIndent | .endOfIndent => .ok (.indent k)
  | .autoSpaceOn => .ok (.autoSpace true)
  | .autoSpaceOff => .ok (.autoSpace false)
  | .paperType => (readWord k args).map .paperType
  | .formSpec => (readForm args).map .formSpec
  | .conditionalBreak => (readCount k args 1).map .conditionalBreak
  | .setIndent => .ok (.setIndent (readNumber args))
  | .enableExtensions => .ok (.extensions true)
  | .disableExtensions => .ok (.extensions false)
  | .version => .ok (.version (readNumber args))

end Directive

end Songbook
