import Songbook.Pattern.Joining
import Songbook.Pattern.Tree

/-!
# The meaning of patterns

The expression that a tree stands for. It depends on the flags in force; flags that a group sets
hold to its end, in its later branches too. Only ASCII has letter case and named classes: what asks
for more of Unicode than single characters is refused, and among all characters so is what would
have to be looked up in a table of letter cases.
-/

namespace Songbook.Pattern

/-- The flags in force that change what a pattern means. -/
structure Modes where
  anyCase : Bool
  multiLine : Bool
  dotAll : Bool
  unicode : Bool
  carriageReturns : Bool
  lazy : Bool
deriving DecidableEq, Repr

namespace Modes

def start : Modes := ⟨false, false, false, true, false, false⟩

def set (m : Modes) : Flag × Bool → Modes
  | (.anyCase, on) => { m with anyCase := on }
  | (.multiLine, on) => { m with multiLine := on }
  | (.dotAll, on) => { m with dotAll := on }
  | (.unicode, on) => { m with unicode := on }
  | (.carriageReturns, on) => { m with carriageReturns := on }
  | (.lazy, on) => { m with lazy := on }
  | (.verbose, _) => m

def setAll (m : Modes) (changes : FlagChanges) : Modes := changes.foldl set m

/-- The last of the code points that classes choose from: of all characters or of all bytes. -/
def last (m : Modes) : Nat := if m.unicode then CharSet.lastCharacter else 0xFF

end Modes

/-- The characters of a named class. -/
def AsciiClass.chars : AsciiClass → CharSet
  | .alnum => [(0x30, 0x39), (0x41, 0x5A), (0x61, 0x7A)]
  | .alpha => [(0x41, 0x5A), (0x61, 0x7A)]
  | .ascii => [(0x00, 0x7F)]
  | .blank => [(0x09, 0x09), (0x20, 0x20)]
  | .cntrl => [(0x00, 0x1F), (0x7F, 0x7F)]
  | .digit => [(0x30, 0x39)]
  | .graph => [(0x21, 0x7E)]
  | .lower => [(0x61, 0x7A)]
  | .print => [(0x20, 0x7E)]
  | .punct => [(0x21, 0x2F), (0x3A, 0x40), (0x5B, 0x60), (0x7B, 0x7E)]
  | .space => [(0x09, 0x0D), (0x20, 0x20)]
  | .upper => [(0x41, 0x5A)]
  | .word => [(0x30, 0x39), (0x41, 0x5A), (0x5F, 0x5F), (0x61, 0x7A)]
  | .xdigit => [(0x30, 0x39), (0x41, 0x46), (0x61, 0x66)]

def SetOperation.apply : SetOperation → CharSet → CharSet → CharSet
  | .intersection => .intersection
  | .difference => .difference
  | .symmetricDifference => .symmetricDifference

/-- The result of a step, or what is wrong. -/
abbrev Checked := Except Flaw

def refuse {α : Type} (kind : FlawKind) (span : Span) : Checked α := .error ⟨kind, span, none⟩

/-! ## Classes -/

mutual

/-- No part of the class has letter cases that have not been seen to. Classes between brackets
and combined classes have seen to those of their own parts. -/
def CharClass.isCaseless : CharClass → Bool
  | .empty _ | .bracketed .. | .combined .. => true
  | .literal _ | .range .. | .named .. | .lettered .. | .property .. => false
  | .union _ parts => allCaseless parts

def allCaseless : List CharClass → Bool
  | [] => true
  | part :: parts => part.isCaseless && allCaseless parts

end

/-- The set without regard to letter case, if that is asked for. Among all characters only a class
without letter cases can do without a table of them. -/
def ignoreCase (m : Modes) (span : Span) (caseless : Bool) (s : CharSet) : Checked CharSet :=
  if !m.anyCase then return s
  else if !m.unicode then return s.withOtherCase
  else if caseless then return s
  else refuse .noLetterCase span

/-- The complement if the class is negated. Bytes beyond ASCII are parts of characters. -/
def negateIf (m : Modes) (span : Span) (negated : Bool) (s : CharSet) : Checked CharSet :=
  let s := if negated then CharSet.complement m.last s else s
  if !m.unicode && !s.isAscii then refuse .partsOfCharacters span else return s

/-- A class of bytes has ASCII characters only. -/
def classCharacter (m : Modes) (l : Literal) : Checked Nat :=
  if m.unicode || l.char.toNat < 0x80 then return l.char.toNat
  else refuse (if l.asByte then .partsOfCharacters else .characterAmongBytes) l.span

/-- The property names that are read as the short names of a category. -/
def isCategoryName (name : String) : Bool :=
  let letters := name.toList.map Char.toLower
  let letters := if ['i', 's'].isPrefixOf letters then letters.drop 2 else letters
  let letters := letters.filter fun c => c.toNat < 0x80 && c != ' ' && c != '_' && c != '-'
  [['c', 'f'], ['s', 'c'], ['l', 'c']].contains letters

/-- Why a Unicode property is refused. -/
def propertyFlaw (m : Modes) (name : String) : FlawKind :=
  if !m.unicode then .characterAmongBytes
  else if isCategoryName name then .propertyValueUnknown
  else .propertyUnknown

mutual

/-- The characters of a class. -/
def CharClass.meaning (m : Modes) : CharClass → Checked CharSet
  | .empty _ => return []
  | .literal l => do
    let n ← classCharacter m l
    return [(n, n)]
  | .range _ first last => do
    return [(← classCharacter m first, ← classCharacter m last)]
  | .named span name negated => do
    negateIf m span negated (← ignoreCase m span false name.chars)
  | .lettered span name negated =>
    if m.unicode then refuse .perlClassUnknown span else negateIf m span negated name.chars
  | .property span name => refuse (propertyFlaw m name) span
  | .bracketed span negated body => do
    negateIf m span negated (← ignoreCase m span body.isCaseless (← body.meaning m))
  | .union _ parts => partsMeaning m parts
  | .combined _ operation left right => do
    let first ← left.meaning m
    let second ← right.meaning m
    let second ← ignoreCase m right.span right.isCaseless second
    let first ← ignoreCase m left.span left.isCaseless first
    return operation.apply first second

def partsMeaning (m : Modes) : List CharClass → Checked CharSet
  | [] => return []
  | part :: parts => do
    return (← part.meaning m).union (← partsMeaning m parts)

end

/-! ## Patterns -/

/-- A character outside of classes. -/
def Literal.meaning (m : Modes) (l : Literal) : Checked Expression :=
  let n := l.char.toNat
  if !m.unicode && l.asByte && 0x80 ≤ n then refuse .partsOfCharacters l.span
  else if !m.anyCase then return .literal [l.char]
  else if m.unicode then refuse .noLetterCase l.span
  else return .ofSet (CharSet.withOtherCase [(n, n)])

/-- What the dot matches: every character, or every one but line ends. -/
def dotMeaning (m : Modes) (span : Span) : Checked Expression :=
  if !m.unicode then refuse .partsOfCharacters span
  else
    let ends := if m.dotAll then []
      else if m.carriageReturns then [(0x0A, 0x0A), (0x0D, 0x0D)]
      else [(0x0A, 0x0A)]
    return .ofSet (CharSet.complement m.last ends)

def Assertion.meaning (m : Modes) : Assertion → Look
  | .lineStart => if m.multiLine then .lineStart m.carriageReturns else .textStart
  | .lineEnd => if m.multiLine then .lineEnd m.carriageReturns else .textEnd
  | .textStart => .textStart
  | .textEnd => .textEnd
  | .wordBoundary => .wordBoundary m.unicode
  | .noWordBoundary => .noWordBoundary m.unicode
  | .wordStart => .wordStart m.unicode
  | .wordEnd => .wordEnd m.unicode
  | .wordStartHalf => .wordStartHalf m.unicode
  | .wordEndHalf => .wordEndHalf m.unicode

mutual

/-- The expression of a tree, and the flags in force after it. -/
def Tree.meaning (m : Modes) : Tree → Checked (Expression × Modes)
  | .empty _ => return (.empty, m)
  | .flags _ changes => return (.empty, m.setAll changes)
  | .literal l => return (← l.meaning m, m)
  | .dot span => return (← dotMeaning m span, m)
  | .assertion _ kind => return (.look (kind.meaning m), m)
  | .oneOf chars => return (.ofSet (← chars.meaning m), m)
  | .repetition _ body least most lazy => do
    let (e, m) ← body.meaning m
    return (e.times least most (lazy != m.lazy), m)
  | .group span kind body => do
    let (e, _) ← body.meaning (m.setAll kind.changes)
    return (if kind = .capturing then .captured span.start.offset e else e, m)
  | .alternation _ branches => do
    let (es, m) ← itemsMeaning m branches
    return (.any es, m)
  | .sequence _ items => do
    let (es, m) ← itemsMeaning m items
    return (.all es, m)

def itemsMeaning (m : Modes) : List Tree → Checked (List Expression × Modes)
  | [] => return ([], m)
  | item :: items => do
    let (e, m) ← item.meaning m
    let (es, m) ← itemsMeaning m items
    return (e :: es, m)

end

end Songbook.Pattern
