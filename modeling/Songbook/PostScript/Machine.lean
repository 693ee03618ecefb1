import Songbook.PostScript.Document

/-!
# Running PostScript

What code means to the device that prints it: operands on a stack, named values, and a graphics
state that can be saved and gone back to. What is printed or measured is put down with the state in
force (`Event`), so two pieces of code that put down the same draw the same.

A machine stops where an operator lacks an operand, where a text is shown without a font and where
the graphics state goes back without having been saved. Paths are kept as they are drawn, lengths
are what they are before they are written; how wide a text is in a font is up to the fonts.
-/

namespace Songbook.PostScript

/-- A face at a size. -/
structure ScaledFont (L : Type) where
  family : String
  size : L
deriving DecidableEq, Repr

/-- What stands on the stack or goes by a name. -/
inductive Value (L : Type) where
  | number (value : L)
  | boolean (value : Bool)
  | name (name : String)
  | string (text : String)
  | face (family : String)
  | font (font : ScaledFont L)
  | procedure (body : List (Token L))
deriving Repr

/-- A piece of a path. -/
inductive Segment (L : Type) where
  | moveTo (h v : L)
  | moveBy (h v : L)
  | lineTo (h v : L)
  | lineBy (h v : L)
  | arc (h v radius start stop : L)
  | close
deriving DecidableEq, Repr

/-- A change of coordinates. -/
inductive Change (L : Type) where
  | translate (h v : L)
  | scale (h v : L)
  | rotate (angle : L)
deriving DecidableEq, Repr

/-- What is saved and gone back to. -/
structure Graphics (L : Type) where
  font : Option (ScaledFont L)
  path : List (Segment L)
  gray : L
  lineWidth : L
  changes : List (Change L)
deriving DecidableEq, Repr

inductive Event (L : Type) where
  | measured (text : String) (font : ScaledFont L)
  | shown (text : String) (font : ScaledFont L) (state : Graphics L)
  | stroked (state : Graphics L)
  | filled (state : Graphics L)
  | sheet
deriving DecidableEq, Repr

structure Machine (L : Type) where
  operands : List (Value L)
  names : String → Option (Value L)
  graphics : Graphics L
  saved : List (Graphics L)
  events : List (Event L)

namespace Graphics

variable {L : Type}

/-- The path goes on with another piece. -/
def draw (g : Graphics L) (s : Segment L) : Graphics L := { g with path := g.path ++ [s] }

def withoutPath (g : Graphics L) : Graphics L := { g with path := [] }

def change (g : Graphics L) (c : Change L) : Graphics L := { g with changes := g.changes ++ [c] }

/-- What every sheet begins with. The font stays as it is. -/
def renewed [Length L] (g : Graphics L) : Graphics L := ⟨g.font, [], 0, 1, []⟩

end Graphics

/-- The value that goes by a name, and all others as before. -/
def define {L : Type} (names : String → Option (Value L)) (name : String) (v : Value L) :
    String → Option (Value L) :=
  fun n => if n = name then some v else names n

namespace Machine

variable {L : Type}

def push (v : Value L) : Machine L → Machine L
  | ⟨operands, names, g, saved, events⟩ => ⟨v :: operands, names, g, saved, events⟩

variable [Length L]

/-- What is left of the operands by an operator that works on nothing else. -/
def calculate : Operator → List (Value L) → Option (List (Value L))
  | .add, .number b :: .number a :: rest => some (.number (a + b) :: rest)
  | .mul, .number b :: .number a :: rest => some (.number (a * b) :: rest)
  | .divide, .number b :: .number a :: rest => some (.number (a / b) :: rest)
  | .neg, .number a :: rest => some (.number (-a) :: rest)
  | .lt, .number b :: .number a :: rest => some (.boolean (decide (a < b)) :: rest)
  | .dup, v :: rest => some (v :: v :: rest)
  | .exch, b :: a :: rest => some (a :: b :: rest)
  | .pop, _ :: rest => some rest
  | .findfont, .name family :: rest => some (.face family :: rest)
  | .scalefont, .number size :: .face family :: rest => some (.font ⟨family, size⟩ :: rest)
  | _, _ => none

/-- What an operator makes of the graphics state, and the operands that it leaves. -/
def shape (g : Graphics L) : Operator → List (Value L) → Option (List (Value L) × Graphics L)
  | .setfont, .font font :: rest => some (rest, { g with font := some font })
  | .setgray, .number gray :: rest => some (rest, { g with gray })
  | .setlinewidth, .number lineWidth :: rest => some (rest, { g with lineWidth })
  | .translate, .number v :: .number h :: rest => some (rest, g.change (.translate h v))
  | .scale, .number v :: .number h :: rest => some (rest, g.change (.scale h v))
  | .rotate, .number angle :: rest => some (rest, g.change (.rotate angle))
  | .newpath, rest => some (rest, g.withoutPath)
  | .moveto, .number v :: .number h :: rest => some (rest, g.draw (.moveTo h v))
  | .rmoveto, .number v :: .number h :: rest => some (rest, g.draw (.moveBy h v))
  | .lineto, .number v :: .number h :: rest => some (rest, g.draw (.lineTo h v))
  | .rlineto, .number v :: .number h :: rest => some (rest, g.draw (.lineBy h v))
  | .arc, .number stop :: .number start :: .number radius :: .number v :: .number h :: rest =>
    some (rest, g.draw (.arc h v radius start stop))
  | .closepath, rest => some (rest, g.draw .close)
  | _, _ => none

variable (width : ScaledFont L → String → L)

/-- What an operator does. A condition runs a procedure, so it is not among them. -/
def operate (o : Operator) : Machine L → Option (Machine L)
  | ⟨operands, names, g, saved, events⟩ =>
    match o with
    | .add | .mul | .divide | .neg | .lt | .dup | .exch | .pop | .findfont | .scalefont =>
      (calculate o operands).map fun rest => ⟨rest, names, g, saved, events⟩
    | .setfont | .setgray | .setlinewidth | .translate | .scale | .rotate | .newpath | .moveto
    | .rmoveto | .lineto | .rlineto | .arc | .closepath =>
      (shape g o operands).map fun (rest, g) => ⟨rest, names, g, saved, events⟩
    | .define =>
      match operands with
      | v :: .name name :: rest => some ⟨rest, PostScript.define names name v, g, saved, events⟩
      | _ => none
    | .gsave => some ⟨operands, names, g, g :: saved, events⟩
    | .grestore =>
      match saved with
      | g :: saved => some ⟨operands, names, g, saved, events⟩
      | [] => none
    | .stringwidth =>
      match operands, g.font with
      | .string text :: rest, some font =>
        some ⟨.number 0 :: .number (width font text) :: rest, names, g, saved,
          events ++ [.measured text font]⟩
      | _, _ => none
    | .showText =>
      match operands, g.font with
      | .string text :: rest, some font =>
        some ⟨rest, names, g.draw (.moveBy (width font text) 0), saved,
          events ++ [.shown text font g]⟩
      | _, _ => none
    | .stroke => some ⟨operands, names, g.withoutPath, saved, events ++ [.stroked g]⟩
    | .fill => some ⟨operands, names, g.withoutPath, saved, events ++ [.filled g]⟩
    | .showpage => some ⟨operands, names, g.renewed, saved, events ++ [.sheet]⟩
    | .ifTrue => none

/-- What a token does in a procedure, where no further procedure is run. -/
def perform (m : Machine L) : Token L → Option (Machine L)
  | .length x | .fixed x => m.push (.number x)
  | .integer n => m.push (.number (Length.ofInt n))
  | .tenths n => m.push (.number (Length.ofInt n / 10))
  | .symbol name => m.push (.name name)
  | .string text => m.push (.string text)
  | .procedure body => m.push (.procedure body)
  | .op operator => m.operate width operator
  | .call name =>
    match m.names name with
    | some (.procedure _) | none => none
    | some v => m.push v

/-- What a token does. -/
def step (m : Machine L) : Token L → Option (Machine L)
  | .op .ifTrue =>
    match m with
    | ⟨.procedure body :: .boolean b :: rest, names, g, saved, events⟩ =>
      if b then body.foldlM (perform width) ⟨rest, names, g, saved, events⟩
      else some ⟨rest, names, g, saved, events⟩
    | _ => none
  | .call name =>
    match m.names name with
    | some (.procedure body) => body.foldlM (perform width) m
    | some v => m.push v
    | none => none
  | t => m.perform width t

def run (tokens : List (Token L)) (m : Machine L) : Option (Machine L) :=
  tokens.foldlM (step width) m

end Machine

variable {L : Type}

/-- The code of a row. -/
def Row.tokens : Row L → List (Token L)
  | .code tokens => tokens
  | .header | .comment _ => []

def tokens (rows : List (Row L)) : List (Token L) := rows.flatMap Row.tokens

theorem tokens_append (rows rows' : List (Row L)) :
    tokens (rows ++ rows') = tokens rows ++ tokens rows' :=
  List.flatMap_append

end Songbook.PostScript
