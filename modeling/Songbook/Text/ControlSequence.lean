/-!
# Control sequences

Texts for a terminal may hold control sequences, which begin with an escape character and are not
shown. `withoutControls` takes them out of a text, with the control characters that are not blank:
`withoutControls_of_plain` says that a text without either stays as it is.
-/

namespace Songbook.Text

/-- How far a control sequence has been read. -/
inductive ControlState where
  /-- Outside of control sequences. -/
  | ground
  /-- After the escape character. -/
  | escape
  /-- After an intermediate character of a short sequence. -/
  | escapeIntermediate
  /-- In a sequence that ends with a letter or sign. -/
  | control
  /-- In a command to the operating system, which a bell ends. -/
  | system
  /-- At the beginning of a string for the device. -/
  | device
  | deviceParameters
  | deviceIntermediate
  /-- In a string, which the byte 0x9C ends. -/
  | string
deriving DecidableEq, Repr

namespace ControlState

/-- The state after a character that is neither an escape nor a cancel character. -/
def nextPlain (s : ControlState) (n : Nat) : ControlState :=
  let intermediate := 0x20 ≤ n && n ≤ 0x2F
  let final := 0x40 ≤ n && n ≤ 0x7E
  match s with
  | .ground => .ground
  | .escape =>
    if intermediate then .escapeIntermediate
    else if n = 0x5B then .control
    else if n = 0x5D then .system
    else if n = 0x50 then .device
    else if n = 0x58 || n = 0x5E || n = 0x5F then .string
    else if 0x30 ≤ n && n ≤ 0x7E then .ground
    else .escape
  | .escapeIntermediate => if 0x30 ≤ n && n ≤ 0x7E then .ground else .escapeIntermediate
  | .control => if final then .ground else .control
  | .system => if n = 0x07 then .ground else .system
  | .device =>
    if intermediate then .deviceIntermediate
    else if 0x30 ≤ n && n ≤ 0x3F then .deviceParameters
    else if final then .string
    else .device
  | .deviceParameters =>
    if intermediate then .deviceIntermediate
    else if 0x3C ≤ n && n ≤ 0x7E then .string
    else .deviceParameters
  | .deviceIntermediate => if 0x30 ≤ n && n ≤ 0x7E then .string else .deviceIntermediate
  | .string => .string

/-- The state after a character. Strings see the bytes of characters beyond ASCII. -/
def next (s : ControlState) (c : Char) : ControlState :=
  if c = '\x18' || c = '\x1a' then .ground
  else if c = '\x1b' then .escape
  else if s = .string && ((String.utf8EncodeChar c).drop 1).contains 0x9C then .ground
  else s.nextPlain c.toNat

end ControlState

/-- A line end, tab or form feed. -/
def isBlankControl (c : Char) : Bool :=
  c == '\t' || c == '\n' || c == '\x0c' || c == '\r'

/-- A character that is shown outside of control sequences. -/
def isShown (c : Char) : Bool :=
  isBlankControl c || (0x20 ≤ c.toNat && c.toNat != 0x7F)

/-- Blank controls are obeyed inside of some sequences too. -/
def ControlState.shows (s : ControlState) (c : Char) : Bool :=
  match s with
  | .ground => isShown c
  | .escape | .escapeIntermediate | .control => isBlankControl c
  | .system | .device | .deviceParameters | .deviceIntermediate | .string => false

/-- Goes through a text in a state. While characters are being shown, only characters that are not
shown change the state, and those beyond ASCII end a sequence that was left open. -/
def showControlled : Bool → ControlState → List Char → List Char
  | _, _, [] => []
  | showing, s, c :: cs =>
    if (if showing then isShown c else s.shows c) then
      c :: showControlled true (if 0x80 ≤ c.toNat then .ground else s) cs
    else showControlled false (s.next c) cs

/-- The text without control sequences and control characters. -/
def withoutControls (s : String) : String :=
  String.ofList (showControlled false .ground s.toList)

theorem showControlled_of_plain (showing : Bool) (cs : List Char) (h : ∀ c ∈ cs, isShown c) :
    showControlled showing .ground cs = cs := by
  induction cs generalizing showing with
  | nil => rfl
  | cons c cs ih =>
    have hc : isShown c = true := h c (by simp)
    unfold showControlled
    rw [if_pos (by cases showing <;> simpa [ControlState.shows] using hc), ite_self,
      ih true fun d hd => h d (List.mem_cons_of_mem _ hd)]

theorem withoutControls_of_plain (s : String) (h : ∀ c ∈ s.toList, isShown c) :
    withoutControls s = s := by
  rw [withoutControls, showControlled_of_plain false _ h, String.ofList_toList]

example : withoutControls "a\x1b[31mred\x1b[0m\x07b" = "aredb" := by decide +kernel

example : withoutControls "a\x1b]0;title\x07b" = "ab" := by decide +kernel

end Songbook.Text
