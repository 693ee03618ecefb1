import Songbook.Text.Blank
import Songbook.Text.Case

/-!
# Directive keywords

Every directive begins with a keyword, written in full or by its short name, in any letter case.
Some keywords belong to configuration files only, some to songs only, and some need the
extensions. `ofName?_name` says that the full name of a keyword is found again.
-/

namespace Songbook

inductive Keyword where
  | startOfChorus
  | endOfChorus
  | textFont
  | chordFont
  | textSize
  | chordSize
  | comment
  | commentItalic
  | commentBox
  | newSong
  | title
  | subtitle
  | define
  | chord
  | noGrid
  | grid
  | newPage
  | newPhysicalPage
  | startOfTab
  | endOfTab
  | columnBreak
  | columns
  | twoColumnOn
  | twoColumnOff
  | oldDefine
  | newDefine
  | startOfBlock
  | endOfBlock
  | startOfBridge
  | endOfBridge
  | startOfIndent
  | endOfIndent
  | autoSpaceOn
  | autoSpaceOff
  | tabFont
  | tabSize
  | commentFont
  | commentSize
  | commentItalicFont
  | commentItalicSize
  | paperType
  | formSpec
  | conditionalBreak
  | setIndent
  | enableExtensions
  | disableExtensions
  | version
deriving DecidableEq, Repr

namespace Keyword

def all : List Keyword :=
  [.startOfChorus, .endOfChorus, .textFont, .chordFont, .textSize, .chordSize, .comment,
   .commentItalic, .commentBox, .newSong, .title, .subtitle, .define, .chord, .noGrid, .grid,
   .newPage, .newPhysicalPage, .startOfTab, .endOfTab, .columnBreak, .columns, .twoColumnOn,
   .twoColumnOff, .oldDefine, .newDefine, .startOfBlock, .endOfBlock, .startOfBridge,
   .endOfBridge, .startOfIndent, .endOfIndent, .autoSpaceOn, .autoSpaceOff, .tabFont, .tabSize,
   .commentFont, .commentSize, .commentItalicFont, .commentItalicSize, .paperType, .formSpec,
   .conditionalBreak, .setIndent, .enableExtensions, .disableExtensions, .version]

/-- The full name. -/
def name : Keyword → String
  | .startOfChorus => "start_of_chorus"
  | .endOfChorus => "end_of_chorus"
  | .textFont => "textfont"
  | .chordFont => "chordfont"
  | .textSize => "textsize"
  | .chordSize => "chordsize"
  | .comment => "comment"
  | .commentItalic => "comment_italic"
  | .commentBox => "comment_box"
  | .newSong => "new_song"
  | .title => "title"
  | .subtitle => "subtitle"
  | .define => "define"
  | .chord => "chord"
  | .noGrid => "no_grid"
  | .grid => "grid"
  | .newPage => "new_page"
  | .newPhysicalPage => "new_physical_page"
  | .startOfTab => "start_of_tab"
  | .endOfTab => "end_of_tab"
  | .columnBreak => "column_break"
  | .columns => "columns"
  | .twoColumnOn => "two_column_on"
  | .twoColumnOff => "two_column_off"
  | .oldDefine => "old_define"
  | .newDefine => "new_define"
  | .startOfBlock => "start_of_block"
  | .endOfBlock => "end_of_block"
  | .startOfBridge => "start_of_bridge"
  | .endOfBridge => "end_of_bridge"
  | .startOfIndent => "start_of_indent"
  | .endOfIndent => "end_of_indent"
  | .autoSpaceOn => "auto_space_on"
  | .autoSpaceOff => "auto_space_off"
  | .tabFont => "tab_font"
  | .tabSize => "tab_size"
  | .commentFont => "comment_font"
  | .commentSize => "comment_size"
  | .commentItalicFont => "comment_italic_font"
  | .commentItalicSize => "comment_italic_size"
  | .paperType => "paper_type"
  | .formSpec => "form_spec"
  | .conditionalBreak => "conditional_break"
  | .setIndent => "set_indent"
  | .enableExtensions => "enable_extensions"
  | .disableExtensions => "disable_extensions"
  | .version => "version"

/-- The short name, if there is one. -/
def short? : Keyword → Option String
  | .startOfChorus => some "soc"
  | .endOfChorus => some "eoc"
  | .textFont => some "tf"
  | .chordFont => some "cf"
  | .textSize => some "ts"
  | .chordSize => some "cs"
  | .comment => some "c"
  | .commentItalic => some "ci"
  | .commentBox => some "cb"
  | .newSong => some "ns"
  | .title => some "t"
  | .subtitle => some "st"
  | .define => some "d"
  | .noGrid => some "ng"
  | .grid => some "g"
  | .newPage => some "np"
  | .newPhysicalPage => some "npp"
  | .startOfTab => some "sot"
  | .endOfTab => some "eot"
  | .columnBreak => some "colb"
  | .columns => some "col"
  | .twoColumnOn => some "tcon"
  | .twoColumnOff => some "tcoff"
  | .startOfBlock => some "soblk"
  | .endOfBlock => some "eoblk"
  | .startOfBridge => some "sob"
  | .endOfBridge => some "eob"
  | .startOfIndent => some "soi"
  | .endOfIndent => some "eoi"
  | _ => none

/-- The keyword of that full or short name, in any letter case. -/
def ofName? (text : String) : Option Keyword :=
  let wanted := Text.lower text
  all.find? fun k => k.name == wanted || k.short? == some wanted

/-- Needs the extensions wherever it stands. -/
def alwaysGated : Keyword → Bool
  | .autoSpaceOn | .autoSpaceOff | .conditionalBreak | .setIndent | .version => true
  | _ => false

/-- Needs the extensions in a song, but not in a configuration file. -/
def gatedInSong : Keyword → Bool
  | .tabFont | .tabSize | .commentFont | .commentSize | .commentItalicFont
  | .commentItalicSize => true
  | _ => false

/-- Belongs to configuration files only. -/
def startupOnly : Keyword → Bool
  | .paperType | .formSpec => true
  | _ => false

/-- Prints something or moves the cursor, so it belongs to songs only. -/
def isContent : Keyword → Bool
  | .startOfChorus | .endOfChorus | .comment | .commentItalic | .commentBox | .newSong | .title
  | .subtitle | .newPage | .newPhysicalPage | .startOfTab | .endOfTab | .columnBreak | .columns
  | .twoColumnOn | .twoColumnOff | .startOfBlock | .endOfBlock | .startOfBridge | .endOfBridge
  | .startOfIndent | .endOfIndent | .conditionalBreak => true
  | _ => false

/-- What is said about other programs' use of the keyword when many warnings are asked for. -/
def notice? (k : Keyword) : Option String :=
  match k with
  | .oldDefine | .newDefine | .startOfBlock | .endOfBlock | .startOfBridge | .endOfBridge =>
    some (k.name ++ " is a Chord Pro Manager feature")
  | .tabFont | .tabSize | .commentFont | .commentSize | .commentItalicFont | .commentItalicSize
  | .autoSpaceOn | .autoSpaceOff | .conditionalBreak | .setIndent | .version =>
    some (k.name ++ " is not supported by Chord Pro Manager")
  | _ => none

/-- Splits a directive's text after the keyword. The delimiter is dropped as one byte, so a wider
one leaves half a character behind, and there is no such split. -/
def splitText? (text : String) : Option (String × String) :=
  let body := text.toList.dropWhile Text.isDelimiter
  let keyword := String.ofList (body.takeWhile (!Text.isDelimiter ·))
  match body.dropWhile (!Text.isDelimiter ·) with
  | [] => some (keyword, "")
  | d :: rest => if d.utf8Size = 1 then some (keyword, String.ofList rest) else none

theorem ofName?_name (k : Keyword) : ofName? k.name = some k := by
  cases k <;> decide +kernel

end Keyword

end Songbook
