import FileQuery.CommandLine.Session
import FileQuery.Text.Markup
import FileQuery.Text.Width

/-!
How texts look on a screen: control characters are left out, and tabs are filled up with spaces.
-/

namespace FileQuery.CommandLine

def isLeftOut (c : Char) : Bool :=
  c == '\x07' || c == '\x08' || c == '\x0b' || c == '\x0c' || c == '\r'

/-- The distance between two tab stops, in columns. -/
def tabWidth : Nat := 8

def fillTabs (column : Nat) : List Char → List Char
  | [] => []
  | c :: rest =>
    if c == '\n' then c :: fillTabs 0 rest
    else if c == '\t' then
      let next := (column / tabWidth + 1) * tabWidth
      List.replicate (next - column) ' ' ++ fillTabs next rest
    else c :: fillTabs (column + Text.width c) rest

def onScreen (s : String) : String :=
  String.ofList (fillTabs 0 (s.toList.filter (!isLeftOut ·)))

/-- A screen that texts with tags are shown on. -/
def screen : Console where
  plain := onScreen
  markup s := onScreen (Text.Markup.shown s)
  escape := Text.Markup.escape

end FileQuery.CommandLine
