import Stencil.Value.Basic
import Stencil.Text.Hex

/-!
Values as text: the data format, on one line or indented, and the form in which a value appears in a
rendered template. Functions are null in the data format.
-/
namespace Stencil.Value

/-- Whether nested values are spread over indented lines. -/
inductive Style where
  | compact
  | indented
  deriving DecidableEq, Repr

/-- The break in front of an item or a closing bracket. -/
def Style.lineBreak (style : Style) (depth : Nat) : String :=
  match style with
  | .compact => ""
  | .indented => String.ofList ('\n' :: List.replicate (2 * depth) ' ')

/-- What stands between a name and its value. -/
def Style.colon : Style → String
  | .compact => ":"
  | .indented => ": "

/-- The written form of one character inside quotes. -/
def escapeChar (c : Char) : List Char :=
  match c with
  | '"' => ['\\', '"']
  | '\\' => ['\\', '\\']
  | '\x08' => ['\\', 'b']
  | '\x0c' => ['\\', 'f']
  | '\n' => ['\\', 'n']
  | '\r' => ['\\', 'r']
  | '\t' => ['\\', 't']
  | c =>
    if c.toNat < 0x20 then
      ['\\', 'u', '0', '0', Text.hexDigit (c.toNat / 16), Text.hexDigit (c.toNat % 16)]
    else [c]

/-- A string in quotes. -/
def quoted (s : String) : String :=
  String.ofList ('"' :: s.toList.flatMap escapeChar ++ ['"'])

mutual

/-- Appends the written form of a value at a nesting depth. -/
def write (style : Style) (depth : Nat) (out : String) : Value → String
  | .null => out ++ "null"
  | .bool b => out ++ (if b then "true" else "false")
  | .number n => out ++ n.json
  | .string s => out ++ quoted s
  | .seq [] => out ++ "[]"
  | .seq (item :: items) =>
    writeItems style depth
      (write style (depth + 1) (out ++ "[" ++ style.lineBreak (depth + 1)) item) items ++
      style.lineBreak depth ++ "]"
  | .map [] => out ++ "\x7b\x7d"
  | .map ((name, value) :: entries) =>
    writeEntries style depth
      (write style (depth + 1)
        (out ++ "\x7b" ++ style.lineBreak (depth + 1) ++ quoted name ++ style.colon) value)
      entries ++ style.lineBreak depth ++ "\x7d"
  | .function _ => out ++ "null"

/-- Appends the items after the first one. -/
def writeItems (style : Style) (depth : Nat) (out : String) : List Value → String
  | [] => out
  | item :: items =>
    writeItems style depth
      (write style (depth + 1) (out ++ "," ++ style.lineBreak (depth + 1)) item) items

/-- Appends the entries after the first one. -/
def writeEntries (style : Style) (depth : Nat) (out : String) : List (String × Value) → String
  | [] => out
  | (name, value) :: entries =>
    writeEntries style depth
      (write style (depth + 1)
        (out ++ "," ++ style.lineBreak (depth + 1) ++ quoted name ++ style.colon) value)
      entries

end

/-- The data format of a value. -/
def json (style : Style) (v : Value) : String := write style 0 "" v

/-- The text of a value in a template: strings as they are, null as nothing. -/
def text : Value → String
  | .null => ""
  | .bool b => if b then "true" else "false"
  | .number n => n.text
  | .string s => s
  | .function _ => "[function]"
  | v => v.json .compact

end Stencil.Value
