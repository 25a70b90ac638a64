import ShapeDispatch.Text.GraphemeExtend
import ShapeDispatch.Text.Printable

/-! Text in double quotes. Five characters and the quote itself have short escapes; a character that
cannot be shown, or would merge with the one in front, is written by its code; all others stand for
themselves, the single quote among them. -/

namespace ShapeDispatch.Text

def byCode (c : Char) : List Char :=
  ['\\', 'u', '\x7b'] ++ Nat.toDigits 16 c.toNat ++ ['\x7d']

def escape (c : Char) : List Char :=
  if c = '\x00' then ['\\', '0']
  else if c = '\t' then ['\\', 't']
  else if c = '\r' then ['\\', 'r']
  else if c = '\n' then ['\\', 'n']
  else if c = '\x22' then ['\\', '\x22']
  else if c = '\\' then ['\\', '\\']
  else if extendsGrapheme c || !isPrintable c then byCode c
  else [c]

def quote (text : String) : String :=
  String.ofList ('\x22' :: text.toList.flatMap escape ++ ['\x22'])

end ShapeDispatch.Text
