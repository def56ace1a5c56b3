import UiMarkup.Text.Invisible

namespace UiMarkup.Text

def codeEscape (c : Char) : List Char :=
  '\\' :: 'u' :: '\x7b' :: Nat.toDigits 16 c.toNat ++ ['\x7d']

def shortEscape? (c : Char) : Option Char :=
  match c with
  | '\x00' => some '0'
  | '\t'   => some 't'
  | '\r'   => some 'r'
  | '\n'   => some 'n'
  | '\\'   => some '\\'
  | '"'    => some '"'
  | _      => none

def quoteChar (c : Char) : List Char :=
  match shortEscape? c with
  | some e => ['\\', e]
  | none   => if isInvisible c then codeEscape c else [c]

def quoted (s : String) : String :=
  .ofList ('"' :: s.toList.flatMap quoteChar ++ ['"'])

end UiMarkup.Text
