import CodeAtlas.Text.PrintTable

/-!
Texts quoted inside a message: between double quotes, with escapes for the quote, the backslash,
the usual controls and every character that would not show as itself.
-/
namespace CodeAtlas.Text

def hexDigits (n : Nat) : List Char := Nat.toDigits 16 n

def isUnshown (c : Char) : Bool :=
  c.toNat < 32 || c.toNat == 127 || (127 < c.toNat && inRanges unshownRanges c)

def quotedChar (c : Char) : List Char :=
  match c with
  | '\x00' => ['\\', '0']
  | '\t' => ['\\', 't']
  | '\r' => ['\\', 'r']
  | '\n' => ['\\', 'n']
  | '\\' => ['\\', '\\']
  | '"' => ['\\', '"']
  | c => if isUnshown c then ['\\', 'u', '\x7b'] ++ hexDigits c.toNat ++ ['\x7d'] else [c]

def quoted (s : String) : String := String.ofList ('"' :: s.toList.flatMap quotedChar ++ ['"'])

end CodeAtlas.Text
