import ViewLayers.Text.Visible

/-!
# Quoted text

A text between double quotes. The quote and the backslash are marked by a backslash, common
controls have a letter, and any other character that cannot be shown is given by its code.
-/

namespace ViewLayers.Text

def hexDigits (n : Nat) : List Char := (Nat.toDigits 16 n)

def quotedChar (c : Char) : List Char :=
  if c = '\x00' then ['\\', '0']
  else if c = '\t' then ['\\', 't']
  else if c = '\r' then ['\\', 'r']
  else if c = '\n' then ['\\', 'n']
  else if c = '"' then ['\\', '"']
  else if c = '\\' then ['\\', '\\']
  else if isShown c then [c]
  else '\\' :: 'u' :: '\x7b' :: (hexDigits c.toNat ++ ['\x7d'])

def quoted (s : String) : String :=
  String.ofList ('"' :: (s.toList.flatMap quotedChar ++ ['"']))

end ViewLayers.Text
