import PasskeyConsent.Text.Printable
import PasskeyConsent.Bytes.Basic
/-!
# Quoted texts

A text between quotation marks, with everything that would not show as itself escaped: the mark and the backslash, four
controls by letter, and by code point whatever is not printable or does not show by itself.
-/
namespace PasskeyConsent.Text

def hexDigits (n : Nat) : List Char := Nat.toDigits 16 n

def quotedChar (c : Char) : List Char :=
  if c = '"' then ['\\', '"']
  else if c = '\\' then ['\\', '\\']
  else if c.toNat = 0 then ['\\', '0']
  else if c = '\t' then ['\\', 't']
  else if c = '\n' then ['\\', 'n']
  else if c = '\r' then ['\\', 'r']
  else if isDependent c || !isPrintable c then ['\\', 'u', '{'] ++ hexDigits c.toNat ++ ['}']
  else [c]

def quoted (s : String) : String := String.ofList ('"' :: (s.toList.flatMap quotedChar ++ ['"']))

end PasskeyConsent.Text
