import LinkVetting.Unicode.Category

/-!
# Quoted text for logs

A text is shown between double quotes. Quotes, backslashes, and the common controls have short
escapes; every other character without a visible form, and every character that would join the one
before it, is written as its hexadecimal code in braces. So no text can break a log line or pass
for another text.
-/

namespace LinkVetting.Text

def hexDigits (n : Nat) : List Char := Nat.toDigits 16 n

def quotedChar (c : Char) : List Char :=
  if c == '\x00' then ['\\', '0']
  else if c == '\t' then ['\\', 't']
  else if c == '\r' then ['\\', 'r']
  else if c == '\n' then ['\\', 'n']
  else if c == '\\' then ['\\', '\\']
  else if c == '"' then ['\\', '"']
  else if Unicode.extendsGrapheme c.toNat || !Unicode.isPrintable c.toNat then
    ['\\', 'u', '\x7b'] ++ hexDigits c.toNat ++ ['\x7d']
  else [c]

def quotedBody (text : List Char) : List Char := text.flatMap quotedChar

def quotedChars (text : List Char) : List Char := '"' :: quotedBody text ++ ['"']

/-- A string between double quotes. -/
def quoted (text : String) : String := String.ofList (quotedChars text.toList)

end LinkVetting.Text
