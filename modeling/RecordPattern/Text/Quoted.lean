import RecordPattern.Text.Hex
import RecordPattern.Text.Printable

namespace RecordPattern.Text

-- The form of a character inside quotes: the quote and the backslash are escaped, and so is
-- every character that has no visible form.
def quotedChar (quote c : Char) : List Char :=
  if c = quote || c = '\\' then ['\\', c]
  else if c = '\t' then ['\\', 't']
  else if c = '\n' then ['\\', 'n']
  else if c = '\r' then ['\\', 'r']
  else if isPrintable c then [c]
  else if c.toNat ≤ 0xFF then '\\' :: 'x' :: toHex 2 c.toNat
  else if c.toNat ≤ 0xFFFF then '\\' :: 'u' :: toHex 4 c.toNat
  else '\\' :: 'U' :: toHex 8 c.toNat

-- Single quotes are used unless the text holds one and no double quote.
def quoteFor (text : List Char) : Char :=
  if text.contains '\'' && !text.contains '"' then '"' else '\''

def quotedChars (text : List Char) : List Char :=
  let quote := quoteFor text
  quote :: (text.flatMap (quotedChar quote) ++ [quote])

-- The text in quotes, as messages show it.
def quoted (text : String) : String :=
  String.ofList (quotedChars text.toList)

-- The quoted form of a byte, which shows printable ASCII only.
def quotedByte (quote : Char) (byte : UInt8) : List Char :=
  if byte < 128 then quotedChar quote (Char.ofNat byte.toNat)
  else '\\' :: 'x' :: toHex 2 byte.toNat

-- Bytes in quotes, marked by a leading `b`.
def quotedBytes (bytes : List UInt8) : String :=
  let quote := quoteFor (bytes.map fun byte => Char.ofNat byte.toNat)
  String.ofList ('b' :: quote :: (bytes.flatMap (quotedByte quote) ++ [quote]))

end RecordPattern.Text
