import ProxyConfig.Text.PrintableTable

/-!
# Quoted text

Messages show a text between double quotes.  The quote and the backslash are escaped, the common
control characters have letters of their own, and every character without a shape of its own is
given by its code point in lower case hexadecimal digits.
-/

namespace ProxyConfig
namespace Text

/-- A hexadecimal digit in lower case. -/
def hexDigit (n : Nat) : Char :=
  if n < 10 then Char.ofNat ('0'.toNat + n) else Char.ofNat ('a'.toNat + (n - 10))

/-- A number in hexadecimal digits, without leading zeros. -/
def hexDigits (n : Nat) : List Char :=
  if n < 16 then [hexDigit n] else hexDigits (n / 16) ++ [hexDigit (n % 16)]
termination_by n
decreasing_by omega

/-- One character as it stands between quotes. -/
def quotedChar (c : Char) : List Char :=
  if c = '"' then ['\\', '"']
  else if c = '\\' then ['\\', '\\']
  else if c = '\n' then ['\\', 'n']
  else if c = '\r' then ['\\', 'r']
  else if c = '\t' then ['\\', 't']
  else if c.toNat = 0 then ['\\', '0']
  else if extendingRanges.contains c || unprintableRanges.contains c then
    '\\' :: 'u' :: '\x7b' :: (hexDigits c.toNat ++ ['\x7d'])
  else [c]

/-- A text between double quotes. -/
def quotedChars (s : List Char) : List Char :=
  '"' :: (s.flatMap quotedChar ++ ['"'])

/-- A text between double quotes. -/
def quoted (s : String) : String :=
  String.ofList (quotedChars s.toList)

/-- Texts between quotes, listed in brackets. -/
def quotedList (items : List String) : String :=
  "[" ++ ", ".intercalate (items.map quoted) ++ "]"

end Text
end ProxyConfig
