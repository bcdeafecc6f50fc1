import RecordDirectory.Text.Quoted.Ranges

/-!
Quoted texts, as messages show a value: in double quotes, with a backslash before a quote or a
backslash, letters for the common controls, and the code point in hexadecimal where a character would
not be seen.
-/

namespace RecordDirectory
namespace Text

/-- Whether a character is shown by its number. -/
def isNumbered (c : Char) : Bool :=
  numberedRanges.any fun range => range.1 ≤ c.toNat && c.toNat ≤ range.2

/-- The form of one character between quotes. -/
def quoteChar (c : Char) : List Char :=
  if c = '\x00' then ['\\', '0']
  else if c = '\t' then ['\\', 't']
  else if c = '\r' then ['\\', 'r']
  else if c = '\n' then ['\\', 'n']
  else if c = '\\' then ['\\', '\\']
  else if c = '"' then ['\\', '"']
  else if isNumbered c then ['\\', 'u', '\x7b'] ++ Nat.toDigits 16 c.toNat ++ ['\x7d']
  else [c]

def quote (s : String) : String :=
  String.ofList ('"' :: s.toList.flatMap quoteChar ++ ['"'])

end Text
end RecordDirectory
