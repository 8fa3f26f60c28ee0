import TagDispatch.Text.Printable

/-!
Quoted texts: a text between double quotes, in which a quote and a backslash carry a backslash,
the common controls have letters, and every other character without a visible form of its own
is spelled by its code point.
-/

namespace TagDispatch.Text

/-- Lower-case hexadecimal digits, without leading zeros. -/
def hexDigits (n : Nat) : List Char := Nat.toDigits 16 n

def quoteChar (c : Char) : List Char :=
  match c with
  | '\x00' => ['\\', '0']
  | '\t' => ['\\', 't']
  | '\n' => ['\\', 'n']
  | '\r' => ['\\', 'r']
  | '\\' => ['\\', '\\']
  | '\"' => ['\\', '\"']
  | c =>
    if extendsGrapheme c || !isPrintable c then
      '\\' :: 'u' :: '\x7b' :: hexDigits c.toNat ++ ['\x7d']
    else [c]

def quoteChars : List Char → List Char
  | [] => []
  | c :: cs => quoteChar c ++ quoteChars cs

def quote (s : String) : String :=
  String.ofList ('\"' :: quoteChars s.toList ++ ['\"'])

end TagDispatch.Text
