import ReplayGen.Text.CodePoint
import ReplayGen.Toml.Scan

set_option autoImplicit false

namespace ReplayGen.Toml

def escaped? : Char → Option Char
  | 'b' => some '\x08'
  | 't' => some '\t'
  | 'n' => some '\n'
  | 'f' => some '\x0c'
  | 'r' => some '\r'
  | '"' => some '"'
  | '\\' => some '\\'
  | _ => none

def andThen (c : Char) (scanned : Option (List Char × List Char)) :
    Option (List Char × List Char) :=
  scanned.map fun (text, rest) => (c :: text, rest)

def basicText : Scan (List Char)
  | [] => none
  | '"' :: rest => some ([], rest)
  | '\\' :: 'u' :: a :: b :: c :: d :: rest => do
      let x ← Text.codePoint? [a, b, c, d]
      andThen x (basicText rest)
  | '\\' :: 'U' :: a :: b :: c :: d :: e :: f :: g :: h :: rest => do
      let x ← Text.codePoint? [a, b, c, d, e, f, g, h]
      andThen x (basicText rest)
  | '\\' :: letter :: rest => do
      let x ← escaped? letter
      andThen x (basicText rest)
  | c :: rest => if isPlain c then andThen c (basicText rest) else none

def literalText : Scan (List Char)
  | [] => none
  | '\'' :: rest => some ([], rest)
  | c :: rest => if isPlain c then andThen c (literalText rest) else none

/-- The text of a basic string over several lines. A backslash at the end of a line skips
what is blank up to the next character, and does so while `skipping`. Up to two quotes
may stand right before the three that end the string. -/
def basicLines (skipping : Bool) : Scan (List Char)
  | [] => none
  | '"' :: '"' :: '"' :: '"' :: '"' :: rest => some (['"', '"'], rest)
  | '"' :: '"' :: '"' :: '"' :: rest => some (['"'], rest)
  | '"' :: '"' :: '"' :: rest => some ([], rest)
  | '\n' :: rest =>
      if skipping then basicLines true rest else andThen '\n' (basicLines false rest)
  | '\r' :: '\n' :: rest =>
      if skipping then basicLines true rest else andThen '\n' (basicLines false rest)
  | '\\' :: 'u' :: a :: b :: c :: d :: rest => do
      let x ← Text.codePoint? [a, b, c, d]
      andThen x (basicLines false rest)
  | '\\' :: 'U' :: a :: b :: c :: d :: e :: f :: g :: h :: rest => do
      let x ← Text.codePoint? [a, b, c, d, e, f, g, h]
      andThen x (basicLines false rest)
  | '\\' :: letter :: rest =>
      if (newline? (skipSpaces (letter :: rest))).isSome then basicLines true rest
      else do
        let x ← escaped? letter
        andThen x (basicLines false rest)
  | c :: rest =>
      if skipping && isSpace c then basicLines true rest
      else if isPlain c then andThen c (basicLines false rest)
      else none

def literalLines : Scan (List Char)
  | [] => none
  | '\'' :: '\'' :: '\'' :: '\'' :: '\'' :: rest => some (['\'', '\''], rest)
  | '\'' :: '\'' :: '\'' :: '\'' :: rest => some (['\''], rest)
  | '\'' :: '\'' :: '\'' :: rest => some ([], rest)
  | '\n' :: rest => andThen '\n' (literalLines rest)
  | '\r' :: '\n' :: rest => andThen '\n' (literalLines rest)
  | c :: rest => if isPlain c then andThen c (literalLines rest) else none

-- A line end right after the opening quotes does not count.
def dropFirstNewline (cs : List Char) : List Char :=
  (newline? cs).getD cs

def asString (scanned : Option (List Char × List Char)) : Option (String × List Char) :=
  scanned.map fun (text, rest) => (String.ofList text, rest)

def lineString : Scan String
  | '"' :: rest => asString (basicText rest)
  | '\'' :: rest => asString (literalText rest)
  | _ => none

def string : Scan String
  | '"' :: '"' :: '"' :: rest => asString (basicLines false (dropFirstNewline rest))
  | '\'' :: '\'' :: '\'' :: rest => asString (literalLines (dropFirstNewline rest))
  | cs => lineString cs

end ReplayGen.Toml
