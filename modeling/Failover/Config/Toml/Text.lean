import Failover.Text.Numeral

/-! The texts of a TOML file: blanks, comments, line ends, and the four kinds of string. Each reader
takes the characters that are left and gives what it read with those left after it. -/
namespace Failover.Toml

/-- What was read, and the characters after it. -/
abbrev Reading (α : Type) := α × List Char

def isBlank (c : Char) : Bool := c == ' ' || c == '\t'

/-- Whether a comment or a string may hold `c`: any but control characters, the tab excepted. -/
def isPlain (c : Char) : Bool := c == '\t' || (32 ≤ c.toNat && c.toNat != 127)

/-- What follows the blanks. -/
def blanks (cs : List Char) : List Char := cs.dropWhile isBlank

/-- What follows one line end. -/
def lineEnd? : List Char → Option (List Char)
  | '\n' :: rest => some rest
  | '\r' :: '\n' :: rest => some rest
  | _ => none

/-- What follows the rest of a line that holds nothing more than blanks and a comment. -/
def closeLine? (cs : List Char) : Option (List Char) :=
  let rest := match blanks cs with
    | '#' :: comment => comment.dropWhile isPlain
    | rest => rest
  match rest with
  | [] => some []
  | _ => lineEnd? rest

/-- What follows blanks, comments and line ends. -/
def gap? (inComment : Bool) : List Char → Option (List Char)
  | [] => some []
  | '\r' :: '\n' :: rest => gap? false rest
  | c :: rest =>
    if c = '\n' then gap? false rest
    else if inComment then (if isPlain c then gap? true rest else none)
    else if isBlank c then gap? false rest
    else if c = '#' then gap? true rest
    else some (c :: rest)

/-- The character with the number in these digits, if there is one. -/
def coded? (digits : List Char) : Option Char := do
  let n ← Numeral.read? 16 digits
  if n < 0xD800 ∨ (0xDFFF < n ∧ n < 0x110000) then some (Char.ofNat n) else none

/-- The character that a letter stands for behind a backslash. -/
def escaped? : Char → Option Char
  | 'b' => some '\x08'
  | 't' => some '\t'
  | 'n' => some '\n'
  | 'f' => some '\x0c'
  | 'r' => some '\r'
  | '"' => some '"'
  | '\\' => some '\\'
  | _ => none

/-- One more character in front of what was read. -/
def before (c : Char) (rest : Option (Reading (List Char))) : Option (Reading (List Char)) :=
  rest.map fun (cs, left) => (c :: cs, left)

/-- The string up to the closing double quote. -/
def basic : List Char → Option (Reading (List Char))
  | [] => none
  | '"' :: rest => some ([], rest)
  | '\\' :: 'u' :: a :: b :: c :: d :: rest => do before (← coded? [a, b, c, d]) (basic rest)
  | '\\' :: 'U' :: a :: b :: c :: d :: e :: f :: g :: h :: rest => do
    before (← coded? [a, b, c, d, e, f, g, h]) (basic rest)
  | '\\' :: c :: rest => do before (← escaped? c) (basic rest)
  | c :: rest => if isPlain c && c != '\\' then before c (basic rest) else none

/-- The string up to the closing single quote. -/
def literal : List Char → Option (Reading (List Char))
  | [] => none
  | '\'' :: rest => some ([], rest)
  | c :: rest => if isPlain c then before c (literal rest) else none

/-- The quotes that belong to a string of several lines although they stand before its end. -/
def lastQuotes (quote : Char) : List Char → List Char × List Char
  | c :: d :: rest =>
    if c = quote ∧ d = quote then ([c, d], rest)
    else if c = quote then ([c], d :: rest)
    else ([], c :: d :: rest)
  | [c] => if c = quote then ([c], []) else ([], [c])
  | [] => ([], [])

/-- Whether nothing but blanks stands before the end of the line. -/
def endsLine (cs : List Char) : Bool := (lineEnd? (blanks cs)).isSome

/-- The string of several lines up to three double quotes. A backslash at the end of a line takes
all blanks and line ends after it away, as `skipping` says. -/
def basicLines (skipping : Bool) : List Char → Option (Reading (List Char))
  | [] => none
  | '"' :: '"' :: '"' :: rest => some (lastQuotes '"' rest)
  | '\r' :: '\n' :: rest =>
    if skipping then basicLines true rest else before '\n' (basicLines false rest)
  | '\\' :: 'u' :: a :: b :: c :: d :: rest => do
    before (← coded? [a, b, c, d]) (basicLines false rest)
  | '\\' :: 'U' :: a :: b :: c :: d :: e :: f :: g :: h :: rest => do
    before (← coded? [a, b, c, d, e, f, g, h]) (basicLines false rest)
  | '\\' :: c :: rest =>
    if endsLine (c :: rest) then basicLines true (c :: rest)
    else do before (← escaped? c) (basicLines false rest)
  | c :: rest =>
    if skipping && (isBlank c || c == '\n') then basicLines true rest
    else if c = '\n' || (isPlain c && c != '\\') then before c (basicLines false rest)
    else none

/-- The string of several lines up to three single quotes. -/
def literalLines : List Char → Option (Reading (List Char))
  | [] => none
  | '\'' :: '\'' :: '\'' :: rest => some (lastQuotes '\'' rest)
  | '\r' :: '\n' :: rest => before '\n' (literalLines rest)
  | c :: rest => if c = '\n' || isPlain c then before c (literalLines rest) else none

/-- A line end right behind the opening quotes is no part of the string. -/
def opening (cs : List Char) : List Char := (lineEnd? cs).getD cs

/-- A string of any kind. -/
def string? : List Char → Option (Reading String)
  | '"' :: '"' :: '"' :: rest =>
    (basicLines false (opening rest)).map fun (cs, r) => (.ofList cs, r)
  | '"' :: rest => (basic rest).map fun (cs, r) => (.ofList cs, r)
  | '\'' :: '\'' :: '\'' :: rest => (literalLines (opening rest)).map fun (cs, r) => (.ofList cs, r)
  | '\'' :: rest => (literal rest).map fun (cs, r) => (.ofList cs, r)
  | _ => none

def isBare (c : Char) : Bool := c.isAlphanum || c == '-' || c == '_'

/-- One part of a key: a string on one line, or bare. -/
def keyPart? : List Char → Option (Reading String)
  | '"' :: rest => (basic rest).map fun (cs, r) => (.ofList cs, r)
  | '\'' :: rest => (literal rest).map fun (cs, r) => (.ofList cs, r)
  | cs =>
    let name := cs.takeWhile isBare
    if name.isEmpty then none else some (.ofList name, cs.dropWhile isBare)

/-- A key of at most `more + 1` parts with dots between them. -/
def key? (more : Nat) (cs : List Char) : Option (Reading (List String)) := do
  let (part, rest) ← keyPart? (blanks cs)
  match more, blanks rest with
  | more + 1, '.' :: rest => (key? more rest).map fun (parts, left) => (part :: parts, left)
  | _, rest => some ([part], rest)

end Failover.Toml
