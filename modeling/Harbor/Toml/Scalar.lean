import Harbor.Net.Address
import Harbor.Toml.Node

/-!
# Scalars of TOML

Strings in their four forms, numbers, booleans, and dates and times. A scanner
takes a value from the front of the characters and gives what follows it.

Integers have 64 bits. A number too large for a binary64 is no number; a negative
one that is too large is minus infinity and allowed.
-/

namespace Harbor.Toml

/-- Takes a finding from the front of the characters. -/
abbrev Scan (α : Type) := List Char → Option (α × List Char)

/-! ## Characters -/

/-- The blanks within a line. -/
def isSpace (c : Char) : Bool := c == ' ' || c == '\t'

/-- Characters that may stand in a comment and in strings. -/
def isVisible (c : Char) : Bool := c == '\t' || (' ' ≤ c && c ≤ '~') || '\u0080' ≤ c

/-- Characters of a key without quotes. -/
def isBareKey (c : Char) : Bool := c.isAlphanum || c == '_' || c == '-'

/-- Leaves the blanks of a line behind. -/
def skipSpaces (cs : List Char) : List Char := cs.dropWhile isSpace

/-- Takes the end of a line. -/
def lineBreak : List Char → Option (List Char)
  | '\n' :: cs => some cs
  | '\r' :: '\n' :: cs => some cs
  | _ => none

/-- Leaves one line break behind, if there is one. -/
def skipLineBreak (cs : List Char) : List Char := (lineBreak cs).getD cs

/-! ## Strings -/

/-- The character with the code point that hexadecimal digits say. -/
def codePoint? (digits : List Char) : Option Char := do
  let values ← digits.mapM (Net.digitIn? 16)
  let n := values.foldl (fun n d => 16 * n + d) 0
  if n.isValidChar then some (Char.ofNat n) else none

/-- The character that an escape of one letter stands for. -/
def shortEscape? : Char → Option Char
  | 'b' => some '\x08'
  | 't' => some '\t'
  | 'n' => some '\n'
  | 'f' => some '\x0c'
  | 'r' => some '\r'
  | '"' => some '"'
  | '\\' => some '\\'
  | _ => none

/-- Puts a character in front of what is scanned next. -/
def consScan (c : Char) (p : Option (List Char × List Char)) : Option (List Char × List Char) :=
  p.map fun (s, rest) => (c :: s, rest)

/-- The characters of a basic string up to its closing quote. -/
def basicChars : Scan (List Char)
  | [] => none
  | '"' :: cs => some ([], cs)
  | '\\' :: 'u' :: a :: b :: c :: d :: cs => do
    consScan (← codePoint? [a, b, c, d]) (basicChars cs)
  | '\\' :: 'U' :: a :: b :: c :: d :: e :: f :: g :: h :: cs => do
    consScan (← codePoint? [a, b, c, d, e, f, g, h]) (basicChars cs)
  | '\\' :: e :: cs => do consScan (← shortEscape? e) (basicChars cs)
  | c :: cs => if isVisible c && c != '\\' then consScan c (basicChars cs) else none

/-- Quotes that directly follow three closing ones belong to the string, two at most. -/
def trailingQuotes (quote : Char) : Scan (List Char)
  | a :: b :: cs =>
    if a == quote && b == quote then some ([a, b], cs)
    else if a == quote then some ([a], b :: cs)
    else some ([], a :: b :: cs)
  | [a] => if a == quote then some ([a], []) else some ([], [a])
  | [] => some ([], [])

/-- The characters of a basic string over several lines up to its three closing
    quotes. While `skipping`, after a backslash at the end of a line, blanks and line
    breaks are left out. -/
def longBasicChars (skipping : Bool) : Scan (List Char)
  | [] => none
  | '"' :: '"' :: '"' :: cs => trailingQuotes '"' cs
  | '\\' :: 'u' :: a :: b :: c :: d :: cs => do
    consScan (← codePoint? [a, b, c, d]) (longBasicChars false cs)
  | '\\' :: 'U' :: a :: b :: c :: d :: e :: f :: g :: h :: cs => do
    consScan (← codePoint? [a, b, c, d, e, f, g, h]) (longBasicChars false cs)
  | '\\' :: e :: cs =>
    if (lineBreak (skipSpaces (e :: cs))).isSome then longBasicChars true (e :: cs)
    else do consScan (← shortEscape? e) (longBasicChars false cs)
  | '\r' :: '\n' :: cs =>
    if skipping then longBasicChars true cs else consScan '\n' (longBasicChars false cs)
  | c :: cs =>
    if skipping && (isSpace c || c == '\n') then longBasicChars true cs
    else if isVisible c && c != '\\' || c == '\n' then consScan c (longBasicChars false cs)
    else none

/-- The characters of a literal string up to its closing quote. -/
def literalChars (cs : List Char) : Option (List Char × List Char) :=
  let isPart (c : Char) : Bool := isVisible c && c != '\''
  match cs.dropWhile isPart with
  | '\'' :: rest => some (cs.takeWhile isPart, rest)
  | _ => none

/-- The characters of a literal string over several lines up to its three closing
    quotes. -/
def longLiteralChars : Scan (List Char)
  | [] => none
  | '\'' :: '\'' :: '\'' :: cs => trailingQuotes '\'' cs
  | '\r' :: '\n' :: cs => consScan '\n' (longLiteralChars cs)
  | c :: cs => if isVisible c || c == '\n' then consScan c (longLiteralChars cs) else none

/-- Scans a string on one line. -/
def shortString (cs : List Char) : Option (String × List Char) :=
  let chars := match cs with
    | '"' :: rest => basicChars rest
    | '\'' :: rest => literalChars rest
    | _ => none
  chars.map fun (s, rest) => (String.ofList s, rest)

/-- Scans a string in any of its forms. -/
def anyString (cs : List Char) : Option (String × List Char) :=
  match cs with
  | '"' :: '"' :: '"' :: rest =>
    (longBasicChars false (skipLineBreak rest)).map fun (s, rest) => (String.ofList s, rest)
  | '\'' :: '\'' :: '\'' :: rest =>
    (longLiteralChars (skipLineBreak rest)).map fun (s, rest) => (String.ofList s, rest)
  | _ => shortString cs

/-! ## Numbers -/

/-- Digits that may be set apart by single underscores, after a first digit. -/
def moreDigits (isDigit : Char → Bool) : Scan (List Char)
  | [] => some ([], [])
  | '_' :: d :: cs => if isDigit d then consScan d (moreDigits isDigit cs) else none
  | ['_'] => none
  | c :: cs => if isDigit c then consScan c (moreDigits isDigit cs) else some ([], c :: cs)

/-- One or more digits that may be set apart by single underscores. -/
def digits (isDigit : Char → Bool) : Scan (List Char)
  | [] => none
  | c :: cs => if isDigit c then consScan c (moreDigits isDigit cs) else none

/-- Is there a minus sign, and what follows the sign if there is one? -/
def sign : List Char → Bool × List Char
  | '-' :: cs => (true, cs)
  | '+' :: cs => (false, cs)
  | cs => (false, cs)

/-- Scans a decimal number with a sign. A zero stands alone. -/
def decimal (cs : List Char) : Option ((Bool × List Char) × List Char) :=
  let (negative, cs) := sign cs
  match cs with
  | '0' :: rest => some ((negative, ['0']), rest)
  | _ => (digits Char.isDigit cs).map fun (ds, rest) => ((negative, ds), rest)

/-- The value of digits in a base. -/
def valueOf (base : Nat) (ds : List Char) : Nat :=
  ds.foldl (fun n c => base * n + (Net.digitIn? base c).getD 0) 0

/-- An integer of 64 bits. -/
def integer64? (negative : Bool) (magnitude : Nat) : Option Int :=
  if negative then (if 2 * magnitude ≤ UInt64.size then some (-magnitude) else none)
  else if 2 * magnitude < UInt64.size then some magnitude else none

/-- Scans an integer in another base, after its two characters of introduction. -/
def integerIn (base : Nat) (cs : List Char) : Option (Node × List Char) := do
  let (ds, rest) ← digits (fun c => (Net.digitIn? base c).isSome) cs
  return (.integer (← integer64? false (valueOf base ds)), rest)

/-- Scans an integer. -/
def integer (cs : List Char) : Option (Node × List Char) :=
  match cs with
  | '0' :: 'x' :: rest => integerIn 16 rest
  | '0' :: 'o' :: rest => integerIn 8 rest
  | '0' :: 'b' :: rest => integerIn 2 rest
  | _ => do
    let ((negative, ds), rest) ← decimal cs
    return (.integer (← integer64? negative (valueOf 10 ds)), rest)

/-- Would `mantissa * 10 ^ exponent` round to infinity as a binary64? -/
def isTooLarge (mantissa : Nat) (exponent : Int) : Bool :=
  let bound := Nat.pow 2 1024 - Nat.pow 2 970
  let magnitude := ((Nat.toDigits 10 mantissa).length : Int) + exponent
  if mantissa = 0 then false
  else if magnitude < 309 then false
  else if 309 < magnitude then true
  else bound * Nat.pow 10 (-exponent).toNat ≤ mantissa * Nat.pow 10 exponent.toNat

/-- Scans the digits after a decimal point. -/
def fraction : Scan (List Char)
  | '.' :: cs => digits Char.isDigit cs
  | _ => none

/-- Scans an exponent. -/
def exponent : Scan Int
  | e :: cs =>
    if e == 'e' || e == 'E' then do
      let (negative, cs) := sign cs
      let (ds, rest) ← digits Char.isDigit cs
      let n : Int := valueOf 10 ds
      return (if negative then -n else n, rest)
    else none
  | [] => none

/-- Scans a number with a fraction or an exponent. -/
def finiteFloat (cs : List Char) : Option (Node × List Char) := do
  let ((negative, whole), rest) ← decimal cs
  let (part, rest, hasPart) := match fraction rest with
    | some (ds, rest') => (ds, rest', true)
    | none => ([], rest, false)
  let (power, rest, hasPower) := match exponent rest with
    | some (n, rest') => (n, rest', true)
    | none => (0, rest, false)
  if !hasPart && !hasPower then none
  if !negative && isTooLarge (valueOf 10 (whole ++ part)) (power - part.length) then none
  return (.float, rest)

/-- Scans infinity or the absence of a number. -/
def specialFloat (cs : List Char) : Option (Node × List Char) :=
  match (sign cs).2 with
  | 'i' :: 'n' :: 'f' :: rest => some (.float, rest)
  | 'n' :: 'a' :: 'n' :: rest => some (.float, rest)
  | _ => none

/-! ## Dates and times -/

/-- Scans a number of exactly `n` digits. -/
def fixedDigits (n : Nat) (cs : List Char) : Option (Nat × List Char) :=
  let ds := cs.take n
  if ds.length = n ∧ ds.all Char.isDigit then some (valueOf 10 ds, cs.drop n) else none

/-- Days of a month. -/
def daysIn (year month : Nat) : Nat :=
  if month = 2 then (if year % 4 = 0 ∧ (year % 100 ≠ 0 ∨ year % 400 = 0) then 29 else 28)
  else if month = 4 ∨ month = 6 ∨ month = 9 ∨ month = 11 then 30
  else 31

/-- Scans a date. -/
def date (cs : List Char) : Option (List Char) := do
  let (year, cs) ← fixedDigits 4 cs
  let (month, cs) ← fixedDigits 2 (← Net.expect '-' cs)
  let (day, cs) ← fixedDigits 2 (← Net.expect '-' cs)
  if 1 ≤ month ∧ month ≤ 12 ∧ 1 ≤ day ∧ day ≤ daysIn year month then some cs else none

/-- Leaves a fraction of a second behind, if there is one. -/
def secondFraction (cs : List Char) : Option (List Char) :=
  match cs with
  | '.' :: rest =>
    if (rest.takeWhile Char.isDigit).isEmpty then none else some (rest.dropWhile Char.isDigit)
  | _ => some cs

/-- Scans a time of day. -/
def clock (cs : List Char) : Option (List Char) := do
  let (hour, cs) ← fixedDigits 2 cs
  let (minute, cs) ← fixedDigits 2 (← Net.expect ':' cs)
  let (second, cs) ← fixedDigits 2 (← Net.expect ':' cs)
  if hour ≤ 23 ∧ minute ≤ 59 ∧ second ≤ 60 then secondFraction cs else none

/-- Leaves an offset from universal time behind, if there is one. -/
def offset (cs : List Char) : Option (List Char) :=
  match cs with
  | 'Z' :: rest => some rest
  | 'z' :: rest => some rest
  | c :: rest =>
    if c == '+' || c == '-' then do
      let (hour, rest) ← fixedDigits 2 rest
      let (minute, rest) ← fixedDigits 2 (← Net.expect ':' rest)
      if hour ≤ 23 ∧ minute ≤ 59 then some rest else none
    else some cs
  | [] => some cs

/-- Does a time of day begin here, as far as its hour and colon? -/
def clockAhead (cs : List Char) : Bool :=
  match fixedDigits 2 cs with
  | some (_, ':' :: _) => true
  | _ => false

/-- Scans a date, a time of day, or both. -/
def moment (cs : List Char) : Option (Node × List Char) :=
  match date cs with
  | some rest =>
    match rest with
    | c :: after =>
      if (c == 'T' || c == 't' || c == ' ') && clockAhead after then do
        return (.moment, ← offset (← clock after))
      else some (.moment, rest)
    | [] => some (.moment, [])
  | none => (clock cs).map fun rest => (.moment, rest)

/-- Scans a number, a date or a time. -/
def numeric (cs : List Char) : Option (Node × List Char) :=
  moment cs <|> finiteFloat cs <|> specialFloat cs <|> integer cs

/-- Scans a value that is neither an array nor a table. -/
def scalar (cs : List Char) : Option (Node × List Char) :=
  match cs with
  | 't' :: 'r' :: 'u' :: 'e' :: rest => some (.boolean true, rest)
  | 'f' :: 'a' :: 'l' :: 's' :: 'e' :: rest => some (.boolean false, rest)
  | _ => ((anyString cs).map fun (s, rest) => (.text s, rest)) <|> numeric cs

end Harbor.Toml
