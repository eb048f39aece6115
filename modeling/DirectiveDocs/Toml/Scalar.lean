import DirectiveDocs.Decimal.Reading
import DirectiveDocs.Toml.Value

namespace DirectiveDocs.Toml

def isSpace (c : Char) : Bool :=
  c == ' ' || c == '\t'

/-- The characters a comment or a string may hold: no controls but the tab. -/
def isTextChar (c : Char) : Bool :=
  c == '\t' || (' ' ≤ c && c != '\x7f')

def isKeyChar (c : Char) : Bool :=
  c.isAlphanum || c == '_' || c == '-'

def lineBreak? : List Char → Option (List Char)
  | '\n' :: cs => some cs
  | '\r' :: '\n' :: cs => some cs
  | _ => none

namespace Str

def shortEscape? (c : Char) : Option Char :=
  match c with
  | 'b' => some '\x08'
  | 't' => some '\t'
  | 'n' => some '\n'
  | 'f' => some '\x0c'
  | 'r' => some '\r'
  | 'e' => some '\x1b'
  | '"' => some '"'
  | '\\' => some '\\'
  | _ => none

def escapeLength? (c : Char) : Option Nat :=
  match c with
  | 'x' => some 2
  | 'u' => some 4
  | 'U' => some 8
  | _ => none

/-- The character that an escape stands for, and the rest after it. -/
def escape? : List Char → Option (Char × List Char)
  | [] => none
  | c :: cs =>
    match shortEscape? c, escapeLength? c with
    | some d, _ => some (d, cs)
    | none, some n =>
      if cs.length < n then none
      else do
        let value ← Decimal.natural? 16 (cs.take n)
        if value.isValidChar then some (Char.ofNat value, cs.drop n) else none
    | none, none => none

/-- The rest of a string on one line and what follows its closing quote. -/
def line (escapes : Bool) (quote : Char) : Nat → List Char → Option (List Char × List Char)
  | 0, _ => none
  | fuel + 1, cs =>
    match cs with
    | [] => none
    | c :: cs =>
      if c = quote then some ([], cs)
      else if escapes && c == '\\' then do
        let (d, cs) ← escape? cs
        let (s, rest) ← line escapes quote fuel cs
        some (d :: s, rest)
      else if isTextChar c then (line escapes quote fuel cs).map (fun (s, rest) => (c :: s, rest))
      else none

/-- Blanks and line breaks after a backslash at the end of a line. -/
def skipLines : Nat → List Char → List Char
  | 0, cs => cs
  | fuel + 1, cs =>
    match lineBreak? cs with
    | some rest => skipLines fuel rest
    | none =>
      match cs with
      | c :: rest => if isSpace c then skipLines fuel rest else cs
      | [] => []

/-- The rest after a backslash that ends its line. -/
def continued? (cs : List Char) : Option (List Char) :=
  (lineBreak? (cs.dropWhile isSpace)).map (fun rest => skipLines rest.length rest)

/-- The rest of a string on several lines and what follows its three closing quotes. Up to two
more quotes before them belong to the string. -/
def lines (escapes : Bool) (quote : Char) : Nat → List Char → Option (List Char × List Char)
  | 0, _ => none
  | fuel + 1, cs =>
    match cs with
    | [] => none
    | c :: rest =>
      if c = quote then
        let count := min 5 (cs.takeWhile (· == quote)).length
        if 3 ≤ count then some (List.replicate (count - 3) quote, cs.drop count)
        else
          (lines escapes quote fuel rest).map (fun (s, rest) => (c :: s, rest))
      else if escapes && c == '\\' then
        match continued? rest with
        | some rest => lines escapes quote fuel rest
        | none => do
          let (d, rest) ← escape? rest
          let (s, rest) ← lines escapes quote fuel rest
          some (d :: s, rest)
      else if isTextChar c || (lineBreak? cs).isSome || c == '\n' then
        if c == '\r' then
          (lines escapes quote fuel (rest.drop 1)).map (fun (s, rest) => ('\r' :: '\n' :: s, rest))
        else (lines escapes quote fuel rest).map (fun (s, rest) => (c :: s, rest))
      else none

end Str

def lineString? (cs : List Char) : Option (String × List Char) :=
  match cs with
  | '"' :: cs => (Str.line true '"' (cs.length + 1) cs).map (fun (s, r) => (String.ofList s, r))
  | '\'' :: cs => (Str.line false '\'' (cs.length + 1) cs).map (fun (s, r) => (String.ofList s, r))
  | _ => none

/-- A string of either form. A line break right after three opening quotes does not count. -/
def string? (cs : List Char) : Option (String × List Char) :=
  let long (escapes : Bool) (quote : Char) (cs : List Char) : Option (String × List Char) :=
    let cs := (lineBreak? cs).getD cs
    (Str.lines escapes quote (cs.length + 1) cs).map (fun (s, r) => (String.ofList s, r))
  match cs with
  | '"' :: '"' :: '"' :: cs => long true '"' cs
  | '\'' :: '\'' :: '\'' :: cs => long false '\'' cs
  | cs => lineString? cs

namespace Number

/-- Digits with single underscores between them, without the underscores. -/
def digits? (base : Nat) (cs : List Char) : Option (List Char) :=
  let rec go (afterDigit : Bool) : List Char → Option (List Char)
    | [] => if afterDigit then some [] else none
    | c :: cs =>
      if Decimal.isDigit base c then (go true cs).map (c :: ·)
      else if c == '_' && afterDigit then go false cs
      else none
  go false cs

/-- The digits of a decimal number before its point, which start with no zero but a lone one. -/
def whole? (cs : List Char) : Option (List Char) := do
  let ds ← digits? 10 cs
  if ds.head? = some '0' ∧ ds.length ≠ 1 then none else some ds

def based? : List Char → Option Nat
  | '0' :: 'x' :: cs => (digits? 16 cs).map (Decimal.ofDigits 16)
  | '0' :: 'o' :: cs => (digits? 8 cs).map (Decimal.ofDigits 8)
  | '0' :: 'b' :: cs => (digits? 2 cs).map (Decimal.ofDigits 2)
  | _ => none

/-- An integer with a base mark, or a decimal one with an optional sign. -/
def integer? (cs : List Char) : Option Int :=
  match based? cs with
  | some n => some n
  | none =>
    let (negative, ds) := Decimal.splitSign cs
    (whole? ds).map (fun ds =>
      let n : Int := Decimal.ofDigits 10 ds
      if negative then -n else n)

def exponent? : List Char → Option Int
  | [] => some 0
  | _ :: cs =>
    let (negative, ds) := Decimal.splitSign cs
    (digits? 10 ds).map (fun ds =>
      let n : Int := Decimal.ofDigits 10 ds
      if negative then -n else n)

/-- A real number: a whole part, then a fraction or a power of ten or both. -/
def real? (cs : List Char) : Option Decimal :=
  let (negative, cs) := Decimal.splitSign cs
  if cs = "inf".toList then some (.infinity negative)
  else if cs = "nan".toList then some .nan
  else
    let isExponent (c : Char) : Bool := c == 'e' || c == 'E'
    let body := cs.takeWhile (fun c => !isExponent c)
    let power := cs.dropWhile (fun c => !isExponent c)
    do
      let ds ← whole? (body.takeWhile (· != '.'))
      let fraction ← match body.dropWhile (· != '.') with
        | _ :: fs => digits? 10 fs
        | [] => if power.isEmpty then none else some []
      let e ← exponent? power
      some (.real negative (Decimal.ofDigits 10 (ds ++ fraction)) (e - fraction.length))

end Number

namespace Moment

def number (cs : List Char) : Nat := Decimal.ofDigits 10 cs

/-- The number that exactly as many digits as asked for stand for, and the rest. -/
def field? (n : Nat) (cs : List Char) : Option (Nat × List Char) :=
  let ds := cs.take n
  if ds.length = n ∧ ds.all Char.isDigit then some (number ds, cs.drop n) else none

def expect (c : Char) : List Char → Option (List Char)
  | d :: cs => if d = c then some cs else none
  | [] => none

def daysIn (year month : Nat) : Nat :=
  if month = 2 then
    if year % 4 = 0 ∧ (year % 100 ≠ 0 ∨ year % 400 = 0) then 29 else 28
  else if month = 4 ∨ month = 6 ∨ month = 9 ∨ month = 11 then 30
  else 31

def date? (cs : List Char) : Option (List Char) := do
  let (year, cs) ← field? 4 cs
  let (month, cs) ← field? 2 (← expect '-' cs)
  let (day, cs) ← field? 2 (← expect '-' cs)
  if 1 ≤ month ∧ month ≤ 12 ∧ 1 ≤ day ∧ day ≤ daysIn year month then some cs else none

/-- The rest after a time, whose seconds and fraction may be left out. -/
def time? (cs : List Char) : Option (List Char) := do
  let (hour, cs) ← field? 2 cs
  let (minute, cs) ← field? 2 (← expect ':' cs)
  if 23 < hour ∨ 59 < minute then none
  else
    match cs with
    | ':' :: cs => do
      let (second, cs) ← field? 2 cs
      if 60 < second then none
      else
        match cs with
        | '.' :: cs =>
          let ds := cs.takeWhile Char.isDigit
          if ds.isEmpty then none else some (cs.drop ds.length)
        | cs => some cs
    | cs => some cs

def offset? : List Char → Option (List Char)
  | [] => some []
  | c :: cs =>
    if c = 'Z' ∨ c = 'z' then some cs
    else if c = '+' ∨ c = '-' then do
      let (hour, cs) ← field? 2 cs
      let (minute, cs) ← field? 2 (← expect ':' cs)
      if hour ≤ 23 ∧ minute ≤ 59 then some cs else none
    else none

/-- A time, a date, or a date and a time with an optional offset. -/
def isMoment (cs : List Char) : Bool :=
  match date? cs with
  | some [] => true
  | some (c :: rest) =>
    (c == 'T' || c == 't' || c == ' ') && ((time? rest).bind offset?) == some []
  | none => time? cs == some []

end Moment

/-- The characters that end a value without quotes. -/
def endsBare (c : Char) : Bool :=
  isSpace c || " \n\r,]\x7d#".toList.contains c

def Number.read? (cs : List Char) : Option Decimal :=
  (((integer? cs).map Decimal.integer).or (real? cs)).filter Decimal.inRange

/-- A value without quotes or brackets. A date may be followed by a space and a time. -/
def bare? (cs : List Char) : Option (Value × List Char) :=
  let word := cs.takeWhile (fun c => !endsBare c)
  let rest := cs.dropWhile (fun c => !endsBare c)
  let (word, rest) :=
    match Moment.date? word, rest with
    | some [], ' ' :: d :: more =>
      if d.isDigit then
        let time := (d :: more).takeWhile (fun c => !endsBare c)
        (word ++ ' ' :: time, (d :: more).drop time.length)
      else (word, rest)
    | _, _ => (word, rest)
  if word = "true".toList then some (.bool true, rest)
  else if word = "false".toList then some (.bool false, rest)
  else
    match Number.read? word with
    | some d => some (.number d, rest)
    | none => if Moment.isMoment word then some (.moment, rest) else none

end DirectiveDocs.Toml
