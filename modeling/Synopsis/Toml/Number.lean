/-
Module: Synopsis.Toml.Number
Purpose: Reading TOML integers, floats and date-times.
Main exports:
  digits?, integer?, float?, dateTime?, number?
-/
import Synopsis.Toml.Text
import Synopsis.Toml.Value

namespace Synopsis.Toml

/-! ### Digits -/

/-- The digits that follow a digit.  One underscore may stand between two digits. -/
def moreDigits (isDigit : Char → Bool) : List Char → List Char × List Char
  | [] => ([], [])
  | [c] => if isDigit c then ([c], []) else ([], [c])
  | c :: d :: rest =>
      if isDigit c then
        let more := moreDigits isDigit (d :: rest)
        (c :: more.1, more.2)
      else if c == '_' && isDigit d then moreDigits isDigit (d :: rest)
      else ([], c :: d :: rest)

/-- One or more digits, with underscores left out. -/
def digits? (isDigit : Char → Bool) : Reader (List Char)
  | [] => none
  | c :: rest => if isDigit c then some (moreDigits isDigit (c :: rest)) else none

/-- The number that digits of a base spell. -/
def valueOf (base : Nat) (digits : List Char) : Nat :=
  digits.foldl (fun value c => value * base + (hexValue? c).getD 0) 0

/-- Drop a word from the start of a text. -/
def dropWord? (word : List Char) (text : List Char) : Option (List Char) :=
  if word.isPrefixOf text then some (text.drop word.length) else none

/-- An optional sign; whether it is a minus. -/
def sign : List Char → Bool × List Char
  | '+' :: rest => (false, rest)
  | '-' :: rest => (true, rest)
  | rest => (false, rest)

/-- Decimal digits without a leading zero. -/
def decimal? : Reader (List Char)
  | '0' :: rest => some (['0'], rest)
  | text => digits? Char.isDigit text

/-! ### Integers -/

/-- Integers have sixty-four bits. -/
def inRange (value : Int) : Bool :=
  -Int.pow 2 63 ≤ value && value < Int.pow 2 63

/-- Digits of a base other than ten, after the letter that announces it. -/
def based? (base : Nat) (text : List Char) : Option (Value × List Char) := do
  let isDigit := fun c => (hexValue? c).any (· < base)
  let (digits, rest) ← digits? isDigit text
  let value : Int := valueOf base digits
  if inRange value then some (.integer value, rest) else none

/-- An integer.  Bases other than ten take no sign. -/
def integer? (text : List Char) : Option (Value × List Char) :=
  match text with
  | '0' :: 'x' :: rest => based? 16 rest
  | '0' :: 'o' :: rest => based? 8 rest
  | '0' :: 'b' :: rest => based? 2 rest
  | _ => do
      let (negative, rest) := sign text
      let (digits, rest) ← decimal? rest
      let magnitude : Int := valueOf 10 digits
      let value := if negative then -magnitude else magnitude
      if inRange value then some (.integer value, rest) else none

/-! ### Floats -/

/-- The part of a text that a reader took. -/
def spelling (text rest : List Char) : String :=
  String.ofList (text.take (text.length - rest.length))

/-- The least magnitude that rounds to infinity as a double. -/
def overflowBound : Nat :=
  Nat.pow 2 1024 - Nat.pow 2 970

/-- Whether `mantissa` times ten to the power `exponent` is too large for a double.  The number of
decimal places settles all but the few cases that are compared exactly. -/
def overflows (mantissa : Nat) (exponent : Int) : Bool :=
  let places : Int := (Nat.toDigits 10 mantissa).length + exponent
  if mantissa = 0 ∨ places < 308 then false
  else if 310 < places then true
  else if 0 ≤ exponent then overflowBound ≤ mantissa * Nat.pow 10 exponent.toNat
  else overflowBound * Nat.pow 10 (-exponent).toNat ≤ mantissa

/-- The digits after a decimal point, if there is one. -/
def fraction? : List Char → Option (List Char × List Char)
  | '.' :: rest => digits? Char.isDigit rest
  | _ => none

/-- The exponent after its letter, if there is one. -/
def exponent? : List Char → Option (Int × List Char)
  | c :: rest =>
      if c == 'e' || c == 'E' then do
        let (negative, rest) := sign rest
        let (digits, rest) ← digits? Char.isDigit rest
        let magnitude : Int := valueOf 10 digits
        some (if negative then -magnitude else magnitude, rest)
      else none
  | [] => none

/-- Infinity or not a number. -/
def specialFloat? (text : List Char) : Option (List Char) :=
  (dropWord? ['i', 'n', 'f'] text).or (dropWord? ['n', 'a', 'n'] text)

/-- A float: digits with a fraction, an exponent, or both.  One that is too large is refused unless
it is negative. -/
def float? (text : List Char) : Option (Value × List Char) := do
  let (negative, start) := sign text
  match specialFloat? start with
  | some rest => some (.float (spelling text rest), rest)
  | none =>
      let (whole, afterWhole) ← decimal? start
      let (places, rest, exponent) ←
        match fraction? afterWhole with
        | some (places, afterPlaces) =>
            match exponent? afterPlaces with
            | some (exponent, rest) => some (places, rest, exponent)
            | none => some (places, afterPlaces, 0)
        | none => (exponent? afterWhole).map fun (exponent, rest) => ([], rest, exponent)
      if !negative && overflows (valueOf 10 (whole ++ places)) (exponent - places.length) then none
      else some (.float (spelling text rest), rest)

/-! ### Dates and times -/

/-- A number of exactly `count` decimal digits. -/
def fixed? (count : Nat) (text : List Char) : Option (Nat × List Char) :=
  let digits := text.take count
  if digits.length = count ∧ digits.all Char.isDigit then
    some (valueOf 10 digits, text.drop count)
  else none

/-- A number of two digits within bounds. -/
def pair? (least most : Nat) (text : List Char) : Option (Nat × List Char) := do
  let (value, rest) ← fixed? 2 text
  if least ≤ value ∧ value ≤ most then some (value, rest) else none

/-- The number of days of a month. -/
def daysIn (year month : Nat) : Nat :=
  if month = 2 then
    if year % 4 = 0 ∧ (year % 100 ≠ 0 ∨ year % 400 = 0) then 29 else 28
  else if month = 4 ∨ month = 6 ∨ month = 9 ∨ month = 11 then 30
  else 31

/-- Pass over a date of the calendar. -/
def date? (text : List Char) : Option (List Char) := do
  let (year, rest) ← fixed? 4 text
  let rest ← dropWord? ['-'] rest
  let (month, rest) ← pair? 1 12 rest
  let rest ← dropWord? ['-'] rest
  let (_, rest) ← pair? 1 (daysIn year month) rest
  some rest

/-- Pass over a time of day; a minute may have a leap second. -/
def time? (text : List Char) : Option (List Char) := do
  let (_, rest) ← pair? 0 23 text
  let rest ← dropWord? [':'] rest
  let (_, rest) ← pair? 0 59 rest
  let rest ← dropWord? [':'] rest
  let (_, rest) ← pair? 0 60 rest
  match rest with
  | '.' :: c :: rest => if c.isDigit then some (rest.dropWhile Char.isDigit) else none
  | '.' :: _ => none
  | rest => some rest

/-- Pass over an offset from universal time. -/
def offset? : List Char → Option (List Char)
  | 'Z' :: rest => some rest
  | 'z' :: rest => some rest
  | c :: rest =>
      if c == '+' || c == '-' then do
        let (_, rest) ← pair? 0 23 rest
        let rest ← dropWord? [':'] rest
        let (_, rest) ← pair? 0 59 rest
        some rest
      else none
  | [] => none

/-- Pass over what may follow a date: a time, and after it an offset. -/
def afterDate (text : List Char) : List Char :=
  match text with
  | c :: rest =>
      if c == 'T' || c == 't' || c == ' ' then
        match time? rest with
        | some rest => (offset? rest).getD rest
        | none => text
      else text
  | [] => []

/-- A date with or without a time, or a time of day. -/
def dateTime? (text : List Char) : Option (Value × List Char) :=
  ((date? text).map afterDate).or (time? text) |>.map fun rest =>
    (.dateTime (spelling text rest), rest)

/-- Any value that starts with a digit or a sign. -/
def number? (text : List Char) : Option (Value × List Char) :=
  ((dateTime? text).or (float? text)).or (integer? text)

end Synopsis.Toml
