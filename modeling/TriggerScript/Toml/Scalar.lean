import TriggerScript.Toml.Table

/-!
# TOML numbers, truth values and moments
-/

namespace TriggerScript.Toml

def isDecimal (c : Char) : Bool := '0' ≤ c && c ≤ '9'

def isHexadecimal (c : Char) : Bool :=
  isDecimal c || ('a' ≤ c && c ≤ 'f') || ('A' ≤ c && c ≤ 'F')

def isOctal (c : Char) : Bool := '0' ≤ c && c ≤ '7'

def isBinary (c : Char) : Bool := c = '0' || c = '1'

def digitValue (c : Char) : Nat :=
  if isDecimal c then c.toNat - '0'.toNat
  else if 'a' ≤ c then c.toNat - 'a'.toNat + 10
  else c.toNat - 'A'.toNat + 10

def numberIn (base : Nat) (digits : List Char) : Nat :=
  digits.foldl (fun value digit => base * value + digitValue digit) 0

/-- Digits with single underscores between them, the underscores taken out. -/
def groupedDigits? (isDigit : Char → Bool) : List Char → Option (List Char)
  | [] => none
  | [c] => if isDigit c then some [c] else none
  | c :: '_' :: rest =>
    if isDigit c then (groupedDigits? isDigit rest).map (c :: ·) else none
  | c :: rest => if isDigit c then (groupedDigits? isDigit rest).map (c :: ·) else none

/-- The digits of a decimal number without a sign; a zero leads only when it stands alone. -/
def plainDigits? (text : List Char) : Option (List Char) :=
  match groupedDigits? isDecimal text with
  | some ['0'] => some ['0']
  | some ('0' :: _) => none
  | digits => digits

/-- A sign, if there is one, and what follows it. -/
def splitSign : List Char → Bool × List Char
  | '-' :: rest => (true, rest)
  | '+' :: rest => (false, rest)
  | text => (false, text)

/-- An integer that 64 bits can hold. -/
def inRange? (value : Int) : Option Value :=
  if Int64.minValue.toInt ≤ value ∧ value ≤ Int64.maxValue.toInt then some (.integer value) else none

def integer? (text : List Char) : Option Value :=
  match text with
  | '0' :: 'x' :: rest => (groupedDigits? isHexadecimal rest).bind (inRange? <| numberIn 16 ·)
  | '0' :: 'o' :: rest => (groupedDigits? isOctal rest).bind (inRange? <| numberIn 8 ·)
  | '0' :: 'b' :: rest => (groupedDigits? isBinary rest).bind (inRange? <| numberIn 2 ·)
  | _ =>
    let (negative, rest) := splitSign text
    (plainDigits? rest).bind fun digits =>
      let value : Int := numberIn 10 digits
      inRange? (if negative then -value else value)

/-! ## Floating-point numbers -/

/-- The least number that is too large for a floating-point number of 64 bits. -/
def tooLarge : Nat := Nat.pow 2 1024 - Nat.pow 2 970

/-- Whether a mantissa times a power of ten can be held; huge powers are told by their size alone. -/
def isFinite (mantissa : Nat) (digits : Nat) (exponent : Int) : Bool :=
  if mantissa = 0 then true
  else if exponent + digits < 0 then true
  else if 400 < exponent then false
  else if 0 ≤ exponent then mantissa * Nat.pow 10 exponent.toNat < tooLarge
  else mantissa < tooLarge * Nat.pow 10 (-exponent).toNat

/-- The exponent behind an `e`, zero if there is none. -/
def exponent? : List Char → Option Int
  | [] => some 0
  | _ :: rest =>
    let (negative, digits) := splitSign rest
    (groupedDigits? isDecimal digits).map fun digits =>
      let value : Int := numberIn 10 digits
      if negative then -value else value

def isExponentMark (c : Char) : Bool := c = 'e' || c = 'E'

def float? (text : List Char) : Option Value :=
  let (negative, rest) := splitSign text
  if rest = ['i', 'n', 'f'] ∨ rest = ['n', 'a', 'n'] then some .float
  else
    let number := rest.takeWhile (!isExponentMark ·)
    let mark := rest.dropWhile (!isExponentMark ·)
    let whole := number.takeWhile (· ≠ '.')
    let fraction := number.dropWhile (· ≠ '.')
    if mark = [] ∧ fraction = [] then none
    else do
      let wholeDigits ← plainDigits? whole
      let fractionDigits ← match fraction with
        | [] => some []
        | _ :: digits => groupedDigits? isDecimal digits
      let exponent ← exponent? mark
      let digits := wholeDigits ++ fractionDigits
      if negative || isFinite (numberIn 10 digits) digits.length (exponent - fractionDigits.length)
      then some .float
      else none

/-! ## Moments -/

def twoDigits? (low high : Nat) : List Char → Option (Nat × List Char)
  | a :: b :: rest =>
    let value := numberIn 10 [a, b]
    if isDecimal a && isDecimal b && low ≤ value && value ≤ high then some (value, rest) else none
  | _ => none

def expect? (c : Char) : List Char → Option (List Char)
  | first :: rest => if first = c then some rest else none
  | [] => none

def isLeapYear (year : Nat) : Bool := year % 4 = 0 && (year % 100 ≠ 0 || year % 400 = 0)

def daysInMonth (year month : Nat) : Nat :=
  if month = 2 then if isLeapYear year then 29 else 28
  else if month = 4 ∨ month = 6 ∨ month = 9 ∨ month = 11 then 30
  else 31

/-- What follows a date. -/
def afterDate? : List Char → Option (List Char)
  | a :: b :: c :: d :: rest =>
    if [a, b, c, d].all isDecimal then do
      let rest ← expect? '-' rest
      let (month, rest) ← twoDigits? 1 12 rest
      let rest ← expect? '-' rest
      let (_, rest) ← twoDigits? 1 (daysInMonth (numberIn 10 [a, b, c, d]) month) rest
      some rest
    else none
  | _ => none

/-- What follows a time of day. -/
def afterTime? (text : List Char) : Option (List Char) := do
  let (_, rest) ← twoDigits? 0 23 text
  let rest ← expect? ':' rest
  let (_, rest) ← twoDigits? 0 59 rest
  let rest ← expect? ':' rest
  let (_, rest) ← twoDigits? 0 60 rest
  match rest with
  | '.' :: c :: more => if isDecimal c then some (more.dropWhile isDecimal) else none
  | '.' :: [] => none
  | _ => some rest

/-- Whether a text is nothing, or the distance of a time from universal time. -/
def isOffset : List Char → Bool
  | [] => true
  | ['Z'] => true
  | ['z'] => true
  | sign :: rest =>
    (sign = '+' || sign = '-') &&
      (do
        let (_, rest) ← twoDigits? 0 23 rest
        let rest ← expect? ':' rest
        let (_, rest) ← twoDigits? 0 59 rest
        some rest) = some []

/-- Whether a text is a time of day, with its distance from universal time or not. -/
def isTimeWithOffset (text : List Char) : Bool := (afterTime? text).any isOffset

def isDate (text : List Char) : Bool := afterDate? text = some []

def moment? (text : List Char) : Option Value :=
  if afterTime? text = some [] then some .moment
  else match afterDate? text with
    | some [] => some .moment
    | some (mark :: rest) =>
      if (mark = 'T' ∨ mark = 't') ∧ isTimeWithOffset rest then some .moment else none
    | none => none

/-! ## All of them -/

/-- The value that a run of letters, digits and signs stands for. -/
def scalar? (text : List Char) : Option Value :=
  if text = "true".toList then some (.truth true)
  else if text = "false".toList then some (.truth false)
  else moment? text <|> float? text <|> integer? text

/-- The characters of such a run. -/
def isScalarChar (c : Char) : Bool := c.isAlphanum || c = '_' || c = '+' || c = '-' || c = '.' || c = ':'

/-- A scalar at the start of a text. A blank may divide a date from a time. -/
def readScalar? (text : List Char) : Option (Value × List Char) :=
  let run := text.takeWhile isScalarChar
  let rest := text.dropWhile isScalarChar
  match rest with
  | ' ' :: more =>
    let time := more.takeWhile isScalarChar
    if isDate run ∧ isTimeWithOffset time then some (.moment, more.dropWhile isScalarChar)
    else (scalar? run).map (·, rest)
  | _ => (scalar? run).map (·, rest)

end TriggerScript.Toml
