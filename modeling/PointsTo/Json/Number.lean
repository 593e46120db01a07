import PointsTo.Json.Text

namespace PointsTo.Json

def isDigit (b : UInt8) : Bool := '0'.toUInt8 ≤ b && b ≤ '9'.toUInt8

def digitValue (b : UInt8) : Nat := b.toNat - '0'.toNat

/-- Adds decimal digits to a significand as long as it has 64 bits, and gives the digits left
over. -/
def absorb : Nat → List UInt8 → Nat × List UInt8
  | s, [] => (s, [])
  | s, d :: ds =>
    let s' := s * 10 + digitValue d
    if s' < UInt64.size then absorb s' ds else (s, d :: ds)

/-- The nearest number with 53 significant bits, the even one of two that are as near. -/
def roundToDouble (n : Nat) : Nat :=
  let unit := 1 <<< (n.log2 - 52)
  let q := n / unit
  let r := n % unit
  if r * 2 < unit ∨ (r * 2 = unit ∧ q % 2 = 0) then q * unit else (q + 1) * unit

/-- The least number that is not rounded to a finite double. -/
def doubleLimit : Nat := (1 <<< 1024) - (1 <<< 970)

/-- Whether `s · 10 ^ e` exceeds the doubles, the factors being rounded before they are
multiplied. -/
def exceedsDouble (s : Nat) (e : Int) : Bool :=
  s ≠ 0 && 0 ≤ e &&
    (308 < e || doubleLimit ≤ roundToDouble s * roundToDouble (Nat.pow 10 e.toNat))

def checkRange (s : Nat) (e : Int) (rest : List UInt8) : Except Fault (List UInt8) :=
  if exceedsDouble s e then .error .syntaxError else .ok rest

/-- The digits at the front of a text. At least one is needed. -/
def takeDigits (bs : List UInt8) : Except Fault (List UInt8 × List UInt8) :=
  match bs.takeWhile isDigit, bs with
  | [], [] => .error .endOfText
  | [], _ :: _ => .error .syntaxError
  | ds, _ => .ok (ds, bs.dropWhile isDigit)

/-- What follows an exponent mark: a sign and digits. -/
def afterExponentMark (s : Nat) (e : Int) (bs : List UInt8) : Except Fault (List UInt8) := do
  let (negative, bs) := match bs with
    | b :: rest =>
      if b = '+'.toUInt8 then (false, rest)
      else if b = '-'.toUInt8 then (true, rest)
      else (false, bs)
    | [] => (false, [])
  let (ds, rest) ← takeDigits bs
  let magnitude : Int := ds.foldl (fun n d => n * 10 + digitValue d) 0
  checkRange s (if negative then e - magnitude else e + magnitude) rest

def afterDigits (s : Nat) (e : Int) (bs : List UInt8) : Except Fault (List UInt8) :=
  match bs with
  | [] => checkRange s e bs
  | b :: rest =>
    if b = 'e'.toUInt8 || b = 'E'.toUInt8 then afterExponentMark s e rest else checkRange s e bs

def afterInteger (s : Nat) (e : Int) (bs : List UInt8) : Except Fault (List UInt8) :=
  match bs with
  | [] => checkRange s e bs
  | b :: rest =>
    if b = '.'.toUInt8 then do
      let (ds, rest) ← takeDigits rest
      let (s, left) := absorb s ds
      afterDigits s (e - (ds.length - left.length)) rest
    else afterDigits s e bs

/-- Passes over a number without its sign. It has no leading zeros. -/
def skipUnsigned (bs : List UInt8) : Except Fault (List UInt8) := do
  let (ds, rest) ← takeDigits bs
  if 1 < ds.length ∧ ds.head? = some '0'.toUInt8 then
    throw .syntaxError
  let (s, left) := absorb 0 ds
  afterInteger s left.length rest

/-- Passes over the number at the front of a text. -/
def skipNumber (bs : List UInt8) : Except Fault (List UInt8) :=
  match bs with
  | [] => .error .endOfText
  | b :: rest => if b = '-'.toUInt8 then skipUnsigned rest else skipUnsigned bs

end PointsTo.Json
