namespace PointsTo.Json

/-- A text is refused because it is no JSON, because it is JSON of the wrong shape, because it ends
too early, or because it cannot be got to its end. -/
inductive Fault where
  | syntaxError | wrongShape | endOfText | brokenInput
deriving DecidableEq, Repr

def Fault.text : Fault → String
  | syntaxError => "syntax" | wrongShape => "data" | endOfText => "eof"
  | brokenInput => "io"

def hexValue? (b : UInt8) : Option Nat :=
  let n := b.toNat
  if '0'.toNat ≤ n ∧ n ≤ '9'.toNat then some (n - '0'.toNat)
  else if 'a'.toNat ≤ n ∧ n ≤ 'f'.toNat then some (n - 'a'.toNat + 10)
  else if 'A'.toNat ≤ n ∧ n ≤ 'F'.toNat then some (n - 'A'.toNat + 10)
  else none

/-- Four hexadecimal digits. -/
def readHex : List UInt8 → Except Fault (Nat × List UInt8)
  | a :: b :: c :: d :: rest =>
    match [a, b, c, d].mapM hexValue? with
    | some ds => .ok (ds.foldl (fun n d => n * 16 + d) 0, rest)
    | none => .error .syntaxError
  | _ => .error .endOfText

def utf8 (code : Nat) : List UInt8 := (String.singleton (Char.ofNat code)).toUTF8.toList

/-- A fixed byte that must come next. -/
def expectByte (c : Char) : List UInt8 → Except Fault (List UInt8)
  | [] => .error .endOfText
  | b :: rest => if b = c.toUInt8 then .ok rest else .error .syntaxError

/-- What follows `\u`: a code point, or the two halves of one. A half on its own is refused. -/
def readCodePoint (bs : List UInt8) : Except Fault (List UInt8 × List UInt8) := do
  let (high, rest) ← readHex bs
  if 0xDC00 ≤ high ∧ high ≤ 0xDFFF then
    throw .syntaxError
  if high < 0xD800 ∨ 0xDBFF < high then
    return (utf8 high, rest)
  let rest ← expectByte '\\' rest
  let rest ← expectByte 'u' rest
  let (low, rest) ← readHex rest
  if low < 0xDC00 ∨ 0xDFFF < low then
    throw .syntaxError
  return (utf8 ((high - 0xD800) * 0x400 + (low - 0xDC00) + 0x10000), rest)

/-- What follows a backslash, as the bytes it stands for. -/
def readEscape : List UInt8 → Except Fault (List UInt8 × List UInt8)
  | [] => .error .endOfText
  | b :: rest =>
    match Char.ofNat b.toNat with
    | '"' => .ok (['"'.toUInt8], rest)
    | '\\' => .ok (['\\'.toUInt8], rest)
    | '/' => .ok (['/'.toUInt8], rest)
    | 'b' => .ok ([0x08], rest)
    | 'f' => .ok ([0x0c], rest)
    | 'n' => .ok ([0x0a], rest)
    | 'r' => .ok ([0x0d], rest)
    | 't' => .ok ([0x09], rest)
    | 'u' => readCodePoint rest
    | _ => .error .syntaxError

/-- The bytes up to the closing quote. Every round takes a byte, so that `fuel` is enough once it
reaches the length of the text. -/
def readQuoted : (fuel : Nat) → (done : List UInt8) → List UInt8 →
    Except Fault (List UInt8 × List UInt8)
  | _, _, [] => .error .endOfText
  | 0, _, _ => .error .endOfText
  | fuel + 1, done, b :: rest =>
    if b = '"'.toUInt8 then .ok (done.reverse, rest)
    else if b = '\\'.toUInt8 then do
      let (bytes, rest) ← readEscape rest
      readQuoted fuel (bytes.reverse ++ done) rest
    else if b < 0x20 then .error .syntaxError
    else readQuoted fuel (b :: done) rest

/-- The string whose opening quote has been read. -/
def readString (fuel : Nat) (bs : List UInt8) : Except Fault (String × List UInt8) := do
  let (bytes, rest) ← readQuoted fuel [] bs
  match String.fromUTF8? bytes.toByteArray with
  | some s => return (s, rest)
  | none => throw .syntaxError

/-- A backslash marks the quote and the backslash, and control characters are written by their
number. -/
def quoteChar (c : Char) : String :=
  if c = '"' ∨ c = '\\' then "\\" ++ String.singleton c
  else if c.toNat < 16 then "\\u000" ++ String.ofList (Nat.toDigits 16 c.toNat)
  else if c.toNat < 32 then "\\u00" ++ String.ofList (Nat.toDigits 16 c.toNat)
  else String.singleton c

def quote (s : String) : String := "\"" ++ String.join (s.toList.map quoteChar) ++ "\""

end PointsTo.Json
