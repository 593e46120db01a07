import PointsTo.Pattern.Flags

namespace PointsTo.Pattern

/-- A sign of a pattern. -/
inductive Sign where
  | char (c : Char)
  | set (s : CharSet)
  | anchor (a : Anchor)
deriving DecidableEq, Repr

namespace Flags

/-- The characters up to the next `stop`, without those to be skipped, and what follows it. -/
def takeUntil? (f : Flags) (stop : Char) : (fuel : Nat) → List Char → Option (List Char × List Char)
  | 0, _ => none
  | fuel + 1, s =>
    match f.skip s with
    | [] => none
    | c :: rest =>
      if c = stop then some ([], rest)
      else do
        let (cs, rest) ← takeUntil? f stop fuel rest
        return (c :: cs, rest)

/-- The given number of characters, without those to be skipped, and what follows them. -/
def take? (f : Flags) : Nat → List Char → Option (List Char × List Char)
  | 0, s => some ([], s)
  | n + 1, s =>
    match f.skip s with
    | [] => none
    | c :: rest => do
      let (cs, rest) ← take? f n rest
      return (c :: cs, rest)

/-- What stands in braces, from behind the opening one. -/
def braced? (f : Flags) (s : List Char) : Option (List Char × List Char) :=
  f.takeUntil? '\x7d' (s.length + 1) s

end Flags

def hexDigit? (c : Char) : Option Nat :=
  if '0' ≤ c ∧ c ≤ '9' then some (c.toNat - '0'.toNat)
  else if 'a' ≤ c ∧ c ≤ 'f' then some (c.toNat - 'a'.toNat + 10)
  else if 'A' ≤ c ∧ c ≤ 'F' then some (c.toNat - 'A'.toNat + 10)
  else none

def ofHex? (digits : List Char) : Option Char := do
  let n ← digits.foldlM (fun n d => return 16 * n + (← hexDigit? d)) 0
  if digits.isEmpty || !n.isValidChar then none else some (Char.ofNat n)

/-- A code point in braces, or with the given number of digits. Two digits stand for a byte when
classes do not know the characters from U+0080 on, and such a byte is no character. -/
def readHex? (f : Flags) (width : Nat) (s : List Char) : Option (Char × List Char) :=
  match f.skip s with
  | '\x7b' :: s => do
    let (digits, rest) ← f.braced? s
    return (← ofHex? digits, rest)
  | s => do
    let (digits, rest) ← f.take? width s
    let c ← ofHex? digits
    if width = 2 ∧ !f.unicode ∧ c.toNat ≥ 0x80 then none else some (c, rest)

/-- The set with the property that a name, or a name and a value, stands for. The flag tells that
the value is excluded. -/
def propertySet? (name : List Char) : Option (CharSet × Bool) :=
  let split (sign : String) := (String.ofList name).splitOn sign
  match split "!=", split ":", split "=" with
  | first :: value :: more, _, _ => do
    return (← Unicode.valued? first ("!=".intercalate (value :: more)), true)
  | _, first :: value :: more, _ => do
    return (← Unicode.valued? first (":".intercalate (value :: more)), false)
  | _, _, first :: value :: more => do
    return (← Unicode.valued? first ("=".intercalate (value :: more)), false)
  | _, _, _ => do return (← Unicode.named? (String.ofList name), false)

/-- The set with a property from behind its letter, `P` for the characters without it. -/
def readProperty? (f : Flags) (without : Bool) (s : List Char) : Option (CharSet × List Char) := do
  let (name, rest) ← match f.skip s with
    | '\x7b' :: s => f.braced? s
    | c :: s => if c = '\\' then none else some ([c], s)
    | [] => none
  let (set, excluded) ← propertySet? name
  let set := f.fold set
  if f.unicode then return (if without != excluded then set.compl else set, rest) else none

/-- The edge of a word whose name follows in braces. Without a letter in them there is no name. -/
def readEdge? (f : Flags) (s : List Char) : Option (WordEdge × List Char) :=
  match s with
  | '\x7b' :: inside =>
    match f.skip inside with
    | [] => none
    | c :: _ =>
      if c.isAlpha || c == '-' then do
        let (name, rest) ← f.braced? inside
        match String.ofList name with
        | "start" => return (.start, rest)
        | "end" => return (.finish, rest)
        | "start-half" => return (.noneBefore, rest)
        | "end-half" => return (.noneAfter, rest)
        | _ => none
      else some (.boundary, s)
  | _ => some (.boundary, s)

/-- What follows a backslash. -/
def readEscape? (f : Flags) : List Char → Option (Sign × List Char)
  | [] => none
  | c :: s =>
    let control (c : Char) := some (Sign.char c, s)
    let set (t : CharSet) := do return (Sign.set (← f.checked? t), s)
    let edge (e : WordEdge) := some (Sign.anchor (.word e f.word), s)
    match c with
    | 'n' => control '\n'
    | 't' => control '\t'
    | 'r' => control '\r'
    | 'a' => control '\x07'
    | 'f' => control '\x0c'
    | 'v' => control '\x0b'
    | 'x' => do let (c, rest) ← readHex? f 2 s; return (.char c, rest)
    | 'u' => do let (c, rest) ← readHex? f 4 s; return (.char c, rest)
    | 'U' => do let (c, rest) ← readHex? f 8 s; return (.char c, rest)
    | 'p' => do let (t, rest) ← readProperty? f false s; return (.set t, rest)
    | 'P' => do let (t, rest) ← readProperty? f true s; return (.set t, rest)
    | 'd' => set f.digit
    | 'D' => set f.digit.compl
    | 's' => set f.space
    | 'S' => set f.space.compl
    | 'w' => set f.word
    | 'W' => set f.word.compl
    | 'A' => some (.anchor .textStart, s)
    | 'z' => some (.anchor .textEnd, s)
    | 'b' => do let (e, rest) ← readEdge? f s; return (.anchor (.word e f.word), rest)
    | 'B' => edge .noBoundary
    | '<' => edge .start
    | '>' => edge .finish
    | _ => if c.isAlphanum || c.toNat ≥ 0x80 then none else some (.char c, s)

end PointsTo.Pattern
