import PointsTo.Unicode.Age
import PointsTo.Unicode.Break
import PointsTo.Unicode.Category
import PointsTo.Unicode.CharSet
import PointsTo.Unicode.Property
import PointsTo.Unicode.Script
import PointsTo.Unicode.ScriptExtension

namespace PointsTo.Unicode

/-- The form in which the tables have a name. -/
def normalize (name : String) : String :=
  let plain (cs : List Char) := cs.filterMap fun c =>
    if c = ' ' ∨ c = '_' ∨ c = '-' ∨ c.toNat ≥ 128 then none else some c.toLower
  match name.toList with
  | i :: s :: rest =>
    if i.toLower = 'i' ∧ s.toLower = 's' then
      -- A single `c` would be the category of other characters.
      if plain rest = ['c'] then "isc" else String.ofList (plain rest)
    else String.ofList (plain (i :: s :: rest))
  | cs => String.ofList (plain cs)

def find? (table : List (List String × String)) (name : String) : Option CharSet :=
  (table.find? fun row => row.1.contains name).map fun row => CharSet.ofRuns row.2

/-- The characters of the categories with the given short names. -/
def categories (names : List String) : CharSet :=
  CharSet.unions (names.filterMap (find? categoryTable))

def letter : CharSet := categories ["lu", "ll", "lt", "lm", "lo"]

def mark : CharSet := categories ["mn", "mc", "me"]

def number : CharSet := categories ["nd", "nl", "no"]

def punctuation : CharSet := categories ["pc", "pd", "ps", "pe", "pi", "pf", "po"]

def symbol : CharSet := categories ["sm", "sc", "sk", "so"]

def separator : CharSet := categories ["zs", "zl", "zp"]

/-- Everything that is not a character to be shown, the unassigned code points included. -/
def other : CharSet :=
  (CharSet.unions [letter, mark, number, punctuation, symbol, separator]).compl

def surrogate : CharSet := .ofRanges [(0xD800, 0xDFFF)]

def unassigned : CharSet := (other.diff (categories ["cc", "cf", "co"])).diff surrogate

def category? (name : String) : Option CharSet :=
  match name with
  | "any" => some CharSet.empty.compl
  | "ascii" => some (.ofRanges [(0, 0x7F)])
  | "assigned" => some unassigned.compl
  | "l" | "letter" => some letter
  | "lc" | "casedletter" => some (categories ["lu", "ll", "lt"])
  | "m" | "mark" | "combiningmark" => some mark
  | "n" | "number" => some number
  | "p" | "punctuation" | "punct" => some punctuation
  | "s" | "symbol" => some symbol
  | "z" | "separator" => some separator
  | "c" | "other" => some other
  | "cn" | "unassigned" => some unassigned
  | _ => find? categoryTable name

/-- A property of `propertyTable`. -/
def listed (name : String) : CharSet := (find? propertyTable name).getD .empty

def lowercase : CharSet := (categories ["ll"]).union (listed "olower")

def uppercase : CharSet := (categories ["lu"]).union (listed "oupper")

def cased : CharSet := CharSet.unions [lowercase, uppercase, categories ["lt"]]

def alphabetic : CharSet :=
  CharSet.unions [cased, categories ["lm", "lo", "nl"], listed "oalpha"]

/-- The characters that identifiers leave to patterns and other notations. -/
def notational : CharSet := (listed "patsyn").union (listed "patws")

def idStart : CharSet :=
  (CharSet.unions [letter, categories ["nl"], listed "oids"]).diff notational

def idContinue : CharSet :=
  (CharSet.unions [idStart, categories ["mn", "mc", "nd", "pc"], listed "oidc"]).diff notational

def graphemeExtend : CharSet := (categories ["me", "mn"]).union (listed "ogrext")

def graphemeBase : CharSet :=
  (CharSet.unions [other, categories ["zl", "zp"], graphemeExtend]).compl

def lowercased : CharSet :=
  (uppercase.union (categories ["lt"])).symmDiff (.ofRuns lowercasedRuns)

def uppercased : CharSet := lowercase.symmDiff (.ofRuns uppercasedRuns)

def titlecased : CharSet := uppercased.symmDiff (.ofRuns titlecasedRuns)

def property? (name : String) : Option CharSet :=
  match name with
  | "alpha" | "alphabetic" => some alphabetic
  | "lower" | "lowercase" => some lowercase
  | "upper" | "uppercase" => some uppercase
  | "cased" => some cased
  | "ci" | "caseignorable" =>
    some ((categories ["mn", "me", "cf", "lm", "sk"]).union (.ofRuns wordMiddleRuns))
  | "cwl" | "changeswhenlowercased" => some lowercased
  | "cwu" | "changeswhenuppercased" => some uppercased
  | "cwt" | "changeswhentitlecased" => some titlecased
  | "cwcf" | "changeswhencasefolded" => some (lowercased.symmDiff (.ofRuns casefoldedRuns))
  | "cwcm" | "changeswhencasemapped" => some (.unions [lowercased, uppercased, titlecased])
  | "math" => some ((categories ["sm"]).union (listed "omath"))
  | "grext" | "graphemeextend" => some graphemeExtend
  | "grbase" | "graphemebase" => some graphemeBase
  | "ids" | "idstart" => some idStart
  | "idc" | "idcontinue" => some idContinue
  | "xids" | "xidstart" => some (idStart.diff (.ofRuns unstableStartRuns))
  | "xidc" | "xidcontinue" => some (idContinue.diff (.ofRuns unstableContinueRuns))
  | _ => find? propertyTable name

def decimalDigit : CharSet := categories ["nd"]

def whiteSpace : CharSet := listed "wspace"

/-- The characters of words: letters, marks, digits, connecting punctuation and the joiners. -/
def wordChar : CharSet :=
  CharSet.unions [alphabetic, mark, categories ["nd", "pc"], listed "joinc"]

/-- The letters of Unicode 17. -/
def latestLetter : CharSet := alphabetic.union (.ofRuns laterLetterRuns)

/-- The numbers of Unicode 17. -/
def latestNumber : CharSet := number.union (.ofRuns laterNumberRuns)

def script? (name : String) : Option CharSet := find? scriptTable name

/-- The characters that are used in a script. -/
def scriptExtension? (name : String) : Option CharSet := do
  let (names, runs) ← scriptTable.find? fun row => row.1.contains name
  let shared := scriptExtensionTable.find? fun row => row.1.any names.contains
  return (CharSet.ofRuns runs).symmDiff (.ofRuns (shared.elim "" (·.2)))

/-- The characters that were assigned in a version or before it. -/
def age? (name : String) : Option CharSet := do
  let earlier := ageTable.takeWhile fun row => !row.1.contains name
  let row ← ageTable[earlier.length]?
  return .unions ((earlier ++ [row]).map fun row => CharSet.ofRuns row.2)

/-- The set that a single name stands for: a property, a category or a script. -/
def named? (name : String) : Option CharSet :=
  let name := normalize name
  property? name <|> category? name <|> script? name

/-- The characters with the given value of a property. -/
def valued? (property value : String) : Option CharSet :=
  let value := normalize value
  match normalize property with
  | "gc" | "generalcategory" => category? value
  | "sc" | "script" => script? value
  | "scx" | "scriptextensions" => scriptExtension? value
  | "age" => age? value
  | "gcb" | "graphemeclusterbreak" => find? graphemeBreakTable value
  | "wb" | "wordbreak" => find? wordBreakTable value
  | "sb" | "sentencebreak" => find? sentenceBreakTable value
  | _ => none

end PointsTo.Unicode
