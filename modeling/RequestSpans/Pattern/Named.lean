import RequestSpans.Pattern.CharSet
import RequestSpans.Pattern.Unicode.Age
import RequestSpans.Pattern.Unicode.Category
import RequestSpans.Pattern.Unicode.Property
import RequestSpans.Pattern.Unicode.Script
import RequestSpans.Pattern.Unicode.Segmentation

set_option autoImplicit false

namespace RequestSpans.Pattern

namespace Named

def normalize (name : List Char) : String :=
  let kept (text : List Char) :=
    (text.filter fun c => c ≤ '\x7f' && !" _-".toList.contains c).map Char.toLower
  match name with
  | i :: s :: rest =>
    if (i = 'i' ∨ i = 'I') ∧ (s = 's' ∨ s = 'S') then
      if kept rest = ['c'] then "isc" else String.ofList (kept rest)
    else String.ofList (kept name)
  | _ => String.ofList (kept name)

def ofCategories (codes : List String) : Ranges :=
  .unions (codes.map fun code => (Table.find? Unicode.categories code).getD [])

def letters : Ranges := ofCategories ["lu", "ll", "lt", "lm", "lo"]

def marks : Ranges := ofCategories ["mn", "mc", "me"]

def numbers : Ranges := ofCategories ["nd", "nl", "no"]

def alphabetic : Ranges :=
  .unions [letters, ofCategories ["nl"], Unicode.otherAlphabetic]

def lowercase : Ranges := .union (ofCategories ["ll"]) Unicode.otherLowercase

def uppercase : Ranges := .union (ofCategories ["lu"]) Unicode.otherUppercase

def graphemeExtenders : Ranges := .union (ofCategories ["mn", "me"]) Unicode.otherExtenders

def identifierStarts : CharSet :=
  .diff (.listed (.unions [letters, ofCategories ["nl"], Unicode.otherStarts]))
    (.listed [(0x2e2f, 0x2e2f)])

def identifierContinues : CharSet :=
  .diff
    (.listed (.unions
      [letters, ofCategories ["nl", "mn", "mc", "nd", "pc"], Unicode.otherStarts, Unicode.otherContinues]))
    (.listed [(0x2e2f, 0x2e2f)])

def ofProperty (name : String) : Ranges := (Table.find? Unicode.properties name).getD []

def changed (mapping : String) (more fewer : Ranges) : CharSet :=
  .diff (.listed (.union (ofProperty mapping) more)) (.listed fewer)

def derivedProperty? : String → Option CharSet
  | "alphabetic" | "alpha" => some (.listed alphabetic)
  | "lowercase" | "lower" => some (.listed lowercase)
  | "uppercase" | "upper" => some (.listed uppercase)
  | "cased" => some (.listed (.unions [lowercase, uppercase, ofCategories ["lt"]]))
  | "caseignorable" | "ci" =>
    some (.listed (.union (ofCategories ["mn", "me", "cf", "lm", "sk"]) Unicode.otherIgnorable))
  | "graphemeextend" | "grext" => some (.listed graphemeExtenders)
  | "graphemebase" | "grbase" =>
    some (.compl (.listed (.union graphemeExtenders
      (ofCategories ["cc", "cf", "cs", "co", "cn", "zl", "zp"]))))
  | "idstart" | "ids" => some identifierStarts
  | "idcontinue" | "idc" => some identifierContinues
  | "xidstart" | "xids" => some (.diff identifierStarts (.listed Unicode.unstableStarts))
  | "xidcontinue" | "xidc" => some (.diff identifierContinues (.listed Unicode.unstableContinues))
  | "changeswhentitlecased" | "cwt" => some (changed "cwu" Unicode.titledOnly Unicode.upperOnly)
  | "changeswhencasefolded" | "cwcf" => some (changed "cwl" Unicode.foldedOnly Unicode.lowerOnly)
  | "changeswhencasemapped" | "cwcm" => some (.listed (.union (ofProperty "cwl") (ofProperty "cwu")))
  | "otheralphabetic" | "oalpha" => some (.listed Unicode.otherAlphabetic)
  | "otherlowercase" | "olower" => some (.listed Unicode.otherLowercase)
  | "otheruppercase" | "oupper" => some (.listed Unicode.otherUppercase)
  | "othergraphemeextend" | "ogrext" => some (.listed Unicode.otherExtenders)
  | "otheridstart" | "oids" => some (.listed Unicode.otherStarts)
  | "otheridcontinue" | "oidc" => some (.listed Unicode.otherContinues)
  | "othermath" | "omath" => some (.diff (.listed (ofProperty "math")) (.listed (ofCategories ["sm"])))
  | _ => Option.none

def property? (name : String) : Option CharSet :=
  (derivedProperty? name).or ((Table.find? Unicode.properties name).map .listed)

def category? : String → Option CharSet
  | "cs" | "surrogate" => Option.none
  | "any" => some .all
  | "assigned" => some (.compl (.listed (ofCategories ["cn"])))
  | "ascii" => some (.listed [(0, 0x7f)])
  | "l" | "letter" => some (.listed letters)
  | "lc" | "casedletter" => some (.listed (ofCategories ["lu", "ll", "lt"]))
  | "m" | "mark" | "combiningmark" => some (.listed marks)
  | "n" | "number" => some (.listed numbers)
  | "p" | "punctuation" | "punct" =>
    some (.listed (ofCategories ["pc", "pd", "ps", "pe", "pi", "pf", "po"]))
  | "s" | "symbol" => some (.listed (ofCategories ["sm", "sc", "sk", "so"]))
  | "z" | "separator" => some (.listed (ofCategories ["zs", "zl", "zp"]))
  | "c" | "other" => some (.listed (ofCategories ["cc", "cf", "cs", "co", "cn"]))
  | name => (Table.find? Unicode.categories name).map .listed

def script? (name : String) : Option CharSet :=
  (Table.find? Unicode.scripts name).map .listed

def scriptExtension? (name : String) : Option CharSet :=
  (script? name).map fun script =>
    .diff (.union script (.listed ((Table.find? Unicode.scriptAdditions name).getD [])))
      (.listed ((Table.find? Unicode.scriptRemovals name).getD []))

def openSyllables : Ranges := (List.range 399).map fun k => (0xac00 + 28 * k, 0xac00 + 28 * k)

def graphemeBreak? : String → Option CharSet
  | "ex" | "extend" => some (.listed (.union graphemeExtenders (ofProperty "emod")))
  | "lv" => some (.listed openSyllables)
  | "lvt" => some (.diff (.listed [(0xac00, 0xd7a3)]) (.listed openSyllables))
  | name => (Table.find? Unicode.graphemeBreaks name).map .listed

def wordBreak? : String → Option CharSet
  | "extend" => some (.listed (.unions [graphemeExtenders, ofCategories ["mc"], ofProperty "emod"]))
  | name => (Table.find? Unicode.wordBreaks name).map .listed

-- Georgian letters are of no case in a sentence, although they have capitals.
def sentenceLower : CharSet :=
  .diff (.listed lowercase) (.listed (.union graphemeExtenders [(0x10d0, 0x10fa), (0x10fd, 0x10ff)]))

def sentenceUpper : CharSet :=
  .diff (.listed (.union uppercase (ofCategories ["lt"]))) (.listed [(0x1c90, 0x1cba), (0x1cbd, 0x1cbf)])

def sentenceExtend : CharSet :=
  .listed (.unions [graphemeExtenders, ofCategories ["mc"], [(0x200d, 0x200d)]])

def sentenceLetter : CharSet :=
  .diff (.listed (.union alphabetic [(0x5f3, 0x5f3)])) (.unions [sentenceLower, sentenceUpper, sentenceExtend])

def sentenceBreak? : String → Option CharSet
  | "ex" | "extend" => some sentenceExtend
  | "lo" | "lower" => some sentenceLower
  | "up" | "upper" => some sentenceUpper
  | "le" | "oletter" => some sentenceLetter
  | name => (Table.find? Unicode.sentenceBreaks name).map .listed

def age? (version : String) : Option CharSet :=
  let earlier := Unicode.ages.takeWhile (!·.names.contains version)
  (Unicode.ages[earlier.length]?).map fun last =>
    .listed (.unions ((last :: earlier).map fun table => .read table.text))

def plain? (name : List Char) : Option CharSet :=
  let name := normalize name
  let property := if ["cf", "sc", "lc"].contains name then Option.none else property? name
  (property.or (category? name)).or (script? name)

def valued? (property value : List Char) : Option CharSet :=
  let value := normalize value
  match normalize property with
  | "generalcategory" | "gc" => category? value
  | "script" | "sc" => script? value
  | "scriptextensions" | "scx" => scriptExtension? value
  | "age" => age? value
  | "graphemeclusterbreak" | "gcb" => graphemeBreak? value
  | "wordbreak" | "wb" => wordBreak? value
  | "sentencebreak" | "sb" => sentenceBreak? value
  | _ => Option.none

def digits : Ranges := ofCategories ["nd"]

def blanks : Ranges := ofProperty "whitespace"

def word : Ranges :=
  .unions [alphabetic, marks, digits, ofCategories ["pc"], ofProperty "joinc"]

def asciiDigits : Ranges := [(0x30, 0x39)]

def asciiBlanks : Ranges := [(9, 13), (0x20, 0x20)]

def asciiWord : Ranges := [(0x30, 0x39), (0x41, 0x5a), (0x5f, 0x5f), (0x61, 0x7a)]

def asciiClass? : String → Option Ranges
  | "alnum" => some [(0x30, 0x39), (0x41, 0x5a), (0x61, 0x7a)]
  | "alpha" => some [(0x41, 0x5a), (0x61, 0x7a)]
  | "ascii" => some [(0, 0x7f)]
  | "blank" => some [(9, 9), (0x20, 0x20)]
  | "cntrl" => some [(0, 0x1f), (0x7f, 0x7f)]
  | "digit" => some asciiDigits
  | "graph" => some [(0x21, 0x7e)]
  | "lower" => some [(0x61, 0x7a)]
  | "print" => some [(0x20, 0x7e)]
  | "punct" => some [(0x21, 0x2f), (0x3a, 0x40), (0x5b, 0x60), (0x7b, 0x7e)]
  | "space" => some asciiBlanks
  | "upper" => some [(0x41, 0x5a)]
  | "word" => some asciiWord
  | "xdigit" => some [(0x30, 0x39), (0x41, 0x46), (0x61, 0x66)]
  | _ => Option.none

def isWordChar (c : Char) : Bool := word.mem c.toNat

def isBlankChar (c : Char) : Bool := blanks.mem c.toNat

def isAlphabeticChar (c : Char) : Bool := alphabetic.mem c.toNat

def isAlphanumericChar (c : Char) : Bool := alphabetic.mem c.toNat || numbers.mem c.toNat

end Named

end RequestSpans.Pattern
