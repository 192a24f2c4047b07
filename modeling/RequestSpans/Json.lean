import RequestSpans.Decimal.Double

set_option autoImplicit false

namespace RequestSpans

inductive Json where
  | null
  | bool (value : Bool)
  | int (value : Int)
  | float (negative : Bool) (value : Decimal.Double)
  | text (value : String)
  | unpaired
  | array (items : List Json)
  | object (members : List (String × Json))
deriving Repr, Inhabited

namespace Json

def isSpace (c : Char) : Bool := c = ' ' || c = '\n' || c = '\t' || c = '\r'

def skipSpace (text : List Char) : List Char := text.dropWhile isSpace

def hexValue? (c : Char) : Option Nat :=
  if c.isDigit then some (c.toNat - '0'.toNat)
  else if 'a' ≤ c ∧ c ≤ 'f' then some (c.toNat - 'a'.toNat + 10)
  else if 'A' ≤ c ∧ c ≤ 'F' then some (c.toNat - 'A'.toNat + 10)
  else none

def readHex4? : List Char → Option (Nat × List Char)
  | a :: b :: c :: d :: rest => do
    let a ← hexValue? a
    let b ← hexValue? b
    let c ← hexValue? c
    let d ← hexValue? d
    some (((a * 16 + b) * 16 + c) * 16 + d, rest)
  | _ => none

def simpleEscape? : Char → Option Char
  | '"' => some '"'
  | '\\' => some '\\'
  | '/' => some '/'
  | 'b' => some '\x08'
  | 'f' => some '\x0c'
  | 'n' => some '\n'
  | 'r' => some '\r'
  | 't' => some '\t'
  | _ => none

def readEscape? : List Char → Option (Option Char × List Char)
  | 'u' :: rest =>
    (readHex4? rest).bind fun (high, rest) =>
      if 0xd800 ≤ high ∧ high < 0xdc00 then
        match rest with
        | '\\' :: 'u' :: behind =>
          (readHex4? behind).map fun (low, behind) =>
            if 0xdc00 ≤ low ∧ low < 0xe000 then
              (some (Char.ofNat (0x10000 + (high - 0xd800) * 0x400 + (low - 0xdc00))), behind)
            else (none, behind)
        | rest => some (none, rest)
      else if 0xdc00 ≤ high ∧ high < 0xe000 then some (none, rest)
      else some (some (Char.ofNat high), rest)
  | c :: rest => (simpleEscape? c).map fun c => (some c, rest)
  | [] => none

-- The rest of a string; `kept?` holds what was read, reversed, while it is
-- text.
def readString? : Nat → Option (List Char) → List Char → Option (Option String × List Char)
  | 0, _, _ => none
  | _, _, [] => none
  | _, kept?, '"' :: rest => some (kept?.map fun kept => String.ofList kept.reverse, rest)
  | fuel + 1, kept?, '\\' :: rest =>
    (readEscape? rest).bind fun (c?, rest) =>
      readString? fuel (kept?.bind fun kept => c?.map (· :: kept)) rest
  | fuel + 1, kept?, c :: rest =>
    if c < ' ' then none else readString? fuel (kept?.map (c :: ·)) rest

def digitsValue (digits : List Char) : Nat :=
  digits.foldl (fun n c => n * 10 + (c.toNat - '0'.toNat)) 0

def isWhole : List Char → Bool
  | [] => false
  | ['0'] => true
  | c :: _ => c ≠ '0'

def readExponent? (text : List Char) : Option (Int × List Char) :=
  let (negative, text) := match text with
    | '-' :: rest => (true, rest)
    | '+' :: rest => (false, rest)
    | rest => (false, rest)
  let digits := text.takeWhile Char.isDigit
  if digits.isEmpty then none
  else
    let value : Int := digitsValue digits
    some (if negative then -value else value, text.dropWhile Char.isDigit)

def number (negative : Bool) (whole fraction : List Char) (exponent : Int) : Json :=
  let significand := digitsValue (whole ++ fraction)
  let power := max (-2000) (min 2000 (exponent - fraction.length))
  .float negative (.ofRatio ((⟨significand, 1⟩ : Decimal.Ratio).scale 10 power))

-- A number without fraction and exponent; zero with a sign and what passes 64
-- bits are not whole.
def wholeNumber (negative : Bool) (whole : List Char) : Json :=
  let value := digitsValue whole
  if negative then
    if value = 0 ∨ 0x8000000000000000 < value then number true whole [] 0 else .int (-value)
  else if 0x10000000000000000 ≤ value then number false whole [] 0
  else .int value

def readNumber? (text : List Char) : Option (Json × List Char) :=
  let (negative, text) := match text with
    | '-' :: rest => (true, rest)
    | rest => (false, rest)
  let whole := text.takeWhile Char.isDigit
  let text := text.dropWhile Char.isDigit
  if !isWhole whole then none
  else
    let fraction? : Option (List Char × List Char) := match text with
      | '.' :: rest =>
        let digits := rest.takeWhile Char.isDigit
        if digits.isEmpty then none else some (digits, rest.dropWhile Char.isDigit)
      | rest => some ([], rest)
    fraction?.bind fun (fraction, rest) =>
      match rest with
      | 'e' :: rest | 'E' :: rest =>
        (readExponent? rest).map fun (exponent, rest) =>
          (number negative whole fraction exponent, rest)
      | rest =>
        if fraction.isEmpty then some (wholeNumber negative whole, rest)
        else some (number negative whole fraction 0, rest)

inductive Frame where
  | array (items : List Json)
  | object (members : List (String × Json)) (key : String)

inductive Turn where
  | value
  | after (value : Json)

def readKey? (text : List Char) : Option (String × List Char) :=
  match skipSpace text with
  | '"' :: rest =>
    match readString? (rest.length + 1) (some []) rest with
    | some (some key, rest) =>
      match skipSpace rest with
      | ':' :: rest => some (key, rest)
      | _ => none
    | _ => none
  | _ => none

def readScalar? : List Char → Option (Json × List Char)
  | 'n' :: 'u' :: 'l' :: 'l' :: rest => some (.null, rest)
  | 't' :: 'r' :: 'u' :: 'e' :: rest => some (.bool true, rest)
  | 'f' :: 'a' :: 'l' :: 's' :: 'e' :: rest => some (.bool false, rest)
  | '"' :: rest =>
    (readString? (rest.length + 1) (some []) rest).map fun (found?, rest) =>
      (match found? with
        | some found => .text found
        | none => .unpaired, rest)
  | chars => readNumber? chars

def run? : Nat → List Frame → Turn → List Char → Option (Json × List Char)
  | 0, _, _, _ => none
  | fuel + 1, frames, .value, chars =>
    match skipSpace chars with
    | '[' :: rest =>
      match skipSpace rest with
      | ']' :: rest => run? fuel frames (.after (.array [])) rest
      | rest => run? fuel (.array [] :: frames) .value rest
    | '\x7b' :: rest =>
      match skipSpace rest with
      | '\x7d' :: rest => run? fuel frames (.after (.object [])) rest
      | rest =>
        (readKey? rest).bind fun (key, rest) => run? fuel (.object [] key :: frames) .value rest
    | rest => (readScalar? rest).bind fun (value, rest) => run? fuel frames (.after value) rest
  | fuel + 1, frames, .after value, chars =>
    match frames with
    | [] => some (value, chars)
    | .array items :: frames =>
      match skipSpace chars with
      | ',' :: rest => run? fuel (.array (value :: items) :: frames) .value rest
      | ']' :: rest => run? fuel frames (.after (.array (value :: items).reverse)) rest
      | _ => none
    | .object members key :: frames =>
      match skipSpace chars with
      | ',' :: rest =>
        (readKey? rest).bind fun (next, rest) =>
          run? fuel (.object ((key, value) :: members) next :: frames) .value rest
      | '\x7d' :: rest =>
        run? fuel frames (.after (.object ((key, value) :: members).reverse)) rest
      | _ => none

def parse? (document : String) : Option Json :=
  let chars := document.toList
  match run? (2 * chars.length + 2) [] .value chars with
  | some (value, rest) => if (skipSpace rest).isEmpty then some value else none
  | none => none

def member? (members : List (String × Json)) (key : String) : Option Json :=
  (members.reverse.find? fun member => member.1 = key).map (·.2)

end Json

end RequestSpans
