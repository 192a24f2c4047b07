import RequestSpans.Pattern.Flags
import RequestSpans.Text.Numeral

set_option autoImplicit false

namespace RequestSpans.Pattern

inductive WordClass where
  | digit
  | blank
  | word
deriving Repr, DecidableEq, Inhabited

def WordClass.ranges (ascii : Bool) : WordClass → Ranges
  | .digit => if ascii then Named.asciiDigits else Named.digits
  | .blank => if ascii then Named.asciiBlanks else Named.blanks
  | .word => if ascii then Named.asciiWord else Named.word

inductive Primitive where
  | literal (c : Char) (byteForm : Bool)
  | dot
  | lineStart
  | lineEnd
  | assertion (of : Bool → Assertion)
  | property (set : CharSet) (negated : Bool)
  | wordClass (kind : WordClass) (negated : Bool)

namespace Primitive

def isMeta (c : Char) : Bool := "\\.+*?()|[]\x7b\x7d^$#&-~".toList.contains c

def isEscapable (c : Char) : Bool :=
  isMeta c || (c ≤ '\x7f' && !c.isAlphanum && c ≠ '<' && c ≠ '>')

def isHexDigit (c : Char) : Bool := (Text.digitValue c).isSome

def hexChar? (digits : List Char) : Option Char :=
  if digits.isEmpty then none
  else
    (Text.digits? 16 0 digits).bind fun n =>
      if n < 0xd800 ∨ (0xdfff < n ∧ n < 0x110000) then some (Char.ofNat n) else none

def hexDigits? (flags : Flags) : Nat → List Char → Option (List Char × List Char)
  | 0, text => some ([], text)
  | count + 1, c :: rest =>
    if isHexDigit c then
      (hexDigits? flags count (flags.skip rest)).map fun (digits, rest) => (c :: digits, rest)
    else none
  | _ + 1, [] => none

def readHex? (flags : Flags) (width : Nat) (text : List Char) :
    Option (Primitive × List Char) :=
  match flags.skip text with
  | '{' :: rest => do
    let (digits, rest) ← takeBraced flags (rest.length + 1) rest
    let c ← hexChar? digits
    some (.literal c false, flags.skip rest)
  | text => do
    let (digits, rest) ← hexDigits? flags width text
    let c ← hexChar? digits
    some (.literal c (width = 2), rest)

def splitAt? (mark : List Char) : List Char → Option (List Char × List Char)
  | [] => none
  | c :: rest =>
    if (c :: rest).take mark.length = mark then some ([], (c :: rest).drop mark.length)
    else (splitAt? mark rest).map fun (before, behind) => (c :: before, behind)

-- A set by its name, or by a property and its value. Between these `!=` is no
-- different from `=`; it does not negate.
def namedSet? (name : List Char) (negated : Bool) : Option Primitive :=
  match ((splitAt? ['!', '='] name).or (splitAt? [':'] name)).or (splitAt? ['='] name) with
  | some (key, value) => (Named.valued? key value).map fun set => .property set negated
  | none => (Named.plain? name).map fun set => .property set negated

def readProperty? (flags : Flags) (negated : Bool) (text : List Char) :
    Option (Primitive × List Char) :=
  match flags.skip text with
  | [] | '\\' :: _ => none
  | '{' :: rest => do
    let (name, rest) ← takeBraced flags (rest.length + 1) rest
    let set ← namedSet? name negated
    some (set, rest)
  | c :: rest => do
    let set ← Named.plain? [c]
    some (.property set negated, flags.skip rest)

def boundaryNamed? : String → Option (Bool → Assertion)
  | "start" => some .wordStart
  | "end" => some .wordEnd
  | "start-half" => some .wordStartHalf
  | "end-half" => some .wordEndHalf
  | _ => none

def isBoundaryNameChar (c : Char) : Bool := c.isAlpha || c = '-'

def readBoundary? (flags : Flags) (text : List Char) : Option (Primitive × List Char) :=
  match text with
  | '{' :: rest =>
    match flags.skip rest with
    | [] => none
    | c :: _ =>
      if isBoundaryNameChar c then do
        let (name, rest) ← takeBraced flags (rest.length + 1) rest
        let boundary ← boundaryNamed? (String.ofList name)
        some (.assertion boundary, rest)
      else some (.assertion .wordBoundary, text)
  | _ => some (.assertion .wordBoundary, text)

def readEscape? (flags : Flags) : List Char → Option (Primitive × List Char)
  | [] => none
  | 'x' :: rest => readHex? flags 2 rest
  | 'u' :: rest => readHex? flags 4 rest
  | 'U' :: rest => readHex? flags 8 rest
  | 'p' :: rest => readProperty? flags false rest
  | 'P' :: rest => readProperty? flags true rest
  | 'd' :: rest => some (.wordClass .digit false, rest)
  | 'D' :: rest => some (.wordClass .digit true, rest)
  | 's' :: rest => some (.wordClass .blank false, rest)
  | 'S' :: rest => some (.wordClass .blank true, rest)
  | 'w' :: rest => some (.wordClass .word false, rest)
  | 'W' :: rest => some (.wordClass .word true, rest)
  | 'a' :: rest => some (.literal '\x07' false, rest)
  | 'f' :: rest => some (.literal '\x0c' false, rest)
  | 't' :: rest => some (.literal '\t' false, rest)
  | 'n' :: rest => some (.literal '\n' false, rest)
  | 'r' :: rest => some (.literal '\r' false, rest)
  | 'v' :: rest => some (.literal '\x0b' false, rest)
  | 'A' :: rest => some (.assertion fun _ => .textStart, rest)
  | 'z' :: rest => some (.assertion fun _ => .textEnd, rest)
  | 'b' :: rest => readBoundary? flags rest
  | 'B' :: rest => some (.assertion .notWordBoundary, rest)
  | '<' :: rest => some (.assertion .wordStart, rest)
  | '>' :: rest => some (.assertion .wordEnd, rest)
  | c :: rest => if isEscapable c then some (.literal c false, rest) else none

def foldSet (flags : Flags) (set : CharSet) : CharSet :=
  if !flags.ignoreCase then set
  else if flags.unicode then .folded set
  else .asciiFolded set

def negateSet? (flags : Flags) (negated : Bool) (set : CharSet) : Option CharSet :=
  if !negated then some set else if flags.unicode then some (.compl set) else none

def set? (flags : Flags) : Primitive → Option CharSet
  | .property named negated =>
    if flags.unicode then negateSet? flags negated (foldSet flags named) else none
  | .wordClass kind negated => negateSet? flags negated (.listed (kind.ranges !flags.unicode))
  | _ => none

def pattern? (flags : Flags) : Primitive → Option Pattern
  | .literal c byteForm =>
    if !flags.unicode && byteForm && c > '\x7f' then none
    else some (.one (foldSet flags (.single c)))
  | .dot =>
    if !flags.unicode then none
    else if flags.dotAll then some (.one .all)
    else if flags.anyLineEnds then some (.one (.compl (.listed [(10, 10), (13, 13)])))
    else some (.one (.compl (.single '\n')))
  | .lineStart =>
    some (.assert (if !flags.multiLine then .textStart
      else if flags.anyLineEnds then .anyLineStart else .lineStart))
  | .lineEnd =>
    some (.assert (if !flags.multiLine then .textEnd
      else if flags.anyLineEnds then .anyLineEnd else .lineEnd))
  | .assertion boundary => some (.assert (boundary !flags.unicode))
  | primitive => (primitive.set? flags).map .one

end Primitive

end RequestSpans.Pattern
