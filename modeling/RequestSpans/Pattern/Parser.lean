import RequestSpans.Pattern.Bracket

/-!
Reading patterns. A text is cut into tokens, and the tokens drive a stack of open groups; the flags
in force at a token decide what it means. `Pattern.parse?` is `none` for text that is no pattern.
-/
set_option autoImplicit false

namespace RequestSpans.Pattern

inductive GroupKind where
  | capture
  | named (name : String)
  | plain (flags : List Char)
deriving Repr, DecidableEq, Inhabited

inductive Token where
  | opening (kind : GroupKind)
  | flags (flags : List Char)
  | closing
  | bar
  | repetition (least : Nat) (most? : Option Nat)
  | atom (pattern : Nested Pattern)

namespace Token

def isNameStart (c : Char) : Bool := c = '_' || Named.isAlphabeticChar c

def isNameChar (c : Char) : Bool := "_.[]".toList.contains c || Named.isAlphanumericChar c

def readName? (text : List Char) : Option (Token × List Char) :=
  let name := text.takeWhile (· ≠ '>')
  match name, text.dropWhile (· ≠ '>') with
  | first :: others, _ :: rest =>
    if isNameStart first && others.all isNameChar then
      some (.opening (.named (String.ofList name)), rest)
    else none
  | _, _ => none

def readGroup? (flags : Flags) (text : List Char) : Option (Token × List Char) :=
  match flags.skip text with
  | '?' :: 'P' :: '<' :: rest => readName? rest
  | '?' :: '<' :: '=' :: _ | '?' :: '<' :: '!' :: _ => none
  | '?' :: '<' :: rest => readName? rest
  | '?' :: rest =>
    match Flags.read? [] rest with
    | some (items, ':', rest) => some (.opening (.plain items), rest)
    | some ([], _, _) => none
    | some (items, _, rest) => some (.flags items, rest)
    | none => none
  | text => some (.opening .capture, text)

def takeDigits (flags : Flags) : Bool → List Char → List Char × List Char
  | _, [] => ([], [])
  | true, c :: rest => takeDigits flags (c ≠ '\n') rest
  | false, c :: rest =>
    if c.isDigit then
      let (digits, rest) := takeDigits flags false rest
      (c :: digits, rest)
    else if flags.ignoreSpace && Named.isBlankChar c then takeDigits flags false rest
    else if flags.ignoreSpace && c = '#' then takeDigits flags true rest
    else ([], c :: rest)

def readCount (flags : Flags) (text : List Char) : Option Nat × List Char :=
  let (digits, rest) := takeDigits flags false (text.dropWhile Named.isBlankChar)
  let count := if digits.isEmpty then none
    else (Text.digits? 10 0 digits).filter (· < 0x100000000)
  (count, rest.dropWhile Named.isBlankChar)

def dropPreference : List Char → List Char
  | '?' :: rest => rest
  | text => text

def closeCount? (flags : Flags) (least : Nat) (most? : Option Nat) (text : List Char) :
    Option (Token × List Char) :=
  match text with
  | '}' :: rest =>
    if most?.all (least ≤ ·) then
      some (.repetition least most?, dropPreference (flags.skip rest))
    else none
  | _ => none

def readRepetition? (flags : Flags) (text : List Char) : Option (Token × List Char) :=
  match flags.skip text with
  | [] => none
  | text =>
    let (least?, rest) := readCount flags text
    least?.bind fun least =>
      match rest with
      | ',' :: rest =>
        match flags.skip rest with
        | '}' :: rest => closeCount? flags least none ('}' :: rest)
        | rest =>
          let (most?, rest) := readCount flags rest
          most?.bind fun most => closeCount? flags least (some most) rest
      | rest => closeCount? flags least (some least) rest

def atomOf? (flags : Flags) (primitive : Primitive) (rest : List Char) :
    Option (Token × List Char) :=
  (primitive.pattern? flags).map fun pattern => (.atom ⟨pattern, 0⟩, rest)

def read? (flags : Flags) : List Char → Option (Token × List Char)
  | [] => none
  | '(' :: rest => readGroup? flags rest
  | ')' :: rest => some (.closing, rest)
  | '|' :: rest => some (.bar, rest)
  | '[' :: rest =>
    (Bracket.read? flags rest).map fun (set, rest) => (.atom ⟨.one set.value, set.depth⟩, rest)
  | '?' :: rest => some (.repetition 0 (some 1), dropPreference rest)
  | '*' :: rest => some (.repetition 0 none, dropPreference rest)
  | '+' :: rest => some (.repetition 1 none, dropPreference rest)
  | '{' :: rest => readRepetition? flags rest
  | '\\' :: rest =>
    (Primitive.readEscape? flags rest).bind fun (primitive, rest) => atomOf? flags primitive rest
  | '.' :: rest => atomOf? flags .dot rest
  | '^' :: rest => atomOf? flags .lineStart rest
  | '$' :: rest => atomOf? flags .lineEnd rest
  | c :: rest => atomOf? flags (.literal c false) rest

end Token

-- A part of a sequence; a change of flags takes a place in it but cannot be
-- repeated.
structure Item where
  pattern : Nested Pattern
  repeatable : Bool

structure Parenthesis where
  outerFlags : Flags
  captures : Bool

def Parenthesis.around (parenthesis : Parenthesis) (inner : Nested Pattern) : Nested Pattern :=
  ⟨if parenthesis.captures then .captured inner.value else inner.value, inner.depth + 1⟩

structure Group where
  branches : List (Nested Pattern)
  items : List Item
  parenthesis : Parenthesis

namespace Group

def start (outerFlags : Flags) (captures : Bool) : Group := ⟨[], [], ⟨outerFlags, captures⟩⟩

def sequence (items : List Item) : Nested Pattern :=
  match items with
  | [] => ⟨.empty, 0⟩
  | [item] => item.pattern
  | items =>
    ⟨items.foldl (fun behind item => .cat item.pattern.value behind) .empty,
      1 + (items.map (·.pattern.depth)).foldl max 0⟩

def finish (group : Group) : Nested Pattern :=
  let last := sequence group.items
  match group.branches with
  | [] => last
  | branches =>
    ⟨branches.foldl (fun behind branch => .alt branch.value behind) last.value,
      1 + max last.depth ((branches.map (·.depth)).foldl max 0)⟩

end Group

structure Reading where
  flags : Flags
  names : List String
  group : Group
  outer : List Group

namespace Reading

def start : Reading := ⟨.default, [], .start .default false, []⟩

def addItem (state : Reading) (item : Item) : Reading :=
  { state with group := { state.group with items := item :: state.group.items } }

def openGroup? (state : Reading) : GroupKind → Option Reading
  | .capture =>
    some { state with group := .start state.flags true, outer := state.group :: state.outer }
  | .named name =>
    if state.names.contains name then none
    else
      some { state with
        names := name :: state.names
        group := .start state.flags true
        outer := state.group :: state.outer }
  | .plain items =>
    some { state with
      flags := state.flags.apply items
      group := .start state.flags false
      outer := state.group :: state.outer }

def closeGroup? (state : Reading) : Option Reading :=
  match state.outer with
  | [] => none
  | group :: outer =>
    let item : Item := ⟨state.group.parenthesis.around state.group.finish, true⟩
    some { state with
      flags := state.group.parenthesis.outerFlags
      group := { group with items := item :: group.items }
      outer := outer }

def repeatLast? (state : Reading) (least : Nat) (most? : Option Nat) : Option Reading :=
  match state.group.items with
  | ⟨pattern, true⟩ :: items =>
    let item : Item := ⟨⟨.repeated pattern.value least most?, pattern.depth + 1⟩, true⟩
    some { state with group := { state.group with items := item :: items } }
  | _ => none

def feed? (state : Reading) : Token → Option Reading
  | .opening kind => state.openGroup? kind
  | .flags items =>
    some { state.addItem ⟨⟨.empty, 0⟩, false⟩ with flags := state.flags.apply items }
  | .closing => state.closeGroup?
  | .bar =>
    some { state with
      group := { state.group with
        branches := Group.sequence state.group.items :: state.group.branches
        items := [] } }
  | .repetition least most? => state.repeatLast? least most?
  | .atom pattern => some (state.addItem ⟨pattern, true⟩)

-- Reads on to the end of the text. Every token takes at least one character, so
-- the length of the text is fuel enough.
def run? : Nat → Reading → List Char → Option Reading
  | fuel, state, text =>
    match state.flags.skip text with
    | [] => some state
    | text =>
      match fuel with
      | 0 => none
      | fuel + 1 =>
        (Token.read? state.flags text).bind fun (token, rest) =>
          (state.feed? token).bind fun state => run? fuel state rest

end Reading

def depthLimit : Nat := 250

-- What comes after the parser: it turns down patterns that are too large for it
-- once they are compiled.
class Engine where
  fits : Pattern → Bool

def parse? [Engine] (text : String) : Option Pattern :=
  (Reading.run? text.length .start text.toList).bind fun state =>
    if state.outer.isEmpty then
      let result := state.group.finish
      if result.depth ≤ depthLimit ∧ Engine.fits result.value then some result.value else none
    else none

end RequestSpans.Pattern
