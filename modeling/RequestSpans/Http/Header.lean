import RequestSpans.Text.Case

set_option autoImplicit false

namespace RequestSpans

open Text (lower)

abbrev Octets := List UInt8

def octets (text : String) : Octets := text.toUTF8.data.toList

def isTokenChar (c : Char) : Bool :=
  c.isAlphanum || "!#$%&'*+-.^_`|~".toList.contains c

def isToken (text : String) : Bool := !text.toList.isEmpty && text.toList.all isTokenChar

namespace Headers

def isName (name : String) : Bool := isToken name && name.length ≤ 65535

def isSendable (octet : UInt8) : Bool := octet = 9 || 32 ≤ octet && octet ≠ 127

def isReadable (octet : UInt8) : Bool := octet = 9 || 32 ≤ octet && octet < 127

def isValue (text : String) : Bool := (octets text).all isSendable

def read? (value : Octets) : Option String :=
  if value.all isReadable then some (String.ofList (value.map Char.ofUInt8)) else none

end Headers

-- Header fields in order of arrival, under lower-case names.
structure Headers where
  fields : List (String × Octets)
deriving Repr, DecidableEq, Inhabited

namespace Headers

def empty : Headers := ⟨[]⟩

def ofTexts (fields : List (String × String)) : Headers := ⟨fields.map fun (name, text) => (lower name, octets text)⟩

def values (headers : Headers) (name : String) : List Octets :=
  (headers.fields.filter fun field => field.1 = lower name).map (·.2)

def get? (headers : Headers) (name : String) : Option Octets := (headers.values name).head?

def text? (headers : Headers) (name : String) : Option String :=
  (headers.get? name).bind read?

def append (headers : Headers) (name : String) (value : Octets) : Headers :=
  ⟨headers.fields ++ [(lower name, value)]⟩

def set (headers : Headers) (name text : String) : Headers :=
  if isName name && isValue text then
    ⟨headers.fields.filter (fun field => field.1 ≠ lower name) ++ [(lower name, octets text)]⟩
  else headers

def names (headers : Headers) : List String :=
  ((headers.fields.map (·.1)).eraseDups).mergeSort fun a b => a ≤ b

def shown (value : Octets) : String := (String.fromUTF8? ⟨value.toArray⟩).getD ""

def sorted (headers : Headers) : List (String × String) :=
  (headers.fields.mergeSort fun a b => a.1 ≤ b.1).map fun (name, value) => (name, shown value)

theorem values_set_same (headers : Headers) (name text : String)
    (hname : isName name = true) (htext : isValue text = true) :
    (headers.set name text).values name = [octets text] := by
  simp [set, values, hname, htext, List.filter_filter]

theorem values_set_other (headers : Headers) (name text other : String)
    (h : lower other ≠ lower name) :
    (headers.set name text).values other = headers.values other := by
  unfold set values
  split
  · have hne : ∀ field : String × Octets,
        (decide (field.1 = lower other) && decide (field.1 ≠ lower name))
          = decide (field.1 = lower other) := by
      intro field
      by_cases hf : field.1 = lower other
      · simp [hf, h]
      · simp [hf]
    have hlast : ¬ lower name = lower other := fun e => h e.symm
    simp only [List.filter_append, List.filter_filter, hne, List.filter_cons, List.filter_nil,
      decide_eq_true_eq, hlast, if_false, List.append_nil]
  · rfl

end Headers

end RequestSpans
