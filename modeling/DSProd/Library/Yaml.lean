import DSProd.Library.Number

/-!
# Values of a YAML document

What a safe reader of a configuration language makes of a document.  The keys
of a mapping are values as well.  Dates, binary data and sets are told apart
from the rest and from nothing else.
-/

namespace DSProd.Library

/-- A value as the reader of a document makes it.  A mapping has each key once. -/
inductive Yaml where
  | null
  | bool (value : Bool)
  | int (value : ℤ)
  | float (value : Number)
  | str (value : String)
  | seq (values : List Yaml)
  | map (entries : List (Yaml × Yaml))
  | other (truthy : Bool)

namespace Yaml

/-- Whether a value counts as true. -/
def truthy : Yaml → Bool
  | null => false
  | bool value => value
  | int value => value ≠ 0
  | float value => value ≠ .finite 0
  | str value => value ≠ ""
  | seq values => !values.isEmpty
  | map entries => !entries.isEmpty
  | other truthy => truthy

/-- Whether a value is a certain text. -/
def isText (text : String) : Yaml → Bool
  | str value => value = text
  | _ => false

/-- What a mapping has for a key that is a text. -/
def lookup (key : String) (entries : List (Yaml × Yaml)) : Option Yaml :=
  (entries.find? fun entry => entry.1.isText key).map Prod.snd

/-- Whether a value is a number or a text; a truth value is neither. -/
def isScalar : Yaml → Bool
  | int _ => true
  | float _ => true
  | str _ => true
  | _ => false

/-- The integers that have too many digits to be written. -/
def textRange : ℤ :=
  10 ^ 4300

/-- `str(value)` of a number or a text, given how a rational is written. -/
def text (ofRational : ℚ → String) : Yaml → Option String
  | int value => if textRange ≤ |value| then none else some (toString value)
  | float (.finite value) => some (ofRational value)
  | float .posInf => some "inf"
  | float .negInf => some "-inf"
  | float .nan => some "nan"
  | str value => some value
  | _ => none

end Yaml

end DSProd.Library
