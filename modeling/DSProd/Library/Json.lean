import DSProd.Library.Number
import Mathlib.Algebra.Order.Field.Basic
import Mathlib.Data.Rat.Floor

/-!
# Values of a JSON document

What a JSON reader of a scripting language makes of a document, and how such a
value is read on: its truth, what iterating over it gives, and its conversion
to a number.  Integers have any size; numbers beyond the range of a float
become infinite when they are written as floats, and are an error of their own
when they are integers.
-/

namespace DSProd.Library

/-- A value as the reader of a document makes it.  An object has each name once. -/
inductive Json where
  | null
  | bool (value : Bool)
  | int (value : ℤ)
  | float (value : Number)
  | str (value : String)
  | arr (values : List Json)
  | obj (entries : List (String × Json))

namespace Json

/-- Why a value is not what it is read as. -/
inductive Fault where
  | typeError
  | valueError
  | overflowError
  deriving DecidableEq

/-! ## Truth -/

/-- Whether a value counts as true. -/
def truthy : Json → Bool
  | null => false
  | bool value => value
  | int value => value ≠ 0
  | float value => value ≠ .finite 0
  | str value => value ≠ ""
  | arr values => !values.isEmpty
  | obj entries => !entries.isEmpty

/-- `object.get(name) or default`, on the entries of an object. -/
def getOr (entries : List (String × Json)) (name : String) (default : Json) : Json :=
  match entries.lookup name with
  | none => default
  | some value => if value.truthy then value else default

/-! ## Texts -/

/-- The four hexadecimal digits of a code unit. -/
def codeUnit (unit : Nat) : String :=
  let digits := Nat.toDigits 16 unit
  String.ofList ('\\' :: 'u' :: List.replicate (4 - digits.length) '0' ++ digits)

/-- A character as a writer of a document that keeps to ASCII writes it. -/
def escape (char : Char) : String :=
  match char with
  | '"' => "\\\""
  | '\\' => "\\\\"
  | '\n' => "\\n"
  | '\r' => "\\r"
  | '\t' => "\\t"
  | '\x08' => "\\b"
  | '\x0c' => "\\f"
  | char =>
      let code := char.toNat
      if 32 ≤ code ∧ code ≤ 126 then char.toString
      else if code < 0x10000 then codeUnit code
      else codeUnit (0xD800 + (code - 0x10000) / 0x400) ++
        codeUnit (0xDC00 + (code - 0x10000) % 0x400)

/-- A text as the writer of a document writes it. -/
def quote (text : String) : String :=
  "\"" ++ String.join (text.toList.map escape) ++ "\""

example : quote "a\tb" = "\"a\\tb\"" := by decide

/-- The text of a value that is one. -/
def text? : Json → Option String
  | str value => some value
  | _ => none

/-! ## Iteration -/

/-- What iterating over a value gives. -/
def iterate : Json → Except Fault (List Json)
  | arr values => .ok values
  | str value => .ok (value.toList.map fun char => str char.toString)
  | obj entries => .ok (entries.map fun entry => str entry.1)
  | _ => .error .typeError

/-- A value unpacked into two. -/
def pair (value : Json) : Except Fault (Json × Json) := do
  match ← value.iterate with
  | [first, second] => return (first, second)
  | _ => throw .valueError

/-! ## Numbers -/

/-- The integers from which a float is infinite. -/
def floatRange : ℤ :=
  2 ^ 1024 - 2 ^ 970

/-- `float(value)`, given how a text is read as a float. -/
def toFloat (ofText : String → Option Number) : Json → Except Fault Number
  | bool value => .ok (.finite (if value then 1 else 0))
  | int value => if floatRange ≤ |value| then .error .overflowError else .ok (.finite value)
  | float value => .ok value
  | str value =>
      match ofText value with
      | some number => .ok number
      | none => .error .valueError
  | _ => .error .typeError

/-- `int(value)`, given how a text is read as an integer. -/
def toInt (ofText : String → Option ℤ) : Json → Except Fault ℤ
  | bool value => .ok (if value then 1 else 0)
  | int value => .ok value
  | float (.finite value) => .ok (value.num.tdiv value.den)
  | float .nan => .error .valueError
  | float _ => .error .overflowError
  | str value =>
      match ofText value with
      | some number => .ok number
      | none => .error .valueError
  | _ => .error .typeError

/-- A rational read back with a default of its own value when it counts as
false is itself. -/
theorem getOr_float {entries : List (String × Json)} {name : String} {value : ℚ}
    (found : entries.lookup name = some (float (.finite value))) :
    getOr entries name (float (.finite 0)) = float (.finite value) := by
  rw [getOr, found]
  by_cases zero : value = 0
  · subst zero
    rfl
  · simp [truthy, zero]

theorem getOr_int {entries : List (String × Json)} {name : String} {value : ℤ}
    (found : entries.lookup name = some (int value)) :
    getOr entries name (int 0) = int value := by
  rw [getOr, found]
  by_cases zero : value = 0
  · subst zero
    rfl
  · simp [truthy, zero]

theorem getOr_arr {entries : List (String × Json)} {name : String} {values : List Json}
    (found : entries.lookup name = some (arr values)) :
    getOr entries name (arr []) = arr values := by
  rw [getOr, found]
  cases values with
  | nil => rfl
  | cons first rest => simp [truthy]

end Json

end DSProd.Library
