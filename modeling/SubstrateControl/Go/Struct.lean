import SubstrateControl.Go.Decode

/-!
# Structs as they are decoded

* `Struct` — a struct type, by the names in the tags of its fields and what is decoded into each.
* `Struct.decode` — a value as a struct: each member of an object sets the field it stands for.
* `setMembers_append`, `setMembers_cons`, `setMembers_field` — an object that is written field by
  field is read field by field.
-/

set_option autoImplicit false

namespace Go

/-- Into a bool; null leaves it as it is. -/
def decodeBool (into : Bool) : JVal → Option Bool
  | .null => some into
  | .bool b => some b
  | _ => none

/-- A struct type that values are decoded into. -/
structure Struct (ρ : Type) where
  zero : ρ
  fields : List String
  /-- What a value for a field makes of a struct. -/
  setField : ρ → String → JVal → Option ρ

namespace Struct

variable {ρ : Type} (S : Struct ρ)

/-- The field a member stands for is set. -/
def setMember (r : ρ) (kv : String × JVal) : Option ρ :=
  match matchField S.fields kv.1 with
  | some field => S.setField r field kv.2
  | none => some r

def setMembers (r : ρ) (m : List (String × JVal)) : Option ρ := m.foldlM S.setMember r

/-- A value as a struct; null leaves the zero value. -/
def decode : JVal → Option ρ
  | .null => some S.zero
  | .obj m => S.setMembers S.zero m
  | _ => none

@[simp] theorem setMembers_nil (r : ρ) : S.setMembers r [] = some r := rfl

theorem setMembers_append (r : ρ) (m m' : List (String × JVal)) :
    S.setMembers r (m ++ m') = (S.setMembers r m).bind fun r => S.setMembers r m' :=
  List.foldlM_append

/-- The name of a field stands for it. -/
theorem matchField_self {fields : List String} {field : String} (h : field ∈ fields) :
    matchField fields field = some field := by
  unfold matchField
  cases hfind : fields.find? (· = field) with
  | none =>
    have hnone := List.find?_eq_none.mp hfind field h
    simp at hnone
  | some found =>
    have hfound := List.find?_some hfind
    rw [of_decide_eq_true hfound]
    rfl

variable {S}

/-- A member of the name of a field sets it. -/
theorem setMembers_field {r r' : ρ} {field : String} {v : JVal} (h : field ∈ S.fields)
    (hset : S.setField r field v = some r') : S.setMembers r [(field, v)] = some r' := by
  show (S.setMember r (field, v)).bind some = some r'
  rw [Option.bind_fun_some, setMember, matchField_self h]
  exact hset

/-- Members in a row. -/
theorem setMembers_cons {r r' : ρ} {field : String} {v : JVal} {m : List (String × JVal)}
    (h : field ∈ S.fields) (hset : S.setField r field v = some r') :
    S.setMembers r ((field, v) :: m) = S.setMembers r' m := by
  have happend := S.setMembers_append r [(field, v)] m
  rw [setMembers_field h hset] at happend
  exact happend

end Struct

end Go
