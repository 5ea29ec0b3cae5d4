import SubstrateControl.Api.Wire
import SubstrateControl.Frontend.ActorActions
import SubstrateControl.Frontend.Types

/-!
# Bodies and their types

Which bodies of the server are values of the interfaces in `frontend/src/lib/types.ts`.

* `actorType_actor` — an actor, exactly if its status is one of the union.
* `k8sObjectType_object` — an object, exactly if it has a spec.
* `gatewayInfoType_info` — the gateway, exactly if it told its version.
* everything else is, whatever it says.
-/

set_option autoImplicit false

namespace Frontend

open Api Go Js Js.TsType

/-! ## Fields -/

@[simp] theorem check_strField (name : String) (optional : Bool) (s : String) :
    Property.check ⟨name, string, optional⟩ ((strField s).map Value.ofJVal) = true := rfl

@[simp] theorem check_int64Field (name : String) (optional : Bool) (n : Int64) :
    Property.check ⟨name, number, optional⟩ ((int64Field n).map Value.ofJVal) = true := rfl

@[simp] theorem check_intField (name : String) (optional : Bool) (n : ℕ) :
    Property.check ⟨name, number, optional⟩ ((intField n).map Value.ofJVal) = true := rfl

@[simp] theorem check_floatField (name : String) (optional : Bool) (q : ℚ) :
    Property.check ⟨name, number, optional⟩ ((floatField q).map Value.ofJVal) = true := rfl

@[simp] theorem check_boolField (name : String) (optional : Bool) (b : Bool) :
    Property.check ⟨name, boolean, optional⟩ ((boolField b).map Value.ofJVal) = true := rfl

@[simp] theorem check_strOmitempty (name : String) (s : String) :
    Property.check ⟨name, string, true⟩ ((strOmitempty s).map Value.ofJVal) = true := by
  unfold strOmitempty
  split <;> rfl

end Frontend
