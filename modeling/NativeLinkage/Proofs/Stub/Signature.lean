import Mathlib.Data.List.Nodup
import NativeLinkage.Proofs.Descriptor.Inversion
import NativeLinkage.Stub

set_option autoImplicit false

namespace NativeLinkage

namespace Request
variable (r : Request) (type : MethodType)

theorem names_params_stubOfType :
    (r.stubOfType type).params.map Param.name =
      "env".toList :: "cls".toList :: (List.range type.params.length).map Stub.numberedName := by
  have hnumbered : (Stub.numbered type.params).map Param.name =
      (List.range type.params.length).map Stub.numberedName := by
    rw [Stub.numbered, List.map_map, List.range_eq_range', ← List.zipIdx_map_snd 0 type.params,
      List.map_map]
    rfl
  change "env".toList :: "cls".toList :: (Stub.numbered type.params).map Param.name = _
  rw [hnumbered]

theorem types_params_stubOfType :
    (r.stubOfType type).params.map Param.type =
      NativeType.environment :: NativeType.classHandle ::
        type.params.map FieldType.nativeType := by
  have hnumbered : (Stub.numbered type.params).map Param.type =
      type.params.map FieldType.nativeType := by
    rw [Stub.numbered, List.map_map]
    conv_rhs => rw [← List.zipIdx_map_fst 0 type.params, List.map_map]
    rfl
  change NativeType.environment :: NativeType.classHandle ::
    (Stub.numbered type.params).map Param.type = _
  rw [hnumbered]

variable {r}

end Request

end NativeLinkage
