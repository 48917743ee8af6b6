import Gamebook.Config
import Gamebook.Proofs.JsonReading

set_option autoImplicit false

namespace Gamebook

namespace Config

inductive Stored (world : World) (path : Option String) : Fields → Prop where
  | unnamed (nowhere : pathOf? world path = none) : Stored world path []
  | file {name : String} {bytes : ByteArray} {text : String} {fields : Fields} (named : pathOf? world path = some name)
      (found : world.file name = .file bytes) (decoded : decodeText? bytes = some text)
      (read : Json.read text.toList = .ok (.obj fields)) : Stored world path fields

section Environment

variable {world : World} {name key : String} {matcher after : Fields}

end Environment

section File

variable {world : World} {path : Option String}

theorem Stored.distinct {stored : Fields} (held : Stored world path stored) : Json.Distinct (.obj stored) := by
  cases held with
  | unnamed => exact .obj List.nodup_nil (List.forall_mem_nil _)
  | file _ _ _ read => exact Json.distinct_of_read_ok read

end File

section Layers

variable {world : World} {stored : Fields} {key : String} {standard : Json}

end Layers

end Config

end Gamebook
