import RestService.Resource.Value

set_option autoImplicit false

namespace RestService

/-- A body on its way through the pipeline. -/
inductive Entity
  /-- No body. -/
  | empty
  /-- A body as it stands on the wire. -/
  | bytes (body : ByteArray)
  | value (v : Value)
  /-- A created entity and where it can be found. -/
  | located (location : String) (entity : Entity)

namespace Entity

def isEmpty : Entity → Bool
  | empty => true
  | bytes body => body.isEmpty
  | value v => v.isNull
  | located _ _ => false

def ofResource (r : Resource) : Entity := .value r.toValue

def ofResources (rs : List Resource) : Entity := .value (.list (rs.map Resource.toValue))

@[simp] theorem isEmpty_empty : isEmpty empty = true := rfl

@[simp] theorem isEmpty_located (location : String) (entity : Entity) :
    isEmpty (located location entity) = false := rfl

end Entity

end RestService
