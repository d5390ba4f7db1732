import Liveness.Registry.Basic

/-! # What the registry tells of its changes -/

namespace Liveness

/-- Why a device left the registry. -/
inductive RemovalReason where
  | explicit
  | expired
  | disconnected
deriving DecidableEq, Repr

namespace RemovalReason

def name : RemovalReason → String
  | .explicit => "Explicit"
  | .expired => "Expired"
  | .disconnected => "Disconnected"

def text : RemovalReason → String
  | .explicit => "explicitly removed"
  | .expired => "liveness deadline exceeded"
  | .disconnected => "connection inactive"

end RemovalReason

/-- One change of the registry, as observers hear of it. -/
inductive Notice where
  /-- A device was stored under an id, in the place of an old one if there was one. -/
  | added (id : DeviceId) (device : Device) (old : Option Device)
  | removed (id : DeviceId) (device : Device) (reason : RemovalReason)

/-- One change of the registry, as subscribers read of it. -/
inductive DeviceEvent where
  | added (id : DeviceId) (replaced : Bool)
  | removed (id : DeviceId) (reason : RemovalReason)
deriving DecidableEq, Repr

namespace Notice

def id : Notice → DeviceId
  | .added id _ _ | .removed id _ _ => id

def event : Notice → DeviceEvent
  | .added id _ old => .added id old.isSome
  | .removed id _ reason => .removed id reason

end Notice

/-- Changes of the registry counted by kind since they were last taken. -/
structure Churn where
  added : UInt64 := 0
  replaced : UInt64 := 0
  removed : UInt64 := 0
  expired : UInt64 := 0
  disconnected : UInt64 := 0
deriving DecidableEq, Repr

namespace Churn

def count (c : Churn) : Notice → Churn
  | .added _ _ none => { c with added := c.added + 1 }
  | .added _ _ (some _) => { c with replaced := c.replaced + 1 }
  | .removed _ _ .explicit => { c with removed := c.removed + 1 }
  | .removed _ _ .expired => { c with expired := c.expired + 1 }
  | .removed _ _ .disconnected => { c with disconnected := c.disconnected + 1 }

end Churn

end Liveness
