import DeviceTestbed.Mapping

/-!
State kept for open descriptors, up to a limit of entries.
-/

namespace DeviceTestbed

abbrev Descriptor := Int

structure DescriptorTable (State : Type) where
  limit : Nat := 1024
  states : Mapping Descriptor State := {}

namespace DescriptorTable

inductive Fault where
  | full (descriptor : Descriptor) (limit : Nat)
  | alreadyTracked (descriptor : Descriptor)
  | notTracked (descriptor : Descriptor)
  deriving DecidableEq, Repr

def Fault.message : Fault → String
  | .full descriptor limit =>
    "descriptor table full (" ++ toString limit ++ " entries), cannot track fd " ++
      toString descriptor
  | .alreadyTracked descriptor => "fd " ++ toString descriptor ++ " is already tracked"
  | .notTracked descriptor => "fd " ++ toString descriptor ++ " is not tracked"

variable {State : Type}

def get? (table : DescriptorTable State) (descriptor : Descriptor) : Option State :=
  table.states.get? descriptor

def contains (table : DescriptorTable State) (descriptor : Descriptor) : Bool :=
  table.states.contains descriptor

def size (table : DescriptorTable State) : Nat :=
  table.states.size

def isEmpty (table : DescriptorTable State) : Bool :=
  table.states.isEmpty

/-- Starts tracking. That the descriptor is tracked already is reported before a full table. -/
def add (table : DescriptorTable State) (descriptor : Descriptor) (state : State) :
    Except Fault (DescriptorTable State) :=
  if table.contains descriptor then .error (.alreadyTracked descriptor)
  else if table.limit ≤ table.size then .error (.full descriptor table.limit)
  else .ok { table with states := table.states.insert descriptor state }

def drop (table : DescriptorTable State) (descriptor : Descriptor) : DescriptorTable State :=
  { table with states := table.states.erase descriptor }

def remove (table : DescriptorTable State) (descriptor : Descriptor) :
    Except Fault (State × DescriptorTable State) :=
  match table.get? descriptor with
  | none => .error (.notTracked descriptor)
  | some state => .ok (state, table.drop descriptor)

def release (table : DescriptorTable State) (descriptor : Descriptor) :
    Except Fault (Option State × DescriptorTable State) :=
  if table.contains descriptor then
    (table.remove descriptor).map fun (state, table) => (some state, table)
  else .ok (none, table)

def modify (table : DescriptorTable State) (descriptor : Descriptor) (change : State → State) :
    DescriptorTable State :=
  { table with states := table.states.modify descriptor change }

/-- Tracks a descriptor that was just handed out. What is still known of its number belongs to one
that was closed unnoticed. -/
def restart (table : DescriptorTable State) (descriptor : Descriptor) (state : State) :
    Except Fault (DescriptorTable State) :=
  (table.drop descriptor).add descriptor state

/-- Tracks a descriptor in place, with a state that there may be a fault in. The table is left as it
is when the fault occurs: what is dropped is not put back. -/
def track {Error : Type} (table : DescriptorTable State) (descriptor : Descriptor)
    (fresh : Except Error State) (ofTable : Fault → Error) :
    Except Error Unit × DescriptorTable State :=
  match fresh with
  | .error error => (.error error, table)
  | .ok state =>
    let dropped := table.drop descriptor
    match dropped.add descriptor state with
    | .ok added => (.ok (), added)
    | .error fault => (.error (ofTable fault), dropped)

end DescriptorTable

end DeviceTestbed
