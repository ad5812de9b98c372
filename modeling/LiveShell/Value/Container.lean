import LiveShell.Value.Compare

/-!
Mappings and sets in cells. A mapping keeps its keys in the order in which they came. A set of numbers shows
its members in the order of their slots in an open table of a power of two, which is at most three fifths full.
-/

namespace LiveShell

/-! The order of members. -/

/-- A table of slots, each free or with a hash and a member. -/
abbrev Slots := Array (Option (UInt64 × Value))

/-- How many slots after the first are tried in a row. -/
def probeRun : Nat := 9

/-- The first free slot from a place on, within a run. -/
def freeWithin (slots : Slots) : Nat → Nat → Option Nat
  | 0, _ => none
  | count + 1, place =>
      match slots[place]? with
      | some none => some place
      | some (some _) => freeWithin slots count (place + 1)
      | none => none

/-- The slot for a new member. -/
def freeSlot (slots : Slots) : Nat → UInt64 → Nat → Nat
  | 0, _, place => place
  | fuel + 1, perturb, place =>
      let run := if place + probeRun ≤ slots.size - 1 then probeRun + 1 else 1
      match freeWithin slots run place with
      | some slot => slot
      | none =>
          let perturb := perturb >>> 5
          freeSlot slots fuel perturb ((place * 5 + 1 + perturb.toNat) % slots.size)

def placeIn (slots : Slots) (hash : UInt64) (member : Value) : Slots :=
  let slot := freeSlot slots (slots.size + 64) hash (hash.toNat % slots.size)
  slots.setIfInBounds slot (some (hash, member))

/-- The size of the table for more than some number of members. -/
def tableSize (least : Nat) : Nat := max 8 (Nat.pow 2 (Nat.log2 (max least 1) + 1))

def resized (slots : Slots) (least : Nat) : Slots :=
  slots.foldl (fun larger slot => match slot with
    | some (hash, member) => placeIn larger hash member
    | none => larger) (Array.replicate (tableSize least) none)

def insertSlot (slots : Slots) (used : Nat) (hash : UInt64) (member : Value) : Slots :=
  let filled := placeIn slots hash member
  if (used + 1) * 5 < (slots.size - 1) * 3 then filled
  else resized filled (if 50000 < used + 1 then (used + 1) * 2 else (used + 1) * 4)

/-- Members in the order in which a set shows them: by slot when all hashes are known, else as they came. -/
def setOrder (members : Array Value) : Array Value :=
  match members.mapM fun member => member.stableHash?.map fun hash => (ofSigned hash, member) with
  | none => members
  | some hashed =>
      let (slots, _) := hashed.foldl (fun (slots, used) (hash, member) =>
        (insertSlot slots used hash member, used + 1)) ((Array.replicate 8 none : Slots), 0)
      slots.filterMap fun slot => slot.map (·.2)

namespace Run

/-! Mappings. -/

def keyIndex? (engine : Engine) (entries : Array (Value × Value)) (key : Value) : Run (Option Nat) := do
  requireHashable engine key
  match key with
  | .text name => return entries.findIdx? fun (known, _) => isText name known
  | key => findKey engine (entries.map (·.1)) key

/-- The value of a key in a mapping. -/
def entryAt? (engine : Engine) (address : Address) (key : Value) : Run (Option Value) := do
  let entries ← entriesAt address
  match ← keyIndex? engine entries key with
  | some index => return (entries[index]?).map (·.2)
  | none => return none

/-- Sets the value of a key. A key that is there stays as it is. -/
def setEntry (engine : Engine) (address : Address) (key value : Value) : Run Unit := do
  match key with
  | .text name => setName address name value
  | key =>
      let entries ← entriesAt address
      match ← keyIndex? engine entries key with
      | some index =>
          writeEntries address (entries.modify index fun (known, _) => (known, value))
      | none => writeEntries address (entries.push (key, value))

/-- Removes a key and gives its value. -/
def removeEntry? (engine : Engine) (address : Address) (key : Value) : Run (Option Value) := do
  let entries ← entriesAt address
  match ← keyIndex? engine entries key with
  | some index =>
      writeEntries address (entries.eraseIdxIfInBounds index)
      return (entries[index]?).map (·.2)
  | none => return none

def newDictOf (engine : Engine) (pairs : List (Value × Value)) : Run Value := do
  let address ← newDict #[]
  for (key, value) in pairs do setEntry engine address key value
  return .ref address

/-! Lists. -/

def listAt (address : Address) : Run (Array Value) := do
  match ← cellAt? address with
  | some (.list items) => return items
  | _ => return #[]

def modifyList (address : Address) (change : Array Value → Array Value) : Run Unit :=
  modify fun world =>
    { world with cells := world.cells.modify address fun cell => match cell with
        | .list items => .list (change items)
        | cell => cell }

/-! Sets. -/

def membersAt (address : Address) : Run (Array Value) := do
  match ← cellAt? address with
  | some (.set members _) => return members
  | _ => return #[]

def writeMembers (address : Address) (members : Array Value) : Run Unit :=
  modify fun world =>
    { world with cells := world.cells.modify address fun cell => match cell with
        | .set _ frozen => .set members frozen
        | cell => cell }

/-- Adds a member unless it is there. -/
def withMember (engine : Engine) (members : Array Value) (member : Value) : Run (Array Value) := do
  requireHashable engine member
  if (← findKey engine members member).isSome then return members else return members.push member

def withoutMember? (engine : Engine) (members : Array Value) (member : Value) :
    Run (Option (Array Value)) := do
  requireHashable engine member
  match ← findKey engine members member with
  | some index => return some (members.eraseIdxIfInBounds index)
  | none => return none

def setOf (engine : Engine) (values : Array Value) : Run (Array Value) := do
  let mut members := #[]
  for value in values do members ← withMember engine members value
  return members

def newSet (members : Array Value) (frozen : Bool) : Run Value := new (.set members frozen)

end Run

end LiveShell
