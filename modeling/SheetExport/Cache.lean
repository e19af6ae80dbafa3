/-
**A cache that keeps the first value made for a key.**

Looking up a key that holds a usable value gives that value; otherwise one is made and kept, unless
making it fails, which leaves the cache as it was, or the key has a value already, which then
stays. A value that counts as absent is kept like any other, but does not spare making it again.
-/

namespace SheetExport

/-- Tells whether a cached value counts as absent. -/
class Nullable (β : Type) where
  isAbsent : β → Bool

/-- An optional value is absent if there is none. -/
instance {α : Type} : Nullable (Option α) := ⟨Option.isNone⟩

/-- The keys and their values, in the order in which they were made. -/
structure Cache (κ β : Type) where
  entries : List (κ × β)

namespace Cache

variable {κ β : Type} [DecidableEq κ]

/-- The cache without entries. -/
def empty : Cache κ β := ⟨[]⟩

/-- The value of a key. -/
def get? (c : Cache κ β) (key : κ) : Option β := c.entries.lookup key

/-- The key has a value. -/
def contains (c : Cache κ β) (key : κ) : Bool := (c.get? key).isSome

/-- The number of keys. -/
def size (c : Cache κ β) : Nat := c.entries.length

/-- The keys, in the order in which their values were made. -/
def keys (c : Cache κ β) : List κ := c.entries.map Prod.fst

/-- The value of a key unless it counts as absent. -/
def usable? [Nullable β] (c : Cache κ β) (key : κ) : Option β :=
  (c.get? key).filter fun value => !Nullable.isAbsent value

/-- The value that stays for the key when a new one was made, and the cache that holds it. -/
def publish (c : Cache κ β) (key : κ) (value : β) : β × Cache κ β :=
  match c.get? key with
  | some first => (first, c)
  | none => (value, ⟨c.entries ++ [(key, value)]⟩)

/-- The value of a key, made by running `factory` on the key if there is no usable one. -/
def getOrCreateM {ε : Type} {m : Type → Type} [Monad m] [Nullable β] (c : Cache κ β) (key : κ)
    (factory : κ → m (Except ε β)) : m (Except ε β × Cache κ β) := do
  match c.usable? key with
  | some value => return (.ok value, c)
  | none =>
    match ← factory key with
    | .error e => return (.error e, c)
    | .ok value =>
      let (kept, c') := c.publish key value
      return (.ok kept, c')

/-- The value of a key, or else what was made for it. -/
def getOrCreate {ε : Type} [Nullable β] (c : Cache κ β) (key : κ) (make : Except ε β) :
    Except ε β × Cache κ β :=
  Id.run (c.getOrCreateM key fun _ => make)

end Cache

end SheetExport
