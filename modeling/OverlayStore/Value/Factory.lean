import OverlayStore.Value.Frame

/-!
# Value factories

A factory makes values of a type from a version and a payload, or refuses them. The registry keeps
one factory for each type code; types without one, and all empty payloads, go to the default
factory, so that a deletion looks the same whatever type it was sent with.

What a factory does besides making a value is up to its monad. `createM` and `readValueM` are the
functions for factories with effects, `create` and `readValue` those for factories without.
-/

namespace OverlayStore

/-- A factory is given the type, the name that the type has now, the version and the payload. -/
abbrev FactoryM (m : Type → Type) := ValueType → String → Version → Bytes → m (Except Error Value)

/-- A factory without effects. -/
abbrev Factory := ValueType → String → Version → Bytes → Except Error Value

namespace Factory

/-- Take the payload as it is; an empty one makes the empty value. -/
def plain : Factory := fun type _ version payload =>
  if payload.isEmpty then .ok .empty else Value.new type version payload

/-- Take payloads that are UTF-8. -/
def text : Factory := fun type name version payload =>
  match Text.Utf8.decode payload with
  | .ok _ => Value.new type version payload
  | .error malformed =>
    .error (.decode s!"{type.toText name} payload is not UTF-8: {malformed.message}")

end Factory

/-- The factories of a node, by type code. The type parameter stands for whatever the factories are
called by. -/
structure FactoryRegistry (φ : Type) where
  /-- The registered factories. -/
  factories : Table UInt32 φ := .empty

namespace FactoryRegistry

variable {φ : Type}

/-- Register a factory for a type; the flag tells whether it replaced another one. The wildcard type
takes no factory. -/
def register (registry : FactoryRegistry φ) (type : ValueType) (factory : φ) :
    Except Error (Bool × FactoryRegistry φ) :=
  if type.isAny then .error (.precondition "cannot register a value factory for the ANY type")
  else .ok (registry.factories.contains type.code, ⟨registry.factories.insert type.code factory⟩)

/-- Take away the factory of a type; the flag tells whether there was one. -/
def unregister (registry : FactoryRegistry φ) (type : ValueType) : Bool × FactoryRegistry φ :=
  (registry.factories.contains type.code, ⟨registry.factories.erase type.code⟩)

/-- The factory registered for a type code. -/
def factory? (registry : FactoryRegistry φ) (code : UInt32) : Option φ :=
  registry.factories.find? code

/-- The registered factory that a payload of a type goes to, `none` for the default one. -/
def chosen? (registry : FactoryRegistry φ) (code : UInt32) (payload : Bytes) : Option φ :=
  if payload.isEmpty then none else registry.factory? code

/-- Make a value through the factory that is in charge of it. `run` says what the factories do. -/
def createM {m : Type → Type} [Monad m] (registry : FactoryRegistry φ) (run : φ → FactoryM m) :
    FactoryM m :=
  fun type name version payload =>
    match registry.chosen? type.code payload with
    | some factory => run factory type name version payload
    | none => pure (Factory.plain type name version payload)

/-- Read a value from its bytes. Bytes that are no frame leave the types alone; any frame makes its
type known. -/
def readValueM {m : Type → Type} [Monad m] (registry : FactoryRegistry φ) (run : φ → FactoryM m)
    (types : TypeRegistry) (bytes : Bytes) : m (Except Error Value × TypeRegistry) :=
  match Frame.parse bytes with
  | .error malformed => pure (.error (.decode malformed.message), types)
  | .ok frame => do
    let (type, types) := types.valueOf frame.code
    let made ← registry.createM run type (types.nameOf type) frame.version frame.payload
    return (made, types)

/-- Make a value through the factory that is in charge of it, if factories have no effects. -/
def create (registry : FactoryRegistry φ) (run : φ → Factory) : Factory :=
  registry.createM (m := Id) run

/-- Without effects, a value is made by the factory in charge or as it is. -/
theorem create_eq (registry : FactoryRegistry φ) (run : φ → Factory) (type : ValueType)
    (name : String) (version : Version) (payload : Bytes) :
    registry.create run type name version payload =
      match registry.chosen? type.code payload with
      | some factory => run factory type name version payload
      | none => Factory.plain type name version payload := by
  rw [create, createM]
  split <;> rfl

/-- Read a value from its bytes, if factories have no effects. -/
def readValue (registry : FactoryRegistry φ) (run : φ → Factory) (types : TypeRegistry)
    (bytes : Bytes) : Except Error Value × TypeRegistry :=
  registry.readValueM (m := Id) run types bytes

/-- Without effects, a frame is read with its type made known first. -/
theorem readValue_eq (registry : FactoryRegistry φ) (run : φ → Factory) (types : TypeRegistry)
    (bytes : Bytes) :
    registry.readValue run types bytes =
      match Frame.parse bytes with
      | .error malformed => (.error (.decode malformed.message), types)
      | .ok frame =>
        let (type, types) := types.valueOf frame.code
        (registry.create run type (types.nameOf type) frame.version frame.payload, types) := by
  rw [readValue, readValueM]
  split <;> rfl

end FactoryRegistry

end OverlayStore
