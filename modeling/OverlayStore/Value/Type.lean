import OverlayStore.Bytes
import OverlayStore.Table

/-!
# Value types

Every value carries a type: a code of four bytes, often four letters, with a name beside it. A
registry hands out one instance for each code, so that types can be told apart by instance. The
four well-known types are pinned. All others live in a cache of bounded size, from which the type
that has been asked for longest ago is dropped. A type whose code is seen before its name is called
by a placeholder until the first real name comes in; the new name shows through every handle.
-/

namespace OverlayStore

/-- Which instance of a value type a handle denotes. -/
inductive TypeInstance where
  /-- The one instance of a well-known type. -/
  | pinned
  /-- The instance with a serial number in a numbered registry. -/
  | interned (registry serial : Nat)
  deriving DecidableEq, Repr

/-- A handle to a value type. Types are compared by code. -/
structure ValueType where
  /-- The code. -/
  code : UInt32
  /-- The instance that the handle denotes. -/
  identity : TypeInstance
  deriving DecidableEq, Repr

namespace ValueType

/-- The code of four bytes. -/
def codeOf (a b c d : Char) : UInt32 :=
  Bytes.word32 a.toUInt8 b.toUInt8 c.toUInt8 d.toUInt8

/-- The code of the wildcard type. -/
def anyCode : UInt32 := codeOf '*' '*' '*' '*'
/-- The code of plain bytes. -/
def binaryCode : UInt32 := codeOf 'B' 'I' 'N' 'A'
/-- The code of texts. -/
def textCode : UInt32 := codeOf 'T' 'E' 'X' 'T'
/-- The code of the type used in tests. -/
def testCode : UInt32 := codeOf 'T' 'E' 'S' 'T'

/-- The wildcard type, which is also the type of the empty value. -/
def any : ValueType := ⟨anyCode, .pinned⟩
/-- The type of plain bytes. -/
def binary : ValueType := ⟨binaryCode, .pinned⟩
/-- The type of texts. -/
def text : ValueType := ⟨textCode, .pinned⟩
/-- The type used in tests. -/
def test : ValueType := ⟨testCode, .pinned⟩

/-- The name of a type whose real name is not known. -/
def placeholder : String := "UNKNOWN"

/-- The name of a well-known type. -/
def wellKnownName? (code : UInt32) : Option String :=
  if code = anyCode then some "ANY"
  else if code = binaryCode then some "BINARY"
  else if code = textCode then some "TEXT"
  else if code = testCode then some "TEST"
  else none

/-- The type is the wildcard. -/
def isAny (type : ValueType) : Bool :=
  type.code = anyCode

/-- The byte is a visible ASCII character or a space. -/
def isPrintable (byte : UInt8) : Bool :=
  32 ≤ byte && byte ≤ 126

/-- The text of a code: its four characters if they are printable, else eight hexadecimal digits. -/
def codeText (code : UInt32) : String :=
  let bytes := Bytes.ofWord32 code
  if bytes.all isPrintable then String.ofList (bytes.map fun byte => Char.ofNat byte.toNat)
  else "0x" ++ Bytes.hexOfWord32 code

/-- The text of a type, given its name. -/
def toText (name : String) (type : ValueType) : String :=
  name ++ "/" ++ codeText type.code

end ValueType

/-- One registry of value types. -/
structure TypeRegistry where
  /-- The number that tells this registry from others. -/
  number : Nat := 0
  /-- How many types the cache keeps; at least one is kept whatever is asked for. -/
  capacity : Nat := 254
  /-- The names of all instances made so far, by serial number. -/
  names : List String := []
  /-- The cached codes and the serial numbers of their instances, the last used first. -/
  cached : List (UInt32 × Nat) := []

namespace TypeRegistry

/-- How many types the cache really keeps. -/
def room (registry : TypeRegistry) : Nat :=
  max registry.capacity 1

/-- The number of cached types. -/
def size (registry : TypeRegistry) : Nat :=
  registry.cached.length

/-- The name that an instance has after a request with the given name: only the placeholder gives
way, and only to a real name. -/
def refine (current requested : String) : String :=
  if current = ValueType.placeholder then requested else current

/-- The type of a code under a name, made if the cache does not have it. -/
def canonical (registry : TypeRegistry) (name : String) (code : UInt32) :
    ValueType × TypeRegistry :=
  if (ValueType.wellKnownName? code).isSome then (⟨code, .pinned⟩, registry)
  else
    match Table.findIn code registry.cached with
    | some serial =>
      (⟨code, .interned registry.number serial⟩,
        { registry with
          names := registry.names.modify serial fun current => refine current name
          cached := (code, serial) :: registry.cached.filter fun entry => entry.1 ≠ code })
    | none =>
      let serial := registry.names.length
      (⟨code, .interned registry.number serial⟩,
        { registry with
          names := registry.names ++ [name]
          cached := ((code, serial) :: registry.cached).take registry.room })

/-- The type of a code whose name is not known. -/
def valueOf (registry : TypeRegistry) (code : UInt32) : ValueType × TypeRegistry :=
  registry.canonical ValueType.placeholder code

/-- The name of an instance, if it is well known or belongs to this registry. -/
def name? (registry : TypeRegistry) (type : ValueType) : Option String :=
  match type.identity with
  | .pinned => ValueType.wellKnownName? type.code
  | .interned number serial => if number = registry.number then registry.names[serial]? else none

/-- The name that a type has now. -/
def nameOf (registry : TypeRegistry) (type : ValueType) : String :=
  (registry.name? type).getD ValueType.placeholder

end TypeRegistry

end OverlayStore
