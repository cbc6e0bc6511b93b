import OverlayStore.Value

/-!
# Value frames

The bytes of a value: four bytes of type code, two of version, two of payload length, and the
payload. All numbers have their most significant byte first. A frame holds nothing after its
payload.
-/

namespace OverlayStore

/-- The contents of a frame, before the type is looked up. -/
structure Frame where
  /-- The type code. -/
  code : UInt32
  /-- The version. -/
  version : Version
  /-- The payload. -/
  payload : Bytes
  deriving DecidableEq, Repr

namespace Frame

/-- Why some bytes are no frame. -/
inductive Malformed where
  /-- There are only this many bytes. -/
  | tooShort (count : Nat)
  /-- The declared length of the payload is not its length. -/
  | wrongLength (declared carried : Nat)
  deriving DecidableEq, Repr

/-- The wording of a malformation. -/
def Malformed.message : Malformed → String
  | .tooShort count => s!"value frame too short: {count} bytes"
  | .wrongLength declared carried =>
    s!"value frame declares {declared} payload bytes but carries {carried}"

/-- The two bytes of a number below 65536, most significant first. -/
def lengthBytes (length : Nat) : Bytes :=
  [UInt8.ofNat (length / 256), UInt8.ofNat length]

/-- The bytes of a frame. -/
def toBytes (frame : Frame) : Bytes :=
  Bytes.ofWord32 frame.code ++ [frame.version.major, frame.version.minor] ++
    lengthBytes frame.payload.length ++ frame.payload

/-- The frame that some bytes are. -/
def parse : Bytes → Except Malformed Frame
  | c0 :: c1 :: c2 :: c3 :: major :: minor :: high :: low :: payload =>
    let declared := high.toNat * 256 + low.toNat
    if payload.length = declared then
      .ok ⟨Bytes.word32 c0 c1 c2 c3, ⟨major, minor⟩, payload⟩
    else .error (.wrongLength declared payload.length)
  | bytes => .error (.tooShort bytes.length)

end Frame

/-- The frame of a value. -/
def Value.frame (value : Value) : Frame :=
  ⟨value.type.code, value.version, value.payload⟩

/-- The bytes of a value. -/
def Value.toBytes (value : Value) : Bytes :=
  value.frame.toBytes

end OverlayStore
