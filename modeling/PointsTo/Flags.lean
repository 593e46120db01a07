import PointsTo.Id

namespace PointsTo

/-- The access flags of an element of kind `κ`. -/
structure Flags (κ : Entity) where
  bits : UInt32
deriving DecidableEq, Repr, Inhabited

namespace Flags

variable {κ : Entity}

def none : Flags κ := ⟨0⟩

instance : OrOp (Flags κ) := ⟨fun f g => ⟨f.bits ||| g.bits⟩⟩

/-- Whether every flag of `g` is set in `f`. -/
def has (f g : Flags κ) : Bool := f.bits &&& g.bits = g.bits

/-- `flag` if the condition holds, no flag otherwise. -/
def onlyIf (cond : Bool) (flag : Flags κ) : Flags κ := if cond then flag else none

end Flags

abbrev ClassFlags := Flags .cls
abbrev FieldFlags := Flags .field
abbrev MethodFlags := Flags .method

namespace ClassFlags

def isPublic : ClassFlags := ⟨0x1⟩
def isFinal : ClassFlags := ⟨0x10⟩
def isInterface : ClassFlags := ⟨0x200⟩
def isAbstract : ClassFlags := ⟨0x400⟩

/-- The flags a class can have: the access and inheritance flags, and whether it is synthetic, an
annotation or an enumeration. -/
def valid : ClassFlags := ⟨0x761f⟩

/-- The flags among the given bits; bits that are no class flag are dropped. -/
def ofBits (bits : UInt32) : ClassFlags := ⟨bits &&& valid.bits⟩

end ClassFlags

namespace FieldFlags

def isStatic : FieldFlags := ⟨0x8⟩
def isFinal : FieldFlags := ⟨0x10⟩

/-- The flags a field can have: access, static, final, volatile, transient, synthetic and
enumeration constant. -/
def valid : FieldFlags := ⟨0x50df⟩

/-- The flags among the given bits; bits that are no field flag are dropped. -/
def ofBits (bits : UInt32) : FieldFlags := ⟨bits &&& valid.bits⟩

end FieldFlags

namespace MethodFlags

def isPublic : MethodFlags := ⟨0x1⟩
def isPrivate : MethodFlags := ⟨0x2⟩
def isStatic : MethodFlags := ⟨0x8⟩
def isNative : MethodFlags := ⟨0x100⟩
def isAbstract : MethodFlags := ⟨0x400⟩
def isConstructor : MethodFlags := ⟨0x10000⟩

/-- The flags a method can have: access, static, final, synchronized, bridge, variable arity,
native, abstract, synthetic and constructor. -/
def valid : MethodFlags := ⟨0x115ff⟩

/-- The flags among the given bits; bits that are no method flag are dropped. -/
def ofBits (bits : UInt32) : MethodFlags := ⟨bits &&& valid.bits⟩

end MethodFlags

end PointsTo
