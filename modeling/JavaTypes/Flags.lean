/-!
# Declaration modifiers

A bitmap of sixty-four modifiers.  The first twelve bits carry the access flags of the class file
format; bit 43 marks an interface method with a body.  Bits without a name are kept as they are.
-/

namespace JavaTypes

/-- The modifiers of a class, method or variable. -/
structure Flags where
  /-- One bit per modifier. -/
  bits : UInt64
  deriving DecidableEq, Repr

namespace Flags

/-- No modifiers. -/
def empty : Flags := ⟨0⟩

/-- The modifier at one position. -/
def bit (position : UInt64) : Flags := ⟨1 <<< position⟩

def publicFlag : Flags := bit 0
def privateFlag : Flags := bit 1
def protectedFlag : Flags := bit 2
def staticFlag : Flags := bit 3
def finalFlag : Flags := bit 4
def synchronizedFlag : Flags := bit 5
def volatileFlag : Flags := bit 6
def transientFlag : Flags := bit 7
def nativeFlag : Flags := bit 8
def interfaceFlag : Flags := bit 9
def abstractFlag : Flags := bit 10
def strictfpFlag : Flags := bit 11
/-- Marks an interface method with a body; not an access flag. -/
def defaultFlag : Flags := bit 43

/-- The named modifiers in the order of their declaration. -/
def named : List (String × Flags) :=
  [("PUBLIC", publicFlag), ("PRIVATE", privateFlag), ("PROTECTED", protectedFlag),
    ("STATIC", staticFlag), ("FINAL", finalFlag), ("SYNCHRONIZED", synchronizedFlag),
    ("VOLATILE", volatileFlag), ("TRANSIENT", transientFlag), ("NATIVE", nativeFlag),
    ("INTERFACE", interfaceFlag), ("ABSTRACT", abstractFlag), ("STRICTFP", strictfpFlag),
    ("DEFAULT", defaultFlag)]

/-- The modifiers of both. -/
def union (left right : Flags) : Flags := ⟨left.bits ||| right.bits⟩

/-- The modifiers of the first that the second lacks. -/
def remove (left right : Flags) : Flags := ⟨left.bits &&& ~~~right.bits⟩

/-- Whether all modifiers of the second are among those of the first. -/
def contains (left right : Flags) : Bool := left.bits &&& right.bits == right.bits

/-- Whether some modifier is common to both. -/
def intersects (left right : Flags) : Bool := left.bits &&& right.bits != 0

instance : Union Flags := ⟨union⟩

/-- Neither public, protected nor private. -/
def isPackagePrivate (flags : Flags) : Bool :=
  !flags.intersects (publicFlag ∪ protectedFlag ∪ privateFlag)

/-- The named modifiers that are set. -/
def names (flags : Flags) : List String :=
  (named.filter fun entry => flags.contains entry.2).map (·.1)

/-- The bits that no name stands for. -/
def unnamed (flags : Flags) : Flags :=
  named.foldl (fun rest entry => rest.remove entry.2) flags

end Flags
end JavaTypes
