import MachineCode.BitField

/-!
The immediate fields of the instruction formats, named after the formats that hold them.
-/
namespace MachineCode.Riscv.Field

def i : BitField := { pieces := [⟨0, 12, 20⟩], bits := 12, signed := true }

def s : BitField := { pieces := [⟨0, 5, 7⟩, ⟨5, 7, 25⟩], bits := 12, signed := true }

def b : BitField :=
  { pieces := [⟨1, 4, 8⟩, ⟨5, 6, 25⟩, ⟨11, 1, 7⟩, ⟨12, 1, 31⟩], bits := 13, signed := true,
    scale := 1 }

def u : BitField := { pieces := [⟨12, 20, 12⟩], bits := 32, signed := true, scale := 12 }

def j : BitField :=
  { pieces := [⟨1, 10, 21⟩, ⟨11, 1, 20⟩, ⟨12, 8, 12⟩, ⟨20, 1, 31⟩], bits := 21, signed := true,
    scale := 1 }

def shamt5 : BitField := { pieces := [⟨0, 5, 20⟩], bits := 5 }

def shamt6 : BitField := { pieces := [⟨0, 6, 20⟩], bits := 6 }

def zimm : BitField := { pieces := [⟨0, 5, 15⟩], bits := 5 }

def csr : BitField := { pieces := [⟨0, 12, 20⟩], bits := 12 }

def ci : BitField := { pieces := [⟨5, 1, 12⟩, ⟨0, 5, 2⟩], bits := 6, signed := true }

def ciNonzero : BitField := { ci with nonzero := true }

def cShamt5 : BitField := { pieces := [⟨5, 1, 12⟩, ⟨0, 5, 2⟩], bits := 5, nonzero := true }

def cShamt6 : BitField := { pieces := [⟨5, 1, 12⟩, ⟨0, 5, 2⟩], bits := 6, nonzero := true }

def cLui : BitField :=
  { pieces := [⟨17, 1, 12⟩, ⟨12, 5, 2⟩], bits := 18, signed := true, scale := 12,
    nonzero := true }

def c16sp : BitField :=
  { pieces := [⟨9, 1, 12⟩, ⟨4, 1, 6⟩, ⟨6, 1, 5⟩, ⟨7, 2, 3⟩, ⟨5, 1, 2⟩], bits := 10,
    signed := true, scale := 4, nonzero := true }

def c4spn : BitField :=
  { pieces := [⟨4, 2, 11⟩, ⟨6, 4, 7⟩, ⟨2, 1, 6⟩, ⟨3, 1, 5⟩], bits := 10, scale := 2,
    nonzero := true }

def cLw : BitField := { pieces := [⟨3, 3, 10⟩, ⟨2, 1, 6⟩, ⟨6, 1, 5⟩], bits := 7, scale := 2 }

def cLd : BitField := { pieces := [⟨3, 3, 10⟩, ⟨6, 2, 5⟩], bits := 8, scale := 3 }

def cLwsp : BitField := { pieces := [⟨5, 1, 12⟩, ⟨2, 3, 4⟩, ⟨6, 2, 2⟩], bits := 8, scale := 2 }

def cLdsp : BitField := { pieces := [⟨5, 1, 12⟩, ⟨3, 2, 5⟩, ⟨6, 3, 2⟩], bits := 9, scale := 3 }

def cSwsp : BitField := { pieces := [⟨2, 4, 9⟩, ⟨6, 2, 7⟩], bits := 8, scale := 2 }

def cSdsp : BitField := { pieces := [⟨3, 3, 10⟩, ⟨6, 3, 7⟩], bits := 9, scale := 3 }

def cb : BitField :=
  { pieces := [⟨8, 1, 12⟩, ⟨3, 2, 10⟩, ⟨6, 2, 5⟩, ⟨1, 2, 3⟩, ⟨5, 1, 2⟩], bits := 9,
    signed := true, scale := 1 }

def cj : BitField :=
  { pieces := [⟨11, 1, 12⟩, ⟨4, 1, 11⟩, ⟨8, 2, 9⟩, ⟨10, 1, 8⟩, ⟨6, 1, 7⟩, ⟨7, 1, 6⟩, ⟨1, 3, 3⟩,
      ⟨5, 1, 2⟩], bits := 12, signed := true, scale := 1 }

def cLbu : BitField := { pieces := [⟨0, 1, 6⟩, ⟨1, 1, 5⟩], bits := 2 }

def cLh : BitField := { pieces := [⟨1, 1, 5⟩], bits := 2, scale := 1 }

end MachineCode.Riscv.Field
