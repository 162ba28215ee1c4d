import MachineCode.Arch

/-!
Profiles: the register width, the embedded register file, and the standard extensions that an
encoder may use.
-/
namespace MachineCode.Riscv

inductive Extension where
  | m
  | a
  | f
  | d
  | c
  | zicsr
  | zifencei
  | zba
  | zbb
  | zcb
  | zcmp
  deriving DecidableEq, Repr

namespace Extension

def all : List Extension := [m, a, f, d, c, zicsr, zifencei, zba, zbb, zcb, zcmp]

def general : List Extension := [m, a, f, d, zicsr, zifencei]

def name : Extension → String
  | m => "m"
  | a => "a"
  | f => "f"
  | d => "d"
  | c => "c"
  | zicsr => "zicsr"
  | zifencei => "zifencei"
  | zba => "zba"
  | zbb => "zbb"
  | zcb => "zcb"
  | zcmp => "zcmp"

/-- One-letter extensions stand together, longer names are set off by a bar. -/
def suffix (e : Extension) : String := if e.name.length = 1 then e.name else "_" ++ e.name

def setOfName? (s : String) : Option (List Extension) :=
  if s == "g" then some general else (all.find? (·.name == s)).map ([·])

end Extension

structure Profile where
  xlen : Int
  embedded : Bool := false
  extensions : List Extension := []
  deriving DecidableEq, Repr

namespace Profile

def rv32i : Profile := ⟨32, false, []⟩
def rv32e : Profile := ⟨32, true, []⟩
def rv64i : Profile := ⟨64, false, []⟩
def rv64e : Profile := ⟨64, true, []⟩
def rv32gc : Profile := ⟨32, false, .c :: Extension.general⟩
def rv64gc : Profile := ⟨64, false, .c :: Extension.general⟩

def ofName? : String → Option Profile
  | "RV32I" => some rv32i
  | "RV32E" => some rv32e
  | "RV64I" => some rv64i
  | "RV64E" => some rv64e
  | "RV32GC" => some rv32gc
  | "RV64GC" => some rv64gc
  | _ => none

def has (p : Profile) (es : List Extension) : Bool := es.all p.extensions.contains

def enable (p : Profile) (es : List Extension) : Profile :=
  { p with extensions := p.extensions ++ es.filter (!p.extensions.contains ·) }

def disable (p : Profile) (es : List Extension) : Profile :=
  { p with extensions := p.extensions.filter (!es.contains ·) }

def is64 (p : Profile) : Bool := p.xlen = 64

def arch (p : Profile) : Arch := if p.is64 then .riscv64 else .riscv32

/-- An encoder has 32-bit or 64-bit registers, the latter unless 32 are asked for. -/
def normalize (p : Profile) : Profile := if p.xlen = 32 then p else { p with xlen := 64 }

def name (p : Profile) : String :=
  (if p.is64 then "rv64" else "rv32") ++ (if p.embedded then "e" else "i") ++
    String.join ((Extension.all.filter (p.has [·])).map (·.suffix))

end Profile

end MachineCode.Riscv
