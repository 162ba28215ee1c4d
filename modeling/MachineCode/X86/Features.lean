import MachineCode.Text.Words
import MachineCode.Text.Messages

/-!
Sets of processor features as words with one bit each. A set is written as names joined by bars
and read back with commas or spaces as well.
-/
namespace MachineCode.X86

inductive Feature where
  | fpu
  | mmx
  | tdnow
  | sse
  | sse2
  | sse3
  | vmx
  | ssse3
  | sse4a
  | sse41
  | sse42
  | sse5
  | avx
  | avx2
  | fma
  | bmi1
  | bmi2
  | tbm
  | rtm
  | invpcid
  | mpx
  | sha
  | prefetchwt1
  | cyrix
  | amd
  deriving DecidableEq, Repr

namespace Feature

/-- The features in the order of their bits, the first of which is bit one. -/
def all : List Feature :=
  [fpu, mmx, tdnow, sse, sse2, sse3, vmx, ssse3, sse4a, sse41, sse42, sse5, avx, avx2, fma, bmi1,
    bmi2, tbm, rtm, invpcid, mpx, sha, prefetchwt1, cyrix, amd]

def name : Feature → String
  | fpu => "FPU"
  | mmx => "MMX"
  | tdnow => "TDNOW"
  | sse => "SSE"
  | sse2 => "SSE2"
  | sse3 => "SSE3"
  | vmx => "VMX"
  | ssse3 => "SSSE3"
  | sse4a => "SSE4A"
  | sse41 => "SSE41"
  | sse42 => "SSE42"
  | sse5 => "SSE5"
  | avx => "AVX"
  | avx2 => "AVX2"
  | fma => "FMA"
  | bmi1 => "BMI1"
  | bmi2 => "BMI2"
  | tbm => "TBM"
  | rtm => "RTM"
  | invpcid => "INVPCID"
  | mpx => "MPX"
  | sha => "SHA"
  | prefetchwt1 => "PREFETCHWT1"
  | cyrix => "CYRIX"
  | amd => "AMD"

def bit (f : Feature) : BitVec 32 := 1 <<< (all.idxOf f + 1)

end Feature

/-- A set of features. Bits without a feature are kept but have no name. -/
structure Features where
  bits : BitVec 32
  deriving DecidableEq, Repr

namespace Features

def empty : Features := ⟨0⟩

def everything : Features := ⟨BitVec.allOnes 32⟩

def ofList (fs : List Feature) : Features := ⟨fs.foldl (fun w f => w ||| f.bit) 0⟩

def includes (f g : Features) : Bool := f.bits &&& g.bits == g.bits

def union (f g : Features) : Features := ⟨f.bits ||| g.bits⟩

def without (f g : Features) : Features := ⟨f.bits &&& ~~~g.bits⟩

def implicit : String := "X64_IMPLICIT"

/-- The name of the word itself: that of a single feature or of the empty set. -/
def single (f : Features) : String :=
  if f.bits = 0 then implicit else ((Feature.all.find? (·.bit == f.bits)).map (·.name)).getD ""

def render (f : Features) : String :=
  if f.bits = 0 then implicit
  else if f = everything then "ALL"
  else
    String.intercalate "|" ((Feature.all.filter fun g => f.bits &&& g.bit != 0).map (·.name))

def fields (s : String) : List String :=
  go [] s.toList
where
  emit (word : List Char) (rest : List String) : List String :=
    if word.isEmpty then rest else String.ofList word.reverse :: rest
  go (word : List Char) : List Char → List String
    | [] => emit word []
    | c :: cs => if c == '|' || c == ',' || c == ' ' then emit word (go [] cs) else go (c :: word) cs

def ofName? (name : String) : Option Features :=
  if name == "ALL" then some everything
  else if name == implicit then some empty
  else (Feature.all.find? (·.name == name)).map fun f => ⟨f.bit⟩

/-- Reads a set; the error is the first name that is unknown. -/
def parse (s : String) : Except String Features :=
  (fields s).foldlM
    (fun f word =>
      let name := Text.toUpper word
      match ofName? name with
      | some g => .ok (f.union g)
      | none => .error name)
    empty

def unknownMessage (name : String) : String := "unknown CPU feature " ++ Text.quoted name

end Features

end MachineCode.X86
