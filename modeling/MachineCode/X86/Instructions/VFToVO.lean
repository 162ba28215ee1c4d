import MachineCode.X86.Form

/-!
Instructions from VFMADD123PD to VORPS in the order of their names, one list for each initial.
-/
namespace MachineCode.X86.Instructions

def namesVF : List Family := [
  ⟨"VFMADD123PD", [
    ⟨[0x02, 0xa8], [.vex, .autoVexL, .pref66], [.fma], none, [.ya, .ya, .wa]⟩]⟩,
  ⟨"VFMADD123PS", [
    ⟨[0x02, 0xa8], [.vex, .autoVexL, .pref66], [.fma], none, [.ya, .ya, .wa]⟩]⟩,
  ⟨"VFMADD123SD", [
    ⟨[0x02, 0xa9], [.vex, .withRexW, .pref66], [.fma], none, [.yo, .yo, .mq]⟩,
    ⟨[0x02, 0xa9], [.vex, .withRexW, .pref66], [.fma], none, [.yo, .yo, .yo]⟩]⟩,
  ⟨"VFMADD123SS", [
    ⟨[0x02, 0xa9], [.vex, .pref66], [.fma], none, [.yo, .yo, .md]⟩,
    ⟨[0x02, 0xa9], [.vex, .pref66], [.fma], none, [.yo, .yo, .yo]⟩]⟩,
  ⟨"VFMADD132PD", [
    ⟨[0x02, 0x98], [.vex, .autoVexL, .pref66], [.fma], none, [.ya, .ya, .wa]⟩]⟩,
  ⟨"VFMADD132PS", [
    ⟨[0x02, 0x98], [.vex, .autoVexL, .pref66], [.fma], none, [.ya, .ya, .wa]⟩]⟩,
  ⟨"VFMADD132SD", [
    ⟨[0x02, 0x99], [.vex, .withRexW, .pref66], [.fma], none, [.yo, .yo, .mq]⟩,
    ⟨[0x02, 0x99], [.vex, .withRexW, .pref66], [.fma], none, [.yo, .yo, .yo]⟩]⟩,
  ⟨"VFMADD132SS", [
    ⟨[0x02, 0x99], [.vex, .pref66], [.fma], none, [.yo, .yo, .md]⟩,
    ⟨[0x02, 0x99], [.vex, .pref66], [.fma], none, [.yo, .yo, .yo]⟩]⟩,
  ⟨"VFMADD213PD", [
    ⟨[0x02, 0xa8], [.vex, .autoVexL, .pref66], [.fma], none, [.ya, .ya, .wa]⟩]⟩,
  ⟨"VFMADD213PS", [
    ⟨[0x02, 0xa8], [.vex, .autoVexL, .pref66], [.fma], none, [.ya, .ya, .wa]⟩]⟩,
  ⟨"VFMADD213SD", [
    ⟨[0x02, 0xa9], [.vex, .withRexW, .pref66], [.fma], none, [.yo, .yo, .mq]⟩,
    ⟨[0x02, 0xa9], [.vex, .withRexW, .pref66], [.fma], none, [.yo, .yo, .yo]⟩]⟩,
  ⟨"VFMADD213SS", [
    ⟨[0x02, 0xa9], [.vex, .pref66], [.fma], none, [.yo, .yo, .md]⟩,
    ⟨[0x02, 0xa9], [.vex, .pref66], [.fma], none, [.yo, .yo, .yo]⟩]⟩,
  ⟨"VFMADD231PD", [
    ⟨[0x02, 0xb8], [.vex, .autoVexL, .pref66], [.fma], none, [.ya, .ya, .wa]⟩]⟩,
  ⟨"VFMADD231PS", [
    ⟨[0x02, 0xb8], [.vex, .autoVexL, .pref66], [.fma], none, [.ya, .ya, .wa]⟩]⟩,
  ⟨"VFMADD231SD", [
    ⟨[0x02, 0xb9], [.vex, .withRexW, .pref66], [.fma], none, [.yo, .yo, .mq]⟩,
    ⟨[0x02, 0xb9], [.vex, .withRexW, .pref66], [.fma], none, [.yo, .yo, .yo]⟩]⟩,
  ⟨"VFMADD231SS", [
    ⟨[0x02, 0xb9], [.vex, .pref66], [.fma], none, [.yo, .yo, .md]⟩,
    ⟨[0x02, 0xb9], [.vex, .pref66], [.fma], none, [.yo, .yo, .yo]⟩]⟩,
  ⟨"VFMADD312PD", [
    ⟨[0x02, 0x98], [.vex, .autoVexL, .pref66], [.fma], none, [.ya, .ya, .wa]⟩]⟩,
  ⟨"VFMADD312PS", [
    ⟨[0x02, 0x98], [.vex, .autoVexL, .pref66], [.fma], none, [.ya, .ya, .wa]⟩]⟩,
  ⟨"VFMADD312SD", [
    ⟨[0x02, 0x99], [.vex, .withRexW, .pref66], [.fma], none, [.yo, .yo, .mq]⟩,
    ⟨[0x02, 0x99], [.vex, .withRexW, .pref66], [.fma], none, [.yo, .yo, .yo]⟩]⟩,
  ⟨"VFMADD312SS", [
    ⟨[0x02, 0x99], [.vex, .pref66], [.fma], none, [.yo, .yo, .md]⟩,
    ⟨[0x02, 0x99], [.vex, .pref66], [.fma], none, [.yo, .yo, .yo]⟩]⟩,
  ⟨"VFMADD321PD", [
    ⟨[0x02, 0xb8], [.vex, .autoVexL, .pref66], [.fma], none, [.ya, .ya, .wa]⟩]⟩,
  ⟨"VFMADD321PS", [
    ⟨[0x02, 0xb8], [.vex, .autoVexL, .pref66], [.fma], none, [.ya, .ya, .wa]⟩]⟩,
  ⟨"VFMADD321SD", [
    ⟨[0x02, 0xb9], [.vex, .withRexW, .pref66], [.fma], none, [.yo, .yo, .mq]⟩,
    ⟨[0x02, 0xb9], [.vex, .withRexW, .pref66], [.fma], none, [.yo, .yo, .yo]⟩]⟩,
  ⟨"VFMADD321SS", [
    ⟨[0x02, 0xb9], [.vex, .pref66], [.fma], none, [.yo, .yo, .md]⟩,
    ⟨[0x02, 0xb9], [.vex, .pref66], [.fma], none, [.yo, .yo, .yo]⟩]⟩,
  ⟨"VFMADDPD", [
    ⟨[0x03, 0x69], [.vex, .autoVexL, .pref66], [.amd, .sse5], none, [.ya, .ya, .ya, .wa]⟩,
    ⟨[0x03, 0x69], [.vex, .autoVexL, .pref66], [.sse5, .amd], none, [.ya, .ya, .wa, .ya]⟩]⟩,
  ⟨"VFMADDPS", [
    ⟨[0x03, 0x68], [.vex, .autoVexL, .pref66], [.amd, .sse5], none, [.ya, .ya, .ya, .wa]⟩,
    ⟨[0x03, 0x68], [.vex, .autoVexL, .pref66], [.sse5, .amd], none, [.ya, .ya, .wa, .ya]⟩]⟩,
  ⟨"VFMADDSD", [
    ⟨[0x03, 0x6b], [.vex, .pref66], [.amd, .sse5], none, [.yo, .yo, .mq, .yo]⟩,
    ⟨[0x03, 0x6b], [.vex, .withRexW, .pref66], [.amd, .sse5], none, [.yo, .yo, .yo, .mq]⟩,
    ⟨[0x03, 0x6b], [.vex, .withRexW, .pref66], [.amd, .sse5], none, [.yo, .yo, .yo, .yo]⟩]⟩,
  ⟨"VFMADDSS", [
    ⟨[0x03, 0x6a], [.vex, .pref66], [.sse5, .amd], none, [.yo, .yo, .md, .yo]⟩,
    ⟨[0x03, 0x6a], [.vex, .withRexW, .pref66], [.sse5, .amd], none, [.yo, .yo, .yo, .md]⟩,
    ⟨[0x03, 0x6a], [.vex, .withRexW, .pref66], [.sse5, .amd], none, [.yo, .yo, .yo, .yo]⟩]⟩,
  ⟨"VFMADDSUB123PD", [
    ⟨[0x02, 0xa6], [.vex, .autoVexL, .pref66], [.fma], none, [.ya, .ya, .wa]⟩]⟩,
  ⟨"VFMADDSUB123PS", [
    ⟨[0x02, 0xa6], [.vex, .autoVexL, .pref66], [.fma], none, [.ya, .ya, .wa]⟩]⟩,
  ⟨"VFMADDSUB132PD", [
    ⟨[0x02, 0x96], [.vex, .autoVexL, .pref66], [.fma], none, [.ya, .ya, .wa]⟩]⟩,
  ⟨"VFMADDSUB132PS", [
    ⟨[0x02, 0x96], [.vex, .autoVexL, .pref66], [.fma], none, [.ya, .ya, .wa]⟩]⟩,
  ⟨"VFMADDSUB213PD", [
    ⟨[0x02, 0xa6], [.vex, .autoVexL, .pref66], [.fma], none, [.ya, .ya, .wa]⟩]⟩,
  ⟨"VFMADDSUB213PS", [
    ⟨[0x02, 0xa6], [.vex, .autoVexL, .pref66], [.fma], none, [.ya, .ya, .wa]⟩]⟩,
  ⟨"VFMADDSUB231PD", [
    ⟨[0x02, 0xb6], [.vex, .autoVexL, .pref66], [.fma], none, [.ya, .ya, .wa]⟩]⟩,
  ⟨"VFMADDSUB231PS", [
    ⟨[0x02, 0xb6], [.vex, .autoVexL, .pref66], [.fma], none, [.ya, .ya, .wa]⟩]⟩,
  ⟨"VFMADDSUB312PD", [
    ⟨[0x02, 0x96], [.vex, .autoVexL, .pref66], [.fma], none, [.ya, .ya, .wa]⟩]⟩,
  ⟨"VFMADDSUB312PS", [
    ⟨[0x02, 0x96], [.vex, .autoVexL, .pref66], [.fma], none, [.ya, .ya, .wa]⟩]⟩,
  ⟨"VFMADDSUB321PD", [
    ⟨[0x02, 0xb6], [.vex, .autoVexL, .pref66], [.fma], none, [.ya, .ya, .wa]⟩]⟩,
  ⟨"VFMADDSUB321PS", [
    ⟨[0x02, 0xb6], [.vex, .autoVexL, .pref66], [.fma], none, [.ya, .ya, .wa]⟩]⟩,
  ⟨"VFMADDSUBPD", [
    ⟨[0x03, 0x5d], [.vex, .autoVexL, .pref66], [.sse5, .amd], none, [.ya, .ya, .ya, .wa]⟩,
    ⟨[0x03, 0x5d], [.vex, .autoVexL, .pref66], [.amd, .sse5], none, [.ya, .ya, .wa, .ya]⟩]⟩,
  ⟨"VFMADDSUBPS", [
    ⟨[0x03, 0x5c], [.vex, .autoVexL, .pref66], [.sse5, .amd], none, [.ya, .ya, .ya, .wa]⟩,
    ⟨[0x03, 0x5c], [.vex, .autoVexL, .pref66], [.sse5, .amd], none, [.ya, .ya, .wa, .ya]⟩]⟩,
  ⟨"VFMSUB123PD", [
    ⟨[0x02, 0xaa], [.vex, .autoVexL, .pref66], [.fma], none, [.ya, .ya, .wa]⟩]⟩,
  ⟨"VFMSUB123PS", [
    ⟨[0x02, 0xaa], [.vex, .autoVexL, .pref66], [.fma], none, [.ya, .ya, .wa]⟩]⟩,
  ⟨"VFMSUB123SD", [
    ⟨[0x02, 0xab], [.vex, .withRexW, .pref66], [.fma], none, [.yo, .yo, .mq]⟩,
    ⟨[0x02, 0xab], [.vex, .withRexW, .pref66], [.fma], none, [.yo, .yo, .yo]⟩]⟩,
  ⟨"VFMSUB123SS", [
    ⟨[0x02, 0xab], [.vex, .pref66], [.fma], none, [.yo, .yo, .md]⟩,
    ⟨[0x02, 0xab], [.vex, .pref66], [.fma], none, [.yo, .yo, .yo]⟩]⟩,
  ⟨"VFMSUB132PD", [
    ⟨[0x02, 0x9a], [.vex, .autoVexL, .pref66], [.fma], none, [.ya, .ya, .wa]⟩]⟩,
  ⟨"VFMSUB132PS", [
    ⟨[0x02, 0x9a], [.vex, .autoVexL, .pref66], [.fma], none, [.ya, .ya, .wa]⟩]⟩,
  ⟨"VFMSUB132SD", [
    ⟨[0x02, 0x9b], [.vex, .withRexW, .pref66], [.fma], none, [.yo, .yo, .mq]⟩,
    ⟨[0x02, 0x9b], [.vex, .withRexW, .pref66], [.fma], none, [.yo, .yo, .yo]⟩]⟩,
  ⟨"VFMSUB132SS", [
    ⟨[0x02, 0x9b], [.vex, .pref66], [.fma], none, [.yo, .yo, .md]⟩,
    ⟨[0x02, 0x9b], [.vex, .pref66], [.fma], none, [.yo, .yo, .yo]⟩]⟩,
  ⟨"VFMSUB213PD", [
    ⟨[0x02, 0xaa], [.vex, .autoVexL, .pref66], [.fma], none, [.ya, .ya, .wa]⟩]⟩,
  ⟨"VFMSUB213PS", [
    ⟨[0x02, 0xaa], [.vex, .autoVexL, .pref66], [.fma], none, [.ya, .ya, .wa]⟩]⟩,
  ⟨"VFMSUB213SD", [
    ⟨[0x02, 0xab], [.vex, .withRexW, .pref66], [.fma], none, [.yo, .yo, .mq]⟩,
    ⟨[0x02, 0xab], [.vex, .withRexW, .pref66], [.fma], none, [.yo, .yo, .yo]⟩]⟩,
  ⟨"VFMSUB213SS", [
    ⟨[0x02, 0xab], [.vex, .pref66], [.fma], none, [.yo, .yo, .md]⟩,
    ⟨[0x02, 0xab], [.vex, .pref66], [.fma], none, [.yo, .yo, .yo]⟩]⟩,
  ⟨"VFMSUB231PD", [
    ⟨[0x02, 0xba], [.vex, .autoVexL, .pref66], [.fma], none, [.ya, .ya, .wa]⟩]⟩,
  ⟨"VFMSUB231PS", [
    ⟨[0x02, 0xba], [.vex, .autoVexL, .pref66], [.fma], none, [.ya, .ya, .wa]⟩]⟩,
  ⟨"VFMSUB231SD", [
    ⟨[0x02, 0xbb], [.vex, .withRexW, .pref66], [.fma], none, [.yo, .yo, .mq]⟩,
    ⟨[0x02, 0xbb], [.vex, .withRexW, .pref66], [.fma], none, [.yo, .yo, .yo]⟩]⟩,
  ⟨"VFMSUB231SS", [
    ⟨[0x02, 0xbb], [.vex, .pref66], [.fma], none, [.yo, .yo, .md]⟩,
    ⟨[0x02, 0xbb], [.vex, .pref66], [.fma], none, [.yo, .yo, .yo]⟩]⟩,
  ⟨"VFMSUB312PD", [
    ⟨[0x02, 0x9a], [.vex, .autoVexL, .pref66], [.fma], none, [.ya, .ya, .wa]⟩]⟩,
  ⟨"VFMSUB312PS", [
    ⟨[0x02, 0x9a], [.vex, .autoVexL, .pref66], [.fma], none, [.ya, .ya, .wa]⟩]⟩,
  ⟨"VFMSUB312SD", [
    ⟨[0x02, 0x9b], [.vex, .withRexW, .pref66], [.fma], none, [.yo, .yo, .mq]⟩,
    ⟨[0x02, 0x9b], [.vex, .withRexW, .pref66], [.fma], none, [.yo, .yo, .yo]⟩]⟩,
  ⟨"VFMSUB312SS", [
    ⟨[0x02, 0x9b], [.vex, .pref66], [.fma], none, [.yo, .yo, .md]⟩,
    ⟨[0x02, 0x9b], [.vex, .pref66], [.fma], none, [.yo, .yo, .yo]⟩]⟩,
  ⟨"VFMSUB321PD", [
    ⟨[0x02, 0xba], [.vex, .autoVexL, .pref66], [.fma], none, [.ya, .ya, .wa]⟩]⟩,
  ⟨"VFMSUB321PS", [
    ⟨[0x02, 0xba], [.vex, .autoVexL, .pref66], [.fma], none, [.ya, .ya, .wa]⟩]⟩,
  ⟨"VFMSUB321SD", [
    ⟨[0x02, 0xbb], [.vex, .withRexW, .pref66], [.fma], none, [.yo, .yo, .mq]⟩,
    ⟨[0x02, 0xbb], [.vex, .withRexW, .pref66], [.fma], none, [.yo, .yo, .yo]⟩]⟩,
  ⟨"VFMSUB321SS", [
    ⟨[0x02, 0xbb], [.vex, .pref66], [.fma], none, [.yo, .yo, .md]⟩,
    ⟨[0x02, 0xbb], [.vex, .pref66], [.fma], none, [.yo, .yo, .yo]⟩]⟩,
  ⟨"VFMSUBADD123PD", [
    ⟨[0x02, 0xa7], [.vex, .autoVexL, .pref66], [.fma], none, [.ya, .ya, .wa]⟩]⟩,
  ⟨"VFMSUBADD123PS", [
    ⟨[0x02, 0xa7], [.vex, .autoVexL, .pref66], [.fma], none, [.ya, .ya, .wa]⟩]⟩,
  ⟨"VFMSUBADD132PD", [
    ⟨[0x02, 0x97], [.vex, .autoVexL, .pref66], [.fma], none, [.ya, .ya, .wa]⟩]⟩,
  ⟨"VFMSUBADD132PS", [
    ⟨[0x02, 0x97], [.vex, .autoVexL, .pref66], [.fma], none, [.ya, .ya, .wa]⟩]⟩,
  ⟨"VFMSUBADD213PD", [
    ⟨[0x02, 0xa7], [.vex, .autoVexL, .pref66], [.fma], none, [.ya, .ya, .wa]⟩]⟩,
  ⟨"VFMSUBADD213PS", [
    ⟨[0x02, 0xa7], [.vex, .autoVexL, .pref66], [.fma], none, [.ya, .ya, .wa]⟩]⟩,
  ⟨"VFMSUBADD231PD", [
    ⟨[0x02, 0xb7], [.vex, .autoVexL, .pref66], [.fma], none, [.ya, .ya, .wa]⟩]⟩,
  ⟨"VFMSUBADD231PS", [
    ⟨[0x02, 0xb7], [.vex, .autoVexL, .pref66], [.fma], none, [.ya, .ya, .wa]⟩]⟩,
  ⟨"VFMSUBADD312PD", [
    ⟨[0x02, 0x97], [.vex, .autoVexL, .pref66], [.fma], none, [.ya, .ya, .wa]⟩]⟩,
  ⟨"VFMSUBADD312PS", [
    ⟨[0x02, 0x97], [.vex, .autoVexL, .pref66], [.fma], none, [.ya, .ya, .wa]⟩]⟩,
  ⟨"VFMSUBADD321PD", [
    ⟨[0x02, 0xb7], [.vex, .autoVexL, .pref66], [.fma], none, [.ya, .ya, .wa]⟩]⟩,
  ⟨"VFMSUBADD321PS", [
    ⟨[0x02, 0xb7], [.vex, .autoVexL, .pref66], [.fma], none, [.ya, .ya, .wa]⟩]⟩,
  ⟨"VFMSUBADDPD", [
    ⟨[0x03, 0x5f], [.vex, .autoVexL, .pref66], [.amd, .sse5], none, [.ya, .ya, .ya, .wa]⟩,
    ⟨[0x03, 0x5f], [.vex, .autoVexL, .pref66], [.amd, .sse5], none, [.ya, .ya, .wa, .ya]⟩]⟩,
  ⟨"VFMSUBADDPS", [
    ⟨[0x03, 0x5e], [.vex, .autoVexL, .pref66], [.amd, .sse5], none, [.ya, .ya, .ya, .wa]⟩,
    ⟨[0x03, 0x5e], [.vex, .autoVexL, .pref66], [.amd, .sse5], none, [.ya, .ya, .wa, .ya]⟩]⟩,
  ⟨"VFMSUBPD", [
    ⟨[0x03, 0x6d], [.vex, .autoVexL, .pref66], [.amd, .sse5], none, [.ya, .ya, .ya, .wa]⟩,
    ⟨[0x03, 0x6d], [.vex, .autoVexL, .pref66], [.amd, .sse5], none, [.ya, .ya, .wa, .ya]⟩]⟩,
  ⟨"VFMSUBPS", [
    ⟨[0x03, 0x6c], [.vex, .autoVexL, .pref66], [.sse5, .amd], none, [.ya, .ya, .ya, .wa]⟩,
    ⟨[0x03, 0x6c], [.vex, .autoVexL, .pref66], [.sse5, .amd], none, [.ya, .ya, .wa, .ya]⟩]⟩,
  ⟨"VFMSUBSD", [
    ⟨[0x03, 0x6f], [.vex, .pref66], [.amd, .sse5], none, [.yo, .yo, .mq, .yo]⟩,
    ⟨[0x03, 0x6f], [.vex, .withRexW, .pref66], [.sse5, .amd], none, [.yo, .yo, .yo, .mq]⟩,
    ⟨[0x03, 0x6f], [.vex, .withRexW, .pref66], [.sse5, .amd], none, [.yo, .yo, .yo, .yo]⟩]⟩,
  ⟨"VFMSUBSS", [
    ⟨[0x03, 0x6e], [.vex, .pref66], [.amd, .sse5], none, [.yo, .yo, .md, .yo]⟩,
    ⟨[0x03, 0x6e], [.vex, .withRexW, .pref66], [.amd, .sse5], none, [.yo, .yo, .yo, .md]⟩,
    ⟨[0x03, 0x6e], [.vex, .withRexW, .pref66], [.amd, .sse5], none, [.yo, .yo, .yo, .yo]⟩]⟩,
  ⟨"VFNMADD123PD", [
    ⟨[0x02, 0xac], [.vex, .autoVexL, .pref66], [.fma], none, [.ya, .ya, .wa]⟩]⟩,
  ⟨"VFNMADD123PS", [
    ⟨[0x02, 0xac], [.vex, .autoVexL, .pref66], [.fma], none, [.ya, .ya, .wa]⟩]⟩,
  ⟨"VFNMADD123SD", [
    ⟨[0x02, 0xad], [.vex, .withRexW, .pref66], [.fma], none, [.yo, .yo, .mq]⟩,
    ⟨[0x02, 0xad], [.vex, .withRexW, .pref66], [.fma], none, [.yo, .yo, .yo]⟩]⟩,
  ⟨"VFNMADD123SS", [
    ⟨[0x02, 0xad], [.vex, .pref66], [.fma], none, [.yo, .yo, .md]⟩,
    ⟨[0x02, 0xad], [.vex, .pref66], [.fma], none, [.yo, .yo, .yo]⟩]⟩,
  ⟨"VFNMADD132PD", [
    ⟨[0x02, 0x9c], [.vex, .autoVexL, .pref66], [.fma], none, [.ya, .ya, .wa]⟩]⟩,
  ⟨"VFNMADD132PS", [
    ⟨[0x02, 0x9c], [.vex, .autoVexL, .pref66], [.fma], none, [.ya, .ya, .wa]⟩]⟩,
  ⟨"VFNMADD132SD", [
    ⟨[0x02, 0x9d], [.vex, .withRexW, .pref66], [.fma], none, [.yo, .yo, .mq]⟩,
    ⟨[0x02, 0x9d], [.vex, .withRexW, .pref66], [.fma], none, [.yo, .yo, .yo]⟩]⟩,
  ⟨"VFNMADD132SS", [
    ⟨[0x02, 0x9d], [.vex, .pref66], [.fma], none, [.yo, .yo, .md]⟩,
    ⟨[0x02, 0x9d], [.vex, .pref66], [.fma], none, [.yo, .yo, .yo]⟩]⟩,
  ⟨"VFNMADD213PD", [
    ⟨[0x02, 0xac], [.vex, .autoVexL, .pref66], [.fma], none, [.ya, .ya, .wa]⟩]⟩,
  ⟨"VFNMADD213PS", [
    ⟨[0x02, 0xac], [.vex, .autoVexL, .pref66], [.fma], none, [.ya, .ya, .wa]⟩]⟩,
  ⟨"VFNMADD213SD", [
    ⟨[0x02, 0xad], [.vex, .withRexW, .pref66], [.fma], none, [.yo, .yo, .mq]⟩,
    ⟨[0x02, 0xad], [.vex, .withRexW, .pref66], [.fma], none, [.yo, .yo, .yo]⟩]⟩,
  ⟨"VFNMADD213SS", [
    ⟨[0x02, 0xad], [.vex, .pref66], [.fma], none, [.yo, .yo, .md]⟩,
    ⟨[0x02, 0xad], [.vex, .pref66], [.fma], none, [.yo, .yo, .yo]⟩]⟩,
  ⟨"VFNMADD231PD", [
    ⟨[0x02, 0xbc], [.vex, .autoVexL, .pref66], [.fma], none, [.ya, .ya, .wa]⟩]⟩,
  ⟨"VFNMADD231PS", [
    ⟨[0x02, 0xbc], [.vex, .autoVexL, .pref66], [.fma], none, [.ya, .ya, .wa]⟩]⟩,
  ⟨"VFNMADD231SD", [
    ⟨[0x02, 0xbd], [.vex, .withRexW, .pref66], [.fma], none, [.yo, .yo, .mq]⟩,
    ⟨[0x02, 0xbd], [.vex, .withRexW, .pref66], [.fma], none, [.yo, .yo, .yo]⟩]⟩,
  ⟨"VFNMADD231SS", [
    ⟨[0x02, 0xbd], [.vex, .pref66], [.fma], none, [.yo, .yo, .md]⟩,
    ⟨[0x02, 0xbd], [.vex, .pref66], [.fma], none, [.yo, .yo, .yo]⟩]⟩,
  ⟨"VFNMADD312PD", [
    ⟨[0x02, 0x9c], [.vex, .autoVexL, .pref66], [.fma], none, [.ya, .ya, .wa]⟩]⟩,
  ⟨"VFNMADD312PS", [
    ⟨[0x02, 0x9c], [.vex, .autoVexL, .pref66], [.fma], none, [.ya, .ya, .wa]⟩]⟩,
  ⟨"VFNMADD312SD", [
    ⟨[0x02, 0x9d], [.vex, .withRexW, .pref66], [.fma], none, [.yo, .yo, .mq]⟩,
    ⟨[0x02, 0x9d], [.vex, .withRexW, .pref66], [.fma], none, [.yo, .yo, .yo]⟩]⟩,
  ⟨"VFNMADD312SS", [
    ⟨[0x02, 0x9d], [.vex, .pref66], [.fma], none, [.yo, .yo, .md]⟩,
    ⟨[0x02, 0x9d], [.vex, .pref66], [.fma], none, [.yo, .yo, .yo]⟩]⟩,
  ⟨"VFNMADD321PD", [
    ⟨[0x02, 0xbc], [.vex, .autoVexL, .pref66], [.fma], none, [.ya, .ya, .wa]⟩]⟩,
  ⟨"VFNMADD321PS", [
    ⟨[0x02, 0xbc], [.vex, .autoVexL, .pref66], [.fma], none, [.ya, .ya, .wa]⟩]⟩,
  ⟨"VFNMADD321SD", [
    ⟨[0x02, 0xbd], [.vex, .withRexW, .pref66], [.fma], none, [.yo, .yo, .mq]⟩,
    ⟨[0x02, 0xbd], [.vex, .withRexW, .pref66], [.fma], none, [.yo, .yo, .yo]⟩]⟩,
  ⟨"VFNMADD321SS", [
    ⟨[0x02, 0xbd], [.vex, .pref66], [.fma], none, [.yo, .yo, .md]⟩,
    ⟨[0x02, 0xbd], [.vex, .pref66], [.fma], none, [.yo, .yo, .yo]⟩]⟩,
  ⟨"VFNMADDPD", [
    ⟨[0x03, 0x79], [.vex, .autoVexL, .pref66], [.sse5, .amd], none, [.ya, .ya, .ya, .wa]⟩,
    ⟨[0x03, 0x79], [.vex, .autoVexL, .pref66], [.amd, .sse5], none, [.ya, .ya, .wa, .ya]⟩]⟩,
  ⟨"VFNMADDPS", [
    ⟨[0x03, 0x78], [.vex, .autoVexL, .pref66], [.amd, .sse5], none, [.ya, .ya, .ya, .wa]⟩,
    ⟨[0x03, 0x78], [.vex, .autoVexL, .pref66], [.sse5, .amd], none, [.ya, .ya, .wa, .ya]⟩]⟩,
  ⟨"VFNMADDSD", [
    ⟨[0x03, 0x7b], [.vex, .pref66], [.sse5, .amd], none, [.yo, .yo, .mq, .yo]⟩,
    ⟨[0x03, 0x7b], [.vex, .withRexW, .pref66], [.amd, .sse5], none, [.yo, .yo, .yo, .mq]⟩,
    ⟨[0x03, 0x7b], [.vex, .withRexW, .pref66], [.amd, .sse5], none, [.yo, .yo, .yo, .yo]⟩]⟩,
  ⟨"VFNMADDSS", [
    ⟨[0x03, 0x7a], [.vex, .pref66], [.sse5, .amd], none, [.yo, .yo, .md, .yo]⟩,
    ⟨[0x03, 0x7a], [.vex, .withRexW, .pref66], [.amd, .sse5], none, [.yo, .yo, .yo, .md]⟩,
    ⟨[0x03, 0x7a], [.vex, .withRexW, .pref66], [.amd, .sse5], none, [.yo, .yo, .yo, .yo]⟩]⟩,
  ⟨"VFNMSUB123PD", [
    ⟨[0x02, 0xae], [.vex, .autoVexL, .pref66], [.fma], none, [.ya, .ya, .wa]⟩]⟩,
  ⟨"VFNMSUB123PS", [
    ⟨[0x02, 0xae], [.vex, .autoVexL, .pref66], [.fma], none, [.ya, .ya, .wa]⟩]⟩,
  ⟨"VFNMSUB123SD", [
    ⟨[0x02, 0xaf], [.vex, .withRexW, .pref66], [.fma], none, [.yo, .yo, .mq]⟩,
    ⟨[0x02, 0xaf], [.vex, .withRexW, .pref66], [.fma], none, [.yo, .yo, .yo]⟩]⟩,
  ⟨"VFNMSUB123SS", [
    ⟨[0x02, 0xaf], [.vex, .pref66], [.fma], none, [.yo, .yo, .md]⟩,
    ⟨[0x02, 0xaf], [.vex, .pref66], [.fma], none, [.yo, .yo, .yo]⟩]⟩,
  ⟨"VFNMSUB132PD", [
    ⟨[0x02, 0x9e], [.vex, .autoVexL, .pref66], [.fma], none, [.ya, .ya, .wa]⟩]⟩,
  ⟨"VFNMSUB132PS", [
    ⟨[0x02, 0x9e], [.vex, .autoVexL, .pref66], [.fma], none, [.ya, .ya, .wa]⟩]⟩,
  ⟨"VFNMSUB132SD", [
    ⟨[0x02, 0x9f], [.vex, .withRexW, .pref66], [.fma], none, [.yo, .yo, .mq]⟩,
    ⟨[0x02, 0x9f], [.vex, .withRexW, .pref66], [.fma], none, [.yo, .yo, .yo]⟩]⟩,
  ⟨"VFNMSUB132SS", [
    ⟨[0x02, 0x9f], [.vex, .pref66], [.fma], none, [.yo, .yo, .md]⟩,
    ⟨[0x02, 0x9f], [.vex, .pref66], [.fma], none, [.yo, .yo, .yo]⟩]⟩,
  ⟨"VFNMSUB213PD", [
    ⟨[0x02, 0xae], [.vex, .autoVexL, .pref66], [.fma], none, [.ya, .ya, .wa]⟩]⟩,
  ⟨"VFNMSUB213PS", [
    ⟨[0x02, 0xae], [.vex, .autoVexL, .pref66], [.fma], none, [.ya, .ya, .wa]⟩]⟩,
  ⟨"VFNMSUB213SD", [
    ⟨[0x02, 0xaf], [.vex, .withRexW, .pref66], [.fma], none, [.yo, .yo, .mq]⟩,
    ⟨[0x02, 0xaf], [.vex, .withRexW, .pref66], [.fma], none, [.yo, .yo, .yo]⟩]⟩,
  ⟨"VFNMSUB213SS", [
    ⟨[0x02, 0xaf], [.vex, .pref66], [.fma], none, [.yo, .yo, .md]⟩,
    ⟨[0x02, 0xaf], [.vex, .pref66], [.fma], none, [.yo, .yo, .yo]⟩]⟩,
  ⟨"VFNMSUB231PD", [
    ⟨[0x02, 0xbe], [.vex, .autoVexL, .pref66], [.fma], none, [.ya, .ya, .wa]⟩]⟩,
  ⟨"VFNMSUB231PS", [
    ⟨[0x02, 0xbe], [.vex, .autoVexL, .pref66], [.fma], none, [.ya, .ya, .wa]⟩]⟩,
  ⟨"VFNMSUB231SD", [
    ⟨[0x02, 0xbf], [.vex, .withRexW, .pref66], [.fma], none, [.yo, .yo, .mq]⟩,
    ⟨[0x02, 0xbf], [.vex, .withRexW, .pref66], [.fma], none, [.yo, .yo, .yo]⟩]⟩,
  ⟨"VFNMSUB231SS", [
    ⟨[0x02, 0xbf], [.vex, .pref66], [.fma], none, [.yo, .yo, .md]⟩,
    ⟨[0x02, 0xbf], [.vex, .pref66], [.fma], none, [.yo, .yo, .yo]⟩]⟩,
  ⟨"VFNMSUB312PD", [
    ⟨[0x02, 0x9e], [.vex, .autoVexL, .pref66], [.fma], none, [.ya, .ya, .wa]⟩]⟩,
  ⟨"VFNMSUB312PS", [
    ⟨[0x02, 0x9e], [.vex, .autoVexL, .pref66], [.fma], none, [.ya, .ya, .wa]⟩]⟩,
  ⟨"VFNMSUB312SD", [
    ⟨[0x02, 0x9f], [.vex, .withRexW, .pref66], [.fma], none, [.yo, .yo, .mq]⟩,
    ⟨[0x02, 0x9f], [.vex, .withRexW, .pref66], [.fma], none, [.yo, .yo, .yo]⟩]⟩,
  ⟨"VFNMSUB312SS", [
    ⟨[0x02, 0x9f], [.vex, .pref66], [.fma], none, [.yo, .yo, .md]⟩,
    ⟨[0x02, 0x9f], [.vex, .pref66], [.fma], none, [.yo, .yo, .yo]⟩]⟩,
  ⟨"VFNMSUB321PD", [
    ⟨[0x02, 0xbe], [.vex, .autoVexL, .pref66], [.fma], none, [.ya, .ya, .wa]⟩]⟩,
  ⟨"VFNMSUB321PS", [
    ⟨[0x02, 0xbe], [.vex, .autoVexL, .pref66], [.fma], none, [.ya, .ya, .wa]⟩]⟩,
  ⟨"VFNMSUB321SD", [
    ⟨[0x02, 0xbf], [.vex, .withRexW, .pref66], [.fma], none, [.yo, .yo, .mq]⟩,
    ⟨[0x02, 0xbf], [.vex, .withRexW, .pref66], [.fma], none, [.yo, .yo, .yo]⟩]⟩,
  ⟨"VFNMSUB321SS", [
    ⟨[0x02, 0xbf], [.vex, .pref66], [.fma], none, [.yo, .yo, .md]⟩,
    ⟨[0x02, 0xbf], [.vex, .pref66], [.fma], none, [.yo, .yo, .yo]⟩]⟩,
  ⟨"VFNMSUBPD", [
    ⟨[0x03, 0x7d], [.vex, .autoVexL, .pref66], [.amd, .sse5], none, [.ya, .ya, .ya, .wa]⟩,
    ⟨[0x03, 0x7d], [.vex, .autoVexL, .pref66], [.amd, .sse5], none, [.ya, .ya, .wa, .ya]⟩]⟩,
  ⟨"VFNMSUBPS", [
    ⟨[0x03, 0x7c], [.vex, .autoVexL, .pref66], [.sse5, .amd], none, [.ya, .ya, .ya, .wa]⟩,
    ⟨[0x03, 0x7c], [.vex, .autoVexL, .pref66], [.amd, .sse5], none, [.ya, .ya, .wa, .ya]⟩]⟩,
  ⟨"VFNMSUBSD", [
    ⟨[0x03, 0x7f], [.vex, .pref66], [.sse5, .amd], none, [.yo, .yo, .mq, .yo]⟩,
    ⟨[0x03, 0x7f], [.vex, .withRexW, .pref66], [.amd, .sse5], none, [.yo, .yo, .yo, .mq]⟩,
    ⟨[0x03, 0x7f], [.vex, .withRexW, .pref66], [.amd, .sse5], none, [.yo, .yo, .yo, .yo]⟩]⟩,
  ⟨"VFNMSUBSS", [
    ⟨[0x03, 0x7e], [.vex, .pref66], [.sse5, .amd], none, [.yo, .yo, .md, .yo]⟩,
    ⟨[0x03, 0x7e], [.vex, .withRexW, .pref66], [.sse5, .amd], none, [.yo, .yo, .yo, .md]⟩,
    ⟨[0x03, 0x7e], [.vex, .withRexW, .pref66], [.sse5, .amd], none, [.yo, .yo, .yo, .yo]⟩]⟩,
  ⟨"VFRCZPD", [
    ⟨[0x09, 0x81], [.xop, .autoVexL], [.sse5, .amd], none, [.ya, .wa]⟩]⟩,
  ⟨"VFRCZPS", [
    ⟨[0x09, 0x80], [.xop, .autoVexL], [.amd, .sse5], none, [.ya, .wa]⟩]⟩,
  ⟨"VFRCZSD", [
    ⟨[0x09, 0x83], [.xop], [.sse5, .amd], none, [.yo, .mq]⟩,
    ⟨[0x09, 0x83], [.xop], [.sse5, .amd], none, [.yo, .yo]⟩]⟩,
  ⟨"VFRCZSS", [
    ⟨[0x09, 0x82], [.xop], [.amd, .sse5], none, [.yo, .md]⟩,
    ⟨[0x09, 0x82], [.xop], [.amd, .sse5], none, [.yo, .yo]⟩]⟩]

def namesVG : List Family := [
  ⟨"VGATHERDPD", [
    ⟨[0x02, 0x92], [.vex, .autoVexL, .encMR, .pref66], [.avx2], none, [.ya, .lo, .ya]⟩]⟩,
  ⟨"VGATHERDPS", [
    ⟨[0x02, 0x92], [.vex, .autoVexL, .encMR, .pref66], [.avx2], none, [.ya, .ka, .ya]⟩]⟩,
  ⟨"VGATHERQPD", [
    ⟨[0x02, 0x93], [.vex, .autoVexL, .encMR, .pref66], [.avx2], none, [.ya, .la, .ya]⟩]⟩,
  ⟨"VGATHERQPS", [
    ⟨[0x02, 0x93], [.vex, .autoVexL, .encMR, .pref66], [.avx2], none, [.yo, .ka, .yo]⟩]⟩]

def namesVH : List Family := [
  ⟨"VHADDPD", [
    ⟨[0x01, 0x7c], [.vex, .autoVexL, .pref66], [.avx], none, [.ya, .ya, .wa]⟩]⟩,
  ⟨"VHADDPS", [
    ⟨[0x01, 0x7c], [.vex, .autoVexL, .prefF2], [.avx], none, [.ya, .ya, .wa]⟩]⟩,
  ⟨"VHSUBPD", [
    ⟨[0x01, 0x7d], [.vex, .autoVexL, .pref66], [.avx], none, [.ya, .ya, .wa]⟩]⟩,
  ⟨"VHSUBPS", [
    ⟨[0x01, 0x7d], [.vex, .autoVexL, .prefF2], [.avx], none, [.ya, .ya, .wa]⟩]⟩]

def namesVI : List Family := [
  ⟨"VINSERTF128", [
    ⟨[0x03, 0x18], [.withVexL, .vex, .pref66], [.avx], none, [.yh, .yh, .wo, .ib]⟩]⟩,
  ⟨"VINSERTI128", [
    ⟨[0x03, 0x38], [.withVexL, .vex, .pref66], [.avx2], none, [.yh, .yh, .wo, .ib]⟩]⟩,
  ⟨"VINSERTPS", [
    ⟨[0x03, 0x21], [.vex, .pref66], [.avx], none, [.yo, .yo, .md, .ib]⟩,
    ⟨[0x03, 0x21], [.vex, .pref66], [.avx], none, [.yo, .yo, .yo, .ib]⟩]⟩]

def namesVL : List Family := [
  ⟨"VLDDQU", [
    ⟨[0x01, 0xf0], [.vex, .autoVexL, .prefF2], [.avx], none, [.ya, .ma]⟩]⟩,
  ⟨"VLDMXCSR", [
    ⟨[0x01, 0xae], [.vex], [.avx], some 2, [.md]⟩]⟩,
  ⟨"VLDQQU", [
    ⟨[0x01, 0xf0], [.withVexL, .vex, .prefF2], [.avx], none, [.yh, .mh]⟩]⟩]

def namesVM : List Family := [
  ⟨"VMASKMOVDQU", [
    ⟨[0x01, 0xf7], [.vex, .pref66], [.avx], none, [.yo, .yo]⟩]⟩,
  ⟨"VMASKMOVPD", [
    ⟨[0x02, 0x2f], [.vex, .autoVexL, .encVM, .pref66], [.avx], none, [.ma, .ya, .ya]⟩,
    ⟨[0x02, 0x2d], [.vex, .autoVexL, .pref66], [.avx], none, [.ya, .ya, .ma]⟩]⟩,
  ⟨"VMASKMOVPS", [
    ⟨[0x02, 0x2e], [.vex, .autoVexL, .encVM, .pref66], [.avx], none, [.ma, .ya, .ya]⟩,
    ⟨[0x02, 0x2c], [.vex, .autoVexL, .pref66], [.avx], none, [.ya, .ya, .ma]⟩]⟩,
  ⟨"VMAXPD", [
    ⟨[0x01, 0x5f], [.vex, .autoVexL, .pref66], [.avx], none, [.ya, .ya, .wa]⟩]⟩,
  ⟨"VMAXPS", [
    ⟨[0x01, 0x5f], [.vex, .autoVexL], [.avx], none, [.ya, .ya, .wa]⟩]⟩,
  ⟨"VMAXSD", [
    ⟨[0x01, 0x5f], [.vex, .prefF2], [.avx], none, [.yo, .yo, .mq]⟩,
    ⟨[0x01, 0x5f], [.vex, .prefF2], [.avx], none, [.yo, .yo, .yo]⟩]⟩,
  ⟨"VMAXSS", [
    ⟨[0x01, 0x5f], [.vex, .prefF3], [.avx], none, [.yo, .yo, .md]⟩,
    ⟨[0x01, 0x5f], [.vex, .prefF3], [.avx], none, [.yo, .yo, .yo]⟩]⟩,
  ⟨"VMCALL", [
    ⟨[0x0f, 0x01, 0xc1], [], [.vmx], none, []⟩]⟩,
  ⟨"VMCLEAR", [
    ⟨[0x0f, 0xc7], [.pref66], [.vmx], some 6, [.mn]⟩]⟩,
  ⟨"VMFUNC", [
    ⟨[0x0f, 0x01, 0xd4], [], [.vmx], none, []⟩]⟩,
  ⟨"VMINPD", [
    ⟨[0x01, 0x5d], [.vex, .autoVexL, .pref66], [.avx], none, [.ya, .ya, .wa]⟩]⟩,
  ⟨"VMINPS", [
    ⟨[0x01, 0x5d], [.vex, .autoVexL], [.avx], none, [.ya, .ya, .wa]⟩]⟩,
  ⟨"VMINSD", [
    ⟨[0x01, 0x5d], [.vex, .prefF2], [.avx], none, [.yo, .yo, .mq]⟩,
    ⟨[0x01, 0x5d], [.vex, .prefF2], [.avx], none, [.yo, .yo, .yo]⟩]⟩,
  ⟨"VMINSS", [
    ⟨[0x01, 0x5d], [.vex, .prefF3], [.avx], none, [.yo, .yo, .md]⟩,
    ⟨[0x01, 0x5d], [.vex, .prefF3], [.avx], none, [.yo, .yo, .yo]⟩]⟩,
  ⟨"VMLAUNCH", [
    ⟨[0x0f, 0x01, 0xc2], [], [.vmx], none, []⟩]⟩,
  ⟨"VMLOAD", [
    ⟨[0x0f, 0x01, 0xda], [], [.amd, .vmx], none, []⟩]⟩,
  ⟨"VMMCALL", [
    ⟨[0x0f, 0x01, 0xd9], [], [.amd, .vmx], none, []⟩]⟩,
  ⟨"VMOVAPD", [
    ⟨[0x01, 0x28], [.vex, .autoVexL, .pref66], [.avx], none, [.ya, .wa]⟩,
    ⟨[0x01, 0x29], [.vex, .withVexL, .encMR, .pref66], [.avx], none, [.wh, .yh]⟩,
    ⟨[0x01, 0x29], [.vex, .encMR, .pref66], [.avx], none, [.wo, .yo]⟩]⟩,
  ⟨"VMOVAPS", [
    ⟨[0x01, 0x28], [.vex, .autoVexL], [.avx], none, [.ya, .wa]⟩,
    ⟨[0x01, 0x29], [.vex, .withVexL, .encMR], [.avx], none, [.wh, .yh]⟩,
    ⟨[0x01, 0x29], [.vex, .encMR], [.avx], none, [.wo, .yo]⟩]⟩,
  ⟨"VMOVD", [
    ⟨[0x01, 0x6e], [.vex, .pref66], [.avx], none, [.yo, .vd]⟩,
    ⟨[0x01, 0x7e], [.vex, .encMR, .pref66], [.avx], none, [.vd, .yo]⟩]⟩,
  ⟨"VMOVDDUP", [
    ⟨[0x01, 0x12], [.vex, .autoVexL, .prefF2], [.avx], none, [.ya, .wa]⟩,
    ⟨[0x01, 0x12], [.vex, .prefF2], [.avx], none, [.yo, .mq]⟩]⟩,
  ⟨"VMOVDQA", [
    ⟨[0x01, 0x6f], [.vex, .autoVexL, .pref66], [.avx], none, [.ya, .wa]⟩,
    ⟨[0x01, 0x7f], [.vex, .withVexL, .encMR, .pref66], [.avx], none, [.wh, .yh]⟩,
    ⟨[0x01, 0x7f], [.vex, .encMR, .pref66], [.avx], none, [.wo, .yo]⟩]⟩,
  ⟨"VMOVDQU", [
    ⟨[0x01, 0x6f], [.vex, .autoVexL, .prefF3], [.avx], none, [.ya, .wa]⟩,
    ⟨[0x01, 0x7f], [.vex, .withVexL, .encMR, .prefF3], [.avx], none, [.wh, .yh]⟩,
    ⟨[0x01, 0x7f], [.vex, .encMR, .prefF3], [.avx], none, [.wo, .yo]⟩]⟩,
  ⟨"VMOVHLPS", [
    ⟨[0x01, 0x12], [.vex], [.avx], none, [.yo, .yo, .yo]⟩]⟩,
  ⟨"VMOVHPD", [
    ⟨[0x01, 0x17], [.vex, .encMR, .pref66], [.avx], none, [.mq, .yo]⟩,
    ⟨[0x01, 0x16], [.vex, .pref66], [.avx], none, [.yo, .yo, .mq]⟩]⟩,
  ⟨"VMOVHPS", [
    ⟨[0x01, 0x17], [.vex, .encMR], [.avx], none, [.mq, .yo]⟩,
    ⟨[0x01, 0x16], [.vex], [.avx], none, [.yo, .yo, .mq]⟩]⟩,
  ⟨"VMOVLHPS", [
    ⟨[0x01, 0x16], [.vex], [.avx], none, [.yo, .yo, .yo]⟩]⟩,
  ⟨"VMOVLPD", [
    ⟨[0x01, 0x13], [.vex, .encMR, .pref66], [.avx], none, [.mq, .yo]⟩,
    ⟨[0x01, 0x12], [.vex, .pref66], [.avx], none, [.yo, .yo, .mq]⟩]⟩,
  ⟨"VMOVLPS", [
    ⟨[0x01, 0x13], [.vex, .encMR], [.avx], none, [.mq, .yo]⟩,
    ⟨[0x01, 0x12], [.vex], [.avx], none, [.yo, .yo, .mq]⟩]⟩,
  ⟨"VMOVMSKPD", [
    ⟨[0x01, 0x50], [.vex, .pref66], [.avx], none, [.ra, .ya]⟩]⟩,
  ⟨"VMOVMSKPS", [
    ⟨[0x01, 0x50], [.vex], [.avx], none, [.ra, .ya]⟩]⟩,
  ⟨"VMOVNTDQ", [
    ⟨[0x01, 0xe7], [.vex, .autoVexL, .encMR, .pref66], [.avx], none, [.ma, .ya]⟩]⟩,
  ⟨"VMOVNTDQA", [
    ⟨[0x02, 0x2a], [.vex, .autoVexL, .pref66], [.avx], none, [.ya, .ma]⟩]⟩,
  ⟨"VMOVNTPD", [
    ⟨[0x01, 0x2b], [.vex, .autoVexL, .encMR, .pref66], [.avx], none, [.ma, .ya]⟩]⟩,
  ⟨"VMOVNTPS", [
    ⟨[0x01, 0x2b], [.vex, .autoVexL, .encMR], [.avx], none, [.ma, .ya]⟩]⟩,
  ⟨"VMOVNTQQ", [
    ⟨[0x01, 0xe7], [.withVexL, .vex, .encMR, .pref66], [.avx], none, [.mh, .yh]⟩]⟩,
  ⟨"VMOVQ", [
    ⟨[0x01, 0xd6], [.vex, .encMR, .pref66], [.avx], none, [.mq, .yo]⟩,
    ⟨[0x01, 0x7e], [.vex, .prefF3], [.avx], none, [.yo, .mq]⟩,
    ⟨[0x01, 0x6e], [.withRexW, .vex, .pref66], [.avx], none, [.yo, .vq]⟩,
    ⟨[0x01, 0x7e], [.vex, .prefF3], [.avx], none, [.yo, .yo]⟩,
    ⟨[0x01, 0xd6], [.vex, .encMR, .pref66], [.avx], none, [.yo, .yo]⟩,
    ⟨[0x01, 0x7e], [.withRexW, .vex, .encMR, .pref66], [.avx], none, [.vq, .yo]⟩]⟩,
  ⟨"VMOVQQA", [
    ⟨[0x01, 0x6f], [.withVexL, .vex, .pref66], [.avx], none, [.yh, .wh]⟩,
    ⟨[0x01, 0x7f], [.withVexL, .vex, .encMR, .pref66], [.avx], none, [.wh, .yh]⟩]⟩,
  ⟨"VMOVQQU", [
    ⟨[0x01, 0x6f], [.withVexL, .vex, .prefF3], [.avx], none, [.yh, .wh]⟩,
    ⟨[0x01, 0x7f], [.withVexL, .vex, .encMR, .prefF3], [.avx], none, [.wh, .yh]⟩]⟩,
  ⟨"VMOVSD", [
    ⟨[0x01, 0x11], [.vex, .encMR, .prefF2], [.avx], none, [.mq, .yo]⟩,
    ⟨[0x01, 0x10], [.vex, .prefF2], [.avx], none, [.yo, .mq]⟩,
    ⟨[0x01, 0x10], [.vex, .prefF2], [.avx], none, [.yo, .yo, .yo]⟩,
    ⟨[0x01, 0x11], [.vex, .encVM, .prefF2], [.avx], none, [.yo, .yo, .yo]⟩]⟩,
  ⟨"VMOVSHDUP", [
    ⟨[0x01, 0x16], [.vex, .autoVexL, .prefF3], [.avx], none, [.ya, .wa]⟩]⟩,
  ⟨"VMOVSLDUP", [
    ⟨[0x01, 0x12], [.vex, .autoVexL, .prefF3], [.avx], none, [.ya, .wa]⟩]⟩,
  ⟨"VMOVSS", [
    ⟨[0x01, 0x11], [.vex, .encMR, .prefF3], [.avx], none, [.md, .yo]⟩,
    ⟨[0x01, 0x10], [.vex, .prefF3], [.avx], none, [.yo, .md]⟩,
    ⟨[0x01, 0x10], [.vex, .prefF3], [.avx], none, [.yo, .yo, .yo]⟩,
    ⟨[0x01, 0x11], [.vex, .encVM, .prefF3], [.avx], none, [.yo, .yo, .yo]⟩]⟩,
  ⟨"VMOVUPD", [
    ⟨[0x01, 0x10], [.vex, .autoVexL, .pref66], [.avx], none, [.ya, .wa]⟩,
    ⟨[0x01, 0x11], [.vex, .withVexL, .encMR, .pref66], [.avx], none, [.wh, .yh]⟩,
    ⟨[0x01, 0x11], [.vex, .encMR, .pref66], [.avx], none, [.wo, .yo]⟩]⟩,
  ⟨"VMOVUPS", [
    ⟨[0x01, 0x10], [.vex, .autoVexL], [.avx], none, [.ya, .wa]⟩,
    ⟨[0x01, 0x11], [.vex, .withVexL, .encMR], [.avx], none, [.wh, .yh]⟩,
    ⟨[0x01, 0x11], [.vex, .encMR], [.avx], none, [.wo, .yo]⟩]⟩,
  ⟨"VMPSADBW", [
    ⟨[0x03, 0x42], [.vex, .autoVexL, .encMR, .pref66], [.avx], none, [.ya, .ya, .wa, .ib]⟩]⟩,
  ⟨"VMPTRLD", [
    ⟨[0x0f, 0xc7], [], [.vmx], some 6, [.mn]⟩]⟩,
  ⟨"VMPTRST", [
    ⟨[0x0f, 0xc7], [], [.vmx], some 7, [.mn]⟩]⟩,
  ⟨"VMREAD", [
    ⟨[0x0f, 0x78], [.encMR], [.vmx], none, [.vq, .rq]⟩]⟩,
  ⟨"VMRESUME", [
    ⟨[0x0f, 0x01, 0xc3], [], [.vmx], none, []⟩]⟩,
  ⟨"VMRUN", [
    ⟨[0x0f, 0x01, 0xd8], [], [.amd, .vmx], none, []⟩]⟩,
  ⟨"VMSAVE", [
    ⟨[0x0f, 0x01, 0xdb], [], [.vmx, .amd], none, []⟩]⟩,
  ⟨"VMULPD", [
    ⟨[0x01, 0x59], [.vex, .autoVexL, .pref66], [.avx], none, [.ya, .ya, .wa]⟩]⟩,
  ⟨"VMULPS", [
    ⟨[0x01, 0x59], [.vex, .autoVexL], [.avx], none, [.ya, .ya, .wa]⟩]⟩,
  ⟨"VMULSD", [
    ⟨[0x01, 0x59], [.vex, .prefF2], [.avx], none, [.yo, .yo, .mq]⟩,
    ⟨[0x01, 0x59], [.vex, .prefF2], [.avx], none, [.yo, .yo, .yo]⟩]⟩,
  ⟨"VMULSS", [
    ⟨[0x01, 0x59], [.vex, .prefF3], [.avx], none, [.yo, .yo, .md]⟩,
    ⟨[0x01, 0x59], [.vex, .prefF3], [.avx], none, [.yo, .yo, .yo]⟩]⟩,
  ⟨"VMWRITE", [
    ⟨[0x0f, 0x79], [], [.vmx], none, [.rq, .vq]⟩]⟩,
  ⟨"VMXOFF", [
    ⟨[0x0f, 0x01, 0xc4], [], [.vmx], none, []⟩]⟩,
  ⟨"VMXON", [
    ⟨[0x0f, 0xc7], [.prefF3], [.vmx], some 6, [.mn]⟩]⟩]

def namesVO : List Family := [
  ⟨"VORPD", [
    ⟨[0x01, 0x56], [.vex, .autoVexL, .pref66], [.avx], none, [.ya, .ya, .wa]⟩]⟩,
  ⟨"VORPS", [
    ⟨[0x01, 0x56], [.vex, .autoVexL], [.avx], none, [.ya, .ya, .wa]⟩]⟩]

def vfToVO : List Family :=
  namesVF ++ namesVG ++ namesVH ++ namesVI ++ namesVL ++ namesVM ++ namesVO

end MachineCode.X86.Instructions
