import LogTriage.Rule

/-! # Rules for the kernel log

The order of the base rules matters: where two of them match the same content, the earlier one
classifies it. Lines of error level that no rule covers are left to `unknownError`, whose match never
leaves its line and never reports a timestamp alone.
-/

namespace LogTriage.Rule

set_option autoImplicit false

def ofKernel (source message : String) (category : Category) (severity : Priority) : Rule :=
  ⟨Pattern.literal source {}, Text.ofString message, category, severity⟩

def outOfMemory : Rule :=
  ofKernel "(?:oom_kill_process.*)|(?:Out of memory.*)" "Out of memory error" .os .error

def fenceTimeout : Rule :=
  ofKernel "qcm fence wait loop timeout expired" "QCM fence timeout" .swDriver .error

def cfState : Rule :=
  ofKernel "amdgpu: Failed to disallow cf state" "Failed to disallow cf state" .swDriver .error

def gpuInit : Rule :=
  ofKernel ": Fatal error during GPU init" "Fatal error during GPU init" .swDriver .error

def pageFault : Rule :=
  ofKernel "amdgpu: \\[\\w+\\] (?:no-)?retry page fault" "amdgpu Page Fault" .swDriver .error

/-- A burst is one header line and the register lines that follow it. -/
def acaBurst : Rule :=
  ofKernel
    "Accelerator Check Architecture events logged(?:\\n[^\\n]*(?:aca entry|ACA)\\[[^\\]\\n]*\\]\\.\\w+=0x[0-9a-fA-F]+)*"
    "ACA Error" .ras .error

def correctable : Rule :=
  ofKernel "(\\d+) correctable hardware errors detected in total in (\\w+) block"
    "RAS Correctable Error" .ras .warning

def uncorrectable : Rule :=
  ofKernel "(\\d+) uncorrectable hardware errors detected in (?:total in )?(\\w+) block"
    "RAS Uncorrectable Error" .ras .critical

def kernelPanic : Rule :=
  ofKernel "Kernel panic - not syncing: (.*)" "Kernel panic" .os .critical

def kernelBug : Rule :=
  ofKernel "BUG: unable to handle (?:kernel )?(NULL pointer dereference|paging request)"
    "Kernel BUG" .os .critical

def blockDevice : Rule :=
  ofKernel "(?:blk_update_request: )?I\\/O error, dev (\\w+), sector" "Block device I/O error"
    .storage .error

def pcieAer : Rule :=
  ofKernel
    "AER: (Corrected|Uncorrected \\(\\w+\\)) error (?:message )?received(?: from|:) (\\S+)"
    "PCIe AER error" .io .error

def lnetInterfaces : Rule :=
  ofKernel "LNetError:.*ko2iblnd: No matching interfaces"
    "LNet: ko2iblnd has no matching interfaces" .io .warning

def lnetStartup : Rule :=
  ofKernel "LNetError:.*Error -\\d+ starting up LNI \\w+" "LNet: Error starting up LNI" .io .warning

def lustreNetwork : Rule :=
  ofKernel "LustreError:.*network initialisation failed" "Lustre: network initialisation failed"
    .io .warning

def kernelBase : List Rule :=
  [outOfMemory, fenceTimeout, cfState, gpuInit, pageFault, acaBurst, correctable, uncorrectable,
    kernelPanic, kernelBug, blockDevice, pcieAer, lnetInterfaces, lnetStartup, lustreNetwork]

/-- Captures the message after the level and an optional timestamp. -/
def unknownError : Rule :=
  ⟨Pattern.literal
    "^kern[ \\t]*:[ \\t]*(?:err|crit|alert|emerg)[ \\t]*:(?:[ \\t]*\\d\x7b4\x7d-\\d+-\\d+T[\\d:.,]+(?:Z|[+-]\\d+:\\d+)?(?=[ \\t]|$))?(?![ \\t]*\\d\x7b4\x7d-\\d+-\\d+T)[ \\t]*(\\S(?:.*\\S)?)[ \\t]*$"
    { multiline := true }, Text.ofString "Unknown dmesg error", .os, .warning⟩

end LogTriage.Rule
