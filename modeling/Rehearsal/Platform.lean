import Rehearsal.Text.Case

/-!
# Platforms

What a script can learn about the machine it runs on: the names of the operating system and the processor, in
their short spellings, and which of two families the system belongs to. A system or processor without a short
spelling goes by the name it gives itself.
-/

namespace Rehearsal

/-- How a machine names its operating system and its processor. -/
structure Platform where
  system : String
  machine : String
  deriving DecidableEq, Repr, Inhabited

namespace Platform

/-- Whether the system is of the Windows family. -/
def isWindows (p : Platform) : Bool := p.system.startsWith "win"

/-- Whether the system is of the Unix family. -/
def isUnix (p : Platform) : Bool := !p.isWindows

/-- Systems that go by the first part of their own name. -/
def namedByStart : List String := ["freebsd", "openbsd", "netbsd", "dragonfly", "aix"]

/-- The short name of the operating system. -/
def osName (p : Platform) : String :=
  if p.isWindows then "windows"
  else if p.system == "darwin" then "darwin"
  else if p.system.startsWith "linux" then "linux"
  else match namedByStart.find? fun name => p.system.startsWith name with
    | some name => name
    | none => if p.system.startsWith "sunos" then "solaris" else p.system

/-- Spellings of processors and their short names. -/
def archSpellings : List (String × String) :=
  [("x86_64", "amd64"), ("amd64", "amd64"), ("i386", "386"), ("i486", "386"), ("i586", "386"),
    ("i686", "386"), ("x86", "386"), ("aarch64", "arm64"), ("arm64", "arm64"), ("armv6l", "arm"),
    ("armv7l", "arm"), ("ppc64le", "ppc64le"), ("ppc64", "ppc64"), ("s390x", "s390x"),
    ("riscv64", "riscv64"), ("loongarch64", "loong64")]

/-- The short name of the processor. -/
def archName (p : Platform) : String :=
  let machine := lowerCase p.machine
  (archSpellings.lookup machine).getD machine

/-- The operating systems a script may ask for on any machine. -/
def knownSystems : List String :=
  ["aix", "android", "darwin", "dragonfly", "freebsd", "hurd", "illumos", "ios", "js", "linux", "nacl",
    "netbsd", "openbsd", "plan9", "solaris", "wasip1", "windows", "zos"]

/-- The processors a script may ask for on any machine. -/
def knownArchs : List String :=
  ["386", "amd64", "amd64p32", "arm", "armbe", "arm64", "arm64be", "loong64", "mips", "mipsle", "mips64",
    "mips64le", "ppc", "ppc64", "ppc64le", "riscv", "riscv64", "s390", "s390x", "sparc", "sparc64", "wasm"]

/-- The operating systems on which a file has one name only. -/
def withoutHardLinks : List String := ["android", "ios", "plan9"]

/-- Whether files can have several names. -/
def hasHardLinks (p : Platform) : Bool := !withoutHardLinks.contains p.osName

/-- Whether symbolic links can be made. Where this takes a privilege, the machine is taken to have it. -/
def hasSymbolicLinks (_ : Platform) : Bool := true

end Platform

end Rehearsal
