import KernelBridge.FileFault

/-!
# File systems

A path that leaves the directory of a run leads into the files of the system around it. Of these
only those are known that every system has: the directories of its root, the devices, the
standard streams of the run under their names, and a few files that are no documents.

## Main definitions

* `Device` — files that are no contents of a disk
* `FileSystem.Entry`, `FileSystem.entry?` — what stands at a path from the root
* `FileSystem.accepts` — where files can be made
-/

namespace KernelBridge.CommandLine

/-- A file that is no contents of a disk. -/
inductive Device where
  /-- Holds nothing and takes everything. -/
  | null
  /-- Takes nothing, as if its disk were full. -/
  | full
  /-- The terminal of a run, which has none. -/
  | terminal
  | standardInput
  | standardOutput
  | standardErrors
  deriving DecidableEq, Repr

namespace FileSystem

/-- What stands at a path. -/
inductive Entry where
  | directory
  | device (device : Device)
  | file (contents : ByteArray)
  /-- Another name of what stands at a path. -/
  | link (path : List String)
  /-- Another name of the directory that the run was started in. -/
  | workingDirectory

/-- The directories, by their paths from the root. -/
def directories : List String := [
  "", "boot", "dev", "dev/mqueue", "dev/pts", "dev/shm", "etc", "home", "media", "mnt", "opt",
  "proc", "proc/self", "proc/self/fd", "proc/sys", "root", "run", "srv", "sys", "tmp", "usr",
  "usr/bin", "usr/include", "usr/lib", "usr/lib64", "usr/local", "usr/sbin", "usr/share", "var",
  "var/cache", "var/lib", "var/log", "var/tmp"]

/-- The devices, by their paths from the root. -/
def devices : List (String × Device) := [
  ("dev/null", .null),
  ("dev/full", .full),
  ("dev/tty", .terminal),
  ("dev/stdin", .standardInput),
  ("dev/stdout", .standardOutput),
  ("dev/stderr", .standardErrors),
  ("proc/self/fd/0", .standardInput),
  ("proc/self/fd/1", .standardOutput),
  ("proc/self/fd/2", .standardErrors)]

/-- The other names of directories, with their paths. -/
def links : List (String × List String) := [
  ("bin", ["usr", "bin"]),
  ("lib", ["usr", "lib"]),
  ("lib64", ["usr", "lib64"]),
  ("sbin", ["usr", "sbin"]),
  ("dev/fd", ["proc", "self", "fd"]),
  ("proc/self/root", [])]

/-- The texts, which are tables of users and of hosts. -/
def texts : List (String × String) := [
  ("etc/passwd", "root:x:0:0:root:/root:/bin/sh\n"),
  ("etc/group", "root:x:0:\n"),
  ("etc/hosts", "127.0.0.1\tlocalhost\n")]

/-- The programs, whose files are no texts. -/
def programs : List String := ["usr/bin/cat", "usr/bin/ls", "usr/bin/sh", "proc/self/exe"]

/-- The first bytes of a program, of which the last is none of any text. -/
def programBytes : ByteArray := ⟨#[0x7F, 0x45, 0x4C, 0x46, 0xFF]⟩

/-- What stands at a path from the root, if that is known. -/
def entry? (path : List String) : Option Entry :=
  let name := "/".intercalate path
  if directories.contains name then some .directory
  else if name = "proc/self/cwd" then some .workingDirectory
  else if programs.contains name then some (.file programBytes)
  else (devices.lookup name).map .device
    <|> (links.lookup name).map .link
    <|> (texts.lookup name).map fun text => .file text.toUTF8

/-- A file can be made at a path of which nothing is known. What stands among the processes is
made by the system alone. -/
def accepts (path : List String) : Bool := path.head? != some "proc"

end FileSystem

end KernelBridge.CommandLine
