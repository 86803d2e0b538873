/-!
# Paths on the local disk

The few things the catalog does with local files: create the directories above its
database file, open that file, and read a CA bundle. A `Disk` lists the paths that
exist, each a directory or a file with its bytes; every other path is missing. Paths
are compared by their components, so repeated slashes and `.` components make no
difference.

Failures carry the operating system's error, whose text is the system's description
and number: a missing path, a file where a directory was needed, a directory where a
file was needed, or a directory to create that already is a file.
-/

set_option autoImplicit false

namespace ChartCatalog

/-- An error from the operating system. -/
inductive OsError where
  | notFound
  | notDirectory
  | isDirectory
  | alreadyExists
  deriving DecidableEq, Repr

/-- The text of an operating system error, with its number. -/
def OsError.message : OsError → String
  | .notFound => "No such file or directory (os error 2)"
  | .notDirectory => "Not a directory (os error 20)"
  | .isDirectory => "Is a directory (os error 21)"
  | .alreadyExists => "File exists (os error 17)"

/-- What a path names. -/
inductive DiskEntry where
  | directory
  | file (bytes : ByteArray)

/-- The paths that exist on a disk, by their absolute normal form. -/
structure Disk where
  entries : List (String × DiskEntry)

namespace Disk

/-- The components of a path: its names between slashes, without `.`. -/
def components (path : String) : List String :=
  (path.splitOn "/").filter fun part => !part.isEmpty && part != "."

/-- The normal form of an absolute path made of some components. -/
def normal (parts : List String) : String := "/" ++ "/".intercalate parts

/-- The entry at a path given by its components. -/
def entryAt? (disk : Disk) (parts : List String) : Option DiskEntry :=
  disk.entries.lookup (normal parts)

/-- What a path names, found by walking its components from the root: a file met
before the last component is an error, and so is a missing directory on the way. -/
def resolve (disk : Disk) (path : String) : Except OsError (Option DiskEntry) :=
  let parts := components path
  let rec walk : Nat → Except OsError (Option DiskEntry)
    | 0 => .ok (disk.entryAt? [])
    | n + 1 =>
      match walk n with
      | .ok (some .directory) => .ok (disk.entryAt? (parts.take (n + 1)))
      | .ok (some (.file _)) => .error .notDirectory
      | .ok none => .error .notFound
      | .error e => .error e
  if path.startsWith "/" then walk parts.length else .ok none

/-- The bytes of the file at a path. -/
def read (disk : Disk) (path : String) : Except OsError ByteArray :=
  match disk.resolve path with
  | .ok (some (.file bytes)) => .ok bytes
  | .ok (some .directory) => .error .isDirectory
  | .ok none => .error .notFound
  | .error e => .error e

/-- Creates a directory and the directories above it: a file in the way is an error. -/
def createDirAll (disk : Disk) (path : String) : Except OsError Unit :=
  let parts := components path
  let firstFile := (List.range parts.length).find? fun n =>
    match disk.entryAt? (parts.take (n + 1)) with
    | some (.file _) => true
    | _ => false
  if !path.startsWith "/" then .ok ()
  else match firstFile with
    | some n => if n + 1 = parts.length then .error .alreadyExists else .error .notDirectory
    | none => .ok ()

/-- Whether a path names a directory. -/
def isDirectory (disk : Disk) (path : String) : Bool :=
  match disk.resolve path with
  | .ok (some .directory) => true
  | _ => false

/-- The path above the last component, as it is written: `none` for the root and the
empty path, and the empty path for a single relative component. -/
def parent? (path : String) : Option String :=
  let trimmed := (path.toList.reverse.dropWhile (· == '/')).reverse
  if trimmed.isEmpty then none
  else
    match (trimmed.reverse.dropWhile (· != '/')) with
    | [] => some ""
    | _ :: rest =>
      let above := (rest.dropWhile (· == '/')).reverse
      if above.isEmpty then some "/" else some (String.ofList above)

/-- The disk of a Linux machine as the catalog finds it: the usual top-level
directories and a few below them, the null device, the kernel's files, and the system's
account, host and release files. None of these files holds a certificate. -/
def standard : Disk :=
  let dirs := ["/", "/bin", "/boot", "/dev", "/etc", "/home", "/lib", "/media", "/mnt",
    "/opt", "/proc", "/root", "/run", "/sbin", "/srv", "/sys", "/tmp", "/usr", "/var",
    "/usr/bin", "/usr/lib", "/usr/local", "/usr/share", "/var/lib", "/var/log", "/var/tmp"]
  let files : List (String × String) :=
    [("/proc/version", "Linux version 6.1.0\n"),
     ("/proc/cpuinfo", "processor\t: 0\n"),
     ("/proc/meminfo", "MemTotal:        1024 kB\n"),
     ("/etc/passwd", "root:x:0:0:root:/root:/bin/sh\n"),
     ("/etc/group", "root:x:0:\n"),
     ("/etc/hosts", "127.0.0.1\tlocalhost\n"),
     ("/etc/hostname", "localhost\n"),
     ("/etc/resolv.conf", "nameserver 127.0.0.1\n"),
     ("/etc/os-release", "ID=linux\n")]
  ⟨dirs.map (·, .directory) ++ [("/dev/null", .file .empty)] ++
    files.map fun (path, text) => (path, .file text.toUTF8)⟩

end Disk

end ChartCatalog
