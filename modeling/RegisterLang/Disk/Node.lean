import RegisterLang.Failure

namespace RegisterLang

abbrev Place := List String

inductive Device where
  | void
  | zeros
  | full
  | noise
  | terminal
  | descriptor (number : Nat)
  deriving DecidableEq, Repr

inductive Content where
  | file (bytes : ByteArray)
  | directory
  | link (target : String)
  | device (device : Device)
  | pipe (number : Nat)

inductive Permission where
  | read
  | write
  | execute
  deriving DecidableEq, Repr

def Permission.bit : Permission → Nat
  | read => 4
  | write => 2
  | execute => 1

structure Node where
  content : Content
  mode : Nat
  owned : Bool := true
  modified : Nat := 0
  accessed : Nat := 0

namespace Node

def isDirectory (n : Node) : Bool :=
  match n.content with
  | .directory => true
  | _ => false

def isFile (n : Node) : Bool :=
  match n.content with
  | .file _ => true
  | _ => false

def isLink (n : Node) : Bool :=
  match n.content with
  | .link _ => true
  | _ => false

/-- Whether the user has a permission. To its owner a node grants what it grants to owners, even if
others may do more. -/
def allows (n : Node) (p : Permission) : Bool :=
  (if n.owned then n.mode / 64 else n.mode) / p.bit % 2 = 1

def masked (mode mask : Nat) : Nat := mode - (mode &&& mask)

def newFile (mask : Nat) (bytes : ByteArray) : Node :=
  { content := .file bytes, mode := masked 438 mask }

def newDirectory (mask : Nat) : Node := { content := .directory, mode := masked 511 mask }

def newLink (target : String) : Node := { content := .link target, mode := 511 }

def programMark : List UInt8 := [127, 69, 76, 70, 2, 1, 1, 0]

def programBytes (name : String) : ByteArray := ⟨(programMark ++ name.toUTF8.toList).toArray⟩

def program? (bytes : ByteArray) : Option String :=
  if bytes.data.toList.take programMark.length = programMark then
    String.fromUTF8? (bytes.extract programMark.length bytes.size)
  else none

def programs : List String :=
  ["[", "arch", "awk", "b2sum", "base32", "base64", "basename", "basenc", "bash", "cat", "chgrp",
    "chmod", "chown", "cksum", "cmp", "comm", "cp", "csplit", "cut", "dash", "date", "dd", "diff",
    "dir", "dirname", "du", "echo", "egrep", "env", "expand", "expr", "factor", "false", "fgrep",
    "find", "fmt", "fold", "getconf", "grep", "groups", "head", "hostid", "hostname", "id",
    "install", "join", "kill", "link", "ln", "logname", "ls", "mawk", "md5sum", "mkdir", "mkfifo",
    "mknod", "mktemp", "mv", "nawk", "nice", "nl", "nohup", "nproc", "numfmt", "od", "paste",
    "pathchk", "printenv", "printf", "pwd", "readlink", "realpath", "rev", "rm", "rmdir", "sed",
    "seq", "setsid", "sh", "sha1sum", "sha224sum", "sha256sum", "sha384sum", "sha512sum", "shred",
    "shuf", "sleep", "sort", "split", "stat", "stdbuf", "stty", "sum", "sync", "tac", "tail", "tee",
    "test", "timeout", "touch", "tr", "true", "truncate", "tsort", "tty", "uname", "unexpand",
    "uniq", "unlink", "users", "vdir", "wc", "which", "who", "whoami", "xargs", "yes"]

def ofSystem (content : Content) (mode : Nat) : Node := { content, mode, owned := false }

def systemDirectory : Node := ofSystem .directory 493

def systemDevice (device : Device) : Node := ofSystem (.device device) 438

def rootDirectories : List String :=
  ["boot", "dev", "etc", "home", "media", "mnt", "opt", "proc", "run", "srv", "sys", "usr", "var"]

def deviceOf? : String → Option Device
  | "null" => some .void
  | "zero" => some .zeros
  | "full" => some .full
  | "random" | "urandom" => some .noise
  | "tty" => some .terminal
  | "stdin" => some (.descriptor 0)
  | "stdout" => some (.descriptor 1)
  | "stderr" => some (.descriptor 2)
  | _ => none

def ofSystem? : Place → Option Node
  | [] => some systemDirectory
  | [name] =>
    if rootDirectories.contains name then some systemDirectory
    else
      match name with
      | "bin" => some (ofSystem (.link "usr/bin") 511)
      | "sbin" => some (ofSystem (.link "usr/sbin") 511)
      | "lib" => some (ofSystem (.link "usr/lib") 511)
      | "root" => some (ofSystem .directory 448)
      | "tmp" => some (ofSystem .directory 1023)
      | _ => none
  | ["usr", name] =>
    if ["bin", "sbin", "lib", "local", "share", "include"].contains name then some systemDirectory
    else none
  | ["usr", "local", name] =>
    if ["bin", "sbin", "lib"].contains name then some systemDirectory else none
  | ["usr", "bin", name] =>
    if programs.contains name then some (ofSystem (.file (programBytes name)) 493) else none
  | ["dev", name] =>
    if name = "fd" then some systemDirectory else (deviceOf? name).map systemDevice
  | ["dev", "fd", number] =>
    (number.toNat?).bind fun n ↦ if n < 1024 then some (systemDevice (.descriptor n)) else none
  | ["var", "tmp"] => some (ofSystem .directory 1023)
  | ["etc", "passwd"] =>
    some (ofSystem (.file "root:x:0:0:root:/root:/bin/bash\n".toUTF8) 420)
  | _ => none

end Node

end RegisterLang
