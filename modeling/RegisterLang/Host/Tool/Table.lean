import RegisterLang.Host.Shell.Program
import RegisterLang.Host.Tool.Batch
import RegisterLang.Host.Tool.Checksum
import RegisterLang.Host.Tool.Compare
import RegisterLang.Host.Tool.Concatenate
import RegisterLang.Host.Tool.Condition
import RegisterLang.Host.Tool.Convert
import RegisterLang.Host.Tool.Copy
import RegisterLang.Host.Tool.Count
import RegisterLang.Host.Tool.Difference
import RegisterLang.Host.Tool.Directory
import RegisterLang.Host.Tool.Divide
import RegisterLang.Host.Tool.Dump
import RegisterLang.Host.Tool.Edit.Run
import RegisterLang.Host.Tool.Encode
import RegisterLang.Host.Tool.Expression
import RegisterLang.Host.Tool.Extent
import RegisterLang.Host.Tool.Factor
import RegisterLang.Host.Tool.Find.Run
import RegisterLang.Host.Tool.Fold
import RegisterLang.Host.Tool.Identity
import RegisterLang.Host.Tool.Install
import RegisterLang.Host.Tool.Launch
import RegisterLang.Host.Tool.Overwrite
import RegisterLang.Host.Tool.Owner
import RegisterLang.Host.Tool.Paragraph
import RegisterLang.Host.Tool.Permission
import RegisterLang.Host.Tool.Portion
import RegisterLang.Host.Tool.Print
import RegisterLang.Host.Tool.Record.Run
import RegisterLang.Host.Tool.Relate
import RegisterLang.Host.Tool.Remove
import RegisterLang.Host.Tool.Scale
import RegisterLang.Host.Tool.Search
import RegisterLang.Host.Tool.Section
import RegisterLang.Host.Tool.Sequence
import RegisterLang.Host.Tool.Shuffle
import RegisterLang.Host.Tool.Status
import RegisterLang.Host.Tool.Temporary
import RegisterLang.Host.Tool.Translate
import RegisterLang.Host.Tool.Unique
import RegisterLang.Host.Tool.Usage

namespace RegisterLang.Tool

def plainPrograms : List (String × (List String → Tool Nat)) :=
  [("[", Condition.main true), ("arch", Identity.fixedLine "x86_64"),
    ("b2sum", Checksum.mainWith Checksum.blake2b), ("base32", Encode.mainWith (.ofArmor .base32)),
    ("base64", Encode.mainWith (.ofArmor .base64)), ("basename", BaseName.main),
    ("basenc", Encode.main), ("cat", Cat.main), ("chgrp", Owner.mainWith true),
    ("chmod", Permission.main), ("chown", Owner.mainWith false), ("cksum", Checksum.main),
    ("cmp", Compare.main), ("comm", Common.main), ("cp", Copy.main), ("csplit", Section.main),
    ("cut", Cut.main), ("date", Date.main), ("dd", Convert.main), ("diff", Differ.main),
    ("dir", Listing.mainFor { format := .columns, quoting := .escape }), ("dirname", DirName.main),
    ("du", Usage.main), ("echo", Echo.main), ("egrep", Search.mainWith "-E"),
    ("expand", Expand.main), ("expr", Expression.main), ("factor", Factor.main),
    ("false", fun _ ↦ return 1), ("fgrep", Search.mainWith "-F"), ("fmt", Paragraph.main),
    ("fold", Fold.main), ("getconf", Identity.configuration), ("grep", Search.main),
    ("groups", Identity.fixedLine userName), ("head", Head.main),
    ("hostid", Identity.fixedLine "007f0100"), ("hostname", Identity.fixedLine "localhost"),
    ("id", Identity.userAndGroups), ("install", Install.main), ("join", Join.main),
    ("kill", Kill.main), ("link", PlainLink.main), ("ln", Link.main),
    ("logname", Identity.loginName), ("ls", Listing.main),
    ("md5sum", Checksum.mainWith Checksum.md5), ("mkdir", MakeDirectory.main),
    ("mkfifo", Fifo.main), ("mknod", Fifo.mainSpecial), ("mktemp", Temporary.main),
    ("mv", Move.main), ("nl", Number.main), ("nproc", Identity.processors), ("numfmt", Scale.main),
    ("od", Dump.main), ("paste", Paste.main), ("pathchk", PathCheck.main),
    ("printenv", Environment.list), ("printf", Printf.main), ("pwd", Identity.workingDirectory),
    ("readlink", ReadLink.main), ("realpath", RealPath.main), ("rev", Reverse.lines),
    ("rm", Remove.main), ("rmdir", RemoveDirectory.main), ("seq", Sequence.main),
    ("sha1sum", Checksum.mainWith Checksum.sha1), ("sha224sum", Checksum.mainWith Checksum.sha224),
    ("sha256sum", Checksum.mainWith Checksum.sha256),
    ("sha384sum", Checksum.mainWith Checksum.sha384),
    ("sha512sum", Checksum.mainWith Checksum.sha512), ("shred", Overwrite.main),
    ("shuf", Shuffle.main), ("sleep", sleepMain), ("sort", Sort.main), ("stat", Status.main),
    ("stty", Identity.terminalSettings), ("sum", Checksum.mainSum), ("sync", Extent.syncMain),
    ("tac", Reverse.main), ("tail", Tail.main), ("tee", Tee.main), ("test", Condition.main false),
    ("touch", Touch.main), ("tr", Translate.main), ("true", fun _ ↦ return 0),
    ("truncate", Extent.main), ("tsort", TopologicalSort.main), ("tty", Identity.terminal),
    ("uname", Identity.systemName), ("unexpand", Unexpand.main), ("uniq", Unique.main),
    ("unlink", PlainLink.unlinkMain), ("users", fun _ ↦ return 0),
    ("vdir", Listing.mainFor { format := .long, quoting := .escape }), ("wc", Count.main),
    ("which", Identity.which), ("who", fun _ ↦ return 0), ("whoami", Identity.fixedLine userName),
    ("yes", Yes.main)]

def launchers (load : Loader) : List (String × (List String → Tool Nat)) :=
  [("awk", Record.main load), ("env", Environment.main load), ("find", Find.main load),
    ("mawk", Record.main load), ("nawk", Record.main load), ("nice", Nice.main load),
    ("nohup", noHangup load), ("sed", Edit.main load), ("setsid", ownSession load),
    ("split", Divide.main load), ("stdbuf", otherBuffers load), ("timeout", Timeout.main load),
    ("xargs", Batch.main load)]

def writeFailure (name : String) : Nat :=
  if ["sort", "ls", "dir", "vdir"].contains name then 2 else 1

/-- The programs by name. The depth bounds how often one starts another. -/
def programs : Nat → String → Option Executable
  | 0, _ => none
  | depth + 1, name =>
    let load := Loader.ofPrograms (programs depth)
    if ["sh", "dash", "bash"].contains name then some (Shell.program load)
    else
      ((plainPrograms.lookup name).or ((launchers load).lookup name)).map fun main ↦
        program main (writeFailure name)

def startLimit : Nat := 10000

def load : Loader := Loader.ofPrograms (programs startLimit)

end RegisterLang.Tool
