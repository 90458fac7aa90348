import RegisterLang.Host.Tool.Listing
import RegisterLang.Host.Tool.Path

namespace RegisterLang.Tool.Identity

def workingDirectory (args : List String) : Tool Nat := do
  let (found, operands) ← options
    { short := "LP", long := OptionTable.plain [("logical", "L"), ("physical", "P")] } args
  unless operands.isEmpty do complain "ignoring non-option arguments"
  let d ← Strand.disk
  let physical := placePath d.here
  let given := ((← get).environment.lookup "PWD").getD ""
  let isPlain := Disk.isAbsolute given &&
    !(Disk.names given).any fun name ↦ name = "." || name = ".."
  let leadsHere := ((d.look (Octet.toText given)).toOption.map (·.1)) = some d.here
  sayLine (if found.last? ["L", "P"] = some "L" && isPlain && leadsHere then given else physical)
  return 0

def fixedLine (line : String) (args : List String) : Tool Nat := do
  let (_, operands) ← options {} args
  if let extra :: _ := operands then extraOperand extra
  sayLine line
  return 0

def loginName (args : List String) : Tool Nat := do
  let (_, operands) ← options {} args
  if let extra :: _ := operands then extraOperand extra
  fail 1 "no login name"

def terminalSettings (args : List String) : Tool Nat := do
  let (place, rest) := match args with
    | "-F" :: path :: rest => (quotedIfNeeded path, rest)
    | _ => ("'standard input'", args)
  for arg in rest do
    if arg.startsWith "-" && !(["-a", "-g", "--all", "--save"].contains arg) &&
        arg.length ≤ 2 then
      failWithHelp 1 ("invalid argument " ++ cited arg)
  fail 1 (place ++ ": Inappropriate ioctl for device")

def terminal (args : List String) : Tool Nat := do
  let (found, operands) ← options
    { short := "s", failure := 2
      long := OptionTable.plain [("silent", "s"), ("quiet", "s")] } args
  if let extra :: _ := operands then extraOperand extra 2
  unless found.has "s" do sayLine "not a tty"
  return 1

/-- Who is at work. There is one user with one group. -/
def userAndGroups (args : List String) : Tool Nat := do
  let (found, operands) ← options
    { short := "aGgnruzZ"
      long := OptionTable.plain
        [("groups", "G"), ("group", "g"), ("name", "n"), ("real", "r"), ("user", "u"),
          ("zero", "z"), ("context", "Z")] } args
  let known := [(userName, userId), ("root", "0")]
  let wanted := if operands.isEmpty then [userName] else operands
  let kinds := ["u", "g", "G"].filter found.has
  if 1 < kinds.length then fail 1 "cannot print \"only\" of more than one choice"
  if kinds.isEmpty && (found.has "n" || found.has "r") then
    fail 1 "cannot print only names or real IDs in default format"
  let mut status := 0
  for user in wanted do
    match known.find? fun (name, id) ↦ name = user || id = user with
    | none =>
      complain (quoted user ++ ": no such user")
      status := 1
    | some (name, id) =>
      let both := id ++ "(" ++ name ++ ")"
      let mark := if found.has "z" then "\x00" else "\n"
      say ((if kinds.isEmpty then "uid=" ++ both ++ " gid=" ++ both ++ " groups=" ++ both
        else if found.has "n" then name else id) ++ mark)
  return status

def systemName (args : List String) : Tool Nat := do
  let (found, operands) ← options
    { short := "asnrvmpio"
      long := OptionTable.plain
        [("all", "a"), ("kernel-name", "s"), ("nodename", "n"), ("kernel-release", "r"),
          ("kernel-version", "v"), ("machine", "m"), ("processor", "p"),
          ("hardware-platform", "i"), ("operating-system", "o")] } args
  if let extra :: _ := operands then extraOperand extra
  let facts := [("s", "Linux"), ("n", "localhost"), ("r", "6.1.0"), ("v", "#1 SMP"),
    ("m", "x86_64"), ("p", "x86_64"), ("i", "x86_64"), ("o", "GNU/Linux")]
  let shown := facts.filter fun (key, _) ↦ found.has "a" || found.has key ||
    (found.isEmpty && key = "s")
  sayLine (" ".intercalate (shown.map (·.2)))
  return 0

def processors (args : List String) : Tool Nat := do
  let (found, operands) ← options
    { long := OptionTable.plain [("all", "all")] ++ OptionTable.valued [("ignore", "ignore")] } args
  if let extra :: _ := operands then extraOperand extra
  let ignored := ((found.value? "ignore").bind String.toNat?).getD 0
  sayLine (toString (max 1 (4 - ignored)))
  return 0

def configuration (args : List String) : Tool Nat := do
  let facts := [("PATH", "/bin:/usr/bin"), ("CS_PATH", "/bin:/usr/bin"), ("PAGESIZE", "4096"),
    ("PAGE_SIZE", "4096"), ("ARG_MAX", "2097152"), ("NAME_MAX", "255"), ("PATH_MAX", "4096"),
    ("PIPE_BUF", "4096"), ("LONG_BIT", "64"), ("INT_MAX", "2147483647"), ("CHAR_BIT", "8"),
    ("INT_MIN", "-2147483648"), ("UINT_MAX", "4294967295"), ("LINE_MAX", "2048"),
    ("WORD_BIT", "32"),
    ("_NPROCESSORS_ONLN", "4"), ("_NPROCESSORS_CONF", "4"), ("OPEN_MAX", "1024"),
    ("_POSIX_VERSION", "200809"), ("CLK_TCK", "100")]
  match args with
  | name :: _ =>
    match facts.lookup name with
    | some value => sayLine value; return 0
    | none =>
      complain ("Unrecognized variable \x60" ++ name ++ "'")
      return 2
  | [] => return 2

def which (args : List String) : Tool Nat := do
  let letters := args.takeWhile fun a ↦ a.startsWith "-" && a ≠ "--"
  for group in letters do
    for c in group.toList.drop 1 do
      unless c = 'a' || c = 's' do
        report ("Illegal option -" ++ c.toString ++ "\nUsage: /usr/bin/which [-as] args\n")
        throw 2
  let all := letters.any (·.toList.contains 'a')
  let silent := letters.any (·.toList.contains 's')
  let operands := args.drop letters.length
  let operands := if operands.head? = some "--" then operands.tail else operands
  if operands.isEmpty then return 1
  let directories := match (← get).environment.lookup "PATH" with
    | some path => path.splitOn ":"
    | none => []
  let mut status := 0
  for name in operands do
    let mut found := false
    let paths := if name.toList.contains '/' then [name]
      else directories.map fun d ↦ (if d.isEmpty then "." else d) ++ "/" ++ name
    for path in paths do
      if all || !found then
        if let .ok node ← node? path then
          if node.allows .execute && (match node.content with | .file _ => true | _ => false) then
            found := true
            unless silent do sayLine path
    unless found do status := 1
  return status

end RegisterLang.Tool.Identity
