import RegisterLang.Host.Tool.Moment

namespace RegisterLang.Tool

namespace Touch

def table : OptionTable :=
  { short := "acd:fhmr:t:"
    long := OptionTable.plain [("no-create", "c"), ("no-dereference", "h")] ++
      OptionTable.valued [("time", "time"), ("date", "d"), ("reference", "r")] }

/-- Sets times, to those of now if no other is given. -/
def setTimes (path : String) (follow : Bool) (time : Option (Nat × Nat)) (access change : Bool) :
    Tool (Except SystemFault Unit) :=
  Strand.changeDisk fun d ↦ do
    let (p, node) ← d.look (Octet.toText path) follow
    let (a, m) := time.getD (d.now, d.now)
    match d.ref? p with
    | none => .error .noSuchFile
    | some ref =>
      if !node.owned && !(time.isNone && node.allows .write) then
        .error (if time.isNone then .notPermitted else .notOwner)
      else
        return d.modify ref fun n ↦
          { n with accessed := if access then a else n.accessed
                   modified := if change then m else n.modified }

def main (args : List String) : Tool Nat := do
  let (found, operands) ← options table args
  let now ← Moment.now
  let mut access := found.has "a"
  let mut change := found.has "m"
  for (key, value) in found do
    if key = "time" then
      match ← chooseWord "--time" [["atime", "access", "use"], ["mtime", "modify"]]
          (value.getD "") with
      | "atime" => access := true
      | _ => change := true
  let stamp := found.value? "t"
  let reference := found.value? "r"
  let text := found.value? "d"
  let stampTime ← match stamp with
    | none => pure none
    | some t =>
      match Moment.parseStamp? now t with
      | some time => pure (some time)
      | none => fail 1 ("invalid date format " ++ cited t)
  if stamp.isSome && (reference.isSome || text.isSome) then
    failWithHelp 1 "cannot specify times from more than one source"
  let base ← match reference with
    | none => pure none
    | some path =>
      match ← look path (!found.has "h") with
      | .ok (_, node) => pure (some (node.accessed, node.modified))
      | .error fault =>
        fail 1 ("failed to get attributes of " ++ quoted path ++ ": " ++ fault.describe)
  let times : Option (Nat × Nat) ← match text, stampTime, base with
    | some t, _, base =>
      let read (start : Int) : Tool Nat := do
        match Moment.parse? start t with
        | some time => return time.toNat
        | none => fail 1 ("invalid date format " ++ cited t)
      match base with
      | some (a, m) => do pure (some (← read a, ← read m))
      | none => do
        let time ← read now
        pure (if t = "now" then none else some (time, time))
    | none, some time, _ => pure (some (time.toNat, time.toNat))
    | none, none, base => pure base
  if operands.isEmpty then failWithHelp 1 "missing file operand"
  let both := !access && !change
  forAll operands fun operand ↦ do
    if operand = "-" then return true
    let follow := !found.has "h"
    let opened ← if found.has "c" || found.has "h" then pure none
      else
        match ← Strand.openAt (Octet.toText operand) { write := true, create := true } with
        | .ok number => do
          Strand.closeAt number
          pure none
        | .error fault => pure (some fault)
    match ← setTimes operand follow times (access || both) (change || both) with
    | .ok () => return true
    | .error fault =>
      if found.has "c" && fault = .noSuchFile then return true
      match opened with
      | some fault@.noSuchFile | some fault@.notPermitted | some fault@.nameTooLong
      | some fault@.tooManyLinks =>
        complain ("cannot touch " ++ quoted operand ++ ": " ++ fault.describe)
      | some .notDirectory =>
        if Disk.wantsDirectory operand then
          complain ("setting times of " ++ quoted operand ++ ": " ++ fault.describe)
        else complain ("cannot touch " ++ quoted operand ++ ": " ++ fault.describe)
      | _ => complain ("setting times of " ++ quoted operand ++ ": " ++ fault.describe)
      return false

end Touch

namespace Date

def table : OptionTable :=
  { short := "d:f:I::r:Rs:u"
    long := OptionTable.plain
      [("debug", "debug"), ("universal", "u"), ("utc", "u"), ("rfc-email", "R"), ("rfc-822", "R"),
        ("rfc-2822", "R")] ++
      OptionTable.valued
        [("date", "d"), ("file", "f"), ("reference", "r"), ("set", "s"),
          ("rfc-3339", "rfc-3339")] ++
      [{ name := "iso-8601", key := "I", need := .maybe }] }

def formatOf (key : String) (value : Option String) : Tool (Option String) := do
  match key with
  | "R" => return some "%a, %d %b %Y %H:%M:%S %z"
  | "I" =>
    match ← chooseWord "--iso-8601" [["hours"], ["minutes"], ["date"], ["seconds"], ["ns"]]
        (value.getD "date") with
    | "hours" => return some "%Y-%m-%dT%H%:z"
    | "minutes" => return some "%Y-%m-%dT%H:%M%:z"
    | "seconds" => return some "%Y-%m-%dT%H:%M:%S%:z"
    | "ns" => return some "%Y-%m-%dT%H:%M:%S,%N%:z"
    | _ => return some "%Y-%m-%d"
  | "rfc-3339" =>
    match ← chooseWord "--rfc-3339" [["date"], ["seconds"], ["ns"]] (value.getD "") with
    | "seconds" => return some "%Y-%m-%d %H:%M:%S%:z"
    | "ns" => return some "%Y-%m-%d %H:%M:%S.%N%:z"
    | _ => return some "%Y-%m-%d"
  | _ => return none

def main (args : List String) : Tool Nat := do
  let (found, operands) ← options table args
  let now ← Moment.now
  let mut format := none
  for (key, value) in found do
    if let some text ← formatOf key value then
      if format.isSome then fail 1 "multiple output formats specified"
      format := some text
  let isFormat (text : String) : Bool := text.toList.head? = some '+'
  match operands with
  | _ :: extra :: _ =>
    if isFormat (operands.headD "") || !isFormat extra then extraOperand extra
  | [text] =>
    if isFormat text then
      if format.isSome then fail 1 "multiple output formats specified"
      format := some (String.ofList (text.toList.drop 1))
  | [] => pure ()
  let pattern := format.getD "%a %b %e %H:%M:%S %Z %Y"
  let present (time : Int) : Tool Unit := sayLine (Moment.format time pattern)
  let parse (text : String) : Tool (Option Int) := do
    match Moment.parse? now text with
    | some time => return some time
    | none =>
      complain ("invalid date " ++ cited text)
      return none
  if ["d", "f", "r", "s"].countP found.has > 1 then
    failWithHelp 1 "the options to specify dates for printing are mutually exclusive"
  if let some path := found.value? "f" then
    match ← openInput path with
    | .error fault => fail 1 (quotedIfNeeded path ++ ": " ++ fault.describe)
    | .ok () =>
      let (status, _) ← iterate (fun (status, ()) ↦ do
        match ← nextLine with
        | .ok (some (line, _)) =>
          match ← parse line with
          | some time =>
            present time
            return .inl (status, ())
          | none => return .inl (1, ())
        | _ => return .inr (status, ())) (0, ())
      return status
  else if let some path := found.value? "r" then
    match ← look path with
    | .ok (_, node) =>
      present node.modified
      return 0
    | .error fault => fail 1 (quotedIfNeeded path ++ ": " ++ fault.describe)
  else if let some text := found.value? "s" then
    match ← parse text with
    | some time =>
      complain "cannot set date: Operation not permitted"
      present time
      return 1
    | none => return 1
  else if let some text := found.value? "d" then
    match ← parse text with
    | some time =>
      present time
      return 0
    | none => return 1
  else
    match operands with
    | [text] =>
      if isFormat text then
        present now
        return 0
      else
        fail 1 ("invalid date " ++ cited text)
    | _ =>
      present now
      return 0

end Date

end RegisterLang.Tool
