import RegisterLang.Dialect.Basic

namespace RegisterLang.Dialect

def lines (texts : List String) : String := String.join (texts.map (· ++ "\n"))

def rustHeader : String := lines
  [ "// Compiler output",
    "#![allow(dead_code, unused_mut, unused_variables, unused_assignments, unreachable_code)]",
    "",
    "use std::collections::HashMap;",
    "use std::io::BufRead;",
    "",
    "/// Variable storage. Variables that were never assigned read as zero.",
    "#[derive(Default)]",
    "struct Variables \x7b",
    "    values: HashMap<&'static str, i64>,",
    "\x7d",
    "",
    "impl Variables \x7b",
    "    fn get(&self, name: &str) -> i64 \x7b",
    "        self.values.get(name).copied().unwrap_or(0)",
    "    \x7d",
    "",
    "    fn set(&mut self, name: &'static str, value: i64) \x7b",
    "        self.values.insert(name, value);",
    "    \x7d",
    "\x7d",
    "",
    "/// Read one line of input as an integer, zero when it isn't one.",
    "fn read_in(input: &mut impl BufRead) -> i64 \x7b",
    "    let mut line = String::new();",
    "    match input.read_line(&mut line) \x7b",
    "        Ok(_) => line.trim().parse().unwrap_or(0),",
    "        Err(_) => 0,",
    "    \x7d",
    "\x7d",
    "",
    "fn main() \x7b",
    "    let mut register: i64 = 0;",
    "    let mut variables = Variables::default();",
    "    let mut stack: Vec<i64> = Vec::new();",
    "    let stdin = std::io::stdin();",
    "    let mut input = stdin.lock();",
    "" ]

def rustFooter : String := lines
  [ "\x7d",
    "",
    "// End compiler output" ]

def rustMethod : Operation → String
  | .add => "wrapping_add"
  | .subtract => "wrapping_sub"
  | .multiply => "wrapping_mul"
  | .divide => "wrapping_div"
  | .modulus => "wrapping_rem"

def rust : Dialect where
  header := rustHeader
  footer := rustFooter
  bodyDepth := 1
  branch condition := "if register " ++ condition.symbol ++ " 0 \x7b"
  otherwise := "\x7d else \x7b"
  branchEnd := "\x7d"
  loopStart := "loop \x7b"
  loopEnd := "\x7d"
  exitLoop := "break;"
  print := "println!(\"\x7b\x7d\", register);"
  read name := "variables.set(\"" ++ name ++ "\", read_in(&mut input));"
  loadVariable name := "register = variables.get(\"" ++ name ++ "\");"
  loadInteger text := "register = " ++ text ++ ";"
  store name := "variables.set(\"" ++ name ++ "\", register);"
  push := "stack.push(register);"
  apply operation := "register = stack.pop().unwrap_or(0)." ++ rustMethod operation ++ "(register);"
  negate := "register = register.wrapping_neg();"
  recipe.extension := ".rs"
  recipe.command intermediate path := "rustc -O -A warnings " ++ intermediate ++ " -o " ++ path

def swiftHeader : String := lines
  [ "// Compiler Output",
    "",
    "struct Variables \x7b",
    "    private var values: [String: Int] = [:]",
    "    subscript(index: String) -> Int \x7b",
    "        get \x7b guard let v = values[index] else \x7b return 0 \x7d; return v \x7d",
    "        set (newValue) \x7b values[index] = newValue \x7d",
    "    \x7d",
    "\x7d",
    "var register: Int = 0",
    "var variables = Variables()",
    "var stack: [Int] = []",
    "func readIn() -> Int \x7b",
    "    if let input = readLine(), let intInput = Int(input) \x7b",
    "        return intInput",
    "    \x7d else \x7b",
    "        return 0",
    "    \x7d",
    "\x7d",
    "" ]

def swiftFooter : String := lines
  [ "",
    "// End Compiler Output" ]

/-- The operator for an operation; those that may overflow wrap around. -/
def swiftOperator : Operation → String
  | .add => "&+"
  | .subtract => "&-"
  | .multiply => "&*"
  | .divide => "/"
  | .modulus => "%"

def swift : Dialect where
  header := swiftHeader
  footer := swiftFooter
  bodyDepth := 0
  branch condition := "if register " ++ condition.symbol ++ " 0 \x7b"
  otherwise := "\x7d else \x7b"
  branchEnd := "\x7d"
  loopStart := "while true \x7b"
  loopEnd := "\x7d"
  exitLoop := "break"
  print := "print(register)"
  read name := "variables[\"" ++ name ++ "\"] = readIn()"
  loadVariable name := "register = variables[\"" ++ name ++ "\"]"
  loadInteger text := "register = " ++ text
  store name := "variables[\"" ++ name ++ "\"] = register"
  push := "stack.append(register)"
  apply operation := "register = stack.removeLast() " ++ swiftOperator operation ++ " register"
  negate := "register = 0 &- register"
  recipe.extension := ".swift"
  recipe.command intermediate path :=
    "swiftc " ++ intermediate ++ " -o " ++ path ++ " -suppress-warnings"

end RegisterLang.Dialect
