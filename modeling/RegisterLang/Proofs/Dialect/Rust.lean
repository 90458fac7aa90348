import RegisterLang.Proofs.Dialect.Agreement
import RegisterLang.Proofs.Dialect.Pieces

namespace RegisterLang.RustText

def wrapping (operation : Operation) (lhs rhs : Int64) : Option Int64 :=
  match operation with
  | .add => some (.ofInt (lhs.toInt + rhs.toInt))
  | .subtract => some (.ofInt (lhs.toInt - rhs.toInt))
  | .multiply => some (.ofInt (lhs.toInt * rhs.toInt))
  | .divide => if rhs = 0 then none else some (.ofInt (lhs.toInt.tdiv rhs.toInt))
  | .modulus => if rhs = 0 then none else some (.ofInt (lhs.toInt.tmod rhs.toInt))

/-- A line that is no text reads as zero, and so does a stack without words. -/
def runtime : Runtime where
  apply := wrapping
  negate value := .ofInt (-value.toInt)
  read input :=
    let (line, rest) := readLine input
    ((line.map Machine.integerOf).getD 0, rest)
  pop
    | [] => some (0, [])
    | value :: stack => some (value, stack)

def method? : String → Option Operation
  | "wrapping_add" => some .add
  | "wrapping_sub" => some .subtract
  | "wrapping_mul" => some .multiply
  | "wrapping_div" => some .divide
  | "wrapping_rem" => some .modulus
  | _ => none

def value? : List Piece → Option Simple
  | [.word text] => (Decimal.readInt64? text.toList).map .load
  | [.word "variables", .mark '.', .word "get", .mark '(', .quoted name, .mark ')'] =>
    some (.loadVariable name)
  | [.word "register", .mark '.', .word "wrapping_neg", .mark '(', .mark ')'] => some .negate
  | [.word "stack", .mark '.', .word "pop", .mark '(', .mark ')', .mark '.', .word "unwrap_or",
      .mark '(', .word "0", .mark ')', .mark '.', .word method, .mark '(', .word "register",
      .mark ')'] => (method? method).map .apply
  | _ => none

def statement? : List Piece → Option Clause
  | [.word "break"] => some .exit
  | .word "register" :: .mark '=' :: value => (value? value).map .simple
  | [.word "variables", .mark '.', .word "set", .mark '(', .quoted name, .mark ',',
      .word "register", .mark ')'] => some (.simple (.store name))
  | [.word "variables", .mark '.', .word "set", .mark '(', .quoted name, .mark ',',
      .word "read_in", .mark '(', .mark '&', .word "mut", .word "input", .mark ')', .mark ')'] =>
    some (.simple (.read name))
  | [.word "stack", .mark '.', .word "push", .mark '(', .word "register", .mark ')'] =>
    some (.simple .push)
  | [.word "println", .mark '!', .mark '(', .quoted "\x7b\x7d", .mark ',', .word "register",
      .mark ')'] => some (.simple .print)
  | _ => none

def opening? : List Piece → Option Clause
  | [.word "loop"] => some .loop
  | [.word "else"] => some .otherwise
  | [.word "if", .word "register", .mark '>', .word "0"] => some (.branch .positive)
  | [.word "if", .word "register", .mark '<', .word "0"] => some (.branch .negative)
  | [.word "if", .word "register", .mark '=', .mark '=', .word "0"] => some (.branch .zero)
  | _ => none

def spelling : Spelling where
  isBlank := Lexeme.isBlank
  isEnd c := c = ';' || c = '{' || c = '}'
  clause? pieces
    | ';' => statement? pieces
    | '{' => opening? pieces
    | '}' => if pieces = [] then some .close else none
    | _ => none

/-- The declarations that give the statements their meaning, line by line: variables that read as
zero until they are set, a line of input as an integer or zero, and a register and a stack to start
from. -/
def declarations : List (List String) :=
  [ [ "    fn get(&self, name: &str) -> i64 \x7b",
      "        self.values.get(name).copied().unwrap_or(0)",
      "    \x7d" ],
    [ "    fn set(&mut self, name: &'static str, value: i64) \x7b",
      "        self.values.insert(name, value);",
      "    \x7d" ],
    [ "fn read_in(input: &mut impl BufRead) -> i64 \x7b",
      "    let mut line = String::new();",
      "    match input.read_line(&mut line) \x7b",
      "        Ok(_) => line.trim().parse().unwrap_or(0),",
      "        Err(_) => 0,",
      "    \x7d",
      "\x7d" ],
    [ "fn main() \x7b",
      "    let mut register: i64 = 0;",
      "    let mut variables = Variables::default();",
      "    let mut stack: Vec<i64> = Vec::new();",
      "    let stdin = std::io::stdin();",
      "    let mut input = stdin.lock();" ] ]

/-- The block of the main function of a text that has the declarations. What stands in front of the
block and behind it is the same in all texts. -/
def block? (text : String) : Option Block := do
  let body ← Dialect.rust.body? declarations text
  Nest.block? (← spelling.clauses? body)

theorem faithful : runtime.Faithful where
  apply_eq operation lhs rhs := by
    rw [toOption_apply]
    cases operation <;> simp [runtime, wrapping, Operation.exact, Operation.divides]
  negate_eq value := by simp [runtime, Int64.ofInt_neg]
  read_eq h := by simp [runtime, h]
  pop_eq _ _ := rfl

theorem clauses?_loadInteger {text : String} (h : Kind.integer.Spells text) (depth : Nat) :
    spelling.clauses? (Dialect.line depth (Dialect.rust.loadInteger text)).toList =
      (Decimal.readInt64? text.toList).map fun value ↦ [.simple (.load value)] := by
  have hp := spelling.pieces_integer "register = " ";" [.word "register", .mark '='] [.mark ';']
    h (by decide +kernel) fun _ ↦ rfl
  have hf := Spelling.phrases?_line rfl rfl (Spelling.phrases?_eq_some.2 ⟨_, hp, rfl⟩) depth
  rw [Spelling.clauses?]
  refine (congrArg (Option.bind · _) hf).trans ?_
  change (((Decimal.readInt64? text.toList).map Simple.load).map Clause.simple).bind _ = _
  cases Decimal.readInt64? text.toList <;> rfl

theorem clauses?_write {i : Instruction} (h : i.Plain) (depth : Nat) :
    spelling.clauses? (Dialect.rust.write depth i).1.toList = some i.clauses := by
  cases i with
  | programStart | programEnd => cases h
  | branch condition =>
    refine Spelling.clauses?_line rfl rfl ?_ depth
    cases condition <;> decide +kernel
  | otherwise | branchEnd | loopEnd =>
    exact Spelling.clauses?_line rfl rfl (by decide +kernel) (depth - 1)
  | loopStart | exitLoop | print | push | negate =>
    exact Spelling.clauses?_line rfl rfl (by decide +kernel) depth
  | apply operation =>
    refine Spelling.clauses?_line rfl rfl ?_ depth
    cases operation <;> decide +kernel
  | read name =>
    have hp := spelling.pieces_name "variables.set(\"" "\", read_in(&mut input));"
      [.word "variables", .mark '.', .word "set", .mark '(']
      [.mark ',', .word "read_in", .mark '(', .mark '&', .word "mut", .word "input", .mark ')',
        .mark ')', .mark ';'] h (by decide +kernel) fun _ ↦ rfl
    exact Spelling.clauses?_line rfl rfl (Spelling.clauses?_of_pieces hp rfl rfl) depth
  | loadVariable name =>
    have hp := spelling.pieces_name "register = variables.get(\"" "\");"
      [.word "register", .mark '=', .word "variables", .mark '.', .word "get", .mark '(']
      [.mark ')', .mark ';'] h (by decide +kernel) fun _ ↦ rfl
    exact Spelling.clauses?_line rfl rfl (Spelling.clauses?_of_pieces hp rfl rfl) depth
  | store name =>
    have hp := spelling.pieces_name "variables.set(\"" "\", register);"
      [.word "variables", .mark '.', .word "set", .mark '(']
      [.mark ',', .word "register", .mark ')', .mark ';'] h (by decide +kernel) fun _ ↦ rfl
    exact Spelling.clauses?_line rfl rfl (Spelling.clauses?_of_pieces hp rfl rfl) depth
  | loadInteger text =>
    obtain ⟨value, hv⟩ := Option.isSome_iff_exists.1 h.2
    refine (clauses?_loadInteger h.1 depth).trans ?_
    rw [Instruction.clauses, Grammar.Tree.literal, hv]
    rfl

theorem readable : Dialect.rust.Readable spelling.clauses? :=
  ⟨rfl, Spelling.clauses?_append, clauses?_write⟩

open Grammar

theorem block?_of_isTreeOf {tree : Tree .program} {source : String} (h : IsTreeOf tree source)
    (hf : tree.fault? false = none) :
    block? (renderIn Dialect.rust source).1 = some (tree.block .done) := by
  obtain ⟨body, hall, hb⟩ := readable.exists_body h hf
  rw [block?, Dialect.body?_of_lines rfl (by decide +kernel) hall]
  exact hb

/-- A source text that has op code has a text in Rust. The text can be read back, and on input that
is valid UTF-8 it behaves as the op code does on the machine: it panics where the machine divides by
zero, and writes the same. -/
theorem rust_text_behaves_as_machine (source : String) (program : Program)
    (h : assemble source = .ok program) :
    (renderIn Dialect.rust source).2 = .ok () ∧
    ∃ block, block? (renderIn Dialect.rust source).1 = some block ∧
      ∀ input, Utf8.Valid input → BehavesAs program runtime block input := by
  obtain ⟨tree, ht, hf, rfl⟩ := assemble_eq_ok_iff.1 h
  refine ⟨?_, tree.block .done, block?_of_isTreeOf ht hf, fun input hv ↦ ?_⟩
  · simp only [renderIn, compile_of_isTreeOf ht]
  · exact behavesAs faithful (Program.holds_all _) hf hv

theorem rust_text_behaves_as_machine_quotient :
    assemble "BEGIN READ n PRINT 7 PRINT 7 / n END" = .ok ⟨#[.read "n", .load 7, .print, .load 7,
      .push, .loadVariable "n", .apply .divide, .print, .halt]⟩ ∧
    Utf8.Valid [48, 10] ∧
    ∃ block, block? (renderIn Dialect.rust "BEGIN READ n PRINT 7 PRINT 7 / n END").1 =
      some block ∧ ∃ clock p, block.run runtime clock (.start [48, 10]) = (.failed (), p) ∧
        p.scene.output = "7\n" := by
  have h : assemble "BEGIN READ n PRINT 7 PRINT 7 / n END" = .ok ⟨#[.read "n", .load 7, .print,
      .load 7, .push, .loadVariable "n", .apply .divide, .print, .halt]⟩ :=
    assemble_eq_ok_iff.2 ⟨.program (.sequence (.read (.target "n")) (.sequence (.print
      (.expression (.term (.unsigned (.integer "7")) .noFactors) .noTerms)) (.sequence (.print
        (.expression (.term (.unsigned (.integer "7")) (.moreFactors .divide rfl (.identifier "n")
          .noFactors)) .noTerms)) .empty))), ⟨by decide +kernel, by decide⟩, by decide +kernel,
      by decide +kernel⟩
  have hv : Utf8.Valid [48, 10] := by
    rw [Utf8.Valid]
    decide +kernel
  have hx : (Machine.execute ⟨#[.read "n", .load 7, .print, .load 7, .push, .loadVariable "n",
      .apply .divide, .print, .halt]⟩ none 9 { input := [48, 10] }).map
      (fun r ↦ (r.1, r.2.output.text)) = some (.error (.runtime .divisionByZero), "7\n") := by
    decide +kernel
  obtain ⟨⟨result, m⟩, hm, he⟩ := Option.map_eq_some_iff.1 hx
  obtain ⟨rfl, ht⟩ := Prod.mk.inj he
  obtain ⟨-, block, hb, hr⟩ := rust_text_behaves_as_machine _ _ h
  exact ⟨h, hv, block, hb, ((hr [48, 10] hv).stops_iff "7\n").1 ⟨9, m, hm, ht⟩⟩

end RegisterLang.RustText
