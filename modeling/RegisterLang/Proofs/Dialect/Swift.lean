import RegisterLang.Proofs.Dialect.Agreement
import RegisterLang.Proofs.Dialect.Pieces
import RegisterLang.Proofs.Text.Numerals

namespace RegisterLang.SwiftText

def tooLarge (operation : Operation) (lhs rhs : Int64) : Bool :=
  operation.divides && lhs = Int64.minValue && rhs = -1

/-- The overflow operators wrap around. The division operators stop the program if the divisor is
zero or the quotient too large. -/
def arithmetic (operation : Operation) (lhs rhs : Int64) : Option Int64 :=
  if operation.divides && rhs = 0 || tooLarge operation lhs rhs then none
  else some (.ofInt (operation.exact lhs.toInt rhs.toInt))

def chomp (line : List Char) : List Char :=
  match line.reverse with
  | '\n' :: '\r' :: rest => rest.reverse
  | '\n' :: rest => rest.reverse
  | _ => line

/-- A line that is no number reads as zero. Without a word the stack stops the program. -/
def runtime : Runtime where
  apply := arithmetic
  negate value := .ofInt (0 - value.toInt)
  read input :=
    let (line, rest) := readLine input
    (((line.map chomp).bind Decimal.readInt64?).getD 0, rest)
  pop
    | [] => none
    | value :: stack => some (value, stack)

def overflowOperator? : Char → Option Operation
  | '+' => some .add
  | '-' => some .subtract
  | '*' => some .multiply
  | _ => none

def divisionOperator? : Char → Option Operation
  | '/' => some .divide
  | '%' => some .modulus
  | _ => none

def value? : List Piece → Option Simple
  | [.word text] => (Decimal.readInt64? text.toList).map .load
  | [.word "variables", .mark '[', .quoted name, .mark ']'] => some (.loadVariable name)
  | [.word "0", .mark '&', .mark '-', .word "register"] => some .negate
  | [.word "stack", .mark '.', .word "removeLast", .mark '(', .mark ')', .mark '&', .mark c,
      .word "register"] => (overflowOperator? c).map .apply
  | [.word "stack", .mark '.', .word "removeLast", .mark '(', .mark ')', .mark c,
      .word "register"] => (divisionOperator? c).map .apply
  | _ => none

def statement? : List Piece → Option Clause
  | [.word "break"] => some .exit
  | .word "register" :: .mark '=' :: value => (value? value).map .simple
  | [.word "variables", .mark '[', .quoted name, .mark ']', .mark '=', .word "register"] =>
    some (.simple (.store name))
  | [.word "variables", .mark '[', .quoted name, .mark ']', .mark '=', .word "readIn", .mark '(',
      .mark ')'] => some (.simple (.read name))
  | [.word "stack", .mark '.', .word "append", .mark '(', .word "register", .mark ')'] =>
    some (.simple .push)
  | [.word "print", .mark '(', .word "register", .mark ')'] => some (.simple .print)
  | _ => none

def opening? : List Piece → Option Clause
  | [.word "while", .word "true"] => some .loop
  | [.word "else"] => some .otherwise
  | [.word "if", .word "register", .mark '>', .word "0"] => some (.branch .positive)
  | [.word "if", .word "register", .mark '<', .word "0"] => some (.branch .negative)
  | [.word "if", .word "register", .mark '=', .mark '=', .word "0"] => some (.branch .zero)
  | _ => none

def spelling : Spelling where
  isBlank c := c = ' '
  isEnd c := c = '\n' || c = '{' || c = '}'
  clause? pieces
    | '\n' => statement? pieces
    | '{' => opening? pieces
    | '}' => if pieces = [] then some .close else none
    | _ => none

/-- The clauses of a text. A line that ends with a block or is empty has no statement at its end. -/
def clauses? (text : List Char) : Option (List Clause) := do
  let phrases ← spelling.phrases? text
  (phrases.filter (· ≠ ([], '\n'))).mapM fun phrase ↦ spelling.clause? phrase.1 phrase.2

def declarations : List (List String) :=
  [ [ "struct Variables \x7b",
      "    private var values: [String: Int] = [:]",
      "    subscript(index: String) -> Int \x7b",
      "        get \x7b guard let v = values[index] else \x7b return 0 \x7d; return v \x7d",
      "        set (newValue) \x7b values[index] = newValue \x7d",
      "    \x7d",
      "\x7d" ],
    [ "var register: Int = 0",
      "var variables = Variables()",
      "var stack: [Int] = []" ],
    [ "func readIn() -> Int \x7b",
      "    if let input = readLine(), let intInput = Int(input) \x7b",
      "        return intInput",
      "    \x7d else \x7b",
      "        return 0",
      "    \x7d",
      "\x7d" ] ]

def block? (text : String) : Option Block := do
  let body ← Dialect.swift.body? declarations text
  Nest.block? (← clauses? body)

theorem clauses?_append {xs ys : List Char} {cs ds : List Clause} (h : clauses? xs = some cs)
    (h' : clauses? ys = some ds) : clauses? (xs ++ ys) = some (cs ++ ds) := by
  obtain ⟨fs, hf, hc⟩ := Option.bind_eq_some_iff.1 h
  obtain ⟨gs, hg, hd⟩ := Option.bind_eq_some_iff.1 h'
  refine Option.bind_eq_some_iff.2 ⟨fs ++ gs, Spelling.phrases?_append hf hg, ?_⟩
  simp only [List.filter_append, List.mapM_append, hc, hd]
  rfl

theorem clauses?_line {code : String} {cs : List Clause}
    (h : clauses? (code ++ "\n").toList = some cs) (depth : Nat) :
    clauses? (Dialect.line depth code).toList = some cs := by
  have hi : clauses? (Dialect.indent depth).toList = some [] := by
    rw [clauses?, Spelling.phrases?_indent (by decide)]
    rfl
  have hl := clauses?_append hi h
  simpa [Dialect.line] using hl

theorem clauses?_statement {text : String} {ps : List Piece} {c : Clause}
    (hp : spelling.pieces .between text.toList = (ps ++ [.mark '\n'], .between))
    (hf : spelling.phrases [] (ps ++ [.mark '\n']) = ([(ps, '\n')], []))
    (hs : statement? ps = some c) : clauses? text.toList = some [c] := by
  have hne : ps ≠ [] := by
    rintro rfl
    cases hs
  rw [clauses?, Spelling.phrases?_eq_some.2 ⟨_, hp, hf⟩]
  have hc : spelling.clause? ps '\n' = some c := hs
  simp [hne, hc]

theorem clauses?_name (before after : String) (ps qs : List Piece) {name : String} {c : Clause}
    (h : Kind.identifier.Spells name)
    (hb : spelling.pieces .between before.toList = (ps, .quoted []))
    (ha : ∀ letters, spelling.pieces (.quoted letters) (after ++ "\n").toList =
      (.quoted (String.ofList letters.reverse) :: (qs ++ [.mark '\n']), .between))
    (hf : spelling.phrases [] ((ps ++ .quoted name :: qs) ++ [.mark '\n']) =
      ([(ps ++ .quoted name :: qs, '\n')], []))
    (hs : statement? (ps ++ .quoted name :: qs) = some c) (depth : Nat) :
    clauses? (Dialect.line depth (before ++ name ++ after)).toList = some [c] := by
  refine clauses?_line (clauses?_statement ?_ hf hs) depth
  rw [String.append_assoc, spelling.pieces_name before (after ++ "\n") ps _ h hb ha]
  simp

theorem clauses?_loadInteger {text : String} (h : Kind.integer.Spells text) (depth : Nat) :
    clauses? (Dialect.line depth (Dialect.swift.loadInteger text)).toList =
      (Decimal.readInt64? text.toList).map fun value ↦ [.simple (.load value)] := by
  have hp := spelling.pieces_integer "register = " "\n" [.word "register", .mark '=']
    [.mark '\n'] h (by decide +kernel) fun _ ↦ rfl
  have hf := Spelling.phrases?_append (Spelling.phrases?_indent (by decide) depth)
    (Spelling.phrases?_eq_some.2 ⟨_, hp, rfl⟩)
  have hl : (Dialect.line depth (Dialect.swift.loadInteger text)).toList =
      (Dialect.indent depth).toList ++ ("register = " ++ text ++ "\n").toList := by
    simp [Dialect.line, Dialect.swift]
  rw [clauses?, hl]
  refine (congrArg (Option.bind · _) hf).trans ?_
  change (((Decimal.readInt64? text.toList).map Simple.load).map Clause.simple).bind _ = _
  cases Decimal.readInt64? text.toList <;> rfl

theorem clauses?_write {i : Instruction} (h : i.Plain) (depth : Nat) :
    clauses? (Dialect.swift.write depth i).1.toList = some i.clauses := by
  cases i with
  | programStart | programEnd => cases h
  | branch condition =>
    refine clauses?_line ?_ depth
    cases condition <;> decide +kernel
  | otherwise | branchEnd | loopEnd => exact clauses?_line (by decide +kernel) (depth - 1)
  | loopStart | exitLoop | print | push | negate => exact clauses?_line (by decide +kernel) depth
  | apply operation =>
    refine clauses?_line ?_ depth
    cases operation <;> decide +kernel
  | read name =>
    exact clauses?_name "variables[\"" "\"] = readIn()" [.word "variables", .mark '[']
      [.mark ']', .mark '=', .word "readIn", .mark '(', .mark ')'] h (by decide +kernel)
      (fun _ ↦ rfl) rfl rfl depth
  | loadVariable name =>
    exact clauses?_name "register = variables[\"" "\"]"
      [.word "register", .mark '=', .word "variables", .mark '['] [.mark ']'] h (by decide +kernel)
      (fun _ ↦ rfl) rfl rfl depth
  | store name =>
    exact clauses?_name "variables[\"" "\"] = register" [.word "variables", .mark '[']
      [.mark ']', .mark '=', .word "register"] h (by decide +kernel) (fun _ ↦ rfl) rfl rfl depth
  | loadInteger text =>
    obtain ⟨value, hv⟩ := Option.isSome_iff_exists.1 h.2
    refine (clauses?_loadInteger h.1 depth).trans ?_
    rw [Instruction.clauses, Grammar.Tree.literal, hv]
    rfl

theorem readable : Dialect.swift.Readable clauses? :=
  ⟨rfl, clauses?_append, clauses?_write⟩

open Grammar

theorem block?_of_isTreeOf {tree : Tree .program} {source : String} (h : IsTreeOf tree source)
    (hf : tree.fault? false = none) :
    block? (renderIn Dialect.swift source).1 = some (tree.block .done) := by
  obtain ⟨body, hall, hb⟩ := readable.exists_body h hf
  rw [block?, Dialect.body?_of_lines rfl (by decide +kernel) hall]
  exact hb

theorem trim_chomp (line : List Char) : Text.trim (chomp line) = Text.trim line := by
  rw [chomp]
  split
  · next rest hline =>
    rw [List.reverse_eq_cons_iff, List.reverse_cons] at hline
    rw [hline, Text.trim_append_blank (by decide), Text.trim_append_blank (by decide)]
  · next rest _ hline =>
    rw [List.reverse_eq_cons_iff] at hline
    rw [hline, Text.trim_append_blank (by decide)]
  · rfl

/-- A line is read as the machine reads it, unless it is a number other than zero with blanks around
it. -/
theorem read_eq_iff {input rest : List UInt8} {line : List Char}
    (h : readLine input = (some line, rest)) :
    runtime.read input = (Machine.integerOf line, rest) ↔
      Text.trim line = chomp line ∨ Machine.integerOf line = 0 := by
  have hread : runtime.read input = ((Decimal.readInt64? (chomp line)).getD 0, rest) := by
    simp [runtime, h]
  rw [hread, Prod.mk.injEq, Machine.integerOf]
  cases hv : Decimal.readInt64? (chomp line) with
  | some value =>
    have htrim : Text.trim line = chomp line := by
      rw [← trim_chomp, Text.trim_eq_self (Decimal.isBlank_of_readInt64? hv)]
    simp [htrim, hv]
  | none =>
    constructor
    · exact fun h ↦ .inr h.1.symm
    · rintro (htrim | hzero)
      · simp [htrim, hv]
      · simp [hzero]

def overflows (program : Program) (m : Machine) : Bool :=
  match program.ops[m.position]?, m.stack with
  | some (.apply operation), lhs :: _ => tooLarge operation lhs m.register
  | _, _ => false

def readsPadded (program : Program) (m : Machine) : Bool :=
  match program.ops[m.position]?, readLine m.input with
  | some (.read _), (some line, _) => Text.trim line ≠ chomp line && Machine.integerOf line ≠ 0
  | _, _ => false

/-- The next op does the same in Swift and on the machine. -/
def Ordinary (program : Program) (m : Machine) : Prop :=
  overflows program m = false ∧ readsPadded program m = false

instance (program : Program) (m : Machine) : Decidable (Ordinary program m) :=
  inferInstanceAs (Decidable (_ ∧ _))

variable {program : Program} {m : Machine}

theorem pops : runtime.Pops := fun _ _ ↦ rfl

theorem Ordinary.faithfulAt (h : Ordinary program m) : runtime.FaithfulAt program m where
  apply_eq {operation lhs stack} hop hst := by
    have hfits : tooLarge operation lhs m.register = false := by
      simpa [overflows, hop, hst] using h.1
    simp [runtime, arithmetic, toOption_apply, hfits]
  negate_eq _ := by simp [runtime, Int64.ofInt_neg]
  read_eq {name line rest} hop hl := by
    refine (read_eq_iff hl).2 ?_
    have hpad : Text.trim line ≠ chomp line → Machine.integerOf line = 0 := by
      simpa [readsPadded, hop, hl] using h.2
    exact or_iff_not_imp_left.2 hpad

/-- Where a quotient is too large, Swift stops and the machine runs on. -/
theorem stops_of_overflows (h : overflows program m = true) :
    Stops runtime program m.place ∧ ∃ m', Machine.step program m = (.ok .running, m') := by
  unfold overflows at h
  split at h
  · next operation lhs stack hop hst =>
    have hrhs : m.register ≠ 0 := by
      simp only [tooLarge, Bool.and_eq_true, decide_eq_true_eq] at h
      rw [h.2]
      decide
    have hvalue := toOption_apply operation lhs m.register
    rw [if_neg (by simp [hrhs])] at hvalue
    constructor
    · refine ⟨_, _, hop, rfl, by simp [Simple.Ready, Machine.place, hst], ?_⟩
      simp [Simple.run, Machine.place, hst, runtime, arithmetic, h]
    · cases hx : operation.apply lhs m.register with
      | ok value =>
        refine ⟨{ m with position := m.position + 1, register := value, stack }, ?_⟩
        rw [Machine.step_eq hop]
        simp [Machine.runOp, hst, hx]
      | error fault =>
        rw [hx] at hvalue
        cases hvalue
  · cases h

open Grammar Machine

/-- A source text that has op code has a text in Swift, and the text can be read back. On input that
is valid UTF-8 it behaves as the op code does on the machine if the machine never divides the least
word by minus one and never reads a number with blanks around it. It stops at the first such
division with what it has written up to there, while the machine runs on. -/
theorem swift_text_agrees_until_overflow (source : String) (program : Program)
    (h : assemble source = .ok program) :
    (renderIn Dialect.swift source).2 = .ok () ∧
    ∃ block, block? (renderIn Dialect.swift source).1 = some block ∧
      ∀ input, Utf8.Valid input →
        ((∀ n m, Reaches program n { input } m → Ordinary program m) →
          BehavesAs program runtime block input) ∧
        ∀ n m, Reaches program n { input } m → overflows program m = true →
          (∀ k < n, ∀ m', Reaches program k { input } m' → Ordinary program m') →
            (∃ clock p, block.run runtime clock (.start input) = (.failed (), p) ∧
              p.scene.output = m.output.text) ∧
            ∃ m', step program m = (.ok .running, m') := by
  obtain ⟨tree, ht, hf, rfl⟩ := assemble_eq_ok_iff.1 h
  have hc := Program.holds_all (tree.code 0 Op.pending)
  refine ⟨?_, tree.block .done, block?_of_isTreeOf ht hf, fun input hv ↦ ⟨fun hm ↦ ?_, ?_⟩⟩
  · simp only [renderIn, compile_of_isTreeOf ht]
  · exact Confirms.behavesAs
      (confirms pops hc hf hv fun n m hreach ↦ (hm n m hreach).faithfulAt)
  · intro n m hreach ho hm
    obtain ⟨hs, hstep⟩ := stops_of_overflows ho
    obtain ⟨clock, hrun⟩ := exists_run_of_stops pops hc hf hv hreach
      (fun k hk m' hm' ↦ (hm k hk m' hm').faithfulAt) hs
    exact ⟨⟨clock, _, hrun, rfl⟩, hstep⟩

def passes (program : Program) (test : Machine → Bool) : Nat → Machine → Bool
  | 0, _ => true
  | n + 1, m => test m &&
    match step program m with
    | (.ok .running, m') => passes program test n m'
    | _ => true

theorem test_of_passes {test : Machine → Bool} {n k : Nat} {m m' : Machine}
    (h : passes program test n m = true) (hk : k < n) (hreach : Reaches program k m m') :
    test m' = true := by
  induction n generalizing k m with
  | zero => omega
  | succ n ih =>
    rw [passes, Bool.and_eq_true] at h
    cases k with
    | zero =>
      cases hreach
      exact h.1
    | succ k =>
      obtain ⟨m₁, hs, hreach⟩ := hreach
      rw [hs] at h
      exact ih h.2 (by omega) hreach

theorem reaches_of_continueFor {n : Nat} {m m' : Machine}
    (h : continueFor program n m = (.ok .running, m')) : Reaches program n m m' := by
  induction n generalizing m with
  | zero =>
    have hm := settle_snd Flow.running m
    rw [continueFor] at h
    rw [h] at hm
    exact hm.symm
  | succ n ih =>
    rw [continueFor] at h
    split at h
    · cases h
    · rw [settle] at h
      split at h <;> cases h
    · next hs => exact ⟨_, hs, ih h⟩

def leastQuotient : Program :=
  ⟨#[.read "n", .load 7, .print, .load 9223372036854775807, .push, .load 1, .apply .add, .push,
    .loadVariable "n", .apply .divide, .print, .halt]⟩

theorem swift_text_agrees_until_overflow_quotient :
    assemble "BEGIN READ n PRINT 7 PRINT (9223372036854775807 + 1) / n END" = .ok leastQuotient ∧
    ∃ block, block? (renderIn Dialect.swift
        "BEGIN READ n PRINT 7 PRINT (9223372036854775807 + 1) / n END").1 = some block ∧
      BehavesAs leastQuotient runtime block [50, 10] ∧
      (∃ clock p, block.run runtime clock (.start [45, 49, 10]) = (.failed (), p) ∧
        p.scene.output = "7\n") ∧
      ¬ BehavesAs leastQuotient runtime block [45, 49, 10] := by
  have h : assemble "BEGIN READ n PRINT 7 PRINT (9223372036854775807 + 1) / n END" =
      .ok leastQuotient :=
    assemble_eq_ok_iff.2 ⟨.program (.sequence (.read (.target "n")) (.sequence (.print
      (.expression (.term (.unsigned (.integer "7")) .noFactors) .noTerms)) (.sequence (.print
        (.expression (.term (.unsigned (.group (.expression (.term (.unsigned
          (.integer "9223372036854775807")) .noFactors) (.moreTerms .add rfl (.term (.unsigned
            (.integer "1")) .noFactors) .noTerms)))) (.moreFactors .divide rfl (.identifier "n")
              .noFactors)) .noTerms)) .empty))), ⟨by decide +kernel, by decide⟩, by decide +kernel,
      by decide +kernel⟩
  have hv : Utf8.Valid [50, 10] ∧ Utf8.Valid [45, 49, 10] := by
    rw [Utf8.Valid, Utf8.Valid]
    decide +kernel
  have hx : ∀ input ∈ [[50, 10], [45, 49, 10]],
      (execute leastQuotient none 12 { input }).map Prod.fst = some (.ok ()) := by
    decide +kernel
  obtain ⟨-, block, hb, hrun⟩ := swift_text_agrees_until_overflow _ _ h
  have hends : BehavesAs leastQuotient runtime block [50, 10] := by
    refine (hrun _ hv.1).1 fun n m hreach ↦ ?_
    obtain ⟨result, hx, -⟩ := Option.map_eq_some_iff.1 (hx [50, 10] (by simp))
    have hp : passes leastQuotient (fun m ↦ decide (Ordinary leastQuotient m)) 12
      { input := [50, 10] } = true := by decide +kernel
    exact of_decide_eq_true (test_of_passes hp (lt_of_execute hx hreach) hreach)
  have hstops : ∃ clock p, block.run runtime clock (.start [45, 49, 10]) = (.failed (), p) ∧
      p.scene.output = "7\n" := by
    have hfor : (continueFor leastQuotient 9 { input := [45, 49, 10] }).1 = .ok .running := by
      decide +kernel
    have hp : passes leastQuotient (fun m ↦ decide (Ordinary leastQuotient m)) 9
      { input := [45, 49, 10] } = true := by decide +kernel
    obtain ⟨⟨clock, p, hfailed, hp⟩, -⟩ := (hrun _ hv.2).2 9 _
      (reaches_of_continueFor (Prod.ext hfor rfl)) (by decide +kernel)
      fun k hk m' hm' ↦ of_decide_eq_true (test_of_passes hp hk hm')
    exact ⟨clock, p, hfailed, hp.trans (by decide +kernel)⟩
  refine ⟨h, block, hb, hends, hstops, fun hbehaves ↦ ?_⟩
  obtain ⟨⟨result, m⟩, hx, rfl⟩ := Option.map_eq_some_iff.1 (hx [45, 49, 10] (by simp))
  obtain ⟨fuel, m', hx', -⟩ := (hbehaves.stops_iff "7\n").2 hstops
  cases execute_unique hx hx'

def echo : Tree .program :=
  .program (.sequence (.read (.target "x")) (.sequence (.print
    (.expression (.term (.unsigned (.identifier "x")) .noFactors) .noTerms)) .empty))

/-- A blank in front of a number makes it read as zero, where the machine reads the number. -/
theorem padded_number_reads_as_zero :
    assemble "BEGIN READ x PRINT x END" = .ok ⟨(echo.code 0 Op.pending).toArray⟩ ∧
    ∃ block, block? (renderIn Dialect.swift "BEGIN READ x PRINT x END").1 = some block ∧
      (∃ clock p, block.run runtime clock (.start [32, 53, 10]) = (.finished, p) ∧
        p.scene.output = "0\n") ∧
      ∃ fuel m, execute ⟨(echo.code 0 Op.pending).toArray⟩ none fuel
        { input := [32, 53, 10] } = some (.ok (), m) ∧ m.output.text = "5\n" := by
  have ht : IsTreeOf echo "BEGIN READ x PRINT x END" := ⟨by decide +kernel, by decide⟩
  have hrun : ((echo.block .done).run runtime 0 (.start [32, 53, 10])).1 = .finished := by
    decide +kernel
  have hx : (execute ⟨(echo.code 0 Op.pending).toArray⟩ none 4 { input := [32, 53, 10] }).map
      (fun r ↦ (r.1, r.2.output.text)) = some (.ok (), "5\n") := by
    decide +kernel
  obtain ⟨⟨result, m⟩, hx, he⟩ := Option.map_eq_some_iff.1 hx
  obtain ⟨rfl, hm⟩ := Prod.mk.inj he
  exact ⟨assemble_eq_ok_iff.2 ⟨echo, ht, rfl, rfl⟩, echo.block .done, block?_of_isTreeOf ht rfl,
    ⟨0, _, Prod.ext hrun rfl, by decide +kernel⟩, 4, m, hx, hm⟩

end RegisterLang.SwiftText
