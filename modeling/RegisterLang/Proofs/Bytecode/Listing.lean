import RegisterLang.Proofs.Bytecode.Assembly
import RegisterLang.Proofs.Dialect.Statements
import RegisterLang.Proofs.Text.Numerals
import RegisterLang.Proofs.Text.Places

namespace RegisterLang

def Operation.ofSymbol? (text : String) : Option Operation :=
  [add, subtract, multiply, divide, modulus].find? fun operation ↦ operation.symbol = text

def Condition.ofText? (text : String) : Option Condition :=
  [positive, negative, zero].find? fun condition ↦ condition.describe = text

namespace Op

def ofColumns? (word : String) (operand : List Char) : Option Op :=
  match word with
  | "LOAD   " => (Decimal.readInt64? operand).map load
  | "LOADV  " => some (loadVariable (String.ofList operand))
  | "STORE  " => some (store (String.ofList operand))
  | "READ   " => some (read (String.ofList operand))
  | "PRINT" => some print
  | "PUSH" => some push
  | "POP    " => (Operation.ofSymbol? (String.ofList operand)).map apply
  | "NEG" => some negate
  | "JPNOT  " => do
    let condition ← Condition.ofText? (String.ofList (operand.takeWhile (· ≠ ',')))
    let target ← Decimal.readNat? ((operand.dropWhile (· ≠ ',')).drop 2)
    return jumpUnless condition target
  | "JP     " => (Decimal.readNat? operand).map jump
  | "HALT" => some halt
  | _ => none

def ofText? (text : List Char) : Option Op :=
  ofColumns? (String.ofList (text.take 7)) (text.drop 7)

theorem ofText?_append {word : String} (h : word.toList.length = 7) (operand : String) :
    ofText? (word ++ operand).toList = ofColumns? word operand.toList := by
  rw [ofText?, String.toList_append, List.take_left' h, List.drop_left' h, String.ofList_toList]

theorem ofText?_render (op : Op) : ofText? op.render.toList = some op := by
  cases op with
  | load value =>
    rw [render, ofText?_append (by decide)]
    simp [ofColumns?, Decimal.readInt64?_eq_some_iff.2 (Decimal.signed_writeInt64 value)]
  | loadVariable | store | read =>
    rw [render, ofText?_append (by decide)]
    simp [ofColumns?]
  | print | push | negate | halt => decide +kernel
  | apply operation => cases operation <;> decide +kernel
  | jumpUnless condition target =>
    simp only [render, String.append_assoc]
    rw [ofText?_append (by decide)]
    cases condition <;>
      simp [ofColumns?, Condition.describe, Condition.symbol, Condition.ofText?,
        Decimal.readNat?_padZero]
  | jump target =>
    rw [render, ofText?_append (by decide)]
    simp [ofColumns?, Decimal.readNat?_padZero]

theorem newline_notMem_render {op : Op} (h : ∀ name ∈ op.name?, '\n' ∉ name.toList) :
    '\n' ∉ op.render.toList := by
  cases op with
  | load value =>
    have hvalue := Decimal.newline_notMem_writeInt64 value
    simp [render, hvalue]
  | loadVariable name | store name | read name =>
    have hname := h name rfl
    simp [render, hname]
  | print | push | negate | halt => decide +kernel
  | apply operation => cases operation <;> decide +kernel
  | jumpUnless condition target =>
    have htarget := Decimal.newline_notMem_padZero 4 target
    cases condition <;> simp [render, Condition.describe, Condition.symbol, htarget]
  | jump target =>
    have htarget := Decimal.newline_notMem_padZero 4 target
    simp [render, htarget]

end Op

namespace Program

def listingLine (index : Nat) (op : Op) : List Char :=
  (Decimal.padZero 4 index).toList ++ (':' :: ' ' :: op.render.toList)

def ofLine? (line : List Char) : Option Op := Op.ofText? ((line.dropWhile (· ≠ ':')).drop 2)

def ofListing? (listing : String) : Option Program :=
  ((Text.lines listing.toList).dropLast.mapM ofLine?).map fun ops ↦ ⟨ops.toArray⟩

theorem toList_listing (p : Program) : p.listing.toList =
    Text.rows (p.ops.toList.zipIdx.map fun (op, index) ↦ listingLine index op) := by
  simp [listing, Text.rows, listingLine, List.flatMap_map]

theorem ofLine?_listingLine (index : Nat) (op : Op) : ofLine? (listingLine index op) = some op := by
  have hdigits : ∀ c ∈ (Decimal.padZero 4 index).toList, (decide (c ≠ ':')) = true := by
    intro c hc
    have hd := (Decimal.numeral_padZero 4 index).2 c hc
    refine decide_eq_true ?_
    rintro rfl
    cases hd
  rw [ofLine?, listingLine, List.dropWhile_append_of_pos hdigits]
  simpa using Op.ofText?_render op

theorem mapM_ofLine? (ops : List Op) (start : Nat) :
    ((ops.zipIdx start).map fun (op, index) ↦ listingLine index op).mapM ofLine? = some ops := by
  induction ops generalizing start with
  | nil => rfl
  | cons op ops ih => simp [ofLine?_listingLine, ih]

section

variable {p : Program} (h : ∀ op ∈ p.ops.toList, ∀ name ∈ op.name?, '\n' ∉ name.toList)

include h

theorem newline_notMem_listingLines :
    ∀ line ∈ p.ops.toList.zipIdx.map fun (op, index) ↦ listingLine index op, '\n' ∉ line := by
  intro line hline
  obtain ⟨⟨op, index⟩, hmem, rfl⟩ := List.mem_map.1 hline
  have hop := Op.newline_notMem_render (h op (List.fst_mem_of_mem_zipIdx hmem))
  simp [listingLine, Decimal.newline_notMem_padZero, hop]

theorem ofListing?_listing : ofListing? p.listing = some p := by
  have hlines := Text.lines_rows (newline_notMem_listingLines h) []
  have hempty : Text.lines [] = [[]] := rfl
  rw [List.append_nil, hempty, ← toList_listing] at hlines
  rw [ofListing?, hlines, List.dropLast_concat, mapM_ofLine?]
  rfl

end

end Program

def Instruction.name? : Instruction → Option String
  | .read name | .loadVariable name | .store name => some name
  | _ => none

namespace Grammar

theorem Tree.filterMap_name?_code {q : Production} (t : Tree q) (base exit : Nat) :
    (t.code base exit).filterMap Op.name? = t.instructions.filterMap Instruction.name? := by
  induction t generalizing base exit <;>
    simp [code, instructions, Op.name?, Instruction.name?, List.filterMap_cons, *]

theorem newline_notMem_name {source : String} {p : Program} (h : assemble source = .ok p) :
    ∀ op ∈ p.ops.toList, ∀ name ∈ op.name?, '\n' ∉ name.toList := by
  intro op hop name hname
  obtain ⟨tree, htree, -, rfl⟩ := assemble_eq_ok_iff.1 h
  have hmem : name ∈ tree.instructions.filterMap Instruction.name? := by
    rw [← tree.filterMap_name?_code 0 Op.pending]
    exact List.mem_filterMap.2 ⟨op, by simpa using hop, hname⟩
  obtain ⟨i, hi, hiname⟩ := List.mem_filterMap.1 hmem
  rw [← instructions_of_isTreeOf htree] at hi
  have hw := worded_of_mem_instructions source i hi
  cases i <;> cases hiname <;> exact Dialect.newline_notMem_of_letters hw

end Grammar

/-- The listing of op code from a source text tells the op code. It has one line for each op, which
begins with the index of the op in decimal, filled up with zeros to four digits and followed by a
colon. The op code is read back from it, so no other op code has the same listing. -/
theorem listing_tells_ops {source : String} {p : Program} (h : assemble source = .ok p) :
    (∃ lines : List (List Char), p.listing.toList = Text.rows lines ∧
      (∀ line ∈ lines, '\n' ∉ line) ∧ lines.length = p.ops.size ∧
      ∀ i line, lines[i]? = some line → ∃ rest, line =
        List.replicate (4 - (Nat.toDigits 10 i).length) '0' ++ (Nat.toDigits 10 i ++ ':' :: rest)) ∧
    Program.ofListing? p.listing = some p ∧
    ∀ other q, assemble other = .ok q → q.listing = p.listing → q.ops = p.ops := by
  have hnames := Grammar.newline_notMem_name h
  have hread := Program.ofListing?_listing hnames
  refine ⟨⟨_, p.toList_listing, Program.newline_notMem_listingLines hnames, by simp,
    fun i line hline ↦ ?_⟩, hread, fun other q hq hlisting ↦ ?_⟩
  · obtain ⟨op, -, rfl⟩ : ∃ op, p.ops[i]? = some op ∧ Program.listingLine i op = line := by
      simpa using hline
    exact ⟨' ' :: op.render.toList, by
      simp [Program.listingLine, Decimal.toList_padZero]⟩
  · have hread' := Program.ofListing?_listing (Grammar.newline_notMem_name hq)
    rw [hlisting, hread] at hread'
    cases hread'
    rfl

theorem listing_tells_ops_loop :
    assemble "BEGIN LOOP IFN load - 7 BREAK END END END" = .ok ⟨#[.loadVariable "load", .push,
      .load 7, .apply .subtract, .jumpUnless .negative 6, .jump 7, .jump 0, .halt]⟩ ∧
    Program.ofListing? ("0000: LOADV  load\n0001: PUSH\n0002: LOAD   7\n0003: POP    -\n" ++
      "0004: JPNOT  < 0, 0006\n0005: JP     0007\n0006: JP     0000\n0007: HALT\n") =
      some ⟨#[.loadVariable "load", .push, .load 7, .apply .subtract, .jumpUnless .negative 6,
        .jump 7, .jump 0, .halt]⟩ := by
  have h : assemble "BEGIN LOOP IFN load - 7 BREAK END END END" = .ok ⟨#[.loadVariable "load",
      .push, .load 7, .apply .subtract, .jumpUnless .negative 6, .jump 7, .jump 0, .halt]⟩ :=
    Grammar.assemble_eq_ok_iff.2 ⟨.program (.sequence (.loop (.sequence (.conditional .negative
      (.expression (.term (.unsigned (.identifier "load")) .noFactors)
        (.moreTerms .subtract rfl (.term (.unsigned (.integer "7")) .noFactors) .noTerms))
      (.sequence .leave .empty) .noAlternative) .empty)) .empty),
      ⟨by decide +kernel, by decide⟩, by decide +kernel, by decide +kernel⟩
  exact ⟨h, (listing_tells_ops h).2.1⟩

end RegisterLang
