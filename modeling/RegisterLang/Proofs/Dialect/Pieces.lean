import Mathlib.Data.List.Infix
import RegisterLang.Dialect.Target
import RegisterLang.Proofs.Dialect.Block
import RegisterLang.Proofs.Grammar.Acceptance
import RegisterLang.Proofs.Token.Scan
import RegisterLang.Toolchain

namespace RegisterLang

/-- The smallest parts of a text: words, quoted texts and marks of one character. -/
inductive Piece where
  | word (text : String)
  | quoted (text : String)
  | mark (c : Char)
  deriving DecidableEq, Repr

/-- Where a reader stands: between two pieces, or inside one whose letters it has, the last one
first. -/
inductive Reading where
  | between
  | word (letters : List Char)
  | quoted (letters : List Char)
  deriving DecidableEq, Repr

/-- How a target language is spelled: which characters part pieces without being one, which ones end
a phrase, and what the phrases mean. -/
structure Spelling where
  isBlank : Char → Bool
  isEnd : Char → Bool
  clause? : List Piece → Char → Option Clause

namespace Spelling

variable (l : Spelling)

def next (c : Char) : Reading → List Piece × Reading
  | .quoted letters =>
    if c = '"' then ([.quoted (String.ofList letters.reverse)], .between)
    else ([], .quoted (c :: letters))
  | .word letters =>
    if Lexeme.isLetter c || Lexeme.isDigit c then ([], .word (c :: letters))
    else
      let (pieces, r) := gap c
      (.word (String.ofList letters.reverse) :: pieces, r)
  | .between => if Lexeme.isLetter c || Lexeme.isDigit c then ([], .word [c]) else gap c
where
  gap (c : Char) : List Piece × Reading :=
    if l.isBlank c then ([], .between)
    else if c = '"' then ([], .quoted [])
    else ([.mark c], .between)

def pieces : Reading → List Char → List Piece × Reading
  | r, [] => ([], r)
  | r, c :: cs =>
    let (done, r) := l.next c r
    let (more, r) := pieces r cs
    (done ++ more, r)

def phrases : List Piece → List Piece → List (List Piece × Char) × List Piece
  | sofar, [] => ([], sofar)
  | sofar, piece :: more =>
    match piece with
    | .mark c =>
      if l.isEnd c then
        let (done, rest) := phrases [] more
        ((sofar, c) :: done, rest)
      else phrases (sofar ++ [piece]) more
    | _ => phrases (sofar ++ [piece]) more

def phrases? (text : List Char) : Option (List (List Piece × Char)) :=
  match l.pieces .between text with
  | (pieces, .between) =>
    match l.phrases [] pieces with
    | (phrases, []) => some phrases
    | _ => none
  | _ => none

def clauses? (text : List Char) : Option (List Clause) :=
  (l.phrases? text).bind fun phrases ↦ phrases.mapM fun phrase ↦ l.clause? phrase.1 phrase.2

theorem pieces_append (r : Reading) (xs ys : List Char) :
    l.pieces r (xs ++ ys) =
      ((l.pieces r xs).1 ++ (l.pieces (l.pieces r xs).2 ys).1,
        (l.pieces (l.pieces r xs).2 ys).2) := by
  induction xs generalizing r with
  | nil => rfl
  | cons x xs ih => simp [pieces, ih]

theorem phrases_append (sofar xs ys : List Piece) :
    l.phrases sofar (xs ++ ys) =
      ((l.phrases sofar xs).1 ++ (l.phrases (l.phrases sofar xs).2 ys).1,
        (l.phrases (l.phrases sofar xs).2 ys).2) := by
  induction xs generalizing sofar with
  | nil => rfl
  | cons x xs ih =>
    cases x with
    | word | quoted => simp [phrases, ih]
    | mark c => by_cases hc : l.isEnd c <;> simp [phrases, hc, ih]

variable {l} {xs ys : List Char} {fs gs : List (List Piece × Char)} {cs ds : List Clause}

theorem phrases?_eq_some : l.phrases? xs = some fs ↔
    ∃ ps, l.pieces .between xs = (ps, .between) ∧ l.phrases [] ps = (fs, []) := by
  constructor
  · intro h
    rw [phrases?] at h
    split at h
    · next ps hp =>
      split at h
      · next gs hf =>
        cases h
        exact ⟨ps, hp, hf⟩
      · cases h
    · cases h
  · rintro ⟨ps, hp, hf⟩
    simp only [phrases?, hp, hf]

theorem phrases?_append (h : l.phrases? xs = some fs) (h' : l.phrases? ys = some gs) :
    l.phrases? (xs ++ ys) = some (fs ++ gs) := by
  obtain ⟨ps, hp, hf⟩ := phrases?_eq_some.1 h
  obtain ⟨qs, hq, hg⟩ := phrases?_eq_some.1 h'
  refine phrases?_eq_some.2 ⟨ps ++ qs, ?_, ?_⟩
  · simp [pieces_append, hp, hq]
  · simp [phrases_append, hf, hg]

theorem clauses?_eq_some : l.clauses? xs = some cs ↔
    ∃ fs, l.phrases? xs = some fs ∧
      fs.mapM (fun phrase ↦ l.clause? phrase.1 phrase.2) = some cs := by
  rw [clauses?, Option.bind_eq_some_iff]

theorem clauses?_of_pieces {ps : List Piece} (hp : l.pieces .between xs = (ps, .between))
    (hf : l.phrases [] ps = (fs, []))
    (hc : fs.mapM (fun phrase ↦ l.clause? phrase.1 phrase.2) = some cs) :
    l.clauses? xs = some cs :=
  clauses?_eq_some.2 ⟨fs, phrases?_eq_some.2 ⟨ps, hp, hf⟩, hc⟩

theorem clauses?_append (h : l.clauses? xs = some cs) (h' : l.clauses? ys = some ds) :
    l.clauses? (xs ++ ys) = some (cs ++ ds) := by
  obtain ⟨fs, hf, hc⟩ := clauses?_eq_some.1 h
  obtain ⟨gs, hg, hd⟩ := clauses?_eq_some.1 h'
  refine clauses?_eq_some.2 ⟨fs ++ gs, phrases?_append hf hg, ?_⟩
  simp [List.mapM_append, hc, hd]

theorem pieces_quoted {name : List Char} (h : '"' ∉ name) (letters : List Char) :
    l.pieces (.quoted letters) name = ([], .quoted (name.reverse ++ letters)) := by
  induction name generalizing letters with
  | nil => rfl
  | cons c name ih =>
    simp only [List.mem_cons, not_or] at h
    simp [pieces, next, Ne.symm h.1, ih h.2]

theorem pieces_word {digits : List Char} (h : ∀ c ∈ digits, Lexeme.isDigit c = true)
    (letters : List Char) :
    l.pieces (.word letters) digits = ([], .word (digits.reverse ++ letters)) := by
  induction digits generalizing letters with
  | nil => rfl
  | cons c digits ih =>
    simp only [List.forall_mem_cons] at h
    simp [pieces, next, h.1, ih h.2]

theorem pieces_digits {digits : List Char} (hne : digits ≠ [])
    (h : ∀ c ∈ digits, Lexeme.isDigit c = true) :
    l.pieces .between digits = ([], .word digits.reverse) := by
  obtain ⟨c, digits, rfl⟩ := List.exists_cons_of_ne_nil hne
  simp only [List.forall_mem_cons] at h
  simp [pieces, next, h.1, pieces_word h.2]

theorem pieces_replicate {c : Char} (h : l.next c .between = ([], .between)) (n : Nat) :
    l.pieces .between (List.replicate n c) = ([], .between) := by
  induction n with
  | zero => rfl
  | succ n ih => simp [List.replicate_succ, pieces, h, ih]

theorem phrases?_indent (hs : l.next ' ' .between = ([], .between)) (depth : Nat) :
    l.phrases? (Dialect.indent depth).toList = some [] := by
  refine phrases?_eq_some.2 ⟨[], ?_, rfl⟩
  rw [Dialect.indent, String.toList_ofList, pieces_replicate hs]

theorem phrases?_line (hs : l.next ' ' .between = ([], .between))
    (hn : l.next '\n' .between = ([], .between)) {code : String}
    (h : l.phrases? code.toList = some fs) (depth : Nat) :
    l.phrases? (Dialect.line depth code).toList = some fs := by
  have he : l.phrases? "\n".toList = some [] := phrases?_eq_some.2 ⟨[], by simp [pieces, hn], rfl⟩
  have hl := phrases?_append (phrases?_append (phrases?_indent hs depth) h) he
  simpa [Dialect.line] using hl

theorem clauses?_line (hs : l.next ' ' .between = ([], .between))
    (hn : l.next '\n' .between = ([], .between)) {code : String}
    (h : l.clauses? code.toList = some cs) (depth : Nat) :
    l.clauses? (Dialect.line depth code).toList = some cs := by
  obtain ⟨fs, hf, hc⟩ := clauses?_eq_some.1 h
  exact clauses?_eq_some.2 ⟨fs, phrases?_line hs hn hf depth, hc⟩

end Spelling

/-- An instruction whose names are letters and whose integers are digits, and that stands inside a
program. -/
def Instruction.Plain : Instruction → Prop
  | .programStart | .programEnd => False
  | .read name | .loadVariable name | .store name => Kind.identifier.Spells name
  | .loadInteger text =>
    Kind.integer.Spells text ∧ (Decimal.readInt64? text.toList).isSome = true
  | _ => True

theorem quote_notMem {name : String} (h : Kind.identifier.Spells name) : '"' ∉ name.toList :=
  fun hq ↦ absurd (h.2 _ hq) (by decide)

theorem Spelling.pieces_name (l : Spelling) (before after : String) (ps qs : List Piece)
    {name : String} (h : Kind.identifier.Spells name)
    (hb : l.pieces .between before.toList = (ps, .quoted []))
    (ha : ∀ letters, l.pieces (.quoted letters) after.toList =
      (.quoted (String.ofList letters.reverse) :: qs, .between)) :
    l.pieces .between (before ++ name ++ after).toList = (ps ++ .quoted name :: qs, .between) := by
  simp [pieces_append, hb, pieces_quoted (quote_notMem h), ha]

theorem Spelling.pieces_integer (l : Spelling) (before after : String) (ps qs : List Piece)
    {text : String} (h : Kind.integer.Spells text)
    (hb : l.pieces .between before.toList = (ps, .between))
    (ha : ∀ letters, l.pieces (.word letters) after.toList =
      (.word (String.ofList letters.reverse) :: qs, .between)) :
    l.pieces .between (before ++ text ++ after).toList = (ps ++ .word text :: qs, .between) := by
  simp [pieces_append, hb, pieces_digits h.1 h.2, ha]

namespace Grammar

theorem spells_of_mem_words {tree : Tree .program} {source : String} (h : IsTreeOf tree source) :
    ∀ w ∈ tree.words, w.1.Spells w.2 := by
  intro w hw
  obtain ⟨t, ht, rfl⟩ := List.mem_map.1 (h.derives.subset hw)
  have hs := Tokens.spells_of_mem_ofSource (List.mem_filter.1 ht).1
  cases hl : t.kind.literal with
  | some text => exact Kind.spells_of_literal (by rw [Token.word, hl]; rfl) _
  | none => simpa [Token.word, Token.text, hl] using hs

theorem plain_of_mem_instructions {q : Production} (t : Tree q) (inLoop : Bool)
    (hq : q.isProgram = false) (hw : ∀ w ∈ t.words, w.1.Spells w.2) (hf : t.fault? inLoop = none) :
    ∀ i ∈ t.instructions, i.Plain := by
  induction t generalizing inLoop with
  | program => cases hq
  | empty | noAlternative | noTerms | noFactors => exact List.forall_mem_nil _
  | sequence first more ihf ihm | expression first more ihf ihm | term first more ihf ihm =>
    simp only [Tree.words, List.forall_mem_append] at hw
    simp only [Tree.fault?, Option.or_eq_none_iff] at hf
    exact List.forall_mem_append.2 ⟨ihf inLoop rfl hw.1 hf.1, ihm inLoop rfl hw.2 hf.2⟩
  | conditional condition test body other iht ihb iho =>
    simp only [Tree.words, List.forall_mem_append, List.forall_mem_cons] at hw
    simp only [Tree.fault?, Option.or_eq_none_iff] at hf
    simp only [Tree.instructions, List.forall_mem_append, List.forall_mem_cons]
    exact ⟨iht inLoop rfl hw.2.1 hf.1, trivial, ihb inLoop rfl hw.2.2.1 hf.2.1,
      iho inLoop rfl hw.2.2.2.1 hf.2.2, trivial, List.forall_mem_nil _⟩
  | loop body ih =>
    simp only [Tree.words, List.forall_mem_append, List.forall_mem_cons] at hw
    simp only [Tree.instructions, List.forall_mem_append, List.forall_mem_cons]
    exact ⟨trivial, ih true rfl hw.2.1 hf, trivial, List.forall_mem_nil _⟩
  | leave => exact List.forall_mem_singleton.2 trivial
  | print value ih | minus value ih =>
    simp only [Tree.words, List.forall_mem_cons] at hw
    exact List.forall_mem_append.2 ⟨ih inLoop rfl hw.2 hf, List.forall_mem_singleton.2 trivial⟩
  | read into ih =>
    simp only [Tree.words, List.forall_mem_cons] at hw
    exact ih inLoop rfl hw.2 (by cases into; rfl)
  | assign name value ih =>
    simp only [Tree.words, List.forall_mem_cons] at hw
    exact List.forall_mem_append.2 ⟨ih inLoop rfl hw.2.2 hf, List.forall_mem_singleton.2 hw.1⟩
  | otherwise body ih =>
    simp only [Tree.words, List.forall_mem_cons] at hw
    exact List.forall_mem_cons.2 ⟨trivial, ih inLoop rfl hw.2 hf⟩
  | target name | identifier name => exact List.forall_mem_singleton.2 (hw _ (.head _))
  | integer text =>
    have hv : (Decimal.readInt64? text.toList).isSome = true := by
      simpa [Tree.fault?, Option.isSome_iff_ne_none] using hf
    exact List.forall_mem_singleton.2 ⟨hw _ (.head _), hv⟩
  | moreTerms operation _ next more ihn ihm | moreFactors operation _ next more ihn ihm =>
    simp only [Tree.words, List.forall_mem_append, List.forall_mem_cons] at hw
    simp only [Tree.fault?, Option.or_eq_none_iff] at hf
    simp only [Tree.instructions, List.forall_mem_append, List.forall_mem_cons]
    exact ⟨trivial, ihn inLoop rfl hw.2.1 hf.1, trivial, ihm inLoop rfl hw.2.2 hf.2⟩
  | unsigned factor ih => exact ih inLoop rfl hw hf
  | plus factor ih =>
    simp only [Tree.words, List.forall_mem_cons] at hw
    exact ih inLoop rfl hw.2 hf
  | group inner ih =>
    simp only [Tree.words, List.forall_mem_append, List.forall_mem_cons] at hw
    exact ih inLoop rfl hw.2.1 hf

end Grammar

namespace Dialect

/-- A way to read clauses off what a dialect writes inside a program. -/
structure Readable (d : Dialect) (clauses? : List Char → Option (List Clause)) : Prop where
  nil : clauses? [] = some []
  append : ∀ {xs ys cs ds}, clauses? xs = some cs → clauses? ys = some ds →
    clauses? (xs ++ ys) = some (cs ++ ds)
  write : ∀ {i : Instruction}, i.Plain → ∀ depth,
    clauses? (d.write depth i).1.toList = some i.clauses

variable {d : Dialect} {clauses? : List Char → Option (List Clause)}

theorem Readable.exists_text_of_foldl (hd : d.Readable clauses?) {is : List Instruction}
    (h : ∀ i ∈ is, i.Plain) (draft : Draft) :
    ∃ text, (is.foldl (Draft.give d) draft).text.toList = draft.text.toList ++ text ∧
      clauses? text = some (is.flatMap Instruction.clauses) := by
  induction is generalizing draft with
  | nil => exact ⟨[], by simp, hd.nil⟩
  | cons i is ih =>
    simp only [List.forall_mem_cons] at h
    obtain ⟨text, ht, hc⟩ := ih h.2 (Draft.give d draft i)
    refine ⟨(d.write draft.depth i).1.toList ++ text, ?_, ?_⟩
    · rw [List.foldl_cons, ht, Draft.give, String.toList_append, List.append_assoc]
    · exact hd.append (hd.write h.1 draft.depth) hc

/-- What stands between the header and the footer of a text that has some declarations, each of them
line by line. -/
def body? (d : Dialect) (declarations : List (List String)) (text : String) : Option (List Char) :=
  if ∀ declaration ∈ declarations, (lines declaration).toList <:+: text.toList then do
    let rest ← text.toList.dropPrefix? d.header.toList
    rest.dropSuffix? d.footer.toList
  else none

theorem body?_of_lines {texts : List String} {declarations : List (List String)}
    (ht : d.header = lines texts) (h : ∀ declaration ∈ declarations, declaration <:+: texts)
    {text : String} {body : List Char}
    (hall : text.toList = d.header.toList ++ (body ++ d.footer.toList)) :
    d.body? declarations text = some body := by
  have hrest : (d.header.toList ++ (body ++ d.footer.toList)).dropPrefix? d.header.toList =
      some (body ++ d.footer.toList) := List.dropPrefix?_append_of_beq _ BEq.rfl
  rw [body?, if_pos, hall, hrest]
  · exact List.dropSuffix?_eq_some_iff.2 ⟨_, rfl, BEq.rfl⟩
  · intro declaration hd
    obtain ⟨before, after, rfl⟩ := h declaration hd
    refine ⟨(lines before).toList, (lines after).toList ++ (body ++ d.footer.toList), ?_⟩
    simp [hall, ht, lines]

open Grammar in
/-- The text of a tree holds the block of the tree, between what is written for all programs. -/
theorem Readable.exists_body (hd : d.Readable clauses?) {tree : Tree .program} {source : String}
    (h : IsTreeOf tree source) (hf : tree.fault? false = none) :
    ∃ body, (renderIn d source).1.toList = d.header.toList ++ (body ++ d.footer.toList) ∧
      (clauses? body).bind Nest.block? = some (tree.block .done) := by
  have hw := spells_of_mem_words h
  simp only [renderIn, compile_of_isTreeOf h]
  cases tree with
  | program tree =>
    simp only [Tree.words, List.forall_mem_append, List.forall_mem_cons] at hw
    obtain ⟨body, hbody, hc⟩ := hd.exists_text_of_foldl
      (plain_of_mem_instructions tree false rfl hw.2.1 hf) (Draft.give d {} .programStart)
    refine ⟨body, ?_, ?_⟩
    · rw [Tree.instructions, List.foldl_cons, List.foldl_append, List.foldl_cons, List.foldl_nil,
        Draft.give]
      simp only [Dialect.write, String.toList_append]
      rw [hbody]
      simp [Draft.give, Dialect.write]
    · rw [hc]
      exact block?_clauses tree

end Dialect

end RegisterLang
