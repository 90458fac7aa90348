import RegisterLang.Dialect.Basic
import RegisterLang.Failure

namespace RegisterLang

def assemble (source : String) : Except Failure Program :=
  match Grammar.compile Assembler.give {} source with
  | (_, .error e) => .error (.source e)
  | (a, .ok ()) =>
    match a.finish with
    | .ok program => .ok program
    | .error fault => .error (.assembly fault)

def renderIn (d : Dialect) (source : String) : String × Except SourceError Unit :=
  let (draft, result) := Grammar.compile (Draft.give d) {} source
  (draft.text, result)

end RegisterLang
