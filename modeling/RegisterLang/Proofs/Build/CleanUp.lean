import RegisterLang.Build.Plan
import RegisterLang.Dialect.Target

namespace RegisterLang

namespace Disk

/-- Another disk on which all but files is the same and no link is new, so that paths that lead
somewhere lead to the same places. -/
structure KeepsWays (d d' : Disk) : Prop where
  here : d'.here = d.here
  ways : ∀ p node, d.get? p = some node → node.isFile = false → d'.get? p = some node
  links : ∀ p node, d'.get? p = some node → node.isLink = true → d.get? p = some node

variable {d d' : Disk} {path : String} {p q : Place}

theorem isFile_of_isDirectory {node : Node} (h : node.isDirectory = true) :
    node.isFile = false := by
  obtain ⟨content, _⟩ := node
  cases content <;> simp_all [Node.isDirectory, Node.isFile]

theorem isLink_of_isFile {node : Node} (h : node.isFile = true) : node.isLink = false := by
  obtain ⟨content, _⟩ := node
  cases content <;> simp_all [Node.isFile, Node.isLink]

theorem KeepsWays.refl (d : Disk) : KeepsWays d d := ⟨rfl, fun _ _ h _ ↦ h, fun _ _ h _ ↦ h⟩

theorem KeepsWays.walk (h : KeepsWays d d') {follow : Bool} {n links : Nat} {names : List String}
    (hw : d.walk follow n links p names = .ok q) (m : Nat) :
    d'.walk follow (n + m) links p names = .ok q := by
  have hdirectory : ∀ {p node}, d.get? p = some node → ¬ (!node.isDirectory) = true →
      d'.get? p = some node := fun hp hd ↦
    h.ways _ _ hp (isFile_of_isDirectory (by simpa using hd))
  fun_induction Disk.walk d follow n links p names with
  | case1 => simpa [Disk.walk] using hw
  | case2 | case3 | case4 | case5 | case8 | case10 => cases hw
  | case6 n links p rest node hp hd hx ih | case7 n links p rest node hp hd hx _ ih =>
    rw [Nat.succ_add, Disk.walk, hdirectory hp hd]
    simpa [hd, hx] using ih hw
  | case9 n links p name rest node hp hd hx hdot hdots hlimit _ target _ _ _ _ hq hlast =>
    have hlink : d'.get? (p ++ [name]) = _ := h.ways _ _ hq rfl
    rw [Nat.succ_add, Disk.walk, hdirectory hp hd]
    simp only [hd, hx, hdot, hdots, hlimit, hlink, hlast, Bool.false_eq_true, if_false, if_true]
    exact hw
  | case11 n p name rest node hp hd hx hdot hdots hlimit _ target _ _ _ _ hq hlast links ih =>
    have hlink : d'.get? (p ++ [name]) = _ := h.ways _ _ hq rfl
    rw [Nat.succ_add, Disk.walk, hdirectory hp hd]
    simp only [hd, hx, hdot, hdots, hlimit, hlink, hlast, Bool.false_eq_true, if_false]
    exact ih hw
  | case12 n links p name rest node hp hd hx hdot hdots hlimit _ hq ih =>
    rw [Nat.succ_add, Disk.walk, hdirectory hp hd]
    simp only [hd, hx, hdot, hdots, hlimit, Bool.false_eq_true, if_false]
    split
    · next target mode owned modified accessed hlink =>
      exact absurd (h.links _ _ hlink rfl) (hq target mode owned modified accessed)
    · exact ih hw

theorem KeepsWays.locate (h : KeepsWays d d') {follow : Bool}
    (hl : d.locate path follow = .ok p) : d'.locate path follow = .ok p := by
  unfold Disk.locate at hl ⊢
  split at hl
  · cases hl
  split at hl
  · cases hl
  split at hl
  · cases hl
  · rw [h.here]
    simp only [*, if_false]
    exact h.walk hl 0

theorem look_eq_ok_iff {follow : Bool} {node : Node} : d.look path follow = .ok (p, node) ↔
    d.locate path follow = .ok p ∧ d.get? p = some node ∧
      (wantsDirectory path = true → node.isDirectory = true) := by
  rw [look]
  cases hl : d.locate path follow with
  | error fault => simp [bind, Except.bind]
  | ok q =>
    simp only [bind, Except.bind, Except.ok.injEq]
    cases hq : d.get? q with
    | none =>
      simp only [reduceCtorEq, false_iff, not_and]
      rintro rfl hp
      simp [hp] at hq
    | some found =>
      by_cases hdir : wantsDirectory path && !found.isDirectory
      · simp only [hdir, if_true, reduceCtorEq, false_iff, not_and]
        rintro rfl hp
        simp_all
      · simp only [hdir, Bool.false_eq_true, if_false, Except.ok.injEq, Prod.mk.injEq]
        constructor
        · rintro ⟨rfl, rfl⟩
          exact ⟨rfl, hq, by simpa using hdir⟩
        · rintro ⟨rfl, hp, -⟩
          exact ⟨rfl, Option.some_inj.1 (hq.symm.trans hp)⟩

theorem get?_eq_of_ref? {n : Nat} (h : d.ref? p = some (.own n)) : d.get? p = d.nodes[n]? := by
  rw [get?, h]
  rfl

theorem get?_modify {n : Nat} {f : Node → Node} (p : Place) : (d.modify (.own n) f).get? p =
    if d.ref? p = some (.own n) then (d.get? p).map f else d.get? p := by
  have href : (d.modify (.own n) f).ref? p = d.ref? p := rfl
  rw [get?, href, get?]
  cases h : d.ref? p with
  | none => simp
  | some r =>
    cases r with
    | own m =>
      simp only [Option.bind_some, node?, modify, Array.getElem?_modify, Option.some_inj,
        Ref.own.injEq, eq_comm]
    | fixed place => simp [node?]

theorem lookup_filter (entries : List (Place × Nat)) (p q : Place) :
    (entries.filter (·.1 ≠ p)).lookup q = if q = p then none else entries.lookup q := by
  induction entries with
  | nil => simp
  | cons e entries ih =>
    obtain ⟨r, n⟩ := e
    by_cases hr : r = p
    · subst hr
      rw [List.filter_cons_of_neg (by simp), ih]
      by_cases hq : q = r
      · rw [if_pos hq, if_pos hq]
      · rw [if_neg hq, if_neg hq, List.lookup_cons, beq_eq_false_iff_ne.2 hq]
    · rw [List.filter_cons_of_pos (by simpa using hr), List.lookup_cons, List.lookup_cons, ih]
      by_cases hq : q = r
      · subst hq
        simp [hr]
      · rw [beq_eq_false_iff_ne.2 hq]

theorem get?_erase (hsystem : Node.ofSystem? p = none) (q : Place) :
    (d.erase p).get? q = if q = p then none else d.get? q := by
  have href : (d.erase p).ref? q = if q = p then none else d.ref? q := by
    simp only [ref?, erase, lookup_filter]
    by_cases hq : q = p
    · simp [hq, hsystem]
    · simp [hq]
  have hnode : (d.erase p).node? = d.node? := by
    funext r
    cases r <;> rfl
  rw [get?, href, hnode]
  by_cases hq : q = p
  · rw [if_pos hq, if_pos hq]
    rfl
  · rw [if_neg hq, if_neg hq]
    rfl

theorem get?_add_self (node : Node) : (d.add p node).get? p =
    some { node with modified := d.now, accessed := d.now } := by
  have href : (d.add p node).ref? p = some (.own d.nodes.size) := by
    simp only [ref?, add, List.lookup_append, lookup_filter]
    simp
  rw [get?_eq_of_ref? href]
  simp [add]

theorem ref?_add_of_ne {node : Node} (hq : q ≠ p) : (d.add p node).ref? q = d.ref? q := by
  have hlookup : ([(p, d.nodes.size)] : List (Place × Nat)).lookup q = none := by
    rw [List.lookup_cons, beq_eq_false_iff_ne.2 hq]
    rfl
  simp only [ref?, add, List.lookup_append, lookup_filter, if_neg hq, hlookup, Option.or_none]

theorem node?_add {node : Node} {r : Ref} : (d.add p node).node? r =
    if r = .own d.nodes.size then some { node with modified := d.now, accessed := d.now }
      else d.node? r := by
  cases r with
  | own m => simp [node?, add, Array.getElem?_push]
  | fixed place => rfl

theorem keepsWays_modify {n : Nat} {f : Node → Node} {file : Node} (hn : d.nodes[n]? = some file)
    (hfile : file.isFile = true) (hf : (f file).isFile = true) :
    KeepsWays d (d.modify (.own n) f) where
  here := rfl
  ways p node hp hnode := by
    rw [get?_modify]
    split
    · next href =>
      rw [get?_eq_of_ref? href, hn] at hp
      obtain rfl := Option.some_inj.1 hp
      simp [hfile] at hnode
    · exact hp
  links p node hp hnode := by
    rw [get?_modify] at hp
    split at hp
    · next href =>
      rw [get?_eq_of_ref? href, hn] at hp
      obtain rfl := Option.some_inj.1 hp
      simp [isLink_of_isFile hf] at hnode
    · exact hp

theorem keepsWays_add {node : Node} (hp : d.get? p = none) (hnode : node.isFile = true) :
    KeepsWays d (d.add p node) where
  here := rfl
  ways q found hq _ := by
    have hne : q ≠ p := by
      rintro rfl
      simp [hp] at hq
    obtain ⟨r, href, hr⟩ := Option.bind_eq_some_iff.1 hq
    rw [get?, ref?_add_of_ne hne, href, Option.bind_some, node?_add, if_neg]
    · exact hr
    · rintro rfl
      simp [node?] at hr
  links q found hq hlink := by
    by_cases hne : q = p
    · subst hne
      rw [get?_add_self] at hq
      obtain rfl := Option.some_inj.1 hq
      exact absurd (isLink_of_isFile hnode) (by simpa [Node.isLink] using hlink)
    · rw [get?, ref?_add_of_ne hne] at hq
      obtain ⟨r, href, hr⟩ := Option.bind_eq_some_iff.1 hq
      rw [node?_add] at hr
      split at hr
      · obtain rfl := Option.some_inj.1 hr
        exact absurd (isLink_of_isFile hnode) (by simpa [Node.isLink] using hlink)
      · rw [get?, href, Option.bind_some]
        exact hr

theorem keepsWays_erase {file : Node} (hp : d.get? p = some file) (hfile : file.isFile = true)
    (hsystem : Node.ofSystem? p = none) : KeepsWays d (d.erase p) where
  here := rfl
  ways q node hq hnode := by
    rw [get?_erase hsystem, if_neg]
    · exact hq
    · rintro rfl
      obtain rfl := Option.some_inj.1 (hp.symm.trans hq)
      simp [hfile] at hnode
  links q node hq _ := by
    rw [get?_erase hsystem] at hq
    split at hq
    · cases hq
    · exact hq

/-- What a path leads to is no directory, and if it is a file then it holds just these bytes. -/
def Stores (d : Disk) (path : String) (bytes : List UInt8) : Prop :=
  ∃ p node, d.look path = .ok (p, node) ∧ node.isDirectory = false ∧
    (node.isFile = true → node.content = .file ⟨bytes.toArray⟩)

/-- Whether a path leads to a file, not one of the system, in a directory that may be changed. -/
def canRemove (d : Disk) (path : String) : Bool :=
  match d.look path false with
  | .ok (p, node) =>
    node.isFile && (Node.ofSystem? p).isNone && (d.checkDirectory p.dropLast).toOption.isSome
  | .error _ => false

theorem allows_write_of_ofSystem? {node : Node} (h : Node.ofSystem? p = some node)
    (hfile : node.isFile = true) : node.allows .write = false := by
  unfold Node.ofSystem? at h
  split at h
  · cases h
    cases hfile
  · split at h
    · cases h
      cases hfile
    · split at h <;> cases h <;> cases hfile
  · split at h <;> cases h
    cases hfile
  · split at h <;> cases h
    cases hfile
  · split at h <;> cases h
    simp [Node.ofSystem, Node.allows, Permission.bit]
  · split at h
    · cases h
      cases hfile
    · obtain ⟨device, -, rfl⟩ := Option.map_eq_some_iff.1 h
      cases hfile
  · obtain ⟨number, -, hn⟩ := Option.bind_eq_some_iff.1 h
    split at hn <;> cases hn
    cases hfile
  · cases h
    cases hfile
  · cases h
    simp [Node.ofSystem, Node.allows, Permission.bit]
  · cases h

theorem stores_of_write {bytes : List UInt8} (h : d.write path bytes = .ok d') :
    d'.Stores path bytes := by
  unfold write at h
  cases hl : d.locate path with
  | error fault => rw [hl] at h; cases h
  | ok p =>
    simp only [hl, bind, Except.bind] at h
    split at h
    · cases h
    next hwants =>
    split at h
    · next ref node href hp =>
      split at h
      · cases h
      · next old hold =>
        have hfile : node.isFile = true := by rw [Node.isFile, hold]
        split at h <;> cases h
        next hallows =>
        have hfound := hp
        rw [get?, href, Option.bind_some] at hfound
        cases ref with
        | fixed place => simp [allows_write_of_ofSystem? hfound hfile] at hallows
        | own n =>
          refine ⟨p, { node with content := .file ⟨bytes.toArray⟩, modified := d.now },
            look_eq_ok_iff.2 ⟨(keepsWays_modify hfound hfile rfl).locate hl, ?_, by simp [hwants]⟩,
            rfl, fun _ ↦ rfl⟩
          rw [get?_modify, if_pos href, hp]
          rfl
      · next hdirectory hfile =>
        split at h <;> cases h
        refine ⟨p, node, look_eq_ok_iff.2 ⟨hl, hp, by simp [hwants]⟩, ?_, ?_⟩
        · rw [Node.isDirectory]
          split <;> simp_all
        · rw [Node.isFile]
          split <;> simp_all
    · next hnone =>
      have hp : d.get? p = none := by
        rw [Option.eq_none_iff_forall_ne_some]
        intro node hnode
        obtain ⟨ref, href, -⟩ := Option.bind_eq_some_iff.1 hnode
        exact hnone ref node href hnode
      simp only [create, bind, Except.bind] at h
      split at h <;> cases h
      exact ⟨p, _, look_eq_ok_iff.2
        ⟨(keepsWays_add hp rfl).locate hl, get?_add_self _, by simp [hwants]⟩, rfl, fun _ ↦ rfl⟩

theorem look_of_remove (h : d.canRemove path = true) :
    ∃ d', d.remove path = .ok d' ∧ d'.look path false = .error .noSuchFile := by
  unfold canRemove at h
  split at h
  · next p node hlook =>
    simp only [Bool.and_eq_true, Option.isNone_iff_eq_none] at h
    obtain ⟨⟨hfile, hsystem⟩, hdirectory⟩ := h
    obtain ⟨hl, hp, -⟩ := look_eq_ok_iff.1 hlook
    have hlocate := (keepsWays_erase hp hfile hsystem).locate hl
    have hnone : (d.erase p).get? p = none := by rw [get?_erase hsystem, if_pos rfl]
    refine ⟨d.erase p, ?_, by simp only [look, hlocate, bind, Except.bind, hnone]⟩
    have hd : node.isDirectory = false :=
      Bool.eq_false_iff.2 fun hd ↦ by simp [isFile_of_isDirectory hd] at hfile
    cases hcheck : d.checkDirectory p.dropLast with
    | error fault => simp [hcheck, Except.toOption] at hdirectory
    | ok =>
      simp only [remove, hlook, bind, Except.bind, hd, hcheck]
      rfl
  · cases h

end Disk

namespace World

variable {w written : World} {path : String}

theorem stores_of_write {bytes : List UInt8} (h : w.write path bytes = (written, .ok ())) :
    written.disk.Stores path bytes := by
  unfold write at h
  split at h <;> cases h
  next disk hdisk => exact Disk.stores_of_write hdisk

theorem write_of_isSome {bytes : List UInt8} (h : (w.write path bytes).2.toOption.isSome = true) :
    ∃ written, w.write path bytes = (written, .ok ()) := by
  unfold write at h ⊢
  split at h
  · exact ⟨_, rfl⟩
  · cases h

theorem write_of_error {bytes : List UInt8} {fault : SystemFault}
    (h : (w.write path bytes).2 = .error fault) : w.write path bytes = (w, .error fault) := by
  unfold write at h ⊢
  split at h <;> cases h
  rfl

theorem look_of_remove (h : w.disk.canRemove path = true) :
    (w.remove path).1.disk.look path false = .error .noSuchFile := by
  obtain ⟨disk, hremove, hlook⟩ := Disk.look_of_remove h
  rw [remove, hremove]
  exact hlook

end World

namespace Plan

def Runs (p : Plan) (building : Except SystemFault Ending) : Prop :=
  p.runAndDelete = true ∧ building = .ok (.exited 0)

/-- How a plan goes once its text is `written`. The build command leaves `built`, the text is taken
away from that and leaves `tidied`, and if the program is run it leaves `ran` and is taken away in
its turn; `last` is what is there in the end. -/
structure TidiesUp (p : Plan) (recipe : Recipe) (exec : Executor)
    (written built tidied ran last : World) (building running : Except SystemFault Ending)
    (removal : Except SystemFault Unit) (result : Except Failure Unit) : Prop where
  build : exec (recipe.buildCommand p.path) written = (built, building)
  keep : p.keepIntermediate = true → tidied = built
  remove : p.keepIntermediate = false → tidied = (built.remove (recipe.intermediatePath p.path)).1
  text_gone : p.keepIntermediate = false →
    built.disk.canRemove (recipe.intermediatePath p.path) = true →
      tidied.disk.look (recipe.intermediatePath p.path) false = .error .noSuchFile
  no_run : ¬ p.Runs building → last = tidied
  run : p.Runs building → exec p.runCommand tidied = (ran, running) ∧
    ran.remove p.path = (last, removal)
  program_gone : p.Runs building → ran.disk.canRemove p.path = true →
    last.disk.look p.path false = .error .noSuchFile
  build_failure : ∀ command code, result = .error (.build command code) ↔
    ∃ ending, building = .ok ending ∧ ending ≠ .exited 0 ∧
      command = recipe.buildCommand p.path ∧ code = ending.code?
  run_failure : ∀ command code, result = .error (.run command code) ↔
    p.Runs building ∧ ∃ ending, running = .ok ending ∧ ending ≠ .exited 0 ∧
      command = p.runCommand ∧ code = ending.code?
  system_failure : ∀ fault, result = .error (.system fault) ↔
    building = .error fault ∨ p.Runs building ∧
      (running = .error fault ∨ running = .ok (.exited 0) ∧ removal = .error fault)
  success : result = .ok () ↔ building = .ok (.exited 0) ∧
    (p.runAndDelete = true → running = .ok (.exited 0) ∧ removal = .ok ())

variable {p : Plan} {recipe : Recipe} {exec : Executor}

def report (failure : Option Int → Failure) : Except SystemFault Ending → Except Failure Unit
  | .error fault => .error (.system fault)
  | .ok ending => if ending.isSuccess then .ok () else .error (failure ending.code?)

def reportRemoval : Except SystemFault Unit → Except Failure Unit
  | .error fault => .error (.system fault)
  | .ok () => .ok ()

section Report

variable {failure : Option Int → Failure} {outcome : Except SystemFault Ending} {e : Failure}

theorem report_eq_ok_iff : report failure outcome = .ok () ↔ outcome = .ok (.exited 0) := by
  cases outcome <;> simp [report, Ending.isSuccess]

theorem report_eq_error_iff : report failure outcome = .error e ↔
    (∃ fault, outcome = .error fault ∧ e = .system fault) ∨
      ∃ ending, outcome = .ok ending ∧ ending ≠ .exited 0 ∧ e = failure ending.code? := by
  cases outcome with
  | error fault => simp [report, eq_comm]
  | ok ending =>
    by_cases h : ending = .exited 0
    · simp [report, Ending.isSuccess, h]
    · simp [report, Ending.isSuccess, h, eq_comm]

end Report

def reportRun (p : Plan) (running : Except SystemFault Ending) (removal : Except SystemFault Unit) :
    Except Failure Unit :=
  (report (.run p.runCommand) running).bind fun _ ↦ reportRemoval removal

theorem run_eq {w ran last : World} {running : Except SystemFault Ending}
    {removal : Except SystemFault Unit} (hrun : exec p.runCommand w = (ran, running))
    (hremove : ran.remove p.path = (last, removal)) :
    p.run exec w = (last, p.reportRun running removal) := by
  simp only [run, hrun, hremove, reportRun]
  cases running with
  | error fault => rfl
  | ok ending =>
    by_cases h : ending.isSuccess = true
    · cases removal <;> simp [report, h, Except.bind, reportRemoval]
    · simp [report, h, Except.bind]

theorem reportRun_eq_ok_iff {running : Except SystemFault Ending}
    {removal : Except SystemFault Unit} :
    p.reportRun running removal = .ok () ↔ running = .ok (.exited 0) ∧ removal = .ok () := by
  rw [← @report_eq_ok_iff (.run p.runCommand), reportRun]
  cases report (.run p.runCommand) running <;> cases removal <;> simp [Except.bind, reportRemoval]

theorem reportRun_eq_error_iff {running : Except SystemFault Ending}
    {removal : Except SystemFault Unit} {e : Failure} :
    p.reportRun running removal = .error e ↔ report (.run p.runCommand) running = .error e ∨
      running = .ok (.exited 0) ∧ ∃ fault, removal = .error fault ∧ e = .system fault := by
  rw [← @report_eq_ok_iff (.run p.runCommand), reportRun]
  cases report (.run p.runCommand) running <;> cases removal <;>
    simp [Except.bind, reportRemoval, eq_comm]

theorem cleanUp_of_keep (w : World) (h : p.keepIntermediate = true) : p.cleanUp recipe w = w :=
  if_pos h

theorem cleanUp_of_not_keep (w : World) (h : p.keepIntermediate = false) :
    p.cleanUp recipe w = (w.remove (recipe.intermediatePath p.path)).1 := by
  simp [cleanUp, h]

theorem look_cleanUp {w : World} (hkeep : p.keepIntermediate = false)
    (h : w.disk.canRemove (recipe.intermediatePath p.path) = true) :
    (p.cleanUp recipe w).disk.look (recipe.intermediatePath p.path) false = .error .noSuchFile := by
  rw [cleanUp_of_not_keep w hkeep]
  exact World.look_of_remove h

section TidiesUp

variable {code : String} {w written built : World} {building : Except SystemFault Ending}

section Written

variable
  (hwrite : w.write (recipe.intermediatePath p.path) (Utf8.encode code) = (written, .ok ()))
  (hbuild : exec (recipe.buildCommand p.path) written = (built, building))
include hwrite hbuild

theorem carryOut_of_not_runs (h : ¬ p.Runs building) : p.carryOut recipe exec code w =
      (p.cleanUp recipe built, report (.build (recipe.buildCommand p.path)) building) := by
  simp only [carryOut, hwrite, hbuild]
  cases building with
  | error fault => rfl
  | ok ending =>
    by_cases he : ending = .exited 0
    · have hrun : p.runAndDelete = false := Bool.eq_false_iff.2 fun hr ↦ h ⟨hr, by rw [he]⟩
      simp [report, Ending.isSuccess, he, hrun]
    · simp [report, Ending.isSuccess, he]

theorem carryOut_of_runs (h : p.Runs building) :
    p.carryOut recipe exec code w = p.run exec (p.cleanUp recipe built) := by
  obtain ⟨hrun, rfl⟩ := h
  simp [carryOut, hwrite, hbuild, hrun, Ending.isSuccess]

theorem tidiesUp_of_runs {ran last : World} {running : Except SystemFault Ending}
    {removal : Except SystemFault Unit}
    (hrun : exec p.runCommand (p.cleanUp recipe built) = (ran, running))
    (hremove : ran.remove p.path = (last, removal)) (h : p.Runs building) :
    p.TidiesUp recipe exec written built (p.cleanUp recipe built) ran
      (p.carryOut recipe exec code w).1 building running removal
      (p.carryOut recipe exec code w).2 := by
  rw [carryOut_of_runs hwrite hbuild h, run_eq hrun hremove]
  obtain ⟨hr, rfl⟩ := id h
  exact {
    build := hbuild
    keep := cleanUp_of_keep built
    remove := cleanUp_of_not_keep built
    text_gone := look_cleanUp
    no_run := fun hn ↦ absurd h hn
    run := fun _ ↦ ⟨hrun, hremove⟩
    program_gone := fun _ hcan ↦ by
      have hgone := World.look_of_remove hcan
      rwa [hremove] at hgone
    build_failure := fun command code ↦ by
      simp [reportRun_eq_error_iff, report_eq_error_iff]
    run_failure := fun command code ↦ by
      simp [reportRun_eq_error_iff, report_eq_error_iff, h]
    system_failure := fun fault ↦ by
      simp [reportRun_eq_error_iff, report_eq_error_iff, h]
    success := by simp [reportRun_eq_ok_iff, hr] }

end Written

theorem tidiesUp_of_not_runs (running : Except SystemFault Ending)
    (removal : Except SystemFault Unit)
    (hwrite : w.write (recipe.intermediatePath p.path) (Utf8.encode code) = (written, .ok ()))
    (hbuild : exec (recipe.buildCommand p.path) written = (built, building))
    (h : ¬ p.Runs building) :
    p.TidiesUp recipe exec written built (p.cleanUp recipe built) built
      (p.carryOut recipe exec code w).1 building running removal
      (p.carryOut recipe exec code w).2 := by
  rw [carryOut_of_not_runs hwrite hbuild h]
  exact {
    build := hbuild
    keep := cleanUp_of_keep built
    remove := cleanUp_of_not_keep built
    text_gone := look_cleanUp
    no_run := fun _ ↦ rfl
    run := fun hr ↦ absurd hr h
    program_gone := fun hr ↦ absurd hr h
    build_failure := fun command code ↦ by
      simp [report_eq_error_iff]
    run_failure := fun command code ↦ by
      simp [report_eq_error_iff, h]
    system_failure := fun fault ↦ by
      simp [report_eq_error_iff, h]
    success := by
      rw [report_eq_ok_iff]
      exact ⟨fun hb ↦ ⟨hb, fun hr ↦ absurd ⟨hr, hb⟩ h⟩, And.left⟩ }

end TidiesUp

/-- Whatever the commands do, a text that cannot be written ends the plan before any of them, and a
text that is written is built once and tidied up before an error is reported. -/
theorem build_cleans_up (p : Plan) (recipe : Recipe) (exec : Executor) (chunks : List String)
    (w : World) :
    (∀ fault, (w.write (recipe.intermediatePath p.path) (Utf8.encode (String.join chunks))).2 =
        .error fault →
      p.carryOut recipe exec (String.join chunks) w = (w, .error (.system fault))) ∧
    ∀ written, w.write (recipe.intermediatePath p.path) (Utf8.encode (String.join chunks)) =
        (written, .ok ()) →
      written.disk.Stores (recipe.intermediatePath p.path) (Utf8.encode (String.join chunks)) ∧
      ∃ built tidied ran building running removal,
        p.TidiesUp recipe exec written built tidied ran
          (p.carryOut recipe exec (String.join chunks) w).1 building running removal
          (p.carryOut recipe exec (String.join chunks) w).2 := by
  refine ⟨fun fault h ↦ ?_, fun written hwrite ↦ ⟨World.stores_of_write hwrite, ?_⟩⟩
  · rw [carryOut, World.write_of_error h]
  · rcases hbuild : exec (recipe.buildCommand p.path) written with ⟨built, building⟩
    by_cases hruns : p.Runs building
    · rcases hrun : exec p.runCommand (p.cleanUp recipe built) with ⟨ran, running⟩
      rcases hremove : ran.remove p.path with ⟨last, removal⟩
      exact ⟨_, _, _, _, _, _, tidiesUp_of_runs hwrite hbuild hrun hremove hruns⟩
    · exact ⟨_, _, _, _, _, _, tidiesUp_of_not_runs building (.ok ()) hwrite hbuild hruns⟩

def failingPrograms : Executor := fun command w ↦
  if command = "./b.out" then (w.print "1\n", .ok (.exited 3))
  else ((w.write "b.out" [127]).1, .ok (.exited 0))

theorem build_cleans_up_failing_run :
    ∃ written tidied result last,
      (World.empty ["work"]).write "b.out.rs" (Utf8.encode (String.join ["fn ", "main()"])) =
        (written, .ok ()) ∧
      Plan.carryOut ⟨"b.out", false, true⟩ Dialect.rust.recipe failingPrograms
        (String.join ["fn ", "main()"]) (World.empty ["work"]) = (last, result) ∧
      written.disk.Stores "b.out.rs" (Utf8.encode "fn main()") ∧
      failingPrograms "./b.out" tidied = (tidied.print "1\n", .ok (.exited 3)) ∧
      tidied.disk.look "b.out.rs" false = .error .noSuchFile ∧
      result = .error (.run "./b.out" (some 3)) ∧
      last.disk.look "b.out" false = .error .noSuchFile := by
  have hwritten : ((World.empty ["work"]).write "b.out.rs"
      (Utf8.encode (String.join ["fn ", "main()"]))).2.toOption.isSome = true := by decide +kernel
  obtain ⟨written, hwrite⟩ := World.write_of_isSome hwritten
  obtain ⟨hstores, built, tidied, ran, building, running, removal, t⟩ :=
    (build_cleans_up ⟨"b.out", false, true⟩ Dialect.rust.recipe failingPrograms ["fn ", "main()"]
      (World.empty ["work"])).2 written hwrite
  have hbuild : failingPrograms (Dialect.rust.recipe.buildCommand "b.out") written =
      ((written.write "b.out" [127]).1, .ok (.exited 0)) := if_neg (by decide +kernel)
  obtain ⟨rfl, rfl⟩ := Prod.mk.inj (hbuild.symm.trans t.build)
  have hruns : Plan.Runs ⟨"b.out", false, true⟩ (.ok (.exited 0)) := ⟨rfl, rfl⟩
  have hrun : failingPrograms "./b.out" tidied = (tidied.print "1\n", .ok (.exited 3)) :=
    if_pos rfl
  have hcommand : Plan.runCommand ⟨"b.out", false, true⟩ = "./b.out" := by decide +kernel
  have hran := (t.run hruns).1
  rw [hcommand, hrun] at hran
  obtain ⟨rfl, rfl⟩ := Prod.mk.inj hran
  obtain rfl := t.remove rfl
  obtain rfl : written = _ := congrArg Prod.fst hwrite.symm
  exact ⟨_, _, _, _, hwrite, rfl, hstores, hrun, t.text_gone rfl (by decide +kernel),
    (t.run_failure _ _).2 ⟨hruns, _, rfl, by decide, hcommand.symm, rfl⟩,
    t.program_gone hruns (by decide +kernel)⟩

end Plan

end RegisterLang
