import IconCatalog.Proofs.DefaultSettingsFile
import IconCatalog.Proofs.ExportOrder
import IconCatalog.Proofs.FailedExports
set_option autoImplicit false

namespace IconCatalog

open FileTree (Changed nothing)

theorem FileTree.put_put {tree : FileTree} {name : Name} {dir : Location} {node : Node}
    (accepted : tree.Accepts name dir node) :
    (tree.put name dir node).put name dir node = tree.put name dir node := by
  by_cases still : (tree.put name dir node).Accepts name dir node
  · apply ext_node?
    intro loc
    rw [node?_put still, node?_put accepted]
    split <;> rfl
  · exact put_eq_self still

namespace Files

variable {files written : Files} {p : Path} {content : Content}

theorem write_again (done : files.write p content = .ok written) :
    written.write p content = .ok written := by
  obtain ⟨same, changed⟩ := write_changed done
  obtain ⟨dir, name, found, open_, short, accepted, rfl⟩ := write_eq_ok done
  have here : (files.put name dir (.file content)).tree.node? (name :: dir) =
      some (.file content) := by
    rw [put, FileTree.node?_put accepted, if_pos rfl]
  have twice : (files.put name dir (.file content)).put name dir (.file content) =
      files.put name dir (.file content) := by
    rw [put, put, FileTree.put_put accepted]
  rw [write, (entry_inside_iff_of_changed same changed).2 found]
  simp only [open_, Bool.false_eq_true, if_false, if_neg (Nat.not_lt.2 short), here, twice]

/-- A directory stands at the path, or a file on its way. -/
def Blocked (files : Files) (p : Path) : Prop :=
  files.isDirectory p = true ∨ ∃ outer inner loc content, p.names = outer ++ inner ∧ inner ≠ [] ∧
    files.tree.walk (files.start p) outer = .ok (.inTree loc) ∧
    files.tree.node? loc = some (.file content)

/-- Nothing that keeps directories and files makes way for a file at a path that is blocked. -/
theorem not_read_of_blocked {made : Location → Prop} {put : Location → Content → Prop}
    (blocked : files.Blocked p) (same : written.cwd = files.cwd)
    (changed : Changed made put files.tree written.tree) : written.read p ≠ .ok content := by
  intro read
  obtain ⟨_, _, loc, leads, stands⟩ := read_eq_ok_iff.1 read
  rw [LeadsTo, start_congr same] at leads
  rcases blocked with directory | ⟨outer, inner, loc', old, split, more, walked, file⟩
  · obtain ⟨_, place, walked, directory⟩ := isDirectory_iff.1 directory
    have there := changed.walk walked
    rw [leads] at there
    cases there
    have kept : written.tree.node? loc = some .directory :=
      FileTree.nodeAt?_mono changed.directory directory
    rw [stands] at kept
    cases kept
  · obtain ⟨name, inner, rfl⟩ := List.exists_cons_of_ne_nil more
    rw [split, FileTree.walk_append, changed.walk walked] at leads
    obtain ⟨directory, _⟩ := FileTree.walk_cons_eq_ok_iff.1 leads
    obtain ⟨now, kept⟩ := changed.file loc' old file
    change written.tree.node? loc' = some .directory at directory
    rw [kept] at directory
    cases directory

end Files

namespace Path

/-- The path of the directory that a path is in. It is empty for a path that has none. -/
def enclosing (p : Path) : Path := p.parent?.getD ⟨[]⟩

end Path

namespace Settings

variable {s : Settings} {path : Path} {files left made saved : Files} {content : Content}

theorem onWay_of_onWayToParent {loc : Location} (onWay : OnWayToParent files path loc) :
    files.OnWay path.enclosing loc := by
  obtain ⟨parent, above, onWay⟩ := onWay
  rwa [Path.enclosing, above]

theorem createParent_around (path : Path) (files : Files) :
    (stateAfter (createParent path files)).cwd = files.cwd ∧
      Changed (files.OnWay path.enclosing) nothing files.tree
        (stateAfter (createParent path files)).tree := by
  obtain ⟨same, changed⟩ := createParent_changed path files
  exact ⟨same, changed.mono (fun _ => onWay_of_onWayToParent) (fun _ _ none => none)⟩

theorem saveTo_ok_changed (done : s.saveTo path files = .ok () saved) :
    saved.cwd = files.cwd ∧ Changed (files.OnWay path.enclosing)
      (fun loc _ => saved.LeadsTo path loc) files.tree saved.tree := by
  obtain ⟨made, json, around, _, written⟩ := saveTo_eq_ok done
  have directories := createParent_around path files
  rw [around] at directories
  obtain ⟨kept, file⟩ := Files.write_changed written
  refine ⟨kept.trans directories.1, ?_⟩
  exact (directories.2.mono (fun _ onWay => onWay) (fun _ _ none => none.elim)).trans
    (file.mono (fun _ none => none.elim) (fun _ _ here => here.1.of_changed kept file))

/-- A save that is made again finds everything done. -/
theorem saveTo_again (done : s.saveTo path files = .ok () saved) :
    s.saveTo path saved = .ok () saved := by
  obtain ⟨made, json, around, text, written⟩ := saveTo_eq_ok done
  obtain ⟨kept, file⟩ := Files.write_changed written
  have above : createParent path saved = .ok () saved := by
    unfold createParent at around ⊢
    cases parent : path.parent? with
    | none => rfl
    | some dir =>
        rw [parent] at around
        simp only at around ⊢
        cases made_ : files.createDirectories dir with
        | error fault after =>
            rw [made_] at around
            contradiction
        | ok value after =>
            rw [made_] at around
            cases around
            have stands := (Files.standing_iff_of_changed kept file).2
              (Files.standing_of_createDirectories made_)
            rw [Files.createDirectories_of_standing stands]
  rw [saveTo, above]
  simp only [text, Files.write_again written]

end Settings

namespace Run

variable {ε : Type} {run : Run}

def initialized (run : Run) (path : Path) (saved : Files) : Run :=
  { run.withFiles saved with
    printed := run.printed ++ Utf8.ofString (path.display ++ "\n")
    log := run.log ++ [.wroteSettings path] }

/-- Where nothing limits the output, a settings file is written unless one is there that may not be
replaced, or the save fails. -/
theorem initConfig_of_free (free : run.room = none) (path : Path) (force : Bool) :
    (initConfig path force : EStateM (RunFault ε) Run Unit) run =
      if run.session.files.found path && !force then .error (.settingsExist path) run
      else
        match Settings.default.saveTo path run.session.files with
        | .ok _ saved => .ok () (run.initialized path saved)
        | .error fault left => .error (.save fault) (run.withFiles left) := by
  rw [initConfig_eq, withSession]
  split
  · rfl
  · rw [bind_apply, onFiles]
    cases Settings.default.saveTo path run.session.files with
    | error fault left => rfl
    | ok value saved =>
        have open_ : { run.withFiles saved with
            log := run.log ++ [Record.wroteSettings path] }.room = none := free
        exact print_of_free open_ (path.display ++ "\n")

theorem initConfig_of_found {path : Path} (free : run.room = none)
    (found : run.session.files.found path = true) :
    (initConfig path false : EStateM (RunFault ε) Run Unit) run =
      .error (.settingsExist path) run := by
  rw [initConfig_of_free free, if_pos (by rw [found]; rfl)]

theorem initConfig_of_saveTo {path : Path} {saved : Files} (free : run.room = none)
    (done : Settings.default.saveTo path run.session.files = .ok () saved) :
    (initConfig path true : EStateM (RunFault ε) Run Unit) run =
      .ok () (run.initialized path saved) := by
  rw [initConfig_of_free free, if_neg (by rw [Bool.not_true, Bool.and_false]; exact nofun), done]

/-- However the writing of a settings file fails, it got no further than the directories. -/
theorem initConfig_eq_error {path : Path} {force : Bool} {fault : RunFault ε} {left : Run}
    (free : run.room = none)
    (failed : (initConfig path force : EStateM (RunFault ε) Run Unit) run = .error fault left) :
    left.session.files = run.session.files ∨
      left.session.files = stateAfter (Settings.createParent path run.session.files) := by
  rw [initConfig_of_free free] at failed
  split at failed
  · cases failed
    exact Or.inl rfl
  · cases done : Settings.default.saveTo path run.session.files with
    | ok value saved =>
        rw [done] at failed
        contradiction
    | error reason stopped =>
        rw [done] at failed
        cases failed
        exact Or.inr (Settings.saveTo_eq_error done)

end Run

namespace Command

variable {ε : Type}

theorem run_initConfig_some (loader : Loader ε) (path : Path) (force : Bool) :
    (initConfig (some path) force).run loader = Run.initConfig path force := rfl

/-- A settings file at a path that is given. What exists is kept, where it may not be replaced. A
run that succeeds leaves the default settings at the path and all other files as they were; after
it a run that may not replace the file fails, and one that may changes nothing. A run that fails
leaves all files as they were, and it does fail where a directory stands at the path or a file on
its way. New directories are at most those on the way to that of the file. -/
theorem run_initConfig_at (loader : Loader ε) (path : Path) (force : Bool) (session : Session) :
    (session.files.found path = true → ∃ left,
      (initConfig (some path) false).run loader (.start session none) =
          .error (.settingsExist path) left ∧ left.session.files = session.files) ∧
    (∀ after, (initConfig (some path) force).run loader (.start session none) = .ok () after →
      Settings.loadFrom path after.session.files = .ok .default ∧
      session.files.KeptBut (after.session.files.LeadsTo path) path.enclosing
        after.session.files ∧
      (∃ left, (initConfig (some path) false).run loader (.start after.session none) =
          .error (.settingsExist path) left ∧ left.session.files = after.session.files) ∧
      ∃ again, (initConfig (some path) true).run loader (.start after.session none) =
          .ok () again ∧ again.session.files = after.session.files) ∧
    (∀ fault left, (initConfig (some path) force).run loader (.start session none) =
        .error fault left → session.files.Kept path.enclosing left.session.files) ∧
    (session.files.Blocked path →
      ¬ succeeds ((initConfig (some path) force).run loader (.start session none))) := by
  simp only [run_initConfig_some]
  refine ⟨?_, ?_, ?_, ?_⟩
  · intro found
    exact ⟨_, Run.initConfig_of_found rfl found, rfl⟩
  · intro after done
    obtain ⟨saved, written, left⟩ := Run.initConfig_eq_ok done
    obtain ⟨content, read, text⟩ := Settings.heldAt_of_saveTo written
    rw [left]
    refine ⟨Settings.loadFrom_of_heldAt ⟨content, read, text⟩,
      Files.keptBut_of_changed (Settings.saveTo_ok_changed written).2 fun _ _ leads => leads,
      ⟨_, Run.initConfig_of_found rfl (Files.found_of_read read), rfl⟩,
      ⟨_, Run.initConfig_of_saveTo rfl (Settings.saveTo_again written), rfl⟩⟩
  · intro fault left failed
    have around := (Settings.createParent_around path session.files).2
    rcases Run.initConfig_eq_error rfl failed with same | made
    · rw [same]
      exact Files.keptBut_of_changed (Changed.refl _ nothing _) fun _ _ none => none
    · rw [made]
      exact Files.keptBut_of_changed around fun _ _ none => none
  · intro blocked success
    obtain ⟨saved, written, _⟩ := Run.initConfig_eq_ok (eq_ok_of_succeeds success)
    obtain ⟨content, read, _⟩ := Settings.heldAt_of_saveTo written
    obtain ⟨kept, changed⟩ := Settings.saveTo_ok_changed written
    exact Files.not_read_of_blocked blocked kept changed read

/-- A path that climbs out of a directory, which is made for it. -/
theorem run_initConfig_at_climbing : ∃ after,
    (initConfig (some (.ofString "conf/../settings.json")) false).run Settings.load
        (.start Session.obstructed none) = .ok () after ∧
      Settings.loadFrom (.ofString "conf/../settings.json") after.session.files = .ok .default ∧
      ∃ again, (initConfig (some (.ofString "conf/../settings.json")) true).run Settings.load
          (.start after.session none) = .ok () again ∧
        again.session.files = after.session.files := by
  have done := eq_ok_of_succeeds (show succeeds
    ((initConfig (some (.ofString "conf/../settings.json")) false).run Settings.load
      (.start Session.obstructed none)) from trivial)
  obtain ⟨loaded, _, _, again⟩ := (run_initConfig_at _ _ _ _).2.1 _ done
  exact ⟨_, done, loaded, again⟩

end Command

end IconCatalog
