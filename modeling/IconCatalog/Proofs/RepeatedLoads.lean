import IconCatalog.Proofs.DefaultSettingsFile
import IconCatalog.Proofs.RunHistory
import Mathlib.Data.List.TakeWhile
set_option autoImplicit false

namespace IconCatalog

namespace EnvFile

/-- What decides whether a value can be read: all but the text so far. -/
private def shape (s : ValueState) : Bool × Phase := (s.weak, s.phase)

private theorem shape_next? (look look' : String → String) {s t : ValueState}
    (same : shape s = shape t) (c : Char) :
    (s.next? look c).map shape = (t.next? look' c).map shape := by
  obtain ⟨text, weak, phase⟩ := s
  obtain ⟨text', weak', phase'⟩ := t
  cases same
  cases phase with
  | plain =>
      simp only [ValueState.next?, ValueState.nextPlain]
      repeat' split
      all_goals rfl
  | escaped => cases escape : ValueState.escape? c <;> simp only [ValueState.next?, escape] <;> rfl
  | strong =>
      simp only [ValueState.next?]
      split <;> rfl
  | name reversed =>
      simp only [ValueState.next?, ValueState.nextName]
      repeat' split
      all_goals rfl
  | braced reversed =>
      simp only [ValueState.next?]
      split <;> rfl
  | ended =>
      simp only [ValueState.next?]
      split <;> rfl

private theorem isSome_value? (look look' : String → String) {s t : ValueState}
    (same : shape s = shape t) : (s.value? look).isSome = (t.value? look').isSome := by
  obtain ⟨text, weak, phase⟩ := s
  obtain ⟨text', weak', phase'⟩ := t
  cases same
  simp only [ValueState.value?]
  split
  · rfl
  · cases phase <;> rfl

private theorem isSome_readValue (look look' : String → String) (written : List Char)
    {s t : ValueState} (same : shape s = shape t) :
    (readValue look s written).isSome = (readValue look' t written).isSome := by
  induction written generalizing s t with
  | nil => exact isSome_value? look look' same
  | cons c rest ih =>
      have phase : s.phase = t.phase := congrArg Prod.snd same
      have next := shape_next? look look' same c
      rw [readValue, readValue, phase]
      split
      · exact isSome_value? look look' same
      · cases here : s.next? look c with
        | none =>
            cases there : t.next? look' c with
            | none => rfl
            | some t' =>
                rw [here, there] at next
                contradiction
        | some s' =>
            cases there : t.next? look' c with
            | none =>
                rw [here, there] at next
                contradiction
            | some t' =>
                rw [here, there] at next
                exact ih (Option.some.inj next)

/-- Whether a value can be read does not depend on what variables stand for. -/
theorem isSome_valueOf (look look' : String → String) (written : List Char) :
    (valueOf look written).isSome = (valueOf look' written).isSome := by
  unfold valueOf
  split
  · rfl
  · exact isSome_readValue look look' written rfl

private theorem equals_not_mem_of_takeKey {input key rest : List Char}
    (taken : takeKey input = some (key, rest)) : '=' ∉ key := by
  unfold takeKey at taken
  split at taken
  · contradiction
  split at taken
  · obtain ⟨rfl, _⟩ := Prod.mk.inj (Option.some.inj taken)
    intro inside
    exact absurd (List.mem_takeWhile_imp inside) (by decide)
  · contradiction

private theorem equals_not_mem_of_takeTarget {input key value : List Char}
    (taken : takeTarget input = some (key, value)) : '=' ∉ key := by
  obtain ⟨⟨first, rest⟩, found, target⟩ := Option.bind_eq_some_iff.1 taken
  simp only at target
  split at target
  · cases target
    exact equals_not_mem_of_takeKey found
  split at target
  · obtain ⟨⟨second, rest'⟩, found', later⟩ := Option.bind_eq_some_iff.1 target
    obtain ⟨_, _, same⟩ := Option.map_eq_some_iff.1 later
    cases same
    exact equals_not_mem_of_takeKey found'
  · contradiction

theorem equals_not_mem_of_meaning {line written : List Char} {key : String}
    (assigns : meaning line = .assignment key written) : '=' ∉ key.toList := by
  simp only [meaning] at assigns
  split at assigns
  · contradiction
  split at assigns
  · contradiction
  · rename_i taken
    cases assigns
    rw [String.toList_ofList]
    exact equals_not_mem_of_takeTarget taken

section Merging

variable {env after : Environment} {known known' : List (String × String)} {key value : String}

/-- All that the file has given so far are variables that are text. -/
def Settled (known : List (String × String)) (env : Environment) : Prop :=
  ∀ entry ∈ known, '=' ∉ entry.1.toList ∧ (env.text? entry.1).isSome

/-- What the file gave before does not count once it is in the environment. -/
theorem lookup_of_settled (settled : Settled known env) (name : String) :
    lookup env known name = ((env.behind? name).bind Utf8.toString?).getD "" := by
  unfold lookup
  cases stands : (env.behind? name).bind Utf8.toString? with
  | some value => rfl
  | none =>
      cases given : known.lookup name with
      | none => rfl
      | some value =>
          obtain ⟨front, back, rfl, _⟩ := List.lookup_eq_some_iff.1 given
          obtain ⟨plain, text⟩ := settled (name, value) List.mem_append_cons_self
          rw [Environment.text?, ← env.behind?_of_not_mem plain, stands] at text
          contradiction

theorem lookup_eq_of_settled (settled : Settled known env) (settled' : Settled known' env) :
    lookup env known' = lookup env known := by
  funext name
  rw [lookup_of_settled settled, lookup_of_settled settled']

theorem assign_of_text (text : (env.text? key).isSome) : assign env key value = .ok env :=
  if_pos text

theorem isSome_text?_of_assign (assigned : assign env key value = .ok after) :
    (after.text? key).isSome := by
  unfold assign at assigned
  split at assigned
  · cases assigned
    assumption
  split at assigned
  · contradiction
  · cases assigned
    rw [Environment.text?, Environment.get?_set, if_pos rfl, Option.bind_some,
      Utf8.toString?_ofString]
    rfl

theorem Settled.assign (settled : Settled known env) (plain : '=' ∉ key.toList)
    (assigned : assign env key value = .ok after) (value' : String) :
    Settled ((key, value') :: known) after := by
  intro entry inside
  rcases List.mem_cons.1 inside with rfl | earlier
  · exact ⟨plain, isSome_text?_of_assign assigned⟩
  · obtain ⟨plain', text⟩ := settled entry earlier
    refine ⟨plain', ?_⟩
    rw [Environment.text?, get?_assign text assigned]
    exact text

section Line

variable {line written : List Char} (assigns : meaning line = .assignment key written)

include assigns

/-- A line for a variable that is text leaves it, and is kept in mind. -/
theorem mergeLines_of_text (read : valueOf (lookup env known) written = some value)
    (text : (env.text? key).isSome) (rest : List (Option (List Char))) :
    mergeLines known env (some line :: rest) = mergeLines ((key, value) :: known) env rest := by
  rw [mergeLines]
  simp only [assigns, read, assign_of_text text]

/-- A variable that cannot be set stops every merge that finds the same variables. -/
theorem mergeLines_of_refused {fault : UnsettableVariable} (settled : Settled known env)
    (settled' : Settled known' env) (read : valueOf (lookup env known) written = some value)
    (refused : assign env key value = .error fault) (rest : List (Option (List Char))) :
    mergeLines known' env (some line :: rest) = .error fault env := by
  rw [mergeLines]
  simp only [assigns, lookup_eq_of_settled settled settled', read, refused]

end Line

/-- Lines that are merged again, into the environment that they left, end in the same way. The
induction is on the lines. A line that was assigned finds its variable set, and one that stopped the
merge finds the variables that it found before. -/
theorem mergeLines_again {lines : List (Option (List Char))}
    {result : EStateM.Result UnsettableVariable Environment Unit} (settled : Settled known env)
    (merged : mergeLines known env lines = result) (settled' : Settled known' (stateAfter result)) :
    mergeLines known' (stateAfter result) lines = result := by
  induction lines generalizing known known' env with
  | nil =>
      subst merged
      rfl
  | cons line rest ih =>
      cases line with
      | none =>
          subst merged
          rfl
      | some line =>
          rw [mergeLines] at merged
          cases assigns : meaning line with
          | nothing =>
              rw [mergeLines]
              simp only [assigns] at merged ⊢
              exact ih settled merged settled'
          | malformed =>
              rw [mergeLines]
              simp only [assigns] at merged ⊢
              subst merged
              rfl
          | assignment key written =>
              simp only [assigns] at merged
              have plain := equals_not_mem_of_meaning assigns
              have readable := isSome_valueOf (lookup env known)
                (lookup (stateAfter result) known') written
              cases read : valueOf (lookup env known) written with
              | none =>
                  rw [read] at readable
                  have unread := Option.isNone_iff_eq_none.1
                    (Option.isSome_eq_false_iff.1 readable.symm)
                  rw [mergeLines]
                  simp only [read, assigns, unread] at merged ⊢
                  subst merged
                  rfl
              | some value =>
                  rw [read] at readable
                  obtain ⟨value', read'⟩ := Option.isSome_iff_exists.1 readable.symm
                  simp only [read] at merged
                  cases assigned : assign env key value with
                  | error fault =>
                      simp only [assigned] at merged
                      subst merged
                      exact mergeLines_of_refused assigns settled settled' read assigned rest
                  | ok after =>
                      simp only [assigned] at merged
                      -- Nothing behind the line unsets what it has set.
                      have text : ((stateAfter result).text? key).isSome := by
                        have set := isSome_text?_of_assign assigned
                        have kept := get?_mergeLines rest ((key, value) :: known) set
                        rwa [Environment.text?, ← merged, kept]
                      have stands : assign (stateAfter result) key value' =
                          .ok (stateAfter result) := assign_of_text text
                      rw [mergeLines_of_text assigns read' text]
                      exact ih (settled.assign plain assigned value) merged
                        (settled'.assign plain stands value')

theorem merge_again (file : Bytes) (env : Environment) :
    merge file (stateAfter (merge file env)) = merge file env := by
  have settled (env : Environment) : Settled [] env :=
    fun _ inside => absurd inside List.not_mem_nil
  exact mergeLines_again (settled env) rfl (settled _)

end Merging

end EnvFile

theorem Run.env_load {ε : Type} (loader : Loader ε) (run : Run) :
    (stateAfter (load loader run)).session.env = stateAfter (loader run.session) := by
  unfold load
  cases loader run.session <;> rfl

namespace Settings

variable {session : Session}

theorem mergeEnvFile_again (session : Session) :
    mergeEnvFile { session with env := stateAfter (mergeEnvFile session) } =
      mergeEnvFile session := by
  unfold mergeEnvFile
  cases EnvFile.ofWorkingDirectory? session.files with
  | none => rfl
  | some content => exact EnvFile.merge_again content.bytes session.env

/-- A load leaves the variables as the merge of the env file does. -/
theorem stateAfter_load (session : Session) :
    stateAfter (load session) = stateAfter (mergeEnvFile session) := by
  unfold load
  cases mergeEnvFile session with
  | error fault env => rfl
  | ok value env =>
      simp only
      cases ofFile { session with env := env } with
      | error fault => rfl
      | ok settings =>
          simp only
          cases settings.override env <;> rfl

theorem load_of_mergeEnvFile_eq {env : Environment}
    (same : mergeEnvFile { session with env := env } = mergeEnvFile session) :
    load { session with env := env } = load session := by
  unfold load
  rw [same]

theorem load_again (session : Session) :
    load { session with env := stateAfter (load session) } = load session := by
  rw [stateAfter_load]
  exact load_of_mergeEnvFile_eq (mergeEnvFile_again session)

/-- A second load does what the first one did, with the same settings or the same fault, and leaves
all variables and files as they are after the first. That one changes no file, and no variable that
was text before. -/
theorem load_twice (run : Run) :
    Run.load load (stateAfter (Run.load load run)) =
      mapState (fun run => { run with loads := run.loads + 1 }) (Run.load load run) ∧
    (stateAfter (Run.load load run)).session.files = run.session.files ∧
    ∀ name, (run.session.env.text? name).isSome →
      (stateAfter (Run.load load run)).session.env.get? name = run.session.env.get? name := by
  refine ⟨?_, Run.files_load load run, ?_⟩
  · have again := load_again run.session
    unfold Run.load
    cases loaded : load run.session with
    | ok settings env =>
        rw [loaded] at again
        simp only [stateAfter] at again ⊢
        rw [again]
        rfl
    | error fault env =>
        rw [loaded] at again
        simp only [stateAfter] at again ⊢
        rw [again]
        rfl
  · intro name text
    rw [Run.env_load, stateAfter_load]
    exact get?_mergeEnvFile text

end Settings

end IconCatalog
