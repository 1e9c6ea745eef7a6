import MarketDesk.Proofs.Json.Decode
import MarketDesk.Proofs.Settings.Environment
import MarketDesk.Settings.EnvFile

/-!
# What a file of variables leaves

What a file defines follows from its lines and the environment before the loading: a reference is to
a variable with its text there, or else with its first definition above. The definitions in front
of the first line that cannot be read are supplied to the environment, whether there is such a line
or not.
-/

namespace MarketDesk.EnvFile

section Keys

theorem notMem_of_readKey {cs rest : List Char} {key : String} (h : readKey cs = .ok (key, rest)) :
    '=' ∉ key.toList := by
  unfold readKey at h
  split at h
  · exact nomatch h
  · split at h
    · rw [← (Prod.mk.inj (Except.ok.inj h)).1, String.toList_ofList]
      intro hmem
      exact absurd (List.mem_takeWhile_imp hmem) (by decide)
    · exact nomatch h

theorem notMem_of_readName {cs rest : List Char} {key : String}
    (h : readName cs = .ok (key, rest)) : '=' ∉ key.toList := by
  obtain ⟨⟨first, behind⟩, hfirst, h⟩ := Except.bind_eq_ok_iff.mp h
  dsimp only at h
  split at h
  · obtain ⟨rfl, -⟩ := Prod.mk.inj (Except.ok.inj h)
    exact notMem_of_readKey hfirst
  · split at h
    · obtain ⟨⟨second, _⟩, hsecond, h⟩ := Except.bind_eq_ok_iff.mp h
      obtain ⟨_, -, h⟩ := Except.bind_eq_ok_iff.mp h
      obtain ⟨rfl, -⟩ := Prod.mk.inj (Except.ok.inj h)
      exact notMem_of_readKey hsecond
    · exact nomatch h

theorem notMem_of_readLine {lookUp : String → String} {line : List Char} {key value : String}
    (h : readLine lookUp line = .ok (some (key, value))) : '=' ∉ key.toList := by
  unfold readLine at h
  dsimp only at h
  split at h
  · exact nomatch h
  · split at h
    · exact nomatch h
    · next name rest hname =>
      have hkey : name = key := by
        split at h
        · exact (Prod.mk.inj (Option.some.inj (Except.ok.inj h))).1
        · cases hread : readValue lookUp (Text.trimStart rest) with
          | error fault =>
            rw [hread] at h
            exact nomatch h
          | ok read =>
            rw [hread] at h
            exact (Prod.mk.inj (Option.some.inj (Except.ok.inj h))).1
      exact hkey ▸ notMem_of_readName hname

end Keys

/-- What a reference to a name stands for on a line below some definitions. -/
def refer (env : Environment) (above : List (String × String)) (name : String) : String :=
  let v := Environment.variableOf name
  (((env.text? v).or (above.lookup v)).bind (Environment.continuation name)).getD ""

/-- Whether a definition would have to be set, and cannot be. -/
def unstorable (env : Environment) (above : List (String × String)) (key value : String) : Bool :=
  ((env.text? key).or (above.lookup key)).isNone && value.toList.contains '\x00'

/-- The definitions down to a line, from those above it. -/
def readAfter (env : Environment) (above : List (String × String)) (bytes : List UInt8) :
    Except Fault (List (String × String)) :=
  match Text.Utf8.decode? bytes with
  | none => .error .notText
  | some line => do
      match ← readLine (refer env above) line with
      | none => return above
      | some (key, value) =>
          if unstorable env above key value then throw (.unstorable key value)
          else return above ++ [(key, value)]

def definitions (env : Environment) (lines : List (List UInt8)) :
    Except Fault (List (String × String)) :=
  lines.foldlM (readAfter env) []

/-- The loading of a file below some of its definitions. -/
structure Loading.After (env : Environment) (defs : List (String × String)) (l : Loading) :
    Prop where
  supplied : env.Supplied defs l.env
  unset : ∀ name, l.env.text? name = none → l.defined.get? name = none

namespace Loading.After

variable {env : Environment} {defs : List (String × String)} {l : Loading}

theorem start (env : Environment) : Loading.After env [] ⟨env, .empty⟩ where
  supplied := env.supplied_nil
  unset _ _ := rfl

variable (h : l.After env defs)
include h

theorem lookUp_eq : l.lookUp = refer env defs := by
  funext name
  have hrefer : refer env defs name = (l.env.text? name).getD "" :=
    congrArg (Option.getD · "") (h.supplied.text? name).symm
  rw [lookUp, hrefer]
  cases htext : l.env.text? name with
  | some value => rfl
  | none => exact congrArg (Option.getD · "") (h.unset name htext)

section Define

variable {key : String} (hkey : '=' ∉ key.toList) (value : String)
include hkey

theorem define_eq : l.define key value =
    if unstorable env defs key value then .error (.unstorable key value)
    else .ok ⟨l.env.give key value, l.defined.set key value⟩ := by
  rw [unstorable, ← h.supplied.text?_of_notMem hkey, define, Environment.give]
  cases l.env.text? key with
  | some own => rfl
  | none => rfl

theorem give : Loading.After env (defs ++ [(key, value)])
    ⟨l.env.give key value, l.defined.set key value⟩ where
  supplied := h.supplied.concat hkey value
  unset name hnone := by
    have hnext := h.supplied.concat hkey value
    have hne : key ≠ name := by
      rintro rfl
      rw [hnext.text?_of_notMem hkey, Environment.lookup_concat, if_pos rfl] at hnone
      simp at hnone
    refine (Dictionary.get?_set_of_ne _ _ hne).trans (h.unset name ?_)
    -- a name with text would still have it
    by_contra hsome
    obtain ⟨text, htext⟩ := Option.ne_none_iff_exists'.mp hsome
    exact nomatch hnone.symm.trans (h.supplied.text?_of_append hnext htext)

end Define

/-- A line takes the loading below one definition more, if it has one, or both meet the same
fault. -/
theorem readNext (bytes : List UInt8) :
    (∃ l' next, l.readNext bytes = .ok l' ∧ readAfter env defs bytes = .ok next ∧
      l'.After env next) ∨
    ∃ fault, l.readNext bytes = .error fault ∧ readAfter env defs bytes = .error fault := by
  unfold Loading.readNext readAfter
  rw [h.lookUp_eq]
  cases Text.Utf8.decode? bytes with
  | none => exact Or.inr ⟨_, rfl, rfl⟩
  | some line =>
    dsimp only
    cases hline : readLine (refer env defs) line with
    | error fault => exact Or.inr ⟨fault, rfl, rfl⟩
    | ok definition =>
      cases definition with
      | none => exact Or.inl ⟨l, defs, rfl, rfl, h⟩
      | some d =>
        obtain ⟨key, value⟩ := d
        have hdefine := h.define_eq (notMem_of_readLine hline) value
        cases hstore : unstorable env defs key value with
        | true =>
          rw [hstore] at hdefine
          exact Or.inr ⟨_, hdefine, if_pos hstore⟩
        | false =>
          rw [hstore] at hdefine
          refine Or.inl ⟨_, _, hdefine, ?_, h.give (notMem_of_readLine hline) value⟩
          exact if_neg (Bool.eq_false_iff.mp hstore)

/-- Loading reads lines down to the first that cannot be read, if there is one. -/
theorem run (ls : List (List UInt8)) :
    (∃ all after, ls.foldlM (readAfter env) defs = .ok all ∧ l.run ls = (.ok (), after) ∧
      env.Supplied all after) ∨
    ∃ front bad later above fault after, ls = front ++ bad :: later ∧
      front.foldlM (readAfter env) defs = .ok above ∧ readAfter env above bad = .error fault ∧
      l.run ls = (.error fault, after) ∧ env.Supplied above after := by
  induction ls generalizing l defs with
  | nil => exact Or.inl ⟨defs, l.env, rfl, rfl, h.supplied⟩
  | cons bytes rest ih =>
    rw [Loading.run]
    rcases h.readNext bytes with ⟨l', next, hread, hnext, hafter⟩ | ⟨fault, hread, hfault⟩
    · rw [hread]
      rcases ih hafter with
        ⟨all, after, hall, hrun⟩ | ⟨front, bad, later, above, fault, after, rfl, habove, hrun⟩
      · refine Or.inl ⟨all, after, ?_, hrun⟩
        rw [List.foldlM_cons, hnext]
        exact hall
      · refine Or.inr ⟨bytes :: front, bad, later, above, fault, after, rfl, ?_, hrun⟩
        rw [List.foldlM_cons, hnext]
        exact habove
    · rw [hread]
      exact Or.inr ⟨[], bytes, rest, defs, fault, l.env, rfl, rfl, hfault, rfl, h.supplied⟩

end Loading.After

/-- Reading stops, for a fault, at a line that stands below some definitions. -/
def StopsBelow (env : Environment) (ls : List (List UInt8)) (above : List (String × String))
    (fault : Fault) : Prop :=
  ∃ front bad later, ls = front ++ bad :: later ∧ definitions env front = .ok above ∧
    readAfter env above bad = .error fault

theorem StopsBelow.definitions_eq {env : Environment} {ls : List (List UInt8)}
    {above : List (String × String)} {fault : Fault} (h : StopsBelow env ls above fault) :
    definitions env ls = .error fault := by
  obtain ⟨front, bad, later, rfl, habove, hbad⟩ := h
  rw [definitions, List.foldlM_append, ← definitions, habove]
  change (bad :: later).foldlM (readAfter env) above = .error fault
  rw [List.foldlM_cons, hbad]
  rfl

theorem load_cases (env : Environment) (bytes : List UInt8) :
    (∃ defs after, definitions env (lines bytes) = .ok defs ∧ load env bytes = (.ok (), after) ∧
      env.Supplied defs after) ∨
    ∃ above fault after, StopsBelow env (lines bytes) above fault ∧
      load env bytes = (.error fault, after) ∧ env.Supplied above after := by
  refine ((Loading.After.start env).run (lines bytes)).imp id ?_
  rintro ⟨front, bad, later, above, fault, after, hlines, habove, hbad, hload⟩
  exact ⟨above, fault, after, ⟨front, bad, later, hlines, habove, hbad⟩, hload⟩

end MarketDesk.EnvFile

namespace MarketDesk.Settings

open EnvFile (lines definitions StopsBelow)

/-- What a file defines; one that is not there defines nothing. -/
def fileDefinitions (path : String) (folder : Folder) (env : Environment) :
    Except EnvFile.Fault (List (String × String)) :=
  match folder.readFile path with
  | .error .notFound => .ok []
  | .error e => .error (.file e)
  | .ok bytes => definitions env (lines bytes)

section Outcomes

variable (exchange path : String) (folder : Folder) (env : Environment)

/-- Either all definitions are supplied, or there is a fault: the file cannot be opened, or the
definitions above one of its lines are supplied. -/
theorem fromEnvFile_cases :
    (∃ defs after, fileDefinitions path folder env = .ok defs ∧ env.Supplied defs after ∧
      fromEnvFile exchange path folder env = (fromEnvironment exchange after, after)) ∨
    ∃ fault after, fileDefinitions path folder env = .error fault ∧
      fromEnvFile exchange path folder env = (.error (refusal path fault), after) ∧
      ((∃ e, folder.readFile path = .error e ∧ e ≠ .notFound ∧ after = env) ∨
        ∃ bytes above, folder.readFile path = .ok bytes ∧
          StopsBelow env (lines bytes) above fault ∧ env.Supplied above after) := by
  unfold fromEnvFile fileDefinitions
  cases folder.readFile path with
  | error e =>
    cases e with
    | notFound => exact Or.inl ⟨[], env, rfl, env.supplied_nil, rfl⟩
    | _ => exact Or.inr ⟨_, env, rfl, rfl, Or.inl ⟨_, rfl, nofun, rfl⟩⟩
  | ok bytes =>
    dsimp only
    rcases EnvFile.load_cases env bytes with
      ⟨defs, after, hdefs, hload, hsupplied⟩ | ⟨above, fault, after, hstops, hload, hsupplied⟩
    · rw [hload]
      exact Or.inl ⟨defs, after, hdefs, hsupplied, rfl⟩
    · rw [hload]
      exact Or.inr ⟨fault, after, hstops.definitions_eq, rfl,
        Or.inr ⟨bytes, above, rfl, hstops, hsupplied⟩⟩

theorem exists_supplied : ∃ defs, env.Supplied defs (fromEnvFile exchange path folder env).2 := by
  rcases fromEnvFile_cases exchange path folder env with
    ⟨defs, after, -, hsupplied, hresult⟩ |
    ⟨_, after, -, hresult, ⟨-, -, -, rfl⟩ | ⟨_, above, -, -, hsupplied⟩⟩
  · exact ⟨defs, hresult ▸ hsupplied⟩
  · exact ⟨[], hresult ▸ after.supplied_nil⟩
  · exact ⟨above, hresult ▸ hsupplied⟩

/-- No file takes the text from a variable. -/
theorem get?_fromEnvFile (name text : String) (h : env.get? name = some (.text text)) :
    (fromEnvFile exchange path folder env).2.get? name = some (.text text) := by
  obtain ⟨_, hsupplied⟩ := exists_supplied exchange path folder env
  exact hsupplied.kept name text h

/-- With the definitions of the file, the settings are those of any environment in which the
variables of the names have their text of before, or else their first definition. -/
theorem fromEnvFile_of_definitions {defs : List (String × String)}
    (h : fileDefinitions path folder env = .ok defs) :
    env.Supplied defs (fromEnvFile exchange path folder env).2 ∧
      ∀ merged : Environment,
        (∀ v ∈ (names exchange).map Environment.variableOf,
          merged.text? v = (env.text? v).or (defs.lookup v)) →
        (fromEnvFile exchange path folder env).1 = fromEnvironment exchange merged := by
  rcases fromEnvFile_cases exchange path folder env with
    ⟨read, after, hread, hsupplied, hresult⟩ | ⟨fault, _, hfault, -⟩
  · obtain rfl : read = defs := Except.ok.inj (hread.symm.trans h)
    rw [hresult]
    refine ⟨hsupplied, fun merged hmerged => fromEnvironment_congr fun name hname => ?_⟩
    rw [hsupplied.text?, merged.text?_eq, hmerged _ (List.mem_map_of_mem hname)]
  · exact nomatch hfault.symm.trans h

theorem fromEnvFile_of_fault {fault : EnvFile.Fault}
    (h : fileDefinitions path folder env = .error fault) :
    (fromEnvFile exchange path folder env).1 = .error (refusal path fault) := by
  rcases fromEnvFile_cases exchange path folder env with
    ⟨_, _, hread, -⟩ | ⟨_, _, hfault, hresult, -⟩
  · exact nomatch hread.symm.trans h
  · rw [hresult, Except.error.inj (hfault.symm.trans h)]

end Outcomes

/-- The environment wins over the file. A variable with text keeps it, whatever is at the path. With
no file there the settings are those of the environment, and with definitions that cannot be read
there are none. Otherwise each variable without text gets its first definition, and the settings are
those of any environment that has, for each name, the text of its variable or else the first
definition of that. The variable is the name itself, unless the exchange has an equals sign in its
name. A missing key is missed before a missing secret. -/
theorem process_values_win (exchange path : String) (folder : Folder) (env : Environment) :
    (folder.readFile path = .error .notFound →
      fromEnvFile exchange path folder env = (fromEnvironment exchange env, env)) ∧
    (∀ name text, env.get? name = some (.text text) →
      (fromEnvFile exchange path folder env).2.get? name = some (.text text)) ∧
    (∀ fault, fileDefinitions path folder env = .error fault →
      (fromEnvFile exchange path folder env).1 = .error (refusal path fault)) ∧
    (∀ defs, fileDefinitions path folder env = .ok defs →
      env.Supplied defs (fromEnvFile exchange path folder env).2 ∧
      ∀ merged : Environment,
        (∀ v ∈ (names exchange).map Environment.variableOf,
          merged.text? v = (env.text? v).or (defs.lookup v)) →
        (fromEnvFile exchange path folder env).1 = fromEnvironment exchange merged) ∧
    ('=' ∉ exchange.toList → (names exchange).map Environment.variableOf = names exchange) ∧
    ∀ merged : Environment, merged.text? (variableName exchange "API_KEY") = none →
      fromEnvironment exchange merged =
        .error (.missingVariable (variableName exchange "API_KEY")) := by
  refine ⟨fun hmissing => ?_, get?_fromEnvFile exchange path folder env,
    fun fault => fromEnvFile_of_fault exchange path folder env,
    fun defs => fromEnvFile_of_definitions exchange path folder env, fun hexchange => ?_,
    fun merged => fromEnvironment_of_no_key⟩
  · rw [fromEnvFile, hmissing]
  · exact (List.map_congr_left (variableOf_of_mem_names hexchange)).trans (List.map_id' _)

/-- A key that is set to bytes, defined twice and referred to, next to a secret that is set. -/
theorem process_values_win_twice :
    let env : Environment := .ofList
      [("P_API_KEY", .bytes [255] (by decide)), ("P_SECRET_KEY", .text "live")]
    let file := "P_API_KEY=first\nP_SECRET_KEY=file\nP_API_KEY=last\nP_BASE_URL=$\x7bP_API_KEY\x7d"
    let folder := Folder.ofPaths [(".env", .file file.toUTF8.toList)]
    (fromEnvFile "p" ".env" folder env).1 =
        .ok { ofCredentials ⟨"first", "live"⟩ with baseUrl := some "first" } ∧
      (fromEnvFile "p" ".env" folder env).2.get? "P_SECRET_KEY" = some (.text "live") := by
  intro env file folder
  have hdefs : fileDefinitions ".env" folder env = .ok [("P_API_KEY", "first"),
      ("P_SECRET_KEY", "file"), ("P_API_KEY", "last"), ("P_BASE_URL", "first")] := by
    decide +kernel
  let merged : Environment := .ofList [("P_API_KEY", .text "first"),
    ("P_SECRET_KEY", .text "live"), ("P_BASE_URL", .text "first")]
  obtain ⟨-, hkept, -, hread, -⟩ := process_values_win "p" ".env" folder env
  refine ⟨((hread _ hdefs).2 merged (by decide +kernel)).trans (by decide +kernel), ?_⟩
  exact hkept "P_SECRET_KEY" "live" rfl

/-- A file defines no name that has an equals sign, but a definition of what stands in front of it
can go on with the rest of the name, and is read as the key. -/
theorem key_read_behind_equals_sign :
    let file := "A=B_API_KEY=zz\nA=B_SECRET_KEY=yy"
    let folder := Folder.ofPaths [(".env", .file file.toUTF8.toList)]
    let defs := [("A", "B_API_KEY=zz"), ("A", "B_SECRET_KEY=yy")]
    fileDefinitions ".env" folder .empty = .ok defs ∧
      (∀ merged : Environment,
        (∀ name ∈ names "a=b", merged.text? name =
          (Environment.text? .empty name).or (defs.lookup name)) →
        fromEnvironment "a=b" merged = .error (.missingVariable "A=B_API_KEY")) ∧
      (fromEnvFile "a=b" ".env" folder .empty).1 = .error (.missingVariable "A=B_SECRET_KEY") := by
  intro file folder defs
  refine ⟨by decide +kernel, fun merged hmerged => ?_, by decide +kernel⟩
  exact fromEnvironment_of_no_key ((hmerged _ (.head _)).trans (by decide +kernel))

/-- A file that is rejected takes the text from no variable. Either it cannot be opened, and all is
as before, or one of its lines cannot be read, and what is above the first such line is supplied, so
that all is as before just if all definitions there are of variables with text. -/
theorem rejected_file_effect {exchange path : String} {folder : Folder} {env : Environment}
    {reason : String}
    (h : (fromEnvFile exchange path folder env).1 = .error (.invalid reason)) :
    let after := (fromEnvFile exchange path folder env).2
    (∀ name text, env.get? name = some (.text text) → after.get? name = some (.text text)) ∧
    ∃ fault, refusal path fault = .invalid reason ∧
      ((∃ e, folder.readFile path = .error e ∧ e ≠ .notFound ∧ after = env) ∨
      ∃ bytes above, folder.readFile path = .ok bytes ∧
        StopsBelow env (lines bytes) above fault ∧ env.Supplied above after ∧
        ((∀ name, after.get? name = env.get? name) ↔
          ∀ d ∈ above, ∃ own, env.get? d.1 = some (.text own))) := by
  intro after
  refine ⟨get?_fromEnvFile exchange path folder env, ?_⟩
  rcases fromEnvFile_cases exchange path folder env with
    ⟨_, left, -, -, hresult⟩ | ⟨fault, left, -, hresult, hleft⟩
  · rw [hresult] at h
    obtain ⟨_, -, hmissing, -⟩ := exists_missing_of_fromEnvironment h
    exact nomatch hmissing
  · have hafter : after = left := congrArg Prod.snd hresult
    rw [hresult] at h
    rw [hafter]
    refine ⟨fault, Except.error.inj h, hleft.imp id ?_⟩
    rintro ⟨bytes, above, hbytes, hstops, hsupplied⟩
    exact ⟨bytes, above, hbytes, hstops, hsupplied, hsupplied.get?_eq_iff⟩

/-- Of two good lines, one is of a variable with text, and the other refers to it. -/
theorem rejected_file_effect_below_two :
    let env : Environment := .ofList [("A", .text "0")]
    let folder := Folder.ofPaths [(".env", .file "A=1\nB=$A\n!bad\nC=2".toUTF8.toList)]
    let read := fromEnvFile "p" ".env" folder env
    read.1 = .error (.invalid
        "Failed to load .env file '.env': Error parsing line: '!bad', error at line index: 0") ∧
      read.2.get? "A" = some (.text "0") ∧ read.2.get? "B" = some (.text "0") ∧
      read.2.get? "C" = none := by
  intro env folder read
  have hread : read.1 = .error (.invalid
      "Failed to load .env file '.env': Error parsing line: '!bad', error at line index: 0") := by
    decide +kernel
  have hkept := (rejected_file_effect hread).1
  exact ⟨hread, hkept "A" "0" rfl, by decide +kernel, by decide +kernel⟩

theorem rejected_file_leaves_definition :
    let folder := Folder.ofPaths [(".env", .file "A=1\n!bad".toUTF8.toList)]
    let read := fromEnvFile "p" ".env" folder .empty
    read.1 = .error (.invalid
        "Failed to load .env file '.env': Error parsing line: '!bad', error at line index: 0") ∧
      (Dictionary.empty : Environment).get? "A" = none ∧ read.2.get? "A" = some (.text "1") := by
  decide +kernel

end MarketDesk.Settings
