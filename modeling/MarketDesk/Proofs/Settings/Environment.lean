import MarketDesk.Proofs.Dictionary
import MarketDesk.Proofs.Text.Case
import MarketDesk.Proofs.Text.Utf8
import MarketDesk.Settings.Environment

/-!
# Variables and the names they are read by

A name is read from one variable, itself or what stands in front of its first equals sign, and what
it has there follows from the text of the variable alone. The settings of an exchange follow from
the texts of four names, of which the first two are needed and the first is missed first. An
environment is supplied with definitions if each variable without text has its first definition and
all else is as it was.
-/

namespace MarketDesk

namespace VariableValue

theorem text?_ofBytes (bs : List UInt8) :
    (ofBytes bs).text? = (Text.Utf8.decode? bs).map String.ofList := by
  unfold ofBytes
  split
  · next cs h => exact (congrArg (Option.map String.ofList) h).symm
  · next h => exact (congrArg (Option.map String.ofList) h).symm

/-- What stands behind a text in a value is a text just if the value is one, and the same if it is
looked for in the text. -/
theorem text?_behind (start : String) (value : VariableValue) :
    ((start.toUTF8.toList.isPrefixOf? value.toBytes).map ofBytes).bind text? =
      value.text?.bind fun s => (start.toList.isPrefixOf? s.toList).map String.ofList := by
  rw [Text.Utf8.toList_toUTF8]
  cases value with
  | text s =>
    rw [toBytes, Text.Utf8.toList_toUTF8, text?, Option.bind_some]
    cases hrest : (Text.Utf8.encode start.toList).isPrefixOf? (Text.Utf8.encode s.toList) with
    | some rest =>
      have hdecode := congrArg Text.Utf8.decode? (List.isPrefixOf?_eq_some_iff_append_eq.mp hrest)
      rw [Text.Utf8.decode?_encode_append, Text.Utf8.decode?_encode] at hdecode
      obtain ⟨behind, hbehind, happend⟩ := Option.map_eq_some_iff.mp hdecode
      rw [List.isPrefixOf?_eq_some_iff_append_eq.mpr happend, Option.map_some, Option.bind_some,
        text?_ofBytes, hbehind]
    | none =>
      cases hbehind : start.toList.isPrefixOf? s.toList with
      | none => rfl
      | some behind =>
        rw [← List.isPrefixOf?_eq_some_iff_append_eq.mp hbehind, Text.Utf8.encode_append,
          List.isPrefixOf?_eq_some_iff_append_eq.mpr rfl] at hrest
        exact nomatch hrest
  | bytes bs h =>
    rw [toBytes, text?, Option.bind_none]
    cases hrest : (Text.Utf8.encode start.toList).isPrefixOf? bs with
    | none => rfl
    | some rest =>
      rw [← List.isPrefixOf?_eq_some_iff_append_eq.mp hrest, Text.Utf8.decode?_encode_append,
        Option.map_eq_none_iff] at h
      rw [Option.map_some, Option.bind_some, text?_ofBytes, h]
      rfl

end VariableValue

namespace Environment

/-- The variable that a name is read from. -/
def variableOf (name : String) : String := String.ofList (name.toList.takeWhile fun c => c != '=')

/-- What a name has in the text of its variable: the text, or what follows in it. -/
def continuation (name text : String) : Option String :=
  match name.toList.dropWhile fun c => c != '=' with
  | [] => some text
  | _ :: continued => ((continued ++ ['=']).isPrefixOf? text.toList).map String.ofList

section Names

variable {name : String}

theorem dropWhile_eq_nil (h : '=' ∉ name.toList) :
    (name.toList.dropWhile fun c => c != '=') = [] :=
  List.dropWhile_eq_nil_iff.mpr fun _ hc => bne_iff_ne.mpr (ne_of_mem_of_not_mem hc h)

theorem variableOf_of_notMem (h : '=' ∉ name.toList) : variableOf name = name := by
  have happend := List.takeWhile_append_dropWhile (p := fun c => c != '=') (l := name.toList)
  rw [dropWhile_eq_nil h, List.append_nil] at happend
  rw [variableOf, happend, String.ofList_toList]

theorem notMem_variableOf (name : String) : '=' ∉ (variableOf name).toList := by
  rw [variableOf, String.toList_ofList]
  intro hmem
  have hne := List.mem_takeWhile_imp hmem
  simp at hne

theorem text?_of_notMem (env : Environment) (h : '=' ∉ name.toList) :
    env.text? name = (env.get? name).bind VariableValue.text? := by
  rw [text?, value?, dropWhile_eq_nil h]

/-- The text of a name follows from that of its variable. -/
theorem text?_eq (env : Environment) (name : String) :
    env.text? name = (env.text? (variableOf name)).bind (continuation name) := by
  rw [text?_of_notMem env (notMem_variableOf name), text?, value?]
  unfold continuation
  cases hdrop : name.toList.dropWhile fun c => c != '=' with
  | nil =>
    have happend := List.takeWhile_append_dropWhile (p := fun c => c != '=') (l := name.toList)
    rw [hdrop, List.append_nil] at happend
    rw [variableOf, happend, String.ofList_toList]
    exact (Option.bind_fun_some _).symm
  | cons _ continued =>
    change ((env.get? (variableOf name)).bind _).bind _ = _
    cases env.get? (variableOf name) with
    | none => rfl
    | some value =>
      have hbehind := value.text?_behind (String.ofList (continued ++ ['=']))
      rw [String.toList_ofList] at hbehind
      exact hbehind

example : variableOf "A=B_KEY" = "A" ∧ continuation "A=B_KEY" "B_KEY=zz" = some "zz" := by decide

end Names

section Give

/-- Gives a variable a text if it has none. -/
def give (env : Environment) (key value : String) : Environment :=
  if (env.text? key).isSome then env else env.set key (.text value)

variable (env : Environment) {key name : String} (value : String)

theorem get?_give_of_ne (h : key ≠ name) : (env.give key value).get? name = env.get? name := by
  unfold give
  split
  · rfl
  · exact Dictionary.get?_set_of_ne env _ h

theorem get?_give_of_text (hkey : '=' ∉ key.toList) {text : String}
    (h : env.get? name = some (.text text)) :
    (env.give key value).get? name = some (.text text) := by
  by_cases hne : key = name
  · subst hne
    rw [give, if_pos, h]
    rw [text?_of_notMem env hkey, h]
    rfl
  · rw [get?_give_of_ne env value hne, h]

theorem get?_give_self (h : env.text? key = none) :
    (env.give key value).get? key = some (.text value) := by
  rw [give, h]
  exact Dictionary.get?_set_self env key _

end Give

section Supplied

/-- What an environment becomes when variables without text are given their first definition. -/
structure Supplied (env : Environment) (defs : List (String × String)) (after : Environment) :
    Prop where
  kept : ∀ name text, env.get? name = some (.text text) → after.get? name = some (.text text)
  defined : ∀ name text, (∀ own, env.get? name ≠ some (.text own)) →
    defs.lookup name = some text → after.get? name = some (.text text)
  untouched : ∀ name, defs.lookup name = none → after.get? name = env.get? name

variable {env after : Environment} {defs : List (String × String)}

theorem supplied_nil (env : Environment) : env.Supplied [] env where
  kept _ _ := id
  defined _ _ _ h := nomatch h
  untouched _ _ := rfl

theorem bind_text?_eq_none_iff {value : Option VariableValue} :
    value.bind VariableValue.text? = none ↔ ∀ own, value ≠ some (.text own) := by
  cases value with
  | none => exact iff_of_true rfl fun _ => nofun
  | some value => cases value <;> simp [VariableValue.text?]

theorem lookup_concat (defs : List (String × String)) (key value name : String) :
    (defs ++ [(key, value)]).lookup name =
      (defs.lookup name).or (if name = key then some value else none) := by
  rw [List.lookup_append, List.lookup_cons, List.lookup_nil]
  by_cases hname : name = key
  · rw [if_pos hname, beq_iff_eq.mpr hname]
  · rw [if_neg hname, beq_false_of_ne hname]

namespace Supplied

variable (h : env.Supplied defs after)
include h

theorem text?_of_notMem {name : String} (hname : '=' ∉ name.toList) :
    after.text? name = (env.text? name).or (defs.lookup name) := by
  rw [after.text?_of_notMem hname, env.text?_of_notMem hname]
  cases hown : (env.get? name).bind VariableValue.text? with
  | some own =>
    obtain ⟨value, hvalue, htext⟩ := Option.bind_eq_some_iff.mp hown
    cases value with
    | text text =>
      rw [h.kept name text hvalue]
      exact htext
    | bytes bs _ => exact nomatch htext
  | none =>
    cases hdef : defs.lookup name with
    | some text =>
      rw [h.defined name text (bind_text?_eq_none_iff.mp hown) hdef]
      rfl
    | none => rw [h.untouched name hdef, hown, Option.or_none]

theorem text? (name : String) :
    after.text? name = ((env.text? (variableOf name)).or (defs.lookup (variableOf name))).bind
      (continuation name) := by
  rw [after.text?_eq name, h.text?_of_notMem (notMem_variableOf name)]

/-- What a name has stays as it is below more definitions. -/
theorem text?_of_append {more : List (String × String)} {later : Environment}
    (hmore : env.Supplied (defs ++ more) later) {name text : String}
    (htext : after.text? name = some text) : later.text? name = some text := by
  rw [h.text?] at htext
  obtain ⟨own, hown, hcontinued⟩ := Option.bind_eq_some_iff.mp htext
  rw [hmore.text?, List.lookup_append, ← Option.or_assoc, hown, Option.some_or, Option.bind_some,
    hcontinued]

theorem concat {key : String} (hkey : '=' ∉ key.toList) (value : String) :
    env.Supplied (defs ++ [(key, value)]) (after.give key value) := by
  constructor
  case kept =>
    intro name text hown
    exact get?_give_of_text after value hkey (h.kept name text hown)
  case defined =>
    intro name text hown hdef
    rw [lookup_concat] at hdef
    cases hbefore : defs.lookup name with
    | some first =>
      rw [hbefore, Option.some_or] at hdef
      exact get?_give_of_text after value hkey (h.defined name text hown (hbefore.trans hdef))
    | none =>
      rw [hbefore, Option.none_or] at hdef
      obtain ⟨rfl, rfl⟩ : name = key ∧ value = text := by simpa using hdef
      apply get?_give_self
      rw [h.text?_of_notMem hkey, env.text?_of_notMem hkey, bind_text?_eq_none_iff.mpr hown,
        hbefore, Option.none_or]
  case untouched =>
    intro name hdef
    rw [lookup_concat, Option.or_eq_none_iff] at hdef
    have hne : key ≠ name := by
      rintro rfl
      exact absurd hdef.2 (by simp)
    rw [get?_give_of_ne after value hne, h.untouched name hdef.1]

/-- Nothing changes just if all definitions are of variables that have a text. -/
theorem get?_eq_iff : (∀ name, after.get? name = env.get? name) ↔
    ∀ d ∈ defs, ∃ own, env.get? d.1 = some (.text own) := by
  constructor
  · intro hsame d hd
    by_contra hown
    rw [not_exists] at hown
    cases hdef : defs.lookup d.1 with
    | some text => exact hown text ((hsame d.1).symm.trans (h.defined d.1 text hown hdef))
    | none => exact absurd rfl (bne_iff_ne.mp (List.lookup_eq_none_iff.mp hdef d hd))
  · intro hown name
    cases hdef : defs.lookup name with
    | some text =>
      obtain ⟨before, later, rfl, -⟩ := List.lookup_eq_some_iff.mp hdef
      obtain ⟨own, htext⟩ := hown (name, text) (List.mem_append_right before List.mem_cons_self)
      rw [htext, h.kept name own htext]
    | none => exact h.untouched name hdef

end Supplied

end Supplied

end Environment

namespace Settings

/-- The names that the settings of an exchange are read by. -/
def names (exchange : String) : List String :=
  ["API_KEY", "SECRET_KEY", "TESTNET", "BASE_URL"].map (variableName exchange)

theorem fromEnvironment_congr {exchange : String} {env env' : Environment}
    (h : ∀ name ∈ names exchange, env.text? name = env'.text? name) :
    fromEnvironment exchange env = fromEnvironment exchange env' := by
  simp only [names, List.map_cons, List.map_nil, List.forall_mem_cons] at h
  obtain ⟨hkey, hsecret, htestnet, hurl, -⟩ := h
  rw [fromEnvironment, fromEnvironment, requireVariable, requireVariable, requireVariable,
    requireVariable, hkey, hsecret, htestnet, hurl]

theorem fromEnvironment_of_no_key {exchange : String} {env : Environment}
    (h : env.text? (variableName exchange "API_KEY") = none) :
    fromEnvironment exchange env =
      .error (.missingVariable (variableName exchange "API_KEY")) := by
  rw [fromEnvironment, requireVariable, h]
  rfl

theorem exists_missing_of_fromEnvironment {exchange : String} {env : Environment}
    {e : SettingsError} (h : fromEnvironment exchange env = .error e) :
    ∃ name ∈ names exchange, e = .missingVariable name ∧ env.text? name = none := by
  unfold fromEnvironment requireVariable at h
  cases hkey : env.text? (variableName exchange "API_KEY") with
  | none =>
    rw [hkey] at h
    exact ⟨_, .head _, (Except.error.inj h).symm, hkey⟩
  | some key =>
    cases hsecret : env.text? (variableName exchange "SECRET_KEY") with
    | none =>
      rw [hkey, hsecret] at h
      exact ⟨_, .tail _ (.head _), (Except.error.inj h).symm, hsecret⟩
    | some secret =>
      rw [hkey, hsecret] at h
      exact nomatch h

theorem notMem_variableName {exchange suffix : String} (hexchange : '=' ∉ exchange.toList)
    (hsuffix : '=' ∉ suffix.toList) : '=' ∉ (variableName exchange suffix).toList := by
  have hcapital : '='.toNat ∉ Text.capitals := by decide +kernel
  simp only [variableName, upperText, String.toList_append, String.toList_ofList, List.mem_append,
    not_or]
  exact ⟨⟨mt (Text.mem_of_mem_upper hcapital) hexchange, by decide⟩, hsuffix⟩

/-- The names are those of the variables if no equals sign is in the name of the exchange. -/
theorem variableOf_of_mem_names {exchange : String} (h : '=' ∉ exchange.toList) :
    ∀ name ∈ names exchange, Environment.variableOf name = name := by
  intro name hname
  obtain ⟨suffix, hsuffix, rfl⟩ := List.mem_map.mp hname
  have hsuffixes : ∀ suffix ∈ ["API_KEY", "SECRET_KEY", "TESTNET", "BASE_URL"],
      '=' ∉ suffix.toList := by decide
  exact Environment.variableOf_of_notMem (notMem_variableName h (hsuffixes suffix hsuffix))

end Settings

end MarketDesk
