import CodeFolding.Command.Arguments
import Mathlib.Data.List.Basic
import Mathlib.Data.List.TakeWhile
/-!
# Command lines that are written

A command line gives options, with and without values, and files. Read from the front, each of them
is added to what is read so far: `readArguments_flatMap`. The overrides of the settings can be
written behind the arguments of every command that takes them, and are read back as they are:
`parse_fold` and `parse_scan`.
-/
namespace CodeFolding

/-! ## Numbers -/

theorem digitValue?_of_isDigit {c : Char} (h : c.isDigit = true) :
    digitValue? c = some (c.toNat - '0'.toNat) := by
  unfold digitValue?
  rw [if_pos h]

theorem Text.ofDigits_toDigits (n : Nat) : ofDigits 10 (Nat.toDigits 10 n) = n := by
  have hdigits : ∀ c ∈ Nat.toDigits 10 n, c.isDigit = true :=
    fun c hc => Nat.isDigit_of_mem_toDigits (by decide) (by decide) hc
  conv_rhs => rw [← Nat.ofDigitChars_toDigits (b := 10) (n := n) (by decide) (by decide)]
  unfold ofDigits
  rw [Nat.ofDigitChars_eq_foldl]
  apply List.foldl_ext
  intro m c hc
  rw [digitValue?_of_isDigit (hdigits c hc), Option.getD_some, Nat.mul_comm]

theorem toList_toString (n : Nat) : (toString n).toList = Nat.toDigits 10 n := by
  rw [Nat.toString_eq_ofList_toDigits, String.toList_ofList]

theorem isDigit_of_mem_toString {n : Nat} {c : Char} (h : c ∈ (toString n).toList) :
    c.isDigit = true := by
  rw [toList_toString] at h
  exact Nat.isDigit_of_mem_toDigits (by decide) (by decide) h

namespace Command

variable {shape : Shape} {a : Arguments} {name value path : String} {rest : List String}
  {o : Overrides}

/-- **A machine word is read as it is written.** -/
theorem number?_toString {n : Nat} (h : n < UInt64.size) : number? (toString n) = some n := by
  have hdigits : (toString n).toList.all Char.isDigit = true :=
    List.all_eq_true.2 fun c hc => isDigit_of_mem_toString hc
  -- the sign that may stand in front is no digit
  have hplus : ∀ rest, (toString n).toList ≠ '+' :: rest := by
    intro rest heq
    have hdigit : '+'.isDigit = true := isDigit_of_mem_toString (heq ▸ List.mem_cons_self)
    revert hdigit
    decide
  have hbound : n < 0x10000000000000000 := h
  rw [toList_toString] at hdigits
  unfold number?
  split
  · next rest heq => exact absurd heq (hplus rest)
  · rw [toList_toString]
    simp [hdigits, Text.ofDigits_toDigits, hbound, Nat.toDigits_ne_nil]

/-! ## Forms -/

theorem formOf_eq_plain (h : ∀ rest, value.toList ≠ '-' :: rest) : formOf value = .plain := by
  unfold formOf
  split
  · next heq => exact absurd heq (h _)
  · next heq => exact absurd heq (h _)
  · next heq => exact absurd heq (h _)
  · rfl

theorem formOf_toString (n : Nat) : formOf (toString n) = .plain := by
  apply formOf_eq_plain
  intro rest heq
  have hdigit : '-'.isDigit = true := isDigit_of_mem_toString (heq ▸ List.mem_cons_self)
  revert hdigit
  decide

/-- A long name: it is not empty and has no value behind it. -/
def IsLongName (name : String) : Prop := name ≠ "" ∧ '=' ∉ name.toList

theorem formOf_long (h : IsLongName name) : formOf ("--" ++ name) = .long name none := by
  obtain ⟨hne, hequals⟩ := h
  have hdashes : ("--" ++ name).toList = '-' :: '-' :: name.toList := by
    rw [String.toList_append]
    rfl
  have hall : ∀ c ∈ name.toList, (c != '=') = true := by
    intro c hc
    rw [bne_iff_ne]
    rintro rfl
    exact hequals hc
  have htake : name.toList.takeWhile (· != '=') = name.toList := List.takeWhile_eq_self_iff.2 hall
  have hdrop : name.toList.dropWhile (· != '=') = [] := List.dropWhile_eq_nil_iff.2 hall
  cases hname : name.toList with
  | nil => exact absurd (String.toList_eq_nil_iff.1 hname) hne
  | cons c chars =>
    rw [hname] at hdashes htake hdrop
    unfold formOf
    rw [hdashes]
    simp only [htake, hdrop]
    rw [← hname, String.ofList_toList]

/-! ## Reading what is given -/

/-- What a command line can give. -/
inductive Given where
  | flag (name : String)
  | option (name value : String)
  | file (path : String)

namespace Given

def arguments : Given → List String
  | flag name => ["--" ++ name]
  | option name value => ["--" ++ name, value]
  | file path => [path]

/-- What is read, with it added. -/
def addTo (shape : Shape) (a : Arguments) : Given → Option Arguments
  | flag name => a.addFlag shape name
  | option name value => a.addOption shape name value
  | file path => a.addFile shape path

/-- Its arguments are told apart: options have long names, not that of the help, and take a value or
not; values and files do not look like options. -/
def IsPlain (shape : Shape) : Given → Prop
  | flag name => IsLongName name ∧ name ≠ "help" ∧ shape.options.lookup name = none
  | option name value => IsLongName name ∧ name ≠ "help" ∧
      (shape.options.lookup name).isSome = true ∧ formOf value = .plain
  | file path => formOf path = .plain

/-- One thing that is given is read and added. -/
theorem readArguments_append {g : Given} (h : g.IsPlain shape) (rest : List String) :
    readArguments shape none (g.arguments ++ rest) a =
      (g.addTo shape a).bind (readArguments shape none rest) := by
  cases g with
  | flag name =>
    obtain ⟨hlong, hhelp, htakes⟩ := h
    simp only [arguments, List.singleton_append, readArguments, formOf_long hlong, htakes]
    rfl
  | option name value =>
    obtain ⟨hlong, hhelp, htakes, hvalue⟩ := h
    simp only [arguments, List.cons_append, List.nil_append, readArguments, formOf_long hlong,
      htakes, hvalue, if_true]
    rfl
  | file path =>
    have hplain : formOf path = .plain := h
    simp only [arguments, List.singleton_append, readArguments, hplain]
    rfl

/-- **What is given is read from the front, one after the other.** -/
theorem readArguments_flatMap {given : List Given} (h : ∀ g ∈ given, g.IsPlain shape) :
    readArguments shape none (given.flatMap arguments) a =
      (given.foldlM (addTo shape) a).map .done := by
  induction given generalizing a with
  | nil => rfl
  | cons g given ih =>
    obtain ⟨hg, hgiven⟩ := List.forall_mem_cons.1 h
    rw [List.flatMap_cons, readArguments_append hg, List.foldlM_cons]
    cases g.addTo shape a with
    | none => rfl
    | some a => exact ih hgiven

end Given

end Command

/-! ## Overrides -/

namespace Overrides

open Command

/-- What a command line gives to override settings. -/
def given (o : Overrides) : List Given :=
  o.tabSize.toList.map (fun n => .option "tab-size" (toString n)) ++
    (if o.skipIndent then [.flag "skip-indent"] else []) ++
    if o.noGate then [.flag "no-gate"] else []

def arguments (o : Overrides) : List String := o.given.flatMap Given.arguments

variable {shape : Shape} {a : Arguments} {o : Overrides}

theorem isPlain_of_mem_given {g : Given} (hoptions : shape.options.lookup "tab-size" = some .number)
    (hskip : shape.options.lookup "skip-indent" = none)
    (hgate : shape.options.lookup "no-gate" = none) (hg : g ∈ o.given) : g.IsPlain shape := by
  simp only [given, List.mem_append, List.mem_map, List.mem_ite_nil_right, List.mem_singleton] at hg
  rcases hg with (⟨n, -, rfl⟩ | ⟨-, rfl⟩) | ⟨-, rfl⟩
  · refine ⟨⟨by decide, by decide⟩, by decide, ?_, formOf_toString n⟩
    rw [hoptions]
    rfl
  · exact ⟨⟨by decide, by decide⟩, by decide, hskip⟩
  · exact ⟨⟨by decide, by decide⟩, by decide, hgate⟩

theorem foldlM_addTo_option {tabSize : Option Nat} (hword : ∀ n ∈ tabSize, n < UInt64.size)
    (hoptions : shape.options.lookup "tab-size" = some .number) (hnew : a.options = []) :
    (tabSize.toList.map fun n => Given.option "tab-size" (toString n)).foldlM
        (Given.addTo shape) a =
      some { a with options := tabSize.toList.map fun n => ("tab-size", toString n) } := by
  cases tabSize with
  | none =>
    obtain ⟨flags, options, file⟩ := a
    simp only at hnew
    subst hnew
    rfl
  | some n =>
    have haccepts : ValueKind.number.accepts (toString n) = true := by
      simp only [ValueKind.accepts, number?_toString (hword n rfl)]
      rfl
    have hadd : (Given.option "tab-size" (toString n)).addTo shape a =
        some { a with options := [("tab-size", toString n)] } := by
      simp only [Given.addTo, Arguments.addOption, hoptions, hnew, Option.bind_eq_bind,
        Option.bind_some, haccepts]
      rfl
    rw [Option.toList_some, List.map_singleton, List.foldlM_cons, hadd]
    rfl

theorem foldlM_addTo_flag {name : String} {given : Bool} (hname : name ∈ shape.flags)
    (hnew : name ∉ a.flags) :
    (if given then [Given.flag name] else []).foldlM (Given.addTo shape) a =
      some { a with flags := (if given then [name] else []) ++ a.flags } := by
  cases given with
  | false => rfl
  | true => simp [Given.addTo, Arguments.addFlag, hname, hnew]

/-- What is read when the overrides are read behind the option for structured output. -/
def readTo (o : Overrides) (file : Option String) : Arguments where
  flags := (if o.noGate then ["no-gate"] else []) ++
    ((if o.skipIndent then ["skip-indent"] else []) ++ ["json"])
  options := o.tabSize.toList.map fun n => ("tab-size", toString n)
  file := file

theorem foldlM_addTo_given (ho : ∀ n ∈ o.tabSize, n < UInt64.size)
    (hoptions : shape.options.lookup "tab-size" = some .number)
    (hskip : "skip-indent" ∈ shape.flags) (hgate : "no-gate" ∈ shape.flags)
    (file : Option String) :
    o.given.foldlM (Given.addTo shape) ⟨["json"], [], file⟩ = some (o.readTo file) := by
  unfold given
  simp only [List.foldlM_append, Option.bind_eq_bind]
  rw [foldlM_addTo_option ho hoptions rfl, Option.bind_some, foldlM_addTo_flag hskip (by simp),
    Option.bind_some, foldlM_addTo_flag hgate (by cases o.skipIndent <;> simp)]
  rfl

/-- **The overrides are read as they are given.** -/
theorem overrides_readTo (ho : ∀ n ∈ o.tabSize, n < UInt64.size) (file : Option String) :
    (o.readTo file).overrides = o := by
  obtain ⟨tabSize, skipIndent, noGate⟩ := o
  have htab : (readTo ⟨tabSize, skipIndent, noGate⟩ file).number? "tab-size" = tabSize := by
    cases tabSize with
    | none => rfl
    | some n => exact number?_toString (ho n rfl)
  have hskip : (readTo ⟨tabSize, skipIndent, noGate⟩ file).has "skip-indent" = skipIndent := by
    cases skipIndent <;> cases noGate <;> simp [readTo, Arguments.has]
  have hgate : (readTo ⟨tabSize, skipIndent, noGate⟩ file).has "no-gate" = noGate := by
    cases skipIndent <;> cases noGate <;> simp [readTo, Arguments.has]
  unfold Arguments.overrides
  rw [htab, hskip, hgate]

theorem value?_readTo {name : String} (hname : name ≠ "tab-size") (file : Option String) :
    (o.readTo file).value? name = none := by
  cases htab : o.tabSize with
  | none => simp [readTo, Arguments.value?, htab]
  | some n => simp [readTo, Arguments.value?, htab, hname]

end Overrides

namespace Command

variable {o : Overrides} {path : String}

theorem parse_of_readArguments {command : String} {arguments : List String} {shape : Shape}
    {build : Arguments → Option Command} {b : Arguments} {c : Command}
    (hplain : formOf command = .plain) (hshape : shape? command = some (shape, build))
    (hread : readArguments shape none arguments {} = some (.done b)) (hjson : b.has "json" = true)
    (hbuild : build b = some c) : parse (command :: arguments) false = some (.run true c) := by
  have hhelp : command ≠ "help" := by
    rintro rfl
    cases hshape
  simp only [parse, hplain, hhelp, if_false, hshape, Option.bind_eq_bind, Option.bind_some, hread,
    hjson, hbuild, Bool.false_or]
  rfl

theorem readArguments_json {shape : Shape} (file : Option String)
    (ho : ∀ n ∈ o.tabSize, n < UInt64.size) (hflags : shape.flags = "json" :: overrideFlags)
    (hoptions : shape.options.lookup "tab-size" = some .number)
    (hnone : ∀ name ∈ shape.flags, shape.options.lookup name = none)
    (hfile : ∀ path ∈ file, shape.takesFile = true ∧ formOf path = .plain ∧ path ≠ "") :
    readArguments shape none ("--json" :: (file.toList ++ o.arguments)) {} =
      some (.done (o.readTo file)) := by
  have hskip : "skip-indent" ∈ shape.flags := by simp [hflags, overrideFlags]
  have hgate : "no-gate" ∈ shape.flags := by simp [hflags, overrideFlags]
  have hjson : "json" ∈ shape.flags := by simp [hflags]
  have harguments : "--json" :: (file.toList ++ o.arguments) =
      (Given.flag "json" :: (file.toList.map Given.file ++ o.given)).flatMap Given.arguments := by
    rw [List.flatMap_cons, List.flatMap_append, List.flatMap_map]
    cases file <;> rfl
  rw [harguments, Given.readArguments_flatMap]
  · have hadd : (file.toList.map Given.file).foldlM (Given.addTo shape) ⟨["json"], [], none⟩ =
        some ⟨["json"], [], file⟩ := by
      cases file with
      | none => rfl
      | some path =>
        obtain ⟨htakes, -, hne⟩ := hfile path rfl
        simp [Given.addTo, Arguments.addFile, htakes, ValueKind.accepts, hne]
    have hfirst : (Given.flag "json").addTo shape {} = some ⟨["json"], [], none⟩ := by
      simp [Given.addTo, Arguments.addFlag, hjson]
    rw [List.foldlM_cons, hfirst, Option.bind_eq_bind, Option.bind_some, List.foldlM_append, hadd,
      Option.bind_eq_bind, Option.bind_some, Overrides.foldlM_addTo_given ho hoptions hskip hgate]
    rfl
  · intro g hg
    rcases List.mem_cons.1 hg with rfl | hg
    · exact ⟨⟨by decide, by decide⟩, by decide, hnone "json" hjson⟩
    · rcases List.mem_append.1 hg with hg | hg
      · obtain ⟨path, hpath, rfl⟩ := List.mem_map.1 hg
        exact (hfile path (Option.mem_toList.1 hpath)).2.1
      · exact Overrides.isPlain_of_mem_given hoptions (hnone _ hskip) (hnone _ hgate) hg

/-- **A command line that folds a file, with overrides.** -/
theorem parse_fold (ho : ∀ n ∈ o.tabSize, n < UInt64.size) (hplain : formOf path = .plain)
    (hne : path ≠ "") :
    parse ("fold" :: "--json" :: path :: o.arguments) false = some (.run true (.fold path o)) := by
  have hfile : ∀ p ∈ some path, true = true ∧ formOf p = .plain ∧ p ≠ "" := by
    rintro p ⟨rfl⟩
    exact ⟨rfl, hplain, hne⟩
  refine parse_of_readArguments rfl rfl
    (readArguments_json (some path) ho rfl rfl (by decide) hfile) ?_ ?_
  · simp [Overrides.readTo, Arguments.has]
  · rw [Overrides.overrides_readTo ho]
    rfl

/-- **A command line that folds the project in the working directory, with overrides.** -/
theorem parse_scan (ho : ∀ n ∈ o.tabSize, n < UInt64.size) :
    parse ("scan" :: "--json" :: o.arguments) false =
      some (.run true (.scan none none defaultLimit o)) := by
  refine parse_of_readArguments rfl rfl
    (readArguments_json none ho rfl rfl (by decide) (by simp)) ?_ ?_
  · simp [Overrides.readTo, Arguments.has]
  · have hnone : ∀ name ≠ "tab-size", (o.readTo none).value? name = none :=
      fun name hname => Overrides.value?_readTo hname none
    rw [Overrides.overrides_readTo ho, hnone "root" (by decide), hnone "filter" (by decide)]
    unfold Arguments.number?
    rw [hnone "limit" (by decide)]
    rfl

end Command

end CodeFolding
