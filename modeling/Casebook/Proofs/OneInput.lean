import Casebook.CommandLine

/-!
# Casebook.Proofs.OneInput

Which input a command line names that has no option but `--pretty`.  There should be exactly one,
and a second file is refused; but `-` replaces what was named before it.

* `Invocation.inputs` — the arguments that name an input;
* `ofArgs_eq` — what such a command line asks for, in terms of these alone;
* `OneInput` — one input is taken, none is answered with the usage, and two or more are refused;
* `Overridden` — all that follows the first input is `-`;
* `oneInput_ofArgs_iff` — there is one input, unless it is overridden.
-/

namespace Casebook

/-- The input that an argument names. -/
def Input.ofArg (arg : String) : Input := if arg = "-" then .standard else .file arg

namespace Invocation

/-- An argument that is no option but `--pretty`. -/
def Plain (arg : String) : Prop := arg = "--pretty" ∨ arg = "-" ∨ arg.startsWith "-" = false

/-- The arguments that name an input. -/
def inputs (args : List String) : List String := args.filter (· != "--pretty")

variable {pretty : Bool} {input : Option Input} {first : Input} {arg : String}
  {args rest : List String}

@[simp] theorem inputs_nil : inputs [] = [] := rfl

@[simp] theorem inputs_pretty : inputs ("--pretty" :: args) = inputs args := by
  simp [inputs]

@[simp] theorem inputs_of_ne (h : arg ≠ "--pretty") :
    inputs (arg :: args) = arg :: inputs args := by
  simp [inputs, h]

/-! ## one argument -/

/-- An argument without a dash in front is no option. -/
theorem ne_of_not_startsWith {option : String} (h : arg.startsWith "-" = false)
    (hoption : option.startsWith "-" = true) : arg ≠ option := by
  rintro rfl
  simp [hoption] at h

theorem ofArgsFrom_pretty :
    ofArgsFrom pretty input ("--pretty" :: args) = ofArgsFrom true input args := by
  simp [ofArgsFrom]

theorem ofArgsFrom_standard :
    ofArgsFrom pretty input ("-" :: args) = ofArgsFrom pretty (some .standard) args := by
  simp [ofArgsFrom]

/-- A file is the input if there is none so far, and too much otherwise. -/
theorem ofArgsFrom_file (h : arg.startsWith "-" = false) :
    ofArgsFrom pretty input (arg :: args) =
      if input.isNone then ofArgsFrom pretty (some (.file arg)) args
      else unexpectedArgument arg := by
  have hshort : arg ≠ "-h" := ne_of_not_startsWith h (by simp)
  have hlong : arg ≠ "--help" := ne_of_not_startsWith h (by simp)
  have hpretty : arg ≠ "--pretty" := ne_of_not_startsWith h (by simp)
  have hstandard : arg ≠ "-" := ne_of_not_startsWith h (by simp)
  simp [ofArgsFrom, hshort, hlong, hpretty, hstandard, h]

/-! ## all arguments -/

/-- What more inputs ask for when one is named already: the first file among them is refused, and
`-` is not. -/
def ofMore (pretty : Bool) (first : Input) (rest : List String) : Invocation :=
  match rest.find? (· != "-") with
  | some extra => unexpectedArgument extra
  | none => evaluate (if rest = [] then first else .standard) pretty

theorem ofMore_standard : ofMore pretty first ("-" :: rest) = ofMore pretty .standard rest := by
  simp [ofMore]

/-- A second file is not expected. -/
theorem ofMore_file (h : arg ≠ "-") :
    ofMore pretty first (arg :: rest) = unexpectedArgument arg := by
  simp [ofMore, h]

/-- With an input at hand, the rest of the command line is read by its inputs, the option being
anywhere. -/
theorem ofArgsFrom_some (h : ∀ arg ∈ args, Plain arg) :
    ofArgsFrom pretty (some first) args =
      ofMore (pretty || decide ("--pretty" ∈ args)) first (inputs args) := by
  induction args generalizing pretty first with
  | nil => simp [ofArgsFrom, ofMore]
  | cons arg args ih =>
      obtain ⟨harg, hargs⟩ := List.forall_mem_cons.mp h
      rcases harg with rfl | rfl | hfile
      · rw [ofArgsFrom_pretty, ih hargs]
        simp
      · rw [ofArgsFrom_standard, ih hargs, inputs_of_ne (by simp), ofMore_standard]
        simp
      · have hpretty : arg ≠ "--pretty" := ne_of_not_startsWith hfile (by simp)
        have hstandard : arg ≠ "-" := ne_of_not_startsWith hfile (by simp)
        rw [ofArgsFrom_file hfile, inputs_of_ne hpretty, ofMore_file hstandard]
        simp

/-- Without an input so far, the first input of the rest is the one to go on from. -/
theorem ofArgsFrom_none (h : ∀ arg ∈ args, Plain arg) :
    ofArgsFrom pretty none args =
      match inputs args with
      | [] => noInput
      | arg :: rest => ofMore (pretty || decide ("--pretty" ∈ args)) (.ofArg arg) rest := by
  induction args generalizing pretty with
  | nil => simp [ofArgsFrom]
  | cons arg args ih =>
      obtain ⟨harg, hargs⟩ := List.forall_mem_cons.mp h
      rcases harg with rfl | rfl | hfile
      · rw [ofArgsFrom_pretty, ih hargs]
        simp
      · rw [ofArgsFrom_standard, ofArgsFrom_some hargs, inputs_of_ne (by simp)]
        simp [Input.ofArg]
      · have hpretty : arg ≠ "--pretty" := ne_of_not_startsWith hfile (by simp)
        have hstandard : arg ≠ "-" := ne_of_not_startsWith hfile (by simp)
        rw [ofArgsFrom_file hfile, inputs_of_ne hpretty]
        simp [ofArgsFrom_some hargs, Input.ofArg, hstandard, hpretty.symm]

/-- Of plain arguments, only the inputs in order and the presence of the option matter. -/
theorem ofArgs_eq (h : ∀ arg ∈ args, Plain arg) :
    ofArgs args =
      match inputs args with
      | [] => noInput
      | arg :: rest => ofMore (decide ("--pretty" ∈ args)) (.ofArg arg) rest := by
  rw [ofArgs, ofArgsFrom_none h]
  simp

/-! ## one input -/

/-- Exactly one input is taken, whether or not it is `-`.  Nothing is read when none is given, which
is answered with the usage, or when there is one too many, which is named. -/
def OneInput (pretty : Bool) (inputs : List String) (i : Invocation) : Prop :=
  match inputs with
  | [] => i.input? = none ∧ ∀ contents, i.report contents = { code := 1, stderr := usage }
  | [arg] => i = evaluate (.ofArg arg) pretty
  | _ :: more => i.input? = none ∧ ∃ extra ∈ more, ∀ contents, i.report contents =
      { code := 1, stderr := "error: unexpected argument `" ++ extra ++ "`\n" }

/-- All that follows the first input is `-`, which replaces it. -/
def Overridden (inputs : List String) : Prop := inputs.tail ≠ [] ∧ ∀ arg ∈ inputs.tail, arg = "-"

/-- A standard input behind other inputs is what is evaluated. -/
theorem ofArgs_of_overridden (h : ∀ arg ∈ args, Plain arg) (ho : Overridden (inputs args)) :
    ofArgs args = evaluate .standard (decide ("--pretty" ∈ args)) := by
  rw [ofArgs_eq h]
  cases hinputs : inputs args with
  | nil => simp [hinputs, Overridden] at ho
  | cons arg rest =>
      simp only [hinputs, Overridden, List.tail_cons] at ho
      have hfind : rest.find? (· != "-") = none := by
        simpa [List.find?_eq_none] using ho.2
      simp [ofMore, hfind, ho.1]

/-- Unless `-` overrides an input, exactly one is taken: none is answered with the usage, and one
too many is refused. -/
theorem oneInput_of_not_overridden (h : ∀ arg ∈ args, Plain arg)
    (ho : ¬ Overridden (inputs args)) :
    OneInput (decide ("--pretty" ∈ args)) (inputs args) (ofArgs args) := by
  rw [ofArgs_eq h]
  match hinputs : inputs args with
  | [] => simp [OneInput, input?, report]
  | [arg] => simp [OneInput, ofMore]
  | arg :: next :: rest =>
      -- something behind the first input is not `-`, and the first such argument is refused
      have hsome : (next :: rest).find? (· != "-") ≠ none := by
        intro hnone
        have hall : ∀ arg ∈ next :: rest, arg = "-" := by
          simpa [List.find?_eq_none] using hnone
        exact ho (hinputs ▸ ⟨by simp, hall⟩)
      obtain ⟨extra, hextra⟩ := Option.ne_none_iff_exists'.mp hsome
      have hmem : extra ∈ next :: rest := List.mem_of_find?_eq_some hextra
      simp only [ofMore, hextra]
      exact ⟨rfl, extra, hmem, fun contents => rfl⟩

/-- The order of the arguments does not matter to what is read. -/
theorem input?_eq_of_perm {args' : List String} (hp : args'.Perm args) {i i' : Invocation}
    (hi : OneInput pretty (inputs args) i) (hi' : OneInput pretty (inputs args') i') :
    i'.input? = i.input? := by
  have hinputs : (inputs args').Perm (inputs args) := hp.filter _
  match hs : inputs args with
  | [] =>
      have hs' : inputs args' = [] := List.perm_nil.mp (hs ▸ hinputs)
      rw [hs] at hi
      rw [hs'] at hi'
      rw [hi.1, hi'.1]
  | [arg] =>
      have hs' : inputs args' = [arg] := List.perm_singleton.mp (hs ▸ hinputs)
      rw [hs] at hi
      rw [hs'] at hi'
      rw [hi, hi']
  | arg :: next :: rest =>
      have hlength : (inputs args').length = rest.length + 2 := by
        simp [hinputs.length_eq, hs]
      match hs' : inputs args' with
      | [] | [_] => simp [hs'] at hlength
      | _ :: _ :: _ =>
          rw [hs] at hi
          rw [hs'] at hi'
          rw [hi.1, hi'.1]

/-- **A command line names one input, unless `-` overrides it.**  Among arguments that are no
options, and `--pretty`, exactly one is taken as the input, whatever the order; none is answered
with the usage, and of two or more one is refused by name.  This fails exactly where all that
follows the first input is `-`: then the standard input is read, and what was named before is
ignored without a word. -/
theorem oneInput_ofArgs_iff (args : List String) (h : ∀ arg ∈ args, Plain arg) :
    (OneInput (decide ("--pretty" ∈ args)) (inputs args) (ofArgs args) ↔
      ¬ Overridden (inputs args)) ∧
    (Overridden (inputs args) →
      ofArgs args = evaluate .standard (decide ("--pretty" ∈ args))) ∧
    ∀ args' : List String, args'.Perm args → ¬ Overridden (inputs args) →
      ¬ Overridden (inputs args') → (ofArgs args').input? = (ofArgs args).input? := by
  refine ⟨⟨fun hone ho => ?_, oneInput_of_not_overridden h⟩, ofArgs_of_overridden h, ?_⟩
  · rw [ofArgs_of_overridden h ho] at hone
    match hs : inputs args with
    | [] | [_] => simp [hs, Overridden] at ho
    | _ :: _ :: _ =>
        rw [hs] at hone
        exact nomatch hone.1
  · intro args' hp ho ho'
    have h' : ∀ arg ∈ args', Plain arg := fun arg harg => h arg (hp.mem_iff.mp harg)
    have hpretty : decide ("--pretty" ∈ args') = decide ("--pretty" ∈ args) := by
      simp [hp.mem_iff]
    have hone' := oneInput_of_not_overridden h' ho'
    rw [hpretty] at hone'
    exact input?_eq_of_perm hp (oneInput_of_not_overridden h ho) hone'

/-- A second file is refused, also behind `-`.  Without it, `-` overrides the first. -/
theorem oneInput_ofArgs_iff_extraFile :
    (∀ arg ∈ ["a.json", "--pretty", "-", "b.json"], Plain arg) ∧
      OneInput true ["a.json", "-", "b.json"]
        (ofArgs ["a.json", "--pretty", "-", "b.json"]) ∧
      ["b.json", "a.json", "-", "--pretty"].Perm ["a.json", "--pretty", "-", "b.json"] ∧
      (ofArgs ["b.json", "a.json", "-", "--pretty"]).input? =
        (ofArgs ["a.json", "--pretty", "-", "b.json"]).input? ∧
      (∀ arg ∈ ["a.json", "--pretty", "-"], Plain arg) ∧ Overridden ["a.json", "-"] ∧
      ofArgs ["a.json", "--pretty", "-"] = evaluate .standard true := by
  have hplain : ∀ arg ∈ ["a.json", "--pretty", "-", "b.json"], Plain arg := by simp [Plain]
  have hplain' : ∀ arg ∈ ["a.json", "--pretty", "-"], Plain arg := by simp [Plain]
  have hrefused : ¬ Overridden ["a.json", "-", "b.json"] := by simp [Overridden]
  have hrefused' : ¬ Overridden ["b.json", "a.json", "-"] := by simp [Overridden]
  have hoverridden : Overridden ["a.json", "-"] := by simp [Overridden]
  have hperm : ["b.json", "a.json", "-", "--pretty"].Perm ["a.json", "--pretty", "-", "b.json"] :=
    by decide
  obtain ⟨hone, -, horder⟩ := oneInput_ofArgs_iff ["a.json", "--pretty", "-", "b.json"] hplain
  obtain ⟨-, hstandard, -⟩ := oneInput_ofArgs_iff ["a.json", "--pretty", "-"] hplain'
  exact ⟨hplain, hone.mpr hrefused, hperm, horder _ hperm hrefused hrefused', hplain', hoverridden,
    hstandard hoverridden⟩

/-- A file that is named before `-` is ignored.  The other way round it is refused. -/
theorem not_oneInput_fileFirst :
    (∀ arg ∈ ["case.json", "-"], Plain arg) ∧
      ¬ OneInput false ["case.json", "-"] (ofArgs ["case.json", "-"]) ∧
      ofArgs ["case.json", "-"] = evaluate .standard false ∧
      ofArgs ["-", "case.json"] = unexpectedArgument "case.json" := by
  have hignored : ofArgs ["case.json", "-"] = evaluate .standard false := by
    simp [ofArgs, ofArgsFrom]
  have hrefused : ofArgs ["-", "case.json"] = unexpectedArgument "case.json" := by
    simp [ofArgs, ofArgsFrom]
  refine ⟨by simp [Plain], fun hone => ?_, hignored, hrefused⟩
  rw [hignored] at hone
  exact nomatch hone.1

end Invocation

end Casebook
