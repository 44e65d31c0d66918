import Highlighter.Command
import Mathlib.Tactic.SplitIfs

/-!
# What arguments ask for

Read from left to right, each argument is a request of its own, but that `--rules` takes the next
argument with it, whatever that is. The first request that ends the reading is answered; if there is
none, all are granted, a later one over an earlier one (`read_eq`).
-/

namespace Highlighter

inductive Request where
  | help
  | version
  | mode (mode : Mode)
  | listing
  | rules (path : Path)
  | file (path : Path)
  | wrong (error : Error)
deriving DecidableEq, Repr

namespace Request

/-- What an argument other than `--rules` asks for. -/
def ofArgument (argument : Text) : Request :=
  if argument = "--help".toList || argument = "-h".toList then help
  else if argument = "--version".toList || argument = "-V".toList then version
  else if argument = "--dark".toList then mode .dark
  else if argument = "--light".toList then mode .light
  else if argument = "--segments".toList then listing
  else if argument.head? = some '-' then wrong (.unknownOption argument)
  else file argument

def ofArguments : List Text → List Request
  | [] => []
  | argument :: rest =>
    if argument = "--rules".toList then
      match rest with
      | [] => [wrong .rulesWithoutFile]
      | path :: rest => rules path :: ofArguments rest
    else ofArgument argument :: ofArguments rest

/-- The answer to a request that ends the reading. -/
def answer? : Request → Option (Except Error Invocation)
  | help => some (.ok .help)
  | version => some (.ok .version)
  | wrong error => some (.error error)
  | mode _ | listing | rules _ | file _ => none

def file? : Request → Option Path
  | file path => some path
  | _ => none

def rules? : Request → Option Path
  | rules path => some path
  | _ => none

/-- The answer to the first request that ends the reading. -/
def firstAnswer? (arguments : List Text) : Option (Except Error Invocation) :=
  (ofArguments arguments).findSome? answer?

/-- Only help and the version are given without highlighting. -/
theorem eq_of_firstAnswer? {arguments : List Text} {invocation : Invocation}
    (h : firstAnswer? arguments = some (.ok invocation)) :
    invocation = .help ∨ invocation = .version := by
  obtain ⟨request, -, hanswer⟩ := List.exists_of_findSome?_eq_some h
  cases request with
  | help =>
      cases hanswer
      exact .inl rfl
  | version =>
      cases hanswer
      exact .inr rfl
  | _ => cases hanswer

def lastFile? (arguments : List Text) : Option Path :=
  ((ofArguments arguments).filterMap file?).getLast?

def lastRules? (arguments : List Text) : Option Path :=
  ((ofArguments arguments).filterMap rules?).getLast?

/-- A flag that comes after `--rules` is the name of a file. -/
example : ofArguments ["--rules".toList, "--help".toList, "a".toList]
    = [rules "--help".toList, file "a".toList] := by
  decide +kernel

end Request

/-- The options with one more request granted. -/
def Options.grant (options : Options) : Request → Options
  | .mode mode => { options with mode := some mode }
  | .listing => { options with listing := true }
  | .rules path => { options with rules := some path }
  | .file path => { options with file := some path }
  | .help | .version | .wrong _ => options

namespace Invocation

variable (options : Options) {argument : Text} (rest : List Text)

theorem read_cons (h : argument ≠ "--rules".toList) :
    read options (argument :: rest) =
      (Request.ofArgument argument).answer?.getD
        (read (options.grant (Request.ofArgument argument)) rest) := by
  rw [read.eq_def]
  -- without `--rules` the same tests are left on both sides, in the same order
  simp only [if_neg h]
  unfold Request.ofArgument
  split_ifs <;> rfl

theorem read_rules_cons (path : Path) :
    read options ("--rules".toList :: path :: rest)
      = read (options.grant (.rules path)) rest := by
  rfl

/-- **The first request that ends the reading is answered.** If there is none, all are granted. -/
theorem read_eq (arguments : List Text) :
    read options arguments =
      ((Request.ofArguments arguments).findSome? Request.answer?).getD
        (.ok (highlight ((Request.ofArguments arguments).foldl Options.grant options))) := by
  fun_induction Request.ofArguments arguments generalizing options with
  | case1 => rfl
  | case2 => rfl
  | case3 path rest ih =>
      rw [read_rules_cons, ih]
      rfl
  | case4 argument rest h ih =>
      rw [read_cons options rest h, ih, List.findSome?_cons]
      cases (Request.ofArgument argument).answer? <;> rfl

end Invocation

theorem Options.file_grant (options : Options) (request : Request) :
    (options.grant request).file = request.file?.or options.file := by
  cases request <;> rfl

theorem Options.rules_grant (options : Options) (request : Request) :
    (options.grant request).rules = request.rules?.or options.rules := by
  cases request <;> rfl

/-- Of several requests for one thing the last one counts. -/
theorem Options.foldl_grant {α : Type} (field : Options → Option α) (asked? : Request → Option α)
    (h : ∀ options request, field (grant options request) = (asked? request).or (field options))
    (requests : List Request) (options : Options) :
    field (requests.foldl grant options)
      = (requests.filterMap asked?).getLast?.or (field options) := by
  induction requests generalizing options with
  | nil => rfl
  | cons request rest ih =>
      rw [List.foldl_cons, ih, h]
      -- what this request asks for counts only if no later one asks for the same
      cases hasked : asked? request with
      | none => rw [List.filterMap_cons_none hasked, Option.none_or]
      | some value =>
          rw [List.filterMap_cons_some hasked, List.getLast?_cons]
          cases (rest.filterMap asked?).getLast? <;> rfl

/-- Arguments that nothing ends name the last file and the last rule file. -/
theorem Invocation.exists_options (arguments : List Text)
    (h : Request.firstAnswer? arguments = none) :
    ∃ options, ofArguments arguments = .ok (highlight options) ∧
      options.file = Request.lastFile? arguments ∧ options.rules = Request.lastRules? arguments := by
  refine ⟨(Request.ofArguments arguments).foldl Options.grant {}, ?_, ?_, ?_⟩
  · rw [Request.firstAnswer?] at h
    rw [ofArguments, read_eq, h, Option.getD_none]
  · rw [Options.foldl_grant Options.file Request.file? Options.file_grant, Request.lastFile?,
      Option.or_none]
  · rw [Options.foldl_grant Options.rules Request.rules? Options.rules_grant, Request.lastRules?,
      Option.or_none]

theorem Invocation.ofArguments_of_firstAnswer? {arguments : List Text}
    {answer : Except Error Invocation} (h : Request.firstAnswer? arguments = some answer) :
    ofArguments arguments = answer := by
  rw [Request.firstAnswer?] at h
  rw [ofArguments, read_eq, h, Option.getD_some]

end Highlighter
