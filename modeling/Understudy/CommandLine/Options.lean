import Understudy.Text.Cut
import Understudy.Text.Numeral

/-! Reading the words of a command line.

Options may be abbreviated while they stay unambiguous, carry their value after an equals sign or
directly after a single letter, and share one dash. After a double dash no word is an option. A
command has one operand: the words before the next option, or all that follows.
-/

set_option autoImplicit false

namespace Understudy.CommandLine

inductive OptionKind where
  | flag
  | help
  | value (choices : List String)
  deriving DecidableEq, Repr

structure OptionRule (κ : Type) where
  key : κ
  spellings : List String
  kind : OptionKind
  deriving DecidableEq, Repr

inductive OperandKind where
  | several
  | everything
  deriving DecidableEq, Repr

structure Grammar (κ : Type) where
  options : List (OptionRule κ)
  rivals : List κ
  operand : OperandKind
  deriving DecidableEq, Repr

inductive UsageFault where
  | ambiguous (word : String) (candidates : List String)
  | ignoredValue (option value : String)
  | missingValue (option : String)
  | rival (option other : String)
  | badChoice (argument value : String) (choices : List String)
  | required (argument : String)
  | unrecognized (words : List String)
  deriving DecidableEq, Repr

inductive Halt where
  | usage (fault : UsageFault)
  | help
  deriving DecidableEq, Repr

variable {κ : Type}

namespace OptionRule

def name (o : OptionRule κ) : String := "/".intercalate o.spellings

def takesValue (o : OptionRule κ) : Bool :=
  match o.kind with
  | .value _ => true
  | .flag | .help => false

end OptionRule

inductive Mark (κ : Type) where
  | argument
  | dashes
  | option (rule : OptionRule κ) (spelling : String) (attached : Option (List Char))
  | unknownOption
  deriving DecidableEq, Repr

def Mark.isOption : Mark κ → Bool
  | .option .. | .unknownOption => true
  | .argument | .dashes => false

def Mark.isArgument : Mark κ → Bool
  | .argument => true
  | _ => false

def isNegativeNumber (word : List Char) : Bool :=
  let number (digits : List Char) : Bool := !digits.isEmpty && digits.all Text.isDecimal
  match word with
  | '-' :: body =>
    -- a line end after the last digit is let pass
    let body := if body.getLast? == some '\n' then body.dropLast else body
    number body ||
      (match Text.cutFirst ['.'] body with
        | some (whole, fraction) => whole.all Text.isDecimal && number fraction
        | none => false)
  | _ => false

namespace Grammar

def spelled (g : Grammar κ) : List (String × OptionRule κ) :=
  g.options.flatMap fun o => o.spellings.map fun s => (s, o)

def find? (g : Grammar κ) (spelling : String) : Option (OptionRule κ) :=
  (g.spelled.find? (·.1 == spelling)).map (·.2)

/-- The options that a word can stand for: by the start of a long spelling, or by a single letter
with the value behind it. -/
def candidates (g : Grammar κ) (word : List Char) :
    List (OptionRule κ × String × Option (List Char)) :=
  match word with
  | '-' :: '-' :: _ =>
    let starting (lead : List Char) (attached : Option (List Char)) :=
      g.spelled.filterMap fun (s, o) =>
        if lead.isPrefixOf s.toList then some (o, s, attached) else none
    match Text.cutFirst ['='] word with
    | some (before, after) => starting before (some after)
    | none => starting word none
  | _ =>
    g.spelled.filterMap fun (s, o) =>
      if s.toList = word.take 2 then some (o, s, some (word.drop 2))
      else if word.isPrefixOf s.toList then some (o, s, none)
      else none

/-- The exact spelling of an option before the first equals sign. -/
def beforeEquals? (g : Grammar κ) (word : List Char) : Option (Mark κ) :=
  match Text.cutFirst ['='] word with
  | some (before, after) =>
    let spelling := String.ofList before
    (g.find? spelling).map fun o => .option o spelling (some after)
  | none => none

def markInexact (g : Grammar κ) (word : String) : Except Halt (Mark κ) :=
  match g.candidates word.toList with
  | [(o, spelling, attached)] => .ok (.option o spelling attached)
  | [] =>
    .ok (if isNegativeNumber word.toList || word.toList.contains ' ' then .argument
      else .unknownOption)
  | many => .error (.usage (.ambiguous word (many.map (·.2.1))))

def mark (g : Grammar κ) (word : String) : Except Halt (Mark κ) :=
  match word.toList with
  | '-' :: rest =>
    match g.find? word with
    | some o => .ok (.option o word none)
    | none =>
      if rest.isEmpty then .ok .argument
      else
        match g.beforeEquals? word.toList with
        | some found => .ok found
        | none => g.markInexact word
  | _ => .ok .argument

def markAll (g : Grammar κ) : List String → Except Halt (List (String × Mark κ))
  | [] => .ok []
  | word :: rest =>
    if word = "--" then .ok ((word, .dashes) :: rest.map fun w => (w, .argument))
    else do
      let m ← g.mark word
      return (word, m) :: (← g.markAll rest)

end Grammar

/-- An option with its value. A flag has none, and neither has an option whose value is a double
dash. -/
structure Given (κ : Type) where
  rule : OptionRule κ
  value : Option String
  deriving DecidableEq, Repr

def Given.valueOf (text : String) : Option String := if text = "--" then none else some text

/-- The options of one word, and whether the next word is the value of the last. -/
structure Cluster (κ : Type) where
  given : List (Given κ)
  usesNext : Bool
  deriving DecidableEq, Repr

namespace Grammar

def alone (rule : OptionRule κ) (next : Option String) : Except Halt (Cluster κ) :=
  if rule.takesValue then
    match next with
    | some value => .ok ⟨[⟨rule, Given.valueOf value⟩], true⟩
    | none => .error (.usage (.missingValue rule.name))
  else .ok ⟨[⟨rule, none⟩], false⟩

/-- Options that share one word. What stands behind a single-letter flag starts with the next
letter, and has to be that of an option. -/
def cluster (g : Grammar κ) (next : Option String) (rule : OptionRule κ) (isLong : Bool) :
    List Char → Except Halt (Cluster κ)
  | [] =>
    if rule.takesValue then .ok ⟨[⟨rule, some ""⟩], false⟩
    else .error (.usage (.ignoredValue rule.name ""))
  | c :: rest =>
    let text := String.ofList (c :: rest)
    if rule.takesValue then .ok ⟨[⟨rule, Given.valueOf text⟩], false⟩
    else if isLong then .error (.usage (.ignoredValue rule.name text))
    else
      match g.find? (String.ofList ['-', c]) with
      | none => .error (.usage (.ignoredValue rule.name text))
      | some follower => do
        let tail ←
          match rest with
          | [] => alone follower next
          | d :: value => g.cluster next follower false (d :: value)
        return { tail with given := ⟨rule, none⟩ :: tail.given }

end Grammar

structure Reading (κ : Type) where
  given : List (Given κ)
  operand : Option (List String)
  extras : List String
  deriving DecidableEq, Repr

namespace Reading

def empty : Reading κ := ⟨[], none, []⟩

def take [DecidableEq κ] (g : Grammar κ) (r : Reading κ) (new : Given κ) :
    Except Halt (Reading κ) :=
  let rival := r.given.find? fun old =>
    old.rule.key ≠ new.rule.key && g.rivals.contains old.rule.key && g.rivals.contains new.rule.key
  match new.rule.kind, rival with
  | .help, _ => .error .help
  | .flag, some old => .error (.usage (.rival new.rule.name old.rule.name))
  | .flag, none => .ok { r with given := r.given ++ [new] }
  | .value choices, _ =>
    match new.value with
    | none => .ok { r with given := r.given ++ [new] }
    | some value =>
      if choices.isEmpty || choices.contains value then .ok { r with given := r.given ++ [new] }
      else .error (.usage (.badChoice new.rule.name value choices))

def nextArgument : List (String × Mark κ) → Option String
  | (word, .argument) :: _ => some word
  | _ => none

def takeArguments (g : Grammar κ) (r : Reading κ) (run rest : List (String × Mark κ)) :
    Reading κ × List (String × Mark κ) :=
  -- a double dash alone is no operand
  if r.operand.isSome || !run.any (·.2.isArgument) then
    ({ r with extras := r.extras ++ run.map (·.1) }, rest)
  else
    match g.operand with
    | .several =>
      ({ r with operand := some ((run.filter (·.2.isArgument)).map (·.1)) }, rest)
    | .everything => ({ r with operand := some ((run ++ rest).map (·.1)) }, [])

theorem length_takeArguments_le (g : Grammar κ) (r : Reading κ)
    (run rest : List (String × Mark κ)) :
    (takeArguments g r run rest).2.length ≤ rest.length := by
  unfold takeArguments
  split
  · exact Nat.le_refl _
  · split
    · exact Nat.le_refl _
    · exact Nat.zero_le _

def readFrom [DecidableEq κ] (g : Grammar κ) (r : Reading κ) :
    List (String × Mark κ) → Except Halt (Reading κ)
  | [] => .ok r
  | (word, .unknownOption) :: rest => readFrom g { r with extras := r.extras ++ [word] } rest
  | (_, .option rule spelling attached) :: rest => do
    let next := nextArgument rest
    -- a whole cluster is understood before any of its options is taken
    let c ←
      match attached with
      | none => Grammar.alone rule next
      | some text => g.cluster next rule (spelling.startsWith "--") text
    let r ← c.given.foldlM (take g) r
    if c.usesNext then readFrom g r rest.tail else readFrom g r rest
  | head :: tail =>
    let run := head :: tail.takeWhile (!·.2.isOption)
    let step := takeArguments g r run (tail.dropWhile (!·.2.isOption))
    readFrom g step.1 step.2
termination_by words => words.length
decreasing_by
  all_goals simp only [List.length_cons, List.length_tail]
  · omega
  · omega
  · omega
  · have dropped := (List.dropWhile_sublist (l := tail) (!·.2.isOption)).length_le
    have taken := length_takeArguments_le g r (head :: tail.takeWhile (!·.2.isOption))
      (tail.dropWhile (!·.2.isOption))
    omega

def ofWords [DecidableEq κ] (g : Grammar κ) (words : List String) : Except Halt (Reading κ) := do
  readFrom g empty (← g.markAll words)

def values [DecidableEq κ] (r : Reading κ) (key : κ) : List (Option String) :=
  (r.given.filter (·.rule.key == key)).map (·.value)

def has [DecidableEq κ] (r : Reading κ) (key : κ) : Bool := r.given.any (·.rule.key == key)

end Reading
end Understudy.CommandLine
