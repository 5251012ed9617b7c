/-!
# `SegmentSync.Invocation.Grammar` — options among the words of a command line

A word that begins with two hyphens is the long name of an option, perhaps with its value behind an equals
sign. A word that begins with one hyphen is a row of short names, the last of which may have its value
attached. Other words are operands. No option may be given twice.

## Contents
- **Options.** `OptionRule`: names, and what the option does to the settings that are collected.
- **Words.** `OptionRule.scan` goes through the words up to the first operand.
-/

namespace SegmentSync.Invocation

/-! ## Options -/

/-- Why a command line is not carried out. -/
inductive Refusal where
  /-- It makes no sense. -/
  | usage
  /-- It asks for help. -/
  | help
  /-- It asks for the version. -/
  | version
  deriving DecidableEq, Repr

/-- What an option is for. -/
inductive Purpose (σ : Type) where
  | flag (change : σ → σ)
  /-- An option with a value, which may be unfit. -/
  | value (change : String → σ → Option σ)
  | refusal (refusal : Refusal)

/-- An option. -/
structure OptionRule (σ : Type) where
  long : String
  short : Option Char := none
  purpose : Purpose σ

/-- An option without a value. -/
def flagRule {σ : Type} (long : String) (short : Option Char) (change : σ → σ) : OptionRule σ :=
  ⟨long, short, .flag change⟩

/-- An option with a value. -/
def valueRule {σ : Type} (long : String) (short : Option Char) (change : String → σ → Option σ) :
    OptionRule σ := ⟨long, short, .value change⟩

/-- The option that asks for help. -/
def helpRule {σ : Type} : OptionRule σ := ⟨"help", some 'h', .refusal .help⟩

/-- The option that asks for the version. -/
def versionRule {σ : Type} : OptionRule σ := ⟨"version", some 'V', .refusal .version⟩

namespace OptionRule

variable {σ τ : Type}

/-- An option for a part of the settings, as an option for the whole. -/
def focus (part : τ → σ) (update : τ → σ → τ) (rule : OptionRule σ) : OptionRule τ where
  long := rule.long
  short := rule.short
  purpose := match rule.purpose with
    | .flag change => .flag fun t => update t (change (part t))
    | .value change => .value fun value t => (change value (part t)).map (update t)
    | .refusal refusal => .refusal refusal

/-! ## Words -/

/-- The settings so far, and the long names of the options that gave them. -/
structure Collected (σ : Type) where
  settings : σ
  given : List String := []

/-- Notes that an option is given, for the first time. -/
def note (rule : OptionRule σ) (collected : Collected σ) : Except Refusal (Collected σ) :=
  if rule.long ∈ collected.given then .error .usage
  else .ok { collected with given := rule.long :: collected.given }

/-- Gives an option that has no value. -/
def give (rule : OptionRule σ) (change : σ → σ) (collected : Collected σ) :
    Except Refusal (Collected σ) := do
  let collected ← note rule collected
  return { collected with settings := change collected.settings }

/-- Gives an option with its value. -/
def giveValue (rule : OptionRule σ) (change : String → σ → Option σ) (value : String)
    (collected : Collected σ) : Except Refusal (Collected σ) := do
  let collected ← note rule collected
  match change value collected.settings with
  | some settings => return { collected with settings }
  | none => throw .usage

/-- Gives an option whose value is the next word, which must not look like an option. -/
def giveNext (rule : OptionRule σ) (change : String → σ → Option σ) (collected : Collected σ) :
    List String → Except Refusal (Collected σ × List String)
  | [] => .error .usage
  | word :: rest =>
    -- A hyphen alone is an ordinary word.
    if word.toList.head? = some '-' && word ≠ "-" then .error .usage
    else (giveValue rule change word collected).map (·, rest)

/-- Goes through a row of short names. -/
def scanRow (rules : List (OptionRule σ)) (rest : List String) :
    List Char → Collected σ → Except Refusal (Collected σ × List String)
  | [], collected => .ok (collected, rest)
  | name :: names, collected =>
    match rules.find? fun rule => rule.short = some name with
    | none => .error .usage
    | some rule =>
      match rule.purpose with
      | .refusal refusal => .error refusal
      | .flag change => (give rule change collected).bind (scanRow rules rest names)
      | .value change =>
        match names with
        | [] => giveNext rule change collected rest
        | '=' :: value => (giveValue rule change (String.ofList value) collected).map (·, rest)
        | value => (giveValue rule change (String.ofList value) collected).map (·, rest)

/-- Takes a long name, with or without a value. -/
def scanLong (rules : List (OptionRule σ)) (rest : List String) (word : List Char)
    (collected : Collected σ) : Except Refusal (Collected σ × List String) :=
  let name := String.ofList (word.takeWhile (· ≠ '='))
  let value := word.dropWhile (· ≠ '=')
  match rules.find? fun rule => rule.long = name with
  | none => .error .usage
  | some rule =>
    match rule.purpose, value with
    | .refusal refusal, [] => .error refusal
    | .flag change, [] => (give rule change collected).map (·, rest)
    | .value change, [] => giveNext rule change collected rest
    | .value change, _ :: value => (giveValue rule change (String.ofList value) collected).map (·, rest)
    | _, _ => .error .usage

/-- Goes through the words up to the first operand, which remains with the words behind it. Behind two
    hyphens alone there are operands only. -/
def scan (rules : List (OptionRule σ)) :
    (fuel : Nat) → List String → Collected σ → Except Refusal (σ × List String)
  | 0, rest, collected => .ok (collected.settings, rest)
  | _, [], collected => .ok (collected.settings, [])
  | fuel + 1, word :: rest, collected =>
    match word.toList with
    | ['-', '-'] => if rest.isEmpty then .ok (collected.settings, []) else .error .usage
    | '-' :: '-' :: long =>
      (scanLong rules rest long collected).bind fun (collected, rest) => scan rules fuel rest collected
    | '-' :: name :: names =>
      (scanRow rules rest (name :: names) collected).bind fun (collected, rest) =>
        scan rules fuel rest collected
    | _ => .ok (collected.settings, word :: rest)

end OptionRule

end SegmentSync.Invocation
