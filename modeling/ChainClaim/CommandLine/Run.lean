import ChainClaim.Codec
import ChainClaim.Summary

/-!
# Running a command

From arguments and standard input to what is printed, or to the report of a failure: what was being
done, and beneath it what went wrong, each cause on a line of its own.
-/

/-!
## Arguments

A command with its operands, and three options that may stand before or after the name of the
command: the network, the largest size of a claim, and whether to say more. Before and after, each
option may be given once; given in both places, the one after the name counts. Two hyphens end the
options, so that operands may begin with one; a lone hyphen is an operand. Before the name, the
version may be asked for instead of a command; whatever follows is not looked at then.
-/

namespace ChainClaim.CommandLine

inductive Command where
  | decode (input : String)
  | strip (input : String)
  | claimId (txid : String) (index : UInt32)
  | pubkey (der : String)
deriving DecidableEq

structure Options where
  network : Option Network := none
  maxSize : Option Nat := none
  verbose : Bool := false

/-- The options of two places, of which the second counts more. -/
def Options.overriddenBy (outer inner : Options) : Options where
  network := inner.network.or outer.network
  maxSize := inner.maxSize.or outer.maxSize
  verbose := outer.verbose || inner.verbose

def Options.codec (options : Options) : Codec where
  network := options.network.getD .mainnet
  maxSize := options.maxSize.getD chainMaxSize

/-! ### Numbers -/

def decimal? (digits : List Char) : Option Nat :=
  if digits.isEmpty || !digits.all (fun c => '0' ≤ c && c ≤ '9') then none
  else some (digits.foldl (fun n c => n * 10 + (c.toNat - 48)) 0)

/-- A natural number below `bound`, possibly with a plus sign. -/
def natural? (bound : Nat) (text : String) : Option Nat := do
  let n ←
    match text.toList with
    | '+' :: digits => decimal? digits
    | digits => decimal? digits
  if n < bound then some n else none

/-- The index of an output. Zero may have either sign. -/
def outputIndex? (text : String) : Option UInt32 :=
  match text.toList with
  | '-' :: digits => do if (← decimal? digits) = 0 then some 0 else none
  | _ => (natural? UInt32.size text).map UInt32.ofNat

/-! ### Options -/

/-- Notes the network, which is given at most once. -/
def Options.setNetwork (text : String) (options : Options) : Option Options := do
  if options.network.isSome then none
  let network ← Network.ofUserText? text
  return { options with network := some network }

/-- Notes the size limit, which is given at most once. -/
def Options.setMaxSize (text : String) (options : Options) : Option Options := do
  if options.maxSize.isSome then none
  let maxSize ← natural? UInt64.size text
  return { options with maxSize := some maxSize }

def Options.setVerbose (options : Options) : Option Options :=
  if options.verbose then none else some { options with verbose := true }

inductive Shape where
  | escape
  /-- Options that are complete in themselves. -/
  | complete (change : Options → Option Options)
  /-- An option whose value is the next argument. -/
  | awaiting (change : String → Options → Option Options)
  /-- The question for the version, after options that are complete in themselves. -/
  | version (change : Options → Option Options)
  | operand
  | unknown

/-- A long option by its name, which an equals sign and a value may follow. -/
def longShape (body : List Char) : Shape :=
  let name := String.ofList (body.takeWhile (· ≠ '='))
  let value : Option String :=
    match body.dropWhile (· ≠ '=') with
    | [] => none
    | _ :: rest => some (String.ofList rest)
  match name, value with
  | "network", some text => .complete (·.setNetwork text)
  | "network", none => .awaiting Options.setNetwork
  | "max-size", some text => .complete (·.setMaxSize text)
  | "max-size", none => .awaiting Options.setMaxSize
  | "verbose", none => .complete Options.setVerbose
  | "version", none => .version some
  | _, _ => .unknown

/-- Short options behind one hyphen. What follows the letter of the network is its value, and what
follows the letter of the version is not looked at. -/
def shortShape (before : Options → Option Options) : List Char → Shape
  | [] => .complete before
  | 'v' :: rest => shortShape (fun options => (before options).bind Options.setVerbose) rest
  | 'V' :: _ => .version before
  | ['n'] => .awaiting fun text options => (before options).bind (·.setNetwork text)
  | 'n' :: '=' :: rest =>
    .complete fun options => (before options).bind (·.setNetwork (String.ofList rest))
  | 'n' :: rest =>
    .complete fun options => (before options).bind (·.setNetwork (String.ofList rest))
  | _ => .unknown

def shapeOf (argument : String) : Shape :=
  match argument.toList with
  | ['-', '-'] => .escape
  | '-' :: '-' :: body => longShape body
  | ['-'] => .operand
  | '-' :: letters => shortShape some letters
  | _ => .operand

/-! ### The two places -/

/-- What the arguments come to before the operands: the version is asked for, or options and the
name of a command are given, and what follows it. -/
inductive Opening where
  | version
  | named (options : Options) (name : String) (rest : List String)

def readOuter (options : Options) : List String → Option Opening
  | [] => none
  | argument :: rest =>
    match shapeOf argument with
    | .operand => some (.named options argument rest)
    | .complete change => (change options).bind fun options => readOuter options rest
    | .version change => (change options).map fun _ => .version
    -- The next argument is the value, whatever it looks like.
    | .awaiting change =>
      match rest with
      | [] => none
      | value :: rest => (change value options).bind fun options => readOuter options rest
    | .escape => none
    | .unknown => none

def readInner (options : Options) : List String → Option (Options × List String)
  | [] => some (options, [])
  | argument :: rest =>
    match shapeOf argument with
    | .operand =>
      (readInner options rest).map fun (options, operands) => (options, argument :: operands)
    | .complete change => (change options).bind fun options => readInner options rest
    | .awaiting change =>
      match rest with
      | [] => none
      | value :: rest => (change value options).bind fun options => readInner options rest
    -- All that follows are operands.
    | .escape => some (options, rest)
    | .version _ => none
    | .unknown => none

def command? : String → List String → Option Command
  | "decode", [input] => some (.decode input)
  | "strip", [input] => some (.strip input)
  | "claim-id", [txid, index] => (outputIndex? index).map (.claimId txid)
  | "pubkey", [der] => some (.pubkey der)
  | _, _ => none

inductive Request where
  | version
  | command (options : Options) (command : Command)

/-- What the arguments ask for; none if they are not understood. -/
def parse (arguments : List String) : Option Request := do
  match ← readOuter {} arguments with
  | .version => return .version
  | .named outer name rest =>
    let (inner, operands) ← readInner {} rest
    let command ← command? name operands
    return .command (outer.overriddenBy inner) command

/-! ## Outcomes and reports -/

inductive Outcome where
  | usage
  | printed (text : String)
  | failed (report : String)
deriving DecidableEq

def Outcome.exitCode : Outcome → Nat
  | .usage => 2
  | .printed _ => 0
  | .failed _ => 1

/-- Causes with a number in front of each, for where there are several. -/
def numbered (causes : List String) : String :=
  String.join (causes.zipIdx.map fun (cause, i) => "    " ++ toString i ++ ": " ++ cause ++ "\n")

/-- A report: what failed, and the causes beneath it. -/
def report (top : String) (causes : List String) : String :=
  "Error: " ++ top ++ "\n" ++
    match causes with
    | [] => ""
    | [cause] => "\nCaused by:\n    " ++ cause ++ "\n"
    | causes => "\nCaused by:\n" ++ numbered causes

def failedWhile (doing : String) (fault : Codec.Fault) : Outcome :=
  .failed (report doing (fault.message :: fault.causes))

def failed (fault : Codec.Fault) : Outcome :=
  .failed (report fault.message fault.causes)

def versionLine : String := "claimwire 0.1.0"

def printLine (text : String) : Outcome := .printed (text ++ "\n")

/-- The operand, or standard input where the operand is a lone hyphen. -/
def operandOrInput (operand input : String) : String :=
  if operand = "-" then input else operand

def perform (codec : Codec) (input : String) : Command → Outcome
  | .decode operand =>
    match codec.readHex (operandOrInput operand input) with
    | .error fault => failedWhile "decoding claim" fault
    | .ok record => printLine (Summary.ofRecord codec record).print
  | .strip operand =>
    match Hex.decode (Text.trimBlank (operandOrInput operand input)) with
    | .error fault => .failed (report "claim value is not hex" [fault.message])
    | .ok bytes =>
      match codec.strip bytes with
      | .error fault => failedWhile "stripping signature" fault
      | .ok unsigned => printLine (Hex.encode unsigned)
  | .claimId txid index =>
    match Codec.claimId txid index with
    | .error fault => failed fault
    | .ok id => printLine id.toHex
  | .pubkey operand =>
    match Hex.decode (Text.trimBlank operand) with
    | .error fault => .failed (report "public key is not hex" [fault.message])
    | .ok der =>
      match Summary.ofKey codec der with
      | .error e => failed (.claim e)
      | .ok summary => printLine summary.print

def run (arguments : List String) (input : String) : Outcome :=
  match parse arguments with
  | none => .usage
  | some .version => printLine versionLine
  | some (.command options command) => perform options.codec input command

def wantsInput (arguments : List String) : Bool :=
  match parse arguments with
  | some (.command _ (.decode operand)) | some (.command _ (.strip operand)) => operand = "-"
  | _ => false

end ChainClaim.CommandLine
