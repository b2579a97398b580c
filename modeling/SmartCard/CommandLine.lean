import SmartCard.Campaign
import SmartCard.Text.Lines

/-!
# The command line

`CommandLine.run` is the whole program but for its input, its output and its random numbers: from
the arguments, a way to read files and the draws of each campaign it makes the texts of both outputs
and the exit code. It replays scripts of commands, walks through a demonstration, and runs tear
campaigns.
-/

set_option autoImplicit false
set_option relaxedAutoImplicit false

namespace SmartCard.CommandLine

/-- What a run leaves behind. Each text of the two outputs is printed with a line feed after it. -/
structure Outcome where
  code : Nat := 0
  output : List String := []
  errors : List String := []
  deriving DecidableEq, Repr

/-- The lines that some printed texts make. A text with line feeds in it makes several. -/
def printed (texts : List String) : List String :=
  Text.lines (String.join (texts.map fun text ↦ text ++ "\n"))

/-- The cards of the command line report to nobody. -/
abbrev PlainCard : Type := Card Unit

/-- How to use the program. -/
def usage : List String :=
  ["Usage: jcre [command]",
    "Commands:",
    "  run <config.json> <script> - Install configured applets and replay a script of hex APDUs",
    "  demo                       - Hello-world and purse walkthrough on a default card",
    "  tear-test [rounds]         - Randomised tear campaign against the purse",
    "  (none)                     - Same as 'demo'",
    "Applet classes for config files: " ++ ", ".intercalate (Samples.catalog Unit).classes]

/-- The exit code of a run that breaks down. -/
def crashCode : Nat := 101

/-- A run that ends with an error. -/
def failure (code : Nat) (error : String) : Outcome :=
  { code := code, errors := [error] }

/-! ### Scripts -/

/-- The line that shows what a reset is answered with. -/
def atrLine (card : PlainCard) : String :=
  "ATR: " ++ Hex.encode card.atr

/-- What a line of a script asks for. -/
inductive Directive where
  | nothing
  | reset
  | transmit (raw : List UInt8)
  | unreadable (error : HexError)
  deriving DecidableEq, Repr

/-- Reads a line: blank lines and those that start with a number sign ask for nothing, the word
`reset` in any case for a reset, and digits with any blanks between them for a command. -/
def Directive.ofLine (line : String) : Directive :=
  let text := Text.trim line
  if text.isEmpty || text.toList.head? == some '#' then .nothing
  else if text.toList.map Char.toLower = "reset".toList then .reset
  else match Hex.decode (Text.unspaced text) with
    | .ok raw => .transmit raw
    | .error error => .unreadable error

/-- A run with lines shown before it. -/
def Outcome.behind (outcome : Outcome) (shown : List String) : Outcome :=
  { outcome with output := shown ++ outcome.output }

/-- Replays numbered lines. A line that cannot be read ends the run, and so does a command that
breaks the card down. -/
def replay (card : PlainCard) : List (String × Nat) → Outcome
  | [] => {}
  | (line, number) :: rest =>
    match Directive.ofLine line with
    | .nothing => replay card rest
    | .reset => (replay card.reset rest).behind [atrLine card]
    | .transmit raw =>
      match card.attempt? raw with
      | none => failure crashCode LayoutFault.tooLargeBlock.message
      | some (response, card) =>
        (replay card rest).behind ["=> " ++ Hex.encode raw, "<= " ++ Hex.encode response]
    | .unreadable error => failure 1 s!"line {number}: {error.message}"

/-- Builds the card of a configuration, installs its applets and replays a script. -/
def runScript (readFile : String → Except FileFault String) (configPath scriptPath : String) :
    Outcome :=
  let config : Except ConfigError Config := match readFile configPath with
    | .error fault => .error (ConfigError.unreadable configPath fault)
    | .ok text => Config.ofText text
  match config with
  | .error error => failure 1 error.message
  | .ok config =>
    match readFile scriptPath with
    | .error fault => failure 1 ("failed to read " ++ scriptPath ++ ": " ++ fault.message)
    | .ok script =>
      match Card.ofConfig config () with
      | .error error => failure 1 error.message
      | .ok card =>
        match card.installConfigured (Samples.catalog Unit) with
        | (.error error, _) => failure 1 ("install failed: " ++ error.message)
        | (.ok _, card) => (replay card ((Text.lines script).zipIdx 1)).behind [atrLine card]

/-! ### The demonstration -/

/-- A default card with the sample applets under their own identifiers. -/
def sampleCard : Except String PlainCard := do
  let card ← (Card.ofConfig {} ()).mapError ConfigError.message
  let install (card : PlainCard) (className : String) (aid : Aid) : Except String PlainCard :=
    match card.installClass (Samples.catalog Unit) className aid [] with
    | (.error error, _) => .error ("failed to install " ++ className ++ ": " ++ error.message)
    | (.ok _, card) => .ok card
  let card ← install card "hello" Samples.helloAid
  install card "purse" Samples.purseAid

/-- A step of the demonstration. -/
inductive Scene where
  | title (text : String)
  | exchange (label : String) (command : Command)
  | greeting (label : String) (command : Command)
  | armTear (writes : Nat)
  | disarmTear

/-- A label in its column. -/
def column (label : String) : String :=
  String.ofList (label.toList ++ List.replicate (24 - label.length) ' ')

/-- Plays one command and shows both directions. -/
def playExchange (card : PlainCard) (label : String) (command : Command) :
    List UInt8 × List String × PlainCard :=
  let (response, card) := card.transmit command.encode
  (response, [column label ++ " => " ++ Hex.encode command.encode,
    column "" ++ " <= " ++ Hex.encode response], card)

/-- Plays one step. -/
def Scene.play (card : PlainCard) : Scene → List String × PlainCard
  | .title text => (["--- " ++ text ++ " ---"], card)
  | .exchange label command => (playExchange card label command).2
  | .greeting label command =>
    let (response, lines, card) := playExchange card label command
    let text := (response.take (response.length - 2)).map fun byte ↦ Char.ofNat byte.toNat
    (lines ++ [column "" ++ "    " ++ Text.quoted (String.ofList text)], card)
  | .armTear writes => ([], card.armTear writes)
  | .disarmTear => ([], card.disarmTear)

/-- The steps of the demonstration. -/
def scenes : List Scene :=
  let credit (amount : Int16) := Command.withData Purse.creditInstruction (Purse.shortBytes amount)
  let debit (amount : Int16) := Command.withData Purse.debitInstruction (Purse.shortBytes amount)
  let balance := Command.plain Purse.balanceInstruction (some 2)
  let message := "Hello javacard world !".toList.map fun character ↦
    UInt8.ofNat character.toNat
  [.title "hello world",
    .exchange "select hello" (.select Samples.helloAid.bytes),
    .greeting "hello" (.plain Hello.greetInstruction none),
    .exchange "echo" (.withData Hello.echoInstruction message),
    .title "purse",
    .exchange "select purse" (.select Samples.purseAid.bytes),
    .exchange "credit 100" (credit 100),
    .exchange "debit 30" (debit 30),
    .exchange "balance" balance,
    .armTear 1,
    .exchange "credit 50 (torn)" (credit 50),
    .disarmTear,
    .exchange "balance" balance,
    .title "logical channels",
    .exchange "open channel" (.plain Command.manageChannelInstruction (some 1)),
    .exchange "select hello on 1" { Command.select Samples.helloAid.bytes with classByte := 1 }]

/-- Plays steps behind the lines already shown. -/
def playScenes (card : PlainCard) (shown : List String) : List Scene → List String
  | [] => shown
  | scene :: rest =>
    let (lines, card) := scene.play card
    playScenes card (shown ++ lines) rest

/-- The demonstration. -/
def runDemo : Outcome :=
  match sampleCard with
  | .error error => failure 1 error
  | .ok card => { output := playScenes card [atrLine card] scenes }

/-! ### Campaigns -/

/-- Why an argument is no number of rounds. -/
inductive CountError where
  | empty
  | invalidDigit
  | tooLarge
  deriving DecidableEq, Repr

/-- The wording of a refusal. -/
def CountError.message : CountError → String
  | .empty => "cannot parse integer from empty string"
  | .invalidDigit => "invalid digit found in string"
  | .tooLarge => "number too large to fit in target type"

/-- Reads digits behind a value, as far as 64 bits go. The first fault from the left counts. -/
def readDigits (value : Nat) : List Char → Except CountError Nat
  | [] => .ok value
  | character :: rest =>
    let next := value * 10 + (character.toNat - 48)
    if !character.isDigit then .error .invalidDigit
    else if 0x10000000000000000 ≤ next then .error .tooLarge
    else readDigits next rest

/-- Reads a number of rounds, which may have a plus sign in front. -/
def readCount (text : String) : Except CountError Nat :=
  match text.toList with
  | [] => .error .empty
  | ['+'] => .error .invalidDigit
  | '+' :: digits => readDigits 0 digits
  | digits => readDigits 0 digits

/-- A campaign against the sample purse. -/
def runCampaign (draws : CampaignPlan → Nat → Draw) (rounds : Nat) : Outcome :=
  match sampleCard with
  | .error error => failure 1 error
  | .ok card =>
    let plan : CampaignPlan := { rounds }
    match Campaign.run card Samples.purseAid (draws plan) plan.rounds with
    | none => failure crashCode "the balance left 16 bits"
    | some (report, _) =>
      let lines := [s!"rounds:    {report.rounds}",
        s!"committed: {report.committed}",
        s!"torn:      {report.torn}",
        s!"rejected:  {report.rejected}",
        s!"balance:   {report.observedBalance.toInt} (expected {report.expectedBalance.toInt})"]
      if report.isConsistent then { output := lines ++ ["Balance invariant held."] }
      else {
        code := 1
        output := lines
        errors := report.violations.map fun violation ↦ "VIOLATION: " ++ violation.message }

/-! ### The program -/

/-- Runs the program with its arguments. -/
def run (draws : CampaignPlan → Nat → Draw) (readFile : String → Except FileFault String) :
    List String → Outcome
  | [] => runDemo
  | "demo" :: _ => runDemo
  | "run" :: configPath :: scriptPath :: _ => runScript readFile configPath scriptPath
  | "run" :: _ => { code := 2, errors := usage }
  | ["tear-test"] => runCampaign draws ({} : CampaignPlan).rounds
  | "tear-test" :: count :: _ =>
    match readCount count with
    | .ok rounds => runCampaign draws rounds
    | .error error => failure 2 ("invalid round count: " ++ error.message)
  | _ => { errors := usage }

end SmartCard.CommandLine
