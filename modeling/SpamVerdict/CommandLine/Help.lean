import SpamVerdict.CommandLine.Arguments
set_option autoImplicit false

/-!
# Help (SPEC_FULL §10)

The texts that explain the program and its commands.  The commands are those of SPEC_FULL §10, and
the files that are named as the usual places of the settings are those of §13.
-/

namespace SpamVerdict.CommandLine

/-- What a command does, in one line. -/
def about : Topic → String
  | .program => "Spam decisions for inbound mail"
  | .serve => "Run the HTTP API (default)"
  | .check => "Check one message given as ticket vars JSON and print the decision"
  | .spf => "Evaluate SPF for a domain and sending IP and print the trace"
  | .help => "Print this message or the help of the given subcommand(s)"

/-- How a command is called. -/
def usage : Topic → String
  | .program => "spamblock [OPTIONS] [COMMAND]"
  | .serve => "spamblock serve [OPTIONS]"
  | .check => "spamblock check [OPTIONS] <FILE>"
  | .spf => "spamblock spf [OPTIONS] <DOMAIN> <IP>"
  | .help => "spamblock help [COMMAND]..."

/-- The commands and what they do. -/
def commandLines : List String :=
  "Commands:" :: [("serve", Topic.serve), ("check", .check), ("spf", .spf), ("help", .help)].map
    fun (name, topic) => "  " ++ name.pushn ' ' (7 - name.length) ++ about topic

/-- The operands of a command. -/
def operandLines : Topic → List String
  | .check => ["Arguments:",
      "  <FILE>  JSON file with mid, email, subject, header, message; \x60-\x60 for stdin"]
  | .spf => ["Arguments:", "  <DOMAIN>  ", "  <IP>      "]
  | .help => ["Arguments:", "  [COMMAND]...  Print help for the subcommand(s)"]
  | _ => []

/-- The options of a command. -/
def optionLines (topic : Topic) : List String := [
  "Options:",
  "  -c, --config <CONFIG>  Configuration file (defaults to ./spamblock.toml, then " ++
    "/etc/spamblock/config.toml)",
  "  -h, --help             Print help"] ++
    if topic = .program then ["  -V, --version          Print version"] else []

/-- The help on a topic: paragraphs with a blank line between them. -/
def help (topic : Topic) : String :=
  let paragraphs := [[about topic], ["Usage: " ++ usage topic],
    if topic = .program then commandLines else [],
    operandLines topic,
    if topic = .help then [] else optionLines topic]
  "\n".intercalate ((paragraphs.filter (!·.isEmpty)).map fun ls =>
    String.join (ls.map (· ++ "\n")))

end SpamVerdict.CommandLine
