/-
# What the command line prints

The help text, and how the program ends when it does not run: with the help on
the standard output, or with a complaint after the usage on the standard error
output.
-/

import SensorLink.CommandLine.Parse
import SensorLink.Text.Lines

namespace SensorLink.CommandLine

/-- How the program is called. -/
def usage : String :=
  "\n".intercalate [
    "usage: envsense [-h] [--address ADDRESS] [--address-type \x7bpublic,random\x7d]",
    "                [--security \x7blow,medium,high\x7d] [--mode \x7bnotify,poll\x7d]",
    "                [--poll-interval SECONDS] [--reconnect-delay SECONDS]",
    "                [--discovery-timeout SECONDS] [--host HTTP_HOST]",
    "                [--port HTTP_PORT] [--no-web] [-v | -q]"] ++ "\n"

/-- The help text. -/
def help : String :=
  usage ++ "\n".intercalate [
    "",
    "Read temperature, pressure and humidity from a BLE Environmental Sensing",
    "peripheral.",
    "",
    "options:",
    "  -h, --help            show this help message and exit",
    "  --address ADDRESS     Peripheral address (default: $ENVSENSE_ADDRESS).",
    "  --address-type \x7bpublic,random\x7d",
    "  --security \x7blow,medium,high\x7d",
    "  --mode \x7bnotify,poll\x7d  How readings are fetched: subscribe to notifications",
    "                        or poll.",
    "  --poll-interval SECONDS",
    "  --reconnect-delay SECONDS",
    "  --discovery-timeout SECONDS",
    "                        Drop a connection whose service discovery has not",
    "                        finished in time.",
    "  --host HTTP_HOST      HTTP bind address.",
    "  --port HTTP_PORT      HTTP port.",
    "  --no-web              Only run the BLE session and log readings.",
    "  -v, --verbose",
    "  -q, --quiet"] ++ "\n"

/-- How the program ends without running. -/
structure Exit where
  code : Nat
  stdout : String
  stderr : String

/-- The last line on the standard error output, if there is any. -/
def Exit.lastLine? (e : Exit) : Option String :=
  (Text.linesOf e.stderr).getLast?

/-- The end that a stop brings about: a complaint, or, if there is none, the help text. -/
def Stop.exit (stop : Stop) : Exit :=
  match stop.complaint? with
  | none => ⟨0, help, ""⟩
  | some complaint => ⟨2, "", usage ++ "envsense: error: " ++ complaint ++ "\n"⟩

end SensorLink.CommandLine
