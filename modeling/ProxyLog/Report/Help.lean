/-!
# Help on the command

* `usageLine program`: how the command is used.
* `helpLines program`: what is said when the command is asked about.
-/

set_option autoImplicit false

namespace ProxyLog.Report

/-- How the command is used. -/
def usageLine (program : String) : String := s!"usage: {program} [-h] [--config CONFIG] [files ...]"

/-- What is said when the command is asked about. -/
def helpLines (program : String) : List String := [
  usageLine program,
  "",
  "Varnishlog Parsing Demo",
  "",
  "positional arguments:",
  "  files                 varnishlog -g raw dumps (.log or .gz)",
  "",
  "options:",
  "  -h, --help            show this help message and exit",
  "  --config CONFIG, -c CONFIG",
  "                        Path to a YAML config file"]

end ProxyLog.Report
